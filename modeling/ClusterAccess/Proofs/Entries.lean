import ClusterAccess.Registry.Basic

namespace ClusterAccess.Registry

theorem mem_managers {r : Registry} {m : Manager} :
    m ∈ r.managers ↔ ∃ cluster, (cluster, .ready m) ∈ r.entries := by
  simp only [managers, List.mem_filterMap]
  constructor
  · rintro ⟨⟨cluster, entry⟩, he, hm⟩
    cases entry with
    | ready m' =>
      cases hm
      exact ⟨cluster, he⟩
    | uninitialized => cases hm
    | failed cause => cases hm
  · rintro ⟨cluster, he⟩
    exact ⟨_, he, rfl⟩

theorem mem_of_lookup {cluster : String} {entry : ClusterEntry}
    {entries : List (String × ClusterEntry)} (h : entries.lookup cluster = some entry) :
    (cluster, entry) ∈ entries := by
  induction entries with
  | nil => cases h
  | cons e rest ih =>
    obtain ⟨c, x⟩ := e
    rw [List.lookup_cons] at h
    split at h
    · rename_i heq
      cases h
      simp [eq_of_beq heq]
    · exact List.mem_cons_of_mem _ (ih h)

/-- Only an entry that is ready answers with a manager. -/
theorem mem_of_settled {r : Registry} {cluster : String} {m : Manager}
    (h : r.settled? cluster = some (.ok m)) : m ∈ r.managers := by
  unfold settled? at h
  split at h
  · cases h
  · rename_i hentry
    cases h
    exact mem_managers.mpr ⟨cluster, mem_of_lookup hentry⟩
  · cases h
  · cases h

theorem entry_of_settled {r : Registry} {cluster : String} (h : r.settled? cluster = none) :
    r.entry? cluster = some .uninitialized := by
  unfold settled? at h
  split at h
  · cases h
  · cases h
  · cases h
  · assumption

theorem mem_setEntry_self (cluster : String) (entry : ClusterEntry)
    (entries : List (String × ClusterEntry)) :
    (cluster, entry) ∈ setEntry cluster entry entries := by
  induction entries with
  | nil => exact List.mem_singleton.mpr rfl
  | cons e rest ih =>
    obtain ⟨c, old⟩ := e
    unfold setEntry
    split
    · rename_i hc
      simp [hc]
    · exact List.mem_cons_of_mem _ ih

theorem of_mem_setEntry {cluster : String} {entry : ClusterEntry}
    {entries : List (String × ClusterEntry)} {e : String × ClusterEntry}
    (h : e ∈ setEntry cluster entry entries) : e.2 = entry ∨ e ∈ entries := by
  induction entries with
  | nil => exact .inl (List.mem_singleton.mp h ▸ rfl)
  | cons old rest ih =>
    unfold setEntry at h
    split at h
    · rcases List.mem_cons.mp h with rfl | h
      · exact .inl rfl
      · exact .inr (List.mem_cons_of_mem _ h)
    · rcases List.mem_cons.mp h with rfl | h
      · exact .inr List.mem_cons_self
      · exact (ih h).imp_right (List.mem_cons_of_mem _)

/-- Only the entry that the cluster was looked up by is replaced. -/
theorem mem_setEntry {cluster : String} {entry old : ClusterEntry}
    {entries : List (String × ClusterEntry)} (hold : entries.lookup cluster = some old)
    {e : String × ClusterEntry} (he : e ∈ entries) (hne : e.2 ≠ old) :
    e ∈ setEntry cluster entry entries := by
  induction entries with
  | nil => cases he
  | cons first rest ih =>
    obtain ⟨c, x⟩ := first
    simp only [List.lookup_cons] at hold
    unfold setEntry
    split
    · rename_i hc
      simp only [hc, beq_self_eq_true] at hold
      cases hold
      rcases List.mem_cons.mp he with rfl | he
      · exact absurd rfl hne
      · exact List.mem_cons_of_mem _ he
    · rename_i hc
      have hrest : rest.lookup cluster = some old := by
        simpa [beq_eq_false_iff_ne.mpr (Ne.symm hc)] using hold
      rcases List.mem_cons.mp he with rfl | he
      · exact List.mem_cons_self
      · exact List.mem_cons_of_mem _ (ih hrest he)

/-- What comes of a build that was needed is added to the managers that are ready. -/
theorem mem_managers_record {r : Registry} {cluster : String} (hs : r.settled? cluster = none)
    (built : Except Error Manager) (m : Manager) :
    m ∈ (r.record cluster built).managers ↔ m ∈ r.managers ∨ built = .ok m := by
  simp only [mem_managers]
  constructor
  · rintro ⟨c, hc⟩
    rcases of_mem_setEntry hc with heq | hc
    · cases built with
      | ok m' =>
        cases heq
        exact .inr rfl
      | error cause => cases heq
    · exact .inl ⟨c, hc⟩
  · rintro (⟨c, hc⟩ | rfl)
    · exact ⟨c, mem_setEntry (entry_of_settled hs) hc (by simp)⟩
    · exact ⟨cluster, mem_setEntry_self ..⟩

theorem lookup_setEntry (cluster c : String) (entry : ClusterEntry)
    (entries : List (String × ClusterEntry)) :
    (setEntry cluster entry entries).lookup c =
      if c = cluster then some entry else entries.lookup c := by
  induction entries with
  | nil =>
    by_cases hc : c = cluster
    · simp [setEntry, hc]
    · simp [setEntry, List.lookup_cons, hc, beq_eq_false_iff_ne.mpr hc]
  | cons first rest ih =>
    obtain ⟨d, old⟩ := first
    unfold setEntry
    by_cases hd : d = cluster
    · subst hd
      by_cases hc : c = d
      · simp [hc]
      · simp [List.lookup_cons, hc, beq_eq_false_iff_ne.mpr hc]
    · by_cases hc : c = d
      · subst hc
        simp [hd]
      · simp [List.lookup_cons, hd, ih, beq_eq_false_iff_ne.mpr hc]

/-- An entry that is there is replaced, so that no cluster is added. -/
theorem keys_setEntry {cluster : String} {entries : List (String × ClusterEntry)}
    (h : cluster ∈ entries.map Prod.fst) (entry : ClusterEntry) :
    (setEntry cluster entry entries).map Prod.fst = entries.map Prod.fst := by
  induction entries with
  | nil => cases h
  | cons first rest ih =>
    obtain ⟨d, old⟩ := first
    unfold setEntry
    split
    · rfl
    · rename_i hd
      rcases List.mem_cons.mp h with heq | hrest
      · exact absurd heq.symm hd
      · exact congrArg (d :: ·) (ih hrest)

theorem entry_eq_none_iff {r : Registry} {cluster : String} :
    r.entry? cluster = none ↔ cluster ∉ r.entries.map Prod.fst := by
  unfold entry?
  simp only [List.lookup_eq_none_iff, List.mem_map, bne_iff_ne, not_exists, not_and]
  exact ⟨fun h e he heq => h e he heq.symm, fun h e he heq => h e he heq.symm⟩

theorem entry_record (r : Registry) (cluster c : String) (built : Except Error Manager) :
    Registry.entry? (r.record cluster built) c =
      if c = cluster then
        some (match built with
          | .ok m => .ready m
          | .error cause => .failed cause)
      else r.entry? c :=
  lookup_setEntry ..

/-- Later lookups are told what the one that built was told. -/
theorem settled_record (r : Registry) (cluster c : String) (built : Except Error Manager) :
    (r.record cluster built).settled? c =
      if c = cluster then some (answer cluster built) else r.settled? c := by
  unfold settled?
  rw [entry_record]
  by_cases hc : c = cluster
  · subst hc
    cases built with
    | ok m => simp [answer]
    | error cause => simp [answer]
  · simp [hc]

theorem keys_unbuilt (layout : Layout) : (unbuilt layout).map Prod.fst = layout.clusters := by
  simp [unbuilt, Function.comp_def]

theorem entry_relayout (r : Registry) (layout : Layout) (cluster : String) :
    Registry.entry? (r.relayout (.ok layout)) cluster =
      if cluster ∈ layout.clusters then some .uninitialized else none := by
  have hkeys : (r.relayout (.ok layout)).entries.map Prod.fst = layout.clusters :=
    keys_unbuilt layout
  cases hentry : Registry.entry? (r.relayout (.ok layout)) cluster with
  | none =>
    have hnot := entry_eq_none_iff.mp hentry
    rw [hkeys] at hnot
    rw [if_neg hnot]
  | some entry =>
    obtain ⟨c, hc, heq⟩ := List.mem_map.mp (mem_of_lookup hentry)
    cases heq
    rw [if_pos hc]

/-- The clusters that have an entry are the ones of the layout. -/
def Listed (r : Registry) : Prop :=
  r.entries.map Prod.fst = r.layout.clusters

theorem listed_ofLayout (source : Source) (layout : Layout) : (ofLayout source layout).Listed :=
  keys_unbuilt layout

namespace Listed

variable {r : Registry}

theorem entry_eq_none_iff (h : r.Listed) {cluster : String} :
    r.entry? cluster = none ↔ cluster ∉ r.layout.clusters := by
  rw [Registry.entry_eq_none_iff, h]

theorem record (h : r.Listed) {cluster : String} (hs : r.settled? cluster = none)
    (built : Except Error Manager) : (r.record cluster built).Listed := by
  have hmem : cluster ∈ r.entries.map Prod.fst :=
    List.mem_map_of_mem (mem_of_lookup (entry_of_settled hs))
  exact (keys_setEntry hmem _).trans h

theorem relayout (h : r.Listed) (layout : Except Misconfiguration Layout) :
    (r.relayout layout).Listed := by
  cases layout with
  | ok layout => exact keys_unbuilt layout
  | error problem => exact h

/-- A cluster that is listed is found, so that its answer is what came of building. -/
theorem built_of_settled (h : r.Listed) {cluster : String} {a : Except Error Manager}
    (hc : cluster ∈ r.layout.clusters) (hs : r.settled? cluster = some a) :
    ∃ made, a = answer cluster made := by
  unfold settled? at hs
  split at hs
  · rename_i hnone
    exact absurd hc (h.entry_eq_none_iff.mp hnone)
  · rename_i m hentry
    exact ⟨.ok m, (Option.some.inj hs).symm⟩
  · rename_i cause hentry
    exact ⟨.error cause, (Option.some.inj hs).symm⟩
  · cases hs

end Listed

theorem managers_unbuilt {r : Registry} {layout : Layout} (h : r.entries = unbuilt layout) :
    r.managers = [] := by
  refine List.filterMap_eq_nil_iff.mpr fun entry he => ?_
  rw [h, unbuilt] at he
  obtain ⟨cluster, -, rfl⟩ := List.mem_map.mp he
  rfl

theorem managers_ofLayout (source : Source) (layout : Layout) :
    (ofLayout source layout).managers = [] :=
  managers_unbuilt (rfl : _ = unbuilt layout)

theorem managers_relayout (r : Registry) (layout : Layout) :
    (r.relayout (.ok layout)).managers = [] :=
  managers_unbuilt (rfl : _ = unbuilt layout)

end ClusterAccess.Registry
