import ClusterAccess.Proofs.Epochs

namespace ClusterAccess.Registry.Tasks

variable {σ : Type} {g : Gateway σ}

/-- What is settled stays so for the rest of the epoch. -/
theorem Shifts.settled {s s' : Tasks} {e : Event σ} (h : Shifts g s e s')
    (hneeded : ∀ i c, s.Builds i c → s.registry.settled? c = none) (hepoch : s'.epoch = s.epoch)
    {cluster : String} {a : Except Error Manager}
    (hs : s.registry.settled? cluster = some a) : s'.registry.settled? cluster = some a := by
  cases h with
  | relaid files hb hi =>
    rcases s.epoch_relayout (Layout.read files s.registry.source) with hnext | hsame
    · exact absurd (hnext.symm.trans hepoch) (Nat.succ_ne_self _)
    · exact (congrArg (·.registry.settled? cluster) hsame).trans hs
  | @built i c made t hi hmade =>
    have hne : cluster ≠ c := by
      rintro rfl
      rw [hneeded i cluster hi] at hs
      cases hs
    rw [settled_record, if_neg hne]
    exact hs
  | _ => exact hs

theorem not_builds_put {s : Tasks} (hb : s.busy = false) {a : Task} (ha : ∀ c, a ≠ .building c)
    (i j : Nat) (c : String) : ¬ (s.put i a).Builds j c := by
  intro hj
  rcases builds_put hj with ⟨-, hj⟩ | ⟨-, heq⟩
  · exact not_builds_of_not_busy hb j c hj
  · exact ha c heq

/-- What holds after any number of events. One lookup at a time builds, only what is not there yet;
what was begun in this epoch is under way or has come to something. -/
structure Once (s : Tasks) : Prop where
  oneTurn : ∀ i j c d, s.Builds i c → s.Builds j d → i = j
  needed : ∀ i c, s.Builds i c → s.registry.settled? c = none
  logged : ∀ i c, s.Builds i c → (s.epoch, c) ∈ s.builds
  past : ∀ n c, (n, c) ∈ s.builds → n ≤ s.epoch
  ended : ∀ c, (s.epoch, c) ∈ s.builds → s.registry.settled? c = none → ∃ i, s.Builds i c
  distinct : s.builds.Nodup

theorem once_of_fresh {s : Tasks} (htasks : s.tasks = []) (hbuilds : s.builds = []) : Once s := by
  have hidle : ∀ i c, ¬ s.Builds i c := by simp [Builds, htasks]
  refine ⟨fun i _ c _ hi => absurd hi (hidle i c), fun i c hi => absurd hi (hidle i c),
    fun i c hi => absurd hi (hidle i c), ?_, ?_, ?_⟩ <;> simp [hbuilds]

/-- One more task, which does not build. -/
theorem Once.add {s : Tasks} (h : Once s) {a : Task} (ha : ∀ c, a ≠ .building c) :
    Once (s.add a) := by
  refine ⟨?_, ?_, ?_, h.past, ?_, h.distinct⟩
  · intro i j c d hi hj
    exact h.oneTurn i j c d (builds_add ha hi) (builds_add ha hj)
  · exact fun i c hi => h.needed i c (builds_add ha hi)
  · exact fun i c hi => h.logged i c (builds_add ha hi)
  · intro c hc hnone
    obtain ⟨i, hi⟩ := h.ended c hc hnone
    have hlt : i < s.tasks.length := (List.getElem?_eq_some_iff.mp hi).1
    exact ⟨i, by simpa [Builds, Tasks.add, List.getElem?_append_left hlt] using hi⟩

/-- Nothing builds any more, and what was begun has come to something. -/
theorem Once.rest {s s' : Tasks} (h : Once s) (hidle : ∀ i c, ¬ s'.Builds i c)
    (hbuilds : s'.builds = s.builds) (hepoch : s.epoch ≤ s'.epoch)
    (hended : ∀ c, (s'.epoch, c) ∈ s.builds → s'.registry.settled? c ≠ none) : Once s' := by
  refine ⟨fun i _ c _ hi => absurd hi (hidle i c), fun i c hi => absurd hi (hidle i c),
    fun i c hi => absurd hi (hidle i c), ?_, ?_, hbuilds ▸ h.distinct⟩
  · exact fun n c hc => Nat.le_trans (h.past n c (hbuilds ▸ hc)) hepoch
  · exact fun c hc hnone => absurd hnone (hended c (hbuilds ▸ hc))

/-- The builds of this epoch have come to something once nobody has a turn. -/
theorem Once.settled_of_not_busy {s : Tasks} (h : Once s) (hb : s.busy = false) {c : String}
    (hc : (s.epoch, c) ∈ s.builds) : s.registry.settled? c ≠ none := by
  intro hnone
  obtain ⟨i, hi⟩ := h.ended c hc hnone
  exact not_builds_of_not_busy hb i c hi

theorem Once.begin {s : Tasks} (h : Once s) {i : Nat} {cluster : String} (hb : s.busy = false)
    (hi : s.tasks[i]? = some (.waiting cluster)) (hs : s.registry.settled? cluster = none) :
    Once { s.put i (.building cluster) with builds := (s.epoch, cluster) :: s.builds } := by
  have honly : ∀ j c, (s.put i (.building cluster)).Builds j c → i = j ∧ cluster = c := by
    intro j c hj
    rcases builds_put hj with ⟨-, hj⟩ | ⟨hij, ha⟩
    · exact absurd hj (not_builds_of_not_busy hb j c)
    · cases ha
      exact ⟨hij, rfl⟩
  have hnew : (s.epoch, cluster) ∉ s.builds := fun hc => h.settled_of_not_busy hb hc hs
  refine ⟨?_, ?_, ?_, ?_, ?_, List.nodup_cons.mpr ⟨hnew, h.distinct⟩⟩
  · intro j k c d hj hk
    exact (honly j c hj).1.symm.trans (honly k d hk).1
  · intro j c hj
    exact (honly j c hj).2 ▸ hs
  · intro j c hj
    exact (honly j c hj).2 ▸ List.mem_cons_self
  · intro n c hc
    rcases List.mem_cons.mp hc with heq | hc
    · exact Nat.le_of_eq (congrArg Prod.fst heq)
    · exact h.past n c hc
  · intro c hc hnone
    rcases List.mem_cons.mp hc with heq | hc
    · obtain rfl : c = cluster := congrArg Prod.snd heq
      have hlt : i < s.tasks.length := (List.getElem?_eq_some_iff.mp hi).1
      exact ⟨i, List.getElem?_set_self hlt⟩
    · exact absurd hnone (h.settled_of_not_busy hb hc)

theorem Once.step {s s' : Tasks} {e : Event σ} (h : Once s) (hshifts : Shifts g s e s') :
    Once s' := by
  cases hshifts with
  | stayed he => exact h
  | closed => exact { h with }
  | refused hc => exact h.add (by simp)
  | found hs => exact h.add (by simp)
  | waited hs => exact h.add (by simp)
  | ignored => exact h.add (by simp)
  | declared => exact h.add (by simp)
  | begun hb hi hs => exact h.begin hb hi hs
  | answered hb hi hs =>
    exact h.rest (not_builds_put hb (by simp) _) rfl (Nat.le_refl _)
      fun c hc => h.settled_of_not_busy hb hc
  | relaid files hb hi =>
    have hidle := not_builds_put (s := s) (a := .rebuilt) hb (by simp)
    refine h.rest (hidle _) rfl (s.epoch_le_relayout _) fun c hc => ?_
    cases hread : Layout.read files s.registry.source with
    | ok layout =>
      rw [hread] at hc
      exact absurd (h.past _ c hc) (Nat.not_succ_le_self _)
    | error problem =>
      rw [hread] at hc
      exact h.settled_of_not_busy hb hc
  | @built i cluster made t hi hmade =>
    refine h.rest ?_ rfl (Nat.le_refl _) fun c hc => ?_
    · intro j c hj
      rcases builds_put hj with ⟨hij, hj⟩ | ⟨-, heq⟩
      · exact hij (h.oneTurn i j cluster c hi hj)
      · cases heq
    · rw [settled_record]
      split
      · simp
      · rename_i hne
        intro hnone
        obtain ⟨j, hj⟩ := h.ended c hc hnone
        obtain rfl := h.oneTurn i j cluster c hi hj
        cases Option.some.inj (hi.symm.trans hj)
        exact hne rfl

/-- A build is begun when nobody has a turn, and it is logged. -/
theorem Shifts.begins {s s' : Tasks} {e : Event σ} (h : Shifts g s e s') {i : Nat} {c : String}
    (hnew : s'.Builds i c) (hold : ¬ s.Builds i c) : s'.builds = (s.epoch, c) :: s.builds := by
  have hput : ∀ {j : Nat} {a : Task}, (∀ d, a ≠ .building d) → ¬ (s.put j a).Builds i c := by
    intro j a ha hb
    rcases builds_put hb with ⟨-, hb⟩ | ⟨-, heq⟩
    · exact hold hb
    · exact ha c heq
  cases h with
  | stayed he => exact absurd hnew hold
  | closed => exact absurd hnew hold
  | refused hc => exact absurd (builds_add (by simp) hnew) hold
  | found hs => exact absurd (builds_add (by simp) hnew) hold
  | waited hs => exact absurd (builds_add (by simp) hnew) hold
  | ignored => exact absurd (builds_add (by simp) hnew) hold
  | declared => exact absurd (builds_add (by simp) hnew) hold
  | answered hb hi hs => exact absurd hnew (hput (by simp))
  | relaid files hb hi => exact absurd hnew (hput (by simp))
  | built hi hmade => exact absurd hnew (hput (by simp))
  | @begun j cluster hb hi hs =>
    rcases builds_put (s := s) hnew with ⟨-, hb⟩ | ⟨-, heq⟩
    · exact absurd hb hold
    · cases heq
      rfl

/-- No build is struck off the log. -/
theorem Shifts.builds_subset {s s' : Tasks} {e : Event σ} (h : Shifts g s e s') :
    ∀ b ∈ s.builds, b ∈ s'.builds := by
  cases h with
  | begun hb hi hs => exact fun b hb => List.mem_cons_of_mem _ hb
  | _ => exact fun b hb => hb

/-- With event `k` of a course lookup `i` begins to build a cluster's manager. -/
def BeginsAt (course : Nat → Tasks) (k i : Nat) (cluster : String) : Prop :=
  (course (k + 1)).Builds i cluster ∧ ¬ (course k).Builds i cluster

theorem once_reached {s : Tasks} (h : Once s) (t : σ) (events : List (Event σ)) (k : Nat) :
    Once (reached g s t events k) :=
  reached_induction (fun _ _ _ h hshifts => h.step hshifts) (Nat.zero_le k) h

/-- What is begun is logged from then on. -/
theorem logged_of_begins {s : Tasks} {t : σ} {events : List (Event σ)} {k i : Nat} {c : String}
    (h : BeginsAt (reached g s t events) k i c) :
    (reached g s t events (k + 1)).builds =
      ((reached g s t events k).epoch, c) :: (reached g s t events k).builds := by
  cases he : events[k]? with
  | none =>
    have hsame := reached_succ_of_none (g := g) (s := s) (t := t) he
    exact absurd (hsame ▸ h.1) h.2
  | some e => exact (shifts_reached he).begins h.1 h.2

theorem not_begins_later {s : Tasks} (h : Once s) {t : σ} {events : List (Event σ)}
    {k l i j : Nat} {c : String} (hk : BeginsAt (reached g s t events) k i c)
    (hl : BeginsAt (reached g s t events) l j c)
    (hepoch : (reached g s t events k).epoch = (reached g s t events l).epoch) : ¬ k < l := by
  intro hkl
  have hlogged : ((reached g s t events k).epoch, c) ∈ (reached g s t events l).builds :=
    reached_induction (P := fun s' => ((reached g s t events k).epoch, c) ∈ s'.builds)
      (fun _ _ _ hmem hshifts => hshifts.builds_subset _ hmem) hkl
      (logged_of_begins hk ▸ List.mem_cons_self)
  have hdistinct := (once_reached (g := g) h t events (l + 1)).distinct
  rw [logged_of_begins hl] at hdistinct
  exact (List.nodup_cons.mp hdistinct).1 (hepoch ▸ hlogged)

/-- What may become of a cluster's entry with one event. -/
inductive Passes (s : Tasks) (e : Event σ) (s' : Tasks) (cluster : String) : Prop where
  | kept (h : s'.registry.entry? cluster = s.registry.entry? cluster)
  | ready {m : Manager} (hold : s.registry.entry? cluster = some .uninitialized)
      (hnew : s'.registry.entry? cluster = some (.ready m))
  | failed {cause : Error} (hold : s.registry.entry? cluster = some .uninitialized)
      (hnew : s'.registry.entry? cluster = some (.failed cause))
  /-- A rebuild that has found a new layout forgets what came of building. -/
  | forgotten {i : Nat} {files : Files} {layout : Layout} (he : e = .turn i)
      (hi : s.tasks[i]? = some .rebuilding)
      (hread : Layout.read files s.registry.source = .ok layout)
      (hepoch : s'.epoch = s.epoch + 1) (hlayout : s'.registry.layout = layout)
      (hnew : s'.registry.entry? cluster =
        if cluster ∈ layout.clusters then some .uninitialized else none)

theorem Shifts.passes {s s' : Tasks} {e : Event σ} (h : Shifts g s e s') (hone : Once s)
    (cluster : String) : Passes s e s' cluster := by
  cases h with
  | @relaid i files hb hi =>
    cases hread : Layout.read files s.registry.source with
    | ok layout =>
      exact .forgotten rfl hi hread rfl rfl (entry_relayout s.registry layout cluster)
    | error problem => exact .kept rfl
  | @built i c made t hi hmade =>
    have hentry := entry_record s.registry c cluster made
    by_cases hc : cluster = c
    · subst hc
      have hold := entry_of_settled (hone.needed i cluster hi)
      rw [if_pos rfl] at hentry
      cases made with
      | ok m => exact .ready hold hentry
      | error cause => exact .failed hold hentry
    · exact .kept (by rw [hentry, if_neg hc])
  | _ => exact .kept rfl

/-- The clusters that are listed are the ones that have an entry. -/
theorem Shifts.listed {s s' : Tasks} {e : Event σ} (h : Shifts g s e s') (hone : Once s)
    (hlisted : s.registry.Listed) : s'.registry.Listed := by
  cases h with
  | relaid files hb hi => exact hlisted.relayout _
  | @built i c made t hi hmade => exact hlisted.record (hone.needed i c hi) made
  | _ => exact hlisted

/-- What lookups were told. In one epoch all that ask for a cluster are told the same. -/
structure Told (s : Tasks) : Prop where
  stamped : ∀ c n a, .answered c n a ∈ s.tasks → n ≤ s.epoch
  current : ∀ c a, .answered c s.epoch a ∈ s.tasks → s.registry.settled? c = some a
  agreed : ∀ c n a b, .answered c n a ∈ s.tasks → .answered c n b ∈ s.tasks → a = b

theorem Told.step {s s' : Tasks} {e : Event σ} (h : Told s) (hone : Once s)
    (hshifts : Shifts g s e s') : Told s' := by
  have hcurrent : ∀ c a, .answered c s'.epoch a ∈ s'.tasks →
      s'.registry.settled? c = some a := by
    intro c a ha
    rcases hshifts.answers ha with hold | ⟨-, -, hs⟩
    · have hepoch := Nat.le_antisymm (h.stamped c _ a hold) hshifts.epoch_le
      exact hshifts.settled hone.needed hepoch (h.current c a (hepoch ▸ hold))
    · exact hs
  refine ⟨?_, hcurrent, ?_⟩
  · intro c n a ha
    rcases hshifts.answers ha with hold | ⟨hn, -, -⟩
    · exact Nat.le_trans (h.stamped c n a hold) hshifts.epoch_le
    · exact hn ▸ hshifts.epoch_le
  · intro c n a b ha hb
    by_cases hn : n = s'.epoch
    · subst hn
      exact Option.some.inj ((hcurrent c a ha).symm.trans (hcurrent c b hb))
    · have hold : ∀ d, .answered c n d ∈ s'.tasks → .answered c n d ∈ s.tasks := fun d hd =>
        (hshifts.answers hd).resolve_right fun hnew => hn (hnew.1.trans hnew.2.1.symm)
      exact h.agreed c n a b (hold a ha) (hold b hb)

/-- In epoch `n` a cluster is listed, and so lookups are told what came of building its manager. -/
structure Knows (n : Nat) (cluster : String) (s : Tasks) : Prop where
  past : n ≤ s.epoch
  listed : s.epoch = n → cluster ∈ s.registry.layout.clusters
  built : ∀ a, .answered cluster n a ∈ s.tasks → ∃ made, a = answer cluster made

theorem Knows.step {n : Nat} {cluster : String} {s s' : Tasks} {e : Event σ}
    (h : Knows n cluster s) (hlisted : s'.registry.Listed) (hshifts : Shifts g s e s') :
    Knows n cluster s' := by
  have hsame : s'.epoch = n → s.epoch = n := fun heq =>
    Nat.le_antisymm (heq ▸ hshifts.epoch_le) h.past
  have hmem : s'.epoch = n → cluster ∈ s'.registry.layout.clusters := fun heq =>
    hshifts.layout_eq (heq.trans (hsame heq).symm) ▸ h.listed (hsame heq)
  refine ⟨Nat.le_trans h.past hshifts.epoch_le, hmem, fun a ha => ?_⟩
  rcases hshifts.answers ha with hold | ⟨hn, hepoch, hs⟩
  · exact h.built a hold
  · exact hlisted.built_of_settled (hmem (hepoch.trans hn.symm)) hs

/-- What holds of a registry and its lookups after any number of events. -/
structure Steady (s : Tasks) : Prop where
  once : Once s
  told : Told s
  listed : s.registry.Listed

theorem steady_of_fresh {s : Tasks} (htasks : s.tasks = []) (hbuilds : s.builds = [])
    (hlisted : s.registry.Listed) : Steady s := by
  refine ⟨once_of_fresh htasks hbuilds, ⟨?_, ?_, ?_⟩, hlisted⟩ <;> simp [htasks]

theorem Steady.step {s s' : Tasks} {e : Event σ} (h : Steady s) (hshifts : Shifts g s e s') :
    Steady s' :=
  ⟨h.once.step hshifts, h.told.step h.once hshifts, hshifts.listed h.once h.listed⟩

theorem steady_reached {s : Tasks} (h : Steady s) (t : σ) (events : List (Event σ)) (k : Nat) :
    Steady (reached g s t events k) :=
  reached_induction (fun _ _ _ h hshifts => h.step hshifts) (Nat.zero_le k) h

theorem Steady.knows {s : Tasks} (h : Steady s) {cluster : String}
    (hc : cluster ∈ s.registry.layout.clusters) : Knows s.epoch cluster s :=
  ⟨Nat.le_refl _, fun _ => hc, fun a ha =>
    h.listed.built_of_settled hc (h.told.current cluster a ha)⟩

theorem knows_reached {s : Tasks} (h : Steady s) {t : σ} {events : List (Event σ)} {k l : Nat}
    (hkl : k ≤ l) {cluster : String}
    (hc : cluster ∈ (reached g s t events k).registry.layout.clusters) :
    Knows (reached g s t events k).epoch cluster (reached g s t events l) :=
  (reached_induction
    (P := fun s' => Steady s' ∧ Knows (reached g s t events k).epoch cluster s')
    (fun _ _ _ h hshifts => ⟨h.1.step hshifts, h.2.step (h.1.step hshifts).listed hshifts⟩)
    hkl ⟨steady_reached h t events k, (steady_reached h t events k).knows hc⟩).2

/-- All that were told of a cluster in one epoch were given the same manager, or the same cause of
there being none. -/
theorem Told.alike {s : Tasks} (h : Told s) {n : Nat} {cluster : String}
    (hknows : Knows n cluster s) :
    (∃ m, ∀ a, .answered cluster n a ∈ s.tasks → a = .ok m) ∨
      ∃ cause, ∀ a, .answered cluster n a ∈ s.tasks →
        a = .error (.clusterUnavailable cluster cause) := by
  by_cases hany : ∃ a, .answered cluster n a ∈ s.tasks
  · obtain ⟨a, ha⟩ := hany
    obtain ⟨made, hmade⟩ := hknows.built a ha
    have hsame : ∀ b, .answered cluster n b ∈ s.tasks → b = answer cluster made := fun b hb =>
      (h.agreed cluster n b a hb ha).trans hmade
    cases made with
    | ok m => exact .inl ⟨m, hsame⟩
    | error cause => exact .inr ⟨cause, hsame⟩
  · exact .inr ⟨.closed, fun a ha => absurd ⟨a, ha⟩ hany⟩

/-- From a registry that has just been made, however lookups, rebuilds and closings interleave: one
lookup at a time builds, and no cluster is built twice between two new layouts; an entry that is
settled is forgotten only with a new layout; and the lookups of a listed cluster that are answered
in one epoch are all given the same manager, or all the same error. -/
theorem run_builds_once (g : Gateway σ) (source : Source) (layout : Layout) (t : σ)
    (events : List (Event σ)) :
    let course := reached g { registry := ofLayout source layout } t events
    (∀ k i j c d, (course k).Builds i c → (course k).Builds j d → i = j) ∧
    (∀ k l i j c, BeginsAt course k i c → BeginsAt course l j c →
      (course k).epoch = (course l).epoch → k = l) ∧
    (∀ k e c, events[k]? = some e → Passes (course k) e (course (k + 1)) c) ∧
    ∀ k l c, k ≤ l → c ∈ (course k).registry.layout.clusters →
      (∃ m, ∀ a, .answered c (course k).epoch a ∈ (course l).tasks → a = .ok m) ∨
      ∃ cause, ∀ a, .answered c (course k).epoch a ∈ (course l).tasks →
        a = .error (.clusterUnavailable c cause) := by
  intro course
  have hstart : Steady { registry := ofLayout source layout } :=
    steady_of_fresh rfl rfl (listed_ofLayout source layout)
  have hsteady : ∀ k, Steady (course k) := steady_reached hstart t events
  refine ⟨fun k => (hsteady k).once.oneTurn, ?_, ?_, ?_⟩
  · intro k l i j c hk hl hepoch
    refine Nat.le_antisymm (Nat.not_lt.mp ?_) (Nat.not_lt.mp ?_)
    · exact not_begins_later hstart.once hl hk hepoch.symm
    · exact not_begins_later hstart.once hk hl hepoch
  · intro k e c he
    exact (shifts_reached he).passes (hsteady k).once c
  · intro k l c hkl hc
    exact (hsteady l).told.alike (knows_reached hstart hkl hc)

end ClusterAccess.Registry.Tasks
