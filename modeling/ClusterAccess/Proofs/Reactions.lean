import ClusterAccess.Proofs.Freshness
import ClusterAccess.Proofs.Layouts
import ClusterAccess.Proofs.SchemaCurrency

namespace ClusterAccess

variable {σ : Type}

/-- An index is kept for a generation that has come, and generations only grow. -/
theorem Schema.Readers.index_le (events : List Event) {tag : Nat} {index : Index}
    (h : (run {} events).cache.index = some (tag, index)) :
    tag ≤ (run {} events).cache.generation := by
  have hlast : after events events.length = run {} events := course_length
  rw [← hlast] at h ⊢
  obtain ⟨i, b, e, document, hfetched, -, hb⟩ :=
    (coherent events events.length).stores.index tag index h
  have he := (List.getElem?_eq_some_iff.mp hfetched.ends).1
  exact Nat.le_trans hb (generation_mono (Nat.le_of_lt (Nat.lt_trans hfetched.before he)))

namespace Manager.State

/-- Both caches are as their readers and earlier changes left them. As elsewhere, generations are
assumed not to run over. -/
structure Reached (x : State) : Prop where
  discovery : ∃ events, x.discovery = (Discovery.Readers.run {} events).cache
  schemas : ∃ events, x.schemas = (Schema.Readers.run {} events).cache

/-- Nothing is tagged with a generation that is yet to come. -/
structure Dated (x : State) : Prop where
  discovery : x.discovery.fetched ≤ x.discovery.generation
  index : ∀ tag index, x.schemas.index = some (tag, index) → tag ≤ x.schemas.generation

/-- Neither cache has anything that counts. -/
structure Stale (x : State) : Prop where
  discovery : x.discovery.isFresh = false
  index : x.schemas.index? = none
  documents : ∀ key, x.schemas.document? key = none

variable {x : State}

theorem Reached.dated (h : x.Reached) : x.Dated := by
  obtain ⟨⟨events, hdiscovery⟩, ⟨events', hschemas⟩⟩ := h
  constructor
  · have hcoherent := Discovery.Readers.coherent events events.length (Nat.le_refl _)
    have hle := hcoherent.stores.fetched_le
    rw [Discovery.Readers.after_length] at hle
    rw [hdiscovery]
    exact hle
  · intro tag index hindex
    rw [hschemas] at hindex ⊢
    exact Schema.Readers.index_le events' hindex

theorem dated_empty : ({} : State).Dated :=
  ⟨Nat.zero_le _, fun _ _ h => by cases h⟩

theorem stale_empty : ({} : State).Stale :=
  ⟨rfl, rfl, fun _ => rfl⟩

theorem Dated.invalidate (h : x.Dated) : x.invalidate.Dated :=
  ⟨Nat.le_succ_of_le h.discovery, fun tag index hindex => Nat.le_succ_of_le (h.index tag index hindex)⟩

/-- After an invalidation even the latest tag is that of an earlier generation. -/
theorem Dated.stale_invalidate (h : x.Dated) : x.invalidate.Stale := by
  constructor
  · have hlt : x.discovery.fetched < x.discovery.generation + 1 := Nat.lt_succ_of_le h.discovery
    exact decide_eq_false (Nat.ne_of_lt hlt)
  · cases hkept : x.invalidate.schemas.index? with
    | none => rfl
    | some index =>
      have hle := h.index _ index (Schema.Cache.indexAt_eq_some hkept)
      exact absurd hle (Nat.not_succ_le_self _)
  · intro key
    rfl

end Manager.State

open Manager.State (Dated Stale dated_empty stale_empty)

namespace Gateway

/-- The states of managers have a place of their own, which the host neither changes nor looks
at. -/
structure Apart (g : Gateway σ) : Prop where
  get_set : ∀ (states : List Manager.State) (s : σ), g.states.get (g.states.set states s) = states
  host_get : ∀ s, g.states.get (outcome g.host s).2 = g.states.get s
  host_set : ∀ (states : List Manager.State) (s : σ),
    (outcome g.host (g.states.set states s)).1 = (outcome g.host s).1

variable {g : Gateway σ} {s : σ}

theorem Apart.keepsStates (hg : g.Apart) : g.KeepsStates :=
  ⟨hg.get_set, fun s => hg.host_get s ▸ .refl _⟩

theorem dated_state (h : ∀ x ∈ g.states.get s, x.Dated) (m : Manager) :
    ((g.state m).get s).Dated := by
  change (((g.states.get s)[m.id]?).getD {}).Dated
  cases hx : (g.states.get s)[m.id]? with
  | none => exact dated_empty
  | some x => exact h x (List.mem_of_getElem? hx)

/-- A manager that has no place among the states is as good as a new one. -/
theorem state_eq_empty {m : Manager} (h : (g.states.get s).length ≤ m.id) :
    (g.state m).get s = {} := by
  change ((g.states.get s)[m.id]?).getD {} = {}
  rw [List.getElem?_eq_none h, Option.getD_none]

/-- A change of one manager's state leaves the others as they are. -/
theorem state_update (hg : g.KeepsStates) (m other : Manager)
    (f : Manager.State → Manager.State) (s : σ) :
    (g.state other).get (outcome ((g.state m).update f) s).2 =
      if m.id = other.id ∧ m.id < (g.states.get s).length then f ((g.state m).get s)
      else (g.state other).get s := by
  change ((g.states.get (outcome ((g.state m).update f) s).2)[other.id]?).getD {} = _
  rw [get_update hg, List.getElem?_set]
  by_cases hid : m.id = other.id
  · by_cases hplace : m.id < (g.states.get s).length
    · rw [if_pos hid, if_pos hplace, if_pos ⟨hid, hplace⟩]
      rfl
    · rw [if_pos hid, if_neg hplace, if_neg fun h => hplace h.2]
      exact (state_eq_empty (hid ▸ Nat.le_of_not_lt hplace)).symm
  · rw [if_neg hid, if_neg fun h => hid h.1]
    rfl

/-- What one invalidation does: the caches of its manager count no longer, and whatever did not
count before does not count again. -/
theorem stale_invalidate (hg : g.Apart) (hs : ∀ x ∈ g.states.get s, x.Dated) (m : Manager) :
    let t := (outcome (g.invalidate m) s).2
    (∀ x ∈ g.states.get t, x.Dated) ∧ ((g.state m).get t).Stale ∧
      ∀ other, ((g.state other).get s).Stale → ((g.state other).get t).Stale := by
  intro t
  have hdated := dated_state hs m
  have hstate (other : Manager) := state_update hg.keepsStates m other Manager.State.invalidate s
  refine ⟨?_, ?_, ?_⟩
  · have hget : g.states.get t = (g.states.get s).set m.id ((g.state m).get s).invalidate :=
      get_update hg.keepsStates m _ s
    rw [hget]
    intro x hx
    rcases List.mem_or_eq_of_mem_set hx with hx | rfl
    · exact hs x hx
    · exact hdated.invalidate
  · by_cases hplace : m.id < (g.states.get s).length
    · have hnew := hstate m
      rw [if_pos ⟨rfl, hplace⟩] at hnew
      exact hnew ▸ hdated.stale_invalidate
    · have hold := hstate m
      rw [if_neg fun h => hplace h.2, state_eq_empty (Nat.le_of_not_lt hplace)] at hold
      exact hold ▸ stale_empty
  · intro other hother
    have hnow := hstate other
    split at hnow
    · exact hnow ▸ hdated.stale_invalidate
    · exact hnow ▸ hother

/-- Invalidating several managers leaves none of their caches counting, and the host tells the
same. -/
theorem stale_forM_invalidate (hg : g.Apart) (ms : List Manager)
    (hs : ∀ x ∈ g.states.get s, x.Dated) :
    let t := (outcome (ms.forM g.invalidate) s).2
    (∀ m, m ∈ ms ∨ ((g.state m).get s).Stale → ((g.state m).get t).Stale) ∧
      (outcome g.host t).1 = (outcome g.host s).1 := by
  induction ms generalizing s with
  | nil =>
    refine ⟨fun m hm => ?_, rfl⟩
    rcases hm with hm | hm
    · cases hm
    · exact hm
  | cons first rest ih =>
    intro t
    obtain ⟨hdated, hfirst, hothers⟩ := stale_invalidate hg hs first
    obtain ⟨hrest, hhost⟩ := ih hdated
    refine ⟨fun m hm => hrest m ?_, ?_⟩
    · rcases hm with hm | hm
      · rcases List.mem_cons.mp hm with rfl | hm
        · exact .inr hfirst
        · exact .inl hm
      · exact .inr (hothers m hm)
    · have hset : (outcome g.host (outcome (g.invalidate first) s).2).1 = (outcome g.host s).1 :=
        hg.host_set _ s
      exact hhost.trans hset

end Gateway

/-- A rebuild of an open registry: what the managers' caches hold counts no longer, and the layout
and the entries are new, or all is as it was. -/
theorem Registry.outcome_rebuild {g : Gateway σ} (hg : g.Apart) {r : Registry} {t : σ}
    (hopen : r.closed = false) (ht : ∀ x ∈ g.states.get t, x.Dated) :
    ∃ u, outcome (r.rebuild g) t =
        (r.relayout (Layout.read (outcome g.host t).1.files r.source), u) ∧
      ∀ m ∈ r.managers, ((g.state m).get u).Stale := by
  obtain ⟨hstale, hhost⟩ := Gateway.stale_forM_invalidate hg r.managers ht
  generalize hv : (outcome (r.managers.forM g.invalidate) t).2 = v at hstale hhost
  refine ⟨(outcome g.host v).2, ?_, ?_⟩
  · unfold rebuild
    rw [hopen, ← hhost, ← hv]
    rfl
  · intro m hm
    change (((g.states.get (outcome g.host v).2)[m.id]?).getD {}).Stale
    rw [hg.host_get]
    exact hstale m (.inl hm)

namespace Provider

variable {g : Gateway σ} {p : Provider σ} {r : Registry}

/-- Callbacks that come later run later. -/
theorem callbacks_onChange (hp : p.clusters = .registry r) (callbacks : List (StateM σ Unit)) :
    callbacks.foldl onChange p = { p with callbacks := p.callbacks ++ callbacks } := by
  induction callbacks generalizing p with
  | nil => rw [List.append_nil]; rfl
  | cons first rest ih =>
    have hfirst : p.onChange first = { p with callbacks := p.callbacks ++ [first] } := by
      rw [onChange, hp]
    rw [List.foldl_cons, hfirst, ih (p := { p with callbacks := p.callbacks ++ [first] }) hp]
    simp

/-- Actions in turn, each once. -/
theorem outcome_forM (callbacks : List (StateM σ Unit)) (s : σ) :
    outcome (callbacks.forM id) s =
      ((), callbacks.foldl (fun s callback => (outcome callback s).2) s) := by
  induction callbacks generalizing s with
  | nil => rfl
  | cons first rest ih => exact ih _

/-- After a change of credentials a registry knows all of what the files say now, or nothing of it.
If they merge to a kubeconfig whose current context leads to a cluster, the clusters are the ones
that it reaches, none of them built; if not, all is as it was. Either way nothing that the managers
had cached counts any longer when the first callback starts, and the callbacks run once each, in the
order in which they came, when the registry is done. A closed registry does nothing. -/
theorem credentialsChanged_all_or_nothing (hg : g.Apart) (hp : p.clusters = .registry r)
    (callbacks : List (StateM σ Unit)) {t : σ} (ht : ∀ x ∈ g.states.get t, x.Reached) :
    let q := callbacks.foldl onChange p
    let files := (outcome g.host t).1.files
    (r.closed = true → outcome (q.credentialsChanged g) t = (q, t)) ∧
    (r.closed = false → ∃ r' u,
      outcome (q.credentialsChanged g) t = (q.holding r',
        (p.callbacks ++ callbacks).foldl (fun s callback => (outcome callback s).2) u) ∧
      (∀ m ∈ r.managers, ((g.state m).get u).Stale) ∧
      (∀ k context cluster, r.source.Leads files k context cluster →
        (q.holding r').targets = k.reachable ∧ (q.holding r').defaultTarget = cluster ∧
        r'.entries = (k.reachable.map fun c => (c, .uninitialized)) ∧ k.reachable.Nodup) ∧
      ((∀ k context cluster, ¬ r.source.Leads files k context cluster) →
        r' = r ∧ q.holding r' = q)) := by
  intro q files
  have hq : q = { p with callbacks := p.callbacks ++ callbacks } := callbacks_onChange hp callbacks
  have hclusters : q.clusters = .registry r := by rw [hq, hp]
  have hcallbacks : q.callbacks = p.callbacks ++ callbacks := by rw [hq]
  constructor
  · intro hclosed
    unfold credentialsChanged
    rw [hclusters]
    simp only [hclosed, ↓reduceIte, outcome_pure]
  · intro hopen
    obtain ⟨u, hrebuild, hstale⟩ :=
      Registry.outcome_rebuild hg hopen fun x hx => (ht x hx).dated
    let r' := r.relayout (Layout.read files r.source)
    have hreaction : outcome (q.credentialsChanged g) t = (q.holding r',
        (p.callbacks ++ callbacks).foldl (fun s callback => (outcome callback s).2) u) := by
      rw [← hcallbacks]
      unfold credentialsChanged
      rw [hclusters]
      simp only [hopen, Bool.false_eq_true, ↓reduceIte]
      rw [outcome_bind_of hrebuild, outcome_bind, outcome_forM, outcome_pure]
      rfl
    refine ⟨r', u, hreaction, hstale, ?_, ?_⟩
    · intro k context cluster hleads
      have hread := Layout.read_eq_ok_iff.mpr ⟨k, context, cluster, hleads, rfl⟩
      have hr' : r' = r.relayout (.ok ⟨k, k.reachable, cluster, context⟩) :=
        congrArg r.relayout hread
      rw [hr']
      exact ⟨rfl, rfl, rfl, k.nodup_reachable⟩
    · intro hnone
      have hr' : r' = r := by
        cases hread : Layout.read files r.source with
        | error problem => exact congrArg r.relayout hread
        | ok layout =>
          obtain ⟨k, context, cluster, hleads, -⟩ := Layout.read_eq_ok_iff.mp hread
          exact absurd hleads (hnone k context cluster)
      refine ⟨hr', ?_⟩
      rw [hr', holding, ← hclusters]

/-- A gateway on a disk, with a notebook beside its managers. -/
def beside (files : Files) : Gateway (List Manager.State × List Nat) where
  settings := {}
  validators := ValidatorRegistry.standard
  probe := {}
  validation := none
  host := pure { files, now := ⟨⟨2027, 1, 1⟩, 0, 0⟩ }
  states := ⟨Prod.fst, fun states s => (states, s.2)⟩
  network := fun _ => pure (.ok {})

def noteOf (n : Nat) : StateM (List Manager.State × List Nat) Unit :=
  fun s => ((), (s.1, s.2 ++ [n]))

/-- The manager of the only cluster. -/
def readyManager : Manager :=
  ⟨0, some (.kubeconfig ["config"]), "m", { server := ⟨some "http", some "c", "/", none⟩ }, .ok []⟩

def oneReady : Registry where
  source := .kubeconfig ["config"]
  layout := Registry.Tasks.oneCluster
  entries := [("c", .ready readyManager)]

/-- The state of the manager once its types have been fetched. -/
def fetchedState : Manager.State where
  discovery := (Discovery.Readers.run {}
    [.arrive, .advance 0, .receive 0 (.ok []), .advance 0]).cache

theorem reached_fetchedState : fetchedState.Reached :=
  ⟨⟨_, rfl⟩, ⟨[], rfl⟩⟩

theorem apart_beside (files : Files) : (beside files).Apart :=
  ⟨fun _ _ => rfl, fun _ => rfl, fun _ _ => rfl⟩

set_option maxRecDepth 10000 in
/-- With the file in place the entry is forgotten, and without it all stays; the manager's types
count no longer in either case, and both callbacks run. -/
theorem credentialsChanged_all_or_nothing_one_file :
    let p : Provider (List Manager.State × List Nat) :=
      { strategy := .kubeconfig, clusters := .registry oneReady }
    let q := [noteOf 1, noteOf 2].foldl onChange p
    let present := beside Registry.Tasks.oneFile
    let absent := beside ⟨[]⟩
    fetchedState.discovery.isFresh = true ∧
    (∃ r' u, (outcome (q.credentialsChanged present) ([fetchedState], [])).1 = q.holding r' ∧
      ((present.state readyManager).get u).Stale ∧ r'.entries = [("c", .uninitialized)]) ∧
    (outcome (q.credentialsChanged present) ([fetchedState], [])).2.2 = [1, 2] ∧
    (∃ u, (outcome (q.credentialsChanged absent) ([fetchedState], [])).1 = q ∧
      ((absent.state readyManager).get u).Stale) ∧
    (outcome (q.credentialsChanged absent) ([fetchedState], [])).2.2 = [1, 2] := by
  intro p q present absent
  have hreached : ∀ x ∈ [fetchedState], x.Reached := by
    intro x hx
    rw [List.mem_singleton.mp hx]
    exact reached_fetchedState
  have hready : readyManager ∈ oneReady.managers := List.mem_singleton.mpr rfl
  have hpresent := (credentialsChanged_all_or_nothing (apart_beside Registry.Tasks.oneFile)
    (p := p) rfl [noteOf 1, noteOf 2] (t := ([fetchedState], [])) hreached).2 rfl
  have habsent := (credentialsChanged_all_or_nothing (apart_beside ⟨[]⟩)
    (p := p) rfl [noteOf 1, noteOf 2] (t := ([fetchedState], [])) hreached).2 rfl
  refine ⟨by decide, ?_, by decide +kernel, ?_, by decide +kernel⟩
  · obtain ⟨r', u, hreaction, hstale, hnew, -⟩ := hpresent
    refine ⟨r', u, congrArg Prod.fst hreaction, hstale _ hready, ?_⟩
    have hclusters : (Layout.read Registry.Tasks.oneFile oneReady.source).toOption.map
        (·.clusters) = some ["c"] := by
      decide +kernel
    cases hread : Layout.read Registry.Tasks.oneFile oneReady.source with
    | error problem => simp [hread, Except.toOption] at hclusters
    | ok layout =>
      obtain ⟨k, context, cluster, hleads, rfl⟩ := Layout.read_eq_ok_iff.mp hread
      have hreachable : k.reachable = ["c"] := by
        simpa [hread, Except.toOption] using hclusters
      rw [(hnew k context cluster hleads).2.2.1, hreachable]
      rfl
  · obtain ⟨r', u, hreaction, hstale, -, hold⟩ := habsent
    refine ⟨u, ?_, hstale _ hready⟩
    have hnothing : (Layout.read ⟨[]⟩ oneReady.source).toOption.isNone = true := by
      decide +kernel
    have hnone : ∀ k context cluster, ¬ oneReady.source.Leads ⟨[]⟩ k context cluster := by
      intro k context cluster hleads
      rw [Layout.read_eq_ok_iff.mpr ⟨k, context, cluster, hleads, rfl⟩] at hnothing
      cases hnothing
    rw [hreaction, (hold hnone).2]

end Provider

end ClusterAccess
