import ClusterAccess.Proofs.Noted
import ClusterAccess.Provider

namespace ClusterAccess

variable {σ : Type}

namespace Manager.State

/-- What may become of the states of all managers: more of them, and those that are closed stay
closed. -/
structure Continues (before after : List Manager.State) : Prop where
  length : before.length ≤ after.length
  closed : ∀ (i : Nat) (x : Manager.State), before[i]? = some x → x.closed = true →
    ∃ y, after[i]? = some y ∧ y.closed = true

namespace Continues

theorem refl (states : List Manager.State) : Continues states states :=
  ⟨Nat.le_refl _, fun _ x hx hc => ⟨x, hx, hc⟩⟩

theorem trans {a b c : List Manager.State} (hab : Continues a b) (hbc : Continues b c) :
    Continues a c := by
  refine ⟨Nat.le_trans hab.length hbc.length, fun i x hx hc => ?_⟩
  obtain ⟨y, hy, hyc⟩ := hab.closed i x hx hc
  exact hbc.closed i y hy hyc

theorem append (states : List Manager.State) (x : Manager.State) :
    Continues states (states ++ [x]) := by
  refine ⟨by simp, fun i y hy hc => ⟨y, ?_, hc⟩⟩
  rw [List.getElem?_append_left (List.getElem?_eq_some_iff.mp hy).1]
  exact hy

/-- A change of one state that does not open it. -/
theorem set {states : List Manager.State} {i : Nat} {y : Manager.State}
    (h : ∀ x, states[i]? = some x → x.closed = true → y.closed = true) :
    Continues states (states.set i y) := by
  refine ⟨by simp, fun j x hx hc => ?_⟩
  by_cases hij : i = j
  · subst hij
    exact ⟨y, List.getElem?_set_self (List.getElem?_eq_some_iff.mp hx).1, h x hx hc⟩
  · exact ⟨x, by rwa [List.getElem?_set_ne hij], hc⟩

end Continues

theorem closed_close (x : Manager.State) : x.close.closed = true := by
  unfold close
  split
  · assumption
  · rfl

end Manager.State

open Manager.State (Continues closed_close)

namespace Gateway

/-- The states of managers have a place of their own, and looking at the host leaves them alone. -/
structure KeepsStates (g : Gateway σ) : Prop where
  get_set : ∀ (states : List Manager.State) (s : σ), g.states.get (g.states.set states s) = states
  host : ∀ s, Continues (g.states.get s) (g.states.get (outcome g.host s).2)

def IsClosed (g : Gateway σ) (m : Manager) (s : σ) : Prop :=
  ((g.state m).get s).closed = true

variable {g : Gateway σ} {m : Manager} {s t : σ}

theorem isClosed_iff :
    g.IsClosed m s ↔ ∃ x, (g.states.get s)[m.id]? = some x ∧ x.closed = true := by
  cases hx : (g.states.get s)[m.id]? with
  | none => simp [IsClosed, state, hx]
  | some x => simp [IsClosed, state, hx]

theorem IsClosed.mono (h : g.IsClosed m s) (hst : Continues (g.states.get s) (g.states.get t)) :
    g.IsClosed m t := by
  obtain ⟨x, hx, hc⟩ := isClosed_iff.mp h
  exact isClosed_iff.mpr (hst.closed m.id x hx hc)

/-- A closed manager serves nothing, and the state stays as it is. -/
theorem whenOpen_closed (h : g.IsClosed m s) {α : Type} (action : StateM σ (Except Error α)) :
    outcome (g.whenOpen m action) s = (.error .closed, s) := by
  have hclosed : outcome (g.isClosed m) s = (true, s) := Prod.ext h rfl
  exact outcome_bind_of hclosed _

/-- A manager that serves nothing, neither its own resources nor another manager. -/
structure Refuses (g : Gateway σ) (m : Manager) (s : σ) : Prop where
  uses : ∀ (α : Type) (action : StateM σ (Except Error α)),
    outcome (g.whenOpen m action) s = (.error .closed, s)
  derive : ∀ identity, outcome (g.derive m identity) s = (.error .closed, s)
  inContext : ∀ name, outcome (g.inContext m name) s = (.error .closed, s)

theorem IsClosed.refuses (h : g.IsClosed m s) : g.Refuses m s :=
  ⟨fun _ action => whenOpen_closed h action, fun _ => whenOpen_closed h _,
    fun _ => whenOpen_closed h _⟩

/-- What a change of a manager's state makes of all states. -/
theorem get_update (hg : g.KeepsStates) (m : Manager) (f : Manager.State → Manager.State) (s : σ) :
    g.states.get (outcome ((g.state m).update f) s).2 =
      (g.states.get s).set m.id (f (((g.states.get s)[m.id]?).getD {})) :=
  hg.get_set _ _

theorem update_continues (hg : g.KeepsStates) {f : Manager.State → Manager.State}
    (hf : ∀ x, x.closed = true → (f x).closed = true) (m : Manager) (s : σ) :
    Continues (g.states.get s) (g.states.get (outcome ((g.state m).update f) s).2) := by
  rw [get_update hg]
  refine .set fun x hx hc => ?_
  rw [hx]
  exact hf x hc

theorem invalidate_continues (hg : g.KeepsStates) (m : Manager) (s : σ) :
    Continues (g.states.get s) (g.states.get (outcome (g.invalidate m) s).2) :=
  update_continues hg (f := Manager.State.invalidate) (fun _ hc => hc) m s

theorem close_continues (hg : g.KeepsStates) (m : Manager) (s : σ) :
    Continues (g.states.get s) (g.states.get (outcome (g.close m) s).2) :=
  update_continues hg (fun x _ => closed_close x) m s

theorem isClosed_close (hg : g.KeepsStates) (hm : m.id < (g.states.get s).length) :
    g.IsClosed m (outcome (g.close m) s).2 := by
  refine isClosed_iff.mpr ⟨(((g.states.get s)[m.id]?).getD {}).close, ?_, closed_close _⟩
  rw [close, get_update hg]
  exact List.getElem?_set_self hm

/-- What each of several actions in turn does to the states. -/
theorem forM_continues {ms : List Manager} {f : Manager → StateM σ Unit}
    (hf : ∀ m s, Continues (g.states.get s) (g.states.get (outcome (f m) s).2)) (s : σ) :
    Continues (g.states.get s) (g.states.get (outcome (ms.forM f) s).2) := by
  induction ms generalizing s with
  | nil => exact .refl _
  | cons m ms ih => exact (hf m s).trans (ih _)

/-- Closing several managers closes each of them. -/
theorem isClosed_forM_close (hg : g.KeepsStates) {ms : List Manager} (hm : m ∈ ms)
    (hid : m.id < (g.states.get s).length) : g.IsClosed m (outcome (ms.forM g.close) s).2 := by
  induction ms generalizing s with
  | nil => cases hm
  | cons first ms ih =>
    have hfirst := close_continues hg first s
    rcases List.mem_cons.mp hm with rfl | hm
    · exact (isClosed_close hg hid).mono (forM_continues (close_continues hg) _)
    · exact ih hm (Nat.lt_of_lt_of_le hid hfirst.length)

/-- The states after a manager has been made: it has a place among them. -/
structure Places (g : Gateway σ) (s : σ) (made : Except Error Manager × σ) : Prop where
  continues : Continues (g.states.get s) (g.states.get made.2)
  placed : ∀ m, made.1 = .ok m → m.id < (g.states.get made.2).length

theorem places_error {s t : σ} (h : Continues (g.states.get s) (g.states.get t))
    (e : Error) : g.Places s (.error e, t) :=
  ⟨h, fun _ hm => by cases hm⟩

theorem build_places (hg : g.KeepsStates) (source : Option Source) (context : String)
    (c : Connection) (s : σ) : g.Places s (outcome (g.build source context c) s) := by
  have hhost := hg.host s
  unfold build
  rw [outcome_bind]
  generalize (outcome g.host s).2 = t at hhost ⊢
  cases c.signature (outcome g.host s).1 with
  | error problem => exact places_error hhost _
  | ok signature =>
    let states := g.states.get t ++ [({} : Manager.State)]
    have hget : g.states.get (g.states.set states t) = states := hg.get_set _ _
    constructor
    · change Continues _ (g.states.get (g.states.set states t))
      rw [hget]
      exact hhost.trans (.append _ _)
    · intro m hm
      cases hm
      change (g.states.get t).length < (g.states.get (g.states.set states t)).length
      simp [hget, states]

theorem load_places (hg : g.KeepsStates) (source : Source) (context : Option String) (s : σ) :
    g.Places s (outcome (g.load source context) s) := by
  have hhost := hg.host s
  unfold load
  rw [outcome_bind]
  cases source.load (outcome g.host s).1 context with
  | error problem => exact places_error hhost _
  | ok loaded =>
    obtain ⟨hcontinues, hplaced⟩ := build_places hg (some source) loaded.context loaded.connection
      (outcome g.host s).2
    exact ⟨hhost.trans hcontinues, hplaced⟩

end Gateway

theorem Registry.buildFor_places {g : Gateway σ} (hg : g.KeepsStates) (r : Registry)
    (cluster : String) (s : σ) : g.Places s (outcome (r.buildFor g cluster) s) := by
  unfold buildFor
  cases r.contextFor g.settings.contexts cluster with
  | error problem => exact Gateway.places_error (.refl _) _
  | ok context => exact Gateway.load_places hg r.source (some context) s

end ClusterAccess
