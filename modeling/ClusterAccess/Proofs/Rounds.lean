import Mathlib.Data.List.Chain
import ClusterAccess.Proofs.Supervision

namespace ClusterAccess

/-- A watcher that has looked at the files, in some phase and after so many more callbacks. -/
def Watcher.seeing (w : Watcher) (look : String → FileState) (phase : Phase) (calls : Nat) :
    Watcher :=
  { w with files := w.refreshed look, phase, callbacks := w.callbacks + calls }

namespace Supervision

variable {σ : Type} {g : Gateway σ} {files : Nat → Files} {source : Source}

def woken (s : Supervision) : Supervision :=
  { s with watcher := { s.watcher with phase := .woken } }

/-- After a check that looks at all files now. -/
def seeing (files : Nat → Files) (s : Supervision) (phase : Watcher.Phase) (calls : Nat) :
    Supervision :=
  { s with
    watcher := s.watcher.seeing (files s.now).look phase calls
    since := s.now, seen := fun _ => s.now }

/-- After the call for a rebuild. -/
def calling (g : Gateway σ) (files : Nat → Files) (t : σ) (s : Supervision) : Supervision :=
  { s.seeing files .calling 1 with
    tasks := (outcome (s.tasks.step g .rebuild) t).1, callback := some s.tasks.tasks.length }

/-- After the rebuild has had its turn. -/
def rebuilt (g : Gateway σ) (files : Nat → Files) (t : σ) (s : Supervision) : Supervision :=
  { s.calling g files t with
    tasks := (outcome ((s.calling g files t).tasks.step g (.turn s.tasks.tasks.length)) t).1 }

/-- At rest again. -/
def resting (g : Gateway σ) (files : Nat → Files) (t : σ) (s : Supervision) : Supervision :=
  { s.seeing files .waiting 1 with tasks := (s.rebuilt g files t).tasks, callback := none }

/-- Both checks, and the rebuild that follows. -/
def round (g : Gateway σ) (files : Nat → Files) (t : σ) (s : Supervision) : List Supervision :=
  [s.woken, s.seeing files .settling 0, s.seeing files .settled 0, s.seeing files .calling 1,
    s.calling g files t, s.rebuilt g files t, s.resting g files t]

theorem refreshed_seeing (w : Watcher) (look : String → FileState) (phase : Watcher.Phase)
    (calls : Nat) : (w.seeing look phase calls).refreshed look = w.refreshed look := by
  simp only [Watcher.seeing, Watcher.refreshed, List.map_map]
  refine List.map_congr_left fun f _ => ?_
  simp only [Function.comp_apply]
  cases hlook : look f.path <;> simp [Fingerprint.refresh, hlook]

/-- The phases that a watcher passes through when it has seen a change. -/
theorem step_round {w : Watcher} {look : String → FileState} (hphase : w.phase = .waiting)
    (hchanged : w.refreshed look ≠ w.files) :
    w.step .wake = { w with phase := .woken } ∧
    ({ w with phase := .woken } : Watcher).step (.check look) = w.seeing look .settling 0 ∧
    (w.seeing look .settling 0).step .quiet = w.seeing look .settled 0 ∧
    (w.seeing look .settled 0).step (.check look) = w.seeing look .calling 1 ∧
    (w.seeing look .calling 1).step .returned = w.seeing look .waiting 1 := by
  refine ⟨?_, ?_, ?_, ?_, ?_⟩
  · simp [Watcher.step, hphase]
  · have hnew : ({ w with phase := .woken } : Watcher).refreshed look = w.refreshed look := rfl
    simp [Watcher.step, Watcher.checked, hnew, hchanged, Watcher.seeing]
  · simp [Watcher.step, Watcher.seeing]
  · have hagain := refreshed_seeing w look .settled 0
    simp only [Watcher.seeing, Nat.add_zero] at hagain
    simp [Watcher.step, Watcher.checked, hagain, Watcher.seeing]
  · simp [Watcher.step, Watcher.seeing]

/-- A watcher that settles at once passes through the same phases. -/
theorem settle_eq {w : Watcher} {look : String → FileState} (hphase : w.phase = .waiting)
    (hchanged : w.refreshed look ≠ w.files) (hopen : w.closed = false) :
    w.settle look = w.seeing look .waiting 1 := by
  obtain ⟨hwake, hcheck, hquiet, hagain, hreturn⟩ := step_round hphase hchanged
  rw [Watcher.settle, if_neg (by simp [hopen]), Watcher.run]
  simp only [List.foldl_cons, List.foldl_nil]
  rw [hwake, hcheck, hquiet, hagain, hreturn]

theorem Move.of_eq {s s' s'' : Supervision} (h : Move g files source s s') (heq : s' = s'') :
    Move g files source s s'' :=
  heq ▸ h

/-- The rebuild of a round reads the files as they are. -/
theorem rebuilt_tasks {s : Supervision} {t : σ} (hopen : s.tasks.registry.closed = false)
    (hbusy : s.tasks.busy = false) (hhost : (outcome g.host t).1.files = files s.now) :
    let read := Layout.read (files s.now) s.tasks.registry.source
    (s.rebuilt g files t).tasks =
      ((s.tasks.add .rebuilding).relayout read).put s.tasks.tasks.length .rebuilt := by
  have hcalled : (outcome (s.tasks.step g .rebuild) t).1 = s.tasks.add .rebuilding := by
    simp [Registry.Tasks.step_rebuild, hopen]
  have hwaits : (s.tasks.add .rebuilding).tasks[s.tasks.tasks.length]? = some .rebuilding := by
    simp [Registry.Tasks.add]
  have hidle : (s.tasks.add .rebuilding).busy = false := by
    simpa [Registry.Tasks.busy, Registry.Tasks.add, Registry.Task.hasTurn] using hbusy
  simp only [rebuilt, calling, hcalled, Registry.Tasks.step_turn hwaits, hidle, hhost,
    Bool.false_eq_true, ↓reduceIte]
  rfl

theorem move_first {s : Supervision} (hphase : s.watcher.phase = .starting) :
    Move g files source s (s.seeing files .waiting 0) := by
  have hcheck : s.watcher.step (.check (files s.now).look) =
      s.watcher.seeing (files s.now).look .waiting 0 := by
    simp [Watcher.step, hphase, Watcher.checked, Watcher.seeing]
  exact (Move.checked (fun _ => s.now) s.now (by simp [Watcher.looks, hphase]) fun _ =>
    ⟨Nat.le_refl _, Nat.le_refl _⟩).of_eq
      (congrArg (fun w => { s.seeing files .waiting 0 with watcher := w }) hcheck)

/-- A check that sees no change. -/
theorem move_alike {s : Supervision} (halike : s.watcher.refreshed (files s.now).look =
    s.watcher.files) : Move g files source s.woken (s.seeing files .waiting 0) := by
  have hcheck : s.woken.watcher.step (.check (files s.now).look) =
      s.watcher.seeing (files s.now).look .waiting 0 := by
    have hnew : s.woken.watcher.refreshed (files s.now).look = s.watcher.files := halike
    simp only [Watcher.step, Watcher.checked, hnew, Watcher.seeing, halike]
    simp [woken]
  exact (Move.checked (s := s.woken) (fun _ => s.now) s.now rfl fun _ =>
    ⟨Nat.le_refl _, Nat.le_refl _⟩).of_eq
      (congrArg (fun w => { s.seeing files .waiting 0 with watcher := w }) hcheck)

/-- All that the watcher and the registry do about a change are moves. -/
theorem chain_round {s : Supervision} {t : σ} (hphase : s.watcher.phase = .waiting)
    (hchanged : s.watcher.refreshed (files s.now).look ≠ s.watcher.files)
    (hopen : s.tasks.registry.closed = false) (hbusy : s.tasks.busy = false)
    (hcallback : s.callback = none) (hhost : (outcome g.host t).1.files = files s.now) :
    (s :: s.round g files t).IsChain (Move g files source) := by
  obtain ⟨hwake, hcheck, hquiet, hagain, hreturn⟩ := step_round hphase hchanged
  have hnow : ∀ path : String, s.now ≤ s.now ∧ s.now ≤ s.now := fun _ =>
    ⟨Nat.le_refl _, Nat.le_refl _⟩
  have hwoke : Move g files source s s.woken := (Move.woke s).of_eq (by rw [hwake, woken])
  have hchecked : Move g files source s.woken (s.seeing files .settling 0) :=
    (Move.checked (s := s.woken) (fun _ => s.now) s.now rfl hnow).of_eq
      (congrArg (fun w => { s with watcher := w, since := s.now, seen := fun _ => s.now }) hcheck)
  have hrested : Move g files source (s.seeing files .settling 0) (s.seeing files .settled 0) :=
    (Move.rested _).of_eq
      (congrArg (fun w => { s.seeing files .settled 0 with watcher := w }) hquiet)
  have hsettled : Move g files source (s.seeing files .settled 0) (s.seeing files .calling 1) :=
    (Move.checked (s := s.seeing files .settled 0) (fun _ => s.now) s.now rfl hnow).of_eq
      (congrArg (fun w => { s.seeing files .settled 0 with watcher := w }) hagain)
  have hcalled : Move g files source (s.seeing files .calling 1) (s.calling g files t) :=
    .called (s := s.seeing files .calling 1) rfl hcallback t
  have hreread : Move g files source (s.calling g files t) (s.rebuilt g files t) :=
    .reread (s := s.calling g files t) s.now t rfl (Nat.le_refl _) fun path _ _ => by
      rw [hhost]
      rfl
  have hdone : (s.rebuilt g files t).tasks.tasks[s.tasks.tasks.length]? = some .rebuilt := by
    rw [rebuilt_tasks hopen hbusy hhost]
    simp [Registry.Tasks.put, Registry.Tasks.add, Registry.Tasks.relayout]
  have hback : Move g files source (s.rebuilt g files t) (s.resting g files t) :=
    (Move.returned (s := s.rebuilt g files t) rfl hdone).of_eq
      (congrArg (fun w => { s.resting g files t with watcher := w }) hreturn)
  exact .cons_cons hwoke <| .cons_cons hchecked <| .cons_cons hrested <| .cons_cons hsettled <|
    .cons_cons hcalled <| .cons_cons hreread <| .cons_cons hback (.singleton _)

end Supervision

end ClusterAccess
