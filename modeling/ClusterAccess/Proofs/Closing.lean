import ClusterAccess.Proofs.Derivation
import ClusterAccess.Proofs.Lookups
import ClusterAccess.Proofs.Rereading

namespace ClusterAccess.Registry.Tasks

open Manager.State (Continues)

variable {σ : Type} {g : Gateway σ}

/-- What every event preserves, a whole run preserves. -/
theorem run_induction {P : Tasks → σ → Prop} {events : List (Event σ)} (hg : g.KeepsStates)
    (hevents : ∀ e ∈ events, e.Keeps g)
    (hstep : ∀ s t s' t', P s t → Moves g s t s' t' → P s' t') {s : Tasks} {t : σ} (h : P s t) :
    P (outcome (run g s events) t).1 (outcome (run g s events) t).2 := by
  induction events generalizing s t with
  | nil => exact h
  | cons e events ih =>
    have hmoves := moves_step hg s t (hevents e List.mem_cons_self)
    exact ih (fun e he => hevents e (List.mem_cons_of_mem _ he)) (hstep _ _ _ _ h hmoves)

theorem sound_run (hg : g.KeepsStates) {events : List (Event σ)}
    (hevents : ∀ e ∈ events, e.Keeps g) (source : Source) (layout : Layout) (t : σ) :
    let after := outcome (run g { registry := ofLayout source layout } events) t
    Sound g after.1 after.2 :=
  run_induction hg hevents (fun _ _ _ _ h hmoves => h.step hg hmoves)
    (sound_ofLayout g source layout t)

theorem Moves.closed_mono {s s' : Tasks} {t t' : σ} (h : Moves g s t s' t')
    (hs : s.registry.closed = true) : s'.registry.closed = true := by
  cases h with
  | relaid layout hb hi hu =>
    cases layout with
    | ok layout => exact hs
    | error problem => exact hs
  | closed hc hu => rfl
  | _ => exact hs

/-- After closing, the registry stays closed, and so does every manager that is. -/
theorem run_closed (hg : g.KeepsStates) {events : List (Event σ)}
    (hevents : ∀ e ∈ events, e.Keeps g) {s : Tasks} {t : σ} (hs : s.registry.closed = true) :
    let after := outcome (run g s events) t
    after.1.registry.closed = true ∧ Continues (g.states.get t) (g.states.get after.2) :=
  run_induction hg hevents
    (P := fun s' t' => s'.registry.closed = true ∧ Continues (g.states.get t) (g.states.get t'))
    (fun _ _ _ _ h hmoves => ⟨hmoves.closed_mono h.1, h.2.trans (hmoves.continues hg)⟩)
    ⟨hs, .refl _⟩

/-- To a registry that is closed nobody gets through: a lookup is refused, a rebuild and another
closing change nothing. -/
structure Rejects (g : Gateway σ) (s : Tasks) (t : σ) : Prop where
  lookup : ∀ target, outcome (step g s (.lookup target)) t = (s.add .refused, t)
  rebuild : outcome (step g s .rebuild) t = (s.add .rebuilt, t)
  close : outcome (step g s .close) t = (s, t)

theorem rejects_of_closed {s : Tasks} (hs : s.registry.closed = true) (t : σ) : Rejects g s t := by
  refine ⟨fun target => ?_, ?_, ?_⟩
  · simp [step, hs]
  · simp [step, hs]
  · simp [step, Registry.close, hs]

theorem closed_of_close (hg : g.KeepsStates) {s : Tasks} {t : σ} (h : Sound g s t)
    (hopen : s.registry.closed = false) {cluster : String} {m : Manager}
    (hm : .answered cluster s.epoch (.ok m) ∈ s.tasks) :
    g.IsClosed m (outcome (step g s .close) t).2 := by
  have hready := h.kept cluster m hm
  simp only [step, Registry.close, hopen, Bool.false_eq_true, ↓reduceIte]
  exact Gateway.isClosed_forM_close hg hready (h.placed m hready)

/-- Once a registry has been closed, every manager that it handed out under the layout of that
moment refuses everything, for as long as the run goes on; later lookups are refused, and later
rebuilds and closings change nothing. -/
theorem run_close (hg : g.KeepsStates) (source : Source) (layout : Layout)
    {before later : List (Event σ)} (hbefore : ∀ e ∈ before, e.Keeps g)
    (hlater : ∀ e ∈ later, e.Keeps g) (t : σ) :
    let given := outcome (run g { registry := ofLayout source layout } before) t
    let closed := outcome (step g given.1 .close) given.2
    let after := outcome (run g closed.1 later) closed.2
    (given.1.registry.closed = false → ∀ cluster m,
      .answered cluster given.1.epoch (.ok m) ∈ given.1.tasks → g.Refuses m after.2) ∧
    Rejects g after.1 after.2 := by
  intro given closed after
  obtain ⟨hstays, hcontinues⟩ := run_closed hg hlater (s := closed.1) (t := closed.2)
    (by simp only [closed, step, outcome_bind, outcome_pure, Registry.close_eq])
  refine ⟨?_, rejects_of_closed hstays _⟩
  intro hopen cluster m hm
  have hsound := sound_run hg hbefore source layout t
  exact ((closed_of_close hg hsound hopen hm).mono hcontinues).refuses

def oneFile : Files :=
  ⟨[("config", Bytes.ofText
    ("clusters:\n- name: c\n  cluster:\n    server: http://c\ncontexts:\n- name: m\n" ++
      "  context:\n    cluster: c\ncurrent-context: m\n"))]⟩

def oneCluster : Layout where
  kubeconfig := {
    clusters := [⟨"c", some { server := some "http://c" }⟩]
    contexts := [⟨"m", some { cluster := "c" }⟩]
    currentContext := some "m" }
  clusters := ["c"]
  defaultCluster := "c"
  currentContext := "m"

def onOneFile : Gateway (List Manager.State) :=
  { Gateway.bare {} with host := pure { files := oneFile, now := ⟨⟨2027, 1, 1⟩, 0, 0⟩ } }

/-- For which cluster, and after how many layouts, a lookup was given a manager. -/
def given? : Task → Option (String × Nat)
  | .answered cluster epoch (.ok _) => some (cluster, epoch)
  | _ => none

theorem answered_of_given {a : Task} {cluster : String} {epoch : Nat}
    (h : given? a = some (cluster, epoch)) : ∃ m, a = .answered cluster epoch (.ok m) := by
  unfold given? at h
  split at h
  · rename_i m
    cases h
    exact ⟨m, rfl⟩
  · cases h

set_option maxRecDepth 10000 in
/-- A manager that was handed out before the closing refuses everything after it, and stays closed
through a rebuild. -/
theorem run_close_one_file :
    let given := outcome (run onOneFile { registry := ofLayout (.kubeconfig ["config"]) oneCluster }
      [.lookup "", .turn 0, .finish 0]) []
    let closed := outcome (step onOneFile given.1 .close) given.2
    let after := outcome (run onOneFile closed.1 [.rebuild, .lookup "c"]) closed.2
    (∃ m, .answered "c" 0 (.ok m) ∈ given.1.tasks ∧ onOneFile.Refuses m after.2) ∧
      Rejects onOneFile after.1 after.2 := by
  intro given closed after
  have hg : onOneFile.KeepsStates := ⟨fun _ _ => rfl, fun _ => .refl _⟩
  have hbefore : ∀ e ∈ [Event.lookup "", .turn 0, .finish 0], e.Keeps onOneFile := by
    simp [Event.Keeps]
  have hlater : ∀ e ∈ [Event.rebuild, .lookup "c"], e.Keeps onOneFile := by
    simp [Event.Keeps]
  obtain ⟨hrefuses, hrejects⟩ := run_close hg (.kubeconfig ["config"]) oneCluster hbefore
    hlater []
  have hfirst : (given.1.tasks[0]?.bind given?, given.1.epoch, given.1.registry.closed) =
      (some ("c", 0), 0, false) := by
    decide +kernel
  obtain ⟨htask, hrest⟩ := Prod.mk.inj hfirst
  obtain ⟨hepoch, hopen⟩ := Prod.mk.inj hrest
  obtain ⟨task, hi, hgiven⟩ := Option.bind_eq_some_iff.mp htask
  obtain ⟨m, rfl⟩ := answered_of_given hgiven
  have hm := List.mem_of_getElem? hi
  exact ⟨⟨m, hm, hrefuses hopen "c" m (hepoch.symm ▸ hm)⟩, hrejects⟩

/-- The managers that were handed out in a run from one cluster, and whether they are closed after
it. -/
def handedOut (events : List (Event (List Manager.State))) : List (Manager × Bool) :=
  let after := outcome
    (run onOneFile { registry := ofLayout (.kubeconfig ["config"]) oneCluster } events) []
  after.1.tasks.filterMap fun
    | .answered _ _ (.ok m) => some (m, ((onOneFile.state m).get after.2).closed)
    | _ => none

set_option maxRecDepth 10000 in
/-- A manager whose entry a rebuild has forgotten stays open, and so does one that is built while
the registry is closed. -/
theorem close_misses_forgotten_and_unfinished :
    (handedOut [.lookup "", .turn 0, .finish 0, .close]).map (·.2) = [true] ∧
    (handedOut [.lookup "", .turn 0, .finish 0, .rebuild, .turn 1, .close]).map (·.2) = [false] ∧
    (handedOut [.lookup "", .turn 0, .close, .finish 0]).map (·.2) = [false] := by
  decide +kernel

end ClusterAccess.Registry.Tasks
