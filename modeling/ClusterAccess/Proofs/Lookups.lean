import ClusterAccess.Proofs.Courses
import ClusterAccess.Proofs.Entries
import ClusterAccess.Proofs.Lives
import ClusterAccess.Registry.Tasks

namespace ClusterAccess.Registry.Tasks

open Manager.State (Continues)

variable {σ : Type}

/-- What happens elsewhere opens no manager again. -/
def Event.Keeps (g : Gateway σ) : Event σ → Prop
  | .elsewhere change => ∀ s, Continues (g.states.get s) (g.states.get (outcome change s).2)
  | _ => True

/-- All that one event can do. -/
inductive Moves (g : Gateway σ) (s : Tasks) (t : σ) : Tasks → σ → Prop where
  | stayed {u : σ} (h : Continues (g.states.get t) (g.states.get u)) : Moves g s t s u
  | refused (hc : s.registry.closed = true) : Moves g s t (s.add .refused) t
  | found {cluster : String} {answer : Except Error Manager} (hc : s.registry.closed = false)
      (hs : s.registry.settled? cluster = some answer) :
      Moves g s t (s.add (.answered cluster s.epoch answer)) t
  | waited {cluster : String} (hc : s.registry.closed = false)
      (hs : s.registry.settled? cluster = none) : Moves g s t (s.add (.waiting cluster)) t
  | ignored (hc : s.registry.closed = true) : Moves g s t (s.add .rebuilt) t
  | declared {u : σ} (hc : s.registry.closed = false)
      (h : Continues (g.states.get t) (g.states.get u)) : Moves g s t (s.add .rebuilding) u
  | answered {i : Nat} {cluster : String} {answer : Except Error Manager} (hb : s.busy = false)
      (hi : s.tasks[i]? = some (.waiting cluster))
      (hs : s.registry.settled? cluster = some answer) :
      Moves g s t (s.put i (.answered cluster s.epoch answer)) t
  | begun {i : Nat} {cluster : String} (hb : s.busy = false)
      (hi : s.tasks[i]? = some (.waiting cluster)) (hs : s.registry.settled? cluster = none) :
      Moves g s t { s.put i (.building cluster) with builds := (s.epoch, cluster) :: s.builds } t
  | relaid {i : Nat} {u : σ} (layout : Except Misconfiguration Layout) (hb : s.busy = false)
      (hi : s.tasks[i]? = some .rebuilding)
      (h : Continues (g.states.get t) (g.states.get u)) :
      Moves g s t ((s.relayout layout).put i .rebuilt) u
  | built {i : Nat} {cluster : String} {made : Except Error Manager} {u : σ}
      (hi : s.tasks[i]? = some (.building cluster))
      (h : outcome (s.registry.buildFor g cluster) t = (made, u)) :
      Moves g s t { s.put i (.answered cluster s.epoch (answer cluster made)) with
        registry := s.registry.record cluster made } u
  | closed {u : σ} (hc : s.registry.closed = false)
      (h : outcome (s.registry.managers.forM g.close) t = ((), u)) :
      Moves g s t { s with registry := { s.registry with closed := true } } u

theorem moves_step {g : Gateway σ} (hg : g.KeepsStates) (s : Tasks) (t : σ) {e : Event σ}
    (he : e.Keeps g) : Moves g s t (outcome (step g s e) t).1 (outcome (step g s e) t).2 := by
  cases e with
  | elsewhere change => exact .stayed (he t)
  | lookup target =>
    simp only [step]
    split
    · exact .refused ‹_›
    · rename_i hc
      have hc := Bool.eq_false_iff.mpr hc
      cases hs : s.registry.settled? (s.registry.resolve target) with
      | none =>
        simp only [sought, hs]
        exact .waited hc hs
      | some answer =>
        simp only [sought, hs]
        exact .found hc hs
  | rebuild =>
    simp only [step]
    split
    · exact .ignored ‹_›
    · exact .declared (Bool.eq_false_iff.mpr ‹_›)
        (Gateway.forM_continues (Gateway.invalidate_continues hg) t)
  | close =>
    cases hc : s.registry.closed with
    | true =>
      simp only [step, Registry.close, hc, ↓reduceIte]
      exact .stayed (.refl _)
    | false =>
      simp only [step, Registry.close, hc, Bool.false_eq_true, ↓reduceIte]
      exact .closed hc rfl
  | finish i =>
    simp only [step]
    split
    · exact .built ‹_› rfl
    · exact .stayed (.refl _)
  | turn i =>
    simp only [step]
    split
    · exact .stayed (.refl _)
    · rename_i hb
      have hb := Bool.eq_false_iff.mpr hb
      split
      · rename_i cluster hi
        cases hs : s.registry.settled? cluster with
        | none =>
          simp only [sought, hs]
          exact .begun hb hi hs
        | some answer =>
          simp only [sought, hs]
          exact .answered hb hi hs
      · exact .relaid _ hb ‹_› (hg.host t)
      · exact .stayed (.refl _)

/-- No move opens a manager again. -/
theorem Moves.continues {g : Gateway σ} (hg : g.KeepsStates) {s s' : Tasks} {t t' : σ}
    (h : Moves g s t s' t') : Continues (g.states.get t) (g.states.get t') := by
  cases h with
  | stayed hu => exact hu
  | declared hc hu => exact hu
  | relaid layout hb hi hu => exact hu
  | closed hc hu =>
    have hcontinues : Continues (g.states.get t)
        (g.states.get (outcome (s.registry.managers.forM g.close) t).2) :=
      Gateway.forM_continues (Gateway.close_continues hg) t
    rwa [hu] at hcontinues
  | @built i cluster made u hi hmade =>
    have hplaces := buildFor_places hg s.registry cluster t
    rw [hmade] at hplaces
    exact hplaces.continues
  | _ => exact .refl _

/-- Lookup `i` builds the manager of a cluster. -/
def Builds (s : Tasks) (i : Nat) (cluster : String) : Prop :=
  s.tasks[i]? = some (.building cluster)

theorem not_builds_of_not_busy {s : Tasks} (h : s.busy = false) (i : Nat) (cluster : String) :
    ¬ s.Builds i cluster := by
  intro hi
  have hnone := List.any_eq_false.mp h _ (List.mem_of_getElem? hi)
  exact hnone rfl

/-- What holds after any number of events. One lookup at a time builds, and only what is not there
yet; what was answered since the layout last changed is still there. -/
structure Sound (g : Gateway σ) (s : Tasks) (t : σ) : Prop where
  oneTurn : ∀ i j c d, s.Builds i c → s.Builds j d → i = j
  needed : ∀ i c, s.Builds i c → s.registry.settled? c = none
  epoch : ∀ c n a, .answered c n a ∈ s.tasks → n ≤ s.epoch
  kept : ∀ c m, .answered c s.epoch (.ok m) ∈ s.tasks → m ∈ s.registry.managers
  placed : ∀ m ∈ s.registry.managers, m.id < (g.states.get t).length

theorem sound_ofLayout (g : Gateway σ) (source : Source) (layout : Layout) (t : σ) :
    Sound g { registry := ofLayout source layout } t := by
  refine ⟨?_, ?_, ?_, ?_, ?_⟩ <;> simp [Builds, managers_ofLayout]

theorem Sound.later {g : Gateway σ} {s : Tasks} {t u : σ} (h : Sound g s t)
    (htu : Continues (g.states.get t) (g.states.get u)) : Sound g s u :=
  { h with placed := fun m hm => Nat.lt_of_lt_of_le (h.placed m hm) htu.length }

theorem builds_add {s : Tasks} {a : Task} (ha : ∀ c, a ≠ .building c) {i : Nat} {c : String}
    (h : (s.add a).Builds i c) : s.Builds i c := by
  rcases place_of_append h with h | ⟨-, h⟩
  · exact h
  · exact absurd h (ha c)

/-- One more task, which does not build, and tells what the registry does. -/
theorem Sound.add {g : Gateway σ} {s : Tasks} {t : σ} (h : Sound g s t) {a : Task}
    (hbuild : ∀ c, a ≠ .building c)
    (hanswer : ∀ c n b, a = .answered c n b → n = s.epoch ∧ s.registry.settled? c = some b) :
    Sound g (s.add a) t := by
  have hbuilds : ∀ i c, (s.add a).Builds i c → s.Builds i c := fun i c => builds_add hbuild
  have hmem : ∀ b ∈ (s.add a).tasks, b ∈ s.tasks ∨ b = a := fun b hb => by
    simpa [Tasks.add] using hb
  refine ⟨?_, ?_, ?_, ?_, h.placed⟩
  · intro i j c d hi hj
    exact h.oneTurn i j c d (hbuilds i c hi) (hbuilds j d hj)
  · intro i c hi
    exact h.needed i c (hbuilds i c hi)
  · intro c n b hb
    rcases hmem _ hb with hb | hb
    · exact h.epoch c n b hb
    · exact Nat.le_of_eq (hanswer c n b hb.symm).1
  · intro c m hm
    rcases hmem _ hm with hm | hm
    · exact h.kept c m hm
    · exact mem_of_settled (hanswer c _ _ hm.symm).2

theorem builds_put {s : Tasks} {i j : Nat} {a : Task} {c : String} (h : (s.put i a).Builds j c) :
    i ≠ j ∧ s.Builds j c ∨ i = j ∧ a = .building c :=
  (place_of_set h).symm

theorem epoch_le_relayout (s : Tasks) (layout : Except Misconfiguration Layout) :
    s.epoch ≤ (s.relayout layout).epoch := by
  cases layout with
  | ok layout => exact Nat.le_succ _
  | error problem => exact Nat.le_refl _

/-- A new layout has no managers, and answers of its own come later. -/
theorem Sound.relayout {g : Gateway σ} {s : Tasks} {t : σ} (h : Sound g s t)
    (layout : Except Misconfiguration Layout) (c : String) (m : Manager)
    (hm : .answered c (s.relayout layout).epoch (.ok m) ∈ s.tasks) :
    m ∈ (s.relayout layout).registry.managers := by
  cases layout with
  | ok layout =>
    have hle := h.epoch c _ _ hm
    exact absurd hle (Nat.not_succ_le_self _)
  | error problem => exact h.kept c m hm

theorem managers_relayout_subset (s : Tasks) (layout : Except Misconfiguration Layout) :
    ∀ m ∈ (s.relayout layout).registry.managers, m ∈ s.registry.managers := by
  cases layout with
  | ok layout =>
    intro m hm
    simp [Tasks.relayout, managers_relayout] at hm
  | error problem => exact fun m hm => hm

/-- The only task that may have built does so no longer, and what it tells is in the registry. -/
theorem Sound.put {g : Gateway σ} {s s' : Tasks} {t t' : σ} (h : Sound g s t) {i : Nat} {a : Task}
    (htasks : s'.tasks = (s.put i a).tasks) (hepoch : s.epoch ≤ s'.epoch)
    (hidle : ∀ j c, i ≠ j → ¬ s.Builds j c) (hbuild : ∀ c, a ≠ .building c)
    (hanswer : ∀ c n b, a = .answered c n b → n = s'.epoch ∧
      ∀ m, b = .ok m → m ∈ s'.registry.managers)
    (hkept : ∀ c m, .answered c s'.epoch (.ok m) ∈ s.tasks → m ∈ s'.registry.managers)
    (hplaced : ∀ m ∈ s'.registry.managers, m.id < (g.states.get t').length) : Sound g s' t' := by
  have hnone : ∀ j c, ¬ s'.Builds j c := by
    intro j c hj
    simp only [Builds, htasks] at hj
    rcases builds_put hj with ⟨hij, hj⟩ | ⟨-, ha⟩
    · exact hidle j c hij hj
    · exact hbuild c ha
  have hmem : ∀ b ∈ s'.tasks, b ∈ s.tasks ∨ b = a := fun b hb =>
    List.mem_or_eq_of_mem_set (htasks ▸ hb)
  refine ⟨fun j _ c _ hj => absurd hj (hnone j c), fun j c hj => absurd hj (hnone j c), ?_, ?_,
    hplaced⟩
  · intro c n b hb
    rcases hmem _ hb with hb | hb
    · exact Nat.le_trans (h.epoch c n b hb) hepoch
    · exact Nat.le_of_eq (hanswer c n b hb.symm).1
  · intro c m hm
    rcases hmem _ hm with hm | hm
    · exact hkept c m hm
    · exact (hanswer c _ _ hm.symm).2 m rfl

theorem Sound.begin {g : Gateway σ} {s : Tasks} {t : σ} (h : Sound g s t) {i : Nat}
    {cluster : String} (hb : s.busy = false) (hs : s.registry.settled? cluster = none)
    (builds : List (Nat × String)) :
    Sound g { s.put i (.building cluster) with builds } t := by
  have honly : ∀ j c, (s.put i (.building cluster)).Builds j c → i = j ∧ cluster = c := by
    intro j c hj
    rcases builds_put hj with ⟨-, hj⟩ | ⟨hij, ha⟩
    · exact absurd hj (not_builds_of_not_busy hb j c)
    · cases ha
      exact ⟨hij, rfl⟩
  have hmem : ∀ c n b, .answered c n b ∈ (s.put i (.building cluster)).tasks →
      .answered c n b ∈ s.tasks := by
    intro c n b hm
    rcases List.mem_or_eq_of_mem_set hm with hm | hm
    · exact hm
    · cases hm
  refine ⟨?_, ?_, ?_, ?_, h.placed⟩
  · intro j k c d hj hk
    exact (honly j c hj).1.symm.trans (honly k d hk).1
  · intro j c hj
    exact (honly j c hj).2 ▸ hs
  · exact fun c n b hm => h.epoch c n b (hmem c n b hm)
  · exact fun c m hm => h.kept c m (hmem _ _ _ hm)

theorem Sound.step {g : Gateway σ} {s s' : Tasks} {t t' : σ} (h : Sound g s t)
    (hg : g.KeepsStates) (hmoves : Moves g s t s' t') : Sound g s' t' := by
  cases hmoves with
  | stayed hu => exact h.later hu
  | refused hc => exact h.add (by simp) (by simp)
  | found hc hs => exact h.add (by simp) (by rintro c n b ⟨⟩; exact ⟨rfl, hs⟩)
  | waited hc hs => exact h.add (by simp) (by simp)
  | ignored hc => exact h.add (by simp) (by simp)
  | declared hc hu => exact (h.later hu).add (by simp) (by simp)
  | closed hc hu =>
    have hcontinues := Moves.continues hg (.closed hc hu)
    exact ⟨h.oneTurn, h.needed, h.epoch, h.kept, (h.later hcontinues).placed⟩
  | begun hb hi hs => exact h.begin hb hs _
  | @answered i cluster answer hb hi hs =>
    refine h.put rfl (Nat.le_refl _) (fun j c _ => not_builds_of_not_busy hb j c) (by simp) ?_
      h.kept h.placed
    rintro c n b ⟨⟩
    exact ⟨rfl, fun m hm => mem_of_settled (hm ▸ hs)⟩
  | @relaid i u layout hb hi hu =>
    refine h.put rfl (s.epoch_le_relayout layout) (fun j c _ => not_builds_of_not_busy hb j c)
      (by simp) (by simp) (h.relayout layout) fun m hm => ?_
    exact Nat.lt_of_lt_of_le (h.placed m (s.managers_relayout_subset layout m hm)) hu.length
  | @built i cluster made u hi hmade =>
    have hrecord := mem_managers_record (h.needed i cluster hi) made
    have hplaces := buildFor_places hg s.registry cluster t
    rw [hmade] at hplaces
    refine h.put rfl (Nat.le_refl _) (fun j c hij hj => hij (h.oneTurn i j cluster c hi hj))
      (by simp) ?_ (fun c m hm => (hrecord m).mpr (.inl (h.kept c m hm))) fun m hm => ?_
    · rintro c n b ⟨⟩
      refine ⟨rfl, fun m hm => (hrecord m).mpr (.inr ?_)⟩
      cases made with
      | ok made => exact hm
      | error cause => cases hm
    · rcases (hrecord m).mp hm with hm | hm
      · exact Nat.lt_of_lt_of_le (h.placed m hm) hplaces.continues.length
      · exact hplaces.placed m hm

end ClusterAccess.Registry.Tasks
