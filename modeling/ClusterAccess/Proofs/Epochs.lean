import ClusterAccess.Proofs.Lookups

namespace ClusterAccess.Registry.Tasks

variable {σ : Type} {g : Gateway σ}

/-- What may become of the tasks with one event, whatever is found around them. -/
inductive Shifts (g : Gateway σ) (s : Tasks) : Event σ → Tasks → Prop where
  | stayed {e : Event σ} (he : ∀ target, e ≠ .lookup target) : Shifts g s e s
  | refused {target : String} (hc : s.registry.closed = true) :
      Shifts g s (.lookup target) (s.add .refused)
  | found {target : String} {answer : Except Error Manager}
      (hs : s.registry.settled? (s.registry.resolve target) = some answer) :
      Shifts g s (.lookup target) (s.add (.answered (s.registry.resolve target) s.epoch answer))
  | waited {target : String} (hs : s.registry.settled? (s.registry.resolve target) = none) :
      Shifts g s (.lookup target) (s.add (.waiting (s.registry.resolve target)))
  | ignored : Shifts g s .rebuild (s.add .rebuilt)
  | declared : Shifts g s .rebuild (s.add .rebuilding)
  | answered {i : Nat} {cluster : String} {answer : Except Error Manager} (hb : s.busy = false)
      (hi : s.tasks[i]? = some (.waiting cluster))
      (hs : s.registry.settled? cluster = some answer) :
      Shifts g s (.turn i) (s.put i (.answered cluster s.epoch answer))
  | begun {i : Nat} {cluster : String} (hb : s.busy = false)
      (hi : s.tasks[i]? = some (.waiting cluster)) (hs : s.registry.settled? cluster = none) :
      Shifts g s (.turn i)
        { s.put i (.building cluster) with builds := (s.epoch, cluster) :: s.builds }
  | relaid {i : Nat} (files : Files) (hb : s.busy = false) (hi : s.tasks[i]? = some .rebuilding) :
      Shifts g s (.turn i) ((s.relayout (Layout.read files s.registry.source)).put i .rebuilt)
  | built {i : Nat} {cluster : String} {made : Except Error Manager} {t : σ}
      (hi : s.tasks[i]? = some (.building cluster))
      (hmade : (outcome (s.registry.buildFor g cluster) t).1 = made) :
      Shifts g s (.finish i) { s.put i (.answered cluster s.epoch (answer cluster made)) with
        registry := s.registry.record cluster made }
  | closed : Shifts g s .close { s with registry := { s.registry with closed := true } }

theorem shifts_step (s : Tasks) (e : Event σ) (t : σ) :
    Shifts g s e (outcome (step g s e) t).1 := by
  cases e with
  | elsewhere change => exact .stayed (by simp)
  | lookup target =>
    simp only [step]
    split
    · exact .refused ‹_›
    · cases hs : s.registry.settled? (s.registry.resolve target) with
      | none =>
        simp only [sought, hs]
        exact .waited hs
      | some answer =>
        simp only [sought, hs]
        exact .found hs
  | rebuild =>
    simp only [step]
    split
    · exact .ignored
    · exact .declared
  | close =>
    cases hc : s.registry.closed with
    | true =>
      simp only [step, Registry.close, hc, ↓reduceIte]
      exact .stayed (by simp)
    | false =>
      simp only [step, Registry.close, hc, Bool.false_eq_true, ↓reduceIte]
      exact .closed
  | finish i =>
    simp only [step]
    split
    · exact .built ‹_› rfl
    · exact .stayed (by simp)
  | turn i =>
    simp only [step]
    split
    · exact .stayed (by simp)
    · rename_i hb
      have hb := Bool.eq_false_iff.mpr hb
      split
      · rename_i cluster hi
        cases hs : s.registry.settled? cluster with
        | none =>
          simp only [sought, hs]
          exact .begun hb hi hs
        | some answer =>
          simp only [sought, hs]
          exact .answered hb hi hs
      · exact .relaid _ hb ‹_›
      · exact .stayed (by simp)

/-- The tasks after the first `k` events of a run. -/
def reached (g : Gateway σ) (s : Tasks) (t : σ) (events : List (Event σ)) (k : Nat) : Tasks :=
  (outcome (run g s (events.take k)) t).1

variable {s : Tasks} {t : σ} {events : List (Event σ)}

theorem reached_succ_of_none {k : Nat} (h : events[k]? = none) :
    reached g s t events (k + 1) = reached g s t events k := by
  simp [reached, List.take_add_one, h]

theorem shifts_reached {k : Nat} {e : Event σ} (h : events[k]? = some e) :
    Shifts g (reached g s t events k) e (reached g s t events (k + 1)) := by
  have hsucc : reached g s t events (k + 1) = (outcome (step g (reached g s t events k) e)
      (outcome (run g s (events.take k)) t).2).1 := by
    simp only [reached, run, List.take_add_one, h, Option.toList_some, List.foldlM_append]
    rfl
  rw [hsucc]
  exact shifts_step _ e _

/-- What every event preserves holds after any number of them. -/
theorem reached_induction {P : Tasks → Prop} (hstep : ∀ s e s', P s → Shifts g s e s' → P s')
    {k l : Nat} (hkl : k ≤ l) (h : P (reached g s t events k)) : P (reached g s t events l) := by
  induction hkl with
  | refl => exact h
  | @step l _ ih =>
    cases he : events[l]? with
    | none => exact reached_succ_of_none he ▸ ih
    | some e => exact hstep _ _ _ ih (shifts_reached he)

theorem epoch_relayout (s : Tasks) (layout : Except Misconfiguration Layout) :
    (s.relayout layout).epoch = s.epoch + 1 ∨ s.relayout layout = s := by
  cases layout with
  | ok layout => exact .inl rfl
  | error problem => exact .inr rfl

theorem Shifts.epoch_le {s' : Tasks} {e : Event σ} (h : Shifts g s e s') :
    s.epoch ≤ s'.epoch := by
  cases h with
  | relaid files hb hi => exact s.epoch_le_relayout _
  | _ => exact Nat.le_refl _

/-- The layout changes from one epoch to the next only. -/
theorem Shifts.layout_eq {s' : Tasks} {e : Event σ} (h : Shifts g s e s')
    (hepoch : s'.epoch = s.epoch) : s'.registry.layout = s.registry.layout := by
  cases h with
  | relaid files hb hi =>
    rcases s.epoch_relayout (Layout.read files s.registry.source) with hnext | hsame
    · exact absurd (hnext.symm.trans hepoch) (Nat.succ_ne_self _)
    · exact congrArg (·.registry.layout) hsame
  | _ => rfl

/-- An answer is given in the epoch of its moment, and is what the registry then tells. -/
theorem Shifts.answers {s' : Tasks} {e : Event σ} (h : Shifts g s e s') {cluster : String}
    {n : Nat} {a : Except Error Manager} (ha : .answered cluster n a ∈ s'.tasks) :
    .answered cluster n a ∈ s.tasks ∨
      n = s.epoch ∧ s'.epoch = s.epoch ∧ s'.registry.settled? cluster = some a := by
  cases h with
  | stayed he => exact .inl ha
  | closed => exact .inl ha
  | found hs =>
    rcases List.mem_append.mp ha with ha | ha
    · exact .inl ha
    · cases List.mem_singleton.mp ha
      exact .inr ⟨rfl, rfl, hs⟩
  | answered hb hi hs =>
    rcases List.mem_or_eq_of_mem_set ha with ha | ha
    · exact .inl ha
    · cases ha
      exact .inr ⟨rfl, rfl, hs⟩
  | built hi hmade =>
    rcases List.mem_or_eq_of_mem_set ha with ha | ha
    · exact .inl ha
    · cases ha
      exact .inr ⟨rfl, rfl, by rw [settled_record, if_pos rfl]⟩
  | begun hb hi hs =>
    rcases List.mem_or_eq_of_mem_set ha with ha | ha
    · exact .inl ha
    · cases ha
  | relaid files hb hi =>
    have htasks : (s.relayout (Layout.read files s.registry.source)).tasks = s.tasks := rfl
    rcases List.mem_or_eq_of_mem_set ha with ha | ha
    · exact .inl (htasks ▸ ha)
    · cases ha
  | _ => exact .inl (by simpa [Tasks.add] using ha)

end ClusterAccess.Registry.Tasks
