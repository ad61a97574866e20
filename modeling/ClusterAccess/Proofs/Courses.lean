namespace ClusterAccess

variable {σ ε : Type} {step : σ → ε → σ} {start : σ} {events : List ε}

/-- The state after the first `k` events. -/
def course (step : σ → ε → σ) (start : σ) (events : List ε) (k : Nat) : σ :=
  (events.take k).foldl step start

theorem course_succ {k : Nat} {e : ε} (h : events[k]? = some e) :
    course step start events (k + 1) = step (course step start events k) e := by
  simp [course, List.take_add_one, h]

theorem course_succ_of_none {k : Nat} (h : events[k]? = none) :
    course step start events (k + 1) = course step start events k := by
  simp [course, List.take_add_one, h]

theorem course_length : course step start events events.length = events.foldl step start := by
  rw [course, List.take_length]

/-- What every event preserves holds from any moment on. -/
theorem course_induction {P : σ → Prop} (hstep : ∀ s e, P s → P (step s e)) {k l : Nat}
    (hkl : k ≤ l) (h : P (course step start events k)) : P (course step start events l) := by
  induction hkl with
  | refl => exact h
  | @step l _ ih =>
    cases he : events[l]? with
    | none => exact course_succ_of_none he ▸ ih
    | some e => exact course_succ he ▸ hstep _ e ih

/-- A number that no event lowers is never lowered. -/
theorem course_mono {f : σ → Nat} (hstep : ∀ s e, f s ≤ f (step s e)) {k l : Nat} (hkl : k ≤ l) :
    f (course step start events k) ≤ f (course step start events l) :=
  course_induction (P := fun s => f (course step start events k) ≤ f s)
    (fun s e h => Nat.le_trans h (hstep s e)) hkl (Nat.le_refl _)

variable {α : Type} {parties : List α} {i j : Nat} {a b : α}

theorem place_of_append (h : (parties ++ [a])[i]? = some b) :
    parties[i]? = some b ∨ parties.length = i ∧ a = b := by
  rw [List.getElem?_append] at h
  split at h
  · exact .inl h
  · obtain ⟨hlt, heq⟩ := List.getElem?_eq_some_iff.mp h
    simp only [List.length_singleton, List.getElem_singleton] at hlt heq
    exact .inr ⟨by omega, heq⟩

theorem place_of_set (h : (parties.set j a)[i]? = some b) :
    j = i ∧ a = b ∨ j ≠ i ∧ parties[i]? = some b := by
  rw [List.getElem?_set] at h
  split at h
  · split at h
    · exact .inl ⟨‹_›, Option.some.inj h⟩
    · cases h
  · exact .inr ⟨‹_›, h⟩

end ClusterAccess
