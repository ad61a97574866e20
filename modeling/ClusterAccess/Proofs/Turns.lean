import ClusterAccess.Discovery.Readers
import ClusterAccess.Proofs.Courses
import ClusterAccess.Proofs.Noted

namespace ClusterAccess.Discovery

section

variable {σ : Type} (slot : Slot σ Cache) (fetch : Fetch σ)

namespace Reader

def isFetching : Reader → Bool
  | fetching _ => true
  | looking | waiting | lookingAgain | storing _ _ | fallingBack _ | answered _ => false

/-- The next move of a reader that is alone. A fetch ends at once. -/
def turn (r : Reader) : StateM σ Reader :=
  if r.isFetching then do return r.receive (← fetch)
  else fun s => ((r.advance (slot.get s) false).2, slot.set (r.advance (slot.get s) false).1 s)

def turns : Nat → Reader → StateM σ Reader
  | 0, r => pure r
  | n + 1, r => r.turn slot fetch >>= turns n

end Reader

/-- The end of a call for which nothing is there. -/
def fetchSince (tag : Nat) : StateM σ (Except MappingError Snapshot) := do
  match ← fetch with
  | .ok resources =>
    slot.update (·.publish tag ⟨resources⟩)
    return .ok ⟨resources⟩
  | .error e => return (← slot.read).fallback e

variable {slot fetch}

theorem turns_advance {r : Reader} (hr : r.isFetching = false) (n : Nat) (s : σ) :
    outcome (r.turns slot fetch (n + 1)) s =
      outcome ((r.advance (slot.get s) false).2.turns slot fetch n)
        (slot.set (r.advance (slot.get s) false).1 s) := by
  have hturn : outcome (r.turn slot fetch) s = ((r.advance (slot.get s) false).2,
      slot.set (r.advance (slot.get s) false).1 s) := by
    simp only [Reader.turn, hr]
    rfl
  exact outcome_bind_of hturn _

theorem Cache.current_eq_some_iff {c : Cache} {s : Snapshot} :
    c.current? = some s ↔ c.isFresh = true ∧ c.snapshot = some s := by
  cases h : c.isFresh <;> simp [current?, h]

/-- A fresh cache from which nothing is served has nothing to serve. -/
theorem snapshot_of_fresh {c : Cache} (hfresh : c.isFresh = true) (h : c.current? = none) :
    c.snapshot = none := by
  rwa [Cache.current?, if_pos hfresh] at h

theorem read_of_current {s : σ} {kept : Snapshot} (h : (slot.get s).current? = some kept) :
    outcome (read slot fetch) s = (.ok kept, s) := by
  unfold read
  rw [outcome_bind, Slot.outcome_read, h, outcome_pure]

theorem read_of_stale {s : σ} (h : (slot.get s).current? = none) :
    outcome (read slot fetch) s = outcome (fetchSince slot fetch (slot.get s).generation) s := by
  unfold read
  rw [outcome_bind, Slot.outcome_read, h]
  dsimp only
  unfold refresh
  rw [outcome_bind, Slot.outcome_read, h]
  rfl

variable (lawful : ∀ s, slot.set (slot.get s) s = s)
include lawful

theorem turns_answered (answer : Except MappingError Snapshot) (n : Nat) (s : σ) :
    outcome (Reader.turns slot fetch n (.answered answer)) s = (.answered answer, s) := by
  induction n with
  | zero => rfl
  | succ n ih =>
    rw [turns_advance rfl]
    simp only [Reader.advance, lawful, ih]

theorem turns_fetching (tag n : Nat) (s : σ) :
    outcome (Reader.turns slot fetch (n + 2) (.fetching tag)) s =
      Prod.map .answered id (outcome (fetchSince slot fetch tag) s) := by
  have hfetch : outcome (Reader.turns slot fetch (n + 2) (.fetching tag)) s =
      outcome (((Reader.fetching tag).receive (outcome fetch s).1).turns slot fetch (n + 1))
        (outcome fetch s).2 := rfl
  rw [hfetch]
  unfold fetchSince
  rw [outcome_bind]
  cases (outcome fetch s).1 with
  | ok resources =>
    rw [Reader.receive, turns_advance rfl]
    exact turns_answered lawful _ n _
  | error e =>
    rw [Reader.receive, turns_advance rfl]
    simp only [Reader.advance, lawful]
    exact turns_answered lawful _ n _

theorem turns_waiting {s : σ} (h : (slot.get s).current? = none) (n : Nat) :
    outcome (Reader.turns slot fetch (n + 4) .waiting) s =
      Prod.map .answered id (outcome (fetchSince slot fetch (slot.get s).generation) s) := by
  rw [turns_advance rfl]
  cases hfresh : (slot.get s).isFresh with
  | false =>
    simp only [Reader.advance, hfresh, Bool.false_eq_true, if_false, lawful]
    exact turns_fetching lawful _ (n + 1) s
  | true =>
    simp only [Reader.advance, hfresh, Bool.false_eq_true, if_true, if_false, lawful]
    rw [turns_advance rfl]
    simp only [Reader.advance, snapshot_of_fresh hfresh h, lawful]
    exact turns_fetching lawful _ n s

/-- A call is a reader that moves alone: it answers what the reader is answered, and leaves the
state that the reader's moves leave. -/
theorem read_eq_turns (s : σ) :
    outcome ((Reader.start (slot.get s)).turns slot fetch 5) s =
      Prod.map .answered id (outcome (read slot fetch) s) := by
  unfold Reader.start
  cases hcurrent : (slot.get s).current? with
  | some kept =>
    obtain ⟨hfresh, hkept⟩ := Cache.current_eq_some_iff.mp hcurrent
    rw [read_of_current hcurrent, if_pos hfresh, turns_advance rfl]
    simp only [Reader.advance, hkept, lawful]
    exact turns_answered lawful _ 4 s
  | none =>
    rw [read_of_stale hcurrent]
    cases hfresh : (slot.get s).isFresh with
    | false => exact turns_waiting lawful hcurrent 1
    | true =>
      -- fresh and empty: the reader looks for nothing, and once more in its turn
      rw [if_pos rfl, turns_advance rfl]
      simp only [Reader.advance, snapshot_of_fresh hfresh hcurrent, lawful]
      exact turns_waiting lawful hcurrent 0

end

namespace Readers

/-- The cache and its readers after the first `k` events. -/
def after (events : List Event) (k : Nat) : Readers :=
  run {} (events.take k)

/-- Reader `i` comes with event `a`. -/
structure Arrives (events : List Event) (a i : Nat) : Prop where
  event : events[a]? = some .arrive
  place : (after events a).readers.length = i

variable {events : List Event}

theorem after_eq_course (events : List Event) : after events = course step {} events :=
  rfl

theorem after_succ {k : Nat} {e : Event} (h : events[k]? = some e) :
    after events (k + 1) = (after events k).step e := by
  rw [after_eq_course, course_succ h]

theorem after_succ_of_none {k : Nat} (h : events[k]? = none) :
    after events (k + 1) = after events k := by
  rw [after_eq_course, course_succ_of_none h]

/-- The ways for reader `i` to have a state after one more event. -/
inductive Becomes (s : Readers) (i : Nat) : Event → Reader → Prop where
  | arrived (hi : s.readers.length = i) : Becomes s i .arrive (Reader.start s.cache)
  | advanced {r : Reader} (hr : s.readers[i]? = some r) :
      Becomes s i (.advance i) (r.advance s.cache s.busy).2
  | received {r : Reader} (hr : s.readers[i]? = some r)
      (outcome : Except MappingError (List ResourceType)) :
      Becomes s i (.receive i outcome) (r.receive outcome)
  | stayed {e : Event} {r : Reader} (hr : s.readers[i]? = some r) (hne : e ≠ .advance i) :
      Becomes s i e r

theorem becomes_of_step {s : Readers} {e : Event} {i : Nat} {r : Reader}
    (h : (s.step e).readers[i]? = some r) : Becomes s i e r := by
  cases e with
  | arrive =>
    rcases place_of_append h with h | ⟨hi, rfl⟩
    · exact .stayed h (by simp)
    · exact .arrived hi
  | advance j =>
    cases hj : s.readers[j]? with
    | none =>
      simp only [step, hj] at h
      refine .stayed h fun he => ?_
      cases he
      simp [hj] at h
    | some t =>
      simp only [step, hj] at h
      rcases place_of_set h with ⟨rfl, rfl⟩ | ⟨hji, h⟩
      · exact .advanced hj
      · exact .stayed h fun he => hji (Event.advance.inj he)
  | receive j outcome =>
    cases hj : s.readers[j]? with
    | none =>
      simp only [step, hj] at h
      exact .stayed h (by simp)
    | some t =>
      simp only [step, hj] at h
      rcases place_of_set h with ⟨rfl, rfl⟩ | ⟨hji, h⟩
      · exact .received hj outcome
      · exact .stayed h (by simp)
  | invalidate => exact .stayed h (by simp)

/-- The ways for one event to leave the cache. -/
inductive Leaves (s : Readers) : Event → Cache → Prop where
  | same (e : Event) : Leaves s e s.cache
  | invalidated : Leaves s .invalidate s.cache.invalidate
  | published {i tag : Nat} {resources : List ResourceType}
      (hr : s.readers[i]? = some (.storing tag resources)) :
      Leaves s (.advance i) (s.cache.publish tag ⟨resources⟩)

theorem leaves_step (s : Readers) (e : Event) : Leaves s e (s.step e).cache := by
  cases e with
  | arrive => exact .same _
  | invalidate => exact .invalidated
  | receive j outcome =>
    cases hj : s.readers[j]? with
    | none => simpa [step, hj] using Leaves.same _
    | some t => simpa [step, hj] using Leaves.same _
  | advance j =>
    cases hj : s.readers[j]? with
    | none => simpa [step, hj] using Leaves.same _
    | some t =>
      simp only [step, hj]
      cases t with
      | storing tag resources => exact .published hj
      | looking =>
        simp only [Reader.advance]
        split <;> exact .same _
      | lookingAgain =>
        simp only [Reader.advance]
        split <;> exact .same _
      | waiting =>
        simp only [Reader.advance]
        split
        · exact .same _
        · split <;> exact .same _
      | fetching tag => exact .same _
      | fallingBack cause => exact .same _
      | answered answer => exact .same _

theorem becomes_after {k i : Nat} {e : Event} {r : Reader} (he : events[k]? = some e)
    (hr : (after events (k + 1)).readers[i]? = some r) : Becomes (after events k) i e r :=
  becomes_of_step (after_succ he ▸ hr)

theorem leaves_after {k : Nat} {e : Event} (he : events[k]? = some e) :
    Leaves (after events k) e (after events (k + 1)).cache :=
  after_succ he ▸ leaves_step _ e

theorem after_mono {f : Readers → Nat} (hstep : ∀ s e, f s ≤ f (step s e)) {k l : Nat}
    (h : k ≤ l) : f (after events k) ≤ f (after events l) := by
  rw [after_eq_course]
  exact course_mono hstep h

theorem step_generation (s : Readers) (e : Event) :
    s.cache.generation ≤ (s.step e).cache.generation := by
  have hleaves := leaves_step s e
  generalize (s.step e).cache = c at hleaves ⊢
  cases hleaves with
  | same => exact Nat.le_refl _
  | invalidated => exact Nat.le_succ _
  | published hr => exact Nat.le_refl _

theorem generation_mono {k l : Nat} (h : k ≤ l) :
    (after events k).cache.generation ≤ (after events l).cache.generation :=
  after_mono (f := fun s => s.cache.generation) step_generation h

theorem generation_lt_of_invalidate {j k : Nat} (hj : events[j]? = some .invalidate)
    (h : j < k) : (after events j).cache.generation < (after events k).cache.generation := by
  refine Nat.lt_of_lt_of_le ?_ (generation_mono h)
  rw [after_succ hj]
  exact Nat.lt_succ_self _

/-- A fetch is as late as its generation: none of the declarations up to that generation comes
after its beginning. -/
theorem lt_of_generation_le {j k b : Nat} (hj : events[j]? = some .invalidate) (hjk : j < k)
    (h : (after events k).cache.generation ≤ (after events b).cache.generation) : j < b := by
  refine Nat.lt_of_not_le fun hbj => ?_
  have hlow := @generation_mono events _ _ hbj
  have hhigh := generation_lt_of_invalidate hj hjk
  omega

theorem step_length (s : Readers) (e : Event) :
    s.readers.length ≤ (s.step e).readers.length := by
  cases e with
  | arrive => simp [step]
  | advance j => cases hj : s.readers[j]? <;> simp [step, hj]
  | receive j outcome => cases hj : s.readers[j]? <;> simp [step, hj]
  | invalidate => exact Nat.le_refl _

/-- A reader is there only after it has come. -/
theorem Arrives.lt {a i k : Nat} {r : Reader} (ha : Arrives events a i)
    (hr : (after events k).readers[i]? = some r) : a < k := by
  refine Nat.lt_of_not_le fun hka => ?_
  have hlength := @after_mono events _ step_length _ _ hka
  have hi := (List.getElem?_eq_some_iff.mp hr).1
  have hplace := ha.place
  omega

theorem Arrives.le_generation {a i k : Nat} {r : Reader} (ha : Arrives events a i)
    (hr : (after events k).readers[i]? = some r) :
    (after events a).cache.generation ≤ (after events k).cache.generation :=
  generation_mono (Nat.le_of_lt (ha.lt hr))

/-- Once a snapshot is stored there is always one. -/
theorem snapshot_eq_none_of_le {k l : Nat} (h : k ≤ l)
    (hl : (after events l).cache.snapshot = none) : (after events k).cache.snapshot = none := by
  induction h with
  | refl => exact hl
  | @step l _ ih =>
    refine ih ?_
    cases he : events[l]? with
    | none => exact after_succ_of_none he ▸ hl
    | some e =>
      have hleaves := leaves_after he
      generalize (after events (l + 1)).cache = c at hleaves hl
      cases hleaves with
      | same => exact hl
      | invalidated => exact hl
      | published hr => cases hl

theorem Becomes.hasTurn {s : Readers} {i : Nat} {e : Event} {r : Reader} (h : Becomes s i e r)
    (hr : r.hasTurn = true) :
    (∃ t, s.readers[i]? = some t ∧ t.hasTurn = true) ∨ e = .advance i ∧ s.busy = false := by
  cases h with
  | arrived hi =>
    unfold Reader.start at hr
    split at hr <;> cases hr
  | stayed ht hne => exact .inl ⟨r, ht, hr⟩
  | @received t ht outcome =>
    refine .inl ⟨t, ht, ?_⟩
    cases t with
    | fetching tag => rfl
    | _ => exact hr
  | @advanced t ht =>
    cases t with
    | waiting =>
      cases hb : s.busy with
      | false => exact .inr ⟨rfl, rfl⟩
      | true =>
        rw [hb] at hr
        cases hr
    | looking =>
      simp only [Reader.advance] at hr
      split at hr <;> cases hr
    | answered answer => cases hr
    | lookingAgain => exact .inl ⟨_, ht, rfl⟩
    | fetching tag => exact .inl ⟨_, ht, rfl⟩
    | storing tag resources => exact .inl ⟨_, ht, rfl⟩
    | fallingBack cause => exact .inl ⟨_, ht, rfl⟩

theorem not_hasTurn_of_not_busy {s : Readers} (h : s.busy = false) {i : Nat} {r : Reader}
    (hr : s.readers[i]? = some r) : ¬ r.hasTurn = true := by
  have hnone := List.any_eq_false.mp h
  exact hnone r (List.mem_of_getElem? hr)

/-- No two readers have their turn at the same time. -/
def OneTurn (s : Readers) : Prop :=
  ∀ (i j : Nat) (r t : Reader), s.readers[i]? = some r → s.readers[j]? = some t →
    r.hasTurn = true → t.hasTurn = true → i = j

theorem OneTurn.step {s : Readers} (h : s.OneTurn) (e : Event) : (s.step e).OneTurn := by
  intro i j r t hr ht hri htj
  rcases (becomes_of_step hr).hasTurn hri with ⟨r₀, hr₀, hi⟩ | ⟨rfl, hbusy⟩
  · rcases (becomes_of_step ht).hasTurn htj with ⟨t₀, ht₀, hj⟩ | ⟨rfl, hbusy⟩
    · exact h i j r₀ t₀ hr₀ ht₀ hi hj
    · exact absurd hi (not_hasTurn_of_not_busy hbusy hr₀)
  · rcases (becomes_of_step ht).hasTurn htj with ⟨t₀, ht₀, hj⟩ | ⟨he, -⟩
    · exact absurd hj (not_hasTurn_of_not_busy hbusy ht₀)
    · exact Event.advance.inj he

end Readers

end ClusterAccess.Discovery
