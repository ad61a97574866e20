import ClusterAccess.Proofs.Turns

namespace ClusterAccess.Discovery

/-- A reader whose fetch has failed falls back and is answered; it never stores. -/
inductive Reader.IsOver : Reader → Prop where
  | fallingBack (cause : MappingError) : IsOver (.fallingBack cause)
  | answered (answer : Except MappingError Snapshot) : IsOver (.answered answer)

namespace Readers

/-- Reader `i` has begun to fetch with event `b`, and after `k` events it is still at it. -/
structure FetchesSince (events : List Event) (i b k : Nat) : Prop where
  before : b < k
  begins : events[b]? = some (.advance i)
  idle : ∃ r, (after events b).readers[i]? = some r ∧ ∀ tag, r ≠ .fetching tag
  lasts : ∀ l, b < l → l ≤ k → ∃ tag, (after events l).readers[i]? = some (.fetching tag)

/-- A fetch of reader `i` has begun with event `b` and ended with event `e`. -/
structure Fetched (events : List Event) (i b e : Nat)
    (outcome : Except MappingError (List ResourceType)) : Prop
    extends FetchesSince events i b e where
  ends : events[e]? = some (.receive i outcome)

variable {events : List Event}

/-- What the state of reader `i` after `k` events tells of the events before. A reader that has
seen a fresh cache will find nothing older in it than its own arrival. -/
def Tells (events : List Event) (k i : Nat) : Reader → Prop
  | .looking | .lookingAgain => ∀ a, Arrives events a i →
      (after events a).cache.generation ≤ (after events k).cache.fetched
  | .waiting => True
  | .fetching tag => ∃ b, FetchesSince events i b k ∧
      (after events b).cache.generation = tag ∧ (after events k).cache.fetched ≤ tag
  | .storing tag resources => ∃ b e, e < k ∧ Fetched events i b e (.ok resources) ∧
      (after events b).cache.generation = tag ∧ (after events k).cache.fetched ≤ tag
  | .fallingBack cause => ∃ b e, Fetched events i b e (.error cause)
  | .answered (.ok s) =>
      (∃ j b e, Fetched events j b e (.ok s.resources) ∧ ∀ a, Arrives events a i →
        (after events a).cache.generation ≤ (after events b).cache.generation) ∨
      (∃ b e cause, Fetched events i b e (.error cause)) ∧
        ∃ w, events[w]? = some (.advance i) ∧ (after events w).cache.snapshot = some s
  | .answered (.error cause) => (∃ b e, Fetched events i b e (.error cause)) ∧
      ∃ w, events[w]? = some (.advance i) ∧ (after events w).cache.snapshot = none

/-- What is stored after `k` events. -/
inductive Stores (events : List Event) (k : Nat) : Cache → Prop where
  | nothing {c : Cache} (hs : c.snapshot = none) (hf : c.fetched = 0) : Stores events k c
  | fetched {c : Cache} {s : Snapshot} {i b e : Nat} (hs : c.snapshot = some s)
      (hf : Fetched events i b e (.ok s.resources)) (he : e < k)
      (hg : (after events b).cache.generation = c.fetched) : Stores events k c

/-- What holds after any number of events. -/
structure Coherent (events : List Event) (k : Nat) : Prop where
  oneTurn : (after events k).OneTurn
  stores : Stores events k (after events k).cache
  tells : ∀ (i : Nat) (r : Reader), (after events k).readers[i]? = some r → Tells events k i r

/-- A snapshot is not tagged later than it is. -/
theorem Stores.fetched_le {k : Nat} (h : Stores events k (after events k).cache) :
    (after events k).cache.fetched ≤ (after events k).cache.generation := by
  cases h with
  | nothing hs hf => omega
  | fetched hs hf he hg =>
    rw [← hg]
    exact generation_mono (Nat.le_of_lt (Nat.lt_trans hf.before he))

/-- A cache takes a new tag from a reader that stores, and this tag is not older. -/
theorem Coherent.fetched_le {k : Nat} {e : Event} (h : Coherent events k)
    (he : events[k]? = some e) :
    (after events k).cache.fetched ≤ (after events (k + 1)).cache.fetched := by
  have hleaves := leaves_after he
  generalize (after events (k + 1)).cache = c at hleaves ⊢
  cases hleaves with
  | same => exact Nat.le_refl _
  | invalidated => exact Nat.le_refl _
  | @published i tag resources hr =>
    obtain ⟨b, e, -, -, -, htag⟩ := h.tells i _ hr
    exact htag

/-- While a reader has its turn, nobody else changes the tag. -/
theorem Coherent.fetched_eq {k i : Nat} {e : Event} {r : Reader} (h : Coherent events k)
    (he : events[k]? = some e) (hr : (after events k).readers[i]? = some r)
    (hturn : r.hasTurn = true) (hne : e ≠ .advance i) :
    (after events (k + 1)).cache.fetched = (after events k).cache.fetched := by
  have hleaves := leaves_after he
  generalize (after events (k + 1)).cache = c at hleaves ⊢
  cases hleaves with
  | same => rfl
  | invalidated => rfl
  | @published j tag resources hj =>
    have hij := h.oneTurn i j _ _ hr hj hturn rfl
    exact absurd (hij ▸ rfl) hne

theorem Coherent.stores_succ {k : Nat} {e : Event} (h : Coherent events k)
    (he : events[k]? = some e) : Stores events (k + 1) (after events (k + 1)).cache := by
  have hleaves := leaves_after he
  generalize (after events (k + 1)).cache = c at hleaves ⊢
  cases hleaves with
  | same =>
    cases h.stores with
    | nothing hs hf => exact .nothing hs hf
    | fetched hs hf he hg => exact .fetched hs hf (Nat.lt_succ_of_lt he) hg
  | invalidated =>
    cases h.stores with
    | nothing hs hf => exact .nothing hs hf
    | fetched hs hf he hg => exact .fetched hs hf (Nat.lt_succ_of_lt he) hg
  | @published i tag resources hr =>
    obtain ⟨b, e, he, hf, hg, -⟩ := h.tells i _ hr
    exact .fetched rfl hf (Nat.lt_succ_of_lt he) hg

/-- What a stored snapshot tells a reader that has seen a fresh cache. -/
theorem Coherent.answered_of_fresh {k i : Nat} {s : Snapshot} (h : Coherent events k)
    (hs : (after events k).cache.snapshot = some s)
    (hseen : ∀ a, Arrives events a i →
      (after events a).cache.generation ≤ (after events k).cache.fetched) (l : Nat) :
    Tells events l i (.answered (.ok s)) := by
  have hstores := h.stores
  generalize (after events k).cache = c at hstores hs hseen
  cases hstores with
  | nothing hn hf => simp [hn] at hs
  | @fetched t j b e ht hf he hg =>
    obtain rfl := Option.some.inj (ht.symm.trans hs)
    exact .inl ⟨j, b, e, hf, fun a ha => hg ▸ hseen a ha⟩

/-- A fetch begins with the generation that is current. -/
theorem Coherent.begins {k i : Nat} {r : Reader} (h : Coherent events k)
    (he : events[k]? = some (.advance i)) (hr : (after events k).readers[i]? = some r)
    (hidle : ∀ tag, r ≠ .fetching tag)
    (hnext : (after events (k + 1)).readers[i]? =
      some (.fetching (after events k).cache.generation))
    (hcache : (after events (k + 1)).cache = (after events k).cache) :
    Tells events (k + 1) i (.fetching (after events k).cache.generation) := by
  refine ⟨k, ⟨Nat.lt_succ_self k, he, ⟨r, hr, hidle⟩, ?_⟩, rfl, ?_⟩
  · intro l hkl hlk
    obtain rfl : l = k + 1 := by omega
    exact ⟨_, hnext⟩
  · rw [hcache]
    exact h.stores.fetched_le

/-- A reader that waits or is answered, or whose fetch is over, tells the same after any event; so
does one that goes on fetching or looking, as long as the tag keeps up with it. -/
theorem Coherent.tells_same {k i : Nat} {e : Event} {r : Reader} (h : Coherent events k)
    (he : events[k]? = some e) (hr : (after events k).readers[i]? = some r)
    (hnext : (after events (k + 1)).readers[i]? = some r) (hne : e ≠ .advance i) :
    Tells events (k + 1) i r := by
  have htells := h.tells i r hr
  have hfetched := h.fetched_le he
  cases r with
  | looking => exact fun a ha => Nat.le_trans (htells a ha) hfetched
  | lookingAgain => exact fun a ha => Nat.le_trans (htells a ha) hfetched
  | waiting => trivial
  | fetching tag =>
    obtain ⟨b, hf, hg, htag⟩ := htells
    refine ⟨b, ⟨Nat.lt_succ_of_lt hf.before, hf.begins, hf.idle, ?_⟩, hg, ?_⟩
    · intro l hbl hlk
      rcases Nat.lt_or_eq_of_le hlk with hl | rfl
      · exact hf.lasts l hbl (Nat.le_of_lt_succ hl)
      · exact ⟨tag, hnext⟩
    · exact h.fetched_eq he hr rfl hne ▸ htag
  | storing tag resources =>
    obtain ⟨b, e', he', hf, hg, htag⟩ := htells
    exact ⟨b, e', Nat.lt_succ_of_lt he', hf, hg, h.fetched_eq he hr rfl hne ▸ htag⟩
  | fallingBack cause => exact htells
  | answered answer =>
    cases answer with
    | ok s => exact htells
    | error cause => exact htells

theorem after_advance {k i : Nat} {r : Reader} (he : events[k]? = some (.advance i))
    (hr : (after events k).readers[i]? = some r) :
    (after events (k + 1)).cache = (r.advance (after events k).cache (after events k).busy).1 ∧
    (after events (k + 1)).readers[i]? =
      some (r.advance (after events k).cache (after events k).busy).2 := by
  have hi := (List.getElem?_eq_some_iff.mp hr).1
  simp only [after_succ he, step, hr]
  exact ⟨trivial, List.getElem?_set_self hi⟩

/-- A reader's own move: it sees whether the cache is fresh, takes a snapshot, begins to fetch,
stores what it has fetched, or falls back. -/
theorem Coherent.tells_advance {k i : Nat} {r : Reader} (h : Coherent events k)
    (he : events[k]? = some (.advance i)) (hr : (after events k).readers[i]? = some r) :
    Tells events (k + 1) i (r.advance (after events k).cache (after events k).busy).2 := by
  have htells := h.tells i r hr
  obtain ⟨hcache, hnext⟩ := after_advance he hr
  cases r with
  | looking =>
    cases hs : (after events k).cache.snapshot with
    | none =>
      simp only [Reader.advance, hs]
      trivial
    | some s =>
      simp only [Reader.advance, hs]
      exact h.answered_of_fresh hs htells (k + 1)
  | waiting =>
    simp only [Reader.advance] at hcache hnext ⊢
    split
    · trivial
    · rename_i hbusy
      simp only [hbusy, Bool.false_eq_true, ↓reduceIte] at hcache hnext
      split
      · rename_i hfresh
        simp only [hfresh, ↓reduceIte] at hcache
        intro a ha
        rw [hcache, of_decide_eq_true hfresh]
        exact ha.le_generation hr
      · rename_i hfresh
        simp only [hfresh, Bool.false_eq_true, ↓reduceIte] at hcache hnext
        exact h.begins he hr (by simp) hnext hcache
  | lookingAgain =>
    simp only [Reader.advance] at hcache hnext ⊢
    cases hs : (after events k).cache.snapshot with
    | none =>
      simp only [hs] at hcache hnext ⊢
      exact h.begins he hr (by simp) hnext hcache
    | some s =>
      simp only
      exact h.answered_of_fresh hs htells (k + 1)
  | fetching tag =>
    obtain ⟨b, hf, hg, htag⟩ := htells
    refine ⟨b, ⟨Nat.lt_succ_of_lt hf.before, hf.begins, hf.idle, ?_⟩, hg, ?_⟩
    · intro l hbl hlk
      rcases Nat.lt_or_eq_of_le hlk with hl | rfl
      · exact hf.lasts l hbl (Nat.le_of_lt_succ hl)
      · exact ⟨tag, hnext⟩
    · rw [hcache]
      exact htag
  | storing tag resources =>
    obtain ⟨b, e, -, hf, -, -⟩ := htells
    obtain ⟨t, ht, -⟩ := hf.idle
    exact .inl ⟨i, b, e, hf, fun a ha => ha.le_generation ht⟩
  | fallingBack cause =>
    obtain ⟨b, e, hf⟩ := htells
    cases hs : (after events k).cache.snapshot with
    | none =>
      simp only [Reader.advance, Cache.fallback, hs]
      exact ⟨⟨b, e, hf⟩, k, he, hs⟩
    | some s =>
      simp only [Reader.advance, Cache.fallback, hs]
      exact .inr ⟨⟨b, e, cause, hf⟩, k, he, hs⟩
  | answered answer =>
    cases answer with
    | ok s => exact htells
    | error cause => exact htells

theorem Coherent.tells_receive {k i : Nat} {r : Reader} (h : Coherent events k)
    {outcome : Except MappingError (List ResourceType)}
    (he : events[k]? = some (.receive i outcome)) (hr : (after events k).readers[i]? = some r)
    (hnext : (after events (k + 1)).readers[i]? = some (r.receive outcome)) :
    Tells events (k + 1) i (r.receive outcome) := by
  have htells := h.tells i r hr
  cases r with
  | fetching tag =>
    obtain ⟨b, hf, hg, htag⟩ := htells
    cases outcome with
    | ok resources =>
      exact ⟨b, k, Nat.lt_succ_self k, ⟨hf, he⟩, hg, h.fetched_eq he hr rfl (by simp) ▸ htag⟩
    | error cause => exact ⟨b, k, ⟨hf, he⟩⟩
  | _ => exact h.tells_same he hr hnext (by simp)

theorem Coherent.tells_succ {k i : Nat} {e : Event} {r : Reader} (h : Coherent events k)
    (he : events[k]? = some e) (hr : (after events (k + 1)).readers[i]? = some r) :
    Tells events (k + 1) i r := by
  have hbecomes := becomes_after he hr
  cases hbecomes with
  | stayed ht hne => exact h.tells_same he ht hr hne
  | advanced ht => exact h.tells_advance he ht
  | received ht outcome => exact h.tells_receive he ht hr
  | arrived hi =>
    unfold Reader.start
    split
    · rename_i hfresh
      intro a ha
      have hak : a ≤ k := Nat.le_of_lt_succ (ha.lt hr)
      have hsame : (after events (k + 1)).cache = (after events k).cache := by
        rw [after_succ he, step]
      rw [hsame, of_decide_eq_true hfresh]
      exact generation_mono hak
    · trivial

theorem coherent (events : List Event) (k : Nat) (hk : k ≤ events.length) :
    Coherent events k := by
  induction k with
  | zero =>
    refine ⟨?_, .nothing rfl rfl, ?_⟩
    · intro i j r t hr
      cases hr
    · intro i r hr
      cases hr
  | succ k ih =>
    have ih := ih (Nat.le_of_lt hk)
    have he : events[k]? = some events[k] := List.getElem?_eq_getElem hk
    exact ⟨after_succ he ▸ ih.oneTurn.step _, ih.stores_succ he,
      fun i r hr => ih.tells_succ he hr⟩

theorem Becomes.isOver {s : Readers} {i : Nat} {e : Event} {r t : Reader} (h : Becomes s i e t)
    (hr : s.readers[i]? = some r) (hover : r.IsOver) : t.IsOver := by
  cases h with
  | arrived hi =>
    have hlt := (List.getElem?_eq_some_iff.mp hr).1
    omega
  | stayed ht hne =>
    obtain rfl := Option.some.inj (ht.symm.trans hr)
    exact hover
  | advanced ht =>
    obtain rfl := Option.some.inj (ht.symm.trans hr)
    cases hover with
    | fallingBack cause => exact .answered _
    | answered answer => exact .answered answer
  | received ht outcome =>
    obtain rfl := Option.some.inj (ht.symm.trans hr)
    cases hover with
    | fallingBack cause => exact .fallingBack cause
    | answered answer => exact .answered answer

theorem exists_reader_succ {k i : Nat} {e : Event} {r : Reader} (he : events[k]? = some e)
    (hr : (after events k).readers[i]? = some r) :
    ∃ t, (after events (k + 1)).readers[i]? = some t ∧ Becomes (after events k) i e t := by
  have hlt := (List.getElem?_eq_some_iff.mp hr).1
  have hle := @after_mono events _ step_length _ _ (Nat.le_succ k)
  have ht := List.getElem?_eq_getElem (Nat.lt_of_lt_of_le hlt hle)
  exact ⟨_, ht, becomes_after he ht⟩

theorem Fetched.isOver {i b e l : Nat} {cause : MappingError}
    (h : Fetched events i b e (.error cause)) (hl : e < l) (hlen : l ≤ events.length) :
    ∃ r, (after events l).readers[i]? = some r ∧ r.IsOver := by
  induction hl with
  | refl =>
    obtain ⟨tag, hr⟩ := h.lasts e h.before (Nat.le_refl e)
    refine ⟨.fallingBack cause, ?_, .fallingBack cause⟩
    have hi := (List.getElem?_eq_some_iff.mp hr).1
    simp only [after_succ h.ends, step, hr]
    exact List.getElem?_set_self hi
  | @step l hl ih =>
    obtain ⟨r, hr, hover⟩ := ih (Nat.le_of_lt hlen)
    obtain ⟨t, ht, hbecomes⟩ := exists_reader_succ (List.getElem?_eq_getElem hlen) hr
    exact ⟨t, ht, hbecomes.isOver hr hover⟩

/-- From the beginning of a fetch that fails, no event of its reader changes the cache. -/
theorem Fetched.cache_eq {i b e w : Nat} {cause : MappingError}
    (h : Fetched events i b e (.error cause)) (hw : b ≤ w)
    (hevent : events[w]? = some (.advance i)) :
    (after events (w + 1)).cache = (after events w).cache := by
  obtain ⟨hlen, -⟩ := List.getElem?_eq_some_iff.mp hevent
  have hstill : ∀ tag resources,
      (after events w).readers[i]? ≠ some (.storing tag resources) := by
    intro tag resources hr
    rcases Nat.lt_or_eq_of_le hw with hbw | rfl
    · rcases Nat.lt_or_ge e w with hew | hew
      · obtain ⟨t, ht, hover⟩ := h.isOver hew (Nat.le_of_lt hlen)
        obtain rfl := Option.some.inj (ht.symm.trans hr)
        cases hover
      · obtain ⟨tag', ht⟩ := h.lasts w hbw hew
        simp [hr] at ht
    · obtain ⟨tag', ht⟩ := h.lasts (b + 1) (Nat.lt_succ_self b) h.before
      obtain ⟨-, hnext⟩ := after_advance hevent hr
      simp [hnext, Reader.advance] at ht
  have hleaves := leaves_after hevent
  generalize (after events (w + 1)).cache = c at hleaves ⊢
  cases hleaves with
  | same => rfl
  | published hr => exact absurd hr (hstill _ _)

theorem after_length (events : List Event) : after events events.length = run {} events :=
  course_length

theorem coherent_run (events : List Event) :
    Stores events events.length (run {} events).cache ∧ (run {} events).OneTurn ∧
    ∀ (i : Nat) (r : Reader), (run {} events).readers[i]? = some r →
      Tells events events.length i r := by
  have h := coherent events events.length (Nat.le_refl _)
  rw [← after_length events]
  exact ⟨h.stores, h.oneTurn, h.tells⟩

theorem fetched_of_fresh (h : (run {} events).cache.isFresh = true) :
    ∃ s i b e, (run {} events).cache.snapshot = some s ∧ Fetched events i b e (.ok s.resources) ∧
      ∀ j, events[j]? = some .invalidate → j < b := by
  have hfresh := of_decide_eq_true h
  have hnow := congrArg (fun s => s.cache.generation) (after_length events)
  have hstores := (coherent_run events).1
  generalize (run {} events).cache = c at hfresh hnow hstores ⊢
  cases hstores with
  | nothing hs hf =>
    have hpos := @generation_mono events _ _ (Nat.zero_le events.length)
    have hone : (after events 0).cache.generation = 1 := rfl
    omega
  | @fetched s i b e hs hf he hg =>
    refine ⟨s, i, b, e, hs, hf, fun j hj => ?_⟩
    refine lt_of_generation_le hj (List.getElem?_eq_some_iff.mp hj).1 ?_
    omega

theorem answered_ok {j a i : Nat} {s : Snapshot} (hj : events[j]? = some .invalidate)
    (ha : Arrives events a i) (hja : j < a)
    (hr : (run {} events).readers[i]? = some (.answered (.ok s))) :
    (∃ l b e, Fetched events l b e (.ok s.resources) ∧ j < b) ∨
      (∃ b e cause, Fetched events i b e (.error cause)) ∧
        ∃ w, events[w]? = some (.advance i) ∧ (after events w).cache.snapshot = some s := by
  rcases (coherent_run events).2.2 i _ hr with ⟨l, b, e, hf, hg⟩ | hown
  · exact .inl ⟨l, b, e, hf, lt_of_generation_le hj hja (hg a ha)⟩
  · exact .inr hown

theorem answered_error {i : Nat} {cause : MappingError}
    (hr : (run {} events).readers[i]? = some (.answered (.error cause))) :
    (∃ b e, Fetched events i b e (.error cause)) ∧
      ∃ w, events[w]? = some (.advance i) ∧
        ∀ l, l ≤ w → (after events l).cache.snapshot = none := by
  obtain ⟨hf, w, hw, hs⟩ := (coherent_run events).2.2 i _ hr
  exact ⟨hf, w, hw, fun l hl => snapshot_eq_none_of_le hl hs⟩

theorem fetching_unique {i j tag tag' : Nat}
    (hi : (run {} events).readers[i]? = some (.fetching tag))
    (hj : (run {} events).readers[j]? = some (.fetching tag')) : i = j :=
  (coherent_run events).2.1 i j _ _ hi hj rfl rfl

/-- No declaration that the cache is stale is lost, whatever the order of events. A fresh cache
holds what a fetch brought that began after the last declaration. A reader that comes after a
declaration is answered from a fetch that began after it, unless a fetch of its own has failed, and
then with what was stored. Only one fetch is under way at a time. A fetch that fails leaves the
cache as it is, and becomes an error only while nothing has ever been stored. -/
theorem run_loses_no_invalidation (events : List Event) :
    ((run {} events).cache.isFresh = true →
      ∃ s i b e, (run {} events).cache.snapshot = some s ∧
        Fetched events i b e (.ok s.resources) ∧
        ∀ j, events[j]? = some .invalidate → j < b) ∧
    (∀ (j a i : Nat) (s : Snapshot), events[j]? = some .invalidate → Arrives events a i → j < a →
      (run {} events).readers[i]? = some (.answered (.ok s)) →
      (∃ l b e, Fetched events l b e (.ok s.resources) ∧ j < b) ∨
      (∃ b e cause, Fetched events i b e (.error cause)) ∧
        ∃ w, events[w]? = some (.advance i) ∧ (after events w).cache.snapshot = some s) ∧
    (∀ (i j tag tag' : Nat), (run {} events).readers[i]? = some (.fetching tag) →
      (run {} events).readers[j]? = some (.fetching tag') → i = j) ∧
    (∀ (i b e : Nat) (cause : MappingError), Fetched events i b e (.error cause) → ∀ w, b ≤ w →
      (events[w]? = some (.advance i) ∨ ∃ outcome, events[w]? = some (.receive i outcome)) →
      (after events (w + 1)).cache = (after events w).cache) ∧
    ∀ (i : Nat) (cause : MappingError),
      (run {} events).readers[i]? = some (.answered (.error cause)) →
      (∃ b e, Fetched events i b e (.error cause)) ∧
      ∃ w, events[w]? = some (.advance i) ∧
        ∀ l, l ≤ w → (after events l).cache.snapshot = none := by
  refine ⟨fetched_of_fresh, ?_, ?_, ?_, ?_⟩
  · intro j a i s hj ha hja hr
    exact answered_ok hj ha hja hr
  · intro i j tag tag' hi hj
    exact fetching_unique hi hj
  · intro i b e cause hf w hw hevent
    rcases hevent with hevent | ⟨outcome, hevent⟩
    · exact hf.cache_eq hw hevent
    · have hleaves := leaves_after hevent
      generalize (after events (w + 1)).cache = c at hleaves ⊢
      cases hleaves
      rfl
  · intro i cause hr
    exact answered_error hr

/-- A declaration during a fetch outlives it. -/
example : (run {} [.arrive, .advance 0, .invalidate, .receive 0 (.ok []), .advance 0]).cache.isFresh
    = false := by
  decide

end Readers

end ClusterAccess.Discovery
