import ClusterAccess.Proofs.Courses
import ClusterAccess.Proofs.Noted
import ClusterAccess.Schema.Readers

namespace ClusterAccess.Schema

/-- What a reader may ask the server for. -/
inductive Query where
  | index
  | document (target : String)

def Query.target : Query → String
  | index => "/openapi/v3"
  | document target => target

/-- What a reader waits for. -/
def Stage.query? : Stage → Option Query
  | fetchingIndex _ _ => some .index
  | fetchingDocument _ target => some (.document target)
  | missed _ | seeking _ _ | storingIndex _ _ _ | answered _ => none

section

variable {σ : Type} (slot : Slot σ Cache) (service : Client.Service σ)

namespace Reader

/-- The next move; what it asks for is answered at once. -/
def turn (r : Reader) : StateM σ Reader :=
  match r.stage.query? with
  | some query => do
    let response ← fetchJson service query.target
    fun s => ((r.receive (slot.get s) response).2, slot.set (r.receive (slot.get s) response).1 s)
  | none => fun s => ((r.advance (slot.get s)).2, slot.set (r.advance (slot.get s)).1 s)

def turns : Nat → Reader → StateM σ Reader
  | 0, r => pure r
  | n + 1, r => r.turn slot service >>= turns n

end Reader

/-- The end of a call that has an index in hand. -/
def readDocument (tag : Nat) (key : String) (index : Index) :
    StateM σ (Except TransportError (Option Components)) := do
  match index.lookup key with
  | none => return .ok none
  | some target =>
    match ← fetchJson service target with
    | .error e => return .error e
    | .ok document =>
      slot.update (·.keepDocument tag key (componentsOf document))
      return .ok (some (componentsOf document))

variable {slot service}

theorem turns_advance {r : Reader} (hq : r.stage.query? = none) (n : Nat) (s : σ) :
    outcome (r.turns slot service (n + 1)) s =
      outcome ((r.advance (slot.get s)).2.turns slot service n)
        (slot.set (r.advance (slot.get s)).1 s) := by
  have hturn : outcome (r.turn slot service) s =
      ((r.advance (slot.get s)).2, slot.set (r.advance (slot.get s)).1 s) := by
    simp only [Reader.turn, hq]
    rfl
  exact outcome_bind_of hturn _

theorem turns_receive {r : Reader} {q : Query} {response : Except TransportError Json} {s t : σ}
    (hq : r.stage.query? = some q) (hf : outcome (fetchJson service q.target) s = (response, t))
    (n : Nat) : outcome (r.turns slot service (n + 1)) s =
      outcome ((r.receive (slot.get t) response).2.turns slot service n)
        (slot.set (r.receive (slot.get t) response).1 t) := by
  have hturn : outcome (r.turn slot service) s =
      ((r.receive (slot.get t) response).2, slot.set (r.receive (slot.get t) response).1 t) := by
    simp only [Reader.turn, hq]
    exact outcome_bind_of hf _
  exact outcome_bind_of hturn _

variable (lawful : ∀ s, slot.set (slot.get s) s = s)
include lawful

theorem turns_answered (key : String) (answer : Except TransportError (Option Components))
    (n : Nat) (s : σ) :
    outcome (Reader.turns slot service n ⟨key, .answered answer⟩) s =
      (⟨key, .answered answer⟩, s) := by
  induction n with
  | zero => rfl
  | succ n ih =>
    rw [turns_advance rfl]
    simp only [Reader.advance, lawful, ih]

theorem turns_follow (r : Reader) (tag : Nat) (index : Index) (n : Nat) (s : σ) :
    outcome ((r.follow tag index).turns slot service (n + 1)) s =
      Prod.map (fun answer => ⟨r.key, .answered answer⟩) id
        (outcome (readDocument slot service tag r.key index) s) := by
  unfold Reader.follow readDocument
  cases index.lookup r.key with
  | none => exact turns_answered lawful _ _ (n + 1) s
  | some target =>
    cases hf : outcome (fetchJson service target) s with
    | mk response t =>
      rw [turns_receive (q := .document target) rfl hf, outcome_bind_of hf]
      cases response with
      | error e =>
        simp only [Reader.receive, lawful]
        exact turns_answered lawful _ _ n t
      | ok document => exact turns_answered lawful _ _ n _

/-- A call is a reader that moves alone: it answers what the reader is answered, and leaves the
state that the reader's moves leave. -/
theorem readComponents_eq_turns (key : String) (s : σ) :
    outcome ((Reader.start (slot.get s) key).turns slot service 5) s =
      Prod.map (fun answer => ⟨key, .answered answer⟩) id
        (outcome (readComponents slot service key) s) := by
  have hread : outcome slot.read s = (slot.get s, s) := rfl
  unfold Reader.start readComponents
  rw [outcome_bind_of hread]
  cases (slot.get s).document? key with
  | some components => exact turns_answered lawful _ _ 5 s
  | none =>
    rw [turns_advance rfl]
    simp only [Reader.advance, lawful]
    rw [turns_advance rfl]
    unfold readIndex
    rw [outcome_bind, outcome_bind_of hread]
    simp only [Reader.advance, Cache.index?]
    cases (slot.get s).indexAt? (slot.get s).generation with
    | some index =>
      simp only [lawful]
      exact turns_follow lawful ⟨key, _⟩ _ index 2 s
    | none =>
      simp only [lawful]
      cases hf : outcome (fetchJson service "/openapi/v3") s with
      | mk response t =>
        rw [turns_receive (q := .index) rfl hf, outcome_bind_of hf]
        cases response with
        | error e =>
          simp only [Reader.receive, lawful]
          exact turns_answered lawful _ _ 2 t
        | ok document =>
          simp only [Reader.receive, lawful]
          rw [turns_advance rfl]
          exact turns_follow lawful ⟨key, _⟩ _ (indexOf document) 0 _

end

namespace Readers

/-- The cache and its readers after the first `k` events. -/
def after (events : List Event) (k : Nat) : Readers :=
  course step {} events k

/-- Reader `i` comes with event `a` and asks for a kind. -/
structure Arrives (events : List Event) (a i : Nat) (kind : GroupVersionKind) : Prop where
  event : events[a]? = some (.arrive kind)
  place : (after events a).readers.length = i

/-- Reader `i` has begun to ask with event `b`, and after `k` events it still waits. -/
structure AsksSince (events : List Event) (i : Nat) (query : Query) (b k : Nat) : Prop where
  before : b < k
  begins : events[b]? = some (.advance i)
  idle : ∃ r, (after events b).readers[i]? = some r ∧ r.stage.query? = none
  lasts : ∀ l, b < l → l ≤ k →
    ∃ r, (after events l).readers[i]? = some r ∧ r.stage.query? = some query

/-- What reader `i` began to ask for with event `b` is answered with event `e`. -/
structure Fetched (events : List Event) (i : Nat) (query : Query) (b e : Nat)
    (response : Except TransportError Json) : Prop extends AsksSince events i query b e where
  ends : events[e]? = some (.receive i response)

variable {events : List Event}

/-- The ways for reader `i` to have a state after one more event. -/
inductive Becomes (s : Readers) (i : Nat) : Event → Reader → Prop where
  | arrived (kind : GroupVersionKind) (hi : s.readers.length = i) :
      Becomes s i (.arrive kind) (Reader.start s.cache (documentKey kind))
  | advanced {r : Reader} (hr : s.readers[i]? = some r) :
      Becomes s i (.advance i) (r.advance s.cache).2
  | received {r : Reader} (hr : s.readers[i]? = some r)
      (response : Except TransportError Json) :
      Becomes s i (.receive i response) (r.receive s.cache response).2
  | stayed {e : Event} {r : Reader} (hr : s.readers[i]? = some r) (hmove : e ≠ .advance i)
      (hanswer : ∀ response, e ≠ .receive i response) : Becomes s i e r

theorem becomes_of_step {s : Readers} {e : Event} {i : Nat} {r : Reader}
    (h : (s.step e).readers[i]? = some r) : Becomes s i e r := by
  cases e with
  | arrive kind =>
    rcases place_of_append h with h | ⟨hi, rfl⟩
    · exact .stayed h (by simp) (by simp)
    · exact .arrived kind hi
  | advance j =>
    cases hj : s.readers[j]? with
    | none =>
      simp only [step, hj] at h
      refine .stayed h (fun he => ?_) (by simp)
      cases he
      simp [hj] at h
    | some t =>
      simp only [step, hj] at h
      rcases place_of_set h with ⟨rfl, rfl⟩ | ⟨hji, h⟩
      · exact .advanced hj
      · exact .stayed h (fun he => hji (Event.advance.inj he)) (by simp)
  | receive j response =>
    cases hj : s.readers[j]? with
    | none =>
      simp only [step, hj] at h
      refine .stayed h (by simp) fun response he => ?_
      cases he
      simp [hj] at h
    | some t =>
      simp only [step, hj] at h
      rcases place_of_set h with ⟨rfl, rfl⟩ | ⟨hji, h⟩
      · exact .received hj response
      · exact .stayed h (by simp) fun _ he => hji (Event.receive.inj he).1
  | outdate => exact .stayed h (by simp) (by simp)
  | release => exact .stayed h (by simp) (by simp)

theorem Becomes.key {s : Readers} {i : Nat} {e : Event} {r t : Reader} (h : Becomes s i e t)
    (hr : s.readers[i]? = some r) : t.key = r.key := by
  cases h with
  | arrived kind hi =>
    have hlt := (List.getElem?_eq_some_iff.mp hr).1
    omega
  | stayed ht =>
    obtain rfl := Option.some.inj (ht.symm.trans hr)
    rfl
  | advanced ht =>
    obtain rfl := Option.some.inj (ht.symm.trans hr)
    unfold Reader.advance
    split
    · rfl
    · split <;> rfl
    · rfl
    · rfl
    · rfl
    · rfl
  | received ht response =>
    obtain rfl := Option.some.inj (ht.symm.trans hr)
    unfold Reader.receive
    split <;> rfl

/-- The ways for one event to leave the cache. -/
inductive Leaves (s : Readers) : Event → Cache → Prop where
  | same (e : Event) : Leaves s e s.cache
  | outdated : Leaves s .outdate s.cache.outdate
  | released : Leaves s .release s.cache.release
  | keptIndex {i tag mark : Nat} {key : String} {index : Index}
      (hr : s.readers[i]? = some ⟨key, .storingIndex tag mark index⟩) :
      Leaves s (.advance i) (s.cache.keepIndex mark index)
  | keptDocument {i tag : Nat} {key target : String} {document : Json}
      (hr : s.readers[i]? = some ⟨key, .fetchingDocument tag target⟩) :
      Leaves s (.receive i (.ok document))
        (s.cache.keepDocument tag key (componentsOf document))

theorem leaves_step (s : Readers) (e : Event) : Leaves s e (s.step e).cache := by
  cases e with
  | arrive kind => exact .same _
  | outdate => exact .outdated
  | release => exact .released
  | advance j =>
    cases hj : s.readers[j]? with
    | none => simpa [step, hj] using Leaves.same _
    | some t =>
      obtain ⟨key, stage⟩ := t
      simp only [step, hj]
      cases stage with
      | storingIndex tag mark index => exact .keptIndex hj
      | seeking tag mark =>
        simp only [Reader.advance]
        split <;> exact .same _
      | missed tag => exact .same _
      | fetchingIndex tag mark => exact .same _
      | fetchingDocument tag target => exact .same _
      | answered answer => exact .same _
  | receive j response =>
    cases hj : s.readers[j]? with
    | none => simpa [step, hj] using Leaves.same _
    | some t =>
      obtain ⟨key, stage⟩ := t
      simp only [step, hj]
      cases stage with
      | fetchingDocument tag target =>
        cases response with
        | ok document => exact .keptDocument hj
        | error e => exact .same _
      | fetchingIndex tag mark => cases response <;> exact .same _
      | _ => exact .same _

theorem after_succ {k : Nat} {e : Event} (h : events[k]? = some e) :
    after events (k + 1) = (after events k).step e :=
  course_succ h

theorem after_succ_of_none {k : Nat} (h : events[k]? = none) :
    after events (k + 1) = after events k :=
  course_succ_of_none h

theorem becomes_after {k i : Nat} {e : Event} {r : Reader} (he : events[k]? = some e)
    (hr : (after events (k + 1)).readers[i]? = some r) : Becomes (after events k) i e r :=
  becomes_of_step (after_succ he ▸ hr)

theorem leaves_after {k : Nat} {e : Event} (he : events[k]? = some e) :
    Leaves (after events k) e (after events (k + 1)).cache :=
  after_succ he ▸ leaves_step _ e

theorem generation_keepIndex (c : Cache) (mark : Nat) (index : Index) :
    (c.keepIndex mark index).generation = c.generation := by
  unfold Cache.keepIndex
  split <;> rfl

theorem generation_keepDocument (c : Cache) (tag : Nat) (key : String) (components : Components) :
    (c.keepDocument tag key components).generation = c.generation := by
  unfold Cache.keepDocument
  split <;> rfl

theorem step_generation (s : Readers) (e : Event) :
    s.cache.generation ≤ (s.step e).cache.generation := by
  have hleaves := leaves_step s e
  generalize (s.step e).cache = c at hleaves ⊢
  cases hleaves with
  | same => exact Nat.le_refl _
  | outdated => exact Nat.le_succ _
  | released => exact Nat.le_refl _
  | keptIndex hr => exact Nat.le_of_eq (generation_keepIndex _ _ _).symm
  | keptDocument hr => exact Nat.le_of_eq (generation_keepDocument _ _ _ _).symm

theorem generation_mono {k l : Nat} (h : k ≤ l) :
    (after events k).cache.generation ≤ (after events l).cache.generation :=
  course_mono (f := fun s : Readers => s.cache.generation) step_generation h

theorem generation_lt_of_outdate {j k : Nat} (hj : events[j]? = some .outdate) (h : j < k) :
    (after events j).cache.generation < (after events k).cache.generation := by
  refine Nat.lt_of_lt_of_le ?_ (generation_mono h)
  rw [after_succ hj]
  exact Nat.lt_succ_self _

/-- What begins in a generation begins after every invalidation up to that generation. -/
theorem lt_of_generation_le {j k b : Nat} (hj : events[j]? = some .outdate) (hjk : j < k)
    (h : (after events k).cache.generation ≤ (after events b).cache.generation) : j < b := by
  refine Nat.lt_of_not_le fun hbj => ?_
  have hlow := @generation_mono events _ _ hbj
  have hhigh := generation_lt_of_outdate hj hjk
  omega

theorem step_length (s : Readers) (e : Event) :
    s.readers.length ≤ (s.step e).readers.length := by
  cases e with
  | arrive kind => simp [step]
  | advance j => cases hj : s.readers[j]? <;> simp [step, hj]
  | receive j response => cases hj : s.readers[j]? <;> simp [step, hj]
  | outdate => exact Nat.le_refl _
  | release => exact Nat.le_refl _

theorem length_mono {k l : Nat} (h : k ≤ l) :
    (after events k).readers.length ≤ (after events l).readers.length :=
  course_mono (f := fun s : Readers => s.readers.length) step_length h

/-- A reader is there only after it has come. -/
theorem Arrives.lt {a i k : Nat} {kind : GroupVersionKind} {r : Reader}
    (ha : Arrives events a i kind) (hr : (after events k).readers[i]? = some r) : a < k := by
  refine Nat.lt_of_not_le fun hka => ?_
  have hlength := @length_mono events _ _ hka
  have hi := (List.getElem?_eq_some_iff.mp hr).1
  have hplace := ha.place
  omega

theorem key_later {k l i : Nat} {r t : Reader} (hkl : k ≤ l)
    (hr : (after events k).readers[i]? = some r) (ht : (after events l).readers[i]? = some t) :
    t.key = r.key := by
  induction hkl generalizing t with
  | refl => rw [Option.some.inj (hr.symm.trans ht)]
  | @step l hkl ih =>
    cases he : events[l]? with
    | none => exact ih (after_succ_of_none he ▸ ht)
    | some e =>
      have hlength := @length_mono events _ _ hkl
      have hi := (List.getElem?_eq_some_iff.mp hr).1
      have hbefore := List.getElem?_eq_getElem (Nat.lt_of_lt_of_le hi hlength)
      exact ((becomes_after he ht).key hbefore).trans (ih hbefore)

/-- A reader stays with what it came for. -/
theorem Arrives.key {a i k : Nat} {kind : GroupVersionKind} {r : Reader}
    (ha : Arrives events a i kind) (hr : (after events k).readers[i]? = some r) :
    r.key = documentKey kind := by
  have hstart : (after events (a + 1)).readers[i]? =
      some (Reader.start (after events a).cache (documentKey kind)) := by
    rw [after_succ ha.event]
    simp [step, ← ha.place]
  exact key_later (ha.lt hr) hstart hr

theorem AsksSince.begin {i k : Nat} {query : Query} {r t : Reader}
    (he : events[k]? = some (.advance i)) (hr : (after events k).readers[i]? = some r)
    (hidle : r.stage.query? = none) (ht : (after events (k + 1)).readers[i]? = some t)
    (hquery : t.stage.query? = some query) : AsksSince events i query k (k + 1) := by
  refine ⟨Nat.lt_succ_self k, he, ⟨r, hr, hidle⟩, fun l hkl hlk => ?_⟩
  obtain rfl := Nat.le_antisymm hlk hkl
  exact ⟨t, ht, hquery⟩

theorem AsksSince.succ {i b k : Nat} {query : Query} {t : Reader}
    (h : AsksSince events i query b k) (ht : (after events (k + 1)).readers[i]? = some t)
    (hquery : t.stage.query? = some query) : AsksSince events i query b (k + 1) := by
  refine ⟨Nat.lt_succ_of_lt h.before, h.begins, h.idle, fun l hbl hlk => ?_⟩
  rcases Nat.lt_or_eq_of_le hlk with hl | rfl
  · exact h.lasts l hbl (Nat.le_of_lt_succ hl)
  · exact ⟨t, ht, hquery⟩

/-- A reader waits for one thing at a time. -/
theorem AsksSince.unique {i b b' k : Nat} {query query' : Query}
    (h : AsksSince events i query b k) (h' : AsksSince events i query' b' k) : b = b' := by
  have hnot : ∀ {b b' : Nat} {query query' : Query}, AsksSince events i query b k →
      AsksSince events i query' b' k → ¬ b < b' := by
    intro b b' query query' h h' hlt
    obtain ⟨r, hr, hidle⟩ := h'.idle
    obtain ⟨t, ht, hasks⟩ := h.lasts b' hlt (Nat.le_of_lt h'.before)
    obtain rfl := Option.some.inj (hr.symm.trans ht)
    simp [hidle] at hasks
  exact Nat.le_antisymm (Nat.le_of_not_lt (hnot h' h)) (Nat.le_of_not_lt (hnot h h'))

end Readers

end ClusterAccess.Schema
