import ClusterAccess.Proofs.SchemaCurrency

namespace ClusterAccess.Schema

/-- Not answered yet. -/
def Stage.isOpen : Stage → Bool
  | .answered _ => false
  | .missed _ | .seeking _ _ | .fetchingIndex _ _ | .storingIndex _ _ _ | .fetchingDocument _ _ =>
    true

namespace Readers

variable {events : List Event}

/-- Nothing is invalidated, and nobody comes before everybody else is answered. -/
structure Undisturbed (events : List Event) : Prop where
  current : Event.outdate ∉ events
  kept : Event.release ∉ events
  apart : ∀ a kind, events[a]? = some (.arrive kind) →
    ∀ r ∈ (after events a).readers, ∃ answer, r.stage = .answered answer

/-- At most one reader is open. What it asks for is not there yet. -/
structure Lone (s : Readers) : Prop where
  single : ∀ (i j : Nat) (r t : Reader), s.readers[i]? = some r → s.readers[j]? = some t →
    r.stage.isOpen = true → t.stage.isOpen = true → i = j
  index : ∀ (i : Nat) (r : Reader), s.readers[i]? = some r → r.stage.query? = some .index →
    s.cache.index = none
  document : ∀ (i : Nat) (r : Reader), s.readers[i]? = some r → r.stage.isOpen = true →
    s.cache.documents.lookup r.key = none

theorem Becomes.wasOpen {s : Readers} {i : Nat} {e : Event} {t : Reader} (h : Becomes s i e t)
    (ht : t.stage.isOpen = true) :
    (∃ r, s.readers[i]? = some r ∧ r.stage.isOpen = true ∧ t.key = r.key) ∨
      ∃ kind, e = .arrive kind ∧ s.readers.length = i := by
  have hkey := fun r (hr : s.readers[i]? = some r) => h.key hr
  cases h with
  | arrived kind hi => exact .inr ⟨kind, rfl, hi⟩
  | stayed hr => exact .inl ⟨t, hr, ht, rfl⟩
  | @advanced r hr =>
    refine .inl ⟨r, hr, ?_, hkey r hr⟩
    obtain ⟨key, stage⟩ := r
    cases stage with
    | answered answer => cases ht
    | _ => rfl
  | @received r hr response =>
    refine .inl ⟨r, hr, ?_, hkey r hr⟩
    obtain ⟨key, stage⟩ := r
    cases stage with
    | answered answer => cases ht
    | _ => rfl

theorem follow_query {r : Reader} {tag : Nat} {index : Index} :
    (r.follow tag index).stage.query? ≠ some .index := by
  unfold Reader.follow
  cases index.lookup r.key <;> nofun

/-- A reader asks for the index only when it has looked for one. -/
theorem Becomes.asked {s : Readers} {i : Nat} {e : Event} {t : Reader} (h : Becomes s i e t)
    (ht : t.stage.query? = some .index) :
    ∃ r, s.readers[i]? = some r ∧ (r.stage.query? = some .index ∨
      ∃ tag mark, r.stage = .seeking tag mark ∧ s.cache.indexAt? mark = none) := by
  cases h with
  | arrived kind hi =>
    unfold Reader.start at ht
    cases hd : s.cache.document? (documentKey kind) with
    | none => simp [hd, Stage.query?] at ht
    | some components => simp [hd, Stage.query?] at ht
  | stayed hr => exact ⟨t, hr, .inl ht⟩
  | @advanced r hr =>
    refine ⟨r, hr, ?_⟩
    obtain ⟨key, stage⟩ := r
    cases stage with
    | fetchingIndex tag mark => exact .inl rfl
    | seeking tag mark =>
      cases hindex : s.cache.indexAt? mark with
      | none => exact .inr ⟨tag, mark, rfl, hindex⟩
      | some index =>
        simp only [Reader.advance, hindex] at ht
        exact absurd ht follow_query
    | storingIndex tag mark index => exact absurd ht follow_query
    | missed tag => cases ht
    | fetchingDocument tag target => cases ht
    | answered answer => cases ht
  | @received r hr response =>
    refine ⟨r, hr, ?_⟩
    obtain ⟨key, stage⟩ := r
    cases stage with
    | fetchingIndex tag mark => exact .inl rfl
    | fetchingDocument tag target => cases response <;> cases ht
    | _ => cases ht

/-- The index changes only when a reader stores one. -/
theorem index_succ {k : Nat} {e : Event} (he : events[k]? = some e) :
    (after events (k + 1)).cache.index = (after events k).cache.index ∨
      ∃ i key tag mark index, e = .advance i ∧
        (after events k).readers[i]? = some ⟨key, .storingIndex tag mark index⟩ := by
  have hleaves := leaves_after he
  generalize (after events (k + 1)).cache = c at hleaves ⊢
  cases hleaves with
  | same => exact .inl rfl
  | outdated => exact .inl rfl
  | released => exact .inl rfl
  | keptIndex hr => exact .inr ⟨_, _, _, _, _, rfl, hr⟩
  | keptDocument hr =>
    left
    unfold Cache.keepDocument
    split <;> rfl

/-- Unless they are released, documents change only when a reader gets one. -/
theorem documents_succ {k : Nat} {e : Event} (he : events[k]? = some e) (hne : e ≠ .release) :
    (after events (k + 1)).cache.documents = (after events k).cache.documents ∨
      ∃ i key tag target document, e = .receive i (.ok document) ∧
        (after events k).readers[i]? = some ⟨key, .fetchingDocument tag target⟩ := by
  have hleaves := leaves_after he
  generalize (after events (k + 1)).cache = c at hleaves ⊢
  cases hleaves with
  | same => exact .inl rfl
  | outdated => exact .inl rfl
  | released => exact absurd rfl hne
  | keptDocument hr => exact .inr ⟨_, _, _, _, _, rfl, hr⟩
  | keptIndex hr =>
    left
    unfold Cache.keepIndex
    split <;> rfl

theorem isSome_index_succ {k : Nat} (hsome : (after events k).cache.index.isSome = true) :
    (after events (k + 1)).cache.index.isSome = true := by
  cases he : events[k]? with
  | none => exact after_succ_of_none he ▸ hsome
  | some e =>
    have hleaves := leaves_after he
    generalize (after events (k + 1)).cache = c at hleaves ⊢
    cases hleaves with
    | same => exact hsome
    | outdated => exact hsome
    | released => exact hsome
    | keptIndex hr =>
      unfold Cache.keepIndex
      split
      · rfl
      · exact hsome
    | keptDocument hr =>
      unfold Cache.keepDocument
      split <;> exact hsome

namespace Undisturbed

variable (h : Undisturbed events)
include h

theorem ne_release {k : Nat} {e : Event} (he : events[k]? = some e) : e ≠ .release := by
  rintro rfl
  exact h.kept (List.mem_of_getElem? he)

theorem generation_eq (k : Nat) : (after events k).cache.generation = 0 := by
  induction k with
  | zero => rfl
  | succ k ih =>
    cases he : events[k]? with
    | none => exact after_succ_of_none he ▸ ih
    | some e =>
      have hleaves := leaves_after he
      generalize (after events (k + 1)).cache = c at hleaves ⊢
      cases hleaves with
      | same => exact ih
      | outdated => exact absurd (List.mem_of_getElem? he) h.current
      | released => exact ih
      | keptIndex hr => exact (generation_keepIndex _ _ _).trans ih
      | keptDocument hr => exact (generation_keepDocument _ _ _ _).trans ih

/-- Every tag is that of the first generation. -/
theorem tag_eq {tag b : Nat} (hb : NotBefore events tag b) : tag = 0 :=
  Nat.le_zero.mp (h.generation_eq b ▸ hb)

theorem index_eq_none {k mark : Nat} (hmark : NotBefore events mark k)
    (hnone : (after events k).cache.indexAt? mark = none) : (after events k).cache.index = none := by
  cases hindex : (after events k).cache.index with
  | none => rfl
  | some kept =>
    obtain ⟨tag, index⟩ := kept
    obtain ⟨_, b, _, _, _, _, hb⟩ := (coherent events k).stores.index tag index hindex
    simp [Cache.indexAt?, hindex, h.tag_eq hb, h.tag_eq hmark] at hnone

theorem lookup_eq_none {k : Nat} {key : String}
    (hnone : (after events k).cache.document? key = none) :
    (after events k).cache.documents.lookup key = none := by
  cases hkept : (after events k).cache.documents.lookup key with
  | none => rfl
  | some kept =>
    obtain ⟨tag, components⟩ := kept
    obtain ⟨_, _, b, _, _, _, _, hb, _⟩ :=
      (coherent events k).stores.documents key tag components hkept
    simp [Cache.document?, hkept, h.tag_eq hb, h.generation_eq k] at hnone

theorem single_succ {k i j : Nat} {e : Event} {r t : Reader} (hlone : Lone (after events k))
    (he : events[k]? = some e) (hr : (after events (k + 1)).readers[i]? = some r)
    (ht : (after events (k + 1)).readers[j]? = some t) (hri : r.stage.isOpen = true)
    (htj : t.stage.isOpen = true) : i = j := by
  have hnobody : ∀ kind, e = .arrive kind → ∀ (l : Nat) (u : Reader),
      (after events k).readers[l]? = some u → ¬ u.stage.isOpen = true := by
    rintro kind rfl l u hu hopen
    obtain ⟨answer, hanswer⟩ := h.apart k kind he u (List.mem_of_getElem? hu)
    rw [hanswer] at hopen
    cases hopen
  rcases (becomes_after he hr).wasOpen hri with ⟨r', hr', hopen, -⟩ | ⟨kind, hkind, hi⟩
  · rcases (becomes_after he ht).wasOpen htj with ⟨t', ht', hopen', -⟩ | ⟨kind, hkind, -⟩
    · exact hlone.single i j r' t' hr' ht' hopen hopen'
    · exact absurd hopen (hnobody kind hkind i r' hr')
  · rcases (becomes_after he ht).wasOpen htj with ⟨t', ht', hopen', -⟩ | ⟨-, -, hj⟩
    · exact absurd hopen' (hnobody kind hkind j t' ht')
    · exact hi.symm.trans hj

theorem index_none_succ {k i : Nat} {e : Event} {t : Reader} (hlone : Lone (after events k))
    (he : events[k]? = some e) (ht : (after events (k + 1)).readers[i]? = some t)
    (hasks : t.stage.query? = some .index) : (after events (k + 1)).cache.index = none := by
  obtain ⟨⟨key, stage⟩, hr, hwas⟩ := (becomes_after he ht).asked hasks
  have hnone : (after events k).cache.index = none := by
    rcases hwas with hwas | ⟨tag, mark, rfl, hindex⟩
    · exact hlone.index i _ hr hwas
    · cases (coherent events k).tells i _ hr with
      | seeking hs hle hmark => exact h.index_eq_none hmark hindex
  rcases index_succ he with hsame | ⟨j, key', tag', mark', index, rfl, hj⟩
  · exact hsame.trans hnone
  · -- Whoever stores an index is the open reader, and then it is not the one that asks.
    have hopen : stage.isOpen = true := by
      rcases hwas with hwas | ⟨tag, mark, rfl, -⟩
      · cases stage with
        | answered answer => cases hwas
        | _ => rfl
      · rfl
    obtain rfl := hlone.single i j _ _ hr hj hopen rfl
    obtain rfl := (Reader.mk.inj (Option.some.inj (hr.symm.trans hj))).2
    rcases hwas with hwas | ⟨tag, mark, hwas, -⟩ <;> cases hwas

theorem document_none_succ {k i : Nat} {e : Event} {t : Reader} (hlone : Lone (after events k))
    (he : events[k]? = some e) (ht : (after events (k + 1)).readers[i]? = some t)
    (hopen : t.stage.isOpen = true) :
    (after events (k + 1)).cache.documents.lookup t.key = none := by
  rcases (becomes_after he ht).wasOpen hopen with ⟨r, hr, hwas, hkey⟩ | ⟨kind, rfl, hi⟩
  · rcases documents_succ he (h.ne_release he) with hsame | ⟨j, key, tag, target, document, rfl, hj⟩
    · rw [hsame, hkey]
      exact hlone.document i r hr hwas
    · obtain rfl := hlone.single i j _ _ hr hj hwas rfl
      have hanswered := (after_receive he hj).2
      obtain rfl := Option.some.inj (hanswered.symm.trans ht)
      cases hopen
  · have hcache : (after events (k + 1)).cache = (after events k).cache := by
      rw [after_succ he, step]
    have hstart : (after events (k + 1)).readers[i]? =
        some (Reader.start (after events k).cache (documentKey kind)) := by
      rw [after_succ he]
      simp [step, ← hi]
    obtain rfl := Option.some.inj (hstart.symm.trans ht)
    rw [hcache]
    refine h.lookup_eq_none ?_
    unfold Reader.start at hopen
    cases hd : (after events k).cache.document? (documentKey kind) with
    | none => exact hd
    | some components => simp [hd, Stage.isOpen] at hopen

theorem lone (k : Nat) : Lone (after events k) := by
  induction k with
  | zero => exact ⟨nofun, nofun, nofun⟩
  | succ k ih =>
    cases he : events[k]? with
    | none => exact after_succ_of_none he ▸ ih
    | some e =>
      refine ⟨?_, ?_, ?_⟩
      · intro i j r t hr ht hri htj
        exact h.single_succ ih he hr ht hri htj
      · intro i t ht hasks
        exact h.index_none_succ ih he ht hasks
      · intro i t ht hopen
        exact h.document_none_succ ih he ht hopen

/-- An index that was fetched is with its reader, or it is stored. -/
theorem index_kept {i b e k : Nat} {document : Json}
    (hf : Fetched events i .index b e (.ok document)) (hk : e < k) :
    (after events k).cache.index.isSome = true ∨
      ∃ key tag mark index, (after events k).readers[i]? =
        some ⟨key, .storingIndex tag mark index⟩ := by
  induction hk with
  | refl =>
    obtain ⟨key, tag, mark, hr, -⟩ := hf.index
    exact .inr ⟨key, tag, mark, indexOf document, (after_receive hf.ends hr).2⟩
  | @step k hk ih =>
    rcases ih with hsome | ⟨key, tag, mark, index, hr⟩
    · exact .inl (isSome_index_succ hsome)
    · by_cases he : events[k]? = some (.advance i)
      · left
        cases (coherent events k).tells i _ hr with
        | storingIndex hs hle hindex =>
          obtain ⟨_, b', _, _, _, _, hb'⟩ := hindex
          rw [(after_advance he hr).1]
          simp [Reader.advance, Cache.keepIndex, h.generation_eq k, h.tag_eq hb']
      · exact .inr ⟨key, tag, mark, index, storing_succ hr he⟩

theorem index_once {i b e i' b' e' : Nat} {document document' : Json}
    (hf : Fetched events i .index b e (.ok document))
    (hf' : Fetched events i' .index b' e' (.ok document')) : ¬ e < e' := by
  intro hlt
  obtain ⟨key', tag', mark', hr', -⟩ := hf'.index
  have hnone := (h.lone e').index i' _ hr' rfl
  rcases h.index_kept hf hlt with hsome | ⟨key, tag, mark, index, hr⟩
  · simp [hnone] at hsome
  · obtain rfl := (h.lone e').single i i' _ _ hr hr' rfl rfl
    cases hr.symm.trans hr'

theorem lookup_isSome_succ {k : Nat} {key : String}
    (hsome : ((after events k).cache.documents.lookup key).isSome = true) :
    ((after events (k + 1)).cache.documents.lookup key).isSome = true := by
  cases he : events[k]? with
  | none => exact after_succ_of_none he ▸ hsome
  | some e =>
    have hleaves := leaves_after he
    generalize (after events (k + 1)).cache = c at hleaves ⊢
    cases hleaves with
    | same => exact hsome
    | outdated => exact hsome
    | released => exact absurd rfl (h.ne_release he)
    | keptIndex hr =>
      unfold Cache.keepIndex
      split <;> exact hsome
    | @keptDocument i tag kept target document hr =>
      cases (coherent events k).tells i _ hr with
      | fetchingDocument hs hasks hb hindex hkey =>
        have htag : tag = (after events k).cache.generation :=
          (h.tag_eq hb).trans (h.generation_eq k).symm
        rw [Cache.lookup_keepDocument htag]
        split
        · rfl
        · exact hsome

theorem document_kept {i b e k : Nat} {target : String} {document : Json} {r : Reader}
    (hf : Fetched events i (.document target) b e (.ok document))
    (hr : (after events e).readers[i]? = some r) (hk : e < k) :
    ((after events k).cache.documents.lookup r.key).isSome = true := by
  induction hk with
  | refl =>
    obtain ⟨key, tag, hr', hb⟩ := hf.document
    obtain rfl := Option.some.inj (hr'.symm.trans hr)
    have htag : tag = (after events e).cache.generation :=
      (h.tag_eq hb).trans (h.generation_eq e).symm
    rw [(after_receive hf.ends hr).1]
    simp [Reader.receive, Cache.lookup_keepDocument htag]
  | step hk ih => exact h.lookup_isSome_succ ih

theorem document_once {i b e i' b' e' : Nat} {target target' : String} {document document' : Json}
    {r r' : Reader} (hf : Fetched events i (.document target) b e (.ok document))
    (hf' : Fetched events i' (.document target') b' e' (.ok document'))
    (hr : (after events e).readers[i]? = some r) (hr' : (after events e').readers[i']? = some r')
    (hkey : r.key = r'.key) : ¬ e < e' := by
  intro hlt
  have hsome := h.document_kept hf hr hlt
  obtain ⟨key, tag, hwaits, -⟩ := hf'.document
  obtain rfl := Option.some.inj (hwaits.symm.trans hr')
  simp [hkey, (h.lone e').document i' _ hr' rfl] at hsome

end Undisturbed

end Readers

end ClusterAccess.Schema
