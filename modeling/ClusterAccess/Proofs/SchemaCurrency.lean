import ClusterAccess.Proofs.SchemaMoves

namespace ClusterAccess.Schema

theorem lookup_filter_ne {β : Type} {key key' : String} (h : key' ≠ key)
    (l : List (String × β)) : (l.filter (·.1 ≠ key)).lookup key' = l.lookup key' := by
  induction l with
  | nil => rfl
  | cons entry l ih =>
    obtain ⟨k, value⟩ := entry
    rw [List.filter_cons]
    by_cases hk : k = key
    · subst hk
      have hne : (key' == k) = false := beq_eq_false_iff_ne.mpr h
      simp only [ne_eq, not_true_eq_false, decide_false, Bool.false_eq_true, ↓reduceIte,
        List.lookup_cons, hne]
      exact ih
    · simp only [ne_eq, hk, not_false_eq_true, decide_true, ↓reduceIte, List.lookup_cons]
      cases key' == k with
      | true => rfl
      | false => exact ih

namespace Cache

theorem lookup_keepDocument {c : Cache} {tag : Nat} (h : tag = c.generation) (key : String)
    (components : Components) (key' : String) :
    (c.keepDocument tag key components).documents.lookup key' =
      if key' = key then some (tag, components) else c.documents.lookup key' := by
  simp only [keepDocument, h, ↓reduceIte, List.lookup_cons]
  by_cases hk : key' = key
  · simp [hk]
  · have hne : (key' == key) = false := beq_eq_false_iff_ne.mpr hk
    simp only [hne, hk, ↓reduceIte]
    exact lookup_filter_ne hk c.documents

theorem keepDocument_outdated {c : Cache} {tag : Nat} (h : tag < c.generation) (key : String)
    (components : Components) : c.keepDocument tag key components = c := by
  simp [keepDocument, Nat.ne_of_lt h]

theorem keepIndex_outdated {c : Cache} {mark : Nat} (h : mark < c.generation) (index : Index) :
    c.keepIndex mark index = c := by
  simp [keepIndex, Nat.ne_of_lt h]

theorem indexAt_eq_some {c : Cache} {mark : Nat} {index : Index}
    (h : c.indexAt? mark = some index) : c.index = some (mark, index) := by
  unfold indexAt? at h
  split at h
  · rename_i t kept hkept
    split at h
    · rename_i ht
      rw [hkept, ht, Option.some.inj h]
    · cases h
  · cases h

theorem document_eq_some {c : Cache} {key : String} {components : Components}
    (h : c.document? key = some components) :
    c.documents.lookup key = some (c.generation, components) := by
  unfold document? at h
  split at h
  · rename_i t kept hkept
    split at h
    · rename_i ht
      rw [hkept, ht, Option.some.inj h]
    · cases h
  · cases h

end Cache

namespace Readers

variable {events : List Event} {late late' : Nat → Prop}

/-- An index that was asked for late enough. -/
def IndexFrom (events : List Event) (late : Nat → Prop) (index : Index) : Prop :=
  ∃ i b e document, Fetched events i .index b e (.ok document) ∧ indexOf document = index ∧ late b

/-- The components of a document that was asked for late enough, at the address that such an index
has for its key. -/
def DocumentFrom (events : List Event) (late : Nat → Prop) (key : String)
    (components : Components) : Prop :=
  ∃ i target b e document, Fetched events i (.document target) b e (.ok document) ∧
    componentsOf document = components ∧ late b ∧
    (∃ r, (after events b).readers[i]? = some r ∧ r.key = key) ∧
    ∃ index, IndexFrom events late index ∧ index.lookup key = some target

theorem IndexFrom.imp {index : Index} (h : IndexFrom events late index)
    (hlate : ∀ b, late b → late' b) : IndexFrom events late' index := by
  obtain ⟨i, b, e, document, hf, hindex, hb⟩ := h
  exact ⟨i, b, e, document, hf, hindex, hlate b hb⟩

theorem DocumentFrom.imp {key : String} {components : Components}
    (h : DocumentFrom events late key components) (hlate : ∀ b, late b → late' b) :
    DocumentFrom events late' key components := by
  obtain ⟨i, target, b, e, document, hf, hcomponents, hb, hreader, index, hindex, hkey⟩ := h
  exact ⟨i, target, b, e, document, hf, hcomponents, hlate b hb, hreader, index,
    hindex.imp hlate, hkey⟩

/-- The generation that is current before event `b` is not below the tag. -/
def NotBefore (events : List Event) (tag : Nat) (b : Nat) : Prop :=
  tag ≤ (after events b).cache.generation

theorem NotBefore.of_le {tag tag' b : Nat} (h : tag ≤ tag') (hb : NotBefore events tag' b) :
    NotBefore events tag b :=
  Nat.le_trans h hb

/-- The tag of reader `i` is a generation between its arrival and the end of `k` events. -/
structure Since (events : List Event) (k i tag : Nat) : Prop where
  reached : NotBefore events tag k
  arrival : ∀ a kind, Arrives events a i kind → (after events a).cache.generation ≤ tag

theorem Since.later {k l i tag : Nat} (h : Since events k i tag) (hkl : k ≤ l) :
    Since events l i tag :=
  ⟨Nat.le_trans h.reached (generation_mono hkl), h.arrival⟩

/-- What the stage of reader `i` after `k` events tells of the events before. -/
inductive Tells (events : List Event) (k i : Nat) (key : String) : Stage → Prop where
  | missed {tag : Nat} (h : Since events k i tag) : Tells events k i key (.missed tag)
  | seeking {tag mark : Nat} (h : Since events k i tag) (hle : tag ≤ mark)
      (hmark : NotBefore events mark k) : Tells events k i key (.seeking tag mark)
  | fetchingIndex {tag mark b : Nat} (h : Since events k i tag) (hle : tag ≤ mark)
      (hasks : AsksSince events i .index b k) (hb : NotBefore events mark b) :
      Tells events k i key (.fetchingIndex tag mark)
  | storingIndex {tag mark : Nat} {index : Index} (h : Since events k i tag) (hle : tag ≤ mark)
      (hindex : IndexFrom events (NotBefore events mark) index) :
      Tells events k i key (.storingIndex tag mark index)
  | fetchingDocument {tag b : Nat} {target : String} {index : Index} (h : Since events k i tag)
      (hasks : AsksSince events i (.document target) b k) (hb : NotBefore events tag b)
      (hindex : IndexFrom events (NotBefore events tag) index)
      (hkey : index.lookup key = some target) : Tells events k i key (.fetchingDocument tag target)
  | served {tag : Nat} {components : Components} (h : Since events k i tag)
      (hdocument : DocumentFrom events (NotBefore events tag) key components) :
      Tells events k i key (.answered (.ok (some components)))
  | unpublished {tag : Nat} {index : Index} (h : Since events k i tag)
      (hindex : IndexFrom events (NotBefore events tag) index) (hkey : index.lookup key = none) :
      Tells events k i key (.answered (.ok none))
  | failed (e : TransportError) : Tells events k i key (.answered (.error e))

/-- What is kept, whether it is current or not. -/
structure Stores (events : List Event) (c : Cache) : Prop where
  index : ∀ tag index, c.index = some (tag, index) →
    IndexFrom events (NotBefore events tag) index
  documents : ∀ key tag components, c.documents.lookup key = some (tag, components) →
    DocumentFrom events (NotBefore events tag) key components

/-- What holds after any number of events. -/
structure Coherent (events : List Event) (k : Nat) : Prop where
  stores : Stores events (after events k).cache
  tells : ∀ (i : Nat) (r : Reader), (after events k).readers[i]? = some r →
    Tells events k i r.key r.stage

theorem Stores.keepIndex {c : Cache} (h : Stores events c) {mark : Nat} {index : Index}
    (hindex : IndexFrom events (NotBefore events mark) index) :
    Stores events (c.keepIndex mark index) := by
  unfold Cache.keepIndex
  split
  · refine ⟨fun tag kept hkept => ?_, h.documents⟩
    cases hkept
    exact hindex
  · exact h

theorem Stores.keepDocument {c : Cache} (h : Stores events c) {tag : Nat} {key : String}
    {components : Components}
    (hdocument : DocumentFrom events (NotBefore events tag) key components) :
    Stores events (c.keepDocument tag key components) := by
  by_cases ht : tag = c.generation
  · refine ⟨?_, fun key' tag' components' hkept => ?_⟩
    · simp only [Cache.keepDocument, ht, ↓reduceIte]
      exact h.index
    · rw [Cache.lookup_keepDocument ht] at hkept
      split at hkept
      · rename_i hkey
        cases hkept
        exact hkey ▸ hdocument
      · exact h.documents _ _ _ hkept
  · simpa [Cache.keepDocument, ht] using h

theorem documentFrom_fetched {k i tag b : Nat} {target : String} {index : Index}
    {document : Json} (he : events[k]? = some (.receive i (.ok document))) {r : Reader}
    (hr : (after events k).readers[i]? = some r) (hasks : AsksSince events i (.document target) b k)
    (hb : NotBefore events tag b) (hindex : IndexFrom events (NotBefore events tag) index)
    (hkey : index.lookup r.key = some target) :
    DocumentFrom events (NotBefore events tag) r.key (componentsOf document) := by
  obtain ⟨t, ht, -⟩ := hasks.idle
  have hsame := key_later (Nat.le_of_lt hasks.before) ht hr
  exact ⟨i, target, b, k, document, ⟨hasks, he⟩, rfl, hb, ⟨t, ht, hsame.symm⟩, index, hindex, hkey⟩

theorem Tells.stays {k i : Nat} {r : Reader} (h : Tells events k i r.key r.stage)
    (hnext : (after events (k + 1)).readers[i]? = some r) :
    Tells events (k + 1) i r.key r.stage := by
  obtain ⟨key, stage⟩ := r
  have hk := Nat.le_succ k
  cases h with
  | missed h => exact .missed (h.later hk)
  | seeking h hle hmark =>
    exact .seeking (h.later hk) hle (Nat.le_trans hmark (generation_mono hk))
  | fetchingIndex h hle hasks hb => exact .fetchingIndex (h.later hk) hle (hasks.succ hnext rfl) hb
  | storingIndex h hle hindex => exact .storingIndex (h.later hk) hle hindex
  | fetchingDocument h hasks hb hindex hkey =>
    exact .fetchingDocument (h.later hk) (hasks.succ hnext rfl) hb hindex hkey
  | served h hdocument => exact .served (h.later hk) hdocument
  | unpublished h hindex hkey => exact .unpublished (h.later hk) hindex hkey
  | failed e => exact .failed e

theorem tells_follow {k i tag : Nat} {r : Reader} {index : Index}
    (he : events[k]? = some (.advance i)) (hr : (after events k).readers[i]? = some r)
    (hidle : r.stage.query? = none) (h : Since events k i tag)
    (hindex : IndexFrom events (NotBefore events tag) index)
    (hnext : (after events (k + 1)).readers[i]? = some (r.follow tag index)) :
    Tells events (k + 1) i r.key (r.follow tag index).stage := by
  have hlater := h.later (Nat.le_succ k)
  cases hkey : index.lookup r.key with
  | none =>
    simp only [Reader.follow, hkey]
    exact .unpublished hlater hindex hkey
  | some target =>
    simp only [Reader.follow, hkey] at hnext ⊢
    exact .fetchingDocument hlater (.begin he hr hidle hnext rfl) h.reached hindex hkey

theorem Coherent.tells_advance {k i : Nat} {r : Reader} (h : Coherent events k)
    (he : events[k]? = some (.advance i)) (hr : (after events k).readers[i]? = some r)
    (hnext : (after events (k + 1)).readers[i]? = some (r.advance (after events k).cache).2) :
    Tells events (k + 1) i r.key (r.advance (after events k).cache).2.stage := by
  have htells := h.tells i r hr
  obtain ⟨key, stage⟩ := r
  have hk := Nat.le_succ k
  cases htells with
  | missed hs => exact .seeking (hs.later hk) hs.reached (generation_mono hk)
  | @seeking tag mark hs hle hmark =>
    simp only [Reader.advance] at hnext ⊢
    cases hindex : (after events k).cache.indexAt? mark with
    | some index =>
      simp only [hindex] at hnext ⊢
      have hfrom := h.stores.index _ _ (Cache.indexAt_eq_some hindex)
      exact tells_follow he hr rfl hs (hfrom.imp fun _ => .of_le hle) hnext
    | none =>
      simp only [hindex] at hnext ⊢
      exact .fetchingIndex (hs.later hk) hle (.begin he hr rfl hnext rfl) hmark
  | storingIndex hs hle hindex =>
    exact tells_follow he hr rfl hs (hindex.imp fun _ => .of_le hle) hnext
  | fetchingIndex => exact (h.tells i _ hr).stays hnext
  | fetchingDocument => exact (h.tells i _ hr).stays hnext
  | served => exact (h.tells i _ hr).stays hnext
  | unpublished => exact (h.tells i _ hr).stays hnext
  | failed e => exact .failed e

theorem Coherent.tells_receive {k i : Nat} {r : Reader} (h : Coherent events k)
    {response : Except TransportError Json} (he : events[k]? = some (.receive i response))
    (hr : (after events k).readers[i]? = some r)
    (hnext : (after events (k + 1)).readers[i]? =
      some (r.receive (after events k).cache response).2) :
    Tells events (k + 1) i r.key (r.receive (after events k).cache response).2.stage := by
  have htells := h.tells i r hr
  obtain ⟨key, stage⟩ := r
  have hk := Nat.le_succ k
  cases htells with
  | @fetchingIndex tag mark b hs hle hasks hb =>
    cases response with
    | error e => exact .failed e
    | ok document =>
      exact .storingIndex (hs.later hk) hle ⟨i, b, k, document, ⟨hasks, he⟩, rfl, hb⟩
  | fetchingDocument hs hasks hb hindex hkey =>
    cases response with
    | error e => exact .failed e
    | ok document =>
      exact .served (hs.later hk) (documentFrom_fetched he hr hasks hb hindex hkey)
  | missed => exact (h.tells i _ hr).stays hnext
  | seeking => exact (h.tells i _ hr).stays hnext
  | storingIndex => exact (h.tells i _ hr).stays hnext
  | served => exact (h.tells i _ hr).stays hnext
  | unpublished => exact (h.tells i _ hr).stays hnext
  | failed e => exact .failed e

theorem Coherent.tells_arrived {k i : Nat} {kind : GroupVersionKind} (h : Coherent events k)
    (hnext : (after events (k + 1)).readers[i]? =
      some (Reader.start (after events k).cache (documentKey kind))) :
    Tells events (k + 1) i (documentKey kind)
      (Reader.start (after events k).cache (documentKey kind)).stage := by
  have hsince : Since events (k + 1) i (after events k).cache.generation :=
    ⟨generation_mono (Nat.le_succ k),
      fun a _ ha => generation_mono (Nat.le_of_lt_succ (ha.lt hnext))⟩
  unfold Reader.start
  cases hd : (after events k).cache.document? (documentKey kind) with
  | none => exact .missed hsince
  | some components =>
    exact .served hsince (h.stores.documents _ _ _ (Cache.document_eq_some hd))

theorem Coherent.tells_succ {k i : Nat} {e : Event} {r : Reader} (h : Coherent events k)
    (he : events[k]? = some e) (hr : (after events (k + 1)).readers[i]? = some r) :
    Tells events (k + 1) i r.key r.stage := by
  have hbecomes := becomes_after he hr
  cases hbecomes with
  | arrived kind hi => exact h.tells_arrived hr
  | stayed ht => exact (h.tells i r ht).stays hr
  | advanced ht =>
    have hkey := (Becomes.advanced ht).key ht
    exact hkey ▸ h.tells_advance he ht hr
  | received ht response =>
    have hkey := (Becomes.received ht response).key ht
    exact hkey ▸ h.tells_receive he ht hr

theorem Coherent.stores_succ {k : Nat} {e : Event} (h : Coherent events k)
    (he : events[k]? = some e) : Stores events (after events (k + 1)).cache := by
  have hleaves := leaves_after he
  generalize (after events (k + 1)).cache = c at hleaves ⊢
  cases hleaves with
  | same => exact h.stores
  | outdated => exact ⟨h.stores.index, h.stores.documents⟩
  | released => exact ⟨h.stores.index, fun _ _ _ hkept => nomatch hkept⟩
  | keptIndex hr =>
    cases h.tells _ _ hr with
    | storingIndex hs hle hindex => exact h.stores.keepIndex hindex
  | keptDocument hr =>
    cases h.tells _ _ hr with
    | fetchingDocument hs hasks hb hindex hkey =>
      exact h.stores.keepDocument (documentFrom_fetched he hr hasks hb hindex hkey)

theorem coherent (events : List Event) (k : Nat) : Coherent events k := by
  induction k with
  | zero => exact ⟨⟨nofun, nofun⟩, nofun⟩
  | succ k ih =>
    cases he : events[k]? with
    | none =>
      refine ⟨after_succ_of_none he ▸ ih.stores, fun i r hr => ?_⟩
      exact (ih.tells i r (after_succ_of_none he ▸ hr)).stays hr
    | some e => exact ⟨ih.stores_succ he, fun i r hr => ih.tells_succ he hr⟩

theorem after_advance {k i : Nat} {r : Reader} (he : events[k]? = some (.advance i))
    (hr : (after events k).readers[i]? = some r) :
    (after events (k + 1)).cache = (r.advance (after events k).cache).1 ∧
      (after events (k + 1)).readers[i]? = some (r.advance (after events k).cache).2 := by
  have hi := (List.getElem?_eq_some_iff.mp hr).1
  simp only [after_succ he, step, hr]
  exact ⟨trivial, List.getElem?_set_self hi⟩

theorem after_receive {k i : Nat} {r : Reader} {response : Except TransportError Json}
    (he : events[k]? = some (.receive i response)) (hr : (after events k).readers[i]? = some r) :
    (after events (k + 1)).cache = (r.receive (after events k).cache response).1 ∧
      (after events (k + 1)).readers[i]? = some (r.receive (after events k).cache response).2 := by
  have hi := (List.getElem?_eq_some_iff.mp hr).1
  simp only [after_succ he, step, hr]
  exact ⟨trivial, List.getElem?_set_self hi⟩

theorem reader_succ {k i : Nat} {r : Reader} (hr : (after events k).readers[i]? = some r) :
    ∃ t, (after events (k + 1)).readers[i]? = some t := by
  have hi := (List.getElem?_eq_some_iff.mp hr).1
  have hle := @length_mono events _ _ (Nat.le_succ k)
  exact ⟨_, List.getElem?_eq_getElem (Nat.lt_of_lt_of_le hi hle)⟩

theorem Fetched.waits {i b e : Nat} {query : Query} {response : Except TransportError Json}
    (h : Fetched events i query b e response) :
    ∃ r, (after events e).readers[i]? = some r ∧ r.stage.query? = some query :=
  h.lasts e h.before (Nat.le_refl e)

/-- The stage of a reader that waits for a document, and how late it began to. -/
theorem Fetched.document {i b e : Nat} {target : String} {response : Except TransportError Json}
    (h : Fetched events i (.document target) b e response) :
    ∃ key tag, (after events e).readers[i]? = some ⟨key, .fetchingDocument tag target⟩ ∧
      NotBefore events tag b := by
  obtain ⟨⟨key, stage⟩, hr, hquery⟩ := h.waits
  cases hs : stage with
  | fetchingDocument tag target' =>
    subst hs
    cases hquery
    cases (coherent events e).tells i _ hr with
    | fetchingDocument hsince hasks hb hindex hkey =>
      exact ⟨key, tag, hr, hasks.unique h.toAsksSince ▸ hb⟩
  | _ =>
    subst hs
    cases hquery

theorem Fetched.index {i b e : Nat} {response : Except TransportError Json}
    (h : Fetched events i .index b e response) :
    ∃ key tag mark, (after events e).readers[i]? = some ⟨key, .fetchingIndex tag mark⟩ ∧
      NotBefore events mark b := by
  obtain ⟨⟨key, stage⟩, hr, hquery⟩ := h.waits
  cases hs : stage with
  | fetchingIndex tag mark =>
    subst hs
    cases (coherent events e).tells i _ hr with
    | fetchingIndex hsince hle hasks hb =>
      exact ⟨key, tag, mark, hr, hasks.unique h.toAsksSince ▸ hb⟩
  | _ =>
    subst hs
    cases hquery

/-- An index waits with its reader to be stored. -/
theorem storing_succ {k i tag mark : Nat} {key : String} {index : Index}
    (hr : (after events k).readers[i]? = some ⟨key, .storingIndex tag mark index⟩)
    (hmove : events[k]? ≠ some (.advance i)) :
    (after events (k + 1)).readers[i]? = some ⟨key, .storingIndex tag mark index⟩ := by
  cases he : events[k]? with
  | none => exact after_succ_of_none he ▸ hr
  | some event =>
    obtain ⟨t, ht⟩ := reader_succ hr
    rw [ht]
    have hbecomes := becomes_after he ht
    cases hbecomes with
    | arrived kind hi =>
      have hlt := (List.getElem?_eq_some_iff.mp hr).1
      omega
    | stayed hr' => rw [← hr', hr]
    | received hr' response =>
      obtain rfl := Option.some.inj (hr'.symm.trans hr)
      rfl
    | advanced hr' => exact absurd he hmove

theorem Fetched.storing {i b e w : Nat} {document : Json}
    (h : Fetched events i .index b e (.ok document)) (hw : e < w)
    (hfirst : ∀ l, e < l → l < w → events[l]? ≠ some (.advance i)) :
    ∃ key tag mark, (after events w).readers[i]? =
        some ⟨key, .storingIndex tag mark (indexOf document)⟩ ∧ NotBefore events mark b := by
  induction hw with
  | refl =>
    obtain ⟨key, tag, mark, hr, hb⟩ := h.index
    exact ⟨key, tag, mark, (after_receive h.ends hr).2, hb⟩
  | @step l hl ih =>
    obtain ⟨key, tag, mark, hr, hb⟩ := ih fun l' hel hll => hfirst l' hel (Nat.lt_succ_of_lt hll)
    exact ⟨key, tag, mark, storing_succ hr (hfirst l hl (Nat.lt_succ_self l)), hb⟩

end Readers

end ClusterAccess.Schema
