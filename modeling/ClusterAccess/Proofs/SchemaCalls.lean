import ClusterAccess.Proofs.SchemaLone

namespace ClusterAccess.Schema.Readers

variable {events : List Event}

section

variable {j a i k : Nat} {kind : GroupVersionKind} {r : Reader}
  (hj : events[j]? = some .outdate) (ha : Arrives events a i kind) (hja : j < a)
include hj ha hja

theorem Since.late {tag b : Nat} (h : Since events k i tag) (hb : NotBefore events tag b) :
    j < b :=
  lt_of_generation_le hj hja (Nat.le_trans (h.arrival a kind ha) hb)

theorem served_late (hr : (after events k).readers[i]? = some r) {components : Components}
    (hs : r.stage = .answered (.ok (some components))) :
    DocumentFrom events (j < ·) (documentKey kind) components := by
  have htells := (coherent events k).tells i r hr
  rw [hs, ha.key hr] at htells
  cases htells with
  | served h hdocument => exact hdocument.imp fun _ => h.late hj ha hja

theorem follows_late (hr : (after events k).readers[i]? = some r) {tag : Nat} {target : String}
    (hs : r.stage = .fetchingDocument tag target) :
    ∃ index, IndexFrom events (j < ·) index ∧ index.lookup (documentKey kind) = some target := by
  have htells := (coherent events k).tells i r hr
  rw [hs, ha.key hr] at htells
  cases htells with
  | fetchingDocument h hasks hb hindex hkey =>
    exact ⟨_, hindex.imp fun _ => h.late hj ha hja, hkey⟩

theorem unpublished_late (hr : (after events k).readers[i]? = some r)
    (hs : r.stage = .answered (.ok none)) :
    ∃ index, IndexFrom events (j < ·) index ∧ index.lookup (documentKey kind) = none := by
  have htells := (coherent events k).tells i r hr
  rw [hs, ha.key hr] at htells
  cases htells with
  | unpublished h hindex hkey => exact ⟨_, hindex.imp fun _ => h.late hj ha hja, hkey⟩

end

theorem NotBefore.outdated {tag b j k : Nat} (h : NotBefore events tag b) (hbj : b ≤ j)
    (hj : events[j]? = some .outdate) (hjk : j < k) : tag < (after events k).cache.generation := by
  have hbegin := @generation_mono events _ _ hbj
  have hend := generation_lt_of_outdate hj hjk
  exact Nat.lt_of_le_of_lt (Nat.le_trans h hbegin) hend

/-- A document answers whoever asked for it; overtaken, it leaves no trace. -/
theorem Fetched.answers {i b e : Nat} {target : String} {document : Json}
    (h : Fetched events i (.document target) b e (.ok document)) :
    (∃ key, (after events (e + 1)).readers[i]? =
      some ⟨key, .answered (.ok (some (componentsOf document)))⟩) ∧
    ∀ j, b < j → j < e → events[j]? = some .outdate →
      (after events (e + 1)).cache = (after events e).cache := by
  obtain ⟨key, tag, hr, hb⟩ := h.document
  obtain ⟨hcache, hnext⟩ := after_receive h.ends hr
  refine ⟨⟨key, hnext⟩, fun j hbj hje hj => ?_⟩
  rw [hcache]
  exact Cache.keepDocument_outdated (hb.outdated (Nat.le_of_lt hbj) hj hje) key _

/-- The next move of reader `i` after event `e` is event `w`. -/
structure MovesNext (events : List Event) (i e w : Nat) : Prop where
  later : e < w
  moves : events[w]? = some (.advance i)
  first : ∀ l, e < l → l < w → events[l]? ≠ some (.advance i)

/-- An index is followed by whoever asked for it; overtaken, it leaves no trace. -/
theorem Fetched.follows {i b e w : Nat} {document : Json}
    (h : Fetched events i .index b e (.ok document)) (hw : MovesNext events i e w) :
    (∃ r tag, (after events w).readers[i]? = some r ∧
      (after events (w + 1)).readers[i]? = some (r.follow tag (indexOf document))) ∧
    (after events (e + 1)).cache = (after events e).cache ∧
    ∀ j, b < j → j < w → events[j]? = some .outdate →
      (after events (w + 1)).cache = (after events w).cache := by
  obtain ⟨key, tag, mark, hr, hb⟩ := h.storing hw.later hw.first
  obtain ⟨hcache, hnext⟩ := after_advance hw.moves hr
  obtain ⟨key', tag', mark', hr', -⟩ := h.index
  refine ⟨⟨_, tag, hr, hnext⟩, (after_receive h.ends hr').1, fun j hbj hjw hj => ?_⟩
  rw [hcache]
  exact Cache.keepIndex_outdated (hb.outdated (Nat.le_of_lt hbj) hj hjw) _

/-- No invalidation of published schemas is lost, whatever the order of events. A caller that comes
after an invalidation is served with documents, follows addresses and is told of gaps that stem
from requests that began after it. A request that an invalidation overtakes serves the caller that
made it, and what it brought is not kept for others. As long as nothing is invalidated and callers
come one at a time, the index and the document under each key are got once. -/
theorem run_serves_current_schemas (events : List Event) :
    (∀ j a i kind, events[j]? = some .outdate → Arrives events a i kind → j < a →
      ∀ k r, (after events k).readers[i]? = some r →
        (∀ components, r.stage = .answered (.ok (some components)) →
          DocumentFrom events (j < ·) (documentKey kind) components) ∧
        (∀ tag target, r.stage = .fetchingDocument tag target →
          ∃ index, IndexFrom events (j < ·) index ∧
            index.lookup (documentKey kind) = some target) ∧
        (r.stage = .answered (.ok none) →
          ∃ index, IndexFrom events (j < ·) index ∧ index.lookup (documentKey kind) = none)) ∧
    (∀ i target b e document, Fetched events i (.document target) b e (.ok document) →
      (∃ key, (after events (e + 1)).readers[i]? =
        some ⟨key, .answered (.ok (some (componentsOf document)))⟩) ∧
      ∀ j, b < j → j < e → events[j]? = some .outdate →
        (after events (e + 1)).cache = (after events e).cache) ∧
    (∀ i b e w document, Fetched events i .index b e (.ok document) → MovesNext events i e w →
      (∃ r tag, (after events w).readers[i]? = some r ∧
        (after events (w + 1)).readers[i]? = some (r.follow tag (indexOf document))) ∧
      (after events (e + 1)).cache = (after events e).cache ∧
      ∀ j, b < j → j < w → events[j]? = some .outdate →
        (after events (w + 1)).cache = (after events w).cache) ∧
    (Undisturbed events →
      (∀ i b e document i' b' e' document', Fetched events i .index b e (.ok document) →
        Fetched events i' .index b' e' (.ok document') → e = e') ∧
      ∀ i target b e document i' target' b' e' document' r r',
        Fetched events i (.document target) b e (.ok document) →
        Fetched events i' (.document target') b' e' (.ok document') →
        (after events e).readers[i]? = some r → (after events e').readers[i']? = some r' →
        r.key = r'.key → e = e') := by
  refine ⟨?_, ?_, ?_, ?_⟩
  · intro j a i kind hj ha hja k r hr
    exact ⟨fun components => served_late hj ha hja hr, fun tag target => follows_late hj ha hja hr,
      unpublished_late hj ha hja hr⟩
  · intro i target b e document hf
    exact hf.answers
  · intro i b e w document hf hw
    exact hf.follows hw
  · intro h
    refine ⟨?_, ?_⟩
    · intro i b e document i' b' e' document' hf hf'
      exact Nat.le_antisymm (Nat.le_of_not_lt (h.index_once hf' hf))
        (Nat.le_of_not_lt (h.index_once hf hf'))
    · intro i target b e document i' target' b' e' document' r r' hf hf' hr hr' hkey
      exact Nat.le_antisymm (Nat.le_of_not_lt (h.document_once hf' hf hr' hr hkey.symm))
        (Nat.le_of_not_lt (h.document_once hf hf' hr hr' hkey))

/-- A document that an invalidation overtakes serves its caller and is asked for again by the
next. -/
example :
    let index : Json := .obj [("paths", .obj [("api/v1", .obj [("serverRelativeURL", .str "/v1")])])]
    let s := run {} [.arrive ⟨"", "v1", "Pod"⟩, .advance 0, .advance 0, .receive 0 (.ok index),
      .advance 0, .outdate, .release, .receive 0 (.ok .null), .arrive ⟨"", "v1", "Pod"⟩]
    s.readers.map (·.stage.isOpen) = [false, true] := by
  decide +kernel

end ClusterAccess.Schema.Readers
