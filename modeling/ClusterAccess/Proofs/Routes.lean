import ClusterAccess.Coordinate
import ClusterAccess.Http.Uri
import Mathlib.Data.List.TakeDrop
import Mathlib.Data.List.TakeWhile

namespace ClusterAccess

namespace Text

theorem splitChars_eq_splitOn (sep : Char) (cs : List Char) :
    splitChars sep cs = cs.splitOn sep := by
  induction cs with
  | nil => rfl
  | cons c cs ih =>
    rw [List.splitOn_cons_eq_if_modifyHead, splitChars, ih]
    by_cases hc : c = sep
    · simp [hc]
    · cases hs : cs.splitOn sep with
      | nil => exact absurd hs (List.splitOn_ne_nil sep cs)
      | cons piece pieces => simp [hc]

/-- Parts without separators, each behind one, are the pieces after the first. -/
theorem splitChars_flatMap {sep : Char} {parts : List (List Char)} (h : ∀ p ∈ parts, sep ∉ p) :
    splitChars sep (parts.flatMap (sep :: ·)) = [] :: parts := by
  have hcut (first : List Char) (hfirst : sep ∉ first) :
      (first ++ parts.flatMap (sep :: ·)).splitOn sep = first :: parts := by
    induction parts generalizing first with
    | nil =>
      rw [List.flatMap_nil, List.append_nil]
      exact List.splitOn_eq_singleton hfirst
    | cons p ps ih =>
      rw [List.flatMap_cons, List.cons_append, List.splitOn_append_cons_self_of_not_mem hfirst]
      exact congrArg (first :: ·)
        (ih (fun q hq => h q (List.mem_cons_of_mem p hq)) p (h p List.mem_cons_self))
  rw [splitChars_eq_splitOn]
  exact hcut [] List.not_mem_nil

/-- Without a separator parts are put one behind the other. -/
theorem intercalate_empty {α : Type} (parts : List (List α)) :
    [].intercalate parts = parts.flatten := by
  induction parts with
  | nil => rfl
  | cons p ps ih =>
    cases ps with
    | nil => simp [List.intercalate]
    | cons q qs => simpa [List.intercalate] using ih

end Text

namespace Coordinate

/-- A piece of a path that can stand there as it is. -/
structure IsSegment (s : String) : Prop where
  ne_empty : s ≠ ""
  plain : ∀ c ∈ s.toList, c ≠ '/' ∧ c ≠ '?' ∧ c ≠ '#'

instance (s : String) : Decidable (IsSegment s) :=
  decidable_of_iff (s ≠ "" ∧ s.toList.all (fun c => c != '/' && c != '?' && c != '#') = true)
    ⟨fun ⟨hne, hplain⟩ => ⟨hne, by simpa [and_assoc] using hplain⟩,
      fun ⟨hne, hplain⟩ => ⟨hne, by simpa [and_assoc] using hplain⟩⟩

/-- The path of some segments, each behind a slash. -/
def route (segments : List String) : String :=
  String.ofList ((segments.map String.toList).flatMap ('/' :: ·))

/-- Segments that are empty get lost in a path. -/
theorem pieces_route_of_slashless {segments : List String} (h : ∀ s ∈ segments, '/' ∉ s.toList) :
    pieces (route segments) = segments.filter (· ≠ "") := by
  have hslash : ∀ p ∈ segments.map String.toList, '/' ∉ p := by
    intro p hp
    obtain ⟨s, hs, rfl⟩ := List.mem_map.mp hp
    exact h s hs
  have hback : (segments.map String.toList).map String.ofList = segments := by
    simp [List.map_map, Function.comp_def]
  simp only [pieces, Text.split, route, String.toList_ofList, Text.splitChars_flatMap hslash,
    List.map_cons, hback]
  exact List.filter_cons_of_neg (by simp)

theorem pieces_route_of_plain {segments : List String}
    (h : ∀ s ∈ segments, ∀ c ∈ s.toList, c ≠ '/' ∧ c ≠ '?' ∧ c ≠ '#') :
    pieces (route segments) = segments.filter (· ≠ "") :=
  pieces_route_of_slashless fun s hs hc => (h s hs _ hc).1 rfl

theorem pieces_route {segments : List String} (h : ∀ s ∈ segments, IsSegment s) :
    pieces (route segments) = segments := by
  rw [pieces_route_of_plain fun s hs => (h s hs).plain]
  exact List.filter_eq_self.mpr fun s hs => decide_eq_true (h s hs).ne_empty

theorem route_plain {segments : List String}
    (h : ∀ s ∈ segments, ∀ c ∈ s.toList, c ≠ '/' ∧ c ≠ '?' ∧ c ≠ '#') :
    ∀ c ∈ (route segments).toList, c ≠ '?' ∧ c ≠ '#' := by
  intro c hc
  rw [route, String.toList_ofList] at hc
  obtain ⟨_, hp, hc⟩ := List.mem_flatMap.mp hc
  obtain ⟨s, hs, rfl⟩ := List.mem_map.mp hp
  rcases List.mem_cons.mp hc with rfl | hc
  · decide
  · exact (h s hs c hc).2

theorem head?_route {segments : List String} (h : segments ≠ []) :
    (route segments).toList.head? = some '/' := by
  cases segments with
  | nil => exact absurd rfl h
  | cons s rest => simp [route]

end Coordinate

namespace Http

namespace Form

/-- One parameter as it stands in a query. -/
def item (p : String × String) : List Char :=
  (encode p.1).toList ++ '=' :: (encode p.2).toList

theorem toList_query (parameters : List (String × String)) :
    (query parameters).toList = (parameters.map item).flatMap ('&' :: ·) := by
  have hparts : (parameters.map fun p => "&" ++ encode p.1 ++ "=" ++ encode p.2).map String.toList =
      (parameters.map item).map ('&' :: ·) := by
    simp [item]
  rw [query, String.toList_intercalate, hparts, List.flatMap_def]
  exact Text.intercalate_empty _

theorem encodeByte_plain (b : UInt8) :
    ∀ c ∈ encodeByte b, Uri.isQueryChar c = true ∧ c ≠ '&' := by
  have hall : (List.range 256).all (fun n =>
      (encodeByte (UInt8.ofNat n)).all fun c => Uri.isQueryChar c && c != '&') = true := by
    decide +kernel
  have hb := List.all_eq_true.mp hall b.toNat (List.mem_range.mpr b.toNat_lt)
  simpa using hb

theorem encode_plain (s : String) :
    ∀ c ∈ (encode s).toList, Uri.isQueryChar c = true ∧ c ≠ '&' := by
  intro c hc
  rw [encode, String.toList_ofList, List.mem_flatMap] at hc
  obtain ⟨b, -, hb⟩ := hc
  exact encodeByte_plain b c hb

theorem item_plain (p : String × String) : ∀ c ∈ item p, Uri.isQueryChar c = true ∧ c ≠ '&' := by
  intro c hc
  rcases List.mem_append.mp hc with hc | hc
  · exact encode_plain p.1 c hc
  · rcases List.mem_cons.mp hc with rfl | hc
    · decide
    · exact encode_plain p.2 c hc

theorem isQueryChar_query (parameters : List (String × String)) :
    (query parameters).toList.all Uri.isQueryChar = true := by
  rw [List.all_eq_true, toList_query]
  intro c hc
  obtain ⟨_, hi, hc⟩ := List.mem_flatMap.mp hc
  obtain ⟨p, -, rfl⟩ := List.mem_map.mp hi
  rcases List.mem_cons.mp hc with rfl | hc
  · decide
  · exact (item_plain p c hc).1

theorem query_plain (parameters : List (String × String)) :
    ∀ c ∈ (query parameters).toList, c ≠ '#' := by
  rintro c hc rfl
  have hchar := List.all_eq_true.mp (isQueryChar_query parameters) _ hc
  revert hchar
  decide

/-- A query is cut into its parameters again. -/
theorem split_query (parameters : List (String × String)) :
    Text.split '&' (query parameters) = "" :: parameters.map fun p => String.ofList (item p) := by
  have hplain : ∀ q ∈ parameters.map item, '&' ∉ q := by
    intro q hq hc
    obtain ⟨p, -, rfl⟩ := List.mem_map.mp hq
    exact (item_plain p _ hc).2 rfl
  rw [Text.split, toList_query, Text.splitChars_flatMap hplain]
  simp

end Form

namespace Uri

/-- A target as a client writes it: a path that begins with a slash, and perhaps a query. -/
structure IsOrigin (uri : Uri) : Prop where
  scheme : uri.scheme = none
  authority : uri.authority = none
  slash : uri.path.toList.head? = some '/'
  path : ∀ c ∈ uri.path.toList, c ≠ '?' ∧ c ≠ '#'
  query : ∀ q ∈ uri.query, ∀ c ∈ q.toList, c ≠ '#'

/-- What the target is made of may stand in a request. -/
def fits (uri : Uri) : Bool :=
  uri.path.toList.all isPathChar && uri.query.all (·.toList.all isQueryChar) &&
    uri.target.utf8ByteSize ≤ 65534

theorem target?_path {path : List Char} (hp : ∀ c ∈ path, c ≠ '?' ∧ c ≠ '#') (hne : path ≠ []) :
    target? path = if path.all isPathChar then some (String.ofList path, none) else none := by
  have hhash : path.takeWhile (· ≠ '#') = path :=
    List.takeWhile_eq_self_iff.mpr fun c hc => decide_eq_true (hp c hc).2
  have hmark : path.span (· ≠ '?') = (path, []) := by
    rw [List.span_eq_takeWhile_dropWhile, List.takeWhile_eq_self_iff.mpr,
      List.dropWhile_eq_nil_iff.mpr]
    all_goals exact fun c hc => decide_eq_true (hp c hc).1
  simp only [target?, hhash, hmark, hne, ↓reduceIte, List.drop_nil, List.all_nil, Bool.and_true]

theorem target?_query {path query : List Char} (hp : ∀ c ∈ path, c ≠ '?' ∧ c ≠ '#')
    (hq : ∀ c ∈ query, c ≠ '#') (hne : path ≠ []) :
    target? (path ++ '?' :: query) =
      if path.all isPathChar && query.all isQueryChar then
        some (String.ofList path, some (String.ofList query)) else none := by
  have hhash : (path ++ '?' :: query).takeWhile (· ≠ '#') = path ++ '?' :: query := by
    refine List.takeWhile_eq_self_iff.mpr fun c hc => decide_eq_true ?_
    rcases List.mem_append.mp hc with hc | hc
    · exact (hp c hc).2
    · rcases List.mem_cons.mp hc with rfl | hc
      · decide
      · exact hq c hc
  have hmark : (path ++ '?' :: query).span (· ≠ '?') = (path, '?' :: query) := by
    have hpath : ∀ c ∈ path, decide (c ≠ '?') = true := fun c hc => decide_eq_true (hp c hc).1
    rw [List.span_eq_takeWhile_dropWhile, List.takeWhile_append_of_pos hpath,
      List.dropWhile_append_of_pos hpath]
    simp
  simp only [target?, hhash, hmark, hne, reduceCtorEq, ↓reduceIte, List.drop_succ_cons,
    List.drop_zero]

theorem toList_target {uri : Uri} {query : String} (hq : uri.query = some query) :
    uri.target.toList = uri.path.toList ++ '?' :: query.toList := by
  have htarget : uri.target = uri.path ++ "?" ++ query := by
    simp only [target, hq]
    rfl
  simp [htarget]

theorem target_of_none {uri : Uri} (hq : uri.query = none) : uri.target = uri.path := by
  simp only [target, hq]

theorem IsOrigin.head? {uri : Uri} (h : uri.IsOrigin) : uri.target.toList.head? = some '/' := by
  cases hq : uri.query with
  | none => exact target_of_none hq ▸ h.slash
  | some query => simp [toList_target hq, h.slash]

theorem target?_target {uri : Uri} (h : uri.IsOrigin) :
    target? uri.target.toList =
      if uri.path.toList.all isPathChar && uri.query.all (·.toList.all isQueryChar) then
        some (uri.path, uri.query) else none := by
  have hne : uri.path.toList ≠ [] := by
    intro hnil
    have hslash := h.slash
    simp [hnil] at hslash
  cases hq : uri.query with
  | none => simp [target_of_none hq, target?_path h.path hne]
  | some query => simp [toList_target hq, target?_query h.path (h.query query hq) hne]

/-- What a client writes is read back as it was meant. -/
theorem parse?_target {uri : Uri} (h : uri.IsOrigin) :
    parse? uri.target = if uri.fits then some uri else none := by
  have hhead := h.head?
  have hne : uri.target.toList ≠ [] := by
    intro hnil
    simp [hnil] at hhead
  have hstar : uri.target.toList ≠ ['*'] := by
    intro hstar
    simp [hstar] at hhead
  have hback : (⟨none, none, uri.path, uri.query⟩ : Uri) = uri := by
    obtain ⟨scheme, authority, path, query⟩ := uri
    cases h.scheme
    cases h.authority
    rfl
  simp only [parse?, hhead, hne, hstar, target?_target h, fits, ↓reduceIte, decide_false,
    Bool.false_or, decide_eq_true_eq]
  by_cases hsize : 65534 < uri.target.utf8ByteSize
  · simp [hsize, Nat.not_le.mpr hsize]
  · simp only [hsize, Nat.not_lt.mp hsize, ↓reduceIte, decide_true, Bool.and_true]
    split
    · exact congrArg some hback
    · rfl

end Uri

end Http

end ClusterAccess
