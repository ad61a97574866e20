import ClusterAccess.Proofs.Coordinates
import ClusterAccess.Proofs.Routes

namespace ClusterAccess

namespace Text

theorem split_eq_splitOn (sep : Char) (s : String) :
    split sep s = (s.toList.splitOn sep).map String.ofList := by
  rw [split, splitChars_eq_splitOn]

/-- No separator is left in a piece. -/
theorem not_mem_of_mem_splitChars {sep : Char} {cs piece : List Char}
    (h : piece ∈ splitChars sep cs) : sep ∉ piece := by
  induction cs generalizing piece with
  | nil =>
    obtain rfl := List.mem_singleton.mp h
    exact List.not_mem_nil
  | cons c cs ih =>
    rw [splitChars] at h
    split at h
    · rcases List.mem_cons.mp h with rfl | h
      · exact List.not_mem_nil
      · exact ih h
    · rename_i hc
      split at h
      · obtain rfl := List.mem_singleton.mp h
        exact fun hs => hc (List.mem_singleton.mp hs).symm
      · rename_i first others hs
        rw [hs] at ih
        rcases List.mem_cons.mp h with rfl | h
        · exact List.not_mem_cons_of_ne_of_not_mem (Ne.symm hc) (ih List.mem_cons_self)
        · exact ih (List.mem_cons_of_mem first h)

end Text

namespace Coordinate

/-- A piece of a path between two slashes. -/
def IsPiece (s : String) : Prop :=
  s ≠ "" ∧ '/' ∉ s.toList

instance (s : String) : Decidable (IsPiece s) :=
  inferInstanceAs (Decidable (_ ∧ _))

theorem isPiece_of_mem_pieces {path piece : String} (h : piece ∈ pieces path) : IsPiece piece := by
  refine ⟨ne_of_mem_pieces h, ?_⟩
  obtain ⟨cut, hcut, rfl⟩ := List.mem_map.mp (List.mem_filter.mp h).1
  simpa using Text.not_mem_of_mem_splitChars hcut

/-- Name and subresource, as far as there are any. -/
def trail (c : Coordinate) : List String :=
  c.name.toList ++ c.subresource.toList

/-- The segments after group and version. -/
def placement (c : Coordinate) : List String :=
  match c.namespaceName with
  | none => c.resource :: c.trail
  | some ns => "namespaces" :: ns :: c.resource :: c.trail

/-- The segments that a coordinate is written with; only the core group has none of its own. -/
def segments (c : Coordinate) : List String :=
  (if c.group = "" then ["api"] else ["apis", c.group]) ++ c.version :: c.placement

/-- A subresource of a namespace, written like that of any other object. -/
def IsShared (c : Coordinate) : Prop :=
  c.namespaceName = none ∧ c.resource = "namespaces" ∧ c.name.isSome ∧ c.subresource.isSome

instance (c : Coordinate) : Decidable c.IsShared :=
  inferInstanceAs (Decidable (_ ∧ _ ∧ _ ∧ _))

/-- Nothing follows a part that is left out. -/
structure IsClosed (c : Coordinate) (further : List String) : Prop where
  named : c.subresource.isSome → c.name.isSome
  ended : further ≠ [] → c.subresource.isSome

/-- A resource with what follows it. -/
def ofTrail (method group version resource : String) (namespaceName : Option String)
    (rest : List String) : Coordinate :=
  ⟨group, version, resource, namespaceName, rest[0]?, rest[1]?, Verb.ofMethod method rest.isEmpty⟩

theorem trail_ofTrail (method group version resource : String) (namespaceName : Option String)
    (rest : List String) :
    let c := ofTrail method group version resource namespaceName rest
    c.IsClosed (rest.drop 2) ∧ c.trail ++ rest.drop 2 = rest ∧
      c.verb = Verb.ofMethod method c.name.isNone := by
  rcases rest with _ | ⟨name, _ | ⟨sub, further⟩⟩
  · exact ⟨⟨nofun, fun h => absurd rfl h⟩, rfl, rfl⟩
  · exact ⟨⟨nofun, fun h => absurd rfl h⟩, rfl, rfl⟩
  · exact ⟨⟨fun _ => rfl, fun _ => rfl⟩, rfl, rfl⟩

theorem IsClosed.getElem? {c : Coordinate} {further : List String} (h : c.IsClosed further) :
    (c.trail ++ further)[0]? = c.name ∧ (c.trail ++ further)[1]? = c.subresource ∧
      (c.trail ++ further).isEmpty = c.name.isNone := by
  obtain ⟨hnamed, hended⟩ := h
  cases hname : c.name with
  | none =>
    have hsub : c.subresource = none := by simpa [hname] using hnamed
    have hfurther : further = [] := by simpa [hsub] using hended
    simp [trail, hname, hsub, hfurther]
  | some name =>
    cases hsub : c.subresource with
    | none =>
      have hfurther : further = [] := by simpa [hsub] using hended
      simp [trail, hname, hsub, hfurther]
    | some sub => simp [trail, hname, hsub]

/-- A subresource of a namespace is there exactly when two segments follow the name of that
resource. -/
theorem IsClosed.isShared_iff {c : Coordinate} {further : List String} (h : c.IsClosed further) :
    c.IsShared ↔ c.namespaceName = none ∧ c.resource = "namespaces" ∧
      2 ≤ (c.trail ++ further).length := by
  have hsecond : 2 ≤ (c.trail ++ further).length ↔ c.subresource.isSome := by
    rw [← h.getElem?.2.1]
    simp [Nat.succ_le_iff]
  rw [hsecond]
  constructor
  · rintro ⟨hns, hresource, -, hsub⟩
    exact ⟨hns, hresource, hsub⟩
  · rintro ⟨hns, hresource, hsub⟩
    exact ⟨hns, hresource, h.named hsub, hsub⟩

/-- What is read after group and version is what is written there. -/
theorem place_eq_some_iff {method group version : String} {rest : List String} {c : Coordinate} :
    place method group version rest = some c ↔
      c.group = group ∧ c.version = version ∧ c.verb = Verb.ofMethod method c.name.isNone ∧
        ¬ c.IsShared ∧ ∃ further, c.IsClosed further ∧ rest = c.placement ++ further := by
  constructor
  · intro h
    unfold place at h
    split at h
    · cases h
    · rename_i ns resource rest
      obtain ⟨hclosed, htrail, hverb⟩ := trail_ofTrail method group version resource (some ns) rest
      obtain rfl := Option.some.inj h
      refine ⟨rfl, rfl, hverb, fun hs => Option.some_ne_none ns hs.1, rest.drop 2, hclosed, ?_⟩
      exact congrArg ("namespaces" :: ns :: resource :: ·) htrail.symm
    · rename_i resource rest hlone
      obtain ⟨hclosed, htrail, hverb⟩ := trail_ofTrail method group version resource none rest
      obtain rfl := Option.some.inj h
      refine ⟨rfl, rfl, hverb, ?_, rest.drop 2, hclosed, congrArg (resource :: ·) htrail.symm⟩
      intro hs
      obtain ⟨-, hresource, hlength⟩ := hclosed.isShared_iff.mp hs
      rw [htrail] at hlength
      rcases rest with _ | ⟨ns, _ | ⟨next, others⟩⟩
      · simp at hlength
      · simp at hlength
      · exact hlone ns next others hresource rfl
  · rintro ⟨rfl, rfl, hverb, hshared, further, hclosed, rfl⟩
    obtain ⟨hname, hsub, hempty⟩ := hclosed.getElem?
    cases hns : c.namespaceName with
    | none =>
      rw [hclosed.isShared_iff] at hshared
      have hlone : c.resource = "namespaces" → (c.trail ++ further).length ≤ 1 := by
        intro hresource
        by_contra hlength
        exact hshared ⟨hns, hresource, by omega⟩
      simp only [placement, hns, List.cons_append]
      rw [place_of_lone hlone, hname, hsub, hempty, ← hverb, ← hns]
    | some ns =>
      simp only [placement, hns, List.cons_append]
      rw [place_namespaces, hname, hsub, hempty, ← hverb, ← hns]

/-- Reading pieces gives what they are written from. -/
theorem ofPieces_eq_some_iff {method : String} {parts : List String} {c : Coordinate}
    (hparts : ∀ s ∈ parts, s ≠ "") :
    ofPieces method parts = some c ↔
      c.verb = Verb.ofMethod method c.name.isNone ∧ ¬ c.IsShared ∧
        ∃ further, c.IsClosed further ∧ parts = c.segments ++ further := by
  constructor
  · intro h
    unfold ofPieces at h
    split at h
    · obtain ⟨hgroup, rfl, hverb, hshared, further, hclosed, rfl⟩ := place_eq_some_iff.mp h
      exact ⟨hverb, hshared, further, hclosed, by simp [segments, hgroup]⟩
    · obtain ⟨rfl, rfl, hverb, hshared, further, hclosed, rfl⟩ := place_eq_some_iff.mp h
      have hgroup := hparts c.group (by simp)
      exact ⟨hverb, hshared, further, hclosed, by simp [segments, hgroup]⟩
    · cases h
  · rintro ⟨hverb, hshared, further, hclosed, rfl⟩
    by_cases hgroup : c.group = ""
    · simp only [segments, if_pos hgroup, List.cons_append, List.nil_append, ofPieces]
      exact place_eq_some_iff.mpr ⟨hgroup, rfl, hverb, hshared, further, hclosed, rfl⟩
    · simp only [segments, if_neg hgroup, List.cons_append, List.nil_append, ofPieces]
      exact place_eq_some_iff.mpr ⟨rfl, rfl, hverb, hshared, further, hclosed, rfl⟩

theorem isSome_place {method group version : String} {rest : List String} :
    (place method group version rest).isSome ↔ 1 ≤ rest.length := by
  unfold place
  split <;> simp

/-- Only the beginning of a path and the number of its pieces decide whether it names a
resource. -/
theorem isSome_ofPieces {method : String} {parts : List String} :
    (ofPieces method parts).isSome ↔
      (∃ more, parts = "api" :: more ∧ 2 ≤ more.length) ∨
        ∃ more, parts = "apis" :: more ∧ 3 ≤ more.length := by
  unfold ofPieces
  split
  · simp [isSome_place]
  · simp [isSome_place]
  · rename_i hcore hnamed
    refine iff_of_false (by simp) ?_
    rintro (⟨more, rfl, hlength⟩ | ⟨more, rfl, hlength⟩)
    · rcases more with _ | ⟨version, rest⟩
      · simp at hlength
      · exact hcore version rest rfl
    · rcases more with _ | ⟨group, _ | ⟨version, rest⟩⟩
      · simp at hlength
      · simp at hlength
      · exact hnamed group version rest rfl

/-- Where the parts of a coordinate stand among the pieces of a path. Name and subresource stand
behind the resource, as far as there are any. -/
structure Offsets where
  group : Option Nat
  version : Nat
  namespaceName : Option Nat
  resource : Nat

namespace Offsets

/-- The offsets behind a version. -/
def behind? (parts : List String) (group : Option Nat) (version : Nat) : Option Offsets :=
  if version + 2 ≤ parts.length then
    if parts[version + 1]? = some "namespaces" ∧ version + 4 ≤ parts.length then
      some ⟨group, version, some (version + 2), version + 3⟩
    else some ⟨group, version, none, version + 1⟩
  else none

def of? (parts : List String) : Option Offsets :=
  match parts with
  | "api" :: _ => behind? parts none 1
  | "apis" :: _ => behind? parts (some 1) 2
  | _ => none

/-- The pieces that have to be there. -/
def required (o : Offsets) : List Nat :=
  o.group.toList ++ o.version :: (o.namespaceName.toList ++ [o.resource])

/-- What stands at the offsets; nothing if one of those required is out of range. -/
def read (method : String) (parts : List String) (o : Offsets) : Option Coordinate := do
  let group ← o.group.elim (some "") (parts[·]?)
  let version ← parts[o.version]?
  let namespaceName ← o.namespaceName.elim (some none) fun i => parts[i]?.map some
  let resource ← parts[o.resource]?
  some {
    group, version, resource, namespaceName
    name := parts[o.resource + 1]?
    subresource := parts[o.resource + 2]?
    verb := Verb.ofMethod method (o.resource + 1 = parts.length) }

theorem decide_eq_isEmpty {α : Type} {n m : Nat} (l : List α) (h : m = n + l.length) :
    decide (n = m) = l.isEmpty := by
  cases l <;> simp [h]

/-- Behind the version the offsets lead to what `place` reads. -/
theorem read_behind? (method : String) {parts rest : List String} {group version : String}
    {start : Nat} {groupAt : Option Nat} (hrest : parts.drop start = version :: rest)
    (hgroup : groupAt.elim (some "") (parts[·]?) = some group) :
    (behind? parts groupAt start).map (read method parts) =
      (place method group version rest).map some := by
  have hat (k : Nat) : parts[start + k]? = (version :: rest)[k]? := by
    rw [← hrest, List.getElem?_drop]
  have hversion : parts[start]? = some version := hat 0
  have hlength : parts.length = start + rest.length + 1 := by
    have hdrop := congrArg List.length hrest
    rw [List.length_drop, List.length_cons] at hdrop
    omega
  rcases rest with _ | ⟨resource, more⟩
  · have hshort : ¬ start + 2 ≤ parts.length := by simp [hlength]
    rw [behind?, if_neg hshort]
    rfl
  · have hresource : parts[start + 1]? = some resource := hat 1
    rw [List.length_cons] at hlength
    rw [behind?, if_pos (by omega), hresource]
    by_cases hns : resource = "namespaces" ∧ 2 ≤ more.length
    · obtain ⟨rfl, hmore⟩ := hns
      rcases more with _ | ⟨ns, _ | ⟨next, others⟩⟩
      · simp at hmore
      · simp at hmore
      · have hempty := decide_eq_isEmpty (n := start + 3 + 1) (m := parts.length) others
          (by simp [hlength]; omega)
        rw [if_pos ⟨rfl, by omega⟩, place_namespaces]
        simp [read, hgroup, hversion, hat, Nat.add_assoc, hempty]
    · have hinside : ¬ (some resource = some "namespaces" ∧ start + 4 ≤ parts.length) :=
        fun ⟨hr, hl⟩ => hns ⟨Option.some.inj hr, by omega⟩
      have hempty := decide_eq_isEmpty (n := start + 1 + 1) (m := parts.length) more (by omega)
      have hname : parts[start + 2]? = more[0]? := hat 2
      have hsub : parts[start + 3]? = more[1]? := hat 3
      rw [if_neg hinside, place_of_lone fun hr => by_contra fun hl => hns ⟨hr, by omega⟩]
      simp [read, hgroup, hversion, hresource, hempty, hname, hsub]

theorem read_of? (method : String) (parts : List String) :
    (of? parts).map (read method parts) = (ofPieces method parts).map some := by
  unfold of?
  split
  · rename_i rest
    rcases rest with _ | ⟨version, rest⟩
    · rfl
    · exact read_behind? method rfl rfl
  · rename_i rest
    rcases rest with _ | ⟨group, _ | ⟨version, rest⟩⟩
    · rfl
    · rfl
    · exact read_behind? method rfl rfl
  · rename_i hcore hnamed
    have hnone : ofPieces method parts = none := by
      unfold ofPieces
      split
      · exact absurd rfl (hcore _)
      · exact absurd rfl (hnamed _)
      · rfl
    rw [hnone]
    rfl

/-- What can be read leaves no offset out of range. -/
theorem lt_of_read {method : String} {parts : List String} {o : Offsets} {c : Coordinate}
    (h : o.read method parts = some c) : ∀ i ∈ o.required, i < parts.length := by
  have inRange {i : Nat} {s : String} (hs : parts[i]? = some s) : i < parts.length :=
    (List.getElem?_eq_some_iff.mp hs).1
  simp only [read, bind, Option.bind_eq_some_iff] at h
  obtain ⟨_, hgroup, _, hversion, _, hns, _, hresource, -⟩ := h
  simp only [required, List.mem_append, List.mem_cons, Option.mem_toList, List.not_mem_nil,
    or_false]
  rintro i (hi | rfl | hi | rfl)
  · rw [hi] at hgroup
    exact inRange hgroup
  · exact inRange hversion
  · rw [hi] at hns
    obtain ⟨_, hns, -⟩ := Option.map_eq_some_iff.mp hns
    exact inRange hns
  · exact inRange hresource

/-- Every path that is read is read inside its pieces. -/
theorem inside {method : String} {parts : List String} {o : Offsets} (h : of? parts = some o) :
    (∀ i ∈ o.required, i < parts.length) ∧ o.read method parts = ofPieces method parts := by
  have hread := read_of? method parts
  rw [h, Option.map_some] at hread
  cases hc : ofPieces method parts with
  | none => rw [hc] at hread; cases hread
  | some c =>
    rw [hc, Option.map_some] at hread
    have hsome := Option.some.inj hread
    exact ⟨lt_of_read hsome, hsome⟩

end Offsets

/-- A coordinate and further segments that it can be written with. -/
structure IsWritten (c : Coordinate) (further : List String) : Prop
    extends c.IsClosed further where
  isPiece : ∀ s ∈ c.segments ++ further, IsPiece s

theorem resolve_eq_some_iff {method path : String} {c : Coordinate} :
    resolve method path = some c ↔
      c.verb = Verb.ofMethod method c.name.isNone ∧ ¬ c.IsShared ∧
        ∃ further, c.IsWritten further ∧ pieces path = c.segments ++ further := by
  rw [resolve, ofPieces_eq_some_iff fun s hs => ne_of_mem_pieces hs]
  refine and_congr_right fun _ => and_congr_right fun _ => exists_congr fun further => ?_
  constructor
  · rintro ⟨hclosed, hpieces⟩
    exact ⟨⟨hclosed, fun s hs => isPiece_of_mem_pieces (hpieces ▸ hs)⟩, hpieces⟩
  · rintro ⟨hwritten, hpieces⟩
    exact ⟨hwritten.toIsClosed, hpieces⟩

theorem IsWritten.pieces_route {c : Coordinate} {further : List String} (h : c.IsWritten further) :
    pieces (route (c.segments ++ further)) = c.segments ++ further := by
  rw [pieces_route_of_slashless fun s hs => (h.isPiece s hs).2]
  exact List.filter_eq_self.mpr fun s hs => decide_eq_true (h.isPiece s hs).1

/-- What is written is read again, with the verb of the method. -/
theorem IsWritten.resolve_route {c : Coordinate} {further : List String}
    (h : c.IsWritten further) (hs : ¬ c.IsShared) (method : String) :
    resolve method (route (c.segments ++ further)) =
      some { c with verb := Verb.ofMethod method c.name.isNone } :=
  resolve_eq_some_iff.mpr ⟨rfl, hs, further, ⟨⟨h.named, h.ended⟩, h.isPiece⟩, h.pieces_route⟩

/-- What is written as the subresource of a namespace is read as what the namespace holds. -/
theorem IsWritten.resolve_shared {c : Coordinate} {further : List String} {ns sub : String}
    (h : c.IsWritten further) (hns : c.namespaceName = none) (hresource : c.resource = "namespaces")
    (hname : c.name = some ns) (hsub : c.subresource = some sub) (method : String) :
    resolve method (route (c.segments ++ further)) =
      some ⟨c.group, c.version, sub, some ns, further[0]?, further[1]?,
        Verb.ofMethod method further.isEmpty⟩ := by
  let held := ofTrail method c.group c.version sub (some ns) further
  obtain ⟨hclosed, htrail, hverb⟩ := trail_ofTrail method c.group c.version sub (some ns) further
  have hwrites : c.placement = ["namespaces", ns, sub] := by
    simp [placement, trail, hns, hresource, hname, hsub]
  have hholds : held.placement = "namespaces" :: ns :: sub :: held.trail := rfl
  have hsegments : c.segments ++ further = held.segments ++ further.drop 2 := by
    simp only [segments, hwrites, hholds, List.append_assoc, List.cons_append, List.nil_append]
    rw [htrail]
    rfl
  have hwritten : held.IsWritten (further.drop 2) := ⟨hclosed, hsegments ▸ h.isPiece⟩
  have hresolve : resolve method (route (c.segments ++ further)) = some held :=
    resolve_eq_some_iff.mpr ⟨hverb, fun hs => Option.some_ne_none ns hs.1, further.drop 2, hwritten,
      h.pieces_route.trans hsegments⟩
  exact hresolve

theorem ofMethod_eq_list_iff {method : String} {collection : Bool} :
    Verb.ofMethod method collection = .list ↔ method = "GET" ∧ collection = true := by
  constructor
  · intro h
    unfold Verb.ofMethod at h
    split at h
    · cases collection with
      | false => cases h
      | true => exact ⟨rfl, rfl⟩
    all_goals first | cases h | (split at h <;> cases h)
  · intro h
    obtain ⟨rfl, rfl⟩ := h
    rfl

/-- Some item of the query asks for changes. -/
def AsksForChanges (uri : Http.Uri) : Prop :=
  ∃ query, uri.query = some query ∧
    ∃ item ∈ query.toList.splitOn '&', item = "watch=true".toList ∨ item = "watch=1".toList

theorem any_asksToWatch_iff {uri : Http.Uri} :
    uri.query.any asksToWatch = true ↔ AsksForChanges uri := by
  have hitem (piece : List Char) (text : String) :
      String.ofList piece = text ↔ piece = text.toList := by
    constructor
    · intro h
      rw [← h, String.toList_ofList]
    · intro h
      rw [h, String.ofList_toList]
  simp [AsksForChanges, asksToWatch, Text.split_eq_splitOn, hitem, Option.any_eq_true]

/-- A request is read like its path, and its query decides only whether listing is watching. -/
theorem ofRequest_eq {method : String} {uri : Http.Uri} {c : Coordinate}
    (h : resolve method uri.path = some c) :
    (method = "GET" ∧ c.name = none ∧ AsksForChanges uri →
        ofRequest method uri = some { c with verb := .watch }) ∧
      (¬ (method = "GET" ∧ c.name = none ∧ AsksForChanges uri) → ofRequest method uri = some c) := by
  have hverb := (resolve_eq_some_iff.mp h).1
  have hasks : c.verb = .list ∧ uri.query.any asksToWatch = true ↔
      method = "GET" ∧ c.name = none ∧ AsksForChanges uri := by
    rw [hverb, ofMethod_eq_list_iff, Option.isNone_iff_eq_none, any_asksToWatch_iff, and_assoc]
  rw [ofRequest, h, Option.map_some]
  constructor
  · intro hwatch
    rw [if_pos (hasks.mpr hwatch)]
  · intro hplain
    rw [if_neg fun hwatch => hplain (hasks.mp hwatch)]

/-- A path is read exactly if it is a written form: the beginning and the number of its pieces
decide, all of them that are needed are there, and what is found is what it is written from. Written
forms are read back, whatever follows them, except that a subresource of a namespace is what the
namespace holds. The verb follows from the method and the name alone, and only listing with a query
that asks for changes becomes watching. -/
theorem resolve_inverts_routes (method : String) :
    (∀ path, let parts := pieces path
      parts = ((path.toList.splitOn '/').map String.ofList).filter (· ≠ "") ∧
      ((resolve method path).isSome ↔
        (∃ more, parts = "api" :: more ∧ 2 ≤ more.length) ∨
          ∃ more, parts = "apis" :: more ∧ 3 ≤ more.length) ∧
      (∀ c, resolve method path = some c ↔
        c.verb = Verb.ofMethod method c.name.isNone ∧ ¬ c.IsShared ∧
          ∃ further, c.IsWritten further ∧ parts = c.segments ++ further) ∧
      (Offsets.of? parts = none → resolve method path = none) ∧
      ∀ o, Offsets.of? parts = some o →
        (∀ i ∈ o.required, i < parts.length) ∧ o.read method parts = resolve method path) ∧
    (∀ (c : Coordinate) further, c.IsWritten further →
      (¬ c.IsShared → resolve method (route (c.segments ++ further)) =
        some { c with verb := Verb.ofMethod method c.name.isNone }) ∧
      ∀ ns sub, c.namespaceName = none → c.resource = "namespaces" → c.name = some ns →
        c.subresource = some sub → resolve method (route (c.segments ++ further)) =
          some ⟨c.group, c.version, sub, some ns, further[0]?, further[1]?,
            Verb.ofMethod method further.isEmpty⟩) ∧
    ∀ uri, (resolve method uri.path = none → ofRequest method uri = none) ∧
      ∀ c : Coordinate, resolve method uri.path = some c →
        (method = "GET" ∧ c.name = none ∧ AsksForChanges uri →
          ofRequest method uri = some { c with verb := .watch }) ∧
        (¬ (method = "GET" ∧ c.name = none ∧ AsksForChanges uri) →
          ofRequest method uri = some c) := by
  refine ⟨fun path => ⟨?_, isSome_ofPieces, fun c => resolve_eq_some_iff, ?_, ?_⟩, ?_, ?_⟩
  · rw [pieces, Text.split_eq_splitOn]
  · intro hnone
    have hread := Offsets.read_of? method (pieces path)
    rw [hnone, Option.map_none] at hread
    exact Option.map_eq_none_iff.mp hread.symm
  · intro o ho
    exact Offsets.inside ho
  · intro c further hwritten
    exact ⟨fun hs => hwritten.resolve_route hs method,
      fun ns sub hns hresource hname hsub =>
        hwritten.resolve_shared hns hresource hname hsub method⟩
  · intro uri
    constructor
    · intro hnone
      rw [ofRequest, hnone, Option.map_none]
    · intro c hc
      exact ofRequest_eq hc

theorem resolve_inverts_routes_of_a_namespace :
    let held : Coordinate := ⟨"", "v1", "pods", some "team", some "web-0", some "log", .get⟩
    let shared : Coordinate := ⟨"", "v1", "namespaces", none, some "team", some "pods", .get⟩
    let watched : Coordinate := ⟨"apps", "v1", "deployments", none, none, none, .list⟩
    held.IsWritten ["tail"] ∧ ¬ held.IsShared ∧
    route (held.segments ++ ["tail"]) = "/api/v1/namespaces/team/pods/web-0/log/tail" ∧
    resolve "GET" "/api/v1/namespaces/team/pods/web-0/log/tail" = some held ∧
    shared.IsWritten ["web-0"] ∧ shared.IsShared ∧
    route (shared.segments ++ ["web-0"]) = "/api/v1/namespaces/team/pods/web-0" ∧
    resolve "GET" "/api/v1/namespaces/team/pods/web-0" = some { held with subresource := none } ∧
    AsksForChanges ⟨none, none, "/apis/apps/v1/deployments", some "limit=5&watch=1"⟩ ∧
    ofRequest "GET" ⟨none, none, "/apis/apps/v1/deployments", some "limit=5&watch=1"⟩ =
      some { watched with verb := .watch } := by
  intro held shared watched
  have hheld : held.IsWritten ["tail"] := ⟨⟨by decide, by decide⟩, by decide +kernel⟩
  have hshared : shared.IsWritten ["web-0"] := ⟨⟨by decide, by decide⟩, by decide +kernel⟩
  have hroute : route (held.segments ++ ["tail"]) = "/api/v1/namespaces/team/pods/web-0/log/tail" :=
    by decide +kernel
  have hshort : route (shared.segments ++ ["web-0"]) = "/api/v1/namespaces/team/pods/web-0" :=
    by decide +kernel
  have hasks : AsksForChanges ⟨none, none, "/apis/apps/v1/deployments", some "limit=5&watch=1"⟩ :=
    ⟨_, rfl, "watch=1".toList, by decide +kernel, .inr rfl⟩
  obtain ⟨-, hwritten, hrequest⟩ := resolve_inverts_routes "GET"
  refine ⟨hheld, by decide, hroute, ?_, hshared, by decide, hshort, ?_, hasks, ?_⟩
  · rw [← hroute]
    exact (hwritten held ["tail"] hheld).1 (by decide)
  · rw [← hshort]
    exact (hwritten shared ["web-0"] hshared).2 "team" "pods" rfl rfl rfl rfl
  · exact ((hrequest _).2 watched (by decide +kernel)).1 ⟨rfl, rfl, hasks⟩

end Coordinate

end ClusterAccess
