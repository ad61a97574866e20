import ClusterAccess.Proofs.UndeclaredFields
import Mathlib.Logic.Relation

namespace ClusterAccess

/-- One member of an object or element of an array goes, at any place in a value. -/
inductive Json.Deletes : Json → Json → Prop where
  | member (before after : List (String × Json)) (entry : String × Json) :
      Deletes (.obj (before ++ entry :: after)) (.obj (before ++ after))
  | item (before after : List Json) (entry : Json) :
      Deletes (.arr (before ++ entry :: after)) (.arr (before ++ after))
  | inMember (before after : List (String × Json)) (name : String) {value value' : Json}
      (inner : Deletes value value') :
      Deletes (.obj (before ++ (name, value) :: after)) (.obj (before ++ (name, value') :: after))
  | inItem (before after : List Json) {value value' : Json} (inner : Deletes value value') :
      Deletes (.arr (before ++ value :: after)) (.arr (before ++ value' :: after))

namespace Schema

/-- Some member is undeclared of an object at a level. -/
def HasUndeclared (components : List (String × Json)) (schema value : Json) (level : Nat) : Prop :=
  ∃ position path, Undeclared components schema value level position path

section

variable {components : List (String × Json)} {schema value value' : Json} {level : Nat}

theorem hasUndeclared_obj {members : List (String × Json)} :
    HasUndeclared components schema (.obj members) level ↔
      ∃ settled name value, Settles components schema settled ∧ (name, value) ∈ members ∧
        name.toList.head? ≠ some '$' ∧ (level = 0 ∧ Lacks settled name ∨
          ∃ declared inner, level = inner + 1 ∧ Declares settled name declared ∧
            HasUndeclared components declared value inner) := by
  constructor
  · rintro ⟨position, path, h⟩
    cases h with
    | here settles found field lacks =>
      exact ⟨_, _, _, settles, List.mem_of_getElem? found, field, .inl ⟨rfl, lacks⟩⟩
    | member settles found field declares below =>
      exact ⟨_, _, _, settles, List.mem_of_getElem? found, field,
        .inr ⟨_, _, rfl, declares, _, _, below⟩⟩
  · rintro ⟨settled, name, value, settles, hmem, field, h⟩
    obtain ⟨i, found⟩ := List.mem_iff_getElem?.mp hmem
    rcases h with ⟨rfl, lacks⟩ | ⟨declared, inner, rfl, declares, position, path, below⟩
    · exact ⟨_, _, .here settles found field lacks⟩
    · exact ⟨_, _, .member settles found field declares below⟩

theorem hasUndeclared_arr {items : List Json} :
    HasUndeclared components schema (.arr items) level ↔
      ∃ settled declared value inner, Settles components schema settled ∧ value ∈ items ∧
        settled.member? "items" = some declared ∧ level = inner + 1 ∧
        HasUndeclared components declared value inner := by
  constructor
  · rintro ⟨position, path, h⟩
    cases h with
    | item settles found declares below =>
      exact ⟨_, _, _, _, settles, List.mem_of_getElem? found, declares, rfl, _, _, below⟩
  · rintro ⟨settled, declared, value, inner, settles, hmem, declares, rfl, position, path, below⟩
    obtain ⟨i, found⟩ := List.mem_iff_getElem?.mp hmem
    exact ⟨_, _, .item settles found declares below⟩

/-- Whatever holds a value with some undeclared member holds one that has it at the same level. -/
def Covers (components : List (String × Json)) (value value' : Json) : Prop :=
  ∀ schema level, HasUndeclared components schema value' level →
    HasUndeclared components schema value level

theorem Covers.refl (value : Json) : Covers components value value :=
  fun _ _ h => h

/-- No member's siblings matter for what it is held against. -/
theorem covers_obj {members members' : List (String × Json)}
    (h : ∀ name value', (name, value') ∈ members' →
      ∃ value, (name, value) ∈ members ∧ Covers components value value') :
    Covers components (.obj members) (.obj members') := by
  intro schema level hundeclared
  rw [hasUndeclared_obj] at hundeclared ⊢
  obtain ⟨settled, name, value', settles, hmem', field, hundeclared⟩ := hundeclared
  obtain ⟨value, hmem, hcovers⟩ := h name value' hmem'
  refine ⟨settled, name, value, settles, hmem, field, hundeclared.imp_right ?_⟩
  rintro ⟨declared, inner, hlevel, declares, below⟩
  exact ⟨declared, inner, hlevel, declares, hcovers declared inner below⟩

theorem covers_arr {items items' : List Json}
    (h : ∀ value' ∈ items', ∃ value ∈ items, Covers components value value') :
    Covers components (.arr items) (.arr items') := by
  intro schema level hundeclared
  rw [hasUndeclared_arr] at hundeclared ⊢
  obtain ⟨settled, declared, value', inner, settles, hmem', declares, hlevel, below⟩ := hundeclared
  obtain ⟨value, hmem, hcovers⟩ := h value' hmem'
  exact ⟨settled, declared, value, inner, settles, hmem, declares, hlevel,
    hcovers declared inner below⟩

/-- A deletion takes away entries or what is in them. -/
theorem Covers.of_deletes (hd : value.Deletes value') : Covers components value value' := by
  induction hd with
  | member before after entry =>
    refine covers_obj fun name value' hmem => ⟨value', ?_, .refl value'⟩
    simp only [List.mem_append, List.mem_cons] at hmem ⊢
    exact hmem.imp_right .inr
  | item before after entry =>
    refine covers_arr fun value' hmem => ⟨value', ?_, .refl value'⟩
    simp only [List.mem_append, List.mem_cons] at hmem ⊢
    exact hmem.imp_right .inr
  | @inMember before after name value value' hinner ih =>
    refine covers_obj fun found rest hmem => ?_
    simp only [List.mem_append, List.mem_cons, Prod.mk.injEq] at hmem ⊢
    rcases hmem with hbefore | ⟨rfl, rfl⟩ | hafter
    · exact ⟨rest, .inl hbefore, .refl rest⟩
    · exact ⟨value, .inr (.inl ⟨rfl, rfl⟩), ih⟩
    · exact ⟨rest, .inr (.inr hafter), .refl rest⟩
  | @inItem before after value value' hinner ih =>
    refine covers_arr fun rest hmem => ?_
    simp only [List.mem_append, List.mem_cons] at hmem ⊢
    rcases hmem with hbefore | rfl | hafter
    · exact ⟨rest, .inl hbefore, .refl rest⟩
    · exact ⟨value, .inr (.inl rfl), ih⟩
    · exact ⟨rest, .inr (.inr hafter), .refl rest⟩

theorem Covers.of_deletions (hd : Relation.ReflTransGen Json.Deletes value value') :
    Covers components value value' := by
  induction hd with
  | refl => exact .refl value
  | tail _ last ih => exact fun schema level h => ih schema level (of_deletes last schema level h)

end

end Schema

namespace ResourceSchema

variable (schema : ResourceSchema) {body rest : Json}

theorem firstUnknown_isSome_iff : (schema.firstUnknown body).isSome ↔ ∃ level, level ≤ 64 ∧
    Schema.HasUndeclared schema.components schema.root body level := by
  rw [schema.isSome_firstUnknown_iff body]
  constructor
  · rintro ⟨level, position, path, hlevel, h⟩
    exact ⟨level, hlevel, position, path, h⟩
  · rintro ⟨level, hlevel, position, path, h⟩
    exact ⟨level, position, path, hlevel, h⟩

/-- What remains of an accepted body is accepted, and if some field of the rest is named, some
field of the body is. -/
theorem firstUnknown_of_deletions (hd : Relation.ReflTransGen Json.Deletes body rest) :
    (schema.firstUnknown body = none → schema.firstUnknown rest = none) ∧
    ∀ path, schema.firstUnknown rest = some path → ∃ path', schema.firstUnknown body = some path' := by
  have hsome : (schema.firstUnknown rest).isSome → (schema.firstUnknown body).isSome := by
    rw [firstUnknown_isSome_iff, firstUnknown_isSome_iff]
    rintro ⟨level, hlevel, h⟩
    exact ⟨level, hlevel, Schema.Covers.of_deletions hd _ level h⟩
  refine ⟨fun hnone => ?_, fun path hpath => ?_⟩
  · rw [← Option.not_isSome_iff_eq_none] at hnone ⊢
    exact fun h => hnone (hsome h)
  · exact Option.isSome_iff_exists.mp (hsome (by rw [hpath]; rfl))

/-- A schema of containers, each with an image and a name, and of their number. -/
def ofContainers : ResourceSchema where
  root := .obj [("properties", .obj [
    ("containers", .obj [("items", .obj [
      ("properties", .obj [("image", .obj []), ("name", .obj [])])])]),
    ("replicas", .obj [])])]
  components := []

/-- A field stays undeclared while its position shifts. -/
theorem firstUnknown_of_deletions_containers :
    let web : Json := .obj [("name", .str "web")]
    let body : Json := .obj [("containers", .arr [web, .obj [("tag", .str "1.0")]]),
      ("replicas", .nat 2)]
    let rest : Json := .obj [("containers", .arr [.obj [("tag", .str "1.0")]])]
    Relation.ReflTransGen Json.Deletes body rest ∧
      ofContainers.firstUnknown rest = some [.key "containers", .index 0, .key "tag"] ∧
      ∃ path, ofContainers.firstUnknown body = some path := by
  intro web body rest
  have hreplicas : Json.Deletes body
      (.obj [("containers", .arr [web, .obj [("tag", .str "1.0")]])]) :=
    .member [_] [] _
  have hweb : Json.Deletes (.obj [("containers", .arr [web, .obj [("tag", .str "1.0")]])]) rest :=
    .inMember [] [] "containers" (.item [] [_] web)
  have hdeletions : Relation.ReflTransGen Json.Deletes body rest :=
    (Relation.ReflTransGen.single hreplicas).tail hweb
  have hrest : ofContainers.firstUnknown rest =
      some [.key "containers", .index 0, .key "tag"] := by decide
  exact ⟨hdeletions, hrest, (firstUnknown_of_deletions ofContainers hdeletions).2 _ hrest⟩

end ResourceSchema

end ClusterAccess
