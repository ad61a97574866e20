import ClusterAccess.Proofs.FirstPositions
import ClusterAccess.Proofs.References

namespace ClusterAccess

namespace Schema

/-- The schema that references lead to from another one, if they are few enough, and unless it keeps
fields unknown to it. -/
structure Settles (components : List (String × Json)) (schema settled : Json) : Prop where
  leads : ∃ hops < 16, Leads components hops schema settled
  own : IsOwn settled
  prunes : settled.member? "x-kubernetes-preserve-unknown-fields" ≠ some (.bool true)

/-- What a member is held against: its own schema, or the one for all members without. -/
inductive Declares (schema : Json) (name : String) : Json → Prop where
  | property {properties : List (String × Json)} {declared : Json}
      (named : schema.member? "properties" = some (.obj properties))
      (found : properties.lookup name = some declared) : Declares schema name declared
  | additional {members : List (String × Json)}
      (unnamed : ∀ properties, schema.member? "properties" = some (.obj properties) →
        properties.lookup name = none)
      (others : schema.member? "additionalProperties" = some (.obj members)) :
      Declares schema name (.obj members)

/-- A schema that lists the members there are, among them none of a given name. -/
structure Lacks (schema : Json) (name : String) : Prop where
  unnamed : ∃ properties, schema.member? "properties" = some (.obj properties) ∧
    properties.lookup name = none
  closed : schema.member? "additionalProperties" ≠ some (.bool true)
  undescribed : ∀ members, schema.member? "additionalProperties" ≠ some (.obj members)

/-- An undeclared member of a body, with the level of the object that has it, its position, and
the path to it. The body itself is at level zero, and all that it is held against settles. -/
inductive Undeclared (components : List (String × Json)) :
    Json → Json → Nat → Position → Path → Prop where
  | here {schema settled value : Json} {members : List (String × Json)} {i : Nat} {name : String}
      (settles : Settles components schema settled) (found : members[i]? = some (name, value))
      (field : name.toList.head? ≠ some '$') (lacks : Lacks settled name) :
      Undeclared components schema (.obj members) 0 [i] [.key name]
  | member {schema settled declared value : Json} {members : List (String × Json)} {i level : Nat}
      {name : String} {position : Position} {path : Path}
      (settles : Settles components schema settled) (found : members[i]? = some (name, value))
      (field : name.toList.head? ≠ some '$') (declares : Declares settled name declared)
      (below : Undeclared components declared value level position path) :
      Undeclared components schema (.obj members) (level + 1) (i :: position) (.key name :: path)
  | item {schema settled declared value : Json} {items : List Json} {i level : Nat}
      {position : Position} {path : Path}
      (settles : Settles components schema settled) (found : items[i]? = some value)
      (declares : settled.member? "items" = some declared)
      (below : Undeclared components declared value level position path) :
      Undeclared components schema (.arr items) (level + 1) (i :: position) (.index i :: path)

theorem isOpenEnded_iff {schema : Json} : isOpenEnded schema = true ↔
    schema.member? "x-kubernetes-preserve-unknown-fields" = some (.bool true) := by
  unfold isOpenEnded
  split
  · rename_i hkeeps
    simp [hkeeps]
  · rename_i hkeeps
    exact ⟨fun h => absurd h Bool.false_ne_true, fun h => (hkeeps h).elim⟩

theorem isDirective_iff {name : String} :
    isDirective name = true ↔ name.toList.head? = some '$' := by
  unfold isDirective Text.startsWith
  cases name.toList with
  | nil => simp
  | cons c cs => simp [@eq_comm _ c]

theorem known_eq_some_iff {components : List (String × Json)} {depth : Nat}
    {schema settled : Json} : known? components depth schema = some settled ↔
      depth ≤ maxDepth ∧ Settles components schema settled := by
  unfold known?
  split
  · rename_i hdepth
    simp [Nat.not_le.mpr hdepth]
  · rename_i hdepth
    simp only [Option.filter_eq_some_iff, resolve_eq_some_iff, Bool.not_eq_eq_eq_not,
      Bool.not_true, Nat.not_lt.mp hdepth, true_and]
    rw [← Bool.not_eq_true, isOpenEnded_iff]
    constructor
    · rintro ⟨⟨hops, hhops, leads, own⟩, prunes⟩
      exact ⟨⟨hops, hhops, leads⟩, own, prunes⟩
    · rintro ⟨⟨hops, hhops, leads⟩, own, prunes⟩
      exact ⟨⟨hops, hhops, leads, own⟩, prunes⟩

theorem members_eq_some_iff {v : Option Json} {members : List (String × Json)} :
    v.bind Json.members? = some members ↔ v = some (.obj members) := by
  cases v with
  | none => simp
  | some v => cases v <;> simp [Json.members?]

section

variable {schema declared : Json} {name : String}

theorem named_or_unnamed (schema : Json) (name : String) :
    (∃ properties declared, schema.member? "properties" = some (.obj properties) ∧
      properties.lookup name = some declared) ∨
    ∀ properties, schema.member? "properties" = some (.obj properties) →
      properties.lookup name = none := by
  by_cases h : ∃ properties declared, schema.member? "properties" = some (.obj properties) ∧
      properties.lookup name = some declared
  · exact .inl h
  · refine .inr fun properties hp => ?_
    cases hl : properties.lookup name with
    | none => rfl
    | some declared => exact absurd ⟨properties, declared, hp, hl⟩ h

theorem declaration_named {properties : List (String × Json)}
    (hp : schema.member? "properties" = some (.obj properties))
    (hn : properties.lookup name = some declared) :
    declaration schema name = .declared declared := by
  simp [declaration, hp, Json.members?, hn]

/-- Of a member without a schema of its own, the schema for all others decides. -/
theorem declaration_unnamed (hn : ∀ properties,
      schema.member? "properties" = some (.obj properties) → properties.lookup name = none) :
    declaration schema name =
      match schema.member? "additionalProperties" with
      | some (.obj members) => .declared (.obj members)
      | some (.bool true) => .accepted
      | _ => if ((schema.member? "properties").bind Json.members?).isSome then .undeclared
        else .accepted := by
  have hnone : ((schema.member? "properties").bind Json.members?).bind (·.lookup name) = none := by
    rw [Option.bind_eq_none_iff]
    intro properties hp
    exact hn properties (members_eq_some_iff.mp hp)
  unfold declaration
  dsimp only
  split
  · rename_i named
    cases hnone.symm.trans named
  · rfl

theorem declaration_eq_declared_iff :
    declaration schema name = .declared declared ↔ Declares schema name declared := by
  rcases named_or_unnamed schema name with ⟨properties, found, hp, hn⟩ | hn
  · rw [declaration_named hp hn]
    constructor
    · intro h
      cases h
      exact .property hp hn
    · intro h
      cases h with
      | property hp' hn' =>
        cases hp.symm.trans hp'
        cases hn.symm.trans hn'
        rfl
      | additional unnamed others =>
        cases hn.symm.trans (unnamed properties hp)
  · rw [declaration_unnamed hn]
    constructor
    · intro h
      split at h
      · rename_i members others
        cases h
        exact .additional hn others
      · cases h
      · split at h <;> cases h
    · intro h
      cases h with
      | property hp hn' => cases hn'.symm.trans (hn _ hp)
      | additional unnamed others => rw [others]

theorem declaration_eq_undeclared_iff :
    declaration schema name = .undeclared ↔ Lacks schema name := by
  rcases named_or_unnamed schema name with ⟨properties, found, hp, hn⟩ | hn
  · rw [declaration_named hp hn]
    constructor
    · intro h
      cases h
    · rintro ⟨⟨properties', hp', hn'⟩, -, -⟩
      cases hp.symm.trans hp'
      cases hn.symm.trans hn'
  · rw [declaration_unnamed hn]
    constructor
    · intro h
      split at h
      · cases h
      · cases h
      · rename_i undescribed closed
        split at h
        · rename_i listed
          obtain ⟨properties, hp⟩ := Option.isSome_iff_exists.mp listed
          have hp' := members_eq_some_iff.mp hp
          exact ⟨⟨properties, hp', hn properties hp'⟩, closed, undescribed⟩
        · cases h
    · rintro ⟨⟨properties, hp, -⟩, closed, undescribed⟩
      have listed : ((schema.member? "properties").bind Json.members?).isSome = true := by
        rw [members_eq_some_iff.mpr hp]
        rfl
      split
      · rename_i members others
        exact absurd others (undescribed members)
      · rename_i admits
        exact absurd admits closed
      · rw [if_pos listed]

end

def Within (components : List (String × Json)) (depth : Nat) (schema value : Json)
    (position : Position) (path : Path) : Prop :=
  ∃ level, depth + level ≤ maxDepth ∧ Undeclared components schema value level position path

/-- A member is undeclared, or something below it is. -/
inductive Blames (components : List (String × Json)) (depth : Nat) (settled : Json) :
    String × Json → Position → Path → Prop where
  | member {name : String} {value : Json} (field : name.toList.head? ≠ some '$')
      (lacks : Lacks settled name) : Blames components depth settled (name, value) [] [.key name]
  | below {name : String} {value declared : Json} {position : Position} {path : Path}
      (field : name.toList.head? ≠ some '$') (declares : Declares settled name declared)
      (within : Within components (depth + 1) declared value position path) :
      Blames components depth settled (name, value) position (.key name :: path)

section

variable {components : List (String × Json)} {depth : Nat} {schema settled declared : Json}
  {value : Json} {name : String} {position : Position} {path : Path}

theorem within_obj {members : List (String × Json)} :
    Within components depth schema (.obj members) position path ↔
      ∃ settled, known? components depth schema = some settled ∧
        Among (fun _ => Blames components depth settled) 0 members position path := by
  simp only [known_eq_some_iff]
  constructor
  · rintro ⟨level, hlevel, h⟩
    cases h with
    | here settles found field lacks =>
      exact ⟨_, ⟨hlevel, settles⟩, _, _, [], found, by simp, .member field lacks⟩
    | member settles found field declares below =>
      exact ⟨_, ⟨by omega, settles⟩, _, _, _, found, by simp,
        .below field declares ⟨_, by omega, below⟩⟩
  · rintro ⟨settled, ⟨hdepth, settles⟩, j, entry, below, found, rfl, h⟩
    rw [Nat.zero_add]
    cases h with
    | member field lacks => exact ⟨0, hdepth, .here settles found field lacks⟩
    | below field declares within =>
      obtain ⟨level, hlevel, hbelow⟩ := within
      exact ⟨level + 1, by omega, .member settles found field declares hbelow⟩

theorem within_arr {items : List Json} :
    Within components depth schema (.arr items) position path ↔
      ∃ settled declared, known? components depth schema = some settled ∧
        settled.member? "items" = some declared ∧
        Among (fun i item position path => ∃ rest,
          Within components (depth + 1) declared item position rest ∧ path = .index i :: rest)
          0 items position path := by
  simp only [known_eq_some_iff]
  constructor
  · rintro ⟨level, hlevel, h⟩
    cases h with
    | item settles found declares below =>
      exact ⟨_, _, ⟨by omega, settles⟩, declares, _, _, _, found, by simp, _,
        ⟨_, by omega, below⟩, by simp⟩
  · rintro ⟨settled, declared, ⟨hdepth, settles⟩, declares, j, item, below, found, rfl, rest,
      ⟨level, hlevel, hbelow⟩, rfl⟩
    rw [Nat.zero_add]
    exact ⟨level + 1, by omega, .item settles found declares hbelow⟩

theorem not_within_scalar (ho : ∀ members, value ≠ .obj members)
    (ha : ∀ items, value ≠ .arr items) : ¬ Within components depth schema value position path := by
  rintro ⟨level, -, h⟩
  cases h with
  | here => exact ho _ rfl
  | member => exact ho _ rfl
  | item => exact ha _ rfl

theorem Blames.field (h : Blames components depth settled (name, value) position path) :
    name.toList.head? ≠ some '$' := by
  cases h with
  | member field lacks => exact field
  | below field declares within => exact field

theorem blames_declared (field : name.toList.head? ≠ some '$')
    (hd : declaration settled name = .declared declared) :
    Blames components depth settled (name, value) position path ↔
      ∃ rest, Within components (depth + 1) declared value position rest ∧
        path = .key name :: rest := by
  constructor
  · intro h
    cases h with
    | member field lacks => cases hd.symm.trans (declaration_eq_undeclared_iff.mpr lacks)
    | below field declares within =>
      cases hd.symm.trans (declaration_eq_declared_iff.mpr declares)
      exact ⟨_, within, rfl⟩
  · rintro ⟨rest, within, rfl⟩
    exact .below field (declaration_eq_declared_iff.mp hd) within

theorem not_blames_accepted (hd : declaration settled name = .accepted) :
    ¬ Blames components depth settled (name, value) position path := by
  intro h
  cases h with
  | member field lacks => cases hd.symm.trans (declaration_eq_undeclared_iff.mpr lacks)
  | below field declares within => cases hd.symm.trans (declaration_eq_declared_iff.mpr declares)

theorem blames_undeclared (field : name.toList.head? ≠ some '$')
    (hd : declaration settled name = .undeclared) :
    Blames components depth settled (name, value) position path ↔
      position = [] ∧ path = [.key name] := by
  constructor
  · intro h
    cases h with
    | member field lacks => exact ⟨rfl, rfl⟩
    | below field declares within => cases hd.symm.trans (declaration_eq_declared_iff.mpr declares)
  · rintro ⟨rfl, rfl⟩
    exact .member field (declaration_eq_undeclared_iff.mp hd)

/-- What is found at one member, given the searches below it. -/
theorem isFirst_blames
    (ih : ∀ declared, IsFirst (Within components (depth + 1) declared value)
      (unknownField components (depth + 1) declared value)) :
    IsFirst (Blames components depth settled (name, value))
      (if isDirective name then none
        else match declaration settled name with
          | .declared declared =>
            (unknownField components (depth + 1) declared value).map (.key name :: ·)
          | .accepted => none
          | .undeclared => some [.key name]) := by
  split
  · rename_i hdirective
    exact IsFirst.of_none fun position path h => h.field (isDirective_iff.mp hdirective)
  · rename_i hdirective
    have field : name.toList.head? ≠ some '$' := fun h => hdirective (isDirective_iff.mpr h)
    split
    · rename_i declared hd
      exact ((ih declared).map (.key name)).congr fun position path =>
        (blames_declared field hd).symm
    · rename_i hd
      exact IsFirst.of_none fun position path => not_blames_accepted hd
    · rename_i hd
      exact IsFirst.of_nil fun position path => blames_undeclared field hd

end

mutual

-- The recursion is that of the search. Ranks of members, which it does not count, are carried along
-- from the list's first entry on.
theorem isFirst_unknownField (components : List (String × Json)) (depth : Nat) (schema : Json) :
    ∀ value, IsFirst (Within components depth schema value)
      (unknownField components depth schema value)
  | .obj members => by
    rw [unknownField]
    cases hk : known? components depth schema with
    | none =>
      apply IsFirst.of_none
      simp [within_obj, hk]
    | some settled =>
      refine (isFirst_unknownMember components depth settled 0 members).congr ?_
      simp [within_obj, hk]
  | .arr items => by
    rw [unknownField]
    cases hk : known? components depth schema with
    | none =>
      apply IsFirst.of_none
      simp [within_arr, hk]
    | some settled =>
      cases hi : settled.member? "items" with
      | none =>
        simp only [Option.bind_some, hi, Option.bind_none]
        apply IsFirst.of_none
        simp [within_arr, hk, hi]
      | some declared =>
        simp only [Option.bind_some, hi]
        refine (isFirst_unknownItem components depth declared 0 items).congr ?_
        simp [within_arr, hk, hi]
  | .null | .bool _ | .num _ | .str _ => by
    apply IsFirst.of_none
    intro position path
    exact not_within_scalar (by simp) (by simp)

theorem isFirst_unknownMember (components : List (String × Json)) (depth : Nat) (settled : Json) :
    ∀ first members, IsFirst (Among (fun _ => Blames components depth settled) first members)
      (unknownMember components depth settled members)
  | _, [] => IsFirst.among_nil
  | first, (name, value) :: rest => by
    rw [unknownMember]
    refine IsFirst.among_cons ?_ (isFirst_unknownMember components depth settled (first + 1) rest)
    -- whichever schema the member has, its value is smaller than the object
    exact isFirst_blames fun declared => isFirst_unknownField components (depth + 1) declared value

theorem isFirst_unknownItem (components : List (String × Json)) (depth : Nat) (declared : Json) :
    ∀ first items, IsFirst (Among (fun i item position path => ∃ rest,
        Within components (depth + 1) declared item position rest ∧ path = .index i :: rest)
        first items) (unknownItem components depth declared first items)
  | _, [] => IsFirst.among_nil
  | first, value :: rest => by
    rw [unknownItem]
    refine IsFirst.among_cons ?_ (isFirst_unknownItem components depth declared (first + 1) rest)
    exact (isFirst_unknownField components (depth + 1) declared value).map (.index first)

end

/-- How a segment reads behind others. -/
def Segment.text : Segment → String
  | .key name => s!".{name}"
  | .index i => s!"[{i}]"

namespace Path

/-- Names behind dots and ranks in brackets. No dot stands in front, so an empty name there leaves
no trace. -/
def dotted : Path → String
  | [] => ""
  | .key name :: rest =>
    if name = "" then dotted rest else name ++ String.join (rest.map Segment.text)
  | .index i :: rest => s!"[{i}]" ++ String.join (rest.map Segment.text)

theorem foldl_text {f : String → Segment → String} (hf : ∀ text segment, text ≠ "" →
    f text segment = text ++ segment.text) {text : String} (ht : text ≠ "") (path : Path) :
    path.foldl f text = text ++ String.join (path.map Segment.text) := by
  induction path generalizing text with
  | nil => simp
  | cons segment rest ih =>
    have hnext : text ++ segment.text ≠ "" := by simp [ht]
    rw [List.foldl_cons, hf text segment ht, ih hnext, List.map_cons, String.join_cons,
      String.append_assoc]

theorem print_eq_dotted (path : Path) : path.print = path.dotted := by
  have hf : ∀ (text : String) (segment : Segment), text ≠ "" →
      (match segment with
        | .key name => if text = "" then name else s!"{text}.{name}"
        | .index i => s!"{text}[{i}]") = text ++ segment.text := by
    intro text segment ht
    cases segment with
    | key name => exact (if_neg ht).trans String.append_assoc
    | index i => exact (congrArg (· ++ "]") String.append_assoc).trans String.append_assoc
  induction path with
  | nil => rfl
  | cons segment rest ih =>
    cases segment with
    | key name =>
      rw [dotted]
      split
      · rename_i hname
        rw [← ih, hname]
        rfl
      · rename_i hname
        exact foldl_text hf hname rest
    | index i =>
      have hopened : s!"[{i}]" ≠ "" := by simp
      exact foldl_text hf hopened rest

end Path

end Schema

open Schema

namespace ResourceSchema

theorem isFirst_firstUnknown (schema : ResourceSchema) (body : Json) :
    IsFirst (fun position path => ∃ level, level ≤ 64 ∧
        Undeclared schema.components schema.root body level position path)
      (schema.firstUnknown body) := by
  refine (isFirst_unknownField schema.components 0 schema.root body).congr fun position path => ?_
  simp [Within, maxDepth]

theorem isSome_firstUnknown_iff (schema : ResourceSchema) (body : Json) :
    (schema.firstUnknown body).isSome ↔ ∃ level position path, level ≤ 64 ∧
      Undeclared schema.components schema.root body level position path := by
  have hfirst := schema.isFirst_firstUnknown body
  cases hu : schema.firstUnknown body with
  | none =>
    rw [hu] at hfirst
    refine ⟨by simp, ?_⟩
    rintro ⟨level, position, path, hlevel, h⟩
    exact absurd ⟨level, hlevel, h⟩ (hfirst position path)
  | some path =>
    rw [hu] at hfirst
    obtain ⟨position, ⟨level, hlevel, h⟩, -⟩ := hfirst
    exact ⟨fun _ => ⟨level, position, path, hlevel, h⟩, fun _ => rfl⟩

/-- The check names the first undeclared member, in depth-first order, of the objects that are
nested at most 64 levels deep, and accepts a body only if those have none. -/
theorem firstUnknown_names_first (schema : ResourceSchema) (body : Json) :
    ((schema.firstUnknown body).isSome ↔ ∃ level position path, level ≤ 64 ∧
      Undeclared schema.components schema.root body level position path) ∧
    ∀ text, (schema.firstUnknown body).map Path.print = some text →
      ∃ level position path, level ≤ 64 ∧
        Undeclared schema.components schema.root body level position path ∧
        text = path.dotted ∧
        ∀ level' position' path', level' ≤ 64 →
          Undeclared schema.components schema.root body level' position' path' →
          ¬ position'.Before position := by
  refine ⟨schema.isSome_firstUnknown_iff body, ?_⟩
  intro text htext
  obtain ⟨path, hpath, rfl⟩ := Option.map_eq_some_iff.mp htext
  have hfirst := schema.isFirst_firstUnknown body
  rw [hpath] at hfirst
  obtain ⟨position, ⟨level, hlevel, h⟩, hbefore⟩ := hfirst
  refine ⟨level, position, path, hlevel, h, path.print_eq_dotted, ?_⟩
  intro level' position' path' hlevel' h'
  exact hbefore position' path' ⟨level', hlevel', h'⟩

end ResourceSchema

end ClusterAccess
