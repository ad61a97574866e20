import ClusterAccess.Schema.Reference

namespace ClusterAccess

namespace Schema

inductive Segment where
  | key (name : String)
  | index (i : Nat)
deriving DecidableEq, Repr

abbrev Path := List Segment

/-- A dot stands between a key and what precedes it, if anything does. -/
def Path.print (path : Path) : String :=
  path.foldl (fun text segment =>
    match segment with
    | .key name => if text = "" then name else s!"{text}.{name}"
    | .index i => s!"{text}[{i}]") ""

/-- What lies deeper is not looked at. -/
def maxDepth : Nat := 64

def isOpenEnded (schema : Json) : Bool :=
  match schema.member? "x-kubernetes-preserve-unknown-fields" with
  | some (.bool true) => true
  | _ => false

/-- What a schema says of one member of an object. -/
inductive Declaration where
  | declared (schema : Json)
  | accepted
  | undeclared

def declaration (schema : Json) (name : String) : Declaration :=
  let properties := (schema.member? "properties").bind Json.members?
  match properties.bind (·.lookup name) with
  | some declared => .declared declared
  | none =>
    match schema.member? "additionalProperties" with
    | some (.obj members) => .declared (.obj members)
    | some (.bool true) => .accepted
    | _ => if properties.isSome then .undeclared else .accepted

/-- Keys of patch directives are no fields. -/
def isDirective (name : String) : Bool :=
  Text.startsWith "$" name

/-- The schema that the parts of a value are held against, if they are looked at. -/
def known? (components : List (String × Json)) (depth : Nat) (schema : Json) : Option Json :=
  if maxDepth < depth then none
  else (resolve components schema).filter (!isOpenEnded ·)

mutual

def unknownField (components : List (String × Json)) (depth : Nat) (schema : Json) :
    Json → Option Path
  | .obj members =>
    (known? components depth schema).bind fun s => unknownMember components depth s members
  | .arr items =>
    (known? components depth schema).bind fun s =>
      (s.member? "items").bind fun s => unknownItem components depth s 0 items
  | _ => none

def unknownMember (components : List (String × Json)) (depth : Nat) (schema : Json) :
    List (String × Json) → Option Path
  | [] => none
  | (name, value) :: rest =>
    let here :=
      if isDirective name then none
      else match declaration schema name with
        | .declared s => (unknownField components (depth + 1) s value).map (.key name :: ·)
        | .accepted => none
        | .undeclared => some [.key name]
    here <|> unknownMember components depth schema rest

def unknownItem (components : List (String × Json)) (depth : Nat) (schema : Json) (i : Nat) :
    List Json → Option Path
  | [] => none
  | value :: rest =>
    (unknownField components (depth + 1) schema value).map (.index i :: ·) <|>
      unknownItem components depth schema (i + 1) rest

end

end Schema

/-- The first member of a body that its schema does not declare, in depth-first order. -/
def ResourceSchema.firstUnknown (schema : ResourceSchema) (body : Json) : Option Schema.Path :=
  Schema.unknownField schema.components 0 schema.root body

end ClusterAccess
