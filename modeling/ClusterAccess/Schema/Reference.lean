import ClusterAccess.Json.Basic
import ClusterAccess.Text.Pieces

namespace ClusterAccess

/-- The schema of one kind among the components that it may refer to. -/
structure ResourceSchema where
  root : Json
  components : List (String × Json)

namespace Schema

/-- References may form cycles; after so many hops a schema counts as unknown. -/
def maxHops : Nat := 16

def componentLead : String := "#/components/schemas/"

/-- Where a schema points. -/
inductive Pointer where
  | here
  | to (next : Json)
  /-- At no component. -/
  | nowhere

/-- A reference outweighs a union; a union of one stands for its only member. -/
def pointer (components : List (String × Json)) (schema : Json) : Pointer :=
  match schema.member? "$ref" with
  | some (.str reference) =>
    match Text.dropLead componentLead reference with
    | none => .nowhere
    | some name =>
      match components.lookup name with
      | some next => .to next
      | none => .nowhere
  | _ =>
    match schema.member? "allOf" with
    | some (.arr [only]) => .to only
    | _ => .here

def resolveWithin (components : List (String × Json)) : Nat → Json → Option Json
  | 0, _ => none
  | hops + 1, schema =>
    match pointer components schema with
    | .here => some schema
    | .to next => resolveWithin components hops next
    | .nowhere => none

def resolve (components : List (String × Json)) (schema : Json) : Option Json :=
  resolveWithin components maxHops schema

end Schema

end ClusterAccess
