import ClusterAccess.Json.Decimal

namespace ClusterAccess

/-- A whole number of 64 bits, or a double by its shortest digits `digits * 10 ^ exponent`. -/
inductive Json.Number where
  | whole (value : Int)
  | double (negative : Bool) (digits : Nat) (exponent : Int)
deriving DecidableEq, Repr

/-- An object keeps its members as written, repeated keys included. -/
inductive Json where
  | null
  | bool (value : Bool)
  | num (value : Json.Number)
  | str (value : String)
  | arr (items : List Json)
  | obj (members : List (String × Json))
deriving Repr, Inhabited

namespace Json

/-- Writes one member into members in key order. -/
def insertMember {α : Type} (key : String) (value : α) : List (String × α) → List (String × α)
  | [] => [(key, value)]
  | (k, v) :: rest =>
    if key = k then (key, value) :: rest
    else if key < k then (key, value) :: (k, v) :: rest
    else (k, v) :: insertMember key value rest

/-- Members in key order; of a repeated key the last one counts. -/
def sortMembers {α : Type} (members : List (String × α)) : List (String × α) :=
  members.foldl (fun acc m => insertMember m.1 m.2 acc) []

def ofMembers (members : List (String × Json)) : Json :=
  .obj (sortMembers members)

mutual

/-- Keys in order, and of a repeated key the last value. -/
def canonical : Json → Json
  | .arr items => .arr (canonicalItems items)
  | .obj members => .obj (sortMembers (canonicalMembers members))
  | other => other

def canonicalItems : List Json → List Json
  | [] => []
  | x :: xs => canonical x :: canonicalItems xs

def canonicalMembers : List (String × Json) → List (String × Json)
  | [] => []
  | (k, v) :: rest => (k, canonical v) :: canonicalMembers rest

end

def member? (key : String) : Json → Option Json
  | .obj members => (members.find? (·.1 = key)).map (·.2)
  | _ => none

def text? : Json → Option String
  | .str s => some s
  | _ => none

def flag? : Json → Option Bool
  | .bool b => some b
  | _ => none

def integer? : Json → Option Int
  | .num (.whole n) => some n
  | _ => none

def items? : Json → Option (List Json)
  | .arr xs => some xs
  | _ => none

def members? : Json → Option (List (String × Json))
  | .obj ms => some ms
  | _ => none

def nat (n : Nat) : Json :=
  .num (.whole n)

/-- The value behind a path of keys. -/
def at? : List String → Json → Option Json
  | [], v => some v
  | key :: keys, v => (v.member? key).bind (at? keys)

end Json

end ClusterAccess
