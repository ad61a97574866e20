import ClusterAccess.Json.Basic

namespace ClusterAccess

/-- A data format with values of type `ν`. -/
structure Format (ν : Type) where
  isNull : ν → Bool
  text? : ν → Option String
  flag? : ν → Option Bool
  integer? : ν → Option Int
  items? : ν → Option (List ν)
  /-- Entries with text for keys. -/
  entries? : ν → Option (List (String × ν))
  /-- The fields of a record by name; a record that is written as a list has so many at least. -/
  record? : (names : List String) → (needed : Nat) → ν → Option (List (Option ν))
  /-- One of several words. -/
  word? : ν → Option String
  /-- Any value, as JSON. -/
  json? : ν → Option Json

namespace Format

variable {ν α : Type}

/-- The value of each named field, none of which occurs twice. -/
def fields? (names : List String) (entries : List (String × ν)) : Option (List (Option ν)) :=
  names.mapM fun name =>
    match entries.filter (·.1 = name) with
    | [] => some none
    | [e] => some (some e.2)
    | _ :: _ :: _ => none

def required? (decode : ν → Option α) (field : Option ν) : Option α :=
  field.bind decode

def default? (decode : ν → Option α) (fallback : α) : Option ν → Option α
  | none => some fallback
  | some v => decode v

/-- A field that may be missing or null. -/
def optional? (f : Format ν) (decode : ν → Option α) (field : Option ν) : Option (Option α) :=
  default? (fun v => if f.isNull v then some none else (decode v).map some) none field

def list? (f : Format ν) (decode : ν → Option α) (v : ν) : Option (List α) := do
  (← f.items? v).mapM decode

/-- A list that may be missing or null. -/
def listing? (f : Format ν) (decode : ν → Option α) (field : Option ν) : Option (List α) :=
  (f.optional? (f.list? decode) field).map (·.getD [])

/-- Entries in key order; of a repeated key the last one counts. -/
def table? (f : Format ν) (decode : ν → Option α) (v : ν) : Option (List (String × α)) := do
  some (Json.sortMembers (← (← f.entries? v).mapM fun e => (decode e.2).map (e.1, ·)))

def natural? (f : Format ν) (v : ν) : Option Nat := do
  match ← f.integer? v with
  | .ofNat n => some n
  | .negSucc _ => none

/-- A word among a fixed list. -/
def choice? (f : Format ν) (words : List (String × α)) (v : ν) : Option α :=
  (f.word? v).bind (List.lookup · words)

end Format

/-- A record is an object or a list of its fields in order, a word may be a key over null. -/
def Json.format : Format Json where
  isNull
    | .null => true
    | _ => false
  text? := text?
  flag? := flag?
  integer? := integer?
  items? := items?
  entries? := members?
  record? names needed
    | .arr items =>
      if items.length < needed || names.length < items.length then none
      else some ((List.range names.length).map (items[·]?))
    | v => v.members?.bind (Format.fields? names)
  word?
    | .obj [(word, .null)] => some word
    | v => v.text?
  json? v := some v.canonical

end ClusterAccess
