import ClusterAccess.Format
import ClusterAccess.Objects.Timestamp

namespace ClusterAccess

/-- A field of a record is always there, or only when it is set. -/
inductive Shape where
  | text
  | flag
  /-- A whole number of 64 bits with a sign. -/
  | integer
  | moment
  | free
  | list (item : Shape)
  | table (entry : Shape)
  | record (fields : List (String × Bool × Shape))
  /-- A record that names its version and kind, if it names them. -/
  | object (apiVersion kind : String) (fields : List (String × Bool × Shape))

namespace Shape

abbrev Fields := List (String × Bool × Shape)

/-- A field that may be unset. -/
def optional (name : String) (shape : Shape) : String × Bool × Shape :=
  (name, false, shape)

def required (name : String) (shape : Shape) : String × Bool × Shape :=
  (name, true, shape)

/-- The value of a field that is always there and was not given. -/
def empty : Shape → Json
  | text | moment => .str ""
  | flag => .bool false
  | integer => .nat 0
  | free => .null
  | list _ => .arr []
  | table _ | record _ | object _ _ _ => .obj []

def integer? {ν : Type} (f : Format ν) (v : ν) : Option Json := do
  let n ← f.integer? v
  if -(Nat.pow 2 63 : Int) ≤ n && n < Nat.pow 2 63 then some (.num (.whole n)) else none

/-- A name that occurs says what it has to say, every time. -/
def agrees {ν : Type} (f : Format ν) (name value : String) (members : List (String × ν)) : Bool :=
  (members.filter (·.1 = name)).all fun m => f.text? m.2 = some value

mutual

/-- Every field that a type knows is read as its type says. One that is absent or null has an empty
value, of a repeated one the last value counts, and unknown ones are passed over. -/
def read? {ν : Type} (f : Format ν) : Shape → ν → Option Json
  | text, v => (f.text? v).map .str
  | flag, v => (f.flag? v).map .bool
  | integer, v => integer? f v
  | moment, v => do some (.str (← Timestamp.parse? (← f.text? v)).print)
  | free, v => f.json? v
  | list item, v => do some (.arr (← f.list? (read? f item) v))
  | table entry, v => do some (.obj (← f.table? (read? f entry) v))
  | record fields, v => do some (.obj (← readFields? f fields (← f.entries? v)))
  | object apiVersion kind fields, v => do
    let members ← f.entries? v
    if agrees f "apiVersion" apiVersion members && agrees f "kind" kind members then
      some (.obj (← readFields? f fields members))
    else none

/-- The fields of a record, in the order of its type. -/
def readFields? {ν : Type} (f : Format ν) :
    List (String × Bool × Shape) → List (String × ν) → Option (List (String × Json))
  | [], _ => some []
  | (name, always, shape) :: fields, members => do
    let values ← (members.filter (·.1 = name)).mapM fun m =>
      if f.isNull m.2 then some none else (read? f shape m.2).map some
    let rest ← readFields? f fields members
    match values.getLast?.join with
    | some value => some ((name, value) :: rest)
    | none => some (if always then (name, shape.empty) :: rest else rest)

end

end Shape

end ClusterAccess
