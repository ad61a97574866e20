import ClusterAccess.Format
import ClusterAccess.Yaml.Event
import ClusterAccess.Yaml.Plain

namespace ClusterAccess.Yaml

inductive Node where
  | null
  | bool (value : Bool)
  | num (value : Number)
  | text (value : String)
  | list (items : List Node)
  | map (entries : List (Node × Node))
  | tagged (tag : String) (content : Node)
deriving Repr, Inhabited

namespace Node

def ofPlain : Plain → Node
  | .null => .null
  | .bool b => .bool b
  | .num n => .num n
  | .text s => .text s

mutual

/-- Equal as keys; the order of a map's entries does not count. -/
def same : Node → Node → Bool
  | .null, .null => true
  | .bool a, .bool b => a = b
  | .num a, .num b => a.same b
  | .text a, .text b => a = b
  | .list as, .list bs => sameItems as bs
  | .map as, .map bs => as.length = bs.length && sameEntries as bs
  | .tagged s a, .tagged t b => s = t && same a b
  | _, _ => false

def sameItems : List Node → List Node → Bool
  | [], [] => true
  | a :: as, b :: bs => same a b && sameItems as bs
  | _, _ => false

def sameEntries : List (Node × Node) → List (Node × Node) → Bool
  | [], _ => true
  | (k, v) :: rest, bs => bs.any (fun b => same k b.1 && same v b.2) && sameEntries rest bs

end

/-- No key occurs twice. -/
def keysDistinct : List (Node × Node) → Bool
  | [] => true
  | (k, _) :: rest => !rest.any (fun e => same k e.1) && keysDistinct rest

/-- An event with its anchor resolved. -/
inductive Step where
  | jump (anchor : Nat)
  | scalar (tag : Option Bytes) (text : String) (plain : Bool)
  | listStart (tag : Option Bytes)
  | listEnd
  | mapStart (tag : Option Bytes)
  | mapEnd

/-- The numbers of the anchors by name, and the events that the numbers stand for, the latest
first. -/
structure Anchors where
  numbers : List (String × Nat) := []
  places : List (Nat × Nat) := []

namespace Anchors

/-- An anchor's number is how many names there are before it. -/
def add (a : Anchors) (place : Nat) : Option String → Anchors
  | none => a
  | some name =>
    let number := a.numbers.length
    { numbers := (name, number) :: a.numbers.filter (·.1 ≠ name)
      places := (number, place) :: a.places }

/-- An alias needs an anchor of its name before it. -/
def steps? (a : Anchors) (place : Nat) : List Event → Option (List Step × Anchors)
  | [] => some ([], a)
  | e :: es => do
    let (step, a) ← match e with
      | .alias name => (a.numbers.lookup name).map fun n => (Step.jump n, a)
      | .scalar p s plain => some (.scalar p.tag s plain, a.add place p.anchor)
      | .listStart p => some (.listStart p.tag, a.add place p.anchor)
      | .listEnd => some (.listEnd, a)
      | .mapStart p => some (.mapStart p.tag, a.add place p.anchor)
      | .mapEnd => some (.mapEnd, a)
    let (steps, a) ← steps? a (place + 1) es
    some (step :: steps, a)

end Anchors

/-- A document's events, and the places that anchors stand for. -/
structure Script where
  steps : Array Step
  places : List (Nat × Nat)

/-- Where the reading is, and how many aliases it has followed. -/
structure Position where
  place : Nat := 0
  jumps : Nat := 0

def Position.next (p : Position) : Position :=
  { p with place := p.place + 1 }

/-- A tag of a document's own starts with a mark, and its name is not empty. -/
def wrap? (tag : Option Bytes) (content : Node) : Option Node :=
  match tag with
  | some (0x21 :: name) =>
    match Bytes.text? name with
    | some "" => none
    | some name => some (.tagged name content)
    | none => some content
  | _ => some content

def scalar? (tag : Option Bytes) (s : String) (plain : Bool) : Option Node :=
  let untagged := if plain then (Plain.ofText? s).map ofPlain else some (.text s)
  match tag with
  | none => untagged
  | some (0x21 :: name) => untagged.bind (wrap? (some (0x21 :: name)))
  | some tag => (Plain.ofTagged? ((Bytes.text? tag).getD "") s).map ofPlain

mutual

/-- The node at a place, in which at most `depth` lists and maps are open at once. Aliases are
followed a hundred times for every event at most. -/
def read? (s : Script) : Nat → Nat → Position → Option (Node × Position)
  | 0, _, _ => none
  | bound + 1, depth, p => do
    match ← s.steps[p.place]? with
    | .jump anchor =>
      if 100 * s.steps.size ≤ p.jumps then none
      else
        let (v, q) ← read? s bound depth ⟨← s.places.lookup anchor, p.jumps + 1⟩
        some (v, ⟨p.place + 1, q.jumps⟩)
    | .scalar tag content plain => some (← scalar? tag content plain, p.next)
    | .listStart tag =>
      if depth = 0 then none
      else
        let (items, p) ← items? s bound (depth - 1) p.next
        some (← wrap? tag (.list items), p)
    | .mapStart tag =>
      if depth = 0 then none
      else
        let (entries, p) ← entries? s bound (depth - 1) p.next
        if keysDistinct entries then some (← wrap? tag (.map entries), p) else none
    | .listEnd | .mapEnd => none

def items? (s : Script) : Nat → Nat → Position → Option (List Node × Position)
  | 0, _, _ => none
  | bound + 1, depth, p => do
    match ← s.steps[p.place]? with
    | .listEnd => some ([], p.next)
    | _ =>
      let (v, p) ← read? s bound depth p
      let (vs, p) ← items? s bound depth p
      some (v :: vs, p)

def entries? (s : Script) : Nat → Nat → Position → Option (List (Node × Node) × Position)
  | 0, _, _ => none
  | bound + 1, depth, p => do
    match ← s.steps[p.place]? with
    | .mapEnd => some ([], p.next)
    | _ =>
      let (k, p) ← read? s bound depth p
      let (v, p) ← read? s bound depth p
      let (rest, p) ← entries? s bound depth p
      some ((k, v) :: rest, p)

end

/-- The value of a document. -/
def ofEvents? (events : List Event) : Option Node := do
  let (steps, anchors) ← Anchors.steps? {} 0 events
  let script : Script := ⟨steps.toArray, anchors.places⟩
  let (v, _) ← read? script ((Event.maxDepth + 1) * (steps.length + 2)) Event.maxDepth {}
  some v

def untagged : Node → Node
  | .tagged _ content => untagged content
  | v => v

def text? (v : Node) : Option String :=
  match v.untagged with
  | .text s => some s
  | _ => none

/-- The entries of a map whose keys are text; null has none. -/
def textEntries? (v : Node) : Option (List (String × Node)) :=
  match v.untagged with
  | .map entries => entries.mapM fun e => e.1.text?.map (·, e.2)
  | .null => some []
  | _ => none

/-- What no JSON number stands for is null. -/
def jsonNumber : Number → Json
  | .whole n => .num (.whole n)
  | .double negative digits exponent => .num (.double negative digits exponent)
  | .infinite _ | .nan => .null

mutual

/-- A value without tags and with text for keys, as JSON. -/
def json? : Node → Option Json
  | .null => some .null
  | .bool b => some (.bool b)
  | .num n => some (jsonNumber n)
  | .text s => some (.str s)
  | .list items => (jsons? items).map .arr
  | .map entries => (jsonMembers? entries).map .obj
  | .tagged _ _ => none

def jsons? : List Node → Option (List Json)
  | [] => some []
  | v :: vs => do some ((← json? v) :: (← jsons? vs))

def jsonMembers? : List (Node × Node) → Option (List (String × Json))
  | [] => some []
  | (k, v) :: rest => do some ((← k.text?, ← json? v) :: (← jsonMembers? rest))

end

/-- Tags are passed over, null is also an empty list or record, and a tag may be a word over
null. -/
def format : Format Node where
  isNull
    | .null => true
    | _ => false
  text? := text?
  flag? v := match v.untagged with
    | .bool b => some b
    | _ => none
  integer? v := match v.untagged with
    | .num (.whole n) => some n
    | _ => none
  items? v := match v.untagged with
    | .list items => some items
    | .null => some []
    | _ => none
  entries? := textEntries?
  record? names _ v := v.textEntries?.bind (Format.fields? names)
  word?
    | .tagged word .null => some word
    | .text word => some word
    | _ => none
  json? v := v.json?.map Json.canonical

end Node

/-- The characters that a text may hold: printable ones, tabs and line ends. -/
def isTextChar (c : Char) : Bool :=
  let n := c.toNat
  n = 9 || n = 10 || n = 13 || (0x20 ≤ n && n ≤ 0x7e) || n = 0x85 ||
    (0xa0 ≤ n && n ≤ 0xd7ff) || (0xe000 ≤ n && n ≤ 0xfffd) || 0x10000 ≤ n

/-- The documents of a text; the first that is malformed is the last. -/
def documents (text : String) : List (Option Node) :=
  if text.toList.all isTextChar then
    (Event.documents (tokens text.toList)).map (·.bind Node.ofEvents?)
  else [none]

end ClusterAccess.Yaml
