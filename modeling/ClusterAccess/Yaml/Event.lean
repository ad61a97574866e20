import ClusterAccess.Yaml.Layout

namespace ClusterAccess.Yaml

/-- What stands before a node. -/
structure Properties where
  anchor : Option String := none
  tag : Option Bytes := none
deriving DecidableEq, Repr

inductive Event where
  | alias (name : String)
  | scalar (properties : Properties) (text : String) (plain : Bool)
  | listStart (properties : Properties)
  | listEnd
  | mapStart (properties : Properties)
  | mapEnd
deriving DecidableEq, Repr

namespace Event

/-- What is left out between the marks of a list or map. -/
def empty : Event :=
  .scalar {} "" true

/-- Nothing, or so many characters, to stand for a tag's handle. -/
abbrev Handles := List (String × Bytes)

def standardHandles : Handles :=
  [("!", Bytes.ofText "!"), ("!!", Bytes.ofText "tag:yaml.org,2002:")]

def tagOf? (handles : Handles) (t : TagText) : Option Bytes :=
  if t.handle = "" then some t.suffix
  else (handles.lookup t.handle).map (· ++ t.suffix)

/-- An anchor and a tag, in either order. -/
def properties? (handles : Handles) : List Token → Option (Properties × List Token)
  | .anchor a :: .tag t :: ts => do some (⟨some a, ← tagOf? handles t⟩, ts)
  | .anchor a :: ts => some (⟨some a, none⟩, ts)
  | .tag t :: .anchor a :: ts => do some (⟨some a, ← tagOf? handles t⟩, ts)
  | .tag t :: ts => do some (⟨none, ← tagOf? handles t⟩, ts)
  | ts => some ({}, ts)

/-- A mark alone is no tag of a scalar. -/
def scalarProperties (p : Properties) : Properties :=
  if p.tag = some (Bytes.ofText "!") then { p with tag := none } else p

/-- The events so far, the latest first, and the tokens that are left. -/
abbrev Walk := List Event × List Token

/-- Where a node stands: in a block, in a block whose entries need not be indented, or in
brackets. -/
inductive Site where
  | block
  | blockOfMap
  | flow
deriving DecidableEq

def endsBlockItem : List Token → Bool
  | .blockEntry :: _ | .blockEnd :: _ => true
  | _ => false

def endsOpenItem : List Token → Bool
  | .blockEntry :: _ | .key :: _ | .value :: _ | .blockEnd :: _ => true
  | _ => false

def endsBlockPart : List Token → Bool
  | .key :: _ | .value :: _ | .blockEnd :: _ => true
  | _ => false

def endsFlowItem : List Token → Bool
  | .flowEntry :: _ | .flowListEnd :: _ => true
  | _ => false

def endsFlowKey : List Token → Bool
  | .value :: _ | .flowEntry :: _ | .flowMapEnd :: _ => true
  | _ => false

def endsFlowValue : List Token → Bool
  | .flowEntry :: _ | .flowMapEnd :: _ => true
  | _ => false

/-- Entries in brackets stand between commas. -/
def separated? (first : Bool) : List Token → Option (List Token)
  | .flowEntry :: ts => some (if first then .flowEntry :: ts else ts)
  | ts => if first then some ts else none

/-- A node without content needs an anchor or a tag. -/
def contentless? (p : Properties) (w : Walk) : Option Walk :=
  if p = {} then none else some (.scalar p "" true :: w.1, w.2)

mutual

/-- One node, within which at most `depth` lists and maps are open at once. -/
def node (handles : Handles) : Nat → Nat → Site → Walk → Option Walk
  | 0, _, _, _ => none
  | _ + 1, _, _, (events, .alias name :: ts) => some (.alias name :: events, ts)
  | bound + 1, depth, site, (events, ts) => do
    let (p, ts) ← properties? handles ts
    match ts with
    | .scalar text plain :: ts => some (.scalar (scalarProperties p) text plain :: events, ts)
    | .flowListStart :: ts => flowItems handles bound depth true (.listStart p :: events, ts)
    | .flowMapStart :: ts => flowEntries handles bound depth true (.mapStart p :: events, ts)
    | .blockListStart :: rest =>
      if site = .flow then contentless? p (events, ts)
      else blockItems handles bound depth (.listStart p :: events, rest)
    | .blockMapStart :: rest =>
      if site = .flow then contentless? p (events, ts)
      else blockEntries handles bound depth (.mapStart p :: events, rest)
    | .blockEntry :: _ =>
      if site = .blockOfMap then openItems handles bound depth (.listStart p :: events, ts)
      else contentless? p (events, ts)
    | ts => contentless? p (events, ts)

def blockItems (handles : Handles) : Nat → Nat → Walk → Option Walk
  | bound + 1, depth + 1, (events, .blockEntry :: ts) =>
    if endsBlockItem ts then blockItems handles bound (depth + 1) (empty :: events, ts)
    else do
      blockItems handles bound (depth + 1) (← node handles bound depth .block (events, ts))
  | _ + 1, _ + 1, (events, .blockEnd :: ts) => some (.listEnd :: events, ts)
  | _, _, _ => none

/-- The items of a list that is not indented end with the map that it stands in. -/
def openItems (handles : Handles) : Nat → Nat → Walk → Option Walk
  | bound + 1, depth + 1, (events, .blockEntry :: ts) =>
    if endsOpenItem ts then openItems handles bound (depth + 1) (empty :: events, ts)
    else do
      openItems handles bound (depth + 1) (← node handles bound depth .block (events, ts))
  | _ + 1, _ + 1, (events, ts) => some (.listEnd :: events, ts)
  | _, _, _ => none

def blockEntries (handles : Handles) : Nat → Nat → Walk → Option Walk
  | bound + 1, depth + 1, (events, .key :: ts) =>
    if endsBlockPart ts then blockValue handles bound depth (empty :: events, ts)
    else do
      blockValue handles bound depth (← node handles bound depth .blockOfMap (events, ts))
  | _ + 1, _ + 1, (events, .blockEnd :: ts) => some (.mapEnd :: events, ts)
  | _, _, _ => none

/-- The value of an entry, and the entries behind it. -/
def blockValue (handles : Handles) : Nat → Nat → Walk → Option Walk
  | 0, _, _ => none
  | bound + 1, depth, (events, .value :: ts) =>
    if endsBlockPart ts then blockEntries handles bound (depth + 1) (empty :: events, ts)
    else do
      blockEntries handles bound (depth + 1)
        (← node handles bound depth .blockOfMap (events, ts))
  | bound + 1, depth, (events, ts) =>
    blockEntries handles bound (depth + 1) (empty :: events, ts)

/-- An entry with a key may stand in a list in brackets, as a map of its own. -/
def flowItems (handles : Handles) : Nat → Nat → Bool → Walk → Option Walk
  | _ + 1, _ + 1, _, (events, .flowListEnd :: ts) => some (.listEnd :: events, ts)
  | bound + 1, depth + 1, first, (events, ts) => do
    match ← separated? first ts with
    | .key :: ts =>
      let (events, ts) ← flowPairKey handles bound depth (.mapStart {} :: events, ts)
      flowItems handles bound (depth + 1) false (.mapEnd :: events, ts)
    | .flowListEnd :: ts => some (.listEnd :: events, ts)
    | ts =>
      flowItems handles bound (depth + 1) false (← node handles bound depth .flow (events, ts))
  | _, _, _, _ => none

/-- A key that is left out takes the mark behind it along. -/
def flowPairKey (handles : Handles) : Nat → Nat → Walk → Option Walk
  | bound + 1, depth + 1, (events, .value :: ts)
  | bound + 1, depth + 1, (events, .flowEntry :: ts)
  | bound + 1, depth + 1, (events, .flowListEnd :: ts) =>
    flowPairValue handles bound depth (empty :: events, ts)
  | bound + 1, depth + 1, (events, ts) => do
    flowPairValue handles bound depth (← node handles bound depth .flow (events, ts))
  | _, _, _ => none

def flowPairValue (handles : Handles) : Nat → Nat → Walk → Option Walk
  | 0, _, _ => none
  | bound + 1, depth, (events, .value :: ts) =>
    if endsFlowItem ts then some (empty :: events, ts)
    else node handles bound depth .flow (events, ts)
  | _ + 1, _, (events, ts) => some (empty :: events, ts)

def flowEntries (handles : Handles) : Nat → Nat → Bool → Walk → Option Walk
  | _ + 1, _ + 1, _, (events, .flowMapEnd :: ts) => some (.mapEnd :: events, ts)
  | bound + 1, depth + 1, first, (events, ts) => do
    match ← separated? first ts with
    | .key :: ts =>
      if endsFlowKey ts then flowValue handles bound depth (empty :: events, ts)
      else flowValue handles bound depth (← node handles bound depth .flow (events, ts))
    | .flowMapEnd :: ts => some (.mapEnd :: events, ts)
    | ts =>
      let (events, ts) ← node handles bound depth .flow (events, ts)
      flowEntries handles bound (depth + 1) false (empty :: events, ts)
  | _, _, _, _ => none

def flowValue (handles : Handles) : Nat → Nat → Walk → Option Walk
  | 0, _, _ => none
  | bound + 1, depth, (events, .value :: ts) =>
    if endsFlowValue ts then flowEntries handles bound (depth + 1) false (empty :: events, ts)
    else do
      flowEntries handles bound (depth + 1) false
        (← node handles bound depth .flow (events, ts))
  | bound + 1, depth, (events, ts) =>
    flowEntries handles bound (depth + 1) false (empty :: events, ts)

end

/-- The deepest nesting of lists and maps that is read. -/
def maxDepth : Nat := 128

/-- What directives in front of a document say. -/
structure Preamble where
  version : Bool := false
  handles : Handles := []

/-- The directives up to a document's start. A handle has one meaning, and the version is said
once. -/
def preamble? (pre : Preamble) : List Token → Option (Handles × List Token)
  | .version major minor :: ts =>
    if !pre.version && major = 1 && (minor = 1 || minor = 2) then
      preamble? { pre with version := true } ts
    else none
  | .tagHandle handle lead :: ts =>
    if pre.handles.any (·.1 = handle) then none
    else preamble? { pre with handles := pre.handles ++ [(handle, lead)] } ts
  | .documentStart :: ts => some (pre.handles ++ standardHandles, ts)
  | _ => none

def isContent : List Token → Bool
  | .version _ _ :: _ | .tagHandle _ _ :: _ | .documentStart :: _ | .documentEnd :: _
  | .textEnd :: _ => false
  | _ => true

/-- A document behind its start. -/
def content? (handles : Handles) (ts : List Token) : Option Walk :=
  if isContent ts then node handles (4 * ts.length + 4) maxDepth .block ([], ts)
  else some ([empty], ts)

/-- Only the first document may do without a start mark. -/
def document? (first : Bool) (ts : List Token) : Option Walk :=
  match ts with
  | .documentEnd :: _ => if first then content? standardHandles ts else none
  | ts =>
    if first && isContent ts then content? standardHandles ts
    else do
      let (handles, ts) ← preamble? {} ts
      content? handles ts

/-- The documents in their order; the first that is malformed is the last. -/
def documentsFrom : Nat → Bool → List Token → List (Option (List Event))
  | 0, _, _ => [none]
  | bound + 1, first, ts =>
    match if first then ts else ts.dropWhile (· = .documentEnd) with
    | .textEnd :: _ => []
    | ts =>
      match document? first ts with
      | none | some (_, []) => [none]
      | some (events, .documentEnd :: ts) => some events.reverse :: documentsFrom bound false ts
      | some (events, ts) => some events.reverse :: documentsFrom bound false ts

def documents (ts : List Token) : List (Option (List Event)) :=
  documentsFrom (ts.length + 1) true ts

end Event

end ClusterAccess.Yaml
