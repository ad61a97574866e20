import ClusterAccess.Text.Bytes
import ClusterAccess.Text.Pieces
import ClusterAccess.Yaml.Scalar

namespace ClusterAccess.Yaml

/-- A tag as it is written; without a handle the suffix is the whole tag. -/
structure TagText where
  handle : String
  suffix : Bytes
deriving DecidableEq, Repr

inductive Token where
  | textEnd
  | version (major minor : Nat)
  | tagHandle (handle : String) (lead : Bytes)
  | documentStart
  | documentEnd
  | blockListStart
  | blockMapStart
  | blockEnd
  | flowListStart
  | flowListEnd
  | flowMapStart
  | flowMapEnd
  | blockEntry
  | flowEntry
  | key
  | value
  | alias (name : String)
  | anchor (name : String)
  | tag (tag : TagText)
  | scalar (text : String) (plain : Bool)
deriving DecidableEq, Repr

/-- The characters of names. -/
def isNameChar (c : Char) : Bool :=
  c.isDigit || c.isAlpha || c = '-' || c = '_'

namespace Token

/-- The name of an anchor or alias, which ends before a blank or one of a few indicators. -/
def name? (c : Cursor) : Option (String × Cursor) :=
  let (name, c) := c.span isNameChar
  let ends := endsWord c.rest ||
    c.head?.any fun d => "?:,]\x7d%@".toList.contains d || d.toNat = 0x60
  if name.isEmpty || !ends then none else some (String.ofList name, c)

def isTagChar (verbatim : Bool) (c : Char) : Bool :=
  isNameChar c || ";/?:@&=+$.!~*'()".toList.contains c || (verbatim && ",[]".toList.contains c)

/-- How many bytes a character has that starts with a byte. -/
def encodedLength? (lead : Nat) : Option Nat :=
  if lead < 0x80 then some 1
  else if 0xc0 ≤ lead && lead < 0xe0 then some 2
  else if 0xe0 ≤ lead && lead < 0xf0 then some 3
  else if 0xf0 ≤ lead && lead < 0xf8 then some 4
  else none

/-- Bytes written by number in a tag, of which `pending` must still follow, between other
characters, the latest first. -/
def tagBytes (verbatim : Bool) (pending : Nat) :
    List Char → Place → Bytes → Option (Bytes × Cursor)
  | '%' :: a :: b :: rest, p, bytes => do
    let n ← Text.hexNumber? [a, b]
    let pending ← if pending = 0 then (encodedLength? n).map (· - 1)
      else if 0x80 ≤ n && n < 0xc0 then some (pending - 1) else none
    tagBytes verbatim pending rest (p.forward 3) (UInt8.ofNat n :: bytes)
  | c :: rest, p, bytes =>
    if c = '%' then none
    else if !isTagChar verbatim c then if pending = 0 then some (bytes, ⟨c :: rest, p⟩) else none
    else if pending = 0 then
      tagBytes verbatim 0 rest (p.forward 1) (UInt8.ofNat c.toNat :: bytes)
    else none
  | [], p, bytes => if pending = 0 then some (bytes, ⟨[], p⟩) else none

/-- The characters of a tag that are left, which may be none only behind a beginning of it. -/
def tagRest? (verbatim : Bool) (begun : List Char) (c : Cursor) : Option (Bytes × Cursor) := do
  let (bytes, c) ← tagBytes verbatim 0 c.rest c.place []
  if bytes.isEmpty && begun.isEmpty then none
  else some (Bytes.ofText (String.ofList (begun.drop 1)) ++ bytes.reverse, c)

/-- An exclamation mark, a name, and a closing mark if there is one. -/
def handle? (c : Cursor) : Option (List Char × Bool × Cursor) :=
  if c.head? = some '!' then
    let (name, c) := (c.skip 1).span isNameChar
    if c.head? = some '!' then some ('!' :: name ++ ['!'], true, c.skip 1)
    else some ('!' :: name, false, c)
  else none

def tagText? (c : Cursor) : Option (TagText × Cursor) := do
  if c.rest[1]? = some '<' then
    let (suffix, c) ← tagRest? true [] (c.skip 2)
    if c.head? = some '>' then some (⟨"", suffix⟩, c.skip 1) else none
  else
    let (begun, closed, c) ← handle? c
    if closed then
      let (suffix, c) ← tagRest? false [] c
      some (⟨String.ofList begun, suffix⟩, c)
    else
      let (suffix, c) ← tagRest? false begun c
      some (if suffix.isEmpty then ⟨"", Bytes.ofText "!"⟩ else ⟨"!", suffix⟩, c)

/-- A tag ends before a blank, or before a comma in brackets. -/
def tag? (flow : Bool) (c : Cursor) : Option (TagText × Cursor) := do
  let (found, c) ← tagText? c
  if endsWord c.rest || (flow && c.head? = some ',') then some (found, c) else none

/-- A number of at most nine digits. -/
def number? (c : Cursor) : Option (Nat × Cursor) :=
  let (ds, c) := c.span Char.isDigit
  if ds.isEmpty || 9 < ds.length then none
  else some (ds.foldl (fun n d => 10 * n + (d.toNat - 48)) 0, c)

def version? (c : Cursor) : Option (Token × Cursor) := do
  let (major, c) ← number? (c.skipWhile isBlank)
  if c.head? ≠ some '.' then none
  else
    let (minor, c) ← number? (c.skip 1)
    some (.version major minor, c)

def tagHandle? (c : Cursor) : Option (Token × Cursor) := do
  let (handle, closed, c) ← handle? (c.skipWhile isBlank)
  if (!closed && handle ≠ ['!']) || !c.head?.any isBlank then none
  else
    let (lead, c) ← tagRest? true [] (c.skipWhile isBlank)
    if endsWord c.rest then some (.tagHandle (String.ofList handle) lead, c) else none

/-- A directive, given the place behind its percent sign, and the end of its line. -/
def directive? (c : Cursor) : Option (Token × Cursor) := do
  let (name, c) := c.span isNameChar
  if !endsWord c.rest then none
  else
    let (token, c) ←
      if name = ['Y', 'A', 'M', 'L'] then version? c
      else if name = ['T', 'A', 'G'] then tagHandle? c
      else none
    some (token, ← c.finishLine?)

end Token

end ClusterAccess.Yaml
