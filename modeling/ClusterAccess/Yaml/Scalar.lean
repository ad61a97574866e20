import ClusterAccess.Text.Pieces
import ClusterAccess.Yaml.Cursor

namespace ClusterAccess.Yaml

/-- What stands between two words of a scalar, the latest character first. A line break that is
escaped leaves nothing. -/
inductive Gap where
  | blanks (cs : List Char)
  | breaks (first : Option Char) (more : List Char)

namespace Gap

def addBlank (c : Char) : Gap → Gap
  | blanks cs => blanks (c :: cs)
  | breaks first more => breaks first more

def addBreak (c : Char) : Gap → Gap
  | blanks _ => breaks (some c) []
  | breaks first more => breaks first (c :: more)

def hasBreak : Gap → Bool
  | blanks _ => false
  | breaks _ _ => true

/-- The characters that a gap leaves in the text. -/
def fold : Gap → List Char
  | blanks cs => cs
  | breaks none more => more
  | breaks (some '\n') [] => [' ']
  | breaks (some '\n') more => more
  | breaks (some c) more => more ++ [c]

/-- The gap at the front of a text; a tab may not stand left of an indentation. -/
def read? (indent : Nat) : List Char → Place → Gap → Option (Gap × Cursor)
  | '\r' :: '\n' :: rest, p, g => read? indent rest (p.nextLine 2) (g.addBreak '\n')
  | c :: rest, p, g =>
    if isBlank c then
      if g.hasBreak && p.column < indent && c = '\t' then none
      else read? indent rest (p.forward 1) (g.addBlank c)
    else if isBreak c then
      read? indent rest (p.nextLine 1) (g.addBreak (Cursor.breakText c))
    else some (g, ⟨c :: rest, p⟩)
  | [], p, g => some (g, ⟨[], p⟩)

end Gap

namespace Scalar

/-- What a backslash and one character stand for. -/
def escape? : Char → Option Char
  | '0' => some '\x00'
  | 'a' => some '\x07'
  | 'b' => some '\x08'
  | 't' | '\t' => some '\t'
  | 'n' => some '\n'
  | 'v' => some '\x0b'
  | 'f' => some '\x0c'
  | 'r' => some '\r'
  | 'e' => some '\x1b'
  | ' ' => some ' '
  | '"' => some '"'
  | '/' => some '/'
  | '\\' => some '\\'
  | 'N' => some '\u0085'
  | '_' => some '\u00a0'
  | 'L' => some '\u2028'
  | 'P' => some '\u2029'
  | _ => none

/-- A character by its number, which is no surrogate. -/
def ofNumber? (digits : List Char) : Option Char := do
  let n ← Text.hexNumber? digits
  if 0x110000 ≤ n || (0xd800 ≤ n && n < 0xe000) then none else some (Char.ofNat n)

/-- How a run of characters without blanks and line breaks ends. -/
inductive WordEnd where
  | quote
  | gap
  | escapedBreak
deriving DecidableEq

/-- Characters up to a blank, a break or the closing quote, behind a text with the latest character
first. -/
def singleWord : List Char → Place → List Char → Option (List Char × WordEnd × Cursor)
  | '\'' :: '\'' :: rest, p, text => singleWord rest (p.forward 2) ('\'' :: text)
  | '\'' :: rest, p, text => some (text, .quote, ⟨rest, p.forward 1⟩)
  | c :: rest, p, text =>
    if isBlank c || isBreak c then some (text, .gap, ⟨c :: rest, p⟩)
    else singleWord rest (p.forward 1) (c :: text)
  | [], p, text => some (text, .gap, ⟨[], p⟩)

def doubleWord : List Char → Place → List Char → Option (List Char × WordEnd × Cursor)
  | '"' :: rest, p, text => some (text, .quote, ⟨rest, p.forward 1⟩)
  | '\\' :: '\r' :: '\n' :: rest, p, text =>
    some (text, .escapedBreak, ⟨rest, (p.forward 1).nextLine 2⟩)
  | '\\' :: 'x' :: a :: b :: rest, p, text => do
    doubleWord rest (p.forward 4) ((← ofNumber? [a, b]) :: text)
  | '\\' :: 'u' :: a :: b :: c :: d :: rest, p, text => do
    doubleWord rest (p.forward 6) ((← ofNumber? [a, b, c, d]) :: text)
  | '\\' :: 'U' :: a :: b :: c :: d :: e :: f :: g :: h :: rest, p, text => do
    doubleWord rest (p.forward 10) ((← ofNumber? [a, b, c, d, e, f, g, h]) :: text)
  | '\\' :: e :: rest, p, text =>
    if isBreak e then some (text, .escapedBreak, ⟨rest, (p.forward 1).nextLine 1⟩)
    else do doubleWord rest (p.forward 2) ((← escape? e) :: text)
  | c :: rest, p, text =>
    if c = '\\' then none
    else if isBlank c || isBreak c then some (text, .gap, ⟨c :: rest, p⟩)
    else doubleWord rest (p.forward 1) (c :: text)
  | [], p, text => some (text, .gap, ⟨[], p⟩)

/-- The words of a quoted scalar up to its closing quote. No document ends within. -/
def quotedFrom (single : Bool) : Nat → Cursor → List Char → Option (List Char × Cursor)
  | 0, _, _ => none
  | bound + 1, c, text =>
    if c.atDocumentMark || c.rest.isEmpty then none
    else do
      let (text, wordEnd, c) ←
        (if single then singleWord else doubleWord) c.rest c.place text
      if wordEnd = .quote then some (text, c)
      else
        let start : Gap := if wordEnd = .escapedBreak then .breaks none [] else .blanks []
        let (gap, c) ← Gap.read? 0 c.rest c.place start
        quotedFrom single bound c (gap.fold ++ text)

/-- A quoted scalar, given the place behind its opening quote. -/
def quoted? (bound : Nat) (single : Bool) (c : Cursor) : Option (String × Cursor) :=
  (quotedFrom single bound c []).map fun p => (String.ofList p.1.reverse, p.2)

def isFlowIndicator (c : Char) : Bool :=
  c = ',' || c = '[' || c = ']' || c = '\x7b' || c = '\x7d'

/-- Characters up to what ends a plain word; in brackets a colon may not touch an indicator. -/
def plainWord (flow : Bool) : List Char → Place → List Char → Option (List Char × Cursor)
  | c :: rest, p, text =>
    if isBlank c || isBreak c then some (text, ⟨c :: rest, p⟩)
    else if flow && c = ':' && rest.head?.any (fun d => isFlowIndicator d || d = '?') then none
    else if (c = ':' && endsWord rest) || (flow && isFlowIndicator c) then
      some (text, ⟨c :: rest, p⟩)
    else plainWord flow rest (p.forward 1) (c :: text)
  | [], p, text => some (text, ⟨[], p⟩)

/-- The words of a plain scalar from a place on, behind a gap; and whether a line break follows the
last one. -/
def plainFrom (flow : Bool) (indent : Nat) :
    Nat → Cursor → Gap → List Char → Option (List Char × Bool × Cursor)
  | 0, _, _, _ => none
  | bound + 1, c, gap, text =>
    if c.atDocumentMark || c.head? = some '#' then some (text, gap.hasBreak, c)
    else do
      let joined := gap.fold ++ text
      let (word, next) ← plainWord flow c.rest c.place joined
      let moved := c.place.index < next.place.index
      let text := if moved then word else text
      let gap := if moved then .blanks [] else gap
      if next.rest.isEmpty || !endsWord next.rest then some (text, gap.hasBreak, next)
      else
        let (gap, c) ← Gap.read? indent next.rest next.place gap
        if !flow && c.place.column < indent then some (text, gap.hasBreak, c)
        else plainFrom flow indent bound c gap text

/-- A plain scalar, and whether the place behind it is on a later line. -/
def plain? (bound : Nat) (flow : Bool) (indent : Nat) (c : Cursor) :
    Option (String × Bool × Cursor) :=
  (plainFrom flow indent bound c (.blanks []) []).map fun p => (String.ofList p.1.reverse, p.2)

/-- What becomes of the line breaks at a block's end. -/
inductive Chomp where
  | strip
  | clip
  | keep
deriving DecidableEq

def chomp? : Option Char → Option Chomp
  | some '+' => some .keep
  | some '-' => some .strip
  | _ => none

/-- An explicit indentation has one digit and is not zero. -/
def increment? (c : Cursor) : Option (Option Nat × Cursor) :=
  match c.head? with
  | some d =>
    if d = '0' then none
    else if d.isDigit then some (some (d.toNat - 48), c.skip 1)
    else some (none, c)
  | none => some (none, c)

/-- The marks behind a block's indicator, in either order. -/
def header? (c : Cursor) : Option (Chomp × Option Nat × Cursor) := do
  match chomp? c.head? with
  | some chomp =>
    let (increment, c) ← increment? (c.skip 1)
    some (chomp, increment, c)
  | none =>
    let (increment, c) ← increment? c
    match increment, chomp? c.head? with
    | some n, some chomp => some (chomp, some n, c.skip 1)
    | increment, _ => some (.clip, increment, c)

/-- Spaces up to an indentation. -/
def spaces (indent : Option Nat) : List Char → Place → Cursor
  | c :: rest, p =>
    if c = ' ' && indent.all (p.column < ·) then spaces indent rest (p.forward 1)
    else ⟨c :: rest, p⟩
  | [], p => ⟨[], p⟩

/-- Line breaks and the indentations between them, the latest break first, and the widest
indentation. A tab may not stand in for the spaces. -/
def breaksFrom (indent : Option Nat) :
    Nat → Cursor → Nat → List Char → Option (Nat × List Char × Cursor)
  | 0, _, _, _ => none
  | bound + 1, c, widest, breaks =>
    let c := spaces indent c.rest c.place
    let widest := max widest c.place.column
    if c.head? = some '\t' && indent.all (c.place.column < ·) then none
    else
      match c.break? with
      | none => some (widest, breaks, c)
      | some (b, c) => breaksFrom indent bound c widest (b :: breaks)

/-- The lines of a block. `lead` is the break before the next line, `breaks` are further ones, and
`blankLead` says that the last line started with a blank. -/
def linesFrom (literal : Bool) (indent : Nat) (chomp : Chomp) :
    Nat → Cursor → (blankLead : Bool) → (lead breaks text : List Char) → Option (List Char × Cursor)
  | 0, _, _, _, _, _ => none
  | bound + 1, c, blankLead, lead, breaks, text =>
    if c.place.column = indent && !c.rest.isEmpty then do
      let blank := c.head?.any isBlank
      let text :=
        if !literal && lead = ['\n'] && !blankLead && !blank then
          if breaks.isEmpty then ' ' :: text else breaks ++ text
        else breaks ++ lead ++ text
      let (line, c) := c.span (!isBreak ·)
      let (lead, c) := match c.break? with
        | some (b, c) => ([b], c)
        | none => ([], c)
      let (_, breaks, c) ← breaksFrom (some indent) bound c 0 []
      linesFrom literal indent chomp bound c blank lead breaks (line.reverse ++ text)
    else
      some ((if chomp = .keep then breaks else []) ++ (if chomp = .strip then [] else lead) ++ text,
        c)

/-- A block, given the place behind its indicator and the indentation of what it stands in. -/
def block? (bound : Nat) (literal : Bool) (parent : Int) (c : Cursor) :
    Option (String × Cursor) := do
  let (chomp, increment, c) ← header? c
  let c ← c.finishLine?
  let given := increment.map fun n => if 0 ≤ parent then parent.toNat + n else n
  let (widest, breaks, c) ← breaksFrom given bound c 0 []
  let indent := given.getD (max (max widest (parent + 1).toNat) 1)
  let (text, c) ← linesFrom literal indent chomp bound c false [] breaks []
  some (String.ofList text.reverse, c)

end Scalar

end ClusterAccess.Yaml
