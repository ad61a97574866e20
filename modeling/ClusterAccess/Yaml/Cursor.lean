namespace ClusterAccess.Yaml

def isBlank (c : Char) : Bool :=
  c = ' ' || c = '\t'

/-- Two line ends, the next line of old terminals, and the separators of lines and paragraphs. -/
def isBreak (c : Char) : Bool :=
  let n := c.toNat
  n = 10 || n = 13 || n = 0x85 || n = 0x2028 || n = 0x2029

/-- A word ends before a blank, before a line break and at the end. -/
def endsWord : List Char → Bool
  | [] => true
  | c :: _ => isBlank c || isBreak c

structure Place where
  index : Nat := 0
  line : Nat := 0
  column : Nat := 0
deriving DecidableEq, Repr

namespace Place

/-- So many characters further on a line. -/
def forward (p : Place) (count : Nat) : Place :=
  { p with index := p.index + count, column := p.column + count }

/-- The start of the next line, behind a break of so many characters. -/
def nextLine (p : Place) (count : Nat) : Place :=
  ⟨p.index + count, p.line + 1, 0⟩

end Place

structure Cursor where
  rest : List Char
  place : Place := {}

namespace Cursor

def head? (c : Cursor) : Option Char :=
  c.rest.head?

def skip (c : Cursor) (count : Nat) : Cursor :=
  ⟨c.rest.drop count, c.place.forward count⟩

/-- The characters of a class at the front, and the place behind them. -/
def span (c : Cursor) (p : Char → Bool) : List Char × Cursor :=
  let found := c.rest.takeWhile p
  (found, ⟨c.rest.dropWhile p, c.place.forward found.length⟩)

def skipWhile (c : Cursor) (p : Char → Bool) : Cursor :=
  (c.span p).2

/-- A line break reads as a line feed, except for the separators of lines and paragraphs. -/
def breakText (c : Char) : Char :=
  if c.toNat = 0x2028 || c.toNat = 0x2029 then c else '\n'

/-- The line break at the front. -/
def break? (c : Cursor) : Option (Char × Cursor) :=
  match c.rest with
  | '\r' :: '\n' :: rest => some ('\n', ⟨rest, c.place.nextLine 2⟩)
  | b :: rest => if isBreak b then some (breakText b, ⟨rest, c.place.nextLine 1⟩) else none
  | [] => none

/-- Three characters at the start of a line, alone as a word. -/
def startsWith (c : Cursor) (mark : List Char) : Bool :=
  c.place.column = 0 && mark.isPrefixOf c.rest && endsWord (c.rest.drop 3)

/-- The marks that end a document wherever they stand. -/
def atDocumentMark (c : Cursor) : Bool :=
  c.startsWith ['-', '-', '-'] || c.startsWith ['.', '.', '.']

def skipComment (c : Cursor) : Cursor :=
  if c.head? = some '#' then c.skipWhile (!isBreak ·) else c

/-- The rest of a line that holds no more than a comment, and the line's end. -/
def finishLine? (c : Cursor) : Option Cursor :=
  let c := (c.skipWhile isBlank).skipComment
  if c.rest.isEmpty then some c else c.break?.map (·.2)

end Cursor

end ClusterAccess.Yaml
