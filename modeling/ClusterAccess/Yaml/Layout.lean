import ClusterAccess.Yaml.Token

namespace ClusterAccess.Yaml

/-- A token that is a key if a colon follows on its line. -/
structure KeyMark where
  /-- The number of the token. -/
  token : Nat
  place : Place
  /-- At a block's own indentation nothing but a key can stand. -/
  required : Bool

/-- What is known at a place: the tokens before it, the latest first, the columns of the open
blocks, and for every open bracket the token that may be a key. -/
structure Layout where
  cursor : Cursor
  count : Nat := 0
  tokens : List Token := []
  indent : Int := -1
  outer : List Int := []
  /-- The mark of the innermost bracket, or of no bracket. -/
  mark : Option KeyMark := none
  marks : List (Option KeyMark) := []
  keyAllowed : Bool := true
  /-- No scalar has so many characters. -/
  bound : Nat

namespace Layout

/-- Whether the place is in brackets. -/
def inFlow (s : Layout) : Bool :=
  !s.marks.isEmpty

def push (s : Layout) (t : Token) : Layout :=
  { s with tokens := t :: s.tokens, count := s.count + 1 }

/-- Puts a token before those that came from a number on. -/
def insertAt (s : Layout) (number : Nat) (t : Token) : Layout :=
  let later := s.count - number
  { s with tokens := s.tokens.take later ++ t :: s.tokens.drop later, count := s.count + 1 }

def skip (s : Layout) (n : Nat) : Layout :=
  { s with cursor := s.cursor.skip n }

def column (s : Layout) : Int :=
  s.cursor.place.column

/-- A mark is good for its line and for 1024 characters. -/
def isStale (at_ : Place) (m : KeyMark) : Bool :=
  m.place.line < at_.line || m.place.index + 1024 < at_.index

/-- A mark that is good no longer is dropped, unless a key was required. -/
def refresh? (at_ : Place) : Option KeyMark → Option (Option KeyMark)
  | none => some none
  | some m => if isStale at_ m then if m.required then none else some none else some (some m)

def refreshMarks? (s : Layout) : Option Layout := do
  some { s with
    mark := ← refresh? s.cursor.place s.mark
    marks := ← s.marks.mapM (refresh? s.cursor.place) }

def dropMark? (s : Layout) : Option Layout :=
  if s.mark.any (·.required) then none else some { s with mark := none }

/-- The next token may turn out to be a key. -/
def setMark? (s : Layout) : Option Layout := do
  if s.keyAllowed then
    let s ← s.dropMark?
    some { s with mark := some {
      token := s.count, place := s.cursor.place, required := !s.inFlow && s.indent = s.column } }
  else some s

def allowKey (s : Layout) (allowed : Bool) : Layout :=
  { s with keyAllowed := allowed }

/-- Closes the blocks to the right of a column. -/
def closeBlocks (s : Layout) (column : Int) : Layout :=
  if s.inFlow then s
  else
    let open_ := (s.indent :: s.outer).takeWhile (column < ·)
    match (s.indent :: s.outer).drop open_.length with
    | indent :: outer => open_.foldl (fun s _ => s.push .blockEnd) { s with indent, outer }
    | [] => s

/-- Opens a block at a column, before the tokens from a number on. -/
def openBlock (s : Layout) (column : Int) (number : Nat) (t : Token) : Layout :=
  if !s.inFlow && s.indent < column then
    { s.insertAt number t with indent := column, outer := s.indent :: s.outer }
  else s

/-- Blanks, comments and line breaks; a new line outside brackets may start with a key. A tab may
not stand where a key may. -/
def skipGap : Nat → Layout → Layout
  | 0, s => s
  | bound + 1, s =>
    let blank (c : Char) : Bool := c = ' ' || ((s.inFlow || !s.keyAllowed) && c = '\t')
    let cursor := (s.cursor.skipWhile blank).skipComment
    match cursor.break? with
    | none => { s with cursor }
    | some (_, cursor) =>
      skipGap bound { s with cursor, keyAllowed := s.keyAllowed || !s.inFlow }

/-- A token of so many characters that closes all blocks. -/
def documentToken? (s : Layout) (read : Cursor → Option (Token × Cursor)) : Option Layout := do
  let s ← (s.closeBlocks (-1)).dropMark?
  let (t, cursor) ← read s.cursor
  some { (s.push t).allowKey false with cursor }

def textEnd? (s : Layout) : Option Layout := do
  let s ← (s.closeBlocks (-1)).dropMark?
  some (s.push .textEnd)

def openBracket? (s : Layout) (t : Token) : Option Layout := do
  let s ← s.setMark?
  some (({ s with mark := none, marks := s.mark :: s.marks }.push t).skip 1 |>.allowKey true)

def closeBracket? (s : Layout) (t : Token) : Option Layout := do
  let s ← s.dropMark?
  let s := match s.marks with
    | mark :: marks => { s with mark, marks }
    | [] => s
  some ((s.push t).skip 1 |>.allowKey false)

def flowEntry? (s : Layout) : Option Layout := do
  some (((← s.dropMark?).push .flowEntry).skip 1 |>.allowKey true)

def blockEntry? (s : Layout) : Option Layout := do
  if !s.inFlow && !s.keyAllowed then none
  else
    let s ← (s.openBlock s.column s.count .blockListStart).dropMark?
    some ((s.push .blockEntry).skip 1 |>.allowKey true)

/-- A key that is marked as one from the start. -/
def key? (s : Layout) : Option Layout := do
  if !s.inFlow && !s.keyAllowed then none
  else
    let s ← (s.openBlock s.column s.count .blockMapStart).dropMark?
    some ((s.push .key).skip 1 |>.allowKey (!s.inFlow))

def value? (s : Layout) : Option Layout :=
  match s.mark with
  | some m =>
    let s := (s.insertAt m.token .key).openBlock m.place.column m.token .blockMapStart
    some (({ s with mark := none }.push .value).skip 1 |>.allowKey false)
  | none =>
    if !s.inFlow && !s.keyAllowed then none
    else
      let s := s.openBlock s.column s.count .blockMapStart
      some ((s.push .value).skip 1 |>.allowKey (!s.inFlow))

/-- A token that may be a key. -/
def keyToken? (s : Layout) (read : Cursor → Option (Token × Cursor)) : Option Layout := do
  let s ← s.setMark?
  let (t, cursor) ← read s.cursor
  some { (s.push t).allowKey false with cursor }

def block? (s : Layout) (literal : Bool) : Option Layout := do
  let s ← s.dropMark?
  let (text, cursor) ← Scalar.block? s.bound literal s.indent (s.cursor.skip 1)
  some { (s.push (.scalar text false)).allowKey true with cursor }

def quoted? (s : Layout) (single : Bool) : Option Layout :=
  s.keyToken? fun c => do
    let (text, c) ← Scalar.quoted? s.bound single (c.skip 1)
    some (.scalar text false, c)

def plain? (s : Layout) : Option Layout := do
  let s ← s.setMark?
  let (text, broken, cursor) ← Scalar.plain? s.bound s.inFlow (s.indent + 1).toNat s.cursor
  some { (s.push (.scalar text true)).allowKey broken with cursor }

def anchor? (s : Layout) (make : String → Token) : Option Layout :=
  s.keyToken? fun c => do
    let (name, c) ← Token.name? (c.skip 1)
    some (make name, c)

def tag? (s : Layout) : Option Layout :=
  s.keyToken? fun c => do
    let (tag, c) ← Token.tag? s.inFlow c
    some (.tag tag, c)

/-- Indicators that start no plain scalar. -/
def isIndicator (c : Char) : Bool :=
  "-?:,[]\x7b\x7d#&*!|>'\"%@".toList.contains c || c.toNat = 0x60

/-- Three of the indicators start a plain scalar when a word goes on behind them. -/
def startsPlain (s : Layout) (c : Char) (rest : List Char) : Bool :=
  !isIndicator c || (!endsWord rest && (c = '-' || (!s.inFlow && (c = '?' || c = ':'))))

/-- The token that starts with a character which is no blank; nothing where it may not stand. -/
def token? (s : Layout) (c : Char) (rest : List Char) : Option Layout :=
  let alone := s.inFlow || endsWord rest
  if s.cursor.place.column = 0 && c = '%' then
    s.documentToken? fun c => Token.directive? (c.skip 1)
  else if s.cursor.startsWith ['-', '-', '-'] then
    s.documentToken? fun c => some (.documentStart, c.skip 3)
  else if s.cursor.startsWith ['.', '.', '.'] then
    s.documentToken? fun c => some (.documentEnd, c.skip 3)
  else if c = '[' then s.openBracket? .flowListStart
  else if c = '\x7b' then s.openBracket? .flowMapStart
  else if c = ']' then s.closeBracket? .flowListEnd
  else if c = '\x7d' then s.closeBracket? .flowMapEnd
  else if c = ',' then s.flowEntry?
  else if c = '-' && endsWord rest then s.blockEntry?
  else if c = '?' && alone then s.key?
  else if c = ':' && alone then s.value?
  else if c = '*' then s.anchor? .alias
  else if c = '&' then s.anchor? .anchor
  else if c = '!' then s.tag?
  else if c = '|' && !s.inFlow then s.block? true
  else if c = '>' && !s.inFlow then s.block? false
  else if c = '\'' then s.quoted? true
  else if c = '"' then s.quoted? false
  else if !isBlank c && s.startsPlain c rest then s.plain?
  else none

/-- The tokens up to the end of the text, or up to the first place where none can stand. -/
def tokensFrom : Nat → Layout → List Token
  | 0, s => s.tokens.reverse
  | bound + 1, s =>
    match (s.skipGap s.bound).refreshMarks? with
    | none => s.tokens.reverse
    | some s =>
      let s := s.closeBlocks s.column
      match s.cursor.rest with
      | [] => ((s.textEnd?).getD s).tokens.reverse
      | c :: rest =>
        match s.token? c rest with
        | none => s.tokens.reverse
        | some s => tokensFrom bound s

end Layout

/-- The start of a text; a mark of the byte order may stand there. -/
def start (cs : List Char) : Cursor :=
  let c : Cursor := { rest := cs }
  if c.head?.any (·.toNat = 0xfeff) then c.skip 1 else c

def tokens (cs : List Char) : List Token :=
  let bound := cs.length + 2
  Layout.tokensFrom bound { cursor := start cs, bound }

end ClusterAccess.Yaml
