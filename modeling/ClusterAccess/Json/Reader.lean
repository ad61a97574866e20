import ClusterAccess.Json.Written
import ClusterAccess.Text.Bytes
import ClusterAccess.Text.Pieces

namespace ClusterAccess.Json

namespace Reader

def skipBlank (cs : List Char) : List Char :=
  cs.dropWhile fun c => c = ' ' || c = '\n' || c = '\t' || c = '\r'

def digitValue (c : Char) : Nat :=
  c.toNat - 48

def ofDigits (ds : List Char) : Nat :=
  ds.foldl (fun n c => 10 * n + digitValue c) 0

/-- The characters after a backslash that stand for one character. -/
def simpleEscape? : Char → Option Char
  | '"' => some '"'
  | '\\' => some '\\'
  | '/' => some '/'
  | 'b' => some '\x08'
  | 'f' => some '\x0c'
  | 'n' => some '\n'
  | 'r' => some '\r'
  | 't' => some '\t'
  | _ => none

/-- A character of a string, or a 16-bit unit given by number. -/
inductive Piece where
  | char (c : Char)
  | unit (n : Nat)

/-- The pieces of a string, given the text after its opening quote. No control character stands in a
string. -/
def stringBody : List Char → Option (List Piece × List Char)
  | [] => none
  | '"' :: rest => some ([], rest)
  | '\\' :: 'u' :: a :: b :: c :: d :: rest => do
    let unit ← Text.hexNumber? [a, b, c, d]
    let (ps, rest) ← stringBody rest
    some (.unit unit :: ps, rest)
  | '\\' :: e :: rest => do
    let c ← simpleEscape? e
    let (ps, rest) ← stringBody rest
    some (.char c :: ps, rest)
  | c :: rest =>
    if c.toNat < 32 ∨ c = '\\' then none
    else do
      let (ps, rest) ← stringBody rest
      some (.char c :: ps, rest)

/-- The characters that pieces stand for; surrogates stand in pairs. -/
def chars? : List Piece → Option (List Char)
  | [] => some []
  | .char c :: ps => (chars? ps).map (c :: ·)
  | .unit high :: .unit low :: ps =>
    if Text.isHighSurrogate high then
      if Text.isLowSurrogate low then (chars? ps).map (Text.ofSurrogates high low :: ·) else none
    else if Text.isLowSurrogate high then none
    else (chars? (.unit low :: ps)).map (Char.ofNat high :: ·)
  | .unit n :: ps =>
    if Text.isHighSurrogate n || Text.isLowSurrogate n then none
    else (chars? ps).map (Char.ofNat n :: ·)

def string? (ps : List Piece) : Option String :=
  (chars? ps).map String.ofList

/-- Digits after a decimal point; a point needs at least one. -/
def fraction? : List Char → Option (List Char × List Char)
  | '.' :: rest =>
    match rest.span Char.isDigit with
    | ([], _) => none
    | (ds, rest) => some (ds, rest)
  | rest => some ([], rest)

def exponent? : List Char → Option (Option Int × List Char)
  | c :: rest =>
    if c = 'e' ∨ c = 'E' then
      let (sign, rest) : Int × List Char := match rest with
        | '+' :: r => (1, r)
        | '-' :: r => (-1, r)
        | r => (1, r)
      match rest.span Char.isDigit with
      | ([], _) => none
      | (ds, rest) => some (some (sign * ofDigits ds), rest)
    else some (none, c :: rest)
  | [] => some (none, [])

/-- Digits behind a number while it stays in 64 bits, and the digits that are left. -/
def significand (n : Nat) : List Char → Nat × List Char
  | [] => (n, [])
  | d :: ds =>
    let next := 10 * n + digitValue d
    if next < Nat.pow 2 64 then significand next ds else (n, d :: ds)

/-- A number of 64 bits times a power of ten, as a double. -/
def double? (negative : Bool) (n : Nat) (power : Int) : Option Number := do
  let (m, q) ← Decimal.timesTen? (← Decimal.nearestOfRatio n 1) power
  let (digits, exponent) := Decimal.shortest m q
  some (.double negative digits exponent)

/-- Digits that do not fit in 64 bits are dropped: a whole digit counts in the power of ten, one
of the fraction does not. An exponent outside 32 bits stands for zero or for what is out of
range. -/
def scaled? (negative : Bool) (whole fraction : List Char) (exponent : Int) : Option Number :=
  let (n, dropped) := significand 0 whole
  let (n, left) := significand n fraction
  if exponent.natAbs < Nat.pow 2 31 then
    double? negative n (exponent + dropped.length - (fraction.length - left.length))
  else if n = 0 || exponent < 0 then some (.double negative 0 0)
  else none

/-- Whole numbers stay exact in 64 bits; every other number, minus zero included, is a double. -/
def number? (negative : Bool) (whole fraction : List Char) (exponent : Option Int) :
    Option Number :=
  let n := ofDigits whole
  if fraction = [] ∧ exponent = none ∧ !negative ∧ n < Nat.pow 2 64 then some (.whole n)
  else if fraction = [] ∧ exponent = none ∧ negative ∧ 0 < n ∧ n ≤ Nat.pow 2 63 then
    some (.whole (-n))
  else scaled? negative whole fraction (exponent.getD 0)

/-- A number without its sign; one that is out of range cannot be read. -/
def unsigned? (negative : Bool) (cs : List Char) : Option (Written × List Char) :=
  match cs.span Char.isDigit with
  | ([], _) => none
  | ('0' :: _ :: _, _) => none
  | (whole, rest) => do
    let (fraction, rest) ← fraction? rest
    let (exponent, rest) ← exponent? rest
    some (((number? negative whole fraction exponent).map .num).getD .unreadable, rest)

def word? (word : List Char) (value : Written) (cs : List Char) : Option (Written × List Char) :=
  if word.isPrefixOf cs then some (value, cs.drop word.length) else none

/-- A container that may not open cannot be read. -/
def within (depth : Nat) (container : Written) : Written :=
  if depth = 0 then .unreadable else container

mutual

/-- One value at the front of the text, with `depth` arrays and objects still allowed to open. -/
def value (depth : Nat) : Nat → List Char → Option (Written × List Char)
  | 0, _ => none
  | fuel + 1, cs =>
    match skipBlank cs with
    | [] => none
    | '"' :: rest => do
      let (s, rest) ← stringBody rest
      some (((string? s).map .str).getD .unreadable, rest)
    | '[' :: rest =>
      match skipBlank rest with
      | ']' :: rest => some (within depth (.arr []), rest)
      | rest => do
        let (items, rest) ← elements (depth - 1) fuel rest
        some (within depth (.arr items), rest)
    | '\x7b' :: rest =>
      match skipBlank rest with
      | '\x7d' :: rest => some (within depth (.obj []), rest)
      | rest => do
        let (members, rest) ← members (depth - 1) fuel rest
        some (within depth (.obj members), rest)
    | '-' :: rest => unsigned? true rest
    | c :: rest =>
      if c = 't' then word? ['t', 'r', 'u', 'e'] (.bool true) (c :: rest)
      else if c = 'f' then word? ['f', 'a', 'l', 's', 'e'] (.bool false) (c :: rest)
      else if c = 'n' then word? ['n', 'u', 'l', 'l'] .null (c :: rest)
      else unsigned? false (c :: rest)

def elements (depth : Nat) : Nat → List Char → Option (List Written × List Char)
  | 0, _ => none
  | fuel + 1, cs => do
    let (x, rest) ← value depth fuel cs
    match skipBlank rest with
    | ']' :: rest => some ([x], rest)
    | ',' :: rest =>
      let (xs, rest) ← elements depth fuel rest
      some (x :: xs, rest)
    | _ => none

def members (depth : Nat) :
    Nat → List Char → Option (List (Option String × Written) × List Char)
  | 0, _ => none
  | fuel + 1, cs =>
    match skipBlank cs with
    | '"' :: rest => do
      let (key, rest) ← stringBody rest
      match skipBlank rest with
      | ':' :: rest =>
        let (v, rest) ← value depth fuel rest
        match skipBlank rest with
        | '\x7d' :: rest => some ([(string? key, v)], rest)
        | ',' :: rest =>
          let (ms, rest) ← members depth fuel rest
          some ((string? key, v) :: ms, rest)
        | _ => none
      | _ => none
    | _ => none

end

end Reader

/-- The deepest nesting of arrays and objects that is read. -/
def maxDepth : Nat := 127

/-- The document as written: members in their order, repeated keys included. -/
def document? (text : String) : Option Written :=
  let cs := text.toList
  match Reader.value maxDepth (2 * cs.length + 2) cs with
  | some (v, rest) => if Reader.skipBlank rest = [] then some v else none
  | none => none

def parse? (text : String) : Option Json :=
  ((document? text).bind Written.value?).map canonical

end ClusterAccess.Json
