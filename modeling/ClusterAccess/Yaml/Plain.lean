import ClusterAccess.Json.Decimal
import ClusterAccess.Text.Pieces

namespace ClusterAccess.Yaml

/-- A whole number, a double by its shortest digits `digits * 10 ^ exponent`, or none of both. -/
inductive Number where
  | whole (value : Int)
  | double (negative : Bool) (digits : Nat) (exponent : Int)
  | infinite (negative : Bool)
  | nan
deriving DecidableEq, Repr

/-- Equal numbers of one sort; a zero has no sign. -/
def Number.same : Number → Number → Bool
  | .double n d e, .double n' d' e' => d = d' && (d = 0 || (n = n' && e = e'))
  | a, b => a = b

inductive Plain where
  | null
  | bool (value : Bool)
  | num (value : Number)
  | text (value : String)
deriving DecidableEq, Repr

namespace Plain

def isNull (s : String) : Bool :=
  s = "null" || s = "Null" || s = "NULL" || s = "~"

def bool? (s : String) : Option Bool :=
  if s = "true" || s = "True" || s = "TRUE" then some true
  else if s = "false" || s = "False" || s = "FALSE" then some false
  else none

def dropPlus : List Char → List Char
  | '+' :: cs => cs
  | cs => cs

def startsSigned (cs : List Char) : Bool :=
  cs.head?.any fun c => c = '+' || c = '-'

/-- Digits behind a zero are no number. -/
def isPadded (cs : List Char) : Bool :=
  let cs := if startsSigned cs then cs.drop 1 else cs
  match cs with
  | '0' :: d :: rest => (d :: rest).all Char.isDigit
  | _ => false

/-- A number by its digits, of which there is one at least. -/
def digits? (radix : Nat) (cs : List Char) : Option Nat :=
  if cs.isEmpty then none
  else cs.foldlM (fun n c => do
    let d ← Text.hexValue? c
    if d < radix then some (radix * n + d) else none) 0

/-- Digits behind a mark of their radix, or decimal ones. -/
def magnitude? : List Char → Option Nat
  | '0' :: 'x' :: cs => digits? 16 cs
  | '0' :: 'o' :: cs => digits? 8 cs
  | '0' :: 'b' :: cs => digits? 2 cs
  | cs => if isPadded cs then none else digits? 10 cs

/-- A whole number of any size, which may have a sign. -/
def integer? : List Char → Option Int
  | '-' :: cs => (magnitude? cs).map fun n => -(n : Int)
  | cs => (magnitude? (dropPlus cs)).map fun n => (n : Int)

/-- Whole numbers have 64 bits, with a sign when they are negative. -/
def isSmall (n : Int) : Bool :=
  -(Nat.pow 2 63 : Int) ≤ n && n < Nat.pow 2 64

/-- Whole numbers of up to 128 bits are no other numbers. -/
def isLarge (n : Int) : Bool :=
  !isSmall n && -(Nat.pow 2 127 : Int) ≤ n && n < Nat.pow 2 128

/-- Digits with at most one point among them, as a number and how many follow the point. -/
def mantissa? (cs : List Char) : Option (Nat × Nat × List Char) :=
  let (whole, rest) := cs.span Char.isDigit
  let (fraction, rest) := match rest with
    | '.' :: rest => rest.span Char.isDigit
    | rest => ([], rest)
  (digits? 10 (whole ++ fraction)).map (·, fraction.length, rest)

def exponent? : List Char → Option Int
  | [] => some 0
  | c :: cs =>
    if c = 'e' || c = 'E' then
      match cs with
      | '-' :: cs => (digits? 10 cs).map fun n => -(n : Int)
      | cs => (digits? 10 (dropPlus cs)).map fun n => (n : Int)
    else none

/-- A decimal number in the range of a double. -/
def decimal? (cs : List Char) : Option Number := do
  let negative := cs.head? = some '-'
  let (n, decimals, rest) ← mantissa? (if startsSigned cs then cs.drop 1 else cs)
  let (m, q) ← Decimal.nearest n ((← exponent? rest) - decimals)
  let (digits, exponent) := Decimal.shortest m q
  some (.double negative digits exponent)

def double? (s : String) : Option Number :=
  let unsigned := dropPlus s.toList
  let word := String.ofList unsigned
  if s.toList.head? = some '+' && startsSigned unsigned then none
  else if word = ".inf" || word = ".Inf" || word = ".INF" then some (.infinite false)
  else if s = "-.inf" || s = "-.Inf" || s = "-.INF" then some (.infinite true)
  else if s = ".nan" || s = ".NaN" || s = ".NAN" then some .nan
  else decimal? unsigned

/-- A whole number between 64 and 128 bits stands for nothing. -/
def ofText? (s : String) : Option Plain :=
  if s = "" || isNull s then some .null
  else
    match bool? s, integer? s.toList with
    | some b, _ => some (.bool b)
    | none, some n =>
      if isSmall n then some (.num (.whole n))
      else if isLarge n then none
      else some (((double? s).map .num).getD (.text s))
    | none, none =>
      if isPadded s.toList then some (.text s)
      else some (((double? s).map .num).getD (.text s))

/-- What a standard tag makes of a text; other tags leave it as it is. -/
def ofTagged? (tag s : String) : Option Plain :=
  match tag with
  | "tag:yaml.org,2002:bool" => (bool? s).map .bool
  | "tag:yaml.org,2002:int" => do
    let n ← integer? s.toList
    if isSmall n then some (.num (.whole n)) else none
  | "tag:yaml.org,2002:float" => (double? s).map .num
  | "tag:yaml.org,2002:null" => if isNull s then some .null else none
  | _ => some (.text s)

end Plain

end ClusterAccess.Yaml
