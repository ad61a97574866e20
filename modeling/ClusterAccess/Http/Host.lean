import ClusterAccess.Http.Uri
import ClusterAccess.Text.Pieces

namespace ClusterAccess.Http.Host

def group? (cs : List Char) : Option Nat :=
  if cs.isEmpty || 4 < cs.length then none
  else Text.hexNumber? cs

/-- A decimal number without leading zeros, at most 255. -/
def octet? (cs : List Char) : Option Nat :=
  if cs.isEmpty || 3 < cs.length || !cs.all Char.isDigit || (cs.head? = some '0' && 1 < cs.length)
  then none
  else
    let n := cs.foldl (fun n c => 10 * n + (c.toNat - 48)) 0
    if n < 256 then some n else none

/-- The two groups that four octets make. -/
def octetGroups? (cs : List Char) : Option (List Nat) :=
  match (Text.splitChars '.' cs).mapM octet? with
  | some [a, b, c, d] => some [256 * a + b, 256 * c + d]
  | _ => none

/-- Groups between colons; the last piece may be four octets. -/
def groups? : List (List Char) → Option (List Nat)
  | [] => some []
  | [piece] => ((group? piece).map ([·])).or (octetGroups? piece)
  | piece :: pieces => do some ((← group? piece) :: (← groups? pieces))

def side? (cs : List Char) : Option (List Nat) :=
  if cs.isEmpty then some [] else groups? (Text.splitChars ':' cs)

/-- What stands before the first double colon and after it. -/
def splitGap : List Char → Option (List Char × List Char)
  | ':' :: ':' :: rest => some ([], rest)
  | c :: rest => (splitGap rest).map fun p => (c :: p.1, p.2)
  | [] => none

/-- The eight groups of an address; a double colon stands for one zero group or more. -/
def address? (s : String) : Option (List Nat) :=
  match splitGap s.toList with
  | none => (side? s.toList).filter (·.length = 8)
  | some (before, after) => do
    let (front, back) := (← side? before, ← side? after)
    if front.length + back.length < 8 && !before.contains '.' then
      some (front ++ List.replicate (8 - front.length - back.length) 0 ++ back)
    else none

def hexText (n : Nat) : String :=
  String.ofList (Nat.toDigits 16 n)

def joined (groups : List Nat) : String :=
  ":".intercalate (groups.map hexText)

/-- The length of the run of zeros at the front. -/
def zeros (groups : List Nat) : Nat :=
  (groups.takeWhile (· = 0)).length

/-- The length of the longest run of zeros. -/
def longestRun : List Nat → Nat
  | [] => 0
  | g :: gs => max (zeros (g :: gs)) (longestRun gs)

/-- The groups before the first run of zeros of a length. -/
def beforeRun (length : Nat) : List Nat → List Nat
  | [] => []
  | g :: gs => if zeros (g :: gs) = length then [] else g :: beforeRun length gs

/-- The first longest run of zeros, if it is longer than one, becomes a double colon; an address
of version 4 within keeps its octets. -/
def addressText (groups : List Nat) : String :=
  match groups with
  | [0, 0, 0, 0, 0, 0xffff, a, b] =>
    "::ffff:" ++ ".".intercalate ([a / 256, a % 256, b / 256, b % 256].map toString)
  | _ =>
    let run := longestRun groups
    if run < 2 then joined groups
    else
      let front := beforeRun run groups
      joined front ++ "::" ++ joined (groups.drop (front.length + run))

/-- A host name or address as it stands in a URL. An address of version 6 stands in brackets. -/
def print (host : String) : String :=
  match address? host with
  | some groups => "[" ++ addressText groups ++ "]"
  | none => host

end ClusterAccess.Http.Host

namespace ClusterAccess.Http.ServerName

def isLabelChar (c : Char) : Bool :=
  Uri.isAlphanumeric c || c = '_' || c = '-'

/-- A label neither starts nor ends with a hyphen. -/
def isLabel (label : List Char) : Bool :=
  !label.isEmpty && label.length ≤ 63 && label.all isLabelChar
    && label.head? ≠ some '-' && label.getLast? ≠ some '-'

/-- A point may end a name. -/
def labels (name : String) : List (List Char) :=
  let pieces := Text.splitChars '.' name.toList
  if 1 < pieces.length && pieces.getLast? = some [] then pieces.dropLast else pieces

/-- The last label is more than a number, so that no name looks like an address. -/
def isName (name : String) : Bool :=
  name.length ≤ 253 && (labels name).all isLabel
    && (labels name).getLast?.any (!·.all Char.isDigit)

def isAddress (name : String) : Bool :=
  (Host.octetGroups? name.toList).isSome || (Host.address? name).isSome

/-- A name of labels between points, or an address. -/
def isValid (name : String) : Bool :=
  isName name || isAddress name

end ClusterAccess.Http.ServerName
