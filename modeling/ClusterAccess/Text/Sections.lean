import ClusterAccess.Text.Pem

namespace ClusterAccess.Pem

def isLineEnd (b : UInt8) : Bool :=
  b.toNat = 10 || b.toNat = 13

/-- The lines of an input, each with its end. -/
def lines : Bytes → Bytes → List Bytes
  | [], [] => []
  | line, [] => [line.reverse]
  | line, b :: rest =>
    if isLineEnd b then (b :: line).reverse :: lines [] rest else lines (b :: line) rest

def isPadding (b : UInt8) : Bool :=
  isLineEnd b || b.toNat = 32

/-- The label of a line that starts a section: five dashes end the line, spaces aside. The outer
answer says whether the line starts with the mark, the inner one whether it ends well. -/
def startLabel? (line : Bytes) : Option (Option Bytes) :=
  let mark := Bytes.ofText "-----BEGIN "
  if mark.isPrefixOf line then
    let tail := line.reverse.takeWhile fun b => isPadding b || b.toNat = 45
    let dashes := (tail.filter (·.toNat = 45)).length
    let trailing := (tail.reverse.dropWhile isPadding).length
    some (if dashes = 5 then some ((line.take (line.length - trailing)).drop mark.length) else none)
  else none

/-- A section goes up to the first line that starts with its end mark. -/
def endMark (label : Bytes) : Bytes :=
  Bytes.ofText "-----END " ++ label ++ Bytes.ofText "-----"

/-- Base64 with white space anywhere and with or without padding, behind which nothing stands. -/
def values? (padded : Bool) : Bytes → Option (List Nat)
  | [] => some []
  | b :: rest =>
    let c := Char.ofNat b.toNat
    if b.toNat = 32 || (9 ≤ b.toNat && b.toNat ≤ 13) then values? padded rest
    else if c = '=' then values? true rest
    else if padded then none
    else do some ((← Base64.value? c) :: (← values? false rest))

/-- The whole bytes in values of six bits. -/
def joinBits : List Nat → Bytes
  | a :: b :: c :: d :: rest =>
    UInt8.ofNat (a * 4 + b / 16) :: UInt8.ofNat (b % 16 * 16 + c / 4) ::
      UInt8.ofNat (c % 4 * 64 + d) :: joinBits rest
  | [a, b, c] => [UInt8.ofNat (a * 4 + b / 16), UInt8.ofNat (b % 16 * 16 + c / 4)]
  | [a, b] => [UInt8.ofNat (a * 4 + b / 16)]
  | _ => []

def decodeSection? (content : Bytes) : Option Bytes :=
  (values? false content).map joinBits

/-- The sections whose labels are known, in their order, unless one is malformed. A section that is
open has its label, and the lines since the last known section are its content. -/
def sections? (known : List String) :
    Option Bytes → Bytes → List Bytes → Option (List Block)
  | none, _, [] => some []
  | some _, _, [] => none
  | label, content, line :: rest =>
    match startLabel? line, label with
    | some none, _ => none
    | some (some label), _ => sections? known (some label) content rest
    | none, none => sections? known none content rest
    | none, some label =>
      if (endMark label).isPrefixOf line then
        match (Bytes.text? label).filter known.contains with
        | none => sections? known none [] rest
        | some name => do
          let block : Block := ⟨name, ← decodeSection? content⟩
          some (block :: (← sections? known none [] rest))
      else sections? known (some label) (content ++ line) rest

end ClusterAccess.Pem
