import ClusterAccess.Text.Bytes

namespace ClusterAccess.Der

def boolean : Nat := 0x01

def integer : Nat := 0x02

def bitString : Nat := 0x03

def octetString : Nat := 0x04

def identifier : Nat := 0x06

def sequence : Nat := 0x30

/-- The tag of a field with a number. -/
def field (number : Nat) : Nat :=
  0xa0 + number

/-- A length of one to three bytes. -/
def length? : Bytes → Option (Nat × Bytes)
  | [] => none
  | a :: rest =>
    let n := a.toNat
    if n < 0x80 then some (n, rest)
    else
      match rest with
      | b :: c :: rest =>
        if n = 0x81 then if 0x80 ≤ b.toNat then some (b.toNat, c :: rest) else none
        else if n = 0x82 then
          let m := 256 * b.toNat + c.toNat
          if 0x100 ≤ m && m < 0xffff then some (m, rest) else none
        else none
      | _ => none

/-- The content of a value with a tag, and what follows it. -/
def read? (tag : Nat) : Bytes → Option (Bytes × Bytes)
  | [] => none
  | t :: rest => do
    let (length, rest) ← length? rest
    if t.toNat = tag && length ≤ rest.length then some (rest.take length, rest.drop length)
    else none

/-- The content of the only value. -/
def only? (tag : Nat) (bytes : Bytes) : Option Bytes :=
  match read? tag bytes with
  | some (content, []) => some content
  | _ => none

/-- A value that may be left out. -/
def optional? (tag : Nat) (bytes : Bytes) : Option (Option Bytes × Bytes) :=
  match bytes with
  | t :: _ => if t.toNat = tag then (read? tag bytes).map fun p => (some p.1, p.2)
    else some (none, bytes)
  | [] => some (none, [])

/-- The contents of values with one tag; every value takes up bytes. -/
def readAll? (tag : Nat) : Nat → Bytes → Option (List Bytes)
  | _, [] => some []
  | 0, _ => none
  | bound + 1, bytes => do
    let (content, rest) ← read? tag bytes
    some (content :: (← readAll? tag bound rest))

/-- A number, the highest byte first. -/
def number (bytes : Bytes) : Nat :=
  bytes.foldl (fun n b => 256 * n + b.toNat) 0

/-- A number that is not negative, in as few bytes as can be. -/
def natural? : Bytes → Option Nat
  | [] => none
  | [a] => if a.toNat < 0x80 then some a.toNat else none
  | a :: b :: rest =>
    if 0x80 ≤ a.toNat || (a.toNat = 0 && b.toNat < 0x80) then none
    else some (number (a :: b :: rest))

def readNatural? (bytes : Bytes) : Option (Nat × Bytes) := do
  let (content, rest) ← read? integer bytes
  some (← natural? content, rest)

/-- Whole bytes of bits. -/
def wholeBits? : Bytes → Option Bytes
  | 0 :: rest => some rest
  | _ => none

/-- A number in so many bytes. -/
def fixed : Nat → Nat → Bytes
  | 0, _ => []
  | width + 1, n => fixed width (n / 256) ++ [UInt8.ofNat (n % 256)]

def write (tag : Nat) (content : Bytes) : Bytes :=
  let n := content.length
  UInt8.ofNat tag ::
    (if n < 0x80 then [UInt8.ofNat n]
      else if n < 0x100 then [0x81, UInt8.ofNat n]
      else [0x82, UInt8.ofNat (n / 256), UInt8.ofNat (n % 256)]) ++ content

def writeNatural (n : Nat) : Bytes :=
  write integer (fixed (n.log2 / 8 + 1) n |> fun bytes =>
    if bytes.head?.any (0x80 ≤ ·.toNat) then 0 :: bytes else bytes)

end ClusterAccess.Der
