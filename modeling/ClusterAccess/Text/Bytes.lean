namespace ClusterAccess

abbrev Bytes := List UInt8

namespace Bytes

def ofText (s : String) : Bytes :=
  s.toUTF8.data.toList

def text? (bytes : Bytes) : Option String :=
  String.fromUTF8? ⟨bytes.toArray⟩

end Bytes

end ClusterAccess

namespace ClusterAccess.Text

def isHighSurrogate (unit : Nat) : Bool :=
  0xd800 ≤ unit && unit < 0xdc00

def isLowSurrogate (unit : Nat) : Bool :=
  0xdc00 ≤ unit && unit < 0xe000

/-- The character that a pair of surrogates stands for. -/
def ofSurrogates (high low : Nat) : Char :=
  Char.ofNat (0x10000 + (high - 0xd800) * 0x400 + (low - 0xdc00))

/-- The characters of 16-bit units; surrogates stand in pairs. -/
def ofUnits16? : List Nat → Option (List Char)
  | [] => some []
  | [u] => if isHighSurrogate u || isLowSurrogate u then none else some [Char.ofNat u]
  | u :: v :: rest =>
    if isHighSurrogate u then
      if isLowSurrogate v then (ofUnits16? rest).map (ofSurrogates u v :: ·) else none
    else if isLowSurrogate u then none
    else (ofUnits16? (v :: rest)).map (Char.ofNat u :: ·)

/-- Pairs of bytes as units, the low byte first or last. -/
def units16? (lowFirst : Bool) : Bytes → Option (List Nat)
  | [] => some []
  | [_] => none
  | a :: b :: rest =>
    let unit := if lowFirst then a.toNat + 256 * b.toNat else 256 * a.toNat + b.toNat
    (units16? lowFirst rest).map (unit :: ·)

def utf16? (lowFirst : Bool) (content : Bytes) : Option String :=
  ((units16? lowFirst content).bind ofUnits16?).map String.ofList

/-- Behind its byte order mark UTF-16, else UTF-8 with or without a mark. -/
def ofFile? : Bytes → Option String
  | 0xff :: 0xfe :: rest => utf16? true rest
  | 0xfe :: 0xff :: rest => utf16? false rest
  | 0xef :: 0xbb :: 0xbf :: rest => Bytes.text? rest
  | content => Bytes.text? content

end ClusterAccess.Text
