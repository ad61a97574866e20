import ClusterAccess.Http.Uri
import ClusterAccess.Text.Bytes

namespace ClusterAccess.Http

def isTokenChar (c : Char) : Bool :=
  Uri.isAlphanumeric c || "!#$%&'*+-.^_|~".toList.contains c || c.toNat = 0x60

def isToken (s : String) : Bool :=
  s ≠ "" && s.toList.all isTokenChar

/-- A field with its name in small letters. -/
structure Header where
  name : String
  value : Bytes
deriving DecidableEq, Repr

abbrev Headers := List Header

namespace Header

/-- A value holds no control byte but the tab. -/
def isValueByte (b : UInt8) : Bool :=
  (32 ≤ b.toNat && b.toNat ≠ 127) || b.toNat = 9

def make? (name : String) (value : Bytes) : Option Header :=
  if isToken name && value.all isValueByte then some ⟨Text.lower name, value⟩ else none

/-- A value is readable as text when it is visible ASCII, spaces and tabs. -/
def isTextByte (b : UInt8) : Bool :=
  (32 ≤ b.toNat && b.toNat < 127) || b.toNat = 9

def text? (value : Bytes) : Option String :=
  if value.all isTextByte then some (String.ofList (value.map fun b => Char.ofNat b.toNat))
  else none

end Header

namespace Headers

/-- The first value of a name. -/
def value? (headers : Headers) (name : String) : Option Bytes :=
  (headers.find? (·.name = name)).map (·.value)

end Headers

end ClusterAccess.Http
