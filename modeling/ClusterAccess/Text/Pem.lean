import ClusterAccess.Text.Base64
import ClusterAccess.Text.Pieces

namespace ClusterAccess.Pem

structure Block where
  label : String
  content : Bytes
deriving DecidableEq, Repr

/-- Looks for `wanted`, what is left of the marker, with the bytes already passed in reverse. -/
def scan (marker : Bytes) : Bytes → Bytes → Bytes → Option (Bytes × Bytes)
  | seen, [], rest => some ((seen.drop marker.length).reverse, rest)
  | _, _ :: _, [] => none
  | seen, w :: wanted, b :: rest =>
    if b = w then scan marker (b :: seen) wanted rest else scan marker (b :: seen) marker rest

/-- What stands before a marker and after it. -/
def cutAt? (marker : String) (input : Bytes) : Option (Bytes × Bytes) :=
  scan (Bytes.ofText marker) [] (Bytes.ofText marker) input

def isSpace (b : UInt8) : Bool :=
  b.toNat = 32 || b.toNat = 9 || b.toNat = 10 || b.toNat = 13

/-- A block as it is written: its two labels and what stands between them. -/
structure Raw where
  beginLabel : Bytes
  payload : Bytes
  endLabel : Bytes

/-- The first block and what follows it. -/
def raw? (input : Bytes) : Option (Raw × Bytes) := do
  let (_, rest) ← cutAt? "-----BEGIN " input
  let (beginLabel, rest) ← cutAt? "-----" rest
  let (payload, rest) ← cutAt? "-----END " (rest.dropWhile isSpace)
  let (endLabel, rest) ← cutAt? "-----" rest
  some (⟨beginLabel, payload, endLabel⟩, rest.dropWhile isSpace)

/-- All blocks; every block takes up bytes, so the input's length bounds their number. -/
def raws : Nat → Bytes → List Raw
  | 0, _ => []
  | bound + 1, input =>
    match raw? input with
    | none => []
    | some (block, rest) => block :: raws bound rest

/-- Header lines stand before the first empty line, if there is one. -/
def splitPayload (payload : Bytes) : Bytes × Bytes :=
  match cutAt? "\n\n" payload with
  | some parts => parts
  | none => (cutAt? "\r\n\r\n" payload).getD ([], payload)

def areHeaders (text : String) : Bool :=
  (Text.split '\n' text).all fun line => line = "" || Text.contains ":" line

def Raw.read? (raw : Raw) : Option Block := do
  let label ← Bytes.text? raw.beginLabel
  let (headers, data) := splitPayload raw.payload
  let content ← Base64.decode?
    (String.ofList ((← Bytes.text? data).toList.filter (!Text.isBlank ·)))
  if label ≠ "" && raw.beginLabel = raw.endLabel && areHeaders (← Bytes.text? headers) then
    some ⟨label, content⟩
  else none

/-- The blocks of an input, unless one of them is malformed. -/
def blocks? (input : Bytes) : Option (List Block) :=
  (raws input.length input).mapM Raw.read?

/-- The contents of the blocks with a label. -/
def labelled (label : String) (blocks : List Block) : List Bytes :=
  (blocks.filter (·.label = label)).map Block.content

end ClusterAccess.Pem
