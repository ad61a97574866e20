import ClusterAccess.Certificate.Der

namespace ClusterAccess.Certificate

open Der

/-- A certificate's statement, and how it is signed. -/
structure Signed where
  statement : Bytes
  algorithm : Bytes

def signed? (der : Bytes) : Option Signed := do
  let (statement, rest) ← read? sequence (← only? sequence der)
  let (algorithm, rest) ← read? sequence rest
  let _ ← wholeBits? (← only? bitString rest)
  some { statement, algorithm }

/-- Extensions that are understood, by the last part of their identifiers. Each has one value,
except for the first, and occurs once. -/
def knownExtensions : List Nat :=
  [15, 17, 19, 30, 31, 37]

/-- An extension's number, if it is understood; one that is not may not be critical. -/
def extension? (content : Bytes) : Option (Option Nat) := do
  let (id, rest) ← read? identifier content
  let (critical, rest) ← optional? boolean rest
  let value ← only? octetString rest
  let critical ← match critical with
    | none => some false
    | some [0] => some false
    | some [0xff] => some true
    | some _ => none
  match id with
  | [0x55, 0x1d, last] =>
    if knownExtensions.contains last.toNat then
      if last.toNat = 15 || (only? sequence value).isSome then some (some last.toNat) else none
    else if critical then none else some none
  | _ => if critical then none else some none

def isDistinct : List Nat → Bool
  | [] => true
  | n :: ns => !ns.contains n && isDistinct ns

/-- Extensions are the last field, if there are any. -/
def areExtensions (bytes : Bytes) : Bool :=
  bytes.isEmpty || ((do
    let list ← only? sequence (← only? (field 3) bytes)
    let known ← (← readAll? sequence list.length list).mapM extension?
    some (!list.isEmpty && isDistinct (known.filterMap id))) : Option Bool) = some true

/-- Serial number, signature algorithm, issuer, validity, subject and public key, and what follows
them. -/
def fields? (algorithm : Option Bytes) (bytes : Bytes) : Option (Bytes × Bytes) := do
  let (_, rest) ← read? integer bytes
  let (signature, rest) ← read? sequence rest
  let (_, rest) ← read? sequence rest
  let (_, rest) ← read? sequence rest
  let (_, rest) ← read? sequence rest
  let (key, rest) ← read? sequence rest
  if algorithm.all (· = signature) then some (key, rest) else none

/-- The public key of a certificate of the third version, which names its algorithm twice. -/
def publicKey? (der : Bytes) : Option Bytes := do
  let signed ← signed? der
  let (version, rest) ← read? (field 0) signed.statement
  let (key, rest) ← fields? signed.algorithm rest
  if (← natural? (← only? integer version)) = 2 && areExtensions rest then some key else none

/-- A certificate of the first version has no more than the fields. -/
def isFirstVersion (der : Bytes) : Bool :=
  (signed? der).any fun signed => (fields? none signed.statement).any (·.2.isEmpty)

/-- Certificates of the first version can be trusted too. -/
def canBeTrusted (der : Bytes) : Bool :=
  (publicKey? der).isSome || isFirstVersion der

end ClusterAccess.Certificate
