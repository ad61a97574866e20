import ClusterAccess.Certificate.Curve
import ClusterAccess.Certificate.Edwards

namespace ClusterAccess.PrivateKey

open Der

/-- The ways in which a key is written down: with its algorithm, or in a form of its own. -/
inductive Form where
  | withAlgorithm
  | rsa
  | curve
deriving DecidableEq, Repr

def rsaAlgorithm : Bytes :=
  write identifier [0x2a, 0x86, 0x48, 0x86, 0xf7, 0x0d, 0x01, 0x01, 0x01] ++ [0x05, 0x00]

def curveAlgorithm (c : Curve) : Bytes :=
  write identifier [0x2a, 0x86, 0x48, 0xce, 0x3d, 0x02, 0x01] ++ write identifier c.identifier

def edwardsAlgorithm : Bytes :=
  write identifier [0x2b, 0x65, 0x70]

/-- A public key as it stands in a certificate. -/
def publicInfo (algorithm bits : Bytes) : Bytes :=
  write sequence algorithm ++ write bitString (0 :: bits)

/-- A key behind its algorithm, and the public key if it is there. -/
structure Wrapped where
  algorithm : Bytes
  key : Bytes
  publicKey : Option Bytes

/-- Attributes may stand between the keys; the second version has a public key. -/
def unwrap? (der : Bytes) : Option Wrapped := do
  let (version, rest) ← readNatural? (← read? sequence der).1
  let (algorithm, rest) ← read? sequence rest
  let (key, rest) ← read? octetString rest
  let (_, rest) ← optional? (field 0) rest
  let (publicKey, _) ← if version = 1 then optional? 0x81 rest else some (none, rest)
  if version ≤ 1 then some { algorithm, key, publicKey } else none

/-- A key, the curve if it is named, and the public key if it is there. Both belong to the key. -/
def ofCurve? (c : Curve) (content : Bytes) : Option Bytes := do
  let (version, rest) ← readNatural? content
  let (secret, rest) ← read? octetString rest
  let (named, rest) ← optional? (field 0) rest
  let (written, rest) ← optional? (field 1) rest
  let expected ← c.publicKey? (number secret)
  let belongs ← match written with
    | none => some true
    | some value => do
      let point ← wholeBits? (← only? bitString value)
      some ([expected.whole, expected.short, expected.mixed].contains point)
  if version = 1 && named.all (· = write identifier c.identifier) && belongs && rest.isEmpty then
    some (publicInfo (curveAlgorithm c) expected.whole)
  else none

/-- So many numbers and nothing else. -/
def naturals? : Nat → Bytes → Option (List Nat)
  | 0, rest => if rest.isEmpty then some [] else none
  | count + 1, rest => do
    let (n, rest) ← readNatural? rest
    some (n :: (← naturals? count rest))

def width (n : Nat) : Nat :=
  if n = 0 then 0 else n.log2 + 1

/-- The numbers of a key. -/
structure Rsa where
  modulus : Nat
  exponent : Nat
  secret : Nat
  p : Nat
  q : Nat
  secretP : Nat
  secretQ : Nat
  coefficient : Nat

def Rsa.ofNumbers? : List Nat → Option Rsa
  | [0, modulus, exponent, secret, p, q, secretP, secretQ, coefficient] =>
    some { modulus, exponent, secret, p, q, secretP, secretQ, coefficient }
  | _ => none

def inverts (a b modulus : Nat) : Bool :=
  a * b % modulus = 1 % modulus

/-- A modulus of 2048 to 8192 bits and an odd exponent of at most 33, whose inverses the secrets
are. -/
def Rsa.isSound (k : Rsa) : Bool :=
  2048 ≤ width k.modulus && width k.modulus ≤ 8192
    && k.exponent % 2 = 1 && 1 < k.exponent && width k.exponent ≤ 33
    && 1 < k.p && 1 < k.q && k.p * k.q = k.modulus && k.secret < k.modulus
    && inverts k.exponent k.secret (k.p - 1) && inverts k.exponent k.secret (k.q - 1)
    && k.secretP < k.p && inverts k.exponent k.secretP (k.p - 1)
    && k.secretQ < k.q && inverts k.exponent k.secretQ (k.q - 1)
    && k.coefficient < k.p && inverts k.coefficient k.q k.p

def ofRsa? (content : Bytes) : Option Bytes := do
  let key ← Rsa.ofNumbers? (← naturals? 9 content)
  if key.isSound then
    some (publicInfo rsaAlgorithm
      (write sequence (writeNatural key.modulus ++ writeNatural key.exponent)))
  else none

def curves : List Curve :=
  [.p256, .p384, .p521]

/-- A key of 32 bytes, to which the public key belongs. -/
def ofEdwards? (wrapped : Wrapped) : Option Bytes := do
  let point ← Edwards.publicKey? (← only? octetString wrapped.key)
  if wrapped.publicKey.all (· = 0 :: point) then some (publicInfo edwardsAlgorithm point) else none

/-- No other key has its public key beside it. -/
def ofWrapped? (wrapped : Wrapped) : Option Bytes :=
  if wrapped.algorithm = edwardsAlgorithm then ofEdwards? wrapped
  else if wrapped.publicKey.isSome then none
  else if wrapped.algorithm = rsaAlgorithm then (only? sequence wrapped.key).bind ofRsa?
  else do
    let c ← curves.find? fun c => curveAlgorithm c = wrapped.algorithm
    ofCurve? c (← only? sequence wrapped.key)

/-- A key on a curve in its own form, or with its algorithm after all. -/
def ofCurveForm? (der : Bytes) : Option Bytes :=
  match unwrap? der with
  | some wrapped =>
    if curves.any fun c => curveAlgorithm c = wrapped.algorithm then ofWrapped? wrapped else none
  | none => do
    let (content, _) ← read? sequence der
    curves.findSome? (ofCurve? · content)

/-- The public key that belongs to a private one, as a certificate names it. What follows a key in
its bytes is not looked at. -/
def publicInfo? (form : Form) (der : Bytes) : Option Bytes :=
  match form with
  | .rsa => do ofRsa? (← read? sequence der).1
  | .curve => ofCurveForm? der
  | .withAlgorithm => (unwrap? der).bind ofWrapped?

end ClusterAccess.PrivateKey
