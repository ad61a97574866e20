import ClusterAccess.Certificate.Basic
import ClusterAccess.Certificate.Key
import ClusterAccess.Text.Sections

namespace ClusterAccess.Certificate

open PrivateKey (Form)

def certificateLabel : String :=
  "CERTIFICATE"

/-- The labels of keys, the one that counts first. -/
def keyForms : List (String × Form) :=
  [("PRIVATE KEY", .withAlgorithm), ("RSA PRIVATE KEY", .rsa), ("EC PRIVATE KEY", .curve)]

/-- Sections that are understood, and have no place beside a certificate and its key. -/
def foreignLabels : List String :=
  ["PUBLIC KEY", "X509 CRL", "CERTIFICATE REQUEST", "ECHCONFIG"]

def knownLabels : List String :=
  certificateLabel :: keyForms.map Prod.fst ++ foreignLabels

/-- The public key of the last section of the first form that occurs. -/
def ownPublicKey? (blocks : List Pem.Block) : Option Bytes := do
  let (form, key) ← keyForms.findSome? fun (label, form) =>
    (Pem.labelled label blocks).getLast?.map (form, ·)
  PrivateKey.publicInfo? form key

/-- The first certificate is for the key. -/
def isIdentity (content : Bytes) : Bool :=
  match Pem.sections? knownLabels none [] (Pem.lines [] content) with
  | none => false
  | some blocks =>
    let named := (Pem.labelled certificateLabel blocks).head?.bind publicKey?
    blocks.all (!foreignLabels.contains ·.label) && named.isSome && named = ownPublicKey? blocks

end ClusterAccess.Certificate
