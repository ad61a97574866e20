import ClusterAccess.Misconfiguration

namespace ClusterAccess

inductive BundleHeader where
  | server
  | certificateAuthority
  | authorization
  | clientCertificate
  | clientKey
  | insecure
deriving DecidableEq, Repr

def BundleHeader.name : BundleHeader → String
  | server => "kubernetes-server"
  | certificateAuthority => "kubernetes-certificate-authority-data"
  | authorization => "kubernetes-authorization"
  | clientCertificate => "kubernetes-client-certificate-data"
  | clientKey => "kubernetes-client-key-data"
  | insecure => "kubernetes-insecure-skip-tls-verify"

/-- Why a caller's identity is refused. -/
inductive IdentityProblem where
  | stated (reason : String)
  | missing (header : BundleHeader)
  | notAscii (header : BundleHeader)
  /-- The message ends where the decoder's own words would follow. -/
  | notBase64 (header : BundleHeader)
  | notBearer
  /-- Neither a token nor a certificate with its key. -/
  | noCredentials
  | unusable (problem : ConnectionProblem)
  | notExternal (kind : String)
deriving DecidableEq, Repr

def IdentityProblem.message : IdentityProblem → String
  | stated reason => reason
  | missing header => s!"{header.name} header is required"
  | notAscii header => s!"{header.name} header is not valid ASCII"
  | notBase64 header => s!"{header.name} header is not valid base64"
  | notBearer => s!"{BundleHeader.authorization.name} header must be a bearer token"
  | noCredentials =>
    "either " ++ BundleHeader.authorization.name ++ " or both "
      ++ BundleHeader.clientCertificate.name ++ " and " ++ BundleHeader.clientKey.name
      ++ " headers are required"
  | unusable problem => s!"unusable connection headers: {problem.message}"
  | notExternal kind =>
    s!"auth-headers provider requires kubernetes-* headers, got {kind} identity"

end ClusterAccess
