import ClusterAccess.Http.Header
import ClusterAccess.Identity.Problem
import ClusterAccess.Text.Base64
import ClusterAccess.Text.Pieces
import ClusterAccess.Text.Quoted

namespace ClusterAccess

/-- The server, its trusted certificates and the credentials that a caller brings along. -/
structure HeaderBundle where
  server : String
  certificateAuthority : Bytes
  token : Option String := none
  clientCertificate : Option Bytes := none
  clientKey : Option Bytes := none
  insecure : Bool := false
deriving DecidableEq, Repr

inductive CallerIdentity where
  | token (token : String)
  | certificate (certificate key : Bytes)
  | external (bundle : HeaderBundle)
deriving DecidableEq, Repr

/-- The token of an authorization value; an empty one is none. -/
def bearerToken? (value : String) : Option String :=
  ((Text.dropLead "Bearer " value).map Text.trim).filter (· ≠ "")

namespace HeaderBundle

/-- A header's first value as text, if the header is there. -/
def field (headers : Http.Headers) (h : BundleHeader) :
    Except IdentityProblem (Option String) :=
  match headers.value? h.name with
  | none => .ok none
  | some value =>
    match Http.Header.text? value with
    | none => .error (.notAscii h)
    | some text => .ok (some text)

def required (headers : Http.Headers) (h : BundleHeader) : Except IdentityProblem String := do
  match ← field headers h with
  | none | some "" => throw (.missing h)
  | some text => return text

def decode (h : BundleHeader) (text : String) : Except IdentityProblem Bytes :=
  match Base64.decode? (Text.trim text) with
  | none => .error (.notBase64 h)
  | some content => .ok content

def data (headers : Http.Headers) (h : BundleHeader) :
    Except IdentityProblem (Option Bytes) := do
  match ← field headers h with
  | none => return none
  | some text => return some (← decode h text)

def bearer (headers : Http.Headers) : Except IdentityProblem (Option String) := do
  match ← field headers .authorization with
  | none => return none
  | some value =>
    match bearerToken? value with
    | none => throw .notBearer
    | some token => return some token

def isTrue (text : String) : Bool :=
  Text.lower (Text.trim text) = "true"

def hasCredentials (b : HeaderBundle) : Bool :=
  b.token.isSome || (b.clientCertificate.isSome && b.clientKey.isSome)

/-- Server and certificate authority are required, and so is a token or a certificate with its
key. -/
def ofHeaders (headers : Http.Headers) : Except IdentityProblem HeaderBundle := do
  let server ← required headers .server
  let authority ← required headers .certificateAuthority
  let bundle : HeaderBundle := {
    server
    certificateAuthority := ← decode .certificateAuthority authority
    token := ← bearer headers
    clientCertificate := ← data headers .clientCertificate
    clientKey := ← data headers .clientKey
    insecure := ((← field headers .insecure).map isTrue).getD false }
  if bundle.hasCredentials then return bundle else throw .noCredentials

def truth (b : Bool) : String :=
  if b then "true" else "false"

def redacted (b : HeaderBundle) : String :=
  "AuthHeaders \x7b server: " ++ Text.quote b.server ++ ", token: "
    ++ (if b.token.isSome then "Some(\"<redacted>\")" else "None")
    ++ ", client_certificate: " ++ truth b.clientCertificate.isSome
    ++ ", insecure_skip_tls_verify: " ++ truth b.insecure ++ " \x7d"

end HeaderBundle

namespace CallerIdentity

def ofBearer? (value : String) : Option CallerIdentity :=
  (bearerToken? value).map .token

/-- A connection that the caller brings along comes before a token. -/
def ofHeaders (headers : Http.Headers) : Except IdentityProblem (Option CallerIdentity) :=
  if (headers.value? BundleHeader.server.name).isSome then
    (HeaderBundle.ofHeaders headers).map (some ∘ external)
  else
    .ok (((headers.value? "authorization").bind Http.Header.text?).bind ofBearer?)

def kind : CallerIdentity → String
  | token _ => "token"
  | certificate _ _ => "client-certificate"
  | external _ => "external"

def redacted (identity : CallerIdentity) : String :=
  "CallerIdentity(" ++ Text.quote identity.kind ++ ")"

end CallerIdentity

end ClusterAccess
