import ClusterAccess.Connection.Basic
import ClusterAccess.Host

namespace ClusterAccess

inductive Authorization where
  /-- Requests go out without. -/
  | absent
  | value (text : String)
  /-- A token that expires. Whether a header can hold it shows at each request. -/
  | expiring (token : String)
deriving DecidableEq, Repr

namespace Authorization

def bearer (token : String) : String :=
  s!"Bearer {token}"

def basic (username password : String) : Authorization :=
  value ("Basic " ++ Base64.encode (Bytes.ofText s!"{username}:{password}"))

/-- A cached token counts up to the minute before it expires. -/
def cachedToken? (now : Timestamp) (config : List (String × String)) : Option String := do
  let token ← config.lookup "access-token"
  let expiry ← Timestamp.parse? (← config.lookup "expiry")
  if now.nextMinute.isBefore expiry then some token else none

/-- What a provider has at hand. -/
def ofProvider? (now : Timestamp) (p : Kubeconfig.AuthProvider) : Option Authorization :=
  match p.config.lookup "id-token" with
  | some token => if p.name = "oidc" || p.name = "gcp" then some (value (bearer token)) else none
  | none => if p.name = "gcp" then (cachedToken? now p.config).map expiring else none

/-- A provider comes first, then name and password, token, token file. -/
def ofUser? (host : Host) (u : Kubeconfig.User) : Option Authorization :=
  match u.authProvider, u.username, u.password, u.token, u.tokenFile, u.command with
  | some provider, _, _, _, _, _ => ofProvider? host.now provider
  | none, some username, some password, _, _, _ => some (basic username password)
  | none, _, _, some token, _, _ => some (value (bearer token))
  | none, _, _, none, some file, _ =>
    ((host.files.read? file).bind Bytes.text?).map expiring
  | none, _, _, none, none, some _ => none
  | none, _, _, none, none, none => some absent

end Authorization

end ClusterAccess
