import ClusterAccess.Certificate.Identity
import ClusterAccess.Client.Service
import ClusterAccess.Connection.Authorization
import ClusterAccess.Http.Host

namespace ClusterAccess.Connection

/-- What goes with every request, or why none is sent. -/
abbrev Signature := Except TransportError Http.Headers

/-- The key and the certificate, if both can be had. -/
def keyPair? (files : Files) (u : Kubeconfig.User) : Option Bytes := do
  let key ← material? files u.clientKeyData u.clientKey
  let certificate ← material? files u.clientCertificateData u.clientCertificate
  some (key ++ certificate)

/-- Trusted certificates, a key pair and the server's name are what they should be, as far as they
are given. -/
def isSecured (files : Files) (c : Connection) : Bool :=
  (c.roots.getD []).all Certificate.canBeTrusted
    && (keyPair? files c.credentials).all Certificate.isIdentity
    && c.tlsServerName.all Http.ServerName.isValid

/-- Headers of the users and groups that a user acts as, and those of the connection. -/
def extraHeaders (c : Connection) : List (String × String) :=
  (c.credentials.impersonate.map ("impersonate-user", ·)).toList
    ++ (c.credentials.impersonateGroups.getD []).map ("impersonate-group", ·)
    ++ c.headers

def header? (name value : String) : Option Http.Header :=
  Http.Header.make? name (Bytes.ofText value)

/-- The headers that a way to authorize gives. -/
def authorize : Authorization → Signature
  | .absent => .ok []
  | .value text => .ok (header? "authorization" text).toList
  | .expiring token =>
    match header? "authorization" (Authorization.bearer token) with
    | some header => .ok [header]
    | none => .error (.service "invalid bearer token: failed to parse header value")

/-- The headers that every request of the connection carries, if a client can be built. -/
def signature (host : Host) (c : Connection) : Except Misconfiguration Signature :=
  match Authorization.ofUser? host c.credentials,
    c.extraHeaders.mapM fun h => header? h.1 h.2 with
  | some authorization, some extra =>
    if c.isSecured host.files then .ok ((authorize authorization).map (· ++ extra))
    else .error .unusableConnection
  | _, _ => .error .unusableConnection

/-- A path behind the path of the server. -/
def address (server target : Http.Uri) : Http.Uri :=
  { server with
    path := String.ofList (server.path.toList.reverse.dropWhile (· = '/')).reverse ++ target.path
    query := target.query }

/-- A request as it goes out. -/
def outgoing (c : Connection) (signature : Signature) (r : Http.Request) : Client.Draft := do
  return { r with uri := address c.server r.uri, headers := r.headers ++ (← signature) }

end ClusterAccess.Connection
