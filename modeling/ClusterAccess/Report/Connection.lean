import ClusterAccess.Connection.Basic
import ClusterAccess.Http.Message
import ClusterAccess.Json.Reader
import ClusterAccess.Report.Wording
import ClusterAccess.Source

namespace ClusterAccess

open Report

/-- Bytes as text where they are text, else as base64. -/
def Bytes.toJson (content : Bytes) : Json :=
  match Bytes.text? content with
  | some s => .str s
  | none => .obj [("b64", .str (Base64.encode content))]

def Report.bytes? (content : Option Bytes) : Json :=
  (content.map Bytes.toJson).getD .null

def Source.toJson (s : Source) : Json :=
  .obj [("in_cluster", .bool s.isInCluster), ("paths", texts s.paths)]

open Kubeconfig (textMember member)

/-- Only the credentials that are set. -/
def Kubeconfig.User.report (u : Kubeconfig.User) : Json :=
  .obj (textMember "username" u.username
    ++ textMember "password" u.password
    ++ textMember "token" u.token
    ++ textMember "token_file" u.tokenFile
    ++ textMember "client_certificate" u.clientCertificate
    ++ textMember "client_certificate_data" u.clientCertificateData
    ++ textMember "client_key" u.clientKey
    ++ textMember "client_key_data" u.clientKeyData
    ++ textMember "impersonate" u.impersonate
    ++ member "impersonate_groups" (u.impersonateGroups.map texts)
    ++ member "auth_provider" (u.authProvider.map AuthProvider.toJson)
    ++ member "exec" (u.command.map CredentialCommand.toJson))

def Connection.toJson (c : Connection) : Json :=
  .obj [
    ("cluster_url", .str c.server.print),
    ("default_namespace", .str c.defaultNamespace),
    ("root_certs", (c.roots.map fun roots => Json.nat roots.length).getD .null),
    ("timeouts", .arr [.nat c.timeouts.connect, .nat c.timeouts.read, .nat c.timeouts.write]),
    ("accept_invalid_certs", .bool c.acceptsInvalid),
    ("tls_server_name", text? c.tlsServerName),
    ("proxy_url", text? (c.proxy.map Http.Uri.print)),
    ("headers", .arr (c.headers.map fun h => texts [h.1, h.2])),
    ("auth", c.credentials.report)]

def HeaderBundle.members (b : HeaderBundle) : List (String × Json) :=
  [("server", .str b.server), ("certificate_authority", b.certificateAuthority.toJson),
    ("token", text? b.token), ("client_certificate", bytes? b.clientCertificate),
    ("client_key", bytes? b.clientKey), ("insecure_skip_tls_verify", .bool b.insecure),
    ("bundle_debug", .str b.redacted)]

def CallerIdentity.members : CallerIdentity → List (String × Json)
  | token t => [("token", .str t)]
  | certificate c k => [("certificate", .str (Base64.encode c)), ("key", .str (Base64.encode k))]
  | external b => b.members

def CallerIdentity.toJson (i : CallerIdentity) : Json :=
  .obj ([("kind", .str i.kind), ("debug", .str i.redacted)] ++ i.members)

namespace Http.Request

/-- A header's value where it is there and readable. -/
def headerMember (r : Request) (key name : String) : List (String × Json) :=
  textMember key ((r.headers.value? name).bind Header.text?)

def groups (r : Request) : List String :=
  (r.headers.filter (·.name = "impersonate-group")).filterMap fun h => Header.text? h.value

/-- A JSON body is shown as what it says. -/
def bodyMember (r : Request) : List (String × Json) :=
  if r.content.isEmpty then []
  else
    match (Bytes.text? r.content).bind Json.parse? with
    | some v => [("body", v)]
    | none => [("body", r.content.toJson)]

def toJson (r : Request) : Json :=
  .obj ([("method", .str r.method), ("uri", .str r.uri.print)]
    ++ r.headerMember "authorization" "authorization"
    ++ r.headerMember "user_agent" "user-agent"
    ++ r.headerMember "impersonate_user" "impersonate-user"
    ++ (if r.groups.isEmpty then [] else [("impersonate_groups", texts r.groups)])
    ++ r.headerMember "content_type" "content-type"
    ++ r.bodyMember)

end Http.Request

end ClusterAccess
