import ClusterAccess.Http.Host
import ClusterAccess.Http.Uri
import ClusterAccess.Identity.Basic
import ClusterAccess.Kubeconfig.Document
import ClusterAccess.Text.Pem

namespace ClusterAccess

/-- Seconds that a connection waits. -/
structure Timeouts where
  connect : Nat := 30
  read : Nat := 295
  write : Nat := 295
deriving DecidableEq, Repr

structure Connection where
  server : Http.Uri
  defaultNamespace : String := "default"
  /-- The trusted certificates; without any list those of the host are trusted. -/
  roots : Option (List Bytes) := none
  timeouts : Timeouts := {}
  acceptsInvalid : Bool := false
  tlsServerName : Option String := none
  proxy : Option Http.Uri := none
  headers : List (String × String) := []
  credentials : Kubeconfig.User := {}
deriving DecidableEq, Repr

namespace Connection

/-- A last line has its end. -/
def endLine (content : Bytes) : Bytes :=
  match content.getLast? with
  | none | some 10 => content
  | some _ => content ++ [10]

/-- Data as base64 comes before a file. -/
def material? (files : Files) (data file : Option String) : Option Bytes :=
  (match data with
    | some encoded => Base64.decode? encoded
    | none => file.bind files.read?).map endLine

def certificates (content : Bytes) : Except ConnectionProblem (List Bytes) :=
  match Pem.blocks? content with
  | none => .error .malformedCertificates
  | some blocks => .ok (Pem.labelled "CERTIFICATE" blocks)

def authorityOf (files : Files) (c : Kubeconfig.Cluster) :
    Except ConnectionProblem (Option Bytes) :=
  if c.authority.isNone && c.authorityData.isNone then .ok none
  else
    match material? files c.authorityData c.authority with
    | none => .error .unreadableAuthority
    | some content => .ok (some content)

def rootsOf (files : Files) (c : Kubeconfig.Cluster) :
    Except ConnectionProblem (Option (List Bytes)) := do
  match ← authorityOf files c with
  | none => return none
  | some content => return some (← certificates content)

def serverOf (c : Kubeconfig.Cluster) : Except ConnectionProblem Http.Uri :=
  match c.server with
  | none => .error .missingServer
  | some text =>
    match Http.Uri.parse? text with
    | none => .error .malformedServer
    | some uri => .ok uri

def proxyOf (c : Kubeconfig.Cluster) : Except ConnectionProblem (Option Http.Uri) :=
  match c.proxyUrl with
  | none | some "" => .ok none
  | some text =>
    match Http.Uri.parse? text with
    | none => .error .malformedProxy
    | some uri => .ok (some uri)

/-- The body of the first user of a name; a user that is absent has no credentials. -/
def userOf (k : Kubeconfig) (name : Option String) : Kubeconfig.User :=
  ((name.bind (Named.find? k.users)).bind Named.body).getD {}

/-- A command that is told about the cluster gets its authority too. -/
def tellCommand (files : Files) (u : Kubeconfig.User) (c : Kubeconfig.Cluster) :
    Except ConnectionProblem Unit :=
  if u.command.any (·.providesCluster) then (authorityOf files c).map fun _ => () else .ok ()

/-- The connection that a context stands for. -/
def ofContext (files : Files) (k : Kubeconfig) (name : String) :
    Except ConnectionProblem Connection :=
  match (Named.find? k.contexts name).bind Named.body with
  | none => .error (.contextWithoutBody name)
  | some context =>
    match (Named.find? k.clusters context.cluster).bind Named.body with
    | none => .error (.unknownCluster context.cluster)
    | some cluster => do
      let credentials := userOf k context.user
      tellCommand files credentials cluster
      return {
        server := ← serverOf cluster
        defaultNamespace := context.namespaceName.getD "default"
        roots := ← rootsOf files cluster
        acceptsInvalid := cluster.insecure.getD false
        tlsServerName := cluster.tlsServerName
        proxy := ← proxyOf cluster
        credentials }

/-- Nothing but a token or a certificate with its key. -/
def credentialsOf (token : Option String) (certificate : Option (Bytes × Bytes)) :
    Kubeconfig.User where
  token
  clientCertificateData := certificate.map fun c => Base64.encode c.1
  clientKeyData := certificate.map fun c => Base64.encode c.2

/-- The certificate of a bundle, when its key is there too. -/
def certificateOf (b : HeaderBundle) : Option (Bytes × Bytes) := do
  some (← b.clientCertificate, ← b.clientKey)

/-- The connection that a caller brings along, under the gateway's user agent. -/
def ofBundle (userAgent : String) (b : HeaderBundle) : Except ConnectionProblem Connection := do
  let cluster : Kubeconfig.Cluster := {
    server := b.server
    authorityData := Base64.encode b.certificateAuthority
    insecure := b.insecure }
  return {
    server := ← serverOf cluster
    roots := ← rootsOf {} cluster
    acceptsInvalid := b.insecure
    headers := [("user-agent", userAgent)]
    credentials := credentialsOf b.token (certificateOf b) }

/-- The same connection with other credentials; nothing of the old ones stays. -/
def withCredentials (base : Connection) (userAgent : String) (credentials : Kubeconfig.User) :
    Connection where
  server := base.server
  defaultNamespace := base.defaultNamespace
  roots := base.roots
  timeouts := base.timeouts
  acceptsInvalid := base.acceptsInvalid
  tlsServerName := base.tlsServerName
  proxy := base.proxy
  headers := [("user-agent", userAgent)]
  credentials

end Connection

end ClusterAccess
