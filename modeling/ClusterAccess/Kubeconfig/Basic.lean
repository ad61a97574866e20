import ClusterAccess.Json.Basic
import ClusterAccess.Misconfiguration

namespace ClusterAccess

/-- An entry of a list by name; its body may be missing. -/
structure Named (α : Type) where
  name : String
  body : Option α := none
deriving Repr

namespace Named

/-- The first entry of a name. -/
def find? {α : Type} (entries : List (Named α)) (name : String) : Option (Named α) :=
  List.find? (·.name = name) entries

def has {α : Type} (entries : List (Named α)) (name : String) : Bool :=
  entries.any (·.name = name)

/-- The entries, and then those of new names. -/
def merge {α : Type} (entries next : List (Named α)) : List (Named α) :=
  entries ++ next.filter (!has entries ·.name)

end Named

abbrev Extensions := List (String × Json)

namespace Kubeconfig

structure Preferences where
  colors : Option Bool := none
  extensions : Option Extensions := none
deriving Repr

structure Cluster where
  server : Option String := none
  insecure : Option Bool := none
  authority : Option String := none
  authorityData : Option String := none
  proxyUrl : Option String := none
  disableCompression : Option Bool := none
  tlsServerName : Option String := none
  extensions : Option Extensions := none
deriving Repr

structure AuthProvider where
  name : String
  config : List (String × String) := []
deriving DecidableEq, Repr

inductive Interaction where
  | never
  | ifAvailable
  | always
deriving DecidableEq, Repr

/-- A command that fetches credentials. -/
structure CredentialCommand where
  apiVersion : Option String := none
  command : Option String := none
  arguments : Option (List String) := none
  environment : Option (List (List (String × String))) := none
  interaction : Option Interaction := none
  providesCluster : Bool := false
deriving DecidableEq, Repr

structure User where
  username : Option String := none
  password : Option String := none
  token : Option String := none
  tokenFile : Option String := none
  clientCertificate : Option String := none
  clientCertificateData : Option String := none
  clientKey : Option String := none
  clientKeyData : Option String := none
  impersonate : Option String := none
  impersonateGroups : Option (List String) := none
  authProvider : Option AuthProvider := none
  command : Option CredentialCommand := none
deriving DecidableEq, Repr

structure Context where
  cluster : String
  user : Option String := none
  namespaceName : Option String := none
  extensions : Option Extensions := none
deriving Repr

end Kubeconfig

structure Kubeconfig where
  preferences : Option Kubeconfig.Preferences := none
  clusters : List (Named Kubeconfig.Cluster) := []
  users : List (Named Kubeconfig.User) := []
  contexts : List (Named Kubeconfig.Context) := []
  currentContext : Option String := none
  extensions : Option Extensions := none
  kind : Option String := none
  apiVersion : Option String := none
deriving Repr

namespace Kubeconfig

/-- Two values that are both there differ. -/
def conflict (a b : Option String) : Bool :=
  a.isSome && b.isSome && a ≠ b

/-- The first kubeconfig's values count; entries of new names are added. -/
def merge (a b : Kubeconfig) : Except ConnectionProblem Kubeconfig :=
  if conflict a.kind b.kind then .error .differentKinds
  else if conflict a.apiVersion b.apiVersion then .error .differentApiVersions
  else .ok {
    preferences := a.preferences.or b.preferences
    clusters := Named.merge a.clusters b.clusters
    users := Named.merge a.users b.users
    contexts := Named.merge a.contexts b.contexts
    currentContext := a.currentContext.or b.currentContext
    extensions := a.extensions.or b.extensions
    kind := a.kind.or b.kind
    apiVersion := a.apiVersion.or b.apiVersion }

/-- The cluster of a context, when both are there. -/
def clusterOf? (k : Kubeconfig) (context : String) : Option String := do
  let cluster := (← (← Named.find? k.contexts context).body).cluster
  if Named.has k.clusters cluster then some cluster else none

def appendNew (names : List String) (name : String) : List String :=
  if names.contains name then names else names ++ [name]

/-- Every cluster that some context leads to, in the order of the contexts. -/
def reachable (k : Kubeconfig) : List String :=
  (k.contexts.filterMap fun c => k.clusterOf? c.name).foldl appendNew []

/-- The context that leads to a cluster: the one set for it, else the first that does. -/
def contextFor (k : Kubeconfig) (overrides : List (String × String)) (cluster : String) :
    Except Misconfiguration String :=
  match overrides.lookup cluster with
  | some context =>
    if Named.has k.contexts context then .ok context
    else .error (.unknownOverride context cluster)
  | none =>
    match k.contexts.find? fun c => k.clusterOf? c.name = some cluster with
    | some c => .ok c.name
    | none => .error (.noContextFor cluster)

end Kubeconfig

end ClusterAccess
