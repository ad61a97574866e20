import ClusterAccess.Connection.Pod

namespace ClusterAccess

/-- What decides where credentials come from. -/
structure Probe where
  inCluster : Bool := false
  kubeconfigVariable : Option String := none
  home : Option String := none
deriving DecidableEq, Repr

def Probe.ofHost (host : Host) : Probe where
  inCluster := Pod.isHere host
  kubeconfigVariable := host.environment.kubeconfig.filter (· ≠ "")
  home := host.environment.home

inductive Source where
  | kubeconfig (paths : List String)
  | inCluster
deriving DecidableEq, Repr

namespace Source

def contextInCluster : String := "in-cluster"

def listed (paths : Option String) : List String :=
  ((paths.map (Text.split ':')).getD []).filter (· ≠ "")

/-- A named file comes first and is refused in a pod. Then come the pod, the files that the
variable lists, and the one in the home directory. -/
def resolve (named : Option String) (probe : Probe) : Except Misconfiguration Source :=
  match named with
  | some path =>
    if probe.inCluster then .error (.kubeconfigInCluster path) else .ok (.kubeconfig [path])
  | none =>
    if probe.inCluster then .ok .inCluster
    else
      match listed probe.kubeconfigVariable, probe.home with
      | path :: paths, _ => .ok (.kubeconfig (path :: paths))
      | [], some home => .ok (.kubeconfig [Path.join (Path.join home ".kube") "config"])
      | [], none => .error .noCredentials

def isInCluster : Source → Bool
  | inCluster => true
  | kubeconfig _ => false

def paths : Source → List String
  | inCluster => []
  | kubeconfig paths => paths

/-- The files that are there, merged in order. -/
def merged (files : Files) : List String → Except ConnectionProblem (Option Kubeconfig)
  | [] => .ok none
  | first :: rest => do
    let k ← Kubeconfig.ofFile files first
    return some (← rest.foldlM (fun k path => do k.merge (← Kubeconfig.ofFile files path)) k)

def read (files : Files) : Source → Except Misconfiguration Kubeconfig
  | inCluster => .error .kubeconfigOfCluster
  | kubeconfig paths =>
    match merged files (paths.filter files.has) with
    | .error problem => .error (.connection problem)
    | .ok none => .error (.unreadableKubeconfig paths)
    | .ok (some k) => .ok k

/-- A connection together with the context that it was made for. -/
structure Loaded where
  context : String
  connection : Connection
deriving Repr

def ofContext (files : Files) (k : Kubeconfig) (context : String) :
    Except Misconfiguration Loaded :=
  if Named.has k.contexts context then
    match Connection.ofContext files k context with
    | .error problem => .error (.connection problem)
    | .ok connection => .ok { context, connection }
  else .error (.unknownContext context)

/-- The connection for a context, or for the current one. -/
def load (host : Host) (source : Source) (context : Option String) :
    Except Misconfiguration Loaded :=
  match source with
  | inCluster =>
    match Pod.connection host with
    | .error problem => .error (.connection problem)
    | .ok connection => .ok { context := contextInCluster, connection }
  | kubeconfig _ => do
    let k ← source.read host.files
    match context.or k.currentContext with
    | none => throw .noCurrentContext
    | some name => ofContext host.files k name

end Source

end ClusterAccess
