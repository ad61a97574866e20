import ClusterAccess.Manager

namespace ClusterAccess

/-- What a kubeconfig says about its clusters. -/
structure Layout where
  kubeconfig : Kubeconfig
  clusters : List String
  defaultCluster : String
  currentContext : String
deriving Repr

namespace Layout

/-- There is a current context, and it leads to a cluster. -/
def ofKubeconfig (k : Kubeconfig) : Except Misconfiguration Layout :=
  match k.currentContext with
  | none => .error .noCurrentContext
  | some context =>
    match k.clusterOf? context with
    | none => .error (.currentWithoutCluster context)
    | some cluster => .ok {
        kubeconfig := k, clusters := k.reachable, defaultCluster := cluster
        currentContext := context }

def read (files : Files) (source : Source) : Except Misconfiguration Layout := do
  ofKubeconfig (← source.read files)

end Layout

inductive ClusterEntry where
  | uninitialized
  | ready (manager : Manager)
  | failed (cause : Error)

/-- The clusters that a kubeconfig leads to. A manager is built when its cluster is first asked for,
and what came of it is kept until the credentials change. -/
structure Registry where
  source : Source
  layout : Layout
  entries : List (String × ClusterEntry)
  closed : Bool := false

namespace Registry

/-- Every cluster of a layout, none of them built. -/
def unbuilt (layout : Layout) : List (String × ClusterEntry) :=
  layout.clusters.map fun cluster => (cluster, .uninitialized)

def ofLayout (source : Source) (layout : Layout) : Registry where
  source
  layout
  entries := unbuilt layout

/-- Without a name the default cluster is meant. -/
def resolve (r : Registry) (target : String) : String :=
  if target = "" then r.layout.defaultCluster else target

def entry? (r : Registry) (cluster : String) : Option ClusterEntry :=
  r.entries.lookup cluster

/-- The default cluster is reached through the current context, unless another one is set. -/
def contextFor (r : Registry) (overrides : List (String × String)) (cluster : String) :
    Except Misconfiguration String :=
  if cluster = r.layout.defaultCluster && (overrides.lookup cluster).isNone then
    .ok r.layout.currentContext
  else r.layout.kubeconfig.contextFor overrides cluster

/-- The answer for a cluster that needs no building. -/
def settled? (r : Registry) (cluster : String) : Option (Except Error Manager) :=
  match r.entry? cluster with
  | none => some (.error (.clusterNotFound cluster))
  | some (.ready m) => some (.ok m)
  | some (.failed cause) => some (.error (.clusterUnavailable cluster cause))
  | some .uninitialized => none

def setEntry (cluster : String) (entry : ClusterEntry) :
    List (String × ClusterEntry) → List (String × ClusterEntry)
  | [] => [(cluster, entry)]
  | (c, e) :: rest =>
    if c = cluster then (c, entry) :: rest else (c, e) :: setEntry cluster entry rest

/-- Keeps what came of building a cluster's manager. -/
def record (r : Registry) (cluster : String) (built : Except Error Manager) : Registry :=
  let entry : ClusterEntry := match built with
    | .ok m => .ready m
    | .error cause => .failed cause
  { r with entries := setEntry cluster entry r.entries }

/-- The answer that goes with what came of building. -/
def answer (cluster : String) : Except Error Manager → Except Error Manager
  | .ok m => .ok m
  | .error cause => .error (.clusterUnavailable cluster cause)

/-- A new layout forgets all entries; when there is none, all stays as it is. -/
def relayout (r : Registry) : Except Misconfiguration Layout → Registry
  | .ok layout => { r with layout, entries := unbuilt layout }
  | .error _ => r

/-- The managers that are ready. -/
def managers (r : Registry) : List Manager :=
  r.entries.filterMap fun
    | (_, .ready m) => some m
    | _ => none

variable {σ : Type} (g : Gateway σ)

def buildFor (r : Registry) (cluster : String) : StateM σ (Except Error Manager) := do
  match r.contextFor g.settings.contexts cluster with
  | .error problem => return .error (.configuration problem)
  | .ok context => g.load r.source (some context)

/-- A cluster's manager, built now unless there is an answer already. -/
def lookup (r : Registry) (target : String) :
    StateM σ (Except Error Manager × Registry) := do
  if r.closed then return (.error .closed, r)
  else
    let cluster := r.resolve target
    match r.settled? cluster with
    | some answer => return (answer, r)
    | none =>
      let built ← r.buildFor g cluster
      return (answer cluster built, r.record cluster built)

/-- The reaction to changed credentials: caches count no longer, and the kubeconfig is read
again. -/
def rebuild (r : Registry) : StateM σ Registry := do
  if r.closed then return r
  else
    r.managers.forM g.invalidate
    return r.relayout (Layout.read (← g.host).files r.source)

/-- Closing closes the managers that are ready; closing again changes nothing. -/
def close (r : Registry) : StateM σ Registry := do
  if r.closed then return r
  else
    r.managers.forM g.close
    return { r with closed := true }

end Registry

end ClusterAccess
