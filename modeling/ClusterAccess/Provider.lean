import ClusterAccess.Registry.Basic
import ClusterAccess.Watcher

namespace ClusterAccess

/-- What a provider hands managers out from. -/
inductive Clusters where
  | registry (registry : Registry)
  | single (manager : Manager)
  | callers (closed : Bool)

/-- Hands managers out, and watches the files that its credentials come from. -/
structure Provider (σ : Type) where
  strategy : Strategy
  clusters : Clusters
  watcher : Option Watcher := none
  /-- What is run after credentials have changed. -/
  callbacks : List (StateM σ Unit) := []

namespace Provider

variable {σ : Type}

/-- A provider of one cluster knows it by an empty name. -/
def targets (p : Provider σ) : List String :=
  match p.clusters with
  | .registry r => r.layout.clusters
  | .single _ | .callers _ => [""]

def defaultTarget (p : Provider σ) : String :=
  match p.clusters with
  | .registry r => r.layout.defaultCluster
  | .single _ | .callers _ => ""

/-- Without credentials of its own a provider never calls back. -/
def onChange (p : Provider σ) (callback : StateM σ Unit) : Provider σ :=
  match p.clusters with
  | .callers _ => p
  | .registry _ | .single _ => { p with callbacks := p.callbacks ++ [callback] }

variable (g : Gateway σ)

/-- A watcher that has seen the files once; without files there is nothing to watch. -/
def watching (paths : List String) : StateM σ (Option Watcher) := do
  if paths.isEmpty then return none
  else return some ((Watcher.start paths).step (.check (← g.host).files.look))

/-- The provider of all clusters of a kubeconfig. The default cluster's manager is built at
once. -/
def ofKubeconfig : StateM σ (Except Error (Provider σ)) := do
  match g.resolveSource with
  | .error problem => return .error (.configuration problem)
  | .ok .inCluster => return .error (.configuration .kubeconfigStrategyInCluster)
  | .ok source =>
    match Layout.read (← g.host).files source with
    | .error problem => return .error (.configuration problem)
    | .ok layout =>
      match ← (Registry.ofLayout source layout).lookup g "" with
      | (.error e, _) => return .error e
      | (.ok _, registry) =>
        return .ok {
          strategy := .kubeconfig, clusters := .registry registry
          watcher := ← watching g source.paths }

def ofSingle (strategy : Strategy) : StateM σ (Except Error (Provider σ)) := do
  match ← g.start with
  | .error e => return .error e
  | .ok m =>
    return .ok {
      strategy, clusters := .single m
      watcher := ← watching g ((m.source.map Source.paths).getD []) }

/-- In a pod and without a named kubeconfig, the automatic strategy means the pod's cluster. -/
def effective (strategy : Strategy) : Strategy :=
  match strategy with
  | .auto =>
    if g.probe.inCluster && g.settings.kubeconfig.isNone then .inCluster else .kubeconfig
  | strategy => strategy

/-- The provider that the settings ask for. -/
def create : StateM σ (Except Error (Provider σ)) :=
  match effective g g.settings.strategy with
  | .inCluster =>
    if g.probe.inCluster then ofSingle g .inCluster
    else return .error (.configuration .clusterStrategyOutside)
  | .disabled => ofSingle g .disabled
  | .authHeaders => return .ok { strategy := .authHeaders, clusters := .callers false }
  | .kubeconfig | .auto =>
    if g.probe.inCluster then return .error (.configuration .kubeconfigStrategyInCluster)
    else ofKubeconfig g

/-- The manager of a cluster under the gateway's own identity. -/
def manager (p : Provider σ) (target : String) : StateM σ (Except Error Manager × Provider σ) := do
  match p.clusters with
  | .registry r =>
    let (answer, r) ← r.lookup g target
    return (answer, { p with clusters := .registry r })
  | .single m =>
    if target ≠ "" then return (.error (.clusterNotFound target), p)
    else if ← g.isClosed m then return (.error .closed, p)
    else return (.ok m, p)
  | .callers _ => return (.error (.configuration .noSharedManager), p)

/-- The answers to lookups of one cluster that arrive together. Only the first of them can find
the cluster unbuilt. -/
def managers (p : Provider σ) (target : String) :
    Nat → StateM σ (List (Except Error Manager) × Provider σ)
  | 0 => return ([], p)
  | count + 1 => do
    let (first, p) ← p.manager g target
    let (others, p) ← p.managers target count
    return (first :: others, p)

/-- The manager of a caller that must bring its own connection. -/
def callersManager (closed : Bool) (target : String) (identity : Option CallerIdentity) :
    StateM σ (Except Error Manager) :=
  if closed then return .error .closed
  else if target ≠ "" then return .error (.clusterNotFound target)
  else
    match identity with
    | none => return .error .identityRequired
    | some (.external bundle) => g.external bundle
    | some other => return .error (.invalidIdentity (.notExternal other.kind))

/-- The manager of a cluster as a caller. -/
def derived (p : Provider σ) (target : String) (identity : Option CallerIdentity) :
    StateM σ (Except Error Manager × Provider σ) := do
  match p.clusters with
  | .callers closed => return (← callersManager g closed target identity, p)
  | .registry _ | .single _ =>
    match ← p.manager g target with
    | (.error e, p) => return (.error e, p)
    | (.ok m, p) => return (← g.derive m identity, p)

/-- The reaction to changed credentials. The callbacks run last, in the order in which they
came. -/
def credentialsChanged (p : Provider σ) : StateM σ (Provider σ) := do
  match p.clusters with
  | .registry r =>
    if r.closed then return p
    else
      let p := { p with clusters := .registry (← r.rebuild g) }
      p.callbacks.forM id
      return p
  | .single m =>
    g.invalidate m
    p.callbacks.forM id
    return p
  | .callers _ => return p

/-- What happens once the files stay as they are now. -/
def settle (p : Provider σ) : StateM σ (Provider σ) := do
  match p.watcher with
  | none => return p
  | some w =>
    let after := w.settle (← g.host).files.look
    let p := { p with watcher := some after }
    if after.callbacks = w.callbacks then return p else p.credentialsChanged g

def close (p : Provider σ) : StateM σ (Provider σ) := do
  let p := { p with watcher := p.watcher.map (Watcher.step · .close) }
  match p.clusters with
  | .registry r => return { p with clusters := .registry (← r.close g) }
  | .single m =>
    g.close m
    return p
  | .callers _ => return { p with clusters := .callers true }

end Provider

end ClusterAccess
