import ClusterAccess.Registry.Basic

namespace ClusterAccess.Registry

inductive Task where
  /-- A lookup that found no answer waits for its turn. -/
  | waiting (cluster : String)
  | building (cluster : String)
  /-- A lookup that found the registry closed. -/
  | refused
  /-- A lookup that was answered after so many new layouts. -/
  | answered (cluster : String) (epoch : Nat) (answer : Except Error Manager)
  /-- A rebuild waits for its turn. -/
  | rebuilding
  | rebuilt

def Task.hasTurn : Task → Bool
  | .building _ => true
  | .waiting _ | .refused | .answered _ _ _ | .rebuilding | .rebuilt => false

/-- A registry and its tasks in the order of their arrival. One task at a time has its turn, to
build a manager or to read the kubeconfig again. -/
structure Tasks where
  registry : Registry
  tasks : List Task := []
  /-- How many layouts have replaced another one. -/
  epoch : Nat := 0
  /-- Every build that was begun, the last one first: the epoch and the cluster. -/
  builds : List (Nat × String) := []

namespace Tasks

inductive Event (σ : Type) where
  | lookup (target : String)
  | rebuild
  /-- A waiting task takes its turn. -/
  | turn (task : Nat)
  /-- The build of a task ends. -/
  | finish (task : Nat)
  | close
  /-- Something else happens, such as a write to a file. -/
  | elsewhere (change : StateM σ Unit)

def busy (s : Tasks) : Bool :=
  s.tasks.any Task.hasTurn

def add (s : Tasks) (t : Task) : Tasks :=
  { s with tasks := s.tasks ++ [t] }

def put (s : Tasks) (i : Nat) (t : Task) : Tasks :=
  { s with tasks := s.tasks.set i t }

/-- A lookup of a cluster, answered at once where an answer is there. -/
def sought (s : Tasks) (cluster : String) (otherwise : Task) : Task :=
  match s.registry.settled? cluster with
  | some answer => .answered cluster s.epoch answer
  | none => otherwise

/-- The layout that a rebuild has read; without one all stays as it is. -/
def relayout (s : Tasks) (layout : Except Misconfiguration Layout) : Tasks :=
  { s with
    registry := s.registry.relayout layout
    epoch := match layout with
      | .ok _ => s.epoch + 1
      | .error _ => s.epoch }

variable {σ : Type} (g : Gateway σ)

/-- One move. An event that does not fit changes nothing. -/
def step (s : Tasks) : Event σ → StateM σ Tasks
  | .lookup target =>
    if s.registry.closed then return s.add .refused
    else
      let cluster := s.registry.resolve target
      return s.add (s.sought cluster (.waiting cluster))
  | .rebuild => do
    if s.registry.closed then return s.add .rebuilt
    else
      s.registry.managers.forM g.invalidate
      return s.add .rebuilding
  | .turn i => do
    if s.busy then return s
    else
      match s.tasks[i]? with
      | some (.waiting cluster) =>
        match s.sought cluster (.building cluster) with
        | .building _ =>
          return { s.put i (.building cluster) with builds := (s.epoch, cluster) :: s.builds }
        | other => return s.put i other
      | some .rebuilding =>
        return (s.relayout (Layout.read (← g.host).files s.registry.source)).put i .rebuilt
      | _ => return s
  | .finish i => do
    match s.tasks[i]? with
    | some (.building cluster) =>
      let built ← s.registry.buildFor g cluster
      return { s.put i (.answered cluster s.epoch (answer cluster built)) with
        registry := s.registry.record cluster built }
    | _ => return s
  | .close => return { s with registry := ← s.registry.close g }
  | .elsewhere change => do
    change
    return s

def run (s : Tasks) (events : List (Event σ)) : StateM σ Tasks :=
  events.foldlM (step g) s

end Tasks

end ClusterAccess.Registry
