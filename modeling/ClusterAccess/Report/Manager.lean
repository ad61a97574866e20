import ClusterAccess.Provider
import ClusterAccess.Report.Connection
import ClusterAccess.Report.Error

namespace ClusterAccess

open Report

/-- A source as the pod's, or as its files. -/
def Source.report : Option Source → Json
  | none => .null
  | some .inCluster => .str Source.contextInCluster
  | some (.kubeconfig paths) => texts paths

def Gateway.describe {σ : Type} (g : Gateway σ) (m : Manager) : StateM σ Json := do
  let closed ← g.isClosed m
  let ns := m.connection.defaultNamespace
  return .obj [
    ("context", .str m.context), ("default_namespace", .str ns),
    ("source", Source.report m.source), ("validation_enabled", .bool g.validates),
    ("closed", .bool closed), ("connection", m.connection.toJson),
    ("resources_namespace", if closed then Error.closed.toJson else .str ns)]

def ClusterEntry.toJson : ClusterEntry → Json
  | uninitialized => .str "uninitialized"
  | ready m => .obj [("ready", .str m.context)]
  | failed cause => .obj [("failed", cause.toJson)]

namespace Provider

def targetMembers {σ : Type} (p : Provider σ) : List (String × Json) :=
  [("targets", texts p.targets), ("default", .str p.defaultTarget)]

def toJson {σ : Type} (p : Provider σ) : Json :=
  .obj (("strategy", .str p.strategy.name) :: p.targetMembers)

end Provider

end ClusterAccess
