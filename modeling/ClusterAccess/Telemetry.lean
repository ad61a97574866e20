namespace ClusterAccess

structure Telemetry where
  serviceName : String := "kubegate"
  /-- One JSON object a line, else plain text. -/
  json : Bool := true
deriving DecidableEq, Repr

namespace Telemetry

/-- What is logged when the environment does not say. -/
def defaultFilter : String := "info,kubegate=debug,kube=info,tower=warn,hyper=warn"

inductive Error where
  | alreadyInstalled
deriving DecidableEq, Repr

def Error.message : Error → String
  | alreadyInstalled => "failed to initialize tracing subscriber"

/-- The log of a process, given the one it has. It can be set up once. -/
def install (t : Telemetry) : Option Telemetry → Except Error Telemetry
  | none => .ok t
  | some _ => .error .alreadyInstalled

end Telemetry

end ClusterAccess
