import ClusterAccess.Identity.Problem
import ClusterAccess.Kind
import ClusterAccess.Policy
import ClusterAccess.Validation.Request

namespace ClusterAccess

/-- Why a resource type could not be told. -/
inductive MappingError where
  | noMatch (wanted : String)
  | discovery (reason : String)
deriving DecidableEq, Repr

namespace MappingError

def message : MappingError → String
  | noMatch wanted => s!"no matches for {wanted}"
  | discovery reason => s!"discovery failed: {reason}"

def isNoMatch : MappingError → Bool
  | noMatch _ => true
  | discovery _ => false

end MappingError

/-- A failure as the API server states it. -/
structure ApiStatus where
  status : String
  message : String := ""
  reason : String := ""
  code : Nat
deriving DecidableEq, Repr

namespace ApiStatus

def display (s : ApiStatus) : String :=
  let (status, message, reason) := (Text.quote s.status, Text.quote s.message, Text.quote s.reason)
  s!"{s.message}: {s.reason} (ErrorResponse \x7b status: {status}, message: {message}, "
    ++ s!"reason: {reason}, code: {s.code} \x7d)"

end ApiStatus

/-- Parameters that no request is built from. -/
inductive RequestProblem where
  | emptyName
  | versionMatchAlone
  | exactMatchOfZero
  | watchTimeout
  | watchBookmarks
  | createFieldManager
  | patchFieldManager
  | forceWithoutApply
  /-- The parts do not make a well-formed request. -/
  | malformed
deriving DecidableEq, Repr

def RequestProblem.message? : RequestProblem → Option String
  | emptyName => some "A non-empty name is required"
  | versionMatchAlone => some "A resource_version is required when using an explicit match"
  | exactMatchOfZero => some "A non-zero resource_version is required when using an Exact match"
  | watchTimeout => some "WatchParams::timeout must be < 295s"
  | watchBookmarks => some "WatchParams::bookmarks must be set when using send_initial_events"
  | createFieldManager => some "Failed to validate PostParams::field_manager!"
  | patchFieldManager => some "Failed to validate PatchParams::field_manager!"
  | forceWithoutApply => some "PatchParams::force only works with Patch::Apply"
  | malformed => none

/-- Where a connection broke. -/
inductive ConnectionStage where
  | connect
  | sendRequest
deriving DecidableEq, Repr

def ConnectionStage.name : ConnectionStage → String
  | connect => "Connect"
  | sendRequest => "SendRequest"

mutual

inductive Error where
  | configuration (problem : Misconfiguration)
  | denied (kind : GroupVersionKind)
  | validation (cause : ValidationError)
  | mapping (resource : String) (cause : MappingError)
  | scopeMismatch (kind namespaceName : String)
  | transport (cause : TransportError)
  | identityRequired
  | invalidIdentity (problem : IdentityProblem)
  | clusterNotFound (name : String)
  | clusterUnavailable (cluster : String) (cause : Error)
  | closed
  | internal (reason : String)

/-- What a request may come back with in place of a response. -/
inductive TransportError where
  | api (status : ApiStatus)
  /-- A refusal of the gateway itself, on its way through the client. -/
  | gateway (cause : Error)
  | service (reason : String)
  | connection (stage : ConnectionStage)
  /-- The response is not what was asked for. -/
  | decoding
  | notUtf8
  | request (problem : RequestProblem)

end

mutual

def Error.message : Error → String
  | .configuration problem => s!"configuration error: {problem.message}"
  | .denied kind => DenyPolicy.denial kind
  | .validation cause => cause.display
  | .mapping resource cause => s!"failed to resolve kind for {resource}: {cause.message}"
  | .scopeMismatch kind ns =>
    kind ++ " is cluster-scoped and cannot be scoped to namespace " ++ Text.quote ns
  | .transport cause => cause.message
  | .identityRequired => "oauth token required"
  | .invalidIdentity problem => s!"invalid caller identity: {problem.message}"
  | .clusterNotFound name => s!"cluster not found: {name}"
  | .clusterUnavailable cluster cause => s!"cluster {cluster} is unavailable: {cause.message}"
  | .closed => "connection manager is closed"
  | .internal reason => s!"internal error: {reason}"

def TransportError.message : TransportError → String
  | .api status => s!"ApiError: {status.display}"
  | .gateway cause => s!"ServiceError: {cause.message}"
  | .service reason => s!"ServiceError: {reason}"
  | .connection stage => s!"ServiceError: client error ({stage.name})"
  | .decoding => "Error deserializing response"
  | .notUtf8 => "Error converting from UTF-8"
  | .request problem =>
    match problem.message? with
    | some text => s!"Failed to build request: {text}"
    | none => "Failed to build request"

end

namespace Error

def isDenied : Error → Bool
  | denied _ => true
  | _ => false

def validation? : Error → Option ValidationError
  | validation cause => some cause
  | _ => none

/-- The gateway's own refusal inside a transport error. -/
def ofTransport? : TransportError → Option Error
  | .gateway cause => some cause
  | _ => none

/-- A refusal of the gateway stays itself on its way through the client. -/
def lift (cause : TransportError) : Error :=
  (ofTransport? cause).getD (.transport cause)

end Error

end ClusterAccess
