import ClusterAccess.Error
import ClusterAccess.Report.Wording

namespace ClusterAccess

open Report

def GroupVersionKind.toJson (k : GroupVersionKind) : Json :=
  .obj [("group", .str k.group), ("version", .str k.version), ("kind", .str k.kind)]

namespace ValidationError

def members (e : ValidationError) : List (String × Json) :=
  [("code", .str e.code.name), ("field", text? e.field)]

/-- The error without the words in front of its message. -/
def bareJson (e : ValidationError) : Json :=
  .obj (("message", .str (shorten e.message)) :: e.members)

def toJson (e : ValidationError) : Json :=
  .obj [("error", e.bareJson), ("display", .str (shorten e.display))]

end ValidationError

def MappingError.toJson (e : MappingError) : Json :=
  .obj [("error", .str (if e.isNoMatch then "NoMatch" else "Discovery")),
    ("message", .str (shorten e.message))]

def Error.kindName : Error → String
  | .configuration _ => "Configuration"
  | .denied _ => "Denied"
  | .validation _ => "Validation"
  | .mapping _ _ => "Mapping"
  | .scopeMismatch _ _ => "ScopeMismatch"
  | .transport _ => "Transport"
  | .identityRequired => "IdentityRequired"
  | .invalidIdentity _ => "InvalidIdentity"
  | .clusterNotFound _ => "ClusterNotFound"
  | .clusterUnavailable _ _ => "ClusterUnavailable"
  | .closed => "Closed"
  | .internal _ => "Internal"

def TransportError.causeName : TransportError → String
  | .api _ => "Api"
  | .gateway _ => "Service"
  | .service _ => "Service"
  | .connection _ => "Connection"
  | .decoding => "SerdeError"
  | .notUtf8 => "FromUtf8"
  | .request _ => "BuildRequest"

def ApiStatus.members (s : ApiStatus) : List (String × Json) :=
  [("code", .nat s.code), ("status", .str s.status), ("reason", .str s.reason),
    ("message", .str s.message)]

def Error.reportMembers (e : Error) : List (String × Json) :=
  [("error", .str e.kindName), ("message", .str (shorten e.message))]

def TransportError.reportMembers (e : TransportError) : List (String × Json) :=
  [("error", .str "Transport"), ("cause", .str e.causeName)]

mutual

/-- A transport error has no message of its own. -/
def Error.toJson (e : Error) : Json :=
  match e with
  | .transport cause => cause.toJson
  | .denied kind => .obj (e.reportMembers ++ [("gvk", kind.toJson)])
  | .validation cause => .obj (e.reportMembers ++ cause.members)
  | .mapping resource cause =>
    .obj (e.reportMembers ++ [("resource", .str resource), ("no_match", .bool cause.isNoMatch)])
  | .clusterUnavailable _ cause => .obj (e.reportMembers ++ [("source", cause.toJson)])
  | .configuration _ | .scopeMismatch _ _ | .identityRequired | .invalidIdentity _
  | .clusterNotFound _ | .closed | .internal _ => .obj e.reportMembers

def TransportError.toJson (e : TransportError) : Json :=
  match e with
  | .api status => .obj (e.reportMembers ++ status.members)
  | .gateway cause => .obj (e.reportMembers ++ [("gateway", cause.toJson)])
  | .service reason => .obj (e.reportMembers ++ [("message", .str reason)])
  | .request problem =>
    .obj (e.reportMembers ++ (problem.message?.map fun m => ("message", Json.str m)).toList)
  | .connection _ | .decoding | .notUtf8 => .obj e.reportMembers

end

end ClusterAccess
