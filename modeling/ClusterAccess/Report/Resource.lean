import ClusterAccess.AccessReview
import ClusterAccess.Client.Call
import ClusterAccess.Coordinate
import ClusterAccess.Report.Error

namespace ClusterAccess

open Report

def ResourceType.toJson (r : ResourceType) : Json :=
  .obj [("group", .str r.group), ("version", .str r.version), ("kind", .str r.kind),
    ("plural", .str r.plural), ("singular", .str r.singular), ("namespaced", .bool r.namespaced),
    ("verbs", texts r.verbs)]

def Mapping.toJson (m : Mapping) : Json :=
  .obj [("gvk", m.gvk.toJson), ("namespaced", .bool m.namespaced), ("plural", .str m.plural),
    ("api_version", .str m.gvk.apiVersion)]

def Coordinate.toJson (c : Coordinate) : Json :=
  .obj [("group", .str c.group), ("version", .str c.version), ("resource", .str c.resource),
    ("namespace", text? c.namespaceName), ("name", text? c.name),
    ("subresource", text? c.subresource), ("verb", .str c.verb.name),
    ("mutating", .bool c.isMutating), ("collection", .bool c.isCollection),
    ("gvr", .str c.gvr.display)]

/-- Every part of a check by its name. -/
def AccessCheck.parts (c : AccessCheck) : List (String × Option String) :=
  [("verb", c.verb), ("group", c.group), ("version", c.version), ("resource", c.resource),
    ("namespace", c.namespaceName), ("name", c.name), ("subresource", c.subresource)]

def AccessCheck.toJson (c : AccessCheck) : Json :=
  .obj (c.parts.map fun p => (p.1, text? p.2))

/-- An object that cannot be written shows as null. -/
def Manifest.report (m : Manifest) : Json :=
  m.toJson?.getD .null

def Reply.toJson : Reply → Json
  | object m => m.report
  | list l => l.toJson?.getD .null
  | events es => .obj [("events", .arr (es.map fun
      | .ok event => event.toJson?.getD .null
      | .error cause => cause.toJson))]
  | done => .str "ok"

def Call.name : Call → String
  | create _ _ => "create"
  | get _ => "get"
  | list _ => "list"
  | watch _ _ => "watch"
  | replace _ _ _ => "replace"
  | delete _ _ => "delete"
  | deleteCollection _ _ => "delete_collection"
  | patch _ _ _ _ => "patch"

def Call.objectName : Call → Option String
  | get name | replace name _ _ | delete name _ | patch name _ _ _ => some name
  | create _ _ | list _ | watch _ _ | deleteCollection _ _ => none

def Call.details : Call → List (String × Json)
  | create p o => [("dry_run", .bool p.dryRun), ("field_manager", text? p.fieldManager),
      ("object", o.report)]
  | get _ => []
  | list p => [("labels", text? p.labels), ("fields", text? p.fields), ("limit", number? p.limit)]
  | watch p version => [("labels", text? p.labels), ("version", .str version)]
  | replace _ p o => [("dry_run", .bool p.dryRun), ("object", o.report)]
  | delete _ p => [("dry_run", .bool p.dryRun), ("grace", number? p.grace)]
  | deleteCollection p l => [("dry_run", .bool p.dryRun), ("labels", text? l.labels)]
  | patch _ p kind body => [("patch", .str kind.name), ("body", body), ("force", .bool p.force),
      ("field_manager", text? p.fieldManager), ("dry_run", .bool p.dryRun)]

def Target.toJson (t : Target) : Json :=
  let k := t.mapping.gvk
  .obj [("group", .str k.group), ("version", .str k.version), ("api_version", .str k.apiVersion),
    ("kind", .str k.kind), ("plural", .str t.mapping.plural)]

def Call.toJson (t : Target) (c : Call) : Json :=
  .obj ([("call", .str c.name), ("namespace", text? t.namespaceName), ("resource", t.toJson),
    ("name", text? c.objectName)] ++ c.details)

end ClusterAccess
