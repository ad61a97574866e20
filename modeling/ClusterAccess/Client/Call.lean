import ClusterAccess.Client.Parameters
import ClusterAccess.Client.Service
import ClusterAccess.Discovery.Snapshot
import ClusterAccess.Http.Uri
import ClusterAccess.Json.Printer
import ClusterAccess.Objects.Manifest
import ClusterAccess.Text.Pieces

namespace ClusterAccess

/-- The objects of a kind, in one namespace or in none in particular. -/
structure Target where
  mapping : Mapping
  namespaceName : Option String
deriving DecidableEq, Repr

inductive Call where
  | create (params : WriteParams) (object : Manifest)
  | get (name : String)
  | list (params : ListParams)
  | watch (params : WatchParams) (version : String)
  | replace (name : String) (params : WriteParams) (object : Manifest)
  | delete (name : String) (params : DeleteParams)
  | deleteCollection (params : DeleteParams) (selection : ListParams)
  | patch (name : String) (params : PatchParams) (kind : PatchKind) (body : Json)

inductive Reply where
  | object (m : Manifest)
  | list (l : ManifestList)
  | events (events : List (Except TransportError WatchEvent))
  | done

/-- Whoever carries out calls. -/
abbrev Backend (σ : Type) := Target → Call → StateM σ (Except TransportError Reply)

namespace Target

/-- The path of a collection. -/
def path (t : Target) : String :=
  let k := t.mapping.gvk
  let base := if k.group = "" then s!"/api/{k.version}" else s!"/apis/{k.group}/{k.version}"
  match t.namespaceName with
  | none => s!"{base}/{t.mapping.plural}"
  | some ns => s!"{base}/namespaces/{ns}/{t.mapping.plural}"

end Target

def entry (key : String) : Option String → List (String × String)
  | none => []
  | some v => [(key, v)]

def dryRunEntry (dryRun : Bool) : List (String × String) :=
  if dryRun then [("dryRun", "All")] else []

namespace ListParams

/-- With a token to go on from there is no version, and none that is zero beside a limit. -/
def versionEntries (p : ListParams) : List (String × String) :=
  match p.continueToken, p.version with
  | some _, _ => []
  | none, none => []
  | none, some v =>
    if v = "0" ∧ p.limit.isSome then []
    else ("resourceVersion", v) :: entry "resourceVersionMatch" (p.versionMatch.map (·.name))

def entries (p : ListParams) : List (String × String) :=
  entry "fieldSelector" p.fields ++ entry "labelSelector" p.labels ++
    entry "limit" (p.limit.map toString) ++ entry "continue" p.continueToken ++ p.versionEntries

end ListParams

namespace WatchParams

def entries (p : WatchParams) (version : String) : List (String × String) :=
  [("watch", "true"), ("timeoutSeconds", toString (p.timeout.getD 290))] ++
    entry "fieldSelector" p.fields ++ entry "labelSelector" p.labels ++
    (if p.bookmarks then [("allowWatchBookmarks", "true")] else []) ++
    (if p.initialEvents then
      [("sendInitialEvents", "true"), ("resourceVersionMatch", "NotOlderThan")] else []) ++
    [("resourceVersion", version)]

end WatchParams

namespace WriteParams

def entries (p : WriteParams) : List (String × String) :=
  dryRunEntry p.dryRun ++ entry "fieldManager" p.fieldManager

end WriteParams

namespace PatchParams

def entries (p : PatchParams) : List (String × String) :=
  dryRunEntry p.dryRun ++ (if p.force then [("force", "true")] else []) ++
    entry "fieldManager" p.fieldManager

end PatchParams

namespace DeleteParams

def document (p : DeleteParams) : Json :=
  .obj ((if p.dryRun then [("dryRun", .arr [.str "All"])] else []) ++
    (match p.grace with
      | none => []
      | some seconds => [("gracePeriodSeconds", .nat seconds)]) ++
    (match p.propagation with
      | none => []
      | some policy => [("propagationPolicy", .str policy.name)]))

end DeleteParams

namespace Call

def withQuery (path : String) (entries : List (String × String)) : String :=
  path ++ "?" ++ Http.Form.query entries

/-- A request is built only without a problem. -/
def checked (problem : Option RequestProblem) (draft : Client.Draft) : Client.Draft :=
  match problem with
  | some p => .error (.request p)
  | none => draft

def nameProblem? (name : String) : Option RequestProblem :=
  if name = "" then some .emptyName else none

def createProblem? (p : WriteParams) : Option RequestProblem :=
  if managerTooLong p.fieldManager then some .createFieldManager else none

def carrying (method target contentType : String) (body : Json) : Client.Draft :=
  Client.withBody method target contentType (Bytes.ofText body.print)

/-- An object that cannot be written as JSON outweighs every other problem. -/
def writing (problem : Option RequestProblem) (method target : String) (object : Manifest) :
    Client.Draft :=
  match object.toJson? with
  | none => .error .decoding
  | some body => checked problem (carrying method target "application/json" body)

def draft (t : Target) : Call → Client.Draft
  | create params object =>
    writing (createProblem? params) "POST" (withQuery t.path params.entries) object
  | get name => checked (nameProblem? name) (Client.get s!"{t.path}/{name}")
  | list params => checked params.problem? (Client.get (withQuery t.path params.entries))
  | watch params version =>
    checked params.problem? (Client.get (withQuery t.path (params.entries version)))
  | replace name params object =>
    writing (nameProblem? name) "PUT" (withQuery s!"{t.path}/{name}" params.entries) object
  | delete name params =>
    checked (nameProblem? name)
      (carrying "DELETE" (withQuery s!"{t.path}/{name}" []) "application/json" params.document)
  | deleteCollection params selection =>
    let content := if params = {} then [] else Bytes.ofText params.document.print
    checked selection.problem?
      (Client.withBody "DELETE" (withQuery t.path selection.entries) "application/json" content)
  | patch name params kind body =>
    checked ((nameProblem? name).or (params.problem? kind))
      (carrying "PATCH" (withQuery s!"{t.path}/{name}" params.entries) kind.contentType body)

def status? (w : Json.Written) : Option ApiStatus :=
  Client.status? Json.Written.format w

/-- A deletion is answered by a status or by what was deleted. -/
def deletion? (decode : Json.Written → Bool) (w : Json.Written) : Option Reply := do
  let v := (← w.value?).canonical
  if (v.member? "kind").bind Json.text? = some "Status" || decode w then some .done else none

/-- One line of a watch; an empty line tells nothing. -/
def event (line : String) : Option (Except TransportError WatchEvent) :=
  if Text.trim line = "" then none
  else match Json.document? line with
    | none => some (.error .decoding)
    | some w =>
      match WatchEvent.read? Json.Written.format (fun w => (status? w).isSome) w, status? w with
      | some e, _ => some (.ok e)
      | none, some status => some (.error (.api status))
      | none, none => some (.error .decoding)

def events (response : Http.Response) : Except TransportError Reply :=
  match Bytes.text? response.body with
  | none => .error .notUtf8
  | some body => .ok (.events ((Text.split '\n' body).filterMap event))

def read : Call → Http.Response → Except TransportError Reply
  | list _ => Client.decoded fun f w => (ManifestList.read? f w).map .list
  | watch _ _ => events
  | delete _ _ => Client.decoded fun f => deletion? fun w => (Manifest.read? f w).isSome
  | deleteCollection _ _ => Client.decoded fun f => deletion? fun w => (ManifestList.read? f w).isSome
  | _ => Client.decoded fun f w => (Manifest.read? f w).map .object

end Call

namespace Backend

/-- Calls carried out by asking an API server. -/
def ofService {σ : Type} (service : Client.Service σ) : Backend σ := fun target call =>
  Client.ask service call.read (call.draft target)

end Backend

end ClusterAccess
