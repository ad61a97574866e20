import ClusterAccess.Handle
import ClusterAccess.Format
import ClusterAccess.Schema.Verdict

namespace ClusterAccess.Lenient

/-- An absent field and one of the wrong type read as empty. -/
def fieldAt (j : Json) (key : String) : Json :=
  (j.member? key).getD .null

def textAt? (j : Json) (key : String) : Option String :=
  (fieldAt j key).text?

def textAt (j : Json) (key : String) : String :=
  (textAt? j key).getD ""

def flagAt (j : Json) (key : String) : Bool :=
  (fieldAt j key).flag?.getD false

def itemsAt (j : Json) (key : String) : List Json :=
  (fieldAt j key).items?.getD []

def textsAt (j : Json) (key : String) : List String :=
  (itemsAt j key).filterMap Json.text?

def numberAt? (j : Json) (key : String) : Option Nat :=
  Json.format.natural? (fieldAt j key)

def kind (j : Json) : GroupVersionKind :=
  ⟨textAt j "group", textAt j "version", textAt j "kind"⟩

def resource (j : Json) : GroupVersionResource :=
  ⟨textAt j "group", textAt j "version", textAt j "resource"⟩

/-- A rule without a kind denies a whole group and version. -/
def rule (j : Json) : DenyRule :=
  ⟨textAt j "group", textAt j "version", textAt j "kind"⟩

def policy (j : Json) : DenyPolicy :=
  ⟨(itemsAt j "rules").map rule⟩

def resourceType (j : Json) : ResourceType where
  group := textAt j "group"
  version := textAt j "version"
  kind := textAt j "kind"
  plural := textAt j "plural"
  singular := textAt j "singular"
  namespaced := flagAt j "namespaced"
  verbs := textsAt j "verbs"

def accessCheck (j : Json) : AccessCheck where
  verb := textAt j "verb"
  group := textAt j "group"
  version := textAt j "version"
  resource := textAt j "resource"
  namespaceName := textAt? j "namespace"
  name := textAt? j "name"
  subresource := textAt? j "subresource"

def schema? (j : Json) : Option ResourceSchema :=
  match j with
  | .obj _ => some ⟨fieldAt j "root", ((fieldAt j "components").members?).getD []⟩
  | _ => none

def writeParams (j : Json) : WriteParams :=
  ⟨flagAt j "dry_run", textAt? j "field_manager"⟩

def listParams (j : Json) : ListParams where
  labels := textAt? j "labels"
  fields := textAt? j "fields"
  limit := numberAt? j "limit"
  continueToken := textAt? j "continue"
  version := textAt? j "resource_version"
  versionMatch := (textAt? j "version_match").map fun m =>
    if m = "exact" then .exact else .notOlderThan

/-- Bookmarks are asked for unless they are declined. -/
def watchParams (j : Json) : WatchParams where
  labels := textAt? j "labels"
  fields := textAt? j "fields"
  timeout := numberAt? j "timeout"
  bookmarks := (fieldAt j "bookmarks").flag?.getD true
  initialEvents := flagAt j "initial_events"

def deleteParams (j : Json) : DeleteParams where
  dryRun := flagAt j "dry_run"
  grace := numberAt? j "grace"
  propagation := (textAt? j "propagation").map fun p =>
    if p = "orphan" then .orphan else if p = "foreground" then .foreground else .background

def patchKind (name : String) : PatchKind :=
  if name = "apply" then .apply else if name = "strategic" then .strategic else .merge

def patchParams (j : Json) : PatchParams :=
  ⟨flagAt j "dry_run", flagAt j "force", textAt? j "field_manager"⟩

/-- The object of a request; data, when given, stands for what is beside its metadata. -/
def manifest (j : Json) : Manifest :=
  let m := (Manifest.ofJson? (fieldAt j "object")).getD {}
  match j.member? "data" with
  | some data => { m with rest := data }
  | none => m

/-- An action that is not named otherwise applies the object. -/
def operation (j : Json) : Operation :=
  let name := textAt j "name"
  match textAt j "action" with
  | "create" => .create (manifest j) (writeParams j)
  | "get" => .get name
  | "list" => .list (listParams j)
  | "watch" => .watch (watchParams j) (textAt j "resource_version")
  | "update" => .update name (manifest j) (writeParams j)
  | "delete" => .delete name (deleteParams j)
  | "delete_collection" => .deleteCollection (deleteParams j) (listParams j)
  | "patch" => .patch name (patchParams j) (patchKind (textAt j "type")) (fieldAt j "patch")
  | _ => .apply name (manifest j) (textAt j "field_manager") (flagAt j "force")

end ClusterAccess.Lenient
