import ClusterAccess.Client.Service
import ClusterAccess.Discovery.Cache
import ClusterAccess.Objects.Shape

namespace ClusterAccess.Discovery

open Shape (optional required)

/-- An entry of a resource list. Group and version stand there when they are not the list's. -/
structure Listed where
  name : String
  singular : String
  namespaced : Bool
  kind : String
  verbs : List String
  group : Option String
  version : Option String
deriving DecidableEq, Repr

/-- The entry's fields, as they are read of its type. -/
def Listed.ofFields? (v : Json) : Option Listed := do
  some {
    name := ← (← v.member? "name").text?
    singular := ← (← v.member? "singularName").text?
    namespaced := ← (← v.member? "namespaced").flag?
    kind := ← (← v.member? "kind").text?
    verbs := ← (← (← v.member? "verbs").items?).mapM Json.text?
    group := (v.member? "group").bind Json.text?
    version := (v.member? "version").bind Json.text? }

def Listed.shape : Shape :=
  .record [optional "categories" (.list .text), optional "group" .text, required "kind" .text,
    required "name" .text, required "namespaced" .flag, optional "shortNames" (.list .text),
    required "singularName" .text, optional "storageVersionHash" .text,
    required "verbs" (.list .text), optional "version" .text]

def Listed.ofJson? (v : Json) : Option Listed :=
  (Listed.shape.read? Json.format v).bind Listed.ofFields?

/-- Group and version of a list; the core group has no name and no slash. -/
def splitGroupVersion (groupVersion : String) : String × String :=
  (Text.splitOnce '/' groupVersion).getD ("", groupVersion)

def Listed.resource (groupVersion : String) (e : Listed) : ResourceType :=
  let (group, version) := splitGroupVersion groupVersion
  { group := e.group.getD group
    version := e.version.getD version
    kind := e.kind
    plural := e.name
    singular := e.singular
    namespaced := e.namespaced
    verbs := e.verbs }

/-- Names with a slash are parts of other resources. -/
def Listed.isWhole (e : Listed) : Bool :=
  !e.name.toList.contains '/'

def addresses : Shape :=
  .list (.record [required "clientCIDR" .text, required "serverAddress" .text])

def groupVersion : Shape :=
  .record [required "groupVersion" .text, required "version" .text]

def coreVersions : Shape :=
  .object "v1" "APIVersions" [
    required "serverAddressByClientCIDRs" addresses, required "versions" (.list .text)]

def group : Shape :=
  .object "v1" "APIGroup" [
    required "name" .text, optional "preferredVersion" groupVersion,
    optional "serverAddressByClientCIDRs" addresses, required "versions" (.list groupVersion)]

def groups : Shape :=
  .object "v1" "APIGroupList" [required "groups" (.list group)]

def list : Shape :=
  .object "v1" "APIResourceList" [
    required "groupVersion" .text, required "resources" (.list Listed.shape)]

def coreVersions? {ν : Type} (f : Format ν) (v : ν) : Option (List String) := do
  (← (← (← coreVersions.read? f v).member? "versions").items?).mapM Json.text?

/-- The groups and versions of a group, which name the group themselves. -/
def versionsOf? (group : Json) : Option (List String) := do
  (← (← group.member? "versions").items?).mapM fun v => do
    (← v.member? "groupVersion").text?

def groups? {ν : Type} (f : Format ν) (v : ν) : Option (List (List String)) := do
  (← (← (← groups.read? f v).member? "groups").items?).mapM versionsOf?

def list? {ν : Type} (f : Format ν) (v : ν) : Option (List Listed) := do
  (← (← (← list.read? f v).member? "resources").items?).mapM Listed.ofFields?

def listTarget (groupVersion : String) : String :=
  if groupVersion.toList.contains '/' then s!"/apis/{groupVersion}" else s!"/api/{groupVersion}"

/-- The types of one group and version, or nothing when their list cannot be had. -/
def listed {σ : Type} (service : Client.Service σ) (groupVersion : String) :
    StateM σ (Option (List ResourceType)) := do
  match ← Client.ask service (Client.decoded list?) (Client.get (listTarget groupVersion)) with
  | .ok entries => return some ((entries.filter Listed.isWhole).map (·.resource groupVersion))
  | .error _ => return none

/-- Answers put in the order of their questions, whatever the order in which they came. -/
def gather (count : Nat) (answers : List (Nat × Option (List ResourceType))) :
    List ResourceType :=
  let slots := answers.foldl (fun acc a => acc.set a.1 a.2) (List.replicate count none)
  (slots.map (·.getD [])).flatten

/-- A list that cannot be had is left out; without the versions there is no answer. -/
def fetch {σ : Type} (service : Client.Service σ) :
    StateM σ (Except MappingError (List ResourceType)) := do
  match ← Client.ask service (Client.decoded coreVersions?) (Client.get "/api") with
  | .error e => return .error (.discovery e.message)
  | .ok core =>
    match ← Client.ask service (Client.decoded groups?) (Client.get "/apis") with
    | .error e => return .error (.discovery e.message)
    | .ok groups =>
      let groupVersions := core ++ groups.flatten
      let answers ← groupVersions.zipIdx.mapM fun (groupVersion, i) => do
        return (i, ← listed service groupVersion)
      return .ok (gather groupVersions.length answers)

end ClusterAccess.Discovery
