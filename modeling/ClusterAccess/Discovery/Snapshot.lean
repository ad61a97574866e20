import ClusterAccess.Error
import ClusterAccess.Text.Pieces

namespace ClusterAccess

structure ResourceType where
  group : String
  version : String
  kind : String
  plural : String
  singular : String
  namespaced : Bool
  verbs : List String
deriving DecidableEq, Repr

namespace ResourceType

def gvk (r : ResourceType) : GroupVersionKind :=
  ⟨r.group, r.version, r.kind⟩

/-- A type answers to its plural, and to its singular if it has one. -/
def answersTo (r : ResourceType) (name : String) : Bool :=
  r.plural = name || (r.singular ≠ "" && r.singular = name)

/-- An empty version stands for every version. -/
def isOf (r : ResourceType) (group version : String) : Bool :=
  r.group = group && (version = "" || r.version = version)

end ResourceType

/-- What the gateway needs to know of a kind to address its objects. -/
structure Mapping where
  gvk : GroupVersionKind
  plural : String
  namespaced : Bool
deriving DecidableEq, Repr

def ResourceType.mapping (r : ResourceType) : Mapping :=
  ⟨r.gvk, r.plural, r.namespaced⟩

namespace Discovery

structure Snapshot where
  resources : List ResourceType
deriving DecidableEq, Repr

namespace Snapshot

/-- The first type that fits. The requested name may be written in capitals. -/
def byResource (s : Snapshot) (wanted : GroupVersionResource) : Option ResourceType :=
  let name := Text.lower wanted.resource
  s.resources.find? fun r => r.isOf wanted.group wanted.version && r.answersTo name

def byKind (s : Snapshot) (wanted : GroupVersionKind) : Option ResourceType :=
  s.resources.find? fun r => r.isOf wanted.group wanted.version && r.kind = wanted.kind

def kindFor (s : Snapshot) (wanted : GroupVersionResource) :
    Except MappingError GroupVersionKind :=
  match s.byResource wanted with
  | some r => .ok r.gvk
  | none => .error (.noMatch wanted.display)

/-- How a kind without a mapping is named. -/
def describe (wanted : GroupVersionKind) : String :=
  let name := if wanted.group = "" then wanted.kind else s!"{wanted.kind}.{wanted.group}"
  s!"kind {name} in version " ++ Text.quote wanted.version

def mappingFor (s : Snapshot) (wanted : GroupVersionKind) : Except MappingError Mapping :=
  match s.byKind wanted with
  | some r => .ok r.mapping
  | none => .error (.noMatch (describe wanted))

end Snapshot

end Discovery

/-- Both questions may fail, and answering them may change the state behind them. -/
structure Mapper (σ : Type) where
  kindFor : GroupVersionResource → StateM σ (Except MappingError GroupVersionKind)
  mappingFor : GroupVersionKind → StateM σ (Except MappingError Mapping)

namespace Mapper

/-- Each question is answered from the snapshot that is current when it is asked. -/
def ofSnapshots {σ : Type} (snapshot : StateM σ (Except MappingError Discovery.Snapshot)) :
    Mapper σ where
  kindFor wanted := do return (← snapshot) >>= (·.kindFor wanted)
  mappingFor wanted := do return (← snapshot) >>= (·.mappingFor wanted)

end Mapper

end ClusterAccess
