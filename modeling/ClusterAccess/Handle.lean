import ClusterAccess.AccessReview
import ClusterAccess.Client.Call
import ClusterAccess.Coordinate
import ClusterAccess.Discovery.Snapshot

namespace ClusterAccess

/-- What handles are made from. -/
structure AccessClient (σ : Type) where
  backend : Backend σ
  mapper : Mapper σ
  reviewer : Reviewer σ
  policy : DenyPolicy
  defaultNamespace : String

/-- The kind that was asked for, and how its objects are addressed. -/
structure Binding where
  kind : GroupVersionKind
  mapping : Mapping
deriving DecidableEq, Repr

inductive Refusal where
  | unmapped (resource : String) (cause : MappingError)
  | denied (kind : GroupVersionKind)
deriving DecidableEq, Repr

def Refusal.toError : Refusal → Error
  | unmapped resource cause => .mapping resource cause
  | denied kind => .denied kind

/-- An empty namespace is no namespace. -/
structure Handle where
  binding : Except Refusal Binding
  namespaceName : String := ""

inductive Operation where
  | create (object : Manifest) (params : WriteParams)
  | get (name : String)
  | list (params : ListParams)
  | watch (params : WatchParams) (version : String)
  | update (name : String) (object : Manifest) (params : WriteParams)
  | delete (name : String) (params : DeleteParams)
  | deleteCollection (params : DeleteParams) (selection : ListParams)
  | patch (name : String) (params : PatchParams) (kind : PatchKind) (body : Json)
  | apply (name : String) (object : Manifest) (fieldManager : String) (force : Bool)

namespace Operation

/-- The verb of an operation on a collection as a whole. -/
def collectionVerb? : Operation → Option Verb
  | list _ => some .list
  | watch _ _ => some .watch
  | deleteCollection _ _ => some .deleteCollection
  | _ => none

/-- The namespace that the operation's object names, where it may choose one. -/
def objectNamespace : Operation → Option String
  | create object _ => object.namespaceName
  | apply _ object _ _ => object.namespaceName
  | _ => none

/-- What the operation asks of the backend. The message on an object that cannot be encoded ends
where the encoder's own words would follow. -/
def call : Operation → Except Error Call
  | create object params => .ok (.create params object)
  | get name => .ok (.get name)
  | list params => .ok (.list params)
  | watch params version => .ok (.watch params version)
  | update name object params => .ok (.replace name params object)
  | delete name params => .ok (.delete name params)
  | deleteCollection params selection => .ok (.deleteCollection params selection)
  | patch name params kind body => .ok (.patch name params kind body)
  | apply name object fieldManager force =>
    match object.toJson? with
    | some body => .ok (.patch name ⟨false, force, some fieldManager⟩ .apply body)
    | none => .error (.internal "failed to encode apply body")

end Operation

namespace AccessClient

variable {σ : Type}

def bind (c : AccessClient σ) (wanted : GroupVersionResource) :
    StateM σ (Except Refusal Binding) := do
  match ← c.mapper.kindFor wanted with
  | .error cause => return .error (.unmapped wanted.display cause)
  | .ok kind =>
    if c.policy.denies kind then return .error (.denied kind)
    else match ← c.mapper.mappingFor kind with
      | .error cause => return .error (.unmapped wanted.display cause)
      | .ok mapping => return .ok { kind, mapping }

def handle (c : AccessClient σ) (wanted : GroupVersionResource) : StateM σ Handle := do
  return { binding := ← c.bind wanted }

/-- Whether an operation may span all namespaces; a review that fails says no. -/
def spansNamespaces (c : AccessClient σ) (b : Binding) (verb : Verb) : StateM σ Bool := do
  match ← c.reviewer ⟨verb.name, b.kind.group, "", b.mapping.plural, none, none, none⟩ with
  | .ok allowed => return allowed
  | .error _ => return false

end AccessClient

namespace Handle

variable {σ : Type}

/-- The handle on the same resource in another namespace. -/
def inNamespace (h : Handle) (ns : String) : Handle :=
  { h with namespaceName := ns }

/-- A handle whose resource cannot be told or is denied refuses every operation, and asks nobody. -/
def bound (h : Handle) : Except Error Binding :=
  match h.binding with
  | .ok b => .ok b
  | .error refusal => .error refusal.toError

def kind (h : Handle) : Except Error GroupVersionKind :=
  h.bound.map (·.kind)

/-- A cluster-wide kind takes no namespace from the handle. -/
def clusterTarget (h : Handle) (b : Binding) : Except Error Target :=
  if h.namespaceName = "" then .ok ⟨b.mapping, none⟩
  else .error (.scopeMismatch b.kind.kind h.namespaceName)

def firstNamed (choices : List String) (fallback : String) : String :=
  (choices.find? (· ≠ "")).getD fallback

/-- Where an operation on one object goes: the handle's namespace, else the object's, else the
client's. -/
def objectTarget (c : AccessClient σ) (h : Handle) (objectNamespace : Option String)
    (b : Binding) : Except Error Target :=
  if b.mapping.namespaced then
    let ns := firstNamed [h.namespaceName, objectNamespace.getD ""] c.defaultNamespace
    .ok ⟨b.mapping, some ns⟩
  else h.clusterTarget b

/-- Where an operation on a collection goes: the handle's namespace, else all of them if that is
allowed, else the client's. -/
def collectionTarget (c : AccessClient σ) (h : Handle) (verb : Verb) (b : Binding) :
    StateM σ (Except Error Target) := do
  if b.mapping.namespaced then
    if h.namespaceName ≠ "" then return .ok ⟨b.mapping, some h.namespaceName⟩
    else if ← c.spansNamespaces b verb then return .ok ⟨b.mapping, none⟩
    else return .ok ⟨b.mapping, some c.defaultNamespace⟩
  else return h.clusterTarget b

def target (c : AccessClient σ) (h : Handle) (op : Operation) :
    StateM σ (Except Error Target) := do
  match h.bound with
  | .error e => return .error e
  | .ok b =>
    match op.collectionVerb? with
    | some verb => h.collectionTarget c verb b
    | none => return h.objectTarget c op.objectNamespace b

def run (c : AccessClient σ) (h : Handle) (op : Operation) : StateM σ (Except Error Reply) := do
  match ← h.target c op with
  | .error e => return .error e
  | .ok target =>
    match op.call with
    | .error e => return .error e
    | .ok call =>
      match ← c.backend target call with
      | .error e => return .error (Error.lift e)
      | .ok reply => return .ok reply

end Handle

end ClusterAccess
