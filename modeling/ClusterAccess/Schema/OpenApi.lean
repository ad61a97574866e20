import ClusterAccess.Client.Service
import ClusterAccess.Schema.Verdict
import ClusterAccess.Slot

namespace ClusterAccess.Schema

/-- Paths and where their documents are. -/
abbrev Index := List (String × String)

abbrev Components := List (String × Json)

/-- Index and documents, each with the generation in which it was asked for. A generation is a
natural number, where the counter behind it has 64 bits: it is assumed that a cache is never
outdated 2^64 times. -/
structure Cache where
  generation : Nat := 0
  index : Option (Nat × Index) := none
  documents : List (String × Nat × Components) := []

namespace Cache

/-- From now on nothing is current that was asked for before. -/
def outdate (c : Cache) : Cache :=
  { c with generation := c.generation + 1 }

/-- Forgets the documents, current or not. -/
def release (c : Cache) : Cache :=
  { c with documents := [] }

def invalidate (c : Cache) : Cache :=
  c.outdate.release

def indexAt? (c : Cache) (tag : Nat) : Option Index :=
  match c.index with
  | some (t, index) => if t = tag then some index else none
  | none => none

def index? (c : Cache) : Option Index :=
  c.indexAt? c.generation

def document? (c : Cache) (key : String) : Option Components :=
  match c.documents.lookup key with
  | some (tag, components) => if tag = c.generation then some components else none
  | none => none

def keepIndex (c : Cache) (tag : Nat) (index : Index) : Cache :=
  if tag = c.generation then { c with index := some (tag, index) } else c

def keepDocument (c : Cache) (tag : Nat) (key : String) (components : Components) : Cache :=
  if tag = c.generation then
    { c with documents := (key, tag, components) :: c.documents.filter (·.1 ≠ key) }
  else c

end Cache

def documentKey (k : GroupVersionKind) : String :=
  if k.group = "" then s!"api/{k.version}" else s!"apis/{k.group}/{k.version}"

/-- Entries without an address are left out. -/
def indexOf (document : Json) : Index :=
  (((document.member? "paths").bind Json.members?).getD []).filterMap fun (path, entry) =>
    ((entry.member? "serverRelativeURL").bind Json.text?).map (path, ·)

def componentsOf (document : Json) : Components :=
  ((document.at? ["components", "schemas"]).bind Json.members?).getD []

def tagText (name : String) (tag : Json) : Option String :=
  (tag.member? name).bind Json.text?

def isTagOf (k : GroupVersionKind) (tag : Json) : Bool :=
  (tagText "group" tag).getD "" = k.group && tagText "version" tag = some k.version &&
    tagText "kind" tag = some k.kind

/-- The first component that carries the kind among its tags. -/
def rootFor (components : Components) (k : GroupVersionKind) : Option Json :=
  (components.find? fun (_, schema) =>
    (((schema.member? "x-kubernetes-group-version-kind").bind Json.items?).getD []).any
      (isTagOf k)).map (·.2)

section

variable {σ : Type} (slot : Slot σ Cache) (service : Client.Service σ)

def fetchJson (target : String) : StateM σ (Except TransportError Json) :=
  Client.ask service (Client.decoded Format.json?) (Client.get target)

def readIndex : StateM σ (Except TransportError Index) := do
  let cache ← slot.read
  match cache.index? with
  | some index => return .ok index
  | none =>
    match ← fetchJson service "/openapi/v3" with
    | .error e => return .error e
    | .ok document =>
      let index := indexOf document
      slot.update (·.keepIndex cache.generation index)
      return .ok index

def readComponents (key : String) : StateM σ (Except TransportError (Option Components)) := do
  let cache ← slot.read
  match cache.document? key with
  | some components => return .ok (some components)
  | none =>
    match ← readIndex slot service with
    | .error e => return .error e
    | .ok index =>
      match index.lookup key with
      | none => return .ok none
      | some target =>
        match ← fetchJson service target with
        | .error e => return .error e
        | .ok document =>
          let components := componentsOf document
          slot.update (·.keepDocument cache.generation key components)
          return .ok (some components)

/-- A schema that cannot be had counts as not published. -/
def published : Source σ := fun k => do
  match ← readComponents slot service (documentKey k) with
  | .ok (some components) => return (rootFor components k).map (⟨·, components⟩)
  | _ => return none

end

end ClusterAccess.Schema
