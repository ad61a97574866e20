import ClusterAccess.AccessReview
import ClusterAccess.Discovery.Snapshot
import ClusterAccess.Schema.Verdict

namespace ClusterAccess

structure Validator (σ : Type) where
  name : String
  validate : ValidationRequest → StateM σ (Except ValidationError Unit)

namespace Validator

/-- Refuses a kind that the cluster does not serve. When that cannot be told, the server will
tell. -/
def resource {σ : Type} (mapper : Mapper σ) : Validator σ where
  name := "resource"
  validate r := do
    match ← mapper.mappingFor r.kind with
    | .error (.noMatch _) =>
      return .error (ValidationError.resourceNotFound r.kind.apiVersion r.kind.kind)
    | _ => return .ok ()

def schema {σ : Type} (source : Schema.Source σ) : Validator σ where
  name := "schema"
  validate := Schema.validate source

/-- The check that describes a request. -/
def accessCheck (c : Coordinate) : AccessCheck where
  verb := c.verb.name
  group := c.group
  version := c.version
  resource := c.resource
  namespaceName := c.namespaceName
  name := c.name
  subresource := c.subresource

/-- Refuses what the caller may not do. A review that fails refuses nothing. -/
def authorization {σ : Type} (reviewer : Reviewer σ) : Validator σ where
  name := "authorization"
  validate r := do
    let c := r.coordinate
    match ← reviewer (accessCheck c) with
    | .ok false => return .error (ValidationError.forbidden c.verb.name c.resource c.namespaceName)
    | _ => return .ok ()

end Validator

/-- Validators are asked in order up to the first that refuses. -/
structure Chain (σ : Type) where
  validators : List (Validator σ)

/-- A list of names as debug texts show it. -/
def showNames (names : List String) : String :=
  "[" ++ ", ".intercalate (names.map Text.quote) ++ "]"

namespace Chain

def names {σ : Type} (chain : Chain σ) : List String :=
  chain.validators.map (·.name)

def isEmpty {σ : Type} (chain : Chain σ) : Bool :=
  chain.validators.isEmpty

def validateAll {σ : Type} (r : ValidationRequest) :
    List (Validator σ) → StateM σ (Except ValidationError Unit)
  | [] => return .ok ()
  | v :: rest => do
    match ← v.validate r with
    | .error e => return .error e
    | .ok () => validateAll r rest

def validate {σ : Type} (chain : Chain σ) (r : ValidationRequest) :
    StateM σ (Except ValidationError Unit) :=
  validateAll r chain.validators

def display {σ : Type} (chain : Chain σ) : String :=
  "ValidatorChain \x7b validators: " ++ showNames chain.names ++ " \x7d"

end Chain

/-- What validators ask. -/
structure Collaborators (σ : Type) where
  mapper : Mapper σ
  schemas : Schema.Source σ
  reviewer : Reviewer σ

/-- A name and how its validator is made. -/
structure Registration (σ : Type) where
  name : String
  make : Collaborators σ → Validator σ

/-- Registrations in order; their names are distinct. -/
structure ValidatorRegistry (σ : Type) where
  registrations : List (Registration σ)
  distinct : (registrations.map (·.name)).Nodup

namespace ValidatorRegistry

variable {σ : Type}

def names (r : ValidatorRegistry σ) : List String :=
  r.registrations.map (·.name)

def empty : ValidatorRegistry σ where
  registrations := []
  distinct := List.nodup_nil

def register (r : ValidatorRegistry σ) (new : Registration σ) :
    Except Error (ValidatorRegistry σ) :=
  if h : new.name ∈ r.registrations.map (·.name) then
    .error (.configuration (.duplicateValidator new.name))
  else
    .ok {
      registrations := r.registrations ++ [new]
      distinct := by
        simp only [List.map_append, List.map_cons, List.map_nil]
        exact List.nodup_append.2 ⟨r.distinct, by simp, by
          intro a ha b hb
          simp only [List.mem_singleton] at hb
          exact fun hab => h (hb ▸ hab ▸ ha)⟩ }

def standard : ValidatorRegistry σ where
  registrations := [
    ⟨"resource", fun c => Validator.resource c.mapper⟩,
    ⟨"schema", fun c => Validator.schema c.schemas⟩,
    ⟨"authorization", fun c => Validator.authorization c.reviewer⟩]
  distinct := by
    show ["resource", "schema", "authorization"].Nodup
    decide

def build (r : ValidatorRegistry σ) (c : Collaborators σ) : Chain σ :=
  ⟨r.registrations.map fun reg => reg.make c⟩

def display (r : ValidatorRegistry σ) : String :=
  "ValidatorRegistry \x7b validators: " ++ showNames r.names ++ " \x7d"

end ValidatorRegistry

end ClusterAccess
