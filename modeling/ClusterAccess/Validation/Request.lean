import ClusterAccess.Coordinate
import ClusterAccess.Text.Bytes
import ClusterAccess.Text.Quoted

namespace ClusterAccess

/-- The body is there for requests that carry an object. -/
structure ValidationRequest where
  coordinate : Coordinate
  kind : GroupVersionKind
  method : String
  path : String
  contentType : Option String := none
  body : Option Bytes := none
deriving DecidableEq, Repr

def ValidationRequest.isMutating (r : ValidationRequest) : Bool :=
  r.coordinate.isMutating

inductive ValidationCode where
  | resourceNotFound
  | schemaInvalid
  | forbidden
  | internal
deriving DecidableEq, Repr

def ValidationCode.name : ValidationCode → String
  | resourceNotFound => "RESOURCE_NOT_FOUND"
  | schemaInvalid => "SCHEMA_INVALID"
  | forbidden => "FORBIDDEN"
  | internal => "INTERNAL"

/-- The field is that of a body, where one is to blame. -/
structure ValidationError where
  code : ValidationCode
  message : String
  field : Option String := none
deriving DecidableEq, Repr

namespace ValidationError

def display (e : ValidationError) : String :=
  s!"validation error [{e.code.name}]: {e.message}"

def resourceNotFound (apiVersion kind : String) : ValidationError :=
  ⟨.resourceNotFound, s!"resource {apiVersion}/{kind} does not exist in the cluster", none⟩

def invalidField (field kind : String) : ValidationError :=
  let quoted := Text.quote field
  ⟨.schemaInvalid, s!"invalid field {quoted} in {kind}", some field⟩

def schemaInvalid (reason : String) : ValidationError :=
  ⟨.schemaInvalid, reason, none⟩

/-- An empty namespace reads as none. -/
def forbidden (verb resource : String) (namespaceName : Option String) : ValidationError :=
  let place := match namespaceName with
    | none => "(cluster-scoped)"
    | some ns => if ns = "" then "(cluster-scoped)" else "in namespace " ++ Text.quote ns
  ⟨.forbidden, s!"cannot {verb} {resource} {place}", none⟩

end ValidationError

end ClusterAccess
