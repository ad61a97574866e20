import ClusterAccess.Json.Reader
import ClusterAccess.Schema.UnknownField
import ClusterAccess.Text.Pieces
import ClusterAccess.Validation.Request

namespace ClusterAccess.Schema

/-- Why a body is refused before its schema is asked for. -/
inductive Refusal where
  | undecodable (kind : String)
  | patchNotArray
  | notObject (kind : String)
  | otherKind (found kind : String)
  | otherVersion (found expected : String)
deriving DecidableEq, Repr

/-- The message on a body that cannot be decoded ends where the parser's own words would follow. -/
def Refusal.message : Refusal → String
  | undecodable kind => s!"failed to decode {kind} body"
  | patchNotArray => "json patch body must be an array of operations"
  | notObject kind => s!"{kind} body must be a JSON object"
  | otherKind found kind => "body kind " ++ Text.quote found ++ s!" does not match {kind}"
  | otherVersion found expected =>
    "body apiVersion " ++ Text.quote found ++ s!" does not match {expected}"

/-- The content type without its parameters. -/
def mediaType (contentType : Option String) : String :=
  match contentType with
  | none => "application/json"
  | some text => Text.trim (((Text.split ';' text).head?).getD "")

/-- The body whose fields are to be checked: none of them is exempt, and nothing else is wrong. -/
inductive Preview where
  | exempt
  | refused (reason : Refusal)
  | object (body : Json)

/-- A text that is there and not empty must be the expected one. -/
def mismatch? (name expected : String) (body : Json) : Option String :=
  match (body.member? name).bind Json.text? with
  | some found => if found ≠ "" ∧ found ≠ expected then some found else none
  | none => none

def previewObject (kind : GroupVersionKind) (body : Json) : Preview :=
  match mismatch? "kind" kind.kind body with
  | some found => .refused (.otherKind found kind.kind)
  | none =>
    match mismatch? "apiVersion" kind.apiVersion body with
    | some found => .refused (.otherVersion found kind.apiVersion)
    | none => .object body

/-- Formats other than JSON are left to the server. -/
def previewBody (kind : GroupVersionKind) (media : String) (body : Bytes) : Preview :=
  match (Bytes.text? body).bind Json.parse? with
  | none => if Text.endsWith "yaml" media then .exempt else .refused (.undecodable kind.kind)
  | some value =>
    if media = "application/json-patch+json" then
      match value with
      | .arr _ => .exempt
      | _ => .refused .patchNotArray
    else
      match value with
      | .obj members => previewObject kind (.obj members)
      | _ => .refused (.notObject kind.kind)

/-- Requests without an object of their own are exempt, and so are binary bodies. -/
def preview (r : ValidationRequest) : Preview :=
  match r.body with
  | none => .exempt
  | some body =>
    let media := mediaType r.contentType
    if !r.isMutating || r.coordinate.subresource.isSome || body.isEmpty ||
        Text.contains "protobuf" media then .exempt
    else previewBody r.kind media body

/-- Whoever publishes schemas. -/
abbrev Source (σ : Type) := GroupVersionKind → StateM σ (Option ResourceSchema)

/-- A kind without a published schema accepts every field. -/
def verdict (schema : Option ResourceSchema) (kind : String) (body : Json) :
    Except ValidationError Unit :=
  match schema.bind (·.firstUnknown body) with
  | some path => .error (ValidationError.invalidField path.print kind)
  | none => .ok ()

/-- The source is asked only when nothing else decides. -/
def validate {σ : Type} (source : Source σ) (r : ValidationRequest) :
    StateM σ (Except ValidationError Unit) := do
  match preview r with
  | .exempt => return .ok ()
  | .refused reason => return .error (ValidationError.schemaInvalid reason.message)
  | .object body => return verdict (← source r.kind) r.kind.kind body

end ClusterAccess.Schema
