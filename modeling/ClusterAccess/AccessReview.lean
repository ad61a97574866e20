import ClusterAccess.Client.Service
import ClusterAccess.Json.Printer
import ClusterAccess.Objects.Metadata

namespace ClusterAccess

open Shape (optional required)

structure AccessCheck where
  verb : String
  group : String
  version : String := ""
  resource : String
  namespaceName : Option String := none
  name : Option String := none
  subresource : Option String := none
deriving DecidableEq, Repr

/-- Whoever answers such checks. -/
abbrev Reviewer (σ : Type) := AccessCheck → StateM σ (Except TransportError Bool)

namespace AccessCheck

def member (key : String) : Option String → List (String × Json)
  | none => []
  | some s => [(key, .str s)]

/-- Only what is set is asked about; an empty version is not set. -/
def attributes (c : AccessCheck) : Json :=
  .obj (member "group" (some c.group) ++ member "name" c.name ++
    member "namespace" c.namespaceName ++ member "resource" (some c.resource) ++
    member "subresource" c.subresource ++ member "verb" (some c.verb) ++
    (if c.version = "" then [] else member "version" (some c.version)))

def document (c : AccessCheck) : Json :=
  .obj [("apiVersion", .str "authorization.k8s.io/v1"), ("kind", .str "SelfSubjectAccessReview"),
    ("metadata", .obj []), ("spec", .obj [("resourceAttributes", c.attributes)])]

def draft (c : AccessCheck) : Client.Draft :=
  Client.withBody "POST" "/apis/authorization.k8s.io/v1/selfsubjectaccessreviews?"
    "application/json" (Bytes.ofText c.document.print)

/-- What a selector of fields or labels asks for. -/
def selector : Shape :=
  .record [optional "rawSelector" .text, optional "requirements" (.list (.record [
    required "key" .text, required "operator" .text, optional "values" (.list .text)]))]

def asked : Shape :=
  .record [
    optional "nonResourceAttributes" (.record [optional "path" .text, optional "verb" .text]),
    optional "resourceAttributes" (.record [
      optional "fieldSelector" selector, optional "group" .text,
      optional "labelSelector" selector, optional "name" .text, optional "namespace" .text,
      optional "resource" .text, optional "subresource" .text, optional "verb" .text,
      optional "version" .text])]

def review : Shape :=
  .object "authorization.k8s.io/v1" "SelfSubjectAccessReview" [
    required "metadata" Metadata.ofObject, required "spec" asked,
    optional "status" (.record [required "allowed" .flag, optional "denied" .flag,
      optional "evaluationError" .text, optional "reason" .text])]

/-- A review without a status allows nothing. -/
def verdict? {ν : Type} (f : Format ν) (v : ν) : Option Bool := do
  some (((← review.read? f v).at? ["status", "allowed"]).bind Json.flag? = some true)

/-- The check as a request to the API server. -/
def ask {σ : Type} (service : Client.Service σ) : Reviewer σ :=
  fun c => Client.ask service (Client.decoded verdict?) c.draft

end AccessCheck

end ClusterAccess
