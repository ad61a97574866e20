import ClusterAccess.Error
import ClusterAccess.Http.Message
import ClusterAccess.Json.Reader

namespace ClusterAccess.Client

/-- Whoever answers requests. -/
abbrev Service (σ : Type) := Http.Request → StateM σ (Except TransportError Http.Response)

/-- A request, or why there is none to send. -/
abbrev Draft := Except TransportError Http.Request

def statusNames : List String :=
  ["status", "message", "reason", "code"]

/-- A failure needs its status and its code. -/
def status? {ν : Type} (f : Format ν) (v : ν) : Option ApiStatus := do
  match ← f.record? statusNames 0 v with
  | [status, message, reason, code] =>
    let code ← Format.required? f.natural? code
    if 65536 ≤ code then none
    else some {
      status := ← Format.required? f.text? status
      message := ← Format.default? f.text? "" message
      reason := ← Format.default? f.text? "" reason
      code }
  | _ => none

/-- The status of a failure whose body does not say. -/
def unparsedStatus (code : Nat) (body : String) : ApiStatus where
  status := toString code ++ " " ++ (Http.reasonPhrase code).getD "<unknown status code>"
  message := Text.quote body
  reason := "Failed to parse error data"
  code

def text (response : Http.Response) : Except TransportError String :=
  match Bytes.text? response.body with
  | none => .error .notUtf8
  | some body =>
    if response.isFailure then
      match (Json.document? body).bind (status? Json.Written.format) with
      | some status => .error (.api status)
      | none => .error (.api (unparsedStatus response.status body))
    else .ok body

def decoded {α : Type} (decode : Format Json.Written → Json.Written → Option α)
    (response : Http.Response) : Except TransportError α := do
  match (Json.document? (← text response)).bind (decode Json.Written.format) with
  | some a => .ok a
  | none => .error .decoding

def send {σ : Type} (service : Service σ) :
    Draft → StateM σ (Except TransportError Http.Response)
  | .error e => return .error e
  | .ok request => service request

/-- Sends a request and reads the answer. -/
def ask {σ α : Type} (service : Service σ) (read : Http.Response → Except TransportError α)
    (draft : Draft) : StateM σ (Except TransportError α) := do
  return (← send service draft) >>= read

/-- A request without a body. -/
def get (target : String) : Draft :=
  match Http.Uri.parse? target with
  | some uri => .ok { method := "GET", uri }
  | none => .error (.request .malformed)

/-- A request with a body of some type. -/
def withBody (method target contentType : String) (content : Bytes) : Draft :=
  match Http.Uri.parse? target with
  | some uri => .ok {
      method, uri, body := .bytes content
      headers := [⟨"content-type", Bytes.ofText contentType⟩] }
  | none => .error (.request .malformed)

end ClusterAccess.Client
