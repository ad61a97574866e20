import ClusterAccess.Client.Service
import ClusterAccess.Settings.Basic
import ClusterAccess.Validation.Chain

namespace ClusterAccess

/-- What stands between a client and the wire. Without validators only the policy is asked. -/
structure Gate (σ : Type) where
  policy : DenyPolicy
  mapper : Mapper σ
  chain : Option (Chain σ) := none
  selfReview : SelfReview := {}

namespace Gate

variable {σ : Type}

def validates (g : Gate σ) : Bool :=
  g.chain.isSome

/-- The body that goes on and the one that validators see. Only a body that carries an object is
read, and what was read goes on. -/
def buffer (c : Coordinate) (body : Http.Body) : Except Error (Http.Body × Option Bytes) :=
  if c.isMutating then
    match body with
    | .bytes content => .ok (.bytes content, some content)
    | .broken reason => .error (.internal s!"failed to buffer request body: {reason}")
  else .ok (body, none)

def contentType (r : Http.Request) : Option String :=
  (r.headers.value? "content-type").bind Http.Header.text?

def shown (c : Coordinate) (kind : GroupVersionKind) (r : Http.Request) (body : Option Bytes) :
    ValidationRequest where
  coordinate := c
  kind
  method := r.method
  path := r.uri.path
  contentType := contentType r
  body

/-- The kind of a coordinate, unless it cannot be told or is denied. -/
def classify (g : Gate σ) (c : Coordinate) : StateM σ (Except Error GroupVersionKind) := do
  match ← g.mapper.kindFor c.gvr with
  | .error cause => return .error (.mapping c.gvr.display cause)
  | .ok kind => return if g.policy.denies kind then .error (.denied kind) else .ok kind

/-- Requests for self-permission reviews are exempt, since validators send such requests themselves.
-/
def validate (g : Gate σ) (chain : Chain σ) (c : Coordinate) (kind : GroupVersionKind)
    (r : Http.Request) : StateM σ (Except Error Http.Request) := do
  if g.selfReview.isFor c.group c.resource then return .ok r
  else match buffer c r.body with
    | .error e => return .error e
    | .ok (body, seen) =>
      match ← chain.validate (shown c kind r seen) with
      | .error e => return .error (.validation e)
      | .ok () => return .ok { r with body }

/-- The request that may go on. One whose path names no resource always may. -/
def clearance (g : Gate σ) (r : Http.Request) : StateM σ (Except Error Http.Request) := do
  match Coordinate.ofRequest r.method r.uri with
  | none => return .ok r
  | some c =>
    if g.policy.isEmpty && g.chain.isNone then return .ok r
    else match ← g.classify c with
      | .error e => return .error e
      | .ok kind =>
        match g.chain with
        | none => return .ok r
        | some chain => g.validate chain c kind r

/-- A service behind the gate; a refusal travels as a transport error. -/
def guard (g : Gate σ) (service : Client.Service σ) : Client.Service σ := fun r => do
  match ← g.clearance r with
  | .error e => return .error (.gateway e)
  | .ok r => service r

end Gate

end ClusterAccess
