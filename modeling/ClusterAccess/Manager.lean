import ClusterAccess.Connection.Client
import ClusterAccess.Discovery.Fetch
import ClusterAccess.Gate
import ClusterAccess.Handle
import ClusterAccess.Schema.OpenApi
import ClusterAccess.Source

namespace ClusterAccess

/-- A manager talks to one cluster as one identity, and all its requests pass a gate. Once closed it
serves nothing. -/
structure Manager where
  /-- The place of the manager's state among those of all managers. -/
  id : Nat
  /-- Where its credentials come from, unless a caller brought them. -/
  source : Option Source
  context : String
  connection : Connection
  signature : Connection.Signature

/-- What changes about a manager. -/
structure Manager.State where
  discovery : Discovery.Cache := {}
  schemas : Schema.Cache := {}
  closed : Bool := false

namespace Manager.State

/-- What was fetched before counts no longer. -/
def invalidate (s : State) : State :=
  { s with discovery := s.discovery.invalidate, schemas := s.schemas.invalidate }

def close (s : State) : State :=
  if s.closed then s else { s.invalidate with closed := true }

end Manager.State

/-- What managers are built from, and where their states are kept. -/
structure Gateway (σ : Type) where
  settings : Settings
  validators : ValidatorRegistry σ
  probe : Probe
  /-- The variable that overrides whether requests are validated. -/
  validation : Option String
  host : StateM σ Host
  states : Slot σ (List Manager.State)
  network : Client.Service σ

namespace Gateway

variable {σ : Type} (g : Gateway σ)

def validates : Bool :=
  g.settings.validates g.validation

def state (m : Manager) : Slot σ Manager.State where
  get s := ((g.states.get s)[m.id]?).getD {}
  set a s := g.states.set ((g.states.get s).set m.id a) s

def discoverySlot (m : Manager) : Slot σ Discovery.Cache where
  get s := ((g.state m).get s).discovery
  set a s := (g.state m).set { (g.state m).get s with discovery := a } s

def schemaSlot (m : Manager) : Slot σ Schema.Cache where
  get s := ((g.state m).get s).schemas
  set a s := (g.state m).set { (g.state m).get s with schemas := a } s

/-- The network with the manager's address and headers on every request that it can sign. -/
def raw (m : Manager) : Client.Service σ :=
  fun r => Client.send g.network (m.connection.outgoing m.signature r)

def mapper (m : Manager) : Mapper σ :=
  Mapper.ofSnapshots (Discovery.read (g.discoverySlot m) (Discovery.fetch (g.raw m)))

/-- Reviews pass the deny policy, but no validators. -/
def reviewer (m : Manager) : Reviewer σ :=
  let gate : Gate σ := { policy := g.settings.policy, mapper := g.mapper m }
  AccessCheck.ask (gate.guard (g.raw m))

def chain (m : Manager) : Chain σ :=
  g.validators.build {
    mapper := g.mapper m
    schemas := Schema.published (g.schemaSlot m) (g.raw m)
    reviewer := g.reviewer m }

def gate (m : Manager) : Gate σ where
  policy := g.settings.policy
  mapper := g.mapper m
  chain := if g.validates then some (g.chain m) else none
  selfReview := g.settings.selfReview

def client (m : Manager) : Client.Service σ :=
  (g.gate m).guard (g.raw m)

def access (m : Manager) : AccessClient σ where
  backend := Backend.ofService (g.client m)
  mapper := g.mapper m
  reviewer := g.reviewer m
  policy := g.settings.policy
  defaultNamespace := m.connection.defaultNamespace

def isClosed (m : Manager) : StateM σ Bool := do
  return (← (g.state m).read).closed

def whenOpen {α : Type} (m : Manager) (action : StateM σ (Except Error α)) :
    StateM σ (Except Error α) := do
  if ← g.isClosed m then return .error .closed else action

def invalidate (m : Manager) : StateM σ Unit :=
  (g.state m).update Manager.State.invalidate

/-- Closing again changes nothing. -/
def close (m : Manager) : StateM σ Unit :=
  (g.state m).update Manager.State.close

def build (source : Option Source) (context : String) (connection : Connection) :
    StateM σ (Except Error Manager) := do
  match connection.signature (← g.host) with
  | .error problem => return .error (.configuration problem)
  | .ok signature =>
    let id := (← g.states.read).length
    g.states.update (· ++ [({} : Manager.State)])
    return .ok { id, source, context, connection, signature }

/-- A manager for a context of a source, or for the current one. -/
def load (source : Source) (context : Option String) : StateM σ (Except Error Manager) := do
  match source.load (← g.host) context with
  | .error problem => return .error (.configuration problem)
  | .ok loaded => g.build (some source) loaded.context loaded.connection

def resolveSource : Except Misconfiguration Source :=
  Source.resolve g.settings.kubeconfig g.probe

def start : StateM σ (Except Error Manager) := do
  match g.resolveSource with
  | .error problem => return .error (.configuration problem)
  | .ok source => g.load source none

/-- The user agent of derived managers, when it can stand in a header. -/
def userAgent : Except Misconfiguration String :=
  match Connection.header? "user-agent" g.settings.derivedUserAgent with
  | none => .error .malformedUserAgent
  | some _ => .ok g.settings.derivedUserAgent

def externalContext : String := "external"

def externalConnection (b : HeaderBundle) : Except Error Connection :=
  match Connection.ofBundle g.settings.derivedUserAgent b with
  | .error problem => .error (.invalidIdentity (.unusable problem))
  | .ok connection =>
    match g.userAgent with
    | .error problem => .error (.configuration problem)
    | .ok _ => .ok connection

/-- A manager for the connection that a caller brings along. -/
def external (b : HeaderBundle) : StateM σ (Except Error Manager) := do
  match g.externalConnection b with
  | .error e => return .error e
  | .ok connection => g.build none externalContext connection

/-- A manager's connection with a caller's credentials in place of its own. -/
def derivedConnection (base : Connection) (identity : CallerIdentity) :
    Except Error Connection :=
  match g.userAgent with
  | .error problem => .error (.configuration problem)
  | .ok agent =>
    match identity with
    | .token token =>
      .ok (base.withCredentials agent (Connection.credentialsOf (some token) none))
    | .certificate certificate key =>
      .ok (base.withCredentials agent (Connection.credentialsOf none (some (certificate, key))))
    | .external _ => .error (.internal "header-bundle identities carry their own connection")

/-- The manager that acts as a caller. Without an identity it is the manager itself, unless an
identity is required. -/
def derive (m : Manager) (identity : Option CallerIdentity) : StateM σ (Except Error Manager) :=
  g.whenOpen m do
    match identity with
    | none => return if g.settings.requireIdentity then .error .identityRequired else .ok m
    | some (.external bundle) => g.external bundle
    | some identity =>
      match g.derivedConnection m.connection identity with
      | .error e => return .error e
      | .ok connection => g.build none m.context connection

/-- The manager for another context of the same source. An empty name stands for the manager
itself, and so does any name in a pod. -/
def inContext (m : Manager) (name : String) : StateM σ (Except Error Manager) :=
  g.whenOpen m do
    if name = "" then return .ok m
    else
      match m.source with
      | none => return .error (.configuration .switchAfterDeriving)
      | some .inCluster => return .ok m
      | some source => g.load source (some name)

end Gateway

end ClusterAccess
