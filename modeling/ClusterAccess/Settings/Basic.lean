import ClusterAccess.Policy
import ClusterAccess.Text.Pieces

namespace ClusterAccess

/-- How clusters are found and connected to. -/
inductive Strategy where
  | auto
  | kubeconfig
  | inCluster
  | disabled
  | authHeaders
deriving DecidableEq, Repr

namespace Strategy

def name : Strategy → String
  | auto => "auto"
  | kubeconfig => "kubeconfig"
  | inCluster => "in-cluster"
  | disabled => "disabled"
  | authHeaders => "auth-headers"

def all : List Strategy :=
  [auto, kubeconfig, inCluster, disabled, authHeaders]

def byName : List (String × Strategy) :=
  all.map fun s => (s.name, s)

end Strategy

/-- The resource of self-permission reviews, whose requests are not validated. -/
structure SelfReview where
  group : String := "authorization.k8s.io"
  resource : String := "selfsubjectaccessreviews"
deriving DecidableEq, Repr

namespace SelfReview

def isFor (review : SelfReview) (group resource : String) : Bool :=
  review.group = group && review.resource = resource

end SelfReview

/-- Milliseconds between the looks at credential files. -/
structure WatchTimes where
  debounce : Nat := 50
  poll : Nat := 250
deriving DecidableEq, Repr

structure Settings where
  kubeconfig : Option String := none
  strategy : Strategy := .auto
  contexts : List (String × String) := []
  requireIdentity : Bool := false
  denied : List DenyRule := []
  validation : Bool := false
  selfReview : SelfReview := {}
  watch : WatchTimes := {}
  userAgent : Option String := none
deriving DecidableEq, Repr

namespace Settings

/-- What makes well-formed settings unusable. -/
inductive Problem where
  | ruleWithoutVersion (index : Nat)
  | noDebounce
  | noPoll
deriving DecidableEq, Repr

def Problem.message : Problem → String
  | ruleWithoutVersion index => s!"denied_resources[{index}]: version is required"
  | noDebounce => "watch.debounce_ms must be greater than zero"
  | noPoll => "watch.poll_interval_ms must be greater than zero"

/-- The first problem, rules before times. -/
def problem? (s : Settings) : Option Problem :=
  match s.denied.findIdx? (·.version = "") with
  | some index => some (.ruleWithoutVersion index)
  | none =>
    if s.watch.debounce = 0 then some .noDebounce
    else if s.watch.poll = 0 then some .noPoll
    else none

def policy (s : Settings) : DenyPolicy :=
  ⟨s.denied⟩

def defaultUserAgent : String := "kubegate/bearer-token-auth"

/-- The user agent of connections that carry a caller's identity. -/
def derivedUserAgent (s : Settings) : String :=
  s.userAgent.getD defaultUserAgent

/-- The environment variable that overrides whether requests are validated. -/
def validationVariable : String := "KUBEGATE_VALIDATION_ENABLED"

def truth? (raw : String) : Option Bool :=
  let word := Text.lower (Text.trim raw)
  if word ∈ ["1", "t", "true"] then some true
  else if word ∈ ["0", "f", "false"] then some false
  else none

/-- An override that is not a truth value counts as absent. -/
def validates (s : Settings) (override : Option String) : Bool :=
  (override.bind truth?).getD s.validation

end Settings

end ClusterAccess
