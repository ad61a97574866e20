import ClusterAccess.Kind

namespace ClusterAccess

/-- An empty kind stands for every kind of the group and version. -/
structure DenyRule where
  group : String := ""
  version : String
  kind : String := ""
deriving DecidableEq, Repr

namespace DenyRule

def covers (rule : DenyRule) (k : GroupVersionKind) : Bool :=
  rule.group = k.group && rule.version = k.version && (rule.kind = "" || rule.kind = k.kind)

end DenyRule

/-- Rules in order; the first that covers a kind decides. -/
structure DenyPolicy where
  rules : List DenyRule
deriving DecidableEq, Repr

namespace DenyPolicy

def isEmpty (policy : DenyPolicy) : Bool :=
  policy.rules.isEmpty

def rule? (policy : DenyPolicy) (k : GroupVersionKind) : Option DenyRule :=
  policy.rules.find? (·.covers k)

def denies (policy : DenyPolicy) (k : GroupVersionKind) : Bool :=
  (policy.rule? k).isSome

/-- What is said of a kind that is denied. -/
def denial (k : GroupVersionKind) : String :=
  s!"resource not allowed: {k.display}"

end DenyPolicy

end ClusterAccess
