namespace ClusterAccess

/-- The core group has the empty name. -/
structure GroupVersionKind where
  group : String
  version : String
  kind : String
deriving DecidableEq, Repr

structure GroupVersionResource where
  group : String
  version : String
  resource : String
deriving DecidableEq, Repr

/-- How an object names its group and version. -/
def apiVersion (group version : String) : String :=
  if group = "" then version else s!"{group}/{version}"

namespace GroupVersionKind

def apiVersion (k : GroupVersionKind) : String :=
  ClusterAccess.apiVersion k.group k.version

/-- The slash stays in front of the version of a core kind. -/
def display (k : GroupVersionKind) : String :=
  s!"{k.group}/{k.version}, Kind={k.kind}"

end GroupVersionKind

namespace GroupVersionResource

def display (r : GroupVersionResource) : String :=
  if r.group = "" then s!"{r.version}/{r.resource}" else s!"{r.group}/{r.version}/{r.resource}"

end GroupVersionResource

end ClusterAccess
