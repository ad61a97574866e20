import ClusterAccess.Http.Uri
import ClusterAccess.Kind

namespace ClusterAccess

inductive Verb where
  | get
  | list
  | watch
  | create
  | update
  | patch
  | delete
  | deleteCollection
  /-- A method without a verb of its own, in small letters. -/
  | other (name : String)
deriving DecidableEq, Repr

namespace Verb

/-- Only reading and deleting tell a collection from an object. -/
def ofMethod (method : String) (collection : Bool) : Verb :=
  match method with
  | "GET" => if collection then list else get
  | "POST" => create
  | "PUT" => update
  | "PATCH" => patch
  | "DELETE" => if collection then deleteCollection else delete
  | method => other (Text.lower method)

def name : Verb → String
  | get => "get"
  | list => "list"
  | watch => "watch"
  | create => "create"
  | update => "update"
  | patch => "patch"
  | delete => "delete"
  | deleteCollection => "deletecollection"
  | other name => name

/-- Verbs whose requests carry an object. -/
def isMutating : Verb → Bool
  | create | update | patch => true
  | _ => false

end Verb

structure Coordinate where
  group : String
  version : String
  resource : String
  namespaceName : Option String
  name : Option String
  subresource : Option String
  verb : Verb
deriving DecidableEq, Repr

namespace Coordinate

def isCollection (c : Coordinate) : Bool :=
  c.name.isNone

def isMutating (c : Coordinate) : Bool :=
  c.verb.isMutating

def gvr (c : Coordinate) : GroupVersionResource :=
  ⟨c.group, c.version, c.resource⟩

/-- The non-empty pieces of a path. -/
def pieces (path : String) : List String :=
  (Text.split '/' path).filter (· ≠ "")

/-- The coordinate of the pieces after group and version. A namespace is read only where a
resource follows it, so that namespaces are a resource themselves. -/
def place (method group version : String) : List String → Option Coordinate
  | [] => none
  | "namespaces" :: ns :: resource :: rest =>
    some ⟨group, version, resource, some ns, rest[0]?, rest[1]?,
      Verb.ofMethod method rest.isEmpty⟩
  | resource :: rest =>
    some ⟨group, version, resource, none, rest[0]?, rest[1]?, Verb.ofMethod method rest.isEmpty⟩

def ofPieces (method : String) : List String → Option Coordinate
  | "api" :: version :: rest => place method "" version rest
  | "apis" :: group :: version :: rest => place method group version rest
  | _ => none

def resolve (method path : String) : Option Coordinate :=
  ofPieces method (pieces path)

/-- Some parameter asks to watch. -/
def asksToWatch (query : String) : Bool :=
  (Text.split '&' query).any fun item => item = "watch=true" || item = "watch=1"

/-- Listing with a query that asks to watch is watching. -/
def ofRequest (method : String) (uri : Http.Uri) : Option Coordinate :=
  (resolve method uri.path).map fun c =>
    if c.verb = .list ∧ uri.query.any asksToWatch then { c with verb := .watch } else c

end Coordinate

end ClusterAccess
