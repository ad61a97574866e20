import ClusterAccess.Objects.Metadata

namespace ClusterAccess

/-- What an object says it is. -/
structure TypeMeta where
  apiVersion : String
  kind : String
deriving DecidableEq, Repr

/-- An object of any kind. What stands beside its metadata is passed on as it is. -/
structure Manifest where
  types : Option TypeMeta := none
  metadata : Json := .obj []
  rest : Json := .obj []
deriving Inhabited

namespace TypeMeta

/-- Takes version and kind out of members, in their order, until one of them is no text or comes
a second time. What was taken is gone either way; the second part is what is left. -/
def take (apiVersion kind : Option String) :
    List (String × Json) → Option TypeMeta × List (String × Json)
  | [] => (do some ⟨← apiVersion, ← kind⟩, [])
  | (key, v) :: rest =>
    if key = "apiVersion" then
      match apiVersion, v with
      | none, .str s => take (some s) kind rest
      | _, _ => (none, rest)
    else if key = "kind" then
      match kind, v with
      | none, .str s => take apiVersion (some s) rest
      | _, _ => (none, rest)
    else
      let (types, rest) := take apiVersion kind rest
      (types, (key, v) :: rest)

def ofMembers (members : List (String × Json)) : Option TypeMeta × List (String × Json) :=
  take none none members

def members : Option TypeMeta → List (String × Json)
  | none => []
  | some t => [("apiVersion", .str t.apiVersion), ("kind", .str t.kind)]

end TypeMeta

namespace Manifest

/-- The members beside the metadata, all of which are kept and so must be readable. -/
def others? {ν : Type} (f : Format ν) (members : List (String × ν)) :
    Option (List (String × Json)) :=
  (members.filter (·.1 ≠ "metadata")).mapM fun m => (f.json? m.2).map (m.1, ·)

/-- An object that does not say both what kind it is and of which version says neither. -/
def read? {ν : Type} (f : Format ν) (v : ν) : Option Manifest := do
  let members ← f.entries? v
  let metadata ← Metadata.ofMembers? f Metadata.ofObject members
  let (types, rest) := TypeMeta.ofMembers (← others? f members)
  some { types, metadata, rest := .ofMembers rest }

def ofJson? (v : Json) : Option Manifest :=
  read? Json.format v

/-- Only an object can be spread into the manifest's own members; null adds nothing. -/
def toJson? (m : Manifest) : Option Json :=
  let own := TypeMeta.members m.types ++ [("metadata", m.metadata)]
  match m.rest with
  | .obj members => some (Json.obj (own ++ members)).canonical
  | .null => some (Json.obj own).canonical
  | _ => none

def namespaceName (m : Manifest) : Option String :=
  (m.metadata.member? "namespace").bind Json.text?

end Manifest

structure ManifestList where
  types : TypeMeta
  metadata : Json := .obj []
  items : List Manifest

namespace ManifestList

def read? {ν : Type} (f : Format ν) (v : ν) : Option ManifestList := do
  let members ← f.entries? v
  let others ← Manifest.others? f (members.filter (·.1 ≠ "items"))
  let types ← (TypeMeta.ofMembers others).1
  match members.filter (·.1 = "items") with
  | [(_, items)] =>
    some {
      types, metadata := ← Metadata.ofMembers? f Metadata.ofList members
      items := ← f.list? (Manifest.read? f) items }
  | _ => none

def toJson? (l : ManifestList) : Option Json := do
  let items ← l.items.mapM Manifest.toJson?
  some (Json.obj (TypeMeta.members (some l.types) ++
    [("metadata", l.metadata), ("items", .arr items)])).canonical

end ManifestList

/-- What a watch tells of. -/
inductive WatchEvent where
  | added (object : Manifest)
  | modified (object : Manifest)
  | deleted (object : Manifest)
  | bookmark (types : TypeMeta) (metadata : Json)
  | error (status : Json)

namespace WatchEvent

def bookmark? {ν : Type} (f : Format ν) (v : ν) : Option WatchEvent := do
  let members ← f.entries? v
  let types ← (TypeMeta.ofMembers (← Manifest.others? f members)).1
  let metadata ← Metadata.ofMembers? f Metadata.ofBookmark members
  let _ ← metadata.member? "resourceVersion"
  some (.bookmark types metadata)

/-- An event and its kind, given what says whether an object is a failure's status. -/
def read? {ν : Type} (f : Format ν) (isStatus : ν → Bool) (v : ν) : Option WatchEvent := do
  match ← Format.fields? ["type", "object"] (← f.entries? v) with
  | [some kind, some object] =>
    match ← f.text? kind with
    | "ADDED" => (Manifest.read? f object).map .added
    | "MODIFIED" => (Manifest.read? f object).map .modified
    | "DELETED" => (Manifest.read? f object).map .deleted
    | "BOOKMARK" => bookmark? f object
    | "ERROR" => if isStatus object then (f.json? object).map .error else none
    | _ => none
  | _ => none

def labelled (kind : String) (object : Json) : Json :=
  .obj [("object", object), ("type", .str kind)]

def toJson? : WatchEvent → Option Json
  | added m => m.toJson?.map (labelled "ADDED")
  | modified m => m.toJson?.map (labelled "MODIFIED")
  | deleted m => m.toJson?.map (labelled "DELETED")
  | bookmark types metadata =>
    some (labelled "BOOKMARK"
      (Json.obj (TypeMeta.members (some types) ++ [("metadata", metadata)])).canonical)
  | error status => some (labelled "ERROR" status)

end WatchEvent

end ClusterAccess
