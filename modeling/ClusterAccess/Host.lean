import ClusterAccess.Objects.Timestamp
import ClusterAccess.Text.Bytes
import ClusterAccess.Text.Pieces

namespace ClusterAccess

namespace Path

def isAbsolute (path : String) : Bool :=
  Text.startsWith "/" path

/-- A path seen from a directory; an absolute one stays itself. -/
def join (dir path : String) : String :=
  if isAbsolute path then path
  else if dir = "" || Text.endsWith "/" dir then dir ++ path
  else dir ++ "/" ++ path

def isStep (segment : String) : Bool :=
  segment ≠ "" && segment ≠ "."

/-- The names along a path, with steps to the same or the upper directory taken. -/
def segments (path : String) : List String :=
  (((Text.split '/' path).filter isStep).foldl
    (fun up segment => if segment = ".." then up.drop 1 else segment :: up) []).reverse

/-- The directory that holds a path's last name. -/
def parent? (path : String) : Option String :=
  match (Text.split '/' path).reverse.dropWhile (!isStep ·) with
  | [] => none
  | _ :: above =>
    match above.dropWhile (!isStep ·) with
    | [] => some (if isAbsolute path then "/" else "")
    | above => some ("/".intercalate above.reverse)

end Path

/-- What reading a path gives. -/
inductive FileState where
  | missing
  | unreadable
  | readable (content : Bytes)
deriving DecidableEq, Repr

structure Files where
  entries : List (String × Bytes) := []
deriving Repr

namespace Files

/-- A directory is there when files are in it; it cannot be read. -/
def look (files : Files) (path : String) : FileState :=
  let wanted := Path.segments path
  match files.entries.find? fun e => Path.segments e.1 = wanted with
  | some (_, content) => .readable content
  | none =>
    if files.entries.any fun e => wanted.isPrefixOf (Path.segments e.1) then .unreadable
    else .missing

def read? (files : Files) (path : String) : Option Bytes :=
  match files.look path with
  | .readable content => some content
  | _ => none

def has (files : Files) (path : String) : Bool :=
  files.look path ≠ .missing

def remove (files : Files) (path : String) : Files :=
  ⟨files.entries.filter fun e => Path.segments e.1 ≠ Path.segments path⟩

def write (files : Files) (path : String) (content : Bytes) : Files :=
  ⟨(path, content) :: (files.remove path).entries⟩

end Files

structure Environment where
  home : Option String := none
  kubeconfig : Option String := none
  serviceHost : Option String := none
  servicePort : Option String := none
deriving DecidableEq, Repr

/-- The host at one moment. -/
structure Host where
  files : Files := {}
  environment : Environment := {}
  now : Timestamp
deriving Repr

end ClusterAccess
