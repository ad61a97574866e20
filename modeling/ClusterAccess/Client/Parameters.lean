import ClusterAccess.Error

namespace ClusterAccess

inductive VersionMatch where
  | notOlderThan
  | exact
deriving DecidableEq, Repr

def VersionMatch.name : VersionMatch → String
  | notOlderThan => "NotOlderThan"
  | exact => "Exact"

structure ListParams where
  labels : Option String := none
  fields : Option String := none
  limit : Option Nat := none
  continueToken : Option String := none
  version : Option String := none
  versionMatch : Option VersionMatch := none
deriving DecidableEq, Repr

structure WatchParams where
  labels : Option String := none
  fields : Option String := none
  timeout : Option Nat := none
  bookmarks : Bool := true
  initialEvents : Bool := false
deriving DecidableEq, Repr

/-- Parameters of creating and replacing. -/
structure WriteParams where
  dryRun : Bool := false
  fieldManager : Option String := none
deriving DecidableEq, Repr

inductive Propagation where
  | orphan
  | background
  | foreground
deriving DecidableEq, Repr

def Propagation.name : Propagation → String
  | orphan => "Orphan"
  | background => "Background"
  | foreground => "Foreground"

structure DeleteParams where
  dryRun : Bool := false
  grace : Option Nat := none
  propagation : Option Propagation := none
deriving DecidableEq, Repr

structure PatchParams where
  dryRun : Bool := false
  force : Bool := false
  fieldManager : Option String := none
deriving DecidableEq, Repr

inductive PatchKind where
  | apply
  | merge
  | strategic
deriving DecidableEq, Repr

namespace PatchKind

def name : PatchKind → String
  | apply => "apply"
  | merge => "merge"
  | strategic => "strategic"

def contentType : PatchKind → String
  | apply => "application/apply-patch+yaml"
  | merge => "application/merge-patch+json"
  | strategic => "application/strategic-merge-patch+json"

end PatchKind

namespace ListParams

def problem? (p : ListParams) : Option RequestProblem :=
  match p.version, p.versionMatch with
  | none, some _ => some .versionMatchAlone
  | some v, some .exact => if v = "0" then some .exactMatchOfZero else none
  | _, _ => none

end ListParams

namespace WatchParams

def problem? (p : WatchParams) : Option RequestProblem :=
  if p.timeout.any (295 ≤ ·) then some .watchTimeout
  else if p.initialEvents && !p.bookmarks then some .watchBookmarks
  else none

end WatchParams

/-- The name of a field manager has at most 128 bytes. -/
def managerTooLong (fieldManager : Option String) : Bool :=
  fieldManager.any (128 < ·.utf8ByteSize)

namespace PatchParams

def problem? (p : PatchParams) (kind : PatchKind) : Option RequestProblem :=
  if managerTooLong p.fieldManager then some .patchFieldManager
  else if p.force && kind ≠ .apply then some .forceWithoutApply
  else none

end PatchParams

end ClusterAccess
