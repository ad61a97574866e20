import ClusterAccess.Host

namespace ClusterAccess

/-- A file and the content last seen in it; no content while it is missing. The content stands for
its digest: different contents are assumed to have different digests. -/
structure Fingerprint where
  path : String
  last : Option Bytes := none
deriving DecidableEq, Repr

namespace Fingerprint

/-- What a look at the file tells; a file that cannot be read tells nothing. -/
def refresh (f : Fingerprint) : FileState → Fingerprint
  | .unreadable => f
  | .missing => { f with last := none }
  | .readable content => { f with last := some content }

end Fingerprint

namespace Watcher

inductive Phase where
  /-- About to see the files for the first time. -/
  | starting
  | waiting
  | woken
  /-- After a change, until the quiet time is over. -/
  | settling
  /-- The quiet time is over. -/
  | settled
  | calling
  | stopped
deriving DecidableEq, Repr

end Watcher

/-- A wake-up counts only when the content of some file has changed since it was last seen. After a
change the watcher waits until a check sees none, and then calls back once for all of them. -/
structure Watcher where
  files : List Fingerprint
  phase : Watcher.Phase := .starting
  closed : Bool := false
  /-- How many callbacks have been started. -/
  callbacks : Nat := 0
deriving DecidableEq, Repr

namespace Watcher

def start (paths : List String) : Watcher where
  files := paths.map fun path => { path }

inductive Event where
  /-- A file event or a tick. -/
  | wake
  /-- A check of all files, each as it looks at that moment. -/
  | check (look : String → FileState)
  /-- The quiet time is over. -/
  | quiet
  /-- The callback has returned. -/
  | returned
  /-- The watcher notices that it is closed. -/
  | notice
  | close

def refreshed (w : Watcher) (look : String → FileState) : List Fingerprint :=
  w.files.map fun f => f.refresh (look f.path)

/-- The watcher after a check that sees a change or none. -/
def checked (w : Watcher) (look : String → FileState) (changed unchanged : Phase) : Watcher :=
  let files := w.refreshed look
  { w with files, phase := if files = w.files then unchanged else changed }

/-- One step. An event that does not fit the phase changes nothing. -/
def step (w : Watcher) : Event → Watcher
  | .wake => if w.phase = .waiting then { w with phase := .woken } else w
  | .check look =>
    match w.phase with
    | .starting => w.checked look .waiting .waiting
    | .woken => w.checked look .settling .waiting
    | .settled =>
      let w := w.checked look .settling .calling
      if w.phase = .calling then { w with callbacks := w.callbacks + 1 } else w
    | _ => w
  | .quiet => if w.phase = .settling then { w with phase := .settled } else w
  | .returned => if w.phase = .calling then { w with phase := .waiting } else w
  | .notice =>
    if w.closed && (w.phase = .waiting || w.phase = .settling) then { w with phase := .stopped }
    else w
  | .close => { w with closed := true }

def run (w : Watcher) (events : List Event) : Watcher :=
  events.foldl step w

/-- All that happens when the files look the same from now on. -/
def settle (w : Watcher) (look : String → FileState) : Watcher :=
  if w.closed then w.step .notice
  else w.run [.wake, .check look, .quiet, .check look, .returned]

end Watcher

end ClusterAccess
