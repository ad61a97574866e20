import ClusterAccess.Discovery.Cache

namespace ClusterAccess.Discovery

/-- Where a reader of a cache is. Others may move between any two of its moves. -/
inductive Reader where
  /-- Saw a fresh cache and goes on to take its snapshot. -/
  | looking
  /-- Waits for its turn. -/
  | waiting
  /-- Has its turn, saw a fresh cache and goes on to take its snapshot. -/
  | lookingAgain
  | fetching (tag : Nat)
  | storing (tag : Nat) (resources : List ResourceType)
  | fallingBack (cause : MappingError)
  | answered (answer : Except MappingError Snapshot)

namespace Reader

def hasTurn : Reader → Bool
  | lookingAgain | fetching _ | storing _ _ | fallingBack _ => true
  | looking | waiting | answered _ => false

def start (cache : Cache) : Reader :=
  if cache.isFresh then looking else waiting

/-- The next move of a reader; `busy` says that another one has its turn. -/
def advance (cache : Cache) (busy : Bool) : Reader → Cache × Reader
  | looking =>
    match cache.snapshot with
    | some s => (cache, answered (.ok s))
    | none => (cache, waiting)
  | waiting =>
    if busy then (cache, waiting)
    else if cache.isFresh then (cache, lookingAgain)
    else (cache, fetching cache.generation)
  | lookingAgain =>
    match cache.snapshot with
    | some s => (cache, answered (.ok s))
    | none => (cache, fetching cache.generation)
  | fetching tag => (cache, fetching tag)
  | storing tag resources => (cache.publish tag ⟨resources⟩, answered (.ok ⟨resources⟩))
  | fallingBack cause => (cache, answered (cache.fallback cause))
  | answered answer => (cache, answered answer)

def receive (outcome : Except MappingError (List ResourceType)) : Reader → Reader
  | fetching tag =>
    match outcome with
    | .ok resources => storing tag resources
    | .error cause => fallingBack cause
  | other => other

end Reader

/-- A cache and its readers in the order of their arrival. One reader at a time has its turn to
refresh. -/
structure Readers where
  cache : Cache := {}
  readers : List Reader := []

namespace Readers

inductive Event where
  | arrive
  | advance (reader : Nat)
  /-- The fetch of a reader ends. -/
  | receive (reader : Nat) (outcome : Except MappingError (List ResourceType))
  | invalidate

def busy (s : Readers) : Bool :=
  s.readers.any Reader.hasTurn

def step (s : Readers) : Event → Readers
  | .arrive => { s with readers := s.readers ++ [Reader.start s.cache] }
  | .advance i =>
    match s.readers[i]? with
    | some r =>
      let (cache, r) := r.advance s.cache s.busy
      { cache, readers := s.readers.set i r }
    | none => s
  | .receive i outcome =>
    match s.readers[i]? with
    | some r => { s with readers := s.readers.set i (r.receive outcome) }
    | none => s
  | .invalidate => { s with cache := s.cache.invalidate }

def run (s : Readers) (events : List Event) : Readers :=
  events.foldl step s

end Readers

end ClusterAccess.Discovery
