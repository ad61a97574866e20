import ClusterAccess.Schema.OpenApi

namespace ClusterAccess.Schema

/-- Where a reader is. The tag is the generation at which it arrived, the mark the one at which it
turned to the index. -/
inductive Stage where
  /-- Found no document, and turns to the index. -/
  | missed (tag : Nat)
  /-- Looks whether there is an index. -/
  | seeking (tag mark : Nat)
  | fetchingIndex (tag mark : Nat)
  | storingIndex (tag mark : Nat) (index : Index)
  | fetchingDocument (tag : Nat) (target : String)
  | answered (answer : Except TransportError (Option Components))

/-- A reader of the document under a key. -/
structure Reader where
  key : String
  stage : Stage

namespace Reader

def start (cache : Cache) (key : String) : Reader where
  key
  stage := match cache.document? key with
    | some components => .answered (.ok (some components))
    | none => .missed cache.generation

/-- With an index in hand, a reader follows it to its document. -/
def follow (r : Reader) (tag : Nat) (index : Index) : Reader :=
  { r with stage := match index.lookup r.key with
    | some target => .fetchingDocument tag target
    | none => .answered (.ok none) }

/-- The next move of a reader that waits for no response. -/
def advance (cache : Cache) (r : Reader) : Cache × Reader :=
  match r.stage with
  | .missed tag => (cache, { r with stage := .seeking tag cache.generation })
  | .seeking tag mark =>
    match cache.indexAt? mark with
    | some index => (cache, r.follow tag index)
    | none => (cache, { r with stage := .fetchingIndex tag mark })
  | .storingIndex tag mark index => (cache.keepIndex mark index, r.follow tag index)
  | .fetchingIndex _ _ | .fetchingDocument _ _ | .answered _ => (cache, r)

/-- The response to what a reader asked for. -/
def receive (cache : Cache) (r : Reader) (response : Except TransportError Json) :
    Cache × Reader :=
  match r.stage, response with
  | .fetchingIndex tag mark, .ok document =>
    (cache, { r with stage := .storingIndex tag mark (indexOf document) })
  | .fetchingDocument tag _, .ok document =>
    let components := componentsOf document
    (cache.keepDocument tag r.key components, { r with stage := .answered (.ok (some components)) })
  | .fetchingIndex _ _, .error e | .fetchingDocument _ _, .error e =>
    (cache, { r with stage := .answered (.error e) })
  | _, _ => (cache, r)

end Reader

/-- A cache and its readers in the order of their arrival. Nobody waits for another one, so that two
may ask for the same thing at once. -/
structure Readers where
  cache : Cache := {}
  readers : List Reader := []

namespace Readers

inductive Event where
  | arrive (kind : GroupVersionKind)
  | advance (reader : Nat)
  | receive (reader : Nat) (response : Except TransportError Json)
  /-- An invalidation outdates what is kept and then releases it, with moves of readers in between
  or without. -/
  | outdate
  | release

def step (s : Readers) : Event → Readers
  | .arrive kind => { s with readers := s.readers ++ [Reader.start s.cache (documentKey kind)] }
  | .advance i =>
    match s.readers[i]? with
    | some r =>
      let (cache, r) := r.advance s.cache
      { cache, readers := s.readers.set i r }
    | none => s
  | .receive i response =>
    match s.readers[i]? with
    | some r =>
      let (cache, r) := r.receive s.cache response
      { cache, readers := s.readers.set i r }
    | none => s
  | .outdate => { s with cache := s.cache.outdate }
  | .release => { s with cache := s.cache.release }

def run (s : Readers) (events : List Event) : Readers :=
  events.foldl step s

end Readers

end ClusterAccess.Schema
