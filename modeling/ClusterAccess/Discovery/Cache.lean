import ClusterAccess.Discovery.Snapshot
import ClusterAccess.Slot

namespace ClusterAccess.Discovery

/-- The last snapshot, kept until it is declared stale. A generation is a natural number, where the
counter behind it has 64 bits: it is assumed that a cache is never declared stale 2^64 times. -/
structure Cache where
  generation : Nat := 1
  /-- The generation at which the fetch of the snapshot began. A cache that is declared stale during
  a fetch stays stale after it. -/
  fetched : Nat := 0
  snapshot : Option Snapshot := none
deriving DecidableEq, Repr

namespace Cache

def isFresh (c : Cache) : Bool :=
  c.fetched = c.generation

def invalidate (c : Cache) : Cache :=
  { c with generation := c.generation + 1 }

def current? (c : Cache) : Option Snapshot :=
  if c.isFresh then c.snapshot else none

def publish (c : Cache) (tag : Nat) (s : Snapshot) : Cache :=
  { c with fetched := tag, snapshot := some s }

/-- The answer after a failed fetch. -/
def fallback (c : Cache) (e : MappingError) : Except MappingError Snapshot :=
  match c.snapshot with
  | some stale => .ok stale
  | none => .error e

end Cache

abbrev Fetch (σ : Type) := StateM σ (Except MappingError (List ResourceType))

/-- One reader's turn at the cache: nobody else refreshes meanwhile. -/
def refresh {σ : Type} (slot : Slot σ Cache) (fetch : Fetch σ) :
    StateM σ (Except MappingError Snapshot) := do
  let cache ← slot.read
  match cache.current? with
  | some s => return .ok s
  | none =>
    match ← fetch with
    | .ok resources =>
      slot.update (·.publish cache.generation ⟨resources⟩)
      return .ok ⟨resources⟩
    | .error e => return (← slot.read).fallback e

def read {σ : Type} (slot : Slot σ Cache) (fetch : Fetch σ) :
    StateM σ (Except MappingError Snapshot) := do
  match (← slot.read).current? with
  | some s => return .ok s
  | none => refresh slot fetch

/-- Readers that arrive together. All of them look at the cache before the first fetch ends; those
that find nothing take turns in their order. -/
def readTogether {σ : Type} (slot : Slot σ Cache) (fetch : Fetch σ) (count : Nat) :
    StateM σ (List (Except MappingError Snapshot)) := do
  match (← slot.read).current? with
  | some s => return List.replicate count (.ok s)
  | none => (List.replicate count ()).mapM fun _ => refresh slot fetch

end ClusterAccess.Discovery
