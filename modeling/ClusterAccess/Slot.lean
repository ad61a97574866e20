namespace ClusterAccess

/-- A value kept at some place of a larger state, with the other parts out of sight. -/
structure Slot (σ α : Type) where
  get : σ → α
  set : α → σ → σ

namespace Slot

def read {σ α : Type} (slot : Slot σ α) : StateM σ α :=
  fun s => (slot.get s, s)

def update {σ α : Type} (slot : Slot σ α) (f : α → α) : StateM σ Unit :=
  fun s => ((), slot.set (f (slot.get s)) s)

/-- The whole state as its own place. -/
def whole (σ : Type) : Slot σ σ :=
  ⟨id, fun a _ => a⟩

end Slot

end ClusterAccess
