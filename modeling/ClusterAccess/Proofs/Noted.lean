import ClusterAccess.Client.Service
import ClusterAccess.Discovery.Snapshot
import ClusterAccess.Slot

namespace ClusterAccess

variable {σ ε α β : Type}

/-- What an action answers, and the state that it leaves. -/
def outcome (x : StateM σ α) (s : σ) : α × σ :=
  x s

@[simp]
theorem outcome_pure (a : α) (s : σ) : outcome (pure a : StateM σ α) s = (a, s) :=
  rfl

/-- An action goes on from what came before it, and from nothing else. -/
@[simp]
theorem outcome_bind (x : StateM σ α) (f : α → StateM σ β) (s : σ) :
    outcome (x >>= f) s = outcome (f (outcome x s).1) (outcome x s).2 :=
  rfl

theorem outcome_bind_of {x : StateM σ α} {s t : σ} {a : α} (h : outcome x s = (a, t))
    (f : α → StateM σ β) : outcome (x >>= f) s = outcome (f a) t := by
  rw [outcome_bind, h]

/-- The outcome of two actions in turn passes through that of the first. -/
theorem outcome_bind_eq {x : StateM σ α} {f : α → StateM σ β} {s u : σ} {b : β}
    (h : outcome (x >>= f) s = (b, u)) :
    ∃ a t, outcome x s = (a, t) ∧ outcome (f a) t = (b, u) :=
  ⟨(outcome x s).1, (outcome x s).2, rfl, h⟩

theorem Slot.outcome_read (slot : Slot σ α) (s : σ) : outcome slot.read s = (slot.get s, s) :=
  rfl

theorem except_bind_ok {ε α β : Type} {x : Except ε α} {f : α → Except ε β} {b : β}
    (h : (x >>= f) = .ok b) : ∃ a, x = .ok a ∧ f a = .ok b := by
  cases x with
  | error e => cases h
  | ok a => exact ⟨a, rfl, h⟩

/-- A state with notes beside it, by which one can tell who was asked and how often. -/
structure Noted (ε σ : Type) where
  state : σ
  notes : List ε

/-- The action on the state, without a note. -/
def quietly (x : StateM σ α) : StateM (Noted ε σ) α := fun n =>
  ((outcome x n.state).1, ⟨(outcome x n.state).2, n.notes⟩)

/-- The action on the state, with a note of it. -/
def noting (e : ε) (x : StateM σ α) : StateM (Noted ε σ) α := fun n =>
  ((outcome x n.state).1, ⟨(outcome x n.state).2, n.notes ++ [e]⟩)

@[simp]
theorem outcome_quietly (x : StateM σ α) (n : Noted ε σ) :
    outcome (quietly x) n = ((outcome x n.state).1, ⟨(outcome x n.state).2, n.notes⟩) :=
  rfl

@[simp]
theorem outcome_noting (e : ε) (x : StateM σ α) (n : Noted ε σ) :
    outcome (noting e x) n = ((outcome x n.state).1, ⟨(outcome x n.state).2, n.notes ++ [e]⟩) :=
  rfl

/-- An action is quiet when its first step is and whatever follows it is. -/
theorem quietly_bind {x : StateM σ α} {f : α → StateM σ β} {f' : α → StateM (Noted ε σ) β}
    (h : ∀ a, f' a = quietly (f a)) : (quietly x >>= f') = quietly (x >>= f) := by
  obtain rfl : f' = fun a => quietly (f a) := funext h
  rfl

/-- A mapper whose answers leave no note. -/
def Mapper.quiet (m : Mapper σ) : Mapper (Noted ε σ) where
  kindFor wanted := quietly (m.kindFor wanted)
  mappingFor kind := quietly (m.mappingFor kind)

/-- A service that notes every request it is given. -/
def Client.Service.noted (service : Client.Service σ) : Client.Service (Noted Http.Request σ) :=
  fun r => noting r (service r)

end ClusterAccess
