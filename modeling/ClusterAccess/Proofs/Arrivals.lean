import ClusterAccess.Gate
import ClusterAccess.Proofs.Advertised

namespace ClusterAccess.Discovery

variable {σ α β : Type}

/-- How the answers of an API server reach those who ask. The schedule is the order in which the
answers to the requests for lists come; it may hang on anything. -/
structure Delivery (σ : Type) where
  service : Client.Service σ
  slot : Slot σ Cache
  schedule : σ → List (String × Nat) → List (String × Nat)

namespace Delivery

/-- The lists of some groups and versions, asked for together and answered as scheduled. -/
def collect (d : Delivery σ) (groupVersions : List String) : StateM σ (List ResourceType) := do
  let arrivals ← (d.schedule (← get) groupVersions.zipIdx).mapM fun (groupVersion, i) => do
    return (i, ← listed d.service groupVersion)
  return gather groupVersions.length arrivals

/-- A fetch that waits for all of its lists at once. -/
def fetch (d : Delivery σ) : StateM σ (Except MappingError (List ResourceType)) := do
  match ← Client.ask d.service (Client.decoded coreVersions?) (Client.get "/api") with
  | .error e => return .error (.discovery e.message)
  | .ok core =>
    match ← Client.ask d.service (Client.decoded groups?) (Client.get "/apis") with
    | .error e => return .error (.discovery e.message)
    | .ok groups => return .ok (← d.collect (core ++ groups.flatten))

end Delivery

/-- As far as the cache is concerned, an action is one on the cache alone. -/
def Follows (slot : Slot σ Cache) (x : StateM σ α) (y : StateM Cache α) : Prop :=
  ∀ s, (outcome x s).1 = (outcome y (slot.get s)).1 ∧
    slot.get (outcome x s).2 = (outcome y (slot.get s)).2

namespace Follows

variable {slot : Slot σ Cache}

theorem answer (a : α) : Follows slot (pure a) (pure a) :=
  fun _ => ⟨rfl, rfl⟩

theorem bind {x : StateM σ α} {y : StateM Cache α} {f : α → StateM σ β} {g : α → StateM Cache β}
    (hx : Follows slot x y) (hf : ∀ a, Follows slot (f a) (g a)) :
    Follows slot (x >>= f) (y >>= g) := by
  intro s
  obtain ⟨hanswer, hcache⟩ := hx s
  rw [outcome_bind, outcome_bind, ← hanswer, ← hcache]
  exact hf _ _

theorem mapM {f : α → StateM σ β} {g : α → StateM Cache β} (hf : ∀ a, Follows slot (f a) (g a))
    (as : List α) : Follows slot (as.mapM f) (as.mapM g) := by
  induction as with
  | nil => exact answer []
  | cons a as ih =>
    rw [List.mapM_cons, List.mapM_cons]
    exact (hf a).bind fun b => ih.bind fun bs => answer (b :: bs)

theorem read : Follows slot slot.read (Slot.whole Cache).read :=
  fun _ => ⟨rfl, rfl⟩

theorem update (h : ∀ a s, slot.get (slot.set a s) = a) (f : Cache → Cache) :
    Follows slot (slot.update f) ((Slot.whole Cache).update f) :=
  fun s => ⟨rfl, h _ s⟩

end Follows

namespace Delivery.Brings

variable {d : Delivery σ} {answer : Http.Request → Except TransportError Http.Response}

end Delivery.Brings

inductive Told where
  | kind (answer : Except MappingError GroupVersionKind)
  | mapping (answer : Except MappingError Mapping)
  | decision (answer : Except Error Http.Request)
  | invalidated

section Use

variable {slot : Slot σ Cache} {fetch : Fetch σ} {ideal : Fetch Cache}

end Use

/-- It advertises two versions of the core group, with one type in each. -/
def reply (r : Http.Request) : Except TransportError Http.Response :=
  let list (groupVersion plural kind : String) : Json :=
    .obj [("kind", .str "APIResourceList"), ("groupVersion", .str groupVersion),
      ("resources", .arr [.obj [("name", .str plural), ("namespaced", .bool true),
        ("kind", .str kind), ("verbs", .arr [])]])]
  let served : List (String × Json) := [
    ("/api", .obj [("kind", .str "APIVersions"), ("versions", .arr [.str "v1", .str "v2"])]),
    ("/apis", .obj [("kind", .str "APIGroupList"), ("groups", .arr [])]),
    ("/api/v1", list "v1" "pods" "Pod"), ("/api/v2", list "v2" "jobs" "Job")]
  .ok <| match served.lookup r.uri.path with
    | some v => { body := Bytes.ofText v.print }
    | none => { status := 503 }

end ClusterAccess.Discovery
