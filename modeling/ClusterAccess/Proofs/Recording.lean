import ClusterAccess.Manager
import ClusterAccess.Proofs.SchemaMoves

namespace ClusterAccess

variable {σ ε α β : Type}

/-- An action does what another one does, and the notes that it adds go with what it answers. -/
def Writes (n : Noted ε σ) (Q : α → List ε → Prop) (x' : StateM (Noted ε σ) α) (x : StateM σ α) :
    Prop :=
  ∃ added, Q (outcome x n.state).1 added ∧
    outcome x' n = ((outcome x n.state).1, ⟨(outcome x n.state).2, n.notes ++ added⟩)

namespace Writes

variable {n : Noted ε σ} {Q R : α → List ε → Prop} {x' : StateM (Noted ε σ) α} {x : StateM σ α}

theorem mono (h : Writes n Q x' x) (hQR : ∀ added, Q (outcome x n.state).1 added →
    R (outcome x n.state).1 added) : Writes n R x' x := by
  obtain ⟨added, hQ, hx⟩ := h
  exact ⟨added, hQR added hQ, hx⟩

theorem quiet (hQ : Q (outcome x n.state).1 []) : Writes n Q (quietly x) x :=
  ⟨[], hQ, by simp⟩

theorem answer {a : α} (hQ : Q a []) : Writes n Q (pure a) (pure a) :=
  ⟨[], hQ, by simp⟩

theorem note {a : α} {e : ε} (hQ : Q a [e]) : Writes n Q (noting e (pure a)) (pure a) :=
  ⟨[e], hQ, by simp⟩

/-- The notes of two actions in turn are those of the first and then those of the second. -/
theorem bind {f' : α → StateM (Noted ε σ) β} {f : α → StateM σ β} {S : β → List ε → Prop}
    (hx : Writes n Q x' x)
    (hf : ∀ first notes, Q (outcome x n.state).1 first →
      Writes ⟨(outcome x n.state).2, notes⟩ (fun b second => S b (first ++ second))
        (f' (outcome x n.state).1) (f (outcome x n.state).1)) :
    Writes n S (x' >>= f') (x >>= f) := by
  obtain ⟨first, hQ, hx⟩ := hx
  obtain ⟨second, hS, hf⟩ := hf first (n.notes ++ first) hQ
  refine ⟨first ++ second, hS, ?_⟩
  rw [outcome_bind, hx, hf, outcome_bind, List.append_assoc]

/-- What goes before without a note changes nothing about the notes. -/
theorem after_quiet {f' : α → StateM (Noted ε σ) β} {f : α → StateM σ β} {P : β → List ε → Prop}
    (hf : ∀ notes, Writes ⟨(outcome x n.state).2, notes⟩ P (f' (outcome x n.state).1)
      (f (outcome x n.state).1)) : Writes n P (quietly x >>= f') (x >>= f) := by
  refine bind (.quiet (Q := fun _ added => added = []) rfl) fun first notes hfirst => ?_
  subst hfirst
  exact hf notes

/-- What is made of an answer adds no note. -/
theorem map {S : β → List ε → Prop} (h : Writes n Q x' x) (f : α → β)
    (hS : ∀ a added, Q a added → S (f a) added) :
    Writes n S (x' >>= fun a => pure (f a)) (x >>= fun a => pure (f a)) := by
  obtain ⟨added, hQ, hx⟩ := h
  refine ⟨added, hS _ _ hQ, ?_⟩
  rw [outcome_bind, hx]
  rfl

end Writes

/-- A request on the wire, with the state in which it goes out and the answer to it; or the verdict
of a validator. -/
inductive Note (σ : Type) where
  | sent (s : σ) (request : Http.Request) (answer : Except TransportError Http.Response)
  | judged (validator : String) (seen : ValidationRequest) (verdict : Except ValidationError Unit)

/-- The place of a value in the state, beside the notes. -/
def Slot.beside (slot : Slot σ α) : Slot (Noted ε σ) α where
  get n := slot.get n.state
  set a n := ⟨slot.set a n.state, n.notes⟩

theorem Slot.read_beside (slot : Slot σ α) :
    (slot.beside.read : StateM (Noted ε σ) α) = quietly slot.read :=
  rfl

theorem Slot.update_beside (slot : Slot σ α) (f : α → α) :
    (slot.beside.update f : StateM (Noted ε σ) Unit) = quietly (slot.update f) :=
  rfl

def Client.Service.recorded (service : Client.Service σ) : Client.Service (Noted (Note σ) σ) :=
  fun r n =>
    let (answer, s) := outcome (service r) n.state
    (answer, ⟨s, n.notes ++ [.sent n.state r answer]⟩)

def Validator.recorded (v : Validator (Noted (Note σ) σ)) : Validator (Noted (Note σ) σ) where
  name := v.name
  validate seen := do
    let verdict ← v.validate seen
    noting (.judged v.name seen verdict) (pure verdict)

/-- The standard validators, whose verdicts are noted. -/
def ValidatorRegistry.recorded : ValidatorRegistry (Noted (Note σ) σ) where
  registrations := ValidatorRegistry.standard.registrations.map fun registration =>
    ⟨registration.name, fun c => (registration.make c).recorded⟩
  distinct := ValidatorRegistry.standard.distinct

namespace Gateway

/-- The gateway with notes, if its validators are the standard ones. -/
def recorded (g : Gateway σ) : Gateway (Noted (Note σ) σ) where
  settings := g.settings
  validators := .recorded
  probe := g.probe
  validation := g.validation
  host := quietly g.host
  states := g.states.beside
  network := g.network.recorded

end Gateway

namespace Manager

/-- A request that reads a target, as it is on the wire. It has no body, and no headers but those of
the connection. -/
def Gets (m : Manager) (target : String) (s : σ) (answer : Except TransportError Http.Response)
    (e : Note σ) : Prop :=
  ∃ uri w, Http.Uri.parse? target = some uri ∧
    m.connection.outgoing m.signature { method := "GET", uri } = .ok w ∧ e = .sent s w answer

/-- The notes hold an answer at a target that reads so. -/
def Tells (m : Manager) (notes : List (Note σ)) (target : String)
    (read : Http.Response → Except TransportError α) (a : α) : Prop :=
  ∃ e ∈ notes, ∃ s answer, m.Gets target s answer e ∧ answer >>= read = .ok a

/-- A group and version that the API server names, or a version of the core group. -/
def Names (m : Manager) (notes : List (Note σ)) (groupVersion : String) : Prop :=
  (∃ core, m.Tells notes "/api" (Client.decoded Discovery.coreVersions?) core ∧
    groupVersion ∈ core) ∨
  ∃ groups, m.Tells notes "/apis" (Client.decoded Discovery.groups?) groups ∧
    groupVersion ∈ groups.flatten

end Manager

namespace Gateway

/-- An index of schemas that is kept, or that the API server gives. -/
def HasIndex (g : Gateway σ) (m : Manager) (notes : List (Note σ)) (s : σ)
    (index : Schema.Index) : Prop :=
  ((g.schemaSlot m).get s).index? = some index ∨
  ∃ document, m.Tells notes "/openapi/v3" (Client.decoded Format.json?) document ∧
    index = Schema.indexOf document

/-- What mappers and schema sources read, among notes and in some state. Lists and documents are
read where the API server says that they are. -/
inductive Seeks (g : Gateway σ) (m : Manager) (notes : List (Note σ)) (s : σ) : String → Prop where
  | core : Seeks g m notes s "/api"
  | groups : Seeks g m notes s "/apis"
  | list {groupVersion : String} (named : m.Names notes groupVersion) :
      Seeks g m notes s
        (if '/' ∈ groupVersion.toList then "/apis/" ++ groupVersion else "/api/" ++ groupVersion)
  | index : Seeks g m notes s "/openapi/v3"
  | document {index : Schema.Index} {key target : String} (has : g.HasIndex m notes s index)
      (found : index.lookup key = some target) : Seeks g m notes s target

def IsLookup (g : Gateway σ) (m : Manager) (notes : List (Note σ)) (e : Note σ) : Prop :=
  ∃ target s answer, g.Seeks m notes s target ∧ m.Gets target s answer e

/-- Nothing but lookups, whatever else is noted. -/
def Looked (g : Gateway σ) (m : Manager) (added : List (Note σ)) : Prop :=
  ∀ notes, added ⊆ notes → ∀ e ∈ added, g.IsLookup m notes e

end Gateway

/-- What is noted when a request goes out in some state, if it can be signed. -/
def Manager.Forwards (m : Manager) (r : Http.Request) (s : σ)
    (answer : Except TransportError Http.Response) (own : List (Note σ)) : Prop :=
  match m.connection.outgoing m.signature r with
  | .ok w => own = [.sent s w answer]
  | .error _ => own = [] ∧ ∃ e, answer = .error e

variable {g : Gateway σ} {m : Manager}

theorem Gateway.writes_raw (g : Gateway σ) (m : Manager) (r : Http.Request)
    (n : Noted (Note σ) σ) :
    Writes n (m.Forwards r n.state) (g.recorded.raw m r) (g.raw m r) := by
  unfold raw Manager.Forwards
  cases hout : m.connection.outgoing m.signature r with
  | error e => exact .answer ⟨rfl, e, rfl⟩
  | ok w => exact ⟨[.sent n.state w (outcome (g.network w) n.state).1], rfl, rfl⟩

namespace Gateway.Looked

theorem nil : g.Looked m [] := by
  intro notes _ e he
  cases he

theorem append {first second : List (Note σ)} (hfirst : g.Looked m first)
    (hsecond : g.Looked m second) : g.Looked m (first ++ second) := by
  intro notes hnotes e he
  obtain ⟨hf, hs⟩ := List.append_subset.mp hnotes
  exact (List.mem_append.mp he).elim (hfirst notes hf e) (hsecond notes hs e)

end Gateway.Looked

/-- An action that notes nothing but lookups. In its place among all notes it may need some of
them. -/
def LooksFrom (g : Gateway σ) (m : Manager) (n : Noted (Note σ) σ) (needs : List (Note σ) → Prop)
    (x' : StateM (Noted (Note σ) σ) α) (x : StateM σ α) : Prop :=
  Writes n (fun _ added => ∀ notes, added ⊆ notes → needs notes →
    ∀ e ∈ added, g.IsLookup m notes e) x' x

/-- An action that adds no notes but of lookups, wherever it begins. -/
def Looks (g : Gateway σ) (m : Manager) (x' : StateM (Noted (Note σ) σ) α) (x : StateM σ α) :
    Prop :=
  ∀ n, Writes n (fun _ added => g.Looked m added) x' x

namespace LooksFrom

variable {n : Noted (Note σ) σ} {needs : List (Note σ) → Prop}

theorem answer (a : α) : LooksFrom g m n needs (pure a) (pure a) :=
  Writes.answer fun _ _ _ _ he => nomatch he

theorem of_looks {x' : StateM (Noted (Note σ) σ) α} {x : StateM σ α} (h : Looks g m x' x) :
    LooksFrom g m n needs x' x :=
  (h n).mono fun _ hlooked notes hnotes _ => hlooked notes hnotes

theorem weaken {needs' : List (Note σ) → Prop} {x' : StateM (Noted (Note σ) σ) α} {x : StateM σ α}
    (h : LooksFrom g m n needs x' x) (hneeds : ∀ notes, needs' notes → needs notes) :
    LooksFrom g m n needs' x' x :=
  h.mono fun _ hlooked notes hnotes hn => hlooked notes hnotes (hneeds notes hn)

theorem looked {x' : StateM (Noted (Note σ) σ) α} {x : StateM σ α}
    (h : LooksFrom g m n (fun _ => True) x' x) : Writes n (fun _ added => g.Looked m added) x' x :=
  h.mono fun _ hlooked notes hnotes => hlooked notes hnotes trivial

theorem bind {x' : StateM (Noted (Note σ) σ) α} {x : StateM σ α}
    {f' : α → StateM (Noted (Note σ) σ) β} {f : α → StateM σ β} (hx : LooksFrom g m n needs x' x)
    (hf : ∀ notes, LooksFrom g m ⟨(outcome x n.state).2, notes⟩ needs
      (f' (outcome x n.state).1) (f (outcome x n.state).1)) :
    LooksFrom g m n needs (x' >>= f') (x >>= f) := by
  refine Writes.bind hx fun first notes hfirst => (hf notes).mono fun second hsecond => ?_
  intro all hall hneeds e he
  obtain ⟨hf, hs⟩ := List.append_subset.mp hall
  exact (List.mem_append.mp he).elim (hfirst all hf hneeds e) (hsecond all hs hneeds e)

theorem mapM {f' : α → StateM (Noted (Note σ) σ) β} {f : α → StateM σ β} {as : List α}
    (hf : ∀ a ∈ as, ∀ n, LooksFrom g m n needs (f' a) (f a)) (n : Noted (Note σ) σ) :
    LooksFrom g m n needs (as.mapM f') (as.mapM f) := by
  induction as generalizing n with
  | nil => exact answer []
  | cons a as ih =>
    rw [List.mapM_cons, List.mapM_cons]
    refine (hf a List.mem_cons_self n).bind fun _ => ?_
    refine (ih (fun b hb => hf b (List.mem_cons_of_mem a hb)) _).bind fun _ => ?_
    exact answer _

end LooksFrom

namespace Looks

theorem quiet (x : StateM σ α) : Looks g m (quietly x) x :=
  fun _ => .quiet .nil

theorem answer (a : α) : Looks g m (pure a) (pure a) :=
  fun _ => .answer .nil

theorem bind {x' : StateM (Noted (Note σ) σ) α} {x : StateM σ α}
    {f' : α → StateM (Noted (Note σ) σ) β} {f : α → StateM σ β} (hx : Looks g m x' x)
    (hf : ∀ a, Looks g m (f' a) (f a)) : Looks g m (x' >>= f') (x >>= f) := by
  refine fun n => (hx n).bind fun first notes hfirst => ?_
  exact (hf _ _).mono fun second hsecond => hfirst.append hsecond

end Looks

theorem Slot.looks_read (slot : Slot σ α) : Looks g m slot.beside.read slot.read :=
  Looks.quiet slot.read

theorem Slot.looks_update (slot : Slot σ α) (f : α → α) :
    Looks g m (slot.beside.update f) (slot.update f) :=
  Looks.quiet (slot.update f)

namespace Gateway

variable {n : Noted (Note σ) σ} {needs : List (Note σ) → Prop}
  {read : Http.Response → Except TransportError α} {target : String}

/-- What is noted when a target is read in some state: nothing, or the request. -/
def Asks (m : Manager) (read : Http.Response → Except TransportError α) (target : String) (s : σ)
    (answer : Except TransportError α) (added : List (Note σ)) : Prop :=
  (added = [] ∧ ∃ e, answer = .error e) ∨
  ∃ e response, m.Gets target s response e ∧ added = [e] ∧ answer = response >>= read

theorem Asks.tells {s : σ} {answer : Except TransportError α} {added notes : List (Note σ)} {a : α}
    (h : Asks m read target s answer added) (hanswer : answer = .ok a) (hnotes : added ⊆ notes) :
    m.Tells notes target read a := by
  rcases h with ⟨-, cause, herror⟩ | ⟨e, response, hgets, rfl, hread⟩
  · cases herror.symm.trans hanswer
  · exact ⟨e, hnotes List.mem_cons_self, s, response, hgets, hread.symm.trans hanswer⟩

theorem Asks.lookup {s : σ} {answer : Except TransportError α} {added notes : List (Note σ)}
    (h : Asks m read target s answer added) (hseeks : g.Seeks m notes s target) :
    ∀ e ∈ added, g.IsLookup m notes e := by
  intro e he
  rcases h with ⟨rfl, -⟩ | ⟨asked, response, hgets, rfl, -⟩
  · cases he
  · obtain rfl := List.mem_singleton.mp he
    exact ⟨target, s, response, hseeks, hgets⟩

theorem writes_ask (g : Gateway σ) (m : Manager)
    (read : Http.Response → Except TransportError α) (target : String) (n : Noted (Note σ) σ) :
    Writes n (Asks m read target n.state)
      (Client.ask (g.recorded.raw m) read (Client.get target))
      (Client.ask (g.raw m) read (Client.get target)) := by
  unfold Client.ask Client.get
  cases hparse : Http.Uri.parse? target with
  | none => exact .answer (.inl ⟨rfl, _, rfl⟩)
  | some uri =>
    refine (g.writes_raw m _ n).map _ fun response added hadded => ?_
    unfold Manager.Forwards at hadded
    split at hadded
    · rename_i w hout
      exact .inr ⟨_, response, ⟨uri, w, hparse, hout, rfl⟩, hadded, rfl⟩
    · obtain ⟨rfl, e, rfl⟩ := hadded
      exact .inl ⟨rfl, e, rfl⟩

/-- What follows a lookup may need what it tells. -/
theorem looksFrom_ask {f' : Except TransportError α → StateM (Noted (Note σ) σ) β}
    {f : Except TransportError α → StateM σ β}
    (hseeks : ∀ notes, needs notes → g.Seeks m notes n.state target)
    (hf : ∀ answer n, LooksFrom g m n
      (fun notes => needs notes ∧ ∀ a, answer = .ok a → m.Tells notes target read a)
      (f' answer) (f answer)) :
    LooksFrom g m n needs (Client.ask (g.recorded.raw m) read (Client.get target) >>= f')
      (Client.ask (g.raw m) read (Client.get target) >>= f) := by
  refine (g.writes_ask m read target n).bind fun first notes hasks => ?_
  refine (hf _ _).mono fun second hsecond all hall hneeds e he => ?_
  obtain ⟨hfirst, hrest⟩ := List.append_subset.mp hall
  rcases List.mem_append.mp he with he | he
  · exact hasks.lookup (hseeks all hneeds) e he
  · exact hsecond all hrest ⟨hneeds, fun a ha => hasks.tells ha hfirst⟩ e he

theorem looks_listed (g : Gateway σ) (m : Manager) (groupVersion : String)
    (n : Noted (Note σ) σ) :
    LooksFrom g m n (fun notes => m.Names notes groupVersion)
      (Discovery.listed (g.recorded.raw m) groupVersion)
      (Discovery.listed (g.raw m) groupVersion) := by
  have htarget : Discovery.listTarget groupVersion =
      if '/' ∈ groupVersion.toList then "/apis/" ++ groupVersion else "/api/" ++ groupVersion := by
    simp only [Discovery.listTarget, List.contains_eq_mem, decide_eq_true_eq]
    rfl
  refine looksFrom_ask (fun notes hnamed => htarget ▸ .list hnamed) fun entries n => ?_
  cases entries with
  | error e => exact .answer _
  | ok entries => exact .answer _

theorem looks_fetch (g : Gateway σ) (m : Manager) :
    Looks g m (Discovery.fetch (g.recorded.raw m)) (Discovery.fetch (g.raw m)) := by
  refine fun n => LooksFrom.looked ?_
  refine looksFrom_ask (fun _ _ => .core) fun core n => ?_
  cases core with
  | error e => exact .answer _
  | ok core =>
    refine looksFrom_ask (fun _ _ => .groups) fun groups n => ?_
    cases groups with
    | error e => exact .answer _
    | ok groups =>
      refine (LooksFrom.mapM (fun indexed hindexed n => ?_) n).bind fun _ => .answer _
      obtain ⟨groupVersion, i⟩ := indexed
      have hmem : groupVersion ∈ core ++ groups.flatten := List.fst_mem_of_mem_zipIdx hindexed
      -- the two answers before name every list
      refine ((g.looks_listed m groupVersion n).weaken ?_).bind fun _ => .answer _
      rintro notes ⟨⟨-, hcore⟩, hgroups⟩
      rcases List.mem_append.mp hmem with hmem | hmem
      · exact .inl ⟨core, hcore core rfl, hmem⟩
      · exact .inr ⟨groups, hgroups groups rfl, hmem⟩

theorem looks_snapshot (g : Gateway σ) (m : Manager) :
    Looks g m
      (Discovery.read (g.recorded.discoverySlot m) (Discovery.fetch (g.recorded.raw m)))
      (Discovery.read (g.discoverySlot m) (Discovery.fetch (g.raw m))) := by
  have hslot : g.recorded.discoverySlot m = (g.discoverySlot m).beside := rfl
  rw [hslot]
  unfold Discovery.read Discovery.refresh
  refine (Slot.looks_read _).bind fun cache => ?_
  cases cache.current? with
  | some s => exact .answer _
  | none =>
    refine (Slot.looks_read _).bind fun cache => ?_
    cases cache.current? with
    | some s => exact .answer _
    | none =>
      refine (g.looks_fetch m).bind fun fetched => ?_
      cases fetched with
      | ok resources => exact (Slot.looks_update _ _).bind fun _ => .answer _
      | error e => exact (Slot.looks_read _).bind fun cache => .answer _

theorem looks_kindFor (g : Gateway σ) (m : Manager) (wanted : GroupVersionResource) :
    Looks g m ((g.recorded.mapper m).kindFor wanted) ((g.mapper m).kindFor wanted) :=
  (g.looks_snapshot m).bind fun _ => .answer _

theorem looks_mappingFor (g : Gateway σ) (m : Manager) (wanted : GroupVersionKind) :
    Looks g m ((g.recorded.mapper m).mappingFor wanted) ((g.mapper m).mappingFor wanted) :=
  (g.looks_snapshot m).bind fun _ => .answer _

theorem outcome_readIndex_kept {τ : Type} (slot : Slot τ Schema.Cache) (service : Client.Service τ)
    {s : τ} {index : Schema.Index} (h : (slot.get s).index? = some index) :
    outcome (Schema.readIndex slot service) s = (.ok index, s) := by
  simp only [Schema.readIndex, outcome_bind, Slot.outcome_read, h, outcome_pure]

theorem writes_givenIndex {g : Gateway σ} {m : Manager} {n : Noted (Note σ) σ}
    (hnone : ((g.schemaSlot m).get n.state).index? = none) :
    Writes n (fun answer added => g.Looked m added ∧ ∀ index, answer = .ok index →
        ∀ notes, added ⊆ notes → ∃ document,
          m.Tells notes "/openapi/v3" (Client.decoded Format.json?) document ∧
          index = Schema.indexOf document)
      (Schema.readIndex (g.schemaSlot m).beside (g.recorded.raw m))
      (Schema.readIndex (g.schemaSlot m) (g.raw m)) := by
  unfold Schema.readIndex
  rw [Slot.read_beside]
  refine Writes.after_quiet fun notes => ?_
  rw [Slot.outcome_read, hnone]
  refine (g.writes_ask m _ _ _).bind fun added notes hasks => ?_
  have hlooked : g.Looked m added := fun all _ => hasks.lookup .index
  cases hfetched : (outcome (Client.ask (g.raw m) (Client.decoded Format.json?)
      (Client.get "/openapi/v3")) n.state).1 with
  | error e => exact .answer ⟨hlooked.append .nil, nofun⟩
  | ok document =>
    dsimp only
    rw [Slot.update_beside]
    refine Writes.after_quiet fun notes => .answer ⟨hlooked.append .nil, ?_⟩
    intro index hindex all hall
    cases hindex
    exact ⟨document, hasks.tells hfetched (List.append_subset.mp hall).1, rfl⟩

/-- An index that is answered is kept, or it has just been given. -/
theorem writes_readIndex (g : Gateway σ) (m : Manager) (n : Noted (Note σ) σ) :
    Writes n (fun answer added => g.Looked m added ∧ ∀ index, answer = .ok index →
        ∀ notes, added ⊆ notes → g.HasIndex m notes
          (outcome (Schema.readIndex (g.schemaSlot m) (g.raw m)) n.state).2 index)
      (Schema.readIndex (g.schemaSlot m).beside (g.recorded.raw m))
      (Schema.readIndex (g.schemaSlot m) (g.raw m)) := by
  cases hkept : ((g.schemaSlot m).get n.state).index? with
  | none =>
    refine (writes_givenIndex hkept).mono fun added ⟨hlooked, hgiven⟩ => ⟨hlooked, ?_⟩
    exact fun index hanswer notes hnotes => .inr (hgiven index hanswer notes hnotes)
  | some index =>
    have hread := outcome_readIndex_kept _ (g.raw m) hkept
    have hrecorded := outcome_readIndex_kept (g.schemaSlot m).beside (g.recorded.raw m)
      (s := n) hkept
    refine ⟨[], ⟨.nil, ?_⟩, ?_⟩
    · rw [hread]
      intro index' hanswer notes _
      cases hanswer
      exact .inl hkept
    · rw [hread, hrecorded, List.append_nil]

/-- With an index in hand, only the document that it names is asked for. -/
theorem looks_readDocument (g : Gateway σ) (m : Manager) (tag : Nat) (key : String)
    (index : Schema.Index) (n : Noted (Note σ) σ) :
    LooksFrom g m n (fun notes => g.HasIndex m notes n.state index)
      (Schema.readDocument (g.schemaSlot m).beside (g.recorded.raw m) tag key index)
      (Schema.readDocument (g.schemaSlot m) (g.raw m) tag key index) := by
  unfold Schema.readDocument
  cases hfound : index.lookup key with
  | none => exact .answer _
  | some target =>
    refine looksFrom_ask (fun notes hhas => .document hhas hfound) fun document n => ?_
    cases document with
    | error e => exact .answer _
    | ok document => exact (LooksFrom.of_looks (Slot.looks_update _ _)).bind fun _ => .answer _

theorem looks_readComponents (g : Gateway σ) (m : Manager) (key : String) :
    Looks g m (Schema.readComponents (g.schemaSlot m).beside (g.recorded.raw m) key)
      (Schema.readComponents (g.schemaSlot m) (g.raw m) key) := by
  intro n
  unfold Schema.readComponents
  rw [Slot.read_beside]
  refine Writes.after_quiet fun notes => ?_
  rw [Slot.outcome_read]
  cases ((g.schemaSlot m).get n.state).document? key with
  | some components => exact .answer .nil
  | none =>
    refine (g.writes_readIndex m _).bind fun first notes ⟨hlooked, hhas⟩ => ?_
    cases hread : (outcome (Schema.readIndex (g.schemaSlot m) (g.raw m)) n.state).1 with
    | error e => exact .answer (hlooked.append .nil)
    | ok index =>
      -- the index that names the document is kept, or it stands among the notes of its reading
      refine (g.looks_readDocument m _ key index _).mono fun second hsecond all hall e he => ?_
      obtain ⟨hfirst, hrest⟩ := List.append_subset.mp hall
      rcases List.mem_append.mp he with he | he
      · exact hlooked all hfirst e he
      · exact hsecond all hrest (hhas index hread all hfirst) e he

theorem looks_published (g : Gateway σ) (m : Manager) (kind : GroupVersionKind) :
    Looks g m (Schema.published (g.recorded.schemaSlot m) (g.recorded.raw m) kind)
      (Schema.published (g.schemaSlot m) (g.raw m) kind) := by
  refine (g.looks_readComponents m (Schema.documentKey kind)).bind fun components => ?_
  split
  · exact .answer _
  · exact .answer _

end Gateway

end ClusterAccess
