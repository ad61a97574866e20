import ClusterAccess.Connection.Basic
import ClusterAccess.Proofs.Namespaces

namespace ClusterAccess

open AccessClient (spanCheck)
open Coordinate (IsSegment route pieces)

variable {σ : Type}

namespace Target

theorem mem_segments {m : Mapping} {ns s : String} :
    s ∈ (⟨m, some ns⟩ : Target).segments ↔
      s ∈ (⟨m, none⟩ : Target).segments ∨ s = "namespaces" ∨ s = ns := by
  simp only [segments, List.mem_append, List.mem_cons, List.not_mem_nil, or_false]
  constructor
  · rintro (hbase | hnamespaces | hns | hplural)
    · exact .inl (.inl hbase)
    · exact .inr (.inl hnamespaces)
    · exact .inr (.inr hns)
    · exact .inl (.inr hplural)
  · rintro ((hbase | hplural) | hnamespaces | hns)
    · exact .inl hbase
    · exact .inr (.inr (.inr hplural))
    · exact .inr (.inl hnamespaces)
    · exact .inr (.inr (.inl hns))

end Target

namespace Call

variable {m : Mapping} {call : Call}

/-- What a gate reads from the request for a call into an empty namespace. The plural stands where
the namespace should, and the name of an object where the plural should; without a name the path is
that of a namespace that is called like the plural. -/
def mistaken (call : Call) (m : Mapping) : Coordinate :=
  match call.name? with
  | none => ⟨m.gvk.group, m.gvk.version, "namespaces", none, some m.plural, none,
      Verb.ofMethod call.method false⟩
  | some name => ⟨m.gvk.group, m.gvk.version, name, some m.plural, none, none,
      Verb.ofMethod call.method true⟩

theorem plain_of_empty_namespace (hm : (⟨m, none⟩ : Target).IsPlain)
    (hname : ∀ name ∈ call.name?, IsSegment name) :
    ∀ s ∈ (⟨m, some ""⟩ : Target).segments ++ call.name?.toList,
      ∀ c ∈ s.toList, c ≠ '/' ∧ c ≠ '?' ∧ c ≠ '#' := by
  have hnamespaces : IsSegment "namespaces" := by decide +kernel
  intro s hs
  rcases List.mem_append.mp hs with hs | hs
  · rcases Target.mem_segments.mp hs with hs | rfl | rfl
    · exact (hm.segments s hs).plain
    · exact hnamespaces.plain
    · intro c hc
      simp at hc
  · exact (hname s (Option.mem_toList.mp hs)).plain

theorem pieces_of_empty_namespace (hm : (⟨m, none⟩ : Target).IsPlain)
    (hname : ∀ name ∈ call.name?, IsSegment name) :
    pieces (call.address ⟨m, some ""⟩).path =
      match call.name? with
      | none => (⟨{ m with plural := "namespaces" }, none⟩ : Target).segments ++ [m.plural]
      | some name => (⟨{ m with plural := name }, some m.plural⟩ : Target).segments := by
  rw [address, Coordinate.pieces_route_of_plain (plain_of_empty_namespace hm hname)]
  have hversion := hm.version.ne_empty
  have hplural := hm.plural.ne_empty
  cases hn : call.name? with
  | none =>
    by_cases hg : m.gvk.group = "" <;> simp [Target.segments, hg, hversion, hplural]
  | some name =>
    have hne := (hname name hn).ne_empty
    by_cases hg : m.gvk.group = "" <;> simp [Target.segments, hg, hversion, hplural, hne]

theorem ofRequest_of_empty_namespace (hm : (⟨m, none⟩ : Target).IsPlain)
    (hname : ∀ name ∈ call.name?, IsSegment name) :
    Coordinate.ofRequest call.method (call.address ⟨m, some ""⟩) = some (call.mistaken m) := by
  have hresolve : Coordinate.resolve call.method (call.address ⟨m, some ""⟩).path =
      some (call.mistaken m) := by
    rw [Coordinate.resolve, pieces_of_empty_namespace hm hname, mistaken]
    cases call.name? with
    | none =>
      exact Target.ofPieces_segments ⟨{ m with plural := "namespaces" }, none⟩ call.method
        (some m.plural)
    | some name =>
      have hpieces := Target.ofPieces_segments ⟨{ m with plural := name }, some m.plural⟩
        call.method none
      rwa [Option.toList_none, List.append_nil] at hpieces
  unfold Coordinate.ofRequest
  rw [hresolve]
  -- only getting an object is taken for listing, and it asks for nothing in a query
  cases call <;> simp [mistaken, method, name?, Verb.ofMethod, address, parameters?]

end Call

namespace Handle

variable {c : AccessClient σ} {h : Handle} {b : Binding} {op : Operation} {s t : σ}

/-- Neither the handle nor the object names a namespace for the operation, and it may not span all
of them. -/
structure FallsBack (c : AccessClient σ) (h : Handle) (b : Binding) (op : Operation) (s : σ) :
    Prop where
  scope : b.mapping.namespaced = true
  handle : h.namespaceName = ""
  object : ∀ ns, op.objectNamespace = some ns → ns = ""
  withheld : ∀ verb, op.collectionVerb? = some verb →
    (outcome (c.reviewer (spanCheck b verb)) s).1 ≠ .ok true

theorem FallsBack.finds (hf : FallsBack c h b op s) (hb : h.binding = .ok b) :
    ∃ t, Finds c h op s (.ok ⟨b.mapping, some c.defaultNamespace⟩) t := by
  cases hv : op.collectionVerb? with
  | none => exact ⟨_, .unchosen hb hf.scope hf.handle hv hf.object⟩
  | some verb => exact ⟨_, .withheld hb hf.scope hf.handle hv rfl (hf.withheld verb hv)⟩

/-- A reviewer that leaves notes answers as it does without. -/
theorem fallsBack_noted {n : Noted AccessCall σ} :
    FallsBack c.noted h b op n ↔ FallsBack c h b op n.state := by
  constructor
  · intro hf
    exact ⟨hf.scope, hf.handle, hf.object, hf.withheld⟩
  · intro hf
    exact ⟨hf.scope, hf.handle, hf.object, hf.withheld⟩

/-- Only the client's default can be an empty namespace. -/
theorem Finds.empty_iff {goal : Target} (hf : Finds c h op s (.ok goal) t)
    (hb : h.binding = .ok b) :
    goal.namespaceName = some "" ↔ c.defaultNamespace = "" ∧ FallsBack c h b op s := by
  constructor
  · intro hempty
    cases hf with
    | clusterWide => cases hempty
    | own _ _ named => exact absurd (Option.some.inj hempty) named
    | chosen _ _ _ _ _ named => exact absurd (Option.some.inj hempty) named
    | everywhere => cases hempty
    | unchosen hb' scope unnamed single object =>
      obtain rfl := Except.ok.inj (hb.symm.trans hb')
      refine ⟨Option.some.inj hempty, scope, unnamed, object, ?_⟩
      intro verb hverb
      cases single.symm.trans hverb
    | withheld hb' scope unnamed collection answered unallowed =>
      obtain rfl := Except.ok.inj (hb.symm.trans hb')
      refine ⟨Option.some.inj hempty, scope, unnamed, ?_, ?_⟩
      · intro ns hobject
        cases op with
        | create | apply => cases collection
        | _ => cases hobject
      · intro verb hverb
        cases collection.symm.trans hverb
        rw [answered]
        exact unallowed
  · rintro ⟨hdefault, hfalls⟩
    obtain ⟨t', hf'⟩ := hfalls.finds hb
    cases (hf.unique hf').1
    exact congrArg some hdefault

/-- An operation goes into an empty namespace just where the client's default is empty and nobody
names another namespace for it. What a gate reads from its request is then about something else;
from a request into any other namespace, or into none, a gate reads what the operation is. -/
theorem run_into_empty_iff (c : AccessClient σ) (hb : h.binding = .ok b) (op : Operation)
    (n : Noted AccessCall σ) :
    ∃ asked, (outcome (h.run c.noted op) n).2.notes = n.notes ++ asked ∧
      ((∃ goal call, .backend goal call ∈ asked ∧ goal.namespaceName = some "") ↔
        c.defaultNamespace = "" ∧ FallsBack c h b op n.state ∧ op.IsWritable) ∧
      ∀ goal call r, .backend goal call ∈ asked → call.draft goal = .ok r →
        (⟨b.mapping, none⟩ : Target).IsPlain → (∀ name ∈ op.name?, IsSegment name) →
        (goal.namespaceName = some "" →
          Coordinate.ofRequest r.method r.uri = some (call.mistaken b.mapping)) ∧
        ((∀ ns ∈ goal.namespaceName, IsSegment ns) →
          Coordinate.ofRequest r.method r.uri = some ⟨b.mapping.gvk.group, b.mapping.gvk.version,
            b.mapping.plural, goal.namespaceName, op.name?, none, op.verb⟩) := by
  obtain ⟨asked, hnotes, hasks, hbackend⟩ := run_notes c h op n
  refine ⟨asked, hnotes, ⟨?_, ?_⟩, ?_⟩
  · rintro ⟨goal, call, hcall, hempty⟩
    cases hasks _ hcall with
    | backend found written =>
      obtain ⟨hdefault, hfalls⟩ := (found.empty_iff hb).mp hempty
      refine ⟨hdefault, fallsBack_noted.mp hfalls, ?_⟩
      by_contra hw
      cases written.symm.trans (Operation.call_of_unwritable hw)
  · rintro ⟨hdefault, hfalls, hw⟩
    obtain ⟨call, hcall⟩ := Operation.call_of_writable hw
    obtain ⟨m, hf⟩ := (fallsBack_noted.mpr hfalls).finds hb
    exact ⟨_, call, hbackend _ call m hf hcall, congrArg some hdefault⟩
  · intro goal call r hcall hdraft hm hname
    cases hasks _ hcall with
    | backend found written =>
      obtain ⟨hcallName, hcallVerb⟩ := Operation.name_of_call written
      have hsegment : ∀ name ∈ call.name?, IsSegment name := hcallName ▸ hname
      obtain ⟨mapping, ns⟩ := goal
      obtain rfl : mapping = b.mapping := found.mapping hb
      refine ⟨?_, ?_⟩
      · rintro rfl
        have ho := Call.address_isOrigin (Call.plain_of_empty_namespace hm hsegment)
        obtain ⟨hmethod, huri⟩ := Call.uri_of_draft ho hdraft
        rw [hmethod, huri, Call.ofRequest_of_empty_namespace hm hsegment]
      · intro hns
        have hgoal : Target.IsPlain ⟨b.mapping, ns⟩ := ⟨hm.group, hm.version, hm.plural, hns⟩
        have ho := Call.address_isOrigin fun s hs =>
          (Call.segments_address hgoal hsegment s hs).plain
        obtain ⟨hmethod, huri⟩ := Call.uri_of_draft ho hdraft
        rw [hmethod, huri, Call.ofRequest_address hgoal hsegment, hcallName, hcallVerb]

/-- The deletion of all pods in an empty namespace is taken for that of a namespace. -/
theorem run_into_empty_pods :
    let pods : Mapping := ⟨⟨"", "v1", "Pod"⟩, "pods", true⟩
    let h : Handle := ⟨.ok ⟨pods.gvk, pods⟩, ""⟩
    let c : AccessClient Unit := ⟨fun _ _ => pure (.ok .done), .ofSnapshots (pure (.ok ⟨[]⟩)),
      fun _ => pure (.ok false), ⟨[]⟩, ""⟩
    let call : Call := .deleteCollection {} {}
    h.binding = .ok ⟨pods.gvk, pods⟩ ∧
    .backend ⟨pods, some ""⟩ call ∈
      (outcome (h.run c.noted (.deleteCollection {} {})) ⟨(), []⟩).2.notes ∧
    ∃ r, call.draft ⟨pods, some ""⟩ = .ok r ∧ Coordinate.ofRequest r.method r.uri =
      some ⟨"", "v1", "namespaces", none, some "pods", none, .delete⟩ := by
  intro pods h c call
  have hb : h.binding = .ok ⟨pods.gvk, pods⟩ := rfl
  have hm : (⟨pods, none⟩ : Target).IsPlain :=
    ⟨by decide +kernel, by decide +kernel, by decide +kernel, nofun⟩
  have hname : ∀ name ∈ call.name?, IsSegment name := nofun
  have ho := Call.address_isOrigin (Call.plain_of_empty_namespace hm hname)
  obtain ⟨r, hdraft, -⟩ := Call.draft_ok ho ⟨by decide +kernel, by decide +kernel⟩
  obtain ⟨asked, hnotes, -, hread⟩ := run_into_empty_iff c hb (.deleteCollection {} {}) ⟨(), []⟩
  obtain rfl : asked = [.review ⟨"deletecollection", "", "", "pods", none, none, none⟩,
    .backend ⟨pods, some ""⟩ call] := hnotes.symm
  have hcall : AccessCall.backend ⟨pods, some ""⟩ call ∈
      [.review ⟨"deletecollection", "", "", "pods", none, none, none⟩,
        .backend ⟨pods, some ""⟩ call] := List.mem_cons_of_mem _ List.mem_cons_self
  have hmistaken := (hread _ _ r hcall hdraft hm hname).1 rfl
  exact ⟨hb, hcall, r, hdraft, hmistaken⟩

/-- A context may set an empty namespace. A handle on pods then lists the pods of no namespace at
all by a request that is refused as one for a namespace, though pods are allowed. -/
theorem run_into_empty_namespace_of_context :
    let k : Kubeconfig := {
      clusters := [⟨"c", some { server := some "http://cluster" }⟩]
      contexts := [⟨"main", some { cluster := "c", namespaceName := some "" }⟩] }
    let connection : Connection :=
      { server := ⟨some "http", some "cluster", "/", none⟩, defaultNamespace := "" }
    let pods : ResourceType := ⟨"", "v1", "Pod", "pods", "pod", true, ["list"]⟩
    let namespaces : ResourceType :=
      ⟨"", "v1", "Namespace", "namespaces", "namespace", false, ["get"]⟩
    let c : AccessClient Unit := ⟨fun _ _ => pure (.ok .done),
      .ofSnapshots (pure (.ok ⟨[pods, namespaces]⟩)), fun _ => pure (.ok false),
      ⟨[⟨"", "v1", "Namespace"⟩]⟩, connection.defaultNamespace⟩
    let gate : Gate Unit := ⟨c.policy, c.mapper, none, {}⟩
    let r : Http.Request :=
      { method := "GET", uri := ⟨none, none, "/api/v1/namespaces//pods", some ""⟩ }
    Connection.ofContext {} k "main" = .ok connection ∧
    (outcome ((c.scopedHandle ⟨"", "v1", "pods"⟩ () []).run c.noted (.list {})) ⟨(), []⟩).2.notes =
      [.review ⟨"list", "", "", "pods", none, none, none⟩,
        .backend ⟨pods.mapping, some ""⟩ (.list {})] ∧
    (Call.list {}).draft ⟨pods.mapping, some ""⟩ = .ok r ∧
    Coordinate.ofRequest r.method r.uri =
      some ⟨"", "v1", "namespaces", none, some "pods", none, .get⟩ ∧
    (outcome (gate.clearance r) ()).1 = .error (.denied namespaces.gvk) := by
  refine ⟨?_, ?_, ?_, ?_, ?_⟩
  · rfl
  · rfl
  · rfl
  · decide +kernel
  · rfl

end Handle

end ClusterAccess
