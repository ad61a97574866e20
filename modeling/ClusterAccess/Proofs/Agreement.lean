import ClusterAccess.Proofs.Denial
import ClusterAccess.Proofs.Refusals
import ClusterAccess.Proofs.Requests

namespace ClusterAccess

open Coordinate (IsSegment)

variable {σ : Type}

namespace Operation

/-- The object that is operated on, where it has a name already. -/
def name? : Operation → Option String
  | get name | update name _ _ | delete name _ | patch name _ _ _ | apply name _ _ _ => some name
  | create _ _ | list _ | watch _ _ | deleteCollection _ _ => none

/-- The verb that the API server knows an operation by. -/
def verb : Operation → Verb
  | create _ _ => .create
  | get _ => .get
  | list _ => .list
  | watch _ _ => .watch
  | update _ _ _ => .update
  | delete _ _ => .delete
  | deleteCollection _ _ => .deleteCollection
  | patch _ _ _ _ | apply _ _ _ _ => .patch

theorem name_of_call {op : Operation} {call : Call} (h : op.call = .ok call) :
    call.name? = op.name? ∧ call.verb = op.verb := by
  cases op with
  | apply name object fieldManager force =>
    simp only [Operation.call] at h
    split at h
    · cases h
      exact ⟨rfl, rfl⟩
    · cases h
  | _ =>
    cases h
    exact ⟨rfl, rfl⟩

end Operation

namespace Discovery.Snapshot

/-- What API servers promise of the groups, versions and plurals that they publish: all of them can
stand in a path, and only the core group has the empty name. -/
structure Addressable (s : Snapshot) : Prop where
  group : ∀ e ∈ s.resources, e.group = "" ∨ IsSegment e.group
  version : ∀ e ∈ s.resources, IsSegment e.version
  plural : ∀ e ∈ s.resources, IsSegment e.plural

theorem kindFor_ok_iff {s : Snapshot} {wanted : GroupVersionResource} {kind : GroupVersionKind} :
    s.kindFor wanted = .ok kind ↔ ∃ e, s.byResource wanted = some e ∧ e.gvk = kind := by
  unfold kindFor
  cases s.byResource wanted <;> simp

/-- The entry behind a kind's mapping may be another one than the one that named the kind. -/
theorem mappingFor_ok {s : Snapshot} {kind : GroupVersionKind} {mapping : Mapping}
    (hv : kind.version ≠ "") (h : s.mappingFor kind = .ok mapping) :
    ∃ e ∈ s.resources, e.gvk = kind ∧ e.mapping = mapping := by
  unfold mappingFor at h
  split at h
  · rename_i e he
    refine ⟨e, List.mem_of_find?_eq_some he, ?_, Except.ok.inj h⟩
    have hfits := List.find?_some he
    simp only [Bool.and_eq_true, isOf_iff hv, decide_eq_true_eq] at hfits
    obtain ⟨⟨hgroup, hversion⟩, hkind⟩ := hfits
    simp only [ResourceType.gvk, hgroup, hversion, hkind]
  · cases h

end Discovery.Snapshot

/-- Binding a type takes two looks at what the cluster serves: one tells the kind, which the policy
is asked about, and the next tells how its objects are addressed. -/
theorem AccessClient.bind_of_answers {c : AccessClient σ}
    {snapshot : StateM σ (Except MappingError Discovery.Snapshot)}
    (hc : c.mapper = .ofSnapshots snapshot)
    {first second : Except MappingError Discovery.Snapshot} {s t u : σ}
    (h₁ : outcome snapshot s = (first, t)) (h₂ : outcome snapshot t = (second, u))
    (wanted : GroupVersionResource) :
    (outcome (c.bind wanted) s).1 = match first >>= (·.kindFor wanted) with
      | .error cause => .error (.unmapped wanted.display cause)
      | .ok kind =>
        if c.policy.denies kind then .error (.denied kind)
        else ((second >>= (·.mappingFor kind)).mapError (.unmapped wanted.display)).map
          (⟨kind, ·⟩) := by
  have hk : outcome (c.mapper.kindFor wanted) s = (first >>= (·.kindFor wanted), t) := by
    rw [hc]
    exact outcome_bind_of h₁ _
  have hm : ∀ kind, outcome (c.mapper.mappingFor kind) t = (second >>= (·.mappingFor kind), u) := by
    intro kind
    rw [hc]
    exact outcome_bind_of h₂ _
  cases hkind : first >>= (·.kindFor wanted) with
  | error cause => rw [bind_unmapped (hkind ▸ hk)]
  | ok kind =>
    cases hd : c.policy.denies kind with
    | true => simp [bind_denied (hkind ▸ hk) hd, hd]
    | false => simp [bind_allowed (hkind ▸ hk) hd (hm kind), hd]

/-- Binding a type within one snapshot, as one answer. -/
theorem AccessClient.bind_ofSnapshots {c : AccessClient σ}
    {snapshot : StateM σ (Except MappingError Discovery.Snapshot)} {snap : Discovery.Snapshot}
    (hc : c.mapper = .ofSnapshots snapshot) (hs : ∀ s, (outcome snapshot s).1 = .ok snap)
    (wanted : GroupVersionResource) (s : σ) :
    (outcome (c.bind wanted) s).1 = match snap.kindFor wanted with
      | .error cause => .error (.unmapped wanted.display cause)
      | .ok kind =>
        if c.policy.denies kind then .error (.denied kind)
        else ((snap.mappingFor kind).mapError (.unmapped wanted.display)).map (⟨kind, ·⟩) :=
  bind_of_answers hc (Prod.ext (hs s) rfl) (Prod.ext (hs _) rfl) wanted

/-- A binding that comes from one snapshot throughout is that of one of its entries. -/
theorem AccessClient.bind_ok {c : AccessClient σ}
    {snapshot : StateM σ (Except MappingError Discovery.Snapshot)} {snap : Discovery.Snapshot}
    (hc : c.mapper = .ofSnapshots snapshot) (hs : ∀ s, (outcome snapshot s).1 = .ok snap)
    (plain : snap.Addressable) {wanted : GroupVersionResource} {s : σ} {b : Binding}
    (hb : (outcome (c.bind wanted) s).1 = .ok b) :
    c.policy.denies b.kind = false ∧
      ∃ e ∈ snap.resources, e.gvk = b.kind ∧ e.mapping = b.mapping := by
  rw [bind_ofSnapshots hc hs] at hb
  cases hkind : snap.kindFor wanted with
  | error cause =>
    rw [hkind] at hb
    cases hb
  | ok kind =>
    obtain ⟨e, hfound, rfl⟩ := Discovery.Snapshot.kindFor_ok_iff.mp hkind
    have he := List.mem_of_find?_eq_some hfound
    cases hd : c.policy.denies e.gvk with
    | true => simp [hkind, hd] at hb
    | false =>
      simp only [hkind, hd, Bool.false_eq_true, ↓reduceIte] at hb
      cases hmapping : snap.mappingFor e.gvk with
      | error cause =>
        rw [hmapping] at hb
        cases hb
      | ok mapping =>
        rw [hmapping] at hb
        cases hb
        exact ⟨hd, Discovery.Snapshot.mappingFor_ok (plain.version e he).ne_empty hmapping⟩

namespace Gate

theorem classify_allowed {g : Gate σ} {c : Coordinate} {kind : GroupVersionKind} {s t : σ}
    (hk : outcome (g.mapper.kindFor c.gvr) s = (.ok kind, t))
    (hd : g.policy.denies kind = false) : outcome (g.classify c) s = (.ok kind, t) := by
  refine (outcome_bind_of hk _).trans ?_
  simp [hd]

/-- A gate that allows the kind of a request does not deny it. -/
theorem clearance_not_denied {g : Gate σ} {r : Http.Request} {c : Coordinate}
    {kind : GroupVersionKind} {s t : σ} (hc : Coordinate.ofRequest r.method r.uri = some c)
    (hk : outcome (g.classify c) s = (.ok kind, t)) (denied : GroupVersionKind) :
    (outcome (g.clearance r) s).1 ≠ .error (.denied denied) := by
  intro h
  unfold clearance at h
  simp only [hc] at h
  split at h
  · cases h
  · rw [outcome_bind_of hk] at h
    simp only at h
    split at h
    · cases h
    · rcases validate_error (Prod.ext h rfl) with ⟨_, he⟩ | ⟨_, he⟩ <;> cases he

end Gate

theorem Client.ask_noted_notes {α : Type} (service : Client.Service σ)
    (read : Http.Response → Except TransportError α) (d : Client.Draft)
    (n : Noted Http.Request σ) :
    (outcome (Client.ask service.noted read d) n).2.notes = n.notes ++ d.toOption.toList := by
  cases d with
  | error e => simp [Client.ask, Client.send, Except.toOption]
  | ok r => rfl

/-- What a handle allows no gate denies that looks into the same snapshot. The backend sends one
request for an operation, or none if the operation or its address cannot be written. To the gate
the request is about the group, the version and the plural of the handle's binding, about the
target's namespace and the operation's name, with the operation's verb; its kind is the one that
the handle was bound to. -/
theorem operation_agrees {snapshot : StateM σ (Except MappingError Discovery.Snapshot)}
    {snap : Discovery.Snapshot} (hs : ∀ s, (outcome snapshot s).1 = .ok snap)
    (named : snap.WellNamed) (plain : snap.Addressable) {c : AccessClient σ}
    (hc : c.mapper = .ofSnapshots snapshot) (chain : Option (Chain σ)) (selfReview : SelfReview)
    {wanted : GroupVersionResource} {s : σ} {b : Binding}
    (hb : (outcome (c.bind wanted) s).1 = .ok b) (ns : Option String)
    (hns : ∀ n ∈ ns, IsSegment n) (op : Operation) (hname : ∀ name ∈ op.name?, IsSegment name)
    {call : Call} (hcall : op.call = .ok call) (service : Client.Service σ)
    (n : Noted Http.Request σ) :
    let gate : Gate σ := ⟨c.policy, c.mapper, chain, selfReview⟩
    let goal : Target := ⟨b.mapping, ns⟩
    let about : Coordinate := ⟨b.kind.group, b.kind.version, b.mapping.plural, ns, op.name?, none,
      op.verb⟩
    let sent := outcome (Backend.ofService service.noted goal call) n
    (¬ call.IsIssued goal → sent.2.notes = n.notes) ∧
    (call.IsIssued goal → ∃ r, sent.2.notes = n.notes ++ [r] ∧
      Coordinate.ofRequest r.method r.uri = some about ∧
      ∀ t, (outcome (gate.classify about) t).1 = .ok b.kind ∧
        ∀ kind, (outcome (gate.clearance r) t).1 ≠ .error (.denied kind)) := by
  obtain ⟨kind, mapping⟩ := b
  obtain ⟨hd, e, he, rfl, rfl⟩ := AccessClient.bind_ok hc hs plain hb
  obtain ⟨hcallName, hcallVerb⟩ := Operation.name_of_call hcall
  have hgoal : Target.IsPlain ⟨e.mapping, ns⟩ :=
    ⟨plain.group e he, plain.version e he, plain.plural e he, hns⟩
  have hsegment : ∀ name ∈ call.name?, IsSegment name := hcallName ▸ hname
  have ho := Call.address_isOrigin fun s hs => (Call.segments_address hgoal hsegment s hs).plain
  refine ⟨?_, ?_⟩
  · intro hi
    obtain ⟨reason, hdraft⟩ := Call.draft_error ho hi
    simp [Backend.ofService, Client.ask_noted_notes, hdraft, Except.toOption]
  · intro hi
    obtain ⟨r, hdraft, hmethod, huri⟩ := Call.draft_ok ho hi
    have habout := Call.ofRequest_address hgoal hsegment
    rw [hcallName, hcallVerb, ← hmethod, ← huri] at habout
    have hfound : snap.byResource ⟨e.group, e.version, e.plural⟩ = some e :=
      Discovery.Snapshot.byResource_eq_some named he rfl rfl (plain.version e he).ne_empty
        (.inl rfl)
    have hkind : snap.kindFor ⟨e.group, e.version, e.plural⟩ = .ok e.gvk := by
      rw [Discovery.Snapshot.kindFor, hfound]
    refine ⟨r, ?_, habout, fun t => ?_⟩
    · simp [Backend.ofService, Client.ask_noted_notes, hdraft, Except.toOption]
    · have hmapper := Mapper.kindFor_ofSnapshots (Prod.ext (hs t) rfl)
        ⟨e.group, e.version, e.plural⟩
      rw [hkind, ← hc] at hmapper
      have hclassify := Gate.classify_allowed (g := ⟨c.policy, c.mapper, chain, selfReview⟩)
        (c := ⟨e.group, e.version, e.plural, ns, op.name?, none, op.verb⟩) hmapper hd
      exact ⟨congrArg Prod.fst hclassify, Gate.clearance_not_denied habout hclassify⟩

/-- Namespaces are a resource like others, even where a namespace is named in front of them. -/
theorem operation_agrees_on_namespaces :
    let snap : Discovery.Snapshot := ⟨[
      ⟨"", "v1", "Namespace", "namespaces", "namespace", false, ["get"]⟩,
      ⟨"apps", "v1", "Deployment", "deployments", "deployment", true, ["list"]⟩]⟩
    let gate : Gate Unit := ⟨⟨[⟨"apps", "v1", ""⟩]⟩, .ofSnapshots (pure (.ok snap)), none, {}⟩
    let about : Coordinate := ⟨"", "v1", "namespaces", some "team", some "blue", none, .delete⟩
    ∃ r, (outcome (Backend.ofService (Client.Service.noted fun _ => pure (.ok {}))
        ⟨⟨⟨"", "v1", "Namespace"⟩, "namespaces", false⟩, some "team"⟩ (.delete "blue" {}))
        ⟨(), []⟩).2.notes = [r] ∧
      Coordinate.ofRequest r.method r.uri = some about ∧
      ∀ t, (outcome (gate.classify about) t).1 = .ok ⟨"", "v1", "Namespace"⟩ ∧
        ∀ kind, (outcome (gate.clearance r) t).1 ≠ .error (.denied kind) := by
  intro snap gate about
  have hs : ∀ s : Unit, (outcome (pure (.ok snap) : StateM Unit
      (Except MappingError Discovery.Snapshot)) s).1 = .ok snap := fun _ => rfl
  have named : snap.WellNamed := by
    refine ⟨by decide +kernel, ?_⟩
    intro a ha b hb hgroup
    simp only [snap, List.mem_cons, List.not_mem_nil, or_false] at ha hb
    rcases ha with rfl | rfl <;> rcases hb with rfl | rfl
    all_goals simp at hgroup ⊢
  have plain : snap.Addressable := ⟨by decide +kernel, by decide +kernel, by decide +kernel⟩
  let client : AccessClient Unit := ⟨Backend.ofService fun _ => pure (.ok {}), gate.mapper,
    fun _ => pure (.ok true), gate.policy, "default"⟩
  have hbind : (outcome (client.bind ⟨"", "", "Namespace"⟩) ()).1 =
      .ok ⟨⟨"", "v1", "Namespace"⟩, ⟨"", "v1", "Namespace"⟩, "namespaces", false⟩ := by
    decide +kernel
  have hissued : Call.IsIssued (.delete "blue" {}) ⟨⟨⟨"", "v1", "Namespace"⟩, "namespaces", false⟩,
      some "team"⟩ := ⟨by decide +kernel, by decide +kernel⟩
  exact (operation_agrees hs named plain (c := client) rfl none {} hbind (some "team")
    (by decide +kernel) (.delete "blue" {}) (by decide +kernel) rfl (fun _ => pure (.ok {}))
    ⟨(), []⟩).2 hissued

end ClusterAccess
