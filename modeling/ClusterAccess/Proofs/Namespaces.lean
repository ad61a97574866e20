import ClusterAccess.Proofs.Agreement

namespace ClusterAccess

variable {σ : Type}

namespace Operation

/-- The operations that may concern the objects of all namespaces at once. -/
def IsCollective (op : Operation) : Prop :=
  op.verb = .list ∨ op.verb = .watch ∨ op.verb = .deleteCollection

theorem collectionVerb_of_collective {op : Operation} (h : op.IsCollective) :
    op.collectionVerb? = some op.verb := by
  cases op with
  | list | watch | deleteCollection => rfl
  | _ => simp [IsCollective, verb] at h

theorem collectionVerb_of_single {op : Operation} (h : ¬ op.IsCollective) :
    op.collectionVerb? = none := by
  cases op with
  | list | watch | deleteCollection => simp [IsCollective, verb] at h
  | _ => rfl

theorem single_of_unwritable {op : Operation} (h : ¬ op.IsWritable) : ¬ op.IsCollective := by
  cases op with
  | apply => simp [IsCollective, verb]
  | _ => simp [IsWritable] at h

end Operation

namespace AccessClient

/-- One call of the backend, whose answer is the operation's. -/
def called (c : AccessClient σ) (goal : Target) (call : Call) (n : Noted AccessCall σ) :
    Except Error Reply × Noted AccessCall σ :=
  let answer := outcome (c.backend goal call) n.state
  (answer.1.mapError Error.lift, ⟨answer.2, n.notes ++ [.backend goal call]⟩)

end AccessClient

namespace Handle

variable {c : AccessClient σ} {h : Handle} {b : Binding} {op : Operation}

/-- What comes of an operation that goes somewhere. -/
theorem run_called {goal : Target} {call : Call} {n m : Noted AccessCall σ}
    (hf : Finds c.noted h op n (.ok goal) m) (hc : op.call = .ok call) :
    outcome (h.run c.noted op) n = c.called goal call m := by
  rw [outcome_run_of_call hf hc]
  rfl

theorem run_unwritable {goal : Target} {n m : Noted AccessCall σ}
    (hf : Finds c.noted h op n (.ok goal) m) (hw : ¬ op.IsWritable) :
    outcome (h.run c.noted op) n = (.error (.internal "failed to encode apply body"), m) :=
  outcome_run_of_unwritten hf (Operation.call_of_unwritable hw)

theorem outcome_reviewer_noted {check : AccessCheck} {answer : Except TransportError Bool} {t : σ}
    {n : Noted AccessCall σ} (h : outcome (c.reviewer check) n.state = (answer, t)) :
    outcome (c.noted.reviewer check) n = (answer, ⟨t, n.notes ++ [.review check]⟩) := by
  rw [AccessClient.reviewer_noted, outcome_noting, h]

/-- Nobody is asked where an operation on one object goes. -/
theorem finds_single {s : σ} (hb : h.binding = .ok b) (hscope : b.mapping.namespaced = true)
    (hsingle : ¬ op.IsCollective) : ∃ goal, Finds c h op s (.ok goal) s := by
  have hverb := Operation.collectionVerb_of_single hsingle
  obtain ⟨found, t, hf⟩ := exists_finds c h op s
  cases hf with
  | refused unbound => cases hb.symm.trans unbound
  | misscoped hb' scope =>
    obtain rfl := Except.ok.inj (hb.symm.trans hb')
    cases hscope.symm.trans scope
  | clusterWide hb' scope =>
    obtain rfl := Except.ok.inj (hb.symm.trans hb')
    cases hscope.symm.trans scope
  | own hb' scope named => exact ⟨_, .own hb' scope named⟩
  | chosen hb' scope unnamed single object named =>
    exact ⟨_, .chosen hb' scope unnamed single object named⟩
  | unchosen hb' scope unnamed single object =>
    exact ⟨_, .unchosen hb' scope unnamed single object⟩
  | everywhere _ _ _ collection => cases hverb.symm.trans collection
  | withheld _ _ _ collection => cases hverb.symm.trans collection

/-- An operation on a namespaced kind makes one call of the backend, save that an object that cannot
be written is not applied. The call goes to the handle's namespace. Without one, an operation on a
collection goes to all namespaces if the one review that it takes allows it, and to the client's
default otherwise; any other operation goes to the namespace that its object names, or to the
client's default. -/
theorem run_namespaced (c : AccessClient σ) (hb : h.binding = .ok b)
    (hscope : b.mapping.namespaced = true) (op : Operation) (n : Noted AccessCall σ) :
    let answered := outcome (h.run c.noted op) n
    (¬ op.IsWritable → answered = (.error (.internal "failed to encode apply body"), n)) ∧
    (op.IsWritable → ∃ call, op.call = .ok call ∧
      (h.namespaceName ≠ "" →
        answered = c.called ⟨b.mapping, some h.namespaceName⟩ call n) ∧
      (h.namespaceName = "" → op.IsCollective →
        let check : AccessCheck :=
          ⟨op.verb.name, b.kind.group, "", b.mapping.plural, none, none, none⟩
        let reviewed := outcome (c.reviewer check) n.state
        let m : Noted AccessCall σ := ⟨reviewed.2, n.notes ++ [.review check]⟩
        (reviewed.1 = .ok true → answered = c.called ⟨b.mapping, none⟩ call m) ∧
        (reviewed.1 ≠ .ok true → answered = c.called ⟨b.mapping, some c.defaultNamespace⟩ call m)) ∧
      (h.namespaceName = "" → ¬ op.IsCollective →
        (∀ ns, op.objectNamespace = some ns → ns ≠ "" →
          answered = c.called ⟨b.mapping, some ns⟩ call n) ∧
        ((∀ ns, op.objectNamespace = some ns → ns = "") →
          answered = c.called ⟨b.mapping, some c.defaultNamespace⟩ call n))) := by
  intro answered
  refine ⟨?_, ?_⟩
  · intro hw
    obtain ⟨goal, hf⟩ := finds_single (c := c.noted) (s := n) hb hscope
      (Operation.single_of_unwritable hw)
    exact run_unwritable hf hw
  · intro hw
    obtain ⟨call, hcall⟩ := Operation.call_of_writable hw
    refine ⟨call, hcall, ?_, ?_, ?_⟩
    · intro named
      exact run_called (.own hb hscope named) hcall
    · intro unnamed hcollective check reviewed m
      have hverb := Operation.collectionVerb_of_collective hcollective
      have hreview : outcome (c.noted.reviewer check) n = (reviewed.1, m) :=
        outcome_reviewer_noted rfl
      refine ⟨?_, ?_⟩
      · intro hallowed
        rw [hallowed] at hreview
        exact run_called (.everywhere hb hscope unnamed hverb hreview) hcall
      · intro hrefused
        exact run_called (.withheld hb hscope unnamed hverb hreview hrefused) hcall
    · intro unnamed hsingle
      have hverb := Operation.collectionVerb_of_single hsingle
      refine ⟨?_, ?_⟩
      · intro ns hobject named
        exact run_called (.chosen hb hscope unnamed hverb hobject named) hcall
      · intro hobject
        exact run_called (.unchosen hb hscope unnamed hverb hobject) hcall

/-- A review that fails does not widen the deletion of a collection to all namespaces. -/
theorem run_namespaced_pods :
    let pods : Mapping := ⟨⟨"", "v1", "Pod"⟩, "pods", true⟩
    let h : Handle := ⟨.ok ⟨pods.gvk, pods⟩, ""⟩
    let c : AccessClient Unit := ⟨fun _ _ => pure (.ok .done), .ofSnapshots (pure (.ok ⟨[]⟩)),
      fun _ => pure (.error .decoding), ⟨[]⟩, "team-a"⟩
    h.binding = .ok ⟨pods.gvk, pods⟩ ∧ pods.namespaced = true ∧
    (outcome (h.run c.noted (.deleteCollection {} {})) ⟨(), []⟩).2.notes =
      [.review ⟨"deletecollection", "", "", "pods", none, none, none⟩,
        .backend ⟨pods, some "team-a"⟩ (.deleteCollection {} {})] := by
  intro pods h c
  refine ⟨rfl, rfl, ?_⟩
  have hb : h.binding = .ok ⟨pods.gvk, pods⟩ := rfl
  obtain ⟨call, hcall, -, hcollective, -⟩ :=
    (run_namespaced c hb rfl (.deleteCollection {} {}) ⟨(), []⟩).2 trivial
  cases hcall
  have hrun := (hcollective rfl (.inr (.inr rfl))).2 nofun
  rw [hrun]
  rfl

/-- What has text in the place of its other members cannot be written, and is not applied. -/
theorem apply_unwritable_asks_nobody :
    let pods : Mapping := ⟨⟨"", "v1", "Pod"⟩, "pods", true⟩
    let h : Handle := ⟨.ok ⟨pods.gvk, pods⟩, ""⟩
    let c : AccessClient Unit := ⟨fun _ _ => pure (.ok .done), .ofSnapshots (pure (.ok ⟨[]⟩)),
      fun _ => pure (.ok true), ⟨[]⟩, "team-a"⟩
    let object : Manifest := ⟨some ⟨"v1", "Pod"⟩, .obj [("name", .str "web")], .str "text"⟩
    outcome (h.run c.noted (.apply "web" object "kubegate" false)) ⟨(), []⟩ =
      (.error (.internal "failed to encode apply body"), ⟨(), []⟩) :=
  rfl

/-- An operation on a cluster-wide kind is refused if the handle names a namespace, before anybody
is asked. Otherwise it makes one call of the backend without a namespace, save that an object that
cannot be written is not applied, and no review. -/
theorem run_clusterWide (c : AccessClient σ) (hb : h.binding = .ok b)
    (hscope : b.mapping.namespaced = false) (op : Operation) (n : Noted AccessCall σ) :
    let answered := outcome (h.run c.noted op) n
    (h.namespaceName ≠ "" →
      answered = (.error (.scopeMismatch b.kind.kind h.namespaceName), n)) ∧
    (h.namespaceName = "" →
      (¬ op.IsWritable → answered = (.error (.internal "failed to encode apply body"), n)) ∧
      (op.IsWritable → ∃ call, op.call = .ok call ∧
        answered = c.called ⟨b.mapping, none⟩ call n)) := by
  intro answered
  refine ⟨?_, ?_⟩
  · intro named
    exact outcome_run_of_error (.misscoped hb hscope named)
  · intro unnamed
    refine ⟨?_, ?_⟩
    · intro hw
      exact run_unwritable (.clusterWide hb hscope unnamed) hw
    · intro hw
      obtain ⟨call, hcall⟩ := Operation.call_of_writable hw
      exact ⟨call, hcall, run_called (.clusterWide hb hscope unnamed) hcall⟩

theorem run_clusterWide_roles :
    let roles : Mapping :=
      ⟨⟨"rbac.authorization.k8s.io", "v1", "ClusterRole"⟩, "clusterroles", false⟩
    let b : Binding := ⟨roles.gvk, roles⟩
    let c : AccessClient Unit := ⟨fun _ _ => pure (.ok .done), .ofSnapshots (pure (.ok ⟨[]⟩)),
      fun _ => pure (.ok true), ⟨[]⟩, "team-a"⟩
    roles.namespaced = false ∧
    outcome (Handle.run c.noted ⟨.ok b, "team-b"⟩ (.list {})) ⟨(), []⟩ =
      (.error (.scopeMismatch "ClusterRole" "team-b"), ⟨(), []⟩) ∧
    (outcome (Handle.run c.noted ⟨.ok b, ""⟩ (.list {})) ⟨(), []⟩).2.notes =
      [.backend ⟨roles, none⟩ (.list {})] := by
  intro roles b c
  refine ⟨rfl, ?_, ?_⟩
  · have hb : (⟨.ok b, "team-b"⟩ : Handle).binding = .ok b := rfl
    exact (run_clusterWide c hb rfl (.list {}) ⟨(), []⟩).1 (by decide)
  · have hb : (⟨.ok b, ""⟩ : Handle).binding = .ok b := rfl
    obtain ⟨call, hcall, hrun⟩ := ((run_clusterWide c hb rfl (.list {}) ⟨(), []⟩).2 rfl).2 trivial
    cases hcall
    rw [hrun]
    rfl

/-- The namespace that an object itself names is neither used nor refused, whether the object is
created or applied. -/
theorem clusterWide_ignores_object_namespace :
    let roles : Mapping :=
      ⟨⟨"rbac.authorization.k8s.io", "v1", "ClusterRole"⟩, "clusterroles", false⟩
    let h : Handle := ⟨.ok ⟨roles.gvk, roles⟩, ""⟩
    let c : AccessClient Unit := ⟨fun _ _ => pure (.ok .done), .ofSnapshots (pure (.ok ⟨[]⟩)),
      fun _ => pure (.ok true), ⟨[]⟩, "team-a"⟩
    let object : Manifest := ⟨some ⟨"rbac.authorization.k8s.io/v1", "ClusterRole"⟩,
      .obj [("name", .str "admin"), ("namespace", .str "team-b")], .obj []⟩
    object.namespaceName = some "team-b" ∧
    outcome (h.run c.noted (.create object {})) ⟨(), []⟩ =
      (.ok .done, ⟨(), [.backend ⟨roles, none⟩ (.create {} object)]⟩) ∧
    ∃ body, object.toJson? = some body ∧
      outcome (h.run c.noted (.apply "admin" object "kubegate" false)) ⟨(), []⟩ =
        (.ok .done, ⟨(), [.backend ⟨roles, none⟩
          (.patch "admin" ⟨false, false, some "kubegate"⟩ .apply body)]⟩) := by
  refine ⟨by decide, rfl, ?_⟩
  exact ⟨_, rfl, rfl⟩

end Handle

end ClusterAccess
