import ClusterAccess.Proofs.Agreement

namespace ClusterAccess

variable {σ : Type}

/-- Two types are of one kind, where an empty version stands for every version. -/
structure ResourceType.SharesKind (f e : ResourceType) : Prop where
  group : f.group = e.group
  version : e.version = "" ∨ f.version = e.version
  kind : f.kind = e.kind

namespace Discovery.Snapshot

theorem sharesKind_iff {e f : ResourceType} :
    (f.isOf e.gvk.group e.gvk.version && f.kind = e.gvk.kind) = true ↔ f.SharesKind e := by
  simp only [ResourceType.isOf, Bool.and_eq_true, Bool.or_eq_true, decide_eq_true_eq]
  constructor
  · rintro ⟨⟨hgroup, hversion⟩, hkind⟩
    exact ⟨hgroup, hversion, hkind⟩
  · rintro ⟨hgroup, hversion, hkind⟩
    exact ⟨⟨hgroup, hversion⟩, hkind⟩

/-- The entry that stands for a kind is the one that the kind was read from, or one before it. -/
theorem byKind_gvk {s : Snapshot} {before after : List ResourceType} {e : ResourceType}
    (h : s.resources = before ++ e :: after) :
    ∃ f, s.byKind e.gvk = some f ∧
      ((f = e ∧ ∀ x ∈ before, ¬ x.SharesKind e) ∨ (f ∈ before ∧ f.SharesKind e)) := by
  have hself : e.SharesKind e := ⟨rfl, .inr rfl, rfl⟩
  unfold byKind
  simp only [h, List.find?_append, List.find?_cons, sharesKind_iff.mpr hself]
  cases hf : before.find? fun f => f.isOf e.gvk.group e.gvk.version && f.kind = e.gvk.kind with
  | none =>
    refine ⟨e, rfl, .inl ⟨rfl, fun x hx hshares => ?_⟩⟩
    exact List.find?_eq_none.mp hf x hx (sharesKind_iff.mpr hshares)
  | some f =>
    have hfits := List.find?_some hf
    exact ⟨f, rfl, .inr ⟨List.mem_of_find?_eq_some hf, sharesKind_iff.mp hfits⟩⟩

end Discovery.Snapshot

/-- A call that concerns the objects of a bound type and of no other. -/
def AccessCall.IsAbout (b : Binding) : AccessCall → Prop
  | .backend goal _ => goal.mapping = b.mapping
  | .review check => check.group = b.kind.group ∧ check.resource = b.mapping.plural

namespace Handle

/-- Whoever is asked for an operation on a bound handle is asked about the bound type. -/
theorem run_asks (c : AccessClient σ) {h : Handle} {b : Binding} (hb : h.binding = .ok b)
    (op : Operation) (n : Noted AccessCall σ) :
    ∃ asked, (outcome (h.run c.noted op) n).2.notes = n.notes ++ asked ∧
      ∀ call ∈ asked, call.IsAbout b := by
  obtain ⟨asked, hnotes, hasks, -⟩ := run_notes c h op n
  refine ⟨asked, hnotes, ?_⟩
  intro call hcall
  cases hasks call hcall with
  | review verb hb' =>
    obtain rfl := Except.ok.inj (hb.symm.trans hb')
    exact ⟨rfl, rfl⟩
  | backend hf => exact hf.mapping hb

end Handle

namespace AccessClient

/-- A handle is on the first entry of the kind that the requested type has. That is the requested
entry itself unless another of its kind stands before it, and it has the requested plural and
scope if all of them do. Every operation on the handle, in whatever namespaces, asks about this
entry and about no other. -/
theorem handle_addresses {snapshot : StateM σ (Except MappingError Discovery.Snapshot)}
    {snap : Discovery.Snapshot} (hs : ∀ s, (outcome snapshot s).1 = .ok snap) {c : AccessClient σ}
    (hc : c.mapper = .ofSnapshots snapshot) {wanted : GroupVersionResource} {s : σ} {b : Binding}
    (hb : (outcome (c.bind wanted) s).1 = .ok b) :
    ∃ before e after f, snap.resources = before ++ e :: after ∧ snap.byResource wanted = some e ∧
      b.kind = e.gvk ∧ b.mapping = f.mapping ∧
      ((f = e ∧ ∀ x ∈ before, ¬ x.SharesKind e) ∨ (f ∈ before ∧ f.SharesKind e)) ∧
      ((∀ x ∈ before, x.SharesKind e → x.plural = e.plural ∧ x.namespaced = e.namespaced) →
        b.mapping.plural = e.plural ∧ b.mapping.namespaced = e.namespaced) ∧
      ∀ scopes op n, ∃ asked,
        (outcome ((c.scopedHandle wanted s scopes).run c.noted op) n).2.notes = n.notes ++ asked ∧
        ∀ call ∈ asked, call.IsAbout b := by
  have hbinding := hb
  rw [bind_ofSnapshots hc hs] at hbinding
  unfold Discovery.Snapshot.kindFor at hbinding
  cases he : snap.byResource wanted with
  | none => simp [he] at hbinding
  | some e =>
    obtain ⟨-, before, after, hsplit, -⟩ := List.find?_eq_some_iff_append.mp he
    obtain ⟨f, hf, hfirst⟩ := Discovery.Snapshot.byKind_gvk hsplit
    cases hd : c.policy.denies e.gvk with
    | true => simp [he, hd] at hbinding
    | false =>
      simp only [he, hd, Discovery.Snapshot.mappingFor, hf, Bool.false_eq_true, ↓reduceIte]
        at hbinding
      cases hbinding
      refine ⟨before, e, after, f, hsplit, rfl, rfl, rfl, hfirst, ?_, ?_⟩
      · intro halike
        rcases hfirst with ⟨rfl, -⟩ | ⟨hmem, hshares⟩
        · exact ⟨rfl, rfl⟩
        · exact halike f hmem hshares
      · intro scopes op n
        exact Handle.run_asks c ((c.scopedHandle_binding wanted s scopes).trans hb) op n

/-- The plural of another group does not stand in the way. -/
theorem handle_addresses_nodes :
    let nodes : ResourceType := ⟨"", "v1", "Node", "nodes", "node", false, ["get"]⟩
    let metrics : ResourceType := ⟨"metrics", "v1", "Node", "nodemetrics", "", true, ["get"]⟩
    let c : AccessClient Unit := ⟨fun _ _ => pure (.error .decoding),
      .ofSnapshots (pure (.ok ⟨[metrics, nodes]⟩)), fun _ => pure (.ok true), ⟨[]⟩, "default"⟩
    ∃ before e after f, [metrics, nodes] = before ++ e :: after ∧
      Discovery.Snapshot.byResource ⟨[metrics, nodes]⟩ ⟨"", "v1", "nodes"⟩ = some e ∧
      nodes.gvk = e.gvk ∧ nodes.mapping = f.mapping ∧
      ((f = e ∧ ∀ x ∈ before, ¬ x.SharesKind e) ∨ (f ∈ before ∧ f.SharesKind e)) ∧
      ((∀ x ∈ before, x.SharesKind e → x.plural = e.plural ∧ x.namespaced = e.namespaced) →
        nodes.mapping.plural = e.plural ∧ nodes.mapping.namespaced = e.namespaced) ∧
      ∀ scopes op n, ∃ asked,
        (outcome ((c.scopedHandle ⟨"", "v1", "nodes"⟩ () scopes).run c.noted op) n).2.notes =
          n.notes ++ asked ∧
        ∀ call ∈ asked, call.IsAbout ⟨nodes.gvk, nodes.mapping⟩ := by
  intro nodes metrics c
  have hs : ∀ s : Unit, (outcome (pure (.ok ⟨[metrics, nodes]⟩) : StateM Unit
      (Except MappingError Discovery.Snapshot)) s).1 = .ok ⟨[metrics, nodes]⟩ := fun _ => rfl
  have hb : (outcome (c.bind ⟨"", "v1", "nodes"⟩) ()).1 = .ok ⟨nodes.gvk, nodes.mapping⟩ := by
    decide +kernel
  exact handle_addresses hs rfl hb

/-- Two types may share a kind, and then the one that stands later cannot be had. A handle asked
for templates deletes what is called so among the processed ones. -/
theorem handle_misses_later_of_kind :
    let processed : ResourceType :=
      ⟨"example.com", "v1", "Template", "processedtemplates", "", true, ["create"]⟩
    let templates : ResourceType :=
      ⟨"example.com", "v1", "Template", "templates", "", true, ["create", "delete", "get", "list"]⟩
    let snap : Discovery.Snapshot := ⟨[processed, templates]⟩
    let wanted : GroupVersionResource := ⟨"example.com", "v1", "templates"⟩
    let c : AccessClient Unit := ⟨fun _ _ => pure (.ok .done), .ofSnapshots (pure (.ok snap)),
      fun _ => pure (.ok true), ⟨[]⟩, "team-a"⟩
    snap.byResource wanted = some templates ∧
    (outcome (c.bind wanted) ()).1 = .ok ⟨templates.gvk, processed.mapping⟩ ∧
    processed.mapping.plural ≠ templates.plural ∧
    (outcome ((c.scopedHandle wanted () ["team-b"]).run c.noted (.delete "web" {})) ⟨(), []⟩).2.notes
      = [.backend ⟨processed.mapping, some "team-b"⟩ (.delete "web" {})] := by
  intro processed templates snap wanted c
  have hb : (outcome (c.bind wanted) ()).1 = .ok ⟨templates.gvk, processed.mapping⟩ := by
    decide +kernel
  have hscoped : c.scopedHandle wanted () ["team-b"] =
      ⟨.ok ⟨templates.gvk, processed.mapping⟩, "team-b"⟩ :=
    congrArg (Handle.mk · "team-b") hb
  refine ⟨by decide +kernel, hb, by decide, ?_⟩
  rw [hscoped]
  rfl

end AccessClient

end ClusterAccess
