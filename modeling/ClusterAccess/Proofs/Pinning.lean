import ClusterAccess.Discovery.Cache
import ClusterAccess.Proofs.Agreement

namespace ClusterAccess

variable {σ : Type}

namespace AccessClient

/-- What binding a type comes to, where the kind is told from one answer and its mapping taken from
another. -/
inductive Binds (c : AccessClient σ) (wanted : GroupVersionResource)
    (first second : Except MappingError Discovery.Snapshot) : Except Refusal Binding → Prop where
  | unmapped (cause : MappingError) :
      Binds c wanted first second (.error (.unmapped wanted.display cause))
  | denied {seen : Discovery.Snapshot} {e : ResourceType} {rule : DenyRule}
      (first_ok : first = .ok seen) (served : seen.byResource wanted = some e)
      (mem : rule ∈ c.policy.rules) (hit : rule.Matches e.gvk) :
      Binds c wanted first second (.error (.denied e.gvk))
  | bound {seen later : Discovery.Snapshot} {e f : ResourceType} (first_ok : first = .ok seen)
      (served : seen.byResource wanted = some e)
      (allowed : ∀ rule ∈ c.policy.rules, ¬ rule.Matches e.gvk) (second_ok : second = .ok later)
      (mem : f ∈ later.resources) (same : f.gvk = e.gvk) :
      Binds c wanted first second (.ok ⟨e.gvk, f.mapping⟩)

theorem binds_of_answers {c : AccessClient σ}
    {snapshot : StateM σ (Except MappingError Discovery.Snapshot)}
    (hc : c.mapper = .ofSnapshots snapshot)
    {first second : Except MappingError Discovery.Snapshot} {s t u : σ}
    (h₁ : outcome snapshot s = (first, t)) (h₂ : outcome snapshot t = (second, u))
    (hv : ∀ seen, first = .ok seen → ∀ e ∈ seen.resources, e.version ≠ "")
    (wanted : GroupVersionResource) :
    Binds c wanted first second (outcome (c.bind wanted) s).1 := by
  rw [bind_of_answers hc h₁ h₂]
  cases first with
  | error cause => exact .unmapped cause
  | ok seen =>
    have hfirst : (Except.ok seen >>= fun x => x.kindFor wanted) = seen.kindFor wanted := rfl
    rw [hfirst]
    cases hk : seen.kindFor wanted with
    | error cause => exact .unmapped cause
    | ok kind =>
      obtain ⟨e, he, rfl⟩ := Discovery.Snapshot.kindFor_ok_iff.mp hk
      cases hd : c.policy.denies e.gvk with
      | true =>
        obtain ⟨rule, hr, hm⟩ := DenyPolicy.denies_iff.mp hd
        simp only [hd, ↓reduceIte]
        exact .denied rfl he hr hm
      | false =>
        have hrules := DenyPolicy.not_denies_iff.mp hd
        simp only [hd, Bool.false_eq_true, ↓reduceIte]
        cases second with
        | error cause => exact .unmapped cause
        | ok later =>
          have hsecond : (Except.ok later >>= fun x => x.mappingFor e.gvk) =
              later.mappingFor e.gvk := rfl
          rw [hsecond]
          cases hm : later.mappingFor e.gvk with
          | error cause => exact .unmapped cause
          | ok mapping =>
            have hversion : e.gvk.version ≠ "" := hv seen rfl e (List.mem_of_find?_eq_some he)
            obtain ⟨f, hf, hsame, rfl⟩ := Discovery.Snapshot.mappingFor_ok hversion hm
            exact .bound rfl he hrules rfl hf hsame

/-- The kind that was allowed is the kind that is bound, whatever becomes of the cluster's types
between the two looks at them. What is bound is one entry of the later snapshot, and no rule denies
it; a type that is not bound is denied as the kind that the first snapshot serves for it, or it
cannot be told or addressed. -/
theorem handle_keeps_kind {c : AccessClient σ}
    {snapshot : StateM σ (Except MappingError Discovery.Snapshot)}
    (hc : c.mapper = .ofSnapshots snapshot)
    {first second : Except MappingError Discovery.Snapshot} {s t u : σ}
    (h₁ : outcome snapshot s = (first, t)) (h₂ : outcome snapshot t = (second, u))
    (hv : ∀ seen, first = .ok seen → ∀ e ∈ seen.resources, e.version ≠ "")
    (wanted : GroupVersionResource) :
    let h := (outcome (c.handle wanted) s).1
    (∀ b, h.binding = .ok b → h.kind = .ok b.mapping.gvk ∧
      (∀ rule ∈ c.policy.rules, ¬ rule.Matches b.mapping.gvk) ∧
      (∃ seen e, first = .ok seen ∧ seen.byResource wanted = some e ∧ e.gvk = b.mapping.gvk) ∧
      ∃ later f, second = .ok later ∧ f ∈ later.resources ∧ f.gvk = b.mapping.gvk ∧
        f.plural = b.mapping.plural ∧ f.namespaced = b.mapping.namespaced) ∧
    ∀ refusal, h.binding = .error refusal →
      (∃ seen e, first = .ok seen ∧ seen.byResource wanted = some e ∧
        refusal = .denied e.gvk ∧ ∃ rule ∈ c.policy.rules, rule.Matches e.gvk) ∨
      ∃ cause, refusal = .unmapped wanted.display cause := by
  intro h
  have hbinds := binds_of_answers hc h₁ h₂ hv wanted
  refine ⟨?_, ?_⟩
  · intro b hb
    rw [show (outcome (c.bind wanted) s).1 = .ok b from hb] at hbinds
    have hkind : h.kind = .ok b.kind := by
      rw [Handle.kind, Handle.bound_of_binding hb]
      rfl
    cases hbinds with
    | @bound seen later e f first_ok served allowed second_ok mem same =>
      have hgvk : f.mapping.gvk = e.gvk := same
      refine ⟨hgvk ▸ hkind, ?_, ⟨seen, e, first_ok, served, hgvk.symm⟩,
        ⟨later, f, second_ok, mem, rfl, rfl, rfl⟩⟩
      rw [hgvk]
      exact allowed
  · intro refusal hr
    rw [show (outcome (c.bind wanted) s).1 = .error refusal from hr] at hbinds
    cases hbinds with
    | unmapped cause => exact .inr ⟨cause, rfl⟩
    | @denied seen e rule first_ok served mem hit =>
      exact .inl ⟨seen, e, first_ok, served, rfl, rule, mem, hit⟩

/-- The gadgets move to another plural and leave namespaces, and a denied type takes their name,
while the cache is declared stale and fetched again between the two looks. -/
theorem handle_keeps_gadgets :
    let gadgets : ResourceType := ⟨"shop", "v1", "Gadget", "gadgets", "gadget", true, ["get"]⟩
    let vaults : ResourceType := ⟨"shop", "v1", "Vault", "gadgets", "gadget", true, ["get"]⟩
    let moved : ResourceType := ⟨"shop", "v1", "Gadget", "gizmos", "gizmo", false, ["get"]⟩
    let fetch : Discovery.Fetch (Discovery.Cache × Bool) :=
      fun s => (.ok (if s.2 then [vaults, moved] else [gadgets]), (s.1, true))
    let slot : Slot (Discovery.Cache × Bool) Discovery.Cache := ⟨Prod.fst, fun a s => (a, s.2)⟩
    let c : AccessClient (Discovery.Cache × Bool) := {
      backend := fun _ _ => pure (.ok .done)
      mapper := .ofSnapshots do
        slot.update Discovery.Cache.invalidate
        Discovery.read slot fetch
      reviewer := fun _ => pure (.ok true)
      policy := ⟨[⟨"shop", "v1", "Vault"⟩]⟩
      defaultNamespace := "team" }
    let h := (outcome (c.handle ⟨"shop", "v1", "gadgets"⟩) ({}, false)).1
    h.binding = .ok ⟨gadgets.gvk, moved.mapping⟩ ∧ h.kind = .ok moved.mapping.gvk ∧
      ∀ rule ∈ c.policy.rules, ¬ rule.Matches moved.mapping.gvk := by
  intro gadgets vaults moved fetch slot c h
  have hb : h.binding = .ok ⟨gadgets.gvk, moved.mapping⟩ := by decide +kernel
  have hv : ∀ seen : Discovery.Snapshot,
      Except.ok ⟨[gadgets]⟩ = (.ok seen : Except MappingError _) →
      ∀ e ∈ seen.resources, e.version ≠ "" := by
    intro seen hseen e he
    obtain rfl := Except.ok.inj hseen
    rw [List.mem_singleton.mp he]
    decide
  have h₁ : outcome (do slot.update Discovery.Cache.invalidate; Discovery.read slot fetch)
      ({}, false) = (.ok ⟨[gadgets]⟩, (⟨2, 2, some ⟨[gadgets]⟩⟩, true)) := rfl
  have h₂ : outcome (do slot.update Discovery.Cache.invalidate; Discovery.read slot fetch)
      (⟨2, 2, some ⟨[gadgets]⟩⟩, true) =
        (.ok ⟨[vaults, moved]⟩, (⟨3, 3, some ⟨[vaults, moved]⟩⟩, true)) := rfl
  obtain ⟨hkind, hrules, -⟩ := (handle_keeps_kind (c := c) rfl h₁ h₂ hv _).1 _ hb
  exact ⟨hb, hkind, hrules⟩

end AccessClient

end ClusterAccess
