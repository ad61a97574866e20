import ClusterAccess.Proofs.Admission
import ClusterAccess.Proofs.Coordinates

namespace ClusterAccess

variable {σ : Type}

/-- A type is called by its plural, or by its singular if it has one, in letters of either case. -/
def ResourceType.IsCalled (e : ResourceType) (name : String) : Prop :=
  Text.lower e.plural = Text.lower name ∨
    e.singular ≠ "" ∧ Text.lower e.singular = Text.lower name

namespace Discovery.Snapshot

/-- What API servers promise of the names that they publish: small letters, and within a group
and version no name for two types. -/
structure WellNamed (s : Snapshot) : Prop where
  lower : ∀ e ∈ s.resources, Text.lower e.plural = e.plural ∧ Text.lower e.singular = e.singular
  unique : ∀ a ∈ s.resources, ∀ b ∈ s.resources, a.group = b.group → a.version = b.version →
    ∀ name, a.answersTo name = true → b.answersTo name = true → a = b

theorem answersTo_lower {s : Snapshot} (hs : s.WellNamed) {e : ResourceType}
    (he : e ∈ s.resources) {name : String} (hn : e.IsCalled name) :
    e.answersTo (Text.lower name) = true := by
  obtain ⟨hplural, hsingular⟩ := hs.lower e he
  unfold ResourceType.answersTo
  rcases hn with hn | ⟨hne, hn⟩
  · have hname : e.plural = Text.lower name := hplural.symm.trans hn
    simp [hname]
  · have hname : e.singular = Text.lower name := hsingular.symm.trans hn
    simp [hname ▸ hne, hname]

theorem isOf_iff {e : ResourceType} {group version : String} (hv : version ≠ "") :
    e.isOf group version = true ↔ e.group = group ∧ e.version = version := by
  simp [ResourceType.isOf, hv]

/-- The first entry that fits is the only one, so that no other type can stand in front of it. -/
theorem byResource_eq_some {s : Snapshot} (hs : s.WellNamed) {e : ResourceType}
    (he : e ∈ s.resources) {wanted : GroupVersionResource} (hg : e.group = wanted.group)
    (hv : e.version = wanted.version) (hne : wanted.version ≠ "")
    (hn : e.IsCalled wanted.resource) : s.byResource wanted = some e := by
  have hname := answersTo_lower hs he hn
  have hfits : (e.isOf wanted.group wanted.version && e.answersTo (Text.lower wanted.resource))
      = true := by
    rw [Bool.and_eq_true, isOf_iff hne]
    exact ⟨⟨hg, hv⟩, hname⟩
  cases hf : s.byResource wanted with
  | none =>
    have hnone := List.find?_eq_none.mp hf e he
    exact absurd hfits hnone
  | some found =>
    have hfound := List.find?_some hf
    simp only [Bool.and_eq_true, isOf_iff hne] at hfound
    obtain ⟨⟨hfg, hfv⟩, hfn⟩ := hfound
    rw [hs.unique found (List.mem_of_find?_eq_some hf) e he (hfg.trans hg.symm)
      (hfv.trans hv.symm) _ hfn hname]

end Discovery.Snapshot

theorem Mapper.kindFor_ofSnapshots
    {snapshot : StateM σ (Except MappingError Discovery.Snapshot)} {snap : Discovery.Snapshot}
    {s t : σ} (h : outcome snapshot s = (.ok snap, t)) (wanted : GroupVersionResource) :
    outcome ((Mapper.ofSnapshots snapshot).kindFor wanted) s = (snap.kindFor wanted, t) :=
  outcome_bind_of h _

namespace Gate

theorem classify_denied {g : Gate σ} {c : Coordinate} {kind : GroupVersionKind} {s t : σ}
    (hk : outcome (g.mapper.kindFor c.gvr) s = (.ok kind, t))
    (hd : g.policy.denies kind = true) :
    outcome (g.classify c) s = (.error (.denied kind), t) := by
  refine (outcome_bind_of hk _).trans ?_
  simp [hd]

/-- A gate with rules looks at every request that names a resource. -/
theorem clearance_refused {g : Gate σ} {r : Http.Request} {c : Coordinate} {e : Error} {s t : σ}
    (hc : Coordinate.ofRequest r.method r.uri = some c) (hp : g.policy.isEmpty = false)
    (hk : outcome (g.classify c) s = (.error e, t)) :
    outcome (g.clearance r) s = (.error e, t) := by
  unfold clearance
  simp only [hc, hp, Bool.false_and, Bool.false_eq_true, ↓reduceIte]
  exact outcome_bind_of hk _

/-- The deny policy cannot be got around. A request whose path names a resource of a denied kind
is refused with that kind, and the service behind the gate is not called, whatever the method, the
query, the headers, the body, the validators and the resource of self-permission reviews. -/
theorem guard_refuses_denied (policy : DenyPolicy)
    (snapshot : StateM σ (Except MappingError Discovery.Snapshot)) (chain : Option (Chain σ))
    (selfReview : SelfReview) (service : Client.Service σ) (r : Http.Request)
    (n : Noted Http.Request σ) {snap : Discovery.Snapshot} {t : σ}
    (hs : outcome snapshot n.state = (.ok snap, t)) (named : snap.WellNamed) {c : Coordinate}
    (hc : Coordinate.resolve r.method r.uri.path = some c) {e : ResourceType}
    (he : e ∈ snap.resources) (hg : e.group = c.group) (hv : e.version = c.version)
    (hn : e.IsCalled c.resource) {rule : DenyRule} (hr : rule ∈ policy.rules)
    (hd : rule.Matches e.gvk) :
    outcome ((Gate.mk policy (Mapper.ofSnapshots snapshot) chain selfReview).quiet.guard
        service.noted r) n = (.error (.gateway (.denied e.gvk)), ⟨t, n.notes⟩) := by
  obtain ⟨verb, hverb⟩ := Coordinate.ofRequest_of_resolve hc
  have hfound : snap.byResource c.gvr = some e :=
    Discovery.Snapshot.byResource_eq_some named he hg hv (Coordinate.version_ne_of_resolve hc) hn
  have hkind : outcome ((Mapper.ofSnapshots snapshot).kindFor c.gvr) n.state = (.ok e.gvk, t) := by
    rw [Mapper.kindFor_ofSnapshots hs, Discovery.Snapshot.kindFor, hfound]
  have hrules : policy.isEmpty = false := by
    simpa [DenyPolicy.isEmpty] using List.ne_nil_of_mem hr
  have hclassify := classify_denied (g := ⟨policy, Mapper.ofSnapshots snapshot, chain, selfReview⟩)
    (c := { c with verb }) hkind (DenyPolicy.denies_iff.mpr ⟨rule, hr, hd⟩)
  rw [outcome_guard, clearance_refused hverb hrules hclassify]

/-- Capital letters, a watch, a rule for a whole version and the exemption of reviews do not open
a way to secrets. -/
theorem guard_refuses_secrets_in_capitals :
    outcome ((Gate.mk ⟨[⟨"apps", "v1", ""⟩, ⟨"", "v1", ""⟩]⟩
        (Mapper.ofSnapshots (pure (.ok ⟨[⟨"", "v1", "Pod", "pods", "pod", true, ["get"]⟩,
          ⟨"", "v1", "Secret", "secrets", "secret", true, ["get", "watch"]⟩]⟩)))
        (some ⟨[⟨"assent", fun _ => pure (.ok ())⟩]⟩) ⟨"", "SECRETS"⟩).quiet.guard
        (Client.Service.noted fun _ => pure (.ok {}))
        { method := "GET", uri := ⟨none, none, "/api/v1//namespaces/team/SECRETS", "watch=1"⟩ })
      ⟨(), []⟩ = (.error (.gateway (.denied ⟨"", "v1", "Secret"⟩)), ⟨(), []⟩) := by
  have hrule : (⟨"", "v1", ""⟩ : DenyRule) ∈ [⟨"apps", "v1", ""⟩, ⟨"", "v1", ""⟩] := by simp
  refine guard_refuses_denied _ _ _ _ _ _ ⟨(), []⟩ rfl ?_
    (c := ⟨"", "v1", "SECRETS", some "team", none, none, .list⟩) (by decide)
    (e := ⟨"", "v1", "Secret", "secrets", "secret", true, ["get", "watch"]⟩) (by simp) rfl rfl
    (.inl (by decide)) hrule ⟨rfl, rfl, .inl rfl⟩
  constructor
  · decide
  · intro a ha b hb _ _ name hna hnb
    simp only [List.mem_cons, List.not_mem_nil, or_false] at ha hb
    rcases ha with rfl | rfl <;> rcases hb with rfl | rfl
    all_goals
      simp only [ResourceType.answersTo, Bool.or_eq_true, Bool.and_eq_true, decide_eq_true_eq]
        at hna hnb
      first
        | rfl
        | (rcases hna with rfl | ⟨-, rfl⟩ <;> simp at hnb)

end Gate

end ClusterAccess
