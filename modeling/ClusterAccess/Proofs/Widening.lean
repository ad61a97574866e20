import ClusterAccess.Proofs.Denial
import ClusterAccess.Proofs.Refusals

namespace ClusterAccess

variable {σ : Type} {fewer more : DenyPolicy}

namespace DenyPolicy

theorem denies_of_subset (h : fewer.rules ⊆ more.rules) {kind : GroupVersionKind}
    (hd : fewer.denies kind = true) : more.denies kind = true := by
  obtain ⟨rule, hr, hm⟩ := denies_iff.mp hd
  exact denies_iff.mpr ⟨rule, h hr, hm⟩

theorem isEmpty_of_subset (h : fewer.rules ⊆ more.rules) (he : more.isEmpty = true) :
    fewer.isEmpty = true := by
  simp only [isEmpty, List.isEmpty_iff] at he ⊢
  exact List.subset_nil.mp (he ▸ h)

theorem denies_congr (h : fewer.rules ⊆ more.rules) (h' : more.rules ⊆ fewer.rules) :
    more.denies = fewer.denies := by
  funext kind
  exact Bool.eq_iff_iff.mpr ⟨denies_of_subset h', denies_of_subset h⟩

theorem isEmpty_congr (h : fewer.rules ⊆ more.rules) (h' : more.rules ⊆ fewer.rules) :
    more.isEmpty = fewer.isEmpty :=
  Bool.eq_iff_iff.mpr ⟨isEmpty_of_subset h, isEmpty_of_subset h'⟩

end DenyPolicy

/-- What more rules may make of an answer. They leave it, they refuse what it grants, or they deny
a kind that was refused for another reason. -/
inductive Tightens {α ε : Type} (denial : GroupVersionKind → ε) :
    Except ε α → Except ε α → Prop where
  | same (answer : Except ε α) : Tightens denial answer answer
  | refused (a : α) (e : ε) : Tightens denial (.ok a) (.error e)
  | denied (e : ε) (kind : GroupVersionKind) (other : ∀ k, e ≠ denial k) :
    Tightens denial (.error e) (.error (denial kind))

namespace Tightens

variable {α ε : Type} {denial : GroupVersionKind → ε} {p q : Except ε α}

theorem error (h : Tightens denial p q) {e : ε} (hp : p = .error e) :
    q = .error e ∨ ∃ kind, q = .error (denial kind) := by
  subst hp
  cases h with
  | same => exact .inl rfl
  | denied e kind other => exact .inr ⟨kind, rfl⟩

theorem denial_stays (h : Tightens denial p q) {kind : GroupVersionKind}
    (hp : p = .error (denial kind)) : q = .error (denial kind) := by
  subst hp
  cases h with
  | same => rfl
  | denied e other hne => exact absurd rfl (hne kind)

theorem ok (h : Tightens denial p q) {a : α} (hq : q = .ok a) : p = .ok a := by
  subst hq
  cases h
  rfl

end Tightens

namespace Gate

/-- The gate with another deny policy. -/
def under (g : Gate σ) (policy : DenyPolicy) : Gate σ :=
  { g with policy }

theorem classify_unmapped {g : Gate σ} {c : Coordinate} {cause : MappingError} {s t : σ}
    (hk : outcome (g.mapper.kindFor c.gvr) s = (.error cause, t)) :
    outcome (g.classify c) s = (.error (.mapping c.gvr.display cause), t) :=
  outcome_bind_of hk _

/-- More rules deny a kind that was told, or they change nothing. -/
theorem classify_under (g : Gate σ) (h : fewer.rules ⊆ more.rules) (c : Coordinate) (s : σ) :
    outcome ((g.under more).classify c) s = outcome ((g.under fewer).classify c) s ∨
      ∃ kind t, outcome ((g.under fewer).classify c) s = (.ok kind, t) ∧
        outcome ((g.under more).classify c) s = (.error (.denied kind), t) := by
  cases hk : outcome (g.mapper.kindFor c.gvr) s with
  | mk answer t =>
    cases answer with
    | error cause =>
      left
      rw [classify_unmapped (g := g.under more) hk, classify_unmapped (g := g.under fewer) hk]
    | ok kind =>
      have denied : ∀ policy : DenyPolicy, policy.denies kind = true →
          outcome ((g.under policy).classify c) s = (.error (.denied kind), t) :=
        fun policy => classify_denied (g := g.under policy) hk
      have allowed : ∀ policy : DenyPolicy, policy.denies kind = false →
          outcome ((g.under policy).classify c) s = (.ok kind, t) :=
        fun policy hd => classify_ok_iff.mpr ⟨hk, hd⟩
      cases hm : more.denies kind with
      | false =>
        have hf : fewer.denies kind = false := by
          cases hf : fewer.denies kind with
          | false => rfl
          | true => simp [DenyPolicy.denies_of_subset h hf] at hm
        exact .inl ((allowed more hm).trans (allowed fewer hf).symm)
      | true =>
        cases hf : fewer.denies kind with
        | true => exact .inl ((denied more hm).trans (denied fewer hf).symm)
        | false => exact .inr ⟨kind, t, allowed fewer hf, denied more hm⟩

/-- A request passes only as it came. -/
theorem clearance_passes {g : Gate σ} {r sent : Http.Request} {s : σ}
    (h : (outcome (g.clearance r) s).1 = .ok sent) : sent = r :=
  (clearance_ok (t := (outcome (g.clearance r) s).2) (Prod.ext h rfl)).1

theorem clearance_of_unplaced {g : Gate σ} {r : Http.Request}
    (hc : Coordinate.ofRequest r.method r.uri = none) : g.clearance r = pure (.ok r) := by
  unfold clearance
  rw [hc]

/-- A gate without rules and without validators tells no kind. -/
theorem clearance_of_unguarded {g : Gate σ} {r : Http.Request} {c : Coordinate}
    (hc : Coordinate.ofRequest r.method r.uri = some c) (hp : g.policy.isEmpty = true)
    (hn : g.chain = none) : g.clearance r = pure (.ok r) := by
  unfold clearance
  simp [hc, hp, hn]

/-- What a gate does once it knows the kind. -/
def proceed (g : Gate σ) (c : Coordinate) (r : Http.Request) :
    Except Error GroupVersionKind → StateM σ (Except Error Http.Request)
  | .error e => pure (.error e)
  | .ok kind =>
    match g.chain with
    | none => pure (.ok r)
    | some chain => g.validate chain c kind r

theorem clearance_of_guarded {g : Gate σ} {r : Http.Request} {c : Coordinate}
    (hc : Coordinate.ofRequest r.method r.uri = some c)
    (hg : (g.policy.isEmpty && g.chain.isNone) = false) :
    g.clearance r = g.classify c >>= g.proceed c r := by
  unfold clearance
  simp only [hc, hg, Bool.false_eq_true, ↓reduceIte]
  refine bind_congr fun answer => ?_
  cases answer <;> rfl

/-- Validators refuse, and do not deny. -/
theorem proceed_error {g : Gate σ} {c : Coordinate} {r : Http.Request} {kind : GroupVersionKind}
    {e : Error} {s : σ} (h : (outcome (g.proceed c r (.ok kind)) s).1 = .error e)
    (k : GroupVersionKind) : e ≠ .denied k := by
  unfold proceed at h
  cases hn : g.chain with
  | none =>
    simp only [hn] at h
    cases h
  | some chain =>
    simp only [hn] at h
    rcases validate_error (Prod.ext h rfl) with ⟨reason, rfl⟩ | ⟨cause, rfl⟩ <;> nofun

theorem clearance_under (g : Gate σ) (h : fewer.rules ⊆ more.rules) (r : Http.Request) (s : σ) :
    Tightens .denied (outcome ((g.under fewer).clearance r) s).1
      (outcome ((g.under more).clearance r) s).1 := by
  cases hc : Coordinate.ofRequest r.method r.uri with
  | none =>
    rw [clearance_of_unplaced hc, clearance_of_unplaced hc]
    exact .same _
  | some c =>
    cases hf : fewer.isEmpty && g.chain.isNone with
    | true =>
      -- Without rules no kind is told, so that more rules may also fail to tell one.
      simp only [Bool.and_eq_true, Option.isNone_iff_eq_none] at hf
      rw [clearance_of_unguarded (g := g.under fewer) hc hf.1 hf.2]
      cases hm : (outcome ((g.under more).clearance r) s).1 with
      | error e => exact .refused r e
      | ok sent =>
        rw [clearance_passes hm]
        exact .same _
    | false =>
      have hm : (more.isEmpty && g.chain.isNone) = false := by
        cases hm : more.isEmpty with
        | false => rfl
        | true => simpa [DenyPolicy.isEmpty_of_subset h hm] using hf
      rw [clearance_of_guarded (g := g.under fewer) hc hf,
        clearance_of_guarded (g := g.under more) hc hm, outcome_bind, outcome_bind]
      rcases classify_under g h c s with heq | ⟨kind, t, hfewer, hmore⟩
      · rw [heq]
        exact .same _
      · simp only [hfewer, hmore]
        cases hp : (outcome ((g.under fewer).proceed c r (.ok kind)) t).1 with
        | ok sent => exact .refused sent _
        | error e => exact .denied e kind (proceed_error hp)

theorem clearance_congr (g : Gate σ) (h : fewer.rules ⊆ more.rules)
    (h' : more.rules ⊆ fewer.rules) : (g.under more).clearance = (g.under fewer).clearance := by
  have hclassify : (g.under more).classify = (g.under fewer).classify := by
    unfold classify under
    simp only [DenyPolicy.denies_congr h h']
  have hempty := DenyPolicy.isEmpty_congr h h'
  funext r
  cases hc : Coordinate.ofRequest r.method r.uri with
  | none => rw [clearance_of_unplaced hc, clearance_of_unplaced hc]
  | some c =>
    cases hf : fewer.isEmpty && g.chain.isNone with
    | true =>
      simp only [Bool.and_eq_true, Option.isNone_iff_eq_none] at hf
      rw [clearance_of_unguarded (g := g.under fewer) hc hf.1 hf.2,
        clearance_of_unguarded (g := g.under more) hc (hempty.trans hf.1) hf.2]
    | false =>
      rw [clearance_of_guarded (g := g.under fewer) hc hf,
        clearance_of_guarded (g := g.under more) hc (hempty ▸ hf), hclassify]
      rfl

end Gate

namespace AccessClient

/-- The client with another deny policy. -/
def under (c : AccessClient σ) (policy : DenyPolicy) : AccessClient σ :=
  { c with policy }

theorem bind_under (c : AccessClient σ) (h : fewer.rules ⊆ more.rules)
    (wanted : GroupVersionResource) (s : σ) :
    Tightens .denied (outcome ((c.under fewer).bind wanted) s).1
      (outcome ((c.under more).bind wanted) s).1 := by
  cases hk : outcome (c.mapper.kindFor wanted) s with
  | mk answer t =>
    cases answer with
    | error cause =>
      rw [bind_unmapped (c := c.under fewer) hk, bind_unmapped (c := c.under more) hk]
      exact .same _
    | ok kind =>
      cases hf : fewer.denies kind with
      | true =>
        rw [bind_denied (c := c.under fewer) hk hf,
          bind_denied (c := c.under more) hk (DenyPolicy.denies_of_subset h hf)]
        exact .same _
      | false =>
        rw [bind_allowed (c := c.under fewer) hk hf rfl]
        cases hm : more.denies kind with
        | false =>
          rw [bind_allowed (c := c.under more) hk hm rfl]
          exact .same _
        | true =>
          rw [bind_denied (c := c.under more) hk hm]
          -- The mapping is asked for under fewer rules only, and may be refused there.
          change Tightens _ (((outcome (c.mapper.mappingFor kind) t).1.mapError _).map _) _
          cases (outcome (c.mapper.mappingFor kind) t).1 with
          | ok mapping => exact .refused _ _
          | error cause => exact .denied _ _ (fun _ => nofun)

theorem bind_congr (c : AccessClient σ) (h : fewer.rules ⊆ more.rules)
    (h' : more.rules ⊆ fewer.rules) : (c.under more).bind = (c.under fewer).bind := by
  unfold bind under
  simp only [DenyPolicy.denies_congr h h']

end AccessClient

/-- Denying more never admits more. Whatever a gate refuses it refuses under more rules, for the
same reason or as denied; what it denies it denies with the same kind; and what it lets through
under more rules it lets through under fewer. Rules in another order or said twice change nothing.
The same holds of binding a resource type. -/
theorem more_rules_refuse_more (h : fewer.rules ⊆ more.rules) (g : Gate σ) (c : AccessClient σ) :
    (∀ r s,
      (∀ e, (outcome ((g.under fewer).clearance r) s).1 = .error e →
        (outcome ((g.under more).clearance r) s).1 = .error e ∨
          ∃ kind, (outcome ((g.under more).clearance r) s).1 = .error (.denied kind)) ∧
      (∀ kind, (outcome ((g.under fewer).clearance r) s).1 = .error (.denied kind) →
        (outcome ((g.under more).clearance r) s).1 = .error (.denied kind)) ∧
      (∀ sent, (outcome ((g.under more).clearance r) s).1 = .ok sent →
        (outcome ((g.under fewer).clearance r) s).1 = .ok sent)) ∧
    (∀ wanted s,
      (∀ refusal, (outcome ((c.under fewer).bind wanted) s).1 = .error refusal →
        (outcome ((c.under more).bind wanted) s).1 = .error refusal ∨
          ∃ kind, (outcome ((c.under more).bind wanted) s).1 = .error (.denied kind)) ∧
      (∀ kind, (outcome ((c.under fewer).bind wanted) s).1 = .error (.denied kind) →
        (outcome ((c.under more).bind wanted) s).1 = .error (.denied kind)) ∧
      (∀ bound, (outcome ((c.under more).bind wanted) s).1 = .ok bound →
        (outcome ((c.under fewer).bind wanted) s).1 = .ok bound)) ∧
    (more.rules ⊆ fewer.rules →
      (g.under more).clearance = (g.under fewer).clearance ∧
      (c.under more).bind = (c.under fewer).bind) := by
  refine ⟨?_, ?_, ?_⟩
  · intro r s
    have hgate := g.clearance_under h r s
    exact ⟨fun e => hgate.error, fun kind => hgate.denial_stays, fun sent => hgate.ok⟩
  · intro wanted s
    have hclient := c.bind_under h wanted s
    exact ⟨fun e => hclient.error, fun kind => hclient.denial_stays, fun bound => hclient.ok⟩
  · intro h'
    exact ⟨g.clearance_congr h h', c.bind_congr h h'⟩

/-- Secrets stay denied, to the gate and to handles, when rules come before and between those that
were there and one of them is said again. -/
theorem more_rules_refuse_more_secrets :
    let secrets : ResourceType := ⟨"", "v1", "Secret", "secrets", "secret", true, ["get"]⟩
    let mapper : Mapper Unit := .ofSnapshots (pure (.ok ⟨[secrets]⟩))
    let more : DenyPolicy :=
      ⟨[⟨"", "v1", "Secret"⟩, ⟨"batch", "v1", ""⟩, ⟨"apps", "v1", ""⟩, ⟨"", "v1", "Secret"⟩]⟩
    let g : Gate Unit := ⟨more, mapper, none, {}⟩
    let c : AccessClient Unit :=
      ⟨fun _ _ => pure (.error .decoding), mapper, fun _ => pure (.ok true), more, "default"⟩
    let r : Http.Request := { method := "GET", uri := ⟨none, none, "/api/v1/secrets", ""⟩ }
    (outcome (g.clearance r) ()).1 = .error (.denied secrets.gvk) ∧
    (outcome (c.bind ⟨"", "v1", "secrets"⟩) ()).1 = .error (.denied secrets.gvk) := by
  intro secrets mapper more g c r
  let fewer : DenyPolicy := ⟨[⟨"apps", "v1", ""⟩, ⟨"", "v1", "Secret"⟩]⟩
  have h : fewer.rules ⊆ more.rules := by simp [fewer, more]
  have hplace : Coordinate.ofRequest r.method r.uri =
      some ⟨"", "v1", "secrets", none, none, none, .list⟩ := by decide
  have hfound : Discovery.Snapshot.byResource ⟨[secrets]⟩ ⟨"", "v1", "secrets"⟩ = some secrets := by decide
  have hkind : outcome (mapper.kindFor ⟨"", "v1", "secrets"⟩) () = (.ok secrets.gvk, ()) := by
    refine (Mapper.kindFor_ofSnapshots (outcome_pure _ ()) _).trans ?_
    rw [Discovery.Snapshot.kindFor, hfound]
  have hdenies : fewer.denies secrets.gvk = true := by decide
  have hclassify := Gate.classify_denied (g := g.under fewer)
    (c := ⟨"", "v1", "secrets", none, none, none, .list⟩) hkind hdenies
  have hgate := Gate.clearance_refused (g := g.under fewer) hplace rfl hclassify
  have hclient := AccessClient.bind_denied (c := c.under fewer) hkind hdenies
  have law := more_rules_refuse_more h g c
  exact ⟨(law.1 r ()).2.1 _ (congrArg Prod.fst hgate),
    (law.2.1 _ ()).2.1 _ (congrArg Prod.fst hclient)⟩

end ClusterAccess
