import ClusterAccess.Gate
import ClusterAccess.Proofs.Noted
import ClusterAccess.Proofs.Policies

namespace ClusterAccess

variable {σ ε : Type}

namespace Chain

/-- Validators accept one after the other, each in the state that the one before it left. -/
inductive Accepts (seen : ValidationRequest) : List (Validator σ) → σ → σ → Prop where
  | nil {s : σ} : Accepts seen [] s s
  | cons {v : Validator σ} {vs : List (Validator σ)} {s t u : σ}
      (first : outcome (v.validate seen) s = (.ok (), t)) (rest : Accepts seen vs t u) :
      Accepts seen (v :: vs) s u

theorem validateAll_ok_iff {seen : ValidationRequest} {vs : List (Validator σ)} {s t : σ} :
    outcome (validateAll seen vs) s = (.ok (), t) ↔ Accepts seen vs s t := by
  induction vs generalizing s with
  | nil =>
    constructor
    · intro h
      cases h
      exact .nil
    · intro h
      cases h
      rfl
  | cons v vs ih =>
    constructor
    · intro h
      obtain ⟨verdict, m, hv, hr⟩ := outcome_bind_eq h
      cases verdict with
      | error e => cases hr
      | ok u => exact .cons hv (ih.mp hr)
    · intro h
      cases h with
      | cons first rest => exact (outcome_bind_of first _).trans (ih.mpr rest)

end Chain

namespace Gate

/-- What a validator is shown of a request that goes on: its place, its kind, and its body where
it carries an object. -/
structure Shows (sent : Http.Request) (c : Coordinate) (kind : GroupVersionKind)
    (seen : ValidationRequest) : Prop where
  coordinate : seen.coordinate = c
  kind : seen.kind = kind
  method : seen.method = sent.method
  path : seen.path = sent.uri.path
  contentType :
    seen.contentType = (sent.headers.value? "content-type").bind Http.Header.text?
  carried : c.verb ∈ [.create, .update, .patch] →
    ∃ content, sent.body = .bytes content ∧ seen.body = some content
  bare : c.verb ∉ [.create, .update, .patch] → seen.body = none

theorem isMutating_iff (c : Coordinate) :
    c.isMutating = true ↔ c.verb ∈ [.create, .update, .patch] := by
  unfold Coordinate.isMutating
  cases c.verb <;> simp [Verb.isMutating]

/-- Reading a body leaves it as it was, and gives it whole. -/
theorem buffer_shows {c : Coordinate} {r : Http.Request} {kept : Http.Body} {seen : Option Bytes}
    (h : buffer c r.body = .ok (kept, seen)) (kind : GroupVersionKind) :
    kept = r.body ∧ Shows r c kind (shown c kind r seen) := by
  unfold buffer at h
  split at h
  · rename_i hm
    have hverb := (isMutating_iff c).mp hm
    split at h
    · rename_i content hb
      simp only [Except.ok.injEq, Prod.mk.injEq] at h
      obtain ⟨rfl, rfl⟩ := h
      exact ⟨hb.symm, rfl, rfl, rfl, rfl, rfl, fun _ => ⟨content, hb, rfl⟩,
        fun hn => absurd hverb hn⟩
    · cases h
  · rename_i hm
    have hverb := fun hv => hm ((isMutating_iff c).mpr hv)
    simp only [Except.ok.injEq, Prod.mk.injEq] at h
    obtain ⟨rfl, rfl⟩ := h
    exact ⟨rfl, rfl, rfl, rfl, rfl, rfl, fun hv => absurd hv hverb, fun _ => rfl⟩

theorem classify_ok_iff {g : Gate σ} {c : Coordinate} {kind : GroupVersionKind} {s t : σ} :
    outcome (g.classify c) s = (.ok kind, t) ↔
      outcome (g.mapper.kindFor c.gvr) s = (.ok kind, t) ∧ g.policy.denies kind = false := by
  constructor
  · intro h
    obtain ⟨answer, m, hk, hr⟩ := outcome_bind_eq h
    cases answer with
    | error cause => cases hr
    | ok found =>
      cases hd : g.policy.denies found with
      | true => simp [hd] at hr
      | false =>
        simp only [hd, Bool.false_eq_true, ↓reduceIte, outcome_pure, Prod.mk.injEq,
          Except.ok.injEq] at hr
        obtain ⟨rfl, rfl⟩ := hr
        exact ⟨hk, hd⟩
  · rintro ⟨hk, hd⟩
    refine (outcome_bind_of hk _).trans ?_
    simp [hd]

theorem validate_ok {g : Gate σ} {chain : Chain σ} {c : Coordinate} {kind : GroupVersionKind}
    {r sent : Http.Request} {s t : σ} (hs : g.selfReview.isFor c.group c.resource = false)
    (h : outcome (g.validate chain c kind r) s = (.ok sent, t)) :
    sent = r ∧ ∃ seen, Shows r c kind seen ∧ Chain.Accepts seen chain.validators s t := by
  unfold validate at h
  rw [hs] at h
  simp only [Bool.false_eq_true, ↓reduceIte] at h
  cases hb : buffer c r.body with
  | error e =>
    rw [hb] at h
    cases h
  | ok read =>
    obtain ⟨kept, seen⟩ := read
    obtain ⟨rfl, hshows⟩ := buffer_shows hb kind
    simp only [hb] at h
    obtain ⟨verdict, m, hv, hr⟩ := outcome_bind_eq h
    cases verdict with
    | error e => cases hr
    | ok u =>
      cases hr
      exact ⟨rfl, _, hshows, Chain.validateAll_ok_iff.mp hv⟩

/-- Past the policy, a request may still fail for its body or for what a validator says. -/
theorem validate_error {g : Gate σ} {chain : Chain σ} {c : Coordinate} {kind : GroupVersionKind}
    {r : Http.Request} {e : Error} {s t : σ}
    (h : outcome (g.validate chain c kind r) s = (.error e, t)) :
    (∃ reason, e = .internal reason) ∨ ∃ cause, e = .validation cause := by
  unfold validate at h
  split at h
  · cases h
  · split at h
    · rename_i e' hbuffer
      cases h
      unfold buffer at hbuffer
      split at hbuffer
      · split at hbuffer
        · cases hbuffer
        · cases hbuffer
          exact .inl ⟨_, rfl⟩
      · cases hbuffer
    · obtain ⟨answer, m, -, h⟩ := outcome_bind_eq h
      split at h
      · cases h
        exact .inr ⟨_, rfl⟩
      · cases h

/-- The ways for a request to pass a gate, with the state in which it does. -/
inductive Admits (g : Gate σ) (r : Http.Request) (s : σ) : σ → Prop where
  | unplaced (hc : Coordinate.ofRequest r.method r.uri = none) : Admits g r s s
  | unguarded {c : Coordinate} (hc : Coordinate.ofRequest r.method r.uri = some c)
      (hp : g.policy.isEmpty = true) (hn : g.chain = none) : Admits g r s s
  | classified {c : Coordinate} {kind : GroupVersionKind} {t : σ}
      (hc : Coordinate.ofRequest r.method r.uri = some c)
      (hk : outcome (g.classify c) s = (.ok kind, t))
      (hn : g.chain = none ∨ g.selfReview.isFor c.group c.resource = true) : Admits g r s t
  | validated {c : Coordinate} {kind : GroupVersionKind} {t u : σ} {chain : Chain σ}
      {seen : ValidationRequest} (hc : Coordinate.ofRequest r.method r.uri = some c)
      (hk : outcome (g.classify c) s = (.ok kind, t)) (hn : g.chain = some chain)
      (hs : g.selfReview.isFor c.group c.resource = false) (shows : Shows r c kind seen)
      (accepts : Chain.Accepts seen chain.validators t u) : Admits g r s u

theorem clearance_ok {g : Gate σ} {r sent : Http.Request} {s t : σ}
    (h : outcome (g.clearance r) s = (.ok sent, t)) : sent = r ∧ g.Admits r s t := by
  unfold clearance at h
  cases hc : Coordinate.ofRequest r.method r.uri with
  | none =>
    rw [hc] at h
    cases h
    exact ⟨rfl, .unplaced hc⟩
  | some c =>
    simp only [hc] at h
    split at h
    · rename_i hopen
      simp only [Bool.and_eq_true, Option.isNone_iff_eq_none] at hopen
      cases h
      exact ⟨rfl, .unguarded hc hopen.1 hopen.2⟩
    · obtain ⟨answer, m, hk, hr⟩ := outcome_bind_eq h
      cases answer with
      | error e => cases hr
      | ok kind =>
        cases hn : g.chain with
        | none =>
          simp only [hn] at hr
          cases hr
          exact ⟨rfl, .classified hc hk (.inl hn)⟩
        | some chain =>
          simp only [hn] at hr
          cases hs : g.selfReview.isFor c.group c.resource with
          | true =>
            simp only [validate, hs, ↓reduceIte] at hr
            cases hr
            exact ⟨rfl, .classified hc hk (.inr hs)⟩
          | false =>
            obtain ⟨rfl, seen, hshows, haccepts⟩ := validate_ok hs hr
            exact ⟨rfl, .validated hc hk hn hs hshows haccepts⟩

end Gate

/-- A validator whose own questions leave no note, so that the notes tell what the service behind
the gate was asked. -/
def Validator.quiet (v : Validator σ) : Validator (Noted ε σ) where
  name := v.name
  validate seen := quietly (v.validate seen)

def Chain.quiet (chain : Chain σ) : Chain (Noted ε σ) :=
  ⟨chain.validators.map Validator.quiet⟩

theorem Chain.validateAll_quiet (seen : ValidationRequest) (vs : List (Validator σ)) :
    validateAll seen (vs.map Validator.quiet) =
      (quietly (validateAll seen vs) : StateM (Noted ε σ) _) := by
  induction vs with
  | nil => rfl
  | cons v vs ih =>
    refine quietly_bind fun verdict => ?_
    cases verdict with
    | error e => rfl
    | ok u => exact ih

namespace Gate

def quiet (g : Gate σ) : Gate (Noted ε σ) where
  policy := g.policy
  mapper := g.mapper.quiet
  chain := g.chain.map Chain.quiet
  selfReview := g.selfReview

theorem classify_quiet (g : Gate σ) (c : Coordinate) :
    g.quiet.classify c = (quietly (g.classify c) : StateM (Noted ε σ) _) := by
  refine quietly_bind fun answer => ?_
  cases answer <;> rfl

theorem validate_quiet (g : Gate σ) (chain : Chain σ) (c : Coordinate) (kind : GroupVersionKind)
    (r : Http.Request) : g.quiet.validate chain.quiet c kind r =
      (quietly (g.validate chain c kind r) : StateM (Noted ε σ) _) := by
  unfold validate
  change (if g.selfReview.isFor c.group c.resource = true then _ else _) = _
  split
  · rfl
  · cases buffer c r.body with
    | error e => rfl
    | ok read =>
      obtain ⟨kept, seen⟩ := read
      change (Chain.validateAll _ (chain.validators.map Validator.quiet) >>= _) = _
      rw [Chain.validateAll_quiet]
      refine quietly_bind fun verdict => ?_
      cases verdict <;> rfl

theorem clearance_quiet (g : Gate σ) (r : Http.Request) :
    g.quiet.clearance r = (quietly (g.clearance r) : StateM (Noted ε σ) _) := by
  unfold clearance
  cases Coordinate.ofRequest r.method r.uri with
  | none => rfl
  | some c =>
    have hn : (g.quiet (ε := ε)).chain.isNone = g.chain.isNone := Option.isNone_map
    have hp : (g.quiet (ε := ε)).policy = g.policy := rfl
    simp only [hn, hp]
    split
    · rfl
    · rw [classify_quiet]
      refine quietly_bind fun answer => ?_
      cases answer with
      | error e => rfl
      | ok kind =>
        have hchain : (g.quiet (ε := ε)).chain = g.chain.map Chain.quiet := rfl
        cases hg : g.chain with
        | none => simp only [hchain, hg, Option.map_none]; rfl
        | some chain =>
          simp only [hchain, hg, Option.map_some]
          exact validate_quiet g chain c kind r

/-- A gate asks the service behind it once, with what it lets through, or not at all. -/
theorem outcome_guard (g : Gate σ) (service : Client.Service σ) (r : Http.Request)
    (n : Noted Http.Request σ) :
    outcome (g.quiet.guard service.noted r) n =
      match outcome (g.clearance r) n.state with
      | (.error e, t) => (.error (.gateway e), ⟨t, n.notes⟩)
      | (.ok sent, t) =>
        ((outcome (service sent) t).1, ⟨(outcome (service sent) t).2, n.notes ++ [sent]⟩) := by
  unfold guard
  rw [clearance_quiet, outcome_bind, outcome_quietly]
  cases outcome (g.clearance r) n.state with
  | mk answer t =>
    cases answer <;> rfl

/-- What validators saw is what is sent. A request that is let through goes on as it came; every
validator has accepted it with its kind, which no rule denies, and with the body that goes on; and
the service is called once with it. After a refusal the service is not called. -/
theorem guard_sends_what_was_shown (g : Gate σ) (service : Client.Service σ) (r : Http.Request)
    (n : Noted Http.Request σ) :
    match outcome (g.clearance r) n.state with
    | (.error e, t) =>
      outcome (g.quiet.guard service.noted r) n = (.error (.gateway e), ⟨t, n.notes⟩)
    | (.ok sent, t) =>
      sent = r ∧
      outcome (g.quiet.guard service.noted r) n =
        ((outcome (service sent) t).1, ⟨(outcome (service sent) t).2, n.notes ++ [sent]⟩) ∧
      ∀ c chain, Coordinate.ofRequest sent.method sent.uri = some c → g.chain = some chain →
        ¬ (g.selfReview.group = c.group ∧ g.selfReview.resource = c.resource) →
        ∃ kind seen m, outcome (g.mapper.kindFor c.gvr) n.state = (.ok kind, m) ∧
          (∀ rule ∈ g.policy.rules, ¬ rule.Matches kind) ∧ Shows sent c kind seen ∧
          Chain.Accepts seen chain.validators m t := by
  have hguard := outcome_guard g service r n
  cases ho : outcome (g.clearance r) n.state with
  | mk answer t =>
    rw [ho] at hguard
    cases answer with
    | error e => exact hguard
    | ok sent =>
      obtain ⟨rfl, hadmits⟩ := clearance_ok ho
      refine ⟨rfl, hguard, ?_⟩
      intro c chain hc hn hself
      have hs : g.selfReview.isFor c.group c.resource = false := by
        simpa [SelfReview.isFor] using hself
      cases hadmits with
      | unplaced hc' => simp [hc] at hc'
      | unguarded hc' hp hn' => simp [hn] at hn'
      | classified hc' hk hn' =>
        obtain rfl := Option.some.inj (hc.symm.trans hc')
        simp [hn, hs] at hn'
      | validated hc' hk hn' hs' hshows haccepts =>
        obtain rfl := Option.some.inj (hc.symm.trans hc')
        obtain rfl := Option.some.inj (hn.symm.trans hn')
        obtain ⟨hkind, hdenies⟩ := classify_ok_iff.mp hk
        exact ⟨_, _, _, hkind, DenyPolicy.not_denies_iff.mp hdenies, hshows, haccepts⟩

end Gate

end ClusterAccess
