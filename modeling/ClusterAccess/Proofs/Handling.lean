import ClusterAccess.Proofs.Derivation
import ClusterAccess.Proofs.Reviews

namespace ClusterAccess

variable {σ : Type} {g : Gateway σ} {m : Manager}

/-- The request goes on when validators accept it. -/
def Gate.finished (r : Http.Request) : Except ValidationError Unit → Except Error Http.Request
  | .error e => .error (.validation e)
  | .ok () => .ok r

/-- What a manager's gate makes of a request, with what is noted before a review, the review, and
what is noted after it. -/
inductive Clears (g : Gateway σ) (m : Manager) (r : Http.Request) (s : σ) :
    Except Error Http.Request → List (Note σ) → List (Note σ) → List (Note σ) → Prop where
  | unplaced (hc : Coordinate.ofRequest r.method r.uri = none) : Clears g m r s (.ok r) [] [] []
  | refused {c : Coordinate} {e : Error} {looked : List (Note σ)}
      (hc : Coordinate.ofRequest r.method r.uri = some c) (hlooked : g.Looked m looked) :
      Clears g m r s (.error e) looked [] []
  | exempt {c : Coordinate} {looked : List (Note σ)}
      (hc : Coordinate.ofRequest r.method r.uri = some c)
      (hself : g.settings.selfReview.isFor c.group c.resource = true)
      (hlooked : g.Looked m looked) : Clears g m r s (.ok r) looked [] []
  | examined {c : Coordinate} {kind : GroupVersionKind} {seen : ValidationRequest}
      {verdict : Except ValidationError Unit} {looked before review after : List (Note σ)}
      (hc : Coordinate.ofRequest r.method r.uri = some c)
      (hkind : (outcome ((g.mapper m).kindFor c.gvr) s).1 = .ok kind)
      (hdenies : g.settings.policy.denies kind = false)
      (hself : g.settings.selfReview.isFor c.group c.resource = false)
      (hshows : Gate.Shows r c kind seen) (hlooked : g.Looked m looked)
      (h : Examines g m seen verdict before review after) :
      Clears g m r s (Gate.finished r verdict) (looked ++ before) review after

namespace Gateway

theorem chain_gate (hv : g.validates = true) (m : Manager) :
    (g.gate m).chain = some (g.chain m) :=
  if_pos hv

/-- What becomes of a request once its kind is known. What was looked up before that is not told
here. -/
theorem writes_validate (hstandard : g.validators = .standard) {r : Http.Request} {s : σ}
    {c : Coordinate} {kind : GroupVersionKind} (hc : Coordinate.ofRequest r.method r.uri = some c)
    (hkind : (outcome ((g.mapper m).kindFor c.gvr) s).1 = .ok kind)
    (hdenies : g.settings.policy.denies kind = false) (n : Noted (Note σ) σ) :
    Writes n (fun cleared added => ∃ before review after, added = before ++ review ++ after ∧
        ∀ looked, g.Looked m looked → Clears g m r s cleared (looked ++ before) review after)
      ((g.recorded.gate m).validate (g.recorded.chain m) c kind r)
      ((g.gate m).validate (g.chain m) c kind r) := by
  have hsame : (g.recorded.gate m).selfReview = g.settings.selfReview := rfl
  have hself : (g.gate m).selfReview = g.settings.selfReview := rfl
  unfold Gate.validate
  rw [hsame, hself]
  cases hfor : g.settings.selfReview.isFor c.group c.resource with
  | true =>
    exact .answer ⟨[], [], [], rfl, fun looked hlooked => by simpa using .exempt hc hfor hlooked⟩
  | false =>
    cases hbuffer : Gate.buffer c r.body with
    | error e =>
      exact .answer ⟨[], [], [], rfl, fun looked hlooked => by simpa using .refused hc hlooked⟩
    | ok read =>
      obtain ⟨body, seen⟩ := read
      obtain ⟨rfl, hshows⟩ := Gate.buffer_shows hbuffer kind
      simp only [Bool.false_eq_true, ↓reduceIte]
      refine (writes_chain hstandard m _ n).bind fun added notes hexamined => ?_
      obtain ⟨before, review, after, rfl, h⟩ := hexamined
      have hcleared : ∀ looked, g.Looked m looked → Clears g m r s (Gate.finished r
          (outcome ((g.chain m).validate (Gate.shown c kind r seen)) n.state).1)
          (looked ++ before) review after :=
        fun looked hlooked => .examined hc hkind hdenies hfor hshows hlooked h
      cases hverdict : (outcome ((g.chain m).validate (Gate.shown c kind r seen)) n.state).1 with
      | error e =>
        rw [hverdict] at hcleared
        exact .answer ⟨before, review, after, List.append_nil _, hcleared⟩
      | ok u =>
        rw [hverdict] at hcleared
        exact .answer ⟨before, review, after, List.append_nil _, hcleared⟩

theorem writes_clearance (hstandard : g.validators = .standard) (hv : g.validates = true)
    (m : Manager) (r : Http.Request) (n : Noted (Note σ) σ) :
    Writes n (fun cleared added => ∃ before review after, added = before ++ review ++ after ∧
        Clears g m r n.state cleared before review after)
      ((g.recorded.gate m).clearance r) ((g.gate m).clearance r) := by
  have hchain := chain_gate hv m
  have hrecorded := chain_gate (g := g.recorded) hv m
  unfold Gate.clearance
  cases hc : Coordinate.ofRequest r.method r.uri with
  | none => exact .answer ⟨[], [], [], rfl, .unplaced hc⟩
  | some c =>
    simp only [hchain, hrecorded, Option.isNone_some, Bool.and_false, Bool.false_eq_true,
      ↓reduceIte]
    have hlooks : Looks g m ((g.recorded.gate m).classify c) ((g.gate m).classify c) :=
      looks_classify c
    refine (hlooks n).bind fun looked notes hlooked => ?_
    cases hclassified : (outcome ((g.gate m).classify c) n.state).1 with
    | error e =>
      exact .answer ⟨looked, [], [], by simp, .refused hc hlooked⟩
    | ok kind =>
      obtain ⟨hkind, hdenies⟩ := Gate.classify_ok_iff.mp (Prod.ext hclassified rfl)
      refine (writes_validate hstandard hc (congrArg Prod.fst hkind) hdenies _).mono ?_
      rintro _ ⟨before, review, after, rfl, h⟩
      exact ⟨looked ++ before, review, after, by simp, h looked hlooked⟩

end Gateway

/-- The verdict of some validator on a request. -/
def Note.IsVerdictOn (r : Http.Request) (e : Note σ) : Prop :=
  ∃ name c kind seen verdict, e = .judged name seen verdict ∧
    Coordinate.ofRequest r.method r.uri = some c ∧ Gate.Shows r c kind seen

/-- What is noted when a request is handled in some state: what comes before a review, the review,
what comes between it and the request, and the request itself. -/
structure Handles (g : Gateway σ) (m : Manager) (r : Http.Request) (s : σ)
    (before review after own : List (Note σ)) : Prop where
  /-- The request goes on the wire once or not at all. -/
  once : own = [] ∨ ∃ t w answer, m.connection.outgoing m.signature r = .ok w ∧
    own = [.sent t w answer]
  /-- Nothing else is noted of a request that has no place among resources. -/
  unplaced : Coordinate.ofRequest r.method r.uri = none → before ++ review ++ after = []
  /-- Before a review there are lookups, and verdicts on the request. -/
  prepared : ∀ e ∈ before, g.IsLookup m before e ∨ e.IsVerdictOn r
  /-- After it nothing goes on the wire but the request. -/
  concluded : ∀ e ∈ after, e.IsVerdictOn r
  judges : (before ++ after).filterMap Note.validator? <+: ["resource", "schema", "authorization"]
  /-- A review asks about the request, once that has a kind which is not denied and two validators
  have accepted it. -/
  reviewed : review = [] ∨ ∃ c kind seen t w answer, review = [.sent t w answer] ∧
    Coordinate.ofRequest r.method r.uri = some c ∧
    (outcome ((g.mapper m).kindFor c.gvr) s).1 = .ok kind ∧
    (∀ rule ∈ g.settings.policy.rules, ¬ rule.Matches kind) ∧
    ¬ (g.settings.selfReview.group = c.group ∧ g.settings.selfReview.resource = c.resource) ∧
    Gate.Shows r c kind seen ∧ .judged "resource" seen (.ok ()) ∈ before ∧
    .judged "schema" seen (.ok ()) ∈ before ∧ c.IsReviewedBy w
  denied : ∀ t w answer, review = [.sent t w answer] → AccessCheck.Denies answer → own = []
  /-- Without a review that denies it, an accepted request goes on as far as it can be signed. -/
  allowed : ∀ seen, .judged "schema" seen (.ok ()) ∈ before →
    (∀ t w answer, review = [.sent t w answer] → ¬ AccessCheck.Denies answer) →
    ∀ w, m.connection.outgoing m.signature r = .ok w → ∃ t answer, own = [.sent t w answer]

theorem Manager.Forwards.once {r : Http.Request} {s : σ}
    {answer : Except TransportError Http.Response} {own : List (Note σ)}
    (h : m.Forwards r s answer own) :
    own = [] ∨ ∃ t w answer, m.connection.outgoing m.signature r = .ok w ∧
      own = [.sent t w answer] := by
  unfold Manager.Forwards at h
  split at h
  · rename_i w hout
    exact .inr ⟨s, w, answer, hout, h⟩
  · exact .inl h.1

theorem Manager.Forwards.sent {r w : Http.Request} {s : σ}
    {answer : Except TransportError Http.Response} {own : List (Note σ)}
    (h : m.Forwards r s answer own) (hout : m.connection.outgoing m.signature r = .ok w) :
    own = [.sent s w answer] := by
  unfold Manager.Forwards at h
  rwa [hout] at h

/-- When nothing but lookups comes before it, a request has not been accepted by validators, and no
review is about it. -/
theorem handles_of_lookups {r : Http.Request} {s : σ} {looked own : List (Note σ)}
    (hown : own = [] ∨ ∃ t w answer, m.connection.outgoing m.signature r = .ok w ∧
      own = [.sent t w answer])
    (hunplaced : Coordinate.ofRequest r.method r.uri = none → looked = [])
    (hlooked : g.Looked m looked) : Handles g m r s looked [] [] own where
  once := hown
  unplaced hnone := by simpa using hunplaced hnone
  prepared e he := .inl (hlooked looked (List.Subset.refl _) e he)
  concluded := by simp
  judges := by simp [filterMap_validator hlooked]
  reviewed := .inl rfl
  denied := by simp
  allowed seen hfits := absurd hfits (judged_not_mem hlooked _ _ _)

namespace Clears

variable {r : Http.Request} {s : σ} {cleared : Except Error Http.Request}
  {before review after own : List (Note σ)}

/-- What is noted of a clearance, whether the request goes on or not. -/
theorem handles (h : Clears g m r s cleared before review after)
    (hown : own = [] ∨ ∃ t w answer, m.connection.outgoing m.signature r = .ok w ∧
      own = [.sent t w answer])
    (hrefused : ∀ e, cleared = .error e → own = [])
    (hsent : cleared = .ok r → ∀ w, m.connection.outgoing m.signature r = .ok w →
      ∃ t answer, own = [.sent t w answer]) : Handles g m r s before review after own := by
  cases h with
  | unplaced hc => exact handles_of_lookups hown (fun _ => rfl) .nil
  | refused hc hlooked => exact handles_of_lookups hown (by simp [hc]) hlooked
  | exempt hc hself hlooked => exact handles_of_lookups hown (by simp [hc]) hlooked
  | @examined c kind seen verdict looked before review after hc hkind hdenies hself hshows hlooked
      h =>
    have hon : ∀ name v, (Note.judged name seen v : Note σ).IsVerdictOn r :=
      fun name v => ⟨name, c, kind, seen, v, rfl, hc, hshows⟩
    refine ⟨hown, by simp [hc], ?_, ?_, ?_, ?_, ?_, ?_⟩
    · intro e he
      rcases List.mem_append.mp he with he | he
      · exact .inl (hlooked _ (List.subset_append_left _ _) e he)
      · refine (h.prepared _ (List.subset_append_right _ _) e he).imp_right ?_
        rintro ⟨name, v, rfl⟩
        exact hon name v
    · intro e he
      obtain ⟨name, v, rfl⟩ := h.concluded e he
      exact hon name v
    · rw [List.append_assoc, List.filterMap_append, filterMap_validator hlooked]
      exact h.judges
    · have hversion : seen.coordinate.version ≠ "" := by
        rw [hshows.coordinate]
        exact Coordinate.version_ne_of_ofRequest hc
      rcases h.reviews hversion with hnone | ⟨t, w, response, hreview, hreviewed, hserved, hfits⟩
      · exact .inl hnone
      · have hpolicy := DenyPolicy.not_denies_iff.mp hdenies
        have hother : ¬ (g.settings.selfReview.group = c.group ∧
            g.settings.selfReview.resource = c.resource) := by
          simpa [SelfReview.isFor] using hself
        rw [hshows.coordinate] at hreviewed
        exact .inr ⟨c, kind, seen, t, w, response, hreview, hc, hkind, hpolicy, hother, hshows,
          List.mem_append_right _ hserved, List.mem_append_right _ hfits, hreviewed⟩
    · intro t w response hreview hdenied
      obtain ⟨e, rfl⟩ := h.denied hreview hdenied
      exact hrefused _ rfl
    · intro shown hfits hanswer
      have hbefore := (List.mem_append.mp hfits).resolve_left (judged_not_mem hlooked _ _ _)
      obtain rfl := h.allowed hbefore hanswer
      exact hsent rfl

end Clears

/-- Permission checks are sent at most once for a request, describe it, and are not checked
themselves. A gateway that takes notes does what the gateway does; its notes of a request are
lookups and verdicts, one review at most, and at the end the request, if it goes on. -/
theorem Gateway.client_handles (hstandard : g.validators = .standard) (hv : g.validates = true)
    (m : Manager) (r : Http.Request) (n : Noted (Note σ) σ) :
    ∃ before review after own,
      outcome (g.recorded.client m r) n = ((outcome (g.client m r) n.state).1,
        ⟨(outcome (g.client m r) n.state).2, n.notes ++ (before ++ review ++ after ++ own)⟩) ∧
      Handles g m r n.state before review after own := by
  obtain ⟨_, ⟨_, own, rfl, hpasses⟩, hnotes⟩ :=
    writes_guard (writes_clearance hstandard hv m r n)
  generalize (outcome ((g.gate m).guard (g.raw m) r) n.state).1 = response at hpasses
  cases hpasses with
  | refused hcleared =>
    obtain ⟨before, review, after, rfl, hclears⟩ := hcleared
    exact ⟨before, review, after, [], hnotes, hclears.handles (.inl rfl) (fun _ _ => rfl) (by simp)⟩
  | sent hcleared hown =>
    obtain ⟨before, review, after, rfl, hclears⟩ := hcleared
    exact ⟨before, review, after, own, hnotes, hclears.handles hown.once (by simp)
      fun _ w hout => ⟨_, _, hown.sent hout⟩⟩

/-- A gateway that validates, before a server that allows nothing. -/
def Gateway.guarded : Gateway (List Manager.State) := { Gateway.bare {} with
  validation := some "true"
  network := fun _ =>
    pure (.ok { body := Bytes.ofText "\x7b\"status\":\x7b\"allowed\":false\x7d\x7d" }) }

def Note.label : Note σ → String
  | .sent _ request _ => request.method
  | .judged validator _ _ => validator

/-- A pod whose reading the server does not allow: two validators accept the request, the review is
posted and denies it, and the request stays where it is. -/
theorem Gateway.client_handles_pod :
    let m : Manager := ⟨0, none, "prod", {
      server := ⟨some "https", some "cluster:6443", "/", none⟩ }, .ok []⟩
    let r : Http.Request := {
      method := "GET"
      uri := { path := "/api/v1/namespaces/team/pods/web" } }
    let kept : List Manager.State := [{ discovery := {
      fetched := 1
      snapshot := some ⟨[⟨"", "v1", "Pod", "pods", "pod", true, ["get"]⟩]⟩ } }]
    let notes := (outcome (Gateway.guarded.recorded.client m r) ⟨kept, []⟩).2.notes
    notes.map Note.label = ["resource", "schema", "POST", "authorization"] ∧
      ∃ before review after own, notes = before ++ review ++ after ++ own ∧
        Handles Gateway.guarded m r kept before review after own := by
  intro m r kept notes
  refine ⟨by decide +kernel, ?_⟩
  obtain ⟨before, review, after, own, hnotes, hhandles⟩ :=
    Gateway.client_handles (g := Gateway.guarded) rfl (by decide) m r ⟨kept, []⟩
  exact ⟨before, review, after, own, congrArg (fun o => o.2.notes) hnotes, hhandles⟩

end ClusterAccess
