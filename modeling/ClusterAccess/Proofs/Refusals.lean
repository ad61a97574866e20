import ClusterAccess.Proofs.Policies
import ClusterAccess.Proofs.Targets

namespace ClusterAccess

variable {σ : Type}

/-- Whom a client asks on behalf of an operation. -/
inductive AccessCall where
  | backend (target : Target) (call : Call)
  | review (check : AccessCheck)

/-- A client whose backend and reviewer note what they are asked. -/
def AccessClient.noted (c : AccessClient σ) : AccessClient (Noted AccessCall σ) where
  backend target call := noting (.backend target call) (c.backend target call)
  mapper := c.mapper.quiet
  reviewer check := noting (.review check) (c.reviewer check)
  policy := c.policy
  defaultNamespace := c.defaultNamespace

namespace AccessClient

variable {c : AccessClient σ} {wanted : GroupVersionResource} {s t u : σ}

theorem handle_binding : (outcome (c.handle wanted) s).1.binding = (outcome (c.bind wanted) s).1 :=
  rfl

theorem bind_unmapped {cause : MappingError}
    (hk : outcome (c.mapper.kindFor wanted) s = (.error cause, t)) :
    outcome (c.bind wanted) s = (.error (.unmapped wanted.display cause), t) :=
  outcome_bind_of hk _

theorem bind_denied {kind : GroupVersionKind}
    (hk : outcome (c.mapper.kindFor wanted) s = (.ok kind, t))
    (hd : c.policy.denies kind = true) :
    outcome (c.bind wanted) s = (.error (.denied kind), t) := by
  refine (outcome_bind_of hk _).trans ?_
  simp [hd]

/-- A kind that is not denied is asked for again, now for the way its objects are addressed. -/
theorem bind_allowed {kind : GroupVersionKind} {answer : Except MappingError Mapping}
    (hk : outcome (c.mapper.kindFor wanted) s = (.ok kind, t))
    (hd : c.policy.denies kind = false)
    (hm : outcome (c.mapper.mappingFor kind) t = (answer, u)) :
    outcome (c.bind wanted) s =
      ((answer.mapError (.unmapped wanted.display)).map (⟨kind, ·⟩), u) := by
  refine (outcome_bind_of hk _).trans ?_
  simp only [hd, Bool.false_eq_true, ↓reduceIte]
  refine (outcome_bind_of hm _).trans ?_
  cases answer <;> rfl

/-- A review leaves a note of it, whatever it answers. -/
theorem reviewer_noted (c : AccessClient σ) (check : AccessCheck) :
    c.noted.reviewer check = noting (.review check) (c.reviewer check) :=
  rfl

theorem backend_noted (c : AccessClient σ) (goal : Target) (call : Call) :
    c.noted.backend goal call = noting (.backend goal call) (c.backend goal call) :=
  rfl

end AccessClient

/-- The errors that say of a type that it cannot be told or is denied. -/
inductive Error.IsRefusal : Error → Prop where
  | mapping (resource : String) (cause : MappingError) : IsRefusal (.mapping resource cause)
  | denied (kind : GroupVersionKind) : IsRefusal (.denied kind)

/-- Only a refusal that a backend itself answers becomes a refusal of the client. -/
theorem Error.eq_gateway_of_lift {cause : TransportError} (h : (Error.lift cause).IsRefusal) :
    cause = .gateway (Error.lift cause) := by
  cases cause with
  | gateway e => rfl
  | api status => cases h
  | service reason => cases h
  | connection stage => cases h
  | decoding => cases h
  | notUtf8 => cases h
  | request problem => cases h

namespace Handle

theorem binding_inNamespaces (h : Handle) (scopes : List String) :
    (scopes.foldl inNamespace h).binding = h.binding := by
  induction scopes generalizing h with
  | nil => rfl
  | cons ns scopes ih => exact ih (h.inNamespace ns)

theorem run_refused (c : AccessClient σ) {h : Handle} {refusal : Refusal}
    (hb : h.binding = .error refusal) (op : Operation) :
    h.run c op = pure (.error refusal.toError) :=
  funext fun _ => outcome_run_of_error (.refused hb)

/-- The ways for an operation on a bound handle to fail. -/
theorem run_error (c : AccessClient σ) {h : Handle} {b : Binding} (hb : h.binding = .ok b)
    {op : Operation} {e : Error} {s t : σ} (hr : outcome (h.run c op) s = (.error e, t)) :
    e = .scopeMismatch b.kind.kind h.namespaceName ∨ op.call = .error e ∨
      ∃ goal call m cause, op.call = .ok call ∧ Finds c h op s (.ok goal) m ∧
        outcome (c.backend goal call) m = (.error cause, t) ∧ e = Error.lift cause := by
  obtain ⟨found, m, hf⟩ := exists_finds c h op s
  cases found with
  | error e' =>
    have heq := (outcome_run_of_error hf).symm.trans hr
    simp only [Prod.mk.injEq, Except.error.injEq] at heq
    obtain ⟨rfl, rfl⟩ := heq
    exact .inl (hf.error_eq hb)
  | ok goal =>
    cases hc : op.call with
    | error e' =>
      have heq := (outcome_run_of_unwritten hf hc).symm.trans hr
      simp only [Prod.mk.injEq, Except.error.injEq] at heq
      obtain ⟨rfl, rfl⟩ := heq
      exact .inr (.inl rfl)
    | ok call =>
      have heq := (outcome_run_of_call hf hc).symm.trans hr
      cases ha : outcome (c.backend goal call) m with
      | mk answer u =>
        simp only [ha, Prod.mk.injEq] at heq
        obtain ⟨hanswer, rfl⟩ := heq
        cases answer with
        | ok reply => cases hanswer
        | error cause =>
          cases hanswer
          exact .inr (.inr ⟨goal, call, m, cause, rfl, hf, ha, rfl⟩)

theorem call_error {op : Operation} {e : Error} (h : op.call = .error e) :
    e = .internal "failed to encode apply body" := by
  by_cases hw : op.IsWritable
  · obtain ⟨call, hcall⟩ := Operation.call_of_writable hw
    cases h.symm.trans hcall
  · exact Except.error.inj (h.symm.trans (Operation.call_of_unwritable hw))

/-- Finding the target may take a review about the bound type, and nothing but a review. -/
theorem Finds.notes {c : AccessClient σ} {h : Handle} {op : Operation} {n m : Noted AccessCall σ}
    {found : Except Error Target} (hf : Finds c.noted h op n found m) :
    m.notes = n.notes ∨ ∃ b verb, h.binding = .ok b ∧
      m.notes = n.notes ++ [.review (AccessClient.spanCheck b verb)] := by
  cases hf with
  | @everywhere b verb _ hb scope unnamed collection allowed =>
    rw [AccessClient.reviewer_noted, outcome_noting, Prod.mk.injEq] at allowed
    obtain ⟨-, rfl⟩ := allowed
    exact .inr ⟨b, verb, hb, rfl⟩
  | @withheld b verb _ _ hb scope unnamed collection answered unallowed =>
    rw [AccessClient.reviewer_noted, outcome_noting, Prod.mk.injEq] at answered
    obtain ⟨-, rfl⟩ := answered
    exact .inr ⟨b, verb, hb, rfl⟩
  | _ => exact .inl rfl

/-- Whom an operation may ask, and about what. -/
inductive Asks (c : AccessClient σ) (h : Handle) (op : Operation) (n : Noted AccessCall σ) :
    AccessCall → Prop where
  | review {b : Binding} (verb : Verb) (bound : h.binding = .ok b) :
      Asks c h op n (.review (AccessClient.spanCheck b verb))
  | backend {goal : Target} {call : Call} {m : Noted AccessCall σ}
      (found : Finds c.noted h op n (.ok goal) m) (written : op.call = .ok call) :
      Asks c h op n (.backend goal call)

/-- An operation asks nobody else, and where it has a target and can be put as a call it does ask
the backend. -/
theorem run_notes (c : AccessClient σ) (h : Handle) (op : Operation) (n : Noted AccessCall σ) :
    ∃ asked, (outcome (h.run c.noted op) n).2.notes = n.notes ++ asked ∧
      (∀ call ∈ asked, Asks c h op n call) ∧
      ∀ goal call m, Finds c.noted h op n (.ok goal) m → op.call = .ok call →
        .backend goal call ∈ asked := by
  obtain ⟨found, m, hf⟩ := exists_finds c.noted h op n
  have hreviews : ∃ reviews, m.notes = n.notes ++ reviews ∧
      ∀ call ∈ reviews, Asks c h op n call := by
    rcases hf.notes with hn | ⟨b, verb, hb, hn⟩
    · exact ⟨[], by simp [hn], by simp⟩
    · refine ⟨_, hn, ?_⟩
      intro call hcall
      rw [List.mem_singleton.mp hcall]
      exact .review verb hb
  obtain ⟨reviews, hnotes, hasks⟩ := hreviews
  cases found with
  | error e =>
    rw [outcome_run_of_error hf]
    refine ⟨reviews, hnotes, hasks, ?_⟩
    intro goal call m' hf'
    cases (hf.unique hf').1
  | ok goal =>
    cases hc : op.call with
    | error e =>
      rw [outcome_run_of_unwritten hf hc]
      refine ⟨reviews, hnotes, hasks, ?_⟩
      intro goal' call m' _ hc'
      cases hc'
    | ok call =>
      rw [outcome_run_of_call hf hc, AccessClient.backend_noted, outcome_noting]
      refine ⟨reviews ++ [.backend goal call], ?_, ?_, ?_⟩
      · rw [hnotes, ← List.append_assoc]
      · intro asked ha
        rcases List.mem_append.mp ha with ha | ha
        · exact hasks asked ha
        · rw [List.mem_singleton.mp ha]
          exact .backend hf hc
      · intro goal' call' m' hf' hc'
        obtain ⟨hgoal, -⟩ := hf.unique hf'
        cases hgoal
        cases hc'
        exact List.mem_append_right _ List.mem_cons_self

/-- A handle that is bound refuses only where the backend does, and the backend is asked last. -/
theorem backend_refused (c : AccessClient σ) {h : Handle} {b : Binding} (hb : h.binding = .ok b)
    {op : Operation} {e : Error} {n after : Noted AccessCall σ}
    (hr : outcome (h.run c.noted op) n = (.error e, after)) (hrefusal : e.IsRefusal) :
    ∃ goal call asked before, after.notes = n.notes ++ asked ++ [.backend goal call] ∧
      outcome (c.backend goal call) before = (.error (.gateway e), after.state) := by
  rcases run_error c.noted hb hr with
    rfl | hcall | ⟨goal, call, m, cause, _, hf, hback, rfl⟩
  · cases hrefusal
  · rw [call_error hcall] at hrefusal
    cases hrefusal
  · rw [AccessClient.backend_noted, outcome_noting, Prod.mk.injEq] at hback
    obtain ⟨hanswer, rfl⟩ := hback
    rw [Error.eq_gateway_of_lift hrefusal] at hanswer
    rcases hf.notes with hnotes | ⟨b', verb, -, hnotes⟩
    · exact ⟨goal, call, [], m.state, by simp [← hnotes], Prod.ext hanswer rfl⟩
    · exact ⟨goal, call, [.review (AccessClient.spanCheck b' verb)], m.state, by simp [← hnotes],
        Prod.ext hanswer rfl⟩

end Handle

/-- The handle that is made in some state, in the namespaces that it is set to one after the
other. -/
def AccessClient.scopedHandle (c : AccessClient σ) (wanted : GroupVersionResource) (s : σ)
    (scopes : List String) : Handle :=
  scopes.foldl Handle.inNamespace (outcome (c.handle wanted) s).1

namespace AccessClient

theorem scopedHandle_binding (c : AccessClient σ) (wanted : GroupVersionResource) (s : σ)
    (scopes : List String) :
    (c.scopedHandle wanted s scopes).binding = (outcome (c.bind wanted) s).1 :=
  (Handle.binding_inNamespaces _ scopes).trans handle_binding

theorem scopedHandle_refused {c : AccessClient σ} {wanted : GroupVersionResource} {s : σ}
    {refusal : Refusal} (hr : (outcome (c.bind wanted) s).1 = .error refusal)
    (scopes : List String) (op : Operation) (n : Noted AccessCall σ) :
    outcome ((c.scopedHandle wanted s scopes).run c.noted op) n =
      (.error refusal.toError, n) := by
  have hbinding := (c.scopedHandle_binding wanted s scopes).trans hr
  rw [Handle.run_refused c.noted hbinding op, outcome_pure]

/-- A type whose binding fails is refused by every operation in the same way and without asking
anybody; a type whose binding succeeds is refused only where the backend answers so. -/
theorem handle_refuses_alike (c : AccessClient σ) (wanted : GroupVersionResource) (s : σ)
    (scopes : List String) (op : Operation) (n : Noted AccessCall σ) :
    let answered := outcome ((c.scopedHandle wanted s scopes).run c.noted op) n
    (∀ cause t, outcome (c.mapper.kindFor wanted) s = (.error cause, t) →
      answered = (.error (.mapping wanted.display cause), n)) ∧
    ∀ kind t, outcome (c.mapper.kindFor wanted) s = (.ok kind, t) →
      (∀ rule ∈ c.policy.rules, rule.Matches kind → answered = (.error (.denied kind), n)) ∧
      ((∀ rule ∈ c.policy.rules, ¬ rule.Matches kind) →
        (∀ cause u, outcome (c.mapper.mappingFor kind) t = (.error cause, u) →
          answered = (.error (.mapping wanted.display cause), n)) ∧
        ∀ mapping u, outcome (c.mapper.mappingFor kind) t = (.ok mapping, u) →
          ∀ e, answered.1 = .error e → e.IsRefusal →
            ∃ goal call asked before, answered.2.notes = n.notes ++ asked ++ [.backend goal call] ∧
              outcome (c.backend goal call) before = (.error (.gateway e), answered.2.state)) := by
  refine ⟨?_, ?_⟩
  · intro cause t hk
    exact scopedHandle_refused (congrArg Prod.fst (bind_unmapped hk)) scopes op n
  · intro kind t hk
    refine ⟨?_, ?_⟩
    · intro rule hr hm
      have hd := DenyPolicy.denies_iff.mpr ⟨rule, hr, hm⟩
      exact scopedHandle_refused (congrArg Prod.fst (bind_denied hk hd)) scopes op n
    · intro hrules
      have hd := DenyPolicy.not_denies_iff.mpr hrules
      refine ⟨?_, ?_⟩
      · intro cause u hm
        exact scopedHandle_refused (congrArg Prod.fst (bind_allowed hk hd hm)) scopes op n
      · intro mapping u hm e he hrefusal
        have hbound := (c.scopedHandle_binding wanted s scopes).trans
          (congrArg Prod.fst (bind_allowed hk hd hm))
        exact Handle.backend_refused c hbound (Prod.ext he rfl) hrefusal

end AccessClient

end ClusterAccess
