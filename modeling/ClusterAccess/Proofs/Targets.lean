import ClusterAccess.Handle
import ClusterAccess.Proofs.Noted

namespace ClusterAccess

variable {σ : Type}

/-- The review that decides whether an operation may span all namespaces. -/
def AccessClient.spanCheck (b : Binding) (verb : Verb) : AccessCheck :=
  ⟨verb.name, b.kind.group, "", b.mapping.plural, none, none, none⟩

open AccessClient (spanCheck)

namespace Operation

/-- An object that is to be applied has to be written as JSON. Every other operation can be put as
a call, whatever its object. -/
def IsWritable : Operation → Prop
  | apply _ object _ _ => object.toJson?.isSome = true
  | _ => True

theorem call_of_writable {op : Operation} (h : op.IsWritable) : ∃ call, op.call = .ok call := by
  cases op with
  | apply name object fieldManager force =>
    obtain ⟨body, hbody⟩ := Option.isSome_iff_exists.mp h
    exact ⟨.patch name ⟨false, force, some fieldManager⟩ .apply body, by simp [call, hbody]⟩
  | _ => exact ⟨_, rfl⟩

theorem call_of_unwritable {op : Operation} (h : ¬ op.IsWritable) :
    op.call = .error (.internal "failed to encode apply body") := by
  cases op with
  | apply name object fieldManager force =>
    have hnone : object.toJson? = none := by simpa [IsWritable] using h
    simp [call, hnone]
  | _ => simp [IsWritable] at h

end Operation

/-- A review that fails counts as one that denies. -/
theorem AccessClient.outcome_spansNamespaces {c : AccessClient σ} {b : Binding} {verb : Verb}
    {answer : Except TransportError Bool} {s t : σ}
    (h : outcome (c.reviewer (spanCheck b verb)) s = (answer, t)) :
    outcome (c.spansNamespaces b verb) s = (answer.toOption.getD false, t) := by
  refine (outcome_bind_of h _).trans ?_
  cases answer <;> rfl

namespace Handle

/-- What there is to find for an operation: a target, or an error in place of one, and the state
after whoever had to be asked. -/
inductive Finds (c : AccessClient σ) (h : Handle) (op : Operation) (s : σ) :
    Except Error Target → σ → Prop where
  | refused {refusal : Refusal} (unbound : h.binding = .error refusal) :
      Finds c h op s (.error refusal.toError) s
  | misscoped {b : Binding} (bound : h.binding = .ok b) (scope : b.mapping.namespaced = false)
      (named : h.namespaceName ≠ "") :
      Finds c h op s (.error (.scopeMismatch b.kind.kind h.namespaceName)) s
  | clusterWide {b : Binding} (bound : h.binding = .ok b) (scope : b.mapping.namespaced = false)
      (unnamed : h.namespaceName = "") : Finds c h op s (.ok ⟨b.mapping, none⟩) s
  | own {b : Binding} (bound : h.binding = .ok b) (scope : b.mapping.namespaced = true)
      (named : h.namespaceName ≠ "") : Finds c h op s (.ok ⟨b.mapping, some h.namespaceName⟩) s
  | chosen {b : Binding} {ns : String} (bound : h.binding = .ok b)
      (scope : b.mapping.namespaced = true) (unnamed : h.namespaceName = "")
      (single : op.collectionVerb? = none) (object : op.objectNamespace = some ns)
      (named : ns ≠ "") : Finds c h op s (.ok ⟨b.mapping, some ns⟩) s
  | unchosen {b : Binding} (bound : h.binding = .ok b) (scope : b.mapping.namespaced = true)
      (unnamed : h.namespaceName = "") (single : op.collectionVerb? = none)
      (object : ∀ ns, op.objectNamespace = some ns → ns = "") :
      Finds c h op s (.ok ⟨b.mapping, some c.defaultNamespace⟩) s
  | everywhere {b : Binding} {verb : Verb} {t : σ} (bound : h.binding = .ok b)
      (scope : b.mapping.namespaced = true) (unnamed : h.namespaceName = "")
      (collection : op.collectionVerb? = some verb)
      (allowed : outcome (c.reviewer (spanCheck b verb)) s = (.ok true, t)) :
      Finds c h op s (.ok ⟨b.mapping, none⟩) t
  | withheld {b : Binding} {verb : Verb} {answer : Except TransportError Bool} {t : σ}
      (bound : h.binding = .ok b) (scope : b.mapping.namespaced = true)
      (unnamed : h.namespaceName = "") (collection : op.collectionVerb? = some verb)
      (answered : outcome (c.reviewer (spanCheck b verb)) s = (answer, t))
      (unallowed : answer ≠ .ok true) :
      Finds c h op s (.ok ⟨b.mapping, some c.defaultNamespace⟩) t

variable {c : AccessClient σ} {h : Handle} {op : Operation} {s t : σ}

theorem bound_of_binding {b : Binding} (hb : h.binding = .ok b) : h.bound = .ok b := by
  simp only [bound, hb]

theorem outcome_target {found : Except Error Target} (hf : Finds c h op s found t) :
    outcome (h.target c op) s = (found, t) := by
  cases hf with
  | refused unbound => simp [target, bound, unbound]
  | misscoped hb scope named =>
    cases hv : op.collectionVerb? <;>
      simp [target, bound_of_binding hb, hv, collectionTarget, objectTarget, clusterTarget, scope,
        named]
  | clusterWide hb scope unnamed =>
    cases hv : op.collectionVerb? <;>
      simp [target, bound_of_binding hb, hv, collectionTarget, objectTarget, clusterTarget, scope,
        unnamed]
  | own hb scope named =>
    cases hv : op.collectionVerb? <;>
      simp [target, bound_of_binding hb, hv, collectionTarget, objectTarget, firstNamed, scope,
        named]
  | chosen hb scope unnamed single object named =>
    simp [target, bound_of_binding hb, single, objectTarget, firstNamed, scope, unnamed, object,
      named]
  | unchosen hb scope unnamed single object =>
    have hempty : op.objectNamespace.getD "" = "" := by
      cases ho : op.objectNamespace with
      | none => rfl
      | some ns => exact object ns ho
    simp [target, bound_of_binding hb, single, objectTarget, firstNamed, scope, unnamed, hempty]
  | everywhere hb scope unnamed collection allowed =>
    have hspans := AccessClient.outcome_spansNamespaces allowed
    simp [target, bound_of_binding hb, collection, collectionTarget, scope, unnamed, hspans,
      Except.toOption]
  | @withheld _ _ answer _ hb scope unnamed collection answered unallowed =>
    have hspans := AccessClient.outcome_spansNamespaces answered
    have hno : answer.toOption.getD false = false := by
      rcases answer with e | _ | _
      · rfl
      · rfl
      · exact absurd rfl unallowed
    simp [target, bound_of_binding hb, collection, collectionTarget, scope, unnamed, hspans, hno]

theorem exists_finds (c : AccessClient σ) (h : Handle) (op : Operation) (s : σ) :
    ∃ found t, Finds c h op s found t := by
  cases hb : h.binding with
  | error refusal => exact ⟨_, _, .refused hb⟩
  | ok b =>
    by_cases hn : h.namespaceName = ""
    · cases hscope : b.mapping.namespaced with
      | false => exact ⟨_, _, .clusterWide hb hscope hn⟩
      | true =>
        cases hv : op.collectionVerb? with
        | some verb =>
          by_cases hallowed : (outcome (c.reviewer (spanCheck b verb)) s).1 = .ok true
          · exact ⟨_, _, .everywhere hb hscope hn hv (Prod.ext hallowed rfl)⟩
          · exact ⟨_, _, .withheld hb hscope hn hv rfl hallowed⟩
        | none =>
          by_cases ho : ∀ ns, op.objectNamespace = some ns → ns = ""
          · exact ⟨_, _, .unchosen hb hscope hn hv ho⟩
          · obtain ⟨ns, ho⟩ := Classical.not_forall.mp ho
            obtain ⟨hobject, hnamed⟩ := Classical.not_imp.mp ho
            exact ⟨_, _, .chosen hb hscope hn hv hobject hnamed⟩
    · cases hscope : b.mapping.namespaced with
      | false => exact ⟨_, _, .misscoped hb hscope hn⟩
      | true => exact ⟨_, _, .own hb hscope hn⟩

theorem Finds.unique {found found' : Except Error Target} {t' : σ} (hf : Finds c h op s found t)
    (hf' : Finds c h op s found' t') : found = found' ∧ t = t' :=
  Prod.mk.inj ((outcome_target hf).symm.trans (outcome_target hf'))

/-- A target is one of the bound type. -/
theorem Finds.mapping {b : Binding} {goal : Target} (hf : Finds c h op s (.ok goal) t)
    (hb : h.binding = .ok b) : goal.mapping = b.mapping := by
  have hsame : ∀ b' : Binding, h.binding = .ok b' → b'.mapping = b.mapping := by
    intro b' hb'
    rw [Except.ok.inj (hb.symm.trans hb')]
  cases hf with
  | clusterWide hb' => exact hsame _ hb'
  | own hb' => exact hsame _ hb'
  | chosen hb' => exact hsame _ hb'
  | unchosen hb' => exact hsame _ hb'
  | everywhere hb' => exact hsame _ hb'
  | withheld hb' => exact hsame _ hb'

/-- A target can be missed for a bound handle in one way only. -/
theorem Finds.error_eq {b : Binding} {e : Error} (hf : Finds c h op s (.error e) t)
    (hb : h.binding = .ok b) : e = .scopeMismatch b.kind.kind h.namespaceName := by
  cases hf with
  | refused unbound => cases hb.symm.trans unbound
  | misscoped hb' scope named =>
    obtain rfl := Except.ok.inj (hb.symm.trans hb')
    rfl

theorem outcome_run_of_error {e : Error} (hf : Finds c h op s (.error e) t) :
    outcome (h.run c op) s = (.error e, t) :=
  outcome_bind_of (outcome_target hf) _

theorem outcome_run_of_unwritten {goal : Target} {e : Error} (hf : Finds c h op s (.ok goal) t)
    (hc : op.call = .error e) : outcome (h.run c op) s = (.error e, t) := by
  refine (outcome_bind_of (outcome_target hf) _).trans ?_
  simp [hc]

/-- The backend is asked last, and its answer is the operation's. -/
theorem outcome_run_of_call {goal : Target} {call : Call} (hf : Finds c h op s (.ok goal) t)
    (hc : op.call = .ok call) :
    outcome (h.run c op) s = ((outcome (c.backend goal call) t).1.mapError Error.lift,
      (outcome (c.backend goal call) t).2) := by
  refine (outcome_bind_of (outcome_target hf) _).trans ?_
  simp only [hc, outcome_bind]
  cases (outcome (c.backend goal call) t).1 <;> rfl

end Handle

end ClusterAccess
