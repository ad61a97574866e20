import ClusterAccess.Proofs.Recording

namespace ClusterAccess

variable {σ α β : Type}

/-- A request is refused, or the service behind the gate answers it. -/
inductive Passage where
  | refused (request : Http.Request) (reason : Error)
  | passed (request : Http.Request) (answer : Except TransportError Http.Response)

/-- A service behind the gate, with a note of what becomes of each request. -/
def Gate.traced (g : Gate σ) (service : Client.Service σ) : Client.Service (Noted Passage σ) :=
  fun r => do
    match ← quietly (g.clearance r) with
    | .error e => noting (.refused r e) (pure (.error (.gateway e)))
    | .ok sent =>
      let answer ← quietly (service sent)
      noting (.passed sent answer) (pure answer)

/-- At most one request was made. Its refusal or its failure is the result, turned into an error
of the result's kind. -/
structure Follows {ε : Type} (turn : TransportError → ε) (result : Except ε α)
    (passages : List Passage) : Prop where
  refused : ∀ request reason, .refused request reason ∈ passages →
    result = .error (turn (.gateway reason))
  failed : ∀ request cause, .passed request (.error cause) ∈ passages →
    result = .error (turn cause)
  once : passages.length ≤ 1

namespace Follows

theorem nil {ε : Type} {turn : TransportError → ε} {result : Except ε α} :
    Follows turn result [] where
  refused := by simp
  failed := by simp
  once := by simp

/-- What is made of an answer follows the request when failures are only turned. -/
theorem map {ε : Type} {turn : TransportError → ε} {answer : Except TransportError α}
    {passages : List Passage} (h : Follows id answer passages)
    (make : Except TransportError α → Except ε β)
    (hmake : ∀ cause, make (.error cause) = .error (turn cause)) :
    Follows turn (make answer) passages where
  refused request reason hp := by
    rw [h.refused request reason hp]
    exact hmake (.gateway reason)
  failed request cause hp := by
    rw [h.failed request cause hp]
    exact hmake cause
  once := h.once

end Follows

theorem Gate.writes_traced (g : Gate σ) (service : Client.Service σ) (r : Http.Request)
    (n : Noted Passage σ) :
    Writes n (Follows id) (g.traced service r) (g.guard service r) := by
  unfold traced guard
  apply Writes.after_quiet
  intro notes
  cases (outcome (g.clearance r) n.state).1 with
  | error e =>
    refine .note ⟨?_, ?_, by simp⟩
    · intro request reason hp
      obtain ⟨-, rfl⟩ := Passage.refused.inj (List.mem_singleton.mp hp)
      rfl
    · intro request cause hp
      cases List.mem_singleton.mp hp
  | ok sent =>
    let answer := (outcome (service sent) (outcome (g.clearance r) n.state).2).1
    refine ⟨[.passed sent answer], ⟨?_, ?_, by simp⟩, by simp [answer]⟩
    · intro request reason hp
      cases List.mem_singleton.mp hp
    · intro request cause hp
      obtain ⟨-, hcause⟩ := Passage.passed.inj (List.mem_singleton.mp hp)
      exact hcause.symm

theorem Backend.writes_ofService (g : Gate σ) (service : Client.Service σ) (goal : Target)
    (call : Call) (n : Noted Passage σ) :
    Writes n (Follows id) (ofService (g.traced service) goal call)
      (ofService (g.guard service) goal call) := by
  have hsends : Writes n (Follows id) (Client.send (g.traced service) (call.draft goal))
      (Client.send (g.guard service) (call.draft goal)) := by
    cases call.draft goal with
    | error e => exact .answer .nil
    | ok request => exact g.writes_traced service request n
  apply hsends.map (· >>= call.read)
  intro answer added hadded
  exact hadded.map (· >>= call.read) fun _ => rfl

namespace AccessClient

/-- The client with its calls carried out by a service. -/
def through (c : AccessClient σ) (service : Client.Service σ) : AccessClient σ :=
  { c with backend := Backend.ofService service }

/-- The same, where the service takes notes and nobody else does. -/
def tracedThrough (c : AccessClient σ) (service : Client.Service (Noted Passage σ)) :
    AccessClient (Noted Passage σ) where
  backend := Backend.ofService service
  mapper := c.mapper.quiet
  reviewer check := quietly (c.reviewer check)
  policy := c.policy
  defaultNamespace := c.defaultNamespace

theorem spansNamespaces_tracedThrough (c : AccessClient σ)
    (service : Client.Service (Noted Passage σ)) (b : Binding) (verb : Verb) :
    (c.tracedThrough service).spansNamespaces b verb = quietly (c.spansNamespaces b verb) := by
  refine quietly_bind ?_
  intro answer
  cases answer <;> rfl

end AccessClient

namespace Handle

/-- Looking for a target is none of the service's business. -/
theorem target_tracedThrough (c : AccessClient σ) (service : Client.Service (Noted Passage σ))
    (h : Handle) (op : Operation) :
    h.target (c.tracedThrough service) op = quietly (h.target c op) := by
  unfold target
  cases h.bound with
  | error e => rfl
  | ok b =>
    cases op.collectionVerb? with
    | none => rfl
    | some verb =>
      simp only [collectionTarget]
      split
      · split
        · rfl
        · rw [AccessClient.spansNamespaces_tracedThrough]
          refine quietly_bind ?_
          intro allowed
          cases allowed <;> rfl
      · rfl

theorem writes_run (c : AccessClient σ) (g : Gate σ) (service : Client.Service σ) (h : Handle)
    (op : Operation) (n : Noted Passage σ) :
    Writes n (Follows Error.lift) (h.run (c.tracedThrough (g.traced service)) op)
      (h.run (c.through (g.guard service)) op) := by
  unfold run
  rw [target_tracedThrough]
  apply Writes.after_quiet
  intro notes
  cases (outcome (h.target c op) n.state).1 with
  | error e => exact .answer .nil
  | ok goal =>
    cases op.call with
    | error e => exact .answer .nil
    | ok call =>
      refine (Backend.writes_ofService g service goal call _).bind fun passages notes hfollows => ?_
      have hmapped := hfollows.map (Except.mapError Error.lift) fun _ => rfl
      generalize (outcome (Backend.ofService (g.guard service) goal call)
        (outcome (h.target c op) n.state).2).1 = reply at hmapped
      rw [← List.append_nil passages] at hmapped
      cases reply with
      | error e => exact .answer hmapped
      | ok reply => exact .answer hmapped

/-- Errors survive the client. A refusal of the gateway is found again in a transport error that
carries it, and every other transport error stays whole. So an operation, which makes at most one
request of its own, returns the very error with which a gate refuses the request, and the very
failure of the service behind the gate, unless that is a refusal itself. What a reviewer is asked
beforehand is not the operation's request. -/
theorem run_keeps_errors :
    (∀ cause e, Error.ofTransport? cause = some e → Error.lift cause = e) ∧
    (∀ cause, Error.ofTransport? cause = none → Error.lift cause = .transport cause) ∧
    (∀ e, Error.lift (.gateway e) = e) ∧
    ∀ (c : AccessClient σ) (g : Gate σ) (service : Client.Service σ) (h : Handle) (op : Operation)
      (n : Noted Passage σ),
      let answered := outcome (h.run (c.through (g.guard service)) op) n.state
      ∃ passages, passages.length ≤ 1 ∧
        outcome (h.run (c.tracedThrough (g.traced service)) op) n =
          (answered.1, ⟨answered.2, n.notes ++ passages⟩) ∧
        (∀ request reason, .refused request reason ∈ passages → answered.1 = .error reason) ∧
        ∀ request cause, .passed request (.error cause) ∈ passages →
          Error.ofTransport? cause = none → answered.1 = .error (.transport cause) := by
  have hcarried : ∀ cause e, Error.ofTransport? cause = some e → Error.lift cause = e := by
    intro cause e he
    rw [Error.lift, he, Option.getD_some]
  have hwhole : ∀ cause, Error.ofTransport? cause = none → Error.lift cause = .transport cause := by
    intro cause hnone
    rw [Error.lift, hnone, Option.getD_none]
  have hback : ∀ e, Error.lift (.gateway e) = e := fun e => hcarried _ e rfl
  refine ⟨hcarried, hwhole, hback, ?_⟩
  intro c g service h op n
  obtain ⟨passages, hfollows, hrun⟩ := writes_run c g service h op n
  refine ⟨passages, hfollows.once, hrun, ?_, ?_⟩
  · intro request reason hp
    rw [hfollows.refused request reason hp, hback]
  · intro request cause hp hnone
    rw [hfollows.failed request cause hp, hwhole cause hnone]

def podMapping : Mapping where
  gvk := ⟨"", "v1", "Pod"⟩
  plural := "pods"
  namespaced := true

/-- A client that takes everything for a pod. -/
def podClient : AccessClient Unit where
  backend _ _ := pure (.ok .done)
  mapper := ⟨fun _ => pure (.ok podMapping.gvk), fun _ => pure (.ok podMapping)⟩
  reviewer _ := pure (.ok false)
  policy := ⟨[]⟩
  defaultNamespace := "default"

def podHandle : Handle where
  binding := .ok ⟨podMapping.gvk, podMapping⟩

def podGate (rules : List DenyRule) : Gate Unit where
  policy := ⟨rules⟩
  mapper := podClient.mapper

def podRequest : Http.Request where
  method := "GET"
  uri := { path := "/api/v1/namespaces/default/pods/a" }

def breakingDown : Client.Service Unit :=
  fun _ => pure (.error (.service "reset"))

theorem run_keeps_errors_pod :
    (outcome (podHandle.run
        (podClient.through ((podGate [⟨"", "v1", "Pod"⟩]).guard breakingDown)) (.get "a")) ()).1 =
      .error (.denied podMapping.gvk) ∧
    (outcome (podHandle.run (podClient.through ((podGate []).guard breakingDown)) (.get "a")) ()).1 =
      .error (.transport (.service "reset")) := by
  constructor
  · obtain ⟨passages, -, hrun, hrefused, -⟩ := run_keeps_errors.2.2.2 podClient
      (podGate [⟨"", "v1", "Pod"⟩]) breakingDown podHandle (.get "a") ⟨(), []⟩
    have hnotes : [.refused podRequest (.denied podMapping.gvk)] = passages :=
      congrArg (fun answered => answered.2.notes) hrun
    subst hnotes
    exact hrefused podRequest _ (by simp)
  · obtain ⟨passages, -, hrun, -, hfailed⟩ := run_keeps_errors.2.2.2 podClient
      (podGate []) breakingDown podHandle (.get "a") ⟨(), []⟩
    have hnotes : [.passed podRequest (.error (.service "reset"))] = passages :=
      congrArg (fun answered => answered.2.notes) hrun
    subst hnotes
    exact hfailed podRequest _ (by simp) rfl

end Handle

end ClusterAccess
