import ClusterAccess.Proofs.Noted
import ClusterAccess.Validation.Chain

namespace ClusterAccess

namespace ValidatorRegistry

variable {σ : Type} {r : ValidatorRegistry σ} {new : Registration σ}

/-- The registry that a call leaves. -/
def afterCall (r : ValidatorRegistry σ) (new : Registration σ) : ValidatorRegistry σ :=
  (r.register new).toOption.getD r

def after (r : ValidatorRegistry σ) (calls : List (Registration σ)) : ValidatorRegistry σ :=
  calls.foldl afterCall r

theorem after_concat (r : ValidatorRegistry σ) (calls : List (Registration σ))
    (new : Registration σ) : r.after (calls ++ [new]) = (r.after calls).afterCall new :=
  List.foldl_append

theorem register_of_mem (h : new.name ∈ r.names) :
    r.register new = .error (.configuration (.duplicateValidator new.name)) :=
  dif_pos h

theorem register_of_not_mem (h : new.name ∉ r.names) :
    ∃ r', r.register new = .ok r' ∧ r'.registrations = r.registrations ++ [new] :=
  ⟨_, dif_neg h, rfl⟩

theorem afterCall_of_mem (h : new.name ∈ r.names) : r.afterCall new = r := by
  rw [afterCall, register_of_mem h]
  rfl

theorem registrations_afterCall (h : new.name ∉ r.names) :
    (r.afterCall new).registrations = r.registrations ++ [new] := by
  obtain ⟨r', hr', hregistrations⟩ := register_of_not_mem h
  rw [afterCall, hr']
  exact hregistrations

theorem names_afterCall (h : new.name ∉ r.names) :
    (r.afterCall new).names = r.names ++ [new.name] := by
  rw [names, registrations_afterCall h, List.map_append]
  rfl

theorem eraseDups_of_nodup {names : List String} (h : names.Nodup) : names.eraseDups = names := by
  induction h with
  | nil => rfl
  | cons hne _ ih =>
    rw [List.eraseDups_cons, List.filter_eq_self.mpr, ih]
    intro other hother
    simpa using (hne other hother).symm

theorem names_after (r : ValidatorRegistry σ) (calls : List (Registration σ)) :
    (r.after calls).names = (r.names ++ calls.map (·.name)).eraseDups := by
  induction calls generalizing r with
  | nil =>
    rw [List.map_nil, List.append_nil]
    exact (eraseDups_of_nodup r.distinct).symm
  | cons new calls ih =>
    refine (ih (r.afterCall new)).trans ?_
    by_cases h : new.name ∈ r.names
    · rw [afterCall_of_mem h, List.eraseDups_append, List.eraseDups_append]
      simp [List.removeAll, h]
    · rw [names_afterCall h, List.map_cons, List.append_assoc, List.singleton_append]

theorem find_name (r : ValidatorRegistry σ) {reg : Registration σ} (h : reg ∈ r.registrations) :
    r.registrations.find? (·.name = reg.name) = some reg := by
  obtain ⟨before, behind, hsplit⟩ := List.append_of_mem h
  have hdistinct := r.distinct
  rw [hsplit, List.map_append, List.nodup_append] at hdistinct
  refine List.find?_eq_some_iff_append.mpr ⟨by simp, before, behind, hsplit, fun other hother => ?_⟩
  have hne : other.name ≠ reg.name :=
    hdistinct.2.2 _ (List.mem_map_of_mem hother) _ List.mem_cons_self
  simp [hne]

/-- A call that comes too late is passed over. -/
theorem find_late (h : new.name ∈ r.names) (calls : List (Registration σ)) (name : String) :
    (r.registrations ++ new :: calls).find? (·.name = name) =
      (r.registrations ++ calls).find? (·.name = name) := by
  cases hfound : r.registrations.find? (·.name = name) with
  | some found => simp [List.find?_append, hfound]
  | none =>
    have hne : new.name ≠ name := by
      rintro rfl
      obtain ⟨reg, hreg, hname⟩ := List.mem_map.mp h
      exact absurd hname (by simpa using List.find?_eq_none.mp hfound reg hreg)
    simp [List.find?_append, hfound, hne]

/-- What is registered for a name is the first call for it. -/
theorem find_after (r : ValidatorRegistry σ) (calls : List (Registration σ))
    {reg : Registration σ} (h : reg ∈ (r.after calls).registrations) :
    (r.registrations ++ calls).find? (·.name = reg.name) = some reg := by
  induction calls generalizing r with
  | nil =>
    rw [List.append_nil]
    exact r.find_name h
  | cons new calls ih =>
    have hfind := ih (r.afterCall new) h
    by_cases hnew : new.name ∈ r.names
    · rw [afterCall_of_mem hnew] at hfind
      rw [find_late hnew, hfind]
    · rw [registrations_afterCall hnew, List.append_assoc] at hfind
      exact hfind

end ValidatorRegistry

/-- What a validator is asked, and what it says. -/
structure Judgement where
  validator : String
  request : ValidationRequest
  verdict : Except ValidationError Unit

/-- The judgements of validators that are asked in order up to the first refusal, and what they come
to. -/
inductive Judged (request : ValidationRequest) :
    List String → List Judgement → Except ValidationError Unit → Prop where
  | nobody : Judged request [] [] (.ok ())
  | passed {name : String} {names : List String} {judged : List Judgement}
      {verdict : Except ValidationError Unit} (rest : Judged request names judged verdict) :
      Judged request (name :: names) (⟨name, request, .ok ()⟩ :: judged) verdict
  | refused (name : String) (names : List String) (e : ValidationError) :
      Judged request (name :: names) [⟨name, request, .error e⟩] (.error e)

namespace Judged

variable {request : ValidationRequest} {names : List String} {judged : List Judgement}
  {verdict : Except ValidationError Unit}

theorem isPrefix (h : Judged request names judged verdict) :
    judged.map (·.validator) <+: names := by
  induction h with
  | nobody => exact List.prefix_rfl
  | passed _ ih => exact List.cons_prefix_cons.mpr ⟨rfl, ih⟩
  | refused name names e => exact List.cons_prefix_cons.mpr ⟨rfl, List.nil_prefix⟩

theorem request_eq (h : Judged request names judged verdict) :
    ∀ j ∈ judged, j.request = request := by
  induction h with
  | nobody => simp
  | passed _ ih => simpa using ih
  | refused => simp

theorem ok_iff (h : Judged request names judged verdict) : verdict = .ok () ↔
    judged.map (·.validator) = names ∧ ∀ j ∈ judged, j.verdict = .ok () := by
  induction h with
  | nobody => simp
  | passed _ ih => simpa using ih
  | refused => simp

/-- The last one that is asked refuses, if any does. -/
theorem error_iff (h : Judged request names judged verdict) {e : ValidationError} :
    verdict = .error e ↔ ∃ last, judged.getLast? = some last ∧ last.verdict = .error e := by
  induction h with
  | nobody => simp
  | passed rest ih =>
    refine ih.trans ?_
    cases rest with
    | nobody => simp
    | passed => simp
    | refused => simp
  | refused => simp

end Judged

/-- A validator that notes what it is asked, under a name. -/
def Validator.noted {σ : Type} (name : String) (v : Validator σ) :
    Validator (Noted Judgement σ) where
  name := v.name
  validate request := do
    let verdict ← quietly (v.validate request)
    noting ⟨name, request, verdict⟩ (pure verdict)

/-- The chain in which every registration makes its own validator, which notes what it is asked
under the registration's name. -/
def ValidatorRegistry.noted {σ : Type} (r : ValidatorRegistry σ) (c : Collaborators σ) :
    Chain (Noted Judgement σ) :=
  ⟨r.registrations.map fun reg => (reg.make c).noted reg.name⟩

theorem Validator.outcome_noted {σ : Type} (name : String) (v : Validator σ)
    (request : ValidationRequest) (n : Noted Judgement σ) :
    outcome ((v.noted name).validate request) n =
      ((outcome (v.validate request) n.state).1,
        ⟨(outcome (v.validate request) n.state).2,
          n.notes ++ [⟨name, request, (outcome (v.validate request) n.state).1⟩]⟩) :=
  rfl

namespace Chain

variable {σ : Type}

section

variable {v : Validator σ} {vs : List (Validator σ)} {r : ValidationRequest} {s t : σ}

theorem outcome_validateAll_error {e : ValidationError}
    (h : outcome (v.validate r) s = (.error e, t)) :
    outcome (validateAll r (v :: vs)) s = (.error e, t) :=
  outcome_bind_of h _

theorem outcome_validateAll_ok (h : outcome (v.validate r) s = (.ok (), t)) :
    outcome (validateAll r (v :: vs)) s = outcome (validateAll r vs) t :=
  outcome_bind_of h _

end

/-- Validators that are noted go on from one to the next as they do without notes. -/
theorem judged_validateAll (regs : List (Registration σ)) (c : Collaborators σ)
    (request : ValidationRequest) (n : Noted Judgement σ) :
    let answered := outcome (validateAll request (regs.map fun reg => reg.make c)) n.state
    ∃ judged, Judged request (regs.map (·.name)) judged answered.1 ∧
      outcome (validateAll request (regs.map fun reg => (reg.make c).noted reg.name)) n =
        (answered.1, ⟨answered.2, n.notes ++ judged⟩) := by
  induction regs generalizing n with
  | nil => exact ⟨[], .nobody, by simp [validateAll]⟩
  | cons reg regs ih =>
    simp only [List.map_cons]
    have hnoted := (reg.make c).outcome_noted reg.name request n
    rcases h : outcome ((reg.make c).validate request) n.state with ⟨e | _, t⟩
    · rw [h] at hnoted
      rw [outcome_validateAll_error h, outcome_validateAll_error hnoted]
      exact ⟨_, .refused reg.name _ e, rfl⟩
    · rw [h] at hnoted
      rw [outcome_validateAll_ok h, outcome_validateAll_ok hnoted]
      obtain ⟨judged, hjudged, houtcome⟩ := ih ⟨t, n.notes ++ [⟨reg.name, request, .ok ()⟩]⟩
      rw [List.append_assoc] at houtcome
      exact ⟨_, .passed hjudged, houtcome⟩

end Chain

namespace ValidatorRegistry

variable {σ : Type}

/-- A chain that is noted answers as it does without notes. -/
theorem judged_noted (r : ValidatorRegistry σ) (c : Collaborators σ) (request : ValidationRequest)
    (n : Noted Judgement σ) :
    ∃ judged, Judged request r.names judged (outcome ((r.build c).validate request) n.state).1 ∧
      outcome ((r.noted c).validate request) n =
        ((outcome ((r.build c).validate request) n.state).1,
          ⟨(outcome ((r.build c).validate request) n.state).2, n.notes ++ judged⟩) :=
  Chain.judged_validateAll r.registrations c request n

/-- Names stay distinct, and each stands for the first call that gives it. A chain asks validators
from the front of the registry, each once, and answers as the last one that it asks. -/
theorem registers_once_and_asks_in_order (start : ValidatorRegistry σ)
    (calls : List (Registration σ)) :
    let r := start.after calls
    r.names.Nodup ∧
    r.names = (start.names ++ calls.map (·.name)).eraseDups ∧
    (∀ reg ∈ r.registrations,
      (start.registrations ++ calls).find? (·.name = reg.name) = some reg) ∧
    (∀ new : Registration σ,
      (new.name ∈ r.names →
        r.register new = .error (.configuration (.duplicateValidator new.name)) ∧
        start.after (calls ++ [new]) = r) ∧
      (new.name ∉ r.names → ∃ r', r.register new = .ok r' ∧
        start.after (calls ++ [new]) = r' ∧ r'.registrations = r.registrations ++ [new])) ∧
    ∀ (c : Collaborators σ) (request : ValidationRequest) (n : Noted Judgement σ),
      let (verdict, state) := outcome ((r.build c).validate request) n.state
      ∃ judged, outcome ((r.noted c).validate request) n = (verdict, ⟨state, n.notes ++ judged⟩) ∧
        judged.map (·.validator) <+: r.names ∧
        (∀ j ∈ judged, j.request = request) ∧
        (verdict = .ok () ↔
          judged.map (·.validator) = r.names ∧ ∀ j ∈ judged, j.verdict = .ok ()) ∧
        ∀ e, verdict = .error e ↔
          ∃ last, judged.getLast? = some last ∧ last.verdict = .error e := by
  intro r
  refine ⟨r.distinct, names_after start calls, fun reg => find_after start calls, fun new => ?_, ?_⟩
  · rw [after_concat]
    refine ⟨fun h => ⟨register_of_mem h, afterCall_of_mem h⟩, fun h => ?_⟩
    obtain ⟨r', hr', hregistrations⟩ := register_of_not_mem h
    exact ⟨r', hr', by rw [afterCall, hr']; rfl, hregistrations⟩
  · intro c request n
    obtain ⟨judged, hjudged, houtcome⟩ := r.judged_noted c request n
    exact ⟨judged, houtcome, hjudged.isPrefix, hjudged.request_eq, hjudged.ok_iff,
      fun e => hjudged.error_iff⟩

end ValidatorRegistry

end ClusterAccess
