import ClusterAccess.Proofs.Registration
import ClusterAccess.Proofs.UndeclaredFields
import ClusterAccess.Proofs.Verdicts

namespace ClusterAccess

variable {σ : Type}

/-- A type that cannot be told is taken to be served. -/
def orServed (mapping : Mapping) : Except MappingError Mapping → Except MappingError Mapping
  | .error (.noMatch wanted) => .error (.noMatch wanted)
  | .error (.discovery _) => .ok mapping
  | .ok found => .ok found

/-- A review that fails is taken to allow. -/
def orAllowed : Except TransportError Bool → Except TransportError Bool
  | .error _ => .ok true
  | .ok allowed => .ok allowed

theorem orServed_cases (mapping : Mapping) (answer : Except MappingError Mapping) :
    (∃ wanted, orServed mapping answer = .error (.noMatch wanted)) ∨
      ∃ found, orServed mapping answer = .ok found := by
  cases answer with
  | ok found => exact .inr ⟨found, rfl⟩
  | error cause =>
    cases cause with
    | noMatch wanted => exact .inl ⟨wanted, rfl⟩
    | discovery reason => exact .inr ⟨mapping, rfl⟩

theorem exists_orAllowed (answer : Except TransportError Bool) :
    ∃ allowed, orAllowed answer = .ok allowed := by
  cases answer with
  | ok allowed => exact ⟨allowed, rfl⟩
  | error cause => exact ⟨true, rfl⟩

/-- A schema that says nothing of what is held against it. -/
def ResourceSchema.DeclaresNothing (schema : ResourceSchema) : Prop :=
  ∀ key ∈ ["$ref", "allOf", "properties", "additionalProperties", "items"],
    schema.root.member? key = none

/-- Whom the standard validators ask. -/
inductive Question where
  | mapping (kind : GroupVersionKind)
  | schema (kind : GroupVersionKind)
  | review (check : AccessCheck)

namespace Collaborators

/-- Whoever cannot answer gives a positive answer. Validators do not ask for kinds. -/
def assuming (c : Collaborators σ) (mapping : GroupVersionKind → Mapping)
    (schema : GroupVersionKind → ResourceSchema) : Collaborators σ where
  mapper := {
    kindFor := c.mapper.kindFor
    mappingFor := fun kind => do return orServed (mapping kind) (← c.mapper.mappingFor kind) }
  schemas kind := do return some ((← c.schemas kind).getD (schema kind))
  reviewer check := do return orAllowed (← c.reviewer check)

/-- Collaborators who note what they are asked. -/
def noted (c : Collaborators σ) : Collaborators (Noted Question σ) where
  mapper := {
    kindFor := fun wanted => quietly (c.mapper.kindFor wanted)
    mappingFor := fun kind => noting (.mapping kind) (c.mapper.mappingFor kind) }
  schemas kind := noting (.schema kind) (c.schemas kind)
  reviewer check := noting (.review check) (c.reviewer check)

section

variable (c : Collaborators σ) (mapping : GroupVersionKind → Mapping)
  (schema : GroupVersionKind → ResourceSchema) (s : σ)

theorem outcome_mappingFor_assuming (kind : GroupVersionKind) :
    outcome ((c.assuming mapping schema).mapper.mappingFor kind) s =
      (orServed (mapping kind) (outcome (c.mapper.mappingFor kind) s).1,
        (outcome (c.mapper.mappingFor kind) s).2) :=
  rfl

theorem outcome_schemas_assuming (kind : GroupVersionKind) :
    outcome ((c.assuming mapping schema).schemas kind) s =
      (some ((outcome (c.schemas kind) s).1.getD (schema kind)), (outcome (c.schemas kind) s).2) :=
  rfl

theorem outcome_reviewer_assuming (check : AccessCheck) :
    outcome ((c.assuming mapping schema).reviewer check) s =
      (orAllowed (outcome (c.reviewer check) s).1, (outcome (c.reviewer check) s).2) :=
  rfl

end

end Collaborators

namespace ResourceSchema

variable {schema : ResourceSchema} {components : List (String × Json)} {settled declared : Json}
  {name : String}

namespace DeclaresNothing

theorem settles (h : schema.DeclaresNothing) (hs : Schema.Settles components schema.root settled) :
    settled = schema.root := by
  have href := h "$ref" (by simp)
  have hallOf := h "allOf" (by simp)
  obtain ⟨hops, -, hleads⟩ := hs.leads
  cases hleads with
  | stays => rfl
  | hop hrefers hrest =>
    cases hrefers with
    | named names found => cases href.symm.trans names
    | united unnamed single => cases hallOf.symm.trans single

theorem not_lacks (h : schema.DeclaresNothing) : ¬ Schema.Lacks schema.root name := by
  intro hlacks
  obtain ⟨properties, hp, -⟩ := hlacks.unnamed
  cases (h "properties" (by simp)).symm.trans hp

theorem not_declares (h : schema.DeclaresNothing) :
    ¬ Schema.Declares schema.root name declared := by
  intro hdeclares
  cases hdeclares with
  | property named found => cases (h "properties" (by simp)).symm.trans named
  | additional unnamed others => cases (h "additionalProperties" (by simp)).symm.trans others

theorem firstUnknown (h : schema.DeclaresNothing) (body : Json) :
    schema.firstUnknown body = none := by
  rw [← Option.not_isSome_iff_eq_none, schema.isSome_firstUnknown_iff body]
  rintro ⟨level, position, path, -, hundeclared⟩
  -- the root settles on itself, and so nothing below it is reached
  generalize hroot : schema.root = root at hundeclared
  cases hundeclared with
  | here settles found field lacks =>
    subst hroot
    rw [h.settles settles] at lacks
    exact h.not_lacks lacks
  | member settles found field declares below =>
    subst hroot
    rw [h.settles settles] at declares
    exact h.not_declares declares
  | item settles found declares below =>
    subst hroot
    rw [h.settles settles] at declares
    cases (h "items" (by simp)).symm.trans declares

end DeclaresNothing

end ResourceSchema

theorem eq_of_outcome {α : Type} {x y : StateM σ α} (h : ∀ s, outcome x s = outcome y s) : x = y :=
  funext h

namespace Validator

/-- What is made of the answer on a kind. -/
def ofMapping (kind : GroupVersionKind) : Except MappingError Mapping → Except ValidationError Unit
  | .error (.noMatch _) => .error (.resourceNotFound kind.apiVersion kind.kind)
  | _ => .ok ()

/-- What is made of the answer of a review. -/
def ofReview (c : Coordinate) : Except TransportError Bool → Except ValidationError Unit
  | .ok false => .error (.forbidden c.verb.name c.resource c.namespaceName)
  | _ => .ok ()

@[simp]
theorem ofMapping_orServed (kind : GroupVersionKind) (mapping : Mapping)
    (answer : Except MappingError Mapping) :
    ofMapping kind (orServed mapping answer) = ofMapping kind answer := by
  cases answer with
  | ok found => rfl
  | error cause => cases cause <;> rfl

@[simp]
theorem ofReview_orAllowed (c : Coordinate) (answer : Except TransportError Bool) :
    ofReview c (orAllowed answer) = ofReview c answer := by
  cases answer <;> rfl

theorem outcome_resource (mapper : Mapper σ) (r : ValidationRequest) (s : σ) :
    outcome ((resource mapper).validate r) s =
      (ofMapping r.kind (outcome (mapper.mappingFor r.kind) s).1,
        (outcome (mapper.mappingFor r.kind) s).2) := by
  simp only [resource, outcome_bind]
  cases (outcome (mapper.mappingFor r.kind) s).1 with
  | ok found => rfl
  | error cause => cases cause <;> rfl

theorem outcome_authorization (reviewer : Reviewer σ) (r : ValidationRequest) (s : σ) :
    outcome ((authorization reviewer).validate r) s =
      (ofReview r.coordinate (outcome (reviewer (accessCheck r.coordinate)) s).1,
        (outcome (reviewer (accessCheck r.coordinate)) s).2) := by
  simp only [authorization, outcome_bind]
  cases (outcome (reviewer (accessCheck r.coordinate)) s).1 with
  | ok allowed => cases allowed <;> rfl
  | error cause => rfl

variable (c : Collaborators σ) (mapping : GroupVersionKind → Mapping)
  {schema : GroupVersionKind → ResourceSchema}

theorem resource_assuming :
    resource (c.assuming mapping schema).mapper = resource c.mapper := by
  refine congrArg (Validator.mk "resource") (funext fun r => eq_of_outcome fun s => ?_)
  have hassumed := outcome_resource (c.assuming mapping schema).mapper r s
  rw [c.outcome_mappingFor_assuming, ofMapping_orServed] at hassumed
  exact hassumed.trans (outcome_resource c.mapper r s).symm

theorem schema_assuming (hs : ∀ kind, (schema kind).DeclaresNothing) :
    Validator.schema (c.assuming mapping schema).schemas = Validator.schema c.schemas := by
  refine congrArg (Validator.mk "schema") (funext fun r => eq_of_outcome fun s => ?_)
  rw [Schema.outcome_validate, Schema.outcome_validate, c.outcome_schemas_assuming]
  cases Schema.preview r with
  | exempt => rfl
  | refused reason => rfl
  | object body =>
    cases hpublished : (outcome (c.schemas r.kind) s).1 with
    | some published => rfl
    | none => simp [Schema.verdict, (hs r.kind).firstUnknown body]

theorem authorization_assuming :
    authorization (c.assuming mapping schema).reviewer = authorization c.reviewer := by
  refine congrArg (Validator.mk "authorization") (funext fun r => eq_of_outcome fun s => ?_)
  have hassumed := outcome_authorization (c.assuming mapping schema).reviewer r s
  rw [c.outcome_reviewer_assuming, ofReview_orAllowed] at hassumed
  exact hassumed.trans (outcome_authorization c.reviewer r s).symm

end Validator

/-- The standard validators do not tell who cannot answer from who answers positively. -/
theorem ValidatorRegistry.build_assuming (c : Collaborators σ)
    (mapping : GroupVersionKind → Mapping) {schema : GroupVersionKind → ResourceSchema}
    (hs : ∀ kind, (schema kind).DeclaresNothing) :
    standard.build (c.assuming mapping schema) = standard.build c := by
  simp only [build, standard, List.map_cons, List.map_nil, Validator.resource_assuming,
    Validator.schema_assuming c mapping hs, Validator.authorization_assuming]

/-- The source of schemas is asked about requests of which only the fields are left to check. -/
inductive AsksSchema (r : ValidationRequest) : List Question → Prop where
  | sound {value : Json} (h : Schema.IsSound r value) : AsksSchema r [.schema r.kind]
  | unsound (h : ∀ value, ¬ Schema.IsSound r value) : AsksSchema r []

/-- A verdict on a request, with the questions asked for it and the state in which they leave those
who are asked. -/
inductive Judges (c : Collaborators σ) (r : ValidationRequest) (s : σ) :
    Except ValidationError Unit → List Question → σ → Prop where
  | unserved {wanted : String} {e : ValidationError} {t : σ}
      (served : outcome (c.mapper.mappingFor r.kind) s = (.error (.noMatch wanted), t))
      (refusal : e = .resourceNotFound r.kind.apiVersion r.kind.kind)
      (code : e.code = .resourceNotFound) (field : e.field = none) :
      Judges c r s (.error e) [.mapping r.kind] t
  | unfit {found : Mapping} {asked : List Question} {e : ValidationError} {t u : σ}
      (served : outcome (c.mapper.mappingFor r.kind) s = (.ok found, t))
      (fit : outcome (Schema.validate c.schemas r) t = (.error e, u))
      (code : e.code = .schemaInvalid) (asks : AsksSchema r asked) :
      Judges c r s (.error e) ([.mapping r.kind] ++ asked) u
  | forbidden {found : Mapping} {asked : List Question} {e : ValidationError} {t u v : σ}
      (served : outcome (c.mapper.mappingFor r.kind) s = (.ok found, t))
      (fit : outcome (Schema.validate c.schemas r) t = (.ok (), u)) (asks : AsksSchema r asked)
      (allowed : outcome (c.reviewer (Validator.accessCheck r.coordinate)) u = (.ok false, v))
      (refusal : e = .forbidden r.coordinate.verb.name r.coordinate.resource
        r.coordinate.namespaceName)
      (code : e.code = .forbidden) (field : e.field = none) :
      Judges c r s (.error e) ([.mapping r.kind] ++ asked ++ [.review (Validator.accessCheck r.coordinate)]) v
  | admitted {found : Mapping} {asked : List Question} {t u v : σ}
      (served : outcome (c.mapper.mappingFor r.kind) s = (.ok found, t))
      (fit : outcome (Schema.validate c.schemas r) t = (.ok (), u)) (asks : AsksSchema r asked)
      (allowed : outcome (c.reviewer (Validator.accessCheck r.coordinate)) u = (.ok true, v)) :
      Judges c r s (.ok ())
        ([.mapping r.kind] ++ asked ++ [.review (Validator.accessCheck r.coordinate)]) v

namespace Chain

variable {v : Validator σ} {r : ValidationRequest} {s : σ}

theorem outcome_validateAll_single : outcome (validateAll r [v]) s = outcome (v.validate r) s := by
  cases h : outcome (v.validate r) s with
  | mk verdict t =>
    cases verdict with
    | error e => exact outcome_validateAll_error h
    | ok done => exact outcome_validateAll_ok h

end Chain

section

variable {c : Collaborators σ} {r : ValidationRequest} {n : Noted Question σ}

theorem outcome_resource_noted {answer : Except MappingError Mapping} {t : σ}
    (h : outcome (c.mapper.mappingFor r.kind) n.state = (answer, t)) :
    outcome ((Validator.resource c.noted.mapper).validate r) n =
      (Validator.ofMapping r.kind answer, ⟨t, n.notes ++ [.mapping r.kind]⟩) := by
  rw [Validator.outcome_resource]
  simp only [Collaborators.noted, outcome_noting, h]

theorem outcome_schema_noted {verdict : Except ValidationError Unit} {t : σ}
    {asked : List Question} (h : outcome (Schema.validate c.schemas r) n.state = (verdict, t))
    (hasks : AsksSchema r asked) :
    outcome (Schema.validate c.noted.schemas r) n = (verdict, ⟨t, n.notes ++ asked⟩) := by
  rw [Schema.outcome_validate] at h ⊢
  cases hasks with
  | sound hsound =>
    rw [Schema.preview_object_iff.mpr hsound] at h ⊢
    cases h
    rfl
  | unsound hunsound =>
    cases hp : Schema.preview r with
    | object value => exact absurd (Schema.preview_object_iff.mp hp) (hunsound value)
    | exempt =>
      rw [hp] at h
      cases h
      simp
    | refused reason =>
      rw [hp] at h
      cases h
      simp

theorem outcome_authorization_noted {answer : Except TransportError Bool} {t : σ}
    (h : outcome (c.reviewer (Validator.accessCheck r.coordinate)) n.state = (answer, t)) :
    outcome ((Validator.authorization c.noted.reviewer).validate r) n =
      (Validator.ofReview r.coordinate answer,
        ⟨t, n.notes ++ [.review (Validator.accessCheck r.coordinate)]⟩) := by
  rw [Validator.outcome_authorization]
  simp only [Collaborators.noted, outcome_noting, h]

theorem AsksSchema.exists (r : ValidationRequest) : ∃ asked, AsksSchema r asked := by
  by_cases h : ∃ value, Schema.IsSound r value
  · obtain ⟨value, hsound⟩ := h
    exact ⟨_, .sound hsound⟩
  · exact ⟨_, .unsound fun value hsound => h ⟨value, hsound⟩⟩

theorem validate_standard (c : Collaborators σ) (r : ValidationRequest) :
    (ValidatorRegistry.standard.build c).validate r = Chain.validateAll r
      [Validator.resource c.mapper, Validator.schema c.schemas, Validator.authorization c.reviewer] :=
  rfl

/-- A review decides on what passes the two checks before it. -/
theorem outcome_standard_reviewed {found : Mapping} {asked : List Question}
    {answer : Except TransportError Bool} {t u v : σ}
    (served : outcome (c.mapper.mappingFor r.kind) n.state = (.ok found, t))
    (fit : outcome (Schema.validate c.schemas r) t = (.ok (), u)) (asks : AsksSchema r asked)
    (answered : outcome (c.reviewer (Validator.accessCheck r.coordinate)) u = (answer, v)) :
    outcome ((ValidatorRegistry.standard.build c.noted).validate r) n =
      (Validator.ofReview r.coordinate answer, ⟨v, n.notes ++
        ([.mapping r.kind] ++ asked ++ [.review (Validator.accessCheck r.coordinate)])⟩) := by
  let m : Noted Question σ := ⟨t, n.notes ++ [.mapping r.kind]⟩
  let k : Noted Question σ := ⟨u, m.notes ++ asked⟩
  have hfit := outcome_schema_noted (n := m) fit asks
  have hanswered := outcome_authorization_noted (n := k) answered
  rw [validate_standard, Chain.outcome_validateAll_ok (outcome_resource_noted served),
    Chain.outcome_validateAll_ok hfit, Chain.outcome_validateAll_single, hanswered]
  simp [m, k]

/-- The validators judge so, and nobody is asked otherwise. -/
theorem Judges.outcome_standard {verdict : Except ValidationError Unit} {asked : List Question}
    {t : σ} (h : Judges c r n.state verdict asked t) :
    outcome ((ValidatorRegistry.standard.build c.noted).validate r) n =
      (verdict, ⟨t, n.notes ++ asked⟩) := by
  cases h with
  | unserved served refusal code field =>
    rw [validate_standard, refusal]
    exact Chain.outcome_validateAll_error (outcome_resource_noted served)
  | @unfit found asked e t u served fit code asks =>
    let m : Noted Question σ := ⟨t, n.notes ++ [.mapping r.kind]⟩
    have hfit := outcome_schema_noted (n := m) fit asks
    rw [validate_standard, Chain.outcome_validateAll_ok (outcome_resource_noted served),
      Chain.outcome_validateAll_error hfit, List.append_assoc]
  | forbidden served fit asks allowed refusal code field =>
    rw [refusal]
    exact outcome_standard_reviewed served fit asks allowed
  | admitted served fit asks allowed => exact outcome_standard_reviewed served fit asks allowed

end

/-- With positive answers in place of those that cannot be had, there is always a verdict. -/
theorem Collaborators.exists_judges (c : Collaborators σ) (mapping : GroupVersionKind → Mapping)
    (schema : GroupVersionKind → ResourceSchema) (r : ValidationRequest) (s : σ) :
    ∃ verdict asked t, Judges (c.assuming mapping schema) r s verdict asked t := by
  obtain ⟨asked, asks⟩ := AsksSchema.exists r
  have served := c.outcome_mappingFor_assuming mapping schema s r.kind
  rcases orServed_cases (mapping r.kind) (outcome (c.mapper.mappingFor r.kind) s).1 with
    ⟨wanted, hw⟩ | ⟨found, hf⟩
  · rw [hw] at served
    exact ⟨_, _, _, .unserved served rfl rfl rfl⟩
  · rw [hf] at served
    cases hfit : outcome (Schema.validate (c.assuming mapping schema).schemas r)
      (outcome (c.mapper.mappingFor r.kind) s).2 with
    | mk verdict u =>
      cases verdict with
      | error e =>
        have hcode : e.code = .schemaInvalid := Schema.code_of_validate (congrArg Prod.fst hfit)
        exact ⟨_, _, _, .unfit served hfit hcode asks⟩
      | ok done =>
        have hallowed := c.outcome_reviewer_assuming mapping schema u
          (Validator.accessCheck r.coordinate)
        obtain ⟨allowed, ha⟩ :=
          exists_orAllowed (outcome (c.reviewer (Validator.accessCheck r.coordinate)) u).1
        rw [ha] at hallowed
        cases allowed with
        | false => exact ⟨_, _, _, .forbidden served hfit asks hallowed rfl rfl rfl⟩
        | true => exact ⟨_, _, _, .admitted served hfit asks hallowed⟩

/-- Who cannot answer might as well answer positively: the verdict is the same, and so is who is
asked for it. The verdict is a refusal for the first negative answer, and no other. -/
theorem ValidatorRegistry.standard_refuses_on_negatives (c : Collaborators σ)
    (mapping : GroupVersionKind → Mapping) (schema : GroupVersionKind → ResourceSchema)
    (hs : ∀ kind, (schema kind).DeclaresNothing) (r : ValidationRequest) (n : Noted Question σ) :
    let assumed := c.assuming mapping schema
    let judged := outcome ((standard.build c.noted).validate r) n
    outcome ((standard.build assumed.noted).validate r) n = judged ∧
    (∃ verdict asked t, Judges assumed r n.state verdict asked t) ∧
    ∀ verdict asked t, Judges assumed r n.state verdict asked t ↔
      judged = (verdict, ⟨t, n.notes ++ asked⟩) := by
  intro assumed judged
  have hsame : outcome ((standard.build assumed.noted).validate r) n = judged := by
    have hnoted : assumed.noted = c.noted.assuming mapping schema := rfl
    rw [hnoted, build_assuming c.noted mapping hs]
  obtain ⟨verdict, asked, t, h⟩ := c.exists_judges mapping schema r n.state
  refine ⟨hsame, ⟨verdict, asked, t, h⟩, ?_⟩
  intro verdict' asked' t'
  constructor
  · intro h'
    exact hsame.symm.trans h'.outcome_standard
  · intro hjudged
    have heq := hjudged.symm.trans (hsame.symm.trans h.outcome_standard)
    simp only [Prod.mk.injEq, Noted.mk.injEq, List.append_cancel_left_eq] at heq
    obtain ⟨rfl, rfl, rfl⟩ := heq
    exact h

/-- Neither kinds nor schemas can be told, and a review denies. -/
def Collaborators.denying : Collaborators Unit where
  mapper := {
    kindFor := fun _ => pure (.error (.discovery "timeout"))
    mappingFor := fun _ => pure (.error (.discovery "timeout")) }
  schemas _ := pure none
  reviewer _ := pure (.ok false)

/-- Only the review refuses to delete a pod. -/
theorem ValidatorRegistry.standard_refuses_deletion_of_pod :
    let pod : GroupVersionKind := ⟨"", "v1", "Pod"⟩
    let c : Coordinate := ⟨"", "v1", "pods", some "team-a", some "web", none, .delete⟩
    let r : ValidationRequest := ⟨c, pod, "DELETE", "/api/v1/namespaces/team-a/pods/web", none, none⟩
    let schema : GroupVersionKind → ResourceSchema := fun _ => ⟨.obj [], []⟩
    (∀ kind, (schema kind).DeclaresNothing) ∧
      Judges (Collaborators.denying.assuming (fun kind => ⟨kind, "pods", true⟩) schema) r ()
        (.error (.forbidden "delete" "pods" (some "team-a")))
        [.mapping pod, .review (Validator.accessCheck c)] () := by
  intro pod c r schema
  have hs : ∀ kind, (schema kind).DeclaresNothing := fun _ _ _ => rfl
  exact ⟨hs, ((standard_refuses_on_negatives .denying (fun kind => ⟨kind, "pods", true⟩) schema hs r
    ⟨(), []⟩).2.2 _ _ _).mpr rfl⟩

end ClusterAccess
