import ClusterAccess.Proofs.Admission
import ClusterAccess.Proofs.Coordinates
import ClusterAccess.Proofs.PrintedValues
import ClusterAccess.Proofs.Recording

namespace ClusterAccess

variable {σ : Type} {g : Gateway σ} {m : Manager}

/-- How a verb is written in a review. -/
inductive Verb.Spells : Verb → String → Prop where
  | get : Spells .get "get"
  | list : Spells .list "list"
  | watch : Spells .watch "watch"
  | create : Spells .create "create"
  | update : Spells .update "update"
  | patch : Spells .patch "patch"
  | delete : Spells .delete "delete"
  | deleteCollection : Spells .deleteCollection "deletecollection"
  | other (name : String) : Spells (.other name) name

theorem Verb.spells_name (v : Verb) : v.Spells v.name := by
  cases v <;> constructor

/-- Attributes that tell the parts of a coordinate, as far as it has them, and nothing else. -/
structure Coordinate.IsToldBy (c : Coordinate) (attributes : Json) : Prop where
  verb : ∃ text, c.verb.Spells text ∧ attributes.member? "verb" = some (.str text)
  group : attributes.member? "group" = some (.str c.group)
  version : attributes.member? "version" = some (.str c.version)
  resource : attributes.member? "resource" = some (.str c.resource)
  namespaceName : attributes.member? "namespace" = c.namespaceName.map .str
  name : attributes.member? "name" = c.name.map .str
  subresource : attributes.member? "subresource" = c.subresource.map .str
  others : ∀ key ∉ ["verb", "group", "version", "resource", "namespace", "name", "subresource"],
    attributes.member? key = none

/-- A review of a request to a coordinate, whatever stands before its path and among its headers. -/
structure Coordinate.IsReviewedBy (c : Coordinate) (w : Http.Request) : Prop where
  method : w.method = "POST"
  path : ∃ front, w.uri.path = front ++ "/apis/authorization.k8s.io/v1/selfsubjectaccessreviews"
  document : ∃ text v attributes, Bytes.text? w.content = some text ∧
    Json.document? text = some (.of v) ∧
    v.member? "apiVersion" = some (.str "authorization.k8s.io/v1") ∧
    v.member? "kind" = some (.str "SelfSubjectAccessReview") ∧
    v.member? "spec" = some (.obj [("resourceAttributes", attributes)]) ∧ c.IsToldBy attributes

theorem Json.bind_flag_eq_true {v : Option Json} :
    v.bind Json.flag? = some true ↔ v = some (.bool true) := by
  cases v with
  | none => simp
  | some v => cases v <;> simp [Json.flag?]

theorem Client.decoded_of_text {α : Type} {decode : Format Json.Written → Json.Written → Option α}
    {response : Http.Response} {text : String} {a : α} (htext : Client.text response = .ok text)
    (ha : (Json.document? text).bind (decode Json.Written.format) = some a) :
    decoded decode response = .ok a := by
  simp only [decoded, htext, bind, Except.bind, ha]

theorem Client.text_of_decoded {α : Type} {decode : Format Json.Written → Json.Written → Option α}
    {response : Http.Response} {a : α} (h : decoded decode response = .ok a) :
    ∃ text, Client.text response = .ok text ∧
      (Json.document? text).bind (decode Json.Written.format) = some a := by
  obtain ⟨text, htext, hread⟩ := except_bind_ok h
  refine ⟨text, htext, ?_⟩
  split at hread
  · rename_i b hb
    exact hb.trans (congrArg some (Except.ok.inj hread))
  · cases hread

theorem Bytes.text_ofText (s : String) : Bytes.text? (Bytes.ofText s) = some s :=
  dif_pos s.isValidUTF8

namespace AccessCheck

theorem member_append (key : String) (a b : List (String × Json)) :
    (Json.obj (a ++ b)).member? key = ((Json.obj a).member? key).or ((Json.obj b).member? key) := by
  simp only [Json.member?, List.find?_append, Option.map_or]

theorem member_member (key k : String) (v : Option String) :
    (Json.obj (member k v)).member? key = if k = key then v.map .str else none := by
  cases v with
  | none => simp [member, Json.member?]
  | some s => by_cases h : k = key <;> simp [member, Json.member?, h]

theorem member_attributes {c : Coordinate} (h : c.version ≠ "") (key : String) :
    (Validator.accessCheck c).attributes.member? key =
      (if "group" = key then some (.str c.group) else none).or (
      (if "name" = key then c.name.map .str else none).or (
      (if "namespace" = key then c.namespaceName.map .str else none).or (
      (if "resource" = key then some (.str c.resource) else none).or (
      (if "subresource" = key then c.subresource.map .str else none).or (
      (if "verb" = key then some (.str c.verb.name) else none).or
      (if "version" = key then some (.str c.version) else none)))))) := by
  simp only [attributes, Validator.accessCheck, h, if_false, member_append, member_member,
    Option.map_some, Option.or_assoc]

theorem isToldBy_attributes {c : Coordinate} (h : c.version ≠ "") :
    c.IsToldBy (Validator.accessCheck c).attributes where
  verb := ⟨c.verb.name, c.verb.spells_name, by simp [member_attributes h]⟩
  group := by simp [member_attributes h]
  version := by simp [member_attributes h]
  resource := by simp [member_attributes h]
  namespaceName := by simp [member_attributes h]
  name := by simp [member_attributes h]
  subresource := by simp [member_attributes h]
  others key hkey := by
    simp only [List.mem_cons, List.not_mem_nil, or_false, not_or] at hkey
    simp [member_attributes h, hkey, Ne.symm]

theorem fits_member {depth : Nat} (key : String) (v : Option String) :
    ∀ m ∈ member key v, Json.Fits depth m.2 := by
  cases v with
  | none => simp [member]
  | some s => simp [member, Json.Fits.str]

theorem fits_attributes {depth : Nat} (c : AccessCheck) :
    Json.Fits (depth + 1) c.attributes := by
  refine .obj fun m hm => ?_
  simp only [List.mem_append] at hm
  rcases hm with (((((hm | hm) | hm) | hm) | hm) | hm) | hm
  case inr =>
    split at hm
    · cases hm
    · exact fits_member _ _ m hm
  all_goals exact fits_member _ _ m hm

theorem fits_document {depth : Nat} (c : AccessCheck) : Json.Fits (depth + 3) c.document := by
  have hspec : Json.Fits (depth + 2) (.obj [("resourceAttributes", c.attributes)]) :=
    .obj (by simpa using c.fits_attributes)
  have hmetadata : Json.Fits (depth + 2) (.obj []) := .obj (by simp)
  exact .obj (by simp [Json.Fits.str, hspec, hmetadata])

/-- A check that goes out is a review, and its text is read as it was meant. -/
theorem isReviewedBy_of_outgoing {c : Coordinate} (h : c.version ≠ "") {m : Manager}
    {q w : Http.Request} (hdraft : (Validator.accessCheck c).draft = .ok q)
    (hout : m.connection.outgoing m.signature q = .ok w) : c.IsReviewedBy w := by
  have hparse : Http.Uri.parse? "/apis/authorization.k8s.io/v1/selfsubjectaccessreviews?" =
      some ⟨none, none, "/apis/authorization.k8s.io/v1/selfsubjectaccessreviews", some ""⟩ := by
    decide +kernel
  simp only [draft, Client.withBody, hparse, Except.ok.injEq] at hdraft
  subst hdraft
  obtain ⟨headers, -, hw⟩ := except_bind_ok hout
  cases hw
  refine ⟨rfl, ⟨_, rfl⟩, _, (Validator.accessCheck c).document, _, Bytes.text_ofText _, ?_, rfl,
    rfl, rfl, isToldBy_attributes h⟩
  exact Json.document_print (fits_document _)

/-- An answer to a review that does not allow what is asked. -/
def Denies (answer : Except TransportError Http.Response) : Prop :=
  ∃ response text v, answer = .ok response ∧ Client.text response = .ok text ∧
    (Json.document? text).bind (review.read? Json.Written.format) = some v ∧
    v.at? ["status", "allowed"] ≠ some (.bool true)

theorem denies_iff {answer : Except TransportError Http.Response} :
    Denies answer ↔ answer >>= Client.decoded verdict? = .ok false := by
  constructor
  · rintro ⟨response, text, v, rfl, htext, hread, hallowed⟩
    refine Client.decoded_of_text htext ?_
    obtain ⟨w, hdocument, hw⟩ := Option.bind_eq_some_iff.mp hread
    simp [hdocument, verdict?, hw, Json.bind_flag_eq_true, hallowed]
  · intro h
    obtain ⟨response, rfl, hdecoded⟩ := except_bind_ok h
    obtain ⟨text, htext, hverdict⟩ := Client.text_of_decoded hdecoded
    obtain ⟨w, hdocument, hw⟩ := Option.bind_eq_some_iff.mp hverdict
    obtain ⟨v, hread, hv⟩ := Option.bind_eq_some_iff.mp hw
    refine ⟨response, text, v, rfl, htext, by rw [hdocument, Option.bind_some, hread], ?_⟩
    simpa [Json.bind_flag_eq_true] using hv

end AccessCheck

theorem Schema.looks_validate {source' : Schema.Source (Noted (Note σ) σ)} {source : Schema.Source σ}
    (h : ∀ kind, Looks g m (source' kind) (source kind)) (seen : ValidationRequest) :
    Looks g m (Schema.validate source' seen) (Schema.validate source seen) := by
  unfold Schema.validate
  split
  · exact .answer _
  · exact .answer _
  · exact (h seen.kind).bind fun _ => .answer _

theorem Validator.looks_resource {mapper' : Mapper (Noted (Note σ) σ)} {mapper : Mapper σ}
    (h : ∀ kind, Looks g m (mapper'.mappingFor kind) (mapper.mappingFor kind))
    (seen : ValidationRequest) :
    Looks g m ((Validator.resource mapper').validate seen)
      ((Validator.resource mapper).validate seen) := by
  refine (h seen.kind).bind fun mapping => ?_
  split
  · exact .answer _
  · exact .answer _

/-- A review as it is noted. It does not go out when its own gate or its signature forbids it. -/
inductive Reviews (g : Gateway σ) (m : Manager) (check : AccessCheck)
    (answer : Except TransportError Bool) : List (Note σ) → List (Note σ) → Prop where
  | withheld {looked : List (Note σ)} {e : TransportError} (hlooked : g.Looked m looked)
      (ha : answer = .error e) : Reviews g m check answer looked []
  | asked {looked : List (Note σ)} {s : σ} {q w : Http.Request}
      {response : Except TransportError Http.Response} (hlooked : g.Looked m looked)
      (hdraft : check.draft = .ok q) (hout : m.connection.outgoing m.signature q = .ok w)
      (ha : answer = response >>= Client.decoded AccessCheck.verdict?) :
      Reviews g m check answer looked [.sent s w response]

namespace Gateway

theorem looks_classify {policy : DenyPolicy} {chain' : Option (Chain (Noted (Note σ) σ))}
    {chain : Option (Chain σ)} {selfReview : SelfReview} (c : Coordinate) :
    Looks g m (Gate.classify ⟨policy, g.recorded.mapper m, chain', selfReview⟩ c)
      (Gate.classify ⟨policy, g.mapper m, chain, selfReview⟩ c) := by
  refine (g.looks_kindFor m c.gvr).bind fun kind => ?_
  cases kind with
  | error cause => exact .answer _
  | ok kind => exact .answer _

/-- A gate without validators only looks kinds up. -/
theorem looks_clearance {policy : DenyPolicy} {selfReview : SelfReview} (r : Http.Request) :
    Looks g m (Gate.clearance ⟨policy, g.recorded.mapper m, none, selfReview⟩ r)
      (Gate.clearance ⟨policy, g.mapper m, none, selfReview⟩ r) := by
  unfold Gate.clearance
  cases Coordinate.ofRequest r.method r.uri with
  | none => exact .answer _
  | some c =>
    simp only [Option.isNone_none, Bool.and_true]
    cases policy.isEmpty with
    | true => exact .answer _
    | false =>
      refine (looks_classify c).bind fun kind => ?_
      cases kind with
      | error e => exact .answer _
      | ok kind => exact .answer _

/-- What comes of a request behind a gate, with what is noted of its clearance and after it. -/
inductive Passes (m : Manager) (r : Http.Request)
    (Q : Except Error Http.Request → List (Note σ) → Prop) :
    Except TransportError Http.Response → List (Note σ) → List (Note σ) → Prop where
  | refused {e : Error} {cleared : List (Note σ)} (hcleared : Q (.error e) cleared) :
      Passes m r Q (.error (.gateway e)) cleared []
  | sent {s : σ} {response : Except TransportError Http.Response} {cleared own : List (Note σ)}
      (hcleared : Q (.ok r) cleared) (hown : m.Forwards r s response own) :
      Passes m r Q response cleared own

theorem writes_guard {gate' : Gate (Noted (Note σ) σ)} {gate : Gate σ} {r : Http.Request}
    {n : Noted (Note σ) σ} {Q : Except Error Http.Request → List (Note σ) → Prop}
    (h : Writes n Q (gate'.clearance r) (gate.clearance r)) :
    Writes n (fun response added => ∃ cleared own, added = cleared ++ own ∧
        Passes m r Q response cleared own)
      (gate'.guard (g.recorded.raw m) r) (gate.guard (g.raw m) r) := by
  obtain ⟨cleared, hQ, hclearance⟩ := h
  unfold Gate.guard
  cases hverdict : (outcome (gate.clearance r) n.state).1 with
  | error e =>
    rw [hverdict] at hQ hclearance
    refine ⟨cleared, ⟨cleared, [], (List.append_nil _).symm, ?_⟩, ?_⟩
    · rw [outcome_bind, hverdict]
      exact .refused hQ
    · rw [outcome_bind, outcome_bind, hclearance, hverdict]
      rfl
  | ok sent =>
    -- what a gate lets through is the request as it came
    obtain rfl : sent = r := (Gate.clearance_ok (Prod.ext hverdict rfl)).1
    rw [hverdict] at hQ hclearance
    obtain ⟨own, hown, hraw⟩ := g.writes_raw m sent
      ⟨(outcome (gate.clearance sent) n.state).2, n.notes ++ cleared⟩
    refine ⟨cleared ++ own, ⟨cleared, own, rfl, ?_⟩, ?_⟩
    · rw [outcome_bind, hverdict]
      exact .sent hQ hown
    · rw [outcome_bind, outcome_bind, hclearance, hverdict]
      simpa using hraw

theorem writes_reviewer (g : Gateway σ) (m : Manager) (check : AccessCheck)
    (n : Noted (Note σ) σ) :
    Writes n (fun answer added => ∃ looked review, added = looked ++ review ∧
      Reviews g m check answer looked review) (g.recorded.reviewer m check) (g.reviewer m check) := by
  unfold reviewer AccessCheck.ask Client.ask
  cases hdraft : check.draft with
  | error e => exact .answer ⟨[], [], rfl, .withheld .nil rfl⟩
  | ok q =>
    refine (writes_guard (g := g) (m := m) (looks_clearance q n)).map _ ?_
    rintro response _ ⟨looked, review, rfl, hpasses⟩
    refine ⟨looked, review, rfl, ?_⟩
    cases hpasses with
    | refused hlooked => exact .withheld hlooked rfl
    | sent hlooked hown =>
      unfold Manager.Forwards at hown
      split at hown
      · rename_i w hout
        rw [hown]
        exact .asked hlooked hdraft hout rfl
      · obtain ⟨rfl, e, rfl⟩ := hown
        exact .withheld hlooked rfl

end Gateway

/-- A validator whose verdict is noted stands before others. -/
theorem Chain.writes_cons {v' : Validator (Noted (Note σ) σ)} {v : Validator σ}
    {vs' : List (Validator (Noted (Note σ) σ))} {vs : List (Validator σ)} {seen : ValidationRequest}
    {n : Noted (Note σ) σ} {Q R S : Except ValidationError Unit → List (Note σ) → Prop}
    (hv : Writes n Q (v'.validate seen) (v.validate seen))
    (hvs : ∀ n, Writes n R (validateAll seen vs') (validateAll seen vs))
    (herror : ∀ e added, Q (.error e) added →
      S (.error e) (added ++ [.judged v'.name seen (.error e)]))
    (hok : ∀ verdict added rest, Q (.ok ()) added → R verdict rest →
      S verdict (added ++ .judged v'.name seen (.ok ()) :: rest)) :
    Writes n S (validateAll seen (v'.recorded :: vs')) (validateAll seen (v :: vs)) := by
  obtain ⟨added, hQ, hv⟩ := hv
  simp only [validateAll, Validator.recorded]
  cases hverdict : (outcome (v.validate seen) n.state).1 with
  | error e =>
    rw [hverdict] at hQ hv
    refine ⟨added ++ [.judged v'.name seen (.error e)], ?_, ?_⟩
    · rw [outcome_bind, hverdict]
      exact herror e added hQ
    · simp [hv, hverdict]
  | ok u =>
    rw [hverdict] at hQ hv
    obtain ⟨rest, hR, hrest⟩ := hvs ⟨(outcome (v.validate seen) n.state).2,
      n.notes ++ (added ++ [.judged v'.name seen (.ok ())])⟩
    refine ⟨added ++ .judged v'.name seen (.ok ()) :: rest, ?_, ?_⟩
    · rw [outcome_bind, hverdict]
      exact hok _ added rest hQ hR
    · simp [hv, hverdict, hrest]

/-- The last validator refuses what a review does not allow, and nothing else. -/
def Authorizes (g : Gateway σ) (m : Manager) (seen : ValidationRequest)
    (verdict : Except ValidationError Unit) (looked review : List (Note σ)) : Prop :=
  ∃ answer, Reviews g m (Validator.accessCheck seen.coordinate) answer looked review ∧
    (answer = .ok false → ∃ e, verdict = .error e) ∧ (answer ≠ .ok false → verdict = .ok ())

theorem Validator.writes_authorization {reviewer' : Reviewer (Noted (Note σ) σ)}
    {reviewer : Reviewer σ} {n : Noted (Note σ) σ} {seen : ValidationRequest}
    (h : Writes n (fun answer added => ∃ looked review, added = looked ++ review ∧
        Reviews g m (accessCheck seen.coordinate) answer looked review)
      (reviewer' (accessCheck seen.coordinate)) (reviewer (accessCheck seen.coordinate))) :
    Writes n (fun verdict added => ∃ looked review, added = looked ++ review ∧
        Authorizes g m seen verdict looked review)
      ((Validator.authorization reviewer').validate seen)
      ((Validator.authorization reviewer).validate seen) := by
  obtain ⟨added, ⟨looked, review, hadded, hreview⟩, h⟩ := h
  simp only [Validator.authorization]
  cases hanswer : (outcome (reviewer (accessCheck seen.coordinate)) n.state).1 with
  | error e =>
    rw [hanswer] at hreview h
    refine ⟨added, ⟨looked, review, hadded, _, hreview, by simp, fun _ => ?_⟩, ?_⟩
    · simp [hanswer]
    · simp [h, hanswer]
  | ok allowed =>
    rw [hanswer] at hreview h
    refine ⟨added, ⟨looked, review, hadded, _, hreview, fun hf => ?_, fun hf => ?_⟩, ?_⟩
    · simp [hanswer, hf]
    · obtain rfl : allowed = true := by simpa using hf
      simp [hanswer]
    · cases allowed with
      | true => simp [h, hanswer]
      | false => simp [h, hanswer]

/-- What validators make of a request: the verdict, what is noted before the review, the review, and
what is noted after it. -/
inductive Examines (g : Gateway σ) (m : Manager) (seen : ValidationRequest) :
    Except ValidationError Unit → List (Note σ) → List (Note σ) → List (Note σ) → Prop where
  | unserved {looked : List (Note σ)} {e : ValidationError} (hlooked : g.Looked m looked) :
      Examines g m seen (.error e) (looked ++ [.judged "resource" seen (.error e)]) [] []
  | unfit {looked fetched : List (Note σ)} {e : ValidationError}
      (hlooked : g.Looked m looked) (hfetched : g.Looked m fetched) :
      Examines g m seen (.error e) (looked ++ .judged "resource" seen (.ok ()) ::
        (fetched ++ [.judged "schema" seen (.error e)])) [] []
  | reviewed {looked fetched mapped review : List (Note σ)} {verdict : Except ValidationError Unit}
      (hlooked : g.Looked m looked) (hfetched : g.Looked m fetched)
      (h : Authorizes g m seen verdict mapped review) :
      Examines g m seen verdict (looked ++ .judged "resource" seen (.ok ()) ::
        (fetched ++ .judged "schema" seen (.ok ()) :: mapped)) review
        [.judged "authorization" seen verdict]

namespace Gateway

/-- The last validator in its turn. -/
theorem writes_last (g : Gateway σ) (m : Manager) (seen : ValidationRequest) (n : Noted (Note σ) σ) :
    Writes n (fun verdict rest => ∃ looked review,
        rest = looked ++ review ++ [.judged "authorization" seen verdict] ∧
          Authorizes g m seen verdict looked review)
      (Chain.validateAll seen [(Validator.authorization (g.recorded.reviewer m)).recorded])
      (Chain.validateAll seen [Validator.authorization (g.reviewer m)]) := by
  refine Chain.writes_cons (Validator.writes_authorization (g.writes_reviewer m _ n))
    (R := fun verdict rest => verdict = .ok () ∧ rest = []) (fun _ => .answer ⟨rfl, rfl⟩) ?_ ?_
  · rintro e _ ⟨looked, review, rfl, h⟩
    exact ⟨looked, review, rfl, h⟩
  · rintro _ _ _ ⟨looked, review, rfl, h⟩ ⟨rfl, rfl⟩
    exact ⟨looked, review, rfl, h⟩

/-- The schema validator before the last one. -/
theorem writes_fit (g : Gateway σ) (m : Manager) (seen : ValidationRequest) (n : Noted (Note σ) σ) :
    Writes n (fun verdict rest =>
        (∃ fetched e, g.Looked m fetched ∧ verdict = .error e ∧
          rest = fetched ++ [.judged "schema" seen (.error e)]) ∨
        ∃ fetched mapped review, g.Looked m fetched ∧
          rest = fetched ++ .judged "schema" seen (.ok ()) :: (mapped ++ review ++
            [.judged "authorization" seen verdict]) ∧ Authorizes g m seen verdict mapped review)
      (Chain.validateAll seen [
        (Validator.schema (Schema.published (g.recorded.schemaSlot m)
          (g.recorded.raw m))).recorded,
        (Validator.authorization (g.recorded.reviewer m)).recorded])
      (Chain.validateAll seen [
        Validator.schema (Schema.published (g.schemaSlot m) (g.raw m)),
        Validator.authorization (g.reviewer m)]) := by
  refine Chain.writes_cons (Schema.looks_validate (g.looks_published m) seen n)
    (g.writes_last m seen) ?_ ?_
  · exact fun e fetched hfetched => .inl ⟨fetched, e, hfetched, rfl, rfl⟩
  · rintro verdict fetched _ hfetched ⟨mapped, review, rfl, h⟩
    exact .inr ⟨fetched, mapped, review, hfetched, rfl, h⟩

theorem writes_chain (hstandard : g.validators = .standard) (m : Manager)
    (seen : ValidationRequest) (n : Noted (Note σ) σ) :
    Writes n (fun verdict added => ∃ before review after, added = before ++ review ++ after ∧
        Examines g m seen verdict before review after)
      ((g.recorded.chain m).validate seen) ((g.chain m).validate seen) := by
  have hchain : (g.chain m).validators = [Validator.resource (g.mapper m),
      Validator.schema (Schema.published (g.schemaSlot m) (g.raw m)),
      Validator.authorization (g.reviewer m)] := by
    rw [chain, hstandard]
    rfl
  have hrecorded : (g.recorded.chain m).validators = [
      (Validator.resource (g.recorded.mapper m)).recorded,
      (Validator.schema (Schema.published (g.recorded.schemaSlot m) (g.recorded.raw m))).recorded,
      (Validator.authorization (g.recorded.reviewer m)).recorded] := rfl
  unfold Chain.validate
  rw [hchain, hrecorded]
  refine Chain.writes_cons (Validator.looks_resource (g.looks_mappingFor m) seen n)
    (g.writes_fit m seen) ?_ ?_
  · exact fun e looked hlooked => ⟨_, [], [], by simp [Validator.resource], .unserved hlooked⟩
  · rintro verdict looked _ hlooked (⟨fetched, e, hfetched, rfl, rfl⟩ |
      ⟨fetched, mapped, review, hfetched, rfl, h⟩)
    · exact ⟨_, [], [], by simp [Validator.resource], .unfit hlooked hfetched⟩
    · refine ⟨_, review, _, ?_, .reviewed hlooked hfetched h⟩
      simp [Validator.resource]

end Gateway

/-- The validator that a note is about. -/
def Note.validator? : Note σ → Option String
  | .judged name _ _ => some name
  | .sent _ _ _ => none

theorem filterMap_validator {looked : List (Note σ)} (h : g.Looked m looked) :
    looked.filterMap Note.validator? = [] := by
  refine List.filterMap_eq_nil_iff.mpr fun e he => ?_
  obtain ⟨target, s, response, -, uri, w, -, -, rfl⟩ := h looked (List.Subset.refl _) e he
  rfl

theorem judged_not_mem {looked : List (Note σ)} (h : g.Looked m looked) (name : String)
    (seen : ValidationRequest) (verdict : Except ValidationError Unit) :
    .judged name seen verdict ∉ looked := by
  intro he
  obtain ⟨target, s, response, -, uri, w, -, -, heq⟩ := h looked (List.Subset.refl _) _ he
  cases heq

theorem Reviews.looked {check : AccessCheck} {answer : Except TransportError Bool}
    {looked review : List (Note σ)} (h : Reviews g m check answer looked review) :
    g.Looked m looked := by
  cases h with
  | withheld hlooked ha => exact hlooked
  | asked hlooked hdraft hout ha => exact hlooked

namespace Examines

variable {seen : ValidationRequest} {verdict : Except ValidationError Unit}
  {before review after : List (Note σ)}

/-- Before a review validators look things up, and judge nothing but the request. -/
theorem prepared (h : Examines g m seen verdict before review after) (notes : List (Note σ))
    (hnotes : before ⊆ notes) :
    ∀ e ∈ before, g.IsLookup m notes e ∨ ∃ name v, e = .judged name seen v := by
  intro e he
  cases h with
  | unserved hlooked =>
    obtain ⟨hl, -⟩ := List.append_subset.mp hnotes
    rcases List.mem_append.mp he with he | he
    · exact .inl (hlooked notes hl e he)
    · exact .inr ⟨_, _, List.mem_singleton.mp he⟩
  | unfit hlooked hfetched =>
    obtain ⟨hl, hrest⟩ := List.append_subset.mp hnotes
    obtain ⟨hf, -⟩ := List.append_subset.mp (List.cons_subset.mp hrest).2
    simp only [List.mem_append, List.mem_cons, List.not_mem_nil, or_false] at he
    rcases he with he | he | he | he
    · exact .inl (hlooked notes hl e he)
    · exact .inr ⟨_, _, he⟩
    · exact .inl (hfetched notes hf e he)
    · exact .inr ⟨_, _, he⟩
  | reviewed hlooked hfetched hauthorizes =>
    obtain ⟨answer, hreview, -, -⟩ := hauthorizes
    obtain ⟨hl, hrest⟩ := List.append_subset.mp hnotes
    obtain ⟨hf, hmapped⟩ := List.append_subset.mp (List.cons_subset.mp hrest).2
    simp only [List.mem_append, List.mem_cons] at he
    rcases he with he | he | he | he | he
    · exact .inl (hlooked notes hl e he)
    · exact .inr ⟨_, _, he⟩
    · exact .inl (hfetched notes hf e he)
    · exact .inr ⟨_, _, he⟩
    · exact .inl (hreview.looked notes (List.cons_subset.mp hmapped).2 e he)

/-- After it there is a verdict at most. -/
theorem concluded (h : Examines g m seen verdict before review after) :
    ∀ e ∈ after, ∃ name v, e = .judged name seen v := by
  intro e he
  cases h with
  | unserved hlooked => cases he
  | unfit hlooked hfetched => cases he
  | reviewed hlooked hfetched hauthorizes => exact ⟨_, _, List.mem_singleton.mp he⟩

/-- Each validator judges once, in its turn. -/
theorem judges (h : Examines g m seen verdict before review after) :
    (before ++ after).filterMap Note.validator? <+: ["resource", "schema", "authorization"] := by
  cases h with
  | unserved hlooked =>
    simp [filterMap_validator hlooked, Note.validator?]
  | unfit hlooked hfetched =>
    simp [filterMap_validator hlooked, filterMap_validator hfetched, Note.validator?]
  | reviewed hlooked hfetched hauthorizes =>
    obtain ⟨answer, hreview, -, -⟩ := hauthorizes
    simp [filterMap_validator hlooked, filterMap_validator hfetched,
      filterMap_validator hreview.looked, Note.validator?]

/-- There is one review at most. It asks about the request, which the other validators have
accepted. -/
theorem reviews (h : Examines g m seen verdict before review after)
    (hversion : seen.coordinate.version ≠ "") :
    review = [] ∨ ∃ s w response, review = [.sent s w response] ∧
      seen.coordinate.IsReviewedBy w ∧ .judged "resource" seen (.ok ()) ∈ before ∧
      .judged "schema" seen (.ok ()) ∈ before := by
  cases h with
  | unserved hlooked => exact .inl rfl
  | unfit hlooked hfetched => exact .inl rfl
  | reviewed hlooked hfetched hauthorizes =>
    obtain ⟨answer, hreview, -, -⟩ := hauthorizes
    cases hreview with
    | withheld hmapped ha => exact .inl rfl
    | asked hmapped hdraft hout ha =>
      exact .inr ⟨_, _, _, rfl, AccessCheck.isReviewedBy_of_outgoing hversion hdraft hout, by simp,
        by simp⟩

theorem denied (h : Examines g m seen verdict before review after) {s : σ} {w : Http.Request}
    {response : Except TransportError Http.Response} (hsent : review = [.sent s w response])
    (hdenies : AccessCheck.Denies response) : ∃ e, verdict = .error e := by
  cases h with
  | unserved hlooked => cases hsent
  | unfit hlooked hfetched => cases hsent
  | reviewed hlooked hfetched hauthorizes =>
    obtain ⟨answer, hreview, hdenied, -⟩ := hauthorizes
    cases hreview with
    | withheld hmapped ha => cases hsent
    | asked hmapped hdraft hout ha =>
      cases hsent
      exact hdenied (ha.trans (AccessCheck.denies_iff.mp hdenies))

/-- A review that cannot be had refuses nothing. -/
theorem allowed (h : Examines g m seen verdict before review after) {shown : ValidationRequest}
    (hfits : .judged "schema" shown (.ok ()) ∈ before)
    (hanswer : ∀ s w response, review = [.sent s w response] → ¬ AccessCheck.Denies response) :
    verdict = .ok () := by
  cases h with
  | unserved hlooked =>
    rcases List.mem_append.mp hfits with hfits | hfits
    · exact absurd hfits (judged_not_mem hlooked _ _ _)
    · simp at hfits
  | unfit hlooked hfetched =>
    simp only [List.mem_append, List.mem_cons, List.not_mem_nil, or_false, Note.judged.injEq,
      reduceCtorEq, and_false] at hfits
    rcases hfits with hfits | hfits | hfits
    · exact absurd hfits (judged_not_mem hlooked _ _ _)
    · exact absurd hfits.1 (by decide)
    · exact absurd hfits (judged_not_mem hfetched _ _ _)
  | reviewed hlooked hfetched hauthorizes =>
    obtain ⟨answer, hreview, -, hallowed⟩ := hauthorizes
    refine hallowed ?_
    cases hreview with
    | withheld hmapped ha => simp [ha]
    | asked hmapped hdraft hout ha =>
      intro hfalse
      exact hanswer _ _ _ rfl (AccessCheck.denies_iff.mpr (ha.symm.trans hfalse))

end Examines

end ClusterAccess
