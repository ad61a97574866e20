import ClusterAccess.Proofs.Admission

namespace ClusterAccess

namespace Schema

/-- What stands before the parameters of a content type; JSON where there is none. -/
inductive IsMediaType : Option String → String → Prop where
  | absent : IsMediaType none "application/json"
  | stated (text : String) :
      IsMediaType (some text) (Text.trim (String.ofList (text.toList.takeWhile (· ≠ ';'))))

/-- How an object of a kind says its group and version; the core group is not said. -/
inductive IsApiVersion : GroupVersionKind → String → Prop where
  | core (version kind : String) : IsApiVersion ⟨"", version, kind⟩ version
  | grouped {group : String} (named : group ≠ "") (version kind : String) :
      IsApiVersion ⟨group, version, kind⟩ (group ++ "/" ++ version)

/-- A request whose body is looked at. -/
structure Examines (r : ValidationRequest) (media : String) (body : Bytes) : Prop where
  verb : r.coordinate.verb ∈ [.create, .update, .patch]
  whole : r.coordinate.subresource = none
  present : r.body = some body
  filled : body ≠ []
  typed : IsMediaType r.contentType media
  readable : ¬ "protobuf".toList <:+: media.toList

def Reads (body : Bytes) (value : Json) : Prop :=
  (Bytes.text? body).bind Json.parse? = some value

/-- A member is a text, not empty, and not the expected one. -/
structure Mismatches (value : Json) (name expected found : String) : Prop where
  stated : value.member? name = some (.str found)
  filled : found ≠ ""
  differs : found ≠ expected

/-- What is wrong with a body whatever its schema, the first such thing. -/
inductive Faults (kind : GroupVersionKind) (media : String) (body : Bytes) : Refusal → Prop where
  | undecodable (unread : ∀ value, ¬ Reads body value) (format : ¬ "yaml".toList <:+ media.toList) :
      Faults kind media body (.undecodable kind.kind)
  | patchNotArray {value : Json} (reads : Reads body value)
      (patch : media = "application/json-patch+json") (shape : ∀ items, value ≠ .arr items) :
      Faults kind media body .patchNotArray
  | notObject {value : Json} (reads : Reads body value)
      (patch : media ≠ "application/json-patch+json") (shape : ∀ members, value ≠ .obj members) :
      Faults kind media body (.notObject kind.kind)
  | otherKind {members : List (String × Json)} {found : String} (reads : Reads body (.obj members))
      (patch : media ≠ "application/json-patch+json")
      (mismatch : Mismatches (.obj members) "kind" kind.kind found) :
      Faults kind media body (.otherKind found kind.kind)
  | otherVersion {members : List (String × Json)} {expected found : String}
      (reads : Reads body (.obj members)) (patch : media ≠ "application/json-patch+json")
      (named : ∀ other, ¬ Mismatches (.obj members) "kind" kind.kind other)
      (version : IsApiVersion kind expected)
      (mismatch : Mismatches (.obj members) "apiVersion" expected found) :
      Faults kind media body (.otherVersion found expected)

/-- An object with nothing wrong but perhaps for its fields. -/
structure Fits (kind : GroupVersionKind) (media : String) (body : Bytes) (value : Json) : Prop where
  reads : Reads body value
  patch : media ≠ "application/json-patch+json"
  shape : ∃ members, value = .obj members
  named : ∀ found, ¬ Mismatches value "kind" kind.kind found
  versioned : ∀ expected found, IsApiVersion kind expected →
    ¬ Mismatches value "apiVersion" expected found

def IsFaulty (r : ValidationRequest) (reason : Refusal) : Prop :=
  ∃ media body, Examines r media body ∧ Faults r.kind media body reason

/-- All that is left to check of a request is the fields of its body. -/
def IsSound (r : ValidationRequest) (value : Json) : Prop :=
  ∃ media body, Examines r media body ∧ Fits r.kind media body value

theorem head?_splitChars (sep : Char) (cs : List Char) :
    (Text.splitChars sep cs).head? = some (cs.takeWhile (· ≠ sep)) := by
  induction cs with
  | nil => rfl
  | cons c cs ih =>
    unfold Text.splitChars
    by_cases hc : c = sep
    · simp [hc]
    · obtain ⟨pieces, hp⟩ := List.head?_eq_some_iff.mp ih
      simp [hc, hp]

theorem isMediaType_iff {contentType : Option String} {media : String} :
    IsMediaType contentType media ↔ mediaType contentType = media := by
  cases contentType with
  | none =>
    constructor
    · intro h
      cases h
      rfl
    · rintro rfl
      exact .absent
  | some text =>
    have hmedia : mediaType (some text) =
        Text.trim (String.ofList (text.toList.takeWhile (· ≠ ';'))) := by
      simp [mediaType, Text.split, List.head?_map, head?_splitChars]
    rw [hmedia]
    constructor
    · intro h
      cases h
      rfl
    · rintro rfl
      exact .stated text

theorem isApiVersion_iff {kind : GroupVersionKind} {text : String} :
    IsApiVersion kind text ↔ kind.apiVersion = text := by
  constructor
  · intro h
    cases h with
    | core version kind => rfl
    | grouped named version kind => exact if_neg named
  · rintro rfl
    obtain ⟨group, version, kind⟩ := kind
    by_cases h : group = ""
    · subst h
      exact .core version kind
    · rw [GroupVersionKind.apiVersion, ClusterAccess.apiVersion, if_neg h]
      exact .grouped h version kind

theorem containsChars_iff {part cs : List Char} :
    Text.containsChars part cs = true ↔ part <:+: cs := by
  induction cs with
  | nil => simp [Text.containsChars]
  | cons c cs ih =>
    rw [Text.containsChars, Bool.or_eq_true, List.isPrefixOf_iff_prefix, ih, List.infix_cons_iff]

theorem mismatch_eq_some_iff {value : Json} {name expected found : String} :
    mismatch? name expected value = some found ↔ Mismatches value name expected found := by
  unfold mismatch?
  constructor
  · intro h
    split at h
    · rename_i text htext
      split at h
      · rename_i hdiffers
        cases h
        obtain ⟨v, hv, hs⟩ := Option.bind_eq_some_iff.mp htext
        cases v <;> cases hs
        exact ⟨hv, hdiffers.1, hdiffers.2⟩
      · cases h
    · cases h
  · rintro ⟨stated, filled, differs⟩
    simp [stated, Json.text?, filled, differs]

theorem mismatch_eq_none_iff {value : Json} {name expected : String} :
    mismatch? name expected value = none ↔ ∀ found, ¬ Mismatches value name expected found := by
  rw [Option.eq_none_iff_forall_ne_some]
  exact forall_congr' fun found => not_congr mismatch_eq_some_iff

theorem endsWith_iff {tail s : String} : Text.endsWith tail s = true ↔ tail.toList <:+ s.toList :=
  List.isSuffixOf_iff_suffix

section

variable {kind : GroupVersionKind} {media : String} {body : Bytes} {reason : Refusal} {value : Json}

/-- What can come of a body that is looked at. -/
inductive Previews (kind : GroupVersionKind) (media : String) (body : Bytes) : Preview → Prop where
  | exempt : Previews kind media body .exempt
  | refused {reason : Refusal} (faults : Faults kind media body reason) :
      Previews kind media body (.refused reason)
  | object {value : Json} (fits : Fits kind media body value) :
      Previews kind media body (.object value)

theorem previews_previewBody (kind : GroupVersionKind) (media : String) (body : Bytes) :
    Previews kind media body (previewBody kind media body) := by
  unfold previewBody
  split
  · rename_i hread
    split
    · exact .exempt
    · rename_i hyaml
      refine .refused (.undecodable ?_ fun h => hyaml (endsWith_iff.mpr h))
      intro value hvalue
      cases hread.symm.trans hvalue
  · rename_i value hread
    split
    · rename_i hpatch
      split
      · exact .exempt
      · rename_i hshape
        exact .refused (.patchNotArray hread hpatch hshape)
    · rename_i hpatch
      split
      · rename_i members
        unfold previewObject
        split
        · rename_i found hkind
          exact .refused (.otherKind hread hpatch (mismatch_eq_some_iff.mp hkind))
        · rename_i hkind
          split
          · rename_i found hversion
            exact .refused (.otherVersion hread hpatch (mismatch_eq_none_iff.mp hkind)
              (isApiVersion_iff.mpr rfl) (mismatch_eq_some_iff.mp hversion))
          · rename_i hversion
            refine .object ⟨hread, hpatch, ⟨members, rfl⟩, mismatch_eq_none_iff.mp hkind, ?_⟩
            intro expected found hexpected
            obtain rfl := isApiVersion_iff.mp hexpected
            exact mismatch_eq_none_iff.mp hversion found
      · rename_i hshape
        exact .refused (.notObject hread hpatch hshape)

theorem Faults.previewBody_eq (h : Faults kind media body reason) :
    previewBody kind media body = .refused reason := by
  cases h with
  | undecodable unread format =>
    have hread : (Bytes.text? body).bind Json.parse? = none :=
      Option.eq_none_iff_forall_ne_some.mpr unread
    have hyaml : Text.endsWith "yaml" media = false := by
      rw [← Bool.not_eq_true, endsWith_iff]
      exact format
    simp [previewBody, hread, hyaml]
  | patchNotArray reads patch shape =>
    unfold Reads at reads
    simp only [previewBody, reads, patch, ↓reduceIte]
  | notObject reads patch shape =>
    unfold Reads at reads
    simp only [previewBody, reads, patch, ↓reduceIte]
  | otherKind reads patch mismatch =>
    unfold Reads at reads
    simp [previewBody, reads, patch, previewObject, mismatch_eq_some_iff.mpr mismatch]
  | otherVersion reads patch named version mismatch =>
    obtain rfl := isApiVersion_iff.mp version
    unfold Reads at reads
    simp [previewBody, reads, patch, previewObject, mismatch_eq_none_iff.mpr named,
      mismatch_eq_some_iff.mpr mismatch]

theorem Fits.previewBody_eq (h : Fits kind media body value) :
    previewBody kind media body = .object value := by
  obtain ⟨reads, patch, ⟨members, rfl⟩, named, versioned⟩ := h
  unfold Reads at reads
  have hversion := mismatch_eq_none_iff.mpr fun found =>
    versioned _ found (isApiVersion_iff.mpr rfl)
  simp [previewBody, reads, patch, previewObject, mismatch_eq_none_iff.mpr named, hversion]

theorem previewBody_refused_iff :
    previewBody kind media body = .refused reason ↔ Faults kind media body reason := by
  constructor
  · intro h
    have hpreviews := previews_previewBody kind media body
    rw [h] at hpreviews
    cases hpreviews with
    | refused faults => exact faults
  · exact Faults.previewBody_eq

theorem previewBody_object_iff :
    previewBody kind media body = .object value ↔ Fits kind media body value := by
  constructor
  · intro h
    have hpreviews := previews_previewBody kind media body
    rw [h] at hpreviews
    cases hpreviews with
    | object fits => exact fits
  · exact Fits.previewBody_eq

end

section

variable {r : ValidationRequest} {media : String} {body : Bytes}

theorem Examines.preview_eq (h : Examines r media body) :
    preview r = previewBody r.kind media body := by
  have hmutating : r.isMutating = true := (Gate.isMutating_iff r.coordinate).mpr h.verb
  have hfilled : body.isEmpty = false := by simpa using h.filled
  have hreadable : Text.contains "protobuf" media = false := by
    rw [← Bool.not_eq_true, Text.contains, containsChars_iff]
    exact h.readable
  simp [preview, h.present, isMediaType_iff.mp h.typed, hmutating, h.whole, hfilled, hreadable]

/-- A request that is not examined is exempt. -/
theorem exempt_or_examines (r : ValidationRequest) :
    preview r = .exempt ∨ ∃ media body, Examines r media body := by
  unfold preview
  split
  · exact .inl rfl
  · rename_i body hbody
    dsimp only
    split
    · exact .inl rfl
    · rename_i hskips
      simp only [Bool.or_eq_true, Bool.not_eq_eq_eq_not, Bool.not_true, not_or,
        Bool.not_eq_false, Option.not_isSome_iff_eq_none, List.isEmpty_iff, Text.contains,
        containsChars_iff] at hskips
      obtain ⟨⟨⟨hmutating, hwhole⟩, hfilled⟩, hreadable⟩ := hskips
      exact .inr ⟨_, body, (Gate.isMutating_iff r.coordinate).mp hmutating, hwhole, hbody, hfilled,
        isMediaType_iff.mpr rfl, hreadable⟩

/-- Whatever is not exempt is what comes of the body. -/
theorem preview_eq_iff {found : Preview} (h : found ≠ .exempt) : preview r = found ↔
    ∃ media body, Examines r media body ∧ previewBody r.kind media body = found := by
  constructor
  · rintro rfl
    obtain ⟨media, body, hexamines⟩ := (exempt_or_examines r).resolve_left h
    exact ⟨media, body, hexamines, hexamines.preview_eq.symm⟩
  · rintro ⟨media, body, hexamines, hbody⟩
    exact hexamines.preview_eq.trans hbody

theorem preview_refused_iff {reason : Refusal} :
    preview r = .refused reason ↔ IsFaulty r reason := by
  have hexempt : Preview.refused reason ≠ .exempt := by simp
  simp only [preview_eq_iff hexempt, previewBody_refused_iff, IsFaulty]

theorem preview_object_iff {value : Json} : preview r = .object value ↔ IsSound r value := by
  have hexempt : Preview.object value ≠ .exempt := by simp
  simp only [preview_eq_iff hexempt, previewBody_object_iff, IsSound]

end

theorem verdict_error_iff {schema : Option ResourceSchema} {kind : String} {body : Json}
    {e : ValidationError} : verdict schema kind body = .error e ↔
      ∃ published path, schema = some published ∧ published.firstUnknown body = some path ∧
        e = .invalidField path.print kind := by
  unfold verdict
  constructor
  · intro h
    split at h
    · rename_i path hpath
      obtain ⟨published, hschema, hunknown⟩ := Option.bind_eq_some_iff.mp hpath
      cases h
      exact ⟨published, path, hschema, hunknown, rfl⟩
    · cases h
  · rintro ⟨published, path, rfl, hunknown, rfl⟩
    rw [Option.bind_some, hunknown]

/-- A source that notes the kinds whose schemas it is asked for. -/
def Source.noted {σ : Type} (source : Source σ) : Source (Noted GroupVersionKind σ) :=
  fun kind => noting kind (source kind)

section

variable {σ : Type} {source : Source σ} {r : ValidationRequest}

theorem outcome_validate (source : Source σ) (r : ValidationRequest) (s : σ) :
    outcome (validate source r) s =
      match preview r with
      | .exempt => (.ok (), s)
      | .refused reason => (.error (.schemaInvalid reason.message), s)
      | .object body =>
        (verdict (outcome (source r.kind) s).1 r.kind.kind body, (outcome (source r.kind) s).2) := by
  unfold validate
  cases preview r <;> rfl

theorem validate_error_iff {s : σ} {e : ValidationError} :
    (outcome (validate source r) s).1 = .error e ↔
      (∃ reason, IsFaulty r reason ∧ e = .schemaInvalid reason.message) ∨
      ∃ value schema path, IsSound r value ∧ (outcome (source r.kind) s).1 = some schema ∧
        schema.firstUnknown value = some path ∧ e = .invalidField path.print r.kind.kind := by
  simp only [← preview_refused_iff, ← preview_object_iff, outcome_validate]
  cases preview r with
  | exempt => simp
  | refused reason => simp [eq_comm]
  | object value => simp [verdict_error_iff]

theorem code_of_validate {s : σ} {e : ValidationError}
    (h : (outcome (validate source r) s).1 = .error e) : e.code = .schemaInvalid := by
  rcases validate_error_iff.mp h with ⟨reason, -, rfl⟩ | ⟨value, schema, path, -, -, -, rfl⟩
  · rfl
  · rfl

/-- The check refuses a request if it examines its body and finds a fault in it, the first of
several, or else if a schema is published and lacks a field of the body. No other request makes it
ask for a schema. -/
theorem validate_verdict (source : Source σ) (r : ValidationRequest)
    (n : Noted GroupVersionKind σ) :
    let judged := outcome (validate source.noted r) n
    let published := outcome (source r.kind) n.state
    (∀ e, judged.1 = .error e ↔
      (∃ reason, IsFaulty r reason ∧ e = ⟨.schemaInvalid, reason.message, none⟩) ∨
      ∃ value schema path, IsSound r value ∧ published.1 = some schema ∧
        schema.firstUnknown value = some path ∧ e = .invalidField path.print r.kind.kind ∧
        e.code = .schemaInvalid ∧ e.field = some path.print) ∧
    (∀ value, IsSound r value → judged.2 = ⟨published.2, n.notes ++ [r.kind]⟩) ∧
    ((∀ value, ¬ IsSound r value) → judged.2 = n) := by
  intro judged published
  have hjudged : judged = _ := outcome_validate source.noted r n
  refine ⟨fun e => validate_error_iff.trans (or_congr Iff.rfl ?_), ?_, ?_⟩
  · refine exists_congr fun value => exists_congr fun schema => exists_congr fun path => ?_
    constructor
    · rintro ⟨hsound, hpublished, hunknown, rfl⟩
      exact ⟨hsound, hpublished, hunknown, rfl, rfl, rfl⟩
    · rintro ⟨hsound, hpublished, hunknown, he, -⟩
      exact ⟨hsound, hpublished, hunknown, he⟩
  · intro value hsound
    rw [hjudged, preview_object_iff.mpr hsound]
    rfl
  · intro hunsound
    rw [hjudged]
    split
    · rfl
    · rfl
    · rename_i value hpreview
      exact absurd (preview_object_iff.mp hpreview) (hunsound value)

end

end Schema

end ClusterAccess
