import ClusterAccess.Identity.Basic
import ClusterAccess.Proofs.Encodings
import ClusterAccess.Proofs.Noted
import ClusterAccess.Proofs.References

namespace ClusterAccess

namespace HeaderBundle

/-- A header's first value can be read, as a text. -/
def Carries (headers : Http.Headers) (h : BundleHeader) (text : String) : Prop :=
  ∃ value, headers.value? h.name = some value ∧ Http.Header.text? value = some text

/-- A header that is there says something, and one that is not says nothing. -/
inductive Says (headers : Http.Headers) (h : BundleHeader) {α : Type}
    (Means : String → α → Prop) : Option α → Prop where
  | absent (missing : headers.value? h.name = none) : Says headers h Means none
  | present {text : String} {a : α} (carried : Carries headers h text) (means : Means text a) :
      Says headers h Means (some a)

/-- The text is the content's Base64, perhaps between blanks. -/
def IsData (text : String) (content : Bytes) : Prop :=
  Text.trim text = Base64.encode content

def IsBearer (text token : String) : Prop :=
  ∃ rest, text = "Bearer " ++ rest ∧ Text.trim rest = token ∧ token ≠ ""

/-- What it takes for headers to bring a bundle along. -/
structure Fills (headers : Http.Headers) (b : HeaderBundle) : Prop where
  server : Carries headers .server b.server
  server_ne : b.server ≠ ""
  authority : ∃ text, Carries headers .certificateAuthority text ∧ text ≠ "" ∧
    IsData text b.certificateAuthority
  token : Says headers .authorization IsBearer b.token
  clientCertificate : Says headers .clientCertificate IsData b.clientCertificate
  clientKey : Says headers .clientKey IsData b.clientKey
  insecure : ∃ text, Says headers .insecure Eq text ∧ b.insecure = (text.map isTrue).getD false
  credentials : b.hasCredentials = true

variable {headers : Http.Headers} {h : BundleHeader}

theorem field_eq_ok_iff {text : Option String} :
    field headers h = .ok text ↔ Says headers h Eq text := by
  unfold field
  constructor
  · intro hfield
    split at hfield
    · cases hfield
      exact .absent ‹_›
    · split at hfield
      · cases hfield
      · cases hfield
        exact .present ⟨_, ‹_›, ‹_›⟩ rfl
  · intro hsaid
    cases hsaid with
    | absent missing => simp [missing]
    | present carried means =>
      obtain ⟨value, hvalue, htext⟩ := carried
      subst means
      simp [hvalue, htext]

/-- Whatever is made of a header's text is what the header says, and without a header there is
nothing to be made of. -/
theorem field_bind_eq_ok_iff {α : Type} {Means : String → α → Prop}
    {make : Option String → Except IdentityProblem (Option α)} (hnone : make none = .ok none)
    (hsome : ∀ text o, make (some text) = .ok o ↔ ∃ a, o = some a ∧ Means text a) {o : Option α} :
    (field headers h >>= make) = .ok o ↔ Says headers h Means o := by
  constructor
  · intro hmade
    obtain ⟨text, hfield, hmake⟩ := except_bind_ok hmade
    cases field_eq_ok_iff.mp hfield with
    | absent missing =>
      rw [hnone] at hmake
      cases hmake
      exact .absent missing
    | present carried means =>
      subst means
      obtain ⟨a, rfl, hmeans⟩ := (hsome _ _).mp hmake
      exact .present carried hmeans
  · intro hsaid
    cases hsaid with
    | absent missing =>
      rw [field_eq_ok_iff.mpr (.absent missing)]
      exact hnone
    | present carried means =>
      rw [field_eq_ok_iff.mpr (.present carried rfl)]
      exact (hsome _ _).mpr ⟨_, rfl, means⟩

theorem required_eq_ok_iff {text : String} :
    required headers h = .ok text ↔ Carries headers h text ∧ text ≠ "" := by
  constructor
  · intro hrequired
    obtain ⟨found, hfield, hfound⟩ := except_bind_ok hrequired
    cases field_eq_ok_iff.mp hfield with
    | absent missing => cases hfound
    | @present t _ carried means =>
      subst means
      by_cases ht : t = ""
      · subst ht
        cases hfound
      · simp only [pure, Except.pure, Except.ok.injEq] at hfound
        subst hfound
        exact ⟨carried, ht⟩
  · intro hcarried
    obtain ⟨carried, hne⟩ := hcarried
    unfold required
    rw [field_eq_ok_iff.mpr (.present carried rfl)]
    simp [bind, Except.bind, pure, Except.pure]

theorem decode_eq_ok_iff {text : String} {content : Bytes} :
    decode h text = .ok content ↔ IsData text content := by
  unfold decode IsData
  rw [← Base64.decode_eq_some_iff]
  cases Base64.decode? (Text.trim text) with
  | none => simp
  | some found => simp

theorem data_eq_ok_iff {content : Option Bytes} :
    data headers h = .ok content ↔ Says headers h IsData content := by
  unfold data
  apply field_bind_eq_ok_iff
  · rfl
  intro text o
  constructor
  · intro hmade
    obtain ⟨found, hdecode, hfound⟩ := except_bind_ok hmade
    cases hfound
    exact ⟨found, rfl, decode_eq_ok_iff.mp hdecode⟩
  · intro hmade
    obtain ⟨found, rfl, hmeans⟩ := hmade
    simp [decode_eq_ok_iff.mpr hmeans, bind, Except.bind, pure, Except.pure]

theorem bearerToken_eq_some_iff {text token : String} :
    bearerToken? text = some token ↔ IsBearer text token := by
  simp only [bearerToken?, IsBearer, Option.filter_eq_some_iff, Option.map_eq_some_iff,
    Text.dropLead_eq_some_iff, decide_eq_true_eq]
  constructor
  · intro hfound
    obtain ⟨⟨rest, htext, htoken⟩, hne⟩ := hfound
    exact ⟨rest, htext, htoken, hne⟩
  · intro hbearer
    obtain ⟨rest, htext, htoken, hne⟩ := hbearer
    exact ⟨⟨rest, htext, htoken⟩, hne⟩

theorem bearer_eq_ok_iff {token : Option String} :
    bearer headers = .ok token ↔ Says headers .authorization IsBearer token := by
  unfold bearer
  apply field_bind_eq_ok_iff
  · rfl
  intro text o
  simp only [← bearerToken_eq_some_iff]
  cases bearerToken? text with
  | none => simp [throw, throwThe, MonadExceptOf.throw]
  | some found => simp [pure, Except.pure, eq_comm]

/-- A bundle is accepted exactly when the headers bring it along. -/
theorem ofHeaders_eq_ok_iff {b : HeaderBundle} : ofHeaders headers = .ok b ↔ Fills headers b := by
  constructor
  · intro haccepted
    obtain ⟨server, hserver, hrest⟩ := except_bind_ok haccepted
    obtain ⟨authority, hauthority, hrest⟩ := except_bind_ok hrest
    obtain ⟨content, hcontent, hrest⟩ := except_bind_ok hrest
    obtain ⟨token, htoken, hrest⟩ := except_bind_ok hrest
    obtain ⟨certificate, hcertificate, hrest⟩ := except_bind_ok hrest
    obtain ⟨key, hkey, hrest⟩ := except_bind_ok hrest
    obtain ⟨flag, hflag, hrest⟩ := except_bind_ok hrest
    simp only at hrest
    split at hrest
    · rename_i hcredentials
      cases hrest
      obtain ⟨hserver, hne⟩ := required_eq_ok_iff.mp hserver
      exact {
        server := hserver
        server_ne := hne
        authority := by
          obtain ⟨hcarried, hne⟩ := required_eq_ok_iff.mp hauthority
          exact ⟨authority, hcarried, hne, decode_eq_ok_iff.mp hcontent⟩
        token := bearer_eq_ok_iff.mp htoken
        clientCertificate := data_eq_ok_iff.mp hcertificate
        clientKey := data_eq_ok_iff.mp hkey
        insecure := ⟨flag, field_eq_ok_iff.mp hflag, rfl⟩
        credentials := hcredentials }
    · cases hrest
  · intro hfills
    obtain ⟨authority, hauthority, hne, hcontent⟩ := hfills.authority
    obtain ⟨flag, hflag, hinsecure⟩ := hfills.insecure
    unfold ofHeaders
    rw [required_eq_ok_iff.mpr ⟨hfills.server, hfills.server_ne⟩,
      required_eq_ok_iff.mpr ⟨hauthority, hne⟩]
    simp only [bind, Except.bind]
    rw [decode_eq_ok_iff.mpr hcontent]
    simp only [bearer_eq_ok_iff.mpr hfills.token, data_eq_ok_iff.mpr hfills.clientCertificate,
      data_eq_ok_iff.mpr hfills.clientKey, field_eq_ok_iff.mpr hflag, ← hinsecure]
    exact if_pos hfills.credentials

/-- The content that a bundle has for one of the headers with data. -/
def content? (b : HeaderBundle) : BundleHeader → Option Bytes
  | .certificateAuthority => some b.certificateAuthority
  | .clientCertificate => b.clientCertificate
  | .clientKey => b.clientKey
  | .server | .authorization | .insecure => none

theorem IsBearer.isTrimmed {text token : String} (h : IsBearer text token) :
    token ≠ "" ∧ Text.IsTrimmed token := by
  obtain ⟨rest, -, rfl, hne⟩ := h
  exact ⟨hne, Text.isTrimmed_trim rest⟩

/-- Data is empty exactly when its text has nothing but blanks. -/
theorem IsData.eq_nil_iff {text : String} {content : Bytes} (h : IsData text content) :
    content = [] ↔ ∀ c ∈ text.toList, Text.isBlank c = true := by
  rw [← Base64.encode_eq_empty_iff, ← h, Text.trim_eq_empty_iff]

theorem Says.imp {α : Type} {Means Means' : String → α → Prop} {o : Option α}
    (hsaid : Says headers h Means o) (himp : ∀ text a, Means text a → Means' text a) :
    Says headers h Means' o := by
  cases hsaid with
  | absent missing => exact .absent missing
  | present carried means => exact .present carried (himp _ _ means)

/-- Whatever is said stands in a header that is there. -/
theorem Says.of_isSome {α : Type} {Means : String → α → Prop} {o : Option α}
    (hsaid : Says headers h Means o) (hsome : o.isSome = true) :
    ∃ a, o = some a ∧ ∃ text, Carries headers h text ∧ Means text a := by
  cases hsaid with
  | absent missing => cases hsome
  | present carried means => exact ⟨_, rfl, _, carried, means⟩

theorem Fills.says_content {b : HeaderBundle} (hfills : Fills headers b) {h : BundleHeader}
    (hdata : h ∈ [.certificateAuthority, .clientCertificate, .clientKey]) :
    Says headers h IsData (b.content? h) := by
  simp only [List.mem_cons, List.not_mem_nil, or_false] at hdata
  obtain ⟨text, hcarried, -, hcontent⟩ := hfills.authority
  rcases hdata with rfl | rfl | rfl
  · exact .present hcarried hcontent
  · exact hfills.clientCertificate
  · exact hfills.clientKey

/-- A bundle that is accepted has a server, and a token without blanks at its ends or both a
certificate and a key. A header that is there says what the bundle has for it: a bearer token, or
Base64, and the content is empty where the text between the blanks is. -/
theorem ofHeaders_complete {b : HeaderBundle} (haccepted : ofHeaders headers = .ok b) :
    b.server ≠ "" ∧
    (∃ text, Carries headers .certificateAuthority text ∧ text ≠ "") ∧
    ((∃ token, b.token = some token ∧ token ≠ "" ∧ Text.IsTrimmed token) ∨
      (b.clientCertificate.isSome = true ∧ b.clientKey.isSome = true)) ∧
    Says headers .authorization IsBearer b.token ∧
    ∀ h ∈ [.certificateAuthority, .clientCertificate, .clientKey],
      Says headers h (fun text content =>
        IsData text content ∧ (content = [] ↔ ∀ c ∈ text.toList, Text.isBlank c = true))
        (b.content? h) := by
  have hfills := ofHeaders_eq_ok_iff.mp haccepted
  refine ⟨hfills.server_ne, ?_, ?_, hfills.token, ?_⟩
  · obtain ⟨text, hcarried, hne, -⟩ := hfills.authority
    exact ⟨text, hcarried, hne⟩
  · have hcredentials := hfills.credentials
    rw [hasCredentials, Bool.or_eq_true, Bool.and_eq_true] at hcredentials
    rcases hcredentials with htoken | hpair
    · obtain ⟨token, htoken, text, -, hbearer⟩ := hfills.token.of_isSome htoken
      exact .inl ⟨token, htoken, hbearer.isTrimmed⟩
    · exact .inr hpair
  · intro h hdata
    apply (hfills.says_content hdata).imp
    intro text content hcontent
    exact ⟨hcontent, hcontent.eq_nil_iff⟩

/-- A server and data in Base64 for the three headers with data. -/
def dataHeaders (authority certificate key : String) : Http.Headers :=
  [⟨"kubernetes-server", Bytes.ofText "https://10.0.0.1:6443"⟩,
    ⟨"kubernetes-certificate-authority-data", Bytes.ofText authority⟩,
    ⟨"kubernetes-client-certificate-data", Bytes.ofText certificate⟩,
    ⟨"kubernetes-client-key-data", Bytes.ofText key⟩]

/-- What is brought along with a certificate and a key for data. -/
def certificateBundle (authority certificate key : Bytes) : HeaderBundle where
  server := "https://10.0.0.1:6443"
  certificateAuthority := authority
  clientCertificate := some certificate
  clientKey := some key

theorem ofHeaders_complete_certificate :
    ofHeaders (dataHeaders "Y2E=" " Y2VydA==" "a2V5") =
      .ok (certificateBundle [99, 97] [99, 101, 114, 116] [107, 101, 121]) ∧
    ∀ h ∈ [.certificateAuthority, .clientCertificate, .clientKey],
      Says (dataHeaders "Y2E=" " Y2VydA==" "a2V5") h (fun text content =>
        IsData text content ∧ (content = [] ↔ ∀ c ∈ text.toList, Text.isBlank c = true))
        ((certificateBundle [99, 97] [99, 101, 114, 116] [107, 101, 121]).content? h) :=
  ⟨by decide, (ofHeaders_complete (by decide)).2.2.2.2⟩

/-- Headers that are there and empty are taken for a certificate and a key, and a blank is taken
for a certificate authority. -/
theorem ofHeaders_accepts_empty :
    ofHeaders (dataHeaders "Y2E=" "" "") = .ok (certificateBundle [99, 97] [] []) ∧
    (certificateBundle [99, 97] [] []).token = none ∧
    ofHeaders (dataHeaders " " "Y2VydA==" "a2V5") =
      .ok (certificateBundle [] [99, 101, 114, 116] [107, 101, 121]) := by
  decide

end HeaderBundle

end ClusterAccess
