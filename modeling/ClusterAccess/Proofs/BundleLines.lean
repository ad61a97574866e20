import ClusterAccess.Proofs.Bundles

namespace ClusterAccess

/-- A name is as good in small letters as in capitals. -/
theorem Http.isToken_of_lower {name : String} (h : isToken (Text.lower name) = true) :
    isToken name = true := by
  have hchar : ∀ c : Char, isTokenChar c.toLower = true → isTokenChar c = true := by
    intro c hc
    by_cases hupper : c.val ≥ 'A'.val ∧ c.val ≤ 'Z'.val
    · have hcapital : c.isUpper = true := decide_eq_true hupper
      have halpha : c.isAlpha = true := by
        change (c.isUpper || c.isLower) = true
        rw [hcapital, Bool.true_or]
      simp [isTokenChar, Uri.isAlphanumeric, halpha]
    · have hsame : c.toLower = c := dif_neg hupper
      rwa [hsame] at hc
  simp only [isToken, Text.lower, Bool.and_eq_true, decide_eq_true_eq, List.all_eq_true,
    String.toList_ofList, List.mem_map, forall_exists_index, and_imp,
    forall_apply_eq_imp_iff₂] at h ⊢
  obtain ⟨hne, hall⟩ := h
  refine ⟨?_, fun c hc => hchar c (hall c hc)⟩
  intro hname
  subst hname
  exact absurd hne (by decide)

theorem BundleHeader.isToken_name (h : BundleHeader) : Http.isToken h.name = true := by
  cases h <;> decide

/-- Lines that are all accepted become headers with names in small letters, in their order. -/
theorem Http.mapM_make {lines : List (String × Bytes)}
    (h : ∀ line ∈ lines, (Header.make? line.1 line.2).isSome = true) :
    lines.mapM (fun line => Header.make? line.1 line.2) =
      some (lines.map fun line => ⟨Text.lower line.1, line.2⟩) := by
  induction lines with
  | nil => rfl
  | cons line lines ih =>
    have hline : Header.make? line.1 line.2 = some ⟨Text.lower line.1, line.2⟩ := by
      obtain ⟨header, hheader⟩ := Option.isSome_iff_exists.mp (h line (by simp))
      rw [hheader]
      unfold Header.make? at hheader
      split at hheader
      · exact hheader.symm
      · cases hheader
    rw [List.mapM_cons, hline, ih fun other hother => h other (by simp [hother])]
    rfl

/-- The first value of a name is that of the first line with the name. -/
theorem Http.value_of_lines (lines : List (String × Bytes)) (name : String) :
    Headers.value? (lines.map fun line => ⟨Text.lower line.1, line.2⟩) name =
      ((lines.filter (Text.lower ·.1 = name)).map (·.2)).head? := by
  rw [Headers.value?, List.find?_map, List.head?_map, List.head?_filter, Option.map_map]
  rfl

namespace HeaderBundle

/-- The text of each header that a bundle is written into. -/
def written (b : HeaderBundle) : BundleHeader → Option String
  | .server => some b.server
  | .certificateAuthority => some (Base64.encode b.certificateAuthority)
  | .authorization => b.token.map ("Bearer " ++ ·)
  | .clientCertificate => b.clientCertificate.map Base64.encode
  | .clientKey => b.clientKey.map Base64.encode
  | .insecure => some (truth b.insecure)

/-- The bundles that headers can hold. -/
structure IsWritable (b : HeaderBundle) : Prop where
  server_ne : b.server ≠ ""
  server_printable : ∀ c ∈ b.server.toList, Text.IsPrintable c
  authority_ne : b.certificateAuthority ≠ []
  token_ne : ∀ token, b.token = some token → token ≠ ""
  token_printable : ∀ token, b.token = some token → ∀ c ∈ token.toList, Text.IsPrintable c
  token_ends : ∀ token, b.token = some token →
    token.toList.head? ≠ some ' ' ∧ token.toList.getLast? ≠ some ' '
  credentials : b.hasCredentials = true

/-- The lines bring a bundle along: each of its headers has one line, with the name in any letters,
or none where nothing is written. The lines with other names are headers too. -/
structure AreLinesOf (lines : List (String × Bytes)) (b : HeaderBundle) : Prop where
  own : ∀ h : BundleHeader, (lines.filter (Text.lower ·.1 = h.name)).map (·.2) =
    (b.written h).toList.map Bytes.ofText
  others : ∀ line ∈ lines, (∀ h : BundleHeader, Text.lower line.1 ≠ h.name) →
    (Http.Header.make? line.1 line.2).isSome = true

variable {b : HeaderBundle} {lines : List (String × Bytes)}

theorem IsWritable.printable (hb : b.IsWritable) {h : BundleHeader} {text : String}
    (hwritten : b.written h = some text) : ∀ c ∈ text.toList, Text.IsPrintable c := by
  have hdata : ∀ content : Option Bytes, content.map Base64.encode = some text →
      ∀ c ∈ text.toList, Text.IsPrintable c := by
    intro content hcontent c hc
    obtain ⟨bytes, -, rfl⟩ := Option.map_eq_some_iff.mp hcontent
    exact (Base64.encode_printable bytes hc).2
  cases h with
  | server =>
    cases hwritten
    exact hb.server_printable
  | certificateAuthority => exact hdata (some b.certificateAuthority) hwritten
  | authorization =>
    obtain ⟨token, htoken, rfl⟩ := Option.map_eq_some_iff.mp hwritten
    intro c hc
    rw [String.toList_append, List.mem_append] at hc
    rcases hc with hlead | hc
    · exact Text.printable_of_all (by decide) c hlead
    · exact hb.token_printable token htoken c hc
  | clientCertificate => exact hdata b.clientCertificate hwritten
  | clientKey => exact hdata b.clientKey hwritten
  | insecure =>
    cases hwritten
    cases b.insecure with
    | false => exact Text.printable_of_all (by decide)
    | true => exact Text.printable_of_all (by decide)

theorem IsWritable.isTrimmed (hb : b.IsWritable) {token : String} (htoken : b.token = some token) :
    Text.IsTrimmed token := by
  intro c hc
  obtain ⟨hfirst, hlast⟩ := hb.token_ends token htoken
  have hmem : c ∈ token.toList := hc.elim List.mem_of_head? List.mem_of_getLast?
  by_contra hblank
  obtain rfl :=
    Text.eq_space_of_isBlank (hb.token_printable token htoken c hmem) (by simpa using hblank)
  exact hc.elim hfirst hlast

/-- Every line of a bundle is a header. -/
theorem AreLinesOf.accepted (hlines : AreLinesOf lines b) (hb : b.IsWritable) :
    ∀ line ∈ lines, (Http.Header.make? line.1 line.2).isSome = true := by
  intro line hline
  by_cases hown : ∃ h : BundleHeader, Text.lower line.1 = h.name
  · obtain ⟨h, hname⟩ := hown
    have hvalue : line.2 ∈ (b.written h).toList.map Bytes.ofText := by
      rw [← hlines.own h]
      exact List.mem_map_of_mem (List.mem_filter.mpr ⟨hline, by simp [hname]⟩)
    obtain ⟨text, htext, hbytes⟩ := List.mem_map.mp hvalue
    have hprintable := hb.printable (Option.mem_toList.mp htext)
    have htoken : Http.isToken line.1 = true :=
      Http.isToken_of_lower (by rw [hname]; exact h.isToken_name)
    have hall : line.2.all Http.Header.isValueByte = true := by
      rw [← hbytes, List.all_eq_true]
      intro byte hbyte
      have htext := Http.Header.isTextByte_ofText hprintable byte hbyte
      exact Http.Header.isValueByte_of_isTextByte htext
    simp [Http.Header.make?, htoken, hall]
  · exact hlines.others line hline fun h hname => hown ⟨h, hname⟩

/-- The headers of a bundle's lines carry what was written into them, and no more. -/
theorem AreLinesOf.said (hlines : AreLinesOf lines b) (hb : b.IsWritable) (h : BundleHeader) :
    Says (lines.map fun line => ⟨Text.lower line.1, line.2⟩) h Eq (b.written h) := by
  have hvalue := Http.value_of_lines lines h.name
  rw [hlines.own h] at hvalue
  cases hwritten : b.written h with
  | none => exact .absent (by simp [hvalue, hwritten])
  | some text =>
    refine .present ⟨Bytes.ofText text, by simp [hvalue, hwritten], ?_⟩ rfl
    exact Http.Header.text_ofText (hb.printable hwritten)

/-- What is written stands for what it was written from. -/
theorem Says.of_written {headers : Http.Headers} {h : BundleHeader} {α : Type}
    {Means : String → α → Prop} {write : α → String} {o : Option α}
    (hsaid : Says headers h Eq (o.map write)) (hmeans : ∀ a, o = some a → Means (write a) a) :
    Says headers h Means o := by
  cases o with
  | none =>
    cases hsaid with
    | absent missing => exact .absent missing
  | some a =>
    cases hsaid with
    | present carried means =>
      subst means
      exact .present carried (hmeans a rfl)

theorem Says.carries {headers : Http.Headers} {h : BundleHeader} {text : String}
    (hsaid : Says headers h Eq (some text)) : Carries headers h text := by
  cases hsaid with
  | present carried means =>
    subst means
    exact carried

theorem isData_encode (content : Bytes) : IsData (Base64.encode content) content :=
  Base64.trim_encode content

theorem isTrue_truth : ∀ flag, isTrue (truth flag) = flag := by decide

/-- Headers that say what is written for a bundle bring it along. -/
theorem IsWritable.fills {headers : Http.Headers} (hb : b.IsWritable)
    (hsaid : ∀ h, Says headers h Eq (b.written h)) : Fills headers b where
  server := (hsaid .server).carries
  server_ne := hb.server_ne
  authority := by
    refine ⟨_, (hsaid .certificateAuthority).carries, ?_, isData_encode _⟩
    intro hempty
    exact hb.authority_ne (Base64.encode_eq_empty_iff.mp hempty)
  token := by
    refine Says.of_written (hsaid .authorization) ?_
    intro token htoken
    exact ⟨token, rfl, Text.trim_of_isTrimmed (hb.isTrimmed htoken), hb.token_ne token htoken⟩
  clientCertificate := by
    refine Says.of_written (hsaid .clientCertificate) ?_
    intro content _
    exact isData_encode content
  clientKey := by
    refine Says.of_written (hsaid .clientKey) ?_
    intro content _
    exact isData_encode content
  insecure := by
    refine ⟨some (truth b.insecure), hsaid .insecure, ?_⟩
    rw [Option.map_some, isTrue_truth, Option.getD_some]
  credentials := hb.credentials

end HeaderBundle

namespace CallerIdentity

/-- Headers with a server are read as a bundle, and nothing else comes of them. -/
theorem ofHeaders_of_server {headers : Http.Headers}
    (hserver : (headers.value? BundleHeader.server.name).isSome = true) :
    ofHeaders headers = (HeaderBundle.ofHeaders headers).map (some ∘ external) :=
  if_pos hserver

/-- A bundle is the identity that its lines are read as, whatever lines stand beside them. An
identity that is read where a server is named is a bundle. -/
theorem ofHeaders_of_lines :
    (∀ (b : HeaderBundle) (lines : List (String × Bytes)), b.IsWritable →
      HeaderBundle.AreLinesOf lines b →
      ∃ headers, lines.mapM (fun line => Http.Header.make? line.1 line.2) = some headers ∧
        ofHeaders headers = .ok (some (.external b))) ∧
    ∀ (headers : Http.Headers) (identity : Option CallerIdentity),
      (headers.value? BundleHeader.server.name).isSome = true →
      ofHeaders headers = .ok identity → ∃ b, identity = some (.external b) := by
  constructor
  · intro b lines hb hlines
    refine ⟨_, Http.mapM_make (hlines.accepted hb), ?_⟩
    have hfills := hb.fills (hlines.said hb)
    obtain ⟨value, hvalue, -⟩ := hfills.server
    rw [ofHeaders_of_server (by simp [hvalue]), HeaderBundle.ofHeaders_eq_ok_iff.mpr hfills]
    rfl
  · intro headers identity hserver hidentity
    rw [ofHeaders_of_server hserver] at hidentity
    cases hbundle : HeaderBundle.ofHeaders headers with
    | error problem =>
      rw [hbundle] at hidentity
      cases hidentity
    | ok b =>
      rw [hbundle] at hidentity
      cases hidentity
      exact ⟨b, rfl⟩

/-- A token and a lone key for a server whose certificate is not looked at. -/
def keyedBundle : HeaderBundle where
  server := "https://10.0.0.1:6443"
  certificateAuthority := [99, 97]
  token := some "s3cret"
  clientKey := some [107]
  insecure := true

/-- The lines of a bundle, with a token for the cluster itself between them. -/
def keyedLines : List (String × Bytes) :=
  [("kubernetes-client-key-data", Bytes.ofText "aw=="),
    ("Kubernetes-Server", Bytes.ofText "https://10.0.0.1:6443"),
    ("Authorization", Bytes.ofText "Bearer other"),
    ("KUBERNETES-CERTIFICATE-AUTHORITY-DATA", Bytes.ofText "Y2E="),
    ("Kubernetes-Insecure-Skip-TLS-Verify", Bytes.ofText "true"),
    ("Kubernetes-Authorization", Bytes.ofText "Bearer s3cret")]

theorem isWritable_keyedBundle : keyedBundle.IsWritable where
  server_ne := by decide
  server_printable := Text.printable_of_all (by decide)
  authority_ne := by decide
  token_ne token htoken := by
    cases htoken
    decide
  token_printable token htoken := by
    cases htoken
    exact Text.printable_of_all (by decide)
  token_ends token htoken := by
    cases htoken
    decide
  credentials := rfl

theorem areLinesOf_keyedLines : HeaderBundle.AreLinesOf keyedLines keyedBundle where
  own h := by cases h <;> decide
  others line hline _ := by
    have hall : ∀ line ∈ keyedLines, (Http.Header.make? line.1 line.2).isSome = true := by decide
    exact hall line hline

theorem ofHeaders_of_lines_keyed :
    ∃ headers, keyedLines.mapM (fun line => Http.Header.make? line.1 line.2) = some headers ∧
      ofHeaders headers = .ok (some (.external keyedBundle)) ∧
      ∃ b, some (external keyedBundle) = some (external b) := by
  obtain ⟨headers, hheaders, hidentity⟩ :=
    ofHeaders_of_lines.1 keyedBundle keyedLines isWritable_keyedBundle areLinesOf_keyedLines
  refine ⟨headers, hheaders, hidentity, ofHeaders_of_lines.2 headers _ ?_ hidentity⟩
  have hread : keyedLines.mapM (fun line => Http.Header.make? line.1 line.2) = some
      (keyedLines.map fun line => ⟨Text.lower line.1, line.2⟩) := Http.mapM_make (by decide)
  obtain rfl := Option.some.inj (hread.symm.trans hheaders)
  decide

end CallerIdentity

end ClusterAccess
