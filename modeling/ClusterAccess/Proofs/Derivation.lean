import ClusterAccess.Proofs.Noted
import ClusterAccess.Provider

namespace ClusterAccess

variable {σ σ₁ σ₂ : Type}

namespace Connection

/-- Two connections lead to the same server in the same manner, whoever uses them. -/
structure Agrees (a b : Connection) : Prop where
  server : a.server = b.server
  defaultNamespace : a.defaultNamespace = b.defaultNamespace
  roots : a.roots = b.roots
  timeouts : a.timeouts = b.timeouts
  acceptsInvalid : a.acceptsInvalid = b.acceptsInvalid
  tlsServerName : a.tlsServerName = b.tlsServerName
  proxy : a.proxy = b.proxy

end Connection

/-- All that an identity adds to a connection. A certificate without its key, or a key without
its certificate, counts for nothing. -/
def CallerIdentity.carried : CallerIdentity → Kubeconfig.User
  | .token text => { token := some text }
  | .certificate chain key => {
      clientCertificateData := some (Base64.encode chain)
      clientKeyData := some (Base64.encode key) }
  | .external bundle =>
    match bundle.clientCertificate, bundle.clientKey with
    | some chain, some key => {
        token := bundle.token
        clientCertificateData := some (Base64.encode chain)
        clientKeyData := some (Base64.encode key) }
    | _, _ => { token := bundle.token }

theorem CallerIdentity.carried_external (b : HeaderBundle) :
    (external b).carried = Connection.credentialsOf b.token (Connection.certificateOf b) := by
  obtain ⟨server, authority, token, chain, key, insecure⟩ := b
  cases chain <;> cases key <;> rfl

/-- A connection in a caller's hands, for callers that bring none of their own. -/
def Connection.personal (base : Connection) (settings : Settings) (i : CallerIdentity) :
    Connection :=
  { base with
    headers := [("user-agent", settings.derivedUserAgent)]
    credentials := i.carried }

theorem Connection.Agrees.personal_eq {a b : Connection} (h : a.Agrees b) (settings : Settings)
    (i : CallerIdentity) : a.personal settings i = b.personal settings i := by
  obtain ⟨hs, hn, hr, ht, hi, hl, hp⟩ := h
  unfold Connection.personal
  rw [hs, hn, hr, ht, hi, hl, hp]

/-- What a manager talks with. -/
def Manager.outfit (m : Manager) : Option Source × Connection × Connection.Signature :=
  (m.source, m.connection, m.signature)

namespace Connection

theorem material_data (files₁ files₂ : Files) (data : Option String) :
    material? files₁ data none = material? files₂ data none := by
  cases data <;> rfl

theorem keyPair_carried (files₁ files₂ : Files) (i : CallerIdentity) :
    keyPair? files₁ i.carried = keyPair? files₂ i.carried := by
  have hfiles : i.carried.clientKey = none ∧ i.carried.clientCertificate = none := by
    cases i with
    | token t => exact ⟨rfl, rfl⟩
    | certificate c k => exact ⟨rfl, rfl⟩
    | external b => rw [CallerIdentity.carried_external]; exact ⟨rfl, rfl⟩
  unfold keyPair?
  rw [hfiles.1, hfiles.2, material_data files₁ files₂, material_data files₁ files₂]

theorem ofUser_carried (host₁ host₂ : Host) (i : CallerIdentity) :
    Authorization.ofUser? host₁ i.carried = Authorization.ofUser? host₂ i.carried := by
  cases i with
  | token t => rfl
  | certificate c k => rfl
  | external b =>
    rw [CallerIdentity.carried_external]
    cases ht : b.token <;> simp [credentialsOf, Authorization.ofUser?]

/-- What goes with a caller's requests comes from no file and no clock of the gateway's host. -/
theorem signature_carried (host₁ host₂ : Host) {c : Connection} {i : CallerIdentity}
    (h : c.credentials = i.carried) : c.signature host₁ = c.signature host₂ := by
  unfold signature isSecured
  rw [h, keyPair_carried host₁.files host₂.files, ofUser_carried host₁ host₂]

/-- A connection without a source and what goes with its requests, if they can be signed. -/
def signed (c : Connection) (host : Host) : Except Error (Option Source × Connection × Signature) :=
  ((c.signature host).mapError .configuration).map fun signature => (none, c, signature)

theorem eq_of_signed {c : Connection} {host : Host} {d : Manager}
    (h : c.signed host = .ok d.outfit) : d.connection = c := by
  unfold signed at h
  cases hs : c.signature host with
  | error problem =>
    rw [hs] at h
    cases h
  | ok signature =>
    rw [hs] at h
    exact (congrArg (Prod.fst ∘ Prod.snd) (Except.ok.inj h)).symm

theorem signed_carried (host₁ host₂ : Host) {c : Connection} {i : CallerIdentity}
    (h : c.credentials = i.carried) : c.signed host₁ = c.signed host₂ := by
  unfold signed
  rw [signature_carried host₁ host₂ h]

/-- The connection of a bundle carries what the bundle does. -/
theorem ofBundle_ok {agent : String} {b : HeaderBundle} {c : Connection}
    (h : ofBundle agent b = .ok c) :
    c.credentials = (CallerIdentity.external b).carried ∧ c.headers = [("user-agent", agent)] := by
  rw [CallerIdentity.carried_external]
  obtain ⟨server, _, h⟩ := except_bind_ok h
  obtain ⟨roots, _, h⟩ := except_bind_ok h
  cases h
  exact ⟨rfl, rfl⟩

end Connection

namespace Gateway

variable {g : Gateway σ} {m : Manager} {s : σ}

def IsOpen (g : Gateway σ) (m : Manager) (s : σ) : Prop :=
  ((g.state m).get s).closed = false

theorem outcome_whenOpen {α : Type} (ho : g.IsOpen m s) (action : StateM σ (Except Error α)) :
    outcome (g.whenOpen m action) s = outcome action s := by
  have hclosed : outcome (g.isClosed m) s = (false, s) := Prod.ext ho rfl
  exact outcome_bind_of hclosed _

/-- A manager is as good as its connection, if requests can be signed for it. -/
theorem outcome_build (context : String) (c : Connection) :
    (outcome (g.build none context c) s).1.map (fun d => (d.context, d.outfit)) =
      (c.signed (outcome g.host s).1).map (context, ·) := by
  unfold build Connection.signed
  rw [outcome_bind]
  cases c.signature (outcome g.host s).1 <;> rfl

/-- A manager for a connection that may be missing. -/
theorem outcome_made (context : String) (made : Except Error Connection) :
    (outcome (match made with
      | .error e => pure (.error e)
      | .ok c => g.build none context c) s).1.map (fun d => (d.context, d.outfit)) =
      (made >>= (·.signed (outcome g.host s).1)).map (context, ·) := by
  cases made with
  | error e => rfl
  | ok c => exact outcome_build context c

/-- The connection that a caller's manager is built on. -/
def handed (g : Gateway σ) (base : Connection) : CallerIdentity → Except Error Connection
  | .external b => g.externalConnection b
  | i => g.derivedConnection base i

def contextOf (m : Manager) : CallerIdentity → String
  | .external _ => externalContext
  | _ => m.context

theorem outcome_derive (ho : g.IsOpen m s) (i : CallerIdentity) :
    (outcome (g.derive m (some i)) s).1.map (fun d => (d.context, d.outfit)) =
      (g.handed m.connection i >>= (·.signed (outcome g.host s).1)).map (contextOf m i, ·) := by
  unfold derive
  rw [outcome_whenOpen ho]
  cases i with
  | external b => exact outcome_made externalContext (g.externalConnection b)
  | token text => exact outcome_made m.context (g.derivedConnection m.connection (.token text))
  | certificate chain key =>
    exact outcome_made m.context (g.derivedConnection m.connection (.certificate chain key))

theorem outfit_derive (ho : g.IsOpen m s) (i : CallerIdentity) :
    (outcome (g.derive m (some i)) s).1.map Manager.outfit =
      g.handed m.connection i >>= (·.signed (outcome g.host s).1) :=
  calc (outcome (g.derive m (some i)) s).1.map Manager.outfit
      = ((outcome (g.derive m (some i)) s).1.map fun d => (d.context, d.outfit)).map Prod.snd := by
        cases (outcome (g.derive m (some i)) s).1 <;> rfl
    _ = ((g.handed m.connection i >>= (·.signed (outcome g.host s).1)).map
          (contextOf m i, ·)).map Prod.snd := by rw [outcome_derive ho i]
    _ = g.handed m.connection i >>= (·.signed (outcome g.host s).1) := by
        cases g.handed m.connection i >>= (·.signed (outcome g.host s).1) <;> rfl

/-- A user agent that cannot stand in a header is the only obstacle to a connection. -/
theorem handed_own (g : Gateway σ) (base : Connection) {i : CallerIdentity}
    (hi : ∀ b, i ≠ .external b) : g.handed base i =
      if (Connection.header? "user-agent" g.settings.derivedUserAgent).isSome then
        .ok (base.personal g.settings i)
      else .error (.configuration .malformedUserAgent) := by
  cases i with
  | external b => exact absurd rfl (hi b)
  | token _ | certificate _ _ =>
    unfold handed derivedConnection userAgent
    cases Connection.header? "user-agent" g.settings.derivedUserAgent <;> rfl

/-- Whatever the identity, its connection holds what the caller carries and the user agent. -/
theorem handed_ok {base c : Connection} {i : CallerIdentity} (h : g.handed base i = .ok c) :
    c.credentials = i.carried ∧
      c.headers = [("user-agent", g.settings.derivedUserAgent)] := by
  by_cases hi : ∀ b, i ≠ .external b
  · rw [handed_own g base hi] at h
    split at h
    · cases h
      exact ⟨rfl, rfl⟩
    · cases h
  · obtain ⟨b, rfl⟩ : ∃ b, i = .external b := by simpa using hi
    change g.externalConnection b = .ok c at h
    unfold externalConnection at h
    split at h
    · cases h
    · rename_i made hmade
      split at h
      · cases h
      · cases h
        exact Connection.ofBundle_ok hmade

/-- Bases that agree hand out the same connection; for a bundle no base is asked. -/
theorem handed_congr {g₁ : Gateway σ₁} {g₂ : Gateway σ₂} (same : g₁.settings = g₂.settings)
    {a b : Connection} {i : CallerIdentity} (h : a.Agrees b ∨ ∃ bundle, i = .external bundle) :
    g₁.handed a i = g₂.handed b i := by
  by_cases hi : ∀ bundle, i ≠ .external bundle
  · have hagrees : a.Agrees b := h.resolve_right fun ⟨bundle, hb⟩ => hi bundle hb
    rw [handed_own g₁ a hi, handed_own g₂ b hi, same, hagrees.personal_eq]
  · obtain ⟨bundle, rfl⟩ : ∃ bundle, i = .external bundle := by simpa using hi
    change g₁.externalConnection bundle = g₂.externalConnection bundle
    unfold externalConnection userAgent
    rw [same]

/-- Two hosts sign the connection of a caller in the same way. -/
theorem handed_signed {base : Connection} {i : CallerIdentity} (host₁ host₂ : Host) :
    g.handed base i >>= (·.signed host₁) = g.handed base i >>= (·.signed host₂) := by
  cases hc : g.handed base i with
  | error e => rfl
  | ok c => exact Connection.signed_carried host₁ host₂ (handed_ok hc).1

theorem derive_none (hrequired : g.settings.requireIdentity = true) (d : Manager) :
    (outcome (g.derive m none) s).1 ≠ .ok d := by
  unfold derive whenOpen
  rw [outcome_bind, hrequired]
  split <;> exact fun h => by cases h

end Gateway

/-- Where an identity is required, a provider of any kind gives nothing to a caller without. -/
theorem Provider.derived_none {g : Gateway σ} (hrequired : g.settings.requireIdentity = true)
    (p : Provider σ) (target : String) (s : σ) (d : Manager) :
    (outcome (p.derived g target none) s).1.1 ≠ .ok d := by
  unfold derived
  cases hp : p.clusters with
  | callers closed =>
    simp only []
    unfold callersManager
    rw [outcome_bind]
    split
    · exact fun h => by cases h
    · split <;> exact fun h => by cases h
  | _ =>
    simp only []
    rw [outcome_bind]
    rcases (outcome (p.manager g target) s).1 with ⟨e | m, p'⟩
    · exact fun h => by cases h
    · exact Gateway.derive_none hrequired d

/-- Credentials are isolated. A caller's manager is the same whatever the credentials and headers
of the manager it is derived from, and on whatever host it is derived; a bundle's is the same for
any two managers. It holds the caller's credentials and the user agent, and where requests can be
signed for it, it is had. Without an identity that is required nothing is had from any provider. -/
theorem derive_isolates {g₁ : Gateway σ₁} {g₂ : Gateway σ₂} (same : g₁.settings = g₂.settings)
    {m₁ m₂ : Manager} {s₁ : σ₁} {s₂ : σ₂} (open₁ : g₁.IsOpen m₁ s₁) (open₂ : g₂.IsOpen m₂ s₂)
    (i : CallerIdentity) :
    let derived₁ := (outcome (g₁.derive m₁ (some i)) s₁).1
    let derived₂ := (outcome (g₂.derive m₂ (some i)) s₂).1
    (m₁.connection.Agrees m₂.connection →
      derived₁.map Manager.outfit = derived₂.map Manager.outfit) ∧
    (∀ bundle, i = .external bundle →
      derived₁.map (fun d => (d.context, d.outfit)) =
        derived₂.map (fun d => (d.context, d.outfit))) ∧
    (∀ d, derived₁ = .ok d → d.connection.credentials = i.carried ∧
      d.connection.headers = [("user-agent", g₁.settings.derivedUserAgent)]) ∧
    (∀ signature, (∀ bundle, i ≠ .external bundle) →
      (Connection.header? "user-agent" g₁.settings.derivedUserAgent).isSome = true →
      (m₁.connection.personal g₁.settings i).signature (outcome g₁.host s₁).1 = .ok signature →
      derived₁.map Manager.outfit =
        .ok (none, m₁.connection.personal g₁.settings i, signature)) ∧
    (g₁.settings.requireIdentity = true → ∀ (p : Provider σ₁) target s d,
      (outcome (p.derived g₁ target none) s).1.1 ≠ .ok d) := by
  refine ⟨?_, ?_, ?_, ?_, fun hrequired => Provider.derived_none hrequired⟩
  · intro agrees
    rw [Gateway.outfit_derive open₁, Gateway.outfit_derive open₂,
      Gateway.handed_congr same (.inl agrees)]
    exact Gateway.handed_signed _ _
  · rintro bundle rfl
    rw [Gateway.outcome_derive open₁, Gateway.outcome_derive open₂,
      Gateway.handed_congr same (.inr ⟨bundle, rfl⟩), Gateway.handed_signed]
    rfl
  · intro d hd
    have houtfit := Gateway.outfit_derive open₁ i
    rw [hd] at houtfit
    obtain ⟨c, hc, hsigned⟩ := except_bind_ok houtfit.symm
    rw [Connection.eq_of_signed hsigned]
    exact Gateway.handed_ok hc
  · intro signature hi hagent hsigns
    rw [Gateway.outfit_derive open₁, Gateway.handed_own g₁ _ hi, if_pos hagent]
    change Connection.signed _ _ = _
    unfold Connection.signed
    rw [hsigns]
    rfl

/-- A gateway that keeps nothing but its managers, and whose network answers everything alike. -/
def Gateway.bare (settings : Settings) : Gateway (List Manager.State) where
  settings
  validators := ValidatorRegistry.standard
  probe := {}
  validation := none
  host := pure { now := ⟨⟨2027, 1, 1⟩, 0, 0⟩ }
  states := Slot.whole _
  network := fun _ => pure (.ok {})

/-- Neither an administrator's password and impersonation nor a service account's token goes with
the caller's. -/
theorem derive_isolates_admin_and_service :
    let g := Gateway.bare { requireIdentity := true }
    let server : Http.Uri := ⟨some "https", some "cluster:6443", "/", none⟩
    let admin : Manager := ⟨0, none, "prod", {
      server
      headers := [("x-team", "platform")]
      credentials := {
        username := some "admin"
        password := some "secret"
        impersonate := some "root" } }, .ok []⟩
    let service : Manager := ⟨1, none, "pod", {
      server
      credentials := { token := some "service" } }, .ok []⟩
    let outfits := [admin, service].map fun m =>
      (outcome (g.derive m (some (.token "caller"))) [{}, {}]).1.map Manager.outfit
    outfits = List.replicate 2 (.ok (none, {
        server
        headers := [("user-agent", "kubegate/bearer-token-auth")]
        credentials := { token := some "caller" } },
      .ok [⟨"authorization", Bytes.ofText "Bearer caller"⟩,
        ⟨"user-agent", Bytes.ofText "kubegate/bearer-token-auth"⟩])) := by
  intro g server admin service outfits
  have hopen : g.IsOpen admin [{}, {}] ∧ g.IsOpen service [{}, {}] := ⟨rfl, rfl⟩
  have hsame : g.settings = g.settings := rfl
  obtain ⟨hagree, -, -, hhad, -⟩ := derive_isolates hsame hopen.1 hopen.2 (.token "caller")
  have hsigns : Connection.signature { now := ⟨⟨2027, 1, 1⟩, 0, 0⟩ } {
        server := ⟨some "https", some "cluster:6443", "/", none⟩
        headers := [("user-agent", "kubegate/bearer-token-auth")]
        credentials := { token := some "caller" } } =
      .ok (.ok [⟨"authorization", Bytes.ofText "Bearer caller"⟩,
        ⟨"user-agent", Bytes.ofText "kubegate/bearer-token-auth"⟩]) := rfl
  have hadmin := hhad _ (fun _ h => by cases h) rfl hsigns
  have hservice := (hagree ⟨rfl, rfl, rfl, rfl, rfl, rfl, rfl⟩).symm.trans hadmin
  simp only [outfits, List.map_cons, List.map_nil, hadmin, hservice]
  rfl

end ClusterAccess
