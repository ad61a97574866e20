import ClusterAccess.Proofs.Rounds

namespace ClusterAccess.Supervision

variable {σ : Type} {g : Gateway σ} {files : Nat → Files} {source : Source}

/-- The watcher waits, and no file has changed since its last check began. -/
structure IsQuiet (files : Nat → Files) (source : Source) (s : Supervision) : Prop where
  phase : s.watcher.phase = .waiting
  callback : s.callback = none
  opened : s.tasks.registry.closed = false
  still : ∀ path ∈ source.paths, Still files s.since s.now path

/-- The registry knows what the files say now, if they say anything. -/
def IsCurrent (files : Nat → Files) (source : Source) (s : Supervision) : Prop :=
  ∀ layout, Layout.read (files s.now) source = .ok layout → s.tasks.registry.layout = layout

theorem Tracks.current {trusted : Prop} {s : Supervision} (h : Tracks files source trusted s)
    (hfirst : s.watcher.callbacks ≠ 0 ∨ trusted) (hquiet : IsQuiet files source s) :
    IsCurrent files source s := by
  intro layout hread
  have hsince := h.since_le (by simp [hquiet.phase])
  have hstill : ∀ path ∈ source.paths, Still files (s.seen path) s.now path :=
    fun path hp => (hquiet.still path hp).mono (hsince path) (Nat.le_refl _)
  have hreflects := h.waiting (.inl hquiet.phase) hquiet.opened hfirst hstill
  exact hreflects (files s.now)
    (fun path hp => hstill path hp _ (h.seen_le path) (Nat.le_refl _)) layout hread

theorem tracks_chain {trusted : Prop} {s : Supervision} {later : List Supervision}
    (h : Tracks files source trusted s) (hmoves : (s :: later).IsChain (Move g files source))
    (htells : (s :: later).IsChain (Tells files source))
    (hfirst : trusted → (s :: later).IsChain (StartsAlike files source)) :
    Tracks files source trusted ((s :: later).getLast (List.cons_ne_nil s later)) := by
  induction later generalizing s with
  | nil => exact h
  | cons s' later ih =>
    obtain ⟨hmove, hmoves⟩ := List.isChain_cons_cons.mp hmoves
    obtain ⟨htell, htells⟩ := List.isChain_cons_cons.mp htells
    have hnext := h.move hmove htell fun ht => (List.isChain_cons_cons.mp (hfirst ht)).1
    exact ih hnext hmoves htells fun ht => (List.isChain_cons_cons.mp (hfirst ht)).2

/-- No change that the watcher can tell is lost. Its first look must find what the provider has
read; once it has called back, that does not matter any more. -/
theorem current_of_quiet {s : Supervision} {later : List Supervision}
    (hbegins : Begins g files source s) (hmoves : (s :: later).IsChain (Move g files source))
    (htells : (s :: later).IsChain (Tells files source)) :
    let last := (s :: later).getLast (List.cons_ne_nil s later)
    last.watcher.callbacks ≠ 0 ∨ (s :: later).IsChain (StartsAlike files source) →
      IsQuiet files source last → IsCurrent files source last := by
  intro last hfirst
  have htracks := tracks_chain (tracks_of_begins hbegins) hmoves htells id
  exact htracks.current hfirst

def clusterFile (cluster : String) : String × Bytes :=
  ("config", Bytes.ofText
    ("clusters:\n- name: " ++ cluster ++ "\n  cluster:\n    server: http://c\ncontexts:\n" ++
      "- name: m\n  context:\n    cluster: " ++ cluster ++ "\ncurrent-context: m\n"))

def twoPaths : Source :=
  .kubeconfig ["config", "more"]

/-- A gateway that keeps nothing but its files. -/
def onDisk : Gateway Files where
  settings := {}
  validators := ValidatorRegistry.standard
  probe := {}
  validation := none
  host := fun files => ({ files, now := ⟨⟨2027, 1, 1⟩, 0, 0⟩ }, files)
  states := ⟨fun _ => [], fun _ files => files⟩
  network := fun _ => pure (.ok {})

/-- The clusters that are found. -/
def clustersIn (files : Files) : Option (List String) :=
  (Layout.read files twoPaths).toOption.map (·.clusters)

/-- A provider that has read the files at moment 0. -/
def atStart (registry : Registry) : Supervision where
  tasks := { registry }
  watcher := Watcher.start twoPaths.paths
  now := 0
  since := 0
  seen _ := 0

theorem ok_of_toOption {ε α : Type} {x : Except ε α} {a : α} (h : x.toOption = some a) :
    x = .ok a := by
  cases x with
  | error e => cases h
  | ok b => exact congrArg _ (Option.some.inj h)

/-- The registry of a provider that is made from some files, if one can be made. -/
def opened? (files : Files) : Option Registry := do
  let layout ← (Layout.read files twoPaths).toOption
  let first := (outcome ((Registry.ofLayout twoPaths layout).lookup onDisk "") files).1
  if first.1.toBool then some first.2 else none

theorem opened_a : (opened? ⟨[clusterFile "a"]⟩).map (fun r => (r.layout.clusters, r.closed)) =
    some (["a"], false) := by
  decide +kernel

theorem begins_of_opened {files : Nat → Files} {registry : Registry}
    (h : opened? (files 0) = some registry) :
    registry.source = twoPaths ∧ Begins onDisk files twoPaths (atStart registry) := by
  obtain ⟨layout, hread, h⟩ := Option.bind_eq_some_iff.mp h
  have hspares := Registry.lookup_spares (g := onDisk) (Registry.ofLayout twoPaths layout) ""
    (files 0)
  generalize hfirst : outcome ((Registry.ofLayout twoPaths layout).lookup onDisk "") (files 0) =
    first at h hspares
  obtain ⟨⟨answer, built⟩, after⟩ := first
  cases answer with
  | error e => simp [Except.toBool] at h
  | ok m =>
    obtain rfl : built = registry := by simpa [Except.toBool] using h
    exact ⟨hspares.1, .opened (Nat.le_refl 0) (fun _ _ _ => rfl) (ok_of_toOption hread) hfirst⟩

theorem exists_begins {files : Nat → Files} (hfiles : files 0 = ⟨[clusterFile "a"]⟩) :
    ∃ registry : Registry, registry.source = twoPaths ∧ registry.layout.clusters = ["a"] ∧
      registry.closed = false ∧ Begins onDisk files twoPaths (atStart registry) := by
  obtain ⟨registry, hopened, hknown⟩ := Option.map_eq_some_iff.mp opened_a
  obtain ⟨hclusters, hopen⟩ := Prod.mk.inj hknown
  obtain ⟨hsource, hbegins⟩ := begins_of_opened (hfiles ▸ hopened)
  exact ⟨registry, hsource, hclusters, hopen, hbegins⟩

/-- A run after which the registry does not know what the files say, and nothing is under way. -/
def Loses (g : Gateway σ) (files : Nat → Files) (source : Source) : Prop :=
  ∃ (s : Supervision) (later : List Supervision), Begins g files source s ∧
    (s :: later).IsChain (Move g files source) ∧
    let last := (s :: later).getLast (List.cons_ne_nil s later)
    IsQuiet files source last ∧ ¬ IsCurrent files source last

theorem exists_layout {files : Files} {clusters : List String}
    (h : clustersIn files = some clusters) :
    ∃ layout, Layout.read files twoPaths = .ok layout ∧ layout.clusters = clusters := by
  obtain ⟨layout, hread, hclusters⟩ := Option.map_eq_some_iff.mp h
  exact ⟨layout, ok_of_toOption hread, hclusters⟩

theorem not_current {s : Supervision} (hknown : s.tasks.registry.layout.clusters = ["a"])
    (hfound : clustersIn (files s.now) = some ["b"]) : ¬ IsCurrent files twoPaths s := by
  intro hcurrent
  obtain ⟨layout, hread, hclusters⟩ := exists_layout hfound
  rw [hcurrent layout hread, hclusters] at hknown
  exact absurd hknown (by decide)

def rotating : Nat → Files
  | 0 => ⟨[clusterFile "a"]⟩
  | _ + 1 => ⟨[clusterFile "b"]⟩

/-- The second path is a directory for a while. -/
def obscured : Nat → Files
  | 0 => ⟨[clusterFile "a"]⟩
  | 1 => ⟨[clusterFile "b", ("more/x", [])]⟩
  | _ + 2 => ⟨[clusterFile "b"]⟩

theorem clustersIn_b : clustersIn ⟨[clusterFile "b"]⟩ = some ["b"] := by
  decide +kernel

/-- What is written after the provider has read and before the watcher has looked. -/
theorem loses_rotating : Loses onDisk rotating twoPaths := by
  obtain ⟨registry, -, hknown, hopen, hbegins⟩ := exists_begins (rfl : rotating 0 = _)
  refine ⟨_, _, hbegins, .cons_cons (.passed _) (.cons_cons (move_first rfl) (.singleton _)),
    ⟨rfl, rfl, hopen, fun path _ => still_self _ _ path⟩, ?_⟩
  exact not_current hknown clustersIn_b

/-- The watcher has seen the files at moment 0, and now it is moment 1. -/
def atOne (files : Nat → Files) (registry : Registry) : Supervision :=
  { (atStart registry).seeing files .waiting 0 with now := 1 }

/-- A change is seen at moment 1. -/
theorem chain_atOne {files : Nat → Files} {registry : Registry} (hopen : registry.closed = false)
    (hchanged : ((Watcher.start twoPaths.paths).seeing (files 0).look .waiting 0).refreshed
      (files 1).look ≠ ((Watcher.start twoPaths.paths).seeing (files 0).look .waiting 0).files) :
    (atStart registry :: (atStart registry).seeing files .waiting 0 :: atOne files registry ::
      (atOne files registry).round onDisk files (files 1)).IsChain (Move onDisk files twoPaths) :=
  .cons_cons (move_first rfl) <| .cons_cons (.passed _) <|
    chain_round rfl hchanged hopen rfl rfl rfl

/-- The watcher has come to rest after the change. -/
def atRest (files : Nat → Files) (registry : Registry) : Supervision :=
  (atOne files registry).resting onDisk files (files 1)

theorem atRest_registry {files : Nat → Files} {registry : Registry}
    (hopen : registry.closed = false) (hsource : registry.source = twoPaths) :
    (atRest files registry).tasks.registry =
      registry.relayout (Layout.read (files 1) twoPaths) := by
  have htasks : (atRest files registry).tasks = _ :=
    rebuilt_tasks (g := onDisk) (s := atOne files registry) (t := files 1) hopen rfl rfl
  rw [htasks]
  exact hsource ▸ rfl

theorem clustersIn_directory : clustersIn (obscured 1) = none := by
  decide +kernel

theorem seen_obscured :
    let w := (Watcher.start twoPaths.paths).seeing (obscured 0).look .waiting 0
    w.refreshed (obscured 1).look ≠ w.files ∧
      (w.seeing (obscured 1).look .waiting 1).refreshed (obscured 2).look =
        (w.seeing (obscured 1).look .waiting 1).files := by
  decide +kernel

/-- What is written while another path cannot be read. -/
theorem loses_obscured : Loses onDisk obscured twoPaths := by
  obtain ⟨registry, hsource, hknown, hopen, hbegins⟩ := exists_begins (rfl : obscured 0 = _)
  -- The rebuild at moment 1 fails, because the second path cannot be read.
  have hregistry : (atRest obscured registry).tasks.registry = registry := by
    rw [atRest_registry hopen hsource]
    have hnone := clustersIn_directory
    unfold clustersIn at hnone
    cases hread : Layout.read (obscured 1) twoPaths with
    | error problem => rfl
    | ok layout => simp [hread, Except.toOption] at hnone
  let later : Supervision := { atRest obscured registry with now := 2 }
  have hlater : [later, later.woken, later.seeing obscured .waiting 0].IsChain
      (Move onDisk obscured twoPaths) :=
    .cons_cons (.of_eq (.woke later) rfl) <|
      .cons_cons (move_alike seen_obscured.2) (.singleton _)
  have hpassed : Move onDisk obscured twoPaths (atRest obscured registry) later := .passed _
  have hmoves := List.isChain_append.mpr ⟨chain_atOne hopen seen_obscured.1, hlater, by
    rintro _ ⟨⟩ _ ⟨⟩
    exact hpassed⟩
  refine ⟨_, _, hbegins, hmoves, ⟨rfl, rfl, ?_, fun path _ => still_self _ _ path⟩, ?_⟩
  · exact (congrArg Registry.closed hregistry).trans hopen
  · refine not_current ?_ clustersIn_b
    exact (congrArg (·.layout.clusters) hregistry).trans hknown

theorem legible_rotating (t : Nat) (path : String) (hp : path ∈ twoPaths.paths) :
    (rotating t).look path ≠ .unreadable := by
  have h : ∀ path ∈ twoPaths.paths, (rotating 0).look path ≠ .unreadable ∧
      (rotating 1).look path ≠ .unreadable := by
    decide +kernel
  cases t with
  | zero => exact (h path hp).1
  | succ t => exact (h path hp).2

theorem seen_rotating :
    let w := (Watcher.start twoPaths.paths).seeing (rotating 0).look .waiting 0
    w.refreshed (rotating 1).look ≠ w.files := by
  decide +kernel

/-- The watcher sees that the files have changed, and the registry gets to know the new cluster. -/
theorem current_after_rotation : ∃ registry : Registry,
    registry.layout.clusters = ["a"] ∧ Begins onDisk rotating twoPaths (atStart registry) ∧
      IsQuiet rotating twoPaths (atRest rotating registry) ∧
      (atRest rotating registry).tasks.registry.layout.clusters = ["b"] := by
  obtain ⟨registry, hsource, hknown, hopen, hbegins⟩ := exists_begins (rfl : rotating 0 = _)
  have hmoves := chain_atOne hopen seen_rotating
  have hsame : ∀ {s s' : Supervision}, s'.seen = s.seen → Tells rotating twoPaths s s' :=
    fun hseen => tells_of_seen hseen fun path hp => legible_rotating _ path hp
  -- Only the first check at moment 1 looks at other contents than the look before it.
  have hlook : Tells rotating twoPaths (atOne rotating registry).woken
      ((atOne rotating registry).seeing rotating .settling 0) := by
    refine fun path hp => ⟨legible_rotating _ path hp, fun heq t _ hle => ?_⟩
    have ht : t = 0 ∨ t = 1 := Nat.le_one_iff_eq_zero_or_eq_one.mp hle
    rcases ht with rfl | rfl
    · rfl
    · exact heq
  have htells : (atStart registry :: (atStart registry).seeing rotating .waiting 0 ::
      atOne rotating registry :: (atOne rotating registry).round onDisk rotating
        (rotating 1)).IsChain (Tells rotating twoPaths) :=
    .cons_cons (hsame rfl) <| .cons_cons (hsame rfl) <| .cons_cons (hsame rfl) <|
    .cons_cons hlook <| .cons_cons (hsame rfl) <| .cons_cons (hsame rfl) <|
    .cons_cons (hsame rfl) <| .cons_cons (hsame rfl) <| .cons_cons (hsame rfl) (.singleton _)
  have hquiet : IsQuiet rotating twoPaths (atRest rotating registry) := by
    refine ⟨rfl, rfl, ?_, fun path _ => still_self _ _ path⟩
    rw [atRest_registry hopen hsource]
    cases Layout.read (rotating 1) twoPaths <;> exact hopen
  have hcurrent := current_of_quiet hbegins hmoves htells (.inl (Nat.succ_ne_zero _)) hquiet
  obtain ⟨layout, hread, hclusters⟩ := exists_layout clustersIn_b
  exact ⟨registry, hknown, hbegins, hquiet, (congrArg _ (hcurrent layout hread)).trans hclusters⟩

end ClusterAccess.Supervision
