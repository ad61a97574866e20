import ClusterAccess.Proofs.Rereading
import ClusterAccess.Proofs.Watching

namespace ClusterAccess

/-- A kubeconfig provider over time: its registry with the tasks at it, and the watcher of its
files. The files may change at any moment, a check looks at every file at a moment of its own, and a
reading of the kubeconfig takes its time as well. -/
structure Supervision where
  tasks : Registry.Tasks
  watcher : Watcher
  /-- The rebuild that the watcher has called for and waits for. -/
  callback : Option Nat := none
  now : Nat
  /-- When the watcher's last check began. -/
  since : Nat
  /-- When the watcher last looked at a path; before its first look, when the provider began to
  read. -/
  seen : String → Nat

namespace Supervision

/-- A path looks alike from moment `a` to moment `b`. -/
def Still (files : Nat → Files) (a b : Nat) (path : String) : Prop :=
  ∀ t, a ≤ t → t ≤ b → (files t).look path = (files a).look path

/-- What can be found by reading from `a` to `b`. What a path that changes meanwhile is read as is
left open. -/
def Finds (files : Nat → Files) (a b : Nat) (source : Source) (found : Files) : Prop :=
  ∀ path ∈ source.paths, Still files a b path → found.look path = (files a).look path

variable {σ : Type} (g : Gateway σ) (files : Nat → Files) (source : Source)

/-- A provider has been made from what it read between `a` and `b`. -/
inductive Begins : Supervision → Prop where
  | opened {a b : Nat} {found : Files} {layout : Layout} {registry : Registry} {m : Manager}
      {t u : σ} (hab : a ≤ b) (hfound : Finds files a b source found)
      (hlayout : Layout.read found source = .ok layout)
      (hfirst : outcome ((Registry.ofLayout source layout).lookup g "") t =
        ((.ok m, registry), u)) :
      Begins {
        tasks := { registry }, watcher := Watcher.start source.paths
        now := b, since := b, seen := fun _ => a }

/-- All that can happen to it next. -/
inductive Move : Supervision → Supervision → Prop where
  | passed (s : Supervision) : Move s { s with now := s.now + 1 }
  | woke (s : Supervision) : Move s { s with watcher := s.watcher.step .wake }
  | rested (s : Supervision) : Move s { s with watcher := s.watcher.step .quiet }
  | noticed (s : Supervision) : Move s { s with watcher := s.watcher.step .notice }
  | checked {s : Supervision} (times : String → Nat) (later : Nat) (hlooks : s.watcher.looks)
      (htimes : ∀ path, s.now ≤ times path ∧ times path ≤ later) :
      Move s { s with
        watcher := s.watcher.step (.check fun path => (files (times path)).look path)
        now := later, since := s.now, seen := times }
  | called {s : Supervision} (hphase : s.watcher.phase = .calling) (hidle : s.callback = none)
      (t : σ) :
      Move s { s with
        tasks := (outcome (s.tasks.step g .rebuild) t).1
        callback := some s.tasks.tasks.length }
  | reread {s : Supervision} {i : Nat} (later : Nat) (t : σ) (hcallback : s.callback = some i)
      (hlater : s.now ≤ later)
      (hfound : Finds files s.now later source (outcome g.host t).1.files) :
      Move s { s with tasks := (outcome (s.tasks.step g (.turn i)) t).1, now := later }
  | returned {s : Supervision} {i : Nat} (hcallback : s.callback = some i)
      (hrebuilt : s.tasks.tasks[i]? = some .rebuilt) :
      Move s { s with watcher := s.watcher.step .returned, callback := none }
  | served {s : Supervision} {e : Registry.Tasks.Event σ} (he : e.Serves s.tasks) (t : σ) :
      Move s { s with tasks := (outcome (s.tasks.step g e) t).1 }
  | closed (s : Supervision) (t : σ) :
      Move s { s with
        tasks := (outcome (s.tasks.step g .close) t).1, watcher := s.watcher.step .close }

/-- What a watcher can tell by comparing what it sees with what it saw. It could read every file,
and a file that looks as before has looked so all the time. -/
def Tells (s s' : Supervision) : Prop :=
  ∀ path ∈ source.paths, (files (s'.seen path)).look path ≠ .unreadable ∧
    ((files (s'.seen path)).look path = (files (s.seen path)).look path →
      Still files (s.seen path) (s'.seen path) path)

/-- The watcher's first look finds the files as they were when the provider began to read. -/
def StartsAlike (s s' : Supervision) : Prop :=
  s.watcher.phase = .starting →
    ∀ path ∈ source.paths, Still files (s.seen path) (s'.seen path) path

/-- The layout is what was read of the files as the watcher saw them, unless they have changed
since. -/
def Reflects (s : Supervision) : Prop :=
  (∀ path ∈ source.paths, Still files (s.seen path) s.now path) →
    ∀ found : Files,
      (∀ path ∈ source.paths, found.look path = (files (s.seen path)).look path) →
      ∀ layout, Layout.read found source = .ok layout → s.tasks.registry.layout = layout

/-- The content that a look tells. -/
def told : FileState → Option Bytes
  | .readable content => some content
  | .missing | .unreadable => none

/-- The fingerprints of files seen at given moments. -/
def prints (times : String → Nat) : List Fingerprint :=
  source.paths.map fun path => ⟨path, told ((files (times path)).look path)⟩

/-- What every move preserves. A rebuild that the watcher waits for may still have to read; in all
other phases in which nothing is pending the registry reflects what the watcher has seen. This
needs `trusted` until the first callback, since nothing makes the watcher's first look agree with
what the provider has read before. -/
structure Tracks (trusted : Prop) (s : Supervision) : Prop where
  origin : s.tasks.registry.source = source
  paths : s.watcher.files.map (·.path) = source.paths
  seen_le : ∀ path, s.seen path ≤ s.now
  since_le : s.watcher.phase ≠ .starting → ∀ path, s.since ≤ s.seen path
  printed : s.watcher.phase ≠ .starting → s.watcher.files = prints files source s.seen
  legible : s.watcher.phase ≠ .starting →
    ∀ path ∈ source.paths, (files (s.seen path)).look path ≠ .unreadable
  calling : s.callback ≠ none → s.watcher.phase = .calling
  fresh : s.watcher.phase = .starting → s.watcher.callbacks = 0
  starting : s.watcher.phase = .starting → Reflects files source s
  waiting : s.watcher.phase = .waiting ∨ s.watcher.phase = .woken →
    s.tasks.registry.closed = false → s.watcher.callbacks ≠ 0 ∨ trusted → Reflects files source s
  called : ∀ i, s.callback = some i → s.tasks.tasks[i]? = some .rebuilding ∨
    s.tasks.tasks[i]? = some .rebuilt ∧
      (s.tasks.registry.closed = false → Reflects files source s)

variable {g files source} {trusted : Prop} {s s' : Supervision}

theorem Still.mono {a b a' b' : Nat} {path : String} (h : Still files a b path) (ha : a ≤ a')
    (hb : b' ≤ b) : Still files a' b' path := by
  intro t hat htb
  have hleft := h a' ha (Nat.le_trans (Nat.le_trans hat htb) hb)
  exact (h t (Nat.le_trans ha hat) (Nat.le_trans htb hb)).trans hleft.symm

theorem still_self (files : Nat → Files) (a : Nat) (path : String) : Still files a a path :=
  fun _ hle hge => by rw [Nat.le_antisymm hge hle]

/-- As time goes by, less is asked of the layout. -/
theorem Reflects.later (h : Reflects files source s)
    (hlayout : s'.tasks.registry.layout = s.tasks.registry.layout) (hseen : s'.seen = s.seen)
    (hnow : s.now ≤ s'.now) : Reflects files source s' := by
  intro hstill found hfound layout hread
  rw [hseen] at hstill hfound
  rw [hlayout]
  exact h (fun path hp => (hstill path hp).mono (Nat.le_refl _) hnow) found hfound layout hread

/-- What was known of the files stays known when the next look finds them as they have been since
the last one. -/
theorem Reflects.looked (h : Reflects files source s)
    (hlayout : s'.tasks.registry.layout = s.tasks.registry.layout)
    (hseen : ∀ path, s.seen path ≤ s.now ∧ s.now ≤ s'.seen path)
    (hstill : ∀ path ∈ source.paths, Still files (s.seen path) (s'.seen path) path) :
    Reflects files source s' := by
  intro _ found hfound layout hread
  rw [hlayout]
  refine h (fun path hp => (hstill path hp).mono (Nat.le_refl _) (hseen path).2) found
    (fun path hp => ?_) layout hread
  have hle := Nat.le_trans (hseen path).1 (hseen path).2
  exact (hfound path hp).trans (hstill path hp _ hle (Nat.le_refl _))

theorem tracks_of_begins (h : Begins g files source s) : Tracks files source trusted s := by
  cases h with
  | @opened a b found layout registry m t u hab hfound hlayout hfirst =>
    have hspares := Registry.lookup_spares (g := g) (Registry.ofLayout source layout) "" t
    rw [hfirst] at hspares
    refine ⟨hspares.1, ?_, fun _ => hab, fun h => absurd rfl h, fun h => absurd rfl h,
      fun h => absurd rfl h, fun h => absurd rfl h, fun _ => rfl, ?_, ?_, fun i h => by cases h⟩
    · simp [Watcher.start, Function.comp_def]
    · intro _ hstill other hother l hl
      -- What is still since the reading began has been read as it is.
      have halike : ∀ path ∈ source.paths, other.look path = found.look path := fun path hp =>
        (hother path hp).trans (hfound path hp (hstill path hp)).symm
      rw [Layout.read_congr halike, hlayout] at hl
      exact hspares.2.trans (Except.ok.inj hl)
    · rintro (h | h) <;> cases h

theorem refreshed_eq {w : Watcher} {look : String → FileState}
    (hpaths : w.files.map (·.path) = source.paths)
    (hlegible : ∀ path ∈ source.paths, look path ≠ .unreadable) :
    w.refreshed look = source.paths.map fun path => ⟨path, told (look path)⟩ := by
  rw [← hpaths] at hlegible ⊢
  rw [Watcher.refreshed, List.map_map]
  refine List.map_congr_left fun f hf => ?_
  have hf := hlegible f.path (List.mem_map_of_mem hf)
  cases hlook : look f.path with
  | missing => simp [Fingerprint.refresh, told, hlook]
  | unreadable => exact absurd hlook hf
  | readable content => simp [Fingerprint.refresh, told, hlook]

theorem told_inj {a b : FileState} (ha : a ≠ .unreadable) (hb : b ≠ .unreadable)
    (h : told a = told b) : a = b := by
  cases a <;> cases b <;> simp_all [told]

/-- Equal fingerprints mean equal looks. -/
theorem look_of_prints {times times' : String → Nat}
    (h : prints files source times = prints files source times')
    (hlegible : ∀ path ∈ source.paths, (files (times path)).look path ≠ .unreadable)
    (hlegible' : ∀ path ∈ source.paths, (files (times' path)).look path ≠ .unreadable)
    (path : String) (hp : path ∈ source.paths) :
    (files (times path)).look path = (files (times' path)).look path := by
  have hprint := List.map_inj_left.mp h path hp
  exact told_inj (hlegible path hp) (hlegible' path hp) (congrArg Fingerprint.last hprint)

/-- What a check makes of a watcher that has seen `files`. -/
inductive Looked (w : Watcher) (files : List Fingerprint) : Watcher → Prop where
  | first (hphase : w.phase = .starting) : Looked w files { w with files, phase := .waiting }
  | alike (hphase : w.phase = .woken) (hfiles : files = w.files) :
      Looked w files { w with files, phase := .waiting }
  | changed (hphase : w.phase = .woken ∨ w.phase = .settled) :
      Looked w files { w with files, phase := .settling }
  | settled (hphase : w.phase = .settled) :
      Looked w files { w with files, phase := .calling, callbacks := w.callbacks + 1 }

theorem looked_check {w : Watcher} (hlooks : w.looks) (look : String → FileState) :
    Looked w (w.refreshed look) (w.step (.check look)) := by
  have hshifts := w.shifts_step (.check look)
  generalize w.step (.check look) = after at hshifts
  cases hshifts with
  | stayed hidle =>
    have hnever := hidle look rfl
    simp [hlooks] at hnever
  | noted _ hphase => exact .first hphase
  | alike hphase hsame =>
    have hfiles := Watcher.refreshed_eq_iff.mpr hsame
    rw [hfiles]
    exact .alike hphase rfl
  | differed hphase => exact .changed hphase
  | called hphase hsame =>
    have hfiles := Watcher.refreshed_eq_iff.mpr hsame
    rw [hfiles]
    exact .settled hphase

theorem Tracks.idle (h : Tracks files source trusted s) (hphase : s.watcher.phase ≠ .calling) :
    s.callback = none := by
  cases hcallback : s.callback with
  | none => rfl
  | some i => exact absurd (h.calling (by simp [hcallback])) hphase

/-- The files have been seen at new moments, and what the registry reflects of them is known. -/
theorem Tracks.seeing (h : Tracks files source trusted s) {times : String → Nat} {later : Nat}
    (hidle : s.callback = none) (htimes : ∀ path, s.now ≤ times path ∧ times path ≤ later)
    (hlegible : ∀ path ∈ source.paths, (files (times path)).look path ≠ .unreadable)
    {w : Watcher} (hfiles : w.files = prints files source times) (hphase : w.phase ≠ .starting)
    (hwaiting : w.phase = .waiting ∨ w.phase = .woken → s.tasks.registry.closed = false →
      w.callbacks ≠ 0 ∨ trusted → Reflects files source
        { s with watcher := w, now := later, since := s.now, seen := times }) :
    Tracks files source trusted
      { s with watcher := w, now := later, since := s.now, seen := times } where
  origin := h.origin
  paths := by simp [hfiles, Supervision.prints, Function.comp_def]
  seen_le path := (htimes path).2
  since_le _ path := (htimes path).1
  printed _ := hfiles
  legible _ := hlegible
  calling hcallback := absurd hidle hcallback
  fresh hstarting := absurd hstarting hphase
  starting hstarting := absurd hstarting hphase
  waiting := hwaiting
  called i hcallback := by simp [hidle] at hcallback

/-- A check. The first one must find the files as the provider has read them, if that is to be
relied on. -/
theorem Tracks.checked (h : Tracks files source trusted s) {times : String → Nat} {later : Nat}
    (hlooks : s.watcher.looks) (htimes : ∀ path, s.now ≤ times path ∧ times path ≤ later)
    {w : Watcher} (hw : w = s.watcher.step (.check fun path => (files (times path)).look path))
    (htells : Tells files source s
      { s with watcher := w, now := later, since := s.now, seen := times })
    (hfirst : trusted → StartsAlike files source s
      { s with watcher := w, now := later, since := s.now, seen := times }) :
    Tracks files source trusted
      { s with watcher := w, now := later, since := s.now, seen := times } := by
  have hlegible : ∀ path ∈ source.paths, (files (times path)).look path ≠ .unreadable :=
    fun path hp => (htells path hp).1
  have hseen : ∀ path, s.seen path ≤ s.now ∧ s.now ≤ times path := fun path =>
    ⟨h.seen_le path, (htimes path).1⟩
  have hidle : s.callback = none :=
    h.idle fun hcalling => by simp [Watcher.looks, hcalling] at hlooks
  have hlooked := looked_check hlooks fun path => (files (times path)).look path
  rw [refreshed_eq h.paths hlegible, ← hw] at hlooked
  clear hw
  cases hlooked with
  | first hphase =>
    refine h.seeing hidle htimes hlegible rfl (by simp) fun _ _ htrusted => ?_
    -- There have been no callbacks yet, so the first look has to be trusted.
    have htrusted := htrusted.resolve_left (absurd (h.fresh hphase) ·)
    exact (h.starting hphase).looked rfl hseen (hfirst htrusted hphase)
  | alike hphase hfiles =>
    have hstarted : s.watcher.phase ≠ .starting := by simp [hphase]
    -- The same fingerprints mean the same looks, and so no change in between.
    have hlook := look_of_prints (hfiles.trans (h.printed hstarted)) hlegible (h.legible hstarted)
    refine h.seeing hidle htimes hlegible rfl (by simp) fun _ hopen htrusted => ?_
    exact (h.waiting (.inr hphase) hopen htrusted).looked rfl hseen fun path hp =>
      (htells path hp).2 (hlook path hp)
  | changed hphase => exact h.seeing hidle htimes hlegible rfl (by simp) (by simp)
  | settled hphase => exact h.seeing hidle htimes hlegible rfl (by simp) (by simp)

/-- The watcher goes on to a phase without having looked. -/
theorem Tracks.rephase (h : Tracks files source trusted s) {phase : Watcher.Phase}
    (hold : s.watcher.phase ≠ .starting ∧ s.watcher.phase ≠ .calling) (hnew : phase ≠ .starting)
    (hwaiting : phase = .waiting ∨ phase = .woken →
      s.watcher.phase = .waiting ∨ s.watcher.phase = .woken) :
    Tracks files source trusted { s with watcher := { s.watcher with phase } } where
  origin := h.origin
  paths := h.paths
  seen_le := h.seen_le
  since_le _ := h.since_le hold.1
  printed _ := h.printed hold.1
  legible _ := h.legible hold.1
  calling hcallback := absurd (h.idle hold.2) hcallback
  fresh hstarting := absurd hstarting hnew
  starting hstarting := absurd hstarting hnew
  waiting hphase := h.waiting (hwaiting hphase)
  called := h.called

/-- A rebuild has read the files, and the watcher has seen them before. -/
theorem reflects_relayout (h : Tracks files source trusted s) {later : Nat} {found : Files}
    (hlater : s.now ≤ later) (hfound : Finds files s.now later source found)
    (hlayout : s'.tasks.registry.layout =
      (s.tasks.registry.relayout (Layout.read found s.tasks.registry.source)).layout)
    (hseen : s'.seen = s.seen) (hnow : s'.now = later) : Reflects files source s' := by
  intro hstill other hother layout hread
  rw [hseen] at hstill hother
  rw [hnow] at hstill
  have halike : ∀ path ∈ source.paths, other.look path = found.look path := by
    intro path hp
    -- The watcher saw the file before the reading began, and it is still until after it.
    have hread := hfound path hp ((hstill path hp).mono (h.seen_le path) (Nat.le_refl _))
    have hnow := hstill path hp s.now (h.seen_le path) hlater
    exact (hother path hp).trans (hread.trans hnow).symm
  rw [Layout.read_congr halike] at hread
  rw [hlayout, h.origin, hread]
  rfl

theorem Tracks.served (h : Tracks files source trusted s) {tasks : Registry.Tasks}
    (hspares : s.tasks.Spares tasks) : Tracks files source trusted { s with tasks } where
  origin := hspares.source.trans h.origin
  paths := h.paths
  seen_le := h.seen_le
  since_le := h.since_le
  printed := h.printed
  legible := h.legible
  calling := h.calling
  fresh := h.fresh
  starting hphase := (h.starting hphase).later hspares.layout rfl (Nat.le_refl _)
  waiting hphase hopen htrusted :=
    (h.waiting hphase (hspares.closed ▸ hopen) htrusted).later hspares.layout rfl (Nat.le_refl _)
  called i hcallback := by
    rcases h.called i hcallback with hi | ⟨hi, hreflects⟩
    · exact .inl (hspares.rebuilds i _ hi rfl)
    · exact .inr ⟨hspares.rebuilds i _ hi rfl, fun hopen =>
        (hreflects (hspares.closed ▸ hopen)).later hspares.layout rfl (Nat.le_refl _)⟩

theorem Tracks.call (h : Tracks files source trusted s) (hphase : s.watcher.phase = .calling)
    (t : σ) :
    Tracks files source trusted { s with
      tasks := (outcome (s.tasks.step g .rebuild) t).1
      callback := some s.tasks.tasks.length } := by
  rw [Registry.Tasks.step_rebuild]
  refine { h with
    calling := fun _ => hphase
    starting := fun hstarting => absurd (hphase.symm.trans hstarting) (by simp)
    waiting := fun hwaiting => by simp [hphase] at hwaiting
    called := fun i hi => ?_ }
  obtain rfl := Option.some.inj hi
  cases hclosed : s.tasks.registry.closed with
  | false => exact .inl (by simp [Registry.Tasks.add])
  | true =>
    refine .inr ⟨by simp [Registry.Tasks.add], fun hopen => ?_⟩
    exact absurd (hclosed.symm.trans hopen) (by simp)

theorem Tracks.passed (h : Tracks files source trusted s) {later : Nat} (hlater : s.now ≤ later) :
    Tracks files source trusted { s with now := later } :=
  { h with
    seen_le := fun path => Nat.le_trans (h.seen_le path) hlater
    starting := fun hphase => (h.starting hphase).later rfl rfl hlater
    waiting := fun hphase hopen htrusted =>
      (h.waiting hphase hopen htrusted).later rfl rfl hlater
    called := fun i hi => (h.called i hi).imp_right fun hdone =>
      ⟨hdone.1, fun hopen => (hdone.2 hopen).later rfl rfl hlater⟩ }

theorem Tracks.reread (h : Tracks files source trusted s) {i later : Nat} {t : σ}
    (hcallback : s.callback = some i) (hlater : s.now ≤ later)
    (hfound : Finds files s.now later source (outcome g.host t).1.files) :
    Tracks files source trusted
      { s with tasks := (outcome (s.tasks.step g (.turn i)) t).1, now := later } := by
  have hphase : s.watcher.phase = .calling := h.calling (by simp [hcallback])
  rcases h.called i hcallback with hi | ⟨hi, -⟩
  · rw [Registry.Tasks.step_turn hi]
    split
    -- A lookup is building, and the rebuild has to wait.
    · exact h.passed hlater
    · refine { h.passed hlater with
        origin := ?_
        starting := fun hstarting => absurd (hphase.symm.trans hstarting) (by simp)
        waiting := fun hwaiting => by simp [hphase] at hwaiting
        called := fun j hj => ?_ }
      · rw [← h.origin]
        exact Registry.source_relayout _ _
      · obtain rfl : i = j := Option.some.inj (hcallback.symm.trans hj)
        obtain ⟨hlt, -⟩ := List.getElem?_eq_some_iff.mp hi
        refine .inr ⟨?_, fun _ => reflects_relayout h hlater hfound rfl rfl rfl⟩
        exact List.getElem?_set_self hlt
  -- It has had its turn before.
  · have hserves : Registry.Tasks.Event.Serves s.tasks (.turn i : Registry.Tasks.Event σ) := by
      simp [Registry.Tasks.Event.Serves, hi]
    exact (h.served (Registry.Tasks.step_spares s.tasks hserves t)).passed hlater

theorem Tracks.returned (h : Tracks files source trusted s) {i : Nat}
    (hcallback : s.callback = some i) (hrebuilt : s.tasks.tasks[i]? = some .rebuilt) :
    Tracks files source trusted
      { s with watcher := s.watcher.step .returned, callback := none } := by
  have hphase : s.watcher.phase = .calling := h.calling (by simp [hcallback])
  have hdone : s.tasks.registry.closed = false → Reflects files source s := by
    rcases h.called i hcallback with hi | ⟨-, hreflects⟩
    · cases hi.symm.trans hrebuilt
    · exact hreflects
  have hstarted : s.watcher.phase ≠ .starting := by simp [hphase]
  simp only [Watcher.step, hphase, ↓reduceIte]
  exact { h with
    since_le := fun _ => h.since_le hstarted
    printed := fun _ => h.printed hstarted
    legible := fun _ => h.legible hstarted
    calling := fun hnone => absurd rfl hnone
    fresh := fun hstarting => absurd hstarting (by simp)
    starting := fun hstarting => absurd hstarting (by simp)
    waiting := fun _ hopen _ => (hdone hopen).later rfl rfl (Nat.le_refl _)
    called := fun j hj => absurd hj (by simp) }

theorem Tracks.close (h : Tracks files source trusted s) (t : σ) :
    Tracks files source trusted { s with
      tasks := (outcome (s.tasks.step g .close) t).1, watcher := s.watcher.step .close } := by
  have htasks : (outcome (s.tasks.step g .close) t).1 =
      { s.tasks with registry := { s.tasks.registry with closed := true } } := by
    simp only [Registry.Tasks.step, outcome_bind, outcome_pure, Registry.close_eq]
  rw [htasks]
  exact { h with
    starting := fun hphase => (h.starting hphase).later rfl rfl (Nat.le_refl _)
    waiting := fun _ hopen => absurd hopen (by simp)
    called := fun i hi => (h.called i hi).imp_right fun hdone =>
      ⟨hdone.1, fun hopen => absurd hopen (by simp)⟩ }

/-- A move without a look tells nothing new. -/
theorem tells_of_seen {s s' : Supervision} (hseen : s'.seen = s.seen)
    (hlegible : ∀ path ∈ source.paths, (files (s.seen path)).look path ≠ .unreadable) :
    Tells files source s s' := by
  intro path hp
  rw [hseen]
  exact ⟨hlegible path hp, fun _ => still_self files _ path⟩

/-- What a move preserves, when the watcher tells what there is to tell. -/
theorem Tracks.move (h : Tracks files source trusted s) (hmove : Move g files source s s')
    (htells : Tells files source s s')
    (hfirst : trusted → StartsAlike files source s s') :
    Tracks files source trusted s' := by
  cases hmove with
  | passed => exact h.passed (Nat.le_succ _)
  | woke =>
    simp only [Watcher.step]
    split
    · rename_i hphase
      exact h.rephase (by simp [hphase]) (by simp) fun _ => .inl hphase
    · exact h
  | rested =>
    simp only [Watcher.step]
    split
    · rename_i hphase
      exact h.rephase (by simp [hphase]) (by simp) (by simp)
    · exact h
  | noticed =>
    simp only [Watcher.step]
    split
    · rename_i hnotice
      simp only [Bool.and_eq_true, Bool.or_eq_true, decide_eq_true_eq] at hnotice
      refine h.rephase ?_ (by simp) (by simp)
      rcases hnotice.2 with hphase | hphase <;> simp [hphase]
    · exact h
  | checked times later hlooks htimes =>
    exact h.checked hlooks htimes rfl htells hfirst
  | called hphase hidle t => exact h.call hphase t
  | reread later t hcallback hlater hfound => exact h.reread hcallback hlater hfound
  | returned hcallback hrebuilt => exact h.returned hcallback hrebuilt
  | served he t => exact h.served (s.tasks.step_spares he t)
  | closed t => exact h.close t

end Supervision

end ClusterAccess
