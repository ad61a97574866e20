import ClusterAccess.Proofs.Courses
import ClusterAccess.Proofs.Watching

namespace ClusterAccess.Watcher

/-- The watcher of some files after the first `k` events. -/
def after (paths : List String) (events : List Event) (k : Nat) : Watcher :=
  (start paths).run (events.take k)

/-- With event `k` the watcher checks its files. -/
structure Checks (paths : List String) (events : List Event) (k : Nat)
    (look : String → FileState) : Prop where
  event : events[k]? = some (.check look)
  due : (after paths events k).looks = true

/-- Check `k` sees a change. The first check has nothing to compare with. -/
def Changed (paths : List String) (events : List Event) (k : Nat) : Prop :=
  ∃ look, Checks paths events k look ∧ (after paths events k).phase ≠ .starting ∧
    ∃ f ∈ (after paths events k).files, f.Differs (look f.path)

/-- The quiet time after a change ends with event `k`. -/
structure Rests (paths : List String) (events : List Event) (k : Nat) : Prop where
  event : events[k]? = some .quiet
  due : (after paths events k).phase = .settling

/-- A callback starts with event `k`. -/
def Calls (paths : List String) (events : List Event) (k : Nat) : Prop :=
  (after paths events (k + 1)).callbacks ≠ (after paths events k).callbacks

/-- From event `d` until before event `c` every check sees a change, and no callback starts. -/
def Burst (paths : List String) (events : List Event) (d c : Nat) : Prop :=
  ∀ m, d ≤ m → m < c → ¬ Calls paths events m ∧
    ∀ look, Checks paths events m look → Changed paths events m

/-- No check between event `d` and event `c`. -/
def Unchecked (paths : List String) (events : List Event) (d c : Nat) : Prop :=
  ∀ m, d < m → m < c → ∀ look, ¬ Checks paths events m look

variable {paths : List String} {events : List Event}

/-- With event `k` the watcher makes one shift, or the run is over. -/
theorem shifts_after (paths : List String) (events : List Event) (k : Nat) :
    (∃ e, events[k]? = some e ∧ Shifts (after paths events k) e (after paths events (k + 1))) ∨
      events[k]? = none ∧ after paths events (k + 1) = after paths events k := by
  cases he : events[k]? with
  | none => exact .inr ⟨rfl, course_succ_of_none he⟩
  | some e =>
    have hsucc : after paths events (k + 1) = (after paths events k).step e := course_succ he
    exact .inl ⟨e, rfl, hsucc ▸ shifts_step _ e⟩

theorem Checks.shifts {k : Nat} {look : String → FileState} (h : Checks paths events k look) :
    Shifts (after paths events k) (.check look) (after paths events (k + 1)) := by
  rcases shifts_after paths events k with ⟨e, he, hshifts⟩ | ⟨he, -⟩
  · cases he.symm.trans h.event
    exact hshifts
  · cases he.symm.trans h.event

/-- A check is one look at the files. -/
theorem Checks.look_eq {k : Nat} {look look' : String → FileState}
    (h : Checks paths events k look) (h' : Checks paths events k look') : look = look' := by
  cases h.event.symm.trans h'.event
  rfl

theorem not_checks {k : Nat} (h : ∀ look, events[k]? = some (.check look) →
    (after paths events k).looks = false) (look : String → FileState) :
    ¬ Checks paths events k look :=
  fun hc => Bool.false_ne_true ((h look hc.event).symm.trans hc.due)

theorem not_checks_of_event {k : Nat} {e : Event} (he : events[k]? = some e)
    (hne : ∀ look, e ≠ .check look) (look : String → FileState) :
    ¬ Checks paths events k look :=
  fun hc => hne look (Option.some.inj (he.symm.trans hc.event))

theorem not_checks_of_none {k : Nat} (he : events[k]? = none) (look : String → FileState) :
    ¬ Checks paths events k look := by
  intro hc
  cases he.symm.trans hc.event

/-- A callback starts with a check that sees no change, at the end of the quiet time. -/
theorem Calls.checks {k : Nat} (h : Calls paths events k) :
    (after paths events k).phase = .settled ∧
    (after paths events (k + 1)).phase = .calling ∧
    (after paths events (k + 1)).callbacks = (after paths events k).callbacks + 1 ∧
    ∃ look, Checks paths events k look ∧
      ∀ f ∈ (after paths events k).files, ¬ f.Differs (look f.path) := by
  unfold Calls at h
  rcases shifts_after paths events k with ⟨e, he, hshifts⟩ | ⟨-, hsame⟩
  · generalize after paths events (k + 1) = w at h hshifts ⊢
    cases hshifts with
    | called hp hsame => exact ⟨hp, rfl, rfl, _, ⟨he, looks_iff.mpr (.inr (.inr hp))⟩, hsame⟩
    | _ => exact absurd rfl h
  · exact absurd (congrArg callbacks hsame) h

theorem Changed.not_calls {k : Nat} (h : Changed paths events k) : ¬ Calls paths events k := by
  intro hc
  obtain ⟨look, hcheck, -, f, hf, hdiffers⟩ := h
  obtain ⟨-, -, -, look', hcheck', hsame⟩ := hc.checks
  exact hsame f hf (hcheck.look_eq hcheck' ▸ hdiffers)

theorem Changed.phase {k : Nat} (h : Changed paths events k) :
    (after paths events (k + 1)).phase = .settling := by
  obtain ⟨look, hcheck, hstarted, f, hf, hdiffers⟩ := h
  have hshifts := hcheck.shifts
  generalize after paths events (k + 1) = w at hshifts ⊢
  cases hshifts with
  | stayed he => simp [hcheck.due] at he
  | noted look hp => exact absurd hp hstarted
  | alike hp hsame => exact absurd hdiffers (hsame f hf)
  | differed hp hf hdiffers => rfl
  | called hp hsame => exact absurd hdiffers (hsame f hf)

/-- What the phase after `k` events tells of the events before. -/
def Tells (paths : List String) (events : List Event) (k : Nat) : Phase → Prop
  | .settling => ∃ d, d < k ∧ Changed paths events d ∧ Unchecked paths events d k
  | .settled => ∃ d q, d < q ∧ q < k ∧ Changed paths events d ∧ Rests paths events q ∧
      Unchecked paths events d k
  | .stopped => ∃ j, j < k ∧ events[j]? = some .close
  | .starting | .waiting | .woken | .calling => True

theorem Unchecked.succ {d k : Nat} (h : Unchecked paths events d k)
    (hk : ∀ look, ¬ Checks paths events k look) : Unchecked paths events d (k + 1) := by
  intro m hdm hmk
  rcases Nat.lt_or_eq_of_le (Nat.le_of_lt_succ hmk) with hmk | rfl
  · exact h m hdm hmk
  · exact hk

theorem Tells.succ {k : Nat} {p : Phase} (h : Tells paths events k p)
    (hk : ∀ look, ¬ Checks paths events k look) : Tells paths events (k + 1) p := by
  cases p with
  | settling =>
    obtain ⟨d, hd, hchanged, hun⟩ := h
    exact ⟨d, Nat.lt_succ_of_lt hd, hchanged, hun.succ hk⟩
  | settled =>
    obtain ⟨d, q, hdq, hq, hchanged, hrests, hun⟩ := h
    exact ⟨d, q, hdq, Nat.lt_succ_of_lt hq, hchanged, hrests, hun.succ hk⟩
  | stopped =>
    obtain ⟨j, hj, hclose⟩ := h
    exact ⟨j, Nat.lt_succ_of_lt hj, hclose⟩
  | starting | waiting | woken | calling => trivial

/-- What the state after `k` events tells of the events before. -/
structure Recalls (paths : List String) (events : List Event) (k : Nat) (w : Watcher) : Prop where
  phase : Tells paths events k w.phase
  closed : w.closed = true → ∃ j, j < k ∧ events[j]? = some .close

theorem Recalls.succ {k : Nat} {w : Watcher} (h : Recalls paths events k w)
    (hk : ∀ look, ¬ Checks paths events k look) : Recalls paths events (k + 1) w where
  phase := h.phase.succ hk
  closed hc := by
    obtain ⟨j, hj, hclose⟩ := h.closed hc
    exact ⟨j, Nat.lt_succ_of_lt hj, hclose⟩

theorem recalls (paths : List String) (events : List Event) (k : Nat) :
    Recalls paths events k (after paths events k) := by
  induction k with
  | zero => exact ⟨trivial, fun hc => by cases hc⟩
  | succ k ih =>
    rcases shifts_after paths events k with ⟨e, he, hshifts⟩ | ⟨he, hsame⟩
    · have hlater (hc : (after paths events k).closed = true) :
          ∃ j, j < k + 1 ∧ events[j]? = some .close := by
        obtain ⟨j, hj, hclose⟩ := ih.closed hc
        exact ⟨j, Nat.lt_succ_of_lt hj, hclose⟩
      generalize after paths events (k + 1) = w at hshifts ⊢
      cases hshifts with
      | stayed hidle =>
        exact ih.succ (not_checks fun look hc => hidle look (Option.some.inj (he.symm.trans hc)))
      | differed hp hf hdiffers =>
        have hdue := looks_iff.mpr (.inr hp)
        have hstarted : (after paths events k).phase ≠ .starting := by
          rcases hp with hp | hp <;> simp [hp]
        refine ⟨⟨k, Nat.lt_succ_self k, ⟨_, ⟨he, hdue⟩, hstarted, _, hf, hdiffers⟩, ?_⟩, hlater⟩
        intro m hkm hmk
        omega
      | rested hp =>
        obtain ⟨d, hd, hchanged, hun⟩ : Tells paths events k .settling := hp ▸ ih.phase
        exact ⟨⟨d, k, hd, Nat.lt_succ_self k, hchanged, ⟨he, hp⟩,
          hun.succ (not_checks_of_event he (by simp))⟩, hlater⟩
      | stopped hc hp => exact ⟨hlater hc, hlater⟩
      | closed =>
        exact ⟨ih.phase.succ (not_checks_of_event he (by simp)), fun _ => ⟨k, Nat.lt_succ_self k, he⟩⟩
      | woken | noted | alike | called | returned => exact ⟨trivial, hlater⟩
    · exact hsame ▸ ih.succ (not_checks_of_none he)

theorem Burst.succ {d k : Nat} (h : Burst paths events d k) (hcalls : ¬ Calls paths events k)
    (hchanged : ∀ look, Checks paths events k look → Changed paths events k) :
    Burst paths events d (k + 1) := by
  intro m hdm hmk
  rcases Nat.lt_or_eq_of_le (Nat.le_of_lt_succ hmk) with hmk | rfl
  · exact h m hdm hmk
  · exact ⟨hcalls, hchanged⟩

/-- The callback of a change has started, or the burst goes on. -/
theorem Changed.called_or {d k : Nat} (h : Changed paths events d) (hdk : d < k) :
    (∃ c, d < c ∧ c < k ∧ Calls paths events c ∧ Burst paths events d c) ∨
      Burst paths events d k ∧ ((after paths events k).phase = .settling ∨
        (after paths events k).phase = .settled ∨ (after paths events k).phase = .stopped) := by
  induction hdk with
  | refl =>
    refine .inr ⟨fun m hdm hmd => ?_, .inl h.phase⟩
    obtain rfl : m = d := by omega
    exact ⟨h.not_calls, fun _ _ => h⟩
  | @step k hdk ih =>
    rcases ih with ⟨c, hdc, hck, hcalls, hburst⟩ | ⟨hburst, hphase⟩
    · exact .inl ⟨c, hdc, Nat.lt_succ_of_lt hck, hcalls, hburst⟩
    rcases shifts_after paths events k with ⟨e, he, hshifts⟩ | ⟨he, hsame⟩
    · have hquiet (hsame : (after paths events (k + 1)).callbacks = (after paths events k).callbacks)
          (hn : ∀ look, ¬ Checks paths events k look) : Burst paths events d (k + 1) :=
        hburst.succ (· hsame) fun look hc => absurd hc (hn look)
      generalize hw : after paths events (k + 1) = w at hshifts hquiet ⊢
      cases hshifts with
      | stayed hidle =>
        have hn := not_checks fun look hc => hidle look (Option.some.inj (he.symm.trans hc))
        exact .inr ⟨hquiet rfl hn, hphase⟩
      | rested hp =>
        exact .inr ⟨hquiet rfl (not_checks_of_event he (by simp)), .inr (.inl rfl)⟩
      | stopped hc hp =>
        exact .inr ⟨hquiet rfl (not_checks_of_event he (by simp)), .inr (.inr rfl)⟩
      | closed => exact .inr ⟨hquiet rfl (not_checks_of_event he (by simp)), hphase⟩
      | differed hp hf hdiffers =>
        have hstarted : (after paths events k).phase ≠ .starting := by
          rcases hp with hp | hp <;> simp [hp]
        have hchanged : Changed paths events k :=
          ⟨_, ⟨he, looks_iff.mpr (.inr hp)⟩, hstarted, _, hf, hdiffers⟩
        exact .inr ⟨hburst.succ hchanged.not_calls fun _ _ => hchanged, .inl rfl⟩
      | called hp hsame =>
        refine .inl ⟨k, hdk, Nat.lt_succ_self k, ?_, hburst⟩
        rw [Calls, hw]
        exact Nat.succ_ne_self _
      | woken hp | noted look hp | alike hp hsame | returned hp => simp [hp] at hphase
    · exact .inr ⟨hburst.succ (· (congrArg callbacks hsame)) fun look hc =>
        absurd hc (not_checks_of_none he look), hsame ▸ hphase⟩

/-- A check at the end of the quiet time that sees no change calls back. -/
theorem Checks.calls {k : Nat} {look : String → FileState} (h : Checks paths events k look)
    (hphase : (after paths events k).phase = .settled)
    (hsame : ∀ f ∈ (after paths events k).files, ¬ f.Differs (look f.path)) :
    Calls paths events k := by
  have hshifts := h.shifts
  rw [Calls]
  generalize after paths events (k + 1) = w at hshifts ⊢
  cases hshifts with
  | called => exact Nat.succ_ne_self _
  | stayed hidle => exact absurd ((hidle look rfl).symm.trans h.due) Bool.false_ne_true
  | noted look hp => simp [hphase] at hp
  | alike hp => simp [hphase] at hp
  | differed hp hf hdiffers => exact absurd hdiffers (hsame _ hf)

/-- Nothing happens to a callback until it returns. -/
theorem Calls.lasts {c k : Nat} (h : Calls paths events c) (hck : c < k)
    (hruns : ∀ r, c < r → r < k → events[r]? ≠ some .returned) :
    (after paths events k).phase = .calling := by
  induction hck with
  | refl => exact h.checks.2.1
  | @step k hck ih =>
    have hphase := ih fun r hcr hrk => hruns r hcr (Nat.lt_succ_of_lt hrk)
    rcases shifts_after paths events k with ⟨e, he, hshifts⟩ | ⟨he, hsame⟩
    · generalize after paths events (k + 1) = w at hshifts ⊢
      cases hshifts with
      | stayed => exact hphase
      | closed => exact hphase
      | returned => exact absurd he (hruns k hck (Nat.lt_succ_self k))
      | woken hp | noted look hp | alike hp | rested hp | called hp => simp [hphase] at hp
      | differed hp | stopped hc hp => simp [hphase] at hp
    · exact hsame ▸ hphase

theorem Checks.files {k : Nat} {look : String → FileState} (h : Checks paths events k look) :
    (after paths events (k + 1)).files =
      (after paths events k).files.map fun f => f.refresh (look f.path) := by
  have hshifts := h.shifts
  generalize after paths events (k + 1) = w at hshifts ⊢
  cases hshifts with
  | stayed hidle => exact absurd ((hidle look rfl).symm.trans h.due) Bool.false_ne_true
  | noted look hp => rfl
  | differed hp hf hdiffers => rfl
  | alike hp hsame => exact (refreshed_eq_iff.mpr hsame).symm
  | called hp hsame => exact (refreshed_eq_iff.mpr hsame).symm

theorem calls_iff {c : Nat} : Calls paths events c ↔ ∃ look d q, Checks paths events c look ∧
    (∀ f ∈ (after paths events c).files, ¬ f.Differs (look f.path)) ∧ Changed paths events d ∧
    Rests paths events q ∧ d < q ∧ q < c ∧ Unchecked paths events d c := by
  constructor
  · intro h
    obtain ⟨hphase, -, -, look, hcheck, hsame⟩ := h.checks
    obtain ⟨d, q, hdq, hqc, hchanged, hrests, hun⟩ : Tells paths events c .settled :=
      hphase ▸ (recalls paths events c).phase
    exact ⟨look, d, q, hcheck, hsame, hchanged, hrests, hdq, hqc, hun⟩
  · rintro ⟨look, d, q, hcheck, hsame, hchanged, -, hdq, hqc, hun⟩
    rcases hchanged.called_or (Nat.lt_trans hdq hqc) with ⟨m, hdm, hmc, hcalls, -⟩ | ⟨-, hphase⟩
    · obtain ⟨-, -, -, look', hcheck', -⟩ := hcalls.checks
      exact absurd hcheck' (hun m hdm hmc look')
    · have hdue := looks_iff.mp hcheck.due
      refine hcheck.calls ?_ hsame
      rcases hphase with hp | hp | hp
      · simp [hp] at hdue
      · exact hp
      · simp [hp] at hdue

/-- Between two callbacks some check sees a change. -/
theorem Calls.changed {c : Nat} (h : Calls paths events c) : ∃ d, d < c ∧
    Changed paths events d ∧ ∀ m, d ≤ m → m < c → ¬ Calls paths events m := by
  obtain ⟨-, d, q, -, -, hchanged, -, hdq, hqc, hun⟩ := calls_iff.mp h
  refine ⟨d, Nat.lt_trans hdq hqc, hchanged, fun m hdm hmc hcalls => ?_⟩
  rcases Nat.lt_or_eq_of_le hdm with hdm | rfl
  · obtain ⟨-, -, -, look, hcheck, -⟩ := hcalls.checks
    exact hun m hdm hmc look hcheck
  · exact hchanged.not_calls hcalls

theorem Changed.called {d : Nat} (h : Changed paths events d) :
    (∃ c, d < c ∧ Calls paths events c ∧ Burst paths events d c) ∨
      Burst paths events d events.length ∧
        ((after paths events events.length).phase = .settling ∨
          (after paths events events.length).phase = .settled ∨
          ∃ j : Nat, events[j]? = some .close) := by
  obtain ⟨look, hcheck, -⟩ := id h
  have hd := (List.getElem?_eq_some_iff.mp hcheck.event).1
  rcases h.called_or hd with ⟨c, hdc, -, hcalls, hburst⟩ | ⟨hburst, hp | hp | hp⟩
  · exact .inl ⟨c, hdc, hcalls, hburst⟩
  · exact .inr ⟨hburst, .inl hp⟩
  · exact .inr ⟨hburst, .inr (.inl hp)⟩
  · obtain ⟨j, -, hclose⟩ : Tells paths events events.length .stopped :=
      hp ▸ (recalls paths events events.length).phase
    exact .inr ⟨hburst, .inr (.inr ⟨j, hclose⟩)⟩

/-- Two writes in one burst, one of them to a file that was missing before. -/
example : ((start ["a", "b"]).run [
    .check fun path => if path = "a" then .readable [1] else .missing, .wake,
    .check fun path => if path = "a" then .readable [2] else .missing, .quiet,
    .check fun path => if path = "a" then .readable [2] else .readable [3], .quiet,
    .check fun path => if path = "a" then .readable [2] else .unreadable]).callbacks = 1 := by
  decide

end ClusterAccess.Watcher
