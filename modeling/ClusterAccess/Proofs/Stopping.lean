import ClusterAccess.Proofs.Bursts

namespace ClusterAccess.Watcher

/-- Wherever the watcher waits while it is closed, the mark comes before all else. When a wake-up or
the end of the quiet time is there as well, a watcher may also go on with that. -/
def Heeds (paths : List String) (events : List Event) : Prop :=
  ∀ k, (after paths events k).closed = true →
    (events[k]? = some .wake → (after paths events k).phase ≠ .waiting) ∧
    (events[k]? = some .quiet → (after paths events k).phase ≠ .settling)

variable {paths : List String} {events : List Event} {j k : Nat}

theorem step_close_of_closed {w : Watcher} (h : w.closed = true) : w.step .close = w := by
  obtain ⟨files, phase, closed, callbacks⟩ := w
  cases h
  rfl

theorem Shifts.closed_mono {w w' : Watcher} {e : Event} (h : Shifts w e w')
    (hclosed : w.closed = true) : w'.closed = true := by
  cases h with
  | closed => rfl
  | _ => exact hclosed

/-- A watcher that has been closed is not changed by closing it again, whenever that is. -/
theorem run_close_again (w : Watcher) (before between rest : List Event) :
    w.run (before ++ .close :: between ++ .close :: rest) =
      w.run (before ++ .close :: between ++ rest) := by
  have hclosed : (between.foldl step ((w.run before).step .close)).closed = true :=
    List.foldlRecOn (motive := fun w => w.closed = true) between step rfl
      fun w hclosed e _ => (shifts_step w e).closed_mono hclosed
  simp only [run, List.foldl_append, List.foldl_cons] at hclosed ⊢
  rw [step_close_of_closed hclosed]

theorem after_close (h : events[j]? = some .close) :
    after paths events (j + 1) = { after paths events j with closed := true } :=
  course_succ h

theorem closed_after_close (h : events[j]? = some .close) (hjk : j < k) :
    (after paths events k).closed = true := by
  refine course_induction (P := fun w => w.closed = true)
    (fun w e hclosed => (shifts_step w e).closed_mono hclosed) (Nat.succ_le_of_lt hjk) ?_
  exact congrArg closed (after_close h)

theorem Shifts.stopped_mono {w w' : Watcher} {e : Event} (h : Shifts w e w')
    (hstopped : w.phase = .stopped) : w'.phase = .stopped := by
  cases h with
  | stayed => exact hstopped
  | closed => exact hstopped
  | stopped => rfl
  | woken hp | noted look hp | alike hp | rested hp | called hp | returned hp =>
    cases hp.symm.trans hstopped
  | differed hp => rcases hp with hp | hp <;> cases hp.symm.trans hstopped

/-- A watcher that has noticed its mark does nothing more. -/
theorem not_calls_of_stopped (hjk : j ≤ k) (h : (after paths events j).phase = .stopped) :
    ¬ Calls paths events k := by
  intro hcalls
  have hstopped : (after paths events k).phase = .stopped :=
    course_induction (P := fun w => w.phase = .stopped)
      (fun w e hphase => (shifts_step w e).stopped_mono hphase) hjk h
  cases hcalls.checks.1.symm.trans hstopped

/-- No quiet time ends after a close. -/
theorem Heeds.settled (hheeds : Heeds paths events) (hclose : events[j]? = some .close)
    (hjk : j < k) (hsettled : (after paths events k).phase = .settled) :
    (after paths events j).phase = .settled ∧ Unchecked paths events j k := by
  induction hjk with
  | refl =>
    refine ⟨(congrArg phase (after_close hclose)).symm.trans hsettled, fun m hjm hmj => ?_⟩
    omega
  | @step k hjk ih =>
    rcases shifts_after paths events k with ⟨e, he, hshifts⟩ | ⟨he, hsame⟩
    · generalize after paths events (k + 1) = w at hshifts hsettled
      cases hshifts with
      | stayed hidle =>
        obtain ⟨hphase, hun⟩ := ih hsettled
        exact ⟨hphase, hun.succ
          (not_checks fun look hc => hidle look (Option.some.inj (he.symm.trans hc)))⟩
      | closed =>
        obtain ⟨hphase, hun⟩ := ih hsettled
        exact ⟨hphase, hun.succ (not_checks_of_event he (by simp))⟩
      | rested hp => exact absurd hp ((hheeds k (closed_after_close hclose hjk)).2 he)
      | _ => cases hsettled
    · obtain ⟨hphase, hun⟩ := ih (hsame ▸ hsettled)
      exact ⟨hphase, hun.succ (not_checks_of_none he)⟩

/-- After the end of the quiet time nothing but a check, or another close, comes. -/
theorem Unchecked.settled (h : Unchecked paths events j k) (hclose : events[j]? = some .close)
    (hjk : j < k) (hsettled : (after paths events j).phase = .settled) :
    (after paths events k).phase = .settled := by
  induction hjk with
  | refl => exact (congrArg phase (after_close hclose)).trans hsettled
  | @step k hjk ih =>
    have hphase := ih fun m hjm hmk => h m hjm (Nat.lt_succ_of_lt hmk)
    have hdue : (after paths events k).looks = true := looks_iff.mpr (.inr (.inr hphase))
    rcases shifts_after paths events k with ⟨e, he, hshifts⟩ | ⟨-, hsame⟩
    · have hnone (look : String → FileState) (hcheck : e = .check look) : False :=
        h k hjk (Nat.lt_succ_self k) look ⟨hcheck ▸ he, hdue⟩
      generalize after paths events (k + 1) = w at hshifts
      cases hshifts with
      | stayed => exact hphase
      | closed => exact hphase
      | rested => rfl
      | noted | alike | differed | called => exact (hnone _ rfl).elim
      | woken hp | returned hp => cases hp.symm.trans hphase
      | stopped hc hp => rcases hp with hp | hp <;> cases hp.symm.trans hphase
    · exact hsame ▸ hphase

/-- What a close leaves of the callbacks when the watcher heeds it: at most one, and this only when
the close comes between the end of a quiet time and the check that follows, and the check sees no
change. -/
theorem Heeds.calls_iff (hheeds : Heeds paths events) (hclose : events[j]? = some .close) :
    (∀ c, j < c → (Calls paths events c ↔ (after paths events j).phase = .settled ∧
      Unchecked paths events j c ∧ ∃ look, Checks paths events c look ∧
        ∀ f ∈ (after paths events c).files, ¬ f.Differs (look f.path))) ∧
    ∀ c c', j < c → c < c' → Calls paths events c → ¬ Calls paths events c' := by
  refine ⟨fun c hjc => ⟨fun hcalls => ?_, ?_⟩, fun c c' hjc hcc' hcalls hagain => ?_⟩
  · obtain ⟨hsettled, -, -, hcheck⟩ := hcalls.checks
    obtain ⟨hphase, hun⟩ := hheeds.settled hclose hjc hsettled
    exact ⟨hphase, hun, hcheck⟩
  · rintro ⟨hphase, hun, look, hcheck, hsame⟩
    exact hcheck.calls (hun.settled hclose hjc hphase) hsame
  · -- The check that the first callback starts with is one too many for the second.
    obtain ⟨-, -, -, look, hcheck, -⟩ := hcalls.checks
    obtain ⟨-, hun⟩ := hheeds.settled hclose (Nat.lt_trans hjc hcc') hagain.checks.1
    exact hun c hjc hcc' look hcheck

/-- A callback can start although the watcher has been closed before. -/
theorem calls_after_close : ∃ (paths : List String) (events : List Event) (j c : Nat),
    Heeds paths events ∧ events[j]? = some .close ∧ j < c ∧ Calls paths events c := by
  let first : String → FileState := fun _ => .missing
  let later : String → FileState := fun _ => .readable [1]
  refine ⟨["a"], [.check first, .wake, .check later, .quiet, .close, .check later], 4, 5,
    fun k hclosed => ?_, rfl, by decide, by unfold Calls; decide⟩
  match k with
  | 0 | 1 | 2 | 3 | 4 => cases hclosed
  | 5 | k + 6 => exact ⟨nofun, nofun⟩

end ClusterAccess.Watcher
