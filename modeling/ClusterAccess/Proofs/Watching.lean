import ClusterAccess.Watcher

namespace ClusterAccess

namespace Fingerprint

/-- A look at the file shows something else than what was last seen in it. A file that cannot be
read shows nothing. -/
def Differs (f : Fingerprint) : FileState → Prop
  | .unreadable => False
  | .missing => f.last ≠ none
  | .readable content => f.last ≠ some content

theorem refresh_eq_iff {f : Fingerprint} {state : FileState} :
    f.refresh state = f ↔ ¬ f.Differs state := by
  obtain ⟨path, last⟩ := f
  cases state <;> simp [refresh, Differs, eq_comm]

end Fingerprint

namespace Watcher

/-- A check is due, or the files have not been seen yet. -/
def looks (w : Watcher) : Bool :=
  w.phase = .starting || w.phase = .woken || w.phase = .settled

theorem looks_iff {w : Watcher} :
    w.looks = true ↔ w.phase = .starting ∨ w.phase = .woken ∨ w.phase = .settled := by
  simp [looks, or_assoc]

theorem refreshed_eq_iff {w : Watcher} {look : String → FileState} :
    w.refreshed look = w.files ↔ ∀ f ∈ w.files, ¬ f.Differs (look f.path) := by
  have hid := List.map_inj_left (l := w.files) (f := fun f => f.refresh (look f.path)) (g := id)
  simp only [List.map_id, id_eq, Fingerprint.refresh_eq_iff] at hid
  exact hid

/-- What may become of a watcher with one event. -/
inductive Shifts (w : Watcher) : Event → Watcher → Prop where
  | stayed {e : Event} (he : ∀ look, e = .check look → w.looks = false) : Shifts w e w
  | woken (hp : w.phase = .waiting) : Shifts w .wake { w with phase := .woken }
  /-- The first check only takes note of what is there. -/
  | noted (look : String → FileState) (hp : w.phase = .starting) :
      Shifts w (.check look) { w with files := w.refreshed look, phase := .waiting }
  | alike {look : String → FileState} (hp : w.phase = .woken)
      (hsame : ∀ f ∈ w.files, ¬ f.Differs (look f.path)) :
      Shifts w (.check look) { w with phase := .waiting }
  | differed {look : String → FileState} (hp : w.phase = .woken ∨ w.phase = .settled)
      {f : Fingerprint} (hf : f ∈ w.files) (hdiffers : f.Differs (look f.path)) :
      Shifts w (.check look) { w with files := w.refreshed look, phase := .settling }
  | rested (hp : w.phase = .settling) : Shifts w .quiet { w with phase := .settled }
  | called {look : String → FileState} (hp : w.phase = .settled)
      (hsame : ∀ f ∈ w.files, ¬ f.Differs (look f.path)) :
      Shifts w (.check look) { w with phase := .calling, callbacks := w.callbacks + 1 }
  | returned (hp : w.phase = .calling) : Shifts w .returned { w with phase := .waiting }
  | stopped (hc : w.closed = true) (hp : w.phase = .waiting ∨ w.phase = .settling) :
      Shifts w .notice { w with phase := .stopped }
  | closed : Shifts w .close { w with closed := true }

theorem shifts_step (w : Watcher) (e : Event) : Shifts w e (w.step e) := by
  cases e with
  | wake =>
    simp only [step]
    split
    · exact .woken ‹_›
    · exact .stayed (by simp)
  | quiet =>
    simp only [step]
    split
    · exact .rested ‹_›
    · exact .stayed (by simp)
  | returned =>
    simp only [step]
    split
    · exact .returned ‹_›
    · exact .stayed (by simp)
  | notice =>
    simp only [step, Bool.and_eq_true, Bool.or_eq_true, decide_eq_true_eq]
    split
    · rename_i h
      exact .stopped h.1 h.2
    · exact .stayed (by simp)
  | close => exact .closed
  | check look =>
    have hsame (h : w.refreshed look = w.files) := refreshed_eq_iff.mp h
    have hother (h : w.refreshed look ≠ w.files) : ∃ f ∈ w.files, f.Differs (look f.path) := by
      simpa [refreshed_eq_iff] using h
    cases hp : w.phase with
    | starting =>
      simp only [step, hp, checked, ite_self]
      exact .noted look hp
    | woken =>
      by_cases h : w.refreshed look = w.files
      · simp only [step, hp, checked, h, ↓reduceIte]
        exact .alike hp (hsame h)
      · obtain ⟨f, hf, hdiffers⟩ := hother h
        simp only [step, hp, checked, h, ↓reduceIte]
        exact .differed (.inl hp) hf hdiffers
    | settled =>
      by_cases h : w.refreshed look = w.files
      · simp only [step, hp, checked, h, ↓reduceIte]
        exact .called hp (hsame h)
      · obtain ⟨f, hf, hdiffers⟩ := hother h
        simp only [step, hp, checked, h, ↓reduceIte]
        exact .differed (.inr hp) hf hdiffers
    | waiting | settling | calling | stopped =>
      simp only [step, hp]
      exact .stayed fun _ _ => by simp [looks, hp]

end Watcher

end ClusterAccess
