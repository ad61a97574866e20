import ClusterAccess.Schema.UnknownField

namespace ClusterAccess.Schema

/-- Where a part of a value stands: for each step down, the rank of the member or element. -/
abbrev Position := List Nat

/-- Depth-first order: a value comes before its parts, and what stands under an earlier part before
what stands under a later one. -/
def Position.Before : Position → Position → Prop :=
  List.Lex (· < ·)

/-- The answer is the path of the first marked position, or none if there is none. -/
def IsFirst (marked : Position → Path → Prop) : Option Path → Prop
  | none => ∀ position path, ¬ marked position path
  | some path => ∃ position, marked position path ∧
      ∀ position' path', marked position' path' → ¬ position'.Before position

namespace Position

variable {i j : Nat} {position position' : Position}

theorem not_before_nil : ¬ position.Before [] :=
  List.not_lex_nil

theorem before_cons : Before (i :: position) (j :: position') ↔
    i < j ∨ i = j ∧ position.Before position' :=
  List.cons_lex_cons_iff

end Position

namespace IsFirst

variable {marked marked' : Position → Path → Prop} {answer answer' : Option Path}

theorem congr (h : IsFirst marked answer) (hm : ∀ position path, marked position path ↔
    marked' position path) : IsFirst marked' answer := by
  obtain rfl : marked = marked' := by
    funext position path
    exact propext (hm position path)
  exact h

theorem of_none (h : ∀ position path, ¬ marked position path) : IsFirst marked none :=
  h

/-- One position is marked, and it is the value's own. -/
theorem of_nil {path : Path} (h : ∀ position path', marked position path' ↔
    position = [] ∧ path' = path) : IsFirst marked (some path) := by
  refine ⟨[], (h _ _).mpr ⟨rfl, rfl⟩, ?_⟩
  intro position' path' hm
  exact Position.not_before_nil

/-- The path gets longer at its front, the position stays. -/
theorem map (h : IsFirst marked answer) (segment : Segment) :
    IsFirst (fun position path => ∃ rest, marked position rest ∧ path = segment :: rest)
      (answer.map (segment :: ·)) := by
  cases answer with
  | none =>
    rintro position path ⟨rest, hm, rfl⟩
    exact h position rest hm
  | some found =>
    obtain ⟨position, hm, hle⟩ := h
    refine ⟨position, ⟨found, hm, rfl⟩, ?_⟩
    rintro position' path' ⟨rest, hm', rfl⟩
    exact hle position' rest hm'

/-- The second search counts only where the first one finds nothing. -/
theorem orElse (h : IsFirst marked answer) (h' : IsFirst marked' answer')
    (hle : ∀ position path position' path', marked position path → marked' position' path' →
      ¬ position'.Before position) :
    IsFirst (fun position path => marked position path ∨ marked' position path)
      (answer <|> answer') := by
  cases answer with
  | some found =>
    obtain ⟨position, hm, hfirst⟩ := h
    refine ⟨position, .inl hm, ?_⟩
    rintro position' path' (hm' | hm')
    · exact hfirst position' path' hm'
    · exact hle _ _ _ _ hm hm'
  | none =>
    refine congr h' fun position path => ?_
    exact ⟨.inr, fun hm => hm.resolve_left (h position path)⟩

end IsFirst

/-- A position below one of the entries of a list, whose ranks count from a given one. -/
def Among {α : Type} (marked : Nat → α → Position → Path → Prop) (first : Nat) (entries : List α)
    (position : Position) (path : Path) : Prop :=
  ∃ j entry below, entries[j]? = some entry ∧ position = (first + j) :: below ∧
    marked (first + j) entry below path

section

variable {α : Type} {marked : Nat → α → Position → Path → Prop} {first : Nat} {entry : α}
  {entries : List α} {position : Position} {path : Path}

theorem among_cons : Among marked first (entry :: entries) position path ↔
    (∃ below, position = first :: below ∧ marked first entry below path) ∨
      Among marked (first + 1) entries position path := by
  constructor
  · rintro ⟨j, entry', below, hj, rfl, hm⟩
    cases j with
    | zero =>
      obtain rfl : entry = entry' := by simpa using hj
      exact .inl ⟨below, rfl, hm⟩
    | succ j =>
      have hrank : first + (j + 1) = first + 1 + j := by omega
      rw [hrank] at hm ⊢
      exact .inr ⟨j, entry', below, by simpa using hj, rfl, hm⟩
  · rintro (⟨below, rfl, hm⟩ | ⟨j, entry', below, hj, rfl, hm⟩)
    · exact ⟨0, entry, below, rfl, rfl, hm⟩
    · have hrank : first + 1 + j = first + (j + 1) := by omega
      rw [hrank] at hm ⊢
      exact ⟨j + 1, entry', below, by simpa using hj, rfl, hm⟩

theorem IsFirst.among_nil : IsFirst (Among marked first []) none := by
  rintro position path ⟨j, entry, below, hj, -⟩
  simp at hj

/-- What is below the first entry precedes what is below the others. -/
theorem IsFirst.among_cons {answer answer' : Option Path} (h : IsFirst (marked first entry) answer)
    (h' : IsFirst (Among marked (first + 1) entries) answer') :
    IsFirst (Among marked first (entry :: entries)) (answer <|> answer') := by
  have hhere : IsFirst (fun position path => ∃ below, position = first :: below ∧
      marked first entry below path) answer := by
    cases answer with
    | none =>
      rintro position path ⟨below, rfl, hm⟩
      exact h below path hm
    | some found =>
      obtain ⟨position, hm, hle⟩ := h
      refine ⟨first :: position, ⟨position, rfl, hm⟩, ?_⟩
      rintro position' path' ⟨below, rfl, hm'⟩
      have hbelow := hle below path' hm'
      simp [Position.before_cons, hbelow]
  refine congr (hhere.orElse h' ?_) fun position path => Schema.among_cons.symm
  -- ranks among the other entries are greater than the first one
  rintro position path position' path' ⟨below, rfl, -⟩ ⟨j, entry', below', -, rfl, -⟩
  rw [Position.before_cons]
  omega

end

end ClusterAccess.Schema
