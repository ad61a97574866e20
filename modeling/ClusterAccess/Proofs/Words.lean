import ClusterAccess.Proofs.Literals

namespace ClusterAccess.Json

/-- Every whole number is a word. -/
inductive Written.IsExact : Written → Prop where
  | null : IsExact .null
  | bool (b : Bool) : IsExact (.bool b)
  | double (negative : Bool) (digits : Nat) (exponent : Int) :
      IsExact (.num (.double negative digits exponent))
  | whole {n : Int} (word : IsWord n) : IsExact (.num (.whole n))
  | str (s : String) : IsExact (.str s)
  | arr {items : List Written} (inner : ∀ w ∈ items, IsExact w) : IsExact (.arr items)
  | obj {members : List (Option String × Written)} (inner : ∀ m ∈ members, IsExact m.2) :
      IsExact (.obj members)
  | unreadable : IsExact .unreadable

namespace Reader

section

variable {negative : Bool} {whole fraction : List Char} {exponent : Option Int} {n : Number}

theorem isExact_scaled {power : Int} (h : scaled? negative whole fraction power = some n) :
    (Written.num n).IsExact := by
  unfold scaled? double? at h
  dsimp only at h
  split at h
  · simp only [Option.bind_eq_bind, Option.bind_eq_some_iff, Option.some.injEq] at h
    obtain ⟨-, -, -, -, rfl⟩ := h
    exact .double ..
  · split at h
    · cases h
      exact .double ..
    · cases h

theorem isExact_number (h : number? negative whole fraction exponent = some n) :
    (Written.num n).IsExact := by
  have hpositive : Nat.pow 2 64 = 2 ^ 64 := rfl
  have hnegative : Nat.pow 2 63 = 2 ^ 63 := rfl
  unfold number? at h
  dsimp only at h
  split at h
  · cases h
    exact .whole ⟨by omega, by omega⟩
  · split at h
    · cases h
      exact .whole ⟨by omega, by omega⟩
    · exact isExact_scaled h

end

variable {cs rest : List Char} {w : Written}

theorem isExact_unsigned {negative : Bool} (h : unsigned? negative cs = some (w, rest)) :
    w.IsExact := by
  unfold unsigned? at h
  split at h
  · cases h
  · cases h
  · simp only [Option.bind_eq_bind, Option.bind_eq_some_iff, Option.some.injEq, Prod.mk.injEq] at h
    obtain ⟨⟨fraction, -⟩, -, ⟨exponent, -⟩, -, rfl, -⟩ := h
    cases hnumber : number? negative _ fraction exponent with
    | none => exact .unreadable
    | some n => exact isExact_number hnumber

theorem isExact_word {word : List Char} {v : Written} (hv : v.IsExact)
    (h : word? word v cs = some (w, rest)) : w.IsExact := by
  unfold word? at h
  split at h
  · cases h
    exact hv
  · cases h

theorem isExact_within (h : w.IsExact) (depth : Nat) : (within depth w).IsExact := by
  unfold within
  split
  · exact .unreadable
  · exact h

def ExactValues (fuel : Nat) : Prop :=
  ∀ depth cs w rest, value depth fuel cs = some (w, rest) → w.IsExact

def ExactElements (fuel : Nat) : Prop :=
  ∀ depth cs ws rest, elements depth fuel cs = some (ws, rest) → ∀ w ∈ ws, w.IsExact

def ExactMembers (fuel : Nat) : Prop :=
  ∀ depth cs ms rest, members depth fuel cs = some (ms, rest) → ∀ m ∈ ms, m.2.IsExact

variable {fuel : Nat}

theorem exactValues_succ (helements : ExactElements fuel) (hmembers : ExactMembers fuel) :
    ExactValues (fuel + 1) := by
  intro depth cs w rest h
  unfold value at h
  split at h
  · cases h
  · simp only [Option.bind_eq_bind, Option.bind_eq_some_iff, Option.some.injEq, Prod.mk.injEq] at h
    obtain ⟨⟨ps, -⟩, -, rfl, -⟩ := h
    cases string? ps with
    | none => exact .unreadable
    | some s => exact .str s
  · split at h
    · cases h
      exact isExact_within (.arr (by simp)) depth
    · simp only [Option.bind_eq_bind, Option.bind_eq_some_iff, Option.some.injEq,
        Prod.mk.injEq] at h
      obtain ⟨⟨items, _⟩, hitems, rfl, -⟩ := h
      exact isExact_within (.arr (helements _ _ _ _ hitems)) depth
  · split at h
    · cases h
      exact isExact_within (.obj (by simp)) depth
    · simp only [Option.bind_eq_bind, Option.bind_eq_some_iff, Option.some.injEq,
        Prod.mk.injEq] at h
      obtain ⟨⟨ms, _⟩, hms, rfl, -⟩ := h
      exact isExact_within (.obj (hmembers _ _ _ _ hms)) depth
  · exact isExact_unsigned h
  · split at h
    · exact isExact_word (.bool true) h
    · split at h
      · exact isExact_word (.bool false) h
      · split at h
        · exact isExact_word .null h
        · exact isExact_unsigned h

theorem exactElements_succ (hvalues : ExactValues fuel) (helements : ExactElements fuel) :
    ExactElements (fuel + 1) := by
  intro depth cs ws rest h
  unfold elements at h
  simp only [Option.bind_eq_bind, Option.bind_eq_some_iff] at h
  obtain ⟨⟨w, _⟩, hw, h⟩ := h
  have hfirst : w.IsExact := hvalues _ _ _ _ hw
  dsimp only at h
  split at h
  · cases h
    simpa using hfirst
  · simp only [Option.bind_eq_some_iff, Option.some.injEq, Prod.mk.injEq] at h
    obtain ⟨⟨ws, _⟩, hws, rfl, -⟩ := h
    exact List.forall_mem_cons.mpr ⟨hfirst, helements _ _ _ _ hws⟩
  · cases h

theorem exactMembers_succ (hvalues : ExactValues fuel) (hmembers : ExactMembers fuel) :
    ExactMembers (fuel + 1) := by
  intro depth cs ms rest h
  unfold members at h
  split at h
  · simp only [Option.bind_eq_bind, Option.bind_eq_some_iff] at h
    obtain ⟨⟨key, _⟩, -, h⟩ := h
    dsimp only at h
    split at h
    · simp only [Option.bind_eq_some_iff] at h
      obtain ⟨⟨w, _⟩, hw, h⟩ := h
      have hfirst : w.IsExact := hvalues _ _ _ _ hw
      dsimp only at h
      split at h
      · cases h
        simpa using hfirst
      · simp only [Option.bind_eq_some_iff, Option.some.injEq, Prod.mk.injEq] at h
        obtain ⟨⟨ms, _⟩, hms, rfl, -⟩ := h
        exact List.forall_mem_cons.mpr ⟨hfirst, hmembers _ _ _ _ hms⟩
      · cases h
    · cases h
  · cases h

theorem exact_read (fuel : Nat) : ExactValues fuel ∧ ExactElements fuel ∧ ExactMembers fuel := by
  induction fuel with
  | zero => simp [ExactValues, ExactElements, ExactMembers, value, elements, members]
  | succ fuel ih =>
    obtain ⟨hvalues, helements, hmembers⟩ := ih
    exact ⟨exactValues_succ helements hmembers, exactElements_succ hvalues helements,
      exactMembers_succ hvalues hmembers⟩

end Reader

theorem isExact_document {text : String} {w : Written} (h : document? text = some w) :
    w.IsExact := by
  unfold document? at h
  dsimp only at h
  split at h
  · rename_i hread
    split at h
    · cases h
      exact (Reader.exact_read _).1 _ _ _ _ hread
    · cases h
  · cases h

end ClusterAccess.Json
