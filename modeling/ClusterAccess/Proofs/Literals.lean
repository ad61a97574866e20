import ClusterAccess.Json.Printer
import ClusterAccess.Json.Reader
import Mathlib.Algebra.Group.Int.Defs
import Mathlib.Data.List.Forall2
import Mathlib.Data.List.TakeDrop

namespace ClusterAccess.Json

/-- How a character is escaped: by another one, by its number, or not at all. -/
inductive Printer.Escapes (c : Char) : List Char → Prop where
  | simple {e : Char} (unnumbered : e ≠ 'u') (means : Reader.simpleEscape? e = some c) :
      Escapes c ['\\', e]
  | numbered (control : c.toNat < 32) :
      Escapes c ['\\', 'u', '0', '0', hexDigit (c.toNat / 16), hexDigit (c.toNat % 16)]
  | plain (printed : 32 ≤ c.toNat) (unquoted : c ≠ '"') (unescaped : c ≠ '\\') : Escapes c [c]

theorem Printer.escapes_escape (c : Char) : Escapes c (escape c) := by
  unfold escape
  -- seven characters are escaped by another one
  iterate 7
    split
    · subst_vars
      exact .simple (by decide) rfl
  split
  · exact .numbered ‹_›
  · exact .plain (by omega) ‹_› ‹_›

namespace Reader

/-- What may be read of a character. -/
inductive Piece.StandsFor (c : Char) : Piece → Prop where
  | char : StandsFor c (.char c)
  | unit (control : c.toNat < 32) : StandsFor c (.unit c.toNat)

theorem hexValue_hexDigit : ∀ n < 16, Text.hexValue? (Printer.hexDigit n) = some n := by
  decide

theorem hexNumber_hexDigit {n : Nat} (h : n < 32) :
    Text.hexNumber? ['0', '0', Printer.hexDigit (n / 16), Printer.hexDigit (n % 16)] =
      some n := by
  have hhigh := hexValue_hexDigit (n / 16) (by omega)
  have hlow := hexValue_hexDigit (n % 16) (by omega)
  have hzero : Text.hexValue? '0' = some 0 := rfl
  have hsum : 16 * (n / 16) + n % 16 = n := by omega
  simp [Text.hexNumber?, hhigh, hlow, hzero, hsum]

theorem stringBody_escape {rest rest' : List Char} {ps : List Piece}
    (h : stringBody rest = some (ps, rest')) (c : Char) :
    ∃ p, Piece.StandsFor c p ∧ stringBody (Printer.escape c ++ rest) = some (p :: ps, rest') := by
  have hescapes := Printer.escapes_escape c
  generalize Printer.escape c = cs at hescapes
  cases hescapes with
  | simple unnumbered means =>
    refine ⟨.char c, .char, ?_⟩
    simp [stringBody, unnumbered, means, h]
  | numbered control =>
    refine ⟨.unit c.toNat, .unit control, ?_⟩
    simp [stringBody, hexNumber_hexDigit control, h]
  | plain printed unquoted unescaped =>
    refine ⟨.char c, .char, ?_⟩
    have hprinted : ¬ c.toNat < 32 := by omega
    rw [List.singleton_append, stringBody.eq_def]
    split <;> simp_all

theorem stringBody_quoted (cs rest : List Char) :
    ∃ ps, List.Forall₂ Piece.StandsFor cs ps ∧
      stringBody (cs.flatMap Printer.escape ++ '"' :: rest) = some (ps, rest) := by
  induction cs with
  | nil => exact ⟨[], .nil, by simp [stringBody]⟩
  | cons c cs ih =>
    obtain ⟨ps, hps, hread⟩ := ih
    obtain ⟨p, hp, hread⟩ := stringBody_escape hread c
    exact ⟨p :: ps, .cons hp hps, by simpa using hread⟩

/-- The number of a control character is no surrogate, whatever comes behind it. -/
theorem chars_unit {n : Nat} (h : n < 32) (ps : List Piece) :
    chars? (.unit n :: ps) = (chars? ps).map (Char.ofNat n :: ·) := by
  have hhigh : Text.isHighSurrogate n = false := by
    simp only [Text.isHighSurrogate, Bool.and_eq_false_iff, decide_eq_false_iff_not]
    omega
  have hlow : Text.isLowSurrogate n = false := by
    simp only [Text.isLowSurrogate, Bool.and_eq_false_iff, decide_eq_false_iff_not]
    omega
  rcases ps with _ | ⟨_ | _, ps⟩ <;> simp [chars?, hhigh, hlow]

theorem chars_of_standsFor {cs : List Char} {ps : List Piece}
    (h : List.Forall₂ Piece.StandsFor cs ps) : chars? ps = some cs := by
  induction h with
  | nil => rfl
  | cons hp _ ih =>
    cases hp with
    | char => simp [chars?, ih]
    | unit control => simp [chars_unit control, ih]

/-- A printed string is read as it was. -/
theorem string_quoted (s : String) (rest : List Char) :
    ∃ ps, stringBody (s.toList.flatMap Printer.escape ++ '"' :: rest) = some (ps, rest) ∧
      string? ps = some s := by
  obtain ⟨ps, hps, hread⟩ := stringBody_quoted s.toList rest
  exact ⟨ps, hread, by simp [string?, chars_of_standsFor hps]⟩

end Reader

/-- A whole number of 64 bits, with a sign or without. -/
def IsWord (n : Int) : Prop :=
  -2 ^ 63 ≤ n ∧ n < 2 ^ 64

namespace Reader

theorem ofDigits_append (ds : List Char) (d : Char) :
    ofDigits (ds ++ [d]) = 10 * ofDigits ds + digitValue d := by
  simp [ofDigits]

theorem ofDigits_natural (n : Nat) : ofDigits (Printer.natural n) = n := by
  induction n using Nat.strongRecOn with
  | _ n ih =>
    unfold Printer.natural at ih ⊢
    by_cases hn : n < 10
    · rw [Nat.toDigits_of_lt_base hn]
      simp [ofDigits, digitValue, Nat.toNat_digitChar_sub_48_of_lt_ten hn]
    · have hlast : n % 10 < 10 := by omega
      rw [Nat.toDigits_of_base_le (by decide) (by omega), ofDigits_append, ih _ (by omega),
        digitValue, Nat.toNat_digitChar_sub_48_of_lt_ten hlast]
      omega

theorem isDigit_natural {n : Nat} : ∀ c ∈ Printer.natural n, c.isDigit = true :=
  fun _ hc => Nat.isDigit_of_mem_toDigits (by decide) (by decide) hc

theorem exists_digit (n : Nat) : ∃ d ds, Printer.natural n = d :: ds ∧ d.isDigit = true := by
  obtain ⟨d, ds, hds⟩ := List.exists_cons_of_ne_nil (Nat.toDigits_ne_nil (n := n) (b := 10))
  exact ⟨d, ds, hds, isDigit_natural d (hds ▸ List.mem_cons_self)⟩

/-- No zero leads other digits. -/
theorem head_natural {n : Nat} (h : 0 < n) : (Printer.natural n).head? ≠ some '0' := by
  induction n using Nat.strongRecOn with
  | _ n ih =>
    unfold Printer.natural at ih ⊢
    by_cases hn : n < 10
    · rw [Nat.toDigits_of_lt_base hn]
      simp only [List.head?_cons, ne_eq, Option.some.injEq, Nat.digitChar_eq_zero]
      omega
    · rw [Nat.toDigits_of_base_le (by decide) (by omega),
        List.head?_append_of_ne_nil _ Nat.toDigits_ne_nil]
      exact ih _ (by omega) (by omega)

/-- Nothing that could go on a number. -/
def EndsNumber (rest : List Char) : Prop :=
  ∀ c, rest.head? = some c → c.isDigit = false ∧ c ≠ '.' ∧ c ≠ 'e' ∧ c ≠ 'E'

section

variable {rest : List Char} (hrest : EndsNumber rest)

include hrest

theorem span_natural (n : Nat) :
    (Printer.natural n ++ rest).span Char.isDigit = (Printer.natural n, rest) := by
  have hstop : rest.takeWhile Char.isDigit = [] ∧ rest.dropWhile Char.isDigit = rest := by
    cases rest with
    | nil => exact ⟨rfl, rfl⟩
    | cons c rest => simp [(hrest c rfl).1]
  rw [List.span_eq_takeWhile_dropWhile, List.takeWhile_append_of_pos isDigit_natural,
    List.dropWhile_append_of_pos isDigit_natural, hstop.1, hstop.2, List.append_nil]

theorem fraction_of_end : fraction? rest = some ([], rest) := by
  unfold fraction?
  split
  · exact absurd rfl (hrest '.' rfl).2.1
  · rfl

theorem exponent_of_end : exponent? rest = some (none, rest) := by
  cases rest with
  | nil => rfl
  | cons c rest =>
    obtain ⟨-, -, hsmall, hcapital⟩ := hrest c rfl
    simp [exponent?, hsmall, hcapital]

end

theorem number_natural {n : Int} (h : IsWord n) :
    number? (decide (n < 0)) (Printer.natural n.natAbs) [] none = some (.whole n) := by
  obtain ⟨hlow, hhigh⟩ := h
  have hpositive : Nat.pow 2 64 = 2 ^ 64 := rfl
  have hnegative : Nat.pow 2 63 = 2 ^ 63 := rfl
  unfold number?
  rw [ofDigits_natural]
  by_cases hn : n < 0
  · have hpos : 0 < n.natAbs := by omega
    have hle : n.natAbs ≤ Nat.pow 2 63 := by omega
    have hneg : -(n.natAbs : Int) = n := by omega
    simp only [hn, hpos, hle, hneg, decide_true, Bool.not_true, Bool.false_eq_true, false_and,
      and_false, and_self, if_true, if_false]
  · have hlt : n.natAbs < Nat.pow 2 64 := by omega
    have heq : (n.natAbs : Int) = n := by omega
    simp only [hn, hlt, heq, decide_false, Bool.not_false, and_self, if_true]

/-- A printed number is read as it was. Its sign is read before. -/
theorem unsigned_natural {rest : List Char} (hrest : EndsNumber rest) {n : Int} (h : IsWord n) :
    unsigned? (decide (n < 0)) (Printer.natural n.natAbs ++ rest) =
      some (.num (.whole n), rest) := by
  unfold unsigned?
  rw [span_natural hrest]
  split
  · rename_i hnil
    simp [Printer.natural] at hnil
  · rename_i d ds rest' hzero
    -- a zero stands alone
    have hhead : (Printer.natural n.natAbs).head? = some '0' := by
      rw [(Prod.mk.inj hzero).1]
      rfl
    rcases Nat.eq_zero_or_pos n.natAbs with hn | hn
    · rw [hn] at hzero
      cases hzero
    · exact absurd hhead (head_natural hn)
  · rename_i heq
    cases heq
    simp [fraction_of_end hrest, exponent_of_end hrest, number_natural h]

end Reader

end ClusterAccess.Json
