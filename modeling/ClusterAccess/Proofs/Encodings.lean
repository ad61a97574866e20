import ClusterAccess.Http.Header
import ClusterAccess.Text.Base64
import ClusterAccess.Text.Pieces
import Mathlib.Data.List.TakeWhile

namespace ClusterAccess

namespace Text

/-- Neither the first character nor the last is a blank. -/
def IsTrimmed (s : String) : Prop :=
  ∀ c, s.toList.head? = some c ∨ s.toList.getLast? = some c → isBlank c = false

theorem isBlank_head?_dropWhile {cs : List Char} {c : Char}
    (h : (cs.dropWhile isBlank).head? = some c) : isBlank c = false := by
  have hnot := List.head?_dropWhile_not isBlank cs
  simpa [h] using hnot

theorem trimStart_eq_self {cs : List Char} (h : ∀ c, cs.head? = some c → isBlank c = false) :
    trimStart cs = cs := by
  cases cs with
  | nil => rfl
  | cons c cs => exact List.dropWhile_cons_of_neg (by simp [h c rfl])

theorem trimEnd_eq_self {cs : List Char} (h : ∀ c, cs.getLast? = some c → isBlank c = false) :
    trimEnd cs = cs := by
  have hreverse : trimStart cs.reverse = cs.reverse := by
    apply trimStart_eq_self
    intro c hc
    exact h c (by simpa using hc)
  rw [trimEnd, ← trimStart, hreverse, List.reverse_reverse]

theorem trim_of_isTrimmed {s : String} (h : IsTrimmed s) : trim s = s := by
  have hstart : trimStart s.toList = s.toList := trimStart_eq_self fun c hc => h c (.inl hc)
  have hend : trimEnd s.toList = s.toList := trimEnd_eq_self fun c hc => h c (.inr hc)
  rw [trim, trimChars, hstart, hend, String.ofList_toList]

/-- Trimming at the end leaves the beginning as it is. -/
theorem trimEnd_prefix (cs : List Char) : trimEnd cs <+: cs := by
  have hsuffix : cs.reverse.dropWhile isBlank <:+ cs.reverse := List.dropWhile_suffix isBlank
  simpa [trimEnd] using List.reverse_prefix.mpr hsuffix

theorem isTrimmed_trim (s : String) : IsTrimmed (trim s) := by
  intro c hc
  simp only [trim, String.toList_ofList, trimChars] at hc
  rcases hc with hfirst | hlast
  · obtain ⟨rest, hrest⟩ := trimEnd_prefix (trimStart s.toList)
    have hhead : (trimStart s.toList).head? = some c := by
      rw [← hrest, List.head?_append, hfirst]
      rfl
    exact isBlank_head?_dropWhile hhead
  · simp only [trimEnd, List.getLast?_reverse] at hlast
    exact isBlank_head?_dropWhile hlast

/-- Nothing is left of a text of blanks, and of no other. -/
theorem trim_eq_empty_iff {s : String} : trim s = "" ↔ ∀ c ∈ s.toList, isBlank c = true := by
  have hstart : trimStart s.toList = [] ↔ ∀ c ∈ s.toList, isBlank c = true :=
    List.dropWhile_eq_nil_iff
  rw [← hstart, ← String.toList_inj]
  simp only [trim, String.toList_ofList, trimChars, String.toList_empty]
  constructor
  · intro h
    have hblank : ∀ c ∈ trimStart s.toList, isBlank c = true := by
      intro c hc
      have hall := List.dropWhile_eq_nil_iff.mp (List.reverse_eq_nil_iff.mp h)
      exact hall c (List.mem_reverse.mpr hc)
    cases hcs : trimStart s.toList with
    | nil => rfl
    | cons c cs =>
      have hhead : (s.toList.dropWhile isBlank).head? = some c := by
        rw [← trimStart, hcs]
        rfl
      have hfirst := isBlank_head?_dropWhile hhead
      have hc := hblank c (by simp [hcs])
      simp [hfirst] at hc
  · intro h
    rw [h]
    rfl

/-- A character of ASCII that can be seen, or the space. -/
def IsPrintable (c : Char) : Prop :=
  32 ≤ c.toNat ∧ c.toNat < 127

instance (c : Char) : Decidable (IsPrintable c) :=
  inferInstanceAs (Decidable (_ ∧ _))

theorem printable_of_all {cs : List Char} (h : cs.all (fun c => IsPrintable c) = true) :
    ∀ c ∈ cs, IsPrintable c := by
  simpa using h

theorem eq_space_of_isBlank {c : Char} (h : IsPrintable c) (hb : isBlank c = true) : c = ' ' := by
  obtain ⟨hlow, hhigh⟩ := h
  have hc : c.toNat = 32 := by
    simp only [isBlank, Bool.or_eq_true, Bool.and_eq_true, decide_eq_true_eq] at hb
    omega
  rw [← Char.ofNat_toNat c, hc]

end Text

theorem Bytes.ofText_eq_map {s : String} (h : ∀ c ∈ s.toList, Text.IsPrintable c) :
    Bytes.ofText s = s.toList.map fun c => UInt8.ofNat c.toNat := by
  have hone : ∀ c ∈ s.toList, String.utf8EncodeChar c = [UInt8.ofNat c.toNat] := by
    intro c hc
    have hlow : c.toNat < 128 := by
      have := (h c hc).2
      omega
    have hsize : c.utf8Size = 1 := by
      rw [Char.utf8Size_eq_one_iff]
      exact UInt32.le_iff_toNat_le.mpr (Nat.le_of_lt_succ hlow)
    rw [String.utf8EncodeChar_eq_singleton hsize]
    rfl
  have hbytes : Bytes.ofText s = s.toList.flatMap String.utf8EncodeChar := by
    rw [ofText, String.toUTF8_eq_toByteArray, ← String.utf8Encode_toList]
    exact List.toList_data_toByteArray
  rw [hbytes, List.flatMap_def, List.map_congr_left hone, ← List.flatMap_def, List.map_eq_flatMap]

namespace Http.Header

theorem isTextByte_ofText {s : String} (h : ∀ c ∈ s.toList, Text.IsPrintable c) :
    ∀ b ∈ Bytes.ofText s, isTextByte b = true := by
  intro b hb
  rw [Bytes.ofText_eq_map h] at hb
  obtain ⟨c, hc, rfl⟩ := List.mem_map.mp hb
  obtain ⟨hlow, hhigh⟩ := h c hc
  have hbyte : (UInt8.ofNat c.toNat).toNat = c.toNat :=
    UInt8.toNat_ofNat_of_lt (show c.toNat < 256 by omega)
  simp [isTextByte, hbyte, hlow, hhigh]

/-- A printable text goes into a header and comes out again. -/
theorem text_ofText {s : String} (h : ∀ c ∈ s.toList, Text.IsPrintable c) :
    text? (Bytes.ofText s) = some s := by
  have hback : (Bytes.ofText s).map (fun b => Char.ofNat b.toNat) = s.toList := by
    rw [Bytes.ofText_eq_map h, List.map_map]
    refine (List.map_congr_left ?_).trans (List.map_id s.toList)
    intro c hc
    have hhigh := (h c hc).2
    have hbyte : (UInt8.ofNat c.toNat).toNat = c.toNat :=
      UInt8.toNat_ofNat_of_lt (show c.toNat < 256 by omega)
    simp [hbyte]
  rw [text?, if_pos (List.all_eq_true.mpr (isTextByte_ofText h)), hback, String.ofList_toList]

/-- What can be read as text may stand in a header. -/
theorem isValueByte_of_isTextByte {b : UInt8} (h : isTextByte b = true) : isValueByte b = true := by
  simp only [isTextByte, isValueByte, Bool.or_eq_true, Bool.and_eq_true, decide_eq_true_eq] at *
  omega

end Http.Header

namespace Base64

theorem value_symbol : ∀ n < 64, value? (symbol n) = some n := by decide

theorem symbol_ne_pad : ∀ n < 64, symbol n ≠ '=' := by decide

/-- A character that has a value is the symbol of that value. -/
theorem symbol_of_value {c : Char} {n : Nat} (h : value? c = some n) : n < 64 ∧ symbol n = c := by
  have hc : Char.ofNat c.toNat = c := Char.ofNat_toNat c
  simp only [value?] at h
  split at h
  · cases h
    refine ⟨by omega, ?_⟩
    rw [symbol, if_pos (by omega), show 65 + (c.toNat - 65) = c.toNat by omega, hc]
  · split at h
    · cases h
      refine ⟨by omega, ?_⟩
      rw [symbol, if_neg (by omega), if_pos (by omega),
        show 97 + (c.toNat - 97 + 26 - 26) = c.toNat by omega, hc]
    · split at h
      · cases h
        refine ⟨by omega, ?_⟩
        rw [symbol, if_neg (by omega), if_neg (by omega), if_pos (by omega),
          show 48 + (c.toNat - 48 + 52 - 52) = c.toNat by omega, hc]
      · split at h
        · cases h
          simp [symbol, *]
        · split at h
          · cases h
            simp [symbol, *]
          · cases h

theorem ofNat_eq {b : UInt8} {n : Nat} (h : n = b.toNat) : UInt8.ofNat n = b := by
  rw [h, UInt8.ofNat_toNat]

/-- What is written is read back. -/
theorem decodeChars_encodeChars (bytes : Bytes) : decodeChars (encodeChars bytes) = some bytes := by
  induction bytes using encodeChars.induct with
  | case1 => rfl
  | case2 a =>
    have ha := a.toNat_lt
    have hx : a.toNat % 4 * 16 < 64 := by omega
    simp only [encodeChars, decodeChars, value_symbol (a.toNat / 4) (by omega), value_symbol _ hx,
      Option.bind_eq_bind, Option.bind_some]
    simp only [↓reduceIte, true_and]
    rw [if_pos (by omega), ofNat_eq (b := a) (by omega)]
  | case3 a b =>
    have ha := a.toNat_lt
    have hb := b.toNat_lt
    have hx : a.toNat % 4 * 16 + b.toNat / 16 < 64 := by omega
    have hy : b.toNat % 16 * 4 < 64 := by omega
    simp only [encodeChars, decodeChars, value_symbol (a.toNat / 4) (by omega), value_symbol _ hx,
      value_symbol _ hy, if_neg (symbol_ne_pad _ hy), Option.bind_eq_bind, Option.bind_some]
    simp only [↓reduceIte, true_and]
    rw [if_pos (by omega), ofNat_eq (b := a) (by omega), ofNat_eq (b := b) (by omega)]
  | case4 a b c rest ih =>
    have ha := a.toNat_lt
    have hb := b.toNat_lt
    have hc := c.toNat_lt
    have hx : a.toNat % 4 * 16 + b.toNat / 16 < 64 := by omega
    have hy : b.toNat % 16 * 4 + c.toNat / 64 < 64 := by omega
    have hz : c.toNat % 64 < 64 := by omega
    simp only [encodeChars, decodeChars, value_symbol (a.toNat / 4) (by omega), value_symbol _ hx,
      value_symbol _ hy, value_symbol _ hz, if_neg (symbol_ne_pad _ hy),
      if_neg (symbol_ne_pad _ hz), ih, Option.bind_eq_bind, Option.bind_some]
    rw [ofNat_eq (b := a) (by omega), ofNat_eq (b := b) (by omega), ofNat_eq (b := c) (by omega)]

/-- Only what is written so is read. -/
theorem encodeChars_of_decodeChars {cs : List Char} {bytes : Bytes}
    (h : decodeChars cs = some bytes) : encodeChars bytes = cs := by
  match cs with
  | [] =>
    cases h
    rfl
  | [_] | [_, _] | [_, _, _] => simp [decodeChars] at h
  | w :: x :: y :: z :: rest =>
    simp only [decodeChars, Option.bind_eq_bind, Option.bind_eq_some_iff] at h
    obtain ⟨a, ha, b, hb, h⟩ := h
    obtain ⟨ha, rfl⟩ := symbol_of_value ha
    obtain ⟨hb, rfl⟩ := symbol_of_value hb
    have hfirst : (UInt8.ofNat (a * 4 + b / 16)).toNat = a * 4 + b / 16 :=
      UInt8.toNat_ofNat_of_lt (show _ < 256 by omega)
    split at h
    · rename_i hy
      split at h
      · rename_i hend
        obtain ⟨rfl, rfl, hzero⟩ := hend
        cases h
        simp only [encodeChars, hfirst, hy, show (a * 4 + b / 16) / 4 = a by omega,
          show (a * 4 + b / 16) % 4 * 16 = b by omega]
      · cases h
    · obtain ⟨c, hc, hthen⟩ := Option.bind_eq_some_iff.mp h
      obtain ⟨hc, rfl⟩ := symbol_of_value hc
      have hsecond : (UInt8.ofNat (b % 16 * 16 + c / 4)).toNat = b % 16 * 16 + c / 4 :=
        UInt8.toNat_ofNat_of_lt (show _ < 256 by omega)
      split at hthen
      · rename_i hz
        split at hthen
        · rename_i hend
          obtain ⟨rfl, hzero⟩ := hend
          cases hthen
          simp only [encodeChars, hfirst, hsecond, hz, show (a * 4 + b / 16) / 4 = a by omega,
            show (a * 4 + b / 16) % 4 * 16 + (b % 16 * 16 + c / 4) / 16 = b by omega,
            show (b % 16 * 16 + c / 4) % 16 * 4 = c by omega]
        · cases hthen
      · obtain ⟨d, hd, hlast⟩ := Option.bind_eq_some_iff.mp hthen
        obtain ⟨more, hmore, hbytes⟩ := Option.bind_eq_some_iff.mp hlast
        obtain ⟨hd, rfl⟩ := symbol_of_value hd
        have hthird : (UInt8.ofNat (c % 4 * 64 + d)).toNat = c % 4 * 64 + d :=
          UInt8.toNat_ofNat_of_lt (show _ < 256 by omega)
        cases hbytes
        simp only [encodeChars, hfirst, hsecond, hthird, encodeChars_of_decodeChars hmore,
          show (a * 4 + b / 16) / 4 = a by omega,
          show (a * 4 + b / 16) % 4 * 16 + (b % 16 * 16 + c / 4) / 16 = b by omega,
          show (b % 16 * 16 + c / 4) % 16 * 4 + (c % 4 * 64 + d) / 64 = c by omega,
          show (c % 4 * 64 + d) % 64 = d by omega]

theorem symbol_printable : ∀ n < 64, Text.isBlank (symbol n) = false ∧ 32 ≤ (symbol n).toNat ∧
    (symbol n).toNat < 127 := by decide

theorem mem_encodeChars {bytes : Bytes} {c : Char} (h : c ∈ encodeChars bytes) :
    c = '=' ∨ ∃ n < 64, symbol n = c := by
  induction bytes using encodeChars.induct with
  | case1 => cases h
  | case2 a =>
    have ha := a.toNat_lt
    simp only [encodeChars, List.mem_cons, List.not_mem_nil, or_false] at h
    rcases h with rfl | rfl | rfl | rfl
    · exact .inr ⟨_, by omega, rfl⟩
    · exact .inr ⟨_, by omega, rfl⟩
    · exact .inl rfl
    · exact .inl rfl
  | case3 a b =>
    have ha := a.toNat_lt
    have hb := b.toNat_lt
    simp only [encodeChars, List.mem_cons, List.not_mem_nil, or_false] at h
    rcases h with rfl | rfl | rfl | rfl
    · exact .inr ⟨_, by omega, rfl⟩
    · exact .inr ⟨_, by omega, rfl⟩
    · exact .inr ⟨_, by omega, rfl⟩
    · exact .inl rfl
  | case4 a b c' rest ih =>
    have ha := a.toNat_lt
    have hb := b.toNat_lt
    have hc := c'.toNat_lt
    simp only [encodeChars, List.mem_cons] at h
    rcases h with rfl | rfl | rfl | rfl | h
    · exact .inr ⟨_, by omega, rfl⟩
    · exact .inr ⟨_, by omega, rfl⟩
    · exact .inr ⟨_, by omega, rfl⟩
    · exact .inr ⟨_, by omega, rfl⟩
    · exact ih h

/-- Base64 is printable and has no blanks. -/
theorem encode_printable (bytes : Bytes) {c : Char} (h : c ∈ (encode bytes).toList) :
    Text.isBlank c = false ∧ Text.IsPrintable c := by
  rw [encode, String.toList_ofList] at h
  rcases mem_encodeChars h with rfl | ⟨n, hn, rfl⟩
  · exact ⟨rfl, by decide, by decide⟩
  · exact symbol_printable n hn

theorem trim_encode (bytes : Bytes) : Text.trim (encode bytes) = encode bytes := by
  apply Text.trim_of_isTrimmed
  intro c hc
  rcases hc with hc | hc
  · exact (encode_printable bytes (List.mem_of_head? hc)).1
  · exact (encode_printable bytes (List.mem_of_getLast? hc)).1

theorem encode_eq_empty_iff {bytes : Bytes} : encode bytes = "" ↔ bytes = [] := by
  rw [encode, ← String.toList_inj, String.toList_ofList, String.toList_empty]
  constructor
  · intro h
    have hback := decodeChars_encodeChars bytes
    rw [h] at hback
    exact (Option.some.inj hback).symm
  · intro h
    rw [h]
    rfl

/-- A text stands for a byte string exactly when it is the one that is written for it. -/
theorem decode_eq_some_iff {s : String} {bytes : Bytes} :
    decode? s = some bytes ↔ s = encode bytes := by
  constructor
  · intro h
    rw [encode, encodeChars_of_decodeChars h, String.ofList_toList]
  · intro h
    rw [h, decode?, encode, String.toList_ofList, decodeChars_encodeChars]

end Base64

end ClusterAccess
