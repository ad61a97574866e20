import ClusterAccess.Proofs.Literals

namespace ClusterAccess.Json

namespace Written

mutual

/-- A value of which every part can be read. -/
def of : Json → Written
  | .null => .null
  | .bool b => .bool b
  | .num n => .num n
  | .str s => .str s
  | .arr items => .arr (ofItems items)
  | .obj members => .obj (ofMembers members)

def ofItems : List Json → List Written
  | [] => []
  | v :: vs => of v :: ofItems vs

def ofMembers : List (String × Json) → List (Option String × Written)
  | [] => []
  | (key, v) :: rest => (some key, of v) :: ofMembers rest

end

theorem of_arr (items : List Json) : of (.arr items) = .arr (items.map of) := by
  have hitems : ofItems items = items.map of := by
    induction items with
    | nil => rfl
    | cons v vs ih => rw [ofItems, ih, List.map_cons]
  rw [of, hitems]

theorem of_obj (members : List (String × Json)) :
    of (.obj members) = .obj (members.map fun m => (some m.1, of m.2)) := by
  have hmembers : ofMembers members = members.map fun m => (some m.1, of m.2) := by
    induction members with
    | nil => rfl
    | cons m rest ih => rw [ofMembers, ih, List.map_cons]
  rw [of, hmembers]

end Written

/-- A value without doubles, whose whole numbers are words, and in which so many arrays and objects
are open at once at most. -/
inductive Fits : Nat → Json → Prop where
  | null {depth : Nat} : Fits depth .null
  | bool {depth : Nat} (b : Bool) : Fits depth (.bool b)
  | whole {depth : Nat} {n : Int} (word : IsWord n) : Fits depth (.num (.whole n))
  | str {depth : Nat} (s : String) : Fits depth (.str s)
  | arr {depth : Nat} {items : List Json} (inner : ∀ v ∈ items, Fits depth v) :
      Fits (depth + 1) (.arr items)
  | obj {depth : Nat} {members : List (String × Json)} (inner : ∀ m ∈ members, Fits depth m.2) :
      Fits (depth + 1) (.obj members)

namespace Reader

variable {depth : Nat} {v : Json}

/-- What may stand in front where a value is expected. -/
def Opens (c : Char) : Prop :=
  c ∉ [' ', '\n', '\t', '\r', ']']

instance (c : Char) : Decidable (Opens c) :=
  inferInstanceAs (Decidable (_ ∉ _))

theorem skipBlank_opens {c : Char} (h : Opens c) (rest : List Char) :
    skipBlank (c :: rest) = c :: rest := by
  simp only [Opens, List.mem_cons, List.not_mem_nil, or_false, not_or] at h
  obtain ⟨hspace, hline, htab, hreturn, -⟩ := h
  simp [skipBlank, hspace, hline, htab, hreturn]

theorem ne_of_isDigit {c d : Char} (hc : c.isDigit = true) (hd : d.isDigit = false) : c ≠ d := by
  rintro rfl
  cases hc.symm.trans hd

theorem opens_digit {c : Char} (h : c.isDigit = true) : Opens c := by
  simp [Opens, ne_of_isDigit h]

theorem value_digit {c : Char} (h : c.isDigit = true) (fuel : Nat) (rest : List Char) :
    value depth (fuel + 1) (c :: rest) = unsigned? false (c :: rest) := by
  have hne : ∀ d : Char, d.isDigit = false → c ≠ d := fun d => ne_of_isDigit h
  simp [value, skipBlank_opens (opens_digit h), hne '"' rfl, hne '[' rfl, hne '\x7b' rfl,
    hne '-' rfl, hne 't' rfl, hne 'f' rfl, hne 'n' rfl]

theorem exists_opens (h : Fits depth v) : ∃ c cs, Printer.value v = c :: cs ∧ Opens c := by
  cases h with
  | null => exact ⟨'n', _, rfl, by decide⟩
  | bool b =>
    cases b with
    | true => exact ⟨'t', _, rfl, by decide⟩
    | false => exact ⟨'f', _, rfl, by decide⟩
  | whole word =>
    rename_i n
    by_cases hn : n < 0
    · exact ⟨'-', Printer.natural n.natAbs, if_pos hn, by decide⟩
    · obtain ⟨d, ds, hds, hd⟩ := exists_digit n.natAbs
      exact ⟨d, ds, (if_neg hn).trans hds, opens_digit hd⟩
  | str s => exact ⟨'"', _, rfl, by decide⟩
  | arr inner => exact ⟨'[', _, rfl, by decide⟩
  | obj inner => exact ⟨'\x7b', _, rfl, by decide⟩

theorem exists_opens_elements (h : Fits depth v) (vs : List Json) :
    ∃ c cs, Printer.elements (v :: vs) = c :: cs ∧ Opens c := by
  obtain ⟨c, cs, hv, hc⟩ := exists_opens h
  cases vs with
  | nil => exact ⟨c, cs, hv, hc⟩
  | cons w ws => exact ⟨c, _, by rw [Printer.elements, hv, List.cons_append], hc⟩

theorem exists_quote_members (m : String × Json) (ms : List (String × Json)) :
    ∃ cs, Printer.members (m :: ms) = '"' :: cs := by
  cases ms with
  | nil => exact ⟨_, rfl⟩
  | cons m' ms => exact ⟨_, rfl⟩

/-- A printed value is read as it was, whatever stands behind it. Each of its characters is worth
two steps. -/
def ReadsBack (depth : Nat) (v : Json) : Prop :=
  ∀ rest fuel, EndsNumber rest → 2 * (Printer.value v).length ≤ fuel →
    value depth fuel (Printer.value v ++ rest) = some (.of v, rest)

theorem endsNumber_cons {c : Char} (h : c ∈ [',', ']', '\x7d']) (rest : List Char) :
    EndsNumber (c :: rest) := by
  intro d hd
  obtain rfl : c = d := by simpa using hd
  simp only [List.mem_cons, List.not_mem_nil, or_false] at h
  rcases h with rfl | rfl | rfl <;> decide

theorem elements_print {items : List Json} (hitems : items ≠ [])
    (h : ∀ v ∈ items, ReadsBack depth v) (rest : List Char) (fuel : Nat)
    (hfuel : 2 * (Printer.elements items).length < fuel) :
    elements depth fuel (Printer.elements items ++ ']' :: rest) = some (items.map .of, rest) := by
  induction items generalizing fuel with
  | nil => exact absurd rfl hitems
  | cons v vs ih =>
    obtain ⟨fuel, rfl⟩ := Nat.exists_eq_succ_of_ne_zero (Nat.ne_zero_of_lt hfuel)
    have hfirst : ReadsBack depth v := h v List.mem_cons_self
    cases vs with
    | nil =>
      have hv := hfirst (']' :: rest) fuel (endsNumber_cons (by simp) _)
        (by simpa [Printer.elements, Nat.lt_succ_iff] using hfuel)
      simp [elements, Printer.elements, hv, skipBlank]
    | cons w ws =>
      simp only [Printer.elements, List.length_append, List.length_cons] at hfuel
      have hv := hfirst (',' :: (Printer.elements (w :: ws) ++ ']' :: rest)) fuel
        (endsNumber_cons (by simp) _) (by omega)
      have hvs := ih (List.cons_ne_nil w ws) (fun u hu => h u (List.mem_cons_of_mem v hu)) fuel
        (by omega)
      simp [elements, Printer.elements, hv, hvs, skipBlank]

theorem members_print {ms : List (String × Json)} (hms : ms ≠ [])
    (h : ∀ m ∈ ms, ReadsBack depth m.2) (rest : List Char) (fuel : Nat)
    (hfuel : 2 * (Printer.members ms).length < fuel) :
    members depth fuel (Printer.members ms ++ '\x7d' :: rest) =
      some (ms.map fun m => (some m.1, .of m.2), rest) := by
  induction ms generalizing fuel with
  | nil => exact absurd rfl hms
  | cons m ms ih =>
    obtain ⟨key, v⟩ := m
    obtain ⟨fuel, rfl⟩ := Nat.exists_eq_succ_of_ne_zero (Nat.ne_zero_of_lt hfuel)
    have hfirst : ReadsBack depth v := h (key, v) List.mem_cons_self
    cases ms with
    | nil =>
      simp only [Printer.members, List.length_append, List.length_cons] at hfuel
      have hv := hfirst ('\x7d' :: rest) fuel (endsNumber_cons (by simp) _) (by omega)
      obtain ⟨ps, hkey, hps⟩ := string_quoted key (':' :: (Printer.value v ++ '\x7d' :: rest))
      simp [members, Printer.members, Printer.quoted, skipBlank, hkey, hps, hv]
    | cons m' ms =>
      simp only [Printer.members, List.length_append, List.length_cons] at hfuel
      have hv := hfirst (',' :: (Printer.members (m' :: ms) ++ '\x7d' :: rest)) fuel
        (endsNumber_cons (by simp) _) (by omega)
      have hvs := ih (List.cons_ne_nil m' ms) (fun u hu => h u (List.mem_cons_of_mem _ hu)) fuel
        (by omega)
      obtain ⟨ps, hkey, hps⟩ := string_quoted key
        (':' :: (Printer.value v ++ ',' :: (Printer.members (m' :: ms) ++ '\x7d' :: rest)))
      simp [members, Printer.members, Printer.quoted, skipBlank, hkey, hps, hv, hvs]

/-- A value has at least one character. -/
theorem readsBack_of_succ (h : Fits depth v)
    (hread : ∀ rest fuel, EndsNumber rest → 2 * (Printer.value v).length ≤ fuel + 1 →
      value depth (fuel + 1) (Printer.value v ++ rest) = some (.of v, rest)) :
    ReadsBack depth v := by
  intro rest fuel hrest hfuel
  cases fuel with
  | zero =>
    obtain ⟨c, cs, hv, -⟩ := exists_opens h
    simp [hv] at hfuel
  | succ fuel => exact hread rest fuel hrest hfuel

theorem readsBack_whole {n : Int} (word : IsWord n) : ReadsBack depth (.num (.whole n)) := by
  refine readsBack_of_succ (.whole word) fun rest fuel hrest _ => ?_
  have hread := unsigned_natural hrest word
  by_cases hn : n < 0
  · simp only [hn, decide_true] at hread
    simp [value, Printer.value, Printer.number, Printer.integer, hn, skipBlank, hread, Written.of]
  · simp only [hn, decide_false] at hread
    obtain ⟨d, ds, hds, hd⟩ := exists_digit n.natAbs
    rw [hds] at hread
    simp only [Printer.value, Printer.number, Printer.integer, hn, if_false, hds]
    exact (value_digit hd fuel _).trans hread

theorem readsBack_arr {items : List Json} (inner : ∀ v ∈ items, Fits depth v)
    (h : ∀ v ∈ items, ReadsBack depth v) : ReadsBack (depth + 1) (.arr items) := by
  refine readsBack_of_succ (.arr inner) fun rest fuel _ hfuel => ?_
  rw [Written.of_arr]
  cases items with
  | nil => simp [value, Printer.value, Printer.elements, skipBlank, within]
  | cons v vs =>
    simp only [Printer.value, List.length_append, List.length_cons] at hfuel
    have hread := elements_print (List.cons_ne_nil v vs) h rest fuel (by omega)
    obtain ⟨c, cs, hv, hc⟩ := exists_opens_elements (inner v List.mem_cons_self) vs
    rw [hv, List.cons_append] at hread
    have hclose : c ≠ ']' := fun h => hc (by simp [h])
    have hbracket : Opens '[' := by decide
    simp [value, Printer.value, hv, skipBlank_opens hbracket, skipBlank_opens hc, hclose, hread,
      within]

theorem readsBack_obj {ms : List (String × Json)} (inner : ∀ m ∈ ms, Fits depth m.2)
    (h : ∀ m ∈ ms, ReadsBack depth m.2) : ReadsBack (depth + 1) (.obj ms) := by
  refine readsBack_of_succ (.obj inner) fun rest fuel _ hfuel => ?_
  rw [Written.of_obj]
  cases ms with
  | nil => simp [value, Printer.value, Printer.members, skipBlank, within]
  | cons m ms =>
    simp only [Printer.value, List.length_append, List.length_cons] at hfuel
    have hread := members_print (List.cons_ne_nil m ms) h rest fuel (by omega)
    obtain ⟨cs, hcs⟩ := exists_quote_members m ms
    rw [hcs, List.cons_append] at hread
    have hbrace : Opens '\x7b' := by decide
    have hquote : Opens '"' := by decide
    simp [value, Printer.value, hcs, skipBlank_opens hbrace, skipBlank_opens hquote, hread, within]

theorem readsBack (h : Fits depth v) : ReadsBack depth v := by
  induction h with
  | null =>
    refine readsBack_of_succ .null fun rest fuel _ _ => ?_
    simp [value, Printer.value, skipBlank, word?, Written.of]
  | bool b =>
    refine readsBack_of_succ (.bool b) fun rest fuel _ _ => ?_
    cases b <;> simp [value, Printer.value, skipBlank, word?, Written.of]
  | whole word => exact readsBack_whole word
  | str s =>
    refine readsBack_of_succ (.str s) fun rest fuel _ _ => ?_
    obtain ⟨ps, hread, hs⟩ := string_quoted s rest
    simp [value, Printer.value, Printer.quoted, skipBlank, hread, hs, Written.of]
  | arr inner ih => exact readsBack_arr inner ih
  | obj inner ih => exact readsBack_obj inner ih

end Reader

/-- A printed document is read as it was. -/
theorem document_print {v : Json} (h : Fits maxDepth v) : document? v.print = some (.of v) := by
  have hread := Reader.readsBack h [] (2 * (Printer.value v).length + 2)
    (by simp [Reader.EndsNumber]) (by omega)
  rw [List.append_nil] at hread
  simp only [document?, print, String.toList_ofList, hread]
  rfl

end ClusterAccess.Json
