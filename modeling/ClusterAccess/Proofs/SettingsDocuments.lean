import ClusterAccess.Proofs.PrintedValues
import ClusterAccess.Proofs.Tables
import ClusterAccess.Proofs.Words
import ClusterAccess.Settings.Document

namespace ClusterAccess

namespace Json.Written

theorem members_of (ms : List (String × Json)) :
    (of (.obj ms)).members? = some (ms.map fun m => (m.1, of m.2)) := by
  rw [of_obj, members?, List.mapM_map]
  exact mapM_eq_map fun m _ => rfl

theorem list_of {α : Type} {decode : Written → Option α} {encode : α → Json}
    (h : ∀ a, decode (of (encode a)) = some a) (as : List α) :
    format.list? decode (of (.arr (as.map encode))) = some as := by
  have hitems : (of (.arr (as.map encode))).items? = some (as.map fun a => of (encode a)) := by
    rw [of_arr, List.map_map]
    rfl
  have hdecoded : (as.map fun a => of (encode a)).mapM decode = some as := by
    rw [List.mapM_map]
    exact (mapM_eq_map fun a _ => h a).trans (by rw [List.map_id'])
  simp only [Format.list?, format, hitems, hdecoded, Option.bind_eq_bind, Option.bind_some]

theorem table_of {entries : List (String × String)} (h : IsSorted entries) :
    format.table? format.text? (of (.obj (entries.map fun c => (c.1, .str c.2)))) =
      some entries := by
  have hentries : format.entries? (of (.obj (entries.map fun c => (c.1, .str c.2)))) =
      some (entries.map fun c => (c.1, str c.2)) := by
    refine (members_of _).trans ?_
    rw [List.map_map]
    rfl
  have hdecoded : (entries.map fun c => (c.1, str c.2)).mapM
      (fun e => (format.text? e.2).map (e.1, ·)) = some entries := by
    rw [List.mapM_map]
    exact (mapM_eq_map fun c _ => rfl).trans (by rw [List.map_id'])
  simp only [Format.table?, hentries, hdecoded, Option.bind_eq_bind, Option.bind_some,
    h.sortMembers_eq]

variable {w : Written}

theorem IsExact.of_members (hw : w.IsExact) {entries : List (String × Written)}
    (h : w.members? = some entries) {entry : String × Written} (hentry : entry ∈ entries) :
    entry.2.IsExact := by
  cases hw with
  | obj inner =>
    obtain ⟨m, hm, heq⟩ := mem_of_mapM h hentry
    obtain ⟨key, -, rfl⟩ := Option.map_eq_some_iff.mp heq
    exact inner m hm
  | _ => cases h

/-- A record that is no list is an object. -/
theorem record_of_members (hw : ∀ items, w ≠ .arr items) (names : List String) (needed : Nat) :
    format.record? names needed w = w.members?.bind (Format.fields? names) := by
  cases w with
  | arr items => exact absurd rfl (hw items)
  | _ => rfl

theorem IsExact.of_record {names : List String} {needed : Nat} {fields : List (Option Written)}
    (hw : w.IsExact) (h : format.record? names needed w = some fields) {v : Written}
    (hv : some v ∈ fields) : v.IsExact := by
  by_cases harr : ∃ items, w = .arr items
  · obtain ⟨items, rfl⟩ := harr
    cases hw with
    | arr inner =>
      dsimp only [format] at h
      split at h
      · cases h
      · cases h
        obtain ⟨i, -, hi⟩ := List.mem_map.mp hv
        exact inner v (List.mem_of_getElem? hi)
  · rw [record_of_members fun items heq => harr ⟨items, heq⟩] at h
    obtain ⟨entries, hentries, hfields⟩ := Option.bind_eq_some_iff.mp h
    obtain ⟨entry, hentry, rfl⟩ := Format.mem_of_fields hfields hv
    exact hw.of_members hentries hentry

theorem natural_lt {n : Nat} (hw : w.IsExact) (h : format.natural? w = some n) : n < 2 ^ 64 := by
  unfold Format.natural? at h
  simp only [Option.bind_eq_bind, Option.bind_eq_some_iff] at h
  obtain ⟨i, hi, h⟩ := h
  cases hw with
  | whole word =>
    cases hi
    split at h
    · cases h
      have hlt := word.2
      rw [Int.ofNat_eq_natCast] at hlt
      omega
    · cases h
  | _ => cases hi

end Json.Written

namespace Settings

open Json (Written)
open Json.Written (format)

/-- Contexts are in order, and times have 64 bits. -/
structure IsWritable (s : Settings) : Prop where
  sorted : Json.IsSorted s.contexts
  debounce : s.watch.debounce < 2 ^ 64
  poll : s.watch.poll < 2 ^ 64

theorem optional_jsonOfText (text : Option String) :
    format.optional? format.text? (some (.of (jsonOfText? text))) = some text := by
  cases text <;> rfl

theorem choice_name (strategy : Strategy) :
    format.choice? Strategy.byName (.of (.str strategy.name)) = some strategy := by
  cases strategy <;> rfl

theorem rule_toJson (rule : DenyRule) : rule? format (.of (ruleToJson rule)) = some rule :=
  rfl

/-- The values of the fields in order. -/
def fieldValues (s : Settings) : List Json := [
  jsonOfText? s.kubeconfig,
  .str s.strategy.name,
  .obj (s.contexts.map fun c => (c.1, .str c.2)),
  .bool s.requireIdentity,
  .arr (s.denied.map ruleToJson),
  .obj [("enabled", .bool s.validation)],
  .obj [("group", .str s.selfReview.group), ("resource", .str s.selfReview.resource)],
  .obj [("debounce_ms", .nat s.watch.debounce), ("poll_interval_ms", .nat s.watch.poll)],
  jsonOfText? s.userAgent]

theorem toJson_eq (s : Settings) : toJson s = .obj (fieldNames.zip (fieldValues s)) :=
  rfl

theorem record_toJson (s : Settings) :
    format.record? fieldNames 0 (.of (toJson s)) =
      some ((fieldValues s).map fun v => some (.of v)) :=
  rfl

variable {s : Settings}

/-- The fields that are written are the fields that are read, each with its own value. -/
theorem read_toJson (h : s.IsWritable) : read? format (.of (toJson s)) = some s := by
  unfold read?
  rw [record_toJson]
  simp only [fieldValues, List.map_cons, List.map_nil, Option.bind_eq_bind, Option.bind_some,
    Format.default?, optional_jsonOfText, choice_name, Written.table_of h.sorted,
    Written.list_of rule_toJson]
  rfl

section

open Json (Fits)

variable {depth : Nat}

theorem fits_text (text : Option String) : Fits depth (jsonOfText? text) := by
  cases text with
  | none => exact .null
  | some t => exact .str t

theorem fits_nat {n : Nat} (h : n < 2 ^ 64) : Fits depth (.nat n) :=
  .whole ⟨by omega, by omega⟩

theorem fits_rule (rule : DenyRule) : Fits (depth + 1) (ruleToJson rule) :=
  .obj (by simp [Fits.str])

theorem fits_toJson (h : s.IsWritable) : Fits (depth + 3) (toJson s) := by
  rw [toJson_eq]
  refine .obj fun m hm => ?_
  have hvalue : m.2 ∈ fieldValues s := (List.of_mem_zip hm).2
  simp only [fieldValues, List.mem_cons, List.not_mem_nil, or_false] at hvalue
  rcases hvalue with hv | hv | hv | hv | hv | hv | hv | hv | hv <;> rw [hv]
  · exact fits_text s.kubeconfig
  · exact .str _
  · refine .obj fun c hc => ?_
    obtain ⟨context, -, rfl⟩ := List.mem_map.mp hc
    exact .str _
  · exact .bool _
  · refine .arr fun v hv => ?_
    obtain ⟨rule, -, rfl⟩ := List.mem_map.mp hv
    exact fits_rule rule
  · exact .obj (by simp [Fits.bool])
  · exact .obj (by simp [Fits.str])
  · exact .obj (by simp [fits_nat h.debounce, fits_nat h.poll])
  · exact fits_text s.userAgent

end

theorem document_print (h : s.IsWritable) : Json.document? s.print = some (.of (toJson s)) :=
  Json.document_print (fits_toJson h)

/-- The document is read as these settings, whatever is wrong with them. -/
def Holds (raw : String) (s : Settings) : Prop :=
  (Json.document? raw).bind (read? format) = some s

theorem holds_print (h : s.IsWritable) : Holds s.print s := by
  rw [Holds, document_print h, Option.bind_some, read_toJson h]

theorem watch_lt {w : Written} {times : WatchTimes} (hw : w.IsExact)
    (h : watch? format w = some times) : times.debounce < 2 ^ 64 ∧ times.poll < 2 ^ 64 := by
  unfold watch? at h
  simp only [Option.bind_eq_bind, Option.bind_eq_some_iff] at h
  obtain ⟨fields, hfields, h⟩ := h
  split at h
  · rename_i debounce poll
    simp only [Option.bind_eq_some_iff, Option.some.injEq] at h
    obtain ⟨d, hd, p, hp, rfl⟩ := h
    have hshort : ∀ {field : Option Written} {n standard : Nat}, field ∈ [debounce, poll] →
        standard < 2 ^ 64 → Format.default? format.natural? standard field = some n →
        n < 2 ^ 64 := by
      intro field n standard hfield hstandard hn
      rcases Format.default_eq_some hn with rfl | ⟨v, rfl, hv⟩
      · exact hstandard
      · exact Written.natural_lt (hw.of_record hfields hfield) hv
    exact ⟨hshort (by simp) (by decide) hd, hshort (by simp) (by decide) hp⟩
  · cases h

theorem isWritable_of_read {w : Written} (hw : w.IsExact) (h : read? format w = some s) :
    s.IsWritable := by
  unfold read? at h
  simp only [Option.bind_eq_bind, Option.bind_eq_some_iff] at h
  obtain ⟨fields, hfields, h⟩ := h
  split at h
  · rename_i kubeconfig strategy contexts identity denied validation review watch agent
    simp only [Option.bind_eq_some_iff, Option.some.injEq] at h
    obtain ⟨-, -, -, -, cs, hcs, -, -, -, -, -, -, -, -, ts, hts, -, -, rfl⟩ := h
    have hsorted : Json.IsSorted cs := by
      rcases Format.default_eq_some hcs with rfl | ⟨v, -, hv⟩
      · exact List.Pairwise.nil
      · exact Format.isSorted_of_table hv
    have hshort : ts.debounce < 2 ^ 64 ∧ ts.poll < 2 ^ 64 := by
      rcases Format.default_eq_some hts with rfl | ⟨v, rfl, hv⟩
      · decide
      · exact watch_lt (hw.of_record hfields (by simp)) hv
    exact ⟨hsorted, hshort.1, hshort.2⟩
  · cases h

theorem Holds.isWritable {raw : String} (h : Holds raw s) : s.IsWritable := by
  obtain ⟨w, hw, hread⟩ := Option.bind_eq_some_iff.mp h
  exact isWritable_of_read (Json.isExact_document hw) hread

/-- Every rule has a version, and no time is zero. -/
structure IsUsable (s : Settings) : Prop where
  versioned : ∀ rule ∈ s.denied, rule.version ≠ ""
  debounced : 0 < s.watch.debounce
  polled : 0 < s.watch.poll

/-- The first problem of settings, and the text that names it. -/
inductive Suffers (s : Settings) : Problem → String → Prop where
  | rule {i : Nat} (found : i < s.denied.length) (unversioned : s.denied[i].version = "")
      (first : ∀ j (hj : j < i), s.denied[j].version ≠ "") :
      Suffers s (.ruleWithoutVersion i)
        ("denied_resources[" ++ toString i ++ "]: version is required")
  | debounce (versioned : ∀ rule ∈ s.denied, rule.version ≠ "") (zero : s.watch.debounce = 0) :
      Suffers s .noDebounce "watch.debounce_ms must be greater than zero"
  | poll (versioned : ∀ rule ∈ s.denied, rule.version ≠ "") (debounced : 0 < s.watch.debounce)
      (zero : s.watch.poll = 0) :
      Suffers s .noPoll "watch.poll_interval_ms must be greater than zero"

theorem findIdx_eq_some_iff {i : Nat} :
    s.denied.findIdx? (·.version = "") = some i ↔ ∃ found : i < s.denied.length,
      s.denied[i].version = "" ∧ ∀ j (hj : j < i), s.denied[j].version ≠ "" := by
  simp [List.findIdx?_eq_some_iff_getElem]

theorem findIdx_eq_none_iff :
    s.denied.findIdx? (·.version = "") = none ↔ ∀ rule ∈ s.denied, rule.version ≠ "" := by
  simp [List.findIdx?_eq_none_iff]

theorem IsUsable.problem_eq (h : s.IsUsable) : s.problem? = none := by
  simp only [problem?, findIdx_eq_none_iff.mpr h.versioned, h.debounced.ne', h.polled.ne',
    if_false]

section

variable {problem : Problem} {text : String}

theorem Suffers.not_isUsable (h : Suffers s problem text) : ¬ s.IsUsable := by
  intro husable
  cases h with
  | rule found unversioned _ => exact husable.versioned _ (List.getElem_mem found) unversioned
  | debounce _ zero => exact husable.debounced.ne' zero
  | poll _ _ zero => exact husable.polled.ne' zero

theorem Suffers.problem_eq (h : Suffers s problem text) : s.problem? = some problem := by
  cases h with
  | rule found unversioned first =>
    simp only [problem?, findIdx_eq_some_iff.mpr ⟨found, unversioned, first⟩]
  | debounce versioned zero =>
    simp only [problem?, findIdx_eq_none_iff.mpr versioned, zero, if_true]
  | poll versioned debounced zero =>
    simp only [problem?, findIdx_eq_none_iff.mpr versioned, debounced.ne', zero, if_false, if_true]

theorem Suffers.message_eq (h : Suffers s problem text) :
    (Error.invalid problem).message = "invalid configuration: " ++ text := by
  have htext : problem.message = text := by
    cases h <;> rfl
  rw [← htext]
  rfl

end

theorem isUsable_or_suffers (s : Settings) :
    s.IsUsable ∨ ∃ problem text, Suffers s problem text := by
  cases hindex : s.denied.findIdx? (·.version = "") with
  | some i =>
    obtain ⟨found, unversioned, first⟩ := findIdx_eq_some_iff.mp hindex
    exact .inr ⟨_, _, .rule found unversioned first⟩
  | none =>
    have versioned := findIdx_eq_none_iff.mp hindex
    rcases Nat.eq_zero_or_pos s.watch.debounce with zero | debounced
    · exact .inr ⟨_, _, .debounce versioned zero⟩
    · rcases Nat.eq_zero_or_pos s.watch.poll with zero | polled
      · exact .inr ⟨_, _, .poll versioned debounced zero⟩
      · exact .inl ⟨versioned, debounced, polled⟩

variable {raw : String}

/-- What may come of a document. -/
inductive Outcome (raw : String) : Except Error Settings → Prop where
  | accepted {s : Settings} (holds : Holds raw s) (usable : s.IsUsable) : Outcome raw (.ok s)
  | refused {s : Settings} {problem : Problem} {text : String} (holds : Holds raw s)
      (suffers : Suffers s problem text) : Outcome raw (.error (.invalid problem))
  | unread (nothing : ∀ s, ¬ Holds raw s) : Outcome raw (.error .unreadable)

theorem outcome_parse (raw : String) : Outcome raw (parse raw) := by
  unfold parse
  cases hread : (Json.document? raw).bind (read? format) with
  | none =>
    refine .unread fun s hs => ?_
    rw [Holds, hread] at hs
    cases hs
  | some s =>
    rcases isUsable_or_suffers s with husable | ⟨problem, text, hsuffers⟩
    · simpa only [husable.problem_eq] using .accepted hread husable
    · simpa only [hsuffers.problem_eq] using .refused hread hsuffers

theorem Holds.unique {s' : Settings} (h : Holds raw s) (h' : Holds raw s') : s = s' :=
  Option.some.inj (Eq.trans (Eq.symm h) h')

theorem parse_eq_ok_iff : parse raw = .ok s ↔ Holds raw s ∧ s.IsUsable := by
  have houtcome := outcome_parse raw
  generalize parse raw = result at houtcome
  cases houtcome with
  | accepted holds usable =>
    refine ⟨fun h => ?_, fun h => ?_⟩
    · cases h
      exact ⟨holds, usable⟩
    · rw [holds.unique h.1]
  | refused holds suffers =>
    refine ⟨nofun, fun h => ?_⟩
    exact absurd (holds.unique h.1 ▸ h.2) suffers.not_isUsable
  | unread nothing => exact ⟨nofun, fun h => absurd h.1 (nothing s)⟩

theorem parse_eq_unreadable_iff : parse raw = .error .unreadable ↔ ∀ s, ¬ Holds raw s := by
  have houtcome := outcome_parse raw
  generalize parse raw = result at houtcome
  cases houtcome with
  | accepted holds _ => exact ⟨nofun, fun h => absurd holds (h _)⟩
  | refused holds _ => exact ⟨nofun, fun h => absurd holds (h _)⟩
  | unread nothing => exact ⟨fun _ => nothing, fun _ => rfl⟩

theorem Holds.parse_eq_invalid_iff {problem : Problem} (h : Holds raw s) :
    parse raw = .error (.invalid problem) ↔ ∃ text, Suffers s problem text := by
  have houtcome := outcome_parse raw
  generalize parse raw = result at houtcome
  cases houtcome with
  | accepted holds usable =>
    refine ⟨nofun, fun ⟨text, suffers⟩ => ?_⟩
    exact absurd (holds.unique h ▸ usable) suffers.not_isUsable
  | refused holds suffers =>
    obtain rfl := holds.unique h
    refine ⟨fun h => ?_, fun ⟨text, suffers'⟩ => ?_⟩
    · cases h
      exact ⟨_, suffers⟩
    · rw [Option.some.inj (suffers.problem_eq.symm.trans suffers'.problem_eq)]
  | unread nothing => exact absurd h (nothing s)

theorem parse_print (h : s.IsWritable) (husable : s.IsUsable) : parse s.print = .ok s :=
  parse_eq_ok_iff.mpr ⟨holds_print h, husable⟩

/-- Accepted settings have no problem, and are accepted again as they are when they are printed. Of
settings that have one, the first is told. -/
theorem parse_round_trips_and_checks (raw : String) :
    (∀ s, parse raw = .ok s → parse s.print = .ok s ∧ s.IsUsable) ∧
    (∀ s, Holds raw s →
      (parse raw = .ok s ↔ s.IsUsable) ∧
      ((∃ problem, parse raw = .error (.invalid problem)) ↔ ¬ s.IsUsable) ∧
      ∀ problem, parse raw = .error (.invalid problem) ↔ ∃ text, Suffers s problem text ∧
        (Error.invalid problem).message = "invalid configuration: " ++ text) ∧
    (parse raw = .error .unreadable ↔ ∀ s, ¬ Holds raw s) := by
  refine ⟨fun s h => ?_, fun s h => ⟨?_, ?_, fun problem => ?_⟩, parse_eq_unreadable_iff⟩
  · obtain ⟨hholds, husable⟩ := parse_eq_ok_iff.mp h
    exact ⟨parse_print hholds.isWritable husable, husable⟩
  · exact parse_eq_ok_iff.trans (and_iff_right h)
  · simp only [h.parse_eq_invalid_iff]
    refine ⟨fun ⟨_, _, suffers⟩ => suffers.not_isUsable, fun hunusable => ?_⟩
    exact (isUsable_or_suffers s).resolve_left hunusable
  · refine h.parse_eq_invalid_iff.trans (exists_congr fun text => ?_)
    exact (and_iff_left_of_imp Suffers.message_eq).symm

/-- Settings that do no more than deny. -/
def denying (rules : List DenyRule) : Settings where
  denied := rules

theorem holds_denying (rules : List DenyRule) :
    Holds (denying rules).print (denying rules) :=
  holds_print ⟨.nil, by simp [denying], by simp [denying]⟩

/-- A rule is accepted with a version, and told by its place without one. -/
theorem parse_of_rules :
    (∃ raw s, parse raw = .ok s ∧ parse s.print = .ok s ∧ s.denied = [⟨"", "v1", "Secret"⟩]) ∧
    ∃ raw, parse raw = .error (.invalid (.ruleWithoutVersion 1)) := by
  constructor
  · let s := denying [⟨"", "v1", "Secret"⟩]
    have husable : s.IsUsable := ⟨by simp [s, denying], by decide, by decide⟩
    obtain ⟨haccepted, hread, -⟩ := parse_round_trips_and_checks s.print
    have hparse : parse s.print = .ok s := (hread s (holds_denying _)).1.mpr husable
    exact ⟨s.print, s, hparse, (haccepted s hparse).1, rfl⟩
  · let s := denying [⟨"", "v1", "Secret"⟩, ⟨"apps", "", "Deployment"⟩]
    have hsuffers : Suffers s (.ruleWithoutVersion 1) _ :=
      .rule (by decide) rfl fun j hj => by simp [s, denying, Nat.lt_one_iff.mp hj]
    obtain ⟨-, hread, -⟩ := parse_round_trips_and_checks s.print
    exact ⟨s.print,
      ((hread s (holds_denying _)).2.2 _).mpr ⟨_, hsuffers, hsuffers.message_eq⟩⟩

end Settings

end ClusterAccess
