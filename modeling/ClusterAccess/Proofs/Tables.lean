import ClusterAccess.Format
import Mathlib.Data.String.Basic

namespace ClusterAccess

section

variable {α β : Type} {f : α → Option β}

theorem mem_of_mapM {as : List α} {bs : List β} (h : as.mapM f = some bs) {b : β} (hb : b ∈ bs) :
    ∃ a ∈ as, f a = some b := by
  induction as generalizing bs with
  | nil =>
    cases h
    cases hb
  | cons a as ih =>
    rw [List.mapM_cons] at h
    simp only [Option.bind_eq_bind, Option.bind_eq_some_iff, Option.pure_def,
      Option.some.injEq] at h
    obtain ⟨first, hfirst, rest, hrest, rfl⟩ := h
    rcases List.mem_cons.mp hb with rfl | hb
    · exact ⟨a, List.mem_cons_self, hfirst⟩
    · obtain ⟨a', ha', hfa'⟩ := ih hrest hb
      exact ⟨a', List.mem_cons_of_mem a ha', hfa'⟩

theorem mapM_eq_map {g : α → β} {as : List α} (h : ∀ a ∈ as, f a = some (g a)) :
    as.mapM f = some (as.map g) := by
  induction as with
  | nil => rfl
  | cons a as ih =>
    rw [List.mapM_cons, h a List.mem_cons_self, ih fun b hb => h b (List.mem_cons_of_mem a hb)]
    rfl

end

namespace Json

variable {α : Type} {key : String} {value : α} {members : List (String × α)}

/-- Keys go up, so that none is there twice. -/
def IsSorted (members : List (String × α)) : Prop :=
  members.Pairwise (·.1 < ·.1)

theorem mem_insertMember {m : String × α} (h : m ∈ insertMember key value members) :
    m = (key, value) ∨ m ∈ members := by
  induction members with
  | nil => exact .inl (List.mem_singleton.mp h)
  | cons entry rest ih =>
    rw [insertMember] at h
    split at h
    · exact (List.mem_cons.mp h).imp_right (List.mem_cons_of_mem _)
    · split at h
      · exact List.mem_cons.mp h
      · rcases List.mem_cons.mp h with rfl | h
        · exact .inr List.mem_cons_self
        · exact (ih h).imp_right (List.mem_cons_of_mem _)

theorem IsSorted.insertMember (h : IsSorted members) (key : String) (value : α) :
    IsSorted (insertMember key value members) := by
  induction members with
  | nil => exact List.pairwise_singleton _ _
  | cons entry rest ih =>
    obtain ⟨hentry, hrest⟩ := List.pairwise_cons.mp h
    rw [Json.insertMember]
    split
    · rename_i heq
      subst heq
      exact List.pairwise_cons.mpr ⟨hentry, hrest⟩
    · rename_i hne
      split
      · rename_i hlt
        refine List.pairwise_cons.mpr ⟨?_, h⟩
        intro m hm
        rcases List.mem_cons.mp hm with rfl | hm
        · exact hlt
        · exact hlt.trans (hentry m hm)
      · rename_i hle
        have hlt : entry.1 < key := lt_of_le_of_ne (not_lt.mp hle) (Ne.symm hne)
        refine List.pairwise_cons.mpr ⟨?_, ih hrest⟩
        intro m hm
        rcases mem_insertMember hm with rfl | hm
        · exact hlt
        · exact hentry m hm

theorem isSorted_sortMembers (members : List (String × α)) : IsSorted (sortMembers members) := by
  refine List.foldlRecOn members _ List.Pairwise.nil ?_
  intro sorted h m _
  exact h.insertMember m.1 m.2

/-- A key above all others goes to the end. -/
theorem insertMember_of_lt (h : ∀ m ∈ members, m.1 < key) (value : α) :
    insertMember key value members = members ++ [(key, value)] := by
  induction members with
  | nil => rfl
  | cons entry rest ih =>
    have hlt : entry.1 < key := h entry List.mem_cons_self
    rw [insertMember, if_neg hlt.ne', if_neg hlt.not_gt,
      ih fun m hm => h m (List.mem_cons_of_mem _ hm), List.cons_append]

theorem IsSorted.sortMembers_eq (h : IsSorted members) : sortMembers members = members := by
  -- what is in order behind sorted members is put there as it is
  have happend : ∀ rest sorted : List (String × α), IsSorted (sorted ++ rest) →
      rest.foldl (fun acc m => Json.insertMember m.1 m.2 acc) sorted = sorted ++ rest := by
    intro rest
    induction rest with
    | nil => simp
    | cons m rest ih =>
      intro sorted h
      have hlast : ∀ m' ∈ sorted, m'.1 < m.1 := fun m' hm' =>
        (List.pairwise_append.mp h).2.2 m' hm' m List.mem_cons_self
      rw [List.foldl_cons, insertMember_of_lt hlast, ih _ (by simpa using h)]
      simp
  exact happend members [] h

end Json

namespace Format

variable {ν α : Type}

/-- The value of a field is that of an entry. -/
theorem mem_of_fields {names : List String} {entries : List (String × ν)}
    {fields : List (Option ν)} (h : fields? names entries = some fields) {v : ν}
    (hv : some v ∈ fields) : ∃ entry ∈ entries, entry.2 = v := by
  obtain ⟨name, -, hfield⟩ := mem_of_mapM h hv
  split at hfield
  · cases hfield
  · rename_i entry hentry
    cases hfield
    have hmem : entry ∈ entries.filter (·.1 = name) := hentry ▸ List.mem_singleton_self entry
    exact ⟨entry, List.mem_of_mem_filter hmem, rfl⟩
  · cases hfield

/-- A field that may be missing is the fallback or is decoded. -/
theorem default_eq_some {decode : ν → Option α} {fallback a : α} {field : Option ν}
    (h : default? decode fallback field = some a) :
    a = fallback ∨ ∃ v, field = some v ∧ decode v = some a := by
  cases field with
  | none =>
    cases h
    exact .inl rfl
  | some v => exact .inr ⟨v, rfl, h⟩

theorem isSorted_of_table {f : Format ν} {decode : ν → Option α} {v : ν}
    {entries : List (String × α)} (h : f.table? decode v = some entries) :
    Json.IsSorted entries := by
  unfold table? at h
  simp only [Option.bind_eq_bind, Option.bind_eq_some_iff, Option.some.injEq] at h
  obtain ⟨-, -, rest, -, rfl⟩ := h
  exact Json.isSorted_sortMembers rest

end Format

end ClusterAccess
