import ClusterAccess.Schema.UnknownField

namespace ClusterAccess

theorem Text.dropLead_eq_some_iff {lead text rest : String} :
    Text.dropLead lead text = some rest ↔ text = lead ++ rest := by
  unfold Text.dropLead
  simp only [List.isPrefixOf_iff_prefix]
  constructor
  · intro h
    split at h
    · rename_i hlead
      obtain ⟨after, hafter⟩ := hlead
      cases h
      rw [← hafter, List.drop_left, ← String.toList_inj, String.toList_append, String.toList_ofList]
      exact hafter.symm
    · cases h
  · rintro rfl
    simp

namespace Schema

/-- A schema that refers to no other. -/
structure IsOwn (schema : Json) : Prop where
  unnamed : ∀ text, schema.member? "$ref" ≠ some (.str text)
  plural : ∀ only, schema.member? "allOf" ≠ some (.arr [only])

/-- A schema stands for another one, the component that it names or the only one that it unites. -/
inductive Refers (components : List (String × Json)) (schema : Json) : Json → Prop where
  | named {name : String} {next : Json}
      (names : schema.member? "$ref" = some (.str ("#/components/schemas/" ++ name)))
      (found : components.lookup name = some next) : Refers components schema next
  | united {only : Json} (unnamed : ∀ text, schema.member? "$ref" ≠ some (.str text))
      (single : schema.member? "allOf" = some (.arr [only])) : Refers components schema only

/-- A schema that refers to no component that there is. -/
def Dangles (components : List (String × Json)) (schema : Json) : Prop :=
  ∃ text, schema.member? "$ref" = some (.str text) ∧
    ∀ name, text = "#/components/schemas/" ++ name → components.lookup name = none

/-- So many references lead from one schema to another. -/
inductive Leads (components : List (String × Json)) : Nat → Json → Json → Prop where
  | stays (schema : Json) : Leads components 0 schema schema
  | hop {schema next last : Json} {hops : Nat} (refers : Refers components schema next)
      (rest : Leads components hops next last) : Leads components (hops + 1) schema last

section

variable {components : List (String × Json)} {schema next last : Json} {hops : Nat}

theorem pointer_of_text {text : String} (h : schema.member? "$ref" = some (.str text)) :
    pointer components schema =
      match (Text.dropLead componentLead text).bind (components.lookup ·) with
      | some next => .to next
      | none => .nowhere := by
  simp only [pointer, h]
  cases Text.dropLead componentLead text <;> rfl

theorem pointer_of_unnamed (h : ∀ text, schema.member? "$ref" ≠ some (.str text)) :
    pointer components schema =
      match schema.member? "allOf" with
      | some (.arr [only]) => .to only
      | _ => .here := by
  unfold pointer
  split
  · rename_i text htext
    exact absurd htext (h text)
  · rfl

theorem IsOwn.pointer_eq (h : IsOwn schema) : pointer components schema = .here := by
  rw [pointer_of_unnamed h.unnamed]
  split
  · rename_i only hsingle
    exact absurd hsingle (h.plural only)
  · rfl

theorem Refers.pointer_eq (h : Refers components schema next) :
    pointer components schema = .to next := by
  cases h with
  | @named name next names found =>
    have hname : Text.dropLead componentLead ("#/components/schemas/" ++ name) = some name :=
      Text.dropLead_eq_some_iff.mpr rfl
    rw [pointer_of_text names, hname, Option.bind_some, found]
  | united unnamed single => rw [pointer_of_unnamed unnamed, single]

theorem Dangles.pointer_eq (h : Dangles components schema) :
    pointer components schema = .nowhere := by
  obtain ⟨text, names, missing⟩ := h
  have hnone : (Text.dropLead componentLead text).bind (components.lookup ·) = none := by
    rw [Option.bind_eq_none_iff]
    intro name hname
    exact missing name (Text.dropLead_eq_some_iff.mp hname)
  rw [pointer_of_text names, hnone]

/-- Every schema does one of the three. -/
theorem own_or_refers_or_dangles (components : List (String × Json)) (schema : Json) :
    IsOwn schema ∨ (∃ next, Refers components schema next) ∨ Dangles components schema := by
  by_cases hnamed : ∃ text, schema.member? "$ref" = some (.str text)
  · obtain ⟨text, names⟩ := hnamed
    by_cases hfound : ∃ name next, text = "#/components/schemas/" ++ name ∧
        components.lookup name = some next
    · obtain ⟨name, next, rfl, found⟩ := hfound
      exact .inr (.inl ⟨next, .named names found⟩)
    · refine .inr (.inr ⟨text, names, fun name hname => ?_⟩)
      exact Option.eq_none_iff_forall_ne_some.mpr fun next found => hfound ⟨name, next, hname, found⟩
  · have unnamed : ∀ text, schema.member? "$ref" ≠ some (.str text) :=
      fun text names => hnamed ⟨text, names⟩
    by_cases hunited : ∃ only, schema.member? "allOf" = some (.arr [only])
    · obtain ⟨only, single⟩ := hunited
      exact .inr (.inl ⟨only, .united unnamed single⟩)
    · exact .inl ⟨unnamed, fun only single => hunited ⟨only, single⟩⟩

/-- The walk takes fewer steps than its bound, or it reaches no schema of its own. -/
theorem resolveWithin_eq_some_iff {bound : Nat} :
    resolveWithin components bound schema = some last ↔
      ∃ hops < bound, Leads components hops schema last ∧ IsOwn last := by
  induction bound generalizing schema with
  | zero => simp [resolveWithin]
  | succ bound ih =>
    unfold resolveWithin
    constructor
    · intro h
      rcases own_or_refers_or_dangles components schema with hown | ⟨next, hrefers⟩ | hdangles
      · rw [hown.pointer_eq] at h
        cases h
        exact ⟨0, by omega, .stays _, hown⟩
      · rw [hrefers.pointer_eq] at h
        obtain ⟨hops, hhops, hleads, hown⟩ := ih.mp h
        exact ⟨hops + 1, by omega, .hop hrefers hleads, hown⟩
      · rw [hdangles.pointer_eq] at h
        cases h
    · rintro ⟨hops, hhops, hleads, hown⟩
      cases hleads with
      | stays => rw [hown.pointer_eq]
      | hop hrefers hrest =>
        rw [hrefers.pointer_eq]
        exact ih.mpr ⟨_, by omega, hrest, hown⟩

theorem resolveWithin_eq_none_iff {bound : Nat} :
    resolveWithin components bound schema = none ↔
      (∃ hops < bound, ∃ last, Leads components hops schema last ∧ Dangles components last) ∨
        ∃ last, Leads components bound schema last := by
  induction bound generalizing schema with
  | zero => exact ⟨fun _ => .inr ⟨schema, .stays schema⟩, fun _ => rfl⟩
  | succ bound ih =>
    unfold resolveWithin
    constructor
    · intro h
      rcases own_or_refers_or_dangles components schema with hown | ⟨next, hrefers⟩ | hdangles
      · rw [hown.pointer_eq] at h
        cases h
      · rw [hrefers.pointer_eq] at h
        rcases ih.mp h with ⟨hops, hhops, last, hleads, hdangles⟩ | ⟨last, hleads⟩
        · exact .inl ⟨hops + 1, by omega, last, .hop hrefers hleads, hdangles⟩
        · exact .inr ⟨last, .hop hrefers hleads⟩
      · exact .inl ⟨0, by omega, schema, .stays schema, hdangles⟩
    · rintro (⟨hops, hhops, last, hleads, hdangles⟩ | ⟨last, hleads⟩)
      · cases hleads with
        | stays => rw [hdangles.pointer_eq]
        | hop hrefers hrest =>
          rw [hrefers.pointer_eq]
          exact ih.mpr (.inl ⟨_, by omega, last, hrest, hdangles⟩)
      · cases hleads with
        | hop hrefers hrest =>
          rw [hrefers.pointer_eq]
          exact ih.mpr (.inr ⟨last, hrest⟩)

theorem resolve_eq_some_iff : resolve components schema = some last ↔
    ∃ hops < 16, Leads components hops schema last ∧ IsOwn last :=
  resolveWithin_eq_some_iff

theorem resolve_eq_none_iff : resolve components schema = none ↔
    (∃ hops < 16, ∃ last, Leads components hops schema last ∧ Dangles components last) ∨
      ∃ last, Leads components 16 schema last :=
  resolveWithin_eq_none_iff

namespace Leads

variable {hops' : Nat} {last' : Json}

theorem trans (h : Leads components hops schema last) (h' : Leads components hops' last last') :
    Leads components (hops + hops') schema last' := by
  induction h with
  | stays => rwa [Nat.zero_add]
  | hop hrefers _ ih => exact (Nat.succ_add _ _) ▸ .hop hrefers (ih h')

theorem shorten (h : Leads components hops schema last) (hle : hops' ≤ hops) :
    ∃ next, Leads components hops' schema next := by
  induction h generalizing hops' with
  | stays schema =>
    obtain rfl : hops' = 0 := by omega
    exact ⟨schema, .stays schema⟩
  | @hop schema _ _ _ hrefers _ ih =>
    cases hops' with
    | zero => exact ⟨schema, .stays schema⟩
    | succ hops' =>
      obtain ⟨next, hnext⟩ := ih (Nat.le_of_succ_le_succ hle)
      exact ⟨next, .hop hrefers hnext⟩

end Leads

/-- References that come round lead on for ever. -/
theorem resolve_eq_none_of_cycle (h : Leads components hops schema last) {round : Nat}
    (hround : Leads components (round + 1) last last) : resolve components schema = none := by
  have hrounds : ∀ n, Leads components (n * (round + 1)) last last := by
    intro n
    induction n with
    | zero => exact (Nat.zero_mul _).symm ▸ .stays last
    | succ n ih => exact (Nat.succ_mul _ _).symm ▸ ih.trans hround
  refine resolve_eq_none_iff.mpr (.inr ((h.trans (hrounds 16)).shorten ?_))
  omega

/-- Nothing is refused for a schema that is unknown, wherever it is met. -/
theorem unknownField_of_unresolved (h : resolve components schema = none) (depth : Nat)
    (value : Json) : unknownField components depth schema value = none := by
  have hknown : known? components depth schema = none := by
    simp only [known?, h, Option.filter_none, ite_self]
  cases value with
  | obj members => rw [unknownField, hknown, Option.bind_none]
  | arr items => rw [unknownField, hknown, Option.bind_none]
  | _ => rfl

/-- References are followed up to fifteen hops, to a schema that refers to no other. Where they lead
to none, anything is accepted, and so it is where they come round. -/
theorem resolve_follows_references (components : List (String × Json)) (schema : Json) :
    (∀ last, resolve components schema = some last ↔
      ∃ hops ≤ 15, Leads components hops schema last ∧ IsOwn last) ∧
    (resolve components schema = none ↔
      ∀ hops ≤ 15, ∀ last, Leads components hops schema last → ¬ IsOwn last) ∧
    (resolve components schema = none →
      ∀ depth value, unknownField components depth schema value = none) ∧
    ∀ hops round last, Leads components hops schema last → Leads components (round + 1) last last →
      resolve components schema = none ∧
      ∀ depth value, unknownField components depth schema value = none := by
  have hsome : ∀ last, resolve components schema = some last ↔
      ∃ hops ≤ 15, Leads components hops schema last ∧ IsOwn last := by
    intro last
    simp only [resolve_eq_some_iff, Nat.lt_succ_iff]
  refine ⟨hsome, ?_, unknownField_of_unresolved, ?_⟩
  · rw [Option.eq_none_iff_forall_ne_some]
    simp only [ne_eq, hsome, not_exists, not_and]
    exact ⟨fun h hops hle last => h last hops hle, fun h last hops hle => h hops hle last⟩
  · intro hops round last hleads hround
    have hnone := resolve_eq_none_of_cycle hleads hround
    exact ⟨hnone, unknownField_of_unresolved hnone⟩

end

/-- Two components that stand for each other, one by name and one by union. -/
theorem resolve_of_round : ∃ components schema,
    Leads components 2 schema schema ∧ resolve components schema = none ∧
      ∀ depth value, unknownField components depth schema value = none := by
  let named : Json := .obj [("$ref", .str ("#/components/schemas/" ++ "united"))]
  let united : Json := .obj [("allOf", .arr [named])]
  have hround : Leads [("united", united)] 2 named named :=
    .hop (.named rfl rfl) (.hop (.united nofun rfl) (.stays named))
  obtain ⟨-, -, -, hcycle⟩ := resolve_follows_references [("united", united)] named
  exact ⟨_, named, hround, hcycle 0 1 named (.stays named) hround⟩

end Schema

end ClusterAccess
