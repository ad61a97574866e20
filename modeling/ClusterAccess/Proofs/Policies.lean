import ClusterAccess.Policy

namespace ClusterAccess

/-- A rule is about a kind: its group and version are the kind's, and it names the kind or none. -/
structure DenyRule.Matches (rule : DenyRule) (k : GroupVersionKind) : Prop where
  group : rule.group = k.group
  version : rule.version = k.version
  kind : rule.kind = "" ∨ rule.kind = k.kind

theorem DenyRule.covers_iff {rule : DenyRule} {k : GroupVersionKind} :
    rule.covers k = true ↔ rule.Matches k := by
  simp only [DenyRule.covers, Bool.and_eq_true, Bool.or_eq_true, decide_eq_true_eq]
  constructor
  · rintro ⟨⟨hg, hv⟩, hk⟩
    exact ⟨hg, hv, hk⟩
  · rintro ⟨hg, hv, hk⟩
    exact ⟨⟨hg, hv⟩, hk⟩

namespace DenyPolicy

theorem denies_iff {policy : DenyPolicy} {k : GroupVersionKind} :
    policy.denies k = true ↔ ∃ rule ∈ policy.rules, rule.Matches k := by
  simp only [denies, rule?, List.find?_isSome, DenyRule.covers_iff]

theorem not_denies_iff {policy : DenyPolicy} {k : GroupVersionKind} :
    policy.denies k = false ↔ ∀ rule ∈ policy.rules, ¬ rule.Matches k := by
  rw [← Bool.not_eq_true, denies_iff]
  simp only [not_exists, not_and]

end DenyPolicy

end ClusterAccess
