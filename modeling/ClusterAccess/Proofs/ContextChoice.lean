import ClusterAccess.Proofs.Contexts
import Mathlib.Data.List.Induction

namespace ClusterAccess

namespace Kubeconfig

/-- The place of the first context that leads to a cluster. -/
def firstPlace (k : Kubeconfig) (cluster : String) : Nat :=
  k.contexts.findIdx fun c => k.clusterOf? c.name = some cluster

/-- The context leads to the cluster, and none that is listed before it does. -/
def IsFirstTo (k : Kubeconfig) (context cluster : String) : Prop :=
  ∃ before c after, k.contexts = before ++ c :: after ∧ c.name = context ∧
    k.clusterOf? context = some cluster ∧
    ∀ earlier ∈ before, k.clusterOf? earlier.name ≠ some cluster

/-- Values that are collected without repetition stand in the order of their first entries. -/
theorem pairwise_foldl_appendNew {α : Type} (f : α → Option String) (entries : List α) :
    ((entries.filterMap f).foldl appendNew []).Pairwise fun a b =>
      entries.findIdx (f · = some a) < entries.findIdx (f · = some b) := by
  induction entries using List.reverseRecOn with
  | nil => simp
  | append_singleton entries last ih =>
    have hfound : ∀ a ∈ (entries.filterMap f).foldl appendNew [],
        entries.findIdx (f · = some a) < entries.length := by
      intro a ha
      simp only [mem_foldl_appendNew, List.not_mem_nil, false_or, List.mem_filterMap] at ha
      obtain ⟨entry, hentry, hf⟩ := ha
      exact List.findIdx_lt_length_of_exists ⟨entry, hentry, by simp [hf]⟩
    have hsame : ∀ a ∈ (entries.filterMap f).foldl appendNew [],
        (entries ++ [last]).findIdx (f · = some a) = entries.findIdx (f · = some a) := by
      intro a ha
      rw [List.findIdx_append, if_pos (hfound a ha)]
    have hbefore : ((entries.filterMap f).foldl appendNew []).Pairwise fun a b =>
        (entries ++ [last]).findIdx (f · = some a) < (entries ++ [last]).findIdx (f · = some b) := by
      refine ih.imp_of_mem ?_
      intro a b ha hb hlt
      rwa [hsame a ha, hsame b hb]
    rw [List.filterMap_append, List.foldl_append]
    cases hlast : f last with
    | none => simpa [hlast] using hbefore
    | some name =>
      simp only [List.filterMap_cons, hlast, List.filterMap_nil, List.foldl_cons, List.foldl_nil,
        appendNew]
      split
      · exact hbefore
      · rename_i hnew
        refine List.pairwise_append.mpr ⟨hbefore, List.pairwise_singleton _ _, ?_⟩
        intro a ha b hb
        obtain rfl := List.mem_singleton.mp hb
        have hnone : ∀ entry ∈ entries, decide (f entry = some b) = false := by
          intro entry hentry
          by_contra hf
          apply hnew
          rw [List.contains_iff_mem, mem_foldl_appendNew, List.mem_filterMap]
          exact .inr ⟨entry, hentry, by simpa using hf⟩
        have hend := List.findIdx_eq_length_of_false hnone
        rw [hsame a ha, List.findIdx_append, if_neg (by omega)]
        have := hfound a ha
        omega

/-- The context that is chosen for a cluster is the first one that leads there. -/
theorem contextFor_eq_ok_iff {k : Kubeconfig} {overrides : List (String × String)}
    {context cluster : String} (hset : overrides.lookup cluster = none) :
    k.contextFor overrides cluster = .ok context ↔ k.IsFirstTo context cluster := by
  simp only [contextFor, hset]
  constructor
  · intro hchosen
    split at hchosen
    · rename_i c hfind
      cases hchosen
      obtain ⟨hleads, before, after, hcontexts, hbefore⟩ := List.find?_eq_some_iff_append.mp hfind
      refine ⟨before, c, after, hcontexts, rfl, by simpa using hleads, ?_⟩
      intro earlier hearlier
      simpa using hbefore earlier hearlier
    · cases hchosen
  · intro hfirst
    obtain ⟨before, c, after, hcontexts, rfl, hleads, hbefore⟩ := hfirst
    have hfind : k.contexts.find? (fun c => k.clusterOf? c.name = some cluster) = some c := by
      refine List.find?_eq_some_iff_append.mpr
        ⟨by simpa using hleads, before, after, hcontexts, ?_⟩
      intro earlier hearlier
      simpa using hbefore earlier hearlier
    simp [hfind]

/-- A cluster is listed exactly when there is a context to be chosen for it. -/
theorem mem_reachable_iff_contextFor {k : Kubeconfig} {cluster : String} :
    cluster ∈ k.reachable ↔ ∃ context, k.contextFor [] cluster = .ok context := by
  rw [mem_reachable_iff]
  constructor
  · intro hreached
    obtain ⟨c, hc, hleads⟩ := hreached
    have hsome : (k.contexts.find? fun c => k.clusterOf? c.name = some cluster).isSome = true :=
      List.find?_isSome.mpr ⟨c, hc, by simpa using hleads⟩
    obtain ⟨first, hfirst⟩ := Option.isSome_iff_exists.mp hsome
    exact ⟨first.name, by simp [contextFor, hfirst]⟩
  · intro hchosen
    obtain ⟨context, hchosen⟩ := hchosen
    obtain ⟨before, c, after, hcontexts, rfl, hleads, -⟩ := (contextFor_eq_ok_iff rfl).mp hchosen
    exact ⟨c, by simp [hcontexts], hleads⟩

/-- A context that is set for a cluster is chosen when it is there, whatever it leads to. -/
theorem contextFor_set_eq_ok_iff {k : Kubeconfig} {overrides : List (String × String)}
    {context chosen cluster : String} (hset : overrides.lookup cluster = some context) :
    k.contextFor overrides cluster = .ok chosen ↔
      (∃ c ∈ k.contexts, c.name = context) ∧ chosen = context := by
  have hhas : Named.has k.contexts context = true ↔ ∃ c ∈ k.contexts, c.name = context := by
    simp [Named.has]
  rw [← hhas, contextFor, hset]
  by_cases hthere : Named.has k.contexts context = true
  · simp [hthere, eq_comm]
  · simp [hthere]

/-- The list of clusters and the choice of a context agree. The list has every cluster that there
is a context for once, in the order of the first contexts that lead to them, the current context's
cluster among them. The first context is the one that is chosen, unless another is set for the
cluster, which then has to be there. -/
theorem reachable_agrees :
    (∀ k : Kubeconfig,
      k.reachable.Nodup ∧
      k.reachable.Pairwise (fun a b => k.firstPlace a < k.firstPlace b) ∧
      (∀ cluster, cluster ∈ k.reachable ↔ ∃ context, k.contextFor [] cluster = .ok context) ∧
      (∀ cluster context, k.contextFor [] cluster = .ok context ↔ k.IsFirstTo context cluster) ∧
      (∀ context cluster, k.clusterOf? context = some cluster → cluster ∈ k.reachable) ∧
      ∀ (overrides : List (String × String)) (cluster : String),
        (∀ context chosen, overrides.lookup cluster = some context →
          (k.contextFor overrides cluster = .ok chosen ↔
            (∃ c ∈ k.contexts, c.name = context) ∧ chosen = context)) ∧
        (overrides.lookup cluster = none →
          k.contextFor overrides cluster = k.contextFor [] cluster)) ∧
    ∀ (files : Files) (source : Source) (layout : Layout), Layout.read files source = .ok layout →
      layout.clusters = layout.kubeconfig.reachable ∧ layout.defaultCluster ∈ layout.clusters := by
  constructor
  · intro k
    refine ⟨k.nodup_reachable, pairwise_foldl_appendNew (fun c : Named Context => k.clusterOf? c.name) _,
      fun cluster => mem_reachable_iff_contextFor, fun cluster context => contextFor_eq_ok_iff rfl,
      fun context cluster => mem_reachable_of_clusterOf, ?_⟩
    intro overrides cluster
    refine ⟨fun context chosen => contextFor_set_eq_ok_iff, ?_⟩
    intro hset
    simp [contextFor, hset]
  · intro files source layout hread
    have hdescribes := Layout.describes_of_read hread
    exact ⟨hdescribes.clusters, hdescribes.default_mem⟩

/-- Contexts that lead nowhere stand before those of two clusters, and one name is used twice. -/
def mixed : Kubeconfig where
  clusters := [⟨"east", none⟩, ⟨"west", none⟩, ⟨"west", none⟩]
  contexts := [⟨"ghost", some { cluster := "gone" }⟩, ⟨"bare", none⟩,
    ⟨"first", some { cluster := "west" }⟩, ⟨"second", some { cluster := "east" }⟩,
    ⟨"first", some { cluster := "east" }⟩, ⟨"third", some { cluster := "west" }⟩]

theorem reachable_agrees_mixed :
    mixed.reachable = ["west", "east"] ∧ mixed.firstPlace "west" < mixed.firstPlace "east" ∧
    mixed.IsFirstTo "first" "west" ∧
    mixed.contextFor [("west", "bare")] "west" = .ok "bare" ∧
    mixed.contextFor [("west", "bare")] "east" = mixed.contextFor [] "east" := by
  obtain ⟨-, hordered, -, hfirst, -, hoverrides⟩ := reachable_agrees.1 mixed
  have hreachable : mixed.reachable = ["west", "east"] := rfl
  refine ⟨hreachable, ?_, (hfirst "west" "first").mp rfl, ?_, ?_⟩
  · rw [hreachable] at hordered
    exact (List.pairwise_cons.mp hordered).1 "east" (by simp)
  · exact ((hoverrides [("west", "bare")] "west").1 "bare" "bare" rfl).mpr
      ⟨⟨⟨"bare", none⟩, by simp [mixed], rfl⟩, rfl⟩
  · exact (hoverrides [("west", "bare")] "east").2 rfl

end Kubeconfig

end ClusterAccess
