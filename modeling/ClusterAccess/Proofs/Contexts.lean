import ClusterAccess.Registry.Basic

namespace ClusterAccess

namespace Kubeconfig

theorem mem_foldl_appendNew {name : String} {names acc : List String} :
    name ∈ names.foldl appendNew acc ↔ name ∈ acc ∨ name ∈ names := by
  induction names generalizing acc with
  | nil => simp
  | cons first names ih =>
    have hfirst : name ∈ appendNew acc first ↔ name ∈ acc ∨ name = first := by
      unfold appendNew
      split
      · rename_i hc
        have hmem : first ∈ acc := List.contains_iff_mem.mp hc
        exact ⟨.inl, fun h => h.elim id fun heq => heq ▸ hmem⟩
      · simp
    rw [List.foldl_cons, ih, hfirst, List.mem_cons, or_assoc]

theorem nodup_foldl_appendNew {names acc : List String} (h : acc.Nodup) :
    (names.foldl appendNew acc).Nodup := by
  induction names generalizing acc with
  | nil => exact h
  | cons first names ih =>
    refine ih ?_
    unfold appendNew
    split
    · exact h
    · rename_i hc
      have hnew : first ∉ acc := fun hmem => hc (List.contains_iff_mem.mpr hmem)
      refine List.nodup_append.mpr ⟨h, by simp, ?_⟩
      rintro a ha b hb rfl
      exact hnew (List.mem_singleton.mp hb ▸ ha)

theorem nodup_reachable (k : Kubeconfig) : k.reachable.Nodup :=
  nodup_foldl_appendNew List.nodup_nil

/-- A cluster is listed when some context leads to it. -/
theorem mem_reachable_iff {k : Kubeconfig} {cluster : String} :
    cluster ∈ k.reachable ↔ ∃ c ∈ k.contexts, k.clusterOf? c.name = some cluster := by
  simp only [reachable, mem_foldl_appendNew, List.not_mem_nil, false_or, List.mem_filterMap]

/-- A context that leads to a cluster is one of the kubeconfig's. -/
theorem mem_reachable_of_clusterOf {k : Kubeconfig} {context cluster : String}
    (h : k.clusterOf? context = some cluster) : cluster ∈ k.reachable := by
  cases hfind : Named.find? k.contexts context with
  | none => simp [clusterOf?, hfind] at h
  | some c =>
    have hname : c.name = context := by simpa using List.find?_some hfind
    exact mem_reachable_iff.mpr ⟨c, List.mem_of_find?_eq_some hfind, hname ▸ h⟩

/-- Unless a context is set for a cluster, the one that is chosen leads there. -/
theorem clusterOf_of_contextFor {k : Kubeconfig} {overrides : List (String × String)}
    {cluster context : String} (hset : overrides.lookup cluster = none)
    (h : k.contextFor overrides cluster = .ok context) : k.clusterOf? context = some cluster := by
  simp only [contextFor, hset] at h
  split at h
  · rename_i c hfind
    cases h
    simpa using List.find?_some hfind
  · cases h

end Kubeconfig

/-- Files that merge to a kubeconfig whose current context leads to a cluster. -/
structure Source.Leads (source : Source) (files : Files) (k : Kubeconfig)
    (context cluster : String) : Prop where
  read : source.read files = .ok k
  current : k.currentContext = some context
  leads : k.clusterOf? context = some cluster

namespace Layout

/-- What a layout says of the kubeconfig that it comes from. -/
structure Describes (layout : Layout) : Prop where
  clusters : layout.clusters = layout.kubeconfig.reachable
  current : layout.kubeconfig.clusterOf? layout.currentContext = some layout.defaultCluster

/-- There is a layout exactly when files merge to a kubeconfig whose current context leads to a
cluster. -/
theorem read_eq_ok_iff {files : Files} {source : Source} {layout : Layout} :
    read files source = .ok layout ↔ ∃ k context cluster, source.Leads files k context cluster ∧
      layout = ⟨k, k.reachable, cluster, context⟩ := by
  constructor
  · intro h
    unfold read at h
    cases hk : source.read files with
    | error problem => simp [hk, bind, Except.bind] at h
    | ok k =>
      simp only [hk, bind, Except.bind, ofKubeconfig] at h
      split at h
      · cases h
      · rename_i context hcurrent
        split at h
        · cases h
        · rename_i cluster hleads
          cases h
          exact ⟨k, context, cluster, ⟨hk, hcurrent, hleads⟩, rfl⟩
  · intro h
    obtain ⟨k, context, cluster, hleads, rfl⟩ := h
    simp [read, hleads.read, ofKubeconfig, hleads.current, hleads.leads, bind, Except.bind]

theorem describes_of_read {files : Files} {source : Source} {layout : Layout}
    (h : read files source = .ok layout) : layout.Describes := by
  obtain ⟨k, context, cluster, hleads, rfl⟩ := read_eq_ok_iff.mp h
  exact ⟨rfl, hleads.leads⟩

namespace Describes

variable {layout : Layout}

theorem nodup (h : layout.Describes) : layout.clusters.Nodup :=
  h.clusters ▸ layout.kubeconfig.nodup_reachable

theorem default_mem (h : layout.Describes) : layout.defaultCluster ∈ layout.clusters :=
  h.clusters ▸ Kubeconfig.mem_reachable_of_clusterOf h.current

end Describes

end Layout

/-- There is no layout in a pod. -/
theorem Source.ne_inCluster_of_read {files : Files} {source : Source} {layout : Layout}
    (h : Layout.read files source = .ok layout) : ∃ paths, source = .kubeconfig paths := by
  cases source with
  | kubeconfig paths => exact ⟨paths, rfl⟩
  | inCluster => cases h

namespace Registry

/-- Unless a context is set for a cluster, the registry reaches it through one that leads there. -/
theorem clusterOf_of_contextFor {r : Registry} (hr : r.layout.Describes)
    {overrides : List (String × String)} {cluster context : String}
    (hset : overrides.lookup cluster = none)
    (h : r.contextFor overrides cluster = .ok context) :
    r.layout.kubeconfig.clusterOf? context = some cluster := by
  unfold contextFor at h
  split at h
  · rename_i hdefault
    simp only [Bool.and_eq_true, decide_eq_true_eq] at hdefault
    cases h
    exact hdefault.1 ▸ hr.current
  · exact Kubeconfig.clusterOf_of_contextFor hset h

end Registry

end ClusterAccess
