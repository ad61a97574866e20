import ClusterAccess.Proofs.Building
import ClusterAccess.Proofs.Closing
import ClusterAccess.Proofs.Contexts
import ClusterAccess.Provider

namespace ClusterAccess

variable {σ : Type} {g : Gateway σ}

theorem Source.load_context {host : Host} {paths : List String} {name : String} {loaded : Loaded}
    (h : load host (.kubeconfig paths) (some name) = .ok loaded) : loaded.context = name := by
  obtain ⟨k, -, hof⟩ := except_bind_ok h
  simp only [Option.some_or, ofContext] at hof
  split at hof
  · split at hof
    · cases hof
    · cases hof
      rfl
  · cases hof

namespace Gateway

theorem build_context {source : Option Source} {context : String} {c : Connection} {t : σ}
    {m : Manager} (h : (outcome (g.build source context c) t).1 = .ok m) :
    m.context = context := by
  unfold build at h
  rw [outcome_bind] at h
  split at h
  · cases h
  · cases h
    rfl

theorem load_context {paths : List String} {name : String} {t : σ} {m : Manager}
    (h : (outcome (g.load (.kubeconfig paths) (some name)) t).1 = .ok m) : m.context = name := by
  unfold load at h
  rw [outcome_bind] at h
  split at h
  · cases h
  · rename_i loaded hloaded
    exact (build_context h).trans (Source.load_context hloaded)

end Gateway

namespace Registry

/-- What holds of a registry at every moment: its layout comes from its files, its entries are
those of the layout, and a manager that is ready uses the context that is chosen for its
cluster. -/
structure Kept (overrides : List (String × String)) (r : Registry) : Prop where
  read : ∃ files, Layout.read files r.source = .ok r.layout
  listed : r.Listed
  ready : ∀ c m, r.entry? c = some (.ready m) → r.contextFor overrides c = .ok m.context

theorem buildFor_context {r : Registry} (hread : ∃ files, Layout.read files r.source = .ok r.layout)
    {cluster : String} {t : σ} {m : Manager} (h : (outcome (r.buildFor g cluster) t).1 = .ok m) :
    r.contextFor g.settings.contexts cluster = .ok m.context := by
  obtain ⟨files, hread⟩ := hread
  obtain ⟨paths, hsource⟩ := Source.ne_inCluster_of_read hread
  unfold buildFor at h
  split at h
  · cases h
  · rename_i context hcontext
    rw [hsource] at h
    rw [hcontext, Gateway.load_context h]

theorem kept_ofLayout {files : Files} {source : Source} {layout : Layout}
    (hread : Layout.read files source = .ok layout) (overrides : List (String × String)) :
    Kept overrides (ofLayout source layout) := by
  refine ⟨⟨files, hread⟩, listed_ofLayout source layout, fun c m hm => ?_⟩
  have hmem := mem_managers.mpr ⟨c, mem_of_lookup hm⟩
  simp [managers_ofLayout] at hmem

namespace Kept

variable {overrides : List (String × String)} {r : Registry}

theorem describes (h : Kept overrides r) : r.layout.Describes := by
  obtain ⟨files, hread⟩ := h.read
  exact Layout.describes_of_read hread

theorem record (h : Kept overrides r) {cluster : String} (hs : r.settled? cluster = none)
    {made : Except Error Manager}
    (hmade : ∀ m, made = .ok m → r.contextFor overrides cluster = .ok m.context) :
    Kept overrides (r.record cluster made) := by
  refine ⟨h.read, h.listed.record hs made, fun c m hm => ?_⟩
  rw [entry_record] at hm
  split at hm
  · rename_i hc
    cases made with
    | ok m' =>
      cases hm
      exact hc ▸ hmade m rfl
    | error cause => cases hm
  · exact h.ready c m hm

theorem relayout (h : Kept overrides r) (files : Files) :
    Kept overrides (r.relayout (Layout.read files r.source)) := by
  cases hread : Layout.read files r.source with
  | error problem => exact h
  | ok layout =>
    refine ⟨⟨files, hread⟩, h.listed.relayout _, fun c m hm => ?_⟩
    rw [entry_relayout] at hm
    split at hm
    · cases hm
    · cases hm

theorem lookup {r : Registry} (h : Kept g.settings.contexts r) (target : String) (t : σ) :
    Kept g.settings.contexts (outcome (r.lookup g target) t).1.2 := by
  simp only [Registry.lookup]
  split
  · exact h
  · split
    · exact h
    · rename_i hs
      exact h.record hs fun m hm => buildFor_context (t := t) h.read hm

end Kept

namespace Tasks

theorem Shifts.kept {s s' : Tasks} {e : Event σ} (h : Shifts g s e s') (hone : Once s)
    (hkept : s.registry.Kept g.settings.contexts) : s'.registry.Kept g.settings.contexts := by
  cases h with
  | relaid files hb hi => exact hkept.relayout files
  | @built i c made t hi hmade =>
    exact hkept.record (hone.needed i c hi) fun m hm =>
      buildFor_context (t := t) hkept.read (hmade.trans hm)
  | closed => exact { hkept with }
  | _ => exact hkept

theorem kept_reached {s : Tasks} (h : Steady s) (hkept : s.registry.Kept g.settings.contexts)
    (t : σ) (events : List (Event σ)) (k : Nat) :
    (reached g s t events k).registry.Kept g.settings.contexts :=
  (reached_induction (P := fun s' => Steady s' ∧ s'.registry.Kept g.settings.contexts)
    (fun _ _ _ h hshifts => ⟨h.1.step hshifts, hshifts.kept h.1.once h.2⟩) (Nat.zero_le k)
    ⟨h, hkept⟩).2

end Tasks

/-- The cluster that a lookup asks for. -/
def Task.cluster? : Task → Option String
  | .waiting cluster | .building cluster | .answered cluster _ _ => some cluster
  | .refused | .rebuilding | .rebuilt => none

/-- What a task may be later on. -/
structure Task.Becomes (x y : Task) : Prop where
  cluster : y.cluster? = x.cluster?
  answered : ∀ c n a, x = .answered c n a → y = x

namespace Task.Becomes

theorem refl (x : Task) : Becomes x x :=
  ⟨rfl, fun _ _ _ _ => rfl⟩

theorem trans {x y z : Task} (hxy : Becomes x y) (hyz : Becomes y z) : Becomes x z :=
  ⟨hyz.cluster.trans hxy.cluster, fun c n a hx =>
    have hy := hxy.answered c n a hx
    (hyz.answered c n a (hy.trans hx)).trans hy⟩

end Task.Becomes

namespace Tasks

theorem becomes_add {s : Tasks} {i : Nat} {x : Task} (hi : s.tasks[i]? = some x) (a : Task) :
    ∃ y, (s.add a).tasks[i]? = some y ∧ x.Becomes y := by
  have hlt : i < s.tasks.length := (List.getElem?_eq_some_iff.mp hi).1
  exact ⟨x, (List.getElem?_append_left hlt).trans hi, .refl x⟩

theorem becomes_put {s : Tasks} {i j : Nat} {x old new : Task} (hi : s.tasks[i]? = some x)
    (hj : s.tasks[j]? = some old) (hnew : old.Becomes new) :
    ∃ y, (s.put j new).tasks[i]? = some y ∧ x.Becomes y := by
  by_cases hji : j = i
  · subst hji
    have hlt : j < s.tasks.length := (List.getElem?_eq_some_iff.mp hi).1
    obtain rfl := Option.some.inj (hi.symm.trans hj)
    exact ⟨new, List.getElem?_set_self hlt, hnew⟩
  · exact ⟨x, (List.getElem?_set_ne hji).trans hi, .refl x⟩

theorem Shifts.becomes {s s' : Tasks} {e : Event σ} (h : Shifts g s e s') {i : Nat} {x : Task}
    (hi : s.tasks[i]? = some x) : ∃ y, s'.tasks[i]? = some y ∧ x.Becomes y := by
  cases h with
  | stayed he => exact ⟨x, hi, .refl x⟩
  | closed => exact ⟨x, hi, .refl x⟩
  | answered hb hj hs => exact becomes_put hi hj ⟨rfl, by simp⟩
  | begun hb hj hs => exact becomes_put hi hj ⟨rfl, by simp⟩
  | built hj hmade => exact becomes_put hi hj ⟨rfl, by simp⟩
  | relaid files hb hj => exact becomes_put (s := s) hi hj ⟨rfl, by simp⟩
  | _ => exact becomes_add hi _

theorem becomes_reached {s : Tasks} {t : σ} {events : List (Event σ)} {k l : Nat} (hkl : k ≤ l)
    {i : Nat} {x : Task} (hi : (reached g s t events k).tasks[i]? = some x) :
    ∃ y, (reached g s t events l).tasks[i]? = some y ∧ x.Becomes y := by
  refine reached_induction (P := fun s' => ∃ y, s'.tasks[i]? = some y ∧ x.Becomes y) ?_ hkl
    ⟨x, hi, .refl x⟩
  rintro s e s' ⟨y, hy, hxy⟩ hshifts
  obtain ⟨z, hz, hyz⟩ := hshifts.becomes hy
  exact ⟨z, hz, hxy.trans hyz⟩

/-- A lookup that finds the registry open asks for a cluster, and is told at once what is settled
about it. -/
theorem Shifts.lookup {s s' : Tasks} {target : String} (h : Shifts g s (.lookup target) s')
    (hopen : s.registry.closed = false) :
    ∃ x, s'.tasks[s.tasks.length]? = some x ∧ x.cluster? = some (s.registry.resolve target) ∧
      ∀ a, s.registry.settled? (s.registry.resolve target) = some a →
        x = .answered (s.registry.resolve target) s.epoch a := by
  cases h with
  | stayed he => exact absurd rfl (he target)
  | refused hc => exact absurd (hc.symm.trans hopen) (by simp)
  | @found _ answer hs =>
    refine ⟨_, List.getElem?_concat_length, rfl, fun a ha => ?_⟩
    rw [Option.some.inj (hs.symm.trans ha)]
  | waited hs =>
    refine ⟨_, List.getElem?_concat_length, rfl, fun a ha => ?_⟩
    cases hs.symm.trans ha

end Tasks

theorem resolve_not_listed_iff {r : Registry} (hr : r.layout.Describes) {target : String} :
    r.resolve target ∉ r.layout.clusters ↔ target ≠ "" ∧ target ∉ r.layout.clusters := by
  unfold resolve
  split
  · rename_i hempty
    exact ⟨fun hnot => absurd hr.default_mem hnot, fun h => absurd hempty h.1⟩
  · rename_i hname
    exact ⟨fun hnot => ⟨hname, hnot⟩, And.right⟩

theorem Listed.settled_of_not_mem {r : Registry} (h : r.Listed) {cluster : String}
    (hc : cluster ∉ r.layout.clusters) :
    r.settled? cluster = some (.error (.clusterNotFound cluster)) := by
  unfold settled?
  rw [h.entry_eq_none_iff.mpr hc]

theorem answer_ne_clusterNotFound (cluster name : String) (made : Except Error Manager) :
    answer cluster made ≠ .error (.clusterNotFound name) := by
  cases made with
  | ok m => simp [answer]
  | error cause => simp [answer]

namespace Tasks

variable {s : Tasks} {t : σ} {events : List (Event σ)} {k : Nat} {target : String}

/-- A lookup of a cluster that is not listed is told so at once. -/
theorem lookup_not_listed (hsteady : Steady s) (he : events[k]? = some (.lookup target))
    (hopen : (reached g s t events k).registry.closed = false)
    (hnot : (reached g s t events k).registry.resolve target ∉
      (reached g s t events k).registry.layout.clusters) :
    (reached g s t events (k + 1)).tasks[(reached g s t events k).tasks.length]? =
      some (.answered ((reached g s t events k).registry.resolve target)
        (reached g s t events k).epoch
        (.error (.clusterNotFound ((reached g s t events k).registry.resolve target)))) := by
  obtain ⟨x, hx, -, htold⟩ := (shifts_reached he).lookup hopen
  have hlisted := (steady_reached (g := g) hsteady t events k).listed
  rw [hx, htold _ (hlisted.settled_of_not_mem hnot)]

/-- A lookup that is answered in the epoch of its arrival finds no cluster when the one that it asks
for is not listed, and only then. -/
theorem lookup_finds_iff (hsteady : Steady s) (he : events[k]? = some (.lookup target))
    (hopen : (reached g s t events k).registry.closed = false) {l : Nat} (hkl : k < l) {c : String}
    {a : Except Error Manager}
    (ha : (reached g s t events l).tasks[(reached g s t events k).tasks.length]? =
      some (.answered c (reached g s t events k).epoch a)) :
    (∃ name, a = .error (.clusterNotFound name)) ↔
      (reached g s t events k).registry.resolve target ∉
        (reached g s t events k).registry.layout.clusters := by
  obtain ⟨x, hx, hcluster, -⟩ := (shifts_reached he).lookup hopen
  obtain ⟨y, hy, hxy⟩ := becomes_reached hkl hx
  obtain rfl := Option.some.inj (hy.symm.trans ha)
  obtain rfl : c = (reached g s t events k).registry.resolve target :=
    Option.some.inj (hxy.cluster.trans hcluster)
  constructor
  · rintro ⟨name, rfl⟩ hmem
    have hknows := knows_reached hsteady (Nat.le_of_lt hkl) hmem
    obtain ⟨made, hmade⟩ := hknows.built _ (List.mem_of_getElem? ha)
    exact answer_ne_clusterNotFound _ _ _ hmade.symm
  · intro hnot
    have hx := Option.some.inj (hx.symm.trans (lookup_not_listed hsteady he hopen hnot))
    have hsame := (hxy.answered _ _ _ hx).trans hx
    exact ⟨_, (Task.answered.inj hsame).2.2⟩

end Tasks

end Registry

namespace Provider

open Registry Registry.Tasks

/-- The provider once its registry has become another one. -/
def holding (p : Provider σ) (r : Registry) : Provider σ :=
  { p with clusters := .registry r }

/-- A provider of a kubeconfig's clusters has looked up the default cluster once. -/
theorem ofKubeconfig_registry {t u : σ} {p : Provider σ}
    (h : outcome (ofKubeconfig g) t = (.ok p, u)) :
    ∃ files source layout v, Layout.read files source = .ok layout ∧
      p.clusters = .registry (outcome ((ofLayout source layout).lookup g "") v).1.2 := by
  unfold ofKubeconfig at h
  split at h
  · cases h
  · cases h
  · rename_i source _ hsource
    obtain ⟨host, v, -, h⟩ := outcome_bind_eq h
    split at h
    · cases h
    · rename_i layout hread
      obtain ⟨⟨made, r⟩, w, hlookup, h⟩ := outcome_bind_eq h
      refine ⟨host.files, source, layout, v, hread, ?_⟩
      rw [hlookup]
      cases made with
      | error e => cases h
      | ok m =>
        cases h
        rfl

/-- Whatever happens to a provider of a kubeconfig's clusters, the clusters that it lists are those
that have an entry, each once, and the default one is among them; a manager that is ready uses the
context that is chosen for its cluster, which leads there unless another one is set. While the
registry is open, a lookup that is answered before there is a new layout finds no cluster only when
it names one that is not listed, and then it is told so at once. -/
theorem ofKubeconfig_fits {t u : σ} {p : Provider σ}
    (h : outcome (ofKubeconfig g) t = (.ok p, u)) :
    ∃ r, p.clusters = .registry r ∧ ∀ (v : σ) (events : List (Event σ)),
      let course := reached g { registry := r } v events
      let now := fun k => p.holding (course k).registry
      (∀ k, (course k).registry.entries.map Prod.fst = (now k).targets ∧
        (now k).targets.Nodup ∧ (now k).defaultTarget ∈ (now k).targets ∧
        ∀ c m, (course k).registry.entry? c = some (.ready m) →
          (course k).registry.contextFor g.settings.contexts c = .ok m.context ∧
          (g.settings.contexts.lookup c = none →
            (course k).registry.layout.kubeconfig.clusterOf? m.context = some c)) ∧
      ∀ k target, events[k]? = some (.lookup target) → (course k).registry.closed = false →
        (target ≠ "" ∧ target ∉ (now k).targets →
          (course (k + 1)).tasks[(course k).tasks.length]? =
            some (.answered target (course k).epoch (.error (.clusterNotFound target)))) ∧
        ∀ l c a, k < l → (course l).tasks[(course k).tasks.length]? =
            some (.answered c (course k).epoch a) →
          ((∃ name, a = .error (.clusterNotFound name)) ↔
            target ≠ "" ∧ target ∉ (now k).targets) := by
  obtain ⟨files, source, layout, w, hread, hclusters⟩ := ofKubeconfig_registry h
  refine ⟨_, hclusters, fun v events => ?_⟩
  intro course now
  have hfirst := (kept_ofLayout hread g.settings.contexts).lookup (g := g) "" w
  have hsteady : Steady { registry := (outcome ((ofLayout source layout).lookup g "") w).1.2 } :=
    steady_of_fresh rfl rfl hfirst.listed
  have hkept : ∀ k, (course k).registry.Kept g.settings.contexts :=
    kept_reached hsteady hfirst v events
  refine ⟨fun k => ⟨(hkept k).listed, (hkept k).describes.nodup, (hkept k).describes.default_mem,
    fun c m hm => ⟨(hkept k).ready c m hm, fun hset => ?_⟩⟩, fun k target he hopen => ⟨?_, ?_⟩⟩
  · exact clusterOf_of_contextFor (hkept k).describes hset ((hkept k).ready c m hm)
  · rintro ⟨hname, hnot⟩
    have hresolve : (course k).registry.resolve target = target := if_neg hname
    have htold := lookup_not_listed hsteady he hopen (hresolve.symm ▸ hnot)
    rwa [hresolve] at htold
  · intro l c a hkl ha
    rw [lookup_finds_iff hsteady he hopen hkl ha]
    exact resolve_not_listed_iff (hkept k).describes

def namedFile : Gateway (List Manager.State) :=
  { onOneFile with settings := { kubeconfig := some "config" } }

/-- The clusters of a provider, whether it is closed, and the context of the manager that is ready
for cluster `c`. -/
def summary? (p : Provider σ) : Option (List String × Bool × Option String) :=
  match p.clusters with
  | .registry r => some (r.layout.clusters, r.closed, match r.entry? "c" with
    | some (.ready m) => some m.context
    | _ => none)
  | _ => none

set_option maxRecDepth 10000 in
theorem summary_namedFile :
    (outcome (ofKubeconfig namedFile) []).1.toOption.bind summary? =
      some (["c"], false, some "m") := by
  decide +kernel

/-- A provider of one cluster has its manager, and does not find another cluster. -/
theorem ofKubeconfig_fits_one_file :
    ∃ p u r, outcome (ofKubeconfig namedFile) [] = (.ok p, u) ∧ p.clusters = .registry r ∧
      r.entries.map Prod.fst = ["c"] ∧
      (∃ m, r.entry? "c" = some (.ready m) ∧
        r.layout.kubeconfig.clusterOf? m.context = some "c") ∧
      (reached namedFile { registry := r } u [.lookup "d"] 1).tasks[0]? =
        some (.answered "d" 0 (.error (.clusterNotFound "d"))) := by
  have hsummary := summary_namedFile
  generalize hp : outcome (ofKubeconfig namedFile) [] = made at hsummary
  obtain ⟨made, u⟩ := made
  cases made with
  | error e => cases hsummary
  | ok p =>
    obtain ⟨r, hr, hfits⟩ := ofKubeconfig_fits hp
    obtain ⟨hstates, hlookups⟩ := hfits u [.lookup "d"]
    obtain ⟨hentries, -, -, hready⟩ := hstates 0
    have hsummary : summary? p = some (["c"], false, some "m") := hsummary
    simp only [summary?, hr, Option.some.injEq, Prod.mk.injEq] at hsummary
    obtain ⟨hclusters, hopen, hcontext⟩ := hsummary
    refine ⟨p, u, r, rfl, hr, hentries.trans hclusters, ?_, ?_⟩
    · split at hcontext
      · rename_i m hm
        exact ⟨m, hm, (hready "c" m hm).2 rfl⟩
      · cases hcontext
    · refine (hlookups 0 "d" rfl hopen).1 ⟨by decide, ?_⟩
      change "d" ∉ r.layout.clusters
      rw [hclusters]
      decide

end Provider

end ClusterAccess
