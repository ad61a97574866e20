import ClusterAccess.Proofs.Noted
import ClusterAccess.Registry.Tasks

namespace ClusterAccess

namespace Source

variable {files others : Files}

theorem ofFile_congr {path : String} (h : files.look path = others.look path) :
    Kubeconfig.ofFile files path = Kubeconfig.ofFile others path := by
  simp only [Kubeconfig.ofFile, Files.read?, h]

theorem foldlM_merge_congr {paths : List String}
    (h : ∀ p ∈ paths, files.look p = others.look p) (k : Kubeconfig) :
    paths.foldlM (fun k p => do k.merge (← Kubeconfig.ofFile files p)) k =
      paths.foldlM (fun k p => do k.merge (← Kubeconfig.ofFile others p)) k := by
  induction paths generalizing k with
  | nil => rfl
  | cons path paths ih =>
    have hlater := ih fun p hp => h p (List.mem_cons_of_mem _ hp)
    simp only [List.foldlM_cons, ofFile_congr (h path List.mem_cons_self), hlater]

theorem merged_congr {paths : List String} (h : ∀ p ∈ paths, files.look p = others.look p) :
    merged files paths = merged others paths := by
  cases paths with
  | nil => rfl
  | cons first rest =>
    have hrest := foldlM_merge_congr fun p hp => h p (List.mem_cons_of_mem first hp)
    simp only [merged, ofFile_congr (h first List.mem_cons_self), hrest]

/-- Only how the source's own paths look counts. -/
theorem read_congr {source : Source} (h : ∀ p ∈ source.paths, files.look p = others.look p) :
    source.read files = source.read others := by
  cases source with
  | inCluster => rfl
  | kubeconfig paths =>
    have hfilter : paths.filter files.has = paths.filter others.has :=
      List.filter_congr fun p hp => by simp only [Files.has, h p hp]
    have hthere : ∀ p ∈ paths.filter others.has, files.look p = others.look p := fun p hp =>
      h p (List.mem_filter.mp hp).1
    simp only [read, hfilter, merged_congr hthere]

end Source

theorem Layout.read_congr {files others : Files} {source : Source}
    (h : ∀ p ∈ source.paths, files.look p = others.look p) :
    Layout.read files source = Layout.read others source := by
  simp only [Layout.read, Source.read_congr h]

namespace Registry

variable {σ : Type} {g : Gateway σ}

theorem lookup_spares (r : Registry) (target : String) (t : σ) :
    let after := (outcome (r.lookup g target) t).1.2
    after.source = r.source ∧ after.layout = r.layout := by
  simp only [lookup]
  split
  · exact ⟨rfl, rfl⟩
  · split
    · exact ⟨rfl, rfl⟩
    · exact ⟨rfl, rfl⟩

theorem source_relayout (r : Registry) (layout : Except Misconfiguration Layout) :
    (r.relayout layout).source = r.source := by
  cases layout with
  | ok layout => rfl
  | error problem => rfl

theorem close_eq (r : Registry) (t : σ) :
    (outcome (r.close g) t).1 = { r with closed := true } := by
  unfold Registry.close
  split
  · rename_i hc
    rw [outcome_pure, ← hc]
  · rfl

def Task.isRebuild : Task → Bool
  | .rebuilding | .rebuilt => true
  | .waiting _ | .building _ | .refused | .answered _ _ _ => false

namespace Tasks

/-- An event that has to do with lookups only, or with something else. -/
def Event.Serves (s : Tasks) : Event σ → Prop
  | .rebuild | .close => False
  | .turn i => s.tasks[i]? ≠ some .rebuilding
  | .lookup _ | .finish _ | .elsewhere _ => True

/-- What lookups leave alone: everything but the entries, and the tasks of rebuilds. -/
structure Spares (s s' : Tasks) : Prop where
  source : s'.registry.source = s.registry.source
  layout : s'.registry.layout = s.registry.layout
  closed : s'.registry.closed = s.registry.closed
  rebuilds : ∀ (i : Nat) (task : Task), s.tasks[i]? = some task → task.isRebuild = true →
    s'.tasks[i]? = some task

theorem Spares.refl (s : Tasks) : Spares s s :=
  ⟨rfl, rfl, rfl, fun _ _ h _ => h⟩

theorem spares_add (s : Tasks) (a : Task) : Spares s (s.add a) := by
  refine ⟨rfl, rfl, rfl, fun i task h _ => ?_⟩
  obtain ⟨hi, -⟩ := List.getElem?_eq_some_iff.mp h
  rw [Tasks.add, List.getElem?_append_left hi, h]

/-- The task of a lookup may become another one. -/
theorem spares_put {s s' : Tasks} {i : Nat} {a b : Task} (hi : s.tasks[i]? = some b)
    (hb : b.isRebuild = false) (htasks : s'.tasks = (s.put i a).tasks)
    (hsource : s'.registry.source = s.registry.source)
    (hlayout : s'.registry.layout = s.registry.layout)
    (hclosed : s'.registry.closed = s.registry.closed) : Spares s s' := by
  refine ⟨hsource, hlayout, hclosed, fun j task hj htask => ?_⟩
  have hij : i ≠ j := by
    rintro rfl
    cases hi.symm.trans hj
    exact absurd htask (Bool.eq_false_iff.mp hb)
  rw [htasks, put, List.getElem?_set_ne hij, hj]

theorem step_spares (s : Tasks) {e : Event σ} (he : e.Serves s) (t : σ) :
    Spares s (outcome (step g s e) t).1 := by
  cases e with
  | rebuild => exact he.elim
  | close => exact he.elim
  | elsewhere change => exact .refl s
  | lookup target =>
    simp only [step]
    split
    · exact spares_add s _
    · exact spares_add s _
  | finish i =>
    simp only [step]
    split
    · rename_i cluster hi
      exact spares_put hi rfl rfl rfl rfl rfl
    · exact .refl s
  | turn i =>
    simp only [step]
    split
    · exact .refl s
    · split
      · rename_i cluster hi
        split
        · exact spares_put hi rfl rfl rfl rfl rfl
        · exact spares_put hi rfl rfl rfl rfl rfl
      · exact absurd ‹_› he
      · exact .refl s

/-- A rebuild that has its turn reads the kubeconfig, unless a lookup is building. -/
theorem step_turn {s : Tasks} {i : Nat} (hi : s.tasks[i]? = some .rebuilding) (t : σ) :
    (outcome (step g s (.turn i)) t).1 =
      if s.busy then s
      else
        let found := (outcome g.host t).1.files
        (s.relayout (Layout.read found s.registry.source)).put i .rebuilt := by
  simp only [step]
  split
  · rfl
  · simp only [hi]
    rfl

/-- A rebuild of an open registry waits for its turn. -/
theorem step_rebuild (s : Tasks) (t : σ) :
    (outcome (step g s .rebuild) t).1 =
      s.add (if s.registry.closed then .rebuilt else .rebuilding) := by
  simp only [step]
  split
  · rfl
  · rfl

end Tasks

end Registry

end ClusterAccess
