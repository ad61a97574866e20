import ClusterAccess.Discovery.Fetch
import ClusterAccess.Proofs.Denial
import ClusterAccess.Proofs.Freshness

namespace ClusterAccess.Discovery

/-- The types that a list names, or nothing when it could not be had. A name with a slash is that of
a part of a type. -/
def types? (groupVersion : String) :
    Except TransportError (List Listed) → Option (List ResourceType)
  | .ok entries =>
    some ((entries.filter fun e => '/' ∉ e.name.toList).map (·.resource groupVersion))
  | .error _ => none

theorem Listed.isWhole_eq : isWhole = fun e => decide ('/' ∉ e.name.toList) := by
  funext e
  simp [isWhole]

/-- The answers of an API server to one fetch: each group and version that it advertises stands
beside the answer to the request for its list. -/
inductive Round where
  | withoutVersions (cause : TransportError)
  | withoutGroups (cause : TransportError)
  | advertised (lists : List (String × Except TransportError (List Listed)))

namespace Round

/-- What a fetch makes of the answers. -/
def outcome : Round → Except MappingError (List ResourceType)
  | .withoutVersions cause | .withoutGroups cause => .error (.discovery cause.message)
  | .advertised lists => .ok (lists.flatMap fun (groupVersion, answer) =>
      (types? groupVersion answer).getD [])

theorem outcome_error {round : Round} {cause : MappingError} (h : round.outcome = .error cause) :
    ∃ text, cause = .discovery text := by
  cases round with
  | withoutVersions e =>
    cases h
    exact ⟨_, rfl⟩
  | withoutGroups e =>
    cases h
    exact ⟨_, rfl⟩
  | advertised lists => cases h

theorem outcome_ok {round : Round} {resources : List ResourceType}
    (h : round.outcome = .ok resources) :
    ∃ lists, round = .advertised lists ∧ resources = lists.flatMap fun (groupVersion, answer) =>
      (types? groupVersion answer).getD [] := by
  cases round with
  | withoutVersions e => cases h
  | withoutGroups e => cases h
  | advertised lists =>
    cases h
    exact ⟨lists, rfl, rfl⟩

end Round

/-- Answers that come one by one. Each is that to its question, and no question goes without. -/
structure Arrive {α : Type} (answers : List α) (arrivals : List (Nat × α)) : Prop where
  sound : ∀ a ∈ arrivals, answers[a.1]? = some a.2
  complete : ∀ i < answers.length, i ∈ arrivals.map Prod.fst

/-- An answer fills the place of its question and leaves the others alone, so that after some of
them the places of those are filled. -/
theorem getElem?_foldl_set {α : Type} {answers places : List α} {arrivals : List (Nat × α)}
    (hlength : places.length = answers.length) (hsound : ∀ a ∈ arrivals, answers[a.1]? = some a.2)
    (i : Nat) :
    (arrivals.foldl (fun acc a => acc.set a.1 a.2) places)[i]? =
      if i ∈ arrivals.map Prod.fst then answers[i]? else places[i]? := by
  induction arrivals generalizing places with
  | nil => simp
  | cons first rest ih =>
    have hfirst := hsound first List.mem_cons_self
    have hset : (places.set first.1 first.2).length = answers.length := by
      rw [List.length_set, hlength]
    rw [List.foldl_cons, ih hset fun a ha => hsound a (List.mem_cons_of_mem first ha),
      List.getElem?_set]
    by_cases hi : i = first.1
    · subst hi
      have hlt : first.1 < places.length := by
        rw [hlength]
        exact (List.getElem?_eq_some_iff.mp hfirst).1
      simp [hlt, hfirst]
    · rw [if_neg (Ne.symm hi)]
      simp only [List.map_cons, List.mem_cons, hi, false_or]

theorem gather_of_arrive {answers : List (Option (List ResourceType))}
    {arrivals : List (Nat × Option (List ResourceType))} (h : Arrive answers arrivals) :
    gather answers.length arrivals = answers.flatMap (·.getD []) := by
  have hplaces : arrivals.foldl (fun acc a => acc.set a.1 a.2)
      (List.replicate answers.length none) = answers := by
    apply List.ext_getElem?
    intro i
    rw [getElem?_foldl_set List.length_replicate h.sound]
    split
    · rfl
    · rename_i hi
      have hlast : answers.length ≤ i := Nat.le_of_not_lt fun hlt => hi (h.complete i hlt)
      rw [List.getElem?_eq_none hlast, List.getElem?_eq_none (by simpa using hlast)]
  rw [gather, hplaces, List.flatMap]

/-- Every order of the questions brings all of the answers. -/
theorem Arrive.of_perm {α β : Type} {questions : List β} {asked : List (β × Nat)}
    (h : asked.Perm questions.zipIdx) (f : β → α) :
    Arrive (questions.map f) (asked.map fun q => (q.2, f q.1)) := by
  constructor
  · intro a ha
    obtain ⟨q, hq, rfl⟩ := List.mem_map.mp ha
    have hmem := List.mem_zipIdx_iff_getElem?.mp (h.mem_iff.mp hq)
    rw [List.getElem?_map, hmem]
    rfl
  · intro i hi
    rw [List.length_map] at hi
    have hmem : (questions[i], i) ∈ asked :=
      h.mem_iff.mpr (List.mem_zipIdx_iff_getElem?.mpr (List.getElem?_eq_getElem hi))
    simp only [List.map_map, List.mem_map, Function.comp_apply]
    exact ⟨_, hmem, rfl⟩

section Fetch

variable {σ : Type} (service : Client.Service σ)

/-- The request for the list of one group and version. -/
def requested (groupVersion : String) :
    StateM σ (String × Except TransportError (List Listed)) := do
  return (groupVersion,
    ← Client.ask service (Client.decoded list?) (Client.get (listTarget groupVersion)))

/-- The answers to all that a fetch asks for. -/
def round : StateM σ Round := do
  match ← Client.ask service (Client.decoded coreVersions?) (Client.get "/api") with
  | .error e => return .withoutVersions e
  | .ok core =>
    match ← Client.ask service (Client.decoded groups?) (Client.get "/apis") with
    | .error e => return .withoutGroups e
    | .ok groups => return .advertised (← (core ++ groups.flatten).mapM (requested service))

theorem outcome_listed (groupVersion : String) (s : σ) :
    outcome (listed service groupVersion) s =
      (let asked := outcome (requested service groupVersion) s
       (types? groupVersion asked.1.2, asked.2)) := by
  simp only [listed, requested, outcome_bind, outcome_pure]
  split
  · rename_i entries h
    simp [types?, h, Listed.isWhole_eq]
  · rename_i e h
    simp [types?, h]

theorem requested_fst (groupVersion : String) (s : σ) :
    (outcome (requested service groupVersion) s).1.1 = groupVersion :=
  rfl

/-- Every group and version that is advertised is asked for its list. -/
theorem mapM_requested_fst (groupVersions : List String) (s : σ) :
    (outcome (groupVersions.mapM (requested service)) s).1.map Prod.fst = groupVersions := by
  induction groupVersions generalizing s with
  | nil => rfl
  | cons first rest ih =>
    simp only [List.mapM_cons, outcome_bind, outcome_pure, List.map_cons, requested_fst, ih]

/-- The lists are asked for in the order in which they are advertised. -/
theorem outcome_mapM_listed (groupVersions : List String) (k : Nat) (s : σ) :
    outcome ((groupVersions.zipIdx k).mapM fun (groupVersion, i) => do
        return (i, ← listed service groupVersion)) s =
      (let asked := outcome (groupVersions.mapM (requested service)) s
       (((asked.1.map fun a => types? a.1 a.2).zipIdx k).map Prod.swap, asked.2)) := by
  induction groupVersions generalizing k s with
  | nil => rfl
  | cons first rest ih =>
    simp only [List.zipIdx_cons, List.mapM_cons, outcome_bind, outcome_pure, ih, outcome_listed,
      requested_fst, List.map_cons, Prod.swap_prod_mk]

/-- Answers in the order of their questions stay in that order. -/
theorem gather_zipIdx (answers : List (Option (List ResourceType))) :
    gather answers.length (answers.zipIdx.map Prod.swap) =
      (answers.map (·.getD [])).flatten := by
  have harrive := Arrive.of_perm (.refl answers.zipIdx) id
  rw [List.map_id] at harrive
  rw [← List.flatMap_def]
  exact gather_of_arrive harrive

/-- A fetch tells nothing but what the answers to it say. -/
theorem outcome_fetch (s : σ) :
    outcome (fetch service) s =
      (let asked := outcome (round service) s
       (asked.1.outcome, asked.2)) := by
  simp only [fetch, round, outcome_bind]
  generalize outcome (Client.ask service (Client.decoded coreVersions?) (Client.get "/api")) s =
    versions
  obtain ⟨core | core, t⟩ := versions
  · rfl
  · simp only [outcome_bind]
    generalize outcome (Client.ask service (Client.decoded groups?) (Client.get "/apis")) t = groups
    obtain ⟨groups | groups, u⟩ := groups
    · rfl
    · simp only [outcome_bind, outcome_pure, outcome_mapM_listed, Round.outcome]
      have hnames := mapM_requested_fst service (core ++ groups.flatten) u
      generalize outcome ((core ++ groups.flatten).mapM (requested service)) u = asked at hnames
      have hlength : (core ++ groups.flatten).length =
          (asked.1.map fun a => types? a.1 a.2).length := by
        rw [← hnames, List.length_map, List.length_map]
      rw [hlength, gather_zipIdx, List.map_map, List.flatMap]
      rfl

end Fetch

/-- A list names a type: one of its entries, whose name has no slash, is of the group and version,
and answers to the name in small letters. -/
def Names (wanted : GroupVersionResource) (groupVersion : String) (entries : List Listed) : Prop :=
  ∃ e ∈ entries, '/' ∉ e.name.toList ∧
    (e.resource groupVersion).isOf wanted.group wanted.version = true ∧
    (e.resource groupVersion).answersTo (Text.lower wanted.resource) = true

/-- The list of a group and version could not be had, or it does not name the type. -/
def Lacks (wanted : GroupVersionResource) (groupVersion : String) :
    Except TransportError (List Listed) → Prop
  | .error _ => True
  | .ok entries => ¬ Names wanted groupVersion entries

theorem lacks_iff {wanted : GroupVersionResource} {groupVersion : String}
    {answer : Except TransportError (List Listed)} :
    Lacks wanted groupVersion answer ↔ ∀ r ∈ (types? groupVersion answer).getD [],
      ¬ (r.isOf wanted.group wanted.version &&
        r.answersTo (Text.lower wanted.resource)) = true := by
  cases answer with
  | error e => simp [Lacks, types?]
  | ok entries =>
    simp only [Lacks, Names, types?, Option.getD_some, List.mem_map, List.mem_filter,
      decide_eq_true_eq, Bool.and_eq_true, forall_exists_index, and_imp, not_exists, not_and]
    constructor
    · rintro h _ e he hwhole rfl hof
      exact h e he hwhole hof
    · exact fun h e he hwhole hof => h _ e he hwhole rfl hof

/-- There is no match exactly when no resource of the snapshot is of the group and version and
answers to the name. -/
theorem Snapshot.kindFor_noMatch_iff {s : Snapshot} {wanted : GroupVersionResource} :
    (∃ text, s.kindFor wanted = .error (.noMatch text)) ↔ ∀ r ∈ s.resources,
      ¬ (r.isOf wanted.group wanted.version &&
        r.answersTo (Text.lower wanted.resource)) = true := by
  rw [← List.find?_eq_none]
  unfold kindFor
  cases h : s.byResource wanted with
  | none => exact ⟨fun _ => h, fun _ => ⟨_, rfl⟩⟩
  | some r =>
    have hne : ¬ s.byResource wanted = none := by simp [h]
    simp only [byResource] at h hne
    simp [hne]

namespace Readers

variable {events : List Event}

/-- Whatever a reader is told without an error was fetched. -/
theorem fetched_of_answered {i : Nat} {s : Snapshot}
    (hr : (run {} events).readers[i]? = some (.answered (.ok s))) :
    ∃ j b e, Fetched events j b e (.ok s.resources) := by
  rcases (coherent_run events).2.2 i _ hr with ⟨j, b, e, hf, -⟩ | ⟨-, w, hw, hs⟩
  · exact ⟨j, b, e, hf⟩
  · have hstores := (coherent events w (Nat.le_of_lt (List.getElem?_eq_some_iff.mp hw).1)).stores
    generalize (after events w).cache = c at hs hstores
    cases hstores with
    | nothing hn hf => simp [hn] at hs
    | @fetched t j b e ht hf he hg =>
      obtain rfl := Option.some.inj (ht.symm.trans hs)
      exact ⟨j, b, e, hf⟩

/-- An event of readers whose fetches bring what an API server answers. -/
inductive Happening where
  | arrive
  | advance (reader : Nat)
  | receive (reader : Nat) (round : Round)
  | invalidate

def Happening.event : Happening → Event
  | .arrive => .arrive
  | .advance i => .advance i
  | .receive i round => .receive i round.outcome
  | .invalidate => .invalidate

theorem receive_of_event {happenings : List Happening} {e j : Nat}
    {answer : Except MappingError (List ResourceType)}
    (h : (happenings.map Happening.event)[e]? = some (.receive j answer)) :
    ∃ round, happenings[e]? = some (.receive j round) ∧ round.outcome = answer := by
  rw [List.getElem?_map] at h
  obtain ⟨happening, he, heq⟩ := Option.map_eq_some_iff.mp h
  cases happening with
  | receive i round =>
    cases heq
    exact ⟨round, he, rfl⟩
  | arrive => cases heq
  | advance i => cases heq
  | invalidate => cases heq

/-- A reader that is told without an error has the answers of one round: all that this round
advertised has a list that lacks the type, or could not be had, when there is no match, and only
then. Without a snapshot the reader is told that discovery failed. The rounds are what an API server
answers to a fetch. -/
theorem run_noMatch (happenings : List Happening) :
    (∀ {σ : Type} (service : Client.Service σ) (t : σ),
      (outcome (fetch service) t).1 = (outcome (round service) t).1.outcome) ∧
    (∀ (i : Nat) (cause : MappingError),
      (run {} (happenings.map Happening.event)).readers[i]? = some (.answered (.error cause)) →
      ∃ text, cause = .discovery text) ∧
    ∀ (i : Nat) (s : Snapshot),
      (run {} (happenings.map Happening.event)).readers[i]? = some (.answered (.ok s)) →
      ∃ j b e lists, Fetched (happenings.map Happening.event) j b e (.ok s.resources) ∧
        happenings[e]? = some (.receive j (.advertised lists)) ∧
        ∀ wanted, (∃ text, s.kindFor wanted = .error (.noMatch text)) ↔
          ∀ groupVersion answer, (groupVersion, answer) ∈ lists →
            Lacks wanted groupVersion answer := by
  refine ⟨fun service t => congrArg Prod.fst (outcome_fetch service t), ?_, ?_⟩
  · intro i cause hr
    obtain ⟨⟨b, e, hf⟩, -⟩ := answered_error hr
    obtain ⟨round, -, hround⟩ := receive_of_event hf.ends
    exact Round.outcome_error hround
  · intro i s hr
    obtain ⟨j, b, e, hf⟩ := fetched_of_answered hr
    obtain ⟨round, he, hround⟩ := receive_of_event hf.ends
    obtain ⟨lists, rfl, hresources⟩ := Round.outcome_ok hround
    refine ⟨j, b, e, lists, hf, he, fun wanted => ?_⟩
    rw [Snapshot.kindFor_noMatch_iff, hresources]
    simp only [List.mem_flatMap, Prod.exists, lacks_iff]
    constructor
    · exact fun h groupVersion answer hmem r hr => h r ⟨groupVersion, answer, hmem, hr⟩
    · rintro h r ⟨groupVersion, answer, hmem, hr⟩
      exact h groupVersion answer hmem r hr

end Readers

/-- It advertises core version `v1` and group version `apps/v1`, and has the list of the first. -/
def answered? (path : String) : Option Json :=
  if path = "/api" then some (.obj [("kind", .str "APIVersions"), ("versions", .arr [.str "v1"])])
  else if path = "/apis" then
    some (.obj [("kind", .str "APIGroupList"), ("groups", .arr [.obj [("name", .str "apps"),
      ("versions", .arr [.obj [("groupVersion", .str "apps/v1"), ("version", .str "v1")]])]])])
  else if path = "/api/v1" then
    some (.obj [("kind", .str "APIResourceList"), ("groupVersion", .str "v1"),
      ("resources", .arr [.obj [("name", .str "pods"), ("namespaced", .bool true),
        ("kind", .str "Pod"), ("verbs", .arr [.str "get"])]])])
  else none

/-- Whatever else it is asked for is not available now. -/
def unavailable : Client.Service Cache := fun r =>
  return .ok <| match answered? r.uri.path with
    | some v => { body := Bytes.ofText v.print }
    | none => { status := 503 }

/-- What is advertised and cannot be listed. -/
def Round.failed : Round → List String
  | .advertised lists => lists.filterMap fun (groupVersion, answer) =>
    match answer with
    | .error _ => some groupVersion
    | .ok _ => none
  | .withoutVersions _ | .withoutGroups _ => []

/-- The text of an answer that there is no match. -/
def unmatched? {α : Type} : Except MappingError α → Option String
  | .error (.noMatch text) => some text
  | _ => none

set_option maxRecDepth 10000 in
/-- Group version `apps/v1` is advertised and its list cannot be had. Still the answer is that there
are no deployments, and it stays so, because the cache counts as fresh. -/
theorem noMatch_of_unavailable :
    let mapper := Mapper.ofSnapshots (read (.whole Cache) (fetch unavailable))
    let asked := outcome (mapper.kindFor ⟨"apps", "v1", "deployments"⟩) {}
    (outcome (round unavailable) {}).1.failed = ["apps/v1"] ∧
      unmatched? asked.1 = some "apps/v1/deployments" ∧ asked.2.isFresh = true := by
  decide +kernel

end ClusterAccess.Discovery
