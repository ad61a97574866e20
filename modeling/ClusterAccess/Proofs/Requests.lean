import ClusterAccess.Handle
import ClusterAccess.Proofs.Coordinates
import ClusterAccess.Proofs.Routes

namespace ClusterAccess

open Coordinate (IsSegment route)

namespace Target

/-- The segments of a collection's path. -/
def segments (t : Target) : List String :=
  let k := t.mapping.gvk
  let base := if k.group = "" then ["api", k.version] else ["apis", k.group, k.version]
  match t.namespaceName with
  | none => base ++ [t.mapping.plural]
  | some ns => base ++ ["namespaces", ns, t.mapping.plural]

theorem path_eq (t : Target) : t.path = route t.segments := by
  obtain ⟨⟨⟨group, version, kind⟩, plural, namespaced⟩, ns⟩ := t
  by_cases hg : group = "" <;> cases ns <;>
    simp [path, segments, route, hg, ← String.toList_inj, ToString.toString]

theorem segments_ne_nil (t : Target) : t.segments ≠ [] := by
  unfold segments
  split <;> simp

/-- What a target is made of may stand in a path. -/
structure IsPlain (t : Target) : Prop where
  group : t.mapping.gvk.group = "" ∨ IsSegment t.mapping.gvk.group
  version : IsSegment t.mapping.gvk.version
  plural : IsSegment t.mapping.plural
  namespaceName : ∀ ns ∈ t.namespaceName, IsSegment ns

theorem IsPlain.segments {t : Target} (h : t.IsPlain) : ∀ s ∈ t.segments, IsSegment s := by
  obtain ⟨⟨⟨group, version, kind⟩, plural, namespaced⟩, ns⟩ := t
  obtain ⟨hgroup, hversion, hplural, hns⟩ := h
  obtain ⟨hapi, hapis, hnamespaces⟩ : IsSegment "api" ∧ IsSegment "apis" ∧
      IsSegment "namespaces" := by
    decide +kernel
  cases ns with
  | none => by_cases hg : group = "" <;> simp_all [Target.segments]
  | some ns => by_cases hg : group = "" <;> simp_all [Target.segments]

/-- The segments of a path, a name perhaps behind those of the collection, say where the path
goes, also where the resource is namespaces. -/
theorem ofPieces_segments (t : Target) (method : String) (name : Option String) :
    Coordinate.ofPieces method (t.segments ++ name.toList) =
      some ⟨t.mapping.gvk.group, t.mapping.gvk.version, t.mapping.plural, t.namespaceName, name,
        none, Verb.ofMethod method name.isNone⟩ := by
  obtain ⟨⟨⟨group, version, kind⟩, plural, namespaced⟩, ns⟩ := t
  have hplace : ∀ rest, Coordinate.ofPieces method
      ((if group = "" then ["api", version] else ["apis", group, version]) ++ rest) =
        Coordinate.place method group version rest := by
    intro rest
    split
    · simp [*, Coordinate.ofPieces]
    · simp [Coordinate.ofPieces]
  cases ns with
  | some ns =>
    simp only [segments, List.append_assoc, hplace]
    cases name <;> rfl
  | none =>
    simp only [segments, List.append_assoc, hplace]
    cases name <;> exact Coordinate.place_of_lone fun _ => by simp

end Target

theorem mem_entry {key : String} {value : Option String} {e : String × String}
    (h : e ∈ entry key value) : e.1 = key := by
  cases value with
  | none => cases h
  | some v =>
    obtain rfl := List.mem_singleton.mp h
    rfl

/-- None of the parameters of a list begins as the one that asks to watch. -/
theorem ListParams.key_of_mem {p : ListParams} {e : String × String} (h : e ∈ p.entries) :
    e.1 ∈ ["fieldSelector", "labelSelector", "limit", "continue", "resourceVersion",
      "resourceVersionMatch"] := by
  have hversion : e ∈ p.versionEntries →
      e.1 = "resourceVersion" ∨ e.1 = "resourceVersionMatch" := by
    intro h
    unfold versionEntries at h
    split at h
    · cases h
    · cases h
    · split at h
      · cases h
      · rcases List.mem_cons.mp h with rfl | h
        · exact .inl rfl
        · exact .inr (mem_entry h)
  simp only [entries, List.mem_append] at h
  rcases h with (((h | h) | h) | h) | h
  · simp [mem_entry h]
  · simp [mem_entry h]
  · simp [mem_entry h]
  · simp [mem_entry h]
  · rcases hversion h with h | h <;> simp [h]

theorem ListParams.not_asksToWatch (p : ListParams) :
    Coordinate.asksToWatch (Http.Form.query p.entries) = false := by
  rw [Coordinate.asksToWatch, Http.Form.split_query, List.any_eq_false]
  intro item hitem
  rcases List.mem_cons.mp hitem with rfl | hitem
  · decide
  obtain ⟨e, he, rfl⟩ := List.mem_map.mp hitem
  -- the first letters already differ
  have hletter : ∀ key ∈ ["fieldSelector", "labelSelector", "limit", "continue", "resourceVersion",
      "resourceVersionMatch"], (Http.Form.encode key).toList.head?.any (· ≠ 'w') = true := by
    decide
  have hhead := hletter e.1 (key_of_mem he)
  have hitem : (Http.Form.item e).head?.any (· ≠ 'w') = true := by
    unfold Http.Form.item
    cases hk : (Http.Form.encode e.1).toList with
    | nil => simp [hk] at hhead
    | cons c cs => simpa [hk] using hhead
  have hne : ∀ rest, Http.Form.item e ≠ 'w' :: rest := by
    intro rest heq
    simp [heq] at hitem
  simp [← String.toList_inj, hne]

theorem WatchParams.asksToWatch (p : WatchParams) (version : String) :
    Coordinate.asksToWatch (Http.Form.query (p.entries version)) = true := by
  rw [Coordinate.asksToWatch, Http.Form.split_query, List.any_eq_true]
  have hitem : String.ofList (Http.Form.item ("watch", "true")) = "watch=true" := by decide
  exact ⟨"watch=true", by simp [entries, hitem], by decide⟩

namespace Client

/-- What comes of a request that is built unless there is a reason against it, and whose target may
turn out to be none. -/
inductive Drafts (method target : String) : Option TransportError → Draft → Prop where
  | refused (e : TransportError) : Drafts method target (some e) (.error e)
  | malformed (h : Http.Uri.parse? target = none) :
      Drafts method target none (.error (.request .malformed))
  | built {r : Http.Request} (hm : r.method = method) (h : Http.Uri.parse? target = some r.uri) :
      Drafts method target none (.ok r)

theorem drafts_get (target : String) : Drafts "GET" target none (get target) := by
  unfold get
  split
  · exact .built rfl ‹_›
  · exact .malformed ‹_›

theorem drafts_withBody (method target contentType : String) (content : Bytes) :
    Drafts method target none (withBody method target contentType content) := by
  unfold withBody
  split
  · exact .built rfl ‹_›
  · exact .malformed ‹_›

end Client

namespace Call

def method : Call → String
  | get _ | list _ | watch _ _ => "GET"
  | create _ _ => "POST"
  | replace _ _ _ => "PUT"
  | patch _ _ _ _ => "PATCH"
  | delete _ _ | deleteCollection _ _ => "DELETE"

/-- The object that is called for, where it has a name already. -/
def name? : Call → Option String
  | get name | replace name _ _ | delete name _ | patch name _ _ _ => some name
  | create _ _ | list _ | watch _ _ | deleteCollection _ _ => none

def verb : Call → Verb
  | create _ _ => .create
  | get _ => .get
  | list _ => .list
  | watch _ _ => .watch
  | replace _ _ _ => .update
  | delete _ _ => .delete
  | deleteCollection _ _ => .deleteCollection
  | patch _ _ _ _ => .patch

def parameters? : Call → Option (List (String × String))
  | get _ => none
  | create params _ | replace _ params _ => some params.entries
  | list params | deleteCollection _ params => some params.entries
  | watch params version => some (params.entries version)
  | delete _ _ => some []
  | patch _ params _ _ => some params.entries

/-- Where the request for a call goes. -/
def address (call : Call) (t : Target) : Http.Uri where
  path := route (t.segments ++ call.name?.toList)
  query := call.parameters?.map Http.Form.query

/-- The object that a call carries as a whole. -/
def object? : Call → Option Manifest
  | create _ object | replace _ _ object => some object
  | _ => none

def problem? : Call → Option RequestProblem
  | create params _ => createProblem? params
  | get name | replace name _ _ | delete name _ => nameProblem? name
  | list params | deleteCollection _ params => params.problem?
  | watch params _ => params.problem?
  | patch name params kind _ => (nameProblem? name).or (params.problem? kind)

/-- Why there is no request for a call, whatever its target. -/
def refused? (call : Call) : Option TransportError :=
  if call.object?.any (·.toJson?.isNone) then some .decoding else call.problem?.map .request

theorem withQuery_path (t : Target) (entries : List (String × String)) :
    withQuery t.path entries =
      Http.Uri.target ⟨none, none, route (t.segments ++ []), some (Http.Form.query entries)⟩ := by
  rw [List.append_nil, ← t.path_eq]
  rfl

theorem path_name (t : Target) (name : String) :
    s!"{t.path}/{name}" = route (t.segments ++ [name]) := by
  rw [t.path_eq, ← String.toList_inj]
  simp [route, ToString.toString]

theorem withQuery_name (t : Target) (name : String) (entries : List (String × String)) :
    withQuery s!"{t.path}/{name}" entries = Http.Uri.target
      ⟨none, none, route (t.segments ++ [name]), some (Http.Form.query entries)⟩ := by
  rw [path_name]
  rfl

theorem drafts_checked {method target : String} {d : Client.Draft} (problem : Option RequestProblem)
    (h : Client.Drafts method target none d) :
    Client.Drafts method target (problem.map .request) (checked problem d) := by
  cases problem with
  | none => exact h
  | some p => exact .refused _

theorem drafts_writing (problem : Option RequestProblem) (method target : String)
    (object : Manifest) :
    Client.Drafts method target
      (if object.toJson?.isNone then some .decoding else problem.map .request)
      (writing problem method target object) := by
  unfold writing
  cases object.toJson? with
  | none => exact .refused _
  | some body => exact drafts_checked problem (Client.drafts_withBody ..)

theorem drafts_draft (call : Call) (t : Target) :
    Client.Drafts call.method (call.address t).target call.refused? (call.draft t) := by
  cases call with
  | create params object => exact withQuery_path t _ ▸ drafts_writing ..
  | get name =>
    rw [draft, path_name]
    exact drafts_checked _ (Client.drafts_get _)
  | list params => exact withQuery_path t _ ▸ drafts_checked _ (Client.drafts_get _)
  | watch params version => exact withQuery_path t _ ▸ drafts_checked _ (Client.drafts_get _)
  | replace name params object => exact withQuery_name t name _ ▸ drafts_writing ..
  | delete name params =>
    exact withQuery_name t name _ ▸ drafts_checked _ (Client.drafts_withBody ..)
  | deleteCollection params selection =>
    exact withQuery_path t _ ▸ drafts_checked _ (Client.drafts_withBody ..)
  | patch name params kind body =>
    exact withQuery_name t name _ ▸ drafts_checked _ (Client.drafts_withBody ..)

theorem segments_address {t : Target} (ht : t.IsPlain) {call : Call}
    (hname : ∀ name ∈ call.name?, IsSegment name) :
    ∀ s ∈ t.segments ++ call.name?.toList, IsSegment s := by
  intro s hs
  rcases List.mem_append.mp hs with hs | hs
  · exact ht.segments s hs
  · exact hname s (Option.mem_toList.mp hs)

theorem address_isOrigin {t : Target} {call : Call}
    (h : ∀ s ∈ t.segments ++ call.name?.toList, ∀ c ∈ s.toList, c ≠ '/' ∧ c ≠ '?' ∧ c ≠ '#') :
    (call.address t).IsOrigin where
  scheme := rfl
  authority := rfl
  slash := Coordinate.head?_route (by simp [t.segments_ne_nil])
  path c hc := Coordinate.route_plain h c hc
  query q hq := by
    obtain ⟨parameters, -, rfl⟩ := Option.map_eq_some_iff.mp hq
    exact Http.Form.query_plain parameters

/-- A request that is built goes to the call's address. -/
theorem uri_of_draft {t : Target} {call : Call} (ho : (call.address t).IsOrigin)
    {r : Http.Request} (hr : call.draft t = .ok r) :
    r.method = call.method ∧ r.uri = call.address t := by
  have hparse := Http.Uri.parse?_target ho
  have hdrafts := call.drafts_draft t
  rw [hr] at hdrafts
  generalize call.refused? = refused at hdrafts
  cases hdrafts with
  | built hm h =>
    rw [hparse] at h
    split at h
    · exact ⟨hm, (Option.some.inj h).symm⟩
    · cases h

/-- Nothing stands against a call, and its address can be written. -/
structure IsIssued (call : Call) (t : Target) : Prop where
  accepted : call.refused? = none
  fits : (call.address t).fits = true

theorem draft_ok {t : Target} {call : Call} (ho : (call.address t).IsOrigin)
    (hi : call.IsIssued t) :
    ∃ r, call.draft t = .ok r ∧ r.method = call.method ∧ r.uri = call.address t := by
  have hparse := Http.Uri.parse?_target ho
  have hdrafts := call.drafts_draft t
  rw [hi.accepted] at hdrafts
  generalize hd : call.draft t = d at hdrafts
  cases hdrafts with
  | malformed h => simp [hparse, hi.fits] at h
  | @built r hm h => exact ⟨r, rfl, uri_of_draft ho hd⟩

theorem draft_error {t : Target} {call : Call} (ho : (call.address t).IsOrigin)
    (hi : ¬ call.IsIssued t) : ∃ e, call.draft t = .error e := by
  have hparse := Http.Uri.parse?_target ho
  have hdrafts := call.drafts_draft t
  generalize hr : call.refused? = refused at hdrafts
  generalize call.draft t = d at hdrafts ⊢
  cases hdrafts with
  | refused e => exact ⟨e, rfl⟩
  | malformed h => exact ⟨_, rfl⟩
  | built hm h =>
    rw [hparse] at h
    split at h
    · exact absurd ⟨hr, ‹_›⟩ hi
    · cases h

/-- A gate takes the request for a call for what the call is. -/
theorem ofRequest_address {t : Target} (ht : t.IsPlain) {call : Call}
    (hname : ∀ name ∈ call.name?, IsSegment name) :
    Coordinate.ofRequest call.method (call.address t) =
      some ⟨t.mapping.gvk.group, t.mapping.gvk.version, t.mapping.plural, t.namespaceName,
        call.name?, none, call.verb⟩ := by
  have hresolve : Coordinate.resolve call.method (call.address t).path = some
      ⟨t.mapping.gvk.group, t.mapping.gvk.version, t.mapping.plural, t.namespaceName,
        call.name?, none, Verb.ofMethod call.method call.name?.isNone⟩ := by
    rw [Coordinate.resolve, address, Coordinate.pieces_route (segments_address ht hname),
      t.ofPieces_segments]
  unfold Coordinate.ofRequest
  rw [hresolve]
  cases call <;> simp [address, method, name?, verb, parameters?, Verb.ofMethod,
    ListParams.not_asksToWatch, WatchParams.asksToWatch]

end Call

end ClusterAccess
