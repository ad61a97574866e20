import ClusterAccess.Coordinate

namespace ClusterAccess.Coordinate

theorem ne_of_mem_pieces {path piece : String} (h : piece ∈ pieces path) : piece ≠ "" := by
  have hk := (List.mem_filter.mp h).2
  simpa using hk

theorem place_namespaces (method group version ns resource : String) (rest : List String) :
    place method group version ("namespaces" :: ns :: resource :: rest) =
      some ⟨group, version, resource, some ns, rest[0]?, rest[1]?,
        Verb.ofMethod method rest.isEmpty⟩ :=
  rfl

/-- Without a resource behind it a namespace is one itself. -/
theorem place_of_lone {method group version resource : String} {rest : List String}
    (h : resource = "namespaces" → rest.length ≤ 1) :
    place method group version (resource :: rest) =
      some ⟨group, version, resource, none, rest[0]?, rest[1]?,
        Verb.ofMethod method rest.isEmpty⟩ := by
  unfold place
  split
  · rename_i hrest
    cases hrest
  · rename_i ns next others hrest
    obtain ⟨rfl, rfl⟩ := List.cons.inj hrest
    have hlength := h rfl
    simp at hlength
  · rename_i hrest
    obtain ⟨rfl, rfl⟩ := List.cons.inj hrest
    rfl

theorem place_version {method group version : String} {rest : List String} {c : Coordinate}
    (h : place method group version rest = some c) : c.version = version := by
  unfold place at h
  split at h
  · cases h
  all_goals
    simp only [Option.some.injEq] at h
    subst c
    rfl

/-- The version of a coordinate is a piece of its path, so that it is never empty. -/
theorem version_ne_of_resolve {method path : String} {c : Coordinate}
    (h : resolve method path = some c) : c.version ≠ "" := by
  unfold resolve ofPieces at h
  split at h
  · rename_i version rest hp
    have hmem : version ∈ pieces path := by simp [hp]
    rw [place_version h]
    exact ne_of_mem_pieces hmem
  · rename_i group version rest hp
    have hmem : version ∈ pieces path := by simp [hp]
    rw [place_version h]
    exact ne_of_mem_pieces hmem
  · cases h

/-- A query turns one verb into another and changes nothing else. -/
theorem ofRequest_of_resolve {method : String} {uri : Http.Uri} {c : Coordinate}
    (h : resolve method uri.path = some c) :
    ∃ verb, ofRequest method uri = some { c with verb } := by
  unfold ofRequest
  rw [h, Option.map_some]
  split
  · exact ⟨.watch, rfl⟩
  · exact ⟨c.verb, rfl⟩

theorem version_ne_of_ofRequest {method : String} {uri : Http.Uri} {c : Coordinate}
    (h : ofRequest method uri = some c) : c.version ≠ "" := by
  obtain ⟨resolved, hresolve, rfl⟩ := Option.map_eq_some_iff.mp h
  have hne := version_ne_of_resolve hresolve
  split
  · exact hne
  · exact hne

end ClusterAccess.Coordinate
