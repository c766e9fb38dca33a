import StackBroker.Http.Route

/-!
The paths of the interface. Every route has one path, written from its segments
(`Route.path`), and a path is for a route exactly if it is the path of that route and
the ids are segments of their own (`ofPath?_eq_some_iff`).
-/
namespace StackBroker.Http.Route

/-! ### Segments -/

theorem segments_eq_splitOn (path : List Char) : segments path = path.splitOn '/' := by
  induction path with
  | nil => rfl
  | cons c rest ih =>
    rw [segments,List.splitOn_cons_eq_if_modifyHead,ih]
    by_cases slash : c = '/'
    · simp [slash]
    · cases pieces : rest.splitOn '/' with
      | nil => exact absurd pieces (List.splitOn_ne_nil '/' rest)
      | cons first others => simp [slash]

/-- No segment has a slash in it. -/
theorem slash_not_mem_segments (path : List Char) : ∀ piece ∈ segments path, '/' ∉ piece := by
  induction path with
  | nil => simp [segments]
  | cons c rest ih =>
    rw [segments]
    by_cases slash : c = '/'
    · simpa [slash] using ih
    · rw [if_neg slash]
      cases pieces : segments rest with
      | nil => simpa using Ne.symm slash
      | cons first others =>
        rw [pieces] at ih
        intro piece member
        rcases List.mem_cons.mp member with rfl | later
        · simpa [Ne.symm slash] using ih first List.mem_cons_self
        · exact ih piece (List.mem_cons_of_mem _ later)

/-! ### Paths -/

/-- The segments of the path of a route. -/
def parts : Route → List (List Char)
  | .health => ["health".toList]
  | .catalog => ["v2".toList,"catalog".toList]
  | .serviceInstance id => ["v2".toList,"service_instances".toList,id]
  | .lastOperation id => ["v2".toList,"service_instances".toList,id,"last_operation".toList]
  | .binding instanceId bindingId =>
    ["v2".toList,"service_instances".toList,instanceId,"service_bindings".toList,bindingId]
  | .interfaceOutline => ["api".toList,"openapi.json".toList]

/-- The path of a route. -/
def path (route : Route) : List Char := '/' :: ['/'].intercalate route.parts

/-- An id at the end of the path is not empty. -/
def Filled : Route → Prop
  | .serviceInstance id => id ≠ []
  | .binding _ bindingId => bindingId ≠ []
  | _ => True

/-- The ids are segments of their own. -/
def WellFormed (route : Route) : Prop := route.Filled ∧ ∀ part ∈ route.parts, '/' ∉ part

theorem ofSegments?_parts {route : Route} (filled : route.Filled) : ofSegments? route.parts = some route := by
  cases route with
  | serviceInstance id => simpa [parts,ofSegments?,Filled] using filled
  | binding instanceId bindingId => simpa [parts,ofSegments?,Filled] using filled
  | lastOperation id => simp [parts,ofSegments?]
  | health => rfl
  | catalog => rfl
  | interfaceOutline => decide

theorem eq_parts_of_ofSegments? {pieces : List (List Char)} {route : Route}
    (found : ofSegments? pieces = some route) : pieces = route.parts ∧ route.Filled := by
  unfold ofSegments? at found
  split at found
  · split at found
    · rename_i same
      cases found
      exact ⟨by rw [same]; rfl,trivial⟩
    · cases found
  · split at found
    · rename_i same
      cases found
      exact ⟨by rw [same.1,same.2]; rfl,trivial⟩
    · split at found
      · rename_i same
        cases found
        exact ⟨by rw [same.1,same.2]; rfl,trivial⟩
      · cases found
  · split at found
    · rename_i same
      cases found
      exact ⟨by rw [same.1,same.2.1]; rfl,same.2.2⟩
    · cases found
  · split at found
    · rename_i same
      cases found
      exact ⟨by rw [same.1,same.2.1,same.2.2]; rfl,trivial⟩
    · cases found
  · split at found
    · rename_i same
      cases found
      exact ⟨by rw [same.1,same.2.1,same.2.2.1]; rfl,same.2.2.2⟩
    · cases found
  · cases found

theorem parts_ne_nil (route : Route) : route.parts ≠ [] := by
  cases route <;> exact List.cons_ne_nil _ _

/-- A path is for a route exactly if it is the path of the route, with ids that are
    segments of their own. -/
theorem ofPath?_eq_some_iff {path : List Char} {route : Route} :
    ofPath? path = some route ↔ path = route.path ∧ route.WellFormed := by
  constructor
  · intro found
    unfold ofPath? at found
    split at found
    · rename_i rest
      obtain ⟨pieces,filled⟩ := eq_parts_of_ofSegments? found
      refine ⟨?_,filled,?_⟩
      · rw [Route.path,← pieces,segments_eq_splitOn,List.intercalate_splitOn]
      · rw [← pieces]
        exact slash_not_mem_segments rest
    · cases found
  · rintro ⟨rfl,filled,plain⟩
    rw [Route.path,ofPath?,segments_eq_splitOn,List.splitOn_intercalate '/' plain route.parts_ne_nil]
    exact ofSegments?_parts filled

/-- The path of an instance. -/
theorem path_serviceInstance (id : List Char) :
    (Route.serviceInstance id).path = "/v2/service_instances/".toList ++ id := by
  simp [Route.path,parts,List.intercalate]

end StackBroker.Http.Route
