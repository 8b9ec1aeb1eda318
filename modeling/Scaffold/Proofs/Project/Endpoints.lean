import Scaffold.Proofs.Project.Emission

/-!
What becomes of each endpoint: a route module among the resolved files, or a warning that names it or
the file it shares.
-/
namespace Scaffold.Project
open Route (filePath owner? moduleFor slug)

variable {backend : Backend} {config : Config} {endpoint : Endpoint}

structure Unrouted (backend : Backend) (project : Project) (endpoint : Endpoint) : Prop where
  owner : owner? endpoint.path backend.tables = none
  told : .unresolvedEndpoint endpoint.method endpoint.path ∈ project.warnings

/- The module of the endpoint is the resolved file of its path, or the path is told as a shared one. -/
inductive Routed (backend : Backend) (project : Project) (endpoint : Endpoint) : Prop where
  | kept {table} (owner : owner? endpoint.path backend.tables = some table)
      (resolved : ⟨"src/routes/" ++ slug endpoint.path ++ ".ts", (moduleFor endpoint table).text⟩ ∈
        project.resolved)
  | shared {table} (owner : owner? endpoint.path backend.tables = some table)
      (told : .duplicatePath ("src/routes/" ++ slug endpoint.path ++ ".ts") ∈ project.warnings)

theorem routedOwner {project : Project} (routed : Routed backend project endpoint) :
    owner? endpoint.path backend.tables ≠ none := by
  cases routed with
  | kept owner | shared owner => rw [owner]; exact Option.some_ne_none _

theorem repeatTold {path : String} (repeated : path ∈ repeatedPaths (generate backend config).files) :
    .duplicatePath path ∈ (generate backend config).warnings :=
  List.mem_append_right _ (List.mem_map.mpr ⟨path, repeated, rfl⟩)

theorem unownedUnrouted
    (member : endpoint ∈ backend.endpoints) (owner : owner? endpoint.path backend.tables = none) :
    Unrouted backend (generate backend config) endpoint := by
  have listed : (endpoint, none) ∈ owned backend :=
    List.mem_map.mpr ⟨endpoint, member, by rw [owner]⟩
  have warned : Warning.unresolvedEndpoint endpoint.method endpoint.path ∈
      (owned backend).filterMap endpointWarning? := List.mem_filterMap.mpr ⟨_, listed, rfl⟩
  refine ⟨owner, ?_⟩
  simp only [generate, gaps, List.mem_append]
  exact .inl (.inl (.inr warned))

theorem finalOrTold {file : File} (member : file ∈ (generate backend config).files) :
    ∃ final ∈ (generate backend config).resolved, final.path = file.path ∧
      (final = file ∨ .duplicatePath file.path ∈ (generate backend config).warnings) := by
  obtain ⟨final, resolved, same, inside⟩ := resolvedExists member
  refine ⟨final, resolved, same, ?_⟩
  by_cases equal : final = file
  · exact .inl equal
  · exact .inr (repeatTold (repeatedOfTwo member inside same equal))

theorem routeEmitted {table : Table} (member : endpoint ∈ backend.endpoints)
    (owner : owner? endpoint.path backend.tables = some table) :
    ⟨filePath endpoint.path, (moduleFor endpoint table).text⟩ ∈ (generate backend config).files := by
  have route := memRouteFiles.mpr ⟨endpoint, member, table, owner, rfl⟩
  exact List.mem_append_left _ (List.mem_append_right _ route)

theorem ownedRouted {table : Table} (member : endpoint ∈ backend.endpoints)
    (owner : owner? endpoint.path backend.tables = some table) :
    Routed backend (generate backend config) endpoint := by
  have emitted : _ ∈ (generate backend config).files := routeEmitted member owner
  obtain ⟨final, resolved, same, kept⟩ := finalOrTold emitted
  rcases kept with rfl | told
  · exact .kept owner resolved
  · exact .shared owner told

theorem noEndpointLost (backend : Backend) (config : Config) :
    (∀ k : Fin backend.endpoints.length,
      Xor (Unrouted backend (generate backend config) backend.endpoints[k])
        (Routed backend (generate backend config) backend.endpoints[k])) ∧
    ((generate backend config).resolved.map (·.path)).Nodup ∧
    ∀ file ∈ (generate backend config).files,
      ∃ final ∈ (generate backend config).resolved, final.path = file.path ∧
        (final.content ≠ file.content →
          .duplicatePath file.path ∈ (generate backend config).warnings) := by
  refine ⟨fun k => ?_, resolvedOnce _, fun file member => ?_⟩
  · have member : backend.endpoints[k] ∈ backend.endpoints := List.getElem_mem k.isLt
    cases owner : owner? backend.endpoints[k].path backend.tables with
    | none =>
      exact .inl ⟨unownedUnrouted member owner, fun routed => routedOwner routed owner⟩
    | some table =>
      refine .inr ⟨ownedRouted member owner, fun unrouted => ?_⟩
      rw [unrouted.owner] at owner
      contradiction
  · obtain ⟨final, resolved, same, kept⟩ := finalOrTold member
    refine ⟨final, resolved, same, fun different => kept.resolve_left fun equal => ?_⟩
    exact different (congrArg File.content equal)

/- Two endpoints of one path, and one that names no table. -/
def clinic : Backend where
  tables := [⟨"Patient", [], []⟩]
  endpoints := [
    { path := "/patients", method := .get }, { path := "/patients", method := .post },
    { path := "/health", method := .get }]

theorem clinicEndpoints :
    Routed clinic (generate clinic {}) clinic.endpoints[0] ∧
      Unrouted clinic (generate clinic {}) clinic.endpoints[2] := by
  obtain ⟨each, _⟩ := noEndpointLost clinic {}
  have owner : owner? "/patients" clinic.tables = some ⟨"Patient", [], []⟩ := by decide +kernel
  have unowned : owner? "/health" clinic.tables = none := by decide +kernel
  have first := (each ⟨0, by decide⟩).or
  have last := (each ⟨2, by decide⟩).or
  refine ⟨first.resolve_left fun unrouted => ?_, last.resolve_right fun routed => ?_⟩
  · exact Option.some_ne_none _ (owner.symm.trans unrouted.owner)
  · exact routedOwner routed unowned

end Scaffold.Project
