import Scaffold.Project.Generate
import Scaffold.Proofs.Project.File
import Scaffold.Proofs.Route.Path

/-!
The files of a project by their paths: twelve fixed ones, and one below `src/routes` for each endpoint
that has an owner. Of the fixed ones only the route index lies among the route modules.
-/
namespace Scaffold.Project
open Route (slug filePath owner?)

def fixedPaths : List String :=
  [schemaPath, migrationPath, routeIndexPath, middlewarePath, authWebhookPath, paymentsClientPath,
    paymentsWebhookPath, paymentsConfigPath, packagePath, readmePath, environmentPath,
    databaseClientPath]

def served (backend : Backend) : List Endpoint :=
  backend.endpoints.filter fun endpoint => (owner? endpoint.path backend.tables).isSome

theorem fixedOnce : fixedPaths.Nodup := by
  decide

theorem fixedInRoutes {path : String} (fixed : path ∈ fixedPaths)
    (routes : "src/routes/".toList <+: path.toList) : path = routeIndexPath := by
  revert path
  decide

theorem filePathFixed {path : String} : filePath path ∈ fixedPaths ↔ slug path = "index" := by
  rw [← Route.filePathIff]
  constructor
  · exact fun fixed => fixedInRoutes fixed (Route.filePathInRoutes path)
  · rintro same
    rw [same]
    decide

theorem memRouteFiles {backend : Backend} {file : File} :
    file ∈ (owned backend).filterMap routeFile? ↔
      ∃ endpoint ∈ backend.endpoints, ∃ table, owner? endpoint.path backend.tables = some table ∧
        file = ⟨filePath endpoint.path, (Route.moduleFor endpoint table).text⟩ := by
  simp only [owned, List.filterMap_map, List.mem_filterMap, Function.comp_def]
  refine exists_congr fun endpoint => and_congr_right fun _ => ?_
  cases owner? endpoint.path backend.tables with
  | none => simp [routeFile?]
  | some table => simp [routeFile?, eq_comm]

theorem routeFilePaths (backend : Backend) :
    ((owned backend).filterMap routeFile?).map (·.path) =
      (served backend).map fun endpoint => filePath endpoint.path := by
  rw [served, owned, List.filterMap_map]
  induction backend.endpoints with
  | nil => rfl
  | cons endpoint rest ih =>
    rw [List.filterMap_cons, List.filter_cons]
    cases owner : owner? endpoint.path backend.tables with
    | none => simp [routeFile?, owner, ih]
    | some table => simp [routeFile?, owner, ih]

theorem emittedPaths (backend : Backend) (config : Config) :
    ((emitted backend config).map (·.path)).Perm
      ((served backend).map (fun endpoint => filePath endpoint.path) ++ fixedPaths) := by
  simp only [emitted, List.map_append, routeFilePaths]
  exact (List.perm_append_comm.append_right _).trans (by rw [List.append_assoc]; rfl)

theorem emittedOnce {backend : Backend} {config : Config} :
    ((emitted backend config).map (·.path)).Nodup ↔
      ((served backend).map fun endpoint => slug endpoint.path).Nodup ∧
        ∀ endpoint ∈ served backend, slug endpoint.path ≠ "index" := by
  rw [(emittedPaths backend config).nodup_iff, List.nodup_append]
  have slugs : ((served backend).map fun endpoint => filePath endpoint.path).Nodup ↔
      ((served backend).map fun endpoint => slug endpoint.path).Nodup := by
    simp only [List.Nodup, List.pairwise_map, Ne, Route.filePathInjective]
  have apart : (∀ a ∈ (served backend).map (fun endpoint => filePath endpoint.path),
      ∀ b ∈ fixedPaths, a ≠ b) ↔ ∀ endpoint ∈ served backend, slug endpoint.path ≠ "index" := by
    simp only [List.forall_mem_map, Ne, ← filePathFixed]
    exact forall₂_congr fun endpoint _ =>
      ⟨fun free fixed => free _ fixed rfl, fun free b fixed same => free (same ▸ fixed)⟩
  rw [slugs, apart]
  exact ⟨fun h => ⟨h.1, h.2.2⟩, fun h => ⟨h.1, fixedOnce, h.2⟩⟩

theorem fixedResolved {backend : Backend} {config : Config} {file : File}
    (member : file ∈ emitted backend config) (fixed : file.path ∈ fixedPaths)
    (apart : file.path ≠ routeIndexPath) : file ∈ resolve (emitted backend config) := by
  refine resolvedUnique member fun other inside same => ?_
  by_contra different
  have twice := memRepeated.mp (repeatedOfTwo member inside same different)
  have free : file.path ∉ (served backend).map fun endpoint => filePath endpoint.path := by
    intro route
    obtain ⟨endpoint, _, equal⟩ := List.mem_map.mp route
    exact apart (fixedInRoutes fixed (equal ▸ Route.filePathInRoutes endpoint.path))
  rw [(emittedPaths backend config).count_eq, List.count_append, List.count_eq_zero_of_not_mem free,
    List.count_eq_one_of_mem fixedOnce fixed] at twice
  omega

end Scaffold.Project
