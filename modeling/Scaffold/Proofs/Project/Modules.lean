import Scaffold.Proofs.Project.Emission
import Scaffold.Proofs.Route.Index
import Scaffold.Proofs.Text.Firsts

/-!
The route index against the route modules. It imports and registers each module of a served endpoint
once; the file of a module is that of the last such endpoint, unless the name is the index's own.
-/
namespace Scaffold.Project
open Route (slug filePath owner? moduleFor indexText importsOf registrationsOf)
open Text (eraseDupsConcat eraseDupsOnce)

variable {backend : Backend} {config : Config} {endpoint : Endpoint} {name : String}

def modulePath (name : String) : String :=
  "src/routes/" ++ name ++ ".ts"

def routeFiles (backend : Backend) : List File :=
  (owned backend).filterMap routeFile?

def indexFile (backend : Backend) : File :=
  ⟨routeIndexPath, indexText (routeModules backend)⟩

def lastServed? (backend : Backend) (name : String) : Option Endpoint :=
  (served backend).reverse.find? (slug ·.path == name)

theorem modulePathInjective {left right : String} :
    modulePath left = modulePath right ↔ left = right := by
  rw [modulePath, modulePath, String.append_left_inj, String.append_right_inj]

theorem modulesFirst (backend : Backend) :
    routeModules backend = ((served backend).map fun endpoint => slug endpoint.path).eraseDups := by
  unfold routeModules owned served
  induction backend.endpoints using List.reverseRecOn with
  | nil => rfl
  | append_singleton endpoints endpoint ih =>
    rw [List.map_append, List.foldl_append, ih, List.filter_append, List.map_append]
    cases owner : owner? endpoint.path backend.tables with
    | none => simp [owner]
    | some table =>
      simp only [List.map_cons, List.map_nil, List.foldl_cons, List.foldl_nil, owner,
        List.filter_cons, List.filter_nil, Option.isSome_some, Option.isNone_some, if_true,
        eraseDupsConcat, Bool.false_or, List.contains_eq_mem, List.mem_eraseDups, decide_eq_true_eq]

theorem moduleWords (backend : Backend) : ∀ name ∈ routeModules backend, Route.IsWord name := by
  intro name member
  rw [modulesFirst, List.mem_eraseDups] at member
  obtain ⟨endpoint, -, rfl⟩ := List.mem_map.mp member
  exact Route.slugWord _

/- What comes after the route modules: the index, and files that are not among them. -/
theorem emittedParts (backend : Backend) (config : Config) :
    ∃ before after, emitted backend config =
        before ++ routeFiles backend ++ indexFile backend :: after ∧
      ∀ file ∈ after, file.path ∈ fixedPaths ∧ file.path ≠ routeIndexPath := by
  have apart : ∀ path ∈ fixedPaths.drop 3, path ∈ fixedPaths ∧ path ≠ routeIndexPath := by
    decide
  exact ⟨_, _, rfl, fun file member => apart file.path (List.mem_map_of_mem member)⟩

theorem indexLast (backend : Backend) (config : Config) :
    lastAt? routeIndexPath (emitted backend config) = some (indexFile backend) := by
  obtain ⟨before, after, parts, apart⟩ := emittedParts backend config
  have none : lastAt? routeIndexPath after = none := by
    rw [lastAt?, List.find?_eq_none]
    intro file member
    simpa using (apart file (List.mem_reverse.mp member)).2
  have first : lastAt? routeIndexPath [indexFile backend] = some (indexFile backend) := by
    simp [lastAt?, indexFile]
  rw [parts, List.append_cons, lastAtSplit, lastAtSplit, none, first]
  rfl

theorem indexResolved {file : File} (path : file.path = routeIndexPath) :
    file ∈ (generate backend config).resolved ↔ file = indexFile backend := by
  rw [Project.resolved, memResolve, path, generate, indexLast, Option.some.injEq, eq_comm]

theorem indexOnly (backend : Backend) (config : Config) (file : File) :
    file ∈ (generate backend config).resolved ∧ file.path = routeIndexPath ↔
      file = indexFile backend := by
  constructor
  · rintro ⟨member, path⟩
    exact (indexResolved path).mp member
  · rintro rfl
    exact ⟨(indexResolved rfl).mpr rfl, rfl⟩

theorem routeFileOf (endpoint : Endpoint) (table? : Option Table) :
    (routeFile? (endpoint, table?)).any (·.path == modulePath name) =
      (table?.isSome && slug endpoint.path == name) := by
  cases table? with
  | none => rfl
  | some table =>
    have same : filePath endpoint.path = modulePath name ↔ slug endpoint.path = name :=
      Route.filePathIff
    exact Bool.eq_iff_iff.mpr (by simpa [routeFile?] using same)

theorem lastRouteFile (backend : Backend) (name : String) :
    lastAt? (modulePath name) (routeFiles backend) = (lastServed? backend name).bind
      fun endpoint => routeFile? (endpoint, owner? endpoint.path backend.tables) := by
  rw [lastAt?, routeFiles, owned, List.filterMap_map, ← List.filterMap_reverse, List.find?_filterMap,
    lastServed?, served, ← List.filter_reverse, List.find?_filter]
  refine congrArg (Option.bind · _) (congrArg (List.find? · _) (funext fun endpoint => ?_))
  rw [Function.comp_apply, routeFileOf]
  simp only [Bool.decide_and, Bool.decide_eq_true]

theorem lastServedSome (imported : name ∈ routeModules backend) :
    ∃ endpoint table, lastServed? backend name = some endpoint ∧
      owner? endpoint.path backend.tables = some table ∧ slug endpoint.path = name := by
  rw [modulesFirst, List.mem_eraseDups] at imported
  obtain ⟨endpoint, member, named⟩ := List.mem_map.mp imported
  have found : (lastServed? backend name).isSome := by
    rw [lastServed?, List.find?_isSome]
    exact ⟨endpoint, List.mem_reverse.mpr member, by simpa using named⟩
  obtain ⟨last, found⟩ := Option.isSome_iff_exists.mp found
  have member := List.mem_filter.mp (List.mem_reverse.mp (List.mem_of_find?_eq_some found))
  obtain ⟨table, owner⟩ := Option.isSome_iff_exists.mp member.2
  exact ⟨last, table, found, owner, by simpa using List.find?_some found⟩

/- Of what is emitted after the route modules only the index lies among them. -/
theorem lastModule {path : String} {file : File} (config : Config) (other : slug path ≠ "index")
    (last : lastAt? (filePath path) (routeFiles backend) = some file) :
    lastAt? (filePath path) (emitted backend config) = some file := by
  obtain ⟨before, after, parts, apart⟩ := emittedParts backend config
  have none : lastAt? (filePath path) (indexFile backend :: after) = none := by
    rw [lastAt?, List.find?_eq_none]
    intro later member same
    refine other (filePathFixed.mp ?_)
    rw [← eq_of_beq same]
    rcases List.mem_cons.mp (List.mem_reverse.mp member) with rfl | member
    · exact (by decide : routeIndexPath ∈ fixedPaths)
    · exact (apart later member).1
  rw [parts, lastAtSplit, lastAtSplit, none, last]
  rfl

theorem moduleResolved (config : Config) (imported : name ∈ routeModules backend) :
    ∃ endpoint table, lastServed? backend name = some endpoint ∧
      owner? endpoint.path backend.tables = some table ∧
      (⟨modulePath name, (moduleFor endpoint table).text⟩ ∈ (generate backend config).resolved ↔
        name ≠ "index") := by
  obtain ⟨endpoint, table, found, owner, rfl⟩ := lastServedSome imported
  refine ⟨endpoint, table, found, owner, fun kept same => ?_, fun other => ?_⟩
  · have path : modulePath (slug endpoint.path) = routeIndexPath := by
      rw [same]
      rfl
    have whole := (indexResolved path).mp kept
    rw [indexFile, File.mk.injEq] at whole
    exact Route.indexNoModule _ _ whole.2
  · refine memResolve.mpr (lastModule config other ?_)
    refine (lastRouteFile backend (slug endpoint.path)).trans ?_
    rw [found, Option.bind_some, owner]
    rfl

/-- The text of the index imports and registers each route module of the backend once, in the order
in which the names first occur, and nothing else. -/
structure Lists (text : String) (backend : Backend) (project : Project) : Prop where
  names : (importsOf text).map (·.2) =
    ((served backend).map fun endpoint => slug endpoint.path).eraseDups
  distinct : ((importsOf text).map (·.2)).Nodup
  routes : ∀ path, path ∈ (importsOf text).map (fun entry => modulePath entry.2) ↔
    path ∈ (routeFiles backend).map (·.path)
  imported : ∀ file ∈ routeFiles backend,
    ((importsOf text).map fun entry => modulePath entry.2).count file.path = 1
  registered : ∀ entry ∈ importsOf text, (registrationsOf text).count entry.1 = 1
  bound : registrationsOf text = (importsOf text).map (·.1)
  found : ∀ entry ∈ importsOf text, ∃ file ∈ project.resolved, file.path = modulePath entry.2
  unowned : ∀ front endpoint back, backend.endpoints = front ++ endpoint :: back →
    owner? endpoint.path backend.tables = none →
      indexText (routeModules { backend with endpoints := front ++ back }) = text ∧
        routeFiles { backend with endpoints := front ++ back } = routeFiles backend

theorem importPaths (backend : Backend) :
    (importsOf (indexText (routeModules backend))).map (fun entry => modulePath entry.2) =
      (routeModules backend).map modulePath := by
  have names := Route.indexNames (moduleWords backend)
  rw [← congrArg (List.map modulePath) names, List.map_map]
  rfl

theorem routeFilePath {path : String} :
    path ∈ (routeModules backend).map modulePath ↔ path ∈ (routeFiles backend).map (·.path) := by
  rw [routeFiles, routeFilePaths, modulesFirst]
  simp only [List.mem_map, List.mem_eraseDups, exists_exists_and_eq_and]
  rfl

theorem unownedNothing {front back : List Endpoint}
    (endpoints : backend.endpoints = front ++ endpoint :: back)
    (owner : owner? endpoint.path backend.tables = none) :
    routeModules { backend with endpoints := front ++ back } = routeModules backend ∧
      routeFiles { backend with endpoints := front ++ back } = routeFiles backend := by
  refine ⟨?_, ?_⟩
  · rw [modulesFirst, modulesFirst]
    simp [served, endpoints, owner]
  · simp [routeFiles, owned, endpoints, owner, List.filterMap_cons, routeFile?]

theorem indexLists (backend : Backend) (config : Config) :
    Lists (indexText (routeModules backend)) backend (generate backend config) := by
  have words := moduleWords backend
  have names := Route.indexNames words
  have distinct : ((importsOf (indexText (routeModules backend))).map (·.2)).Nodup := by
    rw [names, modulesFirst]
    exact eraseDupsOnce _
  have paths := importPaths backend
  refine ⟨names.trans (modulesFirst backend), distinct, fun path => ?_, fun file member => ?_,
    fun entry member => ?_, Route.indexRegistrations words, fun entry member => ?_,
    fun front endpoint back endpoints owner => ?_⟩
  · rw [paths, routeFilePath]
  · rw [paths]
    refine List.count_eq_one_of_mem ?_ (routeFilePath.mpr (List.mem_map_of_mem member))
    rw [← names]
    exact distinct.map fun _ _ => modulePathInjective.mp
  · rw [Route.indexRegistrations words]
    exact List.count_eq_one_of_mem (Route.indexBindingsOnce words) (List.mem_map_of_mem member)
  · have listed : modulePath entry.2 ∈ (routeModules backend).map modulePath := by
      rw [← paths]
      exact List.mem_map.mpr ⟨entry, member, rfl⟩
    obtain ⟨file, member, same⟩ := List.mem_map.mp (routeFilePath.mp listed)
    have emitted : file ∈ (generate backend config).files :=
      List.mem_append_left _ (List.mem_append_right _ member)
    obtain ⟨final, resolved, path, -⟩ := resolvedExists emitted
    exact ⟨final, resolved, path.trans same⟩
  · obtain ⟨modules, files⟩ := unownedNothing endpoints owner
    rw [modules]
    exact ⟨rfl, files⟩

theorem routeIndexComplete (backend : Backend) (config : Config) :
    ∃ text, (∀ file, file ∈ (generate backend config).resolved ∧ file.path = "src/routes/index.ts" ↔
        file = ⟨"src/routes/index.ts", text⟩) ∧
      Lists text backend (generate backend config) :=
  ⟨indexText (routeModules backend), indexOnly backend config, indexLists backend config⟩

theorem importedModules (backend : Backend) (config : Config) :
    ∃ text, (∀ file, file ∈ (generate backend config).resolved ∧ file.path = "src/routes/index.ts" ↔
        file = ⟨"src/routes/index.ts", text⟩) ∧
      ∀ entry ∈ importsOf text, ∃ endpoint table,
        lastServed? backend entry.2 = some endpoint ∧
          owner? endpoint.path backend.tables = some table ∧
          (⟨modulePath entry.2, (moduleFor endpoint table).text⟩ ∈
              (generate backend config).resolved ↔ entry.2 ≠ "index") := by
  refine ⟨indexText (routeModules backend), indexOnly backend config, fun entry member => ?_⟩
  have imported : entry.2 ∈ routeModules backend := by
    rw [← Route.indexNames (moduleWords backend)]
    exact List.mem_map_of_mem member
  exact moduleResolved config imported

/- An endpoint whose path gives its module the name of the index. -/
def house : Backend where
  tables := [⟨"Index", [], []⟩]
  endpoints := [{ path := "/index", method := .get }]

theorem indexReplacesModule : ∃ text endpoint table,
    ⟨"src/routes/index.ts", text⟩ ∈ (generate house {}).resolved ∧
      (importsOf text).map (·.2) = ["index"] ∧ lastServed? house "index" = some endpoint ∧
      owner? endpoint.path house.tables = some table ∧
      ∃ file ∈ (generate house {}).resolved, file.path = modulePath "index" ∧
        file.content ≠ (moduleFor endpoint table).text := by
  have modules : routeModules house = ["index"] := by decide +kernel
  have imported : "index" ∈ routeModules house := by rw [modules]; exact List.mem_singleton_self _
  obtain ⟨endpoint, table, last, owner, -⟩ := lastServedSome imported
  have resolved := ((indexOnly house {} (indexFile house)).mpr rfl).1
  refine ⟨_, endpoint, table, resolved, ?_, last, owner, _, resolved, rfl, ?_⟩
  · rw [Route.indexNames (moduleWords house), modules]
  · exact (Route.indexNoModule _ _).symm

end Scaffold.Project
