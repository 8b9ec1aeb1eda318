import Scaffold.Proofs.Project.Emission

/-!
Two backends that differ in one endpoint. The projects differ by the module of that endpoint, or by the
warning that it has no owner; of the other files only those that list all endpoints may change.
-/
namespace Scaffold.Project
open Route (owner? moduleFor slug)

/- What is emitted alike: around the place of the endpoint's module, and around the files that list all
endpoints. -/
structure Shared where
  before : List File
  behind : List File
  middle : List File
  last : List File
  deriving DecidableEq, Repr

structure Listing where
  index : String
  middleware : String
  readme : String
  deriving DecidableEq, Repr

def Shared.files (shared : Shared) (inserted : List File) (listing : Listing) : List File :=
  shared.before ++ inserted ++ shared.behind ++
    [⟨"src/routes/index.ts", listing.index⟩, ⟨"src/middleware/auth.ts", listing.middleware⟩] ++
    shared.middle ++ [⟨"README.md", listing.readme⟩] ++ shared.last

/- A guarded endpoint leaves the middleware as it was. -/
def GrowsBy (inserted : List File) (endpoint : Endpoint) (without whole : Project) : Prop :=
  ∃ (shared : Shared) (few many : Listing), without.files = shared.files [] few ∧
    whole.files = shared.files inserted many ∧
    (endpoint.authenticated = true → many.middleware = few.middleware)

/-- What one more endpoint makes of a project: a module where it has an owner, and else a warning. -/
inductive Gains (tables : List Table) (endpoint : Endpoint) (without whole : Project) : Prop where
  | module {table} (owner : owner? endpoint.path tables = some table)
      (files : GrowsBy [⟨"src/routes/" ++ slug endpoint.path ++ ".ts", (moduleFor endpoint table).text⟩]
        endpoint without whole)
  | warning {front back} (owner : owner? endpoint.path tables = none)
      (files : GrowsBy [] endpoint without whole) (untold : without.warnings = front ++ back)
      (told : whole.warnings =
        front ++ .unresolvedEndpoint endpoint.method endpoint.path :: back)

variable (backend : Backend) (config : Config) (front back : List Endpoint) (endpoint : Endpoint)

def serving (endpoints : List Endpoint) : Backend :=
  { backend with endpoints := endpoints }

def modulesOf (endpoints : List Endpoint) : List File :=
  (owned (serving backend endpoints)).filterMap routeFile?

def listing (endpoints : List Endpoint) : Listing :=
  ⟨Route.indexText (routeModules (serving backend endpoints)),
    (Auth.middleware backend.auth endpoints).text,
    Manifest.readmeText config.packageName endpoints backend.tables⟩

def sharedAround : Shared where
  before := [⟨schemaPath, Schema.text backend.tables⟩,
    ⟨migrationPath,
      Migration.text ((Migration.arrange config.order backend.tables).tables backend.tables)⟩] ++
    modulesOf backend front
  behind := modulesOf backend back
  middle := [⟨authWebhookPath, (Auth.webhook backend.tables).text⟩,
    ⟨paymentsClientPath, Payments.clientText backend.products⟩,
    ⟨paymentsWebhookPath, Payments.webhookText⟩,
    ⟨paymentsConfigPath, Payments.configText backend.products⟩,
    ⟨packagePath, Manifest.packageText config.packageName config.packageVersion⟩]
  last := [⟨environmentPath, Manifest.environmentText⟩,
    ⟨databaseClientPath, Manifest.databaseClientText⟩]

theorem ownedAppend (front back : List Endpoint) :
    owned (serving backend (front ++ back)) =
      owned (serving backend front) ++ owned (serving backend back) :=
  List.map_append

theorem ownedInsert :
    owned (serving backend (front ++ endpoint :: back)) =
      owned (serving backend front) ++
        (endpoint, owner? endpoint.path backend.tables) :: owned (serving backend back) :=
  List.map_append

theorem filterMapInsert {α β : Type} (f : α → Option β) (front back : List α) (a : α) :
    (front ++ a :: back).filterMap f = front.filterMap f ++ (f a).toList ++ back.filterMap f := by
  rw [List.filterMap_append]
  cases found : f a with
  | none => simp [List.filterMap_cons_none found]
  | some b => simp [List.filterMap_cons_some found]

theorem modulesInsert :
    modulesOf backend (front ++ endpoint :: back) = modulesOf backend front ++
      (routeFile? (endpoint, owner? endpoint.path backend.tables)).toList ++ modulesOf backend back := by
  rw [modulesOf, ownedInsert, filterMapInsert]
  rfl

theorem emittedAround (inserted : List File) (endpoints : List Endpoint)
    (modules : modulesOf backend endpoints = modulesOf backend front ++ inserted ++ modulesOf backend back) :
    emitted (serving backend endpoints) config =
      (sharedAround backend config front back).files inserted (listing backend config endpoints) := by
  have emission : emitted (serving backend endpoints) config =
      [⟨schemaPath, Schema.text backend.tables⟩,
        ⟨migrationPath,
          Migration.text ((Migration.arrange config.order backend.tables).tables backend.tables)⟩] ++
      modulesOf backend endpoints ++ _ := rfl
  rw [emission, modules]
  simp [Shared.files, sharedAround, listing, serving, routeIndexPath, middlewarePath, readmePath]

theorem filesPaths (shared : Shared) (inserted : List File) (few many : Listing) :
    (shared.files inserted few).map (·.path) = (shared.files inserted many).map (·.path) := by
  simp [Shared.files]

theorem guardedMiddleware (guarded : endpoint.authenticated = true) :
    (listing backend config (front ++ endpoint :: back)).middleware =
      (listing backend config (front ++ back)).middleware := by
  simp [listing, Auth.middleware, Auth.publicRoutes, List.filter_append, guarded]

def warningsBefore : List Warning :=
  tableWarnings backend.tables ++
    cycleWarnings ((Migration.arrange config.order backend.tables).cycle backend.tables) ++
    (owned (serving backend front)).filterMap endpointWarning?

def warningsBehind (repeated : List String) : List Warning :=
  (owned (serving backend back)).filterMap endpointWarning? ++
    (userWarnings backend.tables ++ repeated.map .duplicatePath)

theorem gapsAround :
    gaps (serving backend (front ++ back)) config = warningsBefore backend config front ++
      warningsBehind backend back (repeatedPaths (emitted (serving backend (front ++ back)) config)) := by
  rw [gaps, ownedAppend, List.filterMap_append, warningsBefore, warningsBehind]
  simp only [List.append_assoc]
  rfl

theorem unownedTold (owner : owner? endpoint.path backend.tables = none) (repeated : List String) :
    warningsBehind backend (endpoint :: back) repeated =
      .unresolvedEndpoint endpoint.method endpoint.path :: warningsBehind backend back repeated := by
  have first : owned (serving backend (endpoint :: back)) =
      (endpoint, owner? endpoint.path backend.tables) :: owned (serving backend back) := rfl
  rw [warningsBehind, first, owner]
  rfl

theorem endpointGains :
    Gains backend.tables endpoint (generate (serving backend (front ++ back)) config)
      (generate (serving backend (front ++ endpoint :: back)) config) := by
  have less := emittedAround backend config front back [] (front ++ back)
    (by simp [modulesOf, ownedAppend])
  have modules := modulesInsert backend front back endpoint
  have guarded := guardedMiddleware backend config front back endpoint
  cases owner : owner? endpoint.path backend.tables with
  | some table =>
    rw [owner] at modules
    have more := emittedAround backend config front back _ _ modules
    exact .module owner ⟨_, _, _, less, more, guarded⟩
  | none =>
    rw [owner] at modules
    have more := emittedAround backend config front back _ _ modules
    have paths := filesPaths (sharedAround backend config front back) []
      (listing backend config (front ++ endpoint :: back)) (listing backend config (front ++ back))
    rw [← less] at paths
    have repeated := repeatedSame ((congrArg (List.map File.path) more).trans paths)
    have told := gapsAround backend config front (endpoint :: back)
    rw [unownedTold backend back endpoint owner, repeated] at told
    exact .warning owner ⟨_, _, _, less, more, guarded⟩ (gapsAround backend config front back) told

end Scaffold.Project
