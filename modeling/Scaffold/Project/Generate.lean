import Scaffold.Auth
import Scaffold.Config.Basic
import Scaffold.Manifest
import Scaffold.Migration.Statement
import Scaffold.Payments
import Scaffold.Project.File
import Scaffold.Project.Warning
import Scaffold.Route.Module
import Scaffold.Schema

/-!
A whole project from a backend: the files in the order in which they are emitted, and the warnings.
-/
namespace Scaffold

structure Project where
  files : List File
  warnings : List Warning
  deriving DecidableEq, Repr

def Project.resolved (project : Project) : List File :=
  resolve project.files

namespace Project

def schemaPath : String := "prisma/schema.prisma"
def migrationPath : String := "prisma/migrations/initial/migration.sql"
def routeIndexPath : String := "src/routes/index.ts"
def middlewarePath : String := "src/middleware/auth.ts"
def authWebhookPath : String := "src/app/api/webhook/clerk/route.ts"
def paymentsClientPath : String := "src/lib/stripe.ts"
def paymentsWebhookPath : String := "src/app/api/webhook/stripe/route.ts"
def paymentsConfigPath : String := "src/config/stripe.ts"
def packagePath : String := "package.json"
def readmePath : String := "README.md"
def environmentPath : String := ".env.example"
def databaseClientPath : String := "src/lib/prisma.ts"

def columnWarnings (table : Table) : List Warning :=
  table.columns.filterMap fun column =>
    if column.type.isUnknown then some (.unknownType table.name column.name column.type.name)
    else none

def relationWarnings (tables : List Table) (table : Table) (relation : Relation) : List Warning :=
  (if tables.any (·.name == relation.target) then []
    else [.unknownTarget table.name relation.target]) ++
  (if relation.kind == .manyToMany then [.manyToManyNotExpanded table.name relation.target] else [])

def tableWarnings (tables : List Table) : List Warning :=
  tables.flatMap fun table =>
    columnWarnings table ++ table.relations.flatMap (relationWarnings tables table)

def cycleWarnings (cycle : List String) : List Warning :=
  if cycle.isEmpty then [] else [.foreignKeyCycle cycle]

def owned (backend : Backend) : List (Endpoint × Option Table) :=
  backend.endpoints.map fun endpoint => (endpoint, Route.owner? endpoint.path backend.tables)

def routeFile? : Endpoint × Option Table → Option File
  | (endpoint, some table) =>
    some ⟨Route.filePath endpoint.path, (Route.moduleFor endpoint table).text⟩
  | (_, none) => none

def endpointWarning? : Endpoint × Option Table → Option Warning
  | (_, some _) => none
  | (endpoint, none) => some (.unresolvedEndpoint endpoint.method endpoint.path)

def routeModules (backend : Backend) : List String :=
  (owned backend).foldl
    (fun modules (endpoint, table?) =>
      let name := Route.slug endpoint.path
      if table?.isNone || modules.contains name then modules else modules ++ [name])
    []

def userWarnings (tables : List Table) : List Warning :=
  if (Auth.userTable? tables).isNone then [.missingUserTable] else []

def emitted (backend : Backend) (config : Config) : List File :=
  let arrangement := Migration.arrange config.order backend.tables
  [⟨schemaPath, Schema.text backend.tables⟩,
    ⟨migrationPath, Migration.text (arrangement.tables backend.tables)⟩] ++
  (owned backend).filterMap routeFile? ++
  [⟨routeIndexPath, Route.indexText (routeModules backend)⟩,
    ⟨middlewarePath, (Auth.middleware backend.auth backend.endpoints).text⟩,
    ⟨authWebhookPath, (Auth.webhook backend.tables).text⟩,
    ⟨paymentsClientPath, Payments.clientText backend.products⟩,
    ⟨paymentsWebhookPath, Payments.webhookText⟩,
    ⟨paymentsConfigPath, Payments.configText backend.products⟩,
    ⟨packagePath, Manifest.packageText config.packageName config.packageVersion⟩,
    ⟨readmePath, Manifest.readmeText config.packageName backend.endpoints backend.tables⟩,
    ⟨environmentPath, Manifest.environmentText⟩,
    ⟨databaseClientPath, Manifest.databaseClientText⟩]

def gaps (backend : Backend) (config : Config) : List Warning :=
  let arrangement := Migration.arrange config.order backend.tables
  tableWarnings backend.tables ++ cycleWarnings (arrangement.cycle backend.tables) ++
    (owned backend).filterMap endpointWarning? ++ userWarnings backend.tables ++
    (repeatedPaths (emitted backend config)).map .duplicatePath

end Project

def generate (backend : Backend) (config : Config) : Project :=
  ⟨Project.emitted backend config, Project.gaps backend config⟩

end Scaffold
