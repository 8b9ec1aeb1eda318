import Scaffold.Backend.Encoding
import Scaffold.CommandLine.Command
import Scaffold.Run.Writing

/-!
The commands carried out. Each step that can fail ends the run; what it wrote before stays.
-/
namespace Scaffold.CommandLine

def warningLine (warning : Warning) : String :=
  "⚠️  [" ++ warning.kind ++ "] " ++ warning.message

def padded (n : Nat) : String :=
  let digits := toString n
  String.ofList (List.replicate (8 - digits.length) ' ') ++ digits

def fileLine (file : File) : String :=
  padded file.content.utf8ByteSize ++ "  " ++ file.path

def summary (report : Report) (warnings : List Warning) : String :=
  "✅ " ++ toString report.written.length ++ " files written, " ++ toString report.skipped.length ++
    " skipped, " ++ toString warnings.length ++ " warnings"

variable {m : Type → Type} [Monad m] [Host m]

def printAll (lines : List String) : Task m Unit :=
  lines.forM Task.print

def generationEvents (backend : Backend) (project : Project) : List Log.Event :=
  (Project.owned backend).filterMap
    (fun (endpoint, table?) =>
      table?.map fun table => .routeGenerated endpoint.method endpoint.path table.name) ++
  project.warnings.map .gap ++ [.projectGenerated project.files.length project.warnings.length]

def generateNoting (backend : Backend) (config : Config) : Task m Project := do
  let project := Scaffold.generate backend config
  (generationEvents backend project).forM Task.note
  return project

def resolveConfig (environment : Environment) (source : Source) (config : Option Path)
    (order : Option Migration.Order) (packageName : Option String) : Task m Config := do
  let loaded ← Config.load environment config source.path?
  return loaded.withOptions order packageName

def runGenerate (environment : Environment) (generation : Generation) : Task m Unit := do
  let backend ← generation.source.load
  let config ← resolveConfig environment generation.source generation.config generation.order
    generation.packageName
  let project ← generateNoting backend config
  let report ← Task.within ("Failed to write project to " ++ generation.output.text)
    (writeProject project generation.output ⟨generation.force, generation.dryRun⟩)
  match generation.archive with
  | none => pure ()
  | some path =>
    if generation.dryRun then Task.print ("📝 Would write archive " ++ path.text)
    else
      writeArchive project path
      Task.print ("📦 Archived project → " ++ path.text)
  printAll (project.warnings.map warningLine)
  Task.print (summary report project.warnings)

def runInspect (environment : Environment) (source : Source) (config : Option Path)
    (order : Option Migration.Order) : Task m Unit := do
  let backend ← source.load
  let config ← resolveConfig environment source config order none
  let project ← generateNoting backend config
  printAll (project.resolved.map fileLine)
  printAll (project.warnings.map warningLine)

def runMock (prompt : String) : Task m Unit := do
  let backend ← takeSample prompt
  Task.print backend.toJson.pretty

def Command.run (environment : Environment) : Command → Task m Unit
  | .generate generation => runGenerate environment generation
  | .inspect source config order => runInspect environment source config order
  | .mock prompt => runMock prompt

inductive Ending where
  | done
  | refused (error : UsageError)
  | failed (failure : Failure)
  deriving DecidableEq, Repr

namespace Ending

def code : Ending → Nat
  | done => 0
  | refused error => if error.isInquiry then 0 else 2
  | failed _ => 1

def lines : Ending → List String
  | done => []
  | refused error => if error.isInquiry then [] else ["error: " ++ error.message]
  | failed failure => failure.report

end Ending

def execute (environment : Environment) (arguments : List String) : m Ending := do
  match Command.ofArguments arguments with
  | .error error =>
    if error.isInquiry then Host.print error.message
    return .refused error
  | .ok command =>
    match ← (command.run environment).run with
    | .ok () => return .done
    | .error failure => return .failed failure

end Scaffold.CommandLine
