import Scaffold.Files.Path
import Scaffold.Project.Warning

/-!
What a run reports of itself: how grave it is, where it comes from, and the values that go with it.
-/
namespace Scaffold.Log

inductive Severity where
  | error
  | warn
  | info
  | debug
  | trace
  deriving DecidableEq, Repr

namespace Severity

def name : Severity → String
  | error => "ERROR"
  | warn => "WARN"
  | info => "INFO"
  | debug => "DEBUG"
  | trace => "TRACE"

def rank : Severity → Nat
  | error => 1
  | warn => 2
  | info => 3
  | debug => 4
  | trace => 5

end Severity

inductive Event where
  | sampleTaken (promptSize : Nat)
  | backendLoaded (path : Path) (tables endpoints : Nat)
  | configLoading (path : Path)
  | orderIgnored (raw : String)
  | routeGenerated (method : Method) (path model : String)
  | gap (warning : Warning)
  | projectGenerated (files warnings : Nat)
  | projectWritten (root : Path) (written skipped : Nat) (dryRun : Bool)
  | archiveWritten (path : Path) (size : Nat)
  deriving DecidableEq, Repr

inductive Field where
  | plain (text : String)
  | quoted (text : String)
  | number (value : Nat)
  | flag (value : Bool)
  deriving DecidableEq, Repr

namespace Event

def severity : Event → Severity
  | sampleTaken _ | backendLoaded _ _ _ | configLoading _ | routeGenerated _ _ _ => .debug
  | orderIgnored _ | gap _ => .warn
  | projectGenerated _ _ | projectWritten _ _ _ _ | archiveWritten _ _ => .info

def target : Event → String
  | sampleTaken _ => "stackforge::ir::source"
  | backendLoaded _ _ _ => "stackforge::ir::load"
  | configLoading _ | orderIgnored _ => "stackforge::config"
  | routeGenerated _ _ _ | gap _ | projectGenerated _ _ => "stackforge::generator::project::compose"
  | projectWritten _ _ _ _ => "stackforge::generator::project::write"
  | archiveWritten _ _ => "stackforge::archive"

def message : Event → String
  | sampleTaken _ => "Using mock structure template"
  | backendLoaded _ _ _ => "Loaded backend structure"
  | configLoading _ => "Loading generator config"
  | orderIgnored _ => "Ignoring unknown STACKFORGE_MIGRATION_ORDER"
  | routeGenerated _ _ _ => "Generating route"
  | gap warning => warning.message
  | projectGenerated _ _ => "Generated backend project"
  | projectWritten _ _ _ _ => "Project written"
  | archiveWritten _ _ => "Archive written"

def fields : Event → List (String × Field)
  | sampleTaken promptSize => [("prompt_len", .number promptSize)]
  | backendLoaded path tables endpoints =>
    [("path", .plain path.text), ("tables", .number tables), ("endpoints", .number endpoints)]
  | configLoading path => [("path", .plain path.text)]
  | orderIgnored raw => [("value", .plain raw)]
  | routeGenerated method path model =>
    [("method", .plain method.name), ("path", .plain path), ("model", .plain model)]
  | gap warning => [("kind", .quoted warning.kind)]
  | projectGenerated files warnings => [("files", .number files), ("warnings", .number warnings)]
  | projectWritten root written skipped dryRun =>
    [("root", .plain root.text), ("written", .number written), ("skipped", .number skipped),
      ("dry_run", .flag dryRun)]
  | archiveWritten path size => [("path", .plain path.text), ("bytes", .number size)]

end Event
end Scaffold.Log
