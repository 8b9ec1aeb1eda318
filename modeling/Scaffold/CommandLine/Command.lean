import Scaffold.CommandLine.Option
import Scaffold.Run.Loading

/-!
The commands and what they are given.
-/
namespace Scaffold.CommandLine

structure Generation where
  source : Source
  output : Path
  archive : Option Path := none
  config : Option Path := none
  force : Bool := false
  dryRun : Bool := false
  order : Option Migration.Order := none
  packageName : Option String := none
  deriving DecidableEq, Repr

inductive Command where
  | generate (generation : Generation)
  | inspect (source : Source) (config : Option Path) (order : Option Migration.Order)
  | mock (prompt : String)
  deriving DecidableEq, Repr

inductive CommandName where
  | generate
  | inspect
  | mock
  deriving DecidableEq, Repr

namespace CommandName

def ofText? : String → Option CommandName
  | "generate" => some generate
  | "inspect" => some inspect
  | "mock" => some mock
  | _ => none

def options : CommandName → List Key
  | generate =>
    [.input, .prompt, .output, .archive, .config, .force, .dryRun, .order, .packageName, .help]
  | inspect => [.input, .prompt, .config, .order, .help]
  | mock => [.prompt, .help]

end CommandName

namespace Given

def path? (given : Given) (key : Key) : Option Path :=
  (given.value? key).map Path.mk

def order? (given : Given) : Option Migration.Order :=
  (given.value? .order).bind orderNamed?

def source (given : Given) : Except UsageError Source :=
  match given.path? .input, given.value? .prompt with
  | some _, some _ => .error .conflict
  | some path, none => .ok (.file path)
  | none, some text => .ok (.prompt text)
  | none, none => .error .missingArgument

def generation (given : Given) : Except UsageError Generation := do
  let source ← given.source
  match given.path? .output with
  | none => .error .missingArgument
  | some output =>
    .ok
      { source := source
        output := output
        archive := given.path? .archive
        config := given.path? .config
        force := given.has .force
        dryRun := given.has .dryRun
        order := given.order?
        packageName := given.value? .packageName }

def command (given : Given) : CommandName → Except UsageError Command
  | .generate => do return .generate (← given.generation)
  | .inspect => do return .inspect (← given.source) (given.path? .config) given.order?
  | .mock => .ok (.mock ((given.value? .prompt).getD ""))

end Given

def helpFor : List String → UsageError
  | [] => .help
  | [name] => if name == "help" || (CommandName.ofText? name).isSome then .help else .unknownCommand
  | _ => .unknownCommand

def withoutCommand (argument : String) (rest : List String) : UsageError :=
  let isCommand (name : String) : Bool := name == "help" || (CommandName.ofText? name).isSome
  match argument.toList with
  | ['-', '-'] =>
    match rest with
    | [] => .noCommand
    | name :: _ => if isCommand name then .unknownArgument else .unknownCommand
  | '-' :: '-' :: name =>
    match Given.addLong [.help, .version] {} name with
    | .error error => error
    | .ok _ => .noCommand
  | '-' :: c :: cs =>
    match Given.addShort [.help, .version] {} (c :: cs) with
    | .error error => error
    | .ok _ => .noCommand
  | _ => if argument == "help" then helpFor rest else .unknownCommand

def Command.ofArguments : List String → Except UsageError Command
  | [] => .error .noCommand
  | argument :: rest =>
    match CommandName.ofText? argument with
    | some name => do (← Given.ofArguments name.options {} rest).command name
    | none => .error (withoutCommand argument rest)

end Scaffold.CommandLine
