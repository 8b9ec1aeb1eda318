import Scaffold.Migration.Order
import Scaffold.Text.Basic

/-!
Options on a command line: long and short spellings, values attached or in the argument that
follows. Each option is given at most once.
-/
namespace Scaffold.CommandLine
open Text

inductive Key where
  | input
  | prompt
  | output
  | archive
  | config
  | force
  | dryRun
  | order
  | packageName
  | help
  | version
  deriving DecidableEq, Repr

inductive Kind where
  | flag
  | text
  | path
  | order
  | inquiry
  deriving DecidableEq, Repr

inductive UsageError where
  | noCommand
  | unknownCommand
  | unknownArgument
  | missingArgument
  | conflict
  | invalidValue
  | needlessValue
  | help
  | version
  deriving DecidableEq, Repr

namespace UsageError

def isInquiry : UsageError → Bool
  | help | version => true
  | _ => false

def message : UsageError → String
  | noCommand => "a command is required: generate, inspect or mock"
  | unknownCommand => "unrecognized command"
  | unknownArgument => "unexpected argument"
  | missingArgument => "a required argument is missing"
  | conflict => "arguments exclude each other, or one is given twice"
  | invalidValue => "a value is missing or invalid"
  | needlessValue => "a value is given to an option that takes none"
  | help => "Usage: stackforge-gen <generate|inspect|mock> [OPTIONS]"
  | version => "stackforge-gen 0.1.0-alpha.1"

end UsageError

namespace Key

def long : Key → String
  | input => "input"
  | prompt => "prompt"
  | output => "output"
  | archive => "archive"
  | config => "config"
  | force => "force"
  | dryRun => "dry-run"
  | order => "migration-order"
  | packageName => "package-name"
  | help => "help"
  | version => "version"

def short? : Key → Option Char
  | input => some 'i'
  | prompt => some 'p'
  | output => some 'o'
  | config => some 'c'
  | force => some 'f'
  | help => some 'h'
  | version => some 'V'
  | archive | dryRun | order | packageName => none

def kind : Key → Kind
  | input | output | archive | config => .path
  | prompt | packageName => .text
  | order => .order
  | force | dryRun => .flag
  | help | version => .inquiry

def takesValue (key : Key) : Bool :=
  key.kind == .path || key.kind == .text || key.kind == .order

end Key

def orderNamed? : String → Option Migration.Order
  | "declared" => some .declared
  | "dependency" => some .dependency
  | _ => none

def Kind.accepts (kind : Kind) (value : String) : Bool :=
  match kind with
  | .path => !value.isEmpty
  | .order => (orderNamed? value).isSome
  | _ => true

structure Given where
  values : List (Key × String) := []
  /-- The last option, when its value was to follow, with the value if it has followed. -/
  pending : Option (Key × Option String) := none
  deriving DecidableEq, Repr

namespace Given

def value? (given : Given) (key : Key) : Option String :=
  given.values.lookup key

def has (given : Given) (key : Key) : Bool :=
  (given.value? key).isSome

def accept (given : Given) (key : Key) (value : String) : Except UsageError Given :=
  if key == .help then .error .help
  else if key == .version then .error .version
  else if given.has key then .error .conflict
  else if !key.kind.accepts value then .error .invalidValue
  else .ok { given with values := given.values ++ [(key, value)] }

def settle (given : Given) : Except UsageError Given :=
  match given.pending with
  | none => .ok given
  | some (_, none) => .error .invalidValue
  | some (key, some value) => accept { given with pending := none } key value

def add (given : Given) (key : Key) (attached : Option String) : Except UsageError Given := do
  match key.takesValue, attached with
  | true, some value => (← given.settle).accept key value
  | true, none => return { ← given.settle with pending := some (key, none) }
  | false, _ => (← given.settle).accept key ""

/-- Short options in one argument; the first that takes a value takes the rest, after an optional
`=`. -/
def addShort (known : List Key) (given : Given) : List Char → Except UsageError Given
  | [] => .ok given
  | c :: rest =>
    match known.find? (·.short? == some c) with
    | none => .error .unknownArgument
    | some key =>
      if key.takesValue then
        let attached := match rest with
          | [] => none
          | '=' :: value => some (String.ofList value)
          | value => some (String.ofList value)
        given.add key attached
      else do addShort known (← given.add key none) rest

def addLong (known : List Key) (given : Given) (name : List Char) : Except UsageError Given :=
  let (name, attached) := match name.dropWhile (· != '=') with
    | [] => (name, none)
    | _ :: value => (name.takeWhile (· != '='), some (String.ofList value))
  match known.find? (·.long == String.ofList name) with
  | none => .error .unknownArgument
  | some key =>
    if !key.takesValue && attached.isSome then .error .needlessValue else given.add key attached

def addValue (given : Given) (value : String) : Except UsageError Given :=
  match given.pending with
  | some (key, none) => .ok { given with pending := some (key, some value) }
  | _ => .error .unknownArgument

def ofArguments (known : List Key) (given : Given) : List String → Except UsageError Given
  | [] => given.settle
  | argument :: rest =>
    match argument.toList with
    | ['-', '-'] => if rest.isEmpty then given.settle else .error .unknownArgument
    | '-' :: '-' :: name => do ofArguments known (← addLong known given name) rest
    | '-' :: c :: cs => do ofArguments known (← addShort known given (c :: cs)) rest
    | _ => do ofArguments known (← given.addValue argument) rest

end Given
end Scaffold.CommandLine
