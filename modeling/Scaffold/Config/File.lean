import Scaffold.Config.Basic
import Scaffold.Toml.Reader

/-!
Settings read from a TOML text. Every key is optional, and there are no others.
-/
namespace Scaffold.Config
open Toml

inductive Fault where
  | malformed
  | misfit
  deriving DecidableEq, Repr

def Fault.message (_ : Fault) : String :=
  "Failed to parse generator config"

def text? : Item → Option String
  | .text value => some value
  | _ => none

def isEmptyItem : Item → Bool
  | .array items => items.isEmpty
  | .table _ entries => entries.isEmpty
  | _ => false

def orderNamed? : String → Option Migration.Order
  | "declared" => some .declared
  | "dependency" => some .dependency
  | _ => none

def order? : Item → Option Migration.Order
  | .text name => orderNamed? name
  | .table _ [(name, content)] => if isEmptyItem content then orderNamed? name else none
  | _ => none

def set? (config : Config) : String × Item → Option Config
  | ("package_name", item) => (text? item).map fun name => { config with packageName := name }
  | ("package_version", item) =>
    (text? item).map fun version => { config with packageVersion := version }
  | ("migration_order", item) => (order? item).map fun order => { config with order := order }
  | _ => none

def ofEntries? (entries : Entries) : Option Config :=
  entries.foldlM set? {}

def ofText (s : String) : Except Fault Config :=
  match Entries.ofText? s with
  | none => .error .malformed
  | some entries =>
    match ofEntries? entries with
    | none => .error .misfit
    | some config => .ok config

end Scaffold.Config
