import Scaffold.Config.Basic
import Scaffold.Log.Filter

/-!
How events are shown, as the environment says.
-/
namespace Scaffold.Log
open Text

inductive Format where
  | pretty
  | json
  deriving DecidableEq, Repr

structure Settings where
  level : String := "info"
  format : Format := .pretty
  directives : Option String := none
  withPlace : Bool := false
  deriving DecidableEq, Repr

def levelVariable : String := "STACKFORGE_LOG_LEVEL"
def formatVariable : String := "STACKFORGE_LOG_FORMAT"
def directivesVariable : String := "STACKFORGE_LOG_FILTER"
def placeVariable : String := "STACKFORGE_LOG_INCLUDE_LOCATION"
def filterVariable : String := "RUST_LOG"

namespace Settings

def ofEnvironment (environment : Environment) : Settings :=
  let standard : Settings := {}
  { level := (environment levelVariable).getD standard.level
    format := if (environment formatVariable).map lower == some "json" then .json else .pretty
    directives := (environment directivesVariable).filter (!isBlankText ·)
    withPlace := environment placeVariable == some "true" }

def threshold (settings : Settings) : Nat :=
  match lower settings.level with
  | "trace" => 5
  | "debug" => 4
  | "warn" => 2
  | "error" => 1
  | _ => 3

def added (settings : Settings) : List String :=
  ((splitAt ',' (settings.directives.getD "")).map trim).filter (!·.isEmpty)

def strayDirectives (settings : Settings) : List String :=
  settings.added.filter fun raw => (Directive.ofText? raw).isNone

def filter (settings : Settings) (environment : Environment) : Filter :=
  let base := (environment filterVariable).bind Filter.ofText?
  base.getD [⟨none, settings.threshold, false⟩] ++ settings.added.filterMap Directive.ofText?

end Settings
end Scaffold.Log
