import Scaffold.Json.Printer
import Scaffold.Log.Settings

/-!
Events as lines: plain, or as JSON. `place` says where in the program the event is from.
-/
namespace Scaffold.Log

namespace Field

def text : Field → String
  | plain text => text
  | quoted text => "\"" ++ text ++ "\""
  | number value => toString value
  | flag value => if value then "true" else "false"

def toJson : Field → Json
  | plain text | quoted text => .string text
  | number value => .number (.whole value)
  | flag value => .bool value

end Field

structure Place where
  word : String
  members : List (String × Json)

namespace Event

def prettyLine (event : Event) (place : Option Place) : String :=
  String.intercalate " "
    ([event.severity.name] ++ (place.map (·.word)).toList ++ [event.message] ++
      event.fields.map fun (name, value) => name ++ "=" ++ value.text)

def toJson (event : Event) (place : Option Place) : Json :=
  .object
    ([("level", .string event.severity.name),
      ("fields", .object (("message", .string event.message) ::
        event.fields.map fun (name, value) => (name, value.toJson))),
      ("target", .string event.target)] ++ (place.map (·.members)).getD [])

def line (event : Event) (settings : Settings) (place : Place) : String :=
  let place := if settings.withPlace then some place else none
  match settings.format with
  | .pretty => event.prettyLine place
  | .json => (event.toJson place).compact

end Event

def Settings.notices (settings : Settings) : List String :=
  settings.strayDirectives.map ("Warning: Invalid log filter directive: " ++ ·)

end Scaffold.Log
