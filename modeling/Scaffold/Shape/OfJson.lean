import Scaffold.Shape.Basic
import Scaffold.Shape.Mismatch

/-!
JSON values read by a shape. Members are taken in their order, and the first that does not fit is
the error.
-/
namespace Scaffold

def findCase {α : Type} (cases : List (String × α)) (name : String) : Except Mismatch α :=
  match cases.lookup name with
  | some value => .ok value
  | none => .error (.unknownCase name (cases.map (·.1)))

namespace Shape

def mismatch {α β : Type} (shape : Shape α) (value : Json) : Except Mismatch β :=
  .error (.wrongKind (.ofJson value) shape.wanted)

mutual

def ofJson : {α : Type} → Shape α → Json → Except Mismatch α
  | _, text, value =>
    match value with
    | .string s => .ok s
    | other => mismatch text other
  | _, flag, value =>
    match value with
    | .bool b => .ok b
    | other => mismatch flag other
  | _, anything, value => .ok value
  | _, members, value =>
    match value with
    | .null => .ok none
    | .object entries => .ok (some entries)
    | other => mismatch members other
  | _, choice cases, value =>
    match value with
    | .string name => findCase cases name
    | .object [(name, content)] => do
      let found ← findCase cases name
      match content with
      | .null => .ok found
      | other => .error (.wrongKind (.ofJson other) "unit")
    | .object _ => .error .choiceMembers
    | other => mismatch (choice cases) other
  | _, list item, value =>
    match value with
    | .array items => items.mapM (ofJson item)
    | other => mismatch (list item) other
  | _, record name closed fields build, value =>
    match value with
    | .object entries => do
      let slots ← entries.foldlM (membersOfJson fields closed fields.names) fields.empty
      match fields.complete slots with
      | .ok values => .ok (build values)
      | .error missing => .error (.missingField missing)
    | .array items => do
      let values ← fieldsOfItems fields name fields.size items.length 0 items
      .ok (build values)
    | other => mismatch (record name closed fields build) other
  | _, converted convert shape, value => (ofJson shape value).map convert

def membersOfJson : {ρ σ : Type} → Fields ρ σ → (closed : Bool) → (known : List String) → σ →
    String × Json → Except Mismatch σ
  | _, _, .none, closed, known, slots, (name, _) =>
    if closed then .error (.unknownField name known) else .ok slots
  | _, _, .field name aliases _ shape rest, closed, known, (slot, slots), (key, value) =>
    if key == name || aliases.contains key then
      match slot with
      | some _ => .error (.duplicateField name)
      | none => do
        let read ← ofJson shape value
        .ok (some read, slots)
    else do
      let slots ← membersOfJson rest closed known slots (key, value)
      .ok (slot, slots)

def fieldsOfItems : {ρ σ : Type} → Fields ρ σ → (title : String) → (size total position : Nat) →
    List Json → Except Mismatch ρ
  | _, _, .none, _, _, total, _, items =>
    if items.isEmpty then .ok () else .error (.longRecord total)
  | _, _, .field name aliases fallback shape rest, title, size, total, position, items =>
    match items with
    | [] =>
      match Fields.fallbacks position (.field name aliases fallback shape rest) with
      | .ok values => .ok values
      | .error stopped => .error (.shortRecord stopped title size)
    | item :: others => do
      let value ← ofJson shape item
      let values ← fieldsOfItems rest title size total (position + 1) others
      .ok (value, values)

end

end Shape
end Scaffold
