import Scaffold.Json.Reader
import Scaffold.Shape.OfJson

/-!
JSON texts read by a shape. Of all faults of the text and all mismatches, the first in reading
order is the error; what comes after it does not matter.
-/
namespace Scaffold

inductive TextError where
  | fault (fault : Json.Fault)
  | mismatch (mismatch : Mismatch)
  deriving DecidableEq, Repr

namespace Shape
open Json (Node Items Members)

def orFault {α : Type} : Except Json.Fault α → Except TextError α :=
  Except.mapError .fault

def orMismatch {α : Type} : Except Mismatch α → Except TextError α :=
  Except.mapError .mismatch

/-- The error where a value of another kind stands. An array or an object is refused at its first
character, anything else once it has been read. -/
def refuse {α : Type} (wanted : String) (node : Node) : Except TextError α :=
  let wrong (found : Found) : Except TextError α := .error (.mismatch (.wrongKind found wanted))
  match node with
  | .null => wrong .null
  | .bool value => wrong (.bool value)
  | .number (some value) => wrong (.number value)
  | .string (some value) => wrong (.string value)
  | .number none | .string none => .error (.fault .malformed)
  | .array _ => wrong .sequence
  | .object _ => wrong .map
  | .broken kept _ => .error (.fault kept)

def textOfNode : Node → Except TextError String
  | .string (some s) => .ok s
  | other => refuse "a string" other

def descend (depth : Nat) : Except TextError Nat :=
  match depth with
  | 0 => .error (.fault .malformed)
  | depth + 1 => .ok depth

def readItems {α : Type} (read : Node → Except TextError α) : Items → Except TextError (List α)
  | .closed => .ok []
  | .broken fault => .error (.fault fault)
  | .item value rest => do
    let value ← read value
    let rest ← readItems read rest
    .ok (value :: rest)

def readMembers {σ : Type} (add : σ → String → Node → Except TextError σ) (state : σ) :
    Members → Except TextError σ
  | .closed => .ok state
  | .broken kept _ => .error (.fault kept)
  | .member none _ _ => .error (.fault .malformed)
  | .member (some name) value rest => do
    let state ← add state name value
    readMembers add state rest

mutual

def ofNode : {α : Type} → Shape α → (depth : Nat) → Node → Except TextError α
  | _, text, _, node => textOfNode node
  | _, flag, _, node =>
    match node with
    | .bool b => .ok b
    | other => refuse flag.wanted other
  | _, anything, depth, node => orFault (node.toJson depth)
  | _, members, depth, node =>
    match node with
    | .null => .ok none
    | .object entries => do
      let depth ← descend depth
      (orFault (entries.toJson depth [])).map some
    | other => refuse members.wanted other
  | _, choice cases, depth, node =>
    match node with
    | .string (some name) => orMismatch (findCase cases name)
    | .object entries => do
      let _ ← descend depth
      match entries with
      | .closed => .error (.fault .malformed)
      | .broken kept _ => .error (.fault kept)
      | .member none _ _ => .error (.fault .malformed)
      | .member (some name) content rest => do
        let found ← orMismatch (findCase cases name)
        match content with
        | .null =>
          match rest with
          | .closed => .ok found
          | .broken kept _ => .error (.fault kept)
          | .member _ _ _ => .error (.fault .malformed)
        | other => refuse "unit" other
    | .broken kept _ => .error (.fault kept)
    | _ => .error (.fault .malformed)
  | _, list item, depth, node =>
    match node with
    | .array items => do
      let depth ← descend depth
      readItems (ofNode item depth) items
    | other => refuse (list item).wanted other
  | _, record name closed fields build, depth, node =>
    match node with
    | .object entries => do
      let depth ← descend depth
      let slots ← readMembers (memberOfNode fields closed fields.names depth) fields.empty entries
      match fields.complete slots with
      | .ok values => .ok (build values)
      | .error missing => .error (.mismatch (.missingField missing))
    | .array items => do
      let depth ← descend depth
      let values ← fieldsOfNode fields name fields.size depth 0 items
      .ok (build values)
    | other => refuse (record name closed fields build).wanted other
  | _, converted convert shape, depth, node => (ofNode shape depth node).map convert

def memberOfNode : {ρ σ : Type} → Fields ρ σ → (closed : Bool) → (known : List String) →
    (depth : Nat) → σ → String → Node → Except TextError σ
  | _, _, .none, closed, known, _, slots, key, value =>
    if closed then .error (.mismatch (.unknownField key known))
    else
      match value.faultWhenSkipped with
      | some fault => .error (.fault fault)
      | none => .ok slots
  | _, _, .field name aliases _ shape rest, closed, known, depth, (slot, slots), key, value =>
    if key == name || aliases.contains key then
      match slot with
      | some _ => .error (.mismatch (.duplicateField name))
      | none => do
        let read ← ofNode shape depth value
        .ok (some read, slots)
    else do
      let slots ← memberOfNode rest closed known depth slots key value
      .ok (slot, slots)

def fieldsOfNode : {ρ σ : Type} → Fields ρ σ → (title : String) → (size depth position : Nat) →
    Items → Except TextError ρ
  | _, _, .none, _, _, _, _, items =>
    match items with
    | .closed => .ok ()
    | .broken fault => .error (.fault fault)
    | .item _ _ => .error (.fault .malformed)
  | _, _, .field name aliases fallback shape rest, title, size, depth, position, items =>
    match items with
    | .closed =>
      match Fields.fallbacks position (.field name aliases fallback shape rest) with
      | .ok values => .ok values
      | .error stopped => .error (.mismatch (.shortRecord stopped title size))
    | .broken fault => .error (.fault fault)
    | .item value others => do
      let value ← ofNode shape depth value
      let values ← fieldsOfNode rest title size depth (position + 1) others
      .ok (value, values)

end

def ofJsonText {α : Type} (shape : Shape α) (s : String) : Except TextError α := do
  let text := Json.read s
  let value ← shape.ofNode Json.depthLimit text.value
  match text.rest with
  | some rest => if (Json.skipSpace rest).isEmpty then .ok value else .error (.fault .malformed)
  | none => .error (.fault .malformed)

end Shape
end Scaffold
