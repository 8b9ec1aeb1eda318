import Scaffold.Shape.OfJson
import Scaffold.Yaml.Resolve

/-!
YAML texts read by a shape. Any scalar will do for a text, as it is written; an empty value is an
empty list or record. Aliases are followed, a bounded number of times, only where their value is
asked for.
-/
namespace Scaffold.Yaml

abbrev Following := StateT Nat Option

namespace Following

def fail {α : Type} : Following α := fun _ => none

def ofOption {α : Type} (value : Option α) : Following α := fun count => value.map (·, count)

end Following

def Document.follow (document : Document) (node : Node) : Following Node := do
  match node with
  | .alias number =>
    let count := (← get) + 1
    if count > document.size * 100 then Following.fail
    set count
    Following.ofOption (document.anchored.lookup number)
  | other => return other

def Document.text (document : Document) (node : Node) : Following String := do
  match ← document.follow node with
  | .scalar _ _ text => return text
  | _ => Following.fail

def depthLimit : Nat := 128

def isLocalTag (tag : Option String) : Bool :=
  (tag.bind (·.toList.head?)) == some '!'

def Document.json (document : Document) : (depth : Nat) → Node → Following Json
  | depth, node => do
    match ← document.follow node, depth with
    | .scalar tag style text, _ => Following.ofOption (scalarValue? tag style text)
    | .sequence tag items, depth + 1 =>
      if isLocalTag tag then Following.fail
      return .array (← items.mapM (document.json depth))
    | .mapping tag entries, depth + 1 =>
      if isLocalTag tag then Following.fail
      return .object (← entries.foldlM
        (fun members (key, value) => do
          let name ← document.text key
          return Json.putMember name (← document.json depth value) members)
        [])
    | _, _ => Following.fail

def isEmptyPlain : Node → Bool
  | .scalar _ .plain text => text.isEmpty
  | _ => false

def isPresent : Node → Option Bool
  | .scalar tag .plain text =>
    match tag with
    | some tag =>
      if tag == standardTag "null" then (if isNull text then some false else none) else some true
    | none => some (!text.isEmpty && !isNull text)
  | _ => some true

def choiceName (node : Node) : Option String :=
  let own? (tag : Option String) : Option String := tag.bind fun tag =>
    match tag.toList with
    | ['!'] => some "!"
    | '!' :: name => some (String.ofList name)
    | _ => none
  match node with
  | .scalar tag style text =>
    match own? tag with
    | some name =>
      if style == .plain && (text.isEmpty || isNull text) then some name else none
    | none => some text
  | _ => none

end Scaffold.Yaml

namespace Scaffold.Shape
open Yaml

mutual

def ofYaml (document : Document) : {α : Type} → Shape α → (depth : Nat) → Node → Following α
  | _, text, _, node => document.text node
  | _, flag, _, node => do
    match ← document.follow node with
    | .scalar tag style written =>
      if style == .plain || (style == .literal && tag == some (standardTag "bool")) then
        Following.ofOption (bool? written)
      else Following.fail
    | _ => Following.fail
  | _, anything, depth, node => document.json depth node
  | _, members, depth, node => do
    let node ← document.follow node
    if !(← Following.ofOption (isPresent node)) then return none
    if isEmptyPlain node then return some []
    match node, depth with
    | .mapping _ entries, depth + 1 =>
      let members ← entries.foldlM
        (fun members (key, value) => do
          let name ← document.text key
          return Json.putMember name (← document.json depth value) members)
        []
      return some members
    | _, _ => Following.fail
  | _, choice cases, _, node => do
    let node ← document.follow node
    let name ← Following.ofOption (choiceName node)
    Following.ofOption (cases.lookup name)
  | _, list item, depth, node => do
    let node ← document.follow node
    if isEmptyPlain node then return []
    match node, depth with
    | .sequence _ items, depth + 1 => items.mapM (ofYaml document item depth)
    | _, _ => Following.fail
  | _, record _ closed fields build, depth, node => do
    let node ← document.follow node
    let slots ←
      if isEmptyPlain node then pure fields.empty
      else
        match node, depth with
        | .mapping _ entries, depth + 1 =>
          entries.foldlM
            (fun slots (key, value) => do
              let name ← document.text key
              slotOfYaml document fields closed depth slots name value)
            fields.empty
        | _, _ => Following.fail
    return build (← Following.ofOption (fields.complete slots).toOption)
  | _, converted convert shape, depth, node => do
    return convert (← ofYaml document shape depth node)

def slotOfYaml (document : Document) : {ρ σ : Type} → Fields ρ σ → (closed : Bool) →
    (depth : Nat) → σ → String → Node → Following σ
  | _, _, .none, closed, _, slots, _, _ => if closed then Following.fail else return slots
  | _, _, .field name aliases _ shape rest, closed, depth, (slot, slots), key, value =>
    if key == name || aliases.contains key then
      match slot with
      | some _ => Following.fail
      | none => do
        let read ← ofYaml document shape depth value
        return (some read, slots)
    else do
      return (slot, ← slotOfYaml document rest closed depth slots key value)

end

def ofYamlText {α : Type} (shape : Shape α) (s : String) : Option α := do
  let document ← Document.ofText? s
  let root := document.root.getD Node.empty
  let (value, _) ← (ofYaml document shape depthLimit root).run 0
  some value

end Scaffold.Shape
