import Scaffold.Yaml.Layout

/-!
A YAML document as a tree. An alias stands for the node that bears its anchor; anchors are
numbered, and an alias keeps the number.
-/
namespace Scaffold.Yaml

inductive Node where
  | scalar (tag : Option String) (style : Style) (text : String)
  | sequence (tag : Option String) (items : List Node)
  | mapping (tag : Option String) (entries : List (Node × Node))
  | alias (number : Nat)
  deriving Repr, Inhabited

def Node.empty : Node := .scalar none .plain ""

structure Document where
  root : Option Node
  anchored : List (Nat × Node)
  size : Nat
  deriving Repr

structure Reader where
  tokens : List Token
  handles : List (String × String) := []
  numbers : List (String × Nat) := []
  bearers : List (Nat × Nat) := []
  nodes : List (Nat × Node) := []
  started : Nat := 0
  size : Nat := 0

abbrev Reading := StateT Reader Option

namespace Reader

def fail {α : Type} : Reading α := fun _ => none

def peek : Reading (Option Token) := do
  return (← get).tokens.head?

def next : Reading Unit :=
  modify fun reader => { reader with tokens := reader.tokens.drop 1 }

def count (amount : Nat) : Reading Unit :=
  modify fun reader => { reader with size := reader.size + amount }

def setPair {α β : Type} [BEq α] (key : α) (value : β) : List (α × β) → List (α × β)
  | [] => [(key, value)]
  | (other, old) :: rest =>
    if other == key then (key, value) :: rest else (other, old) :: setPair key value rest

def begin? (anchor : Option String) : Reading (Option Nat) := do
  match anchor with
  | none => return none
  | some name =>
    let reader ← get
    let number := reader.numbers.length
    set { reader with
      numbers := setPair name number reader.numbers
      bearers := setPair number reader.started reader.bearers
      started := reader.started + 1 }
    return some reader.started

def finish (start : Option Nat) (node : Node) : Reading Node := do
  match start with
  | none => return node
  | some position =>
    modify fun reader => { reader with nodes := (position, node) :: reader.nodes }
    return node

def resolveTag (handle suffix : String) : Reading String := do
  if handle.isEmpty then return suffix
  match (← get).handles.lookup handle with
  | some expansion => return expansion ++ suffix
  | none => fail

structure Properties where
  anchor : Option String := none
  tag : Option String := none

def readAnchor (properties : Properties) : Reading Properties := do
  match ← peek with
  | some (.anchor name) => next; return { properties with anchor := some name }
  | _ => return properties

def readTag (properties : Properties) : Reading Properties := do
  match ← peek with
  | some (.tag handle suffix) =>
    next
    return { properties with tag := some (← resolveTag handle suffix) }
  | _ => return properties

def readProperties : Reading Properties := do
  match ← peek with
  | some (.tag _ _) => readAnchor (← readTag {})
  | _ => readTag (← readAnchor {})

def emptyNode (properties : Properties) : Reading Node := do
  count 1
  let start ← begin? properties.anchor
  finish start (.scalar properties.tag .plain "")

def isOneOf (token : Option Token) (tokens : List Token) : Bool :=
  token.all tokens.contains

mutual

/-- `block` allows block collections, `bare` a sequence whose dashes are not further in than the key
before them. -/
def readNode : (fuel : Nat) → (block bare : Bool) → Reading Node
  | 0, _, _ => fail
  | fuel + 1, block, bare => do
    match ← peek with
    | some (.alias name) =>
      next
      count 1
      match (← get).numbers.lookup name with
      | some number => return .alias number
      | none => fail
    | _ =>
      let properties ← readProperties
      let collection (items : Reading Node) : Reading Node := do
        count 2
        let start ← begin? properties.anchor
        finish start (← items)
      match ← peek with
      | some .blockEntry =>
        if bare then collection (do return .sequence properties.tag (← readBareEntries fuel))
        else if properties.anchor.isSome || properties.tag.isSome then emptyNode properties
        else fail
      | some (.scalar text style) =>
        next
        count 1
        let start ← begin? properties.anchor
        finish start (.scalar (properties.tag.filter (· != "!")) style text)
      | some .flowSequenceStart =>
        next
        collection (do return .sequence properties.tag (← readFlowItems fuel true))
      | some .flowMappingStart =>
        next
        collection (do return .mapping properties.tag (← readFlowEntries fuel true))
      | some .blockSequenceStart =>
        if block then
          next
          collection (do return .sequence properties.tag (← readBlockItems fuel))
        else if properties.anchor.isSome || properties.tag.isSome then emptyNode properties
        else fail
      | some .blockMappingStart =>
        if block then
          next
          collection (do return .mapping properties.tag (← readBlockEntries fuel))
        else if properties.anchor.isSome || properties.tag.isSome then emptyNode properties
        else fail
      | _ =>
        if properties.anchor.isSome || properties.tag.isSome then emptyNode properties else fail

def readNodeUnless : (fuel : Nat) → (stops : List Token) → (block bare : Bool) → Reading Node
  | 0, _, _, _ => fail
  | fuel + 1, stops, block, bare => do
    if isOneOf (← peek) stops then emptyNode {} else readNode fuel block bare

def readBlockItems : (fuel : Nat) → Reading (List Node)
  | 0 => fail
  | fuel + 1 => do
    match ← peek with
    | some .blockEntry =>
      next
      let item ← readNodeUnless fuel [.blockEntry, .blockEnd] true false
      return item :: (← readBlockItems fuel)
    | some .blockEnd => next; return []
    | _ => fail

def readBareEntries : (fuel : Nat) → Reading (List Node)
  | 0 => fail
  | fuel + 1 => do
    match ← peek with
    | some .blockEntry =>
      next
      let item ← readNodeUnless fuel [.blockEntry, .key, .value, .blockEnd] true false
      return item :: (← readBareEntries fuel)
    | _ => return []

def readBlockEntries : (fuel : Nat) → Reading (List (Node × Node))
  | 0 => fail
  | fuel + 1 => do
    match ← peek with
    | some .key =>
      next
      let key ← readNodeUnless fuel [.key, .value, .blockEnd] true true
      let value ← readBlockValue fuel
      return (key, value) :: (← readBlockEntries fuel)
    | some .blockEnd => next; return []
    | some .value =>
      let key ← emptyNode {}
      let value ← readBlockValue fuel
      return (key, value) :: (← readBlockEntries fuel)
    | _ => fail

def readBlockValue : (fuel : Nat) → Reading Node
  | 0 => fail
  | fuel + 1 => do
    match ← peek with
    | some .value => next; readNodeUnless fuel [.key, .value, .blockEnd] true true
    | _ => emptyNode {}

def readFlowItems : (fuel : Nat) → (first : Bool) → Reading (List Node)
  | 0, _ => fail
  | fuel + 1, first => do
    if (← peek) == some .flowSequenceEnd then next; return []
    unless first do
      if (← peek) == some .flowEntry then next else fail
    match ← peek with
    | some .flowSequenceEnd => next; return []
    | some .key =>
      next
      count 2
      let entry ← readFlowPair fuel
      return .mapping none [entry] :: (← readFlowItems fuel false)
    | _ =>
      let item ← readNode fuel false false
      return item :: (← readFlowItems fuel false)

/-- One key with its value in a flow sequence. Without a key the token after the mark is passed
over. -/
def readFlowPair : (fuel : Nat) → Reading (Node × Node)
  | 0 => fail
  | fuel + 1 => do
    let stops : List Token := [.flowEntry, .flowSequenceEnd]
    let key ←
      if isOneOf (← peek) (.value :: stops) then
        next
        emptyNode {}
      else readNode fuel false false
    match ← peek with
    | some .value =>
      next
      return (key, ← readNodeUnless fuel stops false false)
    | _ => return (key, ← emptyNode {})

def readFlowEntries : (fuel : Nat) → (first : Bool) → Reading (List (Node × Node))
  | 0, _ => fail
  | fuel + 1, first => do
    if (← peek) == some .flowMappingEnd then next; return []
    unless first do
      if (← peek) == some .flowEntry then next else fail
    let stops : List Token := [.flowEntry, .flowMappingEnd]
    match ← peek with
    | some .flowMappingEnd => next; return []
    | some .key =>
      next
      let key ← readNodeUnless fuel (.value :: stops) false false
      let value ←
        if (← peek) == some .value then
          next
          readNodeUnless fuel stops false false
        else emptyNode {}
      return (key, value) :: (← readFlowEntries fuel false)
    | _ =>
      let key ← readNode fuel false false
      let value ← emptyNode {}
      return (key, value) :: (← readFlowEntries fuel false)

end

structure Directives where
  version : Bool := false
  handles : List (String × String) := []

def readDirectives : (fuel : Nat) → Directives → Reading Directives
  | 0, _ => fail
  | fuel + 1, directives => do
    match ← peek with
    | some (.versionDirective major minor) =>
      if directives.version || major != 1 || (minor != 1 && minor != 2) then fail
      next
      readDirectives fuel { directives with version := true }
    | some (.tagDirective handle expansion) =>
      if (directives.handles.lookup handle).isSome then fail
      next
      readDirectives fuel
        { directives with handles := directives.handles ++ [(handle, expansion)] }
    | _ => return directives

def standardHandles : List (String × String) :=
  [("!", "!"), ("!!", "tag:yaml.org,2002:")]

def startsDocument (token : Token) : Bool :=
  match token with
  | .versionDirective _ _ | .tagDirective _ _ | .documentStart | .documentEnd => true
  | _ => false

def readDocument (fuel : Nat) : Reading (Option Node) := do
  match ← peek with
  | none => return none
  | some first =>
    if startsDocument first && first != .documentEnd then
      let directives ← readDirectives fuel {}
      if (← peek) != some .documentStart then fail
      next
      modify fun reader => { reader with handles := directives.handles ++ standardHandles }
    else modify fun reader => { reader with handles := standardHandles }
    let explicit := startsDocument first && first != .documentEnd
    let root ←
      if explicit && (← peek).all startsDocument then emptyNode {} else readNode fuel true false
    modify fun reader => { reader with tokens := reader.tokens.dropWhile (· == .documentEnd) }
    if (← peek).isSome then fail
    return some root

end Reader

def Document.ofTokens? (tokens : List Token) : Option Document := do
  let (root, reader) ← Reader.readDocument (4 * tokens.length + 8) |>.run { tokens := tokens }
  let anchored := reader.bearers.filterMap fun (number, start) =>
    (reader.nodes.lookup start).map (number, ·)
  some ⟨root, anchored, reader.size⟩

def Document.ofText? (s : String) : Option Document := do
  Document.ofTokens? (← tokens? s)

end Scaffold.Yaml
