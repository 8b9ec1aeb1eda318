import Scaffold.Json.Value

/-!
What a JSON text holds, as far as it can be read. Reading stops at the first fault, and the fault
stands where it was met; what came before it is still there, in reading order. Some faults count
only in values that are kept: a number beyond the double range, and half of a surrogate pair.
-/
namespace Scaffold.Json

inductive Fault where
  | ended
  | malformed
  deriving DecidableEq, Repr

mutual

inductive Node where
  | null
  | bool (value : Bool)
  | number (value : Option Number)
  /-- No value when it holds half of a surrogate pair. -/
  | string (value : Option String)
  | array (items : Items)
  | object (members : Members)
  | broken (kept skipped : Fault)

inductive Items where
  | closed
  | broken (fault : Fault)
  | item (value : Node) (rest : Items)

inductive Members where
  | closed
  | broken (kept skipped : Fault)
  | member (name : Option String) (value : Node) (rest : Members)

end

mutual

def Node.faultWhenSkipped : Node → Option Fault
  | .array items => items.faultWhenSkipped
  | .object members => members.faultWhenSkipped
  | .broken _ skipped => some skipped
  | _ => none

def Items.faultWhenSkipped : Items → Option Fault
  | .closed => none
  | .broken fault => some fault
  | .item value rest => value.faultWhenSkipped.or rest.faultWhenSkipped

def Members.faultWhenSkipped : Members → Option Fault
  | .closed => none
  | .broken _ skipped => some skipped
  | .member _ value rest => value.faultWhenSkipped.or rest.faultWhenSkipped

end

def depthLimit : Nat := 127

mutual

def Node.toJson (depth : Nat) : Node → Except Fault Json
  | .null => .ok .null
  | .bool value => .ok (.bool value)
  | .number (some value) => .ok (.number value)
  | .number none => .error .malformed
  | .string (some value) => .ok (.string value)
  | .string none => .error .malformed
  | .array items =>
    match depth with
    | 0 => .error .malformed
    | depth + 1 => (items.toJson depth).map .array
  | .object members =>
    match depth with
    | 0 => .error .malformed
    | depth + 1 => (members.toJson depth []).map .object
  | .broken kept _ => .error kept

def Items.toJson (depth : Nat) : Items → Except Fault (List Json)
  | .closed => .ok []
  | .broken fault => .error fault
  | .item value rest => do
    let value ← value.toJson depth
    let rest ← rest.toJson depth
    .ok (value :: rest)

def Members.toJson (depth : Nat) : Members → List (String × Json) →
    Except Fault (List (String × Json))
  | .closed, members => .ok members
  | .broken kept _, _ => .error kept
  | .member none _ _, _ => .error .malformed
  | .member (some name) value rest, members => do
    let value ← value.toJson depth
    rest.toJson depth (putMember name value members)

end

end Scaffold.Json
