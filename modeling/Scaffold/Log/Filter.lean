import Scaffold.Log.Event
import Scaffold.Text.Basic
import Scaffold.Text.LetterCase

/-!
Which events are shown. Directives set a threshold for all targets or for those that start alike;
for each target the directive that names the most of it decides.
-/
namespace Scaffold.Log
open Text

structure Directive where
  target : Option String
  threshold : Nat
  inSpan : Bool := false
  deriving DecidableEq, Repr

abbrev Filter := List Directive

def thresholdNamed? (raw : String) : Option Nat :=
  let digits := match raw.toList with
    | '+' :: digits => digits
    | digits => digits
  match (natIn? 10 digits).filter (· ≤ 5) with
  | some n => some n
  | none =>
    match asciiLower raw with
    | "off" => some 0
    | "error" => some 1
    | "warn" => some 2
    | "info" => some 3
    | "debug" => some 4
    | "trace" => some 5
    | _ => none

def thresholdAfter? (raw : String) : Option Nat :=
  if raw.isEmpty then some 5 else thresholdNamed? raw

def startsTarget (c : Char) : Bool :=
  c.isAlphanum || c == '-' || c == ':' || c == '_' || 128 ≤ c.toNat

def spanDirective? (rest : List Char) : Option Directive :=
  match rest.dropWhile (· != ']') with
  | [_] => some ⟨none, 5, true⟩
  | _ :: '=' :: raw => (thresholdAfter? (String.ofList raw)).map (⟨none, ·, true⟩)
  | _ => none

def Directive.ofText? (raw : String) : Option Directive :=
  let cs := trimChars raw.toList
  let isMark (c : Char) : Bool := c == '=' || c == '['
  let start := String.ofList (cs.takeWhile (!isMark ·))
  match cs, cs.dropWhile (!isMark ·) with
  | [], _ => some ⟨none, 5, true⟩
  | '[' :: rest, _ => spanDirective? rest
  | c :: _, after =>
    if !startsTarget c then none
    else
      match after with
      | [] =>
        match thresholdNamed? start with
        | some threshold => some ⟨none, threshold, false⟩
        | none => some ⟨some start, 5, false⟩
      | '=' :: level =>
        (thresholdAfter? (String.ofList level)).map (⟨some start, ·, false⟩)
      | _ :: rest => spanDirective? rest

def Filter.ofText? (raw : String) : Option Filter := do
  let directives ← ((splitAt ',' raw).filter (!·.isEmpty)).mapM Directive.ofText?
  return if directives.isEmpty then [⟨none, 1, false⟩] else directives

def Directive.covers (directive : Directive) (target : String) : Bool :=
  !directive.inSpan && directive.target.all fun start => (after? start target).isSome

def Directive.extent (directive : Directive) : Nat :=
  match directive.target with
  | some start => start.utf8ByteSize + 1
  | none => 0

/-- Of directives about the same targets the last counts. -/
def Filter.threshold (filter : Filter) (target : String) : Nat :=
  let better (best : Option Directive) (directive : Directive) : Option Directive :=
    if !directive.covers target then best
    else
      match best with
      | some other => if directive.extent < other.extent then best else some directive
      | none => some directive
  match filter.foldl better none with
  | some directive => directive.threshold
  | none => 0

def Filter.passes (filter : Filter) (event : Event) : Bool :=
  event.severity.rank ≤ filter.threshold event.target

end Scaffold.Log
