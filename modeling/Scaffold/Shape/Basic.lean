import Scaffold.Json.Value

/-!
Shapes of documents. A shape says what a document holds at one place and what becomes of it;
reading is one function per document format, each of which follows the shape.
-/
namespace Scaffold

mutual

inductive Shape : Type → Type 1 where
  | text : Shape String
  | flag : Shape Bool
  | anything : Shape Json
  | members : Shape (Option (List (String × Json)))
  | choice {α : Type} (cases : List (String × α)) : Shape α
  | list {α : Type} (item : Shape α) : Shape (List α)
  /-- Named fields, also as an array in the order of declaration. A `closed` record has no others.
  -/
  | record {α ρ σ : Type} (name : String) (closed : Bool) (fields : Fields ρ σ) (build : ρ → α) :
      Shape α
  | converted {α β : Type} (convert : α → β) (shape : Shape α) : Shape β

/-- Fields with their values in `ρ`, and in `σ` one slot for each that may still be empty. -/
inductive Fields : Type → Type → Type 1 where
  | none : Fields Unit Unit
  | field {α ρ σ : Type} (name : String) (aliases : List String) (fallback : Option α)
      (shape : Shape α) (rest : Fields ρ σ) : Fields (α × ρ) (Option α × σ)

end

namespace Fields

def empty : {ρ σ : Type} → Fields ρ σ → σ
  | _, _, .none => ()
  | _, _, .field _ _ _ _ rest => (Option.none, rest.empty)

def names : {ρ σ : Type} → Fields ρ σ → List String
  | _, _, .none => []
  | _, _, .field name _ _ _ rest => name :: rest.names

def size {ρ σ : Type} (fields : Fields ρ σ) : Nat :=
  fields.names.length

def complete : {ρ σ : Type} → Fields ρ σ → σ → Except String ρ
  | _, _, .none, _ => .ok ()
  | _, _, .field name _ fallback _ rest, (slot, slots) =>
    match slot.or fallback with
    | some value => (rest.complete slots).map (value, ·)
    | Option.none => .error name

def fallbacks : {ρ σ : Type} → (position : Nat) → Fields ρ σ → Except Nat ρ
  | _, _, _, .none => .ok ()
  | _, _, position, .field _ _ fallback _ rest =>
    match fallback with
    | some value => (fallbacks (position + 1) rest).map (value, ·)
    | Option.none => .error position

end Fields

abbrev required {α ρ σ : Type} (name : String) (shape : Shape α) (rest : Fields ρ σ) :
    Fields (α × ρ) (Option α × σ) :=
  .field name [] Option.none shape rest

abbrev defaulted {α ρ σ : Type} (name : String) (fallback : α) (shape : Shape α)
    (rest : Fields ρ σ) : Fields (α × ρ) (Option α × σ) :=
  .field name [] (some fallback) shape rest

namespace Shape

def wanted : {α : Type} → Shape α → String
  | _, text => "a string"
  | _, flag => "a boolean"
  | _, anything => "any value"
  | _, members => "a map"
  | _, choice _ => "string or map"
  | _, list _ => "a sequence"
  | _, record name _ _ _ => "struct " ++ name
  | _, converted _ shape => shape.wanted

end Shape
end Scaffold
