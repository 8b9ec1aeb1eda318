import Scaffold.Backend.Basic

/-!
The order in which tables are created. Tables are named by their position, since names may repeat; a
name that several tables bear means the last of them.
-/
namespace Scaffold.Migration
open Text

inductive Order where
  | declared
  | dependency
  deriving DecidableEq, Repr

def Order.ofName? (raw : String) : Option Order :=
  match asciiLower (trim raw) with
  | "declared" | "input" => some .declared
  | "dependency" | "dependencies" | "topological" => some .dependency
  | _ => none

/-- The position of the last table of that name. -/
def bearer? (tables : List Table) (name : String) : Option Nat :=
  (tables.zipIdx.reverse.find? (·.1.name == name)).map (·.2)

def needs (tables : List Table) (i : Nat) : List Nat :=
  match tables[i]? with
  | some table => (table.foreignTargets.filterMap (bearer? tables)).filter (· != i)
  | none => []

structure Arrangement where
  sorted : List Nat
  leftover : List Nat
  deriving DecidableEq, Repr

/-- Takes the first waiting position whose needs are all placed, as long as there is one. -/
def place (needs : Nat → List Nat) (placed waiting : List Nat) : Arrangement :=
  match _found : waiting.find? fun i => (needs i).all placed.contains with
  | some i => place needs (placed ++ [i]) (waiting.erase i)
  | none => ⟨placed, waiting⟩
termination_by waiting.length
decreasing_by
  have member := List.mem_of_find?_eq_some _found
  have shorter := List.length_erase_of_mem member
  have positive := List.length_pos_of_mem member
  omega

def byDependency (tables : List Table) : Arrangement :=
  let positions := List.range tables.length
  let table := (positions.map (needs tables)).toArray
  place (fun i => table.getD i []) [] positions

def arrange (order : Order) (tables : List Table) : Arrangement :=
  match order with
  | .declared => ⟨List.range tables.length, []⟩
  | .dependency => byDependency tables

def Arrangement.tables (arrangement : Arrangement) (tables : List Table) : List Table :=
  (arrangement.sorted ++ arrangement.leftover).filterMap (tables[·]?)

def Arrangement.cycle (arrangement : Arrangement) (tables : List Table) : List String :=
  (arrangement.leftover.filterMap (tables[·]?)).map (·.name)

end Scaffold.Migration
