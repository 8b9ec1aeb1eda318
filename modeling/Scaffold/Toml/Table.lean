/-!
Tables of a TOML text and the rules by which its lines fill them. How a table came to be decides
what may still be added to it.
-/
namespace Scaffold.Toml

inductive Origin where
  | header
  | implied
  | dotted
  | braced
  deriving DecidableEq, Repr

inductive Item where
  | text (value : String)
  | plain
  | array (items : List Item)
  | table (origin : Origin) (entries : List (String × Item))
  | tables (earlier : List (List (String × Item))) (latest : List (String × Item))

abbrev Entries := List (String × Item)

namespace Entries

def put (name : String) (item : Item) : Entries → Entries
  | [] => [(name, item)]
  | (other, value) :: rest =>
    if other == name then (name, item) :: rest else (other, value) :: put name item rest

/-- Changes the table at the end of a path, which is made where it is missing. Nothing passes
through a table in braces, and no dotted key through a table with a header. -/
def within (dotted : Bool) (change : Origin → Entries → Option Entries) :
    List String → Origin → Entries → Option Entries
  | [], origin, entries => change origin entries
  | name :: path, _, entries =>
    match entries.lookup name with
    | none => do
      let origin := if dotted then .dotted else .implied
      let inner ← within dotted change path origin []
      return put name (.table origin inner) entries
    | some (.table origin inner) => do
      if origin == .braced || (dotted && origin == .header) then none
      let inner ← within dotted change path origin inner
      return put name (.table origin inner) entries
    | some (.tables earlier latest) => do
      let latest ← within dotted change path .header latest
      return put name (.tables earlier latest) entries
    | some _ => none

def assign (path : List String) (name : String) (item : Item) (entries : Entries) :
    Option Entries :=
  within (!path.isEmpty)
    (fun origin entries =>
      if (origin == .dotted) == path.isEmpty || (entries.lookup name).isSome then none
      else some (put name item entries))
    path .header entries

def openTable (name : String) (entries : Entries) : Option Entries :=
  match entries.lookup name with
  | none => some (put name (.table .header []) entries)
  | some (.table .implied inner) => some (put name (.table .header inner) entries)
  | some _ => none

def openNext (name : String) (entries : Entries) : Option Entries :=
  match entries.lookup name with
  | none => some (put name (.tables [] []) entries)
  | some (.tables earlier latest) => some (put name (.tables (earlier ++ [latest]) []) entries)
  | some _ => none

end Entries

inductive Line where
  | header (path : List String) (name : String)
  | nextHeader (path : List String) (name : String)
  | assignment (path : List String) (name : String) (item : Item)

structure Filling where
  entries : Entries := []
  current : List String := []

def Filling.add (filling : Filling) : Line → Option Filling
  | .header path name => do
    let entries ←
      Entries.within false (fun _ => Entries.openTable name) path .header filling.entries
    return ⟨entries, path ++ [name]⟩
  | .nextHeader path name => do
    let entries ← Entries.within false (fun _ => Entries.openNext name) path .header filling.entries
    return ⟨entries, path ++ [name]⟩
  | .assignment path name item => do
    let entries ←
      Entries.within false (fun _ => Entries.assign path name item) filling.current .header
        filling.entries
    return { filling with entries := entries }

def Entries.ofLines? (lines : List Line) : Option Entries :=
  (lines.foldlM Filling.add {}).map (·.entries)

end Scaffold.Toml
