import Scaffold.Backend.Basic

/-!
What a generation leaves out or guesses. Nothing in a backend makes a generation fail; each gap is
reported instead.
-/
namespace Scaffold

inductive Warning where
  | unresolvedEndpoint (method : Method) (path : String)
  | manyToManyNotExpanded (table target : String)
  | unknownTarget (table target : String)
  | unknownType (table column type : String)
  | duplicatePath (path : String)
  | foreignKeyCycle (tables : List String)
  | missingUserTable
  deriving DecidableEq, Repr

namespace Warning

def kind : Warning → String
  | unresolvedEndpoint _ _ => "unresolved_endpoint"
  | manyToManyNotExpanded _ _ => "many_to_many_not_expanded"
  | unknownTarget _ _ => "unknown_relationship_target"
  | unknownType _ _ _ => "unknown_field_type"
  | duplicatePath _ => "duplicate_path"
  | foreignKeyCycle _ => "foreign_key_cycle"
  | missingUserTable => "missing_user_table"

def message : Warning → String
  | unresolvedEndpoint method path =>
    method.name ++ " " ++ path ++ " does not name any table; no route was generated"
  | manyToManyNotExpanded table target =>
    table ++ " -> " ++ target ++ " is many_to_many; no join table was generated"
  | unknownTarget table target => table ++ " references unknown table " ++ target
  | unknownType table column type =>
    table ++ "." ++ column ++ " has unknown type '" ++ type ++ "'; emitted as text"
  | duplicatePath path => path ++ " was generated more than once; the last one wins"
  | foreignKeyCycle tables =>
    "foreign keys form a cycle between " ++ String.intercalate ", " tables ++
      "; declared order kept"
  | missingUserTable => "no User table; the auth webhook writes to prisma.user"

end Warning
end Scaffold
