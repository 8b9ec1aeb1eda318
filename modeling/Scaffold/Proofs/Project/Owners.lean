import Scaffold.Proofs.Project.Gaps
import Scaffold.Proofs.Text.Sigma

/-!
Endpoints whose path holds the name of a table as it stands. Small letters keep the name in the path, unless
a capital sigma ends its word in one of the two and not in the other.
-/
namespace Scaffold.Project
open Text
open Route (NamedIn owner?)

variable {backend : Backend} {config : Config} {tables : List Table} {table : Table} {path : String} {i : Nat}

end Scaffold.Project
