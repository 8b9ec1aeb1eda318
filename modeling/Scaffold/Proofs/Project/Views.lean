import Scaffold.Proofs.Archive.Unpacking
import Scaffold.Proofs.CommandLine.Printing
import Scaffold.Proofs.Run.EmptyRoot

/-!
The views of one generation: what an inspection lists, what a dry run announces, what is found in the
output directory and what an archive holds are the same files in the same order. The warnings that are
listed behind them name what they are about.
-/
namespace Scaffold.Project
open CommandLine

end Scaffold.Project
