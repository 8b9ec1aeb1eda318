import Scaffold.Backend.ColumnType
import Scaffold.Proofs.Text.AsciiLower
import Scaffold.Proofs.Text.Parts

/-!
Validators of body entries against the table of types. The names that an entry spells directly agree with
the vocabulary of columns, of which `number` is no part, and only what is left of an entry without blanks,
mark and letter case counts.
-/
namespace Scaffold
open Text

variable {name left right : String}

end Scaffold
