import Highlight.Languages.Texts
import Highlight.Lexers.Interleaved

/-! # Build languages -/

set_option autoImplicit false

namespace Highlight.Languages

def makefileLanguage : Language := .listed 336 (Lexers.makefile)

end Highlight.Languages
