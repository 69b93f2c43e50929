import Highlight.Languages.Texts
import Highlight.Lexers.Sessions

/-! # Matlab languages -/

set_option autoImplicit false

namespace Highlight.Languages

def matlabSessionLanguage : Language := .listed 438 (Lexers.matlabSession)

end Highlight.Languages
