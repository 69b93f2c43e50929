import Highlight.Languages.Texts
import Highlight.Lexers.Sessions

/-! # Algebra languages -/

set_option autoImplicit false

namespace Highlight.Languages

def algebraTexts : Family := familyTexts 0 6

def bcLanguage : Language := .ofText 334 algebraTexts 0

def gapConsoleLanguage : Language := .listed 335 (Lexers.gapConsole)

end Highlight.Languages
