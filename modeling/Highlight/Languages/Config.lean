import Highlight.Languages.Texts
import Highlight.Lexers.Heredoc

/-! # Config languages -/

set_option autoImplicit false

namespace Highlight.Languages

def configTexts : Family := familyTexts 32 32

def iniLanguage : Language := .ofText 339 configTexts 6

def terraformLanguage : Language := .grammarOf 340
    { layers := [configTexts.statesWith 28 [Lexers.heredocLine]], extended := true }

end Highlight.Languages
