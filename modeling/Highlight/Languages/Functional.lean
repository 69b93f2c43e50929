import Highlight.Languages.Texts

/-! # Functional languages -/

set_option autoImplicit false

namespace Highlight.Languages

def functionalTexts : Family := familyTexts 132 5

def cleanLanguage : Language := .grammarOf 371
    { layers := [textStates functionalTexts 1], extended := true }

end Highlight.Languages
