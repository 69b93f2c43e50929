import Highlight.Languages.Texts

/-! # Games languages -/

set_option autoImplicit false

namespace Highlight.Languages

def gamesTexts : Family := familyTexts 137 4

def snbtLanguage : Language := .ofText 372 gamesTexts 3

end Highlight.Languages
