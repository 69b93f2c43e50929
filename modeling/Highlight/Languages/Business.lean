import Highlight.Languages.Texts

/-! # Business languages -/

set_option autoImplicit false

namespace Highlight.Languages

def businessTexts : Family := familyTexts 17 15

def cobolStates : List StateDef := textStates businessTexts 5

def cobolLanguage : Language := .grammarOf 337
    { flags := flagsOf "im",
      layers := [cobolStates] }

def cobolFreeformatLanguage : Language := .grammarOf 338
    { flags := flagsOf "im",
      layers := [textStates businessTexts 6, cobolStates] }

end Highlight.Languages
