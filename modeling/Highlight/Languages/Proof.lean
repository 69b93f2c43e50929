import Highlight.Languages.Texts
import Highlight.Lexers.Tnt

/-! # Proof languages -/

set_option autoImplicit false

namespace Highlight.Languages

def proofTexts : Family := familyTexts 345 10

def prologStates : List StateDef := textStates proofTexts 2

def prologLanguage : Language := .grammarOf 460 { layers := [prologStates] }

def cplintLanguage : Language := .grammarOf 461
    { layers := [textStates proofTexts 3, prologStates] }

def elpiLanguage : Language := .ofText 462 proofTexts 4

def tntLanguage : Language :=
  .described "TNTLexer" "tnt" ""
    (Lexers.tntScanner)

end Highlight.Languages
