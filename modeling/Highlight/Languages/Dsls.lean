import Highlight.Languages.Texts
import Highlight.Lexers.Actions

/-! # Dsls languages -/

set_option autoImplicit false

namespace Highlight.Languages

open Lexers

def dslsTexts : Family := familyTexts 100 12

def crmshLanguage : Language := .ofText 360 dslsTexts 1

def panLanguage : Language := .ofText 361 dslsTexts 4

def snowballLanguage : Language := .grammarOf 362
    { layers := [dslsTexts.statesWith 8 [snowballSetEscapes, snowballString true, snowballString false]], extended := true }

def zeekLanguage : Language := .ofText 363 dslsTexts 11

end Highlight.Languages
