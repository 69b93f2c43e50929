import Highlight.Languages.Texts
import Highlight.Lexer.Retype
import Highlight.Lexers.Actions

/-! # Ml languages -/

set_option autoImplicit false

namespace Highlight.Languages

open Lexers

def mlTexts : Family := familyTexts 283 7

def fStarLanguage : Language := .ofText 439 mlTexts 0

def ocamlLanguage : Language := .ofText 440 mlTexts 1

def opaLanguage : Language := .ofText 441 mlTexts 2

def reasonLanguage : Language := .ofText 442 mlTexts 3

def smlAlphanumReserved := textWords mlTexts 4

def smlSymbolicReserved := textWords mlTexts 5

def smlLanguage : Language := .grammarOf 443
    { layers := [mlTexts.statesWith 6 [smlLongId smlAlphanumReserved, smlId smlAlphanumReserved smlSymbolicReserved, smlEndId smlAlphanumReserved smlSymbolicReserved]] }

end Highlight.Languages
