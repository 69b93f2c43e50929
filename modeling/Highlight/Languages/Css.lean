import Highlight.Languages.Texts
import Highlight.Lexers.Actions

/-! # Css languages -/

set_option autoImplicit false

namespace Highlight.Languages

open Lexers

def cssTexts : Family := familyTexts 72 4

def cssStates : List StateDef := textStates cssTexts 0

def cssLanguage : Language := .grammarOf 341 { layers := [cssStates] }

def lessCssLanguage : Language := .grammarOf 342
    { layers := [textStates cssTexts 1, cssStates] }

def sassLanguage : Language := .grammarOf 343
    { flags := flagsOf "im",
      layers := [cssTexts.statesWith 2 [indentation, startsBlock TokenKind.commentSingle "single-comment", startsBlock TokenKind.commentMultiline "multi-comment"]], extended := true }

end Highlight.Languages
