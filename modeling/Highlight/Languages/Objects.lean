import Highlight.Languages.Texts
import Highlight.Lexer.Retype
import Highlight.Lexers.Actions
import Highlight.Lexers.KnownNames
import Highlight.Lexers.Sessions

/-! # Objects languages -/

set_option autoImplicit false

namespace Highlight.Languages

open Lexers

def objectsTexts : Family := familyTexts 324 15

def dylanConsoleLanguage : Language := .listed 454 (dylanConsole)

def dylanBuiltins := textWords objectsTexts 0

def dylanKeywords := textWords objectsTexts 1

def dylanFunctions := textWords objectsTexts 2

def dylanOperators := textWords objectsTexts 3

def dylanLanguage : Language :=
  .listed 455
    (dylanScanner ({ className := "DylanLexer", flags := flagsOf "i", layers := [textStates objectsTexts 4] }) dylanBuiltins dylanKeywords dylanFunctions dylanOperators)

def urbiscriptLanguage : Language := .grammarOf 456
    { flags := flagsOf "s",
      layers := [objectsTexts.statesWith 13 [urbiBlob]], extended := true }

end Highlight.Languages
