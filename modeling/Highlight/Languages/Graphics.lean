import Highlight.Languages.Texts
import Highlight.Lexer.Retype
import Highlight.Lexers.KnownNames

/-! # Graphics languages -/

set_option autoImplicit false

namespace Highlight.Languages

open Lexers

def graphicsTexts : Family := familyTexts 151 11

def asyFunctionNames := textWords graphicsTexts 0

def asyVariableNames := textWords graphicsTexts 1

def asymptoteLanguage : Language :=
  .listed 388
    (namesScanner ({ className := "AsymptoteLexer", layers := [textStates graphicsTexts 2] }) [among .name asyFunctionNames .nameFunction, among .name asyVariableNames .nameVariable])

end Highlight.Languages
