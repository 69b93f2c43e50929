import Highlight.Languages.Texts
import Highlight.Lexer.Retype
import Highlight.Lexers.KnownNames
import Highlight.Lexers.Sessions

/-! # Python languages -/

set_option autoImplicit false

namespace Highlight.Languages

open Lexers

def pythonTexts : Family := familyTexts 355 8

def dgLanguage : Language := .ofText 463 pythonTexts 1

def pythonStates : List StateDef := textStates pythonTexts 2

def pythonLanguage : Language := .grammarOf 464 { layers := [pythonStates] }

def numPyExtraKeywords := textWords pythonTexts 3

def numPyLanguage : Language :=
  .listed 465
    (namesScanner ({ className := "NumPyLexer", layers := [pythonStates] }) [among .name numPyExtraKeywords .keywordPseudo])

def pythonConsoleLanguage : Language := .listed 466 (pythonConsole)

def pythonConsoleLexerBaseLanguage : Language := .catalogued 326

end Highlight.Languages
