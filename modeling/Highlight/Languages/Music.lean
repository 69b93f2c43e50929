import Highlight.Languages.Texts
import Highlight.Lexer.Retype
import Highlight.Lexers.Actions
import Highlight.Lexers.KnownNames
import Highlight.Languages.Lisp

/-! # Music languages -/

set_option autoImplicit false

namespace Highlight.Languages

open Lexers

def musicTexts : Family := familyTexts 297 8

def csoundStates : List StateDef := textStates musicTexts 1

def csoundLanguage : Language := .grammarOf 444 { layers := [csoundStates] }

def csoundOpcodes := textWords musicTexts 2

def csoundOrchestraLanguage : Language := .grammarOf 445
    { layers := [musicTexts.statesWith 3 [csoundName csoundOpcodes, csoundOpcodeName], csoundStates] }

def csoundScoreLanguage : Language := .grammarOf 446
    { layers := [textStates musicTexts 4, csoundStates] }

def lilyPondSchemeFunctions := textWords musicTexts 5

def lilyPondLanguage : Language :=
  .listed 447
    (lilyPondScanner ({ className := "LilyPondLexer", flags := flagsOf "ms", layers := [textStates musicTexts 6, schemeStates] }) schemeKeywords schemeBuiltins lilyPondSchemeFunctions)

end Highlight.Languages
