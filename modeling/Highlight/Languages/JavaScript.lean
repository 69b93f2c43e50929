import Highlight.Languages.Texts
import Highlight.Lexer.Retype
import Highlight.Lexers.Actions
import Highlight.Lexers.KnownNames
import Highlight.Lexers.Sessions

/-! # JavaScript languages -/

set_option autoImplicit false

namespace Highlight.Languages

open Lexers

def javaScriptTexts : Family := familyTexts 200 19

def haxeLanguage : Language := .grammarOf 407
    { flags := flagsOf "ms",
      layers := [javaScriptTexts.statesWith 5 [haxePreproc]], extended := true }

def javascriptStates : List StateDef := textStates javaScriptTexts 7

def javascriptLanguage : Language := .grammarOf 408
    { flags := flagsOf "ms",
      layers := [javascriptStates] }

def jsxLanguage : Language := .grammarOf 409
    { flags := flagsOf "ms",
      layers := [textStates javaScriptTexts 8, javascriptStates] }

def lassoBuiltins := textWords javaScriptTexts 11

def lassoMembers := textWords javaScriptTexts 12

def lassoLanguage : Language :=
  .listed 410
    (lassoScanner ({ className := "LassoLexer", flags := flagsOf "ims", layers := [textStates javaScriptTexts 13] }) lassoBuiltins lassoMembers)

def nodeConsoleLanguage : Language := .listed 411 (nodeConsole)

def typeScriptLanguage : Language := .grammarOf 412
    { flags := flagsOf "ms",
      layers := [textStates javaScriptTexts 18, javascriptStates] }

end Highlight.Languages
