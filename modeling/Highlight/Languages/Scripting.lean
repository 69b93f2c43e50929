import Highlight.Languages.Texts
import Highlight.Lexer.Retype
import Highlight.Lexers.Actions
import Highlight.Lexers.KnownNames

/-! # Scripting languages -/

set_option autoImplicit false

namespace Highlight.Languages

open Lexers

def scriptingTexts : Family := familyTexts 382 32

def arturoLanguage : Language := .grammarOf 477
    { layers := [scriptingTexts.statesWith 1 [annotatedString]] }

def luaFunctions := textWords scriptingTexts 10

def luaStates : List StateDef := textStates scriptingTexts 11

def luaLanguage : Language :=
  .listed 478 (luaScanner ({ className := "LuaLexer", layers := [luaStates] }) luaFunctions)

def luauBuiltins := textWords scriptingTexts 12

def robloxBuiltins := textWords scriptingTexts 13

def luauLanguage : Language :=
  .listed 479
    (luauScanner ({ className := "LuauLexer", layers := [textStates scriptingTexts 14] }) luauBuiltins robloxBuiltins)

def moonScriptLanguage : Language :=
  .listed 480
    (moonScriptScanner ({ className := "MoonScriptLexer", layers := [textStates scriptingTexts 18, luaStates] }) luaFunctions)

/-- Patterns that give words their kinds. -/
def rebolWordKindRules : TokenKind × List (Pattern.Compiled × TokenKind) :=
  let (fallback, rules) := Notation.kindedPatterns (scriptingTexts.getD 20 "")
  (fallback, compileRules rules)

/-- The kind of a word, by the first pattern that matches it. -/
def rebolWordKind : Callback :=
  classifyWord rebolWordKindRules.2 rebolWordKindRules.1

def rebolLanguage : Language := .grammarOf 481
    { flags := flagsOf "im",
      layers := [scriptingTexts.statesWith 21 [rebolWordKind]] }

/-- Patterns that give words their kinds. -/
def redWordKindRules : TokenKind × List (Pattern.Compiled × TokenKind) :=
  let (fallback, rules) := Notation.kindedPatterns (scriptingTexts.getD 22 "")
  (fallback, compileRules rules)

/-- The kind of a word, by the first pattern that matches it. -/
def redWordKind : Callback :=
  classifyWord redWordKindRules.2 redWordKindRules.1

def redLanguage : Language := .grammarOf 482
    { flags := flagsOf "im",
      layers := [scriptingTexts.statesWith 23 [redWordKind]] }

def slashLanguage : Language :=
  .listed 483 (.embedNamed "HtmlLexer" "SlashLanguageLexer")

def sourcePawnTypes := textWords scriptingTexts 25

def sourceModFunctions := textWords scriptingTexts 26

def sourcePawnLanguage : Language :=
  .listed 484
    (sourcePawnScanner ({ className := "SourcePawnLexer", layers := [textStates scriptingTexts 27] }) sourcePawnTypes sourceModFunctions)

def slashLanguageLanguage : Language := .grammarOf 485
    { layers := [scriptingTexts.statesWith 31 [slashCloseInterpolation]], extended := true }

end Highlight.Languages
