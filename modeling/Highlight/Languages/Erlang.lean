import Highlight.Languages.Texts
import Highlight.Lexer.Retype
import Highlight.Lexers.KnownNames
import Highlight.Lexers.Sessions

/-! # Erlang languages -/

set_option autoImplicit false

namespace Highlight.Languages

open Lexers

def erlangTexts : Family := familyTexts 112 9

def elixirConsoleLanguage : Language := .listed 364 (elixirConsole)

def elixirKeyword := textWords erlangTexts 0

def elixirKeywordOperator := textWords erlangTexts 1

def elixirBuiltin := textWords erlangTexts 2

def elixirBuiltinDeclaration := textWords erlangTexts 3

def elixirBuiltinNamespace := textWords erlangTexts 4

def elixirConstant := textWords erlangTexts 5

def elixirPseudoVar := textWords erlangTexts 6

def elixirLanguage : Language :=
  .listed 365
    (elixirScanner ({ className := "ElixirLexer", layers := [textStates erlangTexts 7] }) elixirKeyword elixirKeywordOperator elixirBuiltin elixirBuiltinDeclaration elixirBuiltinNamespace elixirConstant elixirPseudoVar)

def erlangShellLanguage : Language := .listed 366 (erlangShell)

end Highlight.Languages
