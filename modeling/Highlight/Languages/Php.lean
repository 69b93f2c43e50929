import Highlight.Languages.Texts
import Highlight.Lexer.Retype
import Highlight.Lexers.KnownNames
import Highlight.Lexers.Sessions

/-! # Php languages -/

set_option autoImplicit false

namespace Highlight.Languages

def phpTexts : Family := familyTexts 342 3

def phpFunctions := textWords phpTexts 0

def phpLanguage : Language :=
  .listed 458
    (Lexers.phpScanner ({ className := "PhpLexer", flags := flagsOf "ims", layers := [textStates phpTexts 1] }) phpFunctions)

def psyshConsoleLanguage : Language := .listed 459 (Lexers.psyshConsole)

end Highlight.Languages
