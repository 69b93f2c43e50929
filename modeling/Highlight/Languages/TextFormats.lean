import Highlight.Languages.Texts
import Highlight.Lexer.Retype
import Highlight.Lexers.Actions
import Highlight.Lexers.KnownNames
import Highlight.Lexers.Messages

/-! # TextFormats languages -/

set_option autoImplicit false

namespace Highlight.Languages

open Lexers

def textFormatsTexts : Family := familyTexts 508 18

def emailLanguage : Language :=
  .listed 572 (.embedNamed "EmailHeaderLexer" "MIMELexer" TokenKind.comment)

def httpLanguage : Language := .grammarOf 573
    { flags := flagsOf "s",
      layers := [textFormatsTexts.statesWith 5 [httpHeader, httpHeaderMore, httpContent]] }

def mimeLanguage : Language := .grammarOf 574
    { layers := [textFormatsTexts.statesWith 8 [mailHeader, mailBody, mailContentType, mailTypeParameter, mailEncoding]] }

/-- Shortest and full forms of Vim words. -/
def vimCommands : Array (String × String) :=
  Notation.pairs (textFormatsTexts.getD 12 "")

/-- Shortest and full forms of Vim words. -/
def vimOptions : Array (String × String) :=
  Notation.pairs (textFormatsTexts.getD 13 "")

/-- Shortest and full forms of Vim words. -/
def vimEvents : Array (String × String) :=
  Notation.pairs (textFormatsTexts.getD 14 "")

def vimLanguage : Language :=
  .listed 575
    (vimScanner ({ className := "VimLexer", layers := [textStates textFormatsTexts 15] }) vimCommands vimOptions vimEvents)

def emailHeaderLanguage : Language := .grammarOf 576
    { layers := [textFormatsTexts.statesWith 17 [xHeader]] }

end Highlight.Languages
