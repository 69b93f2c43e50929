import Highlight.Languages.Texts
import Highlight.Lexer.Retype
import Highlight.Lexers.Actions
import Highlight.Lexers.KnownNames

/-! # Html languages -/

set_option autoImplicit false

namespace Highlight.Languages

open Lexers

def htmlTexts : Family := familyTexts 192 8

def hamlLanguage : Language := .grammarOf 402
    { flags := flagsOf "i",
      layers := [htmlTexts.statesWith 1 [indentation, startsBlock TokenKind.comment "html-comment-block", startsBlock TokenKind.commentPreproc "haml-comment-block", startsBlock TokenKind.nameDecorator "filter-block"]], extended := true }

def pugLanguage : Language := .grammarOf 403
    { flags := flagsOf "i",
      layers := [htmlTexts.statesWith 3 [indentation, startsBlock TokenKind.comment "html-comment-block", startsBlock TokenKind.commentPreproc "scaml-comment-block", startsBlock TokenKind.nameDecorator "filter-block"]], extended := true }

def scamlLanguage : Language := .grammarOf 404
    { flags := flagsOf "i",
      layers := [htmlTexts.statesWith 4 [indentation, startsBlock TokenKind.comment "html-comment-block", startsBlock TokenKind.commentPreproc "scaml-comment-block", startsBlock TokenKind.nameDecorator "filter-block"]], extended := true }

def xmlStates : List StateDef := textStates htmlTexts 6

def xmlLanguage : Language := .grammarOf 405
    { flags := flagsOf "ms",
      layers := [xmlStates] }

def xsltElements := textWords htmlTexts 7

def xsltLanguage : Language :=
  .listed 406
    (xsltScanner ({ className := "XsltLexer", flags := flagsOf "ms", layers := [xmlStates] }) xsltElements)

end Highlight.Languages
