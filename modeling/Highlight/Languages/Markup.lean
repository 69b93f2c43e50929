import Highlight.Languages.Texts
import Highlight.Lexers.Nested

/-! # Markup languages -/

set_option autoImplicit false

namespace Highlight.Languages

open Lexers

def markupTexts : Family := familyTexts 267 13

def markdownLanguage : Language := .grammarOf 427
    { layers := [markupTexts.statesWith 2 [markdownCodeBlock]] }

def mozPreprocCssLanguage : Language :=
  .listed 428 (.embedNamed "CssLexer" "MozPreprocPercentLexer")

def mozPreprocHashStates : List StateDef := textStates markupTexts 4

def mozPreprocHashLanguage : Language := .grammarOf 429 { layers := [mozPreprocHashStates] }

def mozPreprocJavascriptLanguage : Language :=
  .listed 430 (.embedNamed "JavascriptLexer" "MozPreprocHashLexer")

def mozPreprocPercentLanguage : Language := .grammarOf 431
    { layers := [textStates markupTexts 5, mozPreprocHashStates] }

def mozPreprocXulLanguage : Language :=
  .listed 432 (.embedNamed "XmlLexer" "MozPreprocHashLexer")

def orgLanguage : Language := .ofText 433 markupTexts 6

def rstLanguage : Language := .grammarOf 434
    { layers := [markupTexts.statesWith 7 [rstSourceCode]] }

def texLanguage : Language := .ofText 435 markupTexts 9

def tiddlyWiki5Language : Language := .grammarOf 436
    { layers := [markupTexts.statesWith 10 [tiddlyCodeBlock, tiddlyStyleBlock]] }

def wikitextLanguage : Language := .grammarOf 437
    { layers := [markupTexts.statesWith 12 [wikiSyntaxHighlight, wikiScore]] }

end Highlight.Languages
