import Highlight.Languages.Texts
import Highlight.Lexers.Actions
import Highlight.Lexers.XQuery

/-! # Web languages -/

set_option autoImplicit false

namespace Highlight.Languages

open Lexers

def webTexts : Family := familyTexts 553 10

def cirruLanguage : Language := .ofText 590 webTexts 0

def jsltLanguage : Language := .ofText 591 webTexts 3

def slimLanguage : Language := .grammarOf 592
    { flags := flagsOf "i",
      layers := [webTexts.statesWith 6 [indentation, startsBlock TokenKind.text "plain", startsBlock TokenKind.commentPreproc "slim-comment-block"]], extended := true }

def watLanguage : Language := .ofText 593 webTexts 7

def webIDLLanguage : Language := .ofText 594 webTexts 8

def xQueryLanguage : Language := .grammarOf 595
    { flags := flagsOf "ms",
      layers := [webTexts.statesWith 9 [xqueryClose, xqueryBrace, xqueryRestart .operator, xqueryRestart .punctuation, xqueryOpen [.nameTag, .whitespace, .punctuation] "occurrenceindicator" (.enter "kindtest"), xqueryCloseKindTest, xqueryOpen [.keyword, .whitespace, .punctuation] "kindtest" (.enter "kindtest"), xqueryOpen [.punctuation] "operator" .root, xqueryCloseTag .stringDoc, xqueryCloseTag .nameTag, xqueryOpen [.stringDoc] "element_content" (.enter "xml_comment"), xqueryOpen [.stringDoc] "element_content" (.enter "processing_instruction"), xqueryOpen [.stringDoc] "element_content" (.enter "cdata_section"), xqueryOpen [.nameTag] "element_content" (.enter "start_tag"), xqueryOpen [.keyword, .whitespace, .punctuation] "operator" (.enter "kindtest"), xqueryOpen [.keyword, .whitespace, .punctuation] "operator" (.enter "kindtestforpi"), xqueryOpen [.stringDoc] "operator" (.enter "xml_comment"), xqueryOpen [.stringDoc] "operator" (.enter "processing_instruction"), xqueryOpen [.stringDoc] "operator" (.enter "cdata_section"), xqueryOpen [.nameTag] "operator" (.enter "start_tag"), xqueryOpen [.keyword, .whitespace, .keyword] "operator" .root, xqueryOpen [.keyword, .whitespace, .punctuation] "operator" .root]], extended := true }

end Highlight.Languages
