import Highlight.Languages.Texts
import Highlight.Lexer.Retype
import Highlight.Lexers.Actions
import Highlight.Lexers.KnownNames
import Highlight.Lexers.Shen

/-! # Lisp languages -/

set_option autoImplicit false

namespace Highlight.Languages

open Lexers

def lispTexts : Family := familyTexts 237 30

def cpsaLanguage : Language := .ofText 421 lispTexts 0

def commonLispBuiltinFunctions := textWords lispTexts 1

def commonLispSpecialForms := textWords lispTexts 2

def commonLispMacros := textWords lispTexts 3

def commonLispLambdaListKeywords := textWords lispTexts 4

def commonLispDeclarations := textWords lispTexts 5

def commonLispBuiltinTypes := textWords lispTexts 6

def commonLispBuiltinClasses := textWords lispTexts 7

def commonLispLanguage : Language :=
  .listed 422
    (namesScanner ({ className := "CommonLispLexer", flags := flagsOf "im", layers := [textStates lispTexts 8] }) [among .nameVariable commonLispBuiltinFunctions .nameBuiltin, among .nameVariable commonLispSpecialForms .keyword, among .nameVariable commonLispMacros .nameBuiltin, among .nameVariable commonLispLambdaListKeywords .keyword, among .nameVariable commonLispDeclarations .keyword, among .nameVariable commonLispBuiltinTypes .keywordType, among .nameVariable commonLispBuiltinClasses .nameClass])

def emacsBuiltinFunction := textWords lispTexts 9

def emacsSpecialForms := textWords lispTexts 10

def emacsErrorKeywords := textWords lispTexts 11

def emacsBuiltinFunctionHighlighted := textWords lispTexts 12

def emacsMacros := textWords lispTexts 13

def emacsLambdaListKeywords := textWords lispTexts 14

def emacsLispLanguage : Language :=
  .listed 423
    (namesScanner ({ className := "EmacsLispLexer", layers := [textStates lispTexts 15] }) [among .nameVariable emacsBuiltinFunction .nameFunction, among .nameVariable emacsSpecialForms .keyword, among .nameVariable emacsErrorKeywords .nameException, among .nameVariable emacsBuiltinFunctionHighlighted .nameBuiltin, among .nameVariable emacsMacros .nameBuiltin, among .nameVariable emacsLambdaListKeywords .keywordPseudo])

def hyLanguage : Language := .ofText 424 lispTexts 17

def schemeKeywords := textWords lispTexts 19

def schemeBuiltins := textWords lispTexts 20

def schemeStates : List StateDef := lispTexts.statesWith 21 [schemeDecimal]

def schemeLanguage : Language :=
  .listed 425
    (namesScanner ({ className := "SchemeLexer", flags := flagsOf "ms", layers := [schemeStates] }) (schemeRules schemeKeywords schemeBuiltins))

def shenDeclarations := textWords lispTexts 24

def shenSpecialForms := textWords lispTexts 25

def shenBuiltins := textWords lispTexts 26

/-- The builtins of Shen that count anywhere. -/
def shenAnywhere := textWords lispTexts 27

def shenLanguage : Language :=
  .listed 426
    (shenScanner ({ className := "ShenLexer", layers := [textStates lispTexts 28] }) ⟨shenDeclarations, shenSpecialForms, shenBuiltins, shenAnywhere⟩)

end Highlight.Languages
