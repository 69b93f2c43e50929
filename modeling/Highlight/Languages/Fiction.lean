import Highlight.Languages.Texts
import Highlight.Lexers.Conditional
import Highlight.Lexers.Context

/-! # Fiction languages -/

set_option autoImplicit false

namespace Highlight.Languages

def fictionTexts : Family := familyTexts 127 5

def inform6Language : Language :=
  .listed 367
    (Lexers.inform6Scanner ({ className := "Inform6Lexer", flags := flagsOf "ms", layers := [textStates fictionTexts 0] }))

/-- Inform 7 under the class name `cls`, by the grammar of the `k`-th rule text. -/
def inform7Variant (cls : String) (k : Nat) : Scanner :=
  .ofGrammar { className := cls, flags := flagsOf "ms", layers := [textStates fictionTexts k] }

/-- The three variants of Inform 7 that the option `i6t` chooses between, the first by default. -/
def inform7Variants (cls : String) : Scanner :=
  .choice "i6t" [("+i6t-not-inline", inform7Variant cls 1), ("+i6t-inline", inform7Variant cls 2), ("+i6t-use-option", inform7Variant cls 3)] (inform7Variant cls 1)

def inform7Language : Language := .listed 368 (inform7Variants "Inform7Lexer")

def inform6TemplateLanguage : Language := .listed 369 (.startingIn ["+i6t-root"] (inform7Variants "Inform6TemplateLexer"))

def tads3Language : Language :=
  .listed 370
    (Lexers.tads3Scanner ({ className := "Tads3Lexer", flags := flagsOf "ms", layers := [textStates fictionTexts 4] }))

end Highlight.Languages
