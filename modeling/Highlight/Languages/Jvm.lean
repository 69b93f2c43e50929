import Highlight.Languages.Texts
import Highlight.Lexer.Retype
import Highlight.Lexers.Interleaved
import Highlight.Lexers.KnownNames

/-! # Jvm languages -/

set_option autoImplicit false

namespace Highlight.Languages

def jvmTexts : Family := familyTexts 219 18

def javaStates : List StateDef := textStates jvmTexts 0

def javaLanguage : Language := .grammarOf 413
    { flags := flagsOf "ms",
      layers := [javaStates] }

def aspectJKeywords := textWords jvmTexts 1

def aspectJInterType := textWords jvmTexts 2

def aspectJAnnotations := textWords jvmTexts 3

def aspectJLanguage : Language :=
  .listed 414
    (Lexers.aspectJScanner ({ className := "AspectJLexer", flags := flagsOf "ms", layers := [javaStates] }) aspectJKeywords aspectJInterType aspectJAnnotations)

def clojureStates : List StateDef := textStates jvmTexts 5

def clojureLanguage : Language := .grammarOf 415 { layers := [clojureStates] }

def clojureScriptLanguage : Language := .grammarOf 416 { layers := [clojureStates] }

def fantomLanguage : Language := .ofText 417 jvmTexts 6

def goloLanguage : Language := .ofText 418 jvmTexts 7

def gosuTemplateLanguage : Language :=
  .listed 419 (Lexers.Scanner.through "GosuLexer" (fun _ => []) (some ["templateText"]))

def iokeLanguage : Language := .ofText 420 jvmTexts 10

def teaLangLanguage : Language := .catalogued 333

end Highlight.Languages
