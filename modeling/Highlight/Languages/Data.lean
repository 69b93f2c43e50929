import Highlight.Languages.Texts
import Highlight.Lexers.Json
import Highlight.Lexers.Yaml

/-! # Data languages -/

set_option autoImplicit false

namespace Highlight.Languages

open Lexers

def dataTexts : Family := familyTexts 76 13

def asn1Language : Language := .ofText 344 dataTexts 0

def bareLanguage : Language := .ofText 345 dataTexts 1

def cddlLanguage : Language := .ofText 346 dataTexts 3

def jsonLanguage : Language := .listed 347 (jsonScanner)

def jsonBareObjectLanguage : Language := .listed 348 (jsonScanner)

def jsonLdLanguage : Language := .listed 349 (jsonLdScanner)

def shExCLanguage : Language := .ofText 350 dataTexts 5

def usdLanguage : Language := .ofText 351 dataTexts 10

def yamlLanguage : Language :=
  .listed 352 (.ofGrammar yamlGrammar)

def yangLanguage : Language := .ofText 353 dataTexts 12

end Highlight.Languages
