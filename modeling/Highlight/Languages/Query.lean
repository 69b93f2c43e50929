import Highlight.Languages.Texts
import Highlight.Lexers.Nested
import Highlight.Lexers.Sessions

/-! # Query languages -/

set_option autoImplicit false

namespace Highlight.Languages

open Lexers

def queryTexts : Family := familyTexts 363 16

def daxLanguage : Language := .ofText 467 queryTexts 1

def plPgsqlLanguage : Language := .grammarOf 468
    { flags := flagsOf "i",
      layers := [queryTexts.statesWith 6 [dollarString]] }

def postgresConsoleLanguage : Language := .listed 469 (psqlSession)

def postgresLanguage : Language := .grammarOf 470
    { flags := flagsOf "i",
      layers := [queryTexts.statesWith 8 [dollarString]] }

def sqliteConsoleLanguage : Language := .listed 471 (sqliteConsole)

def psqlRegexLanguage : Language := .grammarOf 472
    { flags := flagsOf "i",
      layers := [queryTexts.statesWith 15 [dollarString]] }

end Highlight.Languages
