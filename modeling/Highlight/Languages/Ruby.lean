import Highlight.Languages.Texts
import Highlight.Lexers.Heredoc
import Highlight.Lexers.Sessions

/-! # Ruby languages -/

set_option autoImplicit false

namespace Highlight.Languages

open Lexers

def rubyTexts : Family := familyTexts 379 3

def crystalLanguage : Language := .grammarOf 473
    { flags := flagsOf "ms",
      layers := [rubyTexts.statesWith 0 [heredocStart ["<<-"]]], extended := true }

def fancyLanguage : Language := .ofText 474 rubyTexts 1

def rubyConsoleLanguage : Language := .listed 475 (rubyConsole)

def rubyLanguage : Language := .grammarOf 476
    { flags := flagsOf "ms",
      layers := [rubyTexts.statesWith 2 [heredocStart ["<<-", "<<~"], interpolatedString .stringRegex "interpolated-regex", interpolatedString .stringOther "interpolated-string"]], extended := true }

end Highlight.Languages
