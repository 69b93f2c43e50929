import Highlight.Languages.Texts
import Highlight.Lexer.Retype
import Highlight.Lexers.Interleaved
import Highlight.Lexers.KnownNames
import Highlight.Lexers.Sessions
import Highlight.Lexers.RawTokens

/-! # Shells languages -/

set_option autoImplicit false

namespace Highlight.Languages

open Lexers

def shellsTexts : Family := familyTexts 419 9

def bashStates : List StateDef := textStates shellsTexts 0

def bashLanguage : Language := .grammarOf 486 { layers := [bashStates] }

def bashSessionLanguage : Language := .listed 487 (bashSession)

def msdosSessionLanguage : Language := .listed 488 (batchSession)

def outputLanguage : Language := .listed 489 (Scanner.whole .genericOutput)

def powerShellSessionLanguage : Language := .listed 490 (powerShellSession)

def rawTokenLanguage : Language :=
  { Language.described "RawTokenLexer" "" "application/x-pygments-tokens"
      (.raising fun text => RawTokens.tokensChecked 0 (RawTokens.linesOf (String.ofList text.toList))) with
    ownTokens := some RawTokens.lexText }

def slurmCommands := textWords shellsTexts 6

def slurmBashLanguage : Language :=
  .listed 491
    (slurmScanner ({ className := "SlurmBashLexer", layers := [bashStates] }) slurmCommands)

def tcshSessionLanguage : Language := .listed 492 (tcshSession)

def textLanguage : Language := .listed 493 (Scanner.whole .text)

end Highlight.Languages
