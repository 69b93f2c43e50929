import Highlight.Languages.Texts
import Highlight.Lexer.Retype
import Highlight.Lexers.Interleaved
import Highlight.Lexers.KnownNames

/-! # Haskell languages -/

set_option autoImplicit false

namespace Highlight.Languages

open Lexers

def haskellTexts : Family := familyTexts 184 8

def cryptolExtraKeywords := textWords haskellTexts 1

def cryptolLanguage : Language :=
  .listed 395
    (namesScanner ({ className := "CryptolLexer", layers := [textStates haskellTexts 2] }) [among .name cryptolExtraKeywords .nameBuiltin])

def haskellStates : List StateDef := textStates haskellTexts 4

def haskellLanguage : Language := .grammarOf 396 { layers := [haskellStates] }

def hspecLanguage : Language := .grammarOf 397
    { layers := [textStates haskellTexts 5, haskellStates] }

def literateAgdaLanguage : Language := .listed 398 (literateLatex "AgdaLexer")

def literateCryptolLanguage : Language := .listed 399 (literate "CryptolLexer")

def literateHaskellLanguage : Language := .listed 400 (literate "HaskellLexer")

def literateIdrisLanguage : Language := .listed 401 (literate "IdrisLexer")

end Highlight.Languages
