import Highlight.Languages.Texts
import Highlight.Lexer.Retype
import Highlight.Lexers.Actions
import Highlight.Lexers.KnownNames
import Highlight.Lexers.Sessions
import Highlight.Languages.Systems

/-! # Numeric languages -/

set_option autoImplicit false

namespace Highlight.Languages

open Lexers

def numericTexts : Family := familyTexts 305 19

def fortranFixedLanguage : Language := .grammarOf 448
    { flags := flagsOf "i",
      layers := [numericTexts.statesWith 2 [fortranLine]] }

def freeFemOperators := textWords numericTexts 4

def freeFemTypes := textWords numericTexts 5

def freeFemFespaces := textWords numericTexts 6

def freeFemPreprocessor := textWords numericTexts 7

def freeFemKeywords := textWords numericTexts 8

def freeFemFunctions := textWords numericTexts 9

def freeFemParameters := textWords numericTexts 10

def freeFemSuppressHighlight := textWords numericTexts 11

def freeFemLanguage : Language :=
  .listed 449
    (freeFemScanner ({ className := "FreeFemLexer", layers := [cppStates, cFamilyStates] }) ⟨cStdlibTypes, cC99Types, cC11Types, cLinuxTypes⟩ freeFemOperators freeFemTypes freeFemFespaces freeFemPreprocessor freeFemKeywords freeFemFunctions freeFemParameters freeFemSuppressHighlight)

def jLanguage : Language := .ofText 450 numericTexts 14

def juliaConsoleLanguage : Language := .listed 451 (juliaConsole)

def kStates : List StateDef := textStates numericTexts 16

def kLanguage : Language := .grammarOf 452 { layers := [kStates] }

def qLanguage : Language := .grammarOf 453
    { layers := [textStates numericTexts 18, kStates] }

end Highlight.Languages
