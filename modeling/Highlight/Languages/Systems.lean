import Highlight.Languages.Texts
import Highlight.Lexer.Retype
import Highlight.Lexers.KnownNames

/-! # Systems languages -/

set_option autoImplicit false

namespace Highlight.Languages

open Lexers

def systemsTexts : Family := familyTexts 434 52

/-- Types of the C standard library. -/
def cStdlibTypes := textWords systemsTexts 0

/-- Types that C99 adds. -/
def cC99Types := textWords systemsTexts 1

/-- Atomic types of C11. -/
def cC11Types := textWords systemsTexts 2

/-- Types of the Linux kernel. -/
def cLinuxTypes := textWords systemsTexts 3

def cFamilyStates : List StateDef := textStates systemsTexts 4

def cFamilyLanguage : Language := .grammarOf 494 { layers := [cFamilyStates] }

def cppStates : List StateDef := textStates systemsTexts 5

def cppLanguage : Language :=
  .listed 495
    (cFamilyScanner ({ className := "CppLexer", layers := [cppStates, cFamilyStates] }) ⟨cStdlibTypes, cC99Types, cC11Types, cLinuxTypes⟩)

def arduinoStructure := textWords systemsTexts 6

def arduinoOperators := textWords systemsTexts 7

def arduinoVariables := textWords systemsTexts 8

def arduinoSuppressHighlight := textWords systemsTexts 9

def arduinoFunctions := textWords systemsTexts 10

def arduinoLanguage : Language :=
  .listed 496
    (arduinoScanner ({ className := "ArduinoLexer", layers := [cppStates, cFamilyStates] }) ⟨cStdlibTypes, cC99Types, cC11Types, cLinuxTypes⟩ arduinoStructure arduinoOperators arduinoVariables arduinoSuppressHighlight arduinoFunctions)

def cStates : List StateDef := textStates systemsTexts 11

def cLanguage : Language :=
  .listed 497
    (cFamilyScanner ({ className := "CLexer", layers := [cStates, cFamilyStates] }) ⟨cStdlibTypes, cC99Types, cC11Types, cLinuxTypes⟩)

def charmciLanguage : Language :=
  .listed 498
    (cFamilyScanner ({ className := "CharmciLexer", layers := [textStates systemsTexts 14, cppStates, cFamilyStates] }) ⟨cStdlibTypes, cC99Types, cC11Types, cLinuxTypes⟩)

def crocStates : List StateDef := textStates systemsTexts 16

def crocLanguage : Language := .grammarOf 499 { layers := [crocStates] }

def cudaVariableQualifiers := textWords systemsTexts 17

def cudaVectorTypes := textWords systemsTexts 18

def cudaVariables := textWords systemsTexts 19

def cudaExecutionConfs := textWords systemsTexts 20

def cudaFunctionQualifiers := textWords systemsTexts 21

def cudaFunctions := textWords systemsTexts 22

def cudaLanguage : Language :=
  .listed 500
    (cudaScanner ({ className := "CudaLexer", layers := [cStates, cFamilyStates] }) ⟨cStdlibTypes, cC99Types, cC11Types, cLinuxTypes⟩ cudaVariableQualifiers cudaVectorTypes cudaVariables cudaExecutionConfs cudaFunctionQualifiers cudaFunctions)

def dLanguage : Language := .ofText 501 systemsTexts 23

def ecLanguage : Language :=
  .listed 502
    (cFamilyScanner ({ className := "ECLexer", layers := [textStates systemsTexts 24, cStates, cFamilyStates] }) ⟨cStdlibTypes, cC99Types, cC11Types, cLinuxTypes⟩)

def objectiveCppBaseStates : List StateDef := textStates systemsTexts 29

def objectiveCppBaseLanguage : Language := .grammarOf 503
    { layers := [objectiveCppBaseStates, cppStates, cFamilyStates] }

def cocoaInterfaces := textWords systemsTexts 30

def cocoaProtocols := textWords systemsTexts 31

def cocoaPrimitives := textWords systemsTexts 32

def objectiveCppLanguage : Language :=
  .listed 504
    (objectiveCScanner ({ className := "ObjectiveCppLexer", layers := [objectiveCppBaseStates, cppStates, cFamilyStates] }) ⟨cStdlibTypes, cC99Types, cC11Types, cLinuxTypes⟩ [cocoaInterfaces, cocoaProtocols, cocoaPrimitives])

def logosLanguage : Language :=
  .listed 505
    (objectiveCScanner ({ className := "LogosLexer", layers := [textStates systemsTexts 33, objectiveCppBaseStates, cppStates, cFamilyStates] }) ⟨cStdlibTypes, cC99Types, cC11Types, cLinuxTypes⟩ [cocoaInterfaces, cocoaProtocols, cocoaPrimitives])

def miniDLanguage : Language := .grammarOf 506 { layers := [crocStates] }

def mqlLanguage : Language :=
  .listed 507
    (cFamilyScanner ({ className := "MqlLexer", layers := [textStates systemsTexts 35, cppStates, cFamilyStates] }) ⟨cStdlibTypes, cC99Types, cC11Types, cLinuxTypes⟩)

def nesCLanguage : Language :=
  .listed 508
    (cFamilyScanner ({ className := "NesCLexer", layers := [textStates systemsTexts 36, cStates, cFamilyStates] }) ⟨cStdlibTypes, cC99Types, cC11Types, cLinuxTypes⟩)

def objectiveCBaseStates : List StateDef := textStates systemsTexts 39

def objectiveCBaseLanguage : Language := .grammarOf 509
    { layers := [objectiveCBaseStates, cStates, cFamilyStates] }

def objectiveCLanguage : Language :=
  .listed 510
    (objectiveCScanner ({ className := "ObjectiveCLexer", layers := [objectiveCBaseStates, cStates, cFamilyStates] }) ⟨cStdlibTypes, cC99Types, cC11Types, cLinuxTypes⟩ [cocoaInterfaces, cocoaProtocols, cocoaPrimitives])

def omgIdlLanguage : Language :=
  .listed 511
    (cFamilyScanner ({ className := "OmgIdlLexer", layers := [textStates systemsTexts 40, cStates, cFamilyStates] }) ⟨cStdlibTypes, cC99Types, cC11Types, cLinuxTypes⟩)

def pikeLanguage : Language :=
  .listed 512
    (cFamilyScanner ({ className := "PikeLexer", layers := [textStates systemsTexts 42, cppStates, cFamilyStates] }) ⟨cStdlibTypes, cC99Types, cC11Types, cLinuxTypes⟩)

def promelaLanguage : Language :=
  .listed 513
    (cFamilyScanner ({ className := "PromelaLexer", layers := [textStates systemsTexts 44, cStates, cFamilyStates] }) ⟨cStdlibTypes, cC99Types, cC11Types, cLinuxTypes⟩)

def swiftLanguage : Language :=
  .listed 514
    (namesScanner ({ className := "SwiftLexer", layers := [textStates systemsTexts 47] }) [⟨[.name, .nameClass], cocoaInterfaces, .nameBuiltinPseudo, false⟩, ⟨[.name, .nameClass], cocoaProtocols, .nameBuiltinPseudo, false⟩, ⟨[.name, .nameClass], cocoaPrimitives, .nameBuiltinPseudo, false⟩])

def swigLanguage : Language :=
  .listed 515
    (cFamilyScanner ({ className := "SwigLexer", layers := [textStates systemsTexts 48, cppStates, cFamilyStates] }) ⟨cStdlibTypes, cC99Types, cC11Types, cLinuxTypes⟩)

end Highlight.Languages
