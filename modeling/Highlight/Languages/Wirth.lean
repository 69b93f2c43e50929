import Highlight.Languages.Texts
import Highlight.Lexer.Retype
import Highlight.Lexers.Interleaved
import Highlight.Lexers.Modula2
import Highlight.Lexers.Pascal

/-! # Wirth languages -/

set_option autoImplicit false

namespace Highlight.Languages

open Lexers

def wirthTexts : Family := familyTexts 563 20

def pascalTurbo := textWords wirthTexts 3

/-- The keywords that Delphi adds. -/
def pascalDelphi := textWords wirthTexts 4

/-- The keywords that Free Pascal adds. -/
def pascalFree := textWords wirthTexts 5

/-- The keywords that end the heading of a routine. -/
def pascalBlockKeywords := textWords wirthTexts 6

/-- The modifiers of routines. -/
def pascalModifiers := textWords wirthTexts 7

def pascalDirectives := textWords wirthTexts 8

def pascalTypes := textWords wirthTexts 9

/-- The names of the unit System. -/
def pascalSystem := textWords wirthTexts 10

/-- The names of the unit SysUtils. -/
def pascalSysUtils := textWords wirthTexts 11

/-- The names of the unit Classes. -/
def pascalClasses := textWords wirthTexts 12

/-- The names of the unit Math. -/
def pascalMath := textWords wirthTexts 13

/-- The registers of the assembler. -/
def pascalRegisters := textWords wirthTexts 14

/-- The instructions of the assembler. -/
def pascalInstructions := textWords wirthTexts 15

def portugolKeywords := textWords wirthTexts 16

def portugolTypes := textWords wirthTexts 17

def delphiLanguage : Language :=
  .listed 596
    (pascalScanner ⟨pascalTurbo, pascalDelphi, pascalFree, pascalBlockKeywords, pascalModifiers, pascalDirectives, pascalTypes, [("System", pascalSystem), ("SysUtils", pascalSysUtils), ("Classes", pascalClasses), ("Math", pascalMath)], pascalRegisters, pascalInstructions, portugolKeywords, portugolTypes⟩)

/-- The words of Modula-2, each with the name of a list it is in: its role and the dialect or extension it comes from. -/
def modula2WordLists : Array (String × String) :=
  Notation.pairs (wirthTexts.getD 18 "")

def modula2Language : Language :=
  .listed 597
    (modula2Scanner ({ className := "Modula2Lexer", flags := flagsOf "ms", layers := [textStates wirthTexts 19] }) (wordTags modula2WordLists))

def portugolLanguage : Language :=
  .listed 598 (Scanner.through "DelphiLexer" (fun o => ("portugol", .bool true) :: o))

end Highlight.Languages
