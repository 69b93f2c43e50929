import Highlight.Languages.Texts

/-! # DotNet languages -/

set_option autoImplicit false

namespace Highlight.Languages

def dotNetTexts : Family := familyTexts 89 11

def booLanguage : Language := .ofText 354 dotNetTexts 0

def cSharpAspxLanguage : Language :=
  .listed 355 (.embedNamed "CSharpLexer" "GenericAspxLexer")

def cSharpStatesNone : List StateDef := textStates dotNetTexts 1

def cSharpStatesBasic : List StateDef := textStates dotNetTexts 2

def cSharpStatesFull : List StateDef := textStates dotNetTexts 3

def cSharpGrammarNone : Grammar :=
  { className := "CSharpLexer", flags := flagsOf "ms", layers := [cSharpStatesNone] }

def cSharpGrammarBasic : Grammar :=
  { className := "CSharpLexer", flags := flagsOf "ms", layers := [cSharpStatesBasic] }

def cSharpGrammarFull : Grammar :=
  { className := "CSharpLexer", flags := flagsOf "ms", layers := [cSharpStatesFull] }

def cSharpLanguage : Language :=
  .listed 356
    (.choice "unicodelevel" [("none", .ofGrammar cSharpGrammarNone), ("basic", .ofGrammar cSharpGrammarBasic), ("full", .ofGrammar cSharpGrammarFull)] (.ofGrammar cSharpGrammarBasic))

def nemerleStatesNone : List StateDef := textStates dotNetTexts 5

def nemerleStatesBasic : List StateDef := textStates dotNetTexts 6

def nemerleStatesFull : List StateDef := textStates dotNetTexts 7

def nemerleGrammarNone : Grammar :=
  { className := "NemerleLexer", flags := flagsOf "ms", layers := [nemerleStatesNone] }

def nemerleGrammarBasic : Grammar :=
  { className := "NemerleLexer", flags := flagsOf "ms", layers := [nemerleStatesBasic] }

def nemerleGrammarFull : Grammar :=
  { className := "NemerleLexer", flags := flagsOf "ms", layers := [nemerleStatesFull] }

def nemerleLanguage : Language :=
  .listed 357
    (.choice "unicodelevel" [("none", .ofGrammar nemerleGrammarNone), ("basic", .ofGrammar nemerleGrammarBasic), ("full", .ofGrammar nemerleGrammarFull)] (.ofGrammar nemerleGrammarBasic))

def vbNetAspxLanguage : Language :=
  .listed 358 (.embedNamed "VbNetLexer" "GenericAspxLexer")

def xppLanguage : Language := .ofText 359 dotNetTexts 9

def genericAspxLanguage : Language := .catalogued 327

end Highlight.Languages
