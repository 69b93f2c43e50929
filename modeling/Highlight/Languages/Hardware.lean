import Highlight.Languages.Texts
import Highlight.Lexer.Retype
import Highlight.Lexers.Actions

/-! # Hardware languages -/

set_option autoImplicit false

namespace Highlight.Languages

def hardwareTexts : Family := familyTexts 162 22

def cObjdumpLanguage : Language := .listed 389 (.embedNamed "CLexer" "ObjdumpLexer")

def cppObjdumpLanguage : Language :=
  .listed 390 (.embedNamed "CppLexer" "ObjdumpLexer")

def dObjdumpLanguage : Language := .listed 391 (.embedNamed "DLexer" "ObjdumpLexer")

def dasm16Registers := textWords hardwareTexts 2

def dasm16Language : Language := .grammarOf 392
    { layers := [hardwareTexts.statesWith 3 [Lexers.dasm16Identifier dasm16Registers]] }

def objdumpStates : List StateDef := textStates hardwareTexts 12

def objdumpLanguage : Language := .grammarOf 393 { layers := [objdumpStates] }

def nasmObjdumpLanguage : Language := .grammarOf 394
    { layers := [textStates hardwareTexts 13, objdumpStates] }

end Highlight.Languages
