import Highlight.Languages.Texts

/-! # Grammars languages -/

set_option autoImplicit false

namespace Highlight.Languages

def antlrActionScriptLanguage : Language :=
  .listed 373 (.embedNamed "ActionScriptLexer" "AntlrLexer")

def antlrCSharpLanguage : Language :=
  .listed 374 (.embedNamed "CSharpLexer" "AntlrLexer")

def antlrCppLanguage : Language := .listed 375 (.embedNamed "CppLexer" "AntlrLexer")

def antlrJavaLanguage : Language :=
  .listed 376 (.embedNamed "JavaLexer" "AntlrLexer")

def antlrObjectiveCLanguage : Language :=
  .listed 377 (.embedNamed "ObjectiveCLexer" "AntlrLexer")

def antlrPerlLanguage : Language :=
  .listed 378 (.embedNamed "PerlLexer" "AntlrLexer")

def antlrPythonLanguage : Language :=
  .listed 379 (.embedNamed "PythonLexer" "AntlrLexer")

def antlrRubyLanguage : Language :=
  .listed 380 (.embedNamed "RubyLexer" "AntlrLexer")

def ragelCLanguage : Language :=
  .listed 381 (.embedNamed "CLexer" "RagelEmbeddedLexer")

def ragelCppLanguage : Language :=
  .listed 382 (.embedNamed "CppLexer" "RagelEmbeddedLexer")

def ragelDLanguage : Language :=
  .listed 383 (.embedNamed "DLexer" "RagelEmbeddedLexer")

def ragelJavaLanguage : Language :=
  .listed 384 (.embedNamed "JavaLexer" "RagelEmbeddedLexer")

def ragelObjectiveCLanguage : Language :=
  .listed 385 (.embedNamed "ObjectiveCLexer" "RagelEmbeddedLexer")

def ragelRubyLanguage : Language :=
  .listed 386 (.embedNamed "RubyLexer" "RagelEmbeddedLexer")

def treetopLanguage : Language :=
  .listed 387 (.embedNamed "RubyLexer" "TreetopBaseLexer")

def treetopBaseLanguage : Language := .catalogued 332

end Highlight.Languages
