import Highlight.Languages.Texts
import Highlight.Lexer.Retype
import Highlight.Lexers.Actions

/-! # Perl languages -/

set_option autoImplicit false

namespace Highlight.Languages

open Lexers

def perlTexts : Family := familyTexts 339 3

/-- The brackets of Perl 6 and the brackets that close them. -/
def perl6BracketPairs : Array (String × String) :=
  Notation.pairs (perlTexts.getD 0 "")

def perl6Language : Language := .grammarOf 457
    { flags := flagsOf "ms",
      layers := [perlTexts.statesWith 1 [perl6Brackets perl6BracketPairs TokenKind.commentMultiline, perl6Brackets perl6BracketPairs TokenKind.string, perl6Brackets perl6BracketPairs TokenKind.stringRegex, perl6OpenBrace, perl6CloseBrace, perl6Brackets perl6BracketPairs TokenKind.name, perl6EmbeddedCode]], extended := true }

end Highlight.Languages
