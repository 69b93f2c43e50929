import Mathlib.Data.Prod.Lex
import Mathlib.Data.String.Basic
import Mathlib.Algebra.Order.Ring.Rat
import Highlight.Glob
import Highlight.Options

/-!
# Guessing a lexer from a file name

A lexer class claims file names by glob patterns: its own (`filenames`) and those of files that
may or may not be in its language (`aliasFilenames`, such as `*.html` for a template language).
The guess by file name (`guessForFilename`) takes the classes with a pattern that matches the
base name of the path. A single one is the answer. Of several, each scores the text in the
order in which they are tried; the first that is sure of it (a score of exactly 1) is the
answer at once, and when none is, the answer is the greatest under the key of score, primary
mark, priority and class name (`LexerClass.key`). A class's own patterns set its primary mark
and its alias patterns, tried after them, clear it.

The candidates are tried in the order in which a set holds them, which the language leaves
open: the guess takes that order as a parameter.
-/

set_option autoImplicit false

namespace Highlight.Guessing

/-- A lexer class as the guess by file name reads it. -/
structure LexerClass where
  /-- The class name, unique among classes. -/
  name : String
  /-- Patterns of the names of files in its language. -/
  filenames : List String
  /-- Patterns of the names of files that may be in its language. -/
  aliasFilenames : List String
  /-- Its priority, which orders classes of the same score. -/
  priority : ℚ := 0
  /-- How sure it is that a text is in its language, from 0 to 1. -/
  analyse : String → ℚ

namespace LexerClass

variable (L : LexerClass) (fn text : String)

/-- One of the class's own patterns matches the file name. -/
def ownMatch : Bool := L.filenames.any (Glob.matchName · fn)

/-- One of the class's alias patterns matches the file name. -/
def aliasMatch : Bool := L.aliasFilenames.any (Glob.matchName · fn)

/-- The primary mark of a class that a pattern matches: a match of one of its own patterns
sets it, and a match of one of its alias patterns, tried after them, clears it. -/
def primary : Bool := !L.aliasMatch fn

/-- The key the candidates are sorted by: score, primary mark, priority and class name. -/
def key : ℚ ×ₗ Bool ×ₗ ℚ ×ₗ String :=
  toLex (L.analyse text, toLex (L.primary fn, toLex (L.priority, L.name)))

end LexerClass

/-- The base name of a path: what follows its last `/`. -/
def baseName (path : String) : String :=
  String.ofList (path.toList.reverse.takeWhile (· != '/')).reverse

end Highlight.Guessing
