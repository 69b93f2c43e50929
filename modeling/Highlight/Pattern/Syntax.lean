/-!
# Patterns

The abstract syntax of the regular expressions that languages are described with. The dialect
is the common backtracking one: ordered alternation, greedy and lazy repetition, numbered
groups, back references, look-around and conditionals on a group.

Flags are resolved while reading, so a node carries what it needs: a literal knows whether it
ignores case, a dot whether it matches a newline, an anchor whether it looks at lines or at
the whole text.
-/

set_option autoImplicit false

namespace Highlight.Pattern

/-- The character categories that have escapes of their own. -/
inductive Category
  /-- Decimal digits, `\d`. -/
  | digit
  /-- Word characters, `\w`. -/
  | word
  /-- Blank characters, `\s`. -/
  | blank
  deriving BEq, DecidableEq, Repr, Inhabited

/-- One member of a bracketed class. -/
inductive ClassItem
  /-- One code point. -/
  | single (c : Nat)
  /-- All code points from `lo` to `hi`. -/
  | range (lo hi : Nat)
  /-- A category, or every character outside it when `negated`. -/
  | category (cat : Category) (negated : Bool)
  deriving BEq, Repr, Inhabited

/-- A set of characters: its members, or everything but its members when `negated`. -/
structure CharClass where
  /-- Whether the class holds the characters that are not members. -/
  negated : Bool
  /-- The members. -/
  items : List ClassItem
  deriving BEq, Repr, Inhabited

/-- Zero-width tests of a position. -/
inductive Anchor
  /-- The start of the text (`^` without multi-line, `\A`). -/
  | textStart
  /-- The start of a line (`^` in multi-line mode). -/
  | lineStart
  /-- The end of the text (`\Z`). -/
  | textEnd
  /-- The end of the text, or before a newline that ends it (`$`). -/
  | textEndOrLastNewline
  /-- The end of a line (`$` in multi-line mode). -/
  | lineEnd
  /-- A word boundary, `\b`. -/
  | wordBoundary
  /-- A position inside a word or between two non-word characters, `\B`. -/
  | notWordBoundary
  deriving BEq, DecidableEq, Repr, Inhabited

/-- How a repetition chooses its count. -/
inductive Greed
  /-- As many as possible, then fewer. -/
  | greedy
  /-- As few as possible, then more. -/
  | lazy
  /-- As many as possible, never fewer. -/
  | possessive
  deriving BEq, DecidableEq, Repr, Inhabited

/-- A pattern. -/
inductive Node
  /-- Matches the empty text. -/
  | empty
  /-- One character; with `fold` any character with the same lower-case form. -/
  | char (c : Char) (fold : Bool)
  /-- One character of a class; with `fold` compared by lower-case form. -/
  | set (cls : CharClass) (fold : Bool)
  /-- Any character, a newline only when `dotAll`. -/
  | any (dotAll : Bool)
  /-- The items one after another. -/
  | seq (items : List Node)
  /-- The first branch that lets the whole pattern match. -/
  | alt (branches : List Node)
  /-- A numbered group that records the span it matched. -/
  | group (index : Nat) (body : Node)
  /-- Between `min` and `max` repetitions of the body (`none`: no upper bound). -/
  | many (min : Nat) (max : Option Nat) (greed : Greed) (body : Node)
  /-- The text a group last matched, again. -/
  | backref (index : Nat) (fold : Bool)
  /-- Look-ahead, or look-behind over `width` characters when `behind`. -/
  | look (behind : Bool) (negated : Bool) (width : Nat) (body : Node)
  /-- The first way the body matches, never revisited. -/
  | atomic (body : Node)
  /-- `yes` if the group has matched, `no` otherwise. -/
  | cond (index : Nat) (yes no : Node)
  /-- A test of the position. -/
  | anchor (a : Anchor)
  deriving Repr, Inhabited

/-- A read pattern: the tree and how many groups it numbers. -/
structure Compiled where
  /-- The pattern tree. -/
  root : Node
  /-- The number of capturing groups. -/
  groups : Nat
  /-- Group names and their numbers. -/
  names : List (String × Nat)
  deriving Repr, Inhabited

end Highlight.Pattern
