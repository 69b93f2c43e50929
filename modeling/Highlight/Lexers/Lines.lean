import Highlight.Language

/-!
# Lines and patterns for hand-written scanners

Scanners written as functions read their text line by line and test lines against small
patterns. `newlineLines` gives the lines that end with a line break, with their offsets (a
last line without a break is not one of them); `splitLinesKeep` splits at every character
that ends a line, keeping it. Patterns are read once with the pattern reader of this
library; `prefixMatch?` matches at the start of a text, `search?` anywhere, and `findAll`
gives the matches one after another the way a left-to-right scan finds them.
-/

set_option autoImplicit false

namespace Highlight.Lexers

/-- The lines of `cs` from offset `start` that end with a line break, with their offsets;
`cur` is the line begun (last character first). -/
def newlineLinesFrom : List Char → Nat → Nat → List Char → List (Nat × String)
  | [], _, _, _ => []
  | c :: rest, start, i, cur =>
    if c == '\n' then (start, String.ofList (c :: cur).reverse) :: newlineLinesFrom rest (i + 1) (i + 1) []
    else newlineLinesFrom rest start (i + 1) (c :: cur)

/-- The lines of a text that end with a line break, with their offsets. -/
def newlineLines (s : String) : List (Nat × String) := newlineLinesFrom s.toList 0 0 []

/-- Whether a character ends a line when a text is split into lines. -/
def endsLine (c : Char) : Bool :=
  c == '\n' || c == '\r' || c == '\x0b' || c == '\x0c' || c == '\x1c' || c == '\x1d' ||
    c == '\x1e' || c == '\x85' || c == ' ' || c == ' '

/-- The lines of `cs`, each with the characters that end it; `cur` is the line begun (last
character first). A carriage return and a line feed together end one line. -/
def splitLinesFrom : List Char → List Char → List String
  | [], cur => if cur.isEmpty then [] else [String.ofList cur.reverse]
  | '\r' :: '\n' :: rest, cur => String.ofList ('\n' :: '\r' :: cur).reverse :: splitLinesFrom rest []
  | c :: rest, cur =>
    if endsLine c then String.ofList (c :: cur).reverse :: splitLinesFrom rest []
    else splitLinesFrom rest (c :: cur)

/-- The lines of a text, each with the characters that end it. -/
def splitLinesKeep (s : String) : List String := splitLinesFrom s.toList []

/-- A token of a kind at an offset. -/
def piece (start : Nat) (k : TokenKind) (s : String) : Token := ⟨start, k, s⟩

/-- A pattern that matches nothing. -/
def nothing : Pattern.Compiled := ⟨.set ⟨false, []⟩ false, 0, []⟩

/-- A pattern read with some flags; a pattern that cannot be read matches nothing. -/
def pattern (source : String) (flags : Pattern.Flags := {}) : Pattern.Compiled :=
  match Pattern.read source flags with
  | .ok c => c
  | .error _ => nothing

/-- The match of a pattern at the start of a text. -/
def prefixMatch? (p : Pattern.Compiled) (s : String) : Option Pattern.Found :=
  let cs := s.toList.toArray
  p.matchAt cs 0 cs.size

/-- The characters of a text from `a` to `b`. -/
def slice (s : String) (a b : Nat) : String := String.ofList ((s.toList.drop a).take (b - a))

/-- The text of group `i` of a match in a text. -/
def groupText (s : String) (m : Pattern.Found) (i : Nat) : Option String :=
  (m.span? i).map fun (a, b) => slice s a b

/-- The first match of a pattern in `cs` at or after `pos`. -/
def searchFrom (p : Pattern.Compiled) (cs : Array Char) (pos : Nat) : Option Pattern.Found :=
  (List.range (cs.size + 1 - pos)).findSome? fun i => p.matchAt cs (pos + i) cs.size

/-- The first match of a pattern anywhere in a text. -/
def search? (p : Pattern.Compiled) (s : String) : Option Pattern.Found :=
  searchFrom p s.toList.toArray 0

/-- The matches of a pattern in `cs` from `pos` on, one after another: each scan goes on
where the match before it ended, one further after an empty match. -/
def findAllFrom (p : Pattern.Compiled) (cs : Array Char) : Nat → Nat → List Pattern.Found
  | 0, _ => []
  | fuel + 1, pos =>
    if pos > cs.size then []
    else match searchFrom p cs pos with
      | some m => m :: findAllFrom p cs fuel (if m.stop == m.start then m.stop + 1 else m.stop)
      | none => []

/-- The matches of a pattern in a text, one after another. -/
def findAll (p : Pattern.Compiled) (s : String) : List Pattern.Found :=
  let cs := s.toList.toArray
  findAllFrom p cs (cs.size + 1) 0

/-- Whether a character is a blank the way text methods take it. -/
def isSpace (c : Char) : Bool := c.isWhitespace || c == '\x1c' || c == '\x1d' || c == '\x1e' ||
  c == '\x1f' || c == '\x85' || c == '\xa0' || c == ' ' || (' ' ≤ c && c ≤ ' ') ||
  c == ' ' || c == ' ' || c == ' ' || c == ' ' || c == '　'

/-- A text without the blanks at its ends. -/
def strip (s : String) : String :=
  String.ofList ((s.toList.dropWhile isSpace).reverse.dropWhile isSpace).reverse

/-- A text without the blanks at its end. -/
def stripEnd (s : String) : String :=
  String.ofList (s.toList.reverse.dropWhile isSpace).reverse

/-- A text without the blanks at its start. -/
def stripStart (s : String) : String := String.ofList (s.toList.dropWhile isSpace)

/-- The first `n` characters of a text. -/
def takeChars (s : String) (n : Nat) : String := String.ofList (s.toList.take n)

/-- A text without its first `n` characters. -/
def dropChars (s : String) (n : Nat) : String := String.ofList (s.toList.drop n)

theorem newlineLines_ends (s : String) :
    ∀ l ∈ newlineLines s, l.2.toList.getLast? = some '\n' := by
  unfold newlineLines
  suffices h : ∀ (cs : List Char) (start i : Nat) (cur : List Char),
      ∀ l ∈ newlineLinesFrom cs start i cur, l.2.toList.getLast? = some '\n' from h _ _ _ _
  intro cs
  induction cs with
  | nil => intro _ _ _ l hl; simp [newlineLinesFrom] at hl
  | cons c rest ih =>
    intro start i cur l hl
    unfold newlineLinesFrom at hl
    split at hl
    · rename_i hc
      simp only [List.mem_cons] at hl
      rcases hl with rfl | hl
      · simp [beq_iff_eq.mp hc]
      · exact ih _ _ _ l hl
    · exact ih _ _ _ l hl

end Highlight.Lexers
