import Highlight.Format.Literal
import Highlight.Format.LiteralEval
import Highlight.Lexers.Lines
import Highlight.Chars.Blank
import Highlight.Chars.Cased

/-!
# Reading the raw token format

The language of raw token data reads back what the raw token format writes. Each line that
ends with a line break stands for one token: the blanks at its end are dropped, it is cut at
its first tab into a dotted name and a literal, the name is read as a kind (`readKind`: its
first part is skipped, and each part after it must start with an upper-case character) and
the literal as a text (`Literal.read`). A line that cannot be read so is an error token that
holds the whole line, line break included. The offsets count the characters of the tokens
before, not of the lines.

Given a text to lex (`tokensOfText`), the language drops the line breaks at both of its ends
and puts one back at the end, and reads it so; it neither cleans the text as other languages
do nor lets it be filtered. Lexed from an offset (`tokens`), it reads the text as it is, and
a last line without a line break stands for nothing.

Compressed input is not read here.
-/

set_option autoImplicit false

namespace Highlight.RawTokens

/-- Whether a part of a dotted name starts with an upper-case character. -/
def startsUpper : List Char → Bool
  | c :: _ => Chars.isUpper c
  | [] => false

/-- The kind that a part of a dotted name reaches from `k` (`TokenKind.attr`), if the part
starts with an upper-case character. -/
def readPart (k : TokenKind) (part : List Char) : Option TokenKind :=
  if startsUpper part then some (k.attr (String.ofList part)) else none

/-- The kind a dotted name stands for: its first part is skipped, and each part after it
names a kind from the one before. -/
def readKind (name : List Char) : Option TokenKind :=
  (name.splitOn '.').tail.foldlM readPart TokenKind.root

/-- A line without the blanks that end it. -/
def trimEnd (l : List Char) : List Char := (l.reverse.dropWhile Chars.isBlank).reverse

/-- A line cut at its first tab, if it has one. -/
def cutAtTab (l : List Char) : Option (List Char × List Char) :=
  match l.span (· ≠ '\t') with
  | (name, _ :: value) => some (name, value)
  | (_, []) => none

/-- The kind and the text that a line stands for, if it is well formed. -/
def readLine (l : List Char) : Option (TokenKind × List Char) := do
  let (name, value) ← cutAtTab (trimEnd l)
  let k ← readKind name
  let v ← Literal.read value
  pure (k, v)

/-- The tokens of lines, the first at offset `n`. -/
def tokensFrom : Nat → List String → List Token
  | _, [] => []
  | n, l :: ls =>
    let (k, v) := (readLine l.toList).getD (TokenKind.error, l.toList)
    ⟨n, k, String.ofList v⟩ :: tokensFrom (n + v.length) ls

/-- The tokens of a text read as it is. -/
def tokens (text : String) : List Token := tokensFrom 0 ((Lexers.newlineLines text).map (·.2))

/-- The text the raw token language reads when it is given `text` to lex: without the line
breaks at either end, and with one after it. -/
def framed (text : String) : String :=
  String.ofList (((text.toList.dropWhile (· = '\n')).reverse.dropWhile (· = '\n')).reverse ++ ['\n'])

/-- The tokens of a text given to the raw token language to lex. -/
def tokensOfText (text : String) : List Token := tokens (framed text)

/-- The type of the value that reading a line fails to hash, if reading the line raises: a
line cut at a tab whose name reads as a kind and whose literal's evaluation stops at a value
that cannot be hashed. -/
def lineRaises? (l : List Char) : Option String := do
  let (name, value) ← cutAtTab (trimEnd l)
  let _ ← readKind name
  Literal.hashError? value

/-- The lines of a text read as it is. -/
def linesOf (text : String) : List String := (Lexers.newlineLines text).map (·.2)

/-- The tokens of lines, the first at offset `n`, read one line after another as the language
reads them: it catches a malformed line and makes it an error token, but a line whose literal's
evaluation stops at a value that cannot be hashed raises a `TypeError`, which nothing
catches, and the reading ends there. -/
def tokensChecked (n : Nat) : List String → Except (String × String) (List Token)
  | [] => .ok []
  | l :: ls =>
    match lineRaises? l.toList with
    | some t => .error ("TypeError", "unhashable type: '" ++ t ++ "'")
    | none =>
      let (k, v) := (readLine l.toList).getD (TokenKind.error, l.toList)
      (tokensChecked (n + v.length) ls).map (⟨n, k, String.ofList v⟩ :: ·)

/-- The tokens of a text given to the raw token language to lex, or the error it raises. -/
def lexText (text : String) : Except (String × String) (List Token) :=
  tokensChecked 0 (linesOf (framed text))

end Highlight.RawTokens
