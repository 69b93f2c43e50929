/-!
# RTF text

RTF output writes the text of a token with a backslash before every backslash and brace
(`escape`), every character outside ASCII as the Unicode control word `\uN` in a group of its own,
a code point above `0xFFFF` as the two units of its UTF-16 surrogate pair, each in its group
(`escapeChar`), and every line feed as the control word `\par` (`escapeText`).
-/

set_option autoImplicit false

namespace Highlight.Rtf

/-- The UTF-16 surrogate pair of a code point above `0xFFFF`. -/
def surrogatePair (c : Nat) : Nat × Nat := (0xd7c0 + c / 1024, 0xdc00 + c % 1024)

/-- A backslash before every backslash and brace: the three replacements one after another, of
which the later two put in no character the ones before them replace. -/
def escape (s : List Char) : List Char :=
  s.flatMap fun c => if c = '\\' ∨ c = '\x7b' ∨ c = '\x7d' then ['\\', c] else [c]

/-- The group `{\uN}`. -/
def unicodeGroup (n : Nat) : List Char := '\x7b' :: '\\' :: 'u' :: (toString n).toList ++ ['\x7d']

/-- A character of escaped text: ASCII as it is, any other as the group of its code point, or
above `0xFFFF` the groups of its surrogate pair. -/
def escapeChar (c : Char) : List Char :=
  if c.toNat < 128 then [c]
  else if c.toNat < 65536 then unicodeGroup c.toNat
  else unicodeGroup (surrogatePair c.toNat).1 ++ unicodeGroup (surrogatePair c.toNat).2

/-- A line feed as the control word `\par`, any other character as it is. -/
def parChar (c : Char) : List Char := if c = '\n' then ['\\', 'p', 'a', 'r'] else [c]

/-- The text of a token as RTF output writes it; the empty text stays empty. -/
def escapeText (s : String) : String :=
  if s.isEmpty then "" else String.ofList (((escape s.toList).flatMap escapeChar).flatMap parChar)

end Highlight.Rtf
