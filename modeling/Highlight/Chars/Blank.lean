import Highlight.Chars.Ranges

/-!
# Blank characters

The characters that a pattern's `\s` matches and that stripping removes: the Unicode 14
white space characters together with the four information separators `U+001C` to `U+001F`,
which are blank for this purpose as well.
-/

set_option autoImplicit false

namespace Highlight.Chars

/-- The blank characters, as sorted disjoint closed ranges of code points. -/
def blankRanges : Array (Nat × Nat) := #[
  (9, 13), (28, 32), (133, 133), (160, 160), (5760, 5760), (8192, 8202), (8232, 8233), (8239, 8239),
  (8287, 8287), (12288, 12288)]

def isBlank (c : Char) : Bool :=
  if c.toNat < 128 then c == ' ' || ('\t' ≤ c && c ≤ '\r') || ('\x1c' ≤ c && c ≤ '\x1f')
  else Ranges.contains blankRanges c.toNat

end Highlight.Chars
