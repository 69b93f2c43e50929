import Highlight.Chars.UnicodeClass
import Highlight.Chars.Ranges

/-!
# Cased letters and title case

A text is in title case when every run of cased letters starts with an upper-case or
title-case letter and goes on in lower case, and there is at least one cased letter. The
cased letters are those of the categories `Lu`, `Ll` and `Lt`.
-/

set_option autoImplicit false

namespace Highlight.Chars

/-- Whether a character is an upper-case or a title-case letter. -/
def isUpperOrTitle (c : Char) : Bool :=
  Ranges.contains (UnicodeClass.ranges .Lu) c.toNat || Ranges.contains (UnicodeClass.ranges .Lt) c.toNat

/-- The upper-case characters that are not letters: Roman numerals, and circled and squared
Latin capitals. -/
def otherUpperRanges : Array (Nat × Nat) :=
  #[(0x2160, 0x216f), (0x24b6, 0x24cf), (0x1f130, 0x1f149), (0x1f150, 0x1f169), (0x1f170, 0x1f189)]

/-- Whether a character is upper case: an upper-case letter, or one of the other upper-case
characters. In ASCII these are the letters `A` to `Z`. -/
def isUpper (c : Char) : Bool :=
  if c.toNat < 128 then 'A' ≤ c && c ≤ 'Z'
  else Ranges.contains (UnicodeClass.ranges .Lu) c.toNat || Ranges.contains otherUpperRanges c.toNat

def isLowerLetter (c : Char) : Bool := Ranges.contains (UnicodeClass.ranges .Ll) c.toNat

/-- Whether the characters `cs` are in title case, after a cased letter or not, and with a
cased letter seen before or not. -/
def titleFrom : List Char → Bool → Bool → Bool
  | [], _, cased => cased
  | c :: rest, afterCased, cased =>
    if isUpperOrTitle c then !afterCased && titleFrom rest true true
    else if isLowerLetter c then afterCased && titleFrom rest true true
    else titleFrom rest false cased

/-- Whether a text is in title case. -/
def isTitleText (s : String) : Bool := titleFrom s.toList false false

theorem titleFrom_uncased (cs : List Char) (h : ∀ c ∈ cs, isUpperOrTitle c = false ∧ isLowerLetter c = false) :
    ∀ after, titleFrom cs after false = false := by
  induction cs with
  | nil => intro _; rfl
  | cons c rest ih =>
    intro after
    have hc := h c (by simp)
    simp only [titleFrom, hc.1, hc.2, Bool.false_eq_true, if_false]
    exact ih (fun d hd => h d (by simp [hd])) false

end Highlight.Chars
