/-!
# Sets of code points as ranges

A character property is stored as a sorted array of disjoint closed ranges of code points,
and membership is a binary search over it (`Ranges.contains`).
-/

set_option autoImplicit false

namespace Highlight.Chars.Ranges

/-- Whether `c` lies in one of the ranges with index in `[lo, hi)`. -/
def containsIn (ranges : Array (Nat × Nat)) (c : Nat) (lo hi : Nat) : Bool :=
  if _ : lo < hi then
    let mid := (lo + hi) / 2
    match ranges[mid]? with
    | none => false
    | some (a, b) =>
      if c < a then containsIn ranges c lo mid
      else if b < c then containsIn ranges c (mid + 1) hi
      else true
  else false
termination_by hi - lo

/-- Whether `c` lies in one of the sorted disjoint closed ranges. -/
def contains (ranges : Array (Nat × Nat)) (c : Nat) : Bool :=
  containsIn ranges c 0 ranges.size

/-! ## Packed ranges

Long tables of ranges are written packed: the gap before each range (from the code point
after the range before it, or from zero) and its length (its last code point less its first),
each number written in digits. A digit is one of the printable characters from `!` to `~`
other than the double quote, the backslash and the braces, so there are ninety. The first
`lastDigits` of them end a number and give its last digit in base `lastDigits`; the others
come before and give the digits in front, in base `90 - lastDigits`, most significant first.
Any other character is skipped, so a packed text may be cut into lines.
-/

/-- How many digits end a number. -/
def lastDigits : Nat := 71

/-- The value of a digit of a packed table. -/
def packedDigit? (c : Char) : Option Nat :=
  let n := c.toNat
  if n < 33 || n > 126 || n == 34 || n == 92 || n == 123 || n == 125 then none
  else some (n - 33 - (if n > 34 then 1 else 0) - (if n > 92 then 1 else 0) -
    (if n > 123 then 1 else 0) - (if n > 125 then 1 else 0))

/-- The numbers a packed text holds, the first begun with the value `acc`. -/
def numbersFrom : List Char → Nat → List Nat
  | [], _ => []
  | c :: rest, acc =>
    match packedDigit? c with
    | some d =>
      if d < lastDigits then (acc * lastDigits + d) :: numbersFrom rest 0
      else numbersFrom rest (acc * (90 - lastDigits) + (d - lastDigits))
    | none => numbersFrom rest acc

/-- The ranges that gaps and lengths stand for, from the code point `next` on, after `out`. -/
def rangesFrom : List Nat → Nat → Array (Nat × Nat) → Array (Nat × Nat)
  | gap :: len :: rest, next, out =>
    rangesFrom rest (next + gap + len + 1) (out.push (next + gap, next + gap + len))
  | _, _, out => out

/-- The ranges a packed text stands for. -/
def unpack (s : String) : Array (Nat × Nat) := rangesFrom (numbersFrom s.toList 0) 0 #[]

end Highlight.Chars.Ranges
