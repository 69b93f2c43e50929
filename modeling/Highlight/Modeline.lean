import Highlight.Lexers.Lines

/-!
# Vim modelines

A vim modeline names the file type of the text it stands in, as in `# vim: set ft=python:` or
`/* vi:syntax=c */`. A line holds one when a mark `vi`, `vim` or `ex` (with an optional version
test such as `vim>703`) and a colon are followed, further on, by `ft=`, `filetype=`, `syn=` or
`syntax=` and a name of characters that are neither colons nor blanks (`Modeline.ofLine`).

Vim reads modelines only near the two ends of a file, and so does `Modeline.ofText`: it walks
the last `n` lines from the end back, then the lines from the one with index `n` back to the
first, and gives the first file type it meets. The lines are those of `splitLinesKeep`, without
the characters that end them.
-/

set_option autoImplicit false

namespace Highlight.Modeline

/-- A modeline: a mark and a colon, then a key and `=` before the name of the file type. -/
def pattern : Pattern.Compiled :=
  Lexers.pattern "
    (?: vi | vim | ex ) (?: [<=>]? \\d* )? :
    .* (?: ft | filetype | syn | syntax ) = ( [^:\\s]+ )
" { verbose := true }

/-- The file type that the first modeline of a line names. -/
def ofLine (line : String) : Option String :=
  (Lexers.search? pattern line).bind fun m => Lexers.groupText line m 1

/-- The file type of a line when it counts: a modeline names it and it is not empty. -/
def named? (line : String) : Option String :=
  (ofLine line).filter fun ft => !ft.isEmpty

/-- The lines of a text without the characters that end them; a line of `splitLinesKeep` has
such characters only at its end. -/
def lines (s : String) : List String :=
  (Lexers.splitLinesKeep s).map fun l => String.ofList (l.toList.filter fun c => !Lexers.endsLine c)

/-- The lines that the slice `[-1:-n-1:-1]` walks, from the last one back: the last `n` lines
when `n` is not negative, and all but the first `-n` otherwise. -/
def tail (ls : List String) (n : Int) : List String :=
  ls.reverse.take (if 0 ≤ n then n.toNat else (ls.length + n).toNat)

/-- The lines with the indices `n`, `n - 1`, …, `0` that the text has, in that order. -/
def head (ls : List String) (n : Int) : List String :=
  (List.range (n + 1).toNat).reverse.filterMap (ls[·]?)

/-- The file type that a modeline near an end of a text names, looking at the last `n` lines
from the end back and then at the lines from index `n` back to the first. -/
def ofText (s : String) (n : Int := 5) : Option String :=
  let ls := lines s
  ((tail ls n).findSome? named?).or ((head ls n).findSome? named?)

end Highlight.Modeline
