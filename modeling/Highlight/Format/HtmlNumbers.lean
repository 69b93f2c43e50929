import Highlight.Format.HtmlStyle
import Highlight.Filters

/-!
# Line numbers in HTML output

HTML output numbers its lines in one of two ways. In a table, the numbers stand in a column of
their own, one cell a line, beside the `<pre>` of the code (`Settings.table`); inline, each line
starts with its number, before any line is marked (`Numbers.inlineCell`). Both count `count`
lines from `linenostart` and write each number right-aligned in the places of the last one
(`padNumber`): only the numbers that `step` divides are written, the others are blanks, and the
numbers that `special` divides are marked special by the attributes of their span. With
`anchored`, a number links to the anchor of its line.

A number is written when `i % step == 0`, which fails for a step of zero as soon as there is a line to number (`zeroStep`). An anchor of a line
links to itself only when lines are not numbered, and a table puts the file name in a row of its
own rather than before the `<pre>`.

`Settings.layout` is the output around the lines with all of this; without numbers it is
`wrapLines` (`layout_unnumbered`).
-/

set_option autoImplicit false

namespace Highlight.Html

/-! ## Options -/

/-- Where line numbers go: in a column of a table beside the code, or at the start of each
line. -/
inductive Numbering
  | table
  | inline
  deriving DecidableEq, Repr

/-- The line numbers of HTML output. -/
structure Numbers where
  /-- Where the numbers go; none for no numbers. -/
  mode : Option Numbering := none
  /-- Only the numbers that `step` divides are written; the others are blanks. -/
  step : Nat := 1
  /-- The numbers that `special` divides are marked special; none are when it is zero. -/
  special : Nat := 0
  /-- Each number links to the anchor of its line. -/
  anchored : Bool := false
  deriving DecidableEq, Repr

/-- The line numbers that options give: `linenos` is `inline`, or any other true value for a
table; the numbers are taken without their sign. -/
def Numbers.ofOptions (opts : Options) : Except OptionError Numbers := do
  let step ← opts.number "linenostep" 1
  let special ← opts.number "linenospecial" 0
  let anchored ← opts.flag "anchorlinenos" false
  let mode : Option Numbering := match opts.find? "linenos" with
    | some (.str "inline") => some .inline
    | some v => if Filters.truthy v then some .table else none
    | none => none
  pure { mode, step := step.natAbs, special := special.natAbs, anchored }

/-! ## Cells -/

/-- The error of `%` by zero. -/
def zeroStep : String × String := ("ZeroDivisionError", "integer modulo by zero")

/-- The places of the last of `count` numbers from `start`, in which each number is written. -/
def numberWidth (start count : Nat) : Nat := (toString (start + count - 1)).length

/-- A number right-aligned in `width` places, as `%*d` writes it. -/
def padNumber (width i : Nat) : List Char :=
  List.replicate (width - (toString i).length) ' ' ++ (toString i).toList

/-- The attributes of the spans of numbers, normal and special: the classes of each way of
numbering, or the same style attributes for both. -/
def cellAttrs (styles : Option (String × String)) (m : Numbering) : String × String :=
  match styles, m with
  | some (normal, special), _ => (" style=\"" ++ normal ++ "\"", " style=\"" ++ special ++ "\"")
  | none, .table => (" class=\"normal\"", " class=\"special\"")
  | none, .inline => (" class=\"linenos\"", " class=\"linenos special\"")

/-- `x` as a link to the anchor `name` of line `i`. -/
def link (name : String) (i : Nat) (x : List Char) : List Char :=
  ("<a href=\"#" ++ name ++ "-" ++ toString i ++ "\">").toList ++ x ++ "</a>".toList

namespace Numbers

variable (n : Numbers)

/-- What the cell of number `i` shows in a column `width` places wide: the number when the step
divides it, blanks otherwise. -/
def text (width i : Nat) : List Char :=
  if i % n.step = 0 then padNumber width i else List.replicate width ' '

/-- Whether number `i` is marked special. -/
def isSpecial (i : Nat) : Bool := n.special != 0 && i % n.special == 0

/-- The attributes of the span of number `i`: the special ones of `attrs` or the normal ones. -/
def attr (attrs : String × String) (i : Nat) : String := if n.isSpecial i then attrs.2 else attrs.1

/-- `x` in the span of number `i`. -/
def span (attrs : String × String) (i : Nat) (x : List Char) : List Char :=
  ("<span" ++ n.attr attrs i ++ ">").toList ++ x ++ spanEnd

/-- A cell of a table's column: the text in its span, linked when it is the number. -/
def tableCell (attrs : String × String) (name : String) (width i : Nat) : List Char :=
  n.span attrs i (if n.anchored && i % n.step == 0 then link name i (n.text width i)
    else n.text width i)

/-- A number at the start of a line: the text in its span, linked whatever it shows. -/
def inlineCell (attrs : String × String) (name : String) (width i : Nat) : List Char :=
  if n.anchored then link name i (n.span attrs i (n.text width i))
  else n.span attrs i (n.text width i)

/-- The cells of `count` lines numbered from `start`, each made by `cell` from the width of the
last number and its own; a step of zero fails at the first line. -/
def cells (start count : Nat) (cell : Nat → Nat → List Char) :
    Except (String × String) (List (List Char)) :=
  if n.step = 0 ∧ count ≠ 0 then .error zeroStep
  else .ok ((List.range count).map fun j => cell (numberWidth start count) (start + j))

end Numbers

/-! ## Around the lines -/

namespace Settings

variable (s : Settings)

/-- The name the links of numbers point to: that of the anchors, or else that of the spans. -/
def anchorName : String := if s.lineanchors = "" then s.linespans else s.lineanchors

/-- The lines of `hl_lines` marked by the span that `mark` opens. -/
def marked (mark : String) (lines : List (List Char)) : List (List Char) :=
  if s.hlLines = [] then lines else highlightLines mark s.hlLines lines

/-- Lines with their anchors and spans, numbered from `linenostart`; an anchor links to itself
only when the lines are not numbered. -/
def decorate (numbered : Bool) (lines : List (List Char)) : List (List Char) :=
  let anchor (i : Nat) (l : List Char) : List Char :=
    let id := s.lineanchors ++ "-" ++ toString i
    ("<a id=\"" ++ id ++ "\" name=\"" ++ id ++
      (if numbered then "\"></a>" else "\" href=\"#" ++ id ++ "\"></a>")).toList ++ l
  let lineSpan (i : Nat) (l : List Char) : List Char :=
    ("<span id=\"" ++ s.linespans ++ "-" ++ toString i ++ "\">").toList ++ l ++ spanEnd
  let lines := if s.lineanchors = "" then lines else Html.numbered s.linenostart anchor lines
  if s.linespans = "" then lines else Html.numbered s.linenostart lineSpan lines

/-- The `<pre>` of style `preStyle` around lines, inside `<code>` when asked, after the file
name unless that goes in a table. -/
def preBlock (inTable : Bool) (preStyle : String) (lines : List (List Char)) : String :=
  let body := String.ofList lines.flatten
  let body := if s.wrapcode then "<code>" ++ body ++ "</code>" else body
  (if s.filename = "" ∨ inTable then ""
   else "<span class=\"filename\">" ++ s.filename ++ "</span>") ++
    "<pre" ++ (if preStyle = "" then "" else " style=\"" ++ preStyle ++ "\"") ++
    "><span></span>" ++ body ++ "</pre>"

/-- The opening of the column of numbers in a table. -/
def columnOpen : String := "<tr><td class=\"linenos\"><div class=\"linenodiv\"><pre>"

/-- The closing of the column of numbers in a table. -/
def columnClose : String := "</pre></div></td>"

/-- The opening of a table of numbers, with a row for the file name above. -/
def tableOpen : String :=
  "<table class=\"" ++ s.cssclass ++ "table\">" ++
    (if s.filename = "" then ""
     else "<tr><th colspan=\"2\" class=\"filename\"><span class=\"filename\">" ++ s.filename ++
       "</span></th></tr>")

/-- The cell of the code in a table, which ends the table. -/
def codeCell (code : String) : String :=
  "<td class=\"code\"><div>" ++ code ++ "</div></td></tr></table>"

/-- A table of the column of number cells beside `code`. -/
def table (column : List (List Char)) (code : String) : String :=
  s.tableOpen ++ columnOpen ++ String.ofList (List.intercalate ['\n'] column) ++ columnClose ++
    codeCell code

/-- The opening of the `<div>` of style `divStyle`. -/
def divOpen (divStyle : String) : String :=
  "<div" ++ (if s.cssclass = "" then "" else " class=\"" ++ s.cssclass ++ "\"") ++
    (if divStyle = "" then "" else " style=\"" ++ divStyle ++ "\"") ++ ">"

/-- The `<div>` of style `divStyle` around the output. -/
def divBlock (divStyle inner : String) : String := s.divOpen divStyle ++ inner ++ "</div>\n"

/-- The output around lines that stand in a `<pre>` of their own: marked, decorated and put in
the `<pre>` and the `<div>`. -/
def around (numbered : Bool) (mark divStyle preStyle : String) (lines : List (List Char)) :
    String :=
  s.divBlock divStyle (s.preBlock false preStyle (s.decorate numbered (s.marked mark lines)))

/-- HTML output around its lines with line numbers: unless `nowrap`, the numbers of `n` go at
the start of the lines, which are then marked, or in a table beside them, in spans whose
attributes `attrs` gives for each way of numbering. -/
def layout (n : Numbers) (attrs : Numbering → String × String) (mark divStyle preStyle : String)
    (lines : List (List Char)) : Except (String × String) String :=
  if s.nowrap then .ok (String.ofList (s.marked mark lines).flatten)
  else
    match n.mode with
    | none => .ok (s.around false mark divStyle preStyle lines)
    | some .inline =>
      (n.cells s.linenostart lines.length (n.inlineCell (attrs .inline) s.anchorName)).map
        fun cs => s.around true mark divStyle preStyle (List.zipWith (· ++ ·) cs lines)
    | some .table =>
      (n.cells s.linenostart lines.length (n.tableCell (attrs .table) s.anchorName)).map
        fun cs => s.divBlock divStyle
          (s.table cs (s.preBlock true preStyle (s.decorate true (s.marked mark lines))))

theorem layout_unnumbered {n : Numbers} (hn : n.mode = none)
    (attrs : Numbering → String × String) (mark divStyle preStyle : String)
    (lines : List (List Char)) :
    s.layout n attrs mark divStyle preStyle lines =
      .ok (wrapLines s mark divStyle preStyle lines) := by
  by_cases hw : s.nowrap
  · simp [layout, wrapLines, marked, hw]
  · simp [layout, wrapLines, around, divBlock, divOpen, preBlock, decorate, marked, hw, hn,
      String.append_assoc]

end Settings

/-- The HTML a token stream makes, with line numbers. -/
def formatNumbered (s : Settings) (n : Numbers) (ts : List (TokenKind × String)) :
    Except (String × String) String :=
  s.layout n (cellAttrs none) "<span class=\"hll\">" s.cssstyles s.prestyles (formatLines s ts)

namespace Styled

variable (h : Styled)

/-- The style of a number's span without classes, normal or special: the style's colours for
line numbers and their background. -/
def linenosStyle (special : Bool) : String :=
  let sp := h.style.spec
  "color: " ++
    colorText (if special then sp.lineNumberSpecialColor else sp.lineNumberColor) ++
    "; background-color: " ++
    colorText (if special then sp.lineNumberSpecialBackgroundColor
      else sp.lineNumberBackgroundColor) ++
    "; padding-left: 5px; padding-right: 5px;"

/-- The styles of the spans of numbers, normal and special, when there are no classes. -/
def cellStyles : Option (String × String) :=
  if h.noclasses then some (h.linenosStyle false, h.linenosStyle true) else none

/-- The span that marks a line: of class `hll`, or without classes with the style's highlight
colour. -/
def mark : String :=
  if h.noclasses then
    "<span" ++
      (match h.style.spec.highlightColor with
       | some c => " style=\"background-color: " ++ c ++ "\""
       | none => "") ++ ">"
  else "<span class=\"hll\">"

/-- The style of the `<div>`: `cssstyles`, after the style's background without classes. -/
def divStyle : String :=
  if h.noclasses then
    "; ".intercalate
      ((if h.nobackground then []
        else h.style.spec.backgroundColor.toList.map ("background: " ++ ·)) ++
        (if h.settings.cssstyles = "" then [] else [h.settings.cssstyles]))
  else h.settings.cssstyles

/-- The style of the `<pre>`: `prestyles`, then a line height without classes. -/
def preStyle : String :=
  if h.noclasses then
    "; ".intercalate
      ((if h.settings.prestyles = "" then [] else [h.settings.prestyles]) ++ ["line-height: 125%;"])
  else h.settings.prestyles

/-- The lines of HTML a token stream makes: its spans name classes, or carry the declarations
of the style without classes. -/
def codeLines (ts : List (TokenKind × String)) : List (List Char) :=
  if h.noclasses then
    formatLinesWith h.settings.lineseparator.toList
      (h.sheet.inlineOpener h.settings.debugTokenTypes) ts
  else formatLines h.settings ts

/-- The HTML a token stream makes, with line numbers. -/
def formatNumbered (n : Numbers) (ts : List (TokenKind × String)) :
    Except (String × String) String :=
  h.settings.layout n (cellAttrs h.cellStyles) h.mark h.divStyle h.preStyle (h.codeLines ts)

theorem formatNumbered_unnumbered {n : Numbers} (hn : n.mode = none)
    (ts : List (TokenKind × String)) :
    h.formatNumbered n ts = .ok (h.format ts) := by
  rw [formatNumbered, Settings.layout_unnumbered _ hn]
  cases hc : h.noclasses
  · simp [format, Html.format, mark, divStyle, preStyle, codeLines, hc]
  · -- the two sides match the highlight colour each with a matcher of its own
    cases hcolor : h.style.spec.highlightColor <;>
      simp [format, mark, divStyle, preStyle, codeLines, hc, hcolor]

end Styled

end Highlight.Html
