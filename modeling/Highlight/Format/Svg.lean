import Highlight.Format.Groff
import Highlight.Format.HtmlNumbers
import Highlight.Lexer.Input

/-!
# SVG output

SVG output writes each line of the text as a `<text>` element of its own, one `ystep` below the
line before, and each token in a `<tspan>` with the fill colour, weight and slant of its look
(`look`). Around the lines, unless `nowrap`, stand the document's head and a group that sets the
font. A token's text is escaped as HTML escapes it and, with `spacehack`, its tabs are expanded
from the token's own start and every space written as a non-breaking one (`Settings.text`).

With `linenos`, a counter runs over the lines from `linenostart`, and each line shows the
counter, right-aligned in a column `linenowidth` wide, when `counter % linenostep == 0`. That
test fails for a step of zero (`shown?`); it is made as the output opens,
so numbering with a step of zero fails even with nothing to number. The first number writes its
attributes the other way round from the later ones.
-/

set_option autoImplicit false

namespace Highlight.Svg

/-- The options of SVG output. -/
structure Settings where
  nowrap : Bool := false
  fontfamily : String := "monospace"
  fontsize : String := "14px"
  xoffset : Int := 0
  yoffset : Int := 14
  ystep : Int := 19
  spacehack : Bool := true
  linenos : Bool := false
  linenostart : Int := 1
  linenostep : Int := 1
  linenowidth : Int := 57
  deriving DecidableEq, Repr

/-- The size in pixels that a font size gives, with or without the unit `px`, or 20 when it is
not a whole number. -/
def pixels (fontsize : String) : Int :=
  let fs := fontsize.trimAscii.toString
  let fs := if fs.endsWith "px" then (fs.dropEnd 2).trimAscii.toString else fs
  fs.toInt?.getD 20

/-- The settings that options give, read in this order; the offsets and steps default to what
the font size gives. -/
def Settings.ofOptions (opts : Options) : Except OptionError Settings := do
  let nowrap ← opts.flag "nowrap" false
  let fontfamily := opts.text "fontfamily" "monospace"
  let fontsize := opts.text "fontsize" "14px"
  let xoffset ← opts.number "xoffset" 0
  let yoffset ← opts.number "yoffset" (pixels fontsize)
  let ystep ← opts.number "ystep" (pixels fontsize + 5)
  let spacehack ← opts.flag "spacehack" true
  let linenos ← opts.flag "linenos" false
  let linenostart ← opts.number "linenostart" 1
  let linenostep ← opts.number "linenostep" 1
  let linenowidth ← opts.number "linenowidth" (3 * ystep)
  pure { nowrap, fontfamily, fontsize, xoffset, yoffset, ystep, spacehack, linenos,
         linenostart, linenostep, linenowidth }

/-! ## Looks and text -/

/-- The attributes of a look: its fill colour, a bold weight and an italic slant. -/
def attrs (t : Style.TokenStyle) : String :=
  ((Groff.given t.color).map fun c => " fill=\"#" ++ c ++ "\"").getD "" ++
    (if t.bold then " font-weight=\"bold\"" else "") ++
    (if t.italic then " font-style=\"italic\"" else "")

/-- The attributes of a kind: those of the look of the nearest kind at or above it that the
style's table holds. -/
def look (st : Style.Built) (k : TokenKind) : String :=
  ((st.styleFor? (st.owner k)).map attrs).getD ""

/-- A token's text as it is written, before it is cut at its line feeds. -/
def Settings.text (s : Settings) (v : String) : List Char :=
  let cs := Html.escape v.toList
  if s.spacehack then (Input.expandTabs 8 cs).flatMap fun c => if c = ' ' then "&#160;".toList else [c]
  else cs

/-- A part of a token's text inside the token's `<tspan>`, when its look has attributes. -/
def span (style : String) (part : List Char) : List Char :=
  if style = "" then part else ("<tspan" ++ style ++ ">").toList ++ part ++ "</tspan>".toList

/-! ## Lines -/

/-- Whether the counter is shown; a step of zero fails. -/
def shown? (counter step : Int) : Except (String × String) Bool :=
  if step = 0 then .error Html.zeroStep else .ok (counter % step == 0)

/-- Whether the line of counter `counter` shows its number: never when lines are not numbered,
else as `shown?` tests it. -/
def Settings.shows? (s : Settings) (counter : Int) : Except (String × String) Bool :=
  if s.linenos then shown? counter s.linenostep else pure false

/-- Where the lines of the code start across. -/
def Settings.lineX (s : Settings) : Int :=
  if s.linenos then s.xoffset + s.linenowidth + s.ystep else s.xoffset

/-- The opening of a line of code at height `y`. -/
def Settings.lineOpen (s : Settings) (y : Int) : List Char :=
  ("<text x=\"" ++ toString s.lineX ++ "\" y=\"" ++ toString y ++ "\" xml:space=\"preserve\">").toList

/-- The number `n` at height `y`, in the look `style` of comments; the first number has the
look before the anchor, the later ones after it. -/
def Settings.number (s : Settings) (style : String) (first : Bool) (y n : Int) : List Char :=
  ("<text x=\"" ++ toString (s.xoffset + s.linenowidth) ++ "\" y=\"" ++ toString y ++ "\" " ++
    (if first then style ++ " text-anchor=\"end\"" else "text-anchor=\"end\" " ++ style) ++
    ">" ++ toString n ++ "</text>").toList

/-- Where the writer is: the height of the current line and the counter of the next one. -/
structure Place where
  y : Int
  counter : Int
  deriving DecidableEq, Repr

/-- The break after a line: the line closed, the next one's number when lines are numbered and
the counter shows, and the next line opened one step down. -/
def Settings.lineBreak (s : Settings) (style : String) (p : Place) :
    Except (String × String) (List Char × Place) := do
  let y := p.y + s.ystep
  let shown ← s.shows? p.counter
  pure ("</text>\n".toList ++ (if shown then s.number style false y p.counter else []) ++
    s.lineOpen y, ⟨y, p.counter + 1⟩)

/-- The parts of a token's text between its line feeds, each in the token's span, with a break
after each but the last. -/
def Settings.parts (s : Settings) (style tspan : String) :
    Place → List (List Char) → Except (String × String) (List Char × Place)
  | p, [] => pure ([], p)
  | p, [part] => pure (span tspan part, p)
  | p, part :: more => do
    let (brk, p') ← s.lineBreak style p
    let (rest, p'') ← s.parts style tspan p' more
    pure (span tspan part ++ brk ++ rest, p'')

/-- The tokens written one after another from place `p`. -/
def Settings.tokens (s : Settings) (st : Style.Built) (style : String) :
    Place → List (TokenKind × String) → Except (String × String) (List Char × Place)
  | p, [] => pure ([], p)
  | p, t :: ts => do
    let (out, p') ← s.parts style (look st t.1) p ((s.text t.2).splitOn '\n')
    let (rest, p'') ← s.tokens st style p' ts
    pure (out ++ rest, p'')

/-- The head of the document and the group that sets the font. -/
def Settings.head (s : Settings) : List Char :=
  ("<?xml version=\"1.0\"?>\n<!DOCTYPE svg PUBLIC \"-//W3C//DTD SVG 1.0//EN\" " ++
    "\"http://www.w3.org/TR/2001/REC-SVG-20010904/DTD/svg10.dtd\">\n" ++
    "<svg xmlns=\"http://www.w3.org/2000/svg\">\n<g font-family=\"" ++ s.fontfamily ++
    "\" font-size=\"" ++ s.fontsize ++ "\">\n").toList

/-- The SVG output of a token stream, or the error of numbering lines with a step of zero. -/
def Settings.format (s : Settings) (st : Style.Built) (ts : List (TokenKind × String)) :
    Except (String × String) String := do
  let style := look st TokenKind.comment
  let first ← s.shows? s.linenostart
  let (body, _) ← s.tokens st style ⟨s.yoffset, if s.linenos then s.linenostart + 1 else s.linenostart⟩ ts
  pure (String.ofList ((if s.nowrap then [] else s.head) ++
    (if first then s.number style true s.yoffset s.linenostart else []) ++
    s.lineOpen s.yoffset ++ body ++ "</text>".toList ++
    (if s.nowrap then [] else "</g></svg>\n".toList)))

end Highlight.Svg
