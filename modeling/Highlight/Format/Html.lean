import Highlight.Token.Short
import Highlight.Options

/-!
# HTML output

HTML output writes a token stream line by line. Each token's text is escaped (`&`, `<`, `>`
and both quotes become character references) and cut at its line breaks; a token of a kind
with classes stands in a span, `<span class="...">`, whose classes name its kind
(`cssClasses`: the short name of the nearest standard kind above, followed by `-Name` for
each kind below it, and the classes of the kinds in between). The line formatter
(`formatLines`) keeps the span left open on the line it builds (`lspan`), so that tokens of
one kind that follow each other share one span, and it closes that span at the end of each
line: a span never runs over a line break, and the lines can be wrapped one by one.

Without `nowrap`, the lines go inside `<pre>` (and `<code>` with `wrapcode`) inside a `<div>`
of class `cssclass`, each line first given an anchor (`lineanchors`) or a span of its own
(`linespans`) when asked for; lines listed in `hl_lines` are marked by a span of class `hll`.

Output with a style, and the styles written into the spans without classes, are in
`Highlight.Format.HtmlStyle`; line numbers, in a table or inline, in
`Highlight.Format.HtmlNumbers`. Not modelled: whole documents (`full`), links to definitions
(`tagsfile`), and output encodings.
-/

set_option autoImplicit false

namespace Highlight.Html

/-! ## Escaping -/

/-- A character as HTML text writes it. -/
def escapeChar : Char → List Char
  | '&' => ['&', 'a', 'm', 'p', ';']
  | '<' => ['&', 'l', 't', ';']
  | '>' => ['&', 'g', 't', ';']
  | '"' => ['&', 'q', 'u', 'o', 't', ';']
  | '\'' => ['&', '#', '3', '9', ';']
  | c => [c]

/-- A text as HTML text writes it. -/
def escape (s : List Char) : List Char := s.flatMap escapeChar

/-! ## Classes -/

/-- The class of the kind whose path, read from its last name up, is given: its names joined
by dashes below the nearest standard kind. -/
def kindClassUp (up : List String) : String := TokenKind.joinedNameUp "-" up

def kindClass (k : TokenKind) : String := kindClassUp k.path.reverse

/-- The class a kind gives its span: its class after the prefix, or nothing when its class is
empty. -/
def cssClass (pre : String) (k : TokenKind) : String :=
  if kindClass k = "" then "" else pre ++ kindClass k

/-- The classes of the span of the kind whose path, read from its last name up, is given: the
classes of the kinds above it up to the nearest standard one, then its own, with spaces
between. -/
def cssClassesUp (pre : String) : List String → String
  | [] => cssClass pre TokenKind.root
  | part :: up =>
    if (TokenKind.shortName? ⟨(part :: up).reverse⟩).isSome then cssClass pre ⟨(part :: up).reverse⟩
    else cssClassesUp pre up ++ " " ++ cssClass pre ⟨(part :: up).reverse⟩

/-- The classes of the span of a kind. -/
def cssClasses (pre : String) (k : TokenKind) : String := cssClassesUp pre k.path.reverse

/-! ## Settings -/

/-- The options of HTML output that this library reads. -/
structure Settings where
  /-- Write the lines alone, with nothing around them. -/
  nowrap : Bool := false
  /-- Put before every class. -/
  classprefix : String := ""
  /-- Ends every line. -/
  lineseparator : String := "\n"
  /-- Give each span the dotted name of its kind as a title. -/
  debugTokenTypes : Bool := false
  /-- The lines to mark, counted from one. -/
  hlLines : List Int := []
  /-- Give each line an anchor with this name, when not empty. -/
  lineanchors : String := ""
  /-- Put each line in a span with an id of this name, when not empty. -/
  linespans : String := ""
  /-- The number of the first line. -/
  linenostart : Nat := 1
  /-- Put the lines inside `<code>` as well. -/
  wrapcode : Bool := false
  /-- The class of the `<div>` around the lines. -/
  cssclass : String := "highlight"
  /-- The style of the `<div>`. -/
  cssstyles : String := ""
  /-- The style of the `<pre>`. -/
  prestyles : String := ""
  /-- A file name to write before the lines. -/
  filename : String := ""

/-- A line number as a list of lines to mark gives it; an entry that is not a number is
skipped. -/
def lineNumber? : OptionValue → Option Int
  | .int n => some n
  | .bool b => some (if b then 1 else 0)
  | .str s => s.trimAscii.toString.toInt?
  | _ => none

/-- The settings that options give, read in the order output reads them. -/
def Settings.ofOptions (opts : Options) : Except OptionError Settings := do
  let _ ← opts.flag "full" false
  let nowrap ← opts.flag "nowrap" false
  let _ ← opts.flag "noclasses" false
  let _ ← opts.flag "noclobber_cssfile" false
  let wrapcode ← opts.flag "wrapcode" false
  let debugTokenTypes ← opts.flag "debug_token_types" false
  let linenostart ← opts.number "linenostart" 1
  let _ ← opts.number "linenostep" 1
  let _ ← opts.number "linenospecial" 0
  let _ ← opts.flag "nobackground" false
  let _ ← opts.flag "anchorlinenos" false
  let hl ← opts.list "hl_lines" []
  pure { nowrap, wrapcode, debugTokenTypes, linenostart := linenostart.natAbs
         classprefix := opts.text "classprefix" ""
         lineseparator := opts.text "lineseparator" "\n"
         hlLines := hl.filterMap lineNumber?
         lineanchors := opts.text "lineanchors" ""
         linespans := opts.text "linespans" ""
         cssclass := opts.text "cssclass" "highlight"
         cssstyles := opts.text "cssstyles" ""
         prestyles := opts.text "prestyles" ""
         filename := opts.text "filename" "" }

/-! ## Lines -/

/-- The tag that closes a span. -/
def spanEnd : List Char := "</span>".toList

/-- The tag that closes a span, written after one opened by `span`; nothing when `span` opens
none. -/
def closing (span : List Char) : List Char :=
  if span = [] then [] else spanEnd

/-- The tag that opens the span of a kind, or nothing when the kind has no classes. -/
def spanOpener (s : Settings) (k : TokenKind) : List Char :=
  if cssClasses s.classprefix k = "" then []
  else
    let title := if s.debugTokenTypes then " title=\"" ++ ".".intercalate k.path ++ "\"" else ""
    ("<span class=\"" ++ cssClasses s.classprefix k ++ "\"" ++ title ++ ">").toList

/-- Where the line formatter stands between tokens. -/
structure Lines where
  /-- The span left open on the line being built; `[]` for none. -/
  lspan : List Char := []
  /-- The pieces of the line being built; empty when no line is being built. -/
  line : List (List Char) := []
  /-- The lines given out, in order. -/
  done : List (List Char) := []

namespace Lines

/-- A piece of a token's text that a line break ends, in the span `cspan`: the line being
built, or else a line of its own, is finished with it and given out. -/
def breakLine (lsep cspan : List Char) (st : Lines) (part : List Char) : Lines :=
  if st.line = [] then
    { st with done := st.done ++ [if part = [] then lsep else cspan ++ part ++ closing cspan ++ lsep] }
  else if st.lspan ≠ cspan ∧ part ≠ [] then
    { st with line := [],
              done := st.done ++ [(st.line ++ [closing st.lspan, cspan, part, closing cspan, lsep]).flatten] }
  else
    { st with line := [], done := st.done ++ [(st.line ++ [part, closing st.lspan, lsep]).flatten] }

/-- The last piece of a token's text, which no line break ends: it goes on the line being
built, in the span `cspan`, which stays open. -/
def extend (cspan : List Char) (st : Lines) (part : List Char) : Lines :=
  if part = [] then st
  else if st.line = [] then { st with line := [cspan, part], lspan := cspan }
  else if st.lspan ≠ cspan then
    { st with line := st.line ++ [closing st.lspan, cspan, part], lspan := cspan }
  else { st with line := st.line ++ [part] }

/-- A token's text in the span that `cspan` opens: escaped and cut at its line breaks. -/
def put (lsep cspan : List Char) (st : Lines) (text : String) : Lines :=
  let parts := (escape text.toList).splitOn '\n'
  (parts.dropLast.foldl (breakLine lsep cspan) st).extend cspan (parts.getLastD [])

/-- A token, in the span of its kind's classes. -/
def token (s : Settings) (st : Lines) (t : TokenKind × String) : Lines :=
  put s.lineseparator.toList (spanOpener s t.1) st t.2

/-- The lines given out, with the line being built finished. -/
def finish (lsep : List Char) (st : Lines) : List (List Char) :=
  if st.line = [] then st.done else st.done ++ [(st.line ++ [closing st.lspan, lsep]).flatten]

end Lines

/-- The lines of HTML that a token stream makes when `opener` opens the span of each kind, each
ended by `lsep`. -/
def formatLinesWith (lsep : List Char) (opener : TokenKind → List Char)
    (ts : List (TokenKind × String)) : List (List Char) :=
  (ts.foldl (fun st t => Lines.put lsep (opener t.1) st t.2) {}).finish lsep

/-- The lines of HTML that a token stream makes, each ended by the line separator. -/
def formatLines (s : Settings) (ts : List (TokenKind × String)) : List (List Char) :=
  formatLinesWith s.lineseparator.toList (spanOpener s) ts

/-! ## Around the lines -/

/-- Lines with those of the numbers `hl` (counted from one) put in the span that `mark` opens. -/
def highlightLines (mark : String) (hl : List Int) (lines : List (List Char)) :
    List (List Char) :=
  lines.mapIdx fun i l => if hl.contains (i + 1 : Nat) then mark.toList ++ l ++ spanEnd else l

/-- Lines numbered from `start`, each changed by `f` with its number. -/
def numbered (start : Nat) (f : Nat → List Char → List Char) (lines : List (List Char)) :
    List (List Char) :=
  lines.mapIdx fun i l => f (start + i) l

/-- HTML output around its lines: the lines of `hl_lines` marked by the span that `mark` opens,
then, unless `nowrap`, anchors or spans on each line, `<code>`, and the `<pre>` of style
`preStyle` inside the `<div>` of style `divStyle`. -/
def wrapLines (s : Settings) (mark divStyle preStyle : String) (lines : List (List Char)) :
    String :=
  let lines := if s.hlLines = [] then lines else highlightLines mark s.hlLines lines
  if s.nowrap then String.ofList lines.flatten
  else
    let anchor (n : Nat) (l : List Char) : List Char :=
      let id := s.lineanchors ++ "-" ++ toString n
      ("<a id=\"" ++ id ++ "\" name=\"" ++ id ++ "\" href=\"#" ++ id ++ "\"></a>").toList ++ l
    let lineSpan (n : Nat) (l : List Char) : List Char :=
      ("<span id=\"" ++ s.linespans ++ "-" ++ toString n ++ "\">").toList ++ l ++ spanEnd
    let lines := if s.lineanchors = "" then lines else numbered s.linenostart anchor lines
    let lines := if s.linespans = "" then lines else numbered s.linenostart lineSpan lines
    let body := String.ofList lines.flatten
    let body := if s.wrapcode then "<code>" ++ body ++ "</code>" else body
    let pre := (if s.filename = "" then "" else "<span class=\"filename\">" ++ s.filename ++ "</span>") ++
      "<pre" ++ (if preStyle = "" then "" else " style=\"" ++ preStyle ++ "\"") ++
      "><span></span>" ++ body ++ "</pre>"
    "<div" ++ (if s.cssclass = "" then "" else " class=\"" ++ s.cssclass ++ "\"") ++
      (if divStyle = "" then "" else " style=\"" ++ divStyle ++ "\"") ++ ">" ++ pre ++ "</div>\n"

@[simp] theorem wrapLines_nowrap {s : Settings} (hn : s.nowrap = true) (hl : s.hlLines = [])
    (mark divStyle preStyle : String) (lines : List (List Char)) :
    wrapLines s mark divStyle preStyle lines = String.ofList lines.flatten := by
  simp [wrapLines, hn, hl]

/-- The HTML a token stream makes. -/
def format (s : Settings) (ts : List (TokenKind × String)) : String :=
  wrapLines s "<span class=\"hll\">" s.cssstyles s.prestyles (formatLines s ts)

end Highlight.Html
