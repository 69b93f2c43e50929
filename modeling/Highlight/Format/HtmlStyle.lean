import Highlight.Format.Html
import Highlight.Format.Style

/-!
# Styles in HTML output

HTML output writes a style's looks as CSS declarations (`decls`: the colour, bold, italic,
underline, background and border that a look sets, in that order). Each kind of the style's
table whose look sets something gets a class, its own class after the prefix
(`Sheet.kindClass`), and its declarations stand under that class (`Sheet.classStyle`); when two
kinds share a class, the later one's declarations stay.

With classes, a token's span names the classes of its kind and the stylesheet (`styleDefs`)
holds a rule for each class, shallower kinds first, so that a rule of a deeper kind comes later
and wins. Without classes (`noclasses`), a token's span carries the declarations of the class of
the nearest kind at or above its own that has one (`Sheet.inlineClass`); marked lines carry the
style's highlight colour, the `<pre>` a line height and the `<div>` the style's background.
-/

set_option autoImplicit false

namespace Highlight.Html

open Style

/-! ## Declarations -/

/-- A colour as CSS writes it: a `var…` or `calc…` value as it is, any other after a `#`. -/
def webify (c : String) : String :=
  if c.startsWith "calc" || c.startsWith "var" then c else "#" ++ c

/-- One CSS declaration of a look. -/
inductive Decl
  | color (c : String)
  | bold
  | italic
  | underline
  | background (c : String)
  | border (c : String)
  deriving DecidableEq, Repr

/-- A declaration as CSS writes it. -/
def Decl.css : Decl → String
  | .color c => "color: " ++ webify c
  | .bold => "font-weight: bold"
  | .italic => "font-style: italic"
  | .underline => "text-decoration: underline"
  | .background c => "background-color: " ++ webify c
  | .border c => "border: 1px solid " ++ webify c

/-- The declarations of a look: what it sets, in the order CSS output writes it. -/
def decls (t : TokenStyle) : List Decl :=
  t.color.toList.map .color ++ (if t.bold then [.bold] else []) ++
    (if t.italic then [.italic] else []) ++ (if t.underline then [.underline] else []) ++
    t.bgcolor.toList.map .background ++ t.border.toList.map .border

/-- Declarations as a style attribute or a rule writes them. -/
def declText (ds : List Decl) : String := "; ".intercalate (ds.map Decl.css)

/-! ## The stylesheet -/

/-- The classes and declarations of a style's kinds. -/
structure Sheet where
  /-- The class of each kind whose look sets something; the root's is empty. -/
  kindClass : List (TokenKind × String)
  /-- The declarations under each class, with the kind that wrote them. -/
  classStyle : List (String × (List Decl × TokenKind))

/-- The sheet of a style, for classes after the prefix `pre`. -/
def sheet (pre : String) (st : Built) : Sheet :=
  st.reports.foldl (fun sh p =>
      if decls p.2 = [] then sh
      else { kindClass := assign sh.kindClass p.1 (cssClass pre p.1)
             classStyle := assign sh.classStyle (cssClass pre p.1) (decls p.2, p.1) })
    { kindClass := [(TokenKind.root, "")], classStyle := [] }

namespace Sheet

variable (sh : Sheet)

/-- The class whose declarations a token of kind `k` carries without classes: that of the
nearest kind at or above `k` that the sheet gives a class. -/
def inlineClass (k : TokenKind) : String :=
  (k.chain.reverse.findSome? fun a => sh.kindClass.lookup a).getD ""

/-- The span of a kind without classes: one whose style is the declarations of its class. -/
def inlineOpener (debug : Bool) (k : TokenKind) : List Char :=
  match sh.inlineClass k with
  | "" => []
  | cls =>
    match sh.classStyle.lookup cls with
    | some (ds, _) =>
      let title := if debug then " title=\"" ++ ".".intercalate k.path ++ "\"" else ""
      ("<span style=\"" ++ declText ds ++ "\"" ++ title ++ ">").toList
    | none => []

/-- Whether one rule comes before another: by the depth of its kind, then the kind, the class
and the declarations. -/
def ruleBefore (a b : String × List Decl × TokenKind) : Bool :=
  let (ca, da, ka) := a
  let (cb, db, kb) := b
  ka.path.length < kb.path.length ||
    ka.path.length == kb.path.length &&
      (decide (ka.path < kb.path) || ka.path == kb.path &&
        (decide (ca < cb) || ca == cb && decide (declText da ≤ declText db)))

/-- The selector of class `cls` (none for the box itself) under each of the selectors `args`. -/
def selector (args : List String) (cls : String) : String :=
  ", ".intercalate (args.map fun a =>
    (if a = "" then "" else a ++ " ") ++ (if cls = "" then "" else "." ++ cls))

/-- The rules of the classes: one for each class with declarations, in order. -/
def tokenRules : List (String × List Decl × TokenKind) :=
  (sh.classStyle.filter fun r => r.1 ≠ "" ∧ r.2.1 ≠ []).mergeSort ruleBefore

/-- The rules of the classes as a stylesheet writes them, each with its kind's name. -/
def tokenStyleDefs (args : List String) : List String :=
  sh.tokenRules.map fun (cls, ds, k) =>
    selector args cls ++ " \x7b " ++ declText ds ++ " \x7d /* " ++ ".".intercalate k.path ++ " */"

end Sheet

/-! ## Output with a style -/

/-- What a stylesheet is asked for: the default selector, one selector, or a list of them. -/
inductive Selectors
  | default
  | one (s : String)
  | many (xs : List String)

/-- HTML output with a style. -/
structure Styled where
  settings : Settings
  /-- Write the declarations into the spans, not classes. -/
  noclasses : Bool := false
  /-- Leave the background of the style out. -/
  nobackground : Bool := false
  /-- Whether the options name a `cssclass`, which the default selector then is. -/
  cssclassGiven : Bool := false
  style : Built

namespace Styled

variable (h : Styled)

/-- The sheet of the output's style. -/
def sheet : Sheet := Html.sheet h.settings.classprefix h.style

/-- The HTML a token stream makes. -/
def format (ts : List (TokenKind × String)) : String :=
  if h.noclasses then
    let s := h.settings
    let sp := h.style.spec
    let lines := formatLinesWith s.lineseparator.toList (h.sheet.inlineOpener s.debugTokenTypes) ts
    let mark := "<span" ++
      (match sp.highlightColor with
       | some c => " style=\"background-color: " ++ c ++ "\""
       | none => "") ++ ">"
    let divStyle := "; ".intercalate
      ((if h.nobackground then [] else sp.backgroundColor.toList.map ("background: " ++ ·)) ++
        (if s.cssstyles = "" then [] else [s.cssstyles]))
    let preStyle := "; ".intercalate
      ((if s.prestyles = "" then [] else [s.prestyles]) ++ ["line-height: 125%;"])
    wrapLines s mark divStyle preStyle lines
  else Html.format h.settings ts

/-- The selectors that a request for a stylesheet stands for. -/
def args : Selectors → List String
  | .default => [if h.cssclassGiven then "." ++ h.settings.cssclass else ""]
  | .one s => [s]
  | .many xs => xs

/-- A colour of the style as a stylesheet writes it; none is `None`. -/
def colorText (c : Option String) : String := c.getD "None"

/-- The rules for line numbers. -/
def linenosStyleDefs : List String :=
  let sp := h.style.spec
  let normal := "color: " ++ colorText sp.lineNumberColor ++ "; background-color: " ++
    colorText sp.lineNumberBackgroundColor ++ "; padding-left: 5px; padding-right: 5px;"
  let special := "color: " ++ colorText sp.lineNumberSpecialColor ++ "; background-color: " ++
    colorText sp.lineNumberSpecialBackgroundColor ++ "; padding-left: 5px; padding-right: 5px;"
  ["pre \x7b line-height: 125%; \x7d", "td.linenos .normal \x7b " ++ normal ++ " \x7d",
    "span.linenos \x7b " ++ normal ++ " \x7d", "td.linenos .special \x7b " ++ special ++ " \x7d",
    "span.linenos.special \x7b " ++ special ++ " \x7d"]

/-- The rules for marked lines and, when selectors are asked for, for the box: its background
and the declarations of plain text. -/
def backgroundStyleDefs (arg : Selectors) : List String :=
  let sp := h.style.spec
  let asked := match arg with
    | .default => false
    | .one s => s ≠ ""
    | .many xs => xs ≠ []
  let box := match sp.backgroundColor with
    | some bg =>
      if asked && !h.nobackground then
        let text := match h.sheet.kindClass.lookup TokenKind.text with
          | some cls => " " ++ declText (((h.sheet.classStyle.lookup cls).map (·.1)).getD [])
          | none => ""
        [Sheet.selector (h.args arg) "" ++ "\x7b background: " ++ bg ++ ";" ++ text ++ " \x7d"]
      else []
    | none => []
  let hll := match sp.highlightColor with
    | some c => [Sheet.selector (h.args arg) "hll" ++ " \x7b background-color: " ++ c ++ " \x7d"]
    | none => []
  hll ++ box

/-- The stylesheet of the output: rules for line numbers, the box and the token classes. -/
def styleDefs (arg : Selectors) : String :=
  "\n".intercalate
    (h.linenosStyleDefs ++ h.backgroundStyleDefs arg ++ h.sheet.tokenStyleDefs (h.args arg))

end Styled

end Highlight.Html
