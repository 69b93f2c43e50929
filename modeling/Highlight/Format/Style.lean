import Highlight.Token.Short
import Highlight.Chars.Blank
import Highlight.Options

/-!
# Styles

A style gives each token kind a look through style definitions: texts of words such as `bold`,
`nobold`, `italic`, `underline`, `#f00`, `bg:#ffffcc`, `border:#888`, `roman`, `sans`, `mono`
and `noinherit`. Building a style (`Spec.table`) gives an entry to every kind that its
definitions name, to every kind above one and to every standard kind, in the order it meets
them: the entry of a kind is that of the kind above it (that of the root, when its definition
says `noinherit`) changed by the words of its definition one after another, and the root starts
from the empty entry. A colour is kept as `colorFormat` reads it: an ansi name, the six
characters after a `#`, the three after a `#` each written twice, or a `var…` or `calc…` value;
any other colour stops the build with an assertion that names it. A style reports an entry
(`Entry.report`) with an ansi name read as the colour it stands for.

A built style (`Built`) carries the proof that its table is the one its definitions give. Its
table holds the root and, with every kind, the kind above it (`Built.root_mem`,
`Built.parent_mem`).

Not modelled: the deprecated `#ansi…` names, which no colour that a build keeps can be (each is
a `#` and seven or more letters), and the name and aliases of a style.
-/

set_option autoImplicit false

namespace Highlight

namespace TokenKind

/-- The kinds from the root down to `k`: the root, each kind on the way, then `k`. -/
def chain (k : TokenKind) : List TokenKind :=
  (List.range (k.path.length + 1)).map fun n => ⟨k.path.take n⟩

/-- The nearest kind at or above `k` of which `P` holds, walking up from `k`; the root when
there is none. -/
def nearest (P : TokenKind → Bool) (k : TokenKind) : TokenKind :=
  (k.chain.reverse.find? P).getD root

end TokenKind

/-- A dictionary with `k` set to `v`: a key it holds keeps its place, a new key goes last. -/
def assign {α β : Type} [BEq α] (xs : List (α × β)) (k : α) (v : β) : List (α × β) :=
  if xs.any (·.1 == k) then xs.map fun p => if p.1 == k then (k, v) else p else xs ++ [(k, v)]

namespace Style

/-! ## Colours -/

/-- The ansi colour names, each with the colour it stands for. -/
def ansiColors : List (String × String) := [
  ("ansiblack", "000000"), ("ansired", "7f0000"), ("ansigreen", "007f00"),
  ("ansiyellow", "7f7fe0"), ("ansiblue", "00007f"), ("ansimagenta", "7f007f"),
  ("ansicyan", "007f7f"), ("ansigray", "e5e5e5"), ("ansibrightblack", "555555"),
  ("ansibrightred", "ff0000"), ("ansibrightgreen", "00ff00"), ("ansibrightyellow", "ffff00"),
  ("ansibrightblue", "0000ff"), ("ansibrightmagenta", "ff00ff"), ("ansibrightcyan", "00ffff"),
  ("ansiwhite", "ffffff")]

/-- A colour of a style definition as the style keeps it, or `none` when the style refuses it:
an ansi name as it is, the six characters after a `#`, the three after a `#` each written twice,
nothing as nothing, and a `var…` or `calc…` value as it is. -/
def colorFormat (text : String) : Option String :=
  if (ansiColors.lookup text).isSome then some text
  else match text.toList with
    | [] => some ""
    | c :: col =>
      if c = '#' then
        match col with
        | [a, b, d] => some (String.ofList [a, a, b, b, d, d])
        | _ => if col.length = 6 then some (String.ofList col) else none
      else if "var".toList.isPrefixOf (c :: col) || "calc".toList.isPrefixOf (c :: col) then
        some text
      else none

/-- The assertion that stops a build at a colour it refuses. -/
def colorError (text : String) : String := "wrong color format " ++ OptionValue.quoted text

/-- A colour as the style keeps it, or the assertion that refuses it. -/
def readColor (text : String) : Except String String :=
  match colorFormat text with
  | some c => .ok c
  | none => .error (colorError text)

/-! ## Entries -/

/-- The look a style's table gives one kind: a colour, bold, italic, underline, a background
colour, a border colour and the roman, sans and mono fonts. The empty colour is none. -/
structure Entry where
  color : String := ""
  bold : Bool := false
  italic : Bool := false
  underline : Bool := false
  bgcolor : String := ""
  border : String := ""
  roman : Bool := false
  sans : Bool := false
  mono : Bool := false
  deriving DecidableEq, Repr, Inhabited

/-- An entry changed by one word of a definition; a word that is none of the others is the
colour. -/
def Entry.word (e : Entry) (w : String) : Except String Entry :=
  if w = "noinherit" then .ok e
  else if w = "bold" then .ok { e with bold := true }
  else if w = "nobold" then .ok { e with bold := false }
  else if w = "italic" then .ok { e with italic := true }
  else if w = "noitalic" then .ok { e with italic := false }
  else if w = "underline" then .ok { e with underline := true }
  else if w = "nounderline" then .ok { e with underline := false }
  else if "bg:".isPrefixOf w then (readColor (w.drop 3).toString).map ({ e with bgcolor := · })
  else if "border:".isPrefixOf w then (readColor (w.drop 7).toString).map ({ e with border := · })
  else if w = "roman" then .ok { e with roman := true }
  else if w = "sans" then .ok { e with sans := true }
  else if w = "mono" then .ok { e with mono := true }
  else (readColor w).map ({ e with color := · })

/-- The words of a definition: the runs of characters between blanks. -/
def words (d : String) : List String :=
  ((d.toList.splitOnP Chars.isBlank).filter (· ≠ [])).map String.ofList

/-- A colour as a style reports it: none for the empty colour, and the colour an ansi name
stands for in its place. -/
def reportColor (c : String) : Option String :=
  if c = "" then none else some ((ansiColors.lookup c).getD c)

/-- The ansi name of a colour, when it is one. -/
def ansiName (c : String) : Option String :=
  if (ansiColors.lookup c).isSome then some c else none

/-- A kind's look as a style reports it. -/
structure TokenStyle where
  color : Option String
  bold : Bool
  italic : Bool
  underline : Bool
  bgcolor : Option String
  border : Option String
  roman : Bool
  sans : Bool
  mono : Bool
  ansicolor : Option String
  bgansicolor : Option String
  deriving DecidableEq, Repr

/-- An entry as the style reports it. -/
def Entry.report (e : Entry) : TokenStyle where
  color := reportColor e.color
  bold := e.bold
  italic := e.italic
  underline := e.underline
  bgcolor := reportColor e.bgcolor
  border := if e.border = "" then none else some e.border
  roman := e.roman
  sans := e.sans
  mono := e.mono
  ansicolor := ansiName e.color
  bgansicolor := ansiName e.bgcolor

/-! ## Building a style -/

/-- The definitions of a style and the colours around its lines; a colour of `none` is no
colour. -/
structure Spec where
  styles : List (TokenKind × String)
  backgroundColor : Option String := some "#ffffff"
  highlightColor : Option String := some "#ffffcc"
  lineNumberColor : Option String := some "inherit"
  lineNumberBackgroundColor : Option String := some "transparent"
  lineNumberSpecialColor : Option String := some "#000000"
  lineNumberSpecialBackgroundColor : Option String := some "#ffffc0"

namespace Spec

variable (sp : Spec)

/-- The definition of a kind; a kind the style does not define has the empty one. -/
def definition (k : TokenKind) : String := (sp.styles.lookup k).getD ""

/-- The kinds the style defines, then every standard kind it does not define. -/
def keys : List TokenKind :=
  sp.styles.map (·.1) ++
    (TokenKind.standardNames.map (·.1)).filter fun k => (sp.styles.lookup k).isNone

/-- The entry of a kind, from the table built so far, which holds the kinds above it: that of
the kind above (of the root, for `noinherit`), changed by the words of its definition. -/
def entry (tbl : List (TokenKind × Entry)) (k : TokenKind) : Except String Entry :=
  let ws := words (sp.definition k)
  let base : Entry :=
    match k.parent? >>= fun p => tbl.lookup p with
    | none => {}
    | some e => if ws.contains "noinherit" then (tbl.lookup TokenKind.root).getD {} else e
  ws.foldlM Entry.word base

/-- The table with a kind added, unless it holds it already. -/
def add (tbl : List (TokenKind × Entry)) (k : TokenKind) : Except String (List (TokenKind × Entry)) :=
  if (tbl.lookup k).isSome then .ok tbl
  else (sp.entry tbl k).map fun e => tbl ++ [(k, e)]

/-- The table of a style: every key with the kinds above it, each kind after those above it. -/
def table : Except String (List (TokenKind × Entry)) :=
  sp.keys.foldlM (fun tbl key => key.chain.foldlM sp.add tbl) []

end Spec

/-- A style whose definitions build, with the table they give. -/
structure Built where
  spec : Spec
  table : List (TokenKind × Entry)
  builds : spec.table = .ok table

/-- The style that definitions build, or the assertion that stops the build. -/
def Spec.build (sp : Spec) : Except String Built :=
  match h : sp.table with
  | .ok tbl => .ok ⟨sp, tbl, h⟩
  | .error e => .error e

namespace Built

variable (st : Built)

/-- A kind's look as the style reports it, for a kind of its table. -/
def styleFor? (k : TokenKind) : Option TokenStyle := (st.table.lookup k).map Entry.report

/-- The looks of the table's kinds, in the order of the table. -/
def reports : List (TokenKind × TokenStyle) := st.table.map fun p => (p.1, p.2.report)

/-- The nearest kind at or above `k` that the table holds. -/
def owner (k : TokenKind) : TokenKind :=
  k.nearest fun a => (st.table.lookup a).isSome

end Built

end Style

end Highlight
