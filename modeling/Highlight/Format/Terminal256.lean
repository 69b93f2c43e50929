import Highlight.Format.Terminal
import Highlight.Format.Latex

/-!
# 256-colour and true-colour terminal output

These outputs take their colours from a style. Each kind of the style's table gets a pair of
SGR sequences (`Escape.codes256`, `Escape.codesTrue`): one that sets the look, written before
each non-empty piece of a token's lines, and one that undoes it, written after the piece
(`styledToken`). A token takes the pair of the nearest kind at or above it that has one, the
root left out; a token with none is written as it is.

With 256 colours an ANSI colour name is written with the console's code of its colour, and
any other colour as the xterm colour nearest to it (`closestColor`); with true colours a colour
is written as its red, green and blue. A colour is read as a number in base 16 the way `int`
reads it (`hexInt?`); with 256 colours one that is no number is black, with true colours it is
left out.

Not modelled: line numbers and the styles that are given by name.
-/

set_option autoImplicit false

namespace Highlight.Terminal

open Style

/-! ## Colours -/

/-- The number `int(text, 16)` reads: blanks around it, a sign, an optional `0x` and one
underscore after it, then digits with single underscores between them. -/
def hexInt? (text : List Char) : Option Int :=
  let t := strip' (strip' text).reverse |>.reverse
  let (neg, t) := match t with
    | '-' :: r => (true, r)
    | '+' :: r => (false, r)
    | r => (false, r)
  let t := match t with
    | '0' :: x :: r => if x = 'x' ∨ x = 'X' then (match r with | '_' :: r' => r' | r' => r') else t
    | _ => t
  let groups := t.splitOn '_'
  if groups.any (·.isEmpty) then none
  else do
    let ds ← groups.flatten.mapM Latex.hexDigit?
    let n : Int := ds.foldl (fun acc d => 16 * acc + Int.ofNat d) 0
    pure (if neg then -n else n)
where
  /-- The text with the blanks at its start taken off. -/
  strip' (l : List Char) : List Char := l.dropWhile Chars.isBlank

/-- The levels of red, green and blue in xterm's colour cube. -/
def cubeLevels : List Nat := [0x00, 0x5f, 0x87, 0xaf, 0xd7, 0xff]

/-- The colours of xterm by number: the sixteen system colours, the cube of six levels of
red, green and blue (one more step, which wraps to black), and the grays. -/
def xtermColors : List (Nat × Nat × Nat) :=
  [(0x00, 0x00, 0x00), (0xcd, 0x00, 0x00), (0x00, 0xcd, 0x00), (0xcd, 0xcd, 0x00),
    (0x00, 0x00, 0xee), (0xcd, 0x00, 0xcd), (0x00, 0xcd, 0xcd), (0xe5, 0xe5, 0xe5),
    (0x7f, 0x7f, 0x7f), (0xff, 0x00, 0x00), (0x00, 0xff, 0x00), (0xff, 0xff, 0x00),
    (0x5c, 0x5c, 0xff), (0xff, 0x00, 0xff), (0x00, 0xff, 0xff), (0xff, 0xff, 0xff)] ++
  (List.range 217).map (fun i =>
    (cubeLevels.getD (i / 36 % 6) 0, cubeLevels.getD (i / 6 % 6) 0, cubeLevels.getD (i % 6) 0)) ++
  (List.range 21).map fun i => (8 + (i + 1) * 10, 8 + (i + 1) * 10, 8 + (i + 1) * 10)

/-- The number of the first of xterm's colours nearest to a colour, by the sum of the squares
of the differences of red, green and blue. -/
def closestColor (r g b : Int) : Nat :=
  ((xtermColors.zip (List.range 254)).foldl (fun (best : Nat × Int) ci =>
      let d := (r - ci.1.1) * (r - ci.1.1) + (g - ci.1.2.1) * (g - ci.1.2.1) +
        (b - ci.1.2.2) * (b - ci.1.2.2)
      if d < best.2 then (ci.2, d) else best)
    (0, 257 * 257 * 3)).1

/-- The red, green and blue of a number, its three lowest bytes. -/
def rgbOf (rgb : Int) : Int × Int × Int := (rgb / 65536 % 256, rgb / 256 % 256, rgb % 256)

/-- A colour as the 256-colour output writes it: an ANSI name by its console code, any other
colour by the number of the xterm colour nearest to it. -/
inductive Color256
  | ansi (name : String)
  | index (n : Nat)

/-- The colour a style's colour is written as; a colour that is no number is black. -/
def colorIndex (color : String) : Color256 :=
  if (ansiColors.lookup color).isSome then .ansi color
  else
    let (r, g, b) := rgbOf ((hexInt? color.toList).getD 0)
    .index (closestColor r g b)

/-- The red, green and blue of a style's colour, when it is a number. -/
def colorTuple (color : String) : Option (Nat × Nat × Nat) :=
  (hexInt? color.toList).map fun rgb =>
    let (r, g, b) := rgbOf rgb
    (r.toNat, g.toNat, b.toNat)

/-! ## Escape sequences -/

/-- What the sequences of a kind set: the colours and the attributes. -/
structure Escape (C : Type) where
  fg : Option C := none
  bg : Option C := none
  bold : Bool := false
  underline : Bool := false
  italic : Bool := false

/-- Whether `p` stands in `s`. -/
def holds (p : List Char) : List Char → Bool
  | [] => p.isEmpty
  | c :: s => p.isPrefixOf (c :: s) || holds p s

/-- The two characters after `ESC [` of an ANSI name's console code. The names are those of
the style's ANSI colours, each of which starts with `ansi` once, so `replace` drops the first
four characters. -/
def ansiParam (name : String) : String :=
  String.ofList (((code (String.ofList (name.toList.drop 4))).drop 2).take 2)

/-- The parameters of the attributes. -/
def flagParams (bold underline italic : Bool) : List String :=
  (if bold then ["01"] else []) ++ (if underline then ["04"] else []) ++
    (if italic then ["03"] else [])

/-- The sequence that undoes a kind's look: the default colours for those it sets, and every
attribute off when it sets one. -/
def resetFor (fg bg flags : Bool) : List Char :=
  sgr ((if fg then ["39"] else []) ++ (if bg then ["49"] else []) ++ (if flags then ["00"] else []))

/-- The two sequences of a kind in 256-colour output. A foreground ANSI colour whose code held
`;01m` would make the look bold. -/
def Escape.codes256 (e : Escape Color256) : List Char × List Char :=
  let (fgParams, bold) : List String × Bool := match e.fg with
    | some (.ansi n) => ([ansiParam n], e.bold || holds ";01m".toList (code (String.ofList (n.toList.drop 4))))
    | some (.index i) => (["38", "5", toString i], e.bold)
    | none => ([], e.bold)
  let bgParams : List String := match e.bg with
    | some (.ansi n) => [toString ((ansiParam n).toNat?.getD 0 + 10)]
    | some (.index i) => ["48", "5", toString i]
    | none => []
  (sgr (fgParams ++ bgParams ++ flagParams bold e.underline e.italic),
    resetFor e.fg.isSome e.bg.isSome (bold || e.underline || e.italic))

/-- The parameters of a colour in red, green and blue, after `lead`. -/
def rgbParams (lead : String) : Option (Nat × Nat × Nat) → List String
  | some (r, g, b) => [lead, "2", toString r, toString g, toString b]
  | none => []

/-- The two sequences of a kind in true-colour output. -/
def Escape.codesTrue (e : Escape (Nat × Nat × Nat)) : List Char × List Char :=
  (sgr (rgbParams "38" e.fg ++ rgbParams "48" e.bg ++ flagParams e.bold e.underline e.italic),
    resetFor e.fg.isSome e.bg.isSome (e.bold || e.underline || e.italic))

/-! ## Output -/

/-- The options of 256-colour and true-colour output that this library reads: each attribute
is drawn unless an option `nobold`, `nounderline` or `noitalic` is given, whatever its value. -/
structure StyledSettings where
  usebold : Bool := true
  useunderline : Bool := true
  useitalic : Bool := true

/-- The settings that options give. -/
def StyledSettings.ofOptions (opts : Options) : StyledSettings where
  usebold := (opts.find? "nobold").isNone
  useunderline := (opts.find? "nounderline").isNone
  useitalic := (opts.find? "noitalic").isNone

/-- What a look sets, its colours read by `read` (the ANSI name first, when `ansi`), the
attributes as the settings allow. -/
def StyledSettings.escape {C : Type} (s : StyledSettings) (read : String → Option C) (ansi : Bool)
    (t : TokenStyle) : Escape C where
  fg := (if ansi then t.ansicolor.or t.color else t.color).bind read
  bg := (if ansi then t.bgansicolor.or t.bgcolor else t.bgcolor).bind read
  bold := s.usebold && t.bold
  underline := s.useunderline && t.underline
  italic := s.useitalic && t.italic

/-- The sequences of each kind of a style, under the kind's dotted name; a name met twice keeps
the later pair. -/
def StyledSettings.codes (s : StyledSettings) (trueColor : Bool) (st : Built) :
    List (String × List Char × List Char) :=
  st.reports.foldl (fun acc p => assign acc p.1.dotted
    (if trueColor then (s.escape colorTuple false p.2).codesTrue
    else (s.escape (some ∘ colorIndex) true p.2).codes256)) []

/-- A token as styled output writes it: each non-empty piece of its lines between the pair of
the nearest kind at or above it that has one, the root left out; as it is when none has. -/
def styledToken (codes : List (String × List Char × List Char)) (k : TokenKind) (value : String) :
    List Char :=
  match (k.chain.drop 1).reverse.findSome? fun a => codes.lookup a.dotted with
  | some (on, off) => wrapPieces (fun piece => on ++ piece ++ off) value
  | none => value.toList

/-- The 256-colour or true-colour output of a token stream in a style. -/
def StyledSettings.format (s : StyledSettings) (trueColor : Bool) (st : Built)
    (ts : List (TokenKind × String)) : String :=
  let codes := s.codes trueColor st
  String.ofList (ts.flatMap fun t => styledToken codes t.1 t.2)

end Highlight.Terminal
