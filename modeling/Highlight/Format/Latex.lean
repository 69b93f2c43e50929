import Highlight.Format.Style
import Highlight.Chars.Decimal

/-!
# LaTeX output

LaTeX output writes each token as `\PY{names}{text}`: `names` are the LaTeX names of the kinds
from the top of the tree down to the token's kind, joined by `+` (`chainNames`), and the text is
escaped (`escape`). Which look a name stands for is decided when the output is set up: each kind
of the style's table whose look sets something gets a command (`command`), the settings of the
macros `@bf`, `@it`, `@ul`, `@ff`, `@tc` and `@bc` that draw it, under the kind's name; when
two kinds share a name, the later one's command stays. A token is drawn with the macros as the
commands of its names leave them, one after another (`Sheet.slots`).

Colours are written as three fractions of 255 to two places (`rgbcolor`), each read from a
pair of characters as `int(pair, 16)` reads it (`shortHex?`); a pair that is no number stops the
set-up with the `ValueError` that names it (`ColorFault`).

Not modelled: whole documents (`full`) and the definitions of the macros that go with them.
-/

set_option autoImplicit false

namespace Highlight.Latex

open Style

/-! ## Colours -/

/-- Why a colour cannot be written: a pair of characters that is no number in base 16, or a
colour too short for its three pairs. -/
inductive ColorFault
  | notHex (pair : String)
  | tooShort
  deriving DecidableEq, Repr

/-- The name of the error a fault raises. -/
def ColorFault.kind : ColorFault → String
  | .notHex _ => "ValueError"
  | .tooShort => "IndexError"

/-- The message of the error a fault raises. -/
def ColorFault.message : ColorFault → String
  | .notHex p => "invalid literal for int() with base 16: " ++ OptionValue.quoted p
  | .tooShort => "string index out of range"

/-- The value of a digit in base 16: `0`–`9`, `a`–`f` and `A`–`F`, and a decimal digit of any
script, which `int` reads as the digit of its value. -/
def hexDigit? (c : Char) : Option Nat :=
  if 'a' ≤ c ∧ c ≤ 'f' then some (c.toNat - 'a'.toNat + 10)
  else if 'A' ≤ c ∧ c ≤ 'F' then some (c.toNat - 'A'.toNat + 10)
  else Chars.decimalValue? c

/-- The number `int(text, 16)` reads from a text of at most two characters: blanks at its ends
taken off, then one digit, two digits, or a sign and a digit. -/
def shortHex? (text : List Char) : Option Int :=
  match text.filter (!Chars.isBlank ·) with
  | [a] => (hexDigit? a).map Int.ofNat
  | ['+', b] => (hexDigit? b).map Int.ofNat
  | ['-', b] => (hexDigit? b).map fun n => -(n : Int)
  | [a, b] => do
    let x ← hexDigit? a
    let y ← hexDigit? b
    pure (16 * x + y : Nat)
  | _ => none

/-- `n / 255` written to two places, as `%.2f` writes it: `n / 255` is never halfway between two
hundredths, so rounding it is rounding to the nearest. -/
def fraction (n : Int) : String :=
  let m := (200 * n.natAbs + 255) / 510
  (if n < 0 then "-" else "") ++ toString (m / 100) ++ "." ++
    (if m % 100 < 10 then "0" else "") ++ toString (m % 100)

/-- The number a pair of characters of a colour stands for, from the `i`-th character on. -/
def pairAt (col : List Char) (i : Nat) : Except ColorFault Int :=
  match col.drop i with
  | a :: b :: _ =>
    match shortHex? [a, b] with
    | some n => .ok n
    | none => .error (.notHex (String.ofList [a, b]))
  | _ => .error .tooShort

/-- A colour as LaTeX output writes it: its three pairs as fractions of 255, joined by commas;
no colour is white. -/
def rgbcolor (col : String) : Except ColorFault String :=
  if col = "" then .ok "1,1,1"
  else do
    let ns ← [0, 2, 4].mapM (pairAt col.toList)
    pure (",".intercalate (ns.map fraction))

/-! ## Commands -/

/-- A text in braces. -/
def brace (s : String) : String := "\x7b" ++ s ++ "\x7d"

/-- One setting of a macro that a command makes. -/
inductive TexSet
  /-- `\let\PY@bf=\textbf`. -/
  | bf
  /-- `\let\PY@it=\textit`. -/
  | it
  /-- `\let\PY@ul=\underline`. -/
  | ul
  /-- `\let\PY@ff` to a font command. -/
  | ff (font : String)
  /-- `\PY@tc` as a text colour. -/
  | tc (rgb : String)
  /-- `\PY@bc` as a frame of colour `border` around a background. -/
  | frame (border bg : String)
  /-- `\PY@bc` as a background. -/
  | box (bg : String)
  deriving DecidableEq, Repr

/-- A setting as a command writes it, for the command prefix `cp`. -/
def TexSet.text (cp : String) : TexSet → String
  | .bf => "\\let\\" ++ cp ++ "@bf=\\textbf"
  | .it => "\\let\\" ++ cp ++ "@it=\\textit"
  | .ul => "\\let\\" ++ cp ++ "@ul=\\underline"
  | .ff font => "\\let\\" ++ cp ++ "@ff=\\" ++ font
  | .tc rgb => "\\def\\" ++ cp ++ "@tc##1" ++ brace ("\\textcolor[rgb]" ++ brace rgb ++ brace "##1")
  | .frame b g => "\\def\\" ++ cp ++ "@bc##1" ++ brace (brace ("\\setlength" ++ brace "\\fboxsep" ++
      brace "\\string -\\fboxrule" ++ "\\fcolorbox[rgb]" ++ brace b ++ brace g ++ brace "\\strut ##1"))
  | .box g => "\\def\\" ++ cp ++ "@bc##1" ++ brace (brace ("\\setlength" ++ brace "\\fboxsep" ++
      brace "0pt" ++ "\\colorbox[rgb]" ++ brace g ++ brace "\\strut ##1"))

/-- The setting of a text colour. -/
def colorSets : Option String → Except ColorFault (List TexSet)
  | some c => (rgbcolor c).map fun r => [.tc r]
  | none => pure []

/-- The setting of a box: a frame when there is a border (around white when there is no
background), a background otherwise. -/
def boxSets : Option String → Option String → Except ColorFault (List TexSet)
  | some b, bg => rgbcolor b >>= fun rb => (rgbcolor (bg.getD "")).map fun rg => [.frame rb rg]
  | none, some bg => (rgbcolor bg).map fun rg => [.box rg]
  | none, none => pure []

/-- The command that draws a look: bold, italic, underline, the fonts (mono as sans), the text
colour, then the box. -/
def command (t : TokenStyle) : Except ColorFault (List TexSet) :=
  colorSets t.color >>= fun tc => boxSets t.border t.bgcolor >>= fun bc =>
    pure ((if t.bold then [.bf] else []) ++ (if t.italic then [.it] else []) ++
      (if t.underline then [.ul] else []) ++ (if t.roman then [.ff "textrm"] else []) ++
      (if t.sans then [.ff "textsf"] else []) ++ (if t.mono then [.ff "textsf"] else []) ++ tc ++ bc)

/-- The LaTeX name of a kind: its names run together below the nearest standard kind. -/
def kindName (k : TokenKind) : String := TokenKind.joinedNameUp "" k.path.reverse

/-- The commands of a style's kinds, under their names. -/
structure Sheet where
  nameCommand : List (String × List TexSet)

/-- The sheet of a style, or the fault of the first colour it cannot write. -/
def sheet (st : Built) : Except ColorFault Sheet :=
  st.reports.foldlM (fun sh p => do
      let sets ← command p.2
      pure (if sets = [] then sh else ⟨assign sh.nameCommand (kindName p.1) sets⟩))
    ⟨[]⟩

/-- The names a token of kind `k` is written with: those of the kinds from the top of the tree
down to `k`, the root left out. -/
def chainNames (k : TokenKind) : List String := (k.chain.drop 1).map kindName

/-! ## Drawing -/

/-- What the macros draw: bold, italic, underline, the font, the text colour and the box, each
unset until a command sets it. -/
structure Slots where
  bf : Bool := false
  it : Bool := false
  ul : Bool := false
  ff : Option String := none
  tc : Option String := none
  bc : Option TexSet := none
  deriving DecidableEq, Repr

/-- The macros after one more setting. -/
def Slots.set (s : Slots) : TexSet → Slots
  | .bf => { s with bf := true }
  | .it => { s with it := true }
  | .ul => { s with ul := true }
  | .ff font => { s with ff := some font }
  | .tc rgb => { s with tc := some rgb }
  | .frame b g => { s with bc := some (.frame b g) }
  | .box g => { s with bc := some (.box g) }

/-- The macros that `\PY{names}{...}` draws with: reset, then set by the command of each name
the sheet has, in order. -/
def Sheet.slots (sh : Sheet) (names : String) : Slots :=
  (names.toList.splitOn '+').foldl
    (fun s n => ((sh.nameCommand.lookup (String.ofList n)).getD []).foldl Slots.set s) {}

/-! ## Output -/

/-- The options of LaTeX output that this library reads. -/
structure Settings where
  nowrap : Bool := false
  linenos : Bool := false
  linenostart : Nat := 1
  linenostep : Nat := 1
  verboptions : String := ""
  commandprefix : String := "PY"
  texcomments : Bool := false
  mathescape : Bool := false
  /-- The two characters around escaped text in comments, when given. -/
  escapeinside : Option (Char × Char) := none
  envname : String := "Verbatim"

/-- The settings that options give, read in the order output reads them. -/
def Settings.ofOptions (opts : Options) : Except OptionError Settings := do
  let _ ← opts.flag "full" false
  let nowrap ← opts.flag "nowrap" false
  let linenos ← opts.flag "linenos" false
  let linenostart ← opts.number "linenostart" 1
  let linenostep ← opts.number "linenostep" 1
  let _ ← opts.flag "nobackground" false
  let texcomments ← opts.flag "texcomments" false
  let mathescape ← opts.flag "mathescape" false
  pure { nowrap, linenos, texcomments, mathescape
         linenostart := linenostart.natAbs
         linenostep := linenostep.natAbs
         verboptions := opts.text "verboptions" ""
         commandprefix := opts.text "commandprefix" "PY"
         escapeinside := match (opts.text "escapeinside" "").toList with
           | [l, r] => some (l, r)
           | _ => none
         envname := opts.text "envname" "Verbatim" }

/-- A text with every `c` in it replaced by `r`: one pass of a replacement whose pattern is one
character. -/
def replaceChar (c : Char) (r : String) (s : String) : String :=
  String.ofList (s.toList.flatMap fun x => if x = c then r.toList else [x])

/-- The characters that escaping writes as macros, each with the two letters of its macro's
name: the three that stand for `\` and the braces while escaping, then the others. -/
def macroNames : List (Char × String) :=
  [('\x00', "bs"), ('\x01', "ob"), ('\x02', "cb"), ('^', "ca"), ('_', "us"), ('&', "am"),
    ('<', "lt"), ('>', "gt"), ('#', "sh"), ('%', "pc"), ('$', "dl"), ('-', "hy"), ('\x27', "sq"),
    ('\x22', "dq"), ('~', "ti")]

/-- The macro `\cpZxx{}` of the name `xx`. -/
def zMacro (cp name : String) : String := "\\" ++ cp ++ "Z" ++ name ++ brace ""

/-- The replacements that escape a text, made one after another over the whole text: `\` and
the braces first become three characters that stand for them, which are then replaced by their
macros first among the others. -/
def escapeSteps (cp : String) : List (Char × String) :=
  [('\\', "\x00"), ('\x7b', "\x01"), ('\x7d', "\x02")] ++ macroNames.map fun m => (m.1, zMacro cp m.2)

/-- A text as LaTeX output writes it. -/
def escape (cp : String) (s : String) : String :=
  (escapeSteps cp).foldl (fun acc r => replaceChar r.1 r.2 acc) s

/-- A comment with escaped text between `l` and `r`, read from left to right with the text `a`
before an `l` so far and, after an `l`, the text `b` read since: the text between them is written
as it is, the rest escaped; an `l` with no `r` after it is escaped with the rest. -/
def escapeInside (cp : String) (l r : Char) : List Char → List Char → Option (List Char) → String
  | [], a, none => escape cp (String.ofList a)
  | [], a, some b => escape cp (String.ofList (a ++ l :: b))
  | c :: cs, a, none =>
    if c = l then escapeInside cp l r cs a (some []) else escapeInside cp l r cs (a ++ [c]) none
  | c :: cs, a, some b =>
    if c = r then escape cp (String.ofList a) ++ String.ofList b ++ escapeInside cp l r cs [] none
    else escapeInside cp l r cs a (some (b ++ [c]))

/-- A token's text as LaTeX output writes it: a comment as the options for comments say, a
token of the escape kinds as it is, any other escaped. -/
def Settings.text (s : Settings) (k : TokenKind) (value : String) : String :=
  let cp := s.commandprefix
  if TokenKind.comment.contains k then
    if s.texcomments then
      -- the first character and its repeats open the comment and are escaped
      match value.toList with
      | [] => ""
      | c :: cs => escape cp (String.ofList (c :: cs.takeWhile (· = c))) ++
          String.ofList (cs.dropWhile (· = c))
    else if s.mathescape then
      "$".intercalate ((value.splitOn "$").mapIdx fun i part => if i % 2 = 0 then escape cp part else part)
    else match s.escapeinside with
      | some (l, r) => escapeInside cp l r value.toList [] none
      | none => escape cp value
  else if TokenKind.escape.contains k then value
  else escape cp value

/-- A token as LaTeX output writes it: each piece of its text between line breaks in a `\PY`
of its names, pieces left empty written as nothing. -/
def Settings.token (s : Settings) (k : TokenKind) (value : String) : String :=
  let value := s.text k value
  let names := "+".intercalate (chainNames k)
  if names = "" then value
  else
    let put (piece : String) : String :=
      if piece = "" then "" else "\\" ++ s.commandprefix ++ brace names ++ brace piece
    let pieces := (value.toList.splitOn '\n').map String.ofList
    String.join (pieces.dropLast.map (put · ++ "\n")) ++ put (pieces.getLastD "")

/-- The LaTeX a token stream makes: the tokens inside the environment unless `nowrap`. -/
def Settings.format (s : Settings) (ts : List (TokenKind × String)) : String :=
  let body := String.join (ts.map fun t => s.token t.1 t.2)
  if s.nowrap then body
  else
    "\\begin" ++ brace s.envname ++ "[commandchars=\\\\\\\x7b\\\x7d" ++
      (if s.linenos then
        ",numbers=left" ++ (if s.linenostart = 0 then "" else ",firstnumber=" ++ toString s.linenostart) ++
          (if s.linenostep = 0 then "" else ",stepnumber=" ++ toString s.linenostep)
      else "") ++
      (if s.mathescape || s.texcomments || s.escapeinside.isSome then
        ",codes=" ++ brace "\\catcode`\\$=3\\catcode`\\^=7\\catcode`\\_=8\\relax" else "") ++
      (if s.verboptions = "" then "" else "," ++ s.verboptions) ++ "]\n" ++
      body ++ "\\end" ++ brace s.envname ++ "\n"

end Highlight.Latex
