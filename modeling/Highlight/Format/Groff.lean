import Highlight.Format.Terminal

/-!
# Groff output

Groff output is a `.nf` block for groff's `man` and `ms` macros: no filling, the monospaced
regular font, then the text of the tokens and `.fi`. Before it, each colour of the style is
defined once (`defineColors`).

A token's text is cut into lines at every character that ends one, keeping that character.
Each line is written without its line feed, with the characters groff would take for commands
written as escapes (`escape`), and inside the escapes of its token's look when it has one: its
colour (`\m[…]`), bold and italic fonts (`\f[…]`) and its background (`\M[…]`), closed after the
line in the opposite order (`Settings.escapes`). The line feed follows.

With a positive `wrap`, each line is first wrapped (`wrapLine`): a line longer than the width is
cut into pieces of the width, each followed by a line feed; a line that does not fit after what
is already on the current line is moved to a new one. The formatter counts what is on the
current line as it goes (`Place.col`). With `linenos`, every line starts with its number
(`lineNumber`), and a break that wrapping puts in is followed by five spaces.
-/

set_option autoImplicit false

namespace Highlight.Groff

/-- The options of groff output. -/
structure Settings where
  monospaced : Bool := true
  linenos : Bool := false
  wrap : Int := 0
  deriving DecidableEq, Repr

/-- The settings that options give, read in this order. -/
def Settings.ofOptions (opts : Options) : Except OptionError Settings := do
  let monospaced ← opts.flag "monospaced" true
  let linenos ← opts.flag "linenos" false
  let wrap ← opts.number "wrap" 0
  pure { monospaced, linenos, wrap }

/-! ## Looks -/

/-- The escape of a font face, in the monospaced family or the plain one. -/
def Settings.font (s : Settings) (face : String) : String :=
  "\\f[" ++ (if s.monospaced then "C" ++ face else face) ++ "]"

/-- A colour that is given and not empty. -/
def given (c : Option String) : Option String := c.filter (· ≠ "")

/-- The escapes a look opens and closes, in the order they are opened: the colour, bold, italic,
then the background; a font is closed by going back to the regular face. -/
def Settings.layers (s : Settings) (t : Style.TokenStyle) : List (String × String) :=
  ((given t.color).map fun c => ("\\m[" ++ c ++ "]", "\\m[]")).toList ++
    (if t.bold then [(s.font "B", s.font "R")] else []) ++
    (if t.italic then [(s.font "I", s.font "R")] else []) ++
    ((given t.bgcolor).map fun c => ("\\M[" ++ c ++ "]", "\\M[]")).toList

/-- What goes before a line of a look and what goes after it. -/
def Settings.escapes (s : Settings) (t : Style.TokenStyle) : String × String :=
  (String.join ((s.layers t).map Prod.fst), String.join ((s.layers t).reverse.map Prod.snd))

/-- The escapes around the lines of a kind: those of the nearest kind at or above it that the
style's table holds. -/
def Settings.look (s : Settings) (st : Style.Built) (k : TokenKind) : String × String :=
  match st.styleFor? (st.owner k) with
  | some t => s.escapes t
  | none => ("", "")

/-- The colours the style's table gives, each once, sorted. -/
def colors (st : Style.Built) : List String :=
  (st.reports.filterMap fun p => p.2.color).eraseDups.mergeSort fun a b => decide (a ≤ b)

/-- A colour definition for each colour of the style. -/
def defineColors (st : Style.Built) : List Char :=
  (colors st).flatMap fun c => (".defcolor " ++ c ++ " rgb #" ++ c ++ "\n").toList

/-! ## Characters -/

/-- The characters groff takes for commands, by code point, with the names of the glyphs written
for them: the backslash, the period, the apostrophe, the grave accent and the tilde. -/
def named : List (Nat × String) :=
  [(92, "u005C"), (46, "char46"), (39, "u0027"), (96, "u0060"), (126, "u007E")]

/-- A hexadecimal digit, in upper case. -/
def hexDigit (d : Nat) : Char := if d < 10 then Char.ofNat (48 + d) else Char.ofNat (55 + d)

/-- The last `width` hexadecimal digits of a number. -/
def hexDigits : Nat → Nat → List Char
  | 0, _ => []
  | width + 1, n => hexDigits width (n / 16) ++ [hexDigit (n % 16)]

/-- The name of the glyph a character is written as, when it is not written as itself: a
character taken for a command has its own name, other ASCII characters stand for themselves, and
any other is named by `u` and its code point in four hexadecimal digits, or eight outside the
basic plane. -/
def glyphName (c : Char) : Option (List Char) :=
  match named.lookup c.toNat with
  | some name => some name.toList
  | none =>
    if c.toNat < 128 then none
    else some ('u' :: hexDigits (if c.toNat < 65536 then 4 else 8) c.toNat)

/-- A character as groff text: itself, or the escape of its glyph, its name in `\[…]`. -/
def escapeChar (c : Char) : List Char :=
  match glyphName c with
  | some name => '\\' :: '[' :: name ++ [']']
  | none => [c]

/-- A text as groff text. -/
def escape (s : List Char) : List Char := s.flatMap escapeChar

/-! ## Lines -/

/-- Where the writer is: the characters on the current line as it counts them, and the number
of the last line number written. -/
structure Place where
  col : Nat
  lineno : Nat
  deriving DecidableEq, Repr

/-- A line (with the characters that end it) wrapped at width `w` when `col` characters are on
the current line already, and the count after it. A line longer than `w` is cut into pieces of
`w` characters, each followed by a line feed and `space`; what is left over is taken from the
end of the line, with one character before it. A line that does not fit after the `col` goes to
a new line. -/
def wrapLine (w : Nat) (space : List Char) (col : Nat) (line : List Char) : List Char × Nat :=
  let length := (Terminal.chomp line).length
  if w < length then
    let pieces := (List.range (length / w)).flatMap fun i =>
      (line.drop (i * w)).take w ++ '\n' :: space
    if length % w = 0 then (pieces, col)
    else (pieces ++ line.drop (line.length - (length % w + 1)), length % w)
  else if w < col + length then ('\n' :: space ++ line, length)
  else (line, col + length)

/-- The `n`th line number as written: a line feed before every number but the first, then the
number right-aligned after a place for its sign, in four places at least, and a space. -/
def lineNumber (n : Nat) : List Char :=
  let digits := ' ' :: (toString n).toList
  (if n = 1 then [] else ['\n']) ++ List.replicate (4 - digits.length) ' ' ++ digits ++ [' ']

/-- A line as written from place `p`, inside `look` (what goes before and after it), and the
place after it: wrapped when wrapping is on, escaped without its line feed (nothing at all for
an empty line with a look), then its break, which is the next line number when lines are
numbered. -/
def Settings.writeLine (s : Settings) (look : String × String) (p : Place) (line : List Char) :
    List Char × Place :=
  let wrapped := if 0 < s.wrap then
      wrapLine s.wrap.toNat (if s.linenos then List.replicate 5 ' ' else []) p.col line
    else (line, p.col)
  let text := escape (Terminal.chomp wrapped.1)
  let body := if look.1 ≠ "" ∧ look.2 ≠ "" then
      (if text = [] then [] else look.1.toList ++ text ++ look.2.toList)
    else text
  if wrapped.1.getLast? = some '\n' then
    if s.linenos then (body ++ lineNumber (p.lineno + 1), ⟨0, p.lineno + 1⟩)
    else (body ++ ['\n'], ⟨0, p.lineno⟩)
  else (body, ⟨wrapped.2, p.lineno⟩)

/-- The lines of a stream, each with the look of its token. -/
def Settings.lines (s : Settings) (st : Style.Built) (ts : List (TokenKind × String)) :
    List ((String × String) × List Char) :=
  ts.flatMap fun t => (Lexers.splitLinesKeep t.2).map fun l => (s.look st t.1, l.toList)

/-- Lines written one after another from place `p`. -/
def Settings.body (s : Settings) : Place → List ((String × String) × List Char) → List Char
  | _, [] => []
  | p, l :: ls => (s.writeLine l.1 p l.2).1 ++ s.body (s.writeLine l.1 p l.2).2 ls

/-- The groff output of a token stream. -/
def Settings.format (s : Settings) (st : Style.Built) (ts : List (TokenKind × String)) : String :=
  String.ofList (defineColors st ++ ".nf\n\\f[CR]\n".toList ++
    (if s.linenos then lineNumber 1 else []) ++
    s.body ⟨0, if s.linenos then 1 else 0⟩ (s.lines st ts) ++ "\n.fi".toList)

end Highlight.Groff
