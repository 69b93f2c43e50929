import Highlight.Format.Style
import Highlight.Lexers.Lines

/-!
# Terminal and IRC output

Terminal output writes each line of a token with the codes of the token's colour around it
(`ansiformat`): ANSI SGR sequences `ESC [ params m` (`sgr`), whose parameters the console's
named codes give (`codeParams`), and the reset `39;49;00` after the line; the line feed goes
after the reset. The colour of a kind is the one the colour scheme gives to the nearest kind at
or above it that the scheme holds, for a light or a dark background (`schemeColor`); the root
has none.

IRC output cuts each token at its line feeds and writes each piece with IRC's control codes
around it (`ircformat`): `\x1d` for a name inside underscores, `\x02` for one inside stars,
and `\x03` with the two digits of the colour's number, each undone after the piece in the
opposite order. The colour codes have no end mark, so a reader takes digits that follow one as
part of it.

Not modelled: line numbers and colour schemes given as options.
-/

set_option autoImplicit false

namespace Highlight.Terminal

/-! ## Console codes -/

/-- The parameters of the console's named codes: the attributes, then each dark colour at
30–37 with its light twin at 90–97; `white` is set to bold after the colours. -/
def codeParams : List (String × String) :=
  [("bold", "01"), ("faint", "02"), ("standout", "03"), ("underline", "04"), ("blink", "05"),
    ("overline", "06"), ("black", "30"), ("brightblack", "90"), ("red", "31"),
    ("brightred", "91"), ("green", "32"), ("brightgreen", "92"), ("yellow", "33"),
    ("brightyellow", "93"), ("blue", "34"), ("brightblue", "94"), ("magenta", "35"),
    ("brightmagenta", "95"), ("cyan", "36"), ("brightcyan", "96"), ("gray", "37"),
    ("white", "01")]

/-- An SGR sequence: `ESC [`, the parameters joined by `;`, and `m`; no parameters write
nothing. -/
def sgr (params : List String) : List Char :=
  if params = [] then [] else '\x1b' :: '[' :: (";".intercalate params).toList ++ ['m']

/-- The code of a name: its SGR sequence, nothing for the empty name. -/
def code (name : String) : List Char := sgr (codeParams.lookup name).toList

/-- The code that turns every attribute off. -/
def reset : List Char := sgr ["39", "49", "00"]

/-- The name between two `c`, when the name begins and ends with one. -/
def inside (c : Char) (attr : List Char) : Option (List Char) :=
  if attr.head? = some c ∧ attr.getLast? = some c then some (attr.drop 1).dropLast else none

/-- The codes so far and the attribute left: the code of `name` is added when the attribute
is inside a pair of `c`, which is taken off. -/
def peel (c : Char) (name : String) (st : List Char × List Char) : List Char × List Char :=
  match inside c st.2 with
  | some a => (st.1 ++ code name, a)
  | none => st

/-- A text with the codes of an attribute before it: blinking for `+…+`, bold for `*…*`,
underlined for `_…_`, peeled in that order, then the colour named inside; the reset follows
the text. -/
def ansiformat (attr : String) (text : List Char) : List Char :=
  let st := peel '_' "underline" (peel '*' "bold" (peel '+' "blink" ([], attr.toList)))
  st.1 ++ code (String.ofList st.2) ++ text ++ reset

/-! ## Colour schemes -/

/-- The colour a scheme gives a kind on a light or a dark background: that of the nearest
kind at or above it which the scheme holds. -/
def schemeColor (scheme : List (TokenKind × String × String)) (dark : Bool) (k : TokenKind) :
    String :=
  match scheme.lookup (k.nearest fun a => (scheme.lookup a).isSome) with
  | some (light, onDark) => if dark then onDark else light
  | none => ""

open TokenKind in
/-- The colours of terminal output, for a light and a dark background. -/
def terminalColors : List (TokenKind × String × String) :=
  [(root, "", ""), (whitespace, "gray", "brightblack"), (comment, "gray", "brightblack"),
    (commentPreproc, "cyan", "brightcyan"), (keyword, "blue", "brightblue"),
    (keywordType, "cyan", "brightcyan"), (operatorWord, "magenta", "brightmagenta"),
    (nameBuiltin, "cyan", "brightcyan"), (nameFunction, "green", "brightgreen"),
    (nameNamespace, "_cyan_", "_brightcyan_"), (nameClass, "_green_", "_brightgreen_"),
    (nameException, "cyan", "brightcyan"), (nameDecorator, "brightblack", "gray"),
    (nameVariable, "red", "brightred"), (nameConstant, "red", "brightred"),
    (nameAttribute, "cyan", "brightcyan"), (nameTag, "brightblue", "brightblue"),
    (string, "yellow", "yellow"), (number, "blue", "brightblue"),
    (genericDeleted, "brightred", "brightred"), (genericInserted, "green", "brightgreen"),
    (genericHeading, "**", "**"), (genericSubheading, "*magenta*", "*brightmagenta*"),
    (genericPrompt, "**", "**"), (genericError, "brightred", "brightred"),
    (error, "_brightred_", "_brightred_")]

open TokenKind in
/-- The colours of IRC output, for a light and a dark background. -/
def ircColors : List (TokenKind × String × String) :=
  [(root, "", ""), (whitespace, "gray", "brightblack"), (comment, "gray", "brightblack"),
    (commentPreproc, "cyan", "brightcyan"), (keyword, "blue", "brightblue"),
    (keywordType, "cyan", "brightcyan"), (operatorWord, "magenta", "brightcyan"),
    (nameBuiltin, "cyan", "brightcyan"), (nameFunction, "green", "brightgreen"),
    (nameNamespace, "_cyan_", "_brightcyan_"), (nameClass, "_green_", "_brightgreen_"),
    (nameException, "cyan", "brightcyan"), (nameDecorator, "brightblack", "gray"),
    (nameVariable, "red", "brightred"), (nameConstant, "red", "brightred"),
    (nameAttribute, "cyan", "brightcyan"), (nameTag, "brightblue", "brightblue"),
    (string, "yellow", "yellow"), (number, "blue", "brightblue"),
    (genericDeleted, "brightred", "brightred"), (genericInserted, "green", "brightgreen"),
    (genericHeading, "**", "**"), (genericSubheading, "*magenta*", "*brightmagenta*"),
    (genericError, "brightred", "brightred"), (error, "_brightred_", "_brightred_")]

/-- The numbers of IRC's colours, with the ANSI names it takes as well. -/
def ircNumbers : List (String × Nat) :=
  [("white", 0), ("black", 1), ("blue", 2), ("brightgreen", 3), ("brightred", 4), ("yellow", 5),
    ("magenta", 6), ("orange", 7), ("green", 7), ("brightyellow", 8), ("lightgreen", 9),
    ("brightcyan", 9), ("cyan", 10), ("lightblue", 11), ("red", 11), ("brightblue", 12),
    ("brightmagenta", 13), ("brightblack", 14), ("gray", 15)]

/-! ## Output -/

/-- The options of terminal and IRC output that this library reads. -/
structure Settings where
  dark : Bool := false

/-- The settings that options give. -/
def Settings.ofOptions (opts : Options) : Except OptionError Settings := do
  let bg ← opts.choice "bg" ["light", "dark"] "light"
  pure { dark := bg == "dark" }

/-- A line with the line feeds at its end taken off. -/
def chomp (line : List Char) : List Char := (line.reverse.dropWhile (· = '\n')).reverse

/-- A token as terminal output writes it: each of its lines, cut after every character that
ends a line, without its line feed and in its colour's codes when it has a colour, then the
line feed. -/
def Settings.terminalToken (s : Settings) (k : TokenKind) (value : String) : List Char :=
  let color := schemeColor terminalColors s.dark k
  (Lexers.splitLinesKeep value).flatMap fun line =>
    (if color = "" then chomp line.toList else ansiformat color (chomp line.toList)) ++
      (if line.toList.getLast? = some '\n' then ['\n'] else [])

/-- The terminal output of a token stream. -/
def Settings.terminal (s : Settings) (ts : List (TokenKind × String)) : String :=
  String.ofList (ts.flatMap fun t => s.terminalToken t.1 t.2)

/-- A token's text cut at its line feeds, each piece that is not empty written by `wrap`, with
the line feeds between them. -/
def wrapPieces (wrap : List Char → List Char) (value : String) : List Char :=
  ['\n'].intercalate ((value.toList.splitOn '\n').map fun piece => if piece = [] then [] else wrap piece)

/-- A text with every `c` at its ends taken off. -/
def strip (c : Char) (l : List Char) : List Char :=
  ((l.dropWhile (· = c)).reverse.dropWhile (· = c)).reverse

/-- A number in two digits at least, with a zero before one digit. -/
def twoDigits (n : Nat) : List Char :=
  if n < 10 then '0' :: (toString n).toList else (toString n).toList

/-- A text with IRC's codes around it: `\x1d` when the colour has an underscore, `\x02` when it
has a star, then `\x03` and the number of the name left between them; each is undone after the
text, in the opposite order. -/
def ircformat (color : String) (text : List Char) : List Char :=
  if color = "" then text
  else
    let c := color.toList
    let (add, sub, c) := if '_' ∈ c then (['\x1d'], ['\x1d'], strip '_' c) else ([], [], c)
    let (add, sub, c) := if '*' ∈ c then (add ++ ['\x02'], '\x02' :: sub, strip '*' c)
      else (add, sub, c)
    let (add, sub) := if c = [] then (add, sub)
      else (add ++ '\x03' :: twoDigits ((ircNumbers.lookup (String.ofList c)).getD 0), '\x03' :: sub)
    add ++ text ++ sub

/-- A token as IRC output writes it. -/
def Settings.ircToken (s : Settings) (k : TokenKind) (value : String) : List Char :=
  wrapPieces (ircformat (schemeColor ircColors s.dark k)) value

/-- The IRC output of a token stream. -/
def Settings.irc (s : Settings) (ts : List (TokenKind × String)) : String :=
  String.ofList (ts.flatMap fun t => s.ircToken t.1 t.2)

end Highlight.Terminal
