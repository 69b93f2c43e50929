/-!
# Quoted text literals

The raw token format writes the text of each token as a quoted literal made of ASCII
characters only, and reads such literals back.

Writing (`Literal.quote`): the text goes between single quotes, or between double quotes when
it holds a single quote and no double quote. A backslash and the quote in use are written
after a backslash; tab, line feed and carriage return as `\t`, `\n` and `\r`; every other
control character and every character past ASCII as a hexadecimal escape, `\xhh`, `\uhhhh`
or `\Uhhhhhhhh`, the shortest that holds its code point, in lower-case digits.

Reading (`Literal.read`) takes a whole expression that stands for a text: one or more
literals side by side, within any number of matching parentheses, with blanks (space, tab,
form feed) between the parts, line breaks within the parentheses or after a backslash, and
comments (`#` to the end of a line) and line breaks after them. A literal may be led by `u`
or `U`, which change nothing, or by `r` or `R`, which keep its backslashes as they are
written; it is quoted by one or by three single or double quotes. A backslash always takes
the character after it into the body, so an escaped quote does not close a literal. A body
quoted once cannot hold a line break; one quoted three times reads a carriage return as a
line feed. In a body that does not keep its backslashes, `\` starts an escape: one of
`\\ \' \" \a \b \f \n \r \t \v`, a backslash before a line break (which stands for nothing),
one to three octal digits, or exactly two, four or eight hexadecimal digits after `x`, `u` or
`U`; any other character after a backslash stands for itself with the backslash kept. A
text with a NUL character, a name, a number, a literal of bytes or anything else stands for
no text.

Left out: escapes by character name (`\N{...}`), read as no text; escapes of surrogate code
points, which no character holds; and line breaks before the expression, read as no text.
-/

set_option autoImplicit false

namespace Highlight.Literal

/-! ## Writing -/

/-- The last `n` hexadecimal digits of `v`, in lower case, most significant first. -/
def hexDigits : Nat → Nat → List Char
  | 0, _ => []
  | n + 1, v => Nat.digitChar (v / 16 ^ n % 16) :: hexDigits n v

@[simp] theorem hexDigits_zero (v : Nat) : hexDigits 0 v = [] := rfl

/-- A character as a hexadecimal escape, with two, four or eight digits. -/
def hexEscape (c : Char) : List Char :=
  if c.toNat < 0x100 then '\\' :: 'x' :: hexDigits 2 c.toNat
  else if c.toNat < 0x10000 then '\\' :: 'u' :: hexDigits 4 c.toNat
  else '\\' :: 'U' :: hexDigits 8 c.toNat

/-- A character as an ASCII text writes it: as it is, or as a hexadecimal escape when it is
past ASCII. -/
def asciiChar (c : Char) : List Char :=
  if c.toNat < 0x80 then [c] else hexEscape c

/-- A character as a literal quoted by `q` writes it. -/
def escapeChar (q c : Char) : List Char :=
  if c = q ∨ c = '\\' then ['\\', c]
  else if c = '\t' then ['\\', 't']
  else if c = '\n' then ['\\', 'n']
  else if c = '\r' then ['\\', 'r']
  else if c.toNat < 0x20 ∨ 0x7f ≤ c.toNat then hexEscape c
  else [c]

/-- The quote a text is written between. -/
def quoteFor (s : List Char) : Char :=
  if '\'' ∈ s ∧ '"' ∉ s then '"' else '\''

/-- A text written as a quoted literal. -/
def quote (s : List Char) : List Char :=
  quoteFor s :: s.flatMap (escapeChar (quoteFor s)) ++ [quoteFor s]

/-! ## Reading the escapes of a body -/

/-- The value of a hexadecimal digit, in either case. -/
def hexValue (c : Char) : Option Nat :=
  if '0' ≤ c ∧ c ≤ '9' then some (c.toNat - '0'.toNat)
  else if 'a' ≤ c ∧ c ≤ 'f' then some (c.toNat - 'a'.toNat + 10)
  else if 'A' ≤ c ∧ c ≤ 'F' then some (c.toNat - 'A'.toNat + 10)
  else none

def octalValue (c : Char) : Option Nat :=
  if '0' ≤ c ∧ c ≤ '7' then some (c.toNat - '0'.toNat) else none

/-- The character of a code point, if one has it. -/
def charOf? (n : Nat) : Option Char :=
  if n.isValidChar then some (Char.ofNat n) else none

/-- The characters that a backslash and `c` stand for, when they make an escape of one
character. -/
def simpleEscape : Char → Option (List Char)
  | '\\' => some ['\\']
  | '\'' => some ['\'']
  | '"' => some ['"']
  | 'a' => some ['\x07']
  | 'b' => some ['\x08']
  | 'f' => some ['\x0c']
  | 'n' => some ['\n']
  | 'r' => some ['\r']
  | 't' => some ['\t']
  | 'v' => some ['\x0b']
  | '\n' => some []
  | _ => none

/-- Where the reader of a body's escapes stands. -/
inductive Escape
  /-- Between escapes. -/
  | plain
  /-- Just after a backslash. -/
  | backslash
  /-- In a hexadecimal escape, with `left` digits still to read and the value `acc` so far. -/
  | hex (left acc : Nat)
  /-- In an octal escape of `count` digits so far, with the value `acc`. -/
  | octal (count acc : Nat)
  deriving DecidableEq, Repr

/-- The characters a body stands for, read from where `e` says, or `none` for an escape that
stands for no character. An octal escape ends at its third digit or at the first character
that is not one, which is then read as it comes. -/
def unescapeFrom : Escape → List Char → Option (List Char)
  | .plain, [] => some []
  | .octal _ acc, [] => some [Char.ofNat acc]
  | .backslash, [] => none
  | .hex _ _, [] => none
  | .plain, c :: rest =>
    if c = '\\' then unescapeFrom .backslash rest else (unescapeFrom .plain rest).map (c :: ·)
  | .backslash, c :: rest =>
    match simpleEscape c with
    | some cs => (unescapeFrom .plain rest).map (cs ++ ·)
    | none =>
      if c = 'x' then unescapeFrom (.hex 2 0) rest
      else if c = 'u' then unescapeFrom (.hex 4 0) rest
      else if c = 'U' then unescapeFrom (.hex 8 0) rest
      else if c = 'N' then none
      else match octalValue c with
        | some v => unescapeFrom (.octal 1 v) rest
        | none => (unescapeFrom .plain rest).map (['\\', c] ++ ·)
  | .hex left acc, c :: rest =>
    match hexValue c with
    | none => none
    | some v =>
      if left ≤ 1 then
        (charOf? (acc * 16 + v)).bind fun ch => (unescapeFrom .plain rest).map (ch :: ·)
      else unescapeFrom (.hex (left - 1) (acc * 16 + v)) rest
  | .octal count acc, c :: rest =>
    match octalValue c with
    | some v =>
      if 2 ≤ count then (unescapeFrom .plain rest).map (Char.ofNat (acc * 8 + v) :: ·)
      else unescapeFrom (.octal (count + 1) (acc * 8 + v)) rest
    | none =>
      (if c = '\\' then unescapeFrom .backslash rest
        else (unescapeFrom .plain rest).map (c :: ·)).map (Char.ofNat acc :: ·)

/-- The characters a body stands for, with its escapes read. -/
def unescape (body : List Char) : Option (List Char) := unescapeFrom .plain body

/-! ## Reading an expression -/

/-- A part of an expression: a parenthesis, or a literal with whether it keeps its
backslashes and its body as written. -/
inductive Part
  | opening
  | closing
  | lineBreak
  | literal (raw : Bool) (body : List Char)
  deriving DecidableEq, Repr

/-- Where the reader of an expression stands. -/
inductive Reading
  /-- Between parts. -/
  | between
  /-- After a letter that leads a literal. -/
  | led (raw : Bool)
  /-- After the quote `q` that opens a literal. -/
  | opened (raw : Bool) (q : Char)
  /-- After two quotes `q`: an empty literal, or the start of one quoted three times. -/
  | twice (raw : Bool) (q : Char)
  /-- In the body `acc` of a literal quoted by `q`, once or three times; `quotes` counts the
  quotes just read that may close one quoted three times. -/
  | body (raw : Bool) (q : Char) (triple : Bool) (quotes : Nat) (acc : List Char)
  /-- In a body, just after a backslash. -/
  | escaped (raw : Bool) (q : Char) (triple : Bool) (acc : List Char)
  /-- In a comment, which runs to the end of the line. -/
  | comment
  /-- After a backslash between parts, which must end the line. -/
  | joined
  deriving DecidableEq, Repr

/-- Whether a character breaks a line. -/
def isLineBreak (c : Char) : Bool := c = '\n' || c = '\r'

/-- What a character between parts makes: the parts it ends and where reading goes on. -/
def betweenStep (c : Char) : Option (List Part × Reading) :=
  if c = ' ' ∨ c = '\t' ∨ c = '\x0c' then some ([], .between)
  else if c = '#' then some ([], .comment)
  else if isLineBreak c then some ([.lineBreak], .between)
  else if c = '\\' then some ([], .joined)
  else if c = '(' then some ([.opening], .between)
  else if c = ')' then some ([.closing], .between)
  else if c = '\'' ∨ c = '"' then some ([], .opened false c)
  else if c = 'r' ∨ c = 'R' then some ([], .led true)
  else if c = 'u' ∨ c = 'U' then some ([], .led false)
  else none

/-- Where a character in the body `acc` of a literal takes reading. -/
def bodyStep (raw : Bool) (q : Char) (triple : Bool) (acc : List Char) (c : Char) :
    Option Reading :=
  if c = '\\' then some (.escaped raw q triple acc)
  else if isLineBreak c then
    if triple then some (.body raw q triple 0 (acc ++ ['\n'])) else none
  else some (.body raw q triple 0 (acc ++ [c]))

/-- The parts of an expression, read from where `r` says; `none` when the text is not made
of such parts. -/
def scan : Reading → List Char → Option (List Part)
  | .between, [] => some []
  | .comment, [] => some []
  | .twice raw _, [] => some [.literal raw []]
  | .led _, [] => none
  | .joined, [] => none
  | .opened _ _, [] => none
  | .body _ _ _ _ _, [] => none
  | .escaped _ _ _ _, [] => none
  | .between, c :: rest =>
    (betweenStep c).bind fun (ps, r) => (scan r rest).map (ps ++ ·)
  | .joined, c :: rest => if isLineBreak c then scan .between rest else none
  | .comment, c :: rest =>
    if isLineBreak c then (scan .between rest).map (.lineBreak :: ·) else scan .comment rest
  | .led raw, c :: rest => if c = '\'' ∨ c = '"' then scan (.opened raw c) rest else none
  | .opened raw q, c :: rest =>
    if c = q then scan (.twice raw q) rest
    else (bodyStep raw q false [] c).bind fun r => scan r rest
  | .twice raw q, c :: rest =>
    if c = q then scan (.body raw q true 0 []) rest
    else (betweenStep c).bind fun (ps, r) => (scan r rest).map (.literal raw [] :: ps ++ ·)
  | .body raw q triple quotes acc, c :: rest =>
    if c = q ∧ (triple = false ∨ quotes = 2) then (scan .between rest).map (.literal raw acc :: ·)
    else if c = q then scan (.body raw q triple (quotes + 1) acc) rest
    else (bodyStep raw q triple (acc ++ List.replicate quotes q) c).bind fun r => scan r rest
  | .escaped raw q triple acc, c :: rest =>
    scan (.body raw q triple 0 (acc ++ ['\\', if c = '\r' then '\n' else c])) rest

/-- The text a literal part stands for. -/
def Part.text? : Part → Option (List Char)
  | .literal true body => some body
  | .literal false body => unescape body
  | _ => none

/-- Whether a part is a literal. -/
def Part.isLiteral : Part → Bool
  | .literal _ _ => true
  | _ => false

/-- Whether each line break among the parts stands within parentheses, `depth` of them open
before the first part. -/
def breaksInside : Nat → List Part → Bool
  | _, [] => true
  | depth, .opening :: ps => breaksInside (depth + 1) ps
  | depth, .closing :: ps => breaksInside (depth - 1) ps
  | depth, .lineBreak :: ps => 0 < depth && breaksInside depth ps
  | depth, .literal _ _ :: ps => breaksInside depth ps

/-- The text that parts stand for: one or more literals side by side, within as many closing
parentheses as opening ones; a line break stands within the parentheses, or after them all. -/
def assemble (parts : List Part) : Option (List Char) :=
  let parts := (parts.reverse.dropWhile (· = .lineBreak)).reverse
  if !breaksInside 0 parts then none else
  let parts := parts.filter (· ≠ .lineBreak)
  let opens := (parts.takeWhile (· = .opening)).length
  let inner := parts.drop opens
  let literals := inner.takeWhile Part.isLiteral
  if literals ≠ [] ∧ inner.drop literals.length = List.replicate opens .closing then
    (literals.mapM Part.text?).map List.flatten
  else none

/-- The text an expression stands for, if it stands for one. Blanks before it need no step of
their own: reading skips them between parts. -/
def read (s : List Char) : Option (List Char) :=
  if '\x00' ∈ s then none else (scan .between s).bind assemble

end Highlight.Literal
