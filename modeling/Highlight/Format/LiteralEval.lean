import Highlight.Format.Literal

/-!
# How far a literal expression evaluates

`Literal.read` reads the expressions that stand for a text. The evaluation of a literal
expression can also fail in a way that is not a malformed expression: a set or a dictionary
hashes its items and keys as it is built, and a list, a dictionary or a set, or a tuple that
holds one, cannot be hashed. `hashError?` tells, for an expression, whether its evaluation
stops so, and at the value of which type.

The expression is first cut into lexemes (`lexFrom`) and read as a whole (`parseTop`); only
then is it evaluated, from the left, and evaluation stops at the first failure. So a text that
is not an expression never gets as far as hashing, and neither does an item after a malformed
one. Evaluation takes a text, a byte text, a number, `True`, `False`, `None` and `...` as they
are; a tuple, a list, a set and a dictionary item by item, a set hashing each item after it
and a dictionary each key after its value; `set()` as an empty set; a sign only before a
number written out, and a sum only of a real number, signed or not, and an imaginary one.
Every other expression is malformed where evaluation reaches it, without a look inside.

Read here is the grammar of an expression: texts with their prefixes, numbers in every base
with underscores, names, `...`, operators, comparisons, `not`, `and`, `or`, conditionals,
`lambda` with its parameters, `await`, `yield` in parentheses, attributes, calls with their
arguments, subscripts with their slices, starred items, named expressions, displays and
comprehensions, comments, a backslash before a line break, and line breaks within brackets
and at the end; brackets nest at most 200 deep. Left out, and read as no expression: names
past ASCII; escapes by character name and of surrogate code points; formatted texts with
braces; a number run into a keyword (`1if`); and a line break before the expression. The
targets of a comprehension are read as any operands.
-/

set_option autoImplicit false

namespace Highlight.Literal

/-! ## Lexemes -/

/-- What a literal of text makes: a text, a byte text or a formatted text. -/
inductive TextSort
  | str
  | bytes
  | formatted
  deriving DecidableEq, Repr

/-- A lexeme of an expression. -/
inductive Lexeme
  | text (sort : TextSort)
  | number (imaginary : Bool)
  | word (w : List Char)
  | ellipsis
  | plus
  | minus
  | op (s : List Char)
  | opening (c : Char)
  | closing (c : Char)
  | comma
  | lineBreak
  deriving DecidableEq, Repr

/-- The sort of a literal of text and whether it keeps its backslashes, for the letters that
lead it (in either case). -/
def textPrefix (letters : List Char) : Option (TextSort × Bool) :=
  let w := letters.map Char.toLower
  if w = [] ∨ w = ['u'] then some (.str, false)
  else if w = ['r'] then some (.str, true)
  else if w = ['b'] then some (.bytes, false)
  else if w = ['b', 'r'] ∨ w = ['r', 'b'] then some (.bytes, true)
  else if w = ['f'] then some (.formatted, false)
  else if w = ['f', 'r'] ∨ w = ['r', 'f'] then some (.formatted, true)
  else none

/-- Whether the `\x` escapes of a byte body have their two hexadecimal digits; every other
escape of a byte text is kept as it is written. -/
def bytesEscapesValid : List Char → Bool
  | [] => true
  | c :: rest =>
    if c ≠ '\\' then bytesEscapesValid rest
    else match rest with
      | [] => true
      | x :: more =>
        if x ≠ 'x' then bytesEscapesValid more
        else match more with
          | a :: b :: tail => (hexValue a).isSome && (hexValue b).isSome && bytesEscapesValid tail
          | _ => false

/-- Whether a body, as the scanner keeps it, makes a literal of its sort: a byte text holds
only ASCII characters, a formatted text no braces, and the escapes of a body that does not
keep its backslashes must be well formed. -/
def textValid (sort : TextSort) (raw : Bool) (body : List Char) : Bool :=
  match sort with
  | .str => raw || (unescape body).isSome
  | .bytes => body.all (·.toNat < 128) && (raw || bytesEscapesValid body)
  | .formatted => !(body.contains '{' || body.contains '}') && (raw || (unescape body).isSome)

/-- What follows a run of digits of one kind, each after at most one underscore; `none` when
an underscore is not followed by a digit. -/
def afterDigits (isDigit : Char → Bool) : List Char → Option (List Char)
  | [] => some []
  | c :: rest =>
    if c = '_' then
      match rest with
      | d :: more => if isDigit d then afterDigits isDigit more else none
      | [] => none
    else if isDigit c then afterDigits isDigit rest
    else some (c :: rest)

/-- What follows a run of digits that starts with a digit. -/
def digitPart (isDigit : Char → Bool) : List Char → Option (List Char)
  | c :: rest => if isDigit c then afterDigits isDigit rest else none
  | [] => none

/-- What follows an exponent, if there is a well-formed one; the text itself if there is
none. -/
def exponentTail : List Char → Option (List Char)
  | c :: rest =>
    if c = 'e' ∨ c = 'E' then
      match rest with
      | s :: more => if s = '+' ∨ s = '-' then digitPart Char.isDigit more else digitPart Char.isDigit (s :: more)
      | [] => none
    else some (c :: rest)
  | [] => some []

/-- Whether the end of a number makes it imaginary, if it is a well-formed end. -/
def imaginaryTail : List Char → Option Bool
  | [] => some false
  | [c] => if c = 'j' ∨ c = 'J' then some true else none
  | _ => none

/-- Whether a decimal number is imaginary, if the run is one: an integer (which leads with a
zero only if it is all zeros), or a number with a fraction or an exponent, perhaps made
imaginary by a `j`. -/
def decimalKind (s : List Char) : Option Bool :=
  match digitPart Char.isDigit s with
  | some afterWhole =>
    match afterWhole with
    | c :: r =>
      if c = '.' then (exponentTail ((digitPart Char.isDigit r).getD r)).bind imaginaryTail
      else integerKind s afterWhole
    | [] => integerKind s afterWhole
  | none =>
    match s with
    | c :: r => if c = '.' then ((digitPart Char.isDigit r).bind exponentTail).bind imaginaryTail else none
    | [] => none
where
  /-- A number with integer digits and no fraction. -/
  integerKind (s afterWhole : List Char) : Option Bool :=
    (exponentTail afterWhole).bind fun afterExp =>
      (imaginaryTail afterExp).bind fun imaginary =>
        let plain := afterExp.length = afterWhole.length ∧ imaginary = false
        if plain ∧ s.head? = some '0' ∧ ¬ s.all (fun c => c = '0' ∨ c = '_') then none
        else some imaginary

/-- Whether a run of number characters is an imaginary number, if it is a number: in base 16,
8 or 2 after `0x`, `0o` or `0b` (an underscore may follow the prefix), or decimal. -/
def numberKind (s : List Char) : Option Bool :=
  let radix (isDigit : Char → Bool) (rest : List Char) : Option Bool :=
    let rest := match rest with
      | '_' :: more => more
      | _ => rest
    if digitPart isDigit rest = some [] then some false else none
  match s with
  | '0' :: x :: rest =>
    if x = 'x' ∨ x = 'X' then radix (fun c => (hexValue c).isSome) rest
    else if x = 'o' ∨ x = 'O' then radix (fun c => '0' ≤ c ∧ c ≤ '7') rest
    else if x = 'b' ∨ x = 'B' then radix (fun c => c = '0' ∨ c = '1') rest
    else decimalKind s
  | _ => decimalKind s

/-- A character that may start a name. -/
def isWordStart (c : Char) : Bool := c.isAlpha || c = '_'

/-- A character that may go on a name or a number. -/
def isWordChar (c : Char) : Bool := c.isAlphanum || c = '_'

/-- Where the lexer stands. -/
inductive Lexing
  /-- Between lexemes. -/
  | between
  /-- In a name, or in the letters that lead a literal of text. -/
  | word (acc : List Char)
  /-- In a number. -/
  | number (acc : List Char)
  /-- After `n` dots. -/
  | dots (n : Nat)
  /-- In an operator. -/
  | oper (acc : List Char)
  /-- After a backslash, which must end the line. -/
  | backslash
  /-- In a literal of text of a sort, read as `scan` reads one. -/
  | text (sort : TextSort) (r : Reading)
  /-- In a comment, up to a line break. -/
  | comment
  deriving Repr

/-- What a character between lexemes makes: the lexemes it ends and where lexing goes on. -/
def startStep (c : Char) : Option (List Lexeme × Lexing) :=
  if c = ' ' ∨ c = '\t' ∨ c = '\x0c' then some ([], .between)
  else if isLineBreak c then some ([.lineBreak], .between)
  else if c = '#' then some ([], .comment)
  else if c = '(' ∨ c = '[' ∨ c = '{' then some ([.opening c], .between)
  else if c = ')' ∨ c = ']' ∨ c = '}' then some ([.closing c], .between)
  else if c = ',' then some ([.comma], .between)
  else if c = '\\' then some ([], .backslash)
  else if c ∈ ['*', '/', '%', '@', '&', '|', '^', '~', '<', '>', '=', ':', '!'] then
    some ([], .oper [c])
  else if c = '+' then some ([.plus], .between)
  else if c = '-' then some ([.minus], .between)
  else if c = '.' then some ([], .dots 1)
  else if c = '\'' ∨ c = '"' then some ([], .text .str (.opened false c))
  else if c.isDigit then some ([], .number [c])
  else if isWordStart c then some ([], .word [c])
  else none

/-- The lexemes a character ends before it, and then the character read between lexemes. -/
def endThen (ls : List Lexeme) (c : Char) : Option (List Lexeme × Lexing) :=
  (startStep c).map fun (more, st) => (ls ++ more, st)

/-- A literal of text closed with its body: the lexeme, if the body is valid for its sort. -/
def closeText (sort : TextSort) (raw : Bool) (body : List Char) : Option Lexeme :=
  if textValid sort raw body then some (.text sort) else none

/-- Whether a number goes on with a character: a name character, a sign after the exponent
letter of a decimal number, or a dot in a decimal number before its fraction, exponent and
`j`; another dot is an attribute. -/
def numberGoesOn (acc : List Char) (c : Char) : Bool :=
  let decimal := match acc with
    | '0' :: x :: _ => !(x.toLower = 'x' || x.toLower = 'o' || x.toLower = 'b')
    | _ => true
  isWordChar c || (c = '.' && decimal && !acc.any (· ∈ ['e', 'E', 'j', 'J', '.'])) ||
    ((c = '+' || c = '-') && decimal && (acc.getLast? = some 'e' || acc.getLast? = some 'E'))

/-- The operators, each also the longest that its text starts. -/
def operators : List (List Char) :=
  [['*'], ['*', '*'], ['/'], ['/', '/'], ['%'], ['@'], ['<', '<'], ['>', '>'], ['&'], ['|'],
    ['^'], ['~'], ['<'], ['>'], ['<', '='], ['>', '='], ['=', '='], ['!', '='], ['='], [':'],
    [':', '=']]

/-- One character of lexing. -/
def lexStep : Lexing → Char → Option (List Lexeme × Lexing)
  | .between, c => startStep c
  | .comment, c => if isLineBreak c then some ([.lineBreak], .between) else some ([], .comment)
  | .word acc, c =>
    if isWordChar c then some ([], .word (acc ++ [c]))
    else if c = '\'' ∨ c = '"' then
      (textPrefix acc).map fun (sort, raw) => ([], .text sort (.opened raw c))
    else endThen [.word acc] c
  | .number acc, c =>
    if numberGoesOn acc c then some ([], .number (acc ++ [c]))
    else (numberKind acc).bind fun imaginary => endThen [.number imaginary] c
  | .dots n, c =>
    if n = 1 ∧ c.isDigit then some ([], .number ['.', c])
    else if c = '.' ∧ n < 3 then some ([], .dots (n + 1))
    else if n = 3 then endThen [.ellipsis] c
    else endThen (List.replicate n (.op ['.'])) c
  | .oper acc, c =>
    if acc ++ [c] ∈ operators then some ([], .oper (acc ++ [c]))
    else if acc ∈ operators then endThen [.op acc] c
    else none
  | .backslash, c => if isLineBreak c then some ([], .between) else none
  | .text sort (.opened raw q), c =>
    if c = q then some ([], .text sort (.twice raw q))
    else (bodyStep raw q false [] c).map fun r => ([], .text sort r)
  | .text sort (.twice raw q), c =>
    if c = q then some ([], .text sort (.body raw q true 0 []))
    else (closeText sort raw []).bind fun l => endThen [l] c
  | .text sort (.body raw q triple quotes acc), c =>
    if c = q ∧ (triple = false ∨ quotes = 2) then
      (closeText sort raw acc).map fun l => ([l], .between)
    else if c = q then some ([], .text sort (.body raw q triple (quotes + 1) acc))
    else (bodyStep raw q triple (acc ++ List.replicate quotes q) c).map fun r => ([], .text sort r)
  | .text sort (.escaped raw q triple acc), c =>
    some ([], .text sort (.body raw q triple 0 (acc ++ ['\\', if c = '\r' then '\n' else c])))
  | .text _ _, _ => none

/-- The lexemes a lexer in a state ends with at the end of the text. -/
def lexEnd : Lexing → Option (List Lexeme)
  | .between => some []
  | .comment => some []
  | .word acc => some [.word acc]
  | .number acc => (numberKind acc).map fun imaginary => [.number imaginary]
  | .dots n => some (if n = 3 then [.ellipsis] else List.replicate n (.op ['.']))
  | .oper acc => if acc ∈ operators then some [.op acc] else none
  | .backslash => none
  | .text sort (.twice raw _) => (closeText sort raw []).map ([·])
  | .text _ _ => none

/-- The lexemes of a text, from a state. -/
def lexFrom : Lexing → List Char → Option (List Lexeme)
  | st, [] => lexEnd st
  | st, c :: rest => (lexStep st c).bind fun (ls, st') => (lexFrom st' rest).map (ls ++ ·)

/-- The lexemes without the line breaks inside brackets and at the end; `none` where another
line break stands outside every bracket or brackets nest more than 200 deep. -/
def joinLines : Nat → List Lexeme → Option (List Lexeme)
  | _, [] => some []
  | depth, l :: ls =>
    match l with
    | .lineBreak =>
      if depth ≠ 0 then joinLines depth ls else if ls.all (· = .lineBreak) then some [] else none
    | .opening c => if 200 ≤ depth then none else (joinLines (depth + 1) ls).map (.opening c :: ·)
    | .closing c => (joinLines (depth - 1) ls).map (.closing c :: ·)
    | _ => (joinLines depth ls).map (l :: ·)

/-! ## Reading and evaluating -/

/-- What signs and sums look at in an expression: whether it is a number written out, or a
signed one, and whether that number is imaginary; or whether it is a starred item or a named
expression, which only some places take. -/
inductive Form
  | number (imaginary : Bool)
  | signed (imaginary : Bool)
  | starred
  | named
  | other
  deriving DecidableEq, Repr

/-- Why evaluation stops: a malformed expression, or a value of a type that cannot be
hashed. -/
inductive Stop
  | malformed
  | unhashable (type : String)
  deriving DecidableEq, Repr

/-- An expression as evaluation sees it: its form, and what evaluating it gives, the type of
its value when the value cannot be hashed (`none` when it can), or why evaluation stops. -/
structure Parsed where
  form : Form
  outcome : Except Stop (Option String)

/-- An expression that is no literal: evaluation stops at it as malformed, without looking
inside. -/
def malformed : Parsed := ⟨.other, .error .malformed⟩

/-- A tuple, from the outcomes of its items: the first failure, or the first item that cannot
be hashed. -/
def tupleOutcome : List (Except Stop (Option String)) → Except Stop (Option String)
  | [] => .ok none
  | .error e :: _ => .error e
  | .ok h :: os => (tupleOutcome os).map (h <|> ·)

/-- A set, from the outcomes of its items: each item is evaluated and then hashed. -/
def setOutcome : List (Except Stop (Option String)) → Except Stop (Option String)
  | [] => .ok (some "set")
  | .error e :: _ => .error e
  | .ok (some t) :: _ => .error (.unhashable t)
  | .ok none :: os => setOutcome os

/-- A dictionary, from the outcomes of its keys and values: the key, the value, and then the
key hashed. -/
def dictOutcome :
    List (Except Stop (Option String) × Except Stop (Option String)) → Except Stop (Option String)
  | [] => .ok (some "dict")
  | (.error e, _) :: _ => .error e
  | (.ok _, .error e) :: _ => .error e
  | (.ok (some t), .ok _) :: _ => .error (.unhashable t)
  | (.ok none, .ok _) :: ps => dictOutcome ps

/-- A sign before an expression: only a number written out may have one. -/
def signedOf (p : Parsed) : Parsed :=
  match p.form with
  | .number imaginary => ⟨.signed imaginary, .ok none⟩
  | _ => malformed

/-- A sum: only a real number, signed or not, and an imaginary one make a number. -/
def sumOf (p q : Parsed) : Parsed :=
  if (p.form = .number false ∨ p.form = .signed false) ∧ q.form = .number true then
    ⟨.other, .ok none⟩
  else malformed

/-- The words that are not names. -/
def keywords : List String :=
  ["and", "as", "assert", "async", "await", "break", "class", "continue", "def", "del", "elif",
    "else", "except", "finally", "for", "from", "global", "if", "import", "in", "is", "lambda",
    "nonlocal", "not", "or", "pass", "raise", "return", "try", "while", "with", "yield"]

/-- Whether a word is a name: no keyword and no constant. -/
def isName (w : List Char) : Bool :=
  let s := String.ofList w
  !(keywords.contains s || s = "True" || s = "False" || s = "None")

/-- Whether the lexemes start with the keyword `k`. -/
def startsWord (k : String) : List Lexeme → Bool
  | .word w :: _ => String.ofList w == k
  | _ => false

/-- Whether the lexemes start with the operator `o`. -/
def startsOp (o : List Char) (ls : List Lexeme) : Bool := ls.head? == some (.op o)

/-- Whether a comprehension's clauses start here. -/
def startsFor (ls : List Lexeme) : Bool := startsWord "for" ls || startsWord "async" ls

/-- A word and what follows it: a constant, `set()`, or a name. -/
def wordOf (w : List Char) (ls : List Lexeme) : Option (Parsed × List Lexeme) :=
  let s := String.ofList w
  if s = "True" ∨ s = "False" ∨ s = "None" then some (⟨.other, .ok none⟩, ls)
  else if s ∈ keywords then none
  else if s = "set" ∧ ls.take 2 = [.opening '(', .closing ')'] then
    some (⟨.other, .ok (some "set")⟩, ls.drop 2)
  else some (malformed, ls)

/-- Literals of text side by side make one: bytes do not mix with the others, and one
formatted literal makes the whole formatted. -/
def joinTexts (sort : TextSort) : List Lexeme → Option (Parsed × List Lexeme)
  | .text t :: ls =>
    if (sort = .bytes) ≠ (t = .bytes) then none
    else joinTexts (if t = .formatted then t else sort) ls
  | ls => some (⟨.other, if sort = .formatted then .error .malformed else .ok none⟩, ls)

/-- Whether what is left starts with a closing bracket, or is nothing. -/
def atClose : List Lexeme → Bool
  | .closing _ :: _ => true
  | [] => true
  | _ => false

/-- What follows the closing bracket `c` that comes next, if it does. -/
def expectClosing (c : Char) : List Lexeme → Option (List Lexeme)
  | .closing d :: more => if d = c then some more else none
  | _ => none

/-- A binary operator by what evaluation makes of it: a sign between numbers, `and` or `or`
(after which `not` may stand), a comparison, or an operator of arithmetic or of bits. -/
inductive BinOp
  | sign
  | logic
  | compare
  | arith
  deriving DecidableEq

/-- The binary operator at the start of the lexemes, and what follows it. -/
def binOp? : List Lexeme → Option (BinOp × List Lexeme)
  | .plus :: ls => some (.sign, ls)
  | .minus :: ls => some (.sign, ls)
  | .op o :: ls =>
    if o ∈ [['<'], ['>'], ['<', '='], ['>', '='], ['=', '='], ['!', '=']] then some (.compare, ls)
    else if o ∈ operators.take 11 then some (.arith, ls)
    else none
  | .word w :: ls =>
    let s := String.ofList w
    if s = "and" ∨ s = "or" then some (.logic, ls)
    else if s = "in" then some (.compare, ls)
    else if s = "is" then some (.compare, if startsWord "not" ls then ls.drop 1 else ls)
    else if s = "not" ∧ startsWord "in" ls then some (.compare, ls.drop 1)
    else none
  | _ => none

/-- Items in parentheses, or `none` for a generator: one item without a comma is itself (no
expression if it is starred), and anything else a tuple. -/
def parenOf? : Option (List Parsed × Bool) → Option Parsed
  | some ([p], false) =>
    if p.form = .starred then none else some (if p.form = .named then malformed else p)
  | some (items, _) => some ⟨.other, tupleOutcome (items.map (·.outcome))⟩
  | none => some malformed

/-- Items in square brackets, or `none` for a comprehension. -/
def listOf : Option (List Parsed × Bool) → Parsed
  | some (items, _) => ⟨.other, (tupleOutcome (items.map (·.outcome))).map fun _ => some "list"⟩
  | none => malformed

/-- Pairs in braces make a dictionary. -/
def dictOf (pairs : List (Parsed × Parsed)) : Parsed :=
  ⟨.other, dictOutcome (pairs.map fun (k, v) => (k.outcome, v.outcome))⟩

/-- What follows an expression that is no literal. -/
def noLiteral : Option (Parsed × List Lexeme) → Option (Parsed × List Lexeme) :=
  Option.map fun (_, r) => (malformed, r)

mutual

/-- An expression: a `lambda`, or operands with binary operators between them, perhaps chosen
between by `if` and `else`. -/
def parseExpr : Nat → List Lexeme → Option (Parsed × List Lexeme)
  | 0, _ => none
  | n + 1, ls =>
    if startsWord "lambda" ls then
      (parseParams n 0 false (ls.drop 1)).bind fun r => noLiteral (parseExpr n (r.drop 1))
    else
      (parseChain n false ls).bind fun (p, rest) =>
        if !startsWord "if" rest then some (p, rest)
        else (parseChain n false (rest.drop 1)).bind fun (_, r) =>
          if startsWord "else" r then noLiteral (parseExpr n (r.drop 1)) else none

/-- A named expression: a name given a value by `:=`, or an expression. -/
def parseNamed : Nat → List Lexeme → Option (Parsed × List Lexeme)
  | 0, _ => none
  | n + 1, ls =>
    match ls with
    | .word w :: .op [':', '='] :: more =>
      if isName w then (parseExpr n more).map fun (_, r) => (⟨.named, .error .malformed⟩, r)
      else none
    | _ => parseExpr n ls

/-- Operands with binary operators between them; with `arith`, only those of arithmetic and of
bits, so that a comparison or `in` ends the chain. -/
def parseChain : Nat → Bool → List Lexeme → Option (Parsed × List Lexeme)
  | 0, _, _ => none
  | n + 1, arith, ls =>
    (parseOperand n (!arith) ls).bind fun (p, rest) => parseChainRest n arith p rest

/-- The rest of a chain after the operands `p`: signs between numbers make sums, and every
other operator an expression that is no literal. -/
def parseChainRest : Nat → Bool → Parsed → List Lexeme → Option (Parsed × List Lexeme)
  | 0, _, _, _ => none
  | n + 1, arith, p, ls =>
    match binOp? ls with
    | some (o, more) =>
      if arith && (o = .logic || o = .compare) then some (p, ls)
      else (parseOperand n (o = .logic && !arith) more).bind fun (q, rest) =>
        parseChainRest n arith (if o = .sign then sumOf p q else malformed) rest
    | none => some (p, ls)

/-- An operand: `not` where `notOk` lets it stand, signs and `~`, then perhaps `await`, then an
atom and the attributes, calls and subscripts after it. -/
def parseOperand : Nat → Bool → List Lexeme → Option (Parsed × List Lexeme)
  | 0, _, _ => none
  | _ + 1, _, [] => none
  | n + 1, notOk, l :: ls =>
    if startsWord "not" [l] then if notOk then noLiteral (parseOperand n true ls) else none
    else if l = .plus ∨ l = .minus then (parseOperand n false ls).map fun (p, r) => (signedOf p, r)
    else if l = .op ['~'] then noLiteral (parseOperand n false ls)
    else if startsWord "await" [l] then
      noLiteral ((parseAtom n ls).bind fun (p, r) => parseTrailers n p r)
    else (parseAtom n (l :: ls)).bind fun (p, r) => parseTrailers n p r

/-- The attributes, calls and subscripts after an atom `p`. -/
def parseTrailers : Nat → Parsed → List Lexeme → Option (Parsed × List Lexeme)
  | 0, _, _ => none
  | n + 1, p, ls =>
    match ls with
    | .op ['.'] :: .word w :: more => if isName w then parseTrailers n malformed more else none
    | .opening '(' :: more =>
      ((parseArgs n 0 more).bind (expectClosing ')')).bind (parseTrailers n malformed ·)
    | .opening '[' :: more =>
      ((parseSlices n more).bind (expectClosing ']')).bind (parseTrailers n malformed ·)
    | _ => some (p, ls)

/-- The arguments of a call up to its closing bracket. `stage` is 0 before the first, 1 after
one by position, 2 after one by name and 3 after one by `**`: by position only before 2, by
`*` only before 3, and a generator only as the first and only one. -/
def parseArgs : Nat → Nat → List Lexeme → Option (List Lexeme)
  | 0, _, _ => none
  | n + 1, stage, ls =>
    let next (stage' : Nat) (rest : List Lexeme) : Option (List Lexeme) :=
      match rest with
      | .comma :: more => parseArgs n stage' more
      | _ => some rest
    if atClose ls then some ls
    else match ls with
      | .op ['*'] :: more =>
        if stage < 3 then (parseExpr n more).bind fun (_, r) => next (max stage 1) r else none
      | .op ['*', '*'] :: more => (parseExpr n more).bind fun (_, r) => next 3 r
      | .word w :: .op ['='] :: more =>
        if isName w then (parseExpr n more).bind fun (_, r) => next (max stage 2) r else none
      | _ =>
        if 2 ≤ stage then none
        else (parseNamed n ls).bind fun (_, r) =>
          if stage = 0 && startsFor r then parseFor n r else next 1 r

/-- The slices of a subscript, with commas between them and perhaps one after the last: each a
starred operand chain, a named expression, or bounds and a step with colons between them, any
of which may be left out. -/
def parseSlices : Nat → List Lexeme → Option (List Lexeme)
  | 0, _ => none
  | n + 1, ls =>
    let bound (r : List Lexeme) : Option (List Lexeme) :=
      if atClose r || startsOp [':'] r || r.head? == some .comma then some r
      else (parseExpr n r).map (·.2)
    let bounds (r : List Lexeme) : Option (List Lexeme) :=
      (bound (r.drop 1)).bind fun r => if startsOp [':'] r then bound (r.drop 1) else some r
    let slice : Option (List Lexeme) :=
      if startsOp ['*'] ls then (parseChain n true (ls.drop 1)).map (·.2)
      else if startsOp [':'] ls then bounds ls
      else (parseNamed n ls).bind fun (p, r) =>
        if !startsOp [':'] r then some r else if p.form = .named then none else bounds r
    slice.bind fun r =>
      match r with
      | .comma :: more => if atClose more then some more else parseSlices n more
      | _ => some r

/-- The clauses of a comprehension: `for` targets `in` an operand chain, and `if` clauses. -/
def parseFor : Nat → List Lexeme → Option (List Lexeme)
  | 0, _ => none
  | n + 1, ls =>
    let afterAsync := if startsWord "async" ls then ls.drop 1 else ls
    if startsWord "if" ls then (parseChain n false (ls.drop 1)).bind fun (_, r) => parseFor n r
    else if !startsWord "for" afterAsync then some ls
    else (parseTargets n (afterAsync.drop 1)).bind fun r =>
      if startsWord "in" r then (parseChain n false (r.drop 1)).bind fun (_, r) => parseFor n r
      else none

/-- The targets of a `for`, with commas between them, up to `in`. -/
def parseTargets : Nat → List Lexeme → Option (List Lexeme)
  | 0, _ => none
  | n + 1, ls =>
    (parseChain n true (if startsOp ['*'] ls then ls.drop 1 else ls)).bind fun (_, r) =>
      match r with
      | .comma :: more => if startsWord "in" more then some more else parseTargets n more
      | _ => some r

/-- The parameters of a `lambda` up to its colon. `stage` is 0 before the first, 1 after one
by position, 2 after `/`, 3 after `*` and 4 after `**`; `dflt` tells that a parameter by
position had a default, after which every one by position needs one. -/
def parseParams : Nat → Nat → Bool → List Lexeme → Option (List Lexeme)
  | 0, _, _, _ => none
  | n + 1, stage, dflt, ls =>
    let next (stage' : Nat) (dflt' : Bool) (rest : List Lexeme) : Option (List Lexeme) :=
      match rest with
      | .comma :: more => if startsOp [':'] more then some more else parseParams n stage' dflt' more
      | _ => if startsOp [':'] rest then some rest else none
    if stage = 0 && startsOp [':'] ls then some ls
    else match ls with
      | .op ['*', '*'] :: .word w :: r => if isName w && stage < 4 then next 4 dflt r else none
      | .op ['*'] :: .word w :: r => if isName w && stage < 3 then next 3 dflt r else none
      | .op ['*'] :: .comma :: .word w :: r =>
        if stage < 3 then parseParams n 3 dflt (.word w :: r) else none
      | .op ['/'] :: r => if stage = 1 then next 2 dflt r else none
      | .word w :: .op ['='] :: r =>
        if isName w && stage < 4 then
          (parseExpr n r).bind fun (_, r) => next (max stage 1) (dflt || stage < 3) r
        else none
      | .word w :: r =>
        if isName w && (stage = 3 || (stage < 3 && !dflt)) then next (max stage 1) dflt r else none
      | _ => none

/-- An item of a display: a starred operand chain, or a named expression. -/
def parseItem : Nat → List Lexeme → Option (Parsed × List Lexeme)
  | 0, _ => none
  | n + 1, ls =>
    if !startsOp ['*'] ls then parseNamed n ls
    else (parseChain n true (ls.drop 1)).map fun (_, r) => (⟨.starred, .error .malformed⟩, r)

/-- Items with commas between them and perhaps one after the last, up to a closing bracket or
the end: the items, and whether a comma came. With `top`, each item is an expression. -/
def parseItems : Nat → Bool → List Lexeme → Option (List Parsed × Bool × List Lexeme)
  | 0, _, _ => none
  | n + 1, top, ls =>
    if atClose ls then some ([], false, ls)
    else (if top then parseExpr n ls else parseItem n ls).bind fun (p, rest) =>
      match rest with
      | .comma :: more => (parseItems n top more).map fun (ps, _, r) => (p :: ps, true, r)
      | _ => some ([p], false, rest)

/-- The items of a display, or `none` for a comprehension, whose one item is no starred one. -/
def parseDisplay : Nat → List Lexeme → Option (Option (List Parsed × Bool) × List Lexeme)
  | 0, _ => none
  | n + 1, ls =>
    (parseItems n false ls).bind fun (items, comma, rest) =>
      match items, comma with
      | [p], false =>
        if !startsFor rest then some (some (items, comma), rest)
        else if p.form = .starred then none
        else (parseFor n rest).map (none, ·)
      | _, _ => some (some (items, comma), rest)

/-- Keys and values with colons between them, or `**` and an operand chain, with commas
between the pairs and perhaps one after the last, up to a closing bracket. -/
def parsePairs : Nat → List Lexeme → Option (List (Parsed × Parsed) × List Lexeme)
  | 0, _ => none
  | n + 1, ls =>
    let pair : Option ((Parsed × Parsed) × List Lexeme) :=
      if startsOp ['*', '*'] ls then
        (parseChain n true (ls.drop 1)).map fun (_, r) => ((malformed, malformed), r)
      else (parseExpr n ls).bind fun (k, rest) =>
        if startsOp [':'] rest then (parseExpr n (rest.drop 1)).map fun (v, r) => ((k, v), r)
        else none
    if atClose ls then some ([], ls)
    else pair.bind fun (kv, rest) =>
      match rest with
      | .comma :: more => (parsePairs n more).map fun (ps, r) => (kv :: ps, r)
      | _ => some ([kv], rest)

/-- An atom: a literal, a word, or a bracketed tuple, generator, `yield`, list, set or
dictionary, or a comprehension; in braces, a colon after the first item tells a dictionary. -/
def parseAtom : Nat → List Lexeme → Option (Parsed × List Lexeme)
  | 0, _ => none
  | _ + 1, [] => none
  | n + 1, l :: ls =>
    match l with
    | .text sort => joinTexts sort ls
    | .number imaginary => some (⟨.number imaginary, .ok none⟩, ls)
    | .ellipsis => some (⟨.other, .ok none⟩, ls)
    | .word w => wordOf w ls
    | .opening '(' =>
      if startsWord "yield" ls then
        let body := if startsWord "from" (ls.drop 1) then (parseExpr n (ls.drop 2)).map (·.2)
          else (parseItems n false (ls.drop 1)).map (·.2.2)
        (body.bind (expectClosing ')')).map (malformed, ·)
      else (parseDisplay n ls).bind fun (d, rest) =>
        (expectClosing ')' rest).bind fun more => (parenOf? d).map (·, more)
    | .opening '[' =>
      (parseDisplay n ls).bind fun (d, rest) => (expectClosing ']' rest).map (listOf d, ·)
    | .opening '{' =>
      let body : Option (Parsed × List Lexeme) :=
        if atClose ls then some (⟨.other, .ok (some "dict")⟩, ls)
        else if startsOp ['*', '*'] ls then (parsePairs n ls).map fun (ps, r) => (dictOf ps, r)
        else (parseItem n ls).bind fun (k, rest) =>
          if startsOp [':'] rest && k.form ≠ .starred && k.form ≠ .named then
            (parseExpr n (rest.drop 1)).bind fun (v, rest) =>
              if startsFor rest then (parseFor n rest).map (malformed, ·)
              else match rest with
                | .comma :: more =>
                  (parsePairs n more).map fun (ps, r) => (dictOf ((k, v) :: ps), r)
                | _ => some (dictOf [(k, v)], rest)
          else if startsFor rest then
            if k.form = .starred then none else (parseFor n rest).map (malformed, ·)
          else match rest with
            | .comma :: more => (parseItems n false more).map fun (ps, _, r) =>
              (⟨.other, setOutcome ((k :: ps).map (·.outcome))⟩, r)
            | _ => some (⟨.other, setOutcome [k.outcome]⟩, rest)
      body.bind fun (p, rest) => (expectClosing '}' rest).map (p, ·)
    | _ => none

end

/-- A whole expression: items with commas between them make a tuple. -/
def parseTop (n : Nat) (ls : List Lexeme) : Option Parsed :=
  (parseItems n true ls).bind fun (items, comma, rest) =>
    if rest ≠ [] then none
    else match items, comma with
      | [], _ => none
      | [p], false => some p
      | _, _ => some ⟨.other, tupleOutcome (items.map (·.outcome))⟩

/-- The type of the value that evaluating an expression fails to hash, if its evaluation stops
so. Blanks and tabs before it are dropped; a text with a NUL character is no expression. -/
def hashError? (s : List Char) : Option String :=
  if '\x00' ∈ s then none
  else
    match (lexFrom .between (s.dropWhile fun c => c = ' ' ∨ c = '\t')).bind (joinLines 0) with
    | none => none
    | some ls =>
      match parseTop (16 * ls.length + 16) ls with
      | some ⟨_, .error (.unhashable t)⟩ => some t
      | _ => none

end Highlight.Literal
