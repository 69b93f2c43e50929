import Highlight.Lexers.Lines

/-!
# JSON

JSON is lexed by a scanner that reads one character at a time and never fails: it keeps
what kind of token it is in (`JsonMode`) and where that token started. A string cannot be
told to be a key until the next character that is not a blank or a comment: if it is a
colon, the string is a key (`Name.Tag`), otherwise a string. So strings, and the blanks
and comments after them, wait in a queue until that character comes.

Numbers, constants and punctuation are runs of the characters they may hold; nothing is
checked beyond that (`--1--` is a number and `trustful` a constant). Comments as in
JavaScript are allowed.
-/

set_option autoImplicit false

namespace Highlight.Lexers

/-- What the JSON scanner is in the middle of. -/
inductive JsonMode
  /-- Between tokens. -/
  | idle
  /-- A string, after a backslash or not, and with the hex digits of a `\u` escape still
  to come. -/
  | quoted (escape : Bool) (hexLeft : Nat)
  /-- Blanks. -/
  | blank
  /-- A constant. -/
  | constant
  /-- A number, a float once it has a point or an exponent. -/
  | number (float : Bool)
  /-- Punctuation. -/
  | punct
  /-- A comment to the end of the line. -/
  | lineComment
  /-- A block comment, just after a star or not. -/
  | blockComment (star : Bool)
  /-- A slash that may start a comment. -/
  | slash
  deriving BEq, Repr

/-- The characters of JSON numbers. -/
def jsonIntegerChar (c : Char) : Bool := c == '-' || c.isDigit

/-- The characters that make a number a float. -/
def jsonFloatChar (c : Char) : Bool := c == '.' || c == 'e' || c == 'E' || c == '+'

/-- The characters of the constants `true`, `false` and `null`. -/
def jsonConstantChar (c : Char) : Bool := "truefalsenull".toList.contains c

def jsonHexChar (c : Char) : Bool := c.isDigit || ('a' ≤ c && c ≤ 'f') || ('A' ≤ c && c ≤ 'F')

def jsonPunctChar (c : Char) : Bool := "\x7b\x7d[],".toList.contains c

def jsonBlank (c : Char) : Bool := c == ' ' || c == '\n' || c == '\r' || c == '\t'

/-- Where the JSON scanner is: its mode, where the token begun starts, the tokens that wait
for what follows a string (in order), and the tokens so far (last first). -/
structure JsonScan where
  mode : JsonMode := .idle
  start : Nat := 0
  queue : List Token := []
  out : List Token := []

namespace JsonScan

/-- Put out a token. -/
def emit (s : JsonScan) (t : Token) : JsonScan := { s with out := t :: s.out }

/-- Put out the waiting tokens as they are. -/
def flush (s : JsonScan) : JsonScan := { s with out := s.queue.reverse ++ s.out, queue := [] }

/-- Put out the waiting tokens, with the strings among them as keys. -/
def flushKeys (s : JsonScan) : JsonScan :=
  let keys := s.queue.map fun t => if t.kind == .stringDouble then { t with kind := .nameTag } else t
  { s with out := keys.reverse ++ s.out, queue := [] }

/-- Put a blank or a comment in the queue if tokens wait, else out. -/
def aside (s : JsonScan) (t : Token) : JsonScan :=
  if s.queue.isEmpty then s.emit t else { s with queue := s.queue ++ [t] }

end JsonScan

/-- What the character at `i` starts, after the token before it has ended. -/
def JsonScan.begin (s : JsonScan) (i : Nat) (c : Char) : JsonScan :=
  let s := { s with start := i, mode := .idle }
  if c == '"' then { s with mode := .quoted false 0 }
  else if jsonBlank c then { s with mode := .blank }
  else if c == 'f' || c == 'n' || c == 't' then { s.flush with mode := .constant }
  else if jsonIntegerChar c then { s.flush with mode := .number false }
  else if c == ':' then { s.flushKeys with mode := .punct }
  else if jsonPunctChar c then { s.flush with mode := .punct }
  else if c == '/' then { s with mode := .slash }
  else s.flush.emit ⟨i, .error, String.singleton c⟩

/-- The scanner after the character `c` at offset `i` of `text`. -/
def JsonScan.step (text : Array Char) (s : JsonScan) (i : Nat) (c : Char) : JsonScan :=
  let piece (k : TokenKind) (stop : Nat) : Token :=
    ⟨s.start, k, String.ofList (text.extract s.start stop).toList⟩
  match s.mode with
  | .quoted escape hexLeft =>
    if hexLeft > 0 then
      if jsonHexChar c then { s with mode := .quoted (hexLeft != 1) (hexLeft - 1) }
      else { s with mode := .quoted false 0 }
    else if escape then { s with mode := .quoted false (if c == 'u' then 4 else 0) }
    else if c == '\\' then { s with mode := .quoted true 0 }
    else if c == '"' then { s with queue := s.queue ++ [piece .stringDouble (i + 1)], mode := .idle }
    else s
  | .blank => if jsonBlank c then s else (s.aside (piece .whitespace i)).begin i c
  | .constant => if jsonConstantChar c then s else (s.emit (piece .keywordConstant i)).begin i c
  | .number float =>
    if jsonIntegerChar c then s
    else if jsonFloatChar c then { s with mode := .number true }
    else (s.emit (piece (if float then .numberFloat else .numberInteger) i)).begin i c
  | .punct => if jsonPunctChar c then s else (s.emit (piece .punctuation i)).begin i c
  | .lineComment => if c != '\n' then s else (s.aside (piece .commentSingle i)).begin i c
  | .blockComment star =>
    if c == '*' then { s with mode := .blockComment true }
    else if star then
      if c == '/' then { s.aside (piece .commentMultiline (i + 1)) with mode := .idle }
      else { s with mode := .blockComment false }
    else s
  | .slash =>
    if c == '/' then { s with mode := .lineComment }
    else if c == '*' then { s with mode := .blockComment false }
    else (s.flush.emit (piece .error i)).begin i c
  | .idle => s.begin i c

/-- The token that the scanner is in the middle of when the text ends. -/
def JsonScan.finish (text : Array Char) (s : JsonScan) : List Token :=
  let rest (k : TokenKind) : List Token :=
    [⟨s.start, k, String.ofList (text.extract s.start text.size).toList⟩]
  let last := match s.mode with
    | .quoted _ _ => rest .error
    | .number true => rest .numberFloat
    | .number false => rest .numberInteger
    | .constant => rest .keywordConstant
    | .blank => rest .whitespace
    | .punct => rest .punctuation
    | .lineComment => rest .commentSingle
    | .blockComment _ => rest .error
    | .slash => rest .error
    | .idle => []
  s.flush.out.reverse ++ last

def jsonTokens (text : Array Char) : List Token :=
  let (_, s) := text.foldl (fun (i, s) c => (i + 1, JsonScan.step text s i c)) (0, ({} : JsonScan))
  s.finish text

def jsonScanner : Scanner := .plain fun _ text _ => jsonTokens text

/-- The keywords of JSON-LD, as the keys they are written as. -/
def jsonLdKeywords : List String :=
  ["base", "container", "context", "direction", "graph", "id", "import", "included", "index",
   "json", "language", "list", "nest", "none", "prefix", "propagate", "protected", "reverse",
   "set", "type", "value", "version", "vocab"].map fun k => "\"@" ++ k ++ "\""

/-- JSON-LD: JSON whose keys that are keywords of JSON-LD are decorators. -/
def jsonLdScanner : Scanner :=
  .plain fun _ text _ => (jsonTokens text).map fun t =>
    if t.kind == .nameTag && jsonLdKeywords.contains t.text then { t with kind := .nameDecorator }
    else t

theorem JsonScan.begin_blank (s : JsonScan) (i : Nat) : (s.begin i ' ').mode = .blank := by
  simp [JsonScan.begin, jsonBlank]

end Highlight.Lexers
