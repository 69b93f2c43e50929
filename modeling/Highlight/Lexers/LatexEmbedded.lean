import Highlight.Lexer.Insertions

/-!
# Escapes inside code

A lexer that wraps the lexer of a language and lets the text carry pieces that are to be
typeset as they are, written between a left and a right delimiter. Delimiters inside strings
and comments are text. So the language lexes the text once, to find its strings and
comments; the text of each run of other tokens is scanned for escapes; and the text outside
the escapes is lexed by the language again, the escapes going back in between its tokens.

Each delimiter is one character. The scan cuts a run at its first left delimiter, and an
escape reaches to the first right delimiter after it; a left delimiter that no right
delimiter follows stands alone, as an error, and the scan goes on just after it.
-/

set_option autoImplicit false

namespace Highlight.Lexers

/-- A text cut at the first occurrence of a character: the text before it and, if it occurs,
the text after it. -/
def partitionAt (sep : Char) : List Char → List Char × Option (List Char)
  | [] => ([], none)
  | c :: cs =>
    if c = sep then ([], some cs)
    else
      let p := partitionAt sep cs
      (c :: p.1, p.2)

theorem partitionAt_length_lt {sep : Char} {text rest : List Char}
    (h : (partitionAt sep text).2 = some rest) : rest.length < text.length := by
  induction text with
  | nil => simp [partitionAt] at h
  | cons c cs ih =>
    by_cases hc : c = sep
    · simp only [partitionAt, hc, if_true, Option.some.injEq] at h
      simp [h]
    · simp only [partitionAt, hc, if_false] at h
      have := ih h
      simp only [List.length_cons]
      omega

/-- A piece of the text as the escape scan cuts it. -/
inductive Piece
  /-- Text left to the language. -/
  | plain (text : List Char)
  /-- The content of an escape, between its delimiters. -/
  | escape (content : List Char)
  /-- A left delimiter that no right delimiter follows. -/
  | lone
  deriving DecidableEq, Repr

/-- The text before a left delimiter, as a piece when there is some. -/
def plainPiece (a : List Char) : List Piece := if a.isEmpty then [] else [.plain a]

set_option linter.unusedVariables false in
/-- The pieces of a run of text: the text before the first left delimiter, then the escape
up to the next right delimiter and the scan of what follows it, or, where no right delimiter
follows, the left delimiter alone and the scan of the text after it. -/
def escapePieces (left right : Char) (text : List Char) : List Piece :=
  match h : partitionAt left text with
  | (a, none) => plainPiece a
  | (a, some after) =>
    plainPiece a ++
      match h' : partitionAt right after with
      | (b, some more) => .escape b :: escapePieces left right more
      | (_, none) => .lone :: escapePieces left right after
termination_by text.length
decreasing_by
  · have h1 : (partitionAt left text).2 = some after := by rw [h]
    have h2 : (partitionAt right after).2 = some more := by rw [h']
    have := partitionAt_length_lt h1
    have := partitionAt_length_lt h2
    omega
  · have h1 : (partitionAt left text).2 = some after := by rw [h]
    exact partitionAt_length_lt h1

/-- Comments and strings, where delimiters are text. -/
def keepsDelimiters (kind : TokenKind) : Bool :=
  TokenKind.comment.contains kind || TokenKind.string.contains kind

/-- The tokens of a stream with those that `keep` picks as they are (`some` kind) and each
run of the others merged into the text of the run (`none`); `buf` holds the text of the run
so far. -/
def filterRuns (keep : TokenKind → Bool) : List Char → List Token → List (Option TokenKind × List Char)
  | buf, [] => if buf.isEmpty then [] else [(none, buf)]
  | buf, t :: ts =>
    if keep t.kind then
      (if buf.isEmpty then [] else [(none, buf)]) ++ (some t.kind, t.text.toList) :: filterRuns keep [] ts
    else filterRuns keep (buf ++ t.text.toList) ts

/-- The pieces of one part of a stream: a run scanned for escapes, a string or a comment as
plain text. -/
def scanPart (left right : Char) : Option TokenKind × List Char → List Piece
  | (none, run) => escapePieces left right run
  | (some _, v) => [.plain v]

/-- The pieces of a stream. -/
def safePieces (left right : Char) (ts : List Token) : List Piece :=
  (filterRuns keepsDelimiters [] ts).flatMap (scanPart left right)

/-- The text to lex again and the insertions, as gathered from the pieces so far: plain text
goes on the text, and the tokens of the other pieces are held until the next plain piece, or
the end, puts them in at the length of the text then. -/
structure EscapeBuffer where
  buffered : List Char
  insertions : List (Nat × List Token)
  held : List Token

namespace EscapeBuffer

/-- The insertions with the held tokens put in at the end of the text so far. -/
def flushed (g : EscapeBuffer) : List (Nat × List Token) :=
  if g.held.isEmpty then g.insertions else g.insertions ++ [(g.buffered.length, g.held)]

/-- Gather one piece; a lone left delimiter is an error token of its one character. -/
def add (left : Char) (g : EscapeBuffer) : Piece → EscapeBuffer
  | .plain v => { buffered := g.buffered ++ v, insertions := g.flushed, held := [] }
  | .escape c => { g with held := g.held ++ [⟨0, .escape, String.ofList c⟩] }
  | .lone => { g with held := g.held ++ [⟨0, .error, String.singleton left⟩] }

end EscapeBuffer

/-- What the pieces of a text gather into. -/
def gather (left : Char) (pieces : List Piece) : EscapeBuffer :=
  pieces.foldl (EscapeBuffer.add left) ⟨[], [], []⟩

/-- The tokens of `text` with escapes between `left` and `right`, by a language lexer `lang`
that gives tokens with their offsets. -/
def latexEmbedded (left right : Char) (lang : String → List Token) (text : String) : List Token :=
  let g := gather left (safePieces left right (lang text))
  insertTokens g.flushed (lang (String.ofList g.buffered))

end Highlight.Lexers
