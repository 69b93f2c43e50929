import Std.Data.HashSet
import Highlight.Language
import Highlight.Chars.Cased

/-!
# Shen

The grammar of Shen lexes every symbol as a literal; two passes over its tokens then give
symbols their roles. The first pass looks at the symbol after an opening parenthesis: a
special form or a declaration is a keyword, a builtin is a builtin, anything else a
function; a few symbols are builtins anywhere. The second pass follows declarations: the
name a declaration declares becomes a type, a namespace or a function, and the signature
of a definition, between braces, has variables (symbols in title case) and types.

Blanks and comments do not count when the passes look for the next symbol. When the
tokens end before a declaration finds its name, the last token seen stands for it, and is
given out once more.
-/

set_option autoImplicit false

namespace Highlight.Lexers

/-- The words of Shen: declarations, special forms, builtins, and the builtins that count
anywhere. -/
structure ShenWords where
  declarations : Std.HashSet String
  specialForms : Std.HashSet String
  builtins : Std.HashSet String
  anywhere : Std.HashSet String

/-- Whether a token counts when looking for the next symbol: blanks and comments do not. -/
def shenRelevant (t : Token) : Bool :=
  !(t.kind == .text || t.kind == .whitespace || t.kind == .commentSingle || t.kind == .commentMultiline)

namespace ShenWords

/-- The kind of a symbol after an opening parenthesis. -/
def headKind (w : ShenWords) (v : String) : TokenKind :=
  if w.specialForms.contains v then .keyword
  else if w.builtins.contains v then .nameBuiltin
  else if w.declarations.contains v then .keyword
  else .nameFunction

/-- The first pass: symbols after an opening parenthesis, and builtins anywhere. -/
def symbols (w : ShenWords) (ts : List Token) : List Token :=
  let (_, out) := ts.foldl (fun (opening, out) (t : Token) =>
    let k := if opening && (t.kind == .literal || t.kind == .nameVariable) then w.headKind t.text
      else if t.kind == .literal && w.anywhere.contains t.text then .nameBuiltin
      else t.kind
    (t.text == "(" && k == .punctuation, { t with kind := k } :: out)) (false, ([] : List Token))
  out.reverse

end ShenWords

/-- The tokens before the first that counts, and that token with the tokens after it. -/
def untilRelevant : List Token → List Token × Option (Token × List Token)
  | [] => ([], none)
  | t :: rest =>
    if shenRelevant t then ([], some (t, rest))
    else
      let (skipped, found) := untilRelevant rest
      (t :: skipped, found)

/-- A signature up to its closing brace: symbols in title case are variables, other symbols
types; the tokens after the brace. -/
def shenSignature : List Token → List Token × List Token
  | [] => ([], [])
  | t :: rest =>
    if t.kind == .literal && t.text == "\x7d" then ([{ t with kind := .punctuation }], rest)
    else
      let t := if t.kind == .literal || t.kind == .nameFunction then
          { t with kind := if Chars.isTitleText t.text then .nameVariable else .keywordType }
        else t
      let (sig, more) := shenSignature rest
      (t :: sig, more)

/-- The token the search for the next symbol stops at, with what follows: the symbol, or
when the tokens end first, the last token seen (`seen`, if no token was skipped). -/
def stopAt (seen : Option Token) (ts : List Token) : List Token × Option Token × List Token :=
  match untilRelevant ts with
  | (skipped, some (t, rest)) => (skipped, some t, rest)
  | (skipped, none) => (skipped, skipped.getLast?.orElse fun _ => seen, [])

/-- The tokens after the keyword of a declaration, up to where the declaration ends, and
the tokens after that. A data type declaration goes on to the end: its symbols after a
colon are types. -/
def shenDeclaration (declaration : String) (ts : List Token) : List Token × List Token :=
  match stopAt none ts with
  | (skipped, none, _) => (skipped, [])
  | (skipped, some t, rest) =>
    let named (k : TokenKind) : Token := if t.kind == .literal then { t with kind := k } else t
    if declaration == "datatype" then
      let (out, _) := rest.foldl (fun (out, afterColon) (u : Token) =>
        let u := if afterColon && u.kind == .literal then { u with kind := .keywordType } else u
        (u :: out, if shenRelevant u then u.kind == .literal && u.text == ":" else afterColon))
        (([] : List Token), false)
      (skipped ++ named .keywordType :: out.reverse, [])
    else if declaration == "package" then (skipped ++ [named .nameNamespace], rest)
    else if declaration == "define" then
      let name := named .nameFunction
      match stopAt (some name) rest with
      | (skipped2, some u, more) =>
        if u.text == "\x7b" && u.kind == .literal then
          let (sig, after) := shenSignature more
          (skipped ++ name :: skipped2 ++ { u with kind := .punctuation } :: sig, after)
        else (skipped ++ name :: skipped2 ++ [u], more)
      | (skipped2, none, more) => (skipped ++ name :: skipped2, more)
    else (skipped ++ [named .nameFunction], rest)

/-- The declarations in the tokens `ts`, after an opening parenthesis or not; `fuel` is at
least the number of tokens. -/
def ShenWords.followDeclarations (w : ShenWords) : Nat → Bool → List Token → List Token
  | 0, _, _ => []
  | _ + 1, _, [] => []
  | fuel + 1, opening, t :: rest =>
    if shenRelevant t then
      if opening && t.kind == .keyword && w.declarations.contains t.text then
        let (ds, more) := shenDeclaration t.text rest
        t :: ds ++ w.followDeclarations fuel false more
      else t :: w.followDeclarations fuel (t.text == "(" && t.kind == .punctuation) rest
    else t :: w.followDeclarations fuel opening rest

/-- The tokens of Shen: the grammar's tokens after both passes. -/
def shenScanner (g : Grammar) (w : ShenWords) : Scanner :=
  .refine g fun _ ts =>
    let ts := w.symbols ts
    w.followDeclarations (ts.length + 1) false ts

theorem untilRelevant_skipped (ts : List Token) :
    ∀ t ∈ (untilRelevant ts).1, shenRelevant t = false := by
  induction ts with
  | nil => simp [untilRelevant]
  | cons t rest ih =>
    unfold untilRelevant
    split
    · simp
    · rename_i h
      intro u hu
      simp only [List.mem_cons] at hu
      rcases hu with rfl | hu
      · simpa using h
      · exact ih u hu

end Highlight.Lexers
