import Highlight.Lexers.Lines

/-!
# Texts of two layers

Some texts interleave two layers line by line or piece by piece: a literate program is
prose with code between, a makefile has directives among its rules, a Ruby template is
text with code in tags. The scanners here cut the text into the layers, lex the code of a
layer as one text with its language, and put the other layer's tokens back in between
(`insertTokens`), so that the code is lexed as if it stood alone.

The languages of the layers share nothing, so each piece is lexed from the shared memory
the scanner was given, and the scanner gives it back as it was.
-/

set_option autoImplicit false

namespace Highlight.Lexers

/-- A scanner that lexes the whole text with the language of a class, under the options
changed by `adjust`, from a start stack. -/
def Scanner.through (cls : String) (adjust : Options → Options := id)
    (stack : Option (List String) := none) : Scanner :=
  .custom fun env text _ shared =>
    env.sublex (some cls) (adjust env.options) stack (String.ofList text.toList) shared

/-- A scanner that lexes the whole text with the language of a class and then changes each
token. -/
def Scanner.throughMapped (cls : String) (f : Token → Token) : Scanner :=
  .custom fun env text _ shared =>
    let (ts, shared) := env.sublex (some cls) env.options none (String.ofList text.toList) shared
    (ts.map f, shared)

/-- A scanner that makes the whole text one token of a kind. -/
def Scanner.whole (k : TokenKind) : Scanner := .plain fun _ text _ => [⟨0, k, String.ofList text.toList⟩]

/-- Code gathered from a text, and the tokens to put in at offsets of it (last first). -/
structure Layers where
  code : String := ""
  marks : List (Nat × List Token) := []

namespace Layers

/-- Put tokens in at the end of the code. -/
def mark (l : Layers) (ts : List Token) : Layers := { l with marks := (l.code.length, ts) :: l.marks }

/-- Add code. -/
def add (l : Layers) (s : String) : Layers := { l with code := l.code ++ s }

/-- The code lexed, with the tokens put in. -/
def tokens (l : Layers) (lex : String → List Token) : List Token :=
  insertTokens l.marks.reverse (lex l.code)

end Layers

/-! ## Literate programs -/

/-- A code line of the bird style: `>` and blanks, then the code. -/
def birdLine : Pattern.Compiled := pattern r"(>[ \t]*)(.*\n)"

/-- The bird style: lines after `>` are code, the others are text. -/
def birdLayers (lines : List String) : Layers :=
  lines.foldl (fun l line =>
    match prefixMatch? birdLine line with
    | some m => (l.mark [piece 0 .commentSpecial ((groupText line m 1).getD "")]).add
        ((groupText line m 2).getD "")
    | none => l.mark [piece 0 .text line]) {}

/-- The LaTeX style: code stands between `\begin{code}` and `\end{code}` lines, and the
text around it is lexed as TeX, one piece up to each start of code. -/
def latexLayers (tex : String → List Token) (lines : List String) : Layers :=
  let (l, latex, _) := lines.foldl (fun (l, latex, inCode) line =>
    let head := stripStart line
    if inCode then
      if head.startsWith "\\end\x7bcode\x7d" then (l, latex ++ line, false)
      else (l.add line, latex, true)
    else if head.startsWith "\\begin\x7bcode\x7d" then (l.mark (tex (latex ++ line)), "", true)
    else (l, latex ++ line, false)) (({} : Layers), "", false)
  l.mark (tex latex)

/-- A literate program whose code is in the language of class `code`: in the style that the
option `litstyle` names (`bird`, else LaTeX), or when it is not given, LaTeX if the text
starts with a backslash or a percent sign after its blanks (or is blank), else bird. -/
def literate (code : String) : Scanner :=
  .custom fun env text _ shared =>
    let s := String.ofList text.toList
    let bird := match env.options.find? "litstyle" with
      | some (.str "bird") => true
      | some _ => false
      | none => match (stripStart s).toList.head? with
        | some c => c != '%' && c != '\\'
        | none => false
    let lines := (newlineLines s).map (·.2)
    let layers := if bird then birdLayers lines
      else latexLayers (env.sublexAlone shared (some "TexLexer") env.options none) lines
    (layers.tokens (env.sublexAlone shared (some code) env.options none), shared)

/-- Literate Agda, always in the LaTeX style. -/
def literateLatex (code : String) : Scanner :=
  .custom fun env text _ shared =>
    let lines := (newlineLines (String.ofList text.toList)).map (·.2)
    ((latexLayers (env.sublexAlone shared (some "TexLexer") env.options none) lines).tokens
      (env.sublexAlone shared (some code) env.options none), shared)

/-! ## Makefiles -/

/-- A directive line of the make dialects: conditionals, inclusions and definitions. -/
def makeDirective : Pattern.Compiled :=
  pattern (r"^(?:\.\s*(include|undef|error|warning|if|else|elif|endif|for|endfor)|" ++
    r"\s*(ifeq|ifneq|ifdef|ifndef|else|endif|-?include|define|endef|:|vpath)|" ++
    r"\s*(if|else|endif))(?=\s)")

/-- A comment line of a makefile. -/
def makeComment : Pattern.Compiled := pattern r"^\s*@?#"

/-- A makefile: directive lines, and the lines a backslash continues them on, are
preprocessor lines; comment lines are comments; the rest is lexed as rules. -/
def makefile : Scanner :=
  .custom fun env text _ shared =>
    let (l, _) := (splitLinesKeep (String.ofList text.toList)).foldl (fun (l, continued) line =>
      if continued || (prefixMatch? makeDirective line).isSome then
        (l.mark [piece 0 .commentPreproc line], (strip line).endsWith "\\")
      else if (prefixMatch? makeComment line).isSome then (l.mark [piece 0 .comment line], false)
      else (l.add line, false)) (({} : Layers), false)
    (l.tokens (env.sublexAlone shared (some "BaseMakefileLexer") env.options none), shared)

/-! ## Ruby templates -/

/-- The tags of a Ruby template, and lines of code that start with `%`. -/
def erbTag : Pattern.Compiled := pattern r"(<%%|%%>|<%=|<%#|<%-|<%|-%>|%>|^%[^%].*?$)" { multiline := true }

/-- A text cut at the matches of a pattern: the pieces between them and the matches, one
after the other, starting and ending with a piece. -/
def splitAt (p : Pattern.Compiled) (s : String) : List String :=
  let (pieces, last) := (findAll p s).foldl (fun (pieces, last) m =>
    (pieces ++ [slice s last m.start, slice s m.start m.stop], m.stop)) (([] : List String), 0)
  pieces ++ [dropChars s last]

/-- What a Ruby template expects next: text, a tag, or the tag that closes code. -/
inductive ErbExpect
  | text
  | tag
  | close

/-- The tokens of the pieces of a Ruby template from offset `i` on, with `ruby` lexing code. -/
def erbTokens (ruby : String → List Token) : ErbExpect → List String → Nat → List Token
  | _, [], _ => []
  | .text, val :: rest, i => ⟨i, .other, val⟩ :: erbTokens ruby .tag rest (i + val.length)
  | .close, tag :: rest, i =>
    let k := if tag == "%>" || tag == "-%>" then TokenKind.commentPreproc else .other
    ⟨i, k, tag⟩ :: erbTokens ruby .text rest (i + tag.length)
  | .tag, tag :: rest, i =>
    if tag == "<%%" || tag == "%%>" then ⟨i, .other, tag⟩ :: erbTokens ruby .text rest (i + 3)
    else if tag == "<%#" then
      match rest with
      | val :: more =>
        ⟨i, .commentPreproc, tag⟩ :: ⟨i + 3, .comment, val⟩ ::
          erbTokens ruby .close more (i + 3 + val.length)
      | [] => [⟨i, .commentPreproc, tag⟩]
    else if tag == "<%" || tag == "<%=" || tag == "<%-" then
      match rest with
      | data :: more =>
        let codeStart := i + tag.length
        ⟨i, .commentPreproc, tag⟩ :: (ruby data).map (·.shift codeStart) ++
          erbTokens ruby .close more (codeStart + data.length)
      | [] => [⟨i, .commentPreproc, tag⟩]
    else if tag == "%>" || tag == "-%>" then ⟨i, .error, tag⟩ :: erbTokens ruby .text rest (i + tag.length)
    else
      ⟨i, .commentPreproc, takeChars tag 1⟩ :: (ruby (dropChars tag 1)).map (·.shift (i + 1)) ++
        erbTokens ruby .text rest (i + tag.length)

/-- Ruby templates: text, with Ruby code in tags, lexed by the Ruby language. -/
def erb : Scanner :=
  .custom fun env text _ shared =>
    (erbTokens (env.sublexAlone shared (some "RubyLexer") env.options none) .text
      (splitAt erbTag (String.ofList text.toList)) 0, shared)

theorem splitAt_nothing (s : String) (h : findAll erbTag s = []) : splitAt erbTag s = [s] := by
  simp [splitAt, h, dropChars]

end Highlight.Lexers
