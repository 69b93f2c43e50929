import Highlight.Lexers.Lines
import Highlight.Lexers.Actions
import Highlight.Lexer.Insertions

/-!
# Code in other languages, named by the text

Documents and programs often hold code of another language and say which: a fenced block
of a markup language names it after the fence, a directive after its name, a function of a
database after `LANGUAGE`. The actions here find that name, look the language up by alias,
and lex the code with it; when no language has the name (or the option `handlecodeblocks`
is off), the code is one string token.
-/

set_option autoImplicit false

namespace Highlight.Lexers

/-- The tokens of a named group of a match, if it matched. -/
def namedToken (h : Hit) (name : String) (k : TokenKind) : List Token :=
  match h.named? name with
  | some (a, b) => [⟨a, k, h.slice a b⟩]
  | none => []

/-- Whether code blocks are lexed in their language: the option `handlecodeblocks`, on by
default. -/
def handlesCodeBlocks (env : Env) : Bool :=
  match env.options.flag "handlecodeblocks" true with
  | .ok b => b
  | .error _ => true

/-- The code lexed by the language of an alias under default options, with the cursor after
it, if code blocks are handled and there is such a language. -/
def codeIn (env : Env) (c : Cursor) (alias_ code : String) : Option (List Token × Cursor) :=
  if handlesCodeBlocks env then env.byAliasAt c (strip alias_) [] code else none

/-! ## Markup -/

/-- A fenced code block of Markdown: the fence and the language name, perhaps more words,
then the code in that language and the closing fence. -/
def markdownCodeBlock : Callback := fun env h c =>
  let head := namedToken h "initial" .stringBacktick ++ namedToken h "lang" .stringBacktick ++
    (if (h.named? "afterlang").isSome then
      namedToken h "whitespace" .whitespace ++ namedToken h "extra" .text
    else []) ++ namedToken h "newline" .whitespace
  let code := h.namedText "code"
  let (body, c) := match codeIn env c (h.namedText "lang") code with
    | some (ts, c) => (ts, c)
    | none => (namedToken h "code" .string, c)
  (head ++ body ++ namedToken h "terminator" .stringBacktick, c.past h)

/-- The lines of indented code with the indentation taken off each line longer than it,
and the indentation of each such line as a token to put back. -/
def unindent (size : Nat) (code : String) : String × List (Nat × List Token) :=
  let (text, marks) := (splitLinesKeep code).foldl (fun (text, marks) line =>
    if line.length > size then
      (text ++ dropChars line size, (text.length, [piece 0 .text (takeChars line size)]) :: marks)
    else (text ++ line, marks)) ("", ([] : List (Nat × List Token)))
  (text, marks.reverse)

/-- A source code directive of reStructuredText: its head, then the indented code lexed in
the language the directive names, with the indentation put back as text. -/
def rstSourceCode : Callback := fun env h c =>
  let head := groupToken h 1 .punctuation ++ groupToken h 2 .text ++ groupToken h 3 .operatorWord ++
    groupToken h 4 .punctuation ++ groupToken h 5 .text ++ groupToken h 6 .keyword ++
    groupToken h 7 .text
  let indent := h.group 8
  let code := indent ++ h.group 9 ++ h.group 10 ++ h.group 11
  let (text, marks) := unindent indent.length code
  let (body, c) : List Token × Cursor := match codeIn env c (h.group 6) text with
    | some (ts, c) => (insertTokens marks ts, c)
    | none => ([⟨((h.span? 8).map (·.1)).getD h.start, .string, code⟩], c)
  (head ++ body, c.past h)

/-- A code block of TiddlyWiki: the fence and the language name, then the code in that
language and the closing fence; without a language the closing fence is not a token of its
own. -/
def tiddlyCodeBlock : Callback := fun env h c =>
  let head := groupToken h 1 .string ++ groupToken h 2 .string ++ groupToken h 3 .text
  match codeIn env c (h.group 2) (h.group 4) with
  | some (ts, c) => (head ++ ts ++ groupToken h 5 .string, c.past h)
  | none => (head ++ groupToken h 4 .string, c.past h)

/-- A style block of TiddlyWiki: the tag, then style sheet code and the closing tag. -/
def tiddlyStyleBlock : Callback := fun env h c =>
  let head := groupToken h 1 .string ++ groupToken h 2 .string
  match codeIn env c "css" (h.group 3) with
  | some (ts, c) => (head ++ ts ++ groupToken h 4 .string, c.past h)
  | none => (head ++ groupToken h 3 .string, c.past h)

/-- Where the tag of an element ends in its text: the first `>` that does not close a
comment, or none. -/
def tagEnd (cs : List Char) : Option Nat :=
  let n := cs.length
  (List.range n).find? fun i =>
    cs[i]? == some '>' && sliceChars cs ((i : Int) - 2) i != ['-', '-']

/-- The language named by the last `lang=` attribute of a tag. -/
def langAttribute : Pattern.Compiled := pattern r#"\blang=("|'|)(\w+)(\1)"#

/-- The last language that the attributes of a tag name. -/
def tagLanguage (attrs : String) : Option String :=
  (findAll langAttribute attrs).getLast?.bind fun m => groupText attrs m 2

/-- An element of wiki text whose content is code: the attributes are lexed as attributes,
and then the content with `lexContent`, given the language the attributes name. -/
def wikiCodeElement
    (lexContent : Env → Cursor → Option String → String → Option (List Token × Cursor)) :
    Callback := fun env h c =>
  let whole := h.whole
  let cs := whole.toList
  match tagEnd cs with
  | none =>
    let (ts, c) := env.sublexAt c none env.options (some ["root", "attr"]) whole
    (ts, c.past h)
  | some i =>
    let attrs := String.ofList (cs.take i)
    let content := String.ofList (cs.drop (i + 1))
    let (head, c) := env.sublexAt c none env.options (some ["root", "attr"]) attrs
    let (body, c) : List Token × Cursor := match lexContent env c (tagLanguage attrs) content with
      | some (ts, c) => (ts, c)
      | none => ([⟨h.start + i + 1, .text, content⟩], c)
    (head ++ [⟨h.start + i, .punctuation, ">"⟩] ++ body, c.past h)

/-- Highlighted source in wiki text, in the language its `lang` attribute names. -/
def wikiSyntaxHighlight : Callback :=
  wikiCodeElement fun env c lang content => lang.bind fun l => env.byAliasAt c l [] content

/-- A score in wiki text: LilyPond unless the `lang` attribute names another notation. -/
def wikiScore : Callback :=
  wikiCodeElement fun env c lang content =>
    if lang.getD "lilypond" == "lilypond" then
      some (env.sublexAt c (some "LilyPondLexer") [] none content)
    else none

/-! ## Procedures of a database -/

/-- The language of a function body, after the body or before it. -/
def languageClause : Pattern.Compiled := pattern r"\s+LANGUAGE\s+'?(\w+)'?" { ignoreCase := true }

/-- The word that starts an anonymous code block. -/
def doWord : Pattern.Compiled := pattern r"\bDO\b" { ignoreCase := true }

/-- The names a procedural language may go by: the name, without a leading `pl`, without a
trailing `u`, and without both. -/
def languageTries (lang : String) : List String :=
  let pl := lang.startsWith "pl"
  let u := lang.endsWith "u"
  [lang] ++ (if pl then [dropChars lang 2] else []) ++
    (if u then [takeChars lang (lang.length - 1)] else []) ++
    (if pl && u then [slice lang 2 (lang.length - 1)] else [])

/-- The code lexed in a procedural language of the database, with the cursor after it:
`sql` is the database's own dialect, any other name is tried in the forms of
`languageTries`. -/
def procedureCode (env : Env) (c : Cursor) (lang code : String) : Option (List Token × Cursor) :=
  if Chars.lowerText lang == "sql" then env.byAliasAt c "postgresql" env.options code
  else (languageTries lang).findSome? fun name => env.byAliasAt c name env.options code

/-- A dollar-quoted string of the database: its delimiters, and its body lexed in the
language that a `LANGUAGE` clause after it (or else before it) names, or as procedural
code after a `DO`. -/
def dollarString : Callback := fun env h c =>
  let lang : Option String :=
    let after := h.slice h.stop (h.stop + 100)
    match prefixMatch? languageClause after with
    | some m => groupText after m 1
    | none =>
      let before := h.slice (h.start - 100) h.start
      match (findAll languageClause before).getLast? with
      | some m => groupText before m 1
      | none =>
        if (findAll doWord (h.slice (h.start - 25) h.start)).isEmpty then none else some "plpgsql"
  let (body, c) := match lang.bind fun l => procedureCode env c l (h.group 4) with
    | some (ts, c) => (ts, c)
    | none => (groupToken h 4 .string, c)
  (groupToken h 1 .string ++ groupToken h 2 .stringDelimiter ++ groupToken h 3 .string ++ body ++
    groupToken h 5 .string ++ groupToken h 6 .stringDelimiter ++ groupToken h 7 .string, c.past h)

theorem languageTries_head (lang : String) : (languageTries lang).head? = some lang := by
  simp [languageTries]

end Highlight.Lexers
