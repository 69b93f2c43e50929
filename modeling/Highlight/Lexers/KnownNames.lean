import Highlight.Lexer.Retype

/-!
# Languages that look names up in lists of known words

These languages lex every name with one broad rule and then give the names found in lists
of known words a kind of their own: types of a standard library, builtin functions, keywords
that the grammar does not single out. Each scanner here runs its grammar and then goes over
the tokens with a chain of lookups (`Retype`); some chains can be switched off by options.
-/

set_option autoImplicit false

namespace Highlight.Lexers

/-- A truth-valued option, read the usual way, with a default for a value of the wrong form
(which the language reports before lexing). -/
def Env.flag (env : Env) (name : String) (default : Bool) : Bool :=
  match env.options.flag name default with
  | .ok b => b
  | .error _ => default

/-- A lookup among tokens of one kind. -/
def among (k : TokenKind) (words : Std.HashSet String) (kind : TokenKind) : Retype :=
  ⟨[k], words, kind, false⟩

/-- A lookup among all tokens. -/
def anyToken (words : Std.HashSet String) (kind : TokenKind) : Retype :=
  ⟨[], words, kind, false⟩

/-- The type lists of the C family: the standard library, C99, C11 atomics and the Linux
kernel, each switched by an option. -/
structure CTypes where
  stdlib : Std.HashSet String
  c99 : Std.HashSet String
  c11 : Std.HashSet String
  linux : Std.HashSet String

/-- The lookups of the C family: a plain name that is a known type becomes a type. -/
def cFamilyRules (env : Env) (ts : CTypes) : List Retype :=
  (if Env.flag env "stdlibhighlighting" true then [among .name ts.stdlib .keywordType] else []) ++
  (if Env.flag env "c99highlighting" true then [among .name ts.c99 .keywordType] else []) ++
  (if Env.flag env "c11highlighting" true then [among .name ts.c11 .keywordType] else []) ++
  (if Env.flag env "platformhighlighting" true then [among .name ts.linux .keywordType] else [])

def cFamilyScanner (g : Grammar) (ts : CTypes) : Scanner :=
  .mapTokens g fun env t => retype (cFamilyRules env ts) t

/-- The lookups of Objective-C: a name or a class name that Cocoa defines, as an interface,
a protocol or a primitive type, is a builtin. -/
def cocoaRules (cocoa : List (Std.HashSet String)) : List Retype :=
  cocoa.map fun words => ⟨[.name, .nameClass], words, .nameBuiltinPseudo, false⟩

/-- Objective-C and its relatives: the C family, then the names of Cocoa. -/
def objectiveCScanner (g : Grammar) (ts : CTypes) (cocoa : List (Std.HashSet String)) : Scanner :=
  .mapTokens g fun env t => retype (cocoaRules cocoa) (retype (cFamilyRules env ts) t)

/-- CUDA: the C family, then the qualifiers, vector types, builtin variables, launch
parameters and functions of CUDA. -/
def cudaScanner (g : Grammar) (ts : CTypes)
    (qualifiers vectors variables_ launch functionQualifiers functions : Std.HashSet String) :
    Scanner :=
  .mapTokens g fun env t =>
    retype [among .name qualifiers .keywordType, among .name vectors .keywordType,
      among .name variables_ .nameBuiltin, among .name launch .keywordPseudo,
      among .name functionQualifiers .keywordReserved, among .name functions .nameFunction]
      (retype (cFamilyRules env ts) t)

/-- Arduino: the C family, then its own words, whatever kind the grammar gave them. -/
def arduinoScanner (g : Grammar) (ts : CTypes)
    (structure_ operators variables_ plain functions : Std.HashSet String) : Scanner :=
  .mapTokens g fun env t =>
    retype [anyToken structure_ .nameBuiltin, anyToken operators .operator,
      anyToken variables_ .keywordReserved, anyToken plain .name, anyToken functions .nameFunction]
      (retype (cFamilyRules env ts) t)

/-- FreeFem++: the C family, then its own words, whatever kind the grammar gave them. -/
def freeFemScanner (g : Grammar) (ts : CTypes)
    (operators types spaces preprocessor keywords functions parameters plain :
      Std.HashSet String) : Scanner :=
  .mapTokens g fun env t =>
    retype [anyToken operators .operator, anyToken types .keywordType,
      anyToken spaces .nameClass, anyToken preprocessor .commentPreproc,
      anyToken keywords .keywordReserved, anyToken functions .nameFunction,
      anyToken parameters .keywordPseudo, anyToken plain .name]
      (retype (cFamilyRules env ts) t)

/-- Dylan: names are looked up in lower case. -/
def dylanScanner (g : Grammar) (builtins keywords functions operators : Std.HashSet String) :
    Scanner :=
  .mapTokens g fun _ t =>
    retype [⟨[.name], builtins, .nameBuiltin, true⟩, ⟨[.name], keywords, .keyword, true⟩,
      ⟨[.name], functions, .nameBuiltin, true⟩, ⟨[.name], operators, .operator, true⟩] t

/-- Elixir: keywords, word operators, builtins, declarations, namespaces, constants and
pseudo variables among the names. -/
def elixirScanner (g : Grammar)
    (keywords wordOperators builtins declarations namespaces constants pseudo :
      Std.HashSet String) : Scanner :=
  .mapTokens g fun _ t =>
    retype [among .name keywords .keyword, among .name wordOperators .operatorWord,
      among .name builtins .keyword, among .name declarations .keywordDeclaration,
      among .name namespaces .keywordNamespace, among .name constants .nameConstant,
      among .name pseudo .nameBuiltinPseudo] t

/-- A language with one list of lookups among its plain names. -/
def namesScanner (g : Grammar) (rules : List Retype) : Scanner :=
  .mapTokens g fun _ t => retype rules t

/-- Scheme: names of functions and variables that are keywords or builtins. -/
def schemeRules (keywords builtins : Std.HashSet String) : List Retype :=
  [⟨[.nameFunction, .nameVariable], keywords, .keyword, false⟩,
   ⟨[.nameFunction, .nameVariable], builtins, .nameBuiltin, false⟩]

/-- LilyPond: Scheme, then the Scheme functions that LilyPond defines, and every Scheme
builtin marked as such. -/
def lilyPondScanner (g : Grammar) (keywords builtins functions : Std.HashSet String) : Scanner :=
  .mapTokens g fun _ t =>
    let t := retype (schemeRules keywords builtins) t
    if t.kind == .nameFunction || t.kind == .nameVariable then
      retype [anyToken functions (TokenKind.nameBuiltin.child "SchemeFunction")] t
    else if t.kind == .nameBuiltin then { t with kind := TokenKind.nameBuiltin.child "SchemeBuiltin" }
    else t

/-- SourcePawn: with the SourceMod option on, its types and functions. -/
def sourcePawnScanner (g : Grammar) (types functions : Std.HashSet String) : Scanner :=
  .mapTokens g fun env t =>
    if Env.flag env "sourcemod" true then
      retype [among .name types .keywordType, among .name functions .nameBuiltin] t
    else t

/-- Bash for Slurm: its commands, and the comments that hold batch directives. -/
def slurmScanner (g : Grammar) (commands : Std.HashSet String) : Scanner :=
  .mapTokens g fun _ t =>
    if t.kind == .text && commands.contains t.text then { t with kind := .nameBuiltin }
    else if t.kind == .commentSingle && (t.text.splitOn "SBATCH").length > 1 then
      { t with kind := .keywordPseudo }
    else t

/-- PHP: names of the known functions become builtins; with `startinline` the text starts
inside code rather than inside the markup around it. -/
def phpScanner (g : Grammar) (functions : Std.HashSet String) : Scanner :=
  .refine g
    (fun env ts =>
      let on := Env.flag env "funcnamehighlighting" true
      ts.map fun tok =>
        if on && tok.kind == .nameOther && functions.contains tok.text then
          { tok with kind := .nameBuiltin }
        else tok)
    (fun env _ =>
      let inline := match env.options.find? "_startinline" with
        | some (.bool b) => b
        | some _ => true
        | none => Env.flag env "startinline" false
      if inline then ["root", "php"] else ["root"])

/-- A Lua name: a known function becomes a builtin, and a name with a dot in it is split in
three tokens. -/
def luaName (on : Bool) (functions : Std.HashSet String) (tok : Token) : List Token :=
  if tok.kind == .name then
    if on && functions.contains tok.text then [{ tok with kind := .nameBuiltin }]
    else match tok.text.splitOn "." with
      | [a, b] => [⟨tok.start, .name, a⟩, ⟨tok.start + a.length, .punctuation, "."⟩,
          ⟨tok.start + a.length + 1, .name, b⟩]
      | _ => [tok]
  else [tok]

def luaScanner (g : Grammar) (functions : Std.HashSet String) : Scanner :=
  .refine g fun env ts =>
    ts.flatMap (luaName (Env.flag env "func_name_highlighting" true) functions)

/-- MoonScript: Lua's names, and a dot is an operator. -/
def moonScriptScanner (g : Grammar) (functions : Std.HashSet String) : Scanner :=
  .refine g fun env ts =>
    (ts.flatMap (luaName (Env.flag env "func_name_highlighting" true) functions)).map fun tok =>
      if tok.kind == .punctuation && tok.text == "." then { tok with kind := .operator } else tok

/-- The pieces of a dotted Luau name after its builtin prefix: every piece a variable, the
last a variable or a function as the name was, with the dots in between. -/
def luauTail (lastKind : TokenKind) : Nat → List String → List Token
  | _, [] => []
  | i, [p] => [⟨i, lastKind, p⟩]
  | i, p :: rest =>
    ⟨i, .nameVariable, p⟩ :: ⟨i + p.length, .punctuation, "."⟩ :: luauTail lastKind (i + p.length + 1) rest

/-- A Luau name: the longest dotted prefix that is a builtin, then the other pieces. -/
def luauName (builtins : Std.HashSet String) (tok : Token) : List Token :=
  if tok.kind == .name || tok.kind == .nameOther then
    let parts := tok.text.splitOn "."
    let lastKind : TokenKind := if tok.kind == .name then .nameVariable else .nameFunction
    let prefixOf (k : Nat) : String := ".".intercalate (parts.take k)
    match ((List.range parts.length).reverse.map (· + 1)).find? (builtins.contains ∘ prefixOf) with
    | some k =>
      let pre := prefixOf k
      let rest := parts.drop k
      let i := tok.start + pre.length
      ⟨tok.start, .nameBuiltin, pre⟩ ::
        (if rest.isEmpty then [] else ⟨i, .punctuation, "."⟩ :: luauTail lastKind (i + 1) rest)
    | none => luauTail lastKind tok.start parts
  else [tok]

/-- Luau: the builtins of Luau and, when asked, of Roblox, with more and fewer from the
options. -/
def luauScanner (g : Grammar) (luau roblox : Std.HashSet String) : Scanner :=
  .refine g fun env ts =>
    let words (name : String) : List String :=
      match env.options.list name [] with
      | .ok vs => vs.filterMap fun | .str s => some s | _ => none
      | .error _ => []
    let base : Std.HashSet String := Std.HashSet.ofList (words "additional_builtins")
    let base := if Env.flag env "include_luau_builtins" true then base.insertMany luau else base
    let base := if Env.flag env "include_roblox_builtins" false then base.insertMany roblox else base
    let builtins := (words "disabled_builtins").foldl (fun s w => s.erase w) base
    ts.flatMap (luauName builtins)

/-- The prefix of `n` characters of a text. -/
def textTake (s : String) (n : Nat) : String := String.ofList (s.toList.take n)

/-- How many entries of a sorted table of abbreviations come before `w` (the place where
`w` would go). -/
def placeOf (table : Array (String × String)) (w : String) : Nat :=
  go table.size 0 table.size
where
  /-- Search between `lo` and `hi`. -/
  go : Nat → Nat → Nat → Nat
    | 0, lo, _ => lo
    | fuel + 1, lo, hi =>
      if lo < hi then
        let mid := (lo + hi) / 2
        if decide ((table.getD mid ("", "")).1 < w) then go fuel (mid + 1) hi else go fuel lo mid
      else lo

/-- Whether `w` abbreviates a Vim word of a table of (shortest form, full form): it starts
with the shortest form and is a prefix of the full one. The entry just before `w` and the
one at its place are the only candidates. -/
def vimIsIn (table : Array (String × String)) (w : String) : Bool :=
  let p := placeOf table w
  let fits (e : String × String) : Bool :=
    e.1 == textTake w e.1.length && textTake e.2 w.length == w
  (p > 0 && fits (table.getD (p - 1) ("", ""))) || (p < table.size && fits (table.getD p ("", "")))

/-- Vim script: words that abbreviate a command are keywords, those that abbreviate an
option or an event are builtins, and the others are text. -/
def vimScanner (g : Grammar) (commands options events : Array (String × String)) : Scanner :=
  .mapTokens g fun _ tok =>
    if tok.kind == .nameOther then
      if vimIsIn commands tok.text then { tok with kind := .keyword }
      else if vimIsIn options tok.text || vimIsIn events tok.text then { tok with kind := .nameBuiltin }
      else { tok with kind := .text }
    else tok

/-- A text without the equal signs at its end. -/
def dropTrailingEquals (s : String) : String :=
  String.ofList (s.toList.reverse.dropWhile (· == '=')).reverse

/-- Lasso: with `builtinshighlighting` on, known names and members become builtins; with
`requiredelimiters` the text starts outside the code delimiters. -/
def lassoScanner (g : Grammar) (builtins members : Std.HashSet String) : Scanner :=
  .refine g
    (fun env ts =>
      let on := Env.flag env "builtinshighlighting" true
      ts.map fun tok =>
        if on && ((tok.kind == .nameOther && builtins.contains (Chars.lowerText tok.text)) ||
            (tok.kind == TokenKind.nameOther.child "Member" &&
              members.contains (dropTrailingEquals (Chars.lowerText tok.text)))) then
          { tok with kind := .nameBuiltin }
        else tok)
    (fun env _ =>
      if Env.flag env "requiredelimiters" false then ["root", "delimiters"] else ["root"])

/-- The name of an XSLT element in a tag text such as `<xsl:template>`: what follows
`xsl:` up to the first `>`. -/
def xslElement? (s : String) : Option String :=
  let cs := s.toList
  match cs with
  | '<' :: rest =>
    let rest := match rest with
      | '/' :: more => more
      | _ => rest
    match rest with
    | 'x' :: 's' :: 'l' :: ':' :: name => some (String.ofList (name.takeWhile (· != '>')))
    | _ => none
  | _ => none

/-- XSLT: tags of the known XSLT elements are keywords. -/
def xsltScanner (g : Grammar) (elements : Std.HashSet String) : Scanner :=
  .mapTokens g fun _ tok =>
    match xslElement? tok.text with
    | some e => if tok.kind == .nameTag && elements.contains e then { tok with kind := .keyword } else tok
    | none => tok

/-- AspectJ: its keywords among the names; an inter-type label becomes a keyword and its
colon an operator (both at the label's offset); some annotations are keywords. -/
def aspectJScanner (g : Grammar) (keywords interType annotations : Std.HashSet String) :
    Scanner :=
  .refine g fun _ ts =>
    ts.flatMap fun tok =>
      if tok.kind == .name && keywords.contains tok.text then [{ tok with kind := .keyword }]
      else if tok.kind == .nameLabel && interType.contains tok.text then
        let cs := tok.text.toList
        [⟨tok.start, .keyword, String.ofList cs.dropLast⟩,
         ⟨tok.start, .operator, String.ofList (cs.getLast?.toList)⟩]
      else if tok.kind == .nameDecorator && annotations.contains tok.text then
        [{ tok with kind := .keyword }]
      else [tok]

end Highlight.Lexers
