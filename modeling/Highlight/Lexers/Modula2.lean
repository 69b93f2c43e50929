import Std.Data.HashMap
import Highlight.Lexers.Lines
import Highlight.Chars.Lower

/-!
# Modula-2 and its dialects

The grammar of Modula-2 lexes every identifier as a plain name and every lexeme of every
dialect. A pass over its tokens then reads them in a dialect: PIM, ISO, R10 or Objective
Modula-2, or an ISO or PIM dialect with the extensions of a compiler, or no dialect in
particular, where the words of the main dialects are all known. The `dialect` option
chooses one, and a dialect tag, a comment such as `(*!m2iso*)`, chooses one from where it
stands on; only the first tag that names a dialect counts.

In a dialect, a name may be a reserved word, a builtin, a pseudo builtin, or a module,
type, procedure, variable or constant of the standard library; the words are kept in
lists, each named by its role and by the dialect or extension it comes from, and a
dialect reads the lists of its own. Lexemes and number literals that a dialect lacks are
errors, and so are the comments and pragmas of other dialects. In the style of Algol
publications (the `style` option), reserved words and builtins are in lower case and some
operators are written as the symbols they stand for.
-/

set_option autoImplicit false

namespace Highlight.Lexers

/-- The dialects of Modula-2; `unknown` stands for all of the main ones at once. -/
inductive Modula2Dialect
  | unknown
  | pim
  | iso
  | r10
  | objm2
  | isoAglet
  | pimGm2
  | isoP1
  | isoXds
  deriving BEq

/-- The roles of the words of a dialect. -/
inductive Modula2Role
  /-- Lexemes that the dialect does not have. -/
  | reject
  | reserved
  | builtin
  | pseudo
  /-- Abstract data types of the standard library. -/
  | adt
  | module
  | type
  | procedure
  | variable
  | constant

namespace Modula2Dialect

/-- The dialects by the names that options and tags give them. -/
def named : List (String × Modula2Dialect) :=
  [("m2pim", .pim), ("m2iso", .iso), ("m2r10", .r10), ("objm2", .objm2), ("m2iso+aglet", .isoAglet),
   ("m2pim+gm2", .pimGm2), ("m2iso+p1", .isoP1), ("m2iso+xds", .isoXds)]

/-- Whether the dialect is PIM, with extensions or not. -/
def isPim (d : Modula2Dialect) : Bool := d == .pim || d == .pimGm2

/-- Whether the dialect is R10 or Objective Modula-2. -/
def isR10 (d : Modula2Dialect) : Bool := d == .r10 || d == .objm2

/-- The lists that the reserved words, builtins and pseudo builtins of a dialect come from. -/
def sources : Modula2Dialect → List String
  | .unknown => ["common", "pim", "iso", "r10"]
  | .pim => ["common", "pim"]
  | .iso => ["common", "iso"]
  | .r10 => ["common", "r10"]
  | .objm2 => ["common", "r10", "objm2"]
  | .isoAglet => ["common", "iso", "aglet"]
  | .pimGm2 => ["common", "pim", "gm2"]
  | .isoP1 => ["common", "iso", "p1"]
  | .isoXds => ["common", "iso", "xds"]

/-- The standard library of a dialect: that of PIM, of ISO or of R10 (none when no dialect
is chosen). -/
def library : Modula2Dialect → List String
  | .unknown => []
  | .pim | .pimGm2 => ["pim"]
  | .iso | .isoAglet | .isoP1 | .isoXds => ["iso"]
  | .r10 | .objm2 => ["r10"]

/-- The names of the word lists of a role in a dialect. -/
def lists (d : Modula2Dialect) : Modula2Role → List String
  | .reject => if d == .objm2 then ["reject.objm2"] else d.library.map ("reject." ++ ·)
  | .reserved => d.sources.map ("reserved." ++ ·)
  | .builtin => d.sources.map ("builtin." ++ ·)
  | .pseudo => d.sources.map ("pseudo." ++ ·)
  | .adt => if d.isR10 then ["adt.r10"] else []
  | .module =>
    match d with
    | .r10 => ["blueprint.r10", "module.r10", "adt.r10"]
    | .objm2 => ["blueprint.r10", "module.r10"]
    | _ => d.library.map ("module." ++ ·)
  | .type => d.library.map ("type." ++ ·)
  | .procedure => d.library.map ("procedure." ++ ·)
  | .variable => d.library.map ("variable." ++ ·)
  | .constant => d.library.map ("constant." ++ ·)

/-- Whether a word is in one of the lists of a role in a dialect; `tags` gives the lists
each word is in. -/
def lists? (d : Modula2Dialect) (tags : Std.HashMap String (List String)) (role : Modula2Role)
    (w : String) : Bool :=
  match tags.get? w with
  | some ts => (d.lists role).any ts.contains
  | none => false

/-- The role of a name in a dialect, if it has one: the first role with a list of the
dialect that has the name. Going in this order, a builtin, pseudo builtin or abstract data
type is never a reserved word, and a name of the standard library never a builtin. -/
def roleOf (d : Modula2Dialect) (tags : Std.HashMap String (List String)) (w : String) :
    Option Modula2Role :=
  [Modula2Role.reserved, .builtin, .pseudo, .adt, .module, .type, .procedure, .variable, .constant].find?
    fun r => d.lists? tags r w

/-- The dialect that a dialect tag names: `(*!` and `*)` around the name of a dialect. -/
def ofTag (value : String) : Option Modula2Dialect :=
  if value.length > 5 && value.startsWith "(*!" && value.endsWith "*)" then
    named.lookup (slice value 3 (value.length - 2))
  else none

/-- The dialect that the `dialect` option chooses: the first of its names that names a
dialect other than XDS, else none in particular. -/
def ofOptions (opts : Options) : Modula2Dialect :=
  let names := match opts.list "dialect" [] with
    | .ok vs => vs
    | .error _ => []
  let chosen := names.findSome? fun
    | .str s => if s == "m2iso+xds" then none else named.lookup s
    | _ => none
  chosen.getD .unknown

end Modula2Dialect

/-- How Modula-2 is shown: in the style of Algol publications or not, and whether the
abstract data types of the standard library count as builtins. -/
structure Modula2Style where
  algol : Bool
  adtsAsBuiltins : Bool

/-- The style that the options `style` and `treat_stdlib_adts_as_builtins` choose. -/
def Modula2Style.ofOptions (opts : Options) : Modula2Style :=
  let styles := match opts.list "style" [] with
    | .ok vs => vs
    | .error _ => []
  let adts := match opts.flag "treat_stdlib_adts_as_builtins" true with
    | .ok b => b
    | .error _ => true
  ⟨styles.contains (.str "algol") || styles.contains (.str "algol_nu"), adts⟩

/-- The symbol that an operator is written as in the style of Algol publications. -/
def algolSymbol (value : String) : String :=
  match value with
  | "#" => "≠"
  | "<=" => "≤"
  | ">=" => "≥"
  | "==" => "≡"
  | "*." => "•"
  | _ => value

/-- A token of the grammar read in a dialect. -/
def modula2Token (tags : Std.HashMap String (List String)) (style : Modula2Style)
    (d : Modula2Dialect) (t : Token) : Token :=
  let lowered (k : TokenKind) : Token :=
    { t with kind := k, text := if style.algol then Chars.lowerText t.text else t.text }
  if t.kind == .name then
    match d.roleOf tags t.text with
    | some .reserved => lowered .keywordReserved
    | some .builtin => lowered .nameBuiltin
    | some .pseudo => lowered .nameBuiltinPseudo
    | some .adt => if style.adtsAsBuiltins then lowered .nameBuiltinPseudo else { t with kind := .nameNamespace }
    | some .module => { t with kind := .nameNamespace }
    | some .type => { t with kind := .nameClass }
    | some .procedure => { t with kind := .nameFunction }
    | some .variable => { t with kind := .nameVariable }
    | some .constant => { t with kind := .nameConstant }
    | _ => t
  else if TokenKind.number.contains t.kind then
    if d != .unknown && !d.isR10 then
      if t.text.contains '\'' || ["0b", "0x", "0u"].contains (takeChars t.text 2) then { t with kind := .error }
      else t
    else if d.isR10 then
      if t.kind == .numberOct then { t with kind := .error }
      else if t.kind == .numberHex && t.text.contains 'H' then { t with kind := .error }
      else if t.kind == .numberFloat && t.text.contains 'E' then { t with kind := .error }
      else t
    else t
  else if TokenKind.comment.contains t.kind then
    if t.kind == .commentSingle then
      if d != .unknown && !d.isR10 then { t with kind := .error } else t
    else if t.kind == .commentPreproc then
      if t.text.startsWith "<*" && d.isPim then { t with kind := .error }
      else if t.text.startsWith "(*$" && d != .unknown && !d.isPim then { t with kind := .commentMultiline }
      else t
    else t
  else
    let t := if d.lists? tags .reject t.text then { t with kind := .error } else t
    if style.algol then { t with text := algolSymbol t.text } else t

/-- The lists that each word is in, from pairs of a word and the name of a list. -/
def wordTags (pairs : Array (String × String)) : Std.HashMap String (List String) :=
  pairs.foldl (fun m (w, tag) => m.insert w (tag :: (m.getD w []))) {}

/-- A step of the pass over the tokens: while no dialect tag has counted, a tag that names
a dialect chooses it for itself and the tokens after it. The state is the dialect, whether a
tag has counted, and the tokens read (last first). -/
def modula2Step (tags : Std.HashMap String (List String)) (style : Modula2Style)
    (state : Modula2Dialect × Bool × List Token) (t : Token) : Modula2Dialect × Bool × List Token :=
  let (d, tagged) := match state.2.1, t.kind == .commentSpecial, Modula2Dialect.ofTag t.text with
    | false, true, some d' => (d', true)
    | tagged, _, _ => (state.1, tagged)
  (d, tagged, modula2Token tags style d t :: state.2.2)

/-- The tokens of Modula-2: the grammar's tokens read in the dialect that the options
choose, until a dialect tag chooses another. -/
def modula2Tokens (tags : Std.HashMap String (List String)) (style : Modula2Style)
    (start : Modula2Dialect) (ts : List Token) : List Token :=
  (ts.foldl (modula2Step tags style) (start, false, [])).2.2.reverse

/-- Modula-2 in its dialects, from its grammar and the word lists. -/
def modula2Scanner (g : Grammar) (tags : Std.HashMap String (List String)) : Scanner :=
  .refine g fun env ts =>
    modula2Tokens tags (Modula2Style.ofOptions env.options) (Modula2Dialect.ofOptions env.options) ts

theorem modula2Tokens_untagged (tags : Std.HashMap String (List String)) (style : Modula2Style)
    (d : Modula2Dialect) (ts : List Token) (h : ∀ t ∈ ts, (t.kind == .commentSpecial) = false) :
    modula2Tokens tags style d ts = ts.map (modula2Token tags style d) := by
  have key : ∀ (us : List Token) (acc : List Token), (∀ t ∈ us, (t.kind == .commentSpecial) = false) →
      us.foldl (modula2Step tags style) (d, false, acc) =
        (d, false, (us.map (modula2Token tags style d)).reverse ++ acc) := by
    intro us
    induction us with
    | nil => intro acc _; simp
    | cons t rest ih =>
      intro acc hu
      have ht : (t.kind == .commentSpecial) = false := hu t (by simp)
      have step : modula2Step tags style (d, false, acc) t = (d, false, modula2Token tags style d t :: acc) := by
        simp only [modula2Step, ht]
      rw [List.foldl_cons, step, ih _ (fun u hu' => hu u (by simp [hu']))]
      simp
  simp [modula2Tokens, key ts [] h]

end Highlight.Lexers
