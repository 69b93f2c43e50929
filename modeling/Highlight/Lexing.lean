import Highlight.Catalog
import Highlight.Lexer.Input

/-!
# Lexing a text

`lexWith` lexes a text with a language. A language may lex parts of its text with other
languages, found by class name in the catalog; `nestingDepth` bounds how deep such nesting
goes. `lexAlias` is the whole way from an alias, options and a text to tokens: find the
language, read its options, clean the text (`Input.Settings.clean`) and lex it.
-/

set_option autoImplicit false

namespace Highlight

/-- Why a text cannot be lexed. -/
inductive LexError
  /-- No language has this alias. -/
  | noLanguage (alias_ : String)
  /-- No language has this class name. -/
  | noClass (name : String)
  /-- An option has a value of the wrong form. -/
  | badOption (e : OptionError)
  /-- The language's grammar cannot be made ready. -/
  | badGrammar (e : GrammarError)
  /-- A run of a grammar broke off. -/
  | broken (f : Fault)
  deriving Repr, Inhabited

namespace LexError

/-- The name of the kind of fault, as answers report it. -/
def kind : LexError → String
  | .noLanguage _ => "ClassNotFound"
  | .noClass _ => "AttributeError"
  | .badOption _ => "OptionError"
  | .badGrammar (.invalid _) => "AssertionError"
  | .badGrammar (.missing _) => "KeyError"
  | .badGrammar (.badPattern _) => "ValueError"
  | .broken .emptyStack => "IndexError"
  | .broken (.missingState _) => "KeyError"
  | .broken (.raised kind _) => kind

/-- What went wrong, in words. -/
def message : LexError → String
  | .noLanguage a => "no lexer for alias " ++ OptionValue.quoted a ++ " found"
  | .noClass n => n
  | .badOption e => e.message
  | .badGrammar (.invalid m) => m
  | .badGrammar (.missing s) => OptionValue.quoted s
  | .badGrammar (.badPattern m) => m
  | .broken .emptyStack => "list index out of range"
  | .broken (.missingState s) => OptionValue.quoted s
  | .broken (.raised _ message) => message

end LexError

/-- How deep languages may nest within languages. -/
def nestingDepth : Nat := 24

/-- The scanner of the language of a class, if there is one. -/
def scannerOf (name : String) : Option Scanner := (Catalog.byClass? name).map (·.scanner)

/-- Lex `text` with a scanner, options and an optional start stack (bottom first), from a
shared memory; the tokens and the shared memory left. -/
def lexScanner : Nat → Scanner → Options → Option (List String) → String → Shared →
    List Token × Shared
  | 0, _, _, _, _, shared => ([], shared)
  | depth + 1, scanner, opts, stack, text, shared =>
    let env : Env :=
      { options := opts
        sublex := fun target opts' stack' text' shared' =>
          let other := match target with
            | none => some scanner
            | some name => scannerOf name
          match other with
          | some s => lexScanner depth s opts' stack' text' shared'
          | none => ([], shared')
        byAlias := fun alias_ opts' text' shared' =>
          (Catalog.byAlias? alias_).map fun l => lexScanner depth l.scanner opts' none text' shared'
        mimetypeClass := fun m => (Catalog.byMimetype? m).map (·.className) }
    let chars := text.toList.toArray
    let (base, start) := scanner.resolve opts 8 stack
    match base with
    | .table ready =>
      match ready.get with
      | .ok t => t.run env chars start shared
      | .error _ => ([], shared)
    | .named name =>
      match scannerOf name with
      | some s => lexScanner depth s opts stack text shared
      | none => ([], shared)
    | .embed host inner needle =>
      -- the inner language runs over the whole text first, then the host over its pieces
      let (innerTokens, shared) := lexScanner depth inner opts none text shared
      let (buffered, insertions) := splitNeedle needle innerTokens
      let (hostTokens, shared) := lexScanner depth host opts none buffered shared
      (insertTokens insertions hostTokens, shared)
    | .custom run => run env chars start shared
    | .refined ready first post =>
      match ready.get with
      | .ok t => (t.run env chars (first env start) shared).map (post env) id
      | .error _ => ([], shared)
    | .byOptions _ | .startingIn _ _ => ([], shared)

/-- Lex `text` with a language, its options and an optional start stack (bottom first), in a
process where nothing is shared yet: the tokens, or the fault that broke a run off. -/
def lexWith (depth : Nat) (lang : Language) (opts : Options) (stack : Option (List String))
    (text : String) : Except LexError (List Token) :=
  let (ts, shared) := lexScanner depth lang.scanner opts stack text []
  match shared.fault? with
  | some f => .error (.broken f)
  | none => .ok ts

/-- The grammar fault of a language under some options, if its grammar cannot be made
ready. -/
def Language.fault? (lang : Language) (opts : Options) : Option GrammarError :=
  match (lang.scanner.resolve opts 8 none).1 with
  | .table ready | .refined ready _ _ =>
    match ready.get with
    | .error e => some e
    | .ok _ => none
  | _ => none

/-- Lex `code` with a language and options, after cleaning it, or in the language's own way
if it has one. -/
def lexLanguage (lang : Language) (opts : Options) (code : String) :
    Except LexError (List Token) := do
  let opts := lang.presets ++ opts
  let settings ← (Input.Settings.ofOptions opts).mapError LexError.badOption
  match lang.ownTokens with
  | some own => (own code).mapError fun (kind, message) => .broken (.raised kind message)
  | none =>
    match lang.fault? opts with
    | some e => .error (.badGrammar e)
    | none => lexWith nestingDepth lang opts none (settings.clean code)

/-- Lex `code` with a language and options, without cleaning it; the tokens keep their
offsets. -/
def lexRaw (lang : Language) (opts : Options) (code : String) : Except LexError (List Token) :=
  match lang.fault? opts with
  | some e => .error (.badGrammar e)
  | none => lexWith nestingDepth lang opts none code

def languageOfAlias (alias_ : String) : Except LexError Language :=
  match Catalog.byAlias? alias_ with
  | none => .error (.noLanguage alias_)
  | some lang => .ok lang

/-- The language of a public class name. -/
def languageOfClass (name : String) : Except LexError Language :=
  match Catalog.byPublicClass? name with
  | none => .error (.noClass name)
  | some lang => .ok lang

/-- Lex `code` with the language of an alias. -/
def lexAlias (alias_ : String) (opts : Options) (code : String) : Except LexError (List Token) :=
  match Catalog.byAlias? alias_ with
  | none => .error (.noLanguage alias_)
  | some lang => lexLanguage lang opts code

end Highlight
