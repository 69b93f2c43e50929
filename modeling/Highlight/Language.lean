import Highlight.Lexer.Engine
import Highlight.Lexer.Insertions

/-!
# Languages

A language has the names it is known by and a scanner. Most scanners are grammars, made
ready on first use (`Scanner.table`). A language embedded in another (`Scanner.embed`) is
lexed in two layers: the inner language runs first and marks the pieces it leaves to the
host with one token kind; the host lexes those pieces joined together, and the inner
tokens are put back in between (`insertTokens`). Scanners may name the language of a class
(`Scanner.named`), found in the catalog when lexing, so that languages can refer to each
other in any order. A few languages have a scanner written
as a function (`Scanner.custom`), and some run a grammar and then go over its tokens again
(`Scanner.refined`), for instance to mark the names that are known builtins.
-/

set_option autoImplicit false

namespace Highlight

/-- How a language turns text into tokens. -/
inductive Scanner
  /-- By a grammar, made ready when first needed. -/
  | table (ready : Thunk (Except GrammarError Table))
  /-- By the language of a class. -/
  | named (className : String)
  /-- By an inner scanner, with the pieces of kind `needle` lexed by a host scanner. -/
  | embed (host inner : Scanner) (needle : TokenKind)
  /-- By a function, from the options, a way to lex with other languages, the text, the
  start stack (bottom first) and the shared memory, to the tokens and the shared memory
  left. -/
  | custom (run : Env → Array Char → List String → Shared → List Token × Shared)
  /-- By a grammar, made ready when first needed, run from a start stack that the options
  may choose in place of the one given (`start`), and then a pass over its tokens (`post`). -/
  | refined (ready : Thunk (Except GrammarError Table)) (start : Env → List String → List String)
      (post : Env → List Token → List Token)
  /-- By the scanner that the options pick. -/
  | byOptions (pick : Options → Scanner)
  /-- By `inner`, starting from `stack` (bottom first) unless the caller gives a stack. -/
  | startingIn (stack : List String) (inner : Scanner)

/-- The scanner that the text value of an option names among `variants`, or `fallback` when
the option is not given or names none of them. -/
def Scanner.choice (option : String) (variants : List (String × Scanner)) (fallback : Scanner) :
    Scanner :=
  .byOptions fun opts =>
    match opts.find? option with
    | some (.str v) => (variants.lookup v).getD fallback
    | _ => fallback

/-- Languages named by class, embedded one in the other; the host's tokens of kind `needle`
(by default `Other`) are what the inner language lexes. -/
def Scanner.embedNamed (host inner : String) (needle : TokenKind := .other) : Scanner :=
  .embed (.named host) (.named inner) needle

/-- The scanner that does the work under some options, and the start stack (bottom first):
choices are made by their options, and a start stack of the scanner's own stands in for a
stack that the caller does not give. -/
def Scanner.resolve (opts : Options) : Nat → Scanner → Option (List String) → Scanner × List String
  | 0, s, stack => (s, stack.getD ["root"])
  | n + 1, .byOptions pick, stack => Scanner.resolve opts n (pick opts) stack
  | n + 1, .startingIn start inner, stack =>
    Scanner.resolve opts n inner (some (stack.getD start))
  | _ + 1, s, stack => (s, stack.getD ["root"])

/-- A language and the names it is known by. -/
structure Language where
  /-- The class name, unique among languages. -/
  className : String
  /-- The short names a user may ask for. -/
  aliases : List String
  /-- Media types. -/
  mimetypes : List String := []
  /-- How it lexes. -/
  scanner : Scanner
  /-- Options the language sets itself, over those it is given. -/
  presets : Options := []
  /-- Its own way from a text to tokens, or to an error its code raises (its kind and
  message), in place of cleaning the text and lexing it with the scanner; most languages have
  none. -/
  ownTokens : Option (String → Except (String × String) (List Token)) := none

/-- A language from its names, each list written as one text with commas between the items. -/
def Language.described (className aliases mimetypes : String)
    (scanner : Scanner) : Language :=
  let items (s : String) : List String := if s.isEmpty then [] else s.splitOn ","
  { className, aliases := items aliases, mimetypes := items mimetypes, scanner }

/-- A scanner that runs a grammar, made ready on first use. -/
def Scanner.ofGrammar (g : Grammar) : Scanner := .table (Thunk.mk fun _ => g.compile)

/-- A scanner that runs a grammar made ready on first use, from the start stack that `start`
makes of the one given, and then goes over its tokens with `post`. -/
def Scanner.refine (g : Grammar) (post : Env → List Token → List Token)
    (start : Env → List String → List String := fun _ stack => stack) : Scanner :=
  .refined (Thunk.mk fun _ => g.compile) start post

/-- A scanner that runs a grammar and then changes each of its tokens. -/
def Scanner.mapTokens (g : Grammar) (f : Env → Token → Token) : Scanner :=
  .refine g fun env ts => ts.map (f env)

/-- A scanner written as a function that lexes no other language, so that it leaves the
shared memory as it finds it. -/
def Scanner.plain (run : Env → Array Char → List String → List Token) : Scanner :=
  .custom fun env text stack shared => (run env text stack, shared)

/-- A scanner written as a function that lexes no other language and may raise an error (its
kind and message), which breaks the run off. -/
def Scanner.raising (run : Array Char → Except (String × String) (List Token)) : Scanner :=
  .custom fun _ text _ shared =>
    match run text with
    | .ok ts => (ts, shared)
    | .error (kind, message) => ([], (Fault.key, (Fault.raised kind message).memo) :: shared)

/-- Split the inner language's tokens into the text left to the host, and the insertions of
the other tokens at offsets of that text. -/
def splitNeedle (needle : TokenKind) (inner : List Token) : String × List (Nat × List Token) :=
  let (parts, size, done, pending) := inner.foldl (fun (parts, size, done, pending) t =>
    if t.kind == needle then
      let done := if pending.isEmpty then done else (size, pending.reverse) :: done
      (t.text :: parts, size + t.text.length, done, [])
    else (parts, size, done, t :: pending)) (([] : List String), 0, ([] : List (Nat × List Token)), ([] : List Token))
  let done := if pending.isEmpty then done else (size, pending.reverse) :: done
  (String.join parts.reverse, done.reverse)

end Highlight
