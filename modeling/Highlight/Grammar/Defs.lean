import Highlight.Catalog
import Highlight.Token.Store

/-!
# Grammars written as definitions

A lexer can be written out as its token definitions: named states, each a list of rules, where
a rule names its token type by a dotted name, its new state by a name, a list of names or
states combined, and its action by `bygroups` or by `using` a language. `LexerDef.grammar`
reads such definitions into a grammar and checks what the lexer class checks of each rule as
it reads it: a token type is read as the module of token types reads a dotted name
(`Tokens.Store.stringToTokentype`) and must be a type, a language used by alias must exist,
`#pop:n` must have a number, and a list of new states names only states, `#pop` and `#push`.
What is checked when the grammar is made ready (unknown or circular states, patterns) is left
to `Grammar.compile`.
-/

set_option autoImplicit false

namespace Highlight

/-- A new state as a rule writes it: one name, a list of names, or states combined. -/
inductive NewStateDef
  | name (s : String)
  | names (xs : List String)
  | combined (xs : List String)

/-- An action as a rule writes it: none, a token type by its dotted name, the parts of
`bygroups`, or the language of an alias (`this` for the lexer itself) from a stack, with
options. -/
inductive ActionDef
  | none
  | kind (name : String)
  | groups (parts : List ActionDef)
  | lexWith (target : String) (stack : Option (List String)) (options : Options)

/-- A rule as token definitions write it. -/
inductive RuleDef
  | include (state : String)
  | default (next : NewStateDef)
  | inherit
  | step (source : Source) (action : ActionDef) (next : Option NewStateDef)

/-- A lexer written as token definitions: its states in order, its pattern flags, and whether
its actions may move the cursor. -/
structure LexerDef where
  states : List (String × List RuleDef)
  flags : Pattern.Flags := { multiline := true }
  extended : Bool := false

/-- Why token definitions cannot be read: the kind of the error and its message. -/
abbrev DefError := String × String

namespace LexerDef

/-- The assertion a rule fails when its token is no token type. -/
def notTokenType : DefError :=
  ("AssertionError", "token type must be simple type or callable, not None")

/-- The token type of a dotted name, read from the standard store of token types; a name that
reads a value that is no type fails the assertion on tokens. -/
def tokenKind (name : String) : Except DefError TokenKind :=
  match Tokens.Store.standard.stringToTokentype name with
  | .ok (.node n, s) => .ok ⟨s.path n⟩
  | .ok _ => .error notTokenType
  | .error m => .error ("AttributeError", m)

mutual

/-- The action at the rule site `site`; `none` for a dropped part of `bygroups`. -/
def action (site : String) (inGroups : Bool) : ActionDef → Except DefError (Option Action)
  | .none => if inGroups then .ok none else .error notTokenType
  | .kind name => (some ∘ .token) <$> tokenKind name
  | .groups parts => (some ∘ .groups) <$> groupActions site 0 parts
  | .lexWith target stack options =>
    if target == "this" then .ok (some (.lexWith site none stack options))
    else match Catalog.byAlias? target with
      | some l => .ok (some (.lexWith site (some l.className) stack options))
      | none => .error ("ClassNotFound", "no lexer for alias '" ++ target ++ "' found")

/-- The actions of the parts of `bygroups` from the `i`-th on, each at a site of its own. -/
def groupActions (site : String) (i : Nat) : List ActionDef → Except DefError (List (Option Action))
  | [] => .ok []
  | p :: ps => return (← action (site ++ "." ++ toString i) true p) :: (← groupActions site (i + 1) ps)

end

/-- The number written after `#pop:`, as `int` reads it. -/
def popCount (s : String) : Except DefError Int :=
  let t := s.trimAscii.toString.replace "_" ""
  match (if t.startsWith "+" then (t.drop 1).toString else t).toInt? with
  | some n => .ok n
  | none => .error ("ValueError", "invalid literal for int() with base 10: '" ++ s ++ "'")

/-- The moves of a new state among the states `states`; a single name that is no state is left
for `Grammar.compile` to report. -/
def moves (states : List String) : NewStateDef → Except DefError (List Move)
  | .name "#pop" => .ok [.pop]
  | .name s =>
    if s ∈ states then .ok [.enter s]
    else if s == "#push" then .ok [.push]
    else if s.startsWith "#pop:" then return [.cut (← popCount (s.drop 5).toString)]
    else .ok [.enter s]
  | .names xs => xs.mapM fun s =>
    if s == "#pop" then .ok .pop
    else if s == "#push" then .ok .push
    else if s ∈ states then .ok (.enter s)
    else .error ("AssertionError", "unknown new state " ++ s)
  | .combined xs => .ok [.combined xs]

/-- The rule a definition stands for, at the rule site `site`. -/
def rule (states : List String) (site : String) : RuleDef → Except DefError Rule
  | .include s => .ok (.include s)
  | .default next => .default <$> moves states next
  | .inherit => .ok .inherit
  | .step source act next => do
    let some a ← action site false act | .error notTokenType
    return .step source a (← (next.map (moves states)).getD (.ok []))

/-- The grammar of a lexer's definitions, each rule read at the site of its state and place. -/
def grammar (d : LexerDef) : Except DefError Grammar := do
  let names := d.states.map (·.1)
  let defs ← d.states.mapM fun (name, rules) => (name, ·) <$>
    rules.zipIdx.mapM fun (r, i) => rule names ("custom/" ++ name ++ "/" ++ toString i) r
  return { className := "custom.CustomLexer", flags := d.flags, layers := [defs], extended := d.extended }

/-- The language of a lexer's definitions. -/
def language (d : LexerDef) : Except DefError Language :=
  d.grammar.map fun g => { className := "CustomLexer", aliases := [], scanner := .ofGrammar g }

end LexerDef

end Highlight
