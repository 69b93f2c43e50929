import Highlight.Token.Basic
import Highlight.Options
import Highlight.Pattern.Parse
import Highlight.Pattern.Match
import Highlight.Chars.UnicodeClass

/-!
# Grammars

A grammar describes a language by named states. Each state is an ordered list of rules; a
rule pairs a pattern with an action, which says what tokens the matched text becomes, and
with moves, which change the stack of states. The state on top of the stack is the one
whose rules are tried.

Besides plain rules a state may include another state's rules in place (`Rule.include`),
take its parent grammar's rules for the same state in place (`Rule.inherit`), or change the
stack without reading anything (`Rule.default`).

Some actions need code: a callback (`Callback`) sees the match, the options and a way to lex
with other languages (`Env`), and the cursor (`Cursor`): where lexing stands, the stack, the
end of the text, and a small memory that a language may keep across tokens (`Memo`).

A language may also keep its memory in its class rather than in each lexer (`Shared`): then
every run of the language in one process starts from what the runs before it left. The
shared memory goes along the cursor, into every language lexed from an action and back. The
sites of a grammar that lex with another language keep their options there as well
(`Env.usingOptions`): each lexer that uses a site leaves its own options with it.
-/

set_option autoImplicit false

namespace Highlight

/-- One change to the stack of states. -/
inductive Move
  /-- Leave the top state, unless it is the only one. -/
  | pop
  /-- Enter the top state once more. -/
  | push
  /-- Enter a named state. -/
  | enter (state : String)
  /-- Enter a state made of the rules of the named states, one after another. -/
  | combined (states : List String)
  /-- Cut the stack by the number written after `#pop:` (`Cursor.cut`). -/
  | cut (n : Int)
  deriving BEq, Repr, Inhabited

/-- `n` pops. -/
def Move.pops (n : Nat) : List Move := List.replicate n .pop

/-- The lines of a text; long word lists are written this way. -/
def lines (s : String) : List String := s.splitOn "\n"

/-- A piece of a pattern text: written out, or a Unicode class spelled out when it is read. -/
inductive Piece
  /-- Text as it stands. -/
  | text (s : String)
  /-- The members of a Unicode class, as they stand inside brackets. -/
  | cls (u : Chars.UnicodeClass)
  deriving BEq, Repr, Inhabited

/-- The text of a piece. -/
def Piece.render : Piece → String
  | .text s => s
  | .cls u => u.classText

/-- Where a rule's pattern comes from. -/
inductive Source
  /-- A pattern text. -/
  | regex (text : String)
  /-- A pattern text made of pieces. -/
  | parts (pieces : List Piece)
  /-- The pattern that matches exactly these words, between two pattern texts. -/
  | words (words : List String) (before after : String)
  deriving BEq, Repr, Inhabited

/-- A value a language keeps in its memory. -/
inductive Memo
  | flag (b : Bool)
  | num (n : Int)
  | text (s : String)
  | list (xs : List Memo)
  | options (opts : Options)
  deriving BEq, Repr, Inhabited

/-- What languages keep in their classes, under keys: every lexer of the process sees it. -/
abbrev Shared := List (String × Memo)

/-- Where lexing stands: the next offset, the stack of states (top first), the offset where
the text ends for the rules, the memory, and the memory shared by the process. -/
structure Cursor where
  pos : Nat
  stack : List String
  stop : Nat
  memo : List (String × Memo) := []
  shared : Shared := []
  deriving Repr, Inhabited

namespace Cursor

/-- The state on top of the stack. -/
def top (c : Cursor) : String := c.stack.headD "root"

/-- Leave the top state, keeping at least one. -/
def pop (c : Cursor) : Cursor :=
  match c.stack with
  | _ :: rest@(_ :: _) => { c with stack := rest }
  | _ => c

/-- Enter a state. -/
def enter (c : Cursor) (s : String) : Cursor := { c with stack := s :: c.stack }

/-- Cut the stack as the move `#pop:n` does, by the number `n` written after the colon: when
`|n|` is at least the height of the stack, only the bottom state stays; otherwise a positive
`n` leaves its `n` top states, and any other `n` keeps the `-n` bottom states, none at all
for zero. -/
def cut (c : Cursor) (n : Int) : Cursor :=
  let height := c.stack.length
  if height ≤ n.natAbs then { c with stack := c.stack.drop (height - 1) }
  else if 0 < n then { c with stack := c.stack.drop n.toNat }
  else { c with stack := c.stack.drop (height - n.natAbs) }

/-- The memory under `key`. -/
def «recall» (c : Cursor) (key : String) : Option Memo := c.memo.lookup key

/-- Store `value` under `key`. -/
def remember (c : Cursor) (key : String) (value : Memo) : Cursor :=
  { c with memo := (key, value) :: c.memo.filter (·.1 != key) }

/-- Forget what is stored under `key`. -/
def forget (c : Cursor) (key : String) : Cursor :=
  { c with memo := c.memo.filter (·.1 != key) }

/-- The shared memory under `key`. -/
def recallShared (c : Cursor) (key : String) : Option Memo := c.shared.lookup key

/-- Share `value` under `key` with the later runs of the process. -/
def share (c : Cursor) (key : String) (value : Memo) : Cursor :=
  { c with shared := (key, value) :: c.shared.filter (·.1 != key) }

/-- The options the shared memory keeps under `key`, or `written` when it keeps none. -/
def keptOptions (c : Cursor) (key : String) (written : Options) : Options :=
  match c.recallShared key with
  | some (.options o) => o
  | _ => written

end Cursor

/-- Why a run of a grammar breaks off: its stack of states is empty, or the state on top of it
is not a state of the grammar; or why a language written as a function gives up: its code
raised an error of some kind, with a message. -/
inductive Fault
  | emptyStack
  | missingState (name : String)
  | raised (kind message : String)
  deriving BEq, Repr, Inhabited

namespace Fault

/-- The key under which the shared memory keeps the fault that broke a run off; no language
keeps anything under a key that starts with `#`. -/
def key : String := "#fault"

/-- A fault as the shared memory keeps it. -/
def memo : Fault → Memo
  | .emptyStack => .list []
  | .missingState name => .text name
  | .raised kind message => .list [.text kind, .text message]

/-- The fault that the shared memory keeps, read back. -/
def ofMemo? : Memo → Option Fault
  | .list [] => some .emptyStack
  | .text name => some (.missingState name)
  | .list [.text kind, .text message] => some (.raised kind message)
  | _ => none

end Fault

/-- The fault that broke off a run of the process, if one did: a run that breaks off ends
every run it was lexed from, and the lexing that started them reports the fault. -/
def Shared.fault? (shared : Shared) : Option Fault := (shared.lookup Fault.key).bind Fault.ofMemo?

@[simp] theorem Shared.fault?_nil : Shared.fault? [] = none := rfl

/-- Break off the run at a cursor: the shared memory keeps the fault. -/
def Cursor.breakOff (c : Cursor) (f : Fault) : Cursor := c.share Fault.key f.memo

/-- A match as an action sees it: the text and the spans. -/
structure Hit where
  text : Array Char
  found : Pattern.Found

namespace Hit

/-- The characters from `a` to `b`. -/
def slice (h : Hit) (a b : Nat) : String := String.ofList (h.text.extract a b).toList

/-- Where the match starts. -/
def start (h : Hit) : Nat := h.found.start

/-- Where the match ends. -/
def stop (h : Hit) : Nat := h.found.stop

/-- The whole matched text. -/
def whole (h : Hit) : String := h.slice h.found.start h.found.stop

/-- The span of group `i`, if it matched. -/
def span? (h : Hit) (i : Nat) : Option (Nat × Nat) := h.found.span? i

/-- The text of group `i`, if it matched. -/
def group? (h : Hit) (i : Nat) : Option String :=
  (h.span? i).map fun (a, b) => h.slice a b

/-- The text of group `i`, or the empty text. -/
def group (h : Hit) (i : Nat) : String := (h.group? i).getD ""

/-- The number of the group called `name`. -/
def groupNumber? (h : Hit) (name : String) : Option Nat := h.found.names.lookup name

/-- The span of the group called `name`, if it matched. -/
def named? (h : Hit) (name : String) : Option (Nat × Nat) := (h.groupNumber? name).bind h.span?

/-- The text of the group called `name`, or the empty text. -/
def namedText (h : Hit) (name : String) : String :=
  ((h.named? name).map fun (a, b) => h.slice a b).getD ""

/-- Where the group called `name` starts: its start if it matched, else where the match
starts. -/
def namedStart (h : Hit) (name : String) : Nat :=
  ((h.named? name).map (·.1)).getD h.start

/-- The match made of group `i` alone, as a match with no groups of its own. -/
def part? (h : Hit) (i : Nat) : Option Hit :=
  (h.span? i).map fun (a, b) => ⟨h.text, ⟨a, b, #[], []⟩⟩

end Hit

/-- The cursor moved to the end of a match. -/
def Cursor.past (c : Cursor) (h : Hit) : Cursor := { c with pos := h.stop }

/-- What an action may call on: the options of the lexer, and lexing a text with a language
named by its class (`none`: the same language), with more options and a start stack, from
a shared memory to the shared memory it leaves. -/
structure Env where
  options : Options
  sublex : Option String → Options → Option (List String) → String → Shared → List Token × Shared
  /-- Lex a text with the language of an alias and some options, if there is one. -/
  byAlias : String → Options → String → Shared → Option (List Token × Shared) :=
    fun _ _ _ _ => none
  /-- The class of the first language of a media type, if there is one. -/
  mimetypeClass : String → Option String := fun _ => none
  /-- Run the grammar that is running, on a text from a cursor, the way it runs on its own
  text; actions use it to lex a piece again with the same rules. -/
  again : Array Char → Cursor → List Token × Cursor := fun _ c => ([], c)

namespace Env

/-- Lex a text with the language of a class from an action: the shared memory comes from
the cursor and goes back into it. -/
def sublexAt (env : Env) (c : Cursor) (target : Option String) (opts : Options)
    (stack : Option (List String)) (text : String) : List Token × Cursor :=
  let (ts, shared) := env.sublex target opts stack text c.shared
  (ts, { c with shared })

/-- Lex a text with the language of an alias from an action, if there is one: the shared
memory comes from the cursor and goes back into it. -/
def byAliasAt (env : Env) (c : Cursor) (alias_ : String) (opts : Options) (text : String) :
    Option (List Token × Cursor) :=
  (env.byAlias alias_ opts text c.shared).map fun (ts, shared) => (ts, { c with shared })

/-- Lex a text with the language of a class, for a language that shares nothing: its runs
leave the shared memory as they find it, so only the tokens count. -/
def sublexAlone (env : Env) (shared : Shared) (target : Option String) (opts : Options)
    (stack : Option (List String)) (text : String) : List Token :=
  (env.sublex target opts stack text shared).1

/-- The key under which the shared memory keeps the options of the `using` site named `site`.
A site is one rule of one grammar, or one group of it: a grammar that inherits the rule shares
its site, and two rules written alike are two sites. -/
def usingKey (site : String) : String := "#using " ++ site

/-- The options that a language lexed from an action gets, and the cursor after. A site that
lexes with the running language and no options of its own lexes with the running lexer as it
is. Any other site keeps one set of options for the whole process (`Cursor.keptOptions`): the
options written, then the options of every lexer that used it, each lexer's own options
winning; it lexes with the options it keeps after the running lexer's are put over them. The
stack the language starts from plays no part. -/
def usingOptions (env : Env) (c : Cursor) (site : String) (language : Option String)
    (_stack : Option (List String)) (options : Options) : Options × Cursor :=
  if language.isNone && options.isEmpty then (env.options, c)
  else
    let key := usingKey site
    let merged := env.options.under (c.keptOptions key options)
    (merged, c.share key (.options merged))

@[simp] theorem usingOptions_pos (env : Env) (c : Cursor) (site : String)
    (language : Option String) (stack : Option (List String)) (options : Options) :
    (env.usingOptions c site language stack options).2.pos = c.pos := by
  unfold usingOptions; split <;> rfl

@[simp] theorem usingOptions_stop (env : Env) (c : Cursor) (site : String)
    (language : Option String) (stack : Option (List String)) (options : Options) :
    (env.usingOptions c site language stack options).2.stop = c.stop := by
  unfold usingOptions; split <;> rfl

@[simp] theorem usingOptions_stack (env : Env) (c : Cursor) (site : String)
    (language : Option String) (stack : Option (List String)) (options : Options) :
    (env.usingOptions c site language stack options).2.stack = c.stack := by
  unfold usingOptions; split <;> rfl

end Env

/-- Code that turns a match into tokens and may move the cursor. -/
abbrev Callback := Env → Hit → Cursor → List Token × Cursor

/-- What the text of a match becomes. -/
inductive Action
  /-- One token of this kind. -/
  | token (kind : TokenKind)
  /-- Each group by its own action, in order; `none` drops a group. -/
  | groups (parts : List (Option Action))
  /-- The text lexed by a language named by its class (`none`: this one), from a start stack,
  with more options; `site` names the rule, for the options it keeps. -/
  | lexWith (site : String) (language : Option String) (stack : Option (List String))
      (options : Options)
  /-- Code. -/
  | call (f : Callback)

/-- One rule of a state. -/
inductive Rule
  /-- A pattern, what its match becomes, and the moves after it. -/
  | step (source : Source) (action : Action) (moves : List Move)
  /-- The rules of another state, in place. -/
  | include (state : String)
  /-- The rules that the parent grammar has for this state, in place. -/
  | inherit
  /-- Make the moves without reading anything. -/
  | default (moves : List Move)

namespace Rule

/-- A rule whose match is one token of kind `k`. -/
def tok (re : String) (k : TokenKind) : Rule := .step (.regex re) (.token k) []

/-- A rule whose match is one token of kind `k`, followed by moves. -/
def tokGo (re : String) (k : TokenKind) (ms : List Move) : Rule := .step (.regex re) (.token k) ms

/-- A rule with a pattern text, an action and moves. -/
def rx (re : String) (a : Action) (ms : List Move) : Rule := .step (.regex re) a ms

end Rule

/-- Each group as one token of its kind; `none` drops a group. -/
def Action.kinds (ks : List (Option TokenKind)) : Action := .groups (ks.map (·.map Action.token))

/-- A state and its rules. -/
abbrev StateDef := String × List Rule

/-- A language's grammar: the states of the language and of the grammars it extends, its
pattern flags, and whether its actions move the cursor themselves. -/
structure Grammar where
  /-- The name that errors about the grammar use. -/
  className : String := ""
  /-- The flags every pattern is read with. -/
  flags : Pattern.Flags := { multiline := true }
  /-- The states of this grammar, then of the grammar it extends, and so on. -/
  layers : List (List StateDef)
  /-- Whether actions move the cursor and may change the stack, and the rules stop at the
  cursor's end. -/
  extended : Bool := false

end Highlight
