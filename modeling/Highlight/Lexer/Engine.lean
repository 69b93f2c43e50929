import Highlight.Grammar.Resolve

/-!
# Running a grammar

`Table.run` lexes a text with a ready grammar. At each step it tries the rules of the state
on top of the stack, in order, at the current offset; the first rule whose pattern matches
there gives its tokens (`applyAction`) and its moves (`applyMoves`). When no rule matches,
one character becomes a token on its own: a newline resets the stack to `root` and is a
blank, any other character is an error token. Lexing ends when no rule matches at the end
of the text. A run breaks off (`Fault`) when the state on top of the stack cannot be looked
up, because the stack is empty or the grammar has no such state.

A grammar whose actions move the cursor (`Table.extended`) takes the offset and the stack
from its actions; for the other grammars the offset moves to the end of the match. Rules
that read nothing can loop, so every step spends one unit of fuel.
-/

set_option autoImplicit false

namespace Highlight

/-- Apply a list of moves to the cursor's stack. -/
def applyMoves (c : Cursor) : List Move → Cursor
  | [] => c
  | .pop :: rest => applyMoves c.pop rest
  | .push :: rest => applyMoves (c.enter c.top) rest
  | .enter s :: rest => applyMoves (c.enter s) rest
  | .combined _ :: rest => applyMoves c rest
  | .cut n :: rest => applyMoves (c.cut n) rest

/-- The tokens of a group action's parts, from group `index` on. -/
def groupTokens (env : Env) (h : Hit)
    (apply : Action → Hit → Cursor → List Token × Cursor) :
    Nat → List (Option Action) → Cursor → List Token × Cursor
  | _, [], c => ([], c)
  | index, part :: rest, c =>
    let (here, c') : List Token × Cursor :=
      match part with
      | none => ([], c)
      | some (.token k) =>
        match h.span? index with
        | some (a, b) => if a < b then ([⟨a, k, h.slice a b⟩], c) else ([], c)
        | none => ([], c)
      | some other =>
        match h.part? index with
        | some sub => apply other sub { c with pos := sub.start }
        | none => ([], c)
    let (more, c'') := groupTokens env h apply (index + 1) rest c'
    (here ++ more, c'')

/-- The tokens an action makes of a match, and the cursor after it; `depth` bounds the
nesting of group actions. -/
def applyAction (env : Env) : Nat → Action → Hit → Cursor → List Token × Cursor
  | 0, _, _, c => ([], c)
  | _ + 1, .token k, h, c => ([⟨h.start, k, h.whole⟩], { c with pos := h.stop })
  | depth + 1, .groups parts, h, c =>
    let (ts, c') := groupTokens env h (applyAction env depth) 1 parts c
    (ts, { c' with pos := h.stop })
  | _ + 1, .lexWith site language stack options, h, c =>
    let (opts, c) := env.usingOptions c site language stack options
    let (ts, c) := env.sublexAt c language opts stack h.whole
    (ts.map (·.shift h.start), { c with pos := h.stop })
  | _ + 1, .call f, h, c => f env h c

/-- How deeply group actions may nest. -/
def actionDepth : Nat := 16

/-- The first rule of `rules` whose pattern matches at `pos`, with its match. -/
def firstMatch (rules : Array Entry) (text : Array Char) (pos stop : Nat) :
    Option (Entry × Pattern.Found) :=
  rules.findSome? fun e => (e.pattern.matchAt text pos stop).map (e, ·)

namespace Table

/-- What one pass of the loop of `run` does. -/
inductive Pass
  /-- Lexing is over. -/
  | finished
  /-- The run breaks off. -/
  | broken (f : Fault)
  /-- Tokens, and the cursor after them. -/
  | next (ts : List Token) (c : Cursor)

/-- One pass of the loop of `run` from a cursor. The state on top of the stack is looked up
first: an empty stack or a state the grammar does not have breaks the run off, and so does a
fault that a run lexed from an action left in the shared memory. -/
def step (env : Env) (t : Table) (text : Array Char) (c : Cursor) : Pass :=
  match c.shared.fault?, c.stack with
  | some f, _ => .broken f
  | none, [] => .broken .emptyStack
  | none, top :: _ =>
    match t.states[top]? with
    | none => .broken (.missingState top)
    | some rules =>
      let stop := if t.extended then c.stop else text.size
      match firstMatch rules text c.pos stop with
      | some (entry, found) =>
        let hit : Hit := ⟨text, found⟩
        let (ts, after) : List Token × Cursor :=
          match entry.action with
          | none => ([], c)
          | some a => applyAction env actionDepth a hit c
        let moved : Cursor :=
          if t.extended then
            match entry.action with
            | none => c
            | some _ => after
          else { c with pos := found.stop, memo := after.memo, shared := after.shared }
        .next ts (applyMoves moved entry.moves)
      | none =>
        if t.extended && c.pos ≥ c.stop then .finished
        else match text[c.pos]? with
          | none => .finished
          | some ch =>
            if ch == '\n' then
              let kind := if t.extended then TokenKind.text else TokenKind.whitespace
              .next [⟨c.pos, kind, "\n"⟩] { c with pos := c.pos + 1, stack := ["root"] }
            else .next [⟨c.pos, TokenKind.error, String.singleton ch⟩] { c with pos := c.pos + 1 }

/-- The loop of `run`: tokens so far (last first) and the cursor. A run that breaks off stops
with the fault kept in the shared memory. -/
def loop (env : Env) (t : Table) (text : Array Char) :
    Nat → Cursor → List Token → List Token × Cursor
  | 0, c, acc => (acc, c)
  | fuel + 1, c, acc =>
    match step env t text c with
    | .finished => (acc, c)
    | .broken f => (acc, c.breakOff f)
    | .next ts c' => loop env t text fuel c' (ts.reverse ++ acc)

/-- The steps a run of a text of `n` characters may take. -/
def fuelFor (n : Nat) : Nat := 64 * (n + 16)

/-- How deeply actions may run the grammar again from within an action. -/
def againDepth : Nat := 128

/-- Lex `text` from a cursor, letting actions run the grammar again down to `depth` levels;
the tokens and the final cursor. -/
def runNested (env : Env) (t : Table) : Nat → Array Char → Cursor → List Token × Cursor
  | 0, _, c => ([], c)
  | depth + 1, text, c =>
    let env' := { env with again := runNested env t depth }
    let (acc, c') := loop env' t text (fuelFor text.size) c []
    (acc.reverse, c')

/-- Lex `text` from a cursor; the tokens and the final cursor. -/
def runFrom (env : Env) (t : Table) (text : Array Char) (c : Cursor) : List Token × Cursor :=
  runNested env t againDepth text c

/-- Lex `text` from a start stack, given bottom first, and a shared memory; the tokens and
the shared memory left. -/
def run (env : Env) (t : Table) (text : Array Char) (stack : List String) (shared : Shared) :
    List Token × Shared :=
  let (ts, c) := runFrom env t text { pos := 0, stack := stack.reverse, stop := text.size, shared }
  (ts, c.shared)

end Table

end Highlight
