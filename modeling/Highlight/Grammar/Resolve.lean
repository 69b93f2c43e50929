import Std.Data.HashMap
import Highlight.Grammar.Basic
import Highlight.Pattern.Words

/-!
# Ready grammars

`Grammar.compile` turns a grammar into a `Table`: for every state the flat array of its
rules, each with its pattern read (`Entry`). It works in two passes.

* `mergeLayers` joins the layers of a grammar. A state that only a parent defines is taken
  from the nearest parent that defines it; where a state of a grammar holds `inherit`, the
  parent's rules for the same state stand in its place, and an `inherit` among those is
  filled in turn from the next parent.
* `Build.state` flattens a state: an included state's rules stand in place of the include,
  a combined move gets a state of its own made of the rules of the states it names, and
  every pattern is read under the grammar's flags. The states are handled in the order they
  are defined, so the first fault found is reported (`GrammarError`).
-/

set_option autoImplicit false

namespace Highlight

/-- A rule ready to run: its pattern, its action (none for a rule that reads nothing) and
its moves. -/
structure Entry where
  pattern : Pattern.Compiled
  action : Option Action
  moves : List Move

/-- A grammar ready to run. -/
structure Table where
  extended : Bool
  states : Std.HashMap String (Array Entry)

namespace Table

/-- The rules of a state; a state that does not exist has none. -/
def rules (t : Table) (state : String) : Array Entry :=
  t.states.getD state #[]

end Table

/-- Why a grammar cannot be made ready. -/
inductive GrammarError
  /-- A rule of the grammar breaks an invariant: a state that is named but not defined,
  a state that includes itself. -/
  | invalid (message : String)
  /-- An included state is not defined. -/
  | missing (state : String)
  /-- A pattern cannot be read. -/
  | badPattern (message : String)
  deriving Repr, Inhabited

/-- Whether a rule is `inherit`. -/
def Rule.isInherit : Rule → Bool
  | .inherit => true
  | _ => false

/-- Join two layers of states, nearest first; `open_` records, per state, where its
remaining `inherit` stands. -/
def mergeLayer (acc : List StateDef × List (String × Nat)) (layer : List StateDef) :
    List StateDef × List (String × Nat) :=
  let step (acc : List StateDef × List (String × Nat)) (def_ : StateDef) :
      List StateDef × List (String × Nat) :=
    let (tokens, open_) := acc
    let (state, items) := def_
    match tokens.lookup state with
    | none =>
      let open' := match items.findIdx? Rule.isInherit with
        | some i => (state, i) :: open_
        | none => open_
      (tokens ++ [(state, items)], open')
    | some current =>
      let rest := open_.filter (·.1 != state)
      match open_.lookup state with
      | none => (tokens, rest)
      | some at_ =>
        let spliced := current.take at_ ++ items ++ current.drop (at_ + 1)
        let tokens' := tokens.map fun (s, r) => if s == state then (s, spliced) else (s, r)
        let open' := match items.findIdx? Rule.isInherit with
          | some j => (state, at_ + j) :: rest
          | none => rest
        (tokens', open')
  layer.foldl step acc

/-- The states of a grammar after filling in `inherit` from the parents. -/
def mergeLayers (layers : List (List StateDef)) : List StateDef :=
  (layers.foldl mergeLayer ([], [])).1

/-- A text quoted the way the messages about grammars quote names and patterns. -/
def quoteText (s : String) : String := OptionValue.quoted s

/-- The pattern text a source stands for. -/
def Source.text : Source → String
  | .regex t => t
  | .parts ps => String.join (ps.map Piece.render)
  | .words ws before after => Pattern.wordsPattern ws before after

/-- The state of making a grammar ready: the states done so far, or begun (their rules so
far), and how many combined states have been made. -/
structure Build where
  done : List (String × Array Entry)
  combinedCount : Nat

namespace Build

/-- The message for a move to a state that does not exist. -/
def unknownState (name : String) : GrammarError :=
  .invalid ("unknown new state " ++ quoteText name)

mutual

/-- Check the moves of a rule, making the states that combined moves need. -/
def moves (defs : List StateDef) (flags : Pattern.Flags) (cls : String) :
    Nat → List Move → Build → Except GrammarError (List Move × Build)
  | 0, _, b => .ok ([], b)
  | fuel + 1, ms, b =>
    match ms with
    | [] => .ok ([], b)
    | .combined names :: rest => do
      let name := "_tmp_" ++ toString b.combinedCount
      let b := { b with combinedCount := b.combinedCount + 1 }
      let (rules, b) ← combinedRules defs flags cls fuel names b #[]
      let b := { b with done := (name, rules) :: b.done }
      let (rest', b) ← moves defs flags cls fuel rest b
      .ok (.enter name :: rest', b)
    | .enter name :: rest =>
      if (defs.lookup name).isNone then .error (unknownState name)
      else do
        let (rest', b) ← moves defs flags cls fuel rest b
        .ok (.enter name :: rest', b)
    | m :: rest => do
      let (rest', b) ← moves defs flags cls fuel rest b
      .ok (m :: rest', b)

/-- The rules of the named states one after another. -/
def combinedRules (defs : List StateDef) (flags : Pattern.Flags) (cls : String) :
    Nat → List String → Build → Array Entry → Except GrammarError (Array Entry × Build)
  | 0, _, b, acc => .ok (acc, b)
  | fuel + 1, names, b, acc =>
    match names with
    | [] => .ok (acc, b)
    | n :: rest => do
      let (rules, b) ← state defs flags cls fuel n b
      combinedRules defs flags cls fuel rest b (acc ++ rules)

/-- The flat rules of a state. -/
def state (defs : List StateDef) (flags : Pattern.Flags) (cls : String) :
    Nat → String → Build → Except GrammarError (Array Entry × Build)
  | 0, _, b => .ok (#[], b)
  | fuel + 1, name, b =>
    match b.done.lookup name with
    | some rules => .ok (rules, b)
    | none =>
      if name.startsWith "#" then .error (.invalid ("invalid state name " ++ quoteText name))
      else match defs.lookup name with
      | none => .error (.missing name)
      | some items => rules defs flags cls fuel name items { b with done := (name, #[]) :: b.done } #[]

/-- Flatten the rules `items` of state `name`, after the flat rules `acc`. -/
def rules (defs : List StateDef) (flags : Pattern.Flags) (cls : String) :
    Nat → String → List Rule → Build → Array Entry → Except GrammarError (Array Entry × Build)
  | 0, _, _, b, acc => .ok (acc, b)
  | fuel + 1, name, items, b, acc =>
    let record (b : Build) (acc : Array Entry) : Build :=
      { b with done := b.done.map fun (s, r) => if s == name then (s, acc) else (s, r) }
    match items with
    | [] => .ok (acc, record b acc)
    | .inherit :: rest => rules defs flags cls fuel name rest b acc
    | .include other :: rest =>
      if other == name then .error (.invalid ("circular state reference " ++ quoteText name))
      else do
        let (more, b) ← state defs flags cls fuel other b
        let acc := acc ++ more
        rules defs flags cls fuel name rest (record b acc) acc
    | .default ms :: rest => do
      let (ms, b) ← moves defs flags cls fuel ms b
      let acc := acc.push ⟨⟨.empty, 0, []⟩, none, ms⟩
      rules defs flags cls fuel name rest (record b acc) acc
    | .step source action ms :: rest =>
      let text := source.text
      match Pattern.read text flags with
      | .error e =>
        .error (.badPattern ("uncompilable regex " ++ quoteText text ++ " in state " ++
          quoteText name ++ " of <class " ++ quoteText cls ++ ">: " ++ e.render text))
      | .ok compiled => do
        let (ms, b) ← moves defs flags cls fuel ms b
        let acc := acc.push ⟨compiled, some action, ms⟩
        rules defs flags cls fuel name rest (record b acc) acc

end

end Build

/-- How much of a build a move can take: a combined move makes the states it names. -/
def Move.size : Move → Nat
  | .combined names => names.length + 1
  | _ => 1

/-- How much of a build a rule can take: the rule itself and its moves. -/
def Rule.size : Rule → Nat
  | .step _ _ ms => (ms.map Move.size).foldr (· + ·) 0 + 1
  | .default ms => (ms.map Move.size).foldr (· + ·) 0 + 1
  | _ => 1

/-- The size of a grammar's states: each state, its rules and their moves. -/
def Grammar.size (defs : List StateDef) : Nat :=
  (defs.map fun (_, r) => (r.map Rule.size).foldr (· + ·) 0 + 1).foldr (· + ·) 0

/-- The fuel that making a grammar ready needs: more than the size of its states. -/
def Grammar.fuel (defs : List StateDef) : Nat :=
  4 * (Grammar.size defs + 1) + 16

/-- Make a grammar ready to run. -/
def Grammar.compile (g : Grammar) : Except GrammarError Table := do
  let defs := mergeLayers g.layers
  let fuel := Grammar.fuel defs
  let b ← defs.foldlM (fun b (name, _) =>
    do let (_, b) ← Build.state defs g.flags g.className fuel name b; pure b)
    ({ done := [], combinedCount := 0 } : Build)
  let states := b.done.foldl (fun m (s, r) => m.insert s r) (∅ : Std.HashMap String (Array Entry))
  .ok ⟨g.extended, states⟩

end Highlight
