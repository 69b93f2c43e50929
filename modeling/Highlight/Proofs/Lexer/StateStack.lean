import Highlight.Proofs.Grammar.ReadyMoves
import Highlight.Proofs.Lexer.Lossless

/-!
# The stack of states

A run of a grammar looks up the state on top of its stack at every pass. The lookup cannot
fail while the stack is a stack of the grammar's states with `root` at the bottom
(`Table.Stack`), and every pass keeps it one when the grammar keeps stacks
(`Table.KeepsStacks`): `root` is a state, every state a rule enters is a state, no rule cuts
the stack by zero, and an extended grammar's actions are plain token kinds, since only code
moves the stack from within an action.

Each kind of move keeps the stack (`Table.Stack.pop`, `Table.Stack.cut`,
`Table.Stack.enter`), hence a list of moves (`Table.Stack.applyMoves`), hence one pass
(`Table.step_stack`), hence any number of passes (`Table.loop_stack`); from such a stack a
pass never breaks off by a lookup of its own (`Table.step_broken`). A ready grammar keeps
stacks when the grammar it was made from defines `root` and never cuts by zero
(`Grammar.compile_keepsStacks`), so its runs from `root` keep a stack of its states
(`Grammar.compiled_runs_keep_stack`). A cut by zero, `#pop:0`, empties the stack and breaks
the next pass off (`Table.step_cut_zero`).
-/

set_option autoImplicit false

namespace Highlight

namespace Table

/-- A stack (top first) of states of `t`, with `root` at the bottom. -/
def Stack (t : Table) (stack : List String) : Prop :=
  stack.getLast? = some "root" ∧ ∀ s ∈ stack, s ∈ t.states

/-- A grammar whose runs keep a stack of its states: `root` is one of its states, every move
of its rules fits, and when its actions move the cursor each of them is one token kind. -/
structure KeepsStacks (t : Table) : Prop where
  root : "root" ∈ t.states
  fits : ∀ state, ∀ e ∈ t.rules state, ∀ m ∈ e.moves, m.Fits (· ∈ t.states)
  kinds : t.extended = true → ∀ state, ∀ e ∈ t.rules state, ∀ a, e.action = some a →
    ∃ k, a = .token k

variable {t : Table}

namespace Stack

theorem ne_nil {stack : List String} (h : t.Stack stack) : stack ≠ [] := by
  rintro rfl
  simp [Stack] at h

theorem root_only (hk : t.KeepsStacks) : t.Stack ["root"] :=
  ⟨rfl, by simpa using hk.root⟩

theorem lookup {stack : List String} (h : t.Stack stack) :
    ∃ top rest rules, stack = top :: rest ∧ t.states[top]? = some rules := by
  obtain ⟨top, rest, rfl⟩ := List.exists_cons_of_ne_nil h.ne_nil
  have hmem : top ∈ t.states := h.2 top (List.mem_cons_self ..)
  exact ⟨top, rest, _, rfl, Std.HashMap.getElem?_eq_some_getElem hmem⟩

theorem drop {stack : List String} {k : Nat} (hk : k < stack.length) (h : t.Stack stack) :
    t.Stack (stack.drop k) := by
  refine ⟨?_, fun s hs => h.2 s (List.mem_of_mem_drop hs)⟩
  rw [List.getLast?_drop, if_neg (Nat.not_le.mpr hk)]
  exact h.1

theorem enter {stack : List String} {s : String} (hs : s ∈ t.states) (h : t.Stack stack) :
    t.Stack (s :: stack) := by
  refine ⟨?_, ?_⟩
  · rw [List.getLast?_cons, h.1]
    rfl
  · intro s' hs'
    rcases List.mem_cons.mp hs' with rfl | hs'
    · exact hs
    · exact h.2 s' hs'

theorem top_mem {c : Cursor} (h : t.Stack c.stack) : c.top ∈ t.states := by
  obtain ⟨top, rest, _, hstack, -⟩ := h.lookup
  simp only [Cursor.top, hstack, List.headD_cons]
  exact h.2 top (hstack ▸ List.mem_cons_self ..)

theorem pop {c : Cursor} (h : t.Stack c.stack) : t.Stack c.pop.stack := by
  unfold Cursor.pop
  split
  · rename_i top rest _ hstack
    simp only
    rw [hstack] at h
    exact h.drop (k := 1) (by simp)
  · exact h

theorem cut {c : Cursor} {n : Int} (hn : n ≠ 0) (h : t.Stack c.stack) :
    t.Stack (c.cut n).stack := by
  have hlen : 0 < c.stack.length := List.length_pos_iff.mpr h.ne_nil
  simp only [Cursor.cut]
  split
  · exact h.drop (by omega)
  · split
    · exact h.drop (by omega)
    · exact h.drop (by omega)

theorem applyMoves {ms : List Move} (hms : ∀ m ∈ ms, m.Fits (· ∈ t.states)) :
    ∀ {c : Cursor}, t.Stack c.stack → t.Stack (Highlight.applyMoves c ms).stack := by
  induction ms with
  | nil => intro c h; exact h
  | cons m ms ih =>
    intro c h
    have hrest : ∀ m ∈ ms, m.Fits (· ∈ t.states) := fun m hm => hms m (List.mem_cons_of_mem _ hm)
    have hm : m.Fits (· ∈ t.states) := hms m (List.mem_cons_self ..)
    cases m with
    | pop => exact ih hrest h.pop
    | push => exact ih hrest (h.enter h.top_mem)
    | enter s => exact ih hrest (h.enter hm)
    | combined _ => exact ih hrest h
    | cut n => exact ih hrest (h.cut hm)

end Stack

@[simp] theorem Cursor.breakOff_stack (c : Cursor) (f : Fault) : (c.breakOff f).stack = c.stack :=
  rfl

variable {env : Env} {text : Array Char}

/-- **One pass keeps a stack of states.** In a grammar that keeps stacks, a pass from a
stack of its states leaves a stack of its states: the rule that matched is a rule of the state
on top, its action leaves the stack alone and its moves fit; a newline leaves `root` alone. -/
theorem step_stack (hk : t.KeepsStacks) {c c' : Cursor} {ts : List Token}
    (hc : t.Stack c.stack) (h : t.step env text c = .next ts c') : t.Stack c'.stack := by
  simp only [step] at h
  split at h
  · cases h
  · cases h
  · rename_i top rest _ hstack
    split at h
    · cases h
    · rename_i rules hrules
      split at h
      · rename_i entry found hfirst
        have hentry : entry ∈ t.rules top := by
          rw [rules_of_getElem? hrules]
          exact (firstMatch_some hfirst).1
        have hfits : ∀ m ∈ entry.moves, m.Fits (· ∈ t.states) := hk.fits top entry hentry
        cases haction : entry.action with
        | none =>
          simp only [haction, Pass.next.injEq] at h
          obtain ⟨-, rfl⟩ := h
          apply Stack.applyMoves hfits
          split <;> exact hc
        | some a =>
          by_cases hext : t.extended = true
          · -- an extended grammar's action is a token kind, which moves the offset only
            obtain ⟨k, rfl⟩ := hk.kinds hext top entry hentry a haction
            rw [show actionDepth = 15 + 1 from rfl] at h
            simp only [haction, hext, if_true, applyAction, Pass.next.injEq] at h
            obtain ⟨-, rfl⟩ := h
            exact Stack.applyMoves hfits hc
          · simp only [haction, hext, if_false, Bool.false_eq_true, Pass.next.injEq] at h
            obtain ⟨-, rfl⟩ := h
            exact Stack.applyMoves hfits hc
      · -- no rule matches: one character, and a newline resets the stack to `root`
        split at h
        · cases h
        · split at h
          · cases h
          · split at h
            · simp only [Pass.next.injEq] at h
              obtain ⟨-, rfl⟩ := h
              exact Stack.root_only hk
            · simp only [Pass.next.injEq] at h
              obtain ⟨-, rfl⟩ := h
              exact hc

/-- **A pass never fails its own lookup.** From a stack of states, a pass breaks off only
with a fault that the shared memory already holds, left by a run lexed from an action. -/
theorem step_broken {c : Cursor} {f : Fault} (hc : t.Stack c.stack)
    (h : t.step env text c = .broken f) : c.shared.fault? = some f := by
  obtain ⟨top, rest, rules, hstack, hrules⟩ := hc.lookup
  cases hf : c.shared.fault? with
  | some f' =>
    simp only [step, hf, Pass.broken.injEq] at h
    rw [h]
  | none =>
    -- the state on top is found, so every way on is a token or the end
    simp only [step, hf, hstack, hrules] at h
    split at h
    · cases h
    · split at h
      · cases h
      · split at h
        · cases h
        · split at h <;> cases h

/-- **Every run of passes keeps a stack of states.** The induction is on the number of
passes; a pass that breaks off leaves the stack as it was. -/
theorem loop_stack (hk : t.KeepsStacks) : ∀ (n : Nat) (c : Cursor) (acc : List Token),
    t.Stack c.stack → t.Stack (t.loop env text n c acc).2.stack
  | 0, _, _, hc => hc
  | n + 1, c, acc, hc => by
    simp only [loop]
    cases hstep : t.step env text c with
    | finished => exact hc
    | broken f => exact hc
    | next ts c' => exact loop_stack hk n c' _ (step_stack hk hc hstep)

/-- **A cut by zero breaks the run off.** `#pop:0` keeps none of the states, so the pass after
it finds no state to look up: this is why a grammar that keeps stacks never cuts by zero. -/
theorem step_cut_zero {c : Cursor} (hf : c.shared.fault? = none) :
    t.step env text (c.cut 0) = .broken .emptyStack := by
  have hempty : (c.cut 0).stack = [] := by
    simp only [Cursor.cut, Int.natAbs_zero, Nat.le_zero, Int.lt_irrefl, if_false]
    split
    · rename_i hnil
      rw [List.length_eq_zero_iff.mp hnil]
      rfl
    · exact List.drop_length
  have hshared : (c.cut 0).shared = c.shared := by
    simp only [Cursor.cut]
    split
    · rfl
    · split <;> rfl
  simp only [step, hshared, hf, hempty]

end Table

/-- **A ready grammar keeps stacks.** A grammar that defines `root`, whose rules never cut the
stack by zero, and whose actions are token kinds when they move the cursor, keeps stacks once
made ready: the states its rules enter are states of the ready grammar (`Grammar.compile_fits`). -/
theorem Grammar.compile_keepsStacks {g : Grammar} {t : Table} (h : g.compile = .ok t)
    (hroot : g.Defines "root") (hcut : ∀ r, g.Writes r → Move.cut 0 ∉ r.moves)
    (hkinds : g.extended = true → ∀ r, g.Writes r → ∀ a, r.action? = some a → ∃ k, a = .token k) :
    t.KeepsStacks := by
  let Q : Action → Prop := fun a => g.extended = true → ∃ k, a = .token k
  have hwritten : ∀ d ∈ mergeLayers g.layers, ∀ r ∈ d.2, r.Keeps Q := by
    intro d hd r hr
    have hw : g.Writes r := (mergeLayers_spec g).1 d hd r hr
    exact ⟨hcut r hw, fun a ha hext => hkinds hext r hw a ha⟩
  obtain ⟨hfits, hstates, hext⟩ := Grammar.compile_fits hwritten h
  refine ⟨hstates _ ((mergeLayers_spec g).2 _ hroot), ?_, ?_⟩
  · intro state e he
    exact (hfits state e he).1
  · intro hextended state e he a ha
    exact (hfits state e he).2 a ha (hext ▸ hextended)

/-- **Every run of a ready grammar keeps a stack of its states.** For a grammar that defines
`root`, whose rules never cut the stack by zero (`#pop:0`), and whose actions are token kinds
when they move the cursor, a run started from `root` has, after any number of passes, a
non-empty stack with `root` at the bottom and only states of the ready grammar in it, so the
state on top can always be looked up: the next pass breaks off only with a fault that a run
lexed from an action left in the shared memory. -/
theorem Grammar.compiled_runs_keep_stack {g : Grammar} {t : Table} (h : g.compile = .ok t)
    (hroot : g.Defines "root") (hcut : ∀ r, g.Writes r → Move.cut 0 ∉ r.moves)
    (hkinds : g.extended = true → ∀ r, g.Writes r → ∀ a, r.action? = some a → ∃ k, a = .token k)
    (env : Env) (text : Array Char) (c : Cursor) (hc : c.stack = ["root"]) (n : Nat) :
    let c' := (t.loop env text n c []).2
    c'.stack ≠ [] ∧ c'.stack.getLast? = some "root" ∧ (∀ s ∈ c'.stack, s ∈ t.states) ∧
      ∀ f, t.step env text c' = .broken f → c'.shared.fault? = some f := by
  intro c'
  have hk : t.KeepsStacks := Grammar.compile_keepsStacks h hroot hcut hkinds
  have hstart : t.Stack c.stack := hc ▸ Table.Stack.root_only hk
  have hrun : t.Stack c'.stack := Table.loop_stack hk n c [] hstart
  exact ⟨hrun.ne_nil, hrun.1, hrun.2, fun f hf => Table.step_broken hrun hf⟩


/-- A grammar of two states: `a` enters `inner`, where `b` leaves it again by `#pop:1`. -/
def nestGrammar : Grammar :=
  { className := "NestLexer"
    layers := [[("root", [.step (.regex "a") (.token .text) [.enter "inner"]]),
      ("inner", [.step (.regex "b") (.token .name) [.cut 1]])]] }

/-- On `abab` from `root`, after any five passes, the ready grammar of `nestGrammar` has a
stack of its states with `root` at the bottom. -/
theorem nestGrammar_runs_keep_stack :
    ∃ t, nestGrammar.compile = .ok t ∧
      let c' := (t.loop quietEnv "abab".toList.toArray 5
        ⟨0, ["root"], 4, [], []⟩ []).2
      c'.stack ≠ [] ∧ c'.stack.getLast? = some "root" ∧ (∀ s ∈ c'.stack, s ∈ t.states) ∧
        ∀ f, t.step quietEnv "abab".toList.toArray c' =
          .broken f → c'.shared.fault? = some f := by
  have hok : nestGrammar.compile.isOk = true := by decide +kernel
  obtain ⟨t, ht⟩ : ∃ t, nestGrammar.compile = .ok t := by
    cases hc : nestGrammar.compile with
    | error e => simp [hc, Except.isOk, Except.toBool] at hok
    | ok t => exact ⟨t, rfl⟩
  have hroot : nestGrammar.Defines "root" :=
    ⟨_, List.mem_singleton_self _, _, List.mem_cons_self .., rfl⟩
  have hcut : ∀ r, nestGrammar.Writes r → Move.cut 0 ∉ r.moves := by
    rintro r ⟨layer, hlayer, d, hd, hr⟩
    simp only [nestGrammar, List.mem_singleton] at hlayer
    subst hlayer
    simp only [List.mem_cons, List.not_mem_nil, or_false] at hd
    rcases hd with rfl | rfl <;> simp only [List.mem_singleton] at hr <;> subst hr <;>
      simp [Rule.moves]
  have hkinds : nestGrammar.extended = true → ∀ r, nestGrammar.Writes r → ∀ a,
      r.action? = some a → ∃ k, a = .token k := by
    intro hext
    cases hext
  exact ⟨t, ht, Grammar.compiled_runs_keep_stack ht hroot hcut hkinds _ _ _ rfl 5⟩

end Highlight
