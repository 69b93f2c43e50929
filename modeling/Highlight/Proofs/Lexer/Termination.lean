import Highlight.Proofs.Lexer.Lossless

/-!
# Plain runs end

The loop of the plain engine has no fuel of its own in the program: it runs until no rule
matches at the end of the text. A rule may match the empty text and so leave the offset where
it was, so the loop ends only because such a rule leaves a state. The grammars whose runs end
(`Table.Halting`) are those in which every rule that can match the empty text only leaves
states, a cut of the stack is a move on its own, as `#pop:n` is, and `root` has no rule that
can match the empty text.

`root` is at the bottom of every stack the engine reaches from a stack with `root` at the
bottom, unless a cut by zero has emptied it, which breaks the run off at the next pass
(`Cursor.Grounded`). A state above the bottom is not the only state, so a rule of it that reads
nothing leaves at least one state. Every pass thus lowers the text left or, leaving the
offset, the height of the stack (`Table.step_lowers`); pairs of numbers ordered first by the
first are well founded, so no run of passes goes on for ever (`Table.ends_of_grounded`), and
the loop, given passes enough, stops where more passes change nothing
(`Table.loop_stable_of_ends`). `Table.plain_runs_end` gathers these for the runs from the
start of a text.
-/

set_option autoImplicit false

namespace Highlight

open Pattern

/-- A rule whose pattern matches the empty text somewhere. -/
def Entry.MatchesEmpty (e : Entry) : Prop :=
  ∃ text pos stop f, e.pattern.matchAt text pos stop = some f ∧ f.stop = f.start

/-- Moves that only leave states: one pop or more, or a cut by a positive number. -/
def Move.OnlyLeave (ms : List Move) : Prop :=
  (ms ≠ [] ∧ ∀ m ∈ ms, m = .pop) ∨ ∃ n : Int, 0 < n ∧ ms = [.cut n]

namespace Cursor

/-- A cursor inside the text whose stack has `root` at the bottom, or is empty. -/
def Grounded (text : Array Char) (c : Cursor) : Prop :=
  c.pos ≤ text.size ∧ (c.stack = [] ∨ c.stack.getLast? = some "root")

/-- What is left to do from a cursor: the characters after it, and the states on its stack. -/
def left (text : Array Char) (c : Cursor) : Nat × Nat := (text.size - c.pos, c.stack.length)

theorem pop_grounded {c : Cursor} (h : c.stack.getLast? = some "root") :
    c.pop.stack ≠ [] ∧ c.pop.stack.getLast? = some "root" := by
  rcases hs : c.stack with _ | ⟨x, _ | ⟨y, rest⟩⟩
  · simp [hs] at h
  · simp_all [pop]
  · simp_all [pop, List.getLast?_cons]

theorem enter_grounded {c : Cursor} (s : String) (h : c.stack ≠ [] ∧ c.stack.getLast? = some "root") :
    (c.enter s).stack ≠ [] ∧ (c.enter s).stack.getLast? = some "root" := by
  obtain ⟨x, xs, hx⟩ := List.exists_cons_of_ne_nil h.1
  simp only [enter, hx, List.getLast?_cons] at h ⊢
  simpa using h.2

theorem cut_grounded {c : Cursor} (n : Int) (h : c.stack.getLast? = some "root") :
    (c.cut n).stack = [] ∨ (c.cut n).stack.getLast? = some "root" := by
  -- each way of cutting drops states from the top
  obtain ⟨k, hk⟩ : ∃ k, (c.cut n).stack = c.stack.drop k := by
    simp only [cut]
    split
    · exact ⟨_, rfl⟩
    · split <;> exact ⟨_, rfl⟩
  rw [hk, List.getLast?_drop]
  split
  · exact .inl (List.drop_eq_nil_iff.mpr ‹_›)
  · exact .inr h

theorem pop_length_le (c : Cursor) : c.pop.stack.length ≤ c.stack.length := by
  unfold pop
  split
  · rename_i hstack
    simp [hstack]
  · exact Nat.le_refl _

end Cursor

namespace Table

/-- The grammars whose plain runs end: every rule that can match the empty text only leaves
states, a cut is a move on its own, and no rule of `root` can match the empty text. -/
structure Halting (t : Table) : Prop where
  plain : t.extended = false
  cuts : ∀ state, ∀ e ∈ t.rules state, ∀ n, Move.cut n ∈ e.moves → e.moves = [.cut n]
  leaves : ∀ state, ∀ e ∈ t.rules state, e.MatchesEmpty → Move.OnlyLeave e.moves
  root : ∀ e ∈ t.rules "root", ¬ e.MatchesEmpty

theorem applyMoves_grounded_of_uncut (ms : List Move) (hcut : ∀ n, Move.cut n ∉ ms) :
    ∀ c : Cursor, c.stack ≠ [] ∧ c.stack.getLast? = some "root" →
      (applyMoves c ms).stack ≠ [] ∧ (applyMoves c ms).stack.getLast? = some "root" := by
  induction ms with
  | nil => exact fun _ h => h
  | cons m ms ih =>
    intro c h
    have hrest : ∀ n, Move.cut n ∉ ms := fun n hn => hcut n (List.mem_cons_of_mem _ hn)
    cases m with
    | pop => exact ih hrest _ (Cursor.pop_grounded h.2)
    | push => exact ih hrest _ (Cursor.enter_grounded _ h)
    | enter s => exact ih hrest _ (Cursor.enter_grounded s h)
    | combined _ => exact ih hrest _ h
    | cut n => exact absurd (List.mem_cons_self ..) (hcut n)

theorem applyMoves_grounded {ms : List Move} (hcuts : ∀ n, Move.cut n ∈ ms → ms = [.cut n])
    {c : Cursor} (h : c.stack ≠ [] ∧ c.stack.getLast? = some "root") :
    (applyMoves c ms).stack = [] ∨ (applyMoves c ms).stack.getLast? = some "root" := by
  by_cases hcut : ∃ n, Move.cut n ∈ ms
  · obtain ⟨n, hn⟩ := hcut
    rw [hcuts n hn]
    exact Cursor.cut_grounded n h.2
  · exact .inr (applyMoves_grounded_of_uncut ms (fun n hn => hcut ⟨n, hn⟩) c h).2

theorem applyMoves_pops_length_le (ms : List Move) (hpops : ∀ m ∈ ms, m = .pop) :
    ∀ c : Cursor, (applyMoves c ms).stack.length ≤ c.stack.length := by
  induction ms with
  | nil => exact fun c => Nat.le_refl _
  | cons m ms ih =>
    intro c
    rw [hpops m (List.mem_cons_self ..), applyMoves]
    exact Nat.le_trans (ih (fun m hm => hpops m (List.mem_cons_of_mem _ hm)) _)
      (Cursor.pop_length_le c)

theorem applyMoves_onlyLeave_lt {ms : List Move} (hms : Move.OnlyLeave ms) {c : Cursor}
    (h2 : 2 ≤ c.stack.length) : (applyMoves c ms).stack.length < c.stack.length := by
  rcases hms with ⟨hne, hpops⟩ | ⟨n, hn, rfl⟩
  · -- the first pop leaves a state, and no later pop adds one
    obtain ⟨m, ms, rfl⟩ := List.exists_cons_of_ne_nil hne
    rw [hpops m (List.mem_cons_self ..), applyMoves]
    refine Nat.lt_of_le_of_lt
      (applyMoves_pops_length_le ms (fun m hm => hpops m (List.mem_cons_of_mem _ hm)) _) ?_
    rcases hs : c.stack with _ | ⟨x, _ | ⟨y, rest⟩⟩
    · simp [hs] at h2
    · simp [hs] at h2
    · simp [Cursor.pop, hs]
  · simp only [applyMoves, Cursor.cut, if_pos hn]
    split <;> simp only [List.length_drop] <;> omega

variable {env : Env} {t : Table} {text : Array Char}

/-- **One pass lowers what is left.** A plain pass of a grammar whose runs end, from a cursor
inside the text with `root` at the bottom of its stack, leads to such a cursor again, with
less text after it, or as much text and fewer states on its stack. -/
theorem step_lowers (ht : t.Halting) {c c' : Cursor} {ts : List Token}
    (hc : c.Grounded text) (h : t.step env text c = .next ts c') :
    c'.Grounded text ∧ Prod.Lex (· < ·) (· < ·) (c'.left text) (c.left text) := by
  obtain ⟨hpos, hbottom⟩ := hc
  simp only [step, ht.plain] at h
  split at h
  · cases h
  · cases h
  · rename_i top rest _ hstack
    have hroot : c.stack ≠ [] ∧ c.stack.getLast? = some "root" := by
      refine ⟨by simp [hstack], ?_⟩
      rcases hbottom with hnil | hlast
      · simp [hstack] at hnil
      · exact hlast
    split at h
    · cases h
    · rename_i rules hrules
      split at h
      · rename_i entry found hfirst
        obtain ⟨hmem, hm⟩ := firstMatch_some hfirst
        simp only [Bool.false_eq_true, if_false] at hm
        have hentry : entry ∈ t.rules top := by rw [rules_of_getElem? hrules]; exact hmem
        have hstart : found.start = c.pos := Compiled.matchAt_start hm
        have hle : found.start ≤ found.stop := Compiled.matchAt_le hm
        have hsize : found.stop ≤ text.size := Compiled.matchAt_stop_le hpos hm
        simp only [Bool.false_eq_true, if_false, Pass.next.injEq] at h
        obtain ⟨-, rfl⟩ := h
        refine ⟨⟨by simpa using hsize, applyMoves_grounded (ht.cuts top entry hentry) hroot⟩, ?_⟩
        rcases Nat.lt_or_eq_of_le hle with hlt | heq
        · -- the match reads a character: less text is left
          apply Prod.Lex.left
          simp only [applyMoves_pos]
          omega
        · -- an empty match: its rule is not one of `root`, so the state it leaves is not the
          -- bottom one
          have hempty : entry.MatchesEmpty := ⟨text, c.pos, text.size, found, hm, heq.symm⟩
          have htop : top ≠ "root" := by
            rintro rfl
            exact ht.root entry hentry hempty
          have h2 : 2 ≤ c.stack.length := by
            rcases rest with _ | ⟨y, rest⟩
            · simp [hstack] at hroot
              exact absurd hroot htop
            · simp [hstack]
          simp only [Cursor.left, applyMoves_pos, ← heq, hstart]
          exact Prod.Lex.right _ (applyMoves_onlyLeave_lt (ht.leaves top entry hentry hempty) h2)
      · -- no rule matches: one character is a token on its own
        simp only [Bool.false_and, Bool.false_eq_true, if_false] at h
        split at h
        · cases h
        · rename_i ch hch
          have hlt : c.pos < text.size := by
            rcases Nat.lt_or_ge c.pos text.size with hlt | hge
            · exact hlt
            · simp [Array.getElem?_eq_none hge] at hch
          split at h
          · simp only [Pass.next.injEq] at h
            obtain ⟨-, rfl⟩ := h
            refine ⟨⟨hlt, .inr rfl⟩, Prod.Lex.left _ _ ?_⟩
            dsimp only
            omega
          · simp only [Pass.next.injEq] at h
            obtain ⟨-, rfl⟩ := h
            refine ⟨⟨hlt, .inr hroot.2⟩, Prod.Lex.left _ _ ?_⟩
            dsimp only
            omega

/-- The passes from a cursor come to an end: after finitely many passes that go on, a pass
finishes lexing or breaks the run off. -/
inductive Ends (env : Env) (t : Table) (text : Array Char) : Cursor → Prop
  | finished {c : Cursor} : t.step env text c = .finished → Ends env t text c
  | broken {c : Cursor} {f : Fault} : t.step env text c = .broken f → Ends env t text c
  | next {c : Cursor} {ts : List Token} {c' : Cursor} :
      t.step env text c = .next ts c' → Ends env t text c' → Ends env t text c

theorem ends_of_grounded (ht : t.Halting) (c : Cursor) (hc : c.Grounded text) :
    t.Ends env text c := by
  -- induction on what is left, the text after the cursor and then the height of its stack
  induction c using
    (InvImage.wf (Cursor.left text) (Prod.lex Nat.lt_wfRel Nat.lt_wfRel).wf).induction with
  | _ c ih =>
    cases hs : t.step env text c with
    | finished => exact .finished hs
    | broken f => exact .broken hs
    | next ts c' =>
      obtain ⟨hc', hlt⟩ := step_lowers ht hc hs
      exact .next hs (ih c' hlt hc')

theorem loop_stable_of_ends {c : Cursor} (h : t.Ends env text c) :
    ∃ n, ∀ m, n ≤ m → ∀ acc, t.loop env text m c acc = t.loop env text n c acc := by
  induction h with
  | finished hs =>
    refine ⟨1, fun m hm acc => ?_⟩
    obtain ⟨m, rfl⟩ : ∃ k, m = k + 1 := ⟨m - 1, by omega⟩
    simp [loop, hs]
  | broken hs =>
    refine ⟨1, fun m hm acc => ?_⟩
    obtain ⟨m, rfl⟩ : ∃ k, m = k + 1 := ⟨m - 1, by omega⟩
    simp [loop, hs]
  | next hs _ ih =>
    obtain ⟨n, hn⟩ := ih
    refine ⟨n + 1, fun m hm acc => ?_⟩
    obtain ⟨m, rfl⟩ : ∃ k, m = k + 1 := ⟨m - 1, by omega⟩
    simp only [loop, hs]
    exact hn m (by omega) _

/-- Plain lexing with a grammar ends: every pass from a cursor inside the text with `root` at
the bottom of its stack leads to such a cursor with less text after it, or as much text and
fewer states, and the passes from the start of every text come to an end. -/
def RunsEnd (env : Env) (t : Table) (text : Array Char) : Prop :=
  (∀ c ts c', c.Grounded text → t.step env text c = .next ts c' →
    c'.Grounded text ∧ Prod.Lex (· < ·) (· < ·) (c'.left text) (c.left text)) ∧
  ∀ shared, t.Ends env text { pos := 0, stack := ["root"], stop := text.size, shared }

/-- **Plain runs end.** For a grammar in which every rule that can match the empty text only
leaves states, a cut is a move on its own, and no rule of `root` can match the empty text,
lexing any text ends, each pass lowering what is left. -/
theorem plain_runs_end (ht : t.Halting) (env : Env) (text : Array Char) : t.RunsEnd env text :=
  ⟨fun _ _ _ hc h => step_lowers ht hc h,
    fun _ => ends_of_grounded ht _ ⟨Nat.zero_le _, .inr rfl⟩⟩

end Table

/-- A grammar whose `root` enters a state on an `a`, and whose other state leaves at once. -/
def enterLeaveTable : Table :=
  ⟨false, ((∅ : Std.HashMap String (Array Entry)).insert "root"
    #[⟨⟨.char 'a' false, 0, []⟩, some (.token .name), [.enter "x"]⟩]).insert "x"
    #[⟨⟨.empty, 0, []⟩, none, [.pop]⟩]⟩

theorem char_matchAt_stop {ch : Char} {text : Array Char} {pos stop : Nat} {f : Found}
    (h : (⟨.char ch false, 0, []⟩ : Compiled).matchAt text pos stop = some f) :
    f.stop = f.start + 1 := by
  by_cases hA : (⟨text, stop⟩ : Subject).single? (.char ch false) pos = some true
  · simp [Compiled.matchAt, search, matchFuel, hA] at h
    subst h
    rfl
  · simp [Compiled.matchAt, search, matchFuel, hA, resume] at h

/-- Lexing `a` then a newline and `b` with a grammar that enters and leaves a state ends. -/
theorem enterLeave_runs_end :
    enterLeaveTable.Halting ∧ enterLeaveTable.RunsEnd quietEnv "a\nb".toList.toArray := by
  have hrules : ∀ state, ∀ e ∈ enterLeaveTable.rules state,
      e = ⟨⟨.char 'a' false, 0, []⟩, some (.token .name), [.enter "x"]⟩ ∧ state = "root" ∨
        e = ⟨⟨.empty, 0, []⟩, none, [.pop]⟩ := by
    intro state e he
    by_cases hx : state = "x"
    · subst hx
      exact .inr (by simpa [Table.rules, enterLeaveTable] using he)
    · by_cases hr : state = "root"
      · subst hr
        exact .inl ⟨by simpa [Table.rules, enterLeaveTable, Std.HashMap.getD_insert] using he, rfl⟩
      · simp [Table.rules, enterLeaveTable, Std.HashMap.getD_insert, Ne.symm hx, Ne.symm hr] at he
  have hchar : ¬ Entry.MatchesEmpty ⟨⟨.char 'a' false, 0, []⟩, some (.token .name), [.enter "x"]⟩ := by
    rintro ⟨text, pos, stop, f, hf, heq⟩
    have := char_matchAt_stop hf
    omega
  have ht : enterLeaveTable.Halting := by
    refine ⟨rfl, ?_, ?_, ?_⟩
    · intro state e he n hn
      rcases hrules state e he with ⟨rfl, -⟩ | rfl <;> simp at hn
    · intro state e he hempty
      rcases hrules state e he with ⟨rfl, -⟩ | rfl
      · exact absurd hempty hchar
      · exact .inl ⟨by simp, by simp⟩
    · intro e he
      rcases hrules "root" e he with ⟨rfl, -⟩ | ⟨rfl⟩
      · exact hchar
      · simp [Table.rules, enterLeaveTable, Std.HashMap.getD_insert] at he
  exact ⟨ht, Table.plain_runs_end ht quietEnv _⟩

end Highlight
