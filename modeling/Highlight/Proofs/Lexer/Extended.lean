import Mathlib.Data.List.Forall2
import Highlight.Proofs.Lexer.Lossless

/-!
# The extended engine runs as the plain one

A grammar may be run by the plain engine, which moves the cursor to the end of every match, or
by the extended engine, whose actions move the cursor and whose rules stop at the cursor's end
(`Table.extended`). When every action only makes tokens (`Action.Plain`: a token kind, another
language lexing the match, or groups of these) and every rule with no action matches only the
empty text, as `default` rules do, the two engines make the same pass from every cursor whose
end is the end of the text, but for one thing: a newline that no rule matches is a text in the
extended engine and a blank in the plain one (`Table.step_extended_twin`). So any number of
passes makes twin tokens, leaves the same cursor, and the next pass finishes in both or in
neither (`Table.extended_passes_as_plain`).
-/

set_option autoImplicit false

namespace Highlight

open Pattern

/-- An action that makes tokens of a match and leaves the stack alone: a token kind, or
another language lexing the match. Lexing with the running language is left out: that
language is the extended one in one engine and the plain one in the other. -/
def Action.Leaf : Action → Prop
  | .token _ => True
  | .lexWith _ language _ _ => language ≠ none
  | _ => False

/-- An action that both engines run alike: a leaf, or groups whose parts are leaves. -/
def Action.Plain : Action → Prop
  | .groups parts => ∀ a, some a ∈ parts → a.Leaf
  | a => a.Leaf

/-- Two tokens that are the same, or the same newline as a text and as a blank. -/
def Token.Twin (a b : Token) : Prop :=
  a = b ∨ ∃ i, a = ⟨i, .text, "\n"⟩ ∧ b = ⟨i, .whitespace, "\n"⟩

/-! ## Actions leave the stack alone -/

section Actions

variable {env : Env}

theorem applyAction_leaf_frame {a : Action} (ha : a.Leaf) (depth : Nat) (h : Hit) (c : Cursor) :
    (applyAction env depth a h c).2.stack = c.stack ∧
      (applyAction env depth a h c).2.stop = c.stop := by
  cases depth with
  | zero => exact ⟨rfl, rfl⟩
  | succ depth =>
    cases a with
    | token k => exact ⟨rfl, rfl⟩
    | lexWith site language stack options =>
      rcases hu : env.usingOptions c site language stack options with ⟨opts, c₁⟩
      have hstack : c₁.stack = c.stack := by
        simpa [hu] using Env.usingOptions_stack env c site language stack options
      have hstop : c₁.stop = c.stop := by
        simpa [hu] using Env.usingOptions_stop env c site language stack options
      simp only [applyAction, hu, Env.sublexAt]
      exact ⟨hstack, hstop⟩
    | groups _ => exact ha.elim
    | call _ => exact ha.elim

theorem groupTokens_frame (depth : Nat) (h : Hit) :
    ∀ (parts : List (Option Action)), (∀ a, some a ∈ parts → a.Leaf) → ∀ (i : Nat) (c : Cursor),
      (groupTokens env h (applyAction env depth) i parts c).2.stack = c.stack ∧
        (groupTokens env h (applyAction env depth) i parts c).2.stop = c.stop
  | [], _, _, _ => ⟨rfl, rfl⟩
  | part :: parts, hleaf, i, c => by
    have hrest : ∀ a, some a ∈ parts → a.Leaf := fun a ha => hleaf a (List.mem_cons_of_mem _ ha)
    -- the part's own tokens leave a cursor with the same frame, and the rest keep it
    obtain ⟨c₁, hc₁, hframe⟩ : ∃ c₁, (groupTokens env h (applyAction env depth) i (part :: parts) c).2
        = (groupTokens env h (applyAction env depth) (i + 1) parts c₁).2 ∧
          c₁.stack = c.stack ∧ c₁.stop = c.stop := by
      rcases part with _ | a
      · exact ⟨c, rfl, rfl, rfl⟩
      · have ha : a.Leaf := hleaf a (List.mem_cons_self ..)
        cases a with
        | token k =>
          refine ⟨c, ?_, rfl, rfl⟩
          rcases hs : h.span? i with _ | ⟨x, y⟩
          · simp [groupTokens, hs]
          · by_cases hxy : x < y <;> simp [groupTokens, hs, hxy]
        | lexWith site language stack options =>
          cases hpart : h.part? i with
          | none => exact ⟨c, by simp [groupTokens, hpart], rfl, rfl⟩
          | some sub =>
            let c₁ := (applyAction env depth (.lexWith site language stack options) sub
              { c with pos := sub.start }).2
            exact ⟨c₁, by simp [groupTokens, hpart, c₁],
              applyAction_leaf_frame ha depth sub { c with pos := sub.start }⟩
        | groups _ => exact ha.elim
        | call _ => exact ha.elim
    obtain ⟨hstack, hstop⟩ := groupTokens_frame depth h parts hrest (i + 1) c₁
    rw [hc₁, hstack, hstop]
    exact hframe

theorem applyAction_plain {a : Action} (ha : a.Plain) (depth : Nat) (h : Hit) (c : Cursor) :
    (applyAction env (depth + 1) a h c).2.pos = h.stop ∧
      (applyAction env (depth + 1) a h c).2.stack = c.stack ∧
        (applyAction env (depth + 1) a h c).2.stop = c.stop := by
  cases a with
  | groups parts => exact ⟨rfl, groupTokens_frame depth h parts ha 1 c⟩
  | token k => exact ⟨rfl, @applyAction_leaf_frame env (.token k) trivial (depth + 1) h c⟩
  | lexWith site language stack options =>
    refine ⟨?_, @applyAction_leaf_frame env (.lexWith site language stack options) ha (depth + 1) h c⟩
    rcases env.usingOptions c site language stack options with ⟨opts, c₁⟩
    rfl
  | call _ => exact ha.elim

end Actions

/-! ## One pass of each engine -/

namespace Table

/-- A grammar whose actions only make tokens: each is one that both engines run alike, and
each rule with no action matches only the empty text, as a `default` rule does. -/
structure TokensOnly (t : Table) : Prop where
  plain : ∀ state, ∀ e ∈ t.rules state, ∀ a, e.action = some a → a.Plain
  empty : ∀ state, ∀ e ∈ t.rules state, e.action = none →
    ∀ text pos stop f, e.pattern.matchAt text pos stop = some f → f.stop = f.start

variable {env : Env} {t : Table} {text : Array Char}

/-- The two engines make the same pass from cursor `c`, or no rule of the state on top
matches, the character at the cursor is a newline, and each makes one token of it, a text in
the extended engine and a blank in the plain one, leaving the same cursor. -/
def StepTwin (env : Env) (t : Table) (text : Array Char) (c : Cursor) : Prop :=
  { t with extended := true }.step env text c = { t with extended := false }.step env text c ∨
    ((∀ e ∈ t.rules c.top, e.pattern.matchAt text c.pos text.size = none) ∧
      text[c.pos]? = some '\n' ∧ ∃ c',
        { t with extended := true }.step env text c = .next [⟨c.pos, .text, "\n"⟩] c' ∧
        { t with extended := false }.step env text c = .next [⟨c.pos, .whitespace, "\n"⟩] c')

/-- **One pass of each engine** from a cursor whose end is the end of the text: an action that
only makes tokens leaves the stack alone and the cursor at the end of the match in both
engines, and a rule with no action reads nothing in both. -/
theorem step_extended_twin (ht : t.TokensOnly) {c : Cursor} (hc : c.stop = text.size) :
    t.StepTwin env text c := by
  cases hf : c.shared.fault? with
  | some f => left; simp [step, hf]
  | none =>
  cases hs : c.stack with
  | nil => left; simp [step, hf, hs]
  | cons top rest =>
  cases hr : t.states[top]? with
  | none => left; simp [step, hf, hs, hr]
  | some rules =>
  have hrules : t.rules top = rules := rules_of_getElem? hr
  cases hm : firstMatch rules text c.pos text.size with
  | some p =>
    obtain ⟨entry, found⟩ := p
    obtain ⟨hentry, hfound⟩ := firstMatch_some hm
    rw [← hrules] at hentry
    left
    simp only [step, hf, hs, hr, hc, hm, if_true, if_false, Bool.false_eq_true]
    cases ha : entry.action with
    | none =>
      -- a rule with no action reads nothing, so the plain engine's cursor stays too
      have hstop : found.stop = c.pos :=
        (ht.empty top entry hentry ha _ _ _ _ hfound).trans (Compiled.matchAt_start hfound)
      obtain ⟨pos, stack, stop, memo, shared⟩ := c
      simp_all
    | some a =>
      obtain ⟨hpos, hstack, hstop⟩ :=
        applyAction_plain (ht.plain top entry hentry a ha) 15 ⟨text, found⟩ c
      simp only [show actionDepth = 15 + 1 from rfl]
      generalize applyAction env (15 + 1) a ⟨text, found⟩ c = r at hpos hstack hstop ⊢
      obtain ⟨ts, pos, stack, stop, memo, shared⟩ := r
      simp_all [Hit.stop]
  | none =>
    by_cases hend : text.size ≤ c.pos
    · left
      simp [step, hf, hs, hr, hc, hm, hend]
    · obtain ⟨ch, hch⟩ : ∃ ch, text[c.pos]? = some ch :=
        ⟨text[c.pos], Array.getElem?_eq_getElem (Nat.lt_of_not_le hend)⟩
      by_cases hnl : ch = '\n'
      · subst hnl
        refine .inr ⟨?_, hch, { c with pos := c.pos + 1, stack := ["root"] }, ?_, ?_⟩
        · intro e he
          rw [Cursor.top, hs, List.headD_cons, hrules] at he
          simpa using (Array.findSome?_eq_none_iff.mp hm) e he
        · simp [step, hf, hs, hr, hc, hm, hend, hch]
        · simp [step, hf, hs, hr, hc, hm, hch]
      · left
        simp [step, hf, hs, hr, hc, hm, hend, hch, hnl]

theorem step_stop_of_plain (hplain : t.extended = false) {c c' : Cursor} {ts : List Token}
    (h : t.step env text c = .next ts c') : c'.stop = c.stop := by
  simp only [step, hplain, Bool.false_eq_true, if_false, Bool.false_and] at h
  split at h
  · cases h
  · cases h
  · split at h
    · cases h
    · split at h
      · simp only [Pass.next.injEq] at h
        obtain ⟨-, rfl⟩ := h
        simp
      · split at h
        · cases h
        · split at h <;> (simp only [Pass.next.injEq] at h; obtain ⟨-, rfl⟩ := h; rfl)

theorem loop_succ_of_next {u : Table} {c c' : Cursor} {ts : List Token}
    (hstep : u.step env text c = .next ts c') (n : Nat) :
    u.loop env text (n + 1) c [] =
      ((u.loop env text n c' []).1 ++ ts.reverse, (u.loop env text n c' []).2) := by
  simp only [loop, hstep, List.append_nil]
  exact loop_append_acc n c' ts.reverse

/-- **Runs of each engine.** After any number of passes from a cursor whose end is the end of
the text, the two engines have made twin tokens and left the same cursor, whose end is still
the end of the text. The induction is on the number of passes, each one twin
(`step_extended_twin`). -/
theorem loop_extended_twin (ht : t.TokensOnly) : ∀ (n : Nat) (c : Cursor), c.stop = text.size →
    List.Forall₂ Token.Twin ({ t with extended := true }.loop env text n c []).1
        ({ t with extended := false }.loop env text n c []).1 ∧
      ({ t with extended := true }.loop env text n c []).2 =
        ({ t with extended := false }.loop env text n c []).2 ∧
      ({ t with extended := false }.loop env text n c []).2.stop = text.size
  | 0, c, hc => ⟨.nil, rfl, hc⟩
  | n + 1, c, hc => by
    rcases @step_extended_twin env t text ht c hc with heq | ⟨-, -, c', hext, hpl⟩
    · cases hstep : { t with extended := false }.step env text c with
      | finished => simp [loop, heq, hstep, hc]
      | broken f => simp [loop, heq, hstep, hc]
      | next ts c' =>
        have hc' : c'.stop = text.size := (step_stop_of_plain rfl hstep).trans hc
        obtain ⟨hts, hcur, hstop⟩ := loop_extended_twin ht n c' hc'
        rw [loop_succ_of_next (heq.trans hstep) n, loop_succ_of_next hstep n]
        exact ⟨List.rel_append hts (List.forall₂_same.mpr fun _ _ => .inl rfl), hcur, hstop⟩
    · have hc' : c'.stop = text.size := (step_stop_of_plain rfl hpl).trans hc
      obtain ⟨hts, hcur, hstop⟩ := loop_extended_twin ht n c' hc'
      rw [loop_succ_of_next hext n, loop_succ_of_next hpl n]
      refine ⟨List.rel_append hts ?_, hcur, hstop⟩
      exact List.Forall₂.cons (.inr ⟨c.pos, rfl, rfl⟩) .nil

/-- The extended engine runs grammar `t` on `text` as the plain engine does: from every cursor
at the end of the text the two make the same pass, but over a newline that no rule matches,
which is a text in one and a blank in the other; and after any number of passes the two have
made twin tokens, left the same cursor, and either both finish at the next pass or neither
does. -/
def PassesAsPlain (env : Env) (t : Table) (text : Array Char) : Prop :=
  (∀ c : Cursor, c.stop = text.size → t.StepTwin env text c) ∧
  ∀ (n : Nat) (c : Cursor), c.stop = text.size →
    List.Forall₂ Token.Twin ({ t with extended := true }.loop env text n c []).1
        ({ t with extended := false }.loop env text n c []).1 ∧
      ({ t with extended := true }.loop env text n c []).2 =
        ({ t with extended := false }.loop env text n c []).2 ∧
      ({ t with extended := true }.step env text
          ({ t with extended := true }.loop env text n c []).2 = .finished ↔
        { t with extended := false }.step env text
          ({ t with extended := false }.loop env text n c []).2 = .finished)

/-- **The extended engine runs as the plain one**, for every grammar whose actions only make
tokens and on every text. -/
theorem extended_passes_as_plain (ht : t.TokensOnly) (env : Env) (text : Array Char) :
    t.PassesAsPlain env text := by
  refine ⟨fun c hc => step_extended_twin ht hc, fun n c hc => ?_⟩
  obtain ⟨hts, hcur, hstop⟩ := @loop_extended_twin env t text ht n c hc
  refine ⟨hts, hcur, ?_⟩
  rw [hcur]
  rcases @step_extended_twin env t text ht _ hstop with heq | ⟨-, -, c', hext, hpl⟩
  · rw [heq]
  · simp [hext, hpl]

end Table

/-- A grammar of one state: `a` is a name, and a rule that reads nothing leaves the state. -/
def nameOrLeaveTable : Table :=
  ⟨false, (∅ : Std.HashMap String (Array Entry)).insert "root"
    #[⟨⟨.char 'a' false, 0, []⟩, some (.token .name), []⟩, ⟨⟨.empty, 0, []⟩, none, [.pop]⟩]⟩

/-- The rule that reads nothing matches only the empty text, so both engines run the grammar
alike on `a`, a newline and `b`. -/
theorem nameOrLeave_passes_as_plain :
    nameOrLeaveTable.TokensOnly ∧ nameOrLeaveTable.PassesAsPlain quietEnv "a\nb".toList.toArray := by
  have ht : nameOrLeaveTable.TokensOnly := by
    have hrules : ∀ state, ∀ e ∈ nameOrLeaveTable.rules state,
        e = ⟨⟨.char 'a' false, 0, []⟩, some (.token .name), []⟩ ∨ e = ⟨⟨.empty, 0, []⟩, none, [.pop]⟩ := by
      intro state e he
      by_cases hs : state = "root"
      · subst hs
        simpa [Table.rules, nameOrLeaveTable] using he
      · simp [Table.rules, nameOrLeaveTable, Std.HashMap.getD_insert, Ne.symm hs] at he
    refine ⟨fun state e he a ha => ?_, fun state e he ha text pos stop f hf => ?_⟩
    · rcases hrules state e he with rfl | rfl
      · cases ha
        trivial
      · cases ha
    · rcases hrules state e he with rfl | rfl
      · cases ha
      · simp only [Compiled.matchAt, search, matchFuel] at hf
        cases hf
        rfl
  exact ⟨ht, Table.extended_passes_as_plain ht quietEnv _⟩

end Highlight
