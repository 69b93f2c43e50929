import Highlight.Proofs.Grammar.Includes
import Highlight.Proofs.Lexer.Lossless
import Highlight.Lexers.Yaml

/-!
# The context of YAML stays well formed

A YAML run keeps two things beside the offset: the stack of states, and the levels of
indentation in the memory of the cursor (`YamlIndent`). Both stay well formed over every run.

The levels nest (`YamlIndent.Nested`): read from the outermost in, they start at `-1` and each
is deeper than the one before, so the levels around the current one run out exactly when it is
`-1`, and going out to the level of an indentation never looks for a level around the outermost
one (`YamlIndent.Nested.outer_ne_nil`). Every action of the grammar keeps them nested.

The stacks are those the grammar builds (`YamlStack`): `root` at the bottom, and each state
above one it is entered on. A rule keeps that when its moves fit the state it runs in and its
action leaves the stack alone, but for the two actions that end a block scalar or a plain scalar
by dropping two states (`YamlActs`); those run only where two states stand above `root`
(`YamlStack.drop_two`). The ready grammar runs the rules written for each state
(`Grammar.compile_rules_flat`), and each of them fits (`yamlTable_fits`). So one pass keeps the
context (`yamlStep_keeps`), and so does every run (`yaml_context_well_formed`).
-/

set_option autoImplicit false

namespace Highlight.Lexers

/-! ## The memory of a cursor -/

theorem lookup_filter_ne {β : Type} (m : List (String × β)) {k k' : String} (h : k' ≠ k) :
    (m.filter (·.1 != k)).lookup k' = m.lookup k' := by
  induction m with
  | nil => rfl
  | cons p m ih =>
    obtain ⟨a, b⟩ := p
    by_cases ha : a = k
    · subst ha
      simp [List.lookup_cons, ih, beq_eq_false_iff_ne.mpr h]
    · simp [ha, List.lookup_cons, ih]

theorem lookup_filter_self {β : Type} (m : List (String × β)) (k : String) :
    (m.filter (·.1 != k)).lookup k = none := by
  induction m with
  | nil => rfl
  | cons p m ih =>
    obtain ⟨a, b⟩ := p
    by_cases ha : a = k
    · subst ha
      simp [ih]
    · simp [ha, List.lookup_cons, ih, beq_eq_false_iff_ne.mpr (Ne.symm ha)]

@[simp] theorem Cursor.recall_remember_self (c : Cursor) (k : String) (v : Memo) :
    (c.remember k v).recall k = some v := by
  simp [Cursor.recall, Cursor.remember]

theorem Cursor.recall_remember_ne (c : Cursor) {k k' : String} (v : Memo) (h : k' ≠ k) :
    (c.remember k v).recall k' = c.recall k' := by
  simp [Cursor.recall, Cursor.remember, List.lookup_cons, beq_eq_false_iff_ne.mpr h,
    lookup_filter_ne _ h]

@[simp] theorem Cursor.recall_forget_self (c : Cursor) (k : String) :
    (c.forget k).recall k = none :=
  lookup_filter_self c.memo k

@[simp] theorem Cursor.past_stack (c : Cursor) (h : Hit) : (c.past h).stack = c.stack := rfl

/-! ## Levels of indentation -/

namespace YamlIndent

/-- The levels, outermost first: the levels around the current one, then the current one. -/
def levels (y : YamlIndent) : List Int := y.outer.reverse ++ [y.current]

/-- Levels that nest: the outermost is `-1`, no indentation, and each level is deeper than
the one around it. -/
structure Nested (y : YamlIndent) : Prop where
  increasing : y.levels.Pairwise (· < ·)
  outermost : y.levels.head? = some (-1)

theorem nested_of_outer_nil {y : YamlIndent} (h : y.outer = []) (hc : y.current = -1) :
    y.Nested :=
  ⟨by simp [levels, h], by simp [levels, h, hc]⟩

theorem Nested.congr {y y' : YamlIndent} (hy : y.Nested) (h : y'.levels = y.levels) :
    y'.Nested :=
  ⟨h ▸ hy.increasing, h ▸ hy.outermost⟩

theorem Nested.le_current {y : YamlIndent} (hy : y.Nested) {a : Int} (ha : a ∈ y.levels) :
    a ≤ y.current := by
  have hpair := hy.increasing
  simp only [levels, List.pairwise_append, List.mem_singleton] at hpair ha
  rcases List.mem_append.mp ha with ha | ha
  · exact Int.le_of_lt (hpair.2.2 a ha _ rfl)
  · rw [List.mem_singleton.mp ha]

theorem Nested.outer_eq_nil_iff {y : YamlIndent} (hy : y.Nested) :
    y.outer = [] ↔ y.current = -1 := by
  constructor
  · intro h
    simpa [levels, h] using hy.outermost
  · intro hc
    cases hrev : y.outer.reverse with
    | nil => exact List.reverse_eq_nil_iff.mp hrev
    | cons a rest =>
      -- the outermost level `a` is `-1` and lies below the current one
      have ha : a = -1 := by simpa [levels, hrev] using hy.outermost
      have hlt : a < y.current := by
        have hpair := hy.increasing
        simp only [levels, hrev, List.cons_append, List.pairwise_cons] at hpair
        exact hpair.1 y.current (by simp)
      omega

/-- **Going out never runs out of levels.** From nested levels, when the next level is zero or
more and less than the current one, there is a level around the current one to go out to. -/
theorem Nested.outer_ne_nil {y : YamlIndent} (hy : y.Nested) {n : Int} (hn : 0 ≤ n)
    (hlt : n < y.current) : y.outer ≠ [] := by
  intro h
  have := hy.outer_eq_nil_iff.mp h
  omega

theorem Nested.goOut {y : YamlIndent} {l : Int} {rest : List Int} (hy : y.Nested)
    (h : y.outer = l :: rest) : ({ y with current := l, outer := rest } : YamlIndent).Nested := by
  have hlev : y.levels = ({ y with current := l, outer := rest } : YamlIndent).levels ++ [y.current] := by
    simp [levels, h]
  have hpair := hy.increasing
  have hhead := hy.outermost
  rw [hlev] at hpair hhead
  refine ⟨(List.pairwise_append.mp hpair).1, ?_⟩
  rw [List.head?_append_of_ne_nil _ (by simp [levels])] at hhead
  exact hhead

theorem dedent_next : ∀ (fuel : Nat) (y : YamlIndent), (dedent fuel y).next = y.next
  | 0, _ => rfl
  | fuel + 1, y => by
    unfold dedent
    split
    · split
      · exact dedent_next fuel _
      · rfl
    · rfl

theorem Nested.dedent : ∀ (fuel : Nat) {y : YamlIndent}, y.Nested → (dedent fuel y).Nested
  | 0, _, hy => hy
  | fuel + 1, y, hy => by
    unfold YamlIndent.dedent
    split
    · split
      · rename_i l rest h
        exact Nested.dedent fuel (hy.goOut h)
      · rename_i h
        exact nested_of_outer_nil h rfl
    · exact hy

theorem Nested.indentIn {y : YamlIndent} (hy : y.Nested) : y.indentIn.Nested := by
  unfold YamlIndent.indentIn
  split
  · rename_i hlt
    have hlev : ({ y with outer := y.current :: y.outer, current := y.next } : YamlIndent).levels =
        y.levels ++ [y.next] := by
      simp [levels]
    refine ⟨?_, ?_⟩
    · rw [hlev, List.pairwise_append]
      refine ⟨hy.increasing, List.pairwise_singleton _ _, ?_⟩
      intro a ha b hb
      rw [List.mem_singleton.mp hb]
      exact Int.lt_of_le_of_lt (hy.le_current ha) hlt
    · rw [hlev, List.head?_append_of_ne_nil _ (by simp [levels])]
      exact hy.outermost
  · exact hy

@[simp] theorem load_store (y : YamlIndent) (c : Cursor) : load (y.store c) = y := by
  obtain ⟨outer, current, next, blockScalar⟩ := y
  -- the keys differ from one another, so each is read back as it was written
  cases blockScalar <;>
    simp (disch := decide) only [load, store, Cursor.recall_remember_self,
      Cursor.recall_remember_ne, Cursor.recall_forget_self, List.filterMap_map] <;>
    simp

@[simp] theorem store_stack (y : YamlIndent) (c : Cursor) : (y.store c).stack = c.stack := by
  unfold store
  split <;> rfl

@[simp] theorem load_past (c : Cursor) (h : Hit) : load (c.past h) = load c := rfl

theorem Nested.store {c : Cursor} {y : YamlIndent} (hc : (load c).Nested)
    (h : y.levels = (load c).levels) : (load (y.store c)).Nested := by
  rw [load_store]
  exact hc.congr h

end YamlIndent

@[simp] theorem applyMoves_memo (ms : List Move) : ∀ c : Cursor, (applyMoves c ms).memo = c.memo := by
  induction ms with
  | nil => intro c; rfl
  | cons m ms ih =>
    intro c
    cases m with
    | pop => simpa [applyMoves, Cursor.pop] using (ih c.pop).trans (by unfold Cursor.pop; split <;> rfl)
    | push => exact ih (c.enter c.top)
    | enter s => exact ih (c.enter s)
    | combined _ => exact ih c
    | cut n => exact (ih (c.cut n)).trans (by unfold Cursor.cut; dsimp only; split <;> (try split) <;> rfl)

@[simp] theorem YamlIndent.load_applyMoves (c : Cursor) (ms : List Move) :
    YamlIndent.load (applyMoves c ms) = YamlIndent.load c := by
  simp only [YamlIndent.load, Cursor.recall, applyMoves_memo]

/-! ## What the actions do -/

/-- What an action of YAML may do to the cursor: it keeps the levels nested, and it leaves the
stack as it is or, where `drops` allows it, without its two top states. -/
structure YamlActs (drops : Bool) (a : Action) : Prop where
  levels : ∀ env depth h c, (YamlIndent.load c).Nested →
    (YamlIndent.load (applyAction env depth a h c).2).Nested
  stack : ∀ env depth h c, (applyAction env depth a h c).2.stack = c.stack ∨
    (drops = true ∧ (applyAction env depth a h c).2.stack = c.stack.drop 2)

namespace YamlActs

variable {drops : Bool}

theorem call {f : Callback}
    (hlevels : ∀ env h c, (YamlIndent.load c).Nested → (YamlIndent.load (f env h c).2).Nested)
    (hstack : ∀ env h c, (f env h c).2.stack = c.stack ∨
      (drops = true ∧ (f env h c).2.stack = c.stack.drop 2)) :
    YamlActs drops (.call f) where
  levels env depth h c hc := by
    cases depth with
    | zero => exact hc
    | succ d => exact hlevels env h c hc
  stack env depth h c := by
    cases depth with
    | zero => exact .inl rfl
    | succ d => exact hstack env h c

theorem quiet {f : Callback}
    (hf : ∀ env h c, (YamlIndent.load (f env h c).2) = YamlIndent.load c ∧ (f env h c).2.stack = c.stack) :
    YamlActs drops (.call f) :=
  call (fun env h c hc => (hf env h c).1 ▸ hc) (fun env h c => .inl (hf env h c).2)

theorem token (k : TokenKind) : YamlActs drops (.token k) where
  levels env depth h c hc := by cases depth <;> exact hc
  stack env depth h c := by cases depth <;> exact .inl rfl

theorem groupTokens_keeps {env : Env} {h : Hit} {depth : Nat} {P : Cursor → Prop}
    (hpos : ∀ c n, P c → P { c with pos := n }) :
    ∀ (parts : List (Option Action)),
      (∀ a, some a ∈ parts → ∀ h' c, P c → P (applyAction env depth a h' c).2) →
        ∀ i c, P c → P (groupTokens env h (applyAction env depth) i parts c).2
  | [], _, _, _, hc => hc
  | part :: parts, hparts, i, c, hc => by
    have hrest : ∀ a, some a ∈ parts → ∀ h' c, P c → P (applyAction env depth a h' c).2 :=
      fun a ha => hparts a (List.mem_cons_of_mem _ ha)
    -- the part leaves a cursor that keeps `P`, and the rest go on from it
    obtain ⟨c₁, hc₁, hP⟩ : ∃ c₁, (groupTokens env h (applyAction env depth) i (part :: parts) c).2
        = (groupTokens env h (applyAction env depth) (i + 1) parts c₁).2 ∧ P c₁ := by
      rcases part with _ | a
      · exact ⟨c, rfl, hc⟩
      · have ha := hparts a (List.mem_cons_self ..)
        cases a with
        | token k =>
          refine ⟨c, ?_, hc⟩
          rcases hs : h.span? i with _ | ⟨x, y⟩
          · simp [groupTokens, hs]
          · by_cases hxy : x < y <;> simp [groupTokens, hs, hxy]
        | _ =>
          cases hpart : h.part? i with
          | none => exact ⟨c, by simp [groupTokens, hpart], hc⟩
          | some sub =>
            exact ⟨_, by simp [groupTokens, hpart], ha sub _ (hpos c sub.start hc)⟩
    rw [hc₁]
    exact groupTokens_keeps hpos parts hrest (i + 1) c₁ hP

theorem groups {parts : List (Option Action)} (hparts : ∀ a, some a ∈ parts → YamlActs false a) :
    YamlActs drops (.groups parts) where
  levels env depth h c hc := by
    cases depth with
    | zero => exact hc
    | succ d =>
      exact groupTokens_keeps (P := fun c => (YamlIndent.load c).Nested) (fun _ _ hc => hc) parts
        (fun a ha h' c' => (hparts a ha).levels env d h' c') 1 c hc
  stack env depth h c := by
    cases depth with
    | zero => exact .inl rfl
    | succ d =>
      refine .inl (groupTokens_keeps (P := fun c' => c'.stack = c.stack) (fun _ _ hc => hc) parts
        ?_ 1 c rfl)
      intro a ha h' c' hc'
      rcases (hparts a ha).stack env d h' c' with heq | ⟨hfalse, -⟩
      · exact heq.trans hc'
      · cases hfalse

end YamlActs

/-! ## The actions of YAML -/

section Callbacks

variable {drops : Bool}

theorem yamlSomething_acts (k : TokenKind) : YamlActs drops (.call (yamlSomething k)) :=
  .quiet fun _ h c => by
    unfold yamlSomething
    split <;> exact ⟨rfl, rfl⟩

theorem yamlResetIndent_acts (k : TokenKind) : YamlActs drops (.call (yamlResetIndent k)) :=
  .call (fun _ _ _ _ => by simpa [yamlResetIndent] using YamlIndent.nested_of_outer_nil rfl rfl)
    (fun _ _ _ => .inl (by simp [yamlResetIndent]))

theorem yamlSaveIndent_acts (k : TokenKind) (start : Bool) :
    YamlActs drops (.call (yamlSaveIndent k start)) := by
  refine .call (fun env h c hc => ?_) (fun env h c => .inl ?_)
  · -- the levels stored are those loaded, with another next level, maybe gone out of
    unfold yamlSaveIndent
    cases start
    · exact hc.store rfl
    · simp only [if_true]
      split
      · split <;>
        · simp only [YamlIndent.load_past, YamlIndent.load_store]
          exact .dedent _ (hc.congr rfl)
      · exact hc.store rfl
  · unfold yamlSaveIndent
    cases start
    · simp
    · simp only [if_true]
      split
      · split <;> simp
      · simp

theorem yamlSetIndent_acts (k : TokenKind) (implicit : Bool) :
    YamlActs drops (.call (yamlSetIndent k implicit)) := by
  refine .call (fun env h c hc => ?_) (fun env h c => .inl (by unfold yamlSetIndent; simp))
  unfold yamlSetIndent
  cases implicit <;>
  · simp only [Bool.false_eq_true, if_false, if_true, YamlIndent.load_past, YamlIndent.load_store]
    exact hc.indentIn.congr rfl

theorem yamlSetBlockScalarIndent_acts (k : TokenKind) :
    YamlActs drops (.call (yamlSetBlockScalarIndent k)) := by
  refine .call (fun env h c hc => ?_) (fun env h c => .inl ?_)
  · -- only the indentation of the block scalar changes
    unfold yamlSetBlockScalarIndent
    dsimp only
    split
    · exact hc.store rfl
    · split <;> (try split) <;> exact hc.store rfl
  · unfold yamlSetBlockScalarIndent
    dsimp only
    split
    · simp
    · split <;> (try split) <;> simp

theorem yamlBlockScalarEmptyLine_acts (k k' : TokenKind) :
    YamlActs drops (.call (yamlBlockScalarEmptyLine k k')) :=
  .quiet fun _ _ _ => ⟨rfl, rfl⟩

theorem yamlBlockScalarIndent_acts (k : TokenKind) :
    YamlActs true (.call (yamlBlockScalarIndent k)) := by
  refine .call (fun env h c hc => ?_) (fun env h c => ?_)
  · -- the block ends and the levels stay, or only the indentation of the block scalar changes
    unfold yamlBlockScalarIndent
    dsimp only
    split <;> split
    · exact hc
    · split <;> exact hc.store rfl
    · exact hc
    · split <;> exact hc.store rfl
  · unfold yamlBlockScalarIndent
    dsimp only
    split <;> split
    · exact .inr ⟨rfl, rfl⟩
    · exact .inl (by split <;> simp)
    · exact .inr ⟨rfl, rfl⟩
    · exact .inl (by split <;> simp)

theorem yamlPlainScalarIndent_acts (k : TokenKind) :
    YamlActs true (.call (yamlPlainScalarIndent k)) := by
  refine .call (fun env h c hc => ?_) (fun env h c => ?_)
  · unfold yamlPlainScalarIndent
    dsimp only
    split
    · exact hc
    · split <;> exact hc
  · unfold yamlPlainScalarIndent
    dsimp only
    split
    · exact .inr ⟨rfl, rfl⟩
    · split <;> exact .inl rfl

end Callbacks

/-! ## Stacks of states -/

/-- The states of YAML other than `root`, each with the states it is entered on: a directive and
a block line on `root`, the block scalar and the plain scalar on the block line, flow
collections on the block line or a flow collection, and so on. -/
def yamlBelowTable : List (String × List String) :=
  let flow := ["block-line", "flow-sequence", "flow-mapping"]
  [("yaml-directive", ["root"]), ("tag-directive", ["root"]), ("block-line", ["root"]),
   ("ignored-line", ["yaml-directive", "tag-directive", "block-scalar-header"]),
   ("indentation", ["block-line"]), ("block-scalar-content", ["block-line"]),
   ("plain-scalar-in-block-context", ["block-line"]),
   ("block-scalar-header", ["block-scalar-content"]),
   ("plain-scalar-in-block-context-new-line", ["plain-scalar-in-block-context"]),
   ("flow-sequence", flow), ("flow-mapping", flow), ("single-quoted-scalar", flow),
   ("double-quoted-scalar", flow), ("plain-scalar-in-flow-context", flow)]

/-- The states a state of YAML is entered on. -/
def yamlBelow (s : String) : List String := (yamlBelowTable.lookup s).getD []

/-- The states that may be on top of the stack of a YAML run. -/
def yamlTops : List String := "root" :: yamlBelowTable.map Prod.fst

/-- A stack of YAML states, top first: `root` at the bottom, and each state above one it is
entered on. -/
def YamlStack : List String → Prop
  | [] => False
  | [s] => s = "root"
  | s :: below :: rest => below ∈ yamlBelow s ∧ YamlStack (below :: rest)

/-- The states whose actions may drop the two top states: a block scalar, and the next line of
a plain scalar. -/
def yamlDrops (s : String) : Bool :=
  s == "block-scalar-content" || s == "plain-scalar-in-block-context-new-line"

/-- Whether moves fit a YAML stack with `top` on top: pops only, or states each entered on the
one before. -/
def yamlMovesFit (top : String) : List Move → Bool
  | [] => true
  | .pop :: rest => rest.all (· matches .pop)
  | .enter s :: rest => (yamlBelow s).contains top && yamlMovesFit s rest
  | _ => false

namespace YamlStack

theorem ne_nil : ∀ {stack : List String}, YamlStack stack → stack ≠ []
  | [], h, _ => h

theorem root : YamlStack ["root"] := rfl

theorem getLast? : ∀ {stack : List String}, YamlStack stack → stack.getLast? = some "root"
  | [_], h => by simp only [YamlStack] at h; simp [h]
  | _ :: below :: rest, h => by
    rw [List.getLast?_cons_cons]
    exact getLast? h.2

theorem top_mem : ∀ {s : String} {rest : List String}, YamlStack (s :: rest) → s ∈ yamlTops
  | _, [], h => by simp only [YamlStack] at h; simp [h, yamlTops]
  | s, below :: _, h => by
    have hbelow : below ∈ yamlBelow s := h.1
    cases hl : yamlBelowTable.lookup s with
    | none => simp [yamlBelow, hl] at hbelow
    | some _ => exact List.mem_cons_of_mem _ (List.mem_map.mpr ⟨_, mem_of_lookup_eq_some hl, rfl⟩)

theorem pop {c : Cursor} (h : YamlStack c.stack) : YamlStack c.pop.stack := by
  unfold Cursor.pop
  split
  · rename_i hstack
    rw [hstack] at h
    exact h.2
  · exact h

theorem pops : ∀ (ms : List Move), ms.all (· matches .pop) = true →
    ∀ c : Cursor, YamlStack c.stack → YamlStack (applyMoves c ms).stack
  | [], _, _, hc => hc
  | m :: ms, hms, c, hc => by
    simp only [List.all_cons, Bool.and_eq_true] at hms
    cases m with
    | pop => exact pops ms hms.2 c.pop hc.pop
    | _ => simp at hms

/-- **Moves that fit keep a YAML stack.** A pop leaves the stack below, and each state entered
is entered on the one before. -/
theorem applyMoves : ∀ (ms : List Move) (c : Cursor), YamlStack c.stack →
    yamlMovesFit c.top ms = true → YamlStack (Highlight.applyMoves c ms).stack
  | [], _, hc, _ => hc
  | .pop :: ms, c, hc, hfit => pops (.pop :: ms) (by simpa [yamlMovesFit] using hfit) c hc
  | .enter s :: ms, c, hc, hfit => by
    simp only [yamlMovesFit, Bool.and_eq_true, List.contains_iff_mem] at hfit
    obtain ⟨top, rest, hstack⟩ := List.exists_cons_of_ne_nil hc.ne_nil
    have htop : c.top = top := by simp [Cursor.top, hstack]
    rw [htop] at hfit
    have henter : YamlStack (c.enter s).stack := by
      simp only [Cursor.enter, hstack]
      exact ⟨hfit.1, hstack ▸ hc⟩
    exact applyMoves ms (c.enter s) henter (by simpa [Cursor.enter, Cursor.top] using hfit.2)
  | .push :: _, _, _, hfit => by simp [yamlMovesFit] at hfit
  | .combined _ :: _, _, _, hfit => by simp [yamlMovesFit] at hfit
  | .cut _ :: _, _, _, hfit => by simp [yamlMovesFit] at hfit

/-- **Dropping two states leaves a stack.** Under a block scalar stand the block line and
`root`, and under the next line of a plain scalar the plain scalar and the block line. -/
theorem drop_two {s : String} {rest : List String} (h : YamlStack (s :: rest))
    (hs : yamlDrops s = true) : YamlStack ((s :: rest).drop 2) := by
  have hs' : s = "block-scalar-content" ∨ s = "plain-scalar-in-block-context-new-line" := by
    simpa [yamlDrops] using hs
  match rest, h with
  | [], h =>
    simp only [YamlStack] at h
    rcases hs' with rfl | rfl <;> simp at h
  | [below], h =>
    obtain ⟨hbelow, hroot⟩ := h
    simp only [YamlStack] at hroot
    subst hroot
    rcases hs' with rfl | rfl <;> exact absurd hbelow (by decide)
  | _ :: below :: rest, h => exact h.2.2

end YamlStack

/-! ## The ready grammar -/

/-- How deep the includes of a YAML state go: a flow sequence or mapping includes the flow
collection, which, like the block line and the quoted scalars, includes states that include
nothing. -/
def yamlRank (s : String) : Nat :=
  if s = "flow-sequence" ∨ s = "flow-mapping" then 2
  else if s ∈ ["block-line", "flow-collection", "single-quoted-scalar", "double-quoted-scalar"]
  then 1 else 0

theorem yamlGrammar_states : mergeLayers yamlGrammar.layers = yamlStates := by rfl

theorem yamlStates_ranked : Grammar.Ranked yamlStates yamlRank := by
  have hincludes : yamlStates.all (fun d => d.2.all (Rule.includesBelow yamlRank (yamlRank d.1))) =
      true := by decide
  have huncombined : yamlStates.all (fun d => d.2.all fun r =>
      r.moves.all fun m => !m.isCombined) = true := by decide
  refine ⟨fun d hd other hother => ?_, fun d hd r hr names hnames => ?_⟩
  · simpa [Rule.includesBelow] using List.all_eq_true.mp (List.all_eq_true.mp hincludes d hd) _ hother
  · simpa [Move.isCombined] using
      List.all_eq_true.mp (List.all_eq_true.mp (List.all_eq_true.mp huncombined d hd) r hr) _ hnames

theorem yamlGrammar_compiles : ∃ t, yamlGrammar.compile = .ok t := by
  have hok : yamlGrammar.compile.isOk = true := by decide +kernel
  cases hc : yamlGrammar.compile with
  | error e => simp [hc, Except.isOk, Except.toBool] at hok
  | ok t => exact ⟨t, rfl⟩

attribute [local simp] YamlActs.token yamlSomething_acts yamlResetIndent_acts yamlSaveIndent_acts
  yamlSetIndent_acts yamlSetBlockScalarIndent_acts yamlBlockScalarEmptyLine_acts
  yamlBlockScalarIndent_acts yamlPlainScalarIndent_acts

/-- Every action YAML writes keeps the levels nested, and drops the two top states only in a
block scalar or on the next line of a plain scalar; a state includes only states that drop as
it does. -/
theorem yamlStates_act : ∀ d ∈ yamlStates,
    (∀ r ∈ d.2, ∀ r' ∈ r.flat (fun _ => []), ∀ a, r'.action? = some a → YamlActs (yamlDrops d.1) a) ∧
      ∀ other, Rule.include other ∈ d.2 → yamlDrops other = yamlDrops d.1 := by
  simp +decide [yamlStates, Rule.tok, Rule.tokGo, Rule.rx, Rule.flat, Rule.action?, Action.kinds,
    YamlActs.groups, yamlDrops]

theorem yamlTops_defined : ∀ s ∈ yamlTops, (yamlStates.lookup s).isSome = true := by decide

theorem yamlTops_moves_fit : ∀ s ∈ yamlTops,
    ∀ r ∈ flatRules yamlStates (yamlRank s) ((yamlStates.lookup s).getD []),
      yamlMovesFit s r.moves = true ∧ (yamlDrops s = true → r.moves.all (· matches .pop) = true) := by
  decide

/-- **The rules of the ready YAML grammar fit.** With a state of `yamlTops` on top, every rule
of the ready grammar has moves that fit, pops only where the state may drop two states, and an
action that `YamlActs` allows there. -/
theorem yamlTable_fits {t : Table} (h : yamlGrammar.compile = .ok t) {s : String}
    (hs : s ∈ yamlTops) : ∀ e ∈ t.rules s, yamlMovesFit s e.moves = true ∧
      (yamlDrops s = true → e.moves.all (· matches .pop) = true) ∧
        ∀ a, e.action = some a → YamlActs (yamlDrops s) a := by
  intro e he
  obtain ⟨items, hitems⟩ := Option.isSome_iff_exists.mp (yamlTops_defined s hs)
  have hlookup : (mergeLayers yamlGrammar.layers).lookup s = some items := by
    rw [yamlGrammar_states]
    exact hitems
  have hranked : Grammar.Ranked (mergeLayers yamlGrammar.layers) yamlRank := by
    rw [yamlGrammar_states]
    exact yamlStates_ranked
  obtain ⟨r, hr, haction, hmoves⟩ := Grammar.compile_rules_flat hranked h hlookup e he
  rw [yamlGrammar_states] at hr
  obtain ⟨hfit, hpops⟩ := yamlTops_moves_fit s hs r (by simpa [hitems] using hr)
  refine ⟨hmoves ▸ hfit, hmoves ▸ hpops, fun a ha => ?_⟩
  rw [← haction] at ha
  have hdef : (s, items) ∈ yamlStates := mem_of_lookup_eq_some hitems
  -- the includes reach only states that drop as `s` does, so their rules act as its own
  have hclosed : ∀ d ∈ yamlStates, yamlDrops d.1 = yamlDrops s →
      (∀ r ∈ d.2, ∀ r' ∈ r.flat (fun _ => []), ∀ a, r'.action? = some a → YamlActs (yamlDrops s) a) ∧
        ∀ other, Rule.include other ∈ d.2 → yamlDrops other = yamlDrops s := fun d hd hds => by
    obtain ⟨hown, hinner⟩ := yamlStates_act d hd
    exact ⟨hds ▸ hown, fun other ho => (hinner other ho).trans hds⟩
  obtain ⟨hown, hinner⟩ := hclosed _ hdef rfl
  exact flatRules_forall hclosed _ items hown hinner r hr a ha

/-! ## Runs -/

/-- The context of a cursor of a YAML run: a YAML stack, and nested levels. -/
structure YamlContext (c : Cursor) : Prop where
  stack : YamlStack c.stack
  levels : (YamlIndent.load c).Nested

variable {t : Table} {env : Env} {text : Array Char}

/-- **One pass keeps the context of a YAML run.** The rule that matches is a rule of the state
on top, so it fits; a newline leaves `root` alone, and any other character the stack as it
was. -/
theorem yamlStep_keeps (ht : yamlGrammar.compile = .ok t) {c c' : Cursor} {ts : List Token}
    (hc : YamlContext c) (h : t.step env text c = .next ts c') : YamlContext c' := by
  simp only [Table.step] at h
  split at h
  · cases h
  · cases h
  · rename_i top rest _ hstack
    split at h
    · cases h
    · rename_i rules hrules
      split at h
      · rename_i entry found hfirst
        have hentry : entry ∈ t.rules top := by
          rw [Table.rules_of_getElem? hrules]
          exact (firstMatch_some hfirst).1
        have htop : top ∈ yamlTops := YamlStack.top_mem (hstack ▸ hc.stack)
        obtain ⟨hfit, hpops, hacts⟩ := yamlTable_fits ht htop entry hentry
        have hext : t.extended = true := Grammar.compile_extended ht
        have hctop : c.top = top := by simp [Cursor.top, hstack]
        cases haction : entry.action with
        | none =>
          simp only [haction, hext, if_true, Table.Pass.next.injEq] at h
          obtain ⟨-, rfl⟩ := h
          exact ⟨YamlStack.applyMoves _ c hc.stack (hctop ▸ hfit), by simpa using hc.levels⟩
        | some a =>
          simp only [haction, hext, if_true, Table.Pass.next.injEq] at h
          obtain ⟨-, rfl⟩ := h
          have ha := hacts a haction
          refine ⟨?_, by simpa using ha.levels env actionDepth ⟨text, found⟩ c hc.levels⟩
          rcases ha.stack env actionDepth ⟨text, found⟩ c with hsame | ⟨hdrops, hdropped⟩
          · -- the stack as it was, with the same state on top
            have hafter : (applyAction env actionDepth a ⟨text, found⟩ c).2.top = top := by
              simp [Cursor.top, hsame, hstack]
            exact YamlStack.applyMoves _ _ (hsame ▸ hc.stack) (hafter ▸ hfit)
          · -- two states dropped: the stack below, then pops
            have hbelow := YamlStack.drop_two (hstack ▸ hc.stack) hdrops
            rw [← hstack, ← hdropped] at hbelow
            exact YamlStack.pops _ (hpops hdrops) _ hbelow
      · -- no rule matches: one character, and a newline resets the stack to `root`
        split at h
        · cases h
        · split at h
          · cases h
          · split at h
            · simp only [Table.Pass.next.injEq] at h
              obtain ⟨-, rfl⟩ := h
              exact ⟨YamlStack.root, hc.levels⟩
            · simp only [Table.Pass.next.injEq] at h
              obtain ⟨-, rfl⟩ := h
              exact ⟨hc.stack, hc.levels⟩

/-- **Every run keeps the context of YAML.** The induction is on the number of passes; a pass
that breaks off leaves the stack and the memory as they were. -/
theorem yamlLoop_keeps (ht : yamlGrammar.compile = .ok t) :
    ∀ (n : Nat) (c : Cursor) (acc : List Token), YamlContext c →
      YamlContext (t.loop env text n c acc).2
  | 0, _, _, hc => hc
  | n + 1, c, acc, hc => by
    simp only [Table.loop]
    cases hstep : t.step env text c with
    | finished => exact hc
    | broken f => exact ⟨hc.stack, hc.levels⟩
    | next ts c' => exact yamlLoop_keeps ht n c' _ (yamlStep_keeps ht hc hstep)

/-! ## Indentation comes back whole -/

theorem sliceChars_split (v : List Char) (a : Int) :
    sliceChars v 0 a ++ sliceChars v a v.length = v := by
  -- `a` falls at some `k` within the text, `0` and the length at its two ends
  obtain ⟨k, hk, hka⟩ : ∃ k ≤ v.length,
      (if a < 0 then max 0 (a + (v.length : Int)) else min a v.length).toNat = k :=
    ⟨_, by split <;> omega, rfl⟩
  simp only [sliceChars, hka, Int.lt_irrefl, if_false, Int.natCast_nonneg, Int.not_lt.mpr]
  rw [show (min (0 : Int) v.length).toNat = 0 by omega,
    show (min (v.length : Int) v.length).toNat = v.length by omega, Nat.sub_zero, List.drop_zero,
    List.take_of_length_le (by simp : (List.drop k v).length ≤ v.length - k),
    List.take_append_drop]

theorem join_pieces (a b : String) (i j : Nat) (k k' : TokenKind) :
    String.join (((if a.isEmpty then [] else [⟨i, k, a⟩]) ++
      (if b.isEmpty then [] else [⟨j, k', b⟩]) : List Token).map (·.text)) = a ++ b := by
  by_cases ha : a.isEmpty <;> by_cases hb : b.isEmpty <;>
    simp_all [String.isEmpty_iff]

/-- **Indentation comes back whole.** The tokens `yamlSaveIndent` gives, the indentation up to
the level it went out to and an error for the rest, spell its match. -/
theorem yamlSaveIndent_spells (k : TokenKind) (start : Bool) (env : Env) (h : Hit) (c : Cursor) :
    String.join ((yamlSaveIndent k start env h c).1.map (·.text)) = h.whole := by
  unfold yamlSaveIndent
  cases start
  · simp only [Bool.false_eq_true, if_false]
    rw [join_pieces, String.append_empty]
  · simp only [if_true]
    split
    · split
      · rw [join_pieces, sliceText, sliceText, ← String.ofList_append, ← String.length_toList,
          sliceChars_split, String.ofList_toList]
      · rw [join_pieces, String.append_empty]
    · rw [join_pieces, String.append_empty]

/-! ## The context of a YAML run -/

/-- **The context of a YAML run stays well formed.** The grammar is ready, and at every point
of a run from `root` with no levels the levels nest, going out to a line's indentation finds a
level around while it goes out, the stack ends in `root`, and more than two states stand under
one whose action drops two. The tokens `yamlSaveIndent` gives spell its match. -/
theorem yaml_context_well_formed :
    ∃ t, yamlGrammar.compile = .ok t ∧
      (∀ (env : Env) (text : Array Char) (pos stop : Nat) (shared : Shared) (n : Nat),
        let c := (t.loop env text n ⟨pos, ["root"], stop, [], shared⟩ []).2
        let y := YamlIndent.load c
        y.levels.Pairwise (· < ·) ∧ y.levels.head? = some (-1) ∧
          (y.outer = [] ↔ y.current = -1) ∧
          (∀ (s : String) (j : Nat),
            let y' := YamlIndent.dedent j { y with next := levelOf s }
            y'.next < y'.current → y'.outer ≠ []) ∧
          c.stack.getLast? = some "root" ∧
          (c.top = "block-scalar-content" ∨ c.top = "plain-scalar-in-block-context-new-line" →
            c.stack.drop 2 ≠ [])) ∧
      ∀ (k : TokenKind) (start : Bool) (env : Env) (h : Hit) (c : Cursor),
        String.join ((yamlSaveIndent k start env h c).1.map (·.text)) = h.whole := by
  obtain ⟨t, ht⟩ := yamlGrammar_compiles
  refine ⟨t, ht, fun env text pos stop shared n => ?_, yamlSaveIndent_spells⟩
  -- a run starts from `root` with no levels, a context that every pass keeps
  have hrun : YamlContext (t.loop env text n ⟨pos, ["root"], stop, [], shared⟩ []).2 :=
    yamlLoop_keeps ht n _ [] ⟨YamlStack.root, YamlIndent.nested_of_outer_nil rfl rfl⟩
  dsimp only
  generalize (t.loop env text n ⟨pos, ["root"], stop, [], shared⟩ []).2 = c at hrun ⊢
  obtain ⟨hstack, hy⟩ := hrun
  refine ⟨hy.increasing, hy.outermost, hy.outer_eq_nil_iff, fun s j hlt => ?_,
    hstack.getLast?, fun htop => ?_⟩
  · -- going out keeps the levels nested, and the next level, the indentation's length
    have hnext : 0 ≤ (YamlIndent.dedent j { YamlIndent.load c with next := levelOf s }).next := by
      rw [YamlIndent.dedent_next]
      exact Int.natCast_nonneg _
    have hy' : ({ YamlIndent.load c with next := levelOf s } : YamlIndent).Nested := hy.congr rfl
    exact (hy'.dedent j).outer_ne_nil hnext hlt
  · obtain ⟨s, rest, hsr⟩ := List.exists_cons_of_ne_nil hstack.ne_nil
    rw [hsr] at hstack ⊢
    have hs : yamlDrops s = true := by simpa [Cursor.top, hsr, yamlDrops] using htop
    exact (hstack.drop_two hs).ne_nil

end Highlight.Lexers
