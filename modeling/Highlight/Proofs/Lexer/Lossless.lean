import Highlight.Lexer.Engine
import Highlight.Proofs.Lexer.Insertions
import Highlight.Proofs.Pattern.Search

/-!
# A grammar's tokens spell its text

A grammar loses nothing when each of its rules turns every match into tokens that stand one
after another and spell the match (`Entry.Spells`): a rule with no action matches only the
empty text; an action of one kind spells the match; a language lexed from an action lexes
every text exactly (`Env.LexesExactly`); and a group action keeps groups that tile every
match, each starting where the one before it ends (`Tiles`), with parts that spell their
groups.

For such a grammar every pass of the loop spells the text from where it starts to where it
leaves the cursor (`Table.step_spells`), so after any number of passes the tokens have exact
offsets from where lexing started and spell the text up to the cursor
(`Table.loop_spells`); when lexing is over, the cursor stands at the end of the text and the
tokens spell all of it (`Table.loop_tokens_spell_text`).

The groups must tile the match in their own order: groups that cover each character once but
out of order make tokens out of order (`lookaheadGroups_tokens_out_of_order`).
-/

set_option autoImplicit false

namespace Highlight

open Token Pattern

/-! ## Tokens that spell a piece of a text -/

/-- Tokens that stand one after another from offset `a` and spell the characters of `text`
from `a` to `b`. -/
def Token.Spell (text : Array Char) (a b : Nat) (ts : List Token) : Prop :=
  ExactFrom a ts ∧ chars ts = (text.extract a b).toList

theorem length_extract_toList {text : Array Char} {a b : Nat} (hb : b ≤ text.size) :
    (text.extract a b).toList.length = b - a := by
  simp only [Array.length_toList, Array.size_extract]
  omega

theorem extract_toList_append {text : Array Char} {a b c : Nat} (hab : a ≤ b) (hbc : b ≤ c) :
    (text.extract a b).toList ++ (text.extract b c).toList = (text.extract a c).toList := by
  rw [← Array.toList_append, Array.extract_append_extract, Nat.min_eq_left hab,
    Nat.max_eq_right hbc]

theorem extract_succ_toList {text : Array Char} {i : Nat} {ch : Char} (h : text[i]? = some ch) :
    (text.extract i (i + 1)).toList = [ch] := by
  have hi : i < text.size := by
    rcases Nat.lt_or_ge i text.size with hi | hi
    · exact hi
    · simp [Array.getElem?_eq_none hi] at h
  have hl : text.toList[i]? = some ch := by simpa using h
  rw [Array.toList_extract, List.extract_eq_take_drop, Nat.add_sub_cancel_left,
    List.drop_eq_getElem_cons (by simpa using hi)]
  simp_all

namespace Token.Spell

variable {text : Array Char}

theorem nil (a : Nat) : Spell text a a [] := ⟨trivial, by simp⟩

theorem append {a b c : Nat} {xs ys : List Token} (hab : a ≤ b) (hbc : b ≤ c)
    (hc : c ≤ text.size) (hx : Spell text a b xs) (hy : Spell text b c ys) :
    Spell text a c (xs ++ ys) := by
  have hlen : (chars xs).length = b - a := by
    rw [hx.2, length_extract_toList (Nat.le_trans hbc hc)]
  refine ⟨exactFrom_append.mpr ⟨hx.1, ?_⟩, ?_⟩
  · rw [hlen, Nat.add_sub_cancel' hab]
    exact hy.1
  · rw [chars_append, hx.2, hy.2, extract_toList_append hab hbc]

theorem single (k : TokenKind) (a b : Nat) :
    Spell text a b [⟨a, k, String.ofList (text.extract a b).toList⟩] := by
  simp [Spell, chars]

end Token.Spell

theorem exactFrom_map_shift (k : Nat) :
    ∀ (n : Nat) (ts : List Token), ExactFrom n ts → ExactFrom (n + k) (ts.map (·.shift k))
  | _, [], _ => trivial
  | n, t :: ts, ⟨hstart, hrest⟩ => by
    refine ⟨by simp [Token.shift, hstart, Nat.add_comm], ?_⟩
    have := exactFrom_map_shift k (n + t.text.length) ts hrest
    simpa [Token.shift, Nat.add_right_comm] using this

@[simp] theorem chars_map_shift (k : Nat) (ts : List Token) :
    chars (ts.map (·.shift k)) = chars ts := by
  simp [chars, Token.shift, List.flatMap_map]

/-! ## Rules that spell their matches -/

/-- The spans of the groups that a group action makes tokens of, for its parts from group `i`
on: the spans of the groups that have an action and took part in the match, in the order of
the groups. -/
def keptSpans (f : Found) : Nat → List (Option Action) → List (Nat × Nat)
  | _, [] => []
  | i, none :: parts => keptSpans f (i + 1) parts
  | i, some _ :: parts => (f.span? i).toList ++ keptSpans f (i + 1) parts

/-- Spans that follow one another from `a` to `b`, each starting where the one before it
ends. -/
def Tiles : Nat → Nat → List (Nat × Nat) → Prop
  | a, b, [] => a = b
  | a, b, (x, y) :: rest => x = a ∧ x ≤ y ∧ Tiles y b rest

/-- The kept groups of a group action cover every character of a match exactly once, in any
order. -/
def CoversOnce (f : Found) (parts : List (Option Action)) : Prop :=
  ((keptSpans f 1 parts).flatMap fun s => List.range' s.1 (s.2 - s.1)).Perm
    (List.range' f.start (f.stop - f.start))

theorem Tiles.le : ∀ {a b : Nat} {spans : List (Nat × Nat)}, Tiles a b spans → a ≤ b
  | _, _, [], h => Nat.le_of_eq h
  | _, _, (_, _) :: _, ⟨rfl, hxy, hrest⟩ => Nat.le_trans hxy hrest.le

/-- A language lexes exactly from a start stack: whatever the options and the shared memory,
its tokens of a text have exact offsets from 0 and spell the text. -/
def Env.LexesExactly (env : Env) (language : Option String) (stack : Option (List String)) :
    Prop :=
  ∀ opts text m, ExactFrom 0 (env.sublex language opts stack text m).1 ∧
    concat (env.sublex language opts stack text m).1 = text

/-- An action that makes the whole text of a match into tokens that spell it: one token of a
kind, or the text lexed by a language that lexes exactly. -/
def Action.SpellsWhole (env : Env) : Action → Prop
  | .token _ => True
  | .lexWith _ language stack _ => env.LexesExactly language stack
  | .groups _ => False
  | .call _ => False

/-- An action whose tokens spell every match of pattern `p`: an action that spells a whole
match, or a group action whose parts spell their groups and whose kept groups tile every
match of `p`. -/
def Action.Spells (env : Env) (p : Compiled) : Action → Prop
  | .token _ => True
  | .lexWith _ language stack _ => env.LexesExactly language stack
  | .groups parts => (∀ a, some a ∈ parts → a.SpellsWhole env) ∧
      ∀ text pos stop f, p.matchAt text pos stop = some f →
        Tiles f.start f.stop (keptSpans f 1 parts)
  | .call _ => False

/-- A rule whose tokens spell every match of its pattern; a rule with no action matches only
the empty text. -/
def Entry.Spells (env : Env) (e : Entry) : Prop :=
  match e.action with
  | none => ∀ text pos stop f, e.pattern.matchAt text pos stop = some f → f.stop = f.start
  | some a => a.Spells env e.pattern

/-- A grammar all of whose rules spell their matches. -/
def Table.Spells (env : Env) (t : Table) : Prop :=
  ∀ state, ∀ e ∈ t.rules state, e.Spells env

/-! ## Actions -/

section Actions

variable {env : Env}

theorem applyAction_spellsWhole {a : Action} (ha : a.SpellsWhole env) (depth : Nat) (h : Hit)
    (c : Cursor) :
    Spell h.text h.start h.stop (applyAction env (depth + 1) a h c).1 ∧
      (applyAction env (depth + 1) a h c).2.pos = h.stop ∧
      (applyAction env (depth + 1) a h c).2.stop = c.stop := by
  cases a with
  | token k => exact ⟨Spell.single k _ _, rfl, rfl⟩
  | lexWith site language stack options =>
    -- the site picks the options; the language lexes exactly whatever they are
    rcases hsite : env.usingOptions c site language stack options with ⟨opts, c'⟩
    have hstop : c'.stop = c.stop := by
      simpa [hsite] using Env.usingOptions_stop env c site language stack options
    obtain ⟨hexact, hconcat⟩ := ha opts h.whole c'.shared
    refine ⟨⟨?_, ?_⟩, rfl, ?_⟩
    · simp only [applyAction, hsite, Env.sublexAt]
      simpa using exactFrom_map_shift h.start 0 _ hexact
    · simp only [applyAction, hsite, Env.sublexAt, chars_map_shift]
      rw [← toList_concat, hconcat, Hit.whole, Hit.slice, String.toList_ofList]
      rfl
    · simp only [applyAction, hsite, Env.sublexAt]
      exact hstop
  | groups _ => exact absurd ha id
  | call _ => exact absurd ha id

/-- The parts of a group action whose kept groups tile the text from `a` to `b` spell it, and
leave the stop of the cursor as it was. The induction is on the parts; a part whose group did
not take part in the match makes no token. -/
theorem groupTokens_spell (depth : Nat) (h : Hit) :
    ∀ (parts : List (Option Action)) (i a b : Nat) (c : Cursor),
      (∀ x, some x ∈ parts → x.SpellsWhole env) → b ≤ h.text.size →
        Tiles a b (keptSpans h.found i parts) →
        Spell h.text a b (groupTokens env h (applyAction env (depth + 1)) i parts c).1 ∧
          (groupTokens env h (applyAction env (depth + 1)) i parts c).2.stop = c.stop
  | [], i, a, b, c, _, _, htiles => by
    have hab : a = b := htiles
    subst hab
    exact ⟨Spell.nil a, rfl⟩
  | none :: parts, i, a, b, c, hparts, hb, htiles => by
    have ih := groupTokens_spell depth h parts (i + 1) a b c
      (fun x hx => hparts x (List.mem_cons_of_mem _ hx)) hb htiles
    simpa [groupTokens] using ih
  | some x :: parts, i, a, b, c, hparts, hb, htiles => by
    have hx : x.SpellsWhole env := hparts x List.mem_cons_self
    have hrest : ∀ y, some y ∈ parts → y.SpellsWhole env :=
      fun y hy => hparts y (List.mem_cons_of_mem _ hy)
    simp only [keptSpans] at htiles
    cases hspan : h.found.span? i with
    | none =>
      -- the group did not take part: no token, and the rest tiles the same piece
      rw [hspan, Option.toList_none, List.nil_append] at htiles
      have ih := groupTokens_spell depth h parts (i + 1) a b c hrest hb htiles
      cases x with
      | token k => simpa [groupTokens, Hit.span?, hspan] using ih
      | lexWith site language stack options =>
        simpa [groupTokens, Hit.part?, Hit.span?, hspan] using ih
      | groups _ => exact absurd hx id
      | call _ => exact absurd hx id
    | some span =>
      obtain ⟨x₀, y₀⟩ := span
      rw [hspan, Option.toList_some, List.singleton_append] at htiles
      obtain ⟨rfl, hxy, htiles⟩ := htiles
      have hyb : y₀ ≤ b := htiles.le
      -- the group spells its own span, and the rest tiles from where it ends
      cases x with
      | token k =>
        have ih := groupTokens_spell depth h parts (i + 1) y₀ b c hrest hb htiles
        by_cases hlt : x₀ < y₀
        · simp only [groupTokens, Hit.span?, hspan, hlt, if_true]
          exact ⟨(Spell.single k x₀ y₀).append hxy hyb hb ih.1, ih.2⟩
        · have hxy' : x₀ = y₀ := by omega
          subst hxy'
          simpa [groupTokens, Hit.span?, hspan] using ih
      | lexWith site language stack options =>
        have hsub := applyAction_spellsWhole hx depth ⟨h.text, ⟨x₀, y₀, #[], []⟩⟩
          { c with pos := x₀ }
        have ih := groupTokens_spell depth h parts (i + 1) y₀ b
          (applyAction env (depth + 1) (.lexWith site language stack options)
            ⟨h.text, ⟨x₀, y₀, #[], []⟩⟩ { c with pos := x₀ }).2 hrest hb htiles
        simp only [groupTokens, Hit.part?, Hit.span?, hspan, Option.map_some]
        exact ⟨hsub.1.append hxy hyb hb ih.1, ih.2.trans hsub.2.2⟩
      | groups _ => exact absurd hx id
      | call _ => exact absurd hx id

/-- An action that spells every match of its pattern spells the match it is given, from its
start to its end, and leaves the cursor at its end with the stop it had. -/
theorem applyAction_spells {p : Compiled} {a : Action} (ha : a.Spells env p)
    {text : Array Char} {pos stop : Nat} {f : Found} (hf : p.matchAt text pos stop = some f)
    (hsize : f.stop ≤ text.size) (depth : Nat) (c : Cursor) :
    Spell text f.start f.stop (applyAction env (depth + 2) a ⟨text, f⟩ c).1 ∧
      (applyAction env (depth + 2) a ⟨text, f⟩ c).2.pos = f.stop ∧
      (applyAction env (depth + 2) a ⟨text, f⟩ c).2.stop = c.stop := by
  cases a with
  | token k => exact applyAction_spellsWhole (a := .token k) trivial (depth + 1) ⟨text, f⟩ c
  | lexWith site language stack options =>
    exact applyAction_spellsWhole (a := .lexWith site language stack options) ha (depth + 1) ⟨text, f⟩ c
  | groups parts =>
    have hg := groupTokens_spell depth ⟨text, f⟩ parts 1 f.start f.stop c ha.1 hsize
      (ha.2 text pos stop f hf)
    exact ⟨hg.1, rfl, hg.2⟩
  | call _ => exact absurd ha id

end Actions

/-! ## One pass of the loop -/

theorem firstMatch_some {rules : Array Entry} {text : Array Char} {pos stop : Nat} {e : Entry}
    {f : Found} (h : firstMatch rules text pos stop = some (e, f)) :
    e ∈ rules ∧ e.pattern.matchAt text pos stop = some f := by
  obtain ⟨a, ha, hm⟩ := Array.exists_of_findSome?_eq_some h
  cases hma : a.pattern.matchAt text pos stop with
  | none => simp [hma] at hm
  | some f' =>
    simp only [hma, Option.map_some, Option.some.injEq, Prod.mk.injEq] at hm
    obtain ⟨rfl, rfl⟩ := hm
    exact ⟨ha, hma⟩

@[simp] theorem Cursor.pop_pos (c : Cursor) : c.pop.pos = c.pos := by
  unfold Cursor.pop; split <;> rfl

@[simp] theorem Cursor.pop_stop (c : Cursor) : c.pop.stop = c.stop := by
  unfold Cursor.pop; split <;> rfl

@[simp] theorem Cursor.cut_pos (c : Cursor) (n : Int) : (c.cut n).pos = c.pos := by
  simp only [Cursor.cut]; split
  · rfl
  · split <;> rfl

@[simp] theorem Cursor.cut_stop (c : Cursor) (n : Int) : (c.cut n).stop = c.stop := by
  simp only [Cursor.cut]; split
  · rfl
  · split <;> rfl

theorem applyMoves_pos_stop (ms : List Move) :
    ∀ c : Cursor, (applyMoves c ms).pos = c.pos ∧ (applyMoves c ms).stop = c.stop := by
  induction ms with
  | nil => intro c; exact ⟨rfl, rfl⟩
  | cons m ms ih =>
    intro c
    cases m with
    | pop => simpa [applyMoves] using ih c.pop
    | push => simpa [applyMoves, Cursor.enter] using ih (c.enter c.top)
    | enter s => simpa [applyMoves, Cursor.enter] using ih (c.enter s)
    | combined _ => simpa [applyMoves] using ih c
    | cut n => simpa [applyMoves] using ih (c.cut n)

@[simp] theorem applyMoves_pos (c : Cursor) (ms : List Move) : (applyMoves c ms).pos = c.pos :=
  (applyMoves_pos_stop ms c).1

@[simp] theorem applyMoves_stop (c : Cursor) (ms : List Move) :
    (applyMoves c ms).stop = c.stop :=
  (applyMoves_pos_stop ms c).2

namespace Table

variable {env : Env} {t : Table} {text : Array Char}

theorem rules_of_getElem? {state : String} {rules : Array Entry}
    (h : t.states[state]? = some rules) : t.rules state = rules := by
  simp [Table.rules, Std.HashMap.getD_eq_getD_getElem?, h]

/-- **One pass spells the text it reads.** For a grammar whose rules spell their matches, a
pass from a cursor inside the text makes tokens that stand one after another from the
cursor and spell the text up to where it leaves the cursor, which is still inside the text;
an extended grammar keeps the text's end as its stop. -/
theorem step_spells (ht : t.Spells env) {c : Cursor} {ts : List Token} {c' : Cursor}
    (hpos : c.pos ≤ text.size) (hstop : t.extended = true → c.stop = text.size)
    (h : t.step env text c = .next ts c') :
    Spell text c.pos c'.pos ts ∧ c.pos ≤ c'.pos ∧ c'.pos ≤ text.size ∧
      (t.extended = true → c'.stop = text.size) := by
  simp only [step] at h
  split at h
  · cases h
  · cases h
  · rename_i top rest _ hstack
    split at h
    · cases h
    · rename_i rules hrules
      split at h
      · -- a rule matches: its tokens spell the match, and the moves keep offset and stop
        rename_i entry found hfirst
        have hlim : (if t.extended = true then c.stop else text.size) = text.size := by
          split
          · exact hstop ‹_›
          · rfl
        obtain ⟨hmem, hm⟩ := firstMatch_some hfirst
        rw [hlim] at hm
        have hstart : found.start = c.pos := Compiled.matchAt_start hm
        have hle : found.start ≤ found.stop := Compiled.matchAt_le hm
        have hsize : found.stop ≤ text.size := Compiled.matchAt_stop_le hpos hm
        have hentry : entry.Spells env := ht top entry (by rw [rules_of_getElem? hrules]; exact hmem)
        unfold Entry.Spells at hentry
        cases haction : entry.action with
        | none =>
          -- a rule with no action: an empty match, no token, the cursor stays
          rw [haction] at hentry
          have hempty : found.stop = c.pos := (hentry text c.pos text.size found hm).trans hstart
          simp only [haction, Pass.next.injEq] at h
          obtain ⟨rfl, rfl⟩ := h
          simp only [applyMoves_pos, applyMoves_stop]
          by_cases hext : t.extended = true
          · simp only [hext, if_true]
            exact ⟨Spell.nil c.pos, Nat.le_refl _, hpos, fun _ => hstop hext⟩
          · simp only [hext, if_false, Bool.false_eq_true, false_implies, and_true, hempty]
            exact ⟨Spell.nil c.pos, Nat.le_refl _, hpos⟩
        | some a =>
          -- the action's tokens spell the match, and the cursor goes to its end
          rw [haction] at hentry
          have ha := applyAction_spells hentry hm hsize 14 c
          rw [hstart] at ha
          rw [show actionDepth = 14 + 2 from rfl] at h
          simp only [haction, Pass.next.injEq] at h
          obtain ⟨rfl, rfl⟩ := h
          simp only [applyMoves_pos, applyMoves_stop]
          by_cases hext : t.extended = true
          · simp only [hext, if_true, ha.2.1, ha.2.2]
            exact ⟨ha.1, hstart ▸ hle, hsize, fun _ => hstop hext⟩
          · simp only [hext, if_false, Bool.false_eq_true, false_implies, and_true]
            exact ⟨ha.1, hstart ▸ hle, hsize⟩
      · -- no rule matches: the character there is a token on its own
        split at h
        · cases h
        · split at h
          · cases h
          · rename_i ch hch
            have hlt : c.pos < text.size := by
              rcases Nat.lt_or_ge c.pos text.size with hlt | hge
              · exact hlt
              · simp [Array.getElem?_eq_none hge] at hch
            have hone := extract_succ_toList hch
            split at h
            · rename_i hnl
              simp only [Pass.next.injEq] at h
              obtain ⟨rfl, rfl⟩ := h
              have hch' : ch = '\n' := by simpa using hnl
              refine ⟨⟨⟨rfl, trivial⟩, ?_⟩, Nat.le_succ _, hlt, hstop⟩
              rw [hone]; simp [chars, hch']
            · simp only [Pass.next.injEq] at h
              obtain ⟨rfl, rfl⟩ := h
              refine ⟨⟨⟨rfl, trivial⟩, ?_⟩, Nat.le_succ _, hlt, hstop⟩
              rw [hone]; simp [chars]

theorem step_finished {c : Cursor} (hstop : t.extended = true → c.stop = text.size)
    (h : t.step env text c = .finished) : text.size ≤ c.pos := by
  simp only [step] at h
  split at h
  · cases h
  · cases h
  · split at h
    · cases h
    · split at h
      · cases h
      · split at h
        · rename_i hend
          simp only [Bool.and_eq_true, decide_eq_true_eq] at hend
          rw [← hstop hend.1]
          exact hend.2
        · split at h
          · rename_i hnone
            rcases Nat.lt_or_ge c.pos text.size with hlt | hge
            · simp [Array.getElem?_eq_getElem hlt] at hnone
            · exact hge
          · split at h <;> cases h

theorem loop_append_acc : ∀ (n : Nat) (c : Cursor) (acc : List Token),
    t.loop env text n c acc = ((t.loop env text n c []).1 ++ acc, (t.loop env text n c []).2)
  | 0, _, _ => rfl
  | n + 1, c, acc => by
    simp only [loop]
    cases t.step env text c with
    | finished => rfl
    | broken f => rfl
    | next ts c' =>
      simp only [List.append_nil]
      rw [loop_append_acc n c' (ts.reverse ++ acc), loop_append_acc n c' ts.reverse,
        List.append_assoc]

@[simp] theorem Cursor.breakOff_pos (c : Cursor) (f : Fault) : (c.breakOff f).pos = c.pos := rfl

@[simp] theorem Cursor.breakOff_stop (c : Cursor) (f : Fault) : (c.breakOff f).stop = c.stop :=
  rfl

/-- **Every run of passes spells the text it reads.** For a grammar whose rules spell their
matches, the tokens of any number of passes from a cursor inside the text stand one after
another from the cursor and spell the text up to where the passes leave the cursor, still
inside the text. The induction is on the number of passes, each one spelling the piece after
the pieces before it (`step_spells`). -/
theorem loop_spells (ht : t.Spells env) : ∀ (n : Nat) (c : Cursor),
    c.pos ≤ text.size → (t.extended = true → c.stop = text.size) →
      Spell text c.pos (t.loop env text n c []).2.pos (t.loop env text n c []).1.reverse ∧
        c.pos ≤ (t.loop env text n c []).2.pos ∧ (t.loop env text n c []).2.pos ≤ text.size ∧
        (t.extended = true → (t.loop env text n c []).2.stop = text.size)
  | 0, c, hpos, hstop => ⟨Spell.nil c.pos, Nat.le_refl _, hpos, hstop⟩
  | n + 1, c, hpos, hstop => by
    simp only [loop]
    cases hstep : t.step env text c with
    | finished => exact ⟨Spell.nil c.pos, Nat.le_refl _, hpos, hstop⟩
    | broken f => exact ⟨Spell.nil c.pos, Nat.le_refl _, hpos, hstop⟩
    | next ts c' =>
      obtain ⟨hts, hle, hpos', hstop'⟩ := step_spells ht hpos hstop hstep
      obtain ⟨hrest, hle', hsize, hstop''⟩ := loop_spells ht n c' hpos' hstop'
      simp only [List.append_nil]
      rw [loop_append_acc n c' ts.reverse, List.reverse_append, List.reverse_reverse]
      exact ⟨hts.append hle hle' hsize hrest, Nat.le_trans hle hle', hsize, hstop''⟩

end Table

/-! ## Lexing a text -/

/-- **The tokens of a grammar spell the text.** For a grammar whose rules spell their matches
(`Table.Spells`: every rule's action is a kind, a group action whose kept groups tile every
match in their order, or the text lexed by a language that lexes exactly, and a rule with no
action matches only the empty text), after any number of passes of the loop from the start
of a text, whatever the start stack and the shared memory: the offsets of the tokens are
exact from 0, their texts spell the text up to the cursor, and when lexing is over they spell
the whole text. -/
theorem Table.loop_tokens_spell_text {env : Env} {t : Table} (ht : t.Spells env) (text : String)
    (stack : List String) (shared : Shared) (n : Nat) :
    let r := t.loop env text.toList.toArray n
      { pos := 0, stack := stack.reverse, stop := text.toList.toArray.size, shared } []
    ExactFrom 0 r.1.reverse ∧ concat r.1.reverse = String.ofList (text.toList.take r.2.pos) ∧
      (t.step env text.toList.toArray r.2 = .finished → concat r.1.reverse = text) := by
  intro r
  have hrun : Spell text.toList.toArray 0 r.2.pos r.1.reverse ∧ 0 ≤ r.2.pos ∧
      r.2.pos ≤ text.toList.toArray.size ∧
      (t.extended = true → r.2.stop = text.toList.toArray.size) :=
    Table.loop_spells ht n ⟨0, stack.reverse, text.toList.toArray.size, [], shared⟩
      (Nat.zero_le _) (fun _ => rfl)
  obtain ⟨⟨hexact, hchars⟩, -, hsize, hstop⟩ := hrun
  have hspell : concat r.1.reverse = String.ofList (text.toList.take r.2.pos) := by
    rw [← String.ofList_toList (s := concat r.1.reverse), toList_concat, hchars,
      Array.toList_extract, List.extract_eq_take_drop, List.drop_zero, Nat.sub_zero,
      List.toList_toArray]
  refine ⟨hexact, hspell, fun hover => ?_⟩
  have hend : r.2.pos = text.toList.length := by
    have := Table.step_finished hstop hover
    simp only [List.size_toArray] at hsize this
    omega
  rw [hspell, hend, List.take_length, String.ofList_toList]

/-! ## Two groups in order -/

/-- An environment whose nested lexings make no tokens. -/
def quietEnv : Env := { options := [], sublex := fun _ _ _ _ m => ([], m) }

/-- A name for group 1 and a text for group 2. -/
def nameTextParts : List (Option Action) := [some (.token .name), some (.token .text)]

/-- The pattern `(a)(b)`. -/
def pairPattern : Compiled :=
  ⟨.seq [.group 1 (.seq [.char 'a' false]), .group 2 (.seq [.char 'b' false])], 2, []⟩

/-- A grammar of one state and one rule: `(a)(b)` with the groups as a name and a text. -/
def pairTable : Table :=
  ⟨false, (∅ : Std.HashMap String (Array Entry)).insert "root"
    #[⟨pairPattern, some (.groups nameTextParts), []⟩]⟩

theorem pair_matchAt {text : Array Char} {pos stop : Nat} {f : Found}
    (h : pairPattern.matchAt text pos stop = some f) :
    f.start = pos ∧ f.stop = pos + 2 ∧ f.span? 1 = some (pos, pos + 1) ∧
      f.span? 2 = some (pos + 1, pos + 2) := by
  by_cases hA : (⟨text, stop⟩ : Subject).single? (.char 'a' false) pos = some true
  · by_cases hB : (⟨text, stop⟩ : Subject).single? (.char 'b' false) (pos + 1) = some true
    · simp [Compiled.matchAt, pairPattern, search, matchFuel, hA, hB] at h
      subst h
      refine ⟨rfl, rfl, ?_, ?_⟩ <;> simp [Found.span?, Array.getElem_modify]
    · simp only [Compiled.matchAt, pairPattern] at h
      simp [search, matchFuel, hA, hB, resume] at h
  · simp only [Compiled.matchAt, pairPattern] at h
    simp [search, matchFuel, hA, resume] at h

theorem pairTable_spells (env : Env) : pairTable.Spells env := by
  intro state e he
  have hroot : e = ⟨pairPattern, some (.groups nameTextParts), []⟩ := by
    by_cases hs : state = "root"
    · subst hs
      simpa [Table.rules, pairTable] using he
    · simp [Table.rules, pairTable, Std.HashMap.getD_insert, Ne.symm hs] at he
  subst hroot
  refine ⟨?_, ?_⟩
  · intro a ha
    simp only [nameTextParts, List.mem_cons, Option.some.injEq, List.not_mem_nil, or_false] at ha
    rcases ha with rfl | rfl <;> trivial
  · intro text pos stop f h
    obtain ⟨hstart, hstop, h1, h2⟩ := pair_matchAt h
    simp [Tiles, keptSpans, nameTextParts, hstart, hstop, h1, h2]

/-- On `ab`, after two passes of the loop, the tokens of `(a)(b)` read as a name and a text
have exact offsets and spell the text read. -/
theorem pairTable_tokens_spell_ab :
    pairTable.Spells quietEnv ∧
      let r := pairTable.loop quietEnv "ab".toList.toArray 2
        { pos := 0, stack := ["root"].reverse, stop := "ab".toList.toArray.size, shared := [] } []
      ExactFrom 0 r.1.reverse ∧ concat r.1.reverse = String.ofList ("ab".toList.take r.2.pos) ∧
        (pairTable.step quietEnv "ab".toList.toArray r.2 = .finished → concat r.1.reverse = "ab") :=
  ⟨pairTable_spells quietEnv,
    Table.loop_tokens_spell_text (pairTable_spells quietEnv) "ab" ["root"] [] 2⟩

/-! ## Groups out of order -/

/-- The pattern `(?=a(b))(a)b`: group 1 stands in a look-ahead, after group 2. -/
def lookaheadPattern : Compiled :=
  ⟨.seq [.look false false 0 (.seq [.char 'a' false, .group 1 (.seq [.char 'b' false])]),
    .group 2 (.seq [.char 'a' false]), .char 'b' false], 2, []⟩

/-- A grammar of one state and one rule: `(?=a(b))(a)b` with the groups as a name and a text. -/
def lookaheadTable : Table :=
  ⟨false, (∅ : Std.HashMap String (Array Entry)).insert "root"
    #[⟨lookaheadPattern, some (.groups nameTextParts), []⟩]⟩

theorem lookahead_matchAt_eq {text : Array Char} {pos stop : Nat}
    (hA : (⟨text, stop⟩ : Subject).single? (.char 'a' false) pos = some true)
    (hB : (⟨text, stop⟩ : Subject).single? (.char 'b' false) (pos + 1) = some true) :
    lookaheadPattern.matchAt text pos stop = some ⟨pos, pos + 1 + 1,
      ((Array.replicate 3 none).modify 1 fun _ => some (pos + 1, pos + 1 + 1)).modify 2
        fun _ => some (pos, pos + 1), []⟩ := by
  simp [Compiled.matchAt, lookaheadPattern, search, matchFuel, hA, hB]

theorem lookahead_matchAt {text : Array Char} {pos stop : Nat} {f : Found}
    (h : lookaheadPattern.matchAt text pos stop = some f) :
    f.start = pos ∧ f.stop = pos + 2 ∧ f.span? 1 = some (pos + 1, pos + 2) ∧
      f.span? 2 = some (pos, pos + 1) := by
  by_cases hA : (⟨text, stop⟩ : Subject).single? (.char 'a' false) pos = some true
  · by_cases hB : (⟨text, stop⟩ : Subject).single? (.char 'b' false) (pos + 1) = some true
    · rw [lookahead_matchAt_eq hA hB, Option.some.injEq] at h
      subst h
      refine ⟨rfl, rfl, ?_, ?_⟩ <;> simp [Found.span?, Array.getElem_modify]
    · simp only [Compiled.matchAt, lookaheadPattern] at h
      simp [search, matchFuel, hA, hB, resume] at h
  · simp only [Compiled.matchAt, lookaheadPattern] at h
    simp [search, matchFuel, hA, resume] at h

/-- **Groups that cover a match once, out of order, make tokens out of order.** The rule
`(?=a(b))(a)b` read as a name and a text has two groups, neither inside the other, that
cover every match exactly once; on `ab` its tokens are the `b` at 1 and then the `a` at 0,
so the first offset is not 0 and the texts spell `ba`. -/
theorem lookaheadGroups_tokens_out_of_order :
    Pattern.read "(?=a(b))(a)b" { multiline := true } = .ok lookaheadPattern ∧
      (∀ text pos stop f, lookaheadPattern.matchAt text pos stop = some f →
        CoversOnce f nameTextParts) ∧
      (lookaheadTable.run quietEnv "ab".toList.toArray ["root"] []).1 =
        [⟨1, .name, "b"⟩, ⟨0, .text, "a"⟩] := by
  refine ⟨rfl, ?_, ?_⟩
  · intro text pos stop f h
    obtain ⟨hstart, hstop, h1, h2⟩ := lookahead_matchAt h
    simp only [CoversOnce, nameTextParts, keptSpans, h1, h2, hstart, hstop, Option.toList_some,
      List.singleton_append, List.flatMap_cons, List.flatMap_nil, List.append_nil]
    rw [show pos + 2 - (pos + 1) = 1 by omega, show pos + 1 - pos = 1 by omega,
      show pos + 2 - pos = 2 by omega]
    simp only [List.range', List.cons_append, List.nil_append]
    exact List.Perm.swap pos (pos + 1) []
  · have hm := @lookahead_matchAt_eq "ab".toList.toArray 0 "ab".toList.toArray.size
      (by decide) (by decide)
    -- the first pass reads `ab` whole, the second finds the end
    have hfirst : ∀ env : Env, lookaheadTable.step env "ab".toList.toArray ⟨0, ["root"], 2, [], []⟩ =
        .next [⟨1, .name, "b"⟩, ⟨0, .text, "a"⟩] ⟨2, ["root"], 2, [], []⟩ := by
      intro env
      simp only [Table.step, Shared.fault?_nil, lookaheadTable, Std.HashMap.getElem?_insert_self,
        firstMatch, List.findSome?_toArray, List.findSome?_cons, Bool.false_eq_true, if_false, hm,
        Option.map_some]
      rfl
    have hend : ∀ env : Env,
        lookaheadTable.step env "ab".toList.toArray ⟨2, ["root"], 2, [], []⟩ = .finished := by
      intro env
      simp only [Table.step, Shared.fault?_nil, lookaheadTable, Std.HashMap.getElem?_insert_self]
      rfl
    have hloop : ∀ (env : Env) (n : Nat),
        lookaheadTable.loop env "ab".toList.toArray (n + 2) ⟨0, ["root"], 2, [], []⟩ [] =
          ([⟨0, .text, "a"⟩, ⟨1, .name, "b"⟩], ⟨2, ["root"], 2, [], []⟩) := by
      intro env n
      simp only [Table.loop, hfirst, hend, List.reverse_cons, List.reverse_nil, List.nil_append,
        List.append_nil, List.singleton_append]
    have hsize : "ab".toList.toArray.size = 2 := rfl
    -- one level of nesting is enough: no action of the rule runs the grammar again
    have hnested : ∀ (env : Env) (depth : Nat),
        (lookaheadTable.runNested env depth.succ "ab".toList.toArray ⟨0, ["root"], 2, [], []⟩).1 =
          [⟨1, .name, "b"⟩, ⟨0, .text, "a"⟩] := by
      intro env depth
      rw [Table.runNested.eq_def]
      simp only [hsize, show Table.fuelFor 2 = 1150 + 2 from rfl, hloop, List.reverse_cons,
        List.reverse_nil, List.nil_append, List.singleton_append]
    exact hnested quietEnv 127

end Highlight
