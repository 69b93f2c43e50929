import Mathlib
import Highlight.Format.HtmlStyle
import Highlight.Proofs.Format.StyleTable

/-!
# What HTML output draws of a style

A style reports a look for each kind of its table; HTML output draws a token with the CSS
declarations of some kinds' looks, one over another. This module says exactly when a token of
kind `t` is drawn with the look the style reports for `u`, the nearest kind of the table at or
above `t` (`Built.owner`).

Without classes, a token's span carries the declarations of the nearest kind at or above its own
that has any (`inlineLook_eq`). So a kind whose look sets nothing, below one whose look sets
something, is drawn with the look of that kind above it: a kind defined `nobold` below a bold
one is drawn bold. The root and the text kind have the empty class, and no span carries their
declarations.

With classes, the span names the classes of the kinds from the nearest standard kind down to
its own, and the rules of those classes apply, shallower kinds first (`classLook_eq`). What a
rule of a kind above sets and the rule of `u` does not, stays: a negated attribute is not undone.

Both results need the classes of the kinds on the chain to be their own (`OwnClass`): two
kinds with one class share one rule, the later one's.
-/

set_option autoImplicit false

namespace Highlight

namespace Style

/-! ## Looks -/

/-- The attributes of a look that output draws: the colour, background and border colours, and
bold, italic and underline. -/
structure Look where
  color : Option String := none
  bgcolor : Option String := none
  border : Option String := none
  bold : Bool := false
  italic : Bool := false
  underline : Bool := false
  deriving DecidableEq

/-- The attributes a style reports for a look. -/
def TokenStyle.look (t : TokenStyle) : Look :=
  ⟨t.color, t.bgcolor, t.border, t.bold, t.italic, t.underline⟩

namespace Look

/-- `l` painted over with `m`: what `m` sets replaces what `l` has. -/
def paint (l m : Look) : Look :=
  ⟨m.color.or l.color, m.bgcolor.or l.bgcolor, m.border.or l.border, l.bold || m.bold,
    l.italic || m.italic, l.underline || m.underline⟩

/-- Every attribute that `l` sets, `m` sets too. -/
def Within (l m : Look) : Prop :=
  (l.color.isSome → m.color.isSome) ∧ (l.bgcolor.isSome → m.bgcolor.isSome) ∧
    (l.border.isSome → m.border.isSome) ∧ (l.bold → m.bold) ∧ (l.italic → m.italic) ∧
      (l.underline → m.underline)

theorem within_refl (l : Look) : l.Within l := by
  simp [Within]

theorem empty_within (m : Look) : ({} : Look).Within m := by
  simp [Within]

@[simp] theorem paint_empty (l : Look) : l.paint {} = l := by
  simp [paint]

@[simp] theorem empty_paint (m : Look) : ({} : Look).paint m = m := by
  simp [paint]

theorem option_or_eq_self_iff {α : Type} (a b : Option α) : b.or a = b ↔ (a.isSome → b.isSome) := by
  cases a <;> cases b <;> simp

theorem bool_or_eq_self_iff (a b : Bool) : (a || b) = b ↔ (a → b) := by
  cases a <;> cases b <;> simp

theorem paint_eq_self_iff (l m : Look) : l.paint m = m ↔ l.Within m := by
  obtain ⟨c, g, b, x, y, z⟩ := l
  obtain ⟨c', g', b', x', y', z'⟩ := m
  simp only [paint, Within, Look.mk.injEq, option_or_eq_self_iff, bool_or_eq_self_iff]

theorem paint_within_iff (l m n : Look) : (l.paint m).Within n ↔ l.Within n ∧ m.Within n := by
  simp only [paint, Within, Option.isSome_or, Bool.or_eq_true, or_imp]
  tauto

theorem within_empty_iff (l : Look) : l.Within {} ↔ l = {} := by
  obtain ⟨c, g, b, x, y, z⟩ := l
  cases c <;> cases g <;> cases b <;> simp [Within]

/-- Looks painted one over another, from nothing. -/
def stack (L : List Look) : Look := L.foldl paint {}

@[simp] theorem stack_nil : stack [] = {} := rfl

theorem stack_append_singleton (L : List Look) (m : Look) : stack (L ++ [m]) = (stack L).paint m := by
  simp [stack, List.foldl_append]

theorem stack_within_iff (L : List Look) (n : Look) : (stack L).Within n ↔ ∀ l ∈ L, l.Within n := by
  induction L using List.reverseRecOn with
  | nil => simpa using empty_within n
  | append_singleton L m ih =>
    rw [stack_append_singleton, paint_within_iff, ih]
    simp [or_imp, forall_and]

theorem stack_append_eq_iff (L : List Look) (m : Look) :
    stack (L ++ [m]) = m ↔ ∀ l ∈ L, l.Within m := by
  rw [stack_append_singleton, paint_eq_self_iff, stack_within_iff]

theorem stack_eq_empty_iff (L : List Look) : stack L = {} ↔ ∀ l ∈ L, l = {} := by
  rw [← within_empty_iff, stack_within_iff]
  simp only [within_empty_iff]

end Look

end Style

namespace Html

open Style

/-! ## Declarations drawn -/

/-- The look with one declaration drawn over it; a colour is read as the style gave it. -/
def Decl.draw (l : Look) : Decl → Look
  | .color c => { l with color := some c }
  | .bold => { l with bold := true }
  | .italic => { l with italic := true }
  | .underline => { l with underline := true }
  | .background c => { l with bgcolor := some c }
  | .border c => { l with border := some c }

/-- The look declarations draw over `l`, one after another. -/
def drawAll (l : Look) (ds : List Decl) : Look := ds.foldl Decl.draw l

theorem drawAll_decls (l : Look) (t : TokenStyle) : drawAll l (decls t) = l.paint t.look := by
  obtain ⟨c, x, y, z, g, b, -, -, -, -, -⟩ := t
  cases c <;> cases g <;> cases b <;> cases x <;> cases y <;> cases z <;>
    simp [drawAll, decls, Decl.draw, Look.paint, TokenStyle.look]

theorem decls_eq_nil_iff (t : TokenStyle) : decls t = [] ↔ t.look = {} := by
  obtain ⟨c, x, y, z, g, b, -, -, -, -, -⟩ := t
  cases c <;> cases g <;> cases b <;> cases x <;> cases y <;> cases z <;>
    simp [decls, TokenStyle.look]

/-! ## The sheet of a style -/

/-- No kind of the style's table but `a` has the class of `a`. -/
def OwnClass (st : Built) (a : TokenKind) : Prop :=
  ∀ b ∈ st.table.map Prod.fst, kindClass b = kindClass a → b = a

section Sheets

variable (pre : String) (st : Built)

theorem kindClass_root : kindClass TokenKind.root = "" := rfl

theorem kindClass_text : kindClass TokenKind.text = "" := rfl

theorem mem_chain_text {w : TokenKind} :
    w ∈ TokenKind.text.chain ↔ w = TokenKind.root ∨ w = TokenKind.text := by
  change w ∈ [TokenKind.root, TokenKind.text] ↔ _
  simp

theorem root_or_text_of_mem_chain {u w : TokenKind} (hu : u = TokenKind.root ∨ u = TokenKind.text)
    (hw : w ∈ u.chain) : w = TokenKind.root ∨ w = TokenKind.text := by
  rcases hu with rfl | rfl
  · rw [TokenKind.chain_root, List.mem_singleton] at hw
    exact .inl hw
  · exact mem_chain_text.mp hw

theorem kindClass_ne_empty {a : TokenKind} (hown : OwnClass st a) (ha : a ≠ TokenKind.root) :
    kindClass a ≠ "" := by
  intro h
  exact ha (hown _ st.root_mem (by rw [h]; rfl)).symm

theorem cssClass_ne_empty {a : TokenKind} (hown : OwnClass st a) (ha : a ≠ TokenKind.root) :
    cssClass pre a ≠ "" := by
  have hne := kindClass_ne_empty st hown ha
  unfold cssClass
  rw [if_neg hne]
  intro h
  exact hne (String.append_eq_empty_iff.mp h).2

theorem cssClass_eq_iff {a b : TokenKind} (hown : OwnClass st a) (ha : a ≠ TokenKind.root)
    (hb : b ∈ st.table.map Prod.fst) : cssClass pre b = cssClass pre a → b = a := by
  have hne := kindClass_ne_empty st hown ha
  unfold cssClass
  rw [if_neg hne]
  split
  · intro h
    exact absurd (String.append_eq_empty_iff.mp h.symm).2 hne
  · intro h
    exact hown b hb ((String.append_right_inj pre).mp h)

theorem foldl_sheet (L : List (TokenKind × TokenStyle)) (sh : Sheet) :
    L.foldl (fun sh p =>
      if decls p.2 = [] then sh
      else { kindClass := assign sh.kindClass p.1 (cssClass pre p.1)
             classStyle := assign sh.classStyle (cssClass pre p.1) (decls p.2, p.1) }) sh =
    { kindClass := L.foldl (fun d p =>
        if decls p.2 != [] then assign d p.1 (cssClass pre p.1) else d) sh.kindClass
      classStyle := L.foldl (fun d p =>
        if decls p.2 != [] then assign d (cssClass pre p.1) (decls p.2, p.1) else d) sh.classStyle } := by
  induction L generalizing sh with
  | nil => rfl
  | cons p L ih =>
    rw [List.foldl_cons, ih]
    by_cases h : decls p.2 = [] <;> simp [h]

theorem lookup_kindClass (a : TokenKind) :
    (sheet pre st).kindClass.lookup a =
      if a ∈ st.table.map Prod.fst ∧ decls (st.styleOf a) ≠ [] then some (cssClass pre a)
      else if a = TokenKind.root then some "" else none := by
  have hlast := st.getLast?_filter_reports (fun p => decls p.2 != []) (fun k => k)
    (a := a) (fun b _ h => h)
  simp only at hlast
  rw [sheet, foldl_sheet, lookup_foldl_assign, hlast]
  by_cases ha : a ∈ st.table.map Prod.fst ∧ decls (st.styleOf a) ≠ []
  · simp [ha]
  · have ha' : ¬(a ∈ st.table.map Prod.fst ∧ (decls (st.styleOf a) != []) = true) := by
      simpa using ha
    rw [if_neg ha', if_neg ha]
    by_cases hr : a = TokenKind.root
    · subst hr
      simp
    · simp [hr, List.lookup_cons, beq_false_of_ne hr]

theorem lookup_classStyle {a : TokenKind} (hown : OwnClass st a) (ha : a ≠ TokenKind.root) :
    (sheet pre st).classStyle.lookup (cssClass pre a) =
      if a ∈ st.table.map Prod.fst ∧ decls (st.styleOf a) ≠ [] then
        some (decls (st.styleOf a), a)
      else none := by
  have hlast := st.getLast?_filter_reports (fun p => decls p.2 != []) (cssClass pre)
    (a := a) (fun b hb h => cssClass_eq_iff pre st hown ha hb h)
  rw [sheet, foldl_sheet, lookup_foldl_assign, hlast]
  by_cases hc : a ∈ st.table.map Prod.fst ∧ decls (st.styleOf a) ≠ []
  · simp [hc]
  · have hc' : ¬(a ∈ st.table.map Prod.fst ∧ (decls (st.styleOf a) != []) = true) := by
      simpa using hc
    rw [if_neg hc', if_neg hc]
    rfl

end Sheets

/-! ## Without classes -/

namespace Sheet

/-- The look a token of kind `k` is drawn with without classes: that of the declarations in the
style of its span, and nothing when it has none. -/
def inlineLook (sh : Sheet) (k : TokenKind) : Look :=
  match sh.inlineClass k with
  | "" => {}
  | cls =>
    match sh.classStyle.lookup cls with
    | some (ds, _) => drawAll {} ds
    | none => {}

end Sheet

section Inline

variable (pre : String) (st : Built)

/-- Whether the sheet gives a kind a class: the root, and a kind of the table whose look sets
something. -/
def Classed (a : TokenKind) : Bool :=
  decide (a = TokenKind.root) || decide (a ∈ st.table.map Prod.fst ∧ decls (st.styleOf a) ≠ [])

theorem classed_iff (a : TokenKind) :
    ((sheet pre st).kindClass.lookup a).isSome = Classed st a := by
  rw [lookup_kindClass]
  unfold Classed
  split_ifs with h hr
  · simp [h]
  · simp [hr]
  · rw [decide_eq_false hr, decide_eq_false h]
    rfl

theorem classed_of_ne_root {a : TokenKind} (ha : a ≠ TokenKind.root) :
    Classed st a = true ↔ a ∈ st.table.map Prod.fst ∧ decls (st.styleOf a) ≠ [] := by
  simp [Classed, ha]

/-- Without classes, a token is drawn with the look of the nearest kind at or above its own that
the sheet gives a class, unless that kind is the root or the text kind, whose class is empty. -/
theorem inlineLook_eq (t : TokenKind)
    (hown : ∀ a ∈ t.chain, a ≠ TokenKind.root → a ≠ TokenKind.text → OwnClass st a) :
    (sheet pre st).inlineLook t =
      if t.nearest (Classed st) = TokenKind.root ∨ t.nearest (Classed st) = TokenKind.text then {}
      else (st.styleOf (t.nearest (Classed st))).look := by
  have hnear : t.nearest (fun a => ((sheet pre st).kindClass.lookup a).isSome) =
      t.nearest (Classed st) := by
    simp only [classed_iff]
  have hclass : (sheet pre st).inlineClass t =
      ((sheet pre st).kindClass.lookup (t.nearest (Classed st))).getD "" := by
    rw [Sheet.inlineClass, TokenKind.findSome?_chain, hnear]
  have hroot : Classed st TokenKind.root = true := by simp [Classed]
  obtain ⟨hv, hPv, -⟩ := TokenKind.nearest_spec (Classed st) t hroot
  set v := t.nearest (Classed st) with hvdef
  unfold Sheet.inlineLook
  rw [hclass, lookup_kindClass]
  by_cases hvr : v = TokenKind.root ∨ v = TokenKind.text
  · -- the root and the text kind have the empty class
    have hcss : cssClass pre v = "" := by
      rcases hvr with h | h <;> rw [h] <;> rfl
    rw [if_pos hvr]
    split_ifs <;> simp [hcss]
  · rw [if_neg hvr]
    have hne : v ≠ TokenKind.root := fun h => hvr (.inl h)
    have hin := (classed_of_ne_root st hne).mp hPv
    have hownv := hown v hv hne (fun h => hvr (.inr h))
    have hcss := cssClass_ne_empty pre st hownv hne
    rw [if_pos hin, Option.getD_some]
    split
    · rename_i h
      exact absurd h hcss
    · rw [lookup_classStyle pre st hownv hne, if_pos hin]
      show drawAll {} (decls (st.styleOf v)) = _
      rw [drawAll_decls, Look.empty_paint]

/-- Without classes, a token of kind `t` is drawn with the look the style reports for the
nearest kind `u` of the table at or above `t` exactly when `u` sets nothing if it is the root or
the text kind, whose spans carry no style, and, when `u` sets nothing, no kind above it but
those two sets anything: otherwise the token is drawn with the look of the nearest one that does. -/
theorem inlineLook_eq_owner_iff (t : TokenKind)
    (hown : ∀ a ∈ t.chain, a ≠ TokenKind.root → a ≠ TokenKind.text → OwnClass st a) :
    (sheet pre st).inlineLook t = (st.styleOf (st.owner t)).look ↔
      ((st.owner t = TokenKind.root ∨ st.owner t = TokenKind.text) →
        (st.styleOf (st.owner t)).look = {}) ∧
      ((st.styleOf (st.owner t)).look = {} → ∀ w ∈ (st.owner t).chain,
        w ≠ TokenKind.root → w ≠ TokenKind.text → (st.styleOf w).look = {}) := by
  rw [inlineLook_eq pre st t hown]
  have hroot : Classed st TokenKind.root = true := by simp [Classed]
  obtain ⟨hv, hPv, hmax⟩ := TokenKind.nearest_spec (Classed st) t hroot
  obtain ⟨hu, huin, hutop⟩ := st.owner_spec t
  set u := st.owner t
  set v := t.nearest (Classed st)
  -- a kind the sheet gives a class is in the table, so `v` lies above `u`
  have hvin : v ∈ st.table.map Prod.fst := by
    by_cases hvr : v = TokenKind.root
    · rw [hvr]
      exact st.root_mem
    · exact ((classed_of_ne_root st hvr).mp hPv).1
  have hvu : v ∈ u.chain := hutop v hv hvin
  by_cases hur : u = TokenKind.root ∨ u = TokenKind.text
  · have hvr := root_or_text_of_mem_chain hur hvu
    rw [if_pos hvr]
    constructor
    · intro h
      refine ⟨fun _ => h.symm, fun _ w hw hwr hwt => ?_⟩
      exact absurd (root_or_text_of_mem_chain hur hw) (by tauto)
    · rintro ⟨h, -⟩
      exact (h hur).symm
  · by_cases hlook : (st.styleOf u).look = {}
    · rw [hlook]
      constructor
      · intro h
        refine ⟨fun h' => absurd h' hur, fun _ w hw hwr hwt => ?_⟩
        by_contra hw'
        -- a kind above `u` that sets something is given a class, so it lies above `v`
        have hwin : w ∈ st.table.map Prod.fst := st.chain_mem huin hw
        have hcw : Classed st w = true := by
          simp [Classed, hwin, decls_eq_nil_iff, hw']
        have hwv : w ∈ v.chain := hmax w (TokenKind.chain_trans hw hu) hcw
        by_cases hvr : v = TokenKind.root ∨ v = TokenKind.text
        · exact absurd (root_or_text_of_mem_chain hvr hwv) (by tauto)
        · rw [if_neg hvr] at h
          have hvr' : v ≠ TokenKind.root := fun e => hvr (.inl e)
          exact ((classed_of_ne_root st hvr').mp hPv).2 ((decls_eq_nil_iff _).mpr h)
      · rintro ⟨-, h⟩
        split
        · rfl
        · rename_i hvr
          exact h rfl v hvu (fun e => hvr (.inl e)) (fun e => hvr (.inr e))
    · -- `u` sets something, so the sheet gives it a class and it is `v`
      have hcu : Classed st u = true := by
        simp [Classed, huin, decls_eq_nil_iff, hlook]
      have hvu' : v = u := TokenKind.chain_antisymm hvu (hmax u hu hcu)
      rw [hvu', if_neg hur]
      simp only [true_iff]
      exact ⟨fun h => absurd h hur, fun h => absurd h hlook⟩

end Inline

/-! ## With classes -/

/-- The classes a span of kind `k` names: those of the kinds from the nearest standard kind at
or above `k` down to `k`. -/
def classList (pre : String) (k : TokenKind) : List String :=
  (k.chain.filter fun a =>
    (k.nearest fun b => (TokenKind.shortName? b).isSome).path.length ≤ a.path.length).map
      (cssClass pre)

/-- The classes of a span are those of `classList`, with spaces between them. The induction is
on the kind's path from its end, as `cssClassesUp` reads it. -/
theorem cssClasses_eq (pre : String) (k : TokenKind) :
    cssClasses pre k = " ".intercalate (classList pre k) := by
  obtain ⟨p⟩ := k
  induction p using List.reverseRecOn with
  | nil => rfl
  | append_singleton p x ih =>
    have hup : cssClasses pre ⟨p ++ [x]⟩ =
        if (TokenKind.shortName? ⟨p ++ [x]⟩).isSome then cssClass pre ⟨p ++ [x]⟩
        else cssClasses pre ⟨p⟩ ++ " " ++ cssClass pre ⟨p ++ [x]⟩ := by
      simp only [cssClasses, List.reverse_append, List.reverse_singleton, List.singleton_append]
      rw [cssClassesUp, List.reverse_cons, List.reverse_reverse]
    rw [hup, classList, TokenKind.nearest_snoc, TokenKind.chain_snoc, List.filter_append]
    have hdeep : ∀ a ∈ (⟨p⟩ : TokenKind).chain, a.path.length ≤ p.length :=
      fun a ha => TokenKind.length_le_of_mem_chain ha
    split
    · -- a standard kind names its own class only
      have hnil : ((⟨p⟩ : TokenKind).chain.filter fun a =>
          decide ((⟨p ++ [x]⟩ : TokenKind).path.length ≤ a.path.length)) = [] := by
        rw [List.filter_eq_nil_iff]
        intro a ha
        have := hdeep a ha
        simp only [List.length_append, List.length_singleton, decide_eq_true_eq]
        omega
      rw [hnil]
      simp
    · set s := (⟨p⟩ : TokenKind).nearest fun b => (TokenKind.shortName? b).isSome
      have hs : s ∈ (⟨p⟩ : TokenKind).chain :=
        (TokenKind.nearest_mem_chain _ _)
      have hsx : s.path.length ≤ p.length + 1 := by
        have := hdeep s hs
        omega
      have hk : ([⟨p ++ [x]⟩] : List TokenKind).filter
          (fun a => decide (s.path.length ≤ a.path.length)) = [⟨p ++ [x]⟩] := by
        simp [hsx]
      have hne : ((⟨p⟩ : TokenKind).chain.filter
          (fun a => decide (s.path.length ≤ a.path.length))).map (cssClass pre) ≠ [] := by
        apply List.ne_nil_of_mem (a := cssClass pre s)
        exact List.mem_map_of_mem (List.mem_filter.mpr ⟨hs, by simp⟩)
      rw [hk, ih, List.map_append, String.intercalate_append_of_ne_nil hne (by simp),
        List.map_singleton, String.intercalate_singleton]
      rfl

namespace Sheet

/-- The look the rules of a stylesheet draw on an element with the classes `classes`: the
declarations of the rules of its classes, each rule over those before it. -/
def classLook (sh : Sheet) (classes : List String) : Look :=
  (sh.tokenRules.filter fun r => r.1 ∈ classes).foldl (fun l r => drawAll l r.2.1) {}

/-- The rule order is the order of a key: the depth of the kind, the kind, the class and the
declarations, one after another. -/
def ruleKey (r : String × List Decl × TokenKind) : ℕ ×ₗ List String ×ₗ String ×ₗ String :=
  toLex (r.2.2.path.length, toLex (r.2.2.path, toLex (r.1, declText r.2.1)))

theorem ruleBefore_iff (a b : String × List Decl × TokenKind) :
    ruleBefore a b = true ↔ ruleKey a ≤ ruleKey b := by
  obtain ⟨ca, da, ka⟩ := a
  obtain ⟨cb, db, kb⟩ := b
  simp only [ruleBefore, ruleKey, Prod.Lex.toLex_le_toLex, Bool.or_eq_true, Bool.and_eq_true,
    decide_eq_true_eq, beq_iff_eq]

theorem depth_le_of_ruleBefore {a b : String × List Decl × TokenKind} (h : ruleBefore a b = true) :
    a.2.2.path.length ≤ b.2.2.path.length := by
  rw [ruleBefore_iff, ruleKey, ruleKey, Prod.Lex.toLex_le_toLex] at h
  omega

theorem tokenRules_pairwise (sh : Sheet) : sh.tokenRules.Pairwise fun a b => ruleBefore a b = true :=
  List.pairwise_mergeSort
    (fun a b c hab hbc => (ruleBefore_iff a c).mpr
      (le_trans ((ruleBefore_iff a b).mp hab) ((ruleBefore_iff b c).mp hbc)))
    (fun a b => by
      rw [Bool.or_eq_true, ruleBefore_iff, ruleBefore_iff]
      exact le_total _ _) _

theorem mem_tokenRules {sh : Sheet} {r : String × List Decl × TokenKind} :
    r ∈ sh.tokenRules ↔ r ∈ sh.classStyle ∧ r.1 ≠ "" ∧ r.2.1 ≠ [] := by
  simp [tokenRules]

end Sheet

section Classes

variable (pre : String) (st : Built)

/-- The rule the sheet of a style writes for a kind. -/
def ruleOf (a : TokenKind) : String × List Decl × TokenKind :=
  (cssClass pre a, decls (st.styleOf a), a)

theorem classStyle_eq :
    (sheet pre st).classStyle = st.reports.foldl (fun d p =>
      if decls p.2 != [] then assign d (cssClass pre p.1) (decls p.2, p.1) else d) [] := by
  rw [sheet, foldl_sheet]

theorem mem_classStyle {r : String × List Decl × TokenKind} (h : r ∈ (sheet pre st).classStyle) :
    ∃ b ∈ st.table.map Prod.fst, decls (st.styleOf b) ≠ [] ∧ r = ruleOf pre st b := by
  rw [classStyle_eq] at h
  rcases mem_foldl_assign _ _ _ _ h with h | ⟨⟨b, x⟩, hx, hP, rfl⟩
  · cases h
  · obtain ⟨hb, rfl⟩ := st.mem_reports.mp hx
    exact ⟨b, hb, by simpa using hP, rfl⟩

theorem classStyle_nodup : (sheet pre st).classStyle.Nodup := by
  rw [classStyle_eq]
  exact (nodup_keys_foldl_assign _ _ _ _ (d := []) List.nodup_nil).of_map _

theorem cssClass_root : cssClass pre TokenKind.root = "" := rfl

theorem cssClass_text : cssClass pre TokenKind.text = "" := rfl

variable {pre st}

/-- The rules that apply to a span of kind `t`, in the order of the stylesheet, are those of the
kinds from the nearest standard kind above `t` down to its owner that set something, but for the
root and the text kind, shallower kinds first. -/
theorem classRules_eq (t : TokenKind)
    (hown : ∀ a ∈ t.chain, a ≠ TokenKind.root → a ≠ TokenKind.text → OwnClass st a) :
    (sheet pre st).tokenRules.filter (fun r => r.1 ∈ classList pre t) =
      ((st.owner t).chain.filter fun a => a ≠ TokenKind.root ∧ a ≠ TokenKind.text ∧
        (t.nearest fun b => (TokenKind.shortName? b).isSome).path.length ≤ a.path.length ∧
          decls (st.styleOf a) ≠ []).map (ruleOf pre st) := by
  obtain ⟨hu, huin, hutop⟩ := st.owner_spec t
  set u := st.owner t
  set s := t.nearest fun b => (TokenKind.shortName? b).isSome
  set F := (sheet pre st).tokenRules.filter (fun r => r.1 ∈ classList pre t)
  set T := (u.chain.filter fun a => a ≠ TokenKind.root ∧ a ≠ TokenKind.text ∧
    s.path.length ≤ a.path.length ∧ decls (st.styleOf a) ≠ []).map (ruleOf pre st)
  have hmem : ∀ r, r ∈ F ↔ r ∈ T := by
    intro r
    constructor
    · intro hr
      obtain ⟨hrule, hcls⟩ := List.mem_filter.mp hr
      obtain ⟨hcs, hne, -⟩ := Sheet.mem_tokenRules.mp hrule
      obtain ⟨b, hb, hdb, rfl⟩ := mem_classStyle pre st hcs
      have hcls' : cssClass pre b ∈ classList pre t := of_decide_eq_true hcls
      obtain ⟨a, ha, hab⟩ := List.mem_map.mp hcls'
      obtain ⟨hat, has⟩ := List.mem_filter.mp ha
      -- a kind with the class of `b` on the chain is `b`
      have hne' : cssClass pre a ≠ "" := by rw [hab]; simpa [ruleOf] using hne
      have har : a ≠ TokenKind.root := fun e => hne' (by rw [e]; rfl)
      have hat' : a ≠ TokenKind.text := fun e => hne' (by rw [e]; rfl)
      obtain rfl := cssClass_eq_iff pre st (hown a hat har hat') har hb hab.symm
      refine List.mem_map.mpr ⟨b, List.mem_filter.mpr ⟨hutop b hat hb, ?_⟩, rfl⟩
      simpa [har, hat', hdb] using has
    · intro hr
      obtain ⟨a, ha, rfl⟩ := List.mem_map.mp hr
      obtain ⟨hau, hQ⟩ := List.mem_filter.mp ha
      simp only [decide_eq_true_eq] at hQ
      obtain ⟨har, hat, has, hda⟩ := hQ
      have hain : a ∈ st.table.map Prod.fst := st.chain_mem huin hau
      have hat' : a ∈ t.chain := TokenKind.chain_trans hau hu
      have hown_a := hown a hat' har hat
      have hlook := lookup_classStyle pre st hown_a har
      rw [if_pos ⟨hain, hda⟩] at hlook
      obtain ⟨l₁, l₂, hl, -⟩ := List.lookup_eq_some_iff.mp hlook
      have hcs : ruleOf pre st a ∈ (sheet pre st).classStyle := by
        rw [hl]
        simp [ruleOf]
      refine List.mem_filter.mpr ⟨Sheet.mem_tokenRules.mpr
        ⟨hcs, cssClass_ne_empty pre st hown_a har, hda⟩, ?_⟩
      apply decide_eq_true
      exact List.mem_map.mpr ⟨a, List.mem_filter.mpr ⟨hat', decide_eq_true has⟩, rfl⟩
  -- each list goes from shallower kinds to deeper ones
  have hkind : ∀ r ∈ T, r.2.2 ∈ u.chain ∧ r = ruleOf pre st r.2.2 := by
    intro r hr
    obtain ⟨a, ha, rfl⟩ := List.mem_map.mp hr
    exact ⟨(List.mem_filter.mp ha).1, rfl⟩
  have hT : T.Pairwise fun x y => x.2.2.path.length < y.2.2.path.length := by
    apply List.Pairwise.map
    · intro a b h
      exact h
    · exact (TokenKind.chain_pairwise u).filter _
  have hFsub : F.Pairwise fun x y => Sheet.ruleBefore x y = true ∧ x ≠ y := by
    have hnd : (sheet pre st).tokenRules.Nodup :=
      (List.mergeSort_perm _ _).nodup_iff.mpr ((classStyle_nodup pre st).filter _)
    exact ((Sheet.tokenRules_pairwise _).and hnd).sublist List.filter_sublist
  have hF : F.Pairwise fun x y => x.2.2.path.length < y.2.2.path.length := by
    refine hFsub.imp_of_mem fun {x y} hx hy ⟨hxy, hne⟩ => ?_
    obtain ⟨hxu, hx'⟩ := hkind x ((hmem x).mp hx)
    obtain ⟨hyu, hy'⟩ := hkind y ((hmem y).mp hy)
    have hle := Sheet.depth_le_of_ruleBefore hxy
    rcases Nat.lt_or_eq_of_le hle with hlt | heq
    · exact hlt
    · exact absurd (by rw [hx', hy', TokenKind.eq_of_mem_chain_of_length_eq hxu hyu heq]) hne
  have hnodup : ∀ {L : List (String × List Decl × TokenKind)},
      L.Pairwise (fun x y => x.2.2.path.length < y.2.2.path.length) → L.Nodup :=
    fun h => h.imp fun hlt e => by rw [e] at hlt; exact lt_irrefl _ hlt
  have hperm : F.Perm T := (List.perm_ext_iff_of_nodup (hnodup hF) (hnodup hT)).mpr hmem
  exact hperm.eq_of_pairwise (fun a b _ _ hab hba => absurd (hab.trans hba) (lt_irrefl _)) hF hT

theorem stack_filter_ne_empty (M : List TokenKind) (look : TokenKind → Look) :
    Look.stack ((M.filter fun a => look a ≠ {}).map look) = Look.stack (M.map look) := by
  induction M using List.reverseRecOn with
  | nil => rfl
  | append_singleton M a ih =>
    rw [List.filter_append, List.map_append, List.map_append, List.map_singleton,
      Look.stack_append_singleton, ← ih]
    by_cases ha : look a = {}
    · simp [ha]
    · simp [ha, Look.stack_append_singleton]

/-- With classes, a span of kind `t` is drawn with the looks of the kinds from the nearest
standard kind above `t` down to its owner, but for the root and the text kind, each painted over
those above it. -/
theorem classLook_eq (t : TokenKind)
    (hown : ∀ a ∈ t.chain, a ≠ TokenKind.root → a ≠ TokenKind.text → OwnClass st a) :
    (sheet pre st).classLook (classList pre t) =
      Look.stack (((st.owner t).chain.filter fun a => a ≠ TokenKind.root ∧ a ≠ TokenKind.text ∧
        (t.nearest fun b => (TokenKind.shortName? b).isSome).path.length ≤ a.path.length).map
          fun a => (st.styleOf a).look) := by
  rw [Sheet.classLook, classRules_eq t hown, List.foldl_map]
  have hstep : (fun l a => drawAll l (ruleOf pre st a).2.1) =
      fun l a => l.paint (st.styleOf a).look := by
    funext l a
    exact drawAll_decls l _
  rw [hstep, ← List.foldl_map (g := Look.paint), ← Look.stack,
    ← stack_filter_ne_empty ((st.owner t).chain.filter fun a => a ≠ TokenKind.root ∧
      a ≠ TokenKind.text ∧
        (t.nearest fun b => (TokenKind.shortName? b).isSome).path.length ≤ a.path.length)
      (fun a => (st.styleOf a).look), List.filter_filter]
  congr 2
  apply List.filter_congr
  intro a _
  by_cases h : (st.styleOf a).look = {} <;> simp [h, decls_eq_nil_iff]

/-- With classes, a token of kind `t` is drawn with the look the style reports for the nearest
kind `u` of the table at or above `t` exactly when `u` sets nothing if it is the root or the text
kind, whose classes are empty, and every kind from the nearest standard kind above `t` down to
`u`, but those two, sets only what `u` sets: what a rule of a kind above sets and the rule of `u`
does not, a negated attribute among them, stays. -/
theorem classLook_eq_owner_iff (t : TokenKind)
    (hown : ∀ a ∈ t.chain, a ≠ TokenKind.root → a ≠ TokenKind.text → OwnClass st a) :
    (sheet pre st).classLook (classList pre t) = (st.styleOf (st.owner t)).look ↔
      ((st.owner t = TokenKind.root ∨ st.owner t = TokenKind.text) →
        (st.styleOf (st.owner t)).look = {}) ∧
      ∀ w ∈ (st.owner t).chain, w ≠ TokenKind.root → w ≠ TokenKind.text →
        (t.nearest fun b => (TokenKind.shortName? b).isSome).path.length ≤ w.path.length →
          (st.styleOf w).look.Within (st.styleOf (st.owner t)).look := by
  rw [classLook_eq t hown]
  obtain ⟨hu, huin, hutop⟩ := st.owner_spec t
  set u := st.owner t
  set s := t.nearest fun b => (TokenKind.shortName? b).isSome
  by_cases hur : u = TokenKind.root ∨ u = TokenKind.text
  · -- above the root and the text kind no rule applies
    have hnil : (u.chain.filter fun a => a ≠ TokenKind.root ∧ a ≠ TokenKind.text ∧
        s.path.length ≤ a.path.length) = [] := by
      rw [List.filter_eq_nil_iff]
      intro a ha
      have := root_or_text_of_mem_chain hur ha
      simp only [decide_eq_true_eq]
      tauto
    rw [hnil, List.map_nil, Look.stack_nil]
    constructor
    · intro h
      refine ⟨fun _ => h.symm, fun w hw hwr hwt _ => ?_⟩
      exact absurd (root_or_text_of_mem_chain hur hw) (by tauto)
    · rintro ⟨h, -⟩
      exact (h hur).symm
  · -- `u` comes last, after the kinds above it
    have hur' : u ≠ TokenKind.root := fun e => hur (.inl e)
    have hut : u ≠ TokenKind.text := fun e => hur (.inr e)
    have hsu : s.path.length ≤ u.path.length := by
      have hroot : (TokenKind.shortName? TokenKind.root).isSome = true := rfl
      obtain ⟨hs, hstd, -⟩ := TokenKind.nearest_spec (fun b => (TokenKind.shortName? b).isSome) t hroot
      have hsin : s ∈ st.table.map Prod.fst :=
        st.standard_mem (lookup_isSome_iff.mp hstd)
      exact TokenKind.length_le_of_mem_chain (hutop s hs hsin)
    obtain ⟨p, x, hpx⟩ := TokenKind.exists_snoc_of_ne_root hur'
    have hchain : u.chain = (⟨p⟩ : TokenKind).chain ++ [u] := by
      rw [hpx, TokenKind.chain_snoc]
    rw [hchain, List.filter_append, List.map_append]
    have hlast : ([u].filter fun a => a ≠ TokenKind.root ∧ a ≠ TokenKind.text ∧
        s.path.length ≤ a.path.length) = [u] := by
      simp [hur', hut, hsu]
    rw [hlast, List.map_singleton, Look.stack_append_eq_iff]
    constructor
    · intro h
      refine ⟨fun h' => absurd h' hur, fun w hw hwr hwt hws => ?_⟩
      rw [List.mem_append, List.mem_singleton] at hw
      rcases hw with hw | rfl
      · exact h _ (List.mem_map_of_mem (List.mem_filter.mpr ⟨hw, by simp [hwr, hwt, hws]⟩))
      · exact Look.within_refl _
    · rintro ⟨-, h⟩ l hl
      obtain ⟨w, hw, rfl⟩ := List.mem_map.mp hl
      obtain ⟨hwp, hQ⟩ := List.mem_filter.mp hw
      simp only [decide_eq_true_eq] at hQ
      exact h w (List.mem_append_left _ hwp) hQ.1 hQ.2.1 hQ.2.2

end Classes

end Html

end Highlight
