import Mathlib
import Highlight.Format.Latex
import Highlight.Proofs.Format.HtmlLooks
import Highlight.Proofs.Grammar.ReadyMoves

/-!
# What LaTeX output draws of a style

LaTeX output draws a token of kind `t` with the macros that the commands of its names set, one
name after another, from the top of the tree down to `t` (`Sheet.drawnLook`). A command sets
bold, italic, underline, a font, a text colour and one box: a background, or a frame around a
background. So a later command replaces the colour and the box an earlier one set, and keeps
what it does not set (`Look.texPaint`).

The main result (`drawnLook_eq_owner_iff`) says exactly when a token is drawn with the look the
style reports for `u`, the nearest kind of the table at or above `t`: as with classes in HTML,
every kind above `u` must set only what `u` sets, since a negated attribute is never undone. A
border without a background is drawn on white, and the text kind's name is the root's, the empty
one: the root's command stands under it when the text kind has none.
-/

set_option autoImplicit false

namespace Highlight

namespace Style.Look

/-! ## Painting as the macros paint -/

/-- Whether a look sets a box: a background, a frame, or both. -/
def box (l : Look) : Bool := l.bgcolor.isSome || l.border.isSome

/-- `l` painted over with `m` as the macros paint: the colour and the box of `m` replace those of
`l`. -/
def texPaint (l m : Look) : Look :=
  ⟨m.color.or l.color, if m.box then m.bgcolor else l.bgcolor,
    if m.box then m.border else l.border, l.bold || m.bold, l.italic || m.italic,
    l.underline || m.underline⟩

/-- Every attribute that `l` sets, `m` sets too, a background and a frame counting as one box. -/
def TexWithin (l m : Look) : Prop :=
  (l.color.isSome → m.color.isSome) ∧ (l.box → m.box) ∧ (l.bold → m.bold) ∧
    (l.italic → m.italic) ∧ (l.underline → m.underline)

/-- A look whose border has a background under it, as every box the macros draw has. -/
def Boxed (l : Look) : Prop := l.border.isSome → l.bgcolor.isSome

@[simp] theorem texPaint_empty (l : Look) : l.texPaint {} = l := by
  simp [texPaint, box]

@[simp] theorem empty_texPaint (m : Look) : ({} : Look).texPaint m = m := by
  obtain ⟨c, g, b, x, y, z⟩ := m
  cases g <;> cases b <;> simp [texPaint, box]

theorem texPaint_assoc (l m n : Look) : (l.texPaint m).texPaint n = l.texPaint (m.texPaint n) := by
  obtain ⟨c, g, b, x, y, z⟩ := l
  obtain ⟨c', g', b', x', y', z'⟩ := m
  obtain ⟨c'', g'', b'', x'', y'', z''⟩ := n
  cases g' <;> cases b' <;> cases g'' <;> cases b'' <;>
    simp [texPaint, box, Option.or_assoc, Bool.or_assoc]

theorem texWithin_refl (l : Look) : l.TexWithin l := by
  simp [TexWithin]

theorem empty_texWithin (m : Look) : ({} : Look).TexWithin m := by
  simp [TexWithin, box]

theorem texPaint_eq_self_iff (l m : Look) : l.texPaint m = m ↔ l.TexWithin m := by
  obtain ⟨c, g, b, x, y, z⟩ := l
  obtain ⟨c', g', b', x', y', z'⟩ := m
  cases g' <;> cases b'
  · cases g <;> cases b <;> simp [texPaint, TexWithin, box, Look.option_or_eq_self_iff]
  all_goals simp [texPaint, TexWithin, box, Look.option_or_eq_self_iff]

theorem box_texPaint (l m : Look) : (l.texPaint m).box = (m.box || l.box) := by
  unfold texPaint
  cases h : m.box
  · simp only [Bool.false_or]
    rfl
  · simp only [if_true, Bool.true_or]
    exact h

theorem texPaint_texWithin_iff (l m n : Look) :
    (l.texPaint m).TexWithin n ↔ l.TexWithin n ∧ m.TexWithin n := by
  unfold TexWithin
  rw [box_texPaint]
  simp only [texPaint, Option.isSome_or, Bool.or_eq_true, or_imp]
  constructor
  · rintro ⟨⟨c₁, c₂⟩, ⟨b₁, b₂⟩, ⟨x₁, x₂⟩, ⟨y₁, y₂⟩, ⟨z₁, z₂⟩⟩
    exact ⟨⟨c₂, b₂, x₁, y₁, z₁⟩, ⟨c₁, b₁, x₂, y₂, z₂⟩⟩
  · rintro ⟨⟨c₂, b₂, x₁, y₁, z₁⟩, ⟨c₁, b₁, x₂, y₂, z₂⟩⟩
    exact ⟨⟨c₁, c₂⟩, ⟨b₁, b₂⟩, ⟨x₁, x₂⟩, ⟨y₁, y₂⟩, ⟨z₁, z₂⟩⟩

theorem texWithin_empty_iff (l : Look) : l.TexWithin {} ↔ l = {} := by
  obtain ⟨c, g, b, x, y, z⟩ := l
  cases c <;> cases g <;> cases b <;> simp [TexWithin, box]

/-- Looks painted one over another as the macros paint, from nothing. -/
def texStack (L : List Look) : Look := L.foldl texPaint {}

@[simp] theorem texStack_nil : texStack [] = {} := rfl

theorem foldl_texPaint (L : List Look) (l : Look) : L.foldl texPaint l = l.texPaint (texStack L) := by
  induction L generalizing l with
  | nil => simp
  | cons m L ih =>
    have hst : texStack (m :: L) = m.texPaint (texStack L) := by
      rw [texStack, List.foldl_cons, ih, empty_texPaint]
    rw [List.foldl_cons, ih, hst, texPaint_assoc]

theorem texStack_cons (m : Look) (L : List Look) : texStack (m :: L) = m.texPaint (texStack L) := by
  rw [texStack, List.foldl_cons, foldl_texPaint, empty_texPaint]

theorem texStack_append_singleton (L : List Look) (m : Look) :
    texStack (L ++ [m]) = (texStack L).texPaint m := by
  simp [texStack, List.foldl_append]

theorem texStack_texWithin_iff (L : List Look) (n : Look) :
    (texStack L).TexWithin n ↔ ∀ l ∈ L, l.TexWithin n := by
  induction L using List.reverseRecOn with
  | nil => simpa using empty_texWithin n
  | append_singleton L m ih =>
    rw [texStack_append_singleton, texPaint_texWithin_iff, ih]
    simp [or_imp, forall_and]

theorem texStack_append_eq_iff (L : List Look) (m : Look) :
    texStack (L ++ [m]) = m ↔ ∀ l ∈ L, l.TexWithin m := by
  rw [texStack_append_singleton, texPaint_eq_self_iff, texStack_texWithin_iff]

theorem texStack_eq_empty_iff (L : List Look) : texStack L = {} ↔ ∀ l ∈ L, l = {} := by
  rw [← texWithin_empty_iff, texStack_texWithin_iff]
  simp only [texWithin_empty_iff]

end Style.Look

namespace Latex

open Style

/-! ## What the macros draw -/

/-- What the macros draw, read as a look: the text colour, the background and frame of the box,
bold, italic and underline. -/
def Slots.look (s : Slots) : Look where
  color := s.tc
  bgcolor := match s.bc with
    | some (.frame _ g) => some g
    | some (.box g) => some g
    | _ => none
  border := match s.bc with
    | some (.frame b _) => some b
    | _ => none
  bold := s.bf
  italic := s.it
  underline := s.ul

/-- The look a command draws from nothing. -/
def setsLook (c : List TexSet) : Look := (c.foldl Slots.set {}).look

theorem set_look (s : Slots) (x : TexSet) : (s.set x).look = s.look.texPaint (setsLook [x]) := by
  obtain ⟨bf, it, ul, ff, tc, bc⟩ := s
  cases x <;> simp [Slots.set, Slots.look, setsLook, Look.texPaint, Look.box]

theorem foldl_set_look (c : List TexSet) (s : Slots) :
    (c.foldl Slots.set s).look = s.look.texPaint (setsLook c) := by
  induction c generalizing s with
  | nil => simp [setsLook, Slots.look]
  | cons x c ih =>
    have hcons : setsLook (x :: c) = (setsLook [x]).texPaint (setsLook c) := by
      rw [setsLook, List.foldl_cons, ih]
      rfl
    rw [List.foldl_cons, ih, set_look, hcons, Look.texPaint_assoc]

theorem slots_look (sh : Sheet) (names : String) :
    (sh.slots names).look = Look.texStack ((names.toList.splitOn '+').map fun n =>
      setsLook ((sh.nameCommand.lookup (String.ofList n)).getD [])) := by
  unfold Sheet.slots
  generalize names.toList.splitOn '+' = ns
  suffices ∀ s : Slots, (ns.foldl (fun s n =>
      ((sh.nameCommand.lookup (String.ofList n)).getD []).foldl Slots.set s) s).look =
      s.look.texPaint (Look.texStack (ns.map fun n =>
        setsLook ((sh.nameCommand.lookup (String.ofList n)).getD []))) by
    simpa [Slots.look] using this {}
  induction ns with
  | nil => simp
  | cons n ns ih =>
    intro s
    rw [List.foldl_cons, ih, foldl_set_look, List.map_cons, Look.texStack_cons,
      Look.texPaint_assoc]

/-! ## Commands -/

/-- A colour as LaTeX output writes it, and nothing where it cannot be written. -/
def rgbText (c : String) : String :=
  match rgbcolor c with
  | .ok r => r
  | .error _ => ""

/-- The look a style reports, with its colours as LaTeX output writes them. -/
def rgbLook (t : TokenStyle) : Look :=
  ⟨t.color.map rgbText, t.bgcolor.map rgbText, t.border.map rgbText, t.bold, t.italic, t.underline⟩

/-- The look the command of a style's look draws: that look, with a border drawn on white when
there is no background. -/
def texLook (t : TokenStyle) : Look :=
  { rgbLook t with
    bgcolor := if t.border.isSome then some (rgbText (t.bgcolor.getD "")) else t.bgcolor.map rgbText }

/-- The command of a look, and none where one of its colours cannot be written. -/
def commandOf (t : TokenStyle) : List TexSet :=
  match command t with
  | .ok c => c
  | .error _ => []

theorem rgbText_of_ok {c r : String} (h : rgbcolor c = .ok r) : rgbText c = r := by
  simp [rgbText, h]

theorem setsLook_flags (x y z f g h : Bool) :
    setsLook ((if x then [TexSet.bf] else []) ++ (if y then [.it] else []) ++
      (if z then [.ul] else []) ++ (if f then [.ff "textrm"] else []) ++
        (if g then [.ff "textsf"] else []) ++ (if h then [.ff "textsf"] else [])) =
      { bold := x, italic := y, underline := z } := by
  cases x <;> cases y <;> cases z <;> cases f <;> cases g <;> cases h <;> rfl

theorem setsLook_append (c d : List TexSet) :
    setsLook (c ++ d) = (setsLook c).texPaint (setsLook d) := by
  rw [setsLook, List.foldl_append, foldl_set_look]
  rfl

theorem setsLook_colorSets {col : Option String} {c : List TexSet} (h : colorSets col = .ok c) :
    setsLook c = { color := col.map rgbText } := by
  cases col with
  | none =>
    cases h
    rfl
  | some col =>
    cases hr : rgbcolor col with
    | error e => simp [colorSets, hr, Except.map] at h
    | ok r =>
      simp only [colorSets, hr, Except.map, Except.ok.injEq] at h
      subst h
      simp [setsLook, Slots.set, Slots.look, rgbText_of_ok hr]

theorem setsLook_boxSets {bd bg : Option String} {c : List TexSet} (h : boxSets bd bg = .ok c) :
    setsLook c = { bgcolor := if bd.isSome then some (rgbText (bg.getD "")) else bg.map rgbText
                   border := bd.map rgbText } := by
  cases bd with
  | some b =>
    obtain ⟨rb, hrb, h⟩ := exists_of_bind_eq_ok h
    cases hg : rgbcolor (bg.getD "") with
    | error e => simp [hg, Except.map] at h
    | ok rg =>
      simp only [hg, Except.map, Except.ok.injEq] at h
      subst h
      simp [setsLook, Slots.set, Slots.look, rgbText_of_ok hrb, rgbText_of_ok hg]
  | none =>
    cases bg with
    | none =>
      cases h
      rfl
    | some g =>
      cases hg : rgbcolor g with
      | error e => simp [boxSets, hg, Except.map] at h
      | ok rg =>
        simp only [boxSets, hg, Except.map, Except.ok.injEq] at h
        subst h
        simp [setsLook, Slots.set, Slots.look, rgbText_of_ok hg]

theorem setsLook_command {t : TokenStyle} {c : List TexSet} (h : command t = .ok c) :
    setsLook c = texLook t := by
  obtain ⟨tc, htc, h⟩ := exists_of_bind_eq_ok h
  obtain ⟨bc, hbc, h⟩ := exists_of_bind_eq_ok h
  cases h
  rw [setsLook_append, setsLook_append, setsLook_flags, setsLook_colorSets htc,
    setsLook_boxSets hbc]
  obtain ⟨col, x, y, z, bg, bd, -, -, -, -, -⟩ := t
  cases bd <;> cases bg <;> cases col <;> simp [texLook, rgbLook, Look.texPaint, Look.box]

theorem texLook_texWithin_iff (t : TokenStyle) (m : Look) :
    (texLook t).TexWithin m ↔ (rgbLook t).TexWithin m := by
  obtain ⟨col, x, y, z, bg, bd, -, -, -, -, -⟩ := t
  cases bd <;> cases bg <;> simp [texLook, rgbLook, Look.TexWithin, Look.box]

theorem texLook_eq_rgbLook {t : TokenStyle} (h : (rgbLook t).Boxed) : texLook t = rgbLook t := by
  revert h
  obtain ⟨col, x, y, z, bg, bd, -, -, -, -, -⟩ := t
  cases bd <;> cases bg <;> simp [texLook, rgbLook, Look.Boxed]

/-! ## The sheet of a style -/

section Sheets

variable (st : Built)

theorem foldlM_sheet (L : List (TokenKind × TokenStyle)) (sh₀ sh : Sheet)
    (h : L.foldlM (fun sh p => do
      let sets ← command p.2
      pure (if sets = [] then sh else (⟨assign sh.nameCommand (kindName p.1) sets⟩ : Sheet)))
      sh₀ = .ok sh) :
    (∀ p ∈ L, ∃ c, command p.2 = .ok c) ∧
      sh.nameCommand = L.foldl (fun d p =>
        if commandOf p.2 != [] then assign d (kindName p.1) (commandOf p.2) else d) sh₀.nameCommand := by
  induction L generalizing sh₀ with
  | nil =>
    cases h
    exact ⟨by simp, rfl⟩
  | cons p L ih =>
    rw [List.foldlM_cons] at h
    obtain ⟨sh₁, h₁, h⟩ := exists_of_bind_eq_ok h
    obtain ⟨c, hc, h₁⟩ := exists_of_bind_eq_ok h₁
    cases h₁
    obtain ⟨hall, heq⟩ := ih _ h
    have hof : commandOf p.2 = c := by simp [commandOf, hc]
    refine ⟨?_, ?_⟩
    · intro q hq
      rcases List.mem_cons.mp hq with rfl | hq
      · exact ⟨c, hc⟩
      · exact hall q hq
    · rw [heq, List.foldl_cons, hof]
      by_cases hcn : c = [] <;> simp [hcn]

theorem sheet_eq_ok {sh : Sheet} (h : sheet st = .ok sh) :
    (∀ p ∈ st.reports, ∃ c, command p.2 = .ok c) ∧
      sh.nameCommand = st.reports.foldl (fun d p =>
        if commandOf p.2 != [] then assign d (kindName p.1) (commandOf p.2) else d) [] :=
  foldlM_sheet _ _ _ h

variable {st}

theorem kindName_root : kindName TokenKind.root = "" := rfl

theorem kindName_text : kindName TokenKind.text = "" := rfl

theorem styleOf_of_not_mem {a : TokenKind} (ha : a ∉ st.table.map Prod.fst) :
    st.styleOf a = ({} : Style.Entry).report := by
  have hnone : st.table.lookup a = none :=
    Option.not_isSome_iff_eq_none.mp fun h => ha (lookup_isSome_iff.mp h)
  simp [Built.styleOf, hnone]

theorem commandOf_empty : commandOf ({} : Style.Entry).report = [] := rfl

theorem texLook_empty : texLook ({} : Style.Entry).report = {} := rfl

theorem setsLook_commandOf {sh : Sheet} (hsheet : sheet st = .ok sh) (a : TokenKind) :
    setsLook (commandOf (st.styleOf a)) = texLook (st.styleOf a) := by
  by_cases ha : a ∈ st.table.map Prod.fst
  · obtain ⟨c, hc⟩ := (sheet_eq_ok st hsheet).1 (a, st.styleOf a) (st.mem_reports.mpr ⟨ha, rfl⟩)
    rw [commandOf, hc]
    exact setsLook_command hc
  · rw [styleOf_of_not_mem ha]
    rfl

theorem lookup_kindName {sh : Sheet} (hsheet : sheet st = .ok sh) {a : TokenKind}
    (hown : ∀ b ∈ st.table.map Prod.fst, kindName b = kindName a → b = a) :
    (sh.nameCommand.lookup (kindName a)).getD [] = commandOf (st.styleOf a) := by
  rw [(sheet_eq_ok st hsheet).2, lookup_foldl_assign,
    st.getLast?_filter_reports (fun p => commandOf p.2 != []) kindName hown]
  split
  · simp
  · rename_i h
    simp only [Option.map_none, Option.none_or, List.lookup_nil, Option.getD_none]
    by_cases ha : a ∈ st.table.map Prod.fst
    · simpa [ha] using h
    · rw [styleOf_of_not_mem ha]
      rfl

/-- Under the empty name, shared by the root and the text kind, the sheet holds the text kind's
command, or the root's when the text kind has none: the root comes first in the table. -/
theorem lookup_emptyName {sh : Sheet} (hsheet : sheet st = .ok sh)
    (hempty : ∀ b ∈ st.table.map Prod.fst, kindName b = "" → b = TokenKind.root ∨ b = TokenKind.text) :
    (sh.nameCommand.lookup "").getD [] =
      if commandOf (st.styleOf TokenKind.text) = [] then commandOf (st.styleOf TokenKind.root)
      else commandOf (st.styleOf TokenKind.text) := by
  obtain ⟨e, rest, htbl⟩ := st.table_head
  have hreports : st.reports = (TokenKind.root, st.styleOf TokenKind.root) ::
      rest.map fun p => (p.1, p.2.report) := by
    have hroot : st.styleOf TokenKind.root = e.report := by
      simp [Built.styleOf, htbl]
    rw [Built.reports, htbl, List.map_cons, hroot]
  have hnd := st.closed.nodup
  rw [htbl, List.map_cons, List.nodup_cons] at hnd
  have htext : TokenKind.text ∈ st.table.map Prod.fst :=
    st.standard_mem (by decide)
  have htext' : (TokenKind.text, st.styleOf TokenKind.text) ∈ rest.map fun p => (p.1, p.2.report) := by
    have hmem := st.mem_reports.mpr ⟨htext, rfl⟩
    rw [hreports, List.mem_cons] at hmem
    rcases hmem with h | h
    · exact absurd (congrArg Prod.fst h) (show TokenKind.text ≠ TokenKind.root by decide)
    · exact h
  -- after the root, the only kind named by the empty name is the text kind
  have hrest := getLast?_filter_of_unique (L := rest.map fun p => (p.1, p.2.report))
    (Q := fun p => commandOf p.2 != [] && kindName p.1 == "") (x := (TokenKind.text, st.styleOf TokenKind.text))
    (by
      rintro ⟨b, r⟩ hy hq
      simp only [Bool.and_eq_true, beq_iff_eq] at hq
      have hmem : (b, r) ∈ st.reports := by rw [hreports]; exact List.mem_cons_of_mem _ hy
      obtain ⟨hb, rfl⟩ := st.mem_reports.mp hmem
      rcases hempty b hb hq.2 with rfl | rfl
      · exfalso
        apply hnd.1
        obtain ⟨q, hq', hqb⟩ := List.mem_map.mp hy
        simp only [Prod.mk.injEq] at hqb
        exact List.mem_map.mpr ⟨q, hq', hqb.1⟩
      · rfl)
  rw [(sheet_eq_ok st hsheet).2, lookup_foldl_assign, hreports, List.filter_cons]
  simp only [kindName_text, beq_self_eq_true, Bool.and_true, htext', true_and] at hrest
  by_cases ht : commandOf (st.styleOf TokenKind.text) = [] <;>
    by_cases hr : commandOf (st.styleOf TokenKind.root) = [] <;>
      simp [ht, hr, hrest, List.getLast?_cons, kindName_root]

end Sheets

/-! ## Drawing a token -/

namespace Sheet

/-- The look a token of kind `k` is drawn with: that of the macros its names set, and nothing
when it is written without `\PY`, its names being empty. -/
def drawnLook (sh : Sheet) (k : TokenKind) : Look :=
  if "+".intercalate (chainNames k) = "" then {}
  else (sh.slots ("+".intercalate (chainNames k))).look

end Sheet

theorem splitOn_chainNames {k : TokenKind} (hk : k ≠ TokenKind.root)
    (hplus : ∀ a ∈ k.chain, a ≠ TokenKind.root → '+' ∉ (kindName a).toList) :
    ("+".intercalate (chainNames k)).toList.splitOn '+' = (chainNames k).map String.toList := by
  have hmem : k ∈ k.chain.drop 1 := TokenKind.mem_chain_drop_one.mpr ⟨TokenKind.self_mem_chain k, hk⟩
  rw [String.toList_intercalate]
  apply List.splitOn_intercalate
  · intro l hl
    obtain ⟨n, hn, rfl⟩ := List.mem_map.mp hl
    obtain ⟨a, ha, rfl⟩ := List.mem_map.mp hn
    obtain ⟨ha, har⟩ := TokenKind.mem_chain_drop_one.mp ha
    exact hplus a ha har
  · exact List.ne_nil_of_mem (List.mem_map_of_mem (List.mem_map_of_mem (f := kindName) hmem))

/-- A token of a kind other than the root and the text kind, whose names have no `+` and whose
own name is not empty, is drawn with the looks of the commands of its names, one over another. -/
theorem drawnLook_eq (sh : Sheet) {k : TokenKind} (hk : k ≠ TokenKind.root)
    (hplus : ∀ a ∈ k.chain, a ≠ TokenKind.root → '+' ∉ (kindName a).toList)
    (hname : kindName k ≠ "") :
    sh.drawnLook k = Look.texStack ((k.chain.drop 1).map fun a =>
      setsLook ((sh.nameCommand.lookup (kindName a)).getD [])) := by
  have hsplit := splitOn_chainNames hk hplus
  have hne : "+".intercalate (chainNames k) ≠ "" := by
    intro h
    rw [h] at hsplit
    have hk' : kindName k ∈ chainNames k :=
      List.mem_map_of_mem (TokenKind.mem_chain_drop_one.mpr ⟨TokenKind.self_mem_chain k, hk⟩)
    have : (kindName k).toList ∈ [[]] := by
      rw [show ("" : String).toList.splitOn '+' = [[]] from rfl] at hsplit
      rw [hsplit]
      exact List.mem_map_of_mem hk'
    exact hname (String.toList_eq_nil_iff.mp (List.mem_singleton.mp this))
  rw [Sheet.drawnLook, if_neg hne, slots_look, hsplit]
  simp [chainNames, List.map_map, Function.comp_def]

theorem texStack_append_of_empty (A B : List Look) (hB : ∀ l ∈ B, l = {}) :
    Look.texStack (A ++ B) = Look.texStack A := by
  rw [Look.texStack, List.foldl_append, ← Look.texStack, Look.foldl_texPaint,
    (Look.texStack_eq_empty_iff B).mpr hB, Look.texPaint_empty]

/-- The looks of commands painted one over another end with the look a style reports for `s`,
whose command comes last, exactly when that command sets all that the others set and the look
has no border without a background, which the command draws on white. -/
theorem texStack_texLook_eq_iff (L : List Look) (s : TokenStyle) :
    Look.texStack (L ++ [texLook s]) = rgbLook s ↔
      (∀ l ∈ L, l.TexWithin (rgbLook s)) ∧ (rgbLook s).Boxed := by
  by_cases hb : (rgbLook s).Boxed
  · rw [texLook_eq_rgbLook hb, Look.texStack_append_eq_iff]
    exact ⟨fun h => ⟨h, hb⟩, fun h => h.1⟩
  · simp only [hb, and_false, iff_false]
    intro h
    -- a border without a background: the command draws a frame around white
    cases hbd : s.border with
    | none => simp [Look.Boxed, rgbLook, hbd] at hb
    | some b =>
      cases hbg : s.bgcolor with
      | some g => simp [Look.Boxed, rgbLook, hbg] at hb
      | none =>
        have hcol := congrArg Look.bgcolor h
        simp [Look.texStack_append_singleton, Look.texPaint, Look.box, texLook, rgbLook, hbd,
          hbg] at hcol

theorem rgbLook_eq_empty {t : TokenStyle} (h : command t = .ok []) : rgbLook t = {} := by
  have hl : texLook t = {} := (setsLook_command h).symm
  revert hl
  obtain ⟨col, x, y, z, bg, bd, -, -, -, -, -⟩ := t
  cases col <;> cases bd <;> cases bg <;> simp [texLook, rgbLook]

/-- No kind of the table but `a` has the LaTeX name of `a` (but that the root shares the empty
name of the text kind), and the name has no `+` in it. -/
def OwnName (st : Built) (a : TokenKind) : Prop :=
  '+' ∉ (kindName a).toList ∧ ∀ b ∈ st.table.map Prod.fst,
    kindName b = kindName a → b = a ∨ (a = TokenKind.text ∧ b = TokenKind.root)

/-- The look the name of a kind draws: that of the kind's command, but that the empty name of the
text kind draws the root's command when the text kind's sets nothing. -/
def nameLook (st : Built) (a : TokenKind) : Look :=
  if a = TokenKind.text ∧ commandOf (st.styleOf TokenKind.text) = [] then
    texLook (st.styleOf TokenKind.root)
  else texLook (st.styleOf a)

section Owner

variable {st : Built} {sh : Sheet}

theorem setsLook_lookup (hsheet : sheet st = .ok sh) {a : TokenKind} (hown : OwnName st a) :
    setsLook ((sh.nameCommand.lookup (kindName a)).getD []) = nameLook st a := by
  unfold nameLook
  by_cases hat : a = TokenKind.text
  · subst hat
    have hempty : ∀ b ∈ st.table.map Prod.fst, kindName b = "" →
        b = TokenKind.root ∨ b = TokenKind.text := by
      intro b hb hname
      rcases hown.2 b hb hname with h | h
      · exact .inr h
      · exact .inl h.2
    rw [kindName_text, lookup_emptyName hsheet hempty]
    split <;> simp_all [setsLook_commandOf hsheet]
  · have huniq : ∀ b ∈ st.table.map Prod.fst, kindName b = kindName a → b = a := by
      intro b hb hname
      rcases hown.2 b hb hname with h | h
      · exact h
      · exact absurd h.1 hat
    rw [lookup_kindName hsheet huniq, setsLook_commandOf hsheet, if_neg (fun h => hat h.1)]

/-- A token of a kind other than the root and the text kind is drawn with the looks the names
of the kinds below the root down to its owner draw, one over another: the kinds below the owner
have no command. -/
theorem drawnLook_eq_owner (hsheet : sheet st = .ok sh) {t : TokenKind}
    (ht : t ≠ TokenKind.root) (htext : t ≠ TokenKind.text)
    (hown : ∀ a ∈ t.chain, a ≠ TokenKind.root → OwnName st a) :
    sh.drawnLook t = Look.texStack (((st.owner t).chain.drop 1).map (nameLook st)) := by
  have hname : kindName t ≠ "" := by
    intro h
    rcases (hown t (TokenKind.self_mem_chain t) ht).2 _ st.root_mem (by rw [h]; rfl) with h' | h'
    · exact ht h'.symm
    · exact htext h'.1
  rw [drawnLook_eq sh ht (fun a ha har => (hown a ha har).1) hname]
  obtain ⟨hsplit, hdeep⟩ := TokenKind.chain_split (st.owner_mem_chain t)
  have hlen : 1 ≤ (st.owner t).chain.length := by
    rw [TokenKind.chain_eq_root_cons]
    simp
  rw [hsplit, List.drop_append_of_le_length hlen, List.map_append]
  have hbelow : ∀ l ∈ (t.chain.drop ((st.owner t).path.length + 1)).map
      (fun a => setsLook ((sh.nameCommand.lookup (kindName a)).getD [])), l = {} := by
    intro l hl
    obtain ⟨b, hb, rfl⟩ := List.mem_map.mp hl
    have hbt : b ∈ t.chain := List.mem_of_mem_drop hb
    have hbin : b ∉ st.table.map Prod.fst := st.not_mem_of_below_owner hbt (hdeep b hb)
    have hbr : b ≠ TokenKind.root := fun e => hbin (e ▸ st.root_mem)
    have huniq : ∀ c ∈ st.table.map Prod.fst, kindName c = kindName b → c = b := by
      intro c hc hcn
      rcases (hown b hbt hbr).2 c hc hcn with h | h
      · exact h
      · exact absurd (h.1 ▸ st.standard_mem (by decide)) hbin
    rw [lookup_kindName hsheet huniq, styleOf_of_not_mem hbin]
    rfl
  rw [texStack_append_of_empty _ _ hbelow]
  congr 1
  apply List.map_congr_left
  intro a ha
  obtain ⟨hau, har⟩ := TokenKind.mem_chain_drop_one.mp ha
  exact setsLook_lookup hsheet
    (hown a (TokenKind.chain_trans hau (st.owner_mem_chain t)) har)

theorem owner_eq_self {k : TokenKind} (hk : k ∈ st.table.map Prod.fst) : st.owner k = k := by
  obtain ⟨hu, -, hutop⟩ := st.owner_spec k
  exact TokenKind.chain_antisymm hu (hutop k (TokenKind.self_mem_chain k) hk)

theorem text_mem : TokenKind.text ∈ st.table.map Prod.fst := st.standard_mem (by decide)

/-- A token of kind `t` is drawn with the look the style reports for the nearest kind `u` of the
table at or above `t` exactly when:
* `u` sets nothing, if `t` is the root or the text kind (written without `\PY`) or `u` is the
  root (whose command no name draws);
* otherwise every kind from the top down to `u` sets only what `u` sets, a background and a
  frame counting as one box; `u` has no border without a background, which is drawn on white;
  and when the text kind is on the way and sets nothing, the root, whose command its name then
  draws, sets only what `u` sets. -/
theorem drawnLook_eq_owner_iff (hsheet : sheet st = .ok sh) (t : TokenKind)
    (hown : ∀ a ∈ t.chain, a ≠ TokenKind.root → OwnName st a) :
    sh.drawnLook t = rgbLook (st.styleOf (st.owner t)) ↔
      (t = TokenKind.root ∨ t = TokenKind.text ∨ st.owner t = TokenKind.root →
        rgbLook (st.styleOf (st.owner t)) = {}) ∧
      (t ≠ TokenKind.root → t ≠ TokenKind.text → st.owner t ≠ TokenKind.root →
        (∀ w ∈ (st.owner t).chain, w ≠ TokenKind.root →
          (rgbLook (st.styleOf w)).TexWithin (rgbLook (st.styleOf (st.owner t)))) ∧
        (rgbLook (st.styleOf (st.owner t))).Boxed ∧
        (TokenKind.text ∈ (st.owner t).chain → command (st.styleOf TokenKind.text) = .ok [] →
          (rgbLook (st.styleOf TokenKind.root)).TexWithin (rgbLook (st.styleOf (st.owner t))))) := by
  -- whether the text kind's command is empty, read from the sheet that built
  have hplain : command (st.styleOf TokenKind.text) = .ok [] ↔
      commandOf (st.styleOf TokenKind.text) = [] := by
    obtain ⟨c, hc⟩ := (sheet_eq_ok st hsheet).1 _ (st.mem_reports.mpr ⟨text_mem, rfl⟩)
    simp [commandOf, hc]
  by_cases htr : t = TokenKind.root ∨ t = TokenKind.text
  · -- written without `\PY`: nothing is drawn, and the kind is its own owner
    have hdrawn : sh.drawnLook t = {} := by
      rcases htr with rfl | rfl <;> rfl
    have hu : st.owner t = t := by
      rcases htr with rfl | rfl
      · exact owner_eq_self st.root_mem
      · exact owner_eq_self text_mem
    rw [hdrawn]
    constructor
    · intro h
      exact ⟨fun _ => h.symm, fun h₁ h₂ => absurd htr (by tauto)⟩
    · rintro ⟨h, -⟩
      exact (h (by tauto)).symm
  have ht : t ≠ TokenKind.root := fun e => htr (.inl e)
  have htt : t ≠ TokenKind.text := fun e => htr (.inr e)
  rw [drawnLook_eq_owner hsheet ht htt hown]
  obtain ⟨hu, huin, -⟩ := st.owner_spec t
  set u := st.owner t
  by_cases hur : u = TokenKind.root
  · -- no kind below the root has a command to draw
    have hnil : u.chain.drop 1 = [] := by rw [hur]; rfl
    rw [hnil, List.map_nil, Look.texStack_nil]
    constructor
    · intro h
      exact ⟨fun _ => h.symm, fun _ _ h' => absurd hur h'⟩
    · rintro ⟨h, -⟩
      exact (h (.inr (.inr hur))).symm
  obtain ⟨p, x, hpx⟩ := TokenKind.exists_snoc_of_ne_root hur
  have hdrop : u.chain.drop 1 = (⟨p⟩ : TokenKind).chain.drop 1 ++ [u] := by
    rw [hpx, TokenKind.chain_snoc, List.drop_append_of_le_length]
    rw [TokenKind.chain_eq_root_cons]
    simp
  rw [hdrop, List.map_append, List.map_singleton]
  simp only [ht, htt, hur, ne_eq, not_false_eq_true, or_self, false_implies, true_and,
    true_implies]
  -- the kinds above `u` draw what their names draw
  have habove : ∀ w ∈ (⟨p⟩ : TokenKind).chain.drop 1, w ∈ u.chain ∧ w ≠ TokenKind.root ∧ w ≠ u := by
    intro w hw
    obtain ⟨hwp, hwr⟩ := TokenKind.mem_chain_drop_one.mp hw
    refine ⟨?_, hwr, ?_⟩
    · rw [hpx, TokenKind.chain_snoc]
      exact List.mem_append_left _ hwp
    · rintro rfl
      have := TokenKind.length_le_of_mem_chain hwp
      rw [hpx] at this
      simp at this
  by_cases hut : u = TokenKind.text
  · -- the text kind's name is the empty one: it draws the root's command when its own is empty
    have hp : (⟨p⟩ : TokenKind).chain.drop 1 = [] := by
      have hpx' := hpx
      rw [hut] at hpx'
      have : p = [] := by
        have := congrArg (fun k : TokenKind => k.path.length) hpx'
        simp [TokenKind.text] at this
        exact this
      subst this
      rfl
    rw [hp, List.map_nil, List.nil_append, hut]
    have hstack : Look.texStack [nameLook st TokenKind.text] = nameLook st TokenKind.text := by
      simp [Look.texStack]
    rw [hstack, nameLook]
    by_cases hcmd : commandOf (st.styleOf TokenKind.text) = []
    · have hempty : rgbLook (st.styleOf TokenKind.text) = {} := rgbLook_eq_empty (hplain.mpr hcmd)
      simp only [hcmd, and_self, if_true, hempty]
      rw [← Look.texWithin_empty_iff, texLook_texWithin_iff]
      constructor
      · intro h
        refine ⟨fun w hw hwr => ?_, by simp [Look.Boxed], fun _ _ => h⟩
        rcases Html.mem_chain_text.mp hw with rfl | rfl
        · exact absurd rfl hwr
        · rw [hempty]
          exact Look.empty_texWithin _
      · rintro ⟨-, -, h⟩
        exact h (TokenKind.self_mem_chain _) (hplain.mpr hcmd)
    · simp only [hcmd, and_false, if_false]
      have hiff := texStack_texLook_eq_iff [] (st.styleOf TokenKind.text)
      simp only [List.nil_append, Look.texStack, List.foldl_cons, List.foldl_nil,
        Look.empty_texPaint, List.not_mem_nil, false_implies, implies_true, true_and] at hiff
      rw [hiff]
      constructor
      · intro hb
        refine ⟨fun w hw hwr => ?_, hb, fun _ h => absurd (hplain.mp h) hcmd⟩
        rcases Html.mem_chain_text.mp hw with rfl | rfl
        · exact absurd rfl hwr
        · exact Look.texWithin_refl _
      · rintro ⟨-, hb, -⟩
        exact hb
  · have hlast : nameLook st u = texLook (st.styleOf u) := by
      simp [nameLook, hut]
    rw [hlast, texStack_texLook_eq_iff]
    have hmemA : ∀ w ∈ u.chain, w ≠ TokenKind.root → w ≠ u → w ∈ (⟨p⟩ : TokenKind).chain.drop 1 := by
      intro w hw hwr hwu
      rw [hpx, TokenKind.chain_snoc, List.mem_append, List.mem_singleton] at hw
      rcases hw with hw | hw
      · exact TokenKind.mem_chain_drop_one.mpr ⟨hw, hwr⟩
      · exact absurd (hw.trans hpx.symm) hwu
    -- what the name of a kind above `u` draws sets only what `u` sets when the kind's look does,
    -- or the root's for the text kind when its own command is empty
    have hname : ∀ w, (nameLook st w).TexWithin (rgbLook (st.styleOf u)) ↔
        if w = TokenKind.text ∧ commandOf (st.styleOf TokenKind.text) = [] then
          (rgbLook (st.styleOf TokenKind.root)).TexWithin (rgbLook (st.styleOf u))
        else (rgbLook (st.styleOf w)).TexWithin (rgbLook (st.styleOf u)) := by
      intro w
      unfold nameLook
      split <;> exact texLook_texWithin_iff _ _
    constructor
    · rintro ⟨hall, hb⟩
      refine ⟨fun w hw hwr => ?_, hb, fun htu hcmd => ?_⟩
      · by_cases hwu : w = u
        · rw [hwu]
          exact Look.texWithin_refl _
        · have h := (hname w).mp (hall _ (List.mem_map_of_mem (hmemA w hw hwr hwu)))
          split at h
          · rename_i hw'
            obtain ⟨rfl, hc⟩ := hw'
            rw [rgbLook_eq_empty (hplain.mpr hc)]
            exact Look.empty_texWithin _
          · exact h
      · have htA := hmemA _ htu (by decide) (fun e => hut e.symm)
        have h := (hname _).mp (hall _ (List.mem_map_of_mem htA))
        rwa [if_pos ⟨rfl, hplain.mp hcmd⟩] at h
    · rintro ⟨hall, hb, htext⟩
      refine ⟨fun l hl => ?_, hb⟩
      obtain ⟨w, hwA, rfl⟩ := List.mem_map.mp hl
      obtain ⟨hwu, hwr, -⟩ := habove w hwA
      rw [hname]
      split
      · rename_i hw'
        obtain ⟨rfl, hc⟩ := hw'
        exact htext hwu (hplain.mpr hc)
      · exact hall w hwu hwr

end Owner

end Latex

/-! ## Styled output in HTML and LaTeX -/

namespace Style

/-- Styled output draws a token with the look its style reports for the nearest kind `u` of the
table at or above the token's kind `t` exactly when the conditions of `inlineLook_eq_owner_iff`
(HTML without classes), `classLook_eq_owner_iff` (HTML with classes) and
`drawnLook_eq_owner_iff` (LaTeX) hold, for kinds whose classes and names on the way down to `t`
are their own. A kind that sets nothing below one that sets something, or a negated attribute
below one that sets it, breaks them. -/
theorem styled_output_looks_iff (st : Built) (pre : String) (t : TokenKind)
    (hclass : ∀ a ∈ t.chain, a ≠ TokenKind.root → a ≠ TokenKind.text → Html.OwnClass st a)
    (hname : ∀ a ∈ t.chain, a ≠ TokenKind.root → Latex.OwnName st a) :
    ((Html.sheet pre st).inlineLook t = (st.styleOf (st.owner t)).look ↔
      ((st.owner t = TokenKind.root ∨ st.owner t = TokenKind.text) →
        (st.styleOf (st.owner t)).look = {}) ∧
      ((st.styleOf (st.owner t)).look = {} → ∀ w ∈ (st.owner t).chain,
        w ≠ TokenKind.root → w ≠ TokenKind.text → (st.styleOf w).look = {})) ∧
    ((Html.sheet pre st).classLook (Html.classList pre t) = (st.styleOf (st.owner t)).look ↔
      ((st.owner t = TokenKind.root ∨ st.owner t = TokenKind.text) →
        (st.styleOf (st.owner t)).look = {}) ∧
      ∀ w ∈ (st.owner t).chain, w ≠ TokenKind.root → w ≠ TokenKind.text →
        (t.nearest fun b => (TokenKind.shortName? b).isSome).path.length ≤ w.path.length →
          (st.styleOf w).look.Within (st.styleOf (st.owner t)).look) ∧
    (∀ sh, Latex.sheet st = .ok sh →
      (sh.drawnLook t = Latex.rgbLook (st.styleOf (st.owner t)) ↔
        (t = TokenKind.root ∨ t = TokenKind.text ∨ st.owner t = TokenKind.root →
          Latex.rgbLook (st.styleOf (st.owner t)) = {}) ∧
        (t ≠ TokenKind.root → t ≠ TokenKind.text → st.owner t ≠ TokenKind.root →
          (∀ w ∈ (st.owner t).chain, w ≠ TokenKind.root →
            (Latex.rgbLook (st.styleOf w)).TexWithin (Latex.rgbLook (st.styleOf (st.owner t)))) ∧
          (Latex.rgbLook (st.styleOf (st.owner t))).Boxed ∧
          (TokenKind.text ∈ (st.owner t).chain →
            Latex.command (st.styleOf TokenKind.text) = .ok [] →
              (Latex.rgbLook (st.styleOf TokenKind.root)).TexWithin
                (Latex.rgbLook (st.styleOf (st.owner t))))))) :=
  ⟨Html.inlineLook_eq_owner_iff pre st t hclass, Html.classLook_eq_owner_iff t hclass,
    fun _ hsheet => Latex.drawnLook_eq_owner_iff hsheet t hname⟩

/-- A style whose keywords are bold and whose pseudo keywords are not. -/
def boldKeywords : Spec :=
  { styles := [(TokenKind.keyword, "bold"), (TokenKind.keywordPseudo, "nobold")] }

set_option maxRecDepth 20000 in
/-- The style `boldKeywords` built. -/
def boldKeywordsStyle : Built :=
  ⟨boldKeywords, (boldKeywords.table.toOption).getD [], by decide +kernel⟩

/-- In `boldKeywords` the classes and names on the chain of a pseudo keyword are their own, and a
pseudo keyword, which sets nothing below a bold keyword, is drawn bold without classes: not with
the look its style reports. -/
theorem pseudo_keyword_drawn_bold :
    (∀ a ∈ TokenKind.keywordPseudo.chain, a ≠ TokenKind.root → a ≠ TokenKind.text →
      Html.OwnClass boldKeywordsStyle a) ∧
    (∀ a ∈ TokenKind.keywordPseudo.chain, a ≠ TokenKind.root →
      Latex.OwnName boldKeywordsStyle a) ∧
    (Html.sheet "" boldKeywordsStyle).inlineLook TokenKind.keywordPseudo ≠
      (boldKeywordsStyle.styleOf (boldKeywordsStyle.owner TokenKind.keywordPseudo)).look := by
  have hclass : ∀ a ∈ TokenKind.keywordPseudo.chain, a ≠ TokenKind.root → a ≠ TokenKind.text →
      Html.OwnClass boldKeywordsStyle a := by
    unfold Html.OwnClass
    decide
  have hname : ∀ a ∈ TokenKind.keywordPseudo.chain, a ≠ TokenKind.root →
      Latex.OwnName boldKeywordsStyle a := by
    unfold Latex.OwnName
    decide
  refine ⟨hclass, hname, fun h => ?_⟩
  have hcond :=
    ((styled_output_looks_iff boldKeywordsStyle "" TokenKind.keywordPseudo hclass hname).1.mp h).2
  revert hcond
  decide

end Style

end Highlight
