import Mathlib
import Highlight.Format.Latex
import Highlight.Proofs.Format.LatexLooks

/-!
# The colours LaTeX output can write

A style keeps a colour as `colorFormat` reads it: none, an ansi name, six characters, or a
`var…` or `calc…` value (`keptColor_of_colorFormat`); every word of a definition sets at most
one colour, to such a colour, so the table of a style holds no other colour (`Built.kept`).

LaTeX output writes a colour as three fractions of 255, each read from a pair of characters by
`int(pair, 16)` (`rgbcolor`), and it writes every colour of every kind's look when it sets up
the commands of a style (`sheet`): one colour whose pairs are not three numbers stops the
set-up (`sheet_ok_iff`).

The main result (`latex_setup_ok_iff`) says exactly which styles LaTeX output can be set up for:
those whose table holds only colours that are none, an ansi name as a colour or a background
(the style reports it as the colour it stands for, but reports a border as it is written), or
six characters of three pairs that `int(pair, 16)` reads. A `var…` or `calc…` value, which a
style accepts and HTML output writes as it is, is never one (`not_texColor_of_var`).
-/

set_option autoImplicit false

namespace Highlight

theorem foldlM_except_inv {σ α ε : Type} {f : σ → α → Except ε σ} (I : σ → Prop)
    (hf : ∀ s x s', I s → f s x = .ok s' → I s') :
    ∀ {l : List α} {s s' : σ}, I s → l.foldlM f s = .ok s' → I s'
  | [], _, _, hs, h => by
    cases h
    exact hs
  | x :: l, s, _, hs, h => by
    rw [List.foldlM_cons] at h
    obtain ⟨s₁, h₁, h⟩ := exists_of_bind_eq_ok h
    exact foldlM_except_inv I hf (hf s x s₁ hs h₁) h

theorem exists_of_map_eq_ok {ε α β : Type} {x : Except ε α} {f : α → β} {r : β}
    (h : x.map f = .ok r) : ∃ a, x = .ok a ∧ f a = r := by
  cases x with
  | error e => cases h
  | ok a => exact ⟨a, rfl, Except.ok.inj h⟩

theorem map_ok_iff {ε α β : Type} (x : Except ε α) (f : α → β) :
    (∃ r, x.map f = .ok r) ↔ ∃ a, x = .ok a := by
  cases x <;> simp [Except.map]

theorem bind_ok_iff {ε α β : Type} (x : Except ε α) (f : α → Except ε β) :
    (∃ r, x >>= f = .ok r) ↔ ∃ a, x = .ok a ∧ ∃ r, f a = .ok r := by
  cases x <;> simp [bind, Except.bind]

theorem mapM_ok_iff {ε α β : Type} (f : α → Except ε β) (l : List α) :
    (∃ r, l.mapM f = .ok r) ↔ ∀ x ∈ l, ∃ r, f x = .ok r := by
  induction l with
  | nil => simp [pure, Except.pure]
  | cons x l ih =>
    simp only [List.mapM_cons, bind_ok_iff, List.forall_mem_cons, ← ih]
    simp [pure, Except.pure]

namespace Style

/-! ## The colours a style keeps -/

/-- A colour as a style keeps it: none, an ansi name, six characters, or a `var…` or `calc…`
value. -/
def KeptColor (c : String) : Prop :=
  c = "" ∨ (ansiColors.lookup c).isSome ∨ c.toList.length = 6 ∨
    "var".toList.isPrefixOf c.toList ∨ "calc".toList.isPrefixOf c.toList

theorem keptColor_of_colorFormat {w c : String} (h : colorFormat w = some c) : KeptColor c := by
  unfold colorFormat at h
  split at h
  · cases h
    exact .inr (.inl ‹_›)
  · split at h
    · cases h
      exact .inl rfl
    · rename_i x col _
      split at h
      · split at h
        · -- `#` and three characters, each written twice
          cases h
          exact .inr (.inr (.inl (by simp)))
        · split at h
          · cases h
            exact .inr (.inr (.inl (by simpa using ‹_›)))
          · cases h
      · split at h
        · cases h
          rename_i hvar
          simp only [Bool.or_eq_true] at hvar
          rw [← ‹w.toList = x :: col›] at hvar
          exact .inr (.inr (.inr hvar))
        · cases h

theorem keptColor_of_readColor {w c : String} (h : readColor w = .ok c) : KeptColor c := by
  unfold readColor at h
  split at h
  · cases h
    exact keptColor_of_colorFormat ‹_›
  · cases h

/-- An entry whose colour, background and border are colours a style keeps. -/
structure Entry.Kept (e : Entry) : Prop where
  color : KeptColor e.color
  bgcolor : KeptColor e.bgcolor
  border : KeptColor e.border

theorem Entry.kept_empty : Entry.Kept {} := ⟨.inl rfl, .inl rfl, .inl rfl⟩

theorem Entry.Kept.word {e e' : Entry} {w : String} (he : e.Kept) (h : e.word w = .ok e') :
    e'.Kept := by
  have keep : ∀ e₁ : Entry, e₁.color = e.color → e₁.bgcolor = e.bgcolor → e₁.border = e.border →
      e₁.Kept := fun _ h₁ h₂ h₃ => ⟨h₁ ▸ he.color, h₂ ▸ he.bgcolor, h₃ ▸ he.border⟩
  unfold Entry.word at h
  repeat' (rw [ite_eq_iff] at h; rcases h with ⟨-, h⟩ | ⟨-, h⟩)
  -- seven words set or clear a flag
  iterate 7 (cases h; exact keep _ rfl rfl rfl)
  · -- a background
    obtain ⟨c, hc, rfl⟩ := exists_of_map_eq_ok h
    exact ⟨he.color, keptColor_of_readColor hc, he.border⟩
  · -- a border
    obtain ⟨c, hc, rfl⟩ := exists_of_map_eq_ok h
    exact ⟨he.color, he.bgcolor, keptColor_of_readColor hc⟩
  -- three words set a font
  iterate 3 (cases h; exact keep _ rfl rfl rfl)
  · -- any other word is the colour
    obtain ⟨c, hc, rfl⟩ := exists_of_map_eq_ok h
    exact ⟨keptColor_of_readColor hc, he.bgcolor, he.border⟩

namespace Spec

variable (sp : Spec)

theorem entry_kept {tbl : List (TokenKind × Entry)} {k : TokenKind} {e : Entry}
    (htbl : ∀ p ∈ tbl, p.2.Kept) (h : sp.entry tbl k = .ok e) : e.Kept := by
  have hlookup : ∀ {a : TokenKind} {e₁ : Entry}, tbl.lookup a = some e₁ → e₁.Kept := by
    intro a e₁ hl
    obtain ⟨l₁, l₂, rfl, -⟩ := List.lookup_eq_some_iff.mp hl
    exact htbl (a, e₁) (by simp)
  unfold entry at h
  refine foldlM_except_inv Entry.Kept (fun _ _ _ hs hw => hs.word hw) ?_ h
  split
  · exact Entry.kept_empty
  · rename_i e₀ he₀
    split
    · cases hr : tbl.lookup TokenKind.root with
      | none => exact Entry.kept_empty
      | some e₁ => exact hlookup hr
    · obtain ⟨p, -, hp⟩ := Option.bind_eq_some_iff.mp he₀
      exact hlookup hp

theorem add_kept {tbl tbl' : List (TokenKind × Entry)} {k : TokenKind}
    (htbl : ∀ p ∈ tbl, p.2.Kept) (h : sp.add tbl k = .ok tbl') : ∀ p ∈ tbl', p.2.Kept := by
  rcases sp.add_eq_ok h with ⟨-, rfl⟩ | ⟨-, e, he, rfl⟩
  · exact htbl
  · intro p hp
    rcases List.mem_append.mp hp with hp | hp
    · exact htbl p hp
    · rw [List.mem_singleton.mp hp]
      exact sp.entry_kept htbl he

theorem table_kept {tbl : List (TokenKind × Entry)} (h : sp.table = .ok tbl) :
    ∀ p ∈ tbl, p.2.Kept := by
  refine foldlM_except_inv (fun t => ∀ p ∈ t, p.2.Kept) ?_ (by simp) h
  intro t key t' ht hkey
  exact foldlM_except_inv (fun t => ∀ p ∈ t, p.2.Kept) (fun _ _ _ hs ha => sp.add_kept hs ha) ht hkey

end Spec

theorem Built.kept (st : Built) : ∀ p ∈ st.table, p.2.Kept := st.spec.table_kept st.builds

/-- The colours of a look: its colour, its background and its border. -/
def TokenStyle.colors (t : TokenStyle) : List String :=
  t.color.toList ++ t.bgcolor.toList ++ t.border.toList

end Style

namespace Latex

open Style

/-! ## Colours that LaTeX output writes -/

/-- Whether the first six characters of a colour are three pairs that `int(pair, 16)` reads. -/
def hexStart : List Char → Bool
  | a :: b :: d :: e :: f :: g :: _ =>
    (shortHex? [a, b]).isSome && (shortHex? [d, e]).isSome && (shortHex? [f, g]).isSome
  | _ => false

/-- A colour LaTeX output can write: none, or one that starts with three pairs that
`int(pair, 16)` reads. -/
def Writable (c : String) : Prop := c = "" ∨ hexStart c.toList = true

instance : DecidablePred Writable :=
  fun c => inferInstanceAs (Decidable (c = "" ∨ hexStart c.toList = true))

/-- A colour as a style keeps it that LaTeX output writes: none, an ansi name where the style
reports the colour it stands for (`ansi`), or six characters of three pairs that
`int(pair, 16)` reads. -/
def TexColor (ansi : Bool) (c : String) : Prop :=
  c = "" ∨ (ansi = true ∧ (ansiColors.lookup c).isSome) ∨
    (c.toList.length = 6 ∧ hexStart c.toList = true)

instance (ansi : Bool) : DecidablePred (TexColor ansi) := fun c =>
  inferInstanceAs (Decidable (c = "" ∨ (ansi = true ∧ (ansiColors.lookup c).isSome) ∨
    (c.toList.length = 6 ∧ hexStart c.toList = true)))

theorem hexStart_of_pair_none {a b : Char} (cs : List Char) (h : shortHex? [a, b] = none) :
    hexStart (a :: b :: cs) = false := by
  match cs with
  | d :: e :: f :: g :: _ => simp [hexStart, h]
  | [] | [_] | [_, _] | [_, _, _] => rfl

theorem hexStart_of_second_pair_none {a b d e : Char} (cs : List Char)
    (h : shortHex? [d, e] = none) : hexStart (a :: b :: d :: e :: cs) = false := by
  match cs with
  | f :: g :: _ => simp [hexStart, h]
  | [] | [_] => rfl

theorem ansiColors_spec :
    ∀ p ∈ ansiColors, p.1.toList.head? = some 'a' ∧ hexStart p.1.toList = false ∧
      hexStart p.2.toList = true := by
  decide

theorem ansi_spec {c : String} (h : (ansiColors.lookup c).isSome) :
    c.toList.head? = some 'a' ∧ hexStart c.toList = false ∧
      ∃ v, ansiColors.lookup c = some v ∧ hexStart v.toList = true := by
  obtain ⟨v, hv⟩ := Option.isSome_iff_exists.mp h
  obtain ⟨l₁, l₂, hl, -⟩ := List.lookup_eq_some_iff.mp hv
  have hmem : (c, v) ∈ ansiColors := by simp [hl]
  obtain ⟨ha, hs, hv'⟩ := ansiColors_spec _ hmem
  exact ⟨ha, hs, v, hv, hv'⟩

/-! ## Setting up the commands -/

theorem pairAt_ok_iff (cs : List Char) (i : Nat) :
    (∃ n, pairAt cs i = .ok n) ↔
      ∃ a b rest, cs.drop i = a :: b :: rest ∧ (shortHex? [a, b]).isSome := by
  unfold pairAt
  split
  · rename_i a b rest hd
    cases h : shortHex? [a, b] <;> simp [hd, h]
  · rename_i hd
    simp only [reduceCtorEq, exists_const, false_iff, not_exists, not_and]
    intro a b rest h
    exact absurd h (hd a b rest)

theorem hexStart_iff (cs : List Char) :
    hexStart cs = true ↔
      ∀ i ∈ [0, 2, 4], ∃ a b rest, cs.drop i = a :: b :: rest ∧ (shortHex? [a, b]).isSome := by
  simp only [List.forall_mem_cons, List.not_mem_nil, IsEmpty.forall_iff, implies_true, and_true]
  rcases cs with _ | ⟨a, _ | ⟨b, _ | ⟨d, _ | ⟨e, _ | ⟨f, _ | ⟨g, rest⟩⟩⟩⟩⟩⟩ <;>
    simp [hexStart, and_assoc]

theorem rgbcolor_ok_iff (c : String) : (∃ s, rgbcolor c = .ok s) ↔ Writable c := by
  unfold rgbcolor Writable
  by_cases hc : c = ""
  · simp [hc]
  · rw [if_neg hc, bind_ok_iff, hexStart_iff]
    simp only [pure, Except.pure, Except.ok.injEq, exists_eq', and_true, mapM_ok_iff,
      pairAt_ok_iff, hc, false_or]

theorem colorSets_ok_iff (o : Option String) :
    (∃ s, colorSets o = .ok s) ↔ ∀ c ∈ o.toList, Writable c := by
  cases o with
  | none => simp [colorSets, pure, Except.pure]
  | some c => simp [colorSets, map_ok_iff, rgbcolor_ok_iff]

theorem boxSets_ok_iff (b g : Option String) :
    (∃ s, boxSets b g = .ok s) ↔ ∀ c ∈ b.toList ++ g.toList, Writable c := by
  have hwhite : Writable "" := .inl rfl
  cases b with
  | none =>
    cases g with
    | none => simp [boxSets, pure, Except.pure]
    | some g => simp [boxSets, map_ok_iff, rgbcolor_ok_iff]
  | some b =>
    cases g with
    | none => simp [boxSets, bind_ok_iff, map_ok_iff, rgbcolor_ok_iff, hwhite]
    | some g => simp [boxSets, bind_ok_iff, map_ok_iff, rgbcolor_ok_iff, and_comm]

theorem command_ok_iff (t : TokenStyle) :
    (∃ sets, command t = .ok sets) ↔ ∀ c ∈ t.colors, Writable c := by
  -- the command is written when its colour and its box are
  have hok : (∃ sets, command t = .ok sets) ↔
      (∃ s, colorSets t.color = .ok s) ∧ ∃ s, boxSets t.border t.bgcolor = .ok s := by
    unfold command
    simp [bind_ok_iff, pure, Except.pure]
  rw [hok, colorSets_ok_iff, boxSets_ok_iff]
  simp only [TokenStyle.colors, List.forall_mem_append]
  tauto

theorem foldlM_sheet_ok (L : List (TokenKind × TokenStyle)) (sh₀ : Sheet)
    (h : ∀ p ∈ L, ∃ c, command p.2 = .ok c) :
    ∃ sh, L.foldlM (fun sh p => do
      let sets ← command p.2
      pure (if sets = [] then sh else (⟨assign sh.nameCommand (kindName p.1) sets⟩ : Sheet)))
      sh₀ = .ok sh := by
  induction L generalizing sh₀ with
  | nil => exact ⟨sh₀, rfl⟩
  | cons p L ih =>
    obtain ⟨c, hc⟩ := h p List.mem_cons_self
    rw [List.foldlM_cons, hc]
    exact ih _ fun q hq => h q (List.mem_cons_of_mem _ hq)

theorem sheet_ok_iff (st : Built) :
    (∃ sh, sheet st = .ok sh) ↔ ∀ p ∈ st.reports, ∀ c ∈ p.2.colors, Writable c := by
  constructor
  · rintro ⟨sh, h⟩ p hp
    exact (command_ok_iff p.2).mp ((sheet_eq_ok st h).1 p hp)
  · intro h
    exact foldlM_sheet_ok _ _ fun p hp => (command_ok_iff p.2).mpr (h p hp)

/-! ## Which kept colours LaTeX output writes -/

theorem hexStart_var {cs : List Char}
    (h : "var".toList.isPrefixOf cs ∨ "calc".toList.isPrefixOf cs) : hexStart cs = false := by
  rcases h with h | h <;> obtain ⟨rest, rfl⟩ := List.isPrefixOf_iff_prefix.mp h
  · -- `v` is no digit
    exact hexStart_of_pair_none ('r' :: rest) (by decide)
  · -- `c` and `a` are digits, `l` is none
    exact hexStart_of_second_pair_none rest (by decide)

theorem writable_iff_of_kept {c : String} (hc : KeptColor c) (hne : c ≠ "")
    (hansi : (ansiColors.lookup c).isSome = false) :
    Writable c ↔ c.toList.length = 6 ∧ hexStart c.toList = true := by
  unfold Writable
  simp only [hne, false_or]
  rcases hc with hc | hc | hc | hc
  · exact absurd hc hne
  · simp [hansi] at hc
  · simp [hc]
  · simp [hexStart_var hc]

/-- The colour and the background of an entry, as the style reports them, can be written
exactly when they are colours LaTeX output writes, an ansi name counting as the colour it stands
for. -/
theorem writable_reportColor_iff {c : String} (hc : KeptColor c) :
    (∀ x ∈ (reportColor c).toList, Writable x) ↔ TexColor true c := by
  by_cases hne : c = ""
  · simp [reportColor, hne, TexColor]
  by_cases hansi : (ansiColors.lookup c).isSome
  · obtain ⟨-, -, v, hv, hvs⟩ := ansi_spec hansi
    simp [reportColor, hne, hv, Writable, hvs, TexColor]
  · have hnone : ansiColors.lookup c = none := Option.not_isSome_iff_eq_none.mp hansi
    rw [Bool.not_eq_true] at hansi
    simp [reportColor, hne, hnone, writable_iff_of_kept hc hne hansi, TexColor]

theorem writable_border_iff {c : String} (hc : KeptColor c) :
    (∀ x ∈ (if c = "" then none else some c).toList, Writable x) ↔ TexColor false c := by
  by_cases hne : c = ""
  · simp [hne, TexColor]
  by_cases hansi : (ansiColors.lookup c).isSome
  · -- an ansi name starts with `an`, no number
    obtain ⟨-, hs, -⟩ := ansi_spec hansi
    simp [hne, Writable, hs, TexColor]
  · rw [Bool.not_eq_true] at hansi
    simp [hne, writable_iff_of_kept hc hne hansi, TexColor]

theorem report_colors_writable_iff {e : Style.Entry} (he : e.Kept) :
    (∀ c ∈ e.report.colors, Writable c) ↔
      TexColor true e.color ∧ TexColor true e.bgcolor ∧ TexColor false e.border := by
  rw [← writable_reportColor_iff he.color, ← writable_reportColor_iff he.bgcolor,
    ← writable_border_iff he.border]
  simp only [TokenStyle.colors, Entry.report, List.mem_append]
  constructor
  · intro h
    exact ⟨fun x hx => h x (.inl (.inl hx)), fun x hx => h x (.inl (.inr hx)),
      fun x hx => h x (.inr hx)⟩
  · rintro ⟨h₁, h₂, h₃⟩ x ((hx | hx) | hx)
    exacts [h₁ x hx, h₂ x hx, h₃ x hx]

/-- LaTeX output can be set up for a style exactly when every colour of its table is none, an
ansi name (as a colour or a background, not as a border), or six characters of three pairs that
`int(pair, 16)` reads. -/
theorem latex_setup_ok_iff (st : Built) :
    (∃ sh, sheet st = .ok sh) ↔
      ∀ p ∈ st.table, TexColor true p.2.color ∧ TexColor true p.2.bgcolor ∧
        TexColor false p.2.border := by
  rw [sheet_ok_iff]
  constructor
  · intro h p hp
    exact (report_colors_writable_iff (st.kept p hp)).mp (h (p.1, p.2.report) (List.mem_map_of_mem hp))
  · intro h q hq
    obtain ⟨p, hp, rfl⟩ := List.mem_map.mp hq
    exact (report_colors_writable_iff (st.kept p hp)).mpr (h p hp)

theorem not_texColor_of_var {c : String} (ansi : Bool)
    (h : "var".toList.isPrefixOf c.toList ∨ "calc".toList.isPrefixOf c.toList) :
    ¬ TexColor ansi c := by
  have hhead : c.toList.head? = some 'v' ∨ c.toList.head? = some 'c' := by
    rcases h with h | h <;> obtain ⟨rest, hrest⟩ := List.isPrefixOf_iff_prefix.mp h <;>
      simp [← hrest]
  rintro (rfl | ⟨-, hansi⟩ | ⟨-, hs⟩)
  · simp at hhead
  · -- an ansi name starts with `a`
    rw [(ansi_spec hansi).1] at hhead
    simp at hhead
  · rw [hexStart_var h] at hs
    cases hs

/-- A style whose keywords have a `var…` colour. -/
def varKeywords : Spec := { styles := [(TokenKind.keyword, "var(--x)")] }

set_option maxRecDepth 20000 in
/-- The style `varKeywords` built. -/
def varKeywordsStyle : Built :=
  ⟨varKeywords, (varKeywords.table.toOption).getD [], by decide +kernel⟩

/-- LaTeX output cannot be set up for a style whose keywords have a `var…` colour, though the
style accepts it. -/
theorem var_keywords_not_set_up : ¬ ∃ sh, sheet varKeywordsStyle = .ok sh := by
  rw [latex_setup_ok_iff]
  intro h
  have hkw : (TokenKind.keyword, ({ color := "var(--x)" } : Style.Entry)) ∈
      varKeywordsStyle.table := by
    decide +kernel
  exact not_texColor_of_var true (.inl (by decide)) (h _ hkw).1

end Latex

end Highlight
