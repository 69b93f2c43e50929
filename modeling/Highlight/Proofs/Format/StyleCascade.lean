import Mathlib
import Highlight.Proofs.Format.StyleTable

/-!
# How the looks of a style cascade

Building a style (`Spec.table`) walks its keys in order and, for each, the kinds of its chain
from the root down, giving each kind it has not met yet the look of the kind above it, or that of
the root when the kind's definition says `noinherit`, changed by the words of its definition. The
look a kind gets does not depend on that walk. With `c₀ … cₙ` the chain of a kind and `c_k` the
last kind of it below the root whose definition says `noinherit` (`k = 0` when there is none),
the look is the words of the definitions of `c_k … cₙ` applied in order, to the root's look when
`k > 0` and to the empty entry when `k = 0` (`Spec.cascade`).

The main result (`Spec.table_cascades`) says that a style whose definitions use only words it
accepts (`Spec.Valid`) builds; that its table holds exactly the kinds of the chains of its keys,
so every kind above a key; that each kind of the table has the look the cascade gives it; and
that definitions listed in another order build a table with the same look for every kind.

One step of the cascade reads the look of the kind above (`cascade_snoc`), as adding a kind to
the table does (`entry_eq_cascade`); the walk over chains and keys keeps the table in agreement
with the cascade (`Agrees`, `addChain_agrees`, `table_agrees`).
-/

set_option autoImplicit false

namespace Highlight.Style

/-- A word a style accepts: a word that names no colour, or whose colour the style reads. -/
def WordOk (w : String) : Prop := (Entry.word {} w).isOk = true

theorem isOk_map {ε α β : Type} (x : Except ε α) (f : α → β) : (x.map f).isOk = x.isOk := by
  cases x <;> rfl

theorem isOk_ok {ε α : Type} (a : α) : (Except.ok a : Except ε α).isOk = true := rfl

theorem word_isOk (e : Entry) (w : String) : (e.word w).isOk = (Entry.word {} w).isOk := by
  unfold Entry.word
  simp only [apply_ite Except.isOk, isOk_map, isOk_ok]

theorem word_ok_of_wordOk {w : String} (hw : WordOk w) (e : Entry) : ∃ e', e.word w = .ok e' := by
  have h := word_isOk e w
  rw [hw] at h
  cases hword : e.word w with
  | error m => rw [hword] at h; cases h
  | ok e' => exact ⟨e', rfl⟩

theorem foldlM_word_ok {ws : List String} (hws : ∀ w ∈ ws, WordOk w) (e : Entry) :
    ∃ e', ws.foldlM Entry.word e = .ok e' := by
  induction ws generalizing e with
  | nil => exact ⟨e, rfl⟩
  | cons w ws ih =>
    obtain ⟨e₁, h₁⟩ := word_ok_of_wordOk (hws w List.mem_cons_self) e
    obtain ⟨e₂, h₂⟩ := ih (fun v hv => hws v (List.mem_cons_of_mem w hv)) e₁
    exact ⟨e₂, by rw [List.foldlM_cons, h₁]; exact h₂⟩

namespace Spec

variable (sp : Spec)

/-- Definitions a style accepts: every word of each of them. -/
def Valid : Prop := ∀ p ∈ sp.styles, ∀ w ∈ words p.2, WordOk w

/-- Whether the look of a kind starts again from that of the root: the kind is not the root and
its definition says `noinherit`. -/
def resets (k : TokenKind) : Bool :=
  k != TokenKind.root && (words (sp.definition k)).contains "noinherit"

/-- The words of the definitions of some kinds, one kind after another. -/
def wordsOf (ks : List TokenKind) : List String := ks.flatMap fun c => words (sp.definition c)

/-- The look the definitions give a kind `t` whose chain is `c₀ … cₙ`, from the look `top` of
the root: with `c_k` the last kind of the chain that resets (`k = 0` when none does), the words
of `c_k … cₙ` applied in order, to `top` when `k > 0` and to the empty entry when `k = 0`. -/
def cascade (top : Entry) (t : TokenKind) : Except String Entry :=
  let k := (t.nearest sp.resets).path.length
  (sp.wordsOf (t.chain.drop k)).foldlM Entry.word (if k = 0 then {} else top)

/-- The look of the root: the words of its definition applied to the empty entry. -/
def rootLook : Except String Entry := (words (sp.definition TokenKind.root)).foldlM Entry.word {}

/-- A table whose kinds have the looks the cascade gives them from `top`. -/
def Agrees (top : Entry) (tbl : List (TokenKind × Entry)) : Prop :=
  ∀ t ∈ tbl.map Prod.fst, ∃ e, tbl.lookup t = some e ∧ sp.cascade top t = .ok e

/-! ## The cascade -/

theorem length_chain (k : TokenKind) : k.chain.length = k.path.length + 1 := by
  simp [TokenKind.chain]

theorem cascade_root (top : Entry) : sp.cascade top TokenKind.root = sp.rootLook := by
  have hpath : TokenKind.root.path = [] := rfl
  simp [cascade, rootLook, wordsOf, TokenKind.nearest_root, TokenKind.chain_root, hpath]

theorem cascade_snoc (top : Entry) (p : List String) (x : String) :
    sp.cascade top ⟨p ++ [x]⟩ =
      (if sp.resets ⟨p ++ [x]⟩ then pure top else sp.cascade top ⟨p⟩) >>=
        (words (sp.definition ⟨p ++ [x]⟩)).foldlM Entry.word := by
  unfold cascade
  rw [TokenKind.nearest_snoc, TokenKind.chain_snoc]
  by_cases hx : sp.resets ⟨p ++ [x]⟩
  · have hdrop : ((⟨p⟩ : TokenKind).chain ++ [(⟨p ++ [x]⟩ : TokenKind)]).drop (p ++ [x]).length =
        [(⟨p ++ [x]⟩ : TokenKind)] := by
      rw [List.drop_append_of_le_length (by rw [length_chain]; simp), List.length_append,
        List.length_singleton, ← length_chain, List.drop_length, List.nil_append]
    simp only [hx, if_true, hdrop, wordsOf, List.flatMap_singleton, pure_bind]
    rw [if_neg (by simp)]
  · -- the kind that resets lies above, so the chain is cut where it was for the kind above
    have hle : ((⟨p⟩ : TokenKind).nearest sp.resets).path.length ≤ (⟨p⟩ : TokenKind).chain.length :=
      (TokenKind.length_le_of_mem_chain (TokenKind.nearest_mem_chain _ _)).trans
        (by rw [length_chain]; simp)
    simp only [hx, Bool.false_eq_true, if_false, List.drop_append_of_le_length hle, wordsOf,
      List.flatMap_append, List.flatMap_singleton, List.foldlM_append]

theorem cascade_ok (hv : sp.Valid) (top : Entry) (t : TokenKind) :
    ∃ e, sp.cascade top t = .ok e := by
  have hdef : ∀ k, ∀ w ∈ words (sp.definition k), WordOk w := by
    intro k w hw
    unfold definition at hw
    cases hl : sp.styles.lookup k with
    | none => simp [hl] at hw; cases hw
    | some d =>
      obtain ⟨l₁, l₂, hsplit, -⟩ := List.lookup_eq_some_iff.mp hl
      exact hv (k, d) (by rw [hsplit]; simp) w (by simpa [hl] using hw)
  apply foldlM_word_ok
  intro w hw
  obtain ⟨c, -, hc⟩ := List.mem_flatMap.mp hw
  exact hdef c w hc

theorem rootLook_ok (hv : sp.Valid) : ∃ top, sp.rootLook = .ok top := by
  obtain ⟨e, he⟩ := sp.cascade_ok hv {} TokenKind.root
  exact ⟨e, by rw [← cascade_root sp {}]; exact he⟩

/-! ## The table agrees with the cascade -/

/-- A kind added to a table that agrees with the cascade, and holds the kinds above it, gets the
look of the cascade: the entry of the kind above it is its look, and that of the root is `top`. -/
theorem entry_eq_cascade {top : Entry} {tbl : List (TokenKind × Entry)} {k : TokenKind}
    (htop : sp.rootLook = .ok top) (hagree : sp.Agrees top tbl)
    (hup : ∀ a ∈ k.chain, a ≠ k → a ∈ tbl.map Prod.fst) :
    sp.entry tbl k = sp.cascade top k := by
  by_cases hk : k = TokenKind.root
  · subst hk
    rw [cascade_root]
    rfl
  · obtain ⟨p, x, rfl⟩ := TokenKind.exists_snoc_of_ne_root hk
    have hne : (⟨p⟩ : TokenKind) ≠ ⟨p ++ [x]⟩ := by simp
    obtain ⟨ep, hlp, hcp⟩ := hagree _ (hup _ (by simp [TokenKind.chain_snoc,
      TokenKind.self_mem_chain]) hne)
    obtain ⟨er, hlr, hcr⟩ := hagree _ (hup _ (TokenKind.root_mem_chain _) (Ne.symm hk))
    rw [cascade_root, htop, Except.ok.injEq] at hcr
    subst hcr
    have hres : sp.resets ⟨p ++ [x]⟩ = (words (sp.definition ⟨p ++ [x]⟩)).contains "noinherit" := by
      simp [resets, hk]
    rw [cascade_snoc, hres, hcp]
    simp only [entry, TokenKind.parent?_snoc, Option.bind_eq_bind, Option.bind_some, hlp, hlr,
      Option.getD_some]
    split <;> rfl

theorem add_agrees (hv : sp.Valid) {top : Entry} {tbl : List (TokenKind × Entry)} {k : TokenKind}
    (htop : sp.rootLook = .ok top) (hagree : sp.Agrees top tbl)
    (hup : ∀ a ∈ k.chain, a ≠ k → a ∈ tbl.map Prod.fst) :
    ∃ tbl', sp.add tbl k = .ok tbl' ∧ sp.Agrees top tbl' ∧
      ∀ t, t ∈ tbl'.map Prod.fst ↔ t ∈ tbl.map Prod.fst ∨ t = k := by
  unfold add
  split
  · rename_i hk
    refine ⟨tbl, rfl, hagree, fun t => ⟨.inl, ?_⟩⟩
    rintro (ht | rfl)
    · exact ht
    · exact lookup_isSome_iff.mp hk
  · rename_i hk
    have hnone : tbl.lookup k = none := Option.not_isSome_iff_eq_none.mp hk
    obtain ⟨e, he⟩ := sp.cascade_ok hv top k
    rw [sp.entry_eq_cascade htop hagree hup, he]
    refine ⟨tbl ++ [(k, e)], rfl, ?_, fun t => by simp⟩
    intro t ht
    simp only [List.map_append, List.map_cons, List.map_nil, List.mem_append,
      List.mem_singleton] at ht
    rcases ht with ht | rfl
    · obtain ⟨e', hl, hc⟩ := hagree t ht
      exact ⟨e', by rw [List.lookup_append, hl]; rfl, hc⟩
    · exact ⟨e, by rw [List.lookup_append, hnone]; simp, he⟩

/-- Adding the chain of a kind, from the root down, to a table that agrees with the cascade
succeeds, keeps the agreement and adds the chain. The induction is on the kind's path from its
end, as the chain of a kind is that of the kind above it followed by the kind. -/
theorem addChain_agrees (hv : sp.Valid) {top : Entry} (htop : sp.rootLook = .ok top) :
    ∀ (k : TokenKind) {tbl : List (TokenKind × Entry)}, sp.Agrees top tbl →
      ∃ tbl', k.chain.foldlM sp.add tbl = .ok tbl' ∧ sp.Agrees top tbl' ∧
        ∀ t, t ∈ tbl'.map Prod.fst ↔ t ∈ tbl.map Prod.fst ∨ t ∈ k.chain := by
  intro k
  obtain ⟨p⟩ := k
  induction p using List.reverseRecOn with
  | nil =>
    intro tbl hagree
    have hup : ∀ a ∈ TokenKind.root.chain, a ≠ TokenKind.root → a ∈ tbl.map Prod.fst := by
      simp [TokenKind.chain_root]
    obtain ⟨tbl', hadd, hagree', hmem⟩ := sp.add_agrees hv htop hagree hup
    refine ⟨tbl', ?_, hagree', fun t => ?_⟩
    · change [TokenKind.root].foldlM sp.add tbl = .ok tbl'
      simpa using hadd
    · change _ ↔ _ ∨ t ∈ [TokenKind.root]
      rw [hmem, List.mem_singleton]
  | append_singleton p x ih =>
    intro tbl hagree
    obtain ⟨tbl₁, h₁, hagree₁, hmem₁⟩ := ih hagree
    have hup : ∀ a ∈ (⟨p ++ [x]⟩ : TokenKind).chain, a ≠ ⟨p ++ [x]⟩ → a ∈ tbl₁.map Prod.fst := by
      intro a ha hne
      rw [TokenKind.chain_snoc, List.mem_append, List.mem_singleton] at ha
      exact (hmem₁ a).mpr (.inr (ha.resolve_right hne))
    obtain ⟨tbl', h₂, hagree', hmem'⟩ := sp.add_agrees hv htop hagree₁ hup
    refine ⟨tbl', ?_, hagree', fun t => ?_⟩
    · rw [TokenKind.chain_snoc, List.foldlM_append, h₁]
      exact (bind_pure _).trans h₂
    rw [hmem', hmem₁, TokenKind.chain_snoc]
    simp [or_assoc]

theorem table_agrees (hv : sp.Valid) {top : Entry} (htop : sp.rootLook = .ok top) :
    ∃ tbl, sp.table = .ok tbl ∧ sp.Agrees top tbl ∧
      ∀ t, t ∈ tbl.map Prod.fst ↔ ∃ key ∈ sp.keys, t ∈ key.chain := by
  have run : ∀ (keys : List TokenKind) {t₀ : List (TokenKind × Entry)}, sp.Agrees top t₀ →
      ∃ t, keys.foldlM (fun tbl key => key.chain.foldlM sp.add tbl) t₀ = .ok t ∧
        sp.Agrees top t ∧ ∀ a, a ∈ t.map Prod.fst ↔ a ∈ t₀.map Prod.fst ∨ ∃ key ∈ keys, a ∈ key.chain := by
    intro keys
    induction keys with
    | nil => exact fun {t₀} h => ⟨t₀, rfl, h, by simp⟩
    | cons key keys ih =>
      intro t₀ h
      obtain ⟨t₁, h₁, hagree₁, hmem₁⟩ := sp.addChain_agrees hv htop key h
      obtain ⟨t, h₂, hagree, hmem⟩ := ih hagree₁
      refine ⟨t, by rw [List.foldlM_cons, h₁]; exact h₂, hagree, fun a => ?_⟩
      rw [hmem, hmem₁]
      simp [or_assoc]
  obtain ⟨t, h, hagree, hmem⟩ := run sp.keys (by simp [Agrees] : sp.Agrees top [])
  exact ⟨t, h, hagree, fun a => by rw [hmem]; simp⟩

theorem lookup_of_agrees {top : Entry} {tbl : List (TokenKind × Entry)} (hagree : sp.Agrees top tbl)
    (t : TokenKind) :
    tbl.lookup t = if t ∈ tbl.map Prod.fst then (sp.cascade top t).toOption else none := by
  split
  · rename_i ht
    obtain ⟨e, hl, hc⟩ := hagree t ht
    rw [hl, hc]
    rfl
  · rename_i ht
    exact Option.not_isSome_iff_eq_none.mp fun h => ht (lookup_isSome_iff.mp h)

/-! ## The order of the definitions -/

theorem lookup_perm {α β : Type} [BEq α] [LawfulBEq α] [DecidableEq α] {l l' : List (α × β)}
    (hnd : (l.map Prod.fst).Nodup) (hperm : l'.Perm l) (a : α) : l'.lookup a = l.lookup a := by
  have hnd' : (l'.map Prod.fst).Nodup := ((hperm.map Prod.fst).nodup_iff).mpr hnd
  cases hl : l.lookup a with
  | some b =>
    obtain ⟨l₁, l₂, hsplit, -⟩ := List.lookup_eq_some_iff.mp hl
    have hmem : (a, b) ∈ l := by rw [hsplit]; simp
    exact lookup_eq_some_of_mem hnd' (hperm.mem_iff.mpr hmem)
  | none =>
    have hnot : a ∉ l'.map Prod.fst := by
      rw [(hperm.map Prod.fst).mem_iff, ← lookup_isSome_iff, hl]
      simp
    exact Option.not_isSome_iff_eq_none.mp fun h => hnot (lookup_isSome_iff.mp h)

variable {sp} {sp' : Spec}

theorem definition_perm (hnd : (sp.styles.map Prod.fst).Nodup) (hperm : sp'.styles.Perm sp.styles) :
    sp'.definition = sp.definition := by
  funext k
  simp only [definition, lookup_perm hnd hperm]

theorem mem_keys_perm (hnd : (sp.styles.map Prod.fst).Nodup) (hperm : sp'.styles.Perm sp.styles)
    (k : TokenKind) : k ∈ sp'.keys ↔ k ∈ sp.keys := by
  simp only [keys, List.mem_append, List.mem_filter, lookup_perm hnd hperm,
    (hperm.map Prod.fst).mem_iff]

theorem valid_perm (hv : sp.Valid) (hperm : sp'.styles.Perm sp.styles) : sp'.Valid :=
  fun p hp => hv p (hperm.mem_iff.mp hp)

theorem cascade_congr (h : sp'.definition = sp.definition) : sp'.cascade = sp.cascade := by
  have hres : sp'.resets = sp.resets := by
    funext k
    simp only [resets, h]
  funext top t
  simp only [cascade, hres, wordsOf, h]

/-- What a table says about the kinds of a style: it holds exactly the kinds of the chains of
the style's keys, each with the look the cascade gives it from the look of the root, and the
same definitions listed in any other order build a table that gives every kind the same look. -/
structure Cascades (sp : Spec) (tbl : List (TokenKind × Entry)) : Prop where
  mem_iff : ∀ t, t ∈ tbl.map Prod.fst ↔ ∃ key ∈ sp.keys, t ∈ key.chain
  lookup_eq : ∀ t ∈ tbl.map Prod.fst,
    tbl.lookup t = (sp.cascade ((tbl.lookup TokenKind.root).getD {}) t).toOption
  reorder : ∀ sp' : Spec, (sp.styles.map Prod.fst).Nodup → sp'.styles.Perm sp.styles →
    ∃ tbl', sp'.table = .ok tbl' ∧ ∀ t, tbl'.lookup t = tbl.lookup t

/-- A style whose definitions use only words it accepts builds, and its table is that of the
cascade, whatever the order of the definitions. -/
theorem table_cascades (sp : Spec) (hv : sp.Valid) : ∃ tbl, sp.table = .ok tbl ∧ sp.Cascades tbl := by
  obtain ⟨top, htop⟩ := sp.rootLook_ok hv
  obtain ⟨tbl, hbuild, hagree, hmem⟩ := sp.table_agrees hv htop
  -- the root is a kind of the table, with the root's look
  have hroot : tbl.lookup TokenKind.root = some top := by
    have hin : TokenKind.root ∈ tbl.map Prod.fst :=
      (hmem _).mpr ⟨_, sp.standard_mem_keys (by decide : TokenKind.root ∈ _),
        TokenKind.root_mem_chain _⟩
    obtain ⟨e, hl, hc⟩ := hagree _ hin
    rw [cascade_root, htop, Except.ok.injEq] at hc
    rw [hl, hc]
  refine ⟨tbl, hbuild, hmem, fun t ht => ?_, fun sp' hnd hperm => ?_⟩
  · rw [hroot, Option.getD_some, sp.lookup_of_agrees hagree, if_pos ht]
  · have hdef := definition_perm hnd hperm
    have htop' : sp'.rootLook = .ok top := by rw [rootLook, hdef]; exact htop
    obtain ⟨tbl', hbuild', hagree', hmem'⟩ := sp'.table_agrees (valid_perm hv hperm) htop'
    refine ⟨tbl', hbuild', fun t => ?_⟩
    have hsame : t ∈ tbl'.map Prod.fst ↔ t ∈ tbl.map Prod.fst := by
      simp only [hmem', hmem, mem_keys_perm hnd hperm]
    rw [sp'.lookup_of_agrees hagree', sp.lookup_of_agrees hagree, cascade_congr hdef]
    simp only [hsame]

/-- A style with bold red keywords whose pseudo keywords start again from the root, in italic. -/
def resetKeywords : Spec :=
  { styles := [(TokenKind.keyword, "bold #f00"), (TokenKind.keywordPseudo, "noinherit italic")] }

theorem resetKeywords_cascades :
    resetKeywords.Valid ∧ ∃ tbl, resetKeywords.table = .ok tbl ∧ resetKeywords.Cascades tbl :=
  have hv : resetKeywords.Valid := by
    unfold Valid WordOk
    decide +kernel
  ⟨hv, table_cascades resetKeywords hv⟩

end Spec

end Highlight.Style
