import Mathlib
import Highlight.Format.Style
import Highlight.Proofs.Grammar.ReadyMoves

/-!
# The table of a style

Building a style adds, for each key, the kinds of its chain from the root down, each only once
(`Spec.add`). So the table of a style that builds holds each of its kinds once and, with every
kind, all kinds above it (`Closed`, `Built.closed`); it holds every standard kind, the root among
them (`Built.standard_mem`). The nearest kind of the table at or above a kind
(`Built.owner`) is the first kind of the table met walking up from it
(`TokenKind.nearest_snoc`): it lies on the kind's chain, and every kind of the table on that
chain lies above it (`Built.mem_chain_owner`).

Dictionaries built by `assign` hold, under each key, the value last written to it
(`lookup_foldl_assign`).
-/

set_option autoImplicit false

namespace Highlight

/-! ## Chains -/

namespace TokenKind

theorem mem_chain_iff {a k : TokenKind} : a ∈ k.chain ↔ a.path <+: k.path := by
  obtain ⟨p⟩ := a
  obtain ⟨q⟩ := k
  simp only [chain, List.mem_map, List.mem_range, mk.injEq]
  constructor
  · rintro ⟨n, -, rfl⟩
    exact List.take_prefix n q
  · intro h
    exact ⟨p.length, by have := h.length_le; omega, (List.prefix_iff_eq_take.mp h).symm⟩

theorem self_mem_chain (k : TokenKind) : k ∈ k.chain := mem_chain_iff.mpr (List.prefix_refl _)

theorem root_mem_chain (k : TokenKind) : root ∈ k.chain := mem_chain_iff.mpr List.nil_prefix

theorem chain_trans {a b c : TokenKind} (hab : a ∈ b.chain) (hbc : b ∈ c.chain) : a ∈ c.chain :=
  mem_chain_iff.mpr ((mem_chain_iff.mp hab).trans (mem_chain_iff.mp hbc))

theorem chain_root : root.chain = [root] := rfl

theorem chain_snoc (p : List String) (x : String) :
    (⟨p ++ [x]⟩ : TokenKind).chain = (⟨p⟩ : TokenKind).chain ++ [⟨p ++ [x]⟩] := by
  unfold chain
  rw [List.length_append, List.length_singleton, List.range_succ (n := p.length + 1), List.map_append,
    List.map_singleton]
  congr 1
  · apply List.map_congr_left
    intro n hn
    rw [List.mem_range] at hn
    rw [List.take_append_of_le_length (by omega)]
  · simp

theorem eq_of_mem_chain_of_length_eq {a b k : TokenKind} (ha : a ∈ k.chain) (hb : b ∈ k.chain)
    (hlen : a.path.length = b.path.length) : a = b := by
  obtain ⟨p⟩ := a
  obtain ⟨q⟩ := b
  have hp := List.prefix_iff_eq_take.mp (mem_chain_iff.mp ha)
  have hq := List.prefix_iff_eq_take.mp (mem_chain_iff.mp hb)
  simp only at hlen hp hq
  rw [hp, hq, hlen]

theorem length_le_of_mem_chain {a k : TokenKind} (h : a ∈ k.chain) :
    a.path.length ≤ k.path.length :=
  (mem_chain_iff.mp h).length_le

theorem exists_snoc_of_ne_root {k : TokenKind} (hk : k ≠ root) :
    ∃ p x, k = ⟨p ++ [x]⟩ := by
  obtain ⟨q⟩ := k
  rcases List.eq_nil_or_concat q with rfl | ⟨p, x, rfl⟩
  · exact absurd rfl hk
  · exact ⟨p, x, by rw [List.concat_eq_append]⟩

theorem chain_antisymm {a b : TokenKind} (hab : a ∈ b.chain) (hba : b ∈ a.chain) : a = b :=
  eq_of_mem_chain_of_length_eq hab (self_mem_chain b)
    (Nat.le_antisymm (length_le_of_mem_chain hab) (length_le_of_mem_chain hba))

theorem chain_pairwise (k : TokenKind) :
    k.chain.Pairwise fun a b => a.path.length < b.path.length := by
  obtain ⟨p⟩ := k
  induction p using List.reverseRecOn with
  | nil => exact List.pairwise_singleton _ _
  | append_singleton p x ih =>
    rw [chain_snoc, List.pairwise_append]
    refine ⟨ih, List.pairwise_singleton _ _, ?_⟩
    intro a ha b hb
    rw [List.mem_singleton] at hb
    subst hb
    have : a.path.length ≤ p.length := length_le_of_mem_chain ha
    simp only [List.length_append, List.length_singleton]
    omega

theorem parent?_snoc (p : List String) (x : String) : (⟨p ++ [x]⟩ : TokenKind).parent? = some ⟨p⟩ := by
  simp [parent?]

theorem nearest_root (P : TokenKind → Bool) : root.nearest P = root := by
  simp only [nearest, chain_root, List.reverse_singleton, List.find?_singleton]
  split <;> rfl

theorem nearest_snoc (P : TokenKind → Bool) (p : List String) (x : String) :
    (⟨p ++ [x]⟩ : TokenKind).nearest P =
      if P ⟨p ++ [x]⟩ then ⟨p ++ [x]⟩ else (⟨p⟩ : TokenKind).nearest P := by
  unfold nearest
  rw [chain_snoc, List.reverse_append, List.reverse_singleton, List.singleton_append,
    List.find?_cons]
  by_cases h : P ⟨p ++ [x]⟩ <;> simp [h]

theorem chain_eq_root_cons (k : TokenKind) : k.chain = root :: k.chain.drop 1 := by
  unfold chain
  rw [List.range_succ_eq_map, List.map_cons]
  rfl

theorem mem_chain_drop_one {a k : TokenKind} : a ∈ k.chain.drop 1 ↔ a ∈ k.chain ∧ a ≠ root := by
  have hpw := chain_pairwise k
  rw [chain_eq_root_cons k, List.pairwise_cons] at hpw
  constructor
  · intro ha
    refine ⟨List.mem_of_mem_drop ha, ?_⟩
    rintro rfl
    exact absurd (hpw.1 root ha) (lt_irrefl _)
  · rintro ⟨ha, hne⟩
    rw [chain_eq_root_cons k, List.mem_cons] at ha
    exact ha.resolve_left hne

theorem chain_take {u k : TokenKind} (hu : u ∈ k.chain) :
    k.chain.take (u.path.length + 1) = u.chain := by
  have hlen := length_le_of_mem_chain hu
  have hp := List.prefix_iff_eq_take.mp (mem_chain_iff.mp hu)
  unfold chain
  rw [← List.map_take, List.take_range, Nat.min_eq_left (by omega)]
  apply List.map_congr_left
  intro i hi
  rw [List.mem_range] at hi
  rw [hp, List.take_take, Nat.min_eq_left (by omega)]

theorem chain_split {u k : TokenKind} (hu : u ∈ k.chain) :
    k.chain = u.chain ++ k.chain.drop (u.path.length + 1) ∧
      ∀ b ∈ k.chain.drop (u.path.length + 1), u.path.length < b.path.length := by
  have hsplit : k.chain = u.chain ++ k.chain.drop (u.path.length + 1) := by
    rw [← chain_take hu, List.take_append_drop]
  refine ⟨hsplit, fun b hb => ?_⟩
  have hpw := chain_pairwise k
  rw [hsplit, List.pairwise_append] at hpw
  exact hpw.2.2 u (self_mem_chain u) b hb

theorem findSome?_chain {β : Type} (f : TokenKind → Option β) (k : TokenKind) :
    k.chain.reverse.findSome? f = f (k.nearest fun a => (f a).isSome) := by
  obtain ⟨p⟩ := k
  induction p using List.reverseRecOn with
  | nil =>
    have h : (⟨[]⟩ : TokenKind) = root := rfl
    rw [h, nearest_root, chain_root, List.reverse_singleton]
    cases hf : f root <;> simp [hf]
  | append_singleton p x ih =>
    rw [nearest_snoc, chain_snoc, List.reverse_append, List.reverse_singleton,
      List.singleton_append, List.findSome?_cons, ih]
    cases hf : f ⟨p ++ [x]⟩ <;> simp [hf]

theorem nearest_mem_chain (P : TokenKind → Bool) (k : TokenKind) : k.nearest P ∈ k.chain := by
  unfold nearest
  cases h : k.chain.reverse.find? P with
  | none => exact root_mem_chain k
  | some a => exact List.mem_reverse.mp (List.mem_of_find?_eq_some h)

/-- When `P` holds of the root, the nearest kind of which `P` holds lies on the chain, `P` holds
of it, and every kind of the chain of which `P` holds lies above it. The induction is on the
kind's path from its end. -/
theorem nearest_spec (P : TokenKind → Bool) (k : TokenKind) (hroot : P root = true) :
    k.nearest P ∈ k.chain ∧ P (k.nearest P) = true ∧
      ∀ a ∈ k.chain, P a = true → a ∈ (k.nearest P).chain := by
  obtain ⟨p⟩ := k
  induction p using List.reverseRecOn with
  | nil =>
    have h : (⟨[]⟩ : TokenKind) = root := rfl
    rw [h, nearest_root]
    exact ⟨self_mem_chain _, hroot, fun a ha _ => ha⟩
  | append_singleton p x ih =>
    obtain ⟨hchain, hP, hnear⟩ := ih
    rw [nearest_snoc]
    split
    · rename_i hx
      exact ⟨self_mem_chain _, hx, fun a ha _ => ha⟩
    · rename_i hx
      refine ⟨?_, hP, ?_⟩
      · rw [chain_snoc]
        exact List.mem_append_left _ hchain
      · intro a ha hPa
        rw [chain_snoc, List.mem_append, List.mem_singleton] at ha
        rcases ha with ha | rfl
        · exact hnear a ha hPa
        · exact absurd hPa hx

end TokenKind

/-! ## Dictionaries -/

section Dictionaries
variable {α β : Type} [BEq α] [LawfulBEq α] [DecidableEq α]

theorem lookup_isSome_iff {l : List (α × β)} {a : α} :
    (l.lookup a).isSome ↔ a ∈ l.map Prod.fst := by
  induction l with
  | nil => simp
  | cons p l ih =>
    obtain ⟨k, v⟩ := p
    by_cases h : a = k
    · subst h
      simp
    · simp only [List.lookup_cons, beq_false_of_ne h, List.map_cons, List.mem_cons, h, false_or, ih]

theorem lookup_map_replace (xs : List (α × β)) (k : α) (v : β) (a : α) :
    (xs.map fun p => if p.1 == k then (k, v) else p).lookup a =
      if a = k then (if k ∈ xs.map Prod.fst then some v else none) else xs.lookup a := by
  induction xs with
  | nil => simp
  | cons p xs ih =>
    obtain ⟨k', v'⟩ := p
    simp only [beq_iff_eq] at ih ⊢
    by_cases hk : k' = k
    · subst hk
      by_cases ha : a = k'
      · simp [ha]
      · simp [List.lookup_cons, ha, beq_false_of_ne ha, ih]
    · by_cases ha : a = k'
      · subst ha
        simp [hk]
      · have hmem : k ∈ k' :: xs.map Prod.fst ↔ k ∈ xs.map Prod.fst := by
          simp [Ne.symm hk]
        simp only [List.map_cons, hk, if_false, List.lookup_cons, beq_false_of_ne ha, ih, hmem]

theorem lookup_assign (xs : List (α × β)) (k : α) (v : β) (a : α) :
    (assign xs k v).lookup a = if a = k then some v else xs.lookup a := by
  unfold assign
  split
  · rename_i hany
    have hk : k ∈ xs.map Prod.fst := by simpa using hany
    rw [lookup_map_replace]
    simp [hk]
  · rename_i hany
    have hk : k ∉ xs.map Prod.fst := by simpa using hany
    rw [List.lookup_append]
    by_cases ha : a = k
    · subst ha
      have hnone : xs.lookup a = none :=
        Option.not_isSome_iff_eq_none.mp fun h => hk (lookup_isSome_iff.mp h)
      simp [hnone]
    · cases xs.lookup a <;> simp [List.lookup_cons, ha, beq_false_of_ne ha]

omit [DecidableEq α] in
theorem lookup_eq_some_of_mem {l : List (α × β)} {a : α} {b : β} (hnd : (l.map Prod.fst).Nodup)
    (h : (a, b) ∈ l) : l.lookup a = some b := by
  induction l with
  | nil => cases h
  | cons p l ih =>
    obtain ⟨k, v⟩ := p
    rw [List.map_cons, List.nodup_cons] at hnd
    rcases List.mem_cons.mp h with h | h
    · cases h
      simp
    · have ha : a ∈ l.map Prod.fst := List.mem_map_of_mem (f := Prod.fst) h
      have hak : a ≠ k := fun hak => hnd.1 (hak ▸ ha)
      rw [List.lookup_cons, beq_false_of_ne hak]
      exact ih hnd.2 h

theorem getLast?_filter_of_unique {γ : Type} [DecidableEq γ] {L : List γ} {Q : γ → Bool} {x : γ}
    (hall : ∀ y ∈ L, Q y = true → y = x) :
    (L.filter Q).getLast? = if x ∈ L ∧ Q x = true then some x else none := by
  split
  · rename_i h
    have hne : L.filter Q ≠ [] := List.ne_nil_of_mem (List.mem_filter.mpr h)
    rw [List.getLast?_eq_some_getLast hne]
    obtain ⟨hm, hq⟩ := List.mem_filter.mp (List.getLast_mem hne)
    exact congrArg some (hall _ hm hq)
  · rename_i h
    rw [List.getLast?_eq_none_iff, List.eq_nil_iff_forall_not_mem]
    intro y hy
    obtain ⟨hm, hq⟩ := List.mem_filter.mp hy
    obtain rfl := hall y hm hq
    exact h ⟨hm, hq⟩

theorem lookup_foldl_assign {γ : Type} (P : γ → Bool) (key : γ → α) (val : γ → β)
    (L : List γ) (d : List (α × β)) (a : α) :
    (L.foldl (fun d x => if P x then assign d (key x) (val x) else d) d).lookup a =
      ((L.filter fun x => P x && key x == a).getLast?.map val).or (d.lookup a) := by
  induction L using List.reverseRecOn with
  | nil => simp
  | append_singleton L x ih =>
    rw [List.foldl_append, List.foldl_cons, List.foldl_nil, List.filter_append]
    by_cases hx : P x = true
    · rw [if_pos hx, lookup_assign]
      by_cases ha : a = key x
      · subst ha
        simp [hx]
      · have hne : (key x == a) = false := beq_false_of_ne (Ne.symm ha)
        simp [ha, hx, hne, ih]
    · rw [if_neg hx, ih]
      simp [hx]
theorem keys_assign (xs : List (α × β)) (k : α) (v : β) :
    (assign xs k v).map Prod.fst =
      if k ∈ xs.map Prod.fst then xs.map Prod.fst else xs.map Prod.fst ++ [k] := by
  unfold assign
  have hany : xs.any (·.1 == k) = true ↔ k ∈ xs.map Prod.fst := by simp
  by_cases hk : k ∈ xs.map Prod.fst
  · rw [if_pos (hany.mpr hk), if_pos hk, List.map_map]
    apply List.map_congr_left
    intro p _
    by_cases hp : p.1 = k <;> simp [hp]
  · rw [if_neg (fun h => hk (hany.mp h)), if_neg hk]
    simp

theorem mem_assign {xs : List (α × β)} {k : α} {v : β} {p : α × β} (h : p ∈ assign xs k v) :
    p ∈ xs ∨ p = (k, v) := by
  unfold assign at h
  split at h
  · obtain ⟨q, hq, rfl⟩ := List.mem_map.mp h
    by_cases hqk : q.1 = k
    · simp [hqk]
    · simp [hqk, hq]
  · simpa using h

theorem nodup_keys_foldl_assign {γ : Type} (P : γ → Bool) (key : γ → α) (val : γ → β)
    (L : List γ) {d : List (α × β)} (hd : (d.map Prod.fst).Nodup) :
    ((L.foldl (fun d x => if P x then assign d (key x) (val x) else d) d).map Prod.fst).Nodup := by
  induction L generalizing d with
  | nil => exact hd
  | cons x L ih =>
    apply ih
    dsimp only
    split
    · rw [keys_assign]
      split
      · exact hd
      · rename_i hk
        rw [← List.concat_eq_append]
        exact hd.concat hk
    · exact hd

theorem mem_foldl_assign {γ : Type} (P : γ → Bool) (key : γ → α) (val : γ → β)
    (L : List γ) {d : List (α × β)} {p : α × β}
    (h : p ∈ L.foldl (fun d x => if P x then assign d (key x) (val x) else d) d) :
    p ∈ d ∨ ∃ x ∈ L, P x ∧ p = (key x, val x) := by
  induction L generalizing d with
  | nil => exact .inl h
  | cons x L ih =>
    rcases ih h with h | ⟨y, hy, hPy, rfl⟩
    · dsimp only at h
      split at h
      · rename_i hPx
        rcases mem_assign h with h | rfl
        · exact .inl h
        · exact .inr ⟨x, List.mem_cons_self, hPx, rfl⟩
      · exact .inl h
    · exact .inr ⟨y, List.mem_cons_of_mem _ hy, hPy, rfl⟩
end Dictionaries

namespace Style

/-! ## The table of a style that builds -/

/-- A table whose kinds stand once each, with every kind above each of them, and whose first
kind is the root. -/
structure Closed (tbl : List (TokenKind × Entry)) : Prop where
  nodup : (tbl.map Prod.fst).Nodup
  above : ∀ k ∈ tbl.map Prod.fst, ∀ a ∈ k.chain, a ∈ tbl.map Prod.fst
  first : ∀ a ∈ (tbl.map Prod.fst).head?, a = TokenKind.root

theorem closed_nil : Closed [] := ⟨List.nodup_nil, by simp, by simp⟩

namespace Spec

variable (sp : Spec)

theorem add_eq_ok {tbl tbl' : List (TokenKind × Entry)} {k : TokenKind}
    (h : sp.add tbl k = .ok tbl') :
    (k ∈ tbl.map Prod.fst ∧ tbl' = tbl) ∨
      (k ∉ tbl.map Prod.fst ∧ ∃ e, sp.entry tbl k = .ok e ∧ tbl' = tbl ++ [(k, e)]) := by
  unfold add at h
  split at h
  · rename_i hk
    exact .inl ⟨lookup_isSome_iff.mp hk, (Except.ok.inj h).symm⟩
  · rename_i hk
    refine .inr ⟨fun hm => hk (lookup_isSome_iff.mpr hm), ?_⟩
    cases he : sp.entry tbl k with
    | error e => simp [he, Except.map] at h
    | ok e =>
      simp only [he, Except.map, Except.ok.injEq] at h
      exact ⟨e, rfl, h.symm⟩

theorem Closed.add {tbl tbl' : List (TokenKind × Entry)} {k : TokenKind} (hc : Closed tbl)
    (hup : ∀ a ∈ k.chain, a ≠ k → a ∈ tbl.map Prod.fst) (h : sp.add tbl k = .ok tbl') :
    Closed tbl' ∧ k ∈ tbl'.map Prod.fst ∧ ∀ a ∈ tbl.map Prod.fst, a ∈ tbl'.map Prod.fst := by
  rcases sp.add_eq_ok h with ⟨hk, rfl⟩ | ⟨hk, e, -, rfl⟩
  · exact ⟨hc, hk, fun _ ha => ha⟩
  · have hmem : ∀ a ∈ tbl.map Prod.fst, a ∈ (tbl ++ [(k, e)]).map Prod.fst := by
      intro a ha
      simp only [List.map_append, List.mem_append]
      exact .inl ha
    refine ⟨⟨?_, ?_, ?_⟩, by simp, hmem⟩
    · have hmap : (tbl ++ [(k, e)]).map Prod.fst = (tbl.map Prod.fst).concat k := by simp
      rw [hmap]
      exact hc.nodup.concat hk
    · intro k' hk' a ha
      simp only [List.map_append, List.map_cons, List.map_nil, List.mem_append,
        List.mem_singleton] at hk'
      rcases hk' with hk' | rfl
      · exact hmem a (hc.above k' hk' a ha)
      · by_cases hak : a = k'
        · simp [hak]
        · exact hmem a (hup a ha hak)
    · -- the first kind added to the empty table has nothing above it: it is the root
      intro a ha
      cases tbl with
      | nil =>
        have hroot : TokenKind.root = k := by
          by_contra hne
          simpa using hup _ (TokenKind.root_mem_chain k) hne
        simpa [← hroot] using ha.symm
      | cons p tbl => exact hc.first a (by simpa using ha)

/-- Adding the chain of a key, from the root down, keeps a table closed and adds the chain. The
induction is on the key's path from its end: the chain of a kind is that of the kind above it
followed by the kind. -/
theorem Closed.addChain {tbl : List (TokenKind × Entry)} (hc : Closed tbl) :
    ∀ (k : TokenKind) {tbl' : List (TokenKind × Entry)}, k.chain.foldlM sp.add tbl = .ok tbl' →
      Closed tbl' ∧ (∀ a ∈ k.chain, a ∈ tbl'.map Prod.fst) ∧
        ∀ a ∈ tbl.map Prod.fst, a ∈ tbl'.map Prod.fst := by
  intro k
  obtain ⟨p⟩ := k
  induction p using List.reverseRecOn with
  | nil =>
    intro tbl' h
    change [TokenKind.root].foldlM sp.add tbl = .ok tbl' at h
    have h' : sp.add tbl TokenKind.root = .ok tbl' := by simpa using h
    have hup : ∀ a ∈ TokenKind.root.chain, a ≠ TokenKind.root → a ∈ tbl.map Prod.fst := by
      simp [TokenKind.chain_root]
    obtain ⟨hc', hk, hsub⟩ := Closed.add sp hc hup h'
    refine ⟨hc', ?_, hsub⟩
    intro a ha
    change a ∈ [TokenKind.root] at ha
    rw [List.mem_singleton] at ha
    exact ha ▸ hk
  | append_singleton p x ih =>
    intro tbl' h
    rw [TokenKind.chain_snoc, List.foldlM_append] at h
    obtain ⟨tbl₁, h₁, h₂⟩ := exists_of_bind_eq_ok h
    have h₂' : sp.add tbl₁ ⟨p ++ [x]⟩ = .ok tbl' := by simpa using h₂
    obtain ⟨hc₁, hchain₁, hsub₁⟩ := ih h₁
    have hup : ∀ a ∈ (⟨p ++ [x]⟩ : TokenKind).chain, a ≠ ⟨p ++ [x]⟩ → a ∈ tbl₁.map Prod.fst := by
      intro a ha hne
      rw [TokenKind.chain_snoc, List.mem_append, List.mem_singleton] at ha
      exact ha.elim (hchain₁ a) (fun h => absurd h hne)
    obtain ⟨hc', hk, hsub⟩ := Closed.add sp hc₁ hup h₂'
    refine ⟨hc', ?_, fun a ha => hsub a (hsub₁ a ha)⟩
    intro a ha
    rw [TokenKind.chain_snoc, List.mem_append, List.mem_singleton] at ha
    rcases ha with ha | rfl
    · exact hsub a (hchain₁ a ha)
    · exact hk

theorem table_closed {tbl : List (TokenKind × Entry)} (h : sp.table = .ok tbl) :
    Closed tbl ∧ ∀ key ∈ sp.keys, ∀ a ∈ key.chain, a ∈ tbl.map Prod.fst := by
  have run : ∀ (keys : List TokenKind) {t₀ t : List (TokenKind × Entry)}, Closed t₀ →
      keys.foldlM (fun tbl key => key.chain.foldlM sp.add tbl) t₀ = .ok t →
      Closed t ∧ ∀ key ∈ keys, ∀ a ∈ key.chain, a ∈ t.map Prod.fst := by
    intro keys
    induction keys with
    | nil =>
      intro t₀ t hc h
      cases h
      exact ⟨hc, by simp⟩
    | cons key keys ih =>
      intro t₀ t hc h
      rw [List.foldlM_cons] at h
      obtain ⟨t₁, h₁, h₂⟩ := exists_of_bind_eq_ok h
      obtain ⟨hc₁, hkey, -⟩ := Closed.addChain sp hc key h₁
      obtain ⟨hc', hkeys⟩ := ih hc₁ h₂
      refine ⟨hc', ?_⟩
      intro k hk a ha
      rcases List.mem_cons.mp hk with rfl | hk
      · -- the key's chain went in first and stays: the table only grows
        have grows : ∀ (ks : List TokenKind) {u u' : List (TokenKind × Entry)}, Closed u →
            ks.foldlM (fun tbl key => key.chain.foldlM sp.add tbl) u = .ok u' →
            ∀ b ∈ u.map Prod.fst, b ∈ u'.map Prod.fst := by
          intro ks
          induction ks with
          | nil =>
            intro u u' _ h b hb
            cases h
            exact hb
          | cons k' ks ih' =>
            intro u u' hu h b hb
            rw [List.foldlM_cons] at h
            obtain ⟨u₁, h₁, h₂⟩ := exists_of_bind_eq_ok h
            obtain ⟨hu₁, -, hsub⟩ := Closed.addChain sp hu k' h₁
            exact ih' hu₁ h₂ b (hsub b hb)
        exact grows keys hc₁ h₂ a (hkey a ha)
      · exact hkeys k hk a ha
  exact run sp.keys closed_nil h

theorem standard_mem_keys {k : TokenKind} (hk : k ∈ TokenKind.standardNames.map Prod.fst) :
    k ∈ sp.keys := by
  unfold keys
  by_cases hs : (sp.styles.lookup k).isSome
  · exact List.mem_append_left _ (lookup_isSome_iff.mp hs)
  · refine List.mem_append_right _ (List.mem_filter.mpr ⟨hk, ?_⟩)
    cases h : sp.styles.lookup k <;> simp_all

end Spec

namespace Built

variable (st : Built)

theorem closed : Closed st.table := (Spec.table_closed st.spec st.builds).1

theorem standard_mem {k : TokenKind} (hk : k ∈ TokenKind.standardNames.map Prod.fst) :
    k ∈ st.table.map Prod.fst :=
  (Spec.table_closed st.spec st.builds).2 k (Spec.standard_mem_keys st.spec hk) k
    (TokenKind.self_mem_chain k)

theorem root_mem : TokenKind.root ∈ st.table.map Prod.fst :=
  st.standard_mem (by decide)

theorem chain_mem {k a : TokenKind} (hk : k ∈ st.table.map Prod.fst) (ha : a ∈ k.chain) :
    a ∈ st.table.map Prod.fst :=
  st.closed.above k hk a ha

/-! ## The owner of a kind -/

theorem owner_spec (k : TokenKind) :
    st.owner k ∈ k.chain ∧ st.owner k ∈ st.table.map Prod.fst ∧
      ∀ a ∈ k.chain, a ∈ st.table.map Prod.fst → a ∈ (st.owner k).chain := by
  have hroot : (st.table.lookup TokenKind.root).isSome = true := lookup_isSome_iff.mpr st.root_mem
  obtain ⟨hchain, hP, hnear⟩ := TokenKind.nearest_spec (fun a => (st.table.lookup a).isSome) k hroot
  exact ⟨hchain, lookup_isSome_iff.mp hP,
    fun a ha hin => hnear a ha (lookup_isSome_iff.mpr hin)⟩

theorem owner_mem_chain (k : TokenKind) : st.owner k ∈ k.chain := (st.owner_spec k).1

theorem owner_mem (k : TokenKind) : st.owner k ∈ st.table.map Prod.fst := (st.owner_spec k).2.1

theorem mem_chain_owner {k a : TokenKind} (ha : a ∈ k.chain) (hin : a ∈ st.table.map Prod.fst) :
    a ∈ (st.owner k).chain :=
  (st.owner_spec k).2.2 a ha hin

theorem not_mem_of_below_owner {k a : TokenKind} (ha : a ∈ k.chain)
    (hbelow : (st.owner k).path.length < a.path.length) : a ∉ st.table.map Prod.fst := by
  intro hin
  have := TokenKind.length_le_of_mem_chain (st.mem_chain_owner ha hin)
  omega

theorem table_head : ∃ e rest, st.table = (TokenKind.root, e) :: rest := by
  have hroot := st.root_mem
  cases htbl : st.table with
  | nil => simp [htbl] at hroot
  | cons p rest =>
    have hfirst := st.closed.first
    rw [htbl] at hfirst
    obtain ⟨a, e⟩ := p
    have ha : a = TokenKind.root := hfirst a (by simp)
    exact ⟨e, rest, by rw [ha]⟩

/-- The look the style reports for a kind: that of its entry (of the empty entry, for a kind
the table lacks). -/
def styleOf (k : TokenKind) : TokenStyle := ((st.table.lookup k).getD {}).report

theorem styleFor?_eq_some {k : TokenKind} (hk : k ∈ st.table.map Prod.fst) :
    st.styleFor? k = some (st.styleOf k) := by
  obtain ⟨e, he⟩ := Option.isSome_iff_exists.mp (lookup_isSome_iff.mpr hk)
  simp [styleFor?, styleOf, he]

theorem mem_reports {a : TokenKind} {r : TokenStyle} :
    (a, r) ∈ st.reports ↔ a ∈ st.table.map Prod.fst ∧ r = st.styleOf a := by
  constructor
  · intro h
    obtain ⟨⟨a', e⟩, he, hae⟩ := List.mem_map.mp h
    simp only [Prod.mk.injEq] at hae
    obtain ⟨rfl, rfl⟩ := hae
    refine ⟨List.mem_map_of_mem (f := Prod.fst) he, ?_⟩
    simp [styleOf, lookup_eq_some_of_mem st.closed.nodup he]
  · rintro ⟨ha, rfl⟩
    obtain ⟨e, he⟩ := Option.isSome_iff_exists.mp (lookup_isSome_iff.mpr ha)
    have hmem : (a, e) ∈ st.table := by
      obtain ⟨l₁, l₂, hl, -⟩ := List.lookup_eq_some_iff.mp he
      rw [hl]
      simp
    exact List.mem_map.mpr ⟨(a, e), hmem, by simp [styleOf, he]⟩

/-- Of the reports that `P` keeps, the last whose kind has the name of `a` is that of `a`, when
no other kind of the table has that name; there is none when the table lacks `a` or `P` drops
its report. -/
theorem getLast?_filter_reports {γ : Type} [BEq γ] [LawfulBEq γ] (P : TokenKind × TokenStyle → Bool)
    (name : TokenKind → γ) {a : TokenKind}
    (huniq : ∀ b ∈ st.table.map Prod.fst, name b = name a → b = a) :
    (st.reports.filter fun p => P p && name p.1 == name a).getLast? =
      if a ∈ st.table.map Prod.fst ∧ P (a, st.styleOf a) then some (a, st.styleOf a) else none := by
  rw [getLast?_filter_of_unique (x := (a, st.styleOf a))]
  · have hcond : ((a, st.styleOf a) ∈ st.reports ∧ (P (a, st.styleOf a) && name a == name a) = true) ↔
        (a ∈ st.table.map Prod.fst ∧ P (a, st.styleOf a) = true) := by
      simp [st.mem_reports]
    simp only [hcond]
  · rintro ⟨b, r⟩ hmem hq
    simp only [Bool.and_eq_true, beq_iff_eq] at hq
    obtain ⟨hb, rfl⟩ := st.mem_reports.mp hmem
    obtain rfl := huniq b hb hq.2
    rfl

theorem lookup_reports (k : TokenKind) :
    st.reports.lookup k = (st.table.lookup k).map Entry.report := by
  unfold reports
  induction st.table with
  | nil => rfl
  | cons p l ih =>
    obtain ⟨k', e⟩ := p
    by_cases hk : k = k'
    · subst hk
      simp
    · simp [List.lookup_cons, beq_false_of_ne hk, ih]

end Built

end Style

end Highlight
