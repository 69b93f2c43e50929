import Highlight.Lexer.Insertions

/-!
# Insertions go in at their offsets

`insertTokens` puts lists of tokens into a token stream at offsets of its text, cutting the
token that spans an offset. For a stream whose offsets are exact from 0 (`Token.ExactFrom`:
each token starts where the text before it ends) and insertions in the order of their
offsets (`Ordered`), the result again has exact offsets from 0, and its text is the stream's
text with the texts of the insertions spliced in at their offsets (`splice`). This is
`insertTokens_spec`.

The proof follows the stream token by token. `within_spec` cuts one token at the insertions
that fall within it; `Inserting.After` is the invariant of the fold over the tokens, which
`Inserting.take_after` keeps; the insertions past the end go in last
(`Inserting.foldl_emitLeftover`).
-/

set_option autoImplicit false

namespace Highlight

namespace Token

/-- Tokens whose offsets are exact from `n` on: each starts where the text before it ends,
the first at `n`. -/
def ExactFrom : Nat → List Token → Prop
  | _, [] => True
  | n, t :: ts => t.start = n ∧ ExactFrom (n + t.text.length) ts

/-- The characters of the texts of tokens, one after another. -/
def chars (ts : List Token) : List Char := ts.flatMap (·.text.toList)

@[simp] theorem chars_nil : chars [] = [] := rfl

@[simp] theorem chars_cons (t : Token) (ts : List Token) :
    chars (t :: ts) = t.text.toList ++ chars ts := rfl

@[simp] theorem chars_append (xs ys : List Token) : chars (xs ++ ys) = chars xs ++ chars ys := by
  simp [chars]

theorem toList_concat (ts : List Token) : (concat ts).toList = chars ts := by
  simp [concat, chars, String.toList_join, List.flatMap_map]

@[simp] theorem exactFrom_nil (n : Nat) : ExactFrom n [] := trivial

@[simp] theorem exactFrom_cons (n : Nat) (t : Token) (ts : List Token) :
    ExactFrom n (t :: ts) ↔ t.start = n ∧ ExactFrom (n + t.text.length) ts := Iff.rfl

theorem exactFrom_append {xs ys : List Token} :
    ∀ {n : Nat}, ExactFrom n (xs ++ ys) ↔ ExactFrom n xs ∧ ExactFrom (n + (chars xs).length) ys := by
  induction xs with
  | nil => simp
  | cons t xs ih =>
    intro n
    simp only [List.cons_append, exactFrom_cons, ih, chars_cons, List.length_append,
      String.length_toList, Nat.add_assoc, and_assoc]

/-- Tokens placed one after another from offset `p` on. -/
def placeFrom : Nat → List Token → List Token
  | _, [] => []
  | p, t :: ts => { t with start := p } :: placeFrom (p + t.text.length) ts

theorem exactFrom_placeFrom : ∀ (p : Nat) (ts : List Token), ExactFrom p (placeFrom p ts)
  | _, [] => trivial
  | _, _ :: ts => ⟨rfl, exactFrom_placeFrom _ ts⟩

@[simp] theorem chars_placeFrom : ∀ (p : Nat) (ts : List Token), chars (placeFrom p ts) = chars ts
  | _, [] => rfl
  | p, t :: ts => by simp [placeFrom, chars_placeFrom _ ts]

theorem placeFrom_append : ∀ (p : Nat) (xs ys : List Token),
    placeFrom p (xs ++ ys) = placeFrom p xs ++ placeFrom (p + (chars xs).length) ys
  | _, [], _ => rfl
  | p, t :: xs, ys => by
    simp [placeFrom, placeFrom_append _ xs ys, Nat.add_assoc, String.length_toList]

end Token

open Token

/-! ## Splicing insertions into a text -/

/-- The characters `rest`, which stand from offset `pos` of a text on, with the texts of the
insertions put in at their offsets, offsets counted in the text without insertions. -/
def splice (pos : Nat) (rest : List Char) : List (Nat × List Token) → List Char
  | [] => rest
  | (i, its) :: ins => rest.take (i - pos) ++ chars its ++ splice i (rest.drop (i - pos)) ins

/-- Insertions in the order of their offsets. -/
def Ordered (ins : List (Nat × List Token)) : Prop := ins.Pairwise fun a b => a.1 ≤ b.1

theorem splice_append_left {pos : Nat} {a b : List Char} {ins : List (Nat × List Token)}
    (h : ∀ x ∈ ins, pos + a.length ≤ x.1) :
    splice pos (a ++ b) ins = a ++ splice (pos + a.length) b ins := by
  cases ins with
  | nil => rfl
  | cons x ins =>
    obtain ⟨i, its⟩ := x
    have hi : pos + a.length ≤ i := h _ List.mem_cons_self
    have hsub : i - pos = a.length + (i - (pos + a.length)) := by omega
    simp only [splice, hsub, List.take_append, List.drop_append, List.take_of_length_le
      (Nat.le_add_right _ _), List.drop_of_length_le (Nat.le_add_right _ _),
      Nat.add_sub_cancel_left, List.nil_append, List.append_assoc]

theorem splice_append {a b : List Char} {I T : List (Nat × List Token)} :
    ∀ {pos : Nat}, Ordered I → (∀ x ∈ I, pos ≤ x.1 ∧ x.1 ≤ pos + a.length) →
      (∀ x ∈ T, pos + a.length ≤ x.1) →
      splice pos (a ++ b) (I ++ T) = splice pos a I ++ splice (pos + a.length) b T := by
  induction I generalizing a with
  | nil => intro pos _ _ hT; exact splice_append_left hT
  | cons x I ih =>
    intro pos hord hI hT
    obtain ⟨i, its⟩ := x
    obtain ⟨hlo, hhi⟩ := hI _ List.mem_cons_self
    have hord' : Ordered I := (List.pairwise_cons.mp hord).2
    have hI' : ∀ y ∈ I, i ≤ y.1 ∧ y.1 ≤ i + (a.drop (i - pos)).length := by
      intro y hy
      have := (List.pairwise_cons.mp hord).1 y hy
      have := (hI y (List.mem_cons_of_mem _ hy)).2
      simp only [List.length_drop]
      omega
    have hT' : ∀ y ∈ T, i + (a.drop (i - pos)).length ≤ y.1 := by
      intro y hy
      have := hT y hy
      simp only [List.length_drop]
      omega
    have hlen : i + (a.drop (i - pos)).length = pos + a.length := by
      simp only [List.length_drop]
      omega
    simp only [List.cons_append, splice, List.take_append_of_le_length (by omega : i - pos ≤ a.length),
      List.drop_append_of_le_length (by omega : i - pos ≤ a.length), ih hord' hI' hT', hlen,
      List.append_assoc]

theorem length_splice : ∀ (pos : Nat) (rest : List Char) (ins : List (Nat × List Token)),
    (splice pos rest ins).length = rest.length + (ins.flatMap fun x => chars x.2).length
  | _, _, [] => by simp [splice]
  | pos, rest, (i, its) :: ins => by
    simp only [splice, List.length_append, length_splice i _ ins, List.flatMap_cons,
      List.length_take, List.length_drop]
    omega

/-! ## Emitting and cutting tokens -/

namespace Inserting

theorem emitAll_eq : ∀ (ts : List Token) (st : Inserting) (p : Nat), st.realPos = some p →
    st.emitAll ts = ⟨st.pending, some (p + (chars ts).length), (placeFrom p ts).reverse ++ st.out⟩
  | [], ⟨_, _, _⟩, p, h => by simp_all [emitAll, placeFrom]
  | t :: ts, st, p, h => by
    have step : st.emitAll (t :: ts) =
        Inserting.emitAll ⟨st.pending, some (p + t.text.length), { t with start := p } :: st.out⟩ ts := by
      simp [emitAll, h]
    rw [step, emitAll_eq ts _ _ rfl]
    simp [placeFrom, Nat.add_assoc, String.length_toList]

end Inserting

theorem sliceChars_natCast {v : List Char} {k j : Nat} (h1 : k ≤ j) (h2 : j ≤ v.length) :
    sliceChars v k j = (v.drop k).take (j - k) := by
  have hk : min (k : Int) v.length = k := by omega
  have hj : min (j : Int) v.length = j := by omega
  have hk' : ¬ (k : Int) < 0 := by omega
  have hj' : ¬ (j : Int) < 0 := by omega
  simp [sliceChars, hk, hj, hk', hj']

section Within
variable (t : Token)

/-- The part of a token before an offset, as the tokens it is emitted as: none when it is
empty. -/
def cutPart (cut : List Char) : List Token :=
  if cut.isEmpty then [] else [{ t with text := String.ofList cut }]

@[simp] theorem chars_cutPart (cut : List Char) : chars (cutPart t cut) = cut := by
  unfold cutPart
  split
  · rename_i h; simp_all
  · simp

theorem within_insert (fuel index : Nat) (its : List Token) (rest : List (Nat × List Token))
    (out : List Token) (k p : Nat) (hk : t.start + k ≤ index)
    (hin : index ≤ t.start + t.text.length) :
    Inserting.within t t.text.toList (fuel + 1) ⟨(index, its) :: rest, some p, out⟩ k =
      Inserting.within t t.text.toList fuel
        ⟨rest, some (p + (index - t.start - k) + (chars its).length),
          (placeFrom (p + (index - t.start - k)) its).reverse ++
            (placeFrom p (cutPart t ((t.text.toList.drop k).take (index - t.start - k)))).reverse ++
              out⟩
        ((index - t.start : Nat) : Int) := by
  have hcast : ((index : Int) - t.start) = ((index - t.start : Nat) : Int) := by omega
  have hslice : sliceChars t.text.toList k ((index - t.start : Nat) : Int) =
      (t.text.toList.drop k).take (index - t.start - k) :=
    sliceChars_natCast (by omega) (by simp only [String.length_toList]; omega)
  have hcutlen : ((t.text.toList.drop k).take (index - t.start - k)).length = index - t.start - k := by
    simp only [List.length_take, List.length_drop, String.length_toList]; omega
  simp only [Inserting.within, String.length_toList, ge_iff_le, hin, if_true, hcast, hslice]
  generalize (t.text.toList.drop k).take (index - t.start - k) = cut at hcutlen ⊢
  rw [← hcutlen]
  -- the part before the insertion is emitted unless it is empty
  have hcut : (if cut.isEmpty = true then (⟨(index, its) :: rest, some p, out⟩ : Inserting)
      else Inserting.emitAll ⟨(index, its) :: rest, some p, out⟩ [{ t with text := String.ofList cut }]) =
      ⟨(index, its) :: rest, some (p + cut.length), (placeFrom p (cutPart t cut)).reverse ++ out⟩ := by
    unfold cutPart
    split
    · rename_i h
      simp_all [placeFrom]
    · rw [Inserting.emitAll_eq _ _ p rfl]
      simp
  rw [hcut, Inserting.emitAll_eq _ _ _ rfl]
  simp only [List.append_assoc]

/-- **Cutting a token at the insertions within it**: the insertions that fall within the
token or at its end go in, each after the part of the token before its offset. What is
emitted, followed by the rest of the token, is the token's text from `k` on with those
insertions spliced in; the insertions past the token are left. -/
theorem within_spec : ∀ (fuel : Nat) (pending : List (Nat × List Token)) (out : List Token)
    (k p : Nat), k ≤ t.text.length → (∀ x ∈ pending, t.start + k ≤ x.1) → Ordered pending →
    pending.length ≤ fuel →
    ∃ (k' : Nat) (X : List Token),
      Inserting.within t t.text.toList fuel ⟨pending, some p, out⟩ k =
        (⟨pending.dropWhile (fun x => x.1 ≤ t.start + t.text.length),
          some (p + (chars X).length), (placeFrom p X).reverse ++ out⟩, (k' : Int)) ∧
      k ≤ k' ∧ k' ≤ t.text.length ∧
      chars X ++ t.text.toList.drop k' =
        splice (t.start + k) (t.text.toList.drop k)
          (pending.takeWhile (fun x => x.1 ≤ t.start + t.text.length))
  | fuel, [], out, k, p, hk, _, _, _ => by
    refine ⟨k, [], ?_, Nat.le_refl _, hk, by simp [splice]⟩
    cases fuel <;> simp [Inserting.within, placeFrom]
  | 0, _ :: _, _, _, _, _, _, _, hlen => by simp at hlen
  | fuel + 1, (index, its) :: rest, out, k, p, hk, hge, hord, hlen => by
    by_cases hin : index ≤ t.start + t.text.length
    · -- the insertion falls within the token: cut there, insert, and go on from it
      have hidx : t.start + k ≤ index := hge _ List.mem_cons_self
      have hrest : ∀ x ∈ rest, t.start + (index - t.start) ≤ x.1 := by
        intro x hx
        have := (List.pairwise_cons.mp hord).1 x hx
        omega
      obtain ⟨k', X, hrun, hk1, hk2, hchars⟩ := within_spec fuel rest _ (index - t.start) _
        (by omega) hrest (List.pairwise_cons.mp hord).2 (by simp at hlen; omega)
      refine ⟨k', cutPart t ((t.text.toList.drop k).take (index - t.start - k)) ++ its ++ X,
        ?_, by omega, hk2, ?_⟩
      · rw [within_insert t fuel index its rest out k p hidx hin, hrun]
        have hcut : ((t.text.toList.drop k).take (index - t.start - k)).length = index - t.start - k := by
          simp only [List.length_take, List.length_drop, String.length_toList]; omega
        simp [hin, placeFrom_append, hcut, Nat.add_assoc]
      · have hdrop : (t.text.toList.drop k).drop (index - (t.start + k)) =
            t.text.toList.drop (index - t.start) := by
          rw [List.drop_drop]; congr 1; omega
        have hstart : t.start + (index - t.start) = index := by omega
        rw [hstart] at hchars
        simp only [List.takeWhile_cons, hin, decide_true, if_true, splice, hdrop, ← hchars,
          chars_append, chars_cutPart, List.append_assoc, Nat.sub_sub]
    · -- the insertion lies past the token: nothing goes in
      refine ⟨k, [], ?_, Nat.le_refl _, hk, ?_⟩
      · simp [Inserting.within, hin, placeFrom, String.length_toList]
      · simp [hin, splice]

end Within

/-! ## The whole stream -/

theorem Ordered.right {I P : List (Nat × List Token)} (h : Ordered (I ++ P)) : Ordered P :=
  (List.pairwise_append.mp h).2.1

theorem Ordered.left {I P : List (Nat × List Token)} (h : Ordered (I ++ P)) : Ordered I :=
  (List.pairwise_append.mp h).1

theorem Ordered.lt_of_mem_dropWhile {c : Nat} :
    ∀ {P : List (Nat × List Token)}, Ordered P →
      ∀ x ∈ P.dropWhile (fun x => x.1 ≤ c), c < x.1
  | [], _, _, hx => by simp at hx
  | y :: P, hord, x, hx => by
    by_cases hy : y.1 ≤ c
    · simp only [List.dropWhile_cons, hy, decide_true, if_true] at hx
      exact Ordered.lt_of_mem_dropWhile (List.pairwise_cons.mp hord).2 x hx
    · simp only [List.dropWhile_cons, hy, decide_false, Bool.false_eq_true, if_false] at hx
      rcases List.mem_cons.mp hx with rfl | hx
      · omega
      · have := (List.pairwise_cons.mp hord).1 x hx
        omega

/-- The state of inserting after the tokens `done` of a stream with exact offsets from 0:
the insertions up to the end of `done` are in, written with exact offsets after the text of
`done`, and the others are pending. Before the first token nothing is written. -/
def Inserting.After (ins : List (Nat × List Token)) (done : List Token) (st : Inserting) : Prop :=
  (st.realPos = none → st.out = [] ∧ done = []) ∧
  st.realPos.getD 0 = (chars st.out.reverse).length ∧ ExactFrom 0 st.out.reverse ∧
  ∃ I, ins = I ++ st.pending ∧ (∀ x ∈ I, x.1 ≤ (chars done).length) ∧
    (∀ x ∈ st.pending, (chars done).length ≤ x.1) ∧ chars st.out.reverse = splice 0 (chars done) I

/-- **One token of the stream** keeps the invariant: the insertions within it go in, and
the rest of it after them. -/
theorem Inserting.take_after {ins : List (Nat × List Token)} {done : List Token} {st : Inserting}
    (t : Token) (hord : Ordered ins) (hst : Inserting.After ins done st)
    (ht : t.start = (chars done).length) : Inserting.After ins (done ++ [t]) (st.take t) := by
  obtain ⟨hnone, hpos, hexact, I, hins, hI, hP, hchars⟩ := hst
  obtain ⟨q, hq⟩ : ∃ q, q = (chars st.out.reverse).length := ⟨_, rfl⟩
  -- offsets are counted from the start of the token if nothing is written yet
  have hstart : (if st.realPos.isNone then { st with realPos := some t.start } else st) =
      ⟨st.pending, some q, st.out⟩ := by
    cases hr : st.realPos with
    | none =>
      obtain ⟨hout, rfl⟩ := hnone hr
      simp [ht, hq, hout]
    | some r =>
      simp only [hr, Option.getD_some] at hpos
      cases st
      simp_all
  have hord' : Ordered st.pending := by rw [hins] at hord; exact hord.right
  obtain ⟨k', X, hrun, -, hk', hX⟩ := within_spec t (st.pending.length + 1) st.pending st.out 0 q
    (Nat.zero_le _) (by simpa [ht] using hP) hord' (Nat.le_succ _)
  rw [show ((0 : Nat) : Int) = 0 from rfl] at hrun
  have htail : chars (cutPart t (t.text.toList.drop k')) = t.text.toList.drop k' := chars_cutPart _ _
  have hnext : st.take t = ⟨st.pending.dropWhile (fun x => x.1 ≤ t.start + t.text.length),
      some (q + (chars (X ++ cutPart t (t.text.toList.drop k'))).length),
      (placeFrom q (X ++ cutPart t (t.text.toList.drop k'))).reverse ++ st.out⟩ := by
    unfold Inserting.take
    rw [hstart]
    dsimp only
    rw [hrun]
    dsimp only
    have hL : t.text.toList.length = t.text.length := String.length_toList
    have hslice : sliceChars t.text.toList k' t.text.toList.length = t.text.toList.drop k' := by
      rw [sliceChars_natCast (by rw [hL]; exact hk') (Nat.le_refl _)]
      exact List.take_of_length_le (by simp)
    split
    · -- the rest of the token after the last insertion in it
      rename_i hlt
      have hne : (t.text.toList.drop k').isEmpty = false := by
        simp only [List.isEmpty_eq_false_iff, ne_eq, List.drop_eq_nil_iff]
        omega
      rw [Inserting.emitAll_eq _ _ _ rfl, hslice]
      simp [cutPart, hne, placeFrom_append, Nat.add_assoc]
    · rename_i hge
      have hnil : t.text.toList.drop k' = [] := by
        simp only [List.drop_eq_nil_iff]
        omega
      simp [hnil, cutPart]
  have hL : t.text.toList.length = t.text.length := String.length_toList
  have hmem : ∀ x ∈ st.pending.takeWhile (fun x => x.1 ≤ t.start + t.text.length),
      x.1 ≤ t.start + t.text.length := fun x hx => by
    simpa using List.all_eq_true.mp List.all_takeWhile x hx
  rw [hnext]
  refine ⟨fun h => by simp at h, ?_, ?_, I ++ st.pending.takeWhile (fun x => x.1 ≤ t.start + t.text.length),
    ?_, ?_, ?_, ?_⟩
  · simp [hq]
  · rw [List.reverse_append, List.reverse_reverse, exactFrom_append]
    exact ⟨hexact, by simpa [← hq] using exactFrom_placeFrom q _⟩
  · rw [List.append_assoc, List.takeWhile_append_dropWhile, hins]
  · intro x hx
    rcases List.mem_append.mp hx with hx | hx
    · have := hI x hx; simp; omega
    · have := hmem x hx; simp; omega
  · intro x hx
    have := Ordered.lt_of_mem_dropWhile hord' x hx
    simp; omega
  · -- the text so far, then the token with the insertions within it
    have hordI : Ordered I := by rw [hins] at hord; exact hord.left
    simp only [List.reverse_append, List.reverse_reverse, chars_append, chars_placeFrom, hchars]
    simp only [htail, Nat.add_zero, List.drop_zero] at hX ⊢
    rw [hX, chars_cons, chars_nil, List.append_nil,
      splice_append hordI (fun x hx => ⟨Nat.zero_le _, by simpa using hI x hx⟩)
        (fun x hx => by simpa [ht] using hP x (List.takeWhile_subset _ hx)),
      Nat.zero_add, ht]

theorem Inserting.foldl_take_after {ins : List (Nat × List Token)} (hord : Ordered ins) :
    ∀ (ts done : List Token) (st : Inserting), Inserting.After ins done st →
      ExactFrom (chars done).length ts → Inserting.After ins (done ++ ts) (ts.foldl Inserting.take st)
  | [], done, st, hst, _ => by simpa using hst
  | t :: ts, done, st, hst, hts => by
    have hnext := Inserting.take_after t hord hst hts.1
    have hL : t.text.toList.length = t.text.length := String.length_toList
    have hrest : ExactFrom (chars (done ++ [t])).length ts := by
      simpa [Nat.add_comm, hL] using hts.2
    simpa using Inserting.foldl_take_after hord ts (done ++ [t]) (st.take t) hnext hrest

theorem Inserting.emitLeftover_eq (st : Inserting) (its : List Token) :
    st.emitLeftover its = ⟨st.pending, some (st.realPos.getD 0 + (chars its).length),
      (placeFrom (st.realPos.getD 0) its).reverse ++ st.out⟩ := by
  unfold Inserting.emitLeftover
  cases hr : st.realPos with
  | none =>
    have hst : (if ((none : Option Nat) == some 0) = true then st else ⟨st.pending, some 0, st.out⟩) =
        (⟨st.pending, some 0, st.out⟩ : Inserting) := rfl
    simp only
    rw [hst, Inserting.emitAll_eq its _ 0 rfl]
    simp
  | some r =>
    have hst : (if (some r == some 0) = true then st else st) = st := by split <;> rfl
    simp only [hst]
    rw [Inserting.emitAll_eq _ _ r hr]
    rfl

theorem Inserting.foldl_emitLeftover : ∀ (L : List (Nat × List Token)) (st : Inserting),
    st.realPos.getD 0 = (chars st.out.reverse).length → ExactFrom 0 st.out.reverse →
    ExactFrom 0 (L.foldl (fun st x => st.emitLeftover x.2) st).out.reverse ∧
      chars (L.foldl (fun st x => st.emitLeftover x.2) st).out.reverse =
        chars st.out.reverse ++ L.flatMap fun x => chars x.2
  | [], st, _, hexact => ⟨hexact, by simp⟩
  | x :: L, st, hpos, hexact => by
    have hpos' : (st.emitLeftover x.2).realPos.getD 0 = (chars (st.emitLeftover x.2).out.reverse).length := by
      simp [Inserting.emitLeftover_eq, hpos]
    have hexact' : ExactFrom 0 (st.emitLeftover x.2).out.reverse := by
      rw [Inserting.emitLeftover_eq]
      simp only [List.reverse_append, List.reverse_reverse]
      exact exactFrom_append.mpr ⟨hexact, by simpa [hpos] using exactFrom_placeFrom _ x.2⟩
    obtain ⟨h1, h2⟩ := Inserting.foldl_emitLeftover L _ hpos' hexact'
    refine ⟨h1, ?_⟩
    rw [List.foldl_cons, h2, Inserting.emitLeftover_eq]
    simp

theorem splice_nil_rest : ∀ (pos : Nat) (L : List (Nat × List Token)),
    splice pos [] L = L.flatMap fun x => chars x.2
  | _, [] => rfl
  | _, (i, its) :: L => by simp [splice, splice_nil_rest i L]

/-- **Insertions go in at their offsets**: into a stream with exact offsets from 0, the
tokens of insertions given in the order of their offsets go in at those offsets. The result
has exact offsets from 0 and spells the stream's text with the insertions' texts spliced in. -/
theorem insertTokens_spec (ins : List (Nat × List Token)) (ts : List Token)
    (hts : ExactFrom 0 ts) (hord : Ordered ins) :
    ExactFrom 0 (insertTokens ins ts) ∧ chars (insertTokens ins ts) = splice 0 (chars ts) ins := by
  cases ins with
  | nil => exact ⟨hts, rfl⟩
  | cons x rest =>
    have hinit : Inserting.After (x :: rest) [] ⟨x :: rest, none, []⟩ :=
      ⟨fun _ => ⟨rfl, rfl⟩, rfl, trivial, [], rfl, by simp, by simp, rfl⟩
    have hafter := Inserting.foldl_take_after hord ts [] _ hinit (by simpa using hts)
    unfold insertTokens
    dsimp only
    generalize ts.foldl Inserting.take ⟨x :: rest, none, []⟩ = st at hafter ⊢
    obtain ⟨-, hpos, hexact, I, hins, hI, hP, hchars⟩ := hafter
    simp only [List.nil_append] at hI hP hchars
    obtain ⟨h1, h2⟩ := Inserting.foldl_emitLeftover st.pending { st with pending := [] } hpos hexact
    refine ⟨h1, ?_⟩
    -- the insertions past the stream are spliced in at its end
    have hordI : Ordered I := by rw [hins] at hord; exact hord.left
    have hsplit := @splice_append (chars ts) [] I st.pending 0 hordI
      (fun y hy => ⟨Nat.zero_le _, by simpa using hI y hy⟩) (by simpa using hP)
    rw [List.append_nil, Nat.zero_add] at hsplit
    rw [h2, hchars, ← splice_nil_rest (chars ts).length, hins, hsplit]

end Highlight
