import Highlight.Proofs.Lexer.Insertions

/-!
# Where the inserted tokens stand

`insertTokens_spec` says what text the merged stream spells. This module says how the
stream is laid out, token by token: for a stream whose offsets run on from `p` and
insertions in the order of their offsets (none before `p`), the result is

  segment₀, the tokens of insertion 0, segment₁, the tokens of insertion 1, …, a last segment,

where every inserted token comes through once, with its kind and text; the segments hold
pieces of the stream's tokens (`CutInto`: each token cut into non-empty pieces of its kind;
a token with empty text is kept whole only when there is nothing to insert) that spell the
stream's text; the segments
before insertion `j` spell exactly the first `idx_j - p` characters of it; and the offsets
of the result run on from `p`, from `0` when the stream is empty (`insertTokens_layout`).

The proof follows the stream token by token with one invariant (`Laid`), which also holds
in the middle of a token: what is given out is laid out as above for the insertions taken
so far, its pieces cut the tokens done and spell part `cur` of the token being cut. One
insertion within a token keeps it (`Laid.insert`), and so do the whole loop over the
insertions within a token (`Laid.within`), one token (`Laid.take`) and one insertion past
the end of the stream (`Laid.leftover`).
-/

set_option autoImplicit false

namespace Highlight

open Token

namespace Token

/-- A token without its offset: its kind and its text. -/
def view (t : Token) : TokenKind × String := (t.kind, t.text)

@[simp] theorem view_kind (t : Token) : t.view.1 = t.kind := rfl

@[simp] theorem view_text (t : Token) : t.view.2 = t.text := rfl

@[simp] theorem view_placeFrom : ∀ (p : Nat) (ts : List Token),
    (placeFrom p ts).map view = ts.map view
  | _, [] => rfl
  | p, t :: ts => by simp [placeFrom, view, view_placeFrom _ ts]

/-- The characters of the texts of pieces, one after another. -/
def textOf (vs : List (TokenKind × String)) : List Char := vs.flatMap (·.2.toList)

@[simp] theorem textOf_nil : textOf [] = [] := rfl

@[simp] theorem textOf_cons (v : TokenKind × String) (vs : List (TokenKind × String)) :
    textOf (v :: vs) = v.2.toList ++ textOf vs := rfl

@[simp] theorem textOf_append (vs ws : List (TokenKind × String)) :
    textOf (vs ++ ws) = textOf vs ++ textOf ws := by
  simp [textOf]

@[simp] theorem textOf_map_view (ts : List Token) : textOf (ts.map view) = chars ts := by
  simp [textOf, chars, List.flatMap_map]

/-- `ps` are the tokens `ts` cut into pieces, in order: each token is cut into non-empty
pieces of its kind that spell its text, or, when its text is empty and `keep` holds, kept
whole. -/
inductive CutInto (keep : Bool) : List (TokenKind × String) → List Token → Prop
  | nil : CutInto keep [] []
  | cut {t : Token} {ps qs : List (TokenKind × String)} {ts : List Token} :
      (∀ q ∈ ps, q.1 = t.kind ∧ q.2 ≠ "") → textOf ps = t.text.toList → CutInto keep qs ts →
      CutInto keep (ps ++ qs) (t :: ts)
  | keepEmpty {t : Token} {qs : List (TokenKind × String)} {ts : List Token} :
      keep = true → t.text = "" → CutInto keep qs ts → CutInto keep (t.view :: qs) (t :: ts)

theorem CutInto.textOf_eq {keep : Bool} {ps : List (TokenKind × String)} {ts : List Token}
    (h : CutInto keep ps ts) : textOf ps = chars ts := by
  induction h with
  | nil => rfl
  | cut _ htext _ ih => simp [htext, ih]
  | keepEmpty _ hempty _ ih => simp [hempty, ih]

theorem CutInto.append_cut {keep : Bool} {ps qs : List (TokenKind × String)} {ts : List Token}
    {t : Token} (h : CutInto keep ps ts) (hq : ∀ q ∈ qs, q.1 = t.kind ∧ q.2 ≠ "")
    (htext : textOf qs = t.text.toList) : CutInto keep (ps ++ qs) (ts ++ [t]) := by
  induction h with
  | nil => simpa using CutInto.cut hq htext CutInto.nil
  | cut hp hpt _ ih => simpa using CutInto.cut hp hpt ih
  | keepEmpty hkeep hempty _ ih => simpa using CutInto.keepEmpty hkeep hempty ih

theorem cutInto_self : ∀ ts : List Token, CutInto true (ts.map view) ts
  | [] => CutInto.nil
  | t :: ts => by
    by_cases h : t.text = ""
    · exact CutInto.keepEmpty rfl h (cutInto_self ts)
    · simpa using @CutInto.cut true t [t.view] _ ts (by simp [h]) (by simp) (cutInto_self ts)

theorem eq_nil_of_textOf_eq_nil {ps : List (TokenKind × String)} (hne : ∀ q ∈ ps, q.2 ≠ "")
    (h : textOf ps = []) : ps = [] := by
  cases ps with
  | nil => rfl
  | cons q ps =>
    simp only [textOf_cons, List.append_eq_nil_iff, String.toList_eq_nil_iff] at h
    exact absurd h.1 (hne q List.mem_cons_self)

end Token

theorem mem_cutPart_view {t : Token} {cut : List Char} :
    ∀ x ∈ (cutPart t cut).map view, x.1 = t.kind ∧ x.2 ≠ "" := by
  unfold cutPart
  split
  · simp
  · rename_i hne
    simp only [List.map_cons, List.map_nil, List.mem_singleton, forall_eq]
    simpa [view, List.isEmpty_iff] using hne

theorem exactFrom_append_placeFrom {p : Nat} {xs : List Token} (h : ExactFrom p xs)
    (ys : List Token) : ExactFrom p (xs ++ placeFrom (p + (chars xs).length) ys) :=
  exactFrom_append.mpr ⟨h, exactFrom_placeFrom _ _⟩

/-! ## The layout -/

/-- The segments `segs`, each followed by the tokens of the insertion beside it, then the
segment `last`. -/
def laidOut (segs : List (List (TokenKind × String))) (ins : List (Nat × List Token))
    (last : List (TokenKind × String)) : List (TokenKind × String) :=
  (List.zipWith (fun m x => m ++ x.2.map Token.view) segs ins).flatten ++ last

theorem laidOut_push (segs : List (List (TokenKind × String))) (ins : List (Nat × List Token))
    (last more : List (TokenKind × String)) :
    laidOut segs ins last ++ more = laidOut segs ins (last ++ more) := by
  simp [laidOut]

theorem laidOut_insert {segs : List (List (TokenKind × String))} {ins : List (Nat × List Token)}
    (h : segs.length = ins.length) (last : List (TokenKind × String)) (x : Nat × List Token) :
    laidOut segs ins last ++ x.2.map Token.view = laidOut (segs ++ [last]) (ins ++ [x]) [] := by
  simp [laidOut, List.zipWith_append h]

theorem textOf_take_succ_append {segs : List (List (TokenKind × String))} {j : Nat}
    (hj : j < segs.length) (last : List (TokenKind × String)) :
    textOf ((segs ++ [last]).take (j + 1)).flatten = textOf (segs.take (j + 1)).flatten := by
  rw [List.take_append_of_le_length (by omega)]

/-! ## The invariant -/

section Layout

variable (p : Nat) (ins : List (Nat × List Token))

/-- The state of inserting after the tokens `done` of a stream whose offsets run on from
`p`, in the middle of a token of kind `k` of which the characters `cur` are given out. The
output has exact offsets from `p`; it is laid out as segments and the insertions taken so
far (`I`), the others pending; the pieces of the segments cut the tokens done and then
spell `cur` in pieces of kind `k`; the segments before each insertion taken spell the text
up to its offset, and the pending insertions lie past what is given out. -/
structure Laid (done : List Token) (k : TokenKind) (cur : List Char) (st : Inserting) : Prop where
  start : st.realPos = none → st.out = [] ∧ done = [] ∧ cur = []
  pos : st.realPos.getD p = p + (chars st.out.reverse).length
  exact : ExactFrom p st.out.reverse
  layout : ∃ (I : List (Nat × List Token)) (segs : List (List (TokenKind × String)))
      (last A ps : List (TokenKind × String)),
    ins = I ++ st.pending ∧ segs.length = I.length ∧
    st.out.reverse.map view = laidOut segs I last ∧
    segs.flatten ++ last = A ++ ps ∧ CutInto false A done ∧
    (∀ q ∈ ps, q.1 = k ∧ q.2 ≠ "") ∧ textOf ps = cur ∧
    (∀ j (hj : j < I.length), textOf (segs.take (j + 1)).flatten =
      (chars done ++ cur).take (I[j].1 - p)) ∧
    (∀ x ∈ I, x.1 ≤ p + (chars done ++ cur).length) ∧
    (∀ x ∈ st.pending, p + (chars done ++ cur).length ≤ x.1)

theorem Laid.initial (k : TokenKind) (hp : ∀ x ∈ ins, p ≤ x.1) :
    Laid p ins [] k [] ⟨ins, none, []⟩ :=
  ⟨fun _ => ⟨rfl, rfl, rfl⟩, by simp, trivial,
    [], [], [], [], [], rfl, rfl, rfl, rfl, CutInto.nil, by simp, rfl, by simp, by simp,
    by simpa using hp⟩

theorem Laid.rekind {done : List Token} {k : TokenKind} {st : Inserting}
    (h : Laid p ins done k [] st) (k' : TokenKind) : Laid p ins done k' [] st := by
  obtain ⟨hstart, hpos, hexact, I, segs, last, A, ps, hins, hlen, hview, hsplit, hcut, hps,
    htext, hupTo, hI, hP⟩ := h
  have hnil : ps = [] := eq_nil_of_textOf_eq_nil (fun q hq => (hps q hq).2) htext
  subst hnil
  exact ⟨hstart, hpos, hexact, I, segs, last, A, [], hins, hlen, hview, hsplit, hcut, by simp,
    htext, hupTo, hI, hP⟩

/-- **One insertion within a token**: the part of the token before the insertion's offset
goes on the last segment, which the insertion's tokens then close. -/
theorem Laid.insert {done : List Token} {t : Token} {k q : Nat} {index : Nat}
    {its : List Token} {rest : List (Nat × List Token)} {out : List Token}
    (ht : t.start = p + (chars done).length) (hk : t.start + k ≤ index)
    (hin : index ≤ t.start + t.text.length) (hord : Ordered ((index, its) :: rest))
    (h : Laid p ins done t.kind (t.text.toList.take k) ⟨(index, its) :: rest, some q, out⟩) :
    Laid p ins done t.kind (t.text.toList.take (index - t.start))
      ⟨rest, some (q + (index - t.start - k) + (chars its).length),
        (placeFrom (q + (index - t.start - k)) its).reverse ++
          (placeFrom q (cutPart t ((t.text.toList.drop k).take (index - t.start - k)))).reverse ++
            out⟩ := by
  obtain ⟨-, hpos, hexact, I, segs, last, A, ps, hins, hlen, hview, hsplit, hcut, hps,
    htext, hupTo, hI, hP⟩ := h
  have hL : t.text.toList.length = t.text.length := String.length_toList
  obtain ⟨cut, hcutdef⟩ : ∃ c, c = (t.text.toList.drop k).take (index - t.start - k) := ⟨_, rfl⟩
  rw [← hcutdef]
  have hcutlen : cut.length = index - t.start - k := by
    simp only [hcutdef, List.length_take, List.length_drop, hL]; omega
  have hcur : t.text.toList.take k ++ cut = t.text.toList.take (index - t.start) := by
    rw [hcutdef, ← List.take_add, Nat.add_sub_cancel' (by omega)]
  have hcurlen : (t.text.toList.take k).length = k := by
    simp only [List.length_take, hL]; omega
  simp only [Option.getD_some] at hpos
  have hq : q = p + (chars out.reverse).length := hpos
  rw [← hcur]
  refine ⟨fun h => by simp at h, ?_, ?_, I ++ [(index, its)], segs ++ [last ++ (cutPart t cut).map view],
    [], A, ps ++ (cutPart t cut).map view, ?_, by simp [hlen], ?_, ?_, hcut, ?_, ?_, ?_, ?_, ?_⟩
  · simp [hq, Nat.add_assoc, hcutlen]
  · have h1 := exactFrom_append_placeFrom hexact (cutPart t cut)
    have h2 := exactFrom_append_placeFrom h1 its
    simpa [hq, hcutlen, Nat.add_assoc] using h2
  · rw [hins]; simp
  · rw [← laidOut_insert hlen, ← laidOut_push, ← hview]
    simp
  · simp [← List.append_assoc, hsplit]
  · intro x hx
    rcases List.mem_append.mp hx with hx | hx
    · exact hps x hx
    · exact mem_cutPart_view x hx
  · simp [htext]
  · intro j hj
    simp only [List.length_append, List.length_singleton] at hj
    rw [← List.append_assoc]
    by_cases hjI : j < I.length
    · -- an insertion taken before: its text lies before what this one adds
      have hbound := hI _ (List.getElem_mem hjI)
      have hle : I[j].1 - p ≤ (chars done ++ t.text.toList.take k).length := by omega
      rw [textOf_take_succ_append (by omega), hupTo j hjI, List.getElem_append_left hjI,
        List.take_append_of_le_length hle]
    · -- this insertion: the segments before it spell all that is given out
      have hj' : j = I.length := by omega
      subst hj'
      have hseg : (segs ++ [last ++ (cutPart t cut).map view]).take (I.length + 1) =
          segs ++ [last ++ (cutPart t cut).map view] := List.take_of_length_le (by simp [hlen])
      have hall : textOf segs.flatten ++ textOf last = chars done ++ t.text.toList.take k := by
        rw [← textOf_append, hsplit, textOf_append, hcut.textOf_eq, htext]
      have hidx : index - p = (chars done ++ t.text.toList.take k ++ cut).length := by
        simp only [List.length_append, hcurlen, hcutlen]; omega
      rw [hseg, List.getElem_append_right (by omega)]
      simp only [Nat.sub_self, List.getElem_cons_zero, hidx, List.take_length, List.flatten_append,
        List.flatten_cons, List.flatten_nil, List.append_nil, textOf_append]
      rw [← List.append_assoc, hall]
      simp
  · intro x hx
    rcases List.mem_append.mp hx with hx | hx
    · have := hI x hx
      simp only [List.length_append] at this ⊢
      omega
    · simp only [List.mem_singleton] at hx
      subst hx
      simp only [List.length_append, hcurlen, hcutlen]
      omega
  · intro x hx
    have hle := (List.pairwise_cons.mp hord).1 x hx
    simp only [List.length_append, hcurlen, hcutlen]
    omega

/-- **The insertions within a token**: the loop of `Inserting.within` takes every pending
insertion up to the end of the token, and leaves the others pending. -/
theorem Laid.within {done : List Token} {t : Token} (ht : t.start = p + (chars done).length) :
    ∀ (fuel : Nat) (pending : List (Nat × List Token)) (out : List Token) (k q : Nat),
      k ≤ t.text.length → Ordered pending → pending.length ≤ fuel →
      Laid p ins done t.kind (t.text.toList.take k) ⟨pending, some q, out⟩ →
      ∃ (k' q' : Nat) (out' : List Token),
        Inserting.within t t.text.toList fuel ⟨pending, some q, out⟩ k =
          (⟨pending.dropWhile (fun x => x.1 ≤ t.start + t.text.length), some q', out'⟩, (k' : Int)) ∧
        k' ≤ t.text.length ∧
        Laid p ins done t.kind (t.text.toList.take k')
          ⟨pending.dropWhile (fun x => x.1 ≤ t.start + t.text.length), some q', out'⟩
  | fuel, [], out, k, q, hk, _, _, h => by
    refine ⟨k, q, out, ?_, hk, by simpa using h⟩
    cases fuel <;> simp [Inserting.within]
  | 0, _ :: _, _, _, _, _, _, hlen, _ => by simp at hlen
  | fuel + 1, (index, its) :: rest, out, k, q, hk, hord, hlen, h => by
    have hL : t.text.toList.length = t.text.length := String.length_toList
    by_cases hin : index ≤ t.start + t.text.length
    · -- the insertion falls within the token: take it, and go on from its offset
      have hidx : t.start + k ≤ index := by
        have := h.layout
        obtain ⟨_, _, _, _, _, -, -, -, -, -, -, -, -, -, hP⟩ := this
        have := hP (index, its) List.mem_cons_self
        simp only [List.length_append, List.length_take, hL] at this
        omega
      have hnext := Laid.insert p ins ht hidx hin hord h
      obtain ⟨k', q', out', hrun, hk', hlaid⟩ := Laid.within ht fuel rest _ (index - t.start) _
        (by omega) (List.pairwise_cons.mp hord).2 (by simp at hlen; omega) hnext
      refine ⟨k', q', out', ?_, hk', ?_⟩
      · rw [within_insert t fuel index its rest out k q hidx hin, hrun]
        simp [hin]
      · simpa [hin] using hlaid
    · -- the insertion lies past the token: nothing is taken
      refine ⟨k, q, out, ?_, hk, ?_⟩
      · simp [Inserting.within, hin, hL]
      · simpa [hin] using h

theorem Laid.setStart {done : List Token} {t : Token} {st : Inserting}
    (ht : t.start = p + (chars done).length) (h : Laid p ins done t.kind [] st) :
    Laid p ins done t.kind []
      (if st.realPos.isNone then { st with realPos := some t.start } else st) := by
  cases hr : st.realPos with
  | some r => simpa [hr] using h
  | none =>
    obtain ⟨hout, rfl, -⟩ := h.start hr
    obtain ⟨-, -, hexact, hlayout⟩ := h
    refine ⟨fun h => by simp at h, by simp [hout, ht], hexact, ?_⟩
    simpa using hlayout

theorem Laid.close {done : List Token} {t : Token} {k' q : Nat}
    {pending : List (Nat × List Token)} {out : List Token}
    (ht : t.start = p + (chars done).length) (hk' : k' ≤ t.text.length)
    (hpast : ∀ x ∈ pending, t.start + t.text.length < x.1)
    (h : Laid p ins done t.kind (t.text.toList.take k') ⟨pending, some q, out⟩) (k : TokenKind) :
    Laid p ins (done ++ [t]) k []
      ⟨pending, some (q + (t.text.length - k')),
        (placeFrom q (cutPart t (t.text.toList.drop k'))).reverse ++ out⟩ := by
  obtain ⟨-, hpos, hexact, I, segs, last, A, ps, hins, hlen, hview, hsplit, hcut, hps,
    htext, hupTo, hI, hP⟩ := h
  have hL : t.text.toList.length = t.text.length := String.length_toList
  simp only [Option.getD_some] at hpos
  have hq : q = p + (chars out.reverse).length := hpos
  obtain ⟨tail, htail⟩ : ∃ r, r = t.text.toList.drop k' := ⟨_, rfl⟩
  rw [← htail]
  have htaillen : tail.length = t.text.length - k' := by simp [htail, hL]
  have hwhole : t.text.toList.take k' ++ tail = t.text.toList := by
    rw [htail, List.take_append_drop]
  have hpieces : ∀ x ∈ ps ++ (cutPart t tail).map view, x.1 = t.kind ∧ x.2 ≠ "" := by
    intro x hx
    rcases List.mem_append.mp hx with hx | hx
    · exact hps x hx
    · exact mem_cutPart_view x hx
  have hptext : textOf (ps ++ (cutPart t tail).map view) = t.text.toList := by
    simpa [htext] using hwhole
  have hdone : chars (done ++ [t]) ++ [] = (chars done ++ t.text.toList.take k') ++ tail := by
    simp [List.append_assoc, hwhole]
  refine ⟨fun h => by simp at h, ?_, ?_, I, segs, last ++ (cutPart t tail).map view,
    A ++ (ps ++ (cutPart t tail).map view), [], hins, hlen, ?_, ?_,
    hcut.append_cut hpieces hptext, by simp, rfl, ?_, ?_, ?_⟩
  · simp [hq, htaillen, Nat.add_assoc]
  · simpa [hq] using exactFrom_append_placeFrom hexact (cutPart t tail)
  · simp [hview, laidOut_push]
  · simp [← List.append_assoc, hsplit]
  · intro j hj
    have hbound := hI _ (List.getElem_mem hj)
    have hle : I[j].1 - p ≤ (chars done ++ t.text.toList.take k').length := by omega
    rw [hupTo j hj, hdone]
    exact (List.take_append_of_le_length hle).symm
  · intro x hx
    have := hI x hx
    simp only [chars_append, chars_cons, chars_nil, List.append_nil, List.length_append,
      List.length_take, String.length_toList] at this ⊢
    omega
  · intro x hx
    have := hpast x hx
    simp only [chars_append, chars_cons, chars_nil, List.append_nil, List.length_append,
      String.length_toList]
    omega

/-- **One token of the stream** keeps the invariant: the insertions within it are taken,
and then the rest of it. -/
theorem Laid.take {done : List Token} {t : Token} {st : Inserting}
    (ht : t.start = p + (chars done).length) (hord : Ordered st.pending)
    (h : Laid p ins done t.kind [] st) (k : TokenKind) :
    Laid p ins (done ++ [t]) k [] (st.take t) := by
  have h0 := Laid.setStart p ins ht h
  generalize hst : (if st.realPos.isNone then { st with realPos := some t.start } else st) = st0 at h0
  have hpend : st0.pending = st.pending := by
    rw [← hst]; split <;> rfl
  obtain ⟨q, hq⟩ : ∃ q, st0.realPos = some q := by
    cases hr : st0.realPos with
    | some q => exact ⟨q, rfl⟩
    | none =>
      exfalso
      rw [← hst] at hr
      split at hr
      · simp at hr
      · rename_i hsome; simp [hr] at hsome
  have h0' : Laid p ins done t.kind (t.text.toList.take 0) ⟨st0.pending, some q, st0.out⟩ := by
    rw [← hq]; simpa using h0
  obtain ⟨k', q', out', hrun, hk', hlaid⟩ := Laid.within p ins ht (st0.pending.length + 1)
    st0.pending st0.out 0 q (Nat.zero_le _) (hpend ▸ hord) (Nat.le_succ _) h0'
  have hpast : ∀ x ∈ st0.pending.dropWhile (fun x => x.1 ≤ t.start + t.text.length),
      t.start + t.text.length < x.1 :=
    Ordered.lt_of_mem_dropWhile (hpend ▸ hord)
  have hclose := Laid.close p ins ht hk' hpast hlaid k
  have hL : t.text.toList.length = t.text.length := String.length_toList
  -- the state `take` leaves is the one `close` describes
  have hnext : st.take t = ⟨st0.pending.dropWhile (fun x => x.1 ≤ t.start + t.text.length),
      some (q' + (t.text.length - k')),
      (placeFrom q' (cutPart t (t.text.toList.drop k'))).reverse ++ out'⟩ := by
    unfold Inserting.take
    rw [hst]
    have hst0 : st0 = ⟨st0.pending, some q, st0.out⟩ := by
      cases st0; simp_all
    rw [hst0]
    dsimp only
    rw [show ((0 : Nat) : Int) = 0 from rfl] at hrun
    rw [hrun]
    dsimp only
    have hslice : sliceChars t.text.toList k' t.text.toList.length = t.text.toList.drop k' := by
      rw [sliceChars_natCast (by rw [hL]; exact hk') (Nat.le_refl _)]
      exact List.take_of_length_le (by simp)
    split
    · -- the rest of the token is not empty: it is given out
      rename_i hlt
      have hne : (t.text.toList.drop k').isEmpty = false := by
        simp only [List.isEmpty_eq_false_iff, ne_eq, List.drop_eq_nil_iff]
        omega
      rw [Inserting.emitAll_eq _ _ _ rfl, hslice]
      simp [cutPart, hne, placeFrom, hL]
    · rename_i hge
      have hnil : t.text.toList.drop k' = [] := by
        simp only [List.drop_eq_nil_iff]
        omega
      have hk'' : t.text.length - k' = 0 := by omega
      simp [hnil, cutPart, placeFrom, hk'']
  rw [hnext]
  exact hclose

theorem Laid.foldl_take (hord : Ordered ins) :
    ∀ (ts done : List Token) (st : Inserting) (k : TokenKind), Laid p ins done k [] st →
      ExactFrom (p + (chars done).length) ts → Laid p ins (done ++ ts) k [] (ts.foldl Inserting.take st)
  | [], done, st, k, h, _ => by simpa using h
  | t :: ts, done, st, k, h, hts => by
    have hpend : Ordered st.pending := by
      obtain ⟨I, _, _, _, _, hins, -⟩ := h.layout
      rw [hins] at hord
      exact hord.right
    have hnext := Laid.take p ins hts.1 hpend (h.rekind p ins t.kind) k
    have hrest : ExactFrom (p + (chars (done ++ [t])).length) ts := by
      simpa [Nat.add_assoc, String.length_toList] using hts.2
    simpa using Laid.foldl_take hord ts (done ++ [t]) (st.take t) k hnext hrest

/-- What is given out once the tokens `ts` are all done, with exact offsets from `base`:
laid out as segments and the insertions `I` taken, its pieces cutting the tokens, the
segments before each insertion spelling the text up to its offset. -/
structure Placed (base : Nat) (ts : List Token) (I : List (Nat × List Token)) (st : Inserting) :
    Prop where
  pos : st.realPos.getD 0 = base + (chars st.out.reverse).length
  exact : ExactFrom base st.out.reverse
  layout : ∃ (segs : List (List (TokenKind × String))) (last : List (TokenKind × String)),
    segs.length = I.length ∧ st.out.reverse.map view = laidOut segs I last ∧
    CutInto false (segs.flatten ++ last) ts ∧
    ∀ j (hj : j < I.length), textOf (segs.take (j + 1)).flatten = (chars ts).take (I[j].1 - p)

theorem Laid.placed {ts : List Token} {k : TokenKind} {st : Inserting} (hts : ts ≠ [])
    (h : Laid p ins ts k [] st) :
    ∃ I, ins = I ++ st.pending ∧ (∀ x ∈ st.pending, p + (chars ts).length ≤ x.1) ∧
      Placed p p ts I { st with pending := [] } := by
  obtain ⟨hstart, hpos, hexact, I, segs, last, A, ps, hins, hlen, hview, hsplit, hcut, hps,
    htext, hupTo, -, hP⟩ := h
  have hnil : ps = [] := eq_nil_of_textOf_eq_nil (fun q hq => (hps q hq).2) htext
  subst hnil
  obtain ⟨r, hr⟩ : ∃ r, st.realPos = some r := by
    cases hr : st.realPos with
    | some r => exact ⟨r, rfl⟩
    | none => exact absurd (hstart hr).2.1 hts
  refine ⟨I, hins, by simpa using hP, ⟨by simpa [hr] using hpos, hexact, segs, last, hlen, hview,
    by simpa [hsplit] using hcut, by simpa using hupTo⟩⟩

theorem Placed.leftover {base : Nat} {ts : List Token} {I : List (Nat × List Token)}
    {st : Inserting} (x : Nat × List Token) (hx : p + (chars ts).length ≤ x.1)
    (h : Placed p base ts I st) : Placed p base ts (I ++ [x]) (st.emitLeftover x.2) := by
  obtain ⟨hpos, hexact, segs, last, hlen, hview, hcut, hupTo⟩ := h
  rw [Inserting.emitLeftover_eq]
  refine ⟨by simp [hpos, Nat.add_assoc], ?_, segs ++ [last], [], by simp [hlen], ?_, by simpa using hcut, ?_⟩
  · simpa [hpos] using exactFrom_append_placeFrom hexact x.2
  · simp [← laidOut_insert hlen, hview]
  · intro j hj
    simp only [List.length_append, List.length_singleton] at hj
    by_cases hjI : j < I.length
    · rw [textOf_take_succ_append (by omega), hupTo j hjI, List.getElem_append_left hjI]
    · -- the new insertion: every segment lies before it, and they spell the whole text
      have hj' : j = I.length := by omega
      subst hj'
      rw [List.take_of_length_le (by simp [hlen]), List.getElem_append_right (by omega)]
      have htext := hcut.textOf_eq
      simp only [textOf_append] at htext
      simp only [Nat.sub_self, List.getElem_cons_zero, List.flatten_append, List.flatten_cons,
        List.flatten_nil, List.append_nil, textOf_append, htext]
      exact (List.take_of_length_le (by omega)).symm

theorem Placed.foldl_leftover {base : Nat} {ts : List Token} :
    ∀ (L I : List (Nat × List Token)) (st : Inserting), (∀ x ∈ L, p + (chars ts).length ≤ x.1) →
      Placed p base ts I st →
      Placed p base ts (I ++ L) (L.foldl (fun st x => st.emitLeftover x.2) st)
  | [], I, st, _, h => by simpa using h
  | x :: L, I, st, hL, h => by
    have hnext := Placed.leftover p x (hL x List.mem_cons_self) h
    simpa using Placed.foldl_leftover L (I ++ [x]) _ (fun y hy => hL y (List.mem_cons_of_mem _ hy)) hnext

end Layout

/-- **The stream, then the insertions past its end**: inserting a non-empty list goes
through the tokens of the stream and then puts in the insertions left past its end; what it
gives out is placed, from `p` (from `0` when the stream is empty), with every insertion
taken. -/
theorem insertTokens_placed (x : Nat × List Token) (rest : List (Nat × List Token))
    (ts : List Token) (p : Nat) (hts : ExactFrom p ts) (hord : Ordered (x :: rest))
    (hp : ∀ y ∈ x :: rest, p ≤ y.1) :
    ∃ st : Inserting, insertTokens (x :: rest) ts = st.out.reverse ∧
      Placed p (if ts = [] then 0 else p) ts (x :: rest) st := by
  -- the tokens one by one, then the insertions past the end of the text
  obtain ⟨base, I, st, hbase, hins, hL, hplaced, hfinal⟩ : ∃ (base : Nat) (I : List (Nat × List Token))
      (st : Inserting), base = (if ts = [] then 0 else p) ∧ x :: rest = I ++ st.pending ∧
      (∀ y ∈ st.pending, p + (chars ts).length ≤ y.1) ∧ Placed p base ts I { st with pending := [] } ∧
      insertTokens (x :: rest) ts =
        (st.pending.foldl (fun (st : Inserting) y => st.emitLeftover y.2)
          { st with pending := [] }).out.reverse := by
    by_cases hnil : ts = []
    · subst hnil
      refine ⟨0, [], ⟨x :: rest, none, []⟩, by simp, rfl, by simpa using hp,
        ⟨rfl, trivial, [], [], rfl, rfl, CutInto.nil, fun j hj => by simp at hj⟩, rfl⟩
    · have hinit := Laid.initial p (x :: rest) TokenKind.root hp
      have hrun := Laid.foldl_take p (x :: rest) hord ts [] _ TokenKind.root hinit (by simpa using hts)
      simp only [List.nil_append] at hrun
      obtain ⟨I, hins, hL, hplaced⟩ := Laid.placed p (x :: rest) hnil hrun
      exact ⟨p, I, _, by simp [hnil], hins, hL, hplaced, rfl⟩
  have hdone := Placed.foldl_leftover p st.pending I _ hL hplaced
  rw [← hins, hbase] at hdone
  exact ⟨_, hfinal, hdone⟩

/-- **How inserted tokens are laid out**: for a token stream whose offsets run on from `p`
and insertions in the order of their offsets, none before `p`, the merged stream is, up to
offsets, segment₀, the tokens of insertion 0, segment₁, …, the tokens of the last insertion,
a last segment. Every inserted token stands in it once, in order, with its kind and text;
the segments cut the stream's tokens into non-empty pieces of their kinds (a token with
empty text is kept whole only when there is nothing to insert) that spell the stream's text; the segments before insertion
`j` spell the first `idx_j - p` characters of that text, the whole of it when the offset is
past its end; and the offsets of the result run on from `p`, from `0` when the stream is
empty. -/
theorem insertTokens_layout (ins : List (Nat × List Token)) (ts : List Token) (p : Nat)
    (hts : ExactFrom p ts) (hord : Ordered ins) (hp : ∀ x ∈ ins, p ≤ x.1) :
    ∃ (segs : List (List (TokenKind × String))) (last : List (TokenKind × String)),
      segs.length = ins.length ∧
      (insertTokens ins ts).map Token.view = laidOut segs ins last ∧
      CutInto ins.isEmpty (segs.flatten ++ last) ts ∧
      (∀ j (hj : j < ins.length),
        textOf (segs.take (j + 1)).flatten = (chars ts).take (ins[j].1 - p)) ∧
      ExactFrom (if ts = [] then 0 else p) (insertTokens ins ts) := by
  cases ins with
  | nil =>
    refine ⟨[], ts.map view, rfl, by simp [insertTokens, laidOut], by simpa using cutInto_self ts,
      fun j hj => by simp at hj, ?_⟩
    split
    · rename_i h; subst h; trivial
    · exact hts
  | cons x rest =>
    obtain ⟨st, hfinal, -, hexact, segs, last, hlen, hview, hcut, hupTo⟩ :=
      insertTokens_placed x rest ts p hts hord hp
    refine ⟨segs, last, hlen, ?_, hcut, hupTo, ?_⟩
    · rw [hfinal]; exact hview
    · rw [hfinal]; exact hexact

/-- An insertion inside the one token of a stream that starts at offset 2. -/
theorem insertTokens_layout_inside_token :
    ExactFrom 2 [Token.mk 2 ⟨["Name"]⟩ "ab"] ∧ Ordered [(3, [Token.mk 0 ⟨["Generic"]⟩ ">"])] ∧
    (∀ x ∈ [(3, [Token.mk 0 ⟨["Generic"]⟩ ">"])], 2 ≤ x.1) ∧
    ∃ (segs : List (List (TokenKind × String))) (last : List (TokenKind × String)),
      segs.length = 1 ∧
      (insertTokens [(3, [Token.mk 0 ⟨["Generic"]⟩ ">"])] [Token.mk 2 ⟨["Name"]⟩ "ab"]).map
          Token.view = laidOut segs [(3, [Token.mk 0 ⟨["Generic"]⟩ ">"])] last ∧
      CutInto false (segs.flatten ++ last) [Token.mk 2 ⟨["Name"]⟩ "ab"] ∧
      (∀ j (hj : j < 1), textOf (segs.take (j + 1)).flatten =
        (chars [Token.mk 2 ⟨["Name"]⟩ "ab"]).take ([(3, [Token.mk 0 ⟨["Generic"]⟩ ">"])][j].1 - 2)) ∧
      ExactFrom 2 (insertTokens [(3, [Token.mk 0 ⟨["Generic"]⟩ ">"])] [Token.mk 2 ⟨["Name"]⟩ "ab"]) :=
  ⟨⟨rfl, trivial⟩, List.pairwise_singleton _ _, by simp,
    insertTokens_layout [(3, [Token.mk 0 ⟨["Generic"]⟩ ">"])] [Token.mk 2 ⟨["Name"]⟩ "ab"] 2
      ⟨rfl, trivial⟩ (List.pairwise_singleton _ _) (by simp)⟩

example : (insertTokens [(3, [⟨0, ⟨["Generic", "Prompt"]⟩, ">"⟩])] [⟨2, ⟨["Name"]⟩, "ab"⟩]).map
    Token.view = [(⟨["Name"]⟩, "a"), (⟨["Generic", "Prompt"]⟩, ">"), (⟨["Name"]⟩, "b")] := by
  decide

end Highlight
