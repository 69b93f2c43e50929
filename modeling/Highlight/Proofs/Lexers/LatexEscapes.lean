import Highlight.Lexers.LatexEmbedded
import Highlight.Proofs.Lexer.InsertionLayout

/-!
# Escapes take out exactly their delimiters

`latexEmbedded` finds escapes in three passes: the language cuts the text into tokens, the
runs of tokens that are neither strings nor comments are scanned for escapes, and what lies
outside the escapes is lexed again, with the escapes put back in between its tokens.

This module says what comes out without the passes. `EscapeCut` is the cut that the scan
makes of one run, said without scanning, and `SafeCut` the cut of a whole token stream; each
has exactly one solution, the one the scan finds (`escapePieces_cut`, `EscapeCut.unique`,
`safePieces_cut`, `SafeCut.unique`). For a language whose tokens spell their text with exact
offsets, the tokens of `latexEmbedded` spell the text with the delimiters of every escape
taken out; each escape comes out once, as an escape token, and each lone left delimiter as an
error token, each at the length of the plain text before it; and everything else is the plain
text as the language lexes it, cut only where those tokens go in (`latexEmbedded_escaped`).

The gathering of the second pass is followed with one invariant (`Gathers`), kept by every
piece (`Gathers.add`); the layout of the third pass is that of `insertTokens`.
-/

set_option autoImplicit false

namespace Highlight.Lexers

open Token

/-! ## Cutting a text at a character -/

theorem partitionAt_eq_none {sep : Char} {text a : List Char} (h : partitionAt sep text = (a, none)) :
    a = text ∧ sep ∉ text := by
  induction text generalizing a with
  | nil =>
    simp only [partitionAt, Prod.mk.injEq] at h
    simp [← h.1]
  | cons c cs ih =>
    by_cases hc : c = sep
    · simp [partitionAt, hc] at h
    · simp only [partitionAt, hc, if_false, Prod.mk.injEq] at h
      obtain ⟨rfl, hrest⟩ := h
      obtain ⟨h1, h2⟩ := ih (Prod.ext rfl hrest)
      exact ⟨congrArg (c :: ·) h1, by simp [h2, Ne.symm hc]⟩

theorem partitionAt_eq_some {sep : Char} {text a rest : List Char}
    (h : partitionAt sep text = (a, some rest)) : text = a ++ sep :: rest ∧ sep ∉ a := by
  induction text generalizing a with
  | nil => simp [partitionAt] at h
  | cons c cs ih =>
    by_cases hc : c = sep
    · simp only [partitionAt, hc, if_true, Prod.mk.injEq, Option.some.injEq] at h
      obtain ⟨rfl, rfl⟩ := h
      simp [hc]
    · simp only [partitionAt, hc, if_false, Prod.mk.injEq] at h
      obtain ⟨rfl, hrest⟩ := h
      obtain ⟨h1, h2⟩ := ih (Prod.ext rfl hrest)
      exact ⟨by rw [List.cons_append, ← h1], by simp [h2, Ne.symm hc]⟩

theorem eq_of_append_eq_of_stop {α : Type} {P : α → Prop} [DecidablePred P] {u u' w w' : List α}
    (hu : ∀ x ∈ u, ¬ P x) (hu' : ∀ x ∈ u', ¬ P x) (hw : ∀ x ∈ w.head?, P x)
    (hw' : ∀ x ∈ w'.head?, P x) (h : u ++ w = u' ++ w') : u = u' ∧ w = w' := by
  -- both parts before the stop are what `takeWhile` keeps of the whole
  have key : ∀ {u w : List α}, (∀ x ∈ u, ¬ P x) → (∀ x ∈ w.head?, P x) →
      (u ++ w).takeWhile (fun x => !decide (P x)) = u := by
    intro u w hu hw
    rw [List.takeWhile_append_of_pos (by simpa using hu)]
    cases w with
    | nil => simp
    | cons y ys => simp [hw y rfl]
  have hsame : u = u' := by rw [← key hu hw, h, key hu' hw']
  subst hsame
  exact ⟨rfl, List.append_cancel_left h⟩

/-! ## The cut of one run -/

namespace Piece

/-- The text a piece stands for in the text scanned: an escape with its delimiters. -/
def restore (left right : Char) : Piece → List Char
  | .plain v => v
  | .escape c => left :: (c ++ [right])
  | .lone => [left]

/-- The text a piece shows in the tokens: an escape without its delimiters. -/
def shown (left : Char) : Piece → List Char
  | .plain v => v
  | .escape c => c
  | .lone => [left]

/-- The text a piece leaves to the language. -/
def plainText : Piece → List Char
  | .plain v => v
  | _ => []

/-- The escapes and lone delimiters of pieces as the tokens they become, kind and text, each
with the length of the plain text before it, counted from `n`. -/
def marks (left : Char) : Nat → List Piece → List (Nat × TokenKind × String)
  | _, [] => []
  | n, .plain v :: ps => marks left (n + v.length) ps
  | n, .escape c :: ps => (n, .escape, String.ofList c) :: marks left n ps
  | n, .lone :: ps => (n, .error, String.singleton left) :: marks left n ps

end Piece

/-- How the escape scan cuts a run of text, said without scanning: plain text holds no left
delimiter and reaches to the next one or to the end; an escape's content holds no right
delimiter; and a left delimiter stands alone only where no right delimiter comes after it. -/
inductive EscapeCut (left right : Char) : List Piece → List Char → Prop
  | nil : EscapeCut left right [] []
  | plain {v rest : List Char} {ps : List Piece} : v ≠ [] → left ∉ v →
      (∀ c ∈ rest.head?, c = left) → EscapeCut left right ps rest →
      EscapeCut left right (.plain v :: ps) (v ++ rest)
  | escape {c rest : List Char} {ps : List Piece} : right ∉ c → EscapeCut left right ps rest →
      EscapeCut left right (.escape c :: ps) (left :: (c ++ right :: rest))
  | lone {rest : List Char} {ps : List Piece} : right ∉ rest → EscapeCut left right ps rest →
      EscapeCut left right (.lone :: ps) (left :: rest)

section Run

variable {left right : Char}

theorem EscapeCut.restore {ps : List Piece} {run : List Char} (h : EscapeCut left right ps run) :
    ps.flatMap (Piece.restore left right) = run := by
  induction h with
  | nil => rfl
  | plain _ _ _ _ ih => simp [Piece.restore, ih]
  | escape _ _ ih => simp [Piece.restore, ih]
  | lone _ _ ih => simp [Piece.restore, ih]

theorem EscapeCut.plainPiece_append {a rest : List Char} {ps : List Piece} (ha : left ∉ a)
    (hrest : ∀ c ∈ rest.head?, c = left) (h : EscapeCut left right ps rest) :
    EscapeCut left right (plainPiece a ++ ps) (a ++ rest) := by
  by_cases hnil : a = []
  · subst hnil
    simpa [plainPiece] using h
  · simpa [plainPiece, hnil] using EscapeCut.plain hnil ha hrest h

theorem escapePieces_cut (run : List Char) :
    EscapeCut left right (escapePieces left right run) run := by
  fun_induction escapePieces left right run with
  | case1 text a h =>
    -- no left delimiter: the whole run is plain
    obtain ⟨rfl, hleft⟩ := partitionAt_eq_none h
    simpa using EscapeCut.plainPiece_append hleft (by simp) (EscapeCut.nil : EscapeCut left right [] [])
  | case2 text a after h ihEscape ihLone =>
    obtain ⟨rfl, hleft⟩ := partitionAt_eq_some h
    refine EscapeCut.plainPiece_append hleft (by simp) ?_
    split
    · -- an escape up to the first right delimiter after the left one
      rename_i b more h'
      obtain ⟨rfl, hright⟩ := partitionAt_eq_some h'
      exact EscapeCut.escape hright (ihEscape b more h')
    · -- no right delimiter after the left one: it stands alone
      rename_i x h'
      exact EscapeCut.lone (partitionAt_eq_none h').2 ihLone

theorem plain_append_ne {v rest w : List Char} (hv : v ≠ []) (hleft : left ∉ v) :
    v ++ rest ≠ left :: w := by
  cases v with
  | nil => exact absurd rfl hv
  | cons c cs =>
    intro h
    simp only [List.cons_append, List.cons.injEq] at h
    exact hleft (h.1 ▸ List.mem_cons_self)

theorem EscapeCut.unique {ps qs : List Piece} {run run' : List Char}
    (h1 : EscapeCut left right ps run) (h2 : EscapeCut left right qs run') (e : run = run') :
    ps = qs := by
  induction h1 generalizing qs run' with
  | nil =>
    cases h2 with
    | nil => rfl
    | plain hv _ _ _ => simp [hv] at e
    | escape _ _ => simp at e
    | lone _ _ => simp at e
  | @plain v rest ps hv hleft hrest _ ih =>
    cases h2 with
    | nil => simp [hv] at e
    | @plain v' rest' ps' _ hleft' hrest' h2 =>
      obtain ⟨rfl, rfl⟩ := eq_of_append_eq_of_stop (P := (· = left))
        (List.forall_mem_ne'.mpr hleft) (List.forall_mem_ne'.mpr hleft') hrest hrest' e
      rw [ih h2 rfl]
    | escape _ _ => exact absurd e (plain_append_ne hv hleft)
    | lone _ _ => exact absurd e (plain_append_ne hv hleft)
  | @escape c rest ps hright _ ih =>
    cases h2 with
    | nil => simp at e
    | plain hv hleft _ _ => exact absurd e.symm (plain_append_ne hv hleft)
    | @escape c' rest' ps' hright' h2 =>
      simp only [List.cons.injEq, true_and] at e
      obtain ⟨rfl, e'⟩ := eq_of_append_eq_of_stop (P := (· = right))
        (List.forall_mem_ne'.mpr hright) (List.forall_mem_ne'.mpr hright') (by simp)
        (by simp) e
      rw [ih h2 (List.cons.inj e').2]
    | lone hright' _ =>
      simp only [List.cons.injEq, true_and] at e
      exact absurd (e ▸ List.mem_append_right c List.mem_cons_self) hright'
  | @lone rest ps hright _ ih =>
    cases h2 with
    | nil => simp at e
    | plain hv hleft _ _ => exact absurd e.symm (plain_append_ne hv hleft)
    | @escape c' rest' ps' _ _ =>
      simp only [List.cons.injEq, true_and] at e
      exact absurd (e ▸ List.mem_append_right c' List.mem_cons_self) hright
    | lone _ h2 =>
      simp only [List.cons.injEq, true_and] at e
      rw [ih h2 e]

end Run

/-! ## The cut of a token stream -/

/-- How a token stream is cut for the escape scan: each string or comment token is plain
text as it is, and the text of each maximal run of other tokens is cut as `EscapeCut` says. -/
inductive SafeCut (left right : Char) : List Token → List Piece → Prop
  | nil : SafeCut left right [] []
  | kept {t : Token} {ts : List Token} {ps : List Piece} : keepsDelimiters t.kind = true →
      SafeCut left right ts ps → SafeCut left right (t :: ts) (.plain t.text.toList :: ps)
  | run {run ts : List Token} {qs ps : List Piece} : run ≠ [] →
      (∀ t ∈ run, keepsDelimiters t.kind = false) → (∀ t ∈ ts.head?, keepsDelimiters t.kind = true) →
      EscapeCut left right qs (chars run) → SafeCut left right ts ps →
      SafeCut left right (run ++ ts) (qs ++ ps)

section Stream

variable {left right : Char}

theorem escapePieces_nil : escapePieces left right [] = [] := by
  rw [escapePieces]
  simp [partitionAt, plainPiece]

theorem flatMap_buffered (buf : List Char) :
    (if buf.isEmpty then [] else [(none, buf)]).flatMap (scanPart left right) =
      escapePieces left right buf := by
  by_cases h : buf = []
  · simp [h, escapePieces_nil]
  · simp [h, scanPart]

theorem safeCut_filterRuns :
    ∀ (ts pre : List Token), (∀ t ∈ pre, keepsDelimiters t.kind = false) →
      SafeCut left right (pre ++ ts)
        ((filterRuns keepsDelimiters (chars pre) ts).flatMap (scanPart left right)) := by
  intro ts
  induction ts with
  | nil =>
    intro pre hpre
    simp only [filterRuns, flatMap_buffered, List.append_nil]
    by_cases hnil : pre = []
    · subst hnil
      simpa [escapePieces_nil] using SafeCut.nil
    · simpa using SafeCut.run hnil hpre (by simp) (escapePieces_cut (chars pre)) SafeCut.nil
  | cons t ts ih =>
    intro pre hpre
    by_cases hk : keepsDelimiters t.kind = true
    · -- a string or comment closes the run before it
      have hrest : SafeCut left right (t :: ts)
          (.plain t.text.toList :: (filterRuns keepsDelimiters [] ts).flatMap (scanPart left right)) :=
        SafeCut.kept hk (by simpa using ih [] (by simp))
      simp only [filterRuns, hk, if_true, List.flatMap_append, flatMap_buffered,
        List.flatMap_cons, scanPart, List.singleton_append]
      by_cases hnil : pre = []
      · subst hnil
        simpa [escapePieces_nil] using hrest
      · exact SafeCut.run hnil hpre (by simpa using hk) (escapePieces_cut (chars pre)) hrest
    · -- any other token joins the run
      have hpre' : ∀ u ∈ pre ++ [t], keepsDelimiters u.kind = false := by
        intro u hu
        rcases List.mem_append.mp hu with hu | hu
        · exact hpre u hu
        · rw [List.mem_singleton.mp hu]
          simpa using hk
      have hnext := ih (pre ++ [t]) hpre'
      simp only [filterRuns, hk] at hnext ⊢
      simpa using hnext

theorem safePieces_cut (ts : List Token) : SafeCut left right ts (safePieces left right ts) := by
  simpa [safePieces] using @safeCut_filterRuns left right ts [] (by simp)

theorem SafeCut.restore {ts : List Token} {ps : List Piece} (h : SafeCut left right ts ps) :
    ps.flatMap (Piece.restore left right) = chars ts := by
  induction h with
  | nil => rfl
  | kept _ _ ih => simp [Piece.restore, ih]
  | run _ _ _ hcut _ ih => simp [hcut.restore, ih]

theorem kept_cons_ne {t : Token} {ts run ts' : List Token} (hk : keepsDelimiters t.kind = true)
    (hrun : run ≠ []) (hkeep : ∀ t ∈ run, keepsDelimiters t.kind = false) :
    t :: ts ≠ run ++ ts' := by
  cases run with
  | nil => exact absurd rfl hrun
  | cons r rs =>
    intro h
    simp only [List.cons_append, List.cons.injEq] at h
    have := hkeep r List.mem_cons_self
    rw [← h.1, hk] at this
    exact Bool.noConfusion this

theorem SafeCut.unique {ts ts' : List Token} {ps qs : List Piece}
    (h1 : SafeCut left right ts ps) (h2 : SafeCut left right ts' qs) (e : ts = ts') : ps = qs := by
  induction h1 generalizing qs ts' with
  | nil =>
    cases h2 with
    | nil => rfl
    | kept _ _ => simp at e
    | run hrun _ _ _ _ => simp [hrun] at e
  | @kept t ts ps hk _ ih =>
    cases h2 with
    | nil => simp at e
    | kept _ h2 =>
      simp only [List.cons.injEq] at e
      obtain ⟨rfl, e'⟩ := e
      rw [ih h2 e']
    | run hrun' hkeep' _ _ _ => exact absurd e (kept_cons_ne hk hrun' hkeep')
  | @run run ts qs ps hrun hkeep hnext hcut _ ih =>
    cases h2 with
    | nil => simp [hrun] at e
    | kept hk _ => exact absurd e.symm (kept_cons_ne hk hrun hkeep)
    | run _ hkeep' hnext' hcut' h2 =>
      -- both runs reach to the next string or comment
      obtain ⟨rfl, rfl⟩ := eq_of_append_eq_of_stop (P := fun t : Token => keepsDelimiters t.kind = true)
        (fun t ht => by simp [hkeep t ht]) (fun t ht => by simp [hkeep' t ht]) hnext hnext' e
      rw [hcut.unique hcut' rfl, ih h2 rfl]

end Stream

/-! ## Gathering the pieces -/

/-- Insertions read token by token: each token, kind and text, with the offset of its
insertion. -/
def insertedAt (ins : List (Nat × List Token)) : List (Nat × TokenKind × String) :=
  ins.flatMap fun x => x.2.map fun t => (x.1, t.kind, t.text)

section Gathering

variable {left : Char}

theorem Piece.marks_append (n : Nat) (ps qs : List Piece) :
    Piece.marks left n (ps ++ qs) =
      Piece.marks left n ps ++ Piece.marks left (n + (ps.flatMap Piece.plainText).length) qs := by
  induction ps generalizing n with
  | nil => simp [Piece.marks]
  | cons p ps ih =>
    cases p with
    | plain v => simp [Piece.marks, ih, Piece.plainText, Nat.add_assoc]
    | escape c => simp [Piece.marks, ih, Piece.plainText]
    | lone => simp [Piece.marks, ih, Piece.plainText]

/-- What gathering the pieces `ps` has made of them: the text to lex again is their plain
text; the insertions put in so far, then the tokens held at the end of the text, are their
marks; the insertions are in order, none past the text; and the text with the insertions
spliced in, then the held tokens, is what the pieces show. -/
structure Gathers (left : Char) (ps : List Piece) (g : EscapeBuffer) : Prop where
  buffered : g.buffered = ps.flatMap Piece.plainText
  marks : insertedAt g.insertions ++ g.held.map (fun t => (g.buffered.length, t.kind, t.text)) =
    Piece.marks left 0 ps
  ordered : Ordered g.insertions
  within : ∀ x ∈ g.insertions, x.1 ≤ g.buffered.length
  spells : splice 0 g.buffered g.insertions ++ chars g.held = ps.flatMap (Piece.shown left)

theorem EscapeBuffer.flushed_spec (g : EscapeBuffer) (hord : Ordered g.insertions)
    (hin : ∀ x ∈ g.insertions, x.1 ≤ g.buffered.length) :
    insertedAt g.flushed =
        insertedAt g.insertions ++ g.held.map (fun t => (g.buffered.length, t.kind, t.text)) ∧
      Ordered g.flushed ∧ (∀ x ∈ g.flushed, x.1 ≤ g.buffered.length) ∧
      splice 0 g.buffered g.flushed = splice 0 g.buffered g.insertions ++ chars g.held := by
  unfold EscapeBuffer.flushed
  by_cases hheld : g.held = []
  · simp only [hheld, List.isEmpty_nil, ↓reduceIte]
    exact ⟨by simp, hord, hin, by simp⟩
  · have hsplice := @splice_append g.buffered [] g.insertions [(g.buffered.length, g.held)] 0 hord
      (fun x hx => ⟨Nat.zero_le _, by simpa using hin x hx⟩) (by simp)
    simp only [List.append_nil, Nat.zero_add] at hsplice
    simp only [List.isEmpty_iff, hheld, if_false]
    refine ⟨by simp [insertedAt], ?_, ?_, ?_⟩
    · exact List.pairwise_append.mpr ⟨hord, List.pairwise_singleton _ _,
        fun a ha b hb => (List.mem_singleton.mp hb) ▸ hin a ha⟩
    · intro x hx
      rcases List.mem_append.mp hx with hx | hx
      · exact hin x hx
      · simp [List.mem_singleton.mp hx]
    · rw [hsplice]
      simp [splice]

theorem Gathers.initial : Gathers left [] ⟨[], [], []⟩ :=
  ⟨rfl, rfl, List.Pairwise.nil, by simp, by simp [splice]⟩

theorem Gathers.add {ps : List Piece} {g : EscapeBuffer} (h : Gathers left ps g) (p : Piece) :
    Gathers left (ps ++ [p]) (g.add left p) := by
  obtain ⟨hmarks, hord, hin, hsplice⟩ := EscapeBuffer.flushed_spec g h.ordered h.within
  cases p with
  | plain v =>
    -- the held tokens go in before the plain text goes on
    have hspliced := @splice_append g.buffered v g.flushed [] 0 hord
      (fun x hx => ⟨Nat.zero_le _, by simpa using hin x hx⟩) (by simp)
    refine ⟨by simp [EscapeBuffer.add, h.buffered, Piece.plainText], ?_, hord, ?_, ?_⟩
    · simp [EscapeBuffer.add, hmarks, h.marks, Piece.marks_append, Piece.marks]
    · intro x hx
      have := hin x hx
      simp only [EscapeBuffer.add, List.length_append]
      omega
    · simp only [EscapeBuffer.add, List.append_nil, Nat.zero_add] at hspliced ⊢
      simp [hspliced, hsplice, h.spells, Piece.shown, splice]
  | escape c =>
    refine ⟨by simpa [EscapeBuffer.add, Piece.plainText] using h.buffered, ?_, h.ordered, h.within, ?_⟩
    · simp [EscapeBuffer.add, ← h.marks, Piece.marks_append, Piece.marks, h.buffered]
    · simp [EscapeBuffer.add, ← h.spells, Piece.shown]
  | lone =>
    refine ⟨by simpa [EscapeBuffer.add, Piece.plainText] using h.buffered, ?_, h.ordered, h.within, ?_⟩
    · simp [EscapeBuffer.add, ← h.marks, Piece.marks_append, Piece.marks, h.buffered]
    · simp [EscapeBuffer.add, ← h.spells, Piece.shown]

theorem Gathers.foldl {ps : List Piece} {g : EscapeBuffer} (h : Gathers left ps g) :
    ∀ qs : List Piece, Gathers left (ps ++ qs) (qs.foldl (EscapeBuffer.add left) g) := by
  intro qs
  induction qs generalizing ps g with
  | nil => simpa using h
  | cons q qs ih => simpa using ih (h.add q)

theorem gather_gathers (pieces : List Piece) : Gathers left pieces (gather left pieces) := by
  simpa [gather] using Gathers.initial.foldl pieces

end Gathering

/-! ## The tokens -/

/-- What the tokens `out` of a text with escapes are, for a cut of the text into pieces: the
text is the pieces with the delimiters of the escapes put back; the tokens run on from offset
0 and spell the pieces with those delimiters taken out; and they are laid out as the plain
text of the pieces, as `lang` lexes it, cut into segments (`CutInto`), with insertions in
between that hold, token by token, the marks of the pieces: one escape token for each escape
and one error token for each lone left delimiter, each at the length of the plain text
before it, which the segments before it spell. -/
structure Escaped (left right : Char) (lang : String → List Token) (text : String)
    (pieces : List Piece) (out : List Token) : Prop where
  restores : text.toList = pieces.flatMap (Piece.restore left right)
  exact : ExactFrom 0 out
  shows : chars out = pieces.flatMap (Piece.shown left)
  layout : ∃ (ins : List (Nat × List Token)) (segs : List (List (TokenKind × String)))
      (last : List (TokenKind × String)),
    insertedAt ins = Piece.marks left 0 pieces ∧ segs.length = ins.length ∧
    out.map view = laidOut segs ins last ∧
    CutInto ins.isEmpty (segs.flatten ++ last) (lang (String.ofList (pieces.flatMap Piece.plainText))) ∧
    ∀ j (hj : j < ins.length),
      textOf (segs.take (j + 1)).flatten = (pieces.flatMap Piece.plainText).take ins[j].1

/-- **Escapes take out exactly their delimiters**: for a language whose tokens spell each text
with exact offsets, and the cut of its tokens of a text, `latexEmbedded` gives the tokens
that `Escaped` describes. -/
theorem latexEmbedded_escaped (left right : Char) (lang : String → List Token)
    (hlang : ∀ s, ExactFrom 0 (lang s) ∧ chars (lang s) = s.toList) (text : String)
    (pieces : List Piece) (hcut : SafeCut left right (lang text) pieces) :
    Escaped left right lang text pieces (latexEmbedded left right lang text) := by
  -- the cut is the one the scan finds
  have hpieces : safePieces left right (lang text) = pieces := (safePieces_cut _).unique hcut rfl
  have hg := @gather_gathers left pieces
  obtain ⟨g, hgdef⟩ : ∃ g, gather left pieces = g := ⟨_, rfl⟩
  rw [hgdef] at hg
  obtain ⟨hmarks, hord, -, hsplice⟩ := EscapeBuffer.flushed_spec g hg.ordered hg.within
  have hout : latexEmbedded left right lang text =
      insertTokens g.flushed (lang (String.ofList g.buffered)) := by
    rw [← hgdef, ← hpieces]
    rfl
  have hexact := (hlang (String.ofList g.buffered)).1
  have hB : chars (lang (String.ofList g.buffered)) = g.buffered := by
    rw [(hlang _).2, String.toList_ofList]
  obtain ⟨hexact', hchars⟩ := insertTokens_spec g.flushed _ hexact hord
  refine ⟨by rw [hcut.restore, (hlang text).2], hout ▸ hexact', ?_, ?_⟩
  · rw [hout, hchars, hB, hsplice, hg.spells]
  · rw [hout, ← hg.buffered]
    refine ⟨g.flushed, ?_⟩
    rw [← hg.marks, ← hmarks]
    cases hins : g.flushed with
    | nil =>
      -- nothing to put in: the language's tokens as they are
      exact ⟨[], (lang (String.ofList g.buffered)).map view, rfl, rfl, by simp [insertTokens, laidOut],
        by simpa using cutInto_self _, fun j hj => by simp at hj⟩
    | cons x rest =>
      obtain ⟨st, hfinal, -, -, segs, last, hlen, hview, hcut', hupTo⟩ :=
        insertTokens_placed x rest _ 0 hexact (hins ▸ hord) (fun _ _ => Nat.zero_le _)
      refine ⟨segs, last, rfl, hlen, by rw [hfinal]; exact hview, hcut', fun j hj => ?_⟩
      rw [hupTo j hj, hB, Nat.sub_zero]

/-- One escape after plain text, for a language that gives the whole text as one token. -/
theorem latexEmbedded_escaped_one_escape :
    (∀ s, ExactFrom 0 [⟨0, TokenKind.text, s⟩] ∧ chars [⟨0, TokenKind.text, s⟩] = s.toList) ∧
    SafeCut '<' '>' [⟨0, TokenKind.text, String.ofList ['a', '<', 'b', '>']⟩]
      [.plain ['a'], .escape ['b']] ∧
    Escaped '<' '>' (fun s => [⟨0, TokenKind.text, s⟩]) (String.ofList ['a', '<', 'b', '>'])
      [.plain ['a'], .escape ['b']]
      (latexEmbedded '<' '>' (fun s => [⟨0, TokenKind.text, s⟩]) (String.ofList ['a', '<', 'b', '>'])) := by
  have hlang : ∀ s, ExactFrom 0 [⟨0, TokenKind.text, s⟩] ∧ chars [⟨0, TokenKind.text, s⟩] = s.toList :=
    fun s => ⟨⟨rfl, trivial⟩, by simp [chars]⟩
  have hrun : chars [⟨0, TokenKind.text, String.ofList ['a', '<', 'b', '>']⟩] =
      ['a'] ++ '<' :: (['b'] ++ '>' :: []) := by
    simp [chars]
  have hescape : EscapeCut '<' '>' [.plain ['a'], .escape ['b']]
      (chars [⟨0, TokenKind.text, String.ofList ['a', '<', 'b', '>']⟩]) :=
    hrun ▸ EscapeCut.plain (by simp) (by decide) (by simp) (EscapeCut.escape (by decide) EscapeCut.nil)
  -- the whole text is one run, and nothing follows it
  have hcut : SafeCut '<' '>' ([⟨0, TokenKind.text, String.ofList ['a', '<', 'b', '>']⟩] ++ [])
      ([.plain ['a'], .escape ['b']] ++ []) :=
    SafeCut.run (by simp) (by decide) (by simp) hescape SafeCut.nil
  exact ⟨hlang, hcut, latexEmbedded_escaped '<' '>' _ hlang _ _ hcut⟩

end Highlight.Lexers
