import Highlight.Proofs.Format.GroffWrap

/-!
# Groff output read back, and the width of its lines

A reader of groff output sees the lines of the tokens, each wrapped, one after another
(`reads_body`). Without wrapping that is the tokens' text. With wrapping at width `w`, deleting
line feeds from it gives the text exactly when no line of a token is split (`Split`: one that
does not end with a line feed and is longer than `w` but not a multiple of `w` long); a split
line has the character before what is left written twice.

Wrapping counts the characters on the current line, but a line longer than the width is cut
into pieces from wherever the current line is: its first piece lands after what is already
there. When no line is split, every line shown holds at most `w` characters exactly when every
line of a token that is longer than `w` comes first, or right after one that ends with a line
feed or is itself longer than `w` (`fitsFrom_wrapRun`). All together: `groff_output_shows_text`.
-/

set_option autoImplicit false

namespace Highlight.Groff

open Terminal (chomp)

/-! ## The width of lines -/

/-- Every line of `d` holds at most `w` characters, the first one after the `a` characters
already on it. -/
def FitsFrom (w : Nat) : Nat → List Char → Prop
  | _, [] => True
  | a, c :: d => if c = '\n' then FitsFrom w 0 d else a < w ∧ FitsFrom w (a + 1) d

@[simp] theorem fitsFrom_nil (w a : Nat) : FitsFrom w a [] := trivial

/-- The column after `d`, written from column `a`. -/
def column : Nat → List Char → Nat
  | a, [] => a
  | a, c :: d => column (if c = '\n' then 0 else a + 1) d

theorem fitsFrom_append (w : Nat) (d e : List Char) (a : Nat) :
    FitsFrom w a (d ++ e) ↔ FitsFrom w a d ∧ FitsFrom w (column a d) e := by
  induction d generalizing a with
  | nil => simp [FitsFrom, column]
  | cons c d ih =>
    by_cases hc : c = '\n'
    · simp [FitsFrom, column, hc, ih]
    · simp [FitsFrom, column, hc, ih, and_assoc]

theorem column_append (a : Nat) (d e : List Char) : column a (d ++ e) = column (column a d) e := by
  induction d generalizing a with
  | nil => rfl
  | cons c d ih => simp [column, ih]

theorem column_append_newline (a : Nat) (d : List Char) : column a (d ++ ['\n']) = 0 := by
  simp [column_append, column]

theorem fitsFrom_of_not_mem (w : Nat) {x : List Char} (hx : '\n' ∉ x) (a : Nat) :
    FitsFrom w a x ↔ x = [] ∨ a + x.length ≤ w := by
  induction x generalizing a with
  | nil => simp [FitsFrom]
  | cons c x ih =>
    have hc : c ≠ '\n' := fun h => hx (h ▸ List.mem_cons_self)
    rw [FitsFrom, if_neg hc, ih (fun h => hx (List.mem_cons_of_mem _ h))]
    simp only [reduceCtorEq, List.length_cons, false_or]
    constructor
    · rintro ⟨ha, rfl | h⟩
      · simp only [List.length_nil]
        omega
      · omega
    · intro h
      refine ⟨by omega, ?_⟩
      by_cases hx' : x = []
      · exact .inl hx'
      · exact .inr (by omega)

theorem column_of_not_mem {x : List Char} (hx : '\n' ∉ x) (a : Nat) :
    column a x = a + x.length := by
  induction x generalizing a with
  | nil => rfl
  | cons c x ih =>
    have hc : c ≠ '\n' := fun h => hx (h ▸ List.mem_cons_self)
    rw [column, if_neg hc, ih (fun h => hx (List.mem_cons_of_mem _ h))]
    simp only [List.length_cons]
    omega

theorem fitsFrom_newline_append (w a : Nat) (d : List Char) :
    FitsFrom w a ('\n' :: d) ↔ FitsFrom w 0 d := by
  simp [FitsFrom]

theorem fitsFrom_newline (w a : Nat) : FitsFrom w a ['\n'] := by
  simp [FitsFrom]

theorem column_cut (w : Nat) (x : List Char) (q : Nat) (a : Nat) (hq : 0 < q ∨ a = 0) :
    column a (cut w x q) = 0 := by
  cases q with
  | zero => simpa [cut_zero, column] using hq
  | succ q => rw [cut_succ, ← List.append_assoc, column_append_newline]

theorem cut_succ_front (w : Nat) (x : List Char) (q : Nat) :
    cut w x (q + 1) = x.take w ++ ['\n'] ++ cut w (x.drop w) q := by
  simp only [cut, List.range_succ_eq_map, List.flatMap_cons, List.flatMap_map, Nat.zero_mul,
    List.drop_zero, List.append_assoc]
  congr 2
  refine List.flatMap_congr fun i _ => ?_
  rw [List.drop_drop, Nat.succ_mul, Nat.add_comm]

theorem fitsFrom_cut (w : Nat) {x : List Char} (hx : '\n' ∉ x) (q : Nat) :
    FitsFrom w 0 (cut w x q) := by
  induction q with
  | zero => trivial
  | succ q ih =>
    have hb : '\n' ∉ (x.drop (q * w)).take w :=
      fun h => hx (List.mem_of_mem_drop (List.mem_of_mem_take h))
    rw [cut_succ, fitsFrom_append, fitsFrom_append, column_cut w x q 0 (.inr rfl)]
    refine ⟨ih, ?_, trivial⟩
    rw [fitsFrom_of_not_mem w hb]
    right
    simp

theorem fitsFrom_cut_succ {w : Nat} (hw : 0 < w) {x : List Char} (hx : '\n' ∉ x) {q : Nat}
    (hq : (q + 1) * w ≤ x.length) (a : Nat) : FitsFrom w a (cut w x (q + 1)) ↔ a = 0 := by
  have hfirst : '\n' ∉ x.take w := fun h => hx (List.mem_of_mem_take h)
  have hrest : '\n' ∉ x.drop w := fun h => hx (List.mem_of_mem_drop h)
  rw [Nat.succ_mul] at hq
  have hne : x.take w ≠ [] := fun h => by
    have := congrArg List.length h
    simp only [List.length_take, List.length_nil] at this
    omega
  rw [cut_succ_front, fitsFrom_append, fitsFrom_append, column_append_newline,
    fitsFrom_of_not_mem w hfirst]
  simp only [hne, false_or, List.length_take, fitsFrom_cut w hrest q, fitsFrom_newline, and_true]
  omega

/-! ## The width of one wrapped line -/

section
variable {w : Nat} (hw : 0 < w) {x : List Char} (hx : '\n' ∉ x) (nl : Bool)
include hw hx

/-- The width of a line that is not split, wrapped from column `col` while `a` characters are
on the current line (no more than wrapping counts): it fits unless it is longer than the width
and the current line is not empty; the current line after it is no longer than wrapping counts,
and it is empty exactly when the line ends with a line feed or is longer than the width. -/
theorem wrapLine_width {a col : Nat} (hac : a ≤ col) (hcol : col ≤ w)
    (hsplit : ¬ Split w (x ++ if nl then ['\n'] else [])) (hne : x ≠ [] ∨ nl = true) :
    (FitsFrom w a (wrapLine w [] col (x ++ if nl then ['\n'] else [])).1 ↔
        (w < x.length → a = 0)) ∧
      column a (wrapLine w [] col (x ++ if nl then ['\n'] else [])).1 ≤
        nextCol w col (x ++ if nl then ['\n'] else []) ∧
      (column a (wrapLine w [] col (x ++ if nl then ['\n'] else [])).1 = 0 ↔
        nl = true ∨ w < x.length) := by
  have hdiv : x.length / w * w + x.length % w = x.length := Nat.div_add_mod' _ _
  have hmod : x.length % w < w := Nat.mod_lt _ hw
  rw [split_line_iff hx] at hsplit
  unfold nextCol
  rw [wrapLine_line col hx nl]
  by_cases hlong : w < x.length
  · -- cut into pieces: the first lands on the current line, and the pieces end the line
    obtain ⟨q, hq⟩ : ∃ q, x.length / w = q + 1 :=
      ⟨_, (Nat.succ_pred_eq_of_pos (Nat.div_pos hlong.le hw)).symm⟩
    have hqw : (q + 1) * w ≤ x.length := by rw [← hq]; omega
    have hcut := fitsFrom_cut_succ hw hx hqw a
    have hend := column_cut w x (q + 1) a (.inl (Nat.succ_pos q))
    rw [if_pos hlong]
    by_cases hr : x.length % w = 0
    · rw [if_pos hr, hq]
      exact ⟨by simp [hcut, hlong], by simp [hend], by simp [hend, hlong]⟩
    · -- what is left is shorter than the width and ends with the line's line feed
      obtain rfl : nl = true := by cases nl <;> simp_all
      have hleft : '\n' ∉ x.drop ((q + 1) * w) := fun h => hx (List.mem_of_mem_drop h)
      rw [if_neg hr, hq, if_pos rfl]
      have hfits : FitsFrom w a (cut w x (q + 1) ++ (x.drop ((q + 1) * w) ++ ['\n'])) ↔ a = 0 := by
        rw [fitsFrom_append, fitsFrom_append, hcut, hend, fitsFrom_of_not_mem w hleft]
        simp only [fitsFrom_newline, and_true, List.length_drop, and_iff_left_iff_imp]
        exact fun _ => .inr (by rw [← hq]; omega)
      have hzero : column a (cut w x (q + 1) ++ (x.drop ((q + 1) * w) ++ ['\n'])) = 0 := by
        rw [← List.append_assoc, column_append_newline]
      exact ⟨by simp [hfits, hlong], by simp [hzero], by simp [hzero]⟩
  · rw [if_neg hlong]
    have hfitx : FitsFrom w 0 x := (fitsFrom_of_not_mem w hx 0).mpr (.inr (by omega))
    by_cases hnew : w < col + x.length
    · -- a new line for it, where it fits; the line is not empty, since it did not fit
      have hx0 : x ≠ [] := by
        rintro rfl
        simp at hnew
        omega
      rw [if_pos hnew]
      cases nl
      · have hlast : ('\n' :: x).getLast? ≠ some '\n' := by
          simpa using getLast?_append_ne (y := ['\n']) hx hx0
        have hcolx : column 0 x = x.length := by simpa using column_of_not_mem hx 0
        simp [fitsFrom_newline_append, hfitx, hlong, hlast, column, hcolx, hx0]
      · have hcolx : column 0 (x ++ ['\n']) = 0 := column_append_newline 0 x
        simp [fitsFrom_newline_append, fitsFrom_append, hfitx, hlong, column, hcolx]
    · -- it fits after what is on the current line
      rw [if_neg hnew]
      have hfit : FitsFrom w a x := (fitsFrom_of_not_mem w hx a).mpr (.inr (by omega))
      cases nl
      · have hcolx : column a x = a + x.length := column_of_not_mem hx a
        have hx0 : x ≠ [] := by simpa using hne
        simp [hfit, hlong, getLast?_ne_of_not_mem hx, hcolx, hx0]
        omega
      · have hcolx : column a (x ++ ['\n']) = 0 := column_append_newline a x
        simp [fitsFrom_append, hfit, fitsFrom_newline, hlong, hcolx]

end

/-! ## The width of a run of lines -/

/-- Every line longer than `w` starts a line as shown: the first does when `start` holds, and a
later one when the line before it ends with a line feed or is longer than `w` itself. -/
def LongAtStarts (w : Nat) : Prop → List (List Char) → Prop
  | _, [] => True
  | start, l :: ls => (w < (chomp l).length → start) ∧
      LongAtStarts w (l.getLast? = some '\n' ∨ w < (chomp l).length) ls

/-- A run of lines none of which is split fits the width exactly when every line longer than
the width starts a line; the invariant is that the current line holds no more than wrapping
counts on it. -/
theorem fitsFrom_wrapRun {w : Nat} (hw : 0 < w) : ∀ (a col : Nat) (ls : List (List Char)),
    a ≤ col → col ≤ w → (∀ l ∈ ls, '\n' ∉ l.dropLast ∧ l ≠ [] ∧ ¬ Split w l) →
    (FitsFrom w a (wrapRun w col ls) ↔ LongAtStarts w (a = 0) ls)
  | _, _, [], _, _, _ => by simp [wrapRun, LongAtStarts]
  | a, col, l :: ls, hac, hcol, h => by
    obtain ⟨hl, hne, hsplit⟩ := h l List.mem_cons_self
    obtain ⟨x, nl, hx, rfl⟩ := line_shape hl
    have hne' : x ≠ [] ∨ nl = true := by cases nl <;> simp_all
    obtain ⟨hfits, hle, hzero⟩ := wrapLine_width hw hx nl hac hcol hsplit hne'
    have hrest := fitsFrom_wrapRun hw _ _ ls hle (nextCol_le hw hcol hl)
      fun l hl => h l (List.mem_cons_of_mem _ hl)
    rw [wrapRun, fitsFrom_append, hfits, hrest, hzero, LongAtStarts, chomp_line hx nl,
      getLast?_line hx nl]

theorem longAtStarts_cons_iff (w : Nat) : ∀ (start : Prop) (l : List Char) (ls : List (List Char)),
    LongAtStarts w start (l :: ls) ↔ (w < (chomp l).length → start) ∧
      (l :: ls).IsChain fun a b => w < (chomp b).length →
        a.getLast? = some '\n' ∨ w < (chomp a).length
  | start, l, [] => by simp [LongAtStarts]
  | start, l, m :: ls => by
    rw [LongAtStarts, longAtStarts_cons_iff w _ m ls, List.isChain_cons_cons]

/-- From the start of a line, every line longer than `w` starts a line exactly when each comes
right after a line that ends with a line feed or is longer than `w` itself. -/
theorem longAtStarts_iff_isChain (w : Nat) (ls : List (List Char)) :
    LongAtStarts w True ls ↔ ls.IsChain fun a b => w < (chomp b).length →
      a.getLast? = some '\n' ∨ w < (chomp a).length := by
  cases ls with
  | nil => simp [LongAtStarts]
  | cons l ls => simp [longAtStarts_cons_iff]

theorem fitsFrom_iff_splitOn (w : Nat) (d : List Char) (a : Nat) :
    FitsFrom w a d ↔ (∀ l ∈ (d.splitOn '\n').head?, l = [] ∨ a + l.length ≤ w) ∧
      ∀ l ∈ (d.splitOn '\n').tail, l.length ≤ w := by
  induction d generalizing a with
  | nil => simp
  | cons c d ih =>
    obtain ⟨first, rest, hsplit⟩ := List.exists_cons_of_ne_nil (List.splitOn_ne_nil '\n' d)
    rw [List.splitOn_eq_splitOnP, List.splitOnP_cons_eq_if_modifyHead,
      ← List.splitOn_eq_splitOnP, hsplit]
    by_cases hc : c = '\n'
    · -- a line feed ends the first line, empty here
      have h0 := ih 0
      rw [hsplit] at h0
      simp only [hc, beq_self_eq_true, ↓reduceIte, FitsFrom, h0]
      simp only [List.head?_cons, Option.mem_def, Option.some.injEq, forall_eq', Nat.zero_add,
        List.tail_cons, List.forall_mem_cons, true_or, true_and]
      exact and_congr_left fun _ => or_iff_right_of_imp fun h => by simp [h]
    · have h1 := ih (a + 1)
      rw [hsplit] at h1
      have hbeq : (c == '\n') = false := by simpa using hc
      simp only [hbeq, Bool.false_eq_true, ↓reduceIte, List.modifyHead_cons, FitsFrom, hc, h1,
        List.head?_cons, Option.mem_def, Option.some.injEq, forall_eq', List.tail_cons,
        reduceCtorEq, false_or, List.length_cons]
      constructor
      · rintro ⟨ha, hfirst | hfirst, hrest⟩
        · subst hfirst
          exact ⟨by simp; omega, hrest⟩
        · exact ⟨by omega, hrest⟩
      · rintro ⟨hfirst, hrest⟩
        refine ⟨by omega, ?_, hrest⟩
        by_cases h : first = []
        · exact .inl h
        · exact .inr (by omega)

theorem fitsFrom_zero_iff (w : Nat) (d : List Char) :
    FitsFrom w 0 d ↔ ∀ l ∈ d.splitOn '\n', l.length ≤ w := by
  obtain ⟨first, rest, hsplit⟩ := List.exists_cons_of_ne_nil (List.splitOn_ne_nil '\n' d)
  rw [fitsFrom_iff_splitOn, hsplit]
  simp only [List.head?_cons, Option.mem_def, Option.some.injEq, forall_eq', Nat.zero_add,
    List.tail_cons, List.forall_mem_cons]
  exact and_congr_left fun _ => or_iff_right_of_imp fun h => by simp [h]

/-! ## The output of a stream -/

/-- The lines of a stream's tokens, each with the characters that end it, one after another. -/
def tokenLines (ts : List (TokenKind × String)) : List (List Char) :=
  ts.flatMap fun t => (Lexers.splitLinesKeep t.2).map String.toList

open Lexers in
theorem ne_nil_of_mem_splitLinesFrom (cs cur : List Char) :
    ∀ l ∈ splitLinesFrom cs cur, l.toList ≠ [] := by
  fun_induction splitLinesFrom cs cur with
  | case1 cur hempty => simp
  | case2 cur hne => simpa [List.isEmpty_iff] using hne
  | case3 rest cur ih => simpa using ih
  | case4 c rest cur _ hc ih => simpa using ih
  | case5 c rest cur _ hc ih => exact ih

theorem tokenLines_shape (ts : List (TokenKind × String)) :
    ∀ l ∈ tokenLines ts, '\n' ∉ l.dropLast ∧ l ≠ [] := by
  intro l hl
  simp only [tokenLines, List.mem_flatMap, List.mem_map] at hl
  obtain ⟨t, -, line, hline, rfl⟩ := hl
  exact ⟨Terminal.newline_not_mem_dropLast _ [] (by simp) line hline,
    ne_nil_of_mem_splitLinesFrom _ [] line hline⟩

theorem tokenLines_flatten (ts : List (TokenKind × String)) :
    (tokenLines ts).flatten = ts.flatMap (·.2.toList) := by
  induction ts with
  | nil => rfl
  | cons t ts ih =>
    have hflat := Terminal.splitLinesFrom_flatten t.2.toList []
    simp only [List.reverse_nil, List.nil_append] at hflat
    simp [tokenLines, Lexers.splitLinesKeep, hflat, ← ih]

theorem lines_map_snd (s : Settings) (st : Style.Built) (ts : List (TokenKind × String)) :
    (s.lines st ts).map Prod.snd = tokenLines ts := by
  simp [Settings.lines, tokenLines, List.map_flatMap, Function.comp_def]

theorem lines_silent (s : Settings) {st : Style.Built} (hst : ∀ p ∈ st.reports, Bracketless p.2)
    (ts : List (TokenKind × String)) :
    ∀ l ∈ s.lines st ts, Silent l.1 ∧ '\n' ∉ l.2.dropLast := by
  intro l hl
  have hsnd : l.2 ∈ tokenLines ts := lines_map_snd s st ts ▸ List.mem_map_of_mem hl
  simp only [Settings.lines, List.mem_flatMap, List.mem_map] at hl
  obtain ⟨t, -, line, -, rfl⟩ := hl
  exact ⟨silent_look s hst t.1, (tokenLines_shape ts _ hsnd).1⟩

/-- The text a reader sees between the header of the groff output of a stream and its end, when
lines are not numbered. -/
def Settings.shown (s : Settings) (st : Style.Built) (ts : List (TokenKind × String)) :
    List Char :=
  read .text (s.body ⟨0, 0⟩ (s.lines st ts))

/-- Groff output without line numbers: the colour definitions, the header, the lines of the
tokens and the end. When no colour of the style holds a closing bracket, a reader sees the
tokens' text when wrapping is off. With wrapping at width `w`, it sees the text with line feeds
put in exactly when no line of a token is split, that is, longer than `w`, not a multiple of `w`
long and without a line feed at its end. When none is, every line it sees holds at most `w`
characters exactly when every line of a token longer than `w` comes right after one that ends
with a line feed or is itself longer than `w`. -/
theorem groff_output_shows_text (s : Settings) (st : Style.Built) (ts : List (TokenKind × String))
    (hlin : s.linenos = false) (hst : ∀ p ∈ st.reports, Bracketless p.2) :
    (s.format st ts).toList = defineColors st ++ ".nf\n\\f[CR]\n".toList ++
        s.body ⟨0, 0⟩ (s.lines st ts) ++ "\n.fi".toList ∧
      (s.wrap ≤ 0 → s.shown st ts = ts.flatMap (·.2.toList)) ∧
      (0 < s.wrap →
        (DropsBreaks (s.shown st ts) (ts.flatMap (·.2.toList)) ↔
          ∀ l ∈ tokenLines ts, ¬ Split s.wrap.toNat l) ∧
        ((∀ l ∈ tokenLines ts, ¬ Split s.wrap.toNat l) →
          ((∀ line ∈ (s.shown st ts).splitOn '\n', line.length ≤ s.wrap.toNat) ↔
            (tokenLines ts).IsChain fun a b => s.wrap.toNat < (chomp b).length →
              a.getLast? = some '\n' ∨ s.wrap.toNat < (chomp a).length))) := by
  have hlines := lines_silent s hst ts
  have hshape := tokenLines_shape ts
  refine ⟨by simp [Settings.format, hlin], fun hw => ?_, fun hw => ?_⟩
  · -- without wrapping, the lines read back as they are
    have h := reads_body_unwrapped s hlin hw ⟨0, 0⟩ _ hlines []
    simp only [List.append_nil, read, lines_map_snd, tokenLines_flatten] at h
    exact h
  · have hw' : 0 < s.wrap.toNat := by omega
    have h := reads_body s hlin hw ⟨0, 0⟩ _ (Nat.zero_le _) hlines []
    simp only [List.append_nil, read, lines_map_snd] at h
    refine ⟨?_, fun hsplit => ?_⟩
    · rw [Settings.shown, h, ← tokenLines_flatten]
      exact drops_wrapRun_iff hw' 0 _ fun l hl => (hshape l hl).1
    · rw [Settings.shown, h, ← fitsFrom_zero_iff, ← longAtStarts_iff_isChain,
        fitsFrom_wrapRun hw' 0 0 _ le_rfl (Nat.zero_le _)
          fun l hl => ⟨(hshape l hl).1, (hshape l hl).2, hsplit l hl⟩]
      simp

/-- The style that gives no kind a look. -/
def plainSpec : Style.Spec := { styles := [] }

set_option maxRecDepth 20000 in
/-- The style `plainSpec` built. -/
def plainStyle : Style.Built :=
  ⟨plainSpec, (plainSpec.table.toOption).getD [], by decide +kernel⟩

/-- Wrapped at width two, `abc` is shown as `ab`, a line feed and `bc`: its `b` twice. -/
theorem groff_wrap_doubles_character :
    ({ wrap := 2 } : Settings).linenos = false ∧ (∀ p ∈ plainStyle.reports, Bracketless p.2) ∧
      Settings.shown { wrap := 2 } plainStyle [(TokenKind.text, "abc")] = "ab\nbc".toList ∧
      ¬ DropsBreaks (Settings.shown { wrap := 2 } plainStyle [(TokenKind.text, "abc")])
        "abc".toList := by
  have hplain : ∀ p ∈ plainStyle.reports, Bracketless p.2 := by decide +kernel
  have h := (groff_output_shows_text { wrap := 2 } plainStyle [(TokenKind.text, "abc")] rfl
    hplain).2.2 (by decide)
  refine ⟨rfl, hplain, by decide +kernel, fun hd => ?_⟩
  exact (h.1.mp (by simpa using hd)) "abc".toList (by decide +kernel) (by decide)

end Highlight.Groff
