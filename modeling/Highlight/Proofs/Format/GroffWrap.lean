import Highlight.Proofs.Format.GroffRead

/-!
# What wrapping does to groff text

Wrapping at width `w` writes a line (`x`, with or without its line feed) in one of four ways
(`wrapLine_line`): a line longer than `w` is cut into pieces of `w` characters, each followed by
a line feed (`cut`), and what is left is written after them; a line that does not fit after what
is on the current line is put on a new one; any other is written as it is.

Only line feeds are put in, with one exception. What is left after the pieces is taken from the
end of the line together with the character before it, so a line without a line feed that is
longer than `w` and not a multiple of `w` long has that character written twice (`Split`).
Every other line is its wrapped form with line feeds deleted (`drops_wrapLine`), and the count
of other characters tells the two apart (`countP_wrapLine`). Over a run of lines the output
with line feeds deleted is the text exactly when no line is split (`drops_wrapRun_iff`).

A reader sees the output of a stream as the lines wrapped one after another (`reads_body`):
every line as written reads back as its wrapped form, since that form ends in one line feed at
most.
-/

set_option autoImplicit false

namespace Highlight.Groff

open Terminal (chomp)

/-! ## Deleting line feeds -/

/-- Deleting some of the line feeds of `d` gives `s`. -/
inductive DropsBreaks : List Char → List Char → Prop
  | nil : DropsBreaks [] []
  | keep (c : Char) {d s : List Char} : DropsBreaks d s → DropsBreaks (c :: d) (c :: s)
  | drop {d s : List Char} : DropsBreaks d s → DropsBreaks ('\n' :: d) s

namespace DropsBreaks

theorem refl : ∀ s : List Char, DropsBreaks s s
  | [] => nil
  | c :: s => keep c (refl s)

theorem append {d s d' s' : List Char} (h : DropsBreaks d s) (h' : DropsBreaks d' s') :
    DropsBreaks (d ++ d') (s ++ s') := by
  induction h with
  | nil => exact h'
  | keep c _ ih => exact keep c ih
  | drop _ ih => exact drop ih

theorem newline : DropsBreaks ['\n'] [] := drop nil

theorem countP_eq {d s : List Char} (h : DropsBreaks d s) :
    d.countP (· ≠ '\n') = s.countP (· ≠ '\n') := by
  induction h with
  | nil => rfl
  | keep c _ ih => simp only [List.countP_cons, ih]
  | drop _ ih =>
    simp only [List.countP_cons, ih]
    simp

end DropsBreaks

/-! ## Lines -/

theorem countP_of_newline_not_mem {x : List Char} (hx : '\n' ∉ x) :
    x.countP (· ≠ '\n') = x.length := by
  rw [List.countP_eq_length]
  intro c hc
  simp only [ne_eq, decide_eq_true_eq]
  rintro rfl
  exact hx hc

theorem getLast?_ne_of_not_mem {x : List Char} (hx : '\n' ∉ x) : x.getLast? ≠ some '\n' :=
  fun h => hx (List.mem_of_getLast? h)

theorem getLast?_append_ne {y z : List Char} (hz : '\n' ∉ z) (hne : z ≠ []) :
    (y ++ z).getLast? ≠ some '\n' := by
  rw [List.getLast?_append, List.getLast?_eq_some_getLast hne]
  exact fun h => hz (List.mem_of_getLast? (by simpa [List.getLast?_eq_some_getLast hne] using h))

theorem chomp_of_getLast? {x : List Char} (h : x.getLast? ≠ some '\n') : chomp x = x := by
  unfold chomp
  rw [← List.head?_reverse] at h
  cases hr : x.reverse with
  | nil => simp_all
  | cons y ys =>
    rw [hr] at h
    have hy : y ≠ '\n' := by simpa using h
    rw [List.dropWhile_cons_of_neg (by simpa using hy), ← hr, List.reverse_reverse]

theorem chomp_append_newline {x : List Char} (h : x.getLast? ≠ some '\n') :
    chomp (x ++ ['\n']) = x := by
  have hx : chomp x = x := chomp_of_getLast? h
  unfold chomp at hx ⊢
  simpa using hx

theorem chomp_restore {y : List Char} (hy : y.getLast? ≠ some '\n') (nl : Bool) :
    chomp (y ++ if nl then ['\n'] else []) ++
        (if (y ++ if nl then ['\n'] else []).getLast? = some '\n' then ['\n'] else []) =
      y ++ if nl then ['\n'] else [] := by
  cases nl
  · simp [chomp_of_getLast? hy, hy]
  · simp [chomp_append_newline hy]

theorem line_shape {l : List Char} (hl : '\n' ∉ l.dropLast) :
    ∃ (x : List Char) (nl : Bool), '\n' ∉ x ∧ l = x ++ if nl then ['\n'] else [] := by
  obtain ⟨hspec, hx⟩ := Terminal.chomp_spec hl
  refine ⟨chomp l, decide (l.getLast? = some '\n'), hx, ?_⟩
  conv_lhs => rw [← hspec]
  by_cases h : l.getLast? = some '\n' <;> simp [h]

theorem chomp_line {x : List Char} (hx : '\n' ∉ x) (nl : Bool) :
    chomp (x ++ if nl then ['\n'] else []) = x := by
  cases nl
  · simpa using chomp_of_getLast? (getLast?_ne_of_not_mem hx)
  · simpa using chomp_append_newline (getLast?_ne_of_not_mem hx)

theorem getLast?_line {x : List Char} (hx : '\n' ∉ x) (nl : Bool) :
    (x ++ if nl then ['\n'] else []).getLast? = some '\n' ↔ nl = true := by
  cases nl
  · simpa using getLast?_ne_of_not_mem hx
  · simp

/-- A line that wrapping at width `w` writes one character of twice: it does not end with a line
feed, and it is longer than `w` but not a multiple of `w` long. -/
def Split (w : Nat) (l : List Char) : Prop :=
  l.getLast? ≠ some '\n' ∧ w < l.length ∧ l.length % w ≠ 0

instance (w : Nat) (l : List Char) : Decidable (Split w l) := inferInstanceAs (Decidable (_ ∧ _))

theorem split_line_iff {w : Nat} {x : List Char} (hx : '\n' ∉ x) (nl : Bool) :
    Split w (x ++ if nl then ['\n'] else []) ↔ nl = false ∧ w < x.length ∧ x.length % w ≠ 0 := by
  cases nl
  · simp [Split, getLast?_ne_of_not_mem hx]
  · simp [Split]

/-! ## Cutting a line into pieces -/

/-- The first `q` pieces of `w` characters of a text, each followed by a line feed. -/
def cut (w : Nat) (x : List Char) (q : Nat) : List Char :=
  (List.range q).flatMap fun i => (x.drop (i * w)).take w ++ ['\n']

theorem cut_zero (w : Nat) (x : List Char) : cut w x 0 = [] := rfl

theorem cut_succ (w : Nat) (x : List Char) (q : Nat) :
    cut w x (q + 1) = cut w x q ++ ((x.drop (q * w)).take w ++ ['\n']) := by
  simp [cut, List.range_succ, List.flatMap_append]

theorem drops_cut (w : Nat) (x : List Char) (q : Nat) :
    DropsBreaks (cut w x q) (x.take (q * w)) := by
  induction q with
  | zero =>
    rw [cut_zero, Nat.zero_mul, List.take_zero]
    exact DropsBreaks.nil
  | succ q ih =>
    rw [cut_succ, Nat.succ_mul, List.take_add]
    simpa using ih.append ((DropsBreaks.refl _).append DropsBreaks.newline)

theorem cut_of_line (w : Nat) {x : List Char} (e : List Char) {q : Nat}
    (hq : q * w ≤ x.length) :
    ((List.range q).flatMap fun i => ((x ++ e).drop (i * w)).take w ++ ['\n']) = cut w x q := by
  refine List.flatMap_congr fun i hi => ?_
  have hi : (i + 1) * w ≤ x.length :=
    le_trans (Nat.mul_le_mul_right w (List.mem_range.mp hi)) hq
  rw [Nat.succ_mul] at hi
  rw [List.drop_append_of_le_length (by omega), List.take_append_of_le_length (by simp; omega)]

theorem cut_succ_getLast? {w : Nat} (hw : 0 < w) {x : List Char} (hx : '\n' ∉ x) {q : Nat}
    (hq : (q + 1) * w ≤ x.length) :
    ∃ y, cut w x (q + 1) = y ++ ['\n'] ∧ y.getLast? ≠ some '\n' := by
  refine ⟨cut w x q ++ (x.drop (q * w)).take w, by rw [cut_succ, List.append_assoc], ?_⟩
  rw [Nat.succ_mul] at hq
  refine getLast?_append_ne (fun h => hx (List.mem_of_mem_drop (List.mem_of_mem_take h))) ?_
  simp only [ne_eq, List.take_eq_nil_iff, List.drop_eq_nil_iff]
  omega

/-! ## Wrapping one line -/

theorem wrapLine_line {w : Nat} (col : Nat) {x : List Char} (hx : '\n' ∉ x) (nl : Bool) :
    wrapLine w [] col (x ++ if nl then ['\n'] else []) =
      if w < x.length then
        if x.length % w = 0 then (cut w x (x.length / w), col)
        else (cut w x (x.length / w) ++
            (if nl then x.drop (x.length / w * w) ++ ['\n'] else x.drop (x.length / w * w - 1)),
          x.length % w)
      else if w < col + x.length then ('\n' :: (x ++ if nl then ['\n'] else []), x.length)
      else (x ++ if nl then ['\n'] else [], col + x.length) := by
  have hq : x.length / w * w ≤ x.length := Nat.div_mul_le_self _ _
  have hdiv : x.length / w * w + x.length % w = x.length := Nat.div_add_mod' _ _
  simp only [wrapLine, chomp_line hx nl, cut_of_line w _ hq]
  split
  · split
    · rfl
    · -- what is left is taken from the end: the rest of the text, with one character more
      -- when no line feed ends the line
      cases nl
      · simp only [Bool.false_eq_true, ↓reduceIte, List.append_nil]
        rw [show x.length - (x.length % w + 1) = x.length / w * w - 1 by omega]
      · simp only [↓reduceIte, List.length_append, List.length_singleton]
        rw [show x.length + 1 - (x.length % w + 1) = x.length / w * w by omega,
          List.drop_append_of_le_length hq]
  · rfl

theorem drops_cut_succ (w : Nat) (x : List Char) (q : Nat) :
    DropsBreaks (cut w x (q + 1)) (x.take ((q + 1) * w) ++ ['\n']) := by
  rw [cut_succ, Nat.succ_mul, List.take_add, List.append_assoc]
  exact (drops_cut w x q).append (DropsBreaks.refl _)

section
variable {w : Nat} (hw : 0 < w) {col : Nat} {x : List Char} (hx : '\n' ∉ x) (nl : Bool)
include hw hx

theorem wrapLine_ends_once (hcol : col ≤ w) :
    ∃ (y : List Char) (nl' : Bool), y.getLast? ≠ some '\n' ∧
      (wrapLine w [] col (x ++ if nl then ['\n'] else [])).1 = y ++ if nl' then ['\n'] else [] := by
  have hdiv : x.length / w * w + x.length % w = x.length := Nat.div_add_mod' _ _
  have hmod : x.length % w < w := Nat.mod_lt _ hw
  rw [wrapLine_line col hx nl]
  split
  · rename_i hlong
    have hq : 0 < x.length / w := Nat.div_pos hlong.le hw
    split
    · -- pieces only: the last piece ends the line
      obtain ⟨q, hq'⟩ : ∃ q, x.length / w = q + 1 := ⟨_, (Nat.succ_pred_eq_of_pos hq).symm⟩
      obtain ⟨y, hy, hlast⟩ := cut_succ_getLast? hw hx (q := q) (by rw [← hq']; omega)
      exact ⟨y, true, hlast, by simpa [hq'] using hy⟩
    · -- pieces, then what is left, which holds a character
      have hdrop : ∀ k, k < x.length → x.drop k ≠ [] ∧ '\n' ∉ x.drop k :=
        fun k hk => ⟨by simp; omega, fun h => hx (List.mem_of_mem_drop h)⟩
      cases nl
      · refine ⟨_, false, ?_, (List.append_nil _).symm⟩
        obtain ⟨hne, hnl⟩ := hdrop (x.length / w * w - 1) (by omega)
        simpa using getLast?_append_ne hnl hne
      · refine ⟨cut w x (x.length / w) ++ x.drop (x.length / w * w), true, ?_, by simp⟩
        obtain ⟨hne, hnl⟩ := hdrop (x.length / w * w) (by omega)
        exact getLast?_append_ne hnl hne
  · split
    · -- a new line: the line is not empty, since it does not fit
      rename_i _ hfit
      have hne : x ≠ [] := by
        rintro rfl
        simp at hfit
        omega
      exact ⟨'\n' :: x, nl, by simpa using getLast?_append_ne (y := ['\n']) hx hne, by simp⟩
    · exact ⟨x, nl, getLast?_ne_of_not_mem hx, rfl⟩

theorem drops_wrapLine (hsplit : ¬ Split w (x ++ if nl then ['\n'] else [])) :
    DropsBreaks (wrapLine w [] col (x ++ if nl then ['\n'] else [])).1
      (x ++ if nl then ['\n'] else []) := by
  have hdiv : x.length / w * w + x.length % w = x.length := Nat.div_add_mod' _ _
  rw [split_line_iff hx] at hsplit
  rw [wrapLine_line col hx nl]
  split
  · rename_i hlong
    split
    · -- pieces only: a multiple of `w`, whose last piece keeps the line feed if there is one
      rename_i hr
      have hall : x.take (x.length / w * w) = x := List.take_of_length_le (by omega)
      cases nl
      · simpa [hall] using drops_cut w x (x.length / w)
      · obtain ⟨q, hq'⟩ : ∃ q, x.length / w = q + 1 :=
          ⟨_, (Nat.succ_pred_eq_of_pos (Nat.div_pos hlong.le hw)).symm⟩
        have h := drops_cut_succ w x q
        rw [← hq', hall] at h
        simpa [hq'] using h
    · rename_i hr
      cases nl
      · exact absurd ⟨rfl, hlong, hr⟩ hsplit
      · have h := (drops_cut w x (x.length / w)).append (DropsBreaks.refl
          (x.drop (x.length / w * w) ++ ['\n']))
        rw [← List.append_assoc (x.take (x.length / w * w)), List.take_append_drop] at h
        simpa using h
  · split
    · exact DropsBreaks.drop (DropsBreaks.refl _)
    · exact DropsBreaks.refl _

theorem countP_wrapLine :
    (wrapLine w [] col (x ++ if nl then ['\n'] else [])).1.countP (· ≠ '\n') =
      (x ++ if nl then ['\n'] else []).countP (· ≠ '\n') +
        if Split w (x ++ if nl then ['\n'] else []) then 1 else 0 := by
  by_cases hsplit : Split w (x ++ if nl then ['\n'] else [])
  · -- the split line: pieces of the whole width, then the last part and the character before it
    rw [if_pos hsplit]
    obtain ⟨hnl, hlong, hr⟩ := (split_line_iff hx nl).mp hsplit
    subst hnl
    have hdiv : x.length / w * w + x.length % w = x.length := Nat.div_add_mod' _ _
    have hcut := (drops_cut w x (x.length / w)).countP_eq
    have htake : '\n' ∉ x.take (x.length / w * w) := fun h => hx (List.mem_of_mem_take h)
    have hdrop : '\n' ∉ x.drop (x.length / w * w - 1) := fun h => hx (List.mem_of_mem_drop h)
    rw [wrapLine_line col hx false, if_pos hlong, if_neg hr]
    simp only [Bool.false_eq_true, ↓reduceIte, List.append_nil]
    rw [List.countP_append, hcut, countP_of_newline_not_mem htake,
      countP_of_newline_not_mem hdrop, countP_of_newline_not_mem hx, List.length_take,
      List.length_drop]
    have hmod : x.length % w < w := Nat.mod_lt _ hw
    omega
  · rw [if_neg hsplit, (drops_wrapLine hw hx nl hsplit).countP_eq, Nat.add_zero]

end

/-- The column after a line wrapped from column `col`: none after a line feed. -/
def nextCol (w col : Nat) (l : List Char) : Nat :=
  if (wrapLine w [] col l).1.getLast? = some '\n' then 0 else (wrapLine w [] col l).2

theorem nextCol_le {w : Nat} (hw : 0 < w) {col : Nat} (hcol : col ≤ w) {l : List Char}
    (hl : '\n' ∉ l.dropLast) : nextCol w col l ≤ w := by
  obtain ⟨x, nl, hx, rfl⟩ := line_shape hl
  unfold nextCol
  by_cases hend : (wrapLine w [] col (x ++ if nl then ['\n'] else [])).1.getLast? = some '\n'
  · rw [if_pos hend]
    exact Nat.zero_le _
  · rw [if_neg hend, wrapLine_line col hx nl]
    have hmod : x.length % w < w := Nat.mod_lt _ hw
    split
    · split
      · exact hcol
      · exact hmod.le
    · split <;> omega

/-- Lines wrapped at width `w` one after another from column `col`. -/
def wrapRun (w : Nat) : Nat → List (List Char) → List Char
  | _, [] => []
  | col, l :: ls => (wrapLine w [] col l).1 ++ wrapRun w (nextCol w col l) ls

section
variable {w : Nat} (hw : 0 < w)
include hw

theorem countP_wrapRun : ∀ (col : Nat) (ls : List (List Char)), (∀ l ∈ ls, '\n' ∉ l.dropLast) →
    (wrapRun w col ls).countP (· ≠ '\n') =
      ls.flatten.countP (· ≠ '\n') + ls.countP (fun l => decide (Split w l))
  | _, [], _ => rfl
  | col, l :: ls, h => by
    obtain ⟨x, nl, hx, rfl⟩ := line_shape (h l List.mem_cons_self)
    rw [wrapRun, List.countP_append, countP_wrapLine hw hx nl,
      countP_wrapRun _ ls (fun l hl => h l (List.mem_cons_of_mem _ hl)), List.flatten_cons,
      List.countP_append, List.countP_cons]
    split <;> simp_all <;> omega

theorem drops_wrapRun : ∀ (col : Nat) (ls : List (List Char)), (∀ l ∈ ls, '\n' ∉ l.dropLast) →
    (∀ l ∈ ls, ¬ Split w l) → DropsBreaks (wrapRun w col ls) ls.flatten
  | _, [], _, _ => DropsBreaks.nil
  | col, l :: ls, h, hsplit => by
    obtain ⟨x, nl, hx, rfl⟩ := line_shape (h l List.mem_cons_self)
    exact (drops_wrapLine hw hx nl (hsplit _ List.mem_cons_self)).append
      (drops_wrapRun _ ls (fun l hl => h l (List.mem_cons_of_mem _ hl))
        (fun l hl => hsplit l (List.mem_cons_of_mem _ hl)))

theorem drops_wrapRun_iff (col : Nat) (ls : List (List Char)) (h : ∀ l ∈ ls, '\n' ∉ l.dropLast) :
    DropsBreaks (wrapRun w col ls) ls.flatten ↔ ∀ l ∈ ls, ¬ Split w l := by
  refine ⟨fun hd l hl hsplit => ?_, drops_wrapRun hw col ls h⟩
  -- a split line adds a character that no deleting of line feeds takes away
  have hc := hd.countP_eq
  rw [countP_wrapRun hw col ls h] at hc
  have hpos : 0 < ls.countP (fun l => decide (Split w l)) :=
    List.countP_pos_iff.mpr ⟨l, hl, by simpa using hsplit⟩
  omega

end

/-! ## The output read back -/

section
variable (s : Settings) (hlin : s.linenos = false)
include hlin

theorem reads_writeLine (hw : 0 < s.wrap) {look : String × String} (hlook : Silent look)
    (p : Place) (hcol : p.col ≤ s.wrap.toNat) {l : List Char} (hl : '\n' ∉ l.dropLast) :
    Reads (s.writeLine look p l).1 (wrapLine s.wrap.toNat [] p.col l).1 ∧
      (s.writeLine look p l).2.col = nextCol s.wrap.toNat p.col l := by
  obtain ⟨x, nl, hx, hshape⟩ := line_shape hl
  obtain ⟨y, nl', hy, hW⟩ := wrapLine_ends_once (by omega) hx nl hcol
  rw [← hshape] at hW
  have hrest := hW ▸ chomp_restore hy nl'
  simp only [Settings.writeLine, hw, ↓reduceIte, hlin, Bool.false_eq_true]
  unfold nextCol
  by_cases hend : (wrapLine s.wrap.toNat [] p.col l).1.getLast? = some '\n'
  · simp only [hend, ↓reduceIte, and_true] at hrest ⊢
    exact ((reads_inside hlook _).append (Reads.plain (by simp))).congr_text hrest
  · simp only [hend, ↓reduceIte, List.append_nil, and_true] at hrest ⊢
    exact (reads_inside hlook _).congr_text hrest

theorem reads_writeLine_unwrapped (hw : s.wrap ≤ 0) {look : String × String}
    (hlook : Silent look) (p : Place) {l : List Char} (hl : '\n' ∉ l.dropLast) :
    Reads (s.writeLine look p l).1 l := by
  obtain ⟨hspec, -⟩ := Terminal.chomp_spec hl
  have hw' : ¬ 0 < s.wrap := by omega
  simp only [Settings.writeLine, hw', ↓reduceIte, hlin, Bool.false_eq_true]
  by_cases hend : l.getLast? = some '\n'
  · simp only [hend, ↓reduceIte] at hspec ⊢
    exact ((reads_inside hlook _).append (Reads.plain (by simp))).congr_text hspec
  · simp only [hend, ↓reduceIte, List.append_nil] at hspec ⊢
    exact (reads_inside hlook _).congr_text hspec

theorem reads_body (hw : 0 < s.wrap) :
    ∀ (p : Place) (ls : List ((String × String) × List Char)), p.col ≤ s.wrap.toNat →
      (∀ l ∈ ls, Silent l.1 ∧ '\n' ∉ l.2.dropLast) →
      Reads (s.body p ls) (wrapRun s.wrap.toNat p.col (ls.map Prod.snd))
  | _, [], _, _ => Reads.nil
  | p, l :: ls, hcol, h => by
    obtain ⟨hlook, hl⟩ := h l List.mem_cons_self
    obtain ⟨hr, hc⟩ := reads_writeLine s hlin hw hlook p hcol hl
    have hnext : (s.writeLine l.1 p l.2).2.col ≤ s.wrap.toNat :=
      hc ▸ nextCol_le (by omega) hcol hl
    have hrest := reads_body hw _ ls hnext fun l hl => h l (List.mem_cons_of_mem _ hl)
    rw [hc] at hrest
    exact hr.append hrest

theorem reads_body_unwrapped (hw : s.wrap ≤ 0) :
    ∀ (p : Place) (ls : List ((String × String) × List Char)),
      (∀ l ∈ ls, Silent l.1 ∧ '\n' ∉ l.2.dropLast) →
      Reads (s.body p ls) (ls.map Prod.snd).flatten
  | _, [], _ => Reads.nil
  | p, l :: ls, h => by
    obtain ⟨hlook, hl⟩ := h l List.mem_cons_self
    exact (reads_writeLine_unwrapped s hlin hw hlook p hl).append
      (reads_body_unwrapped hw _ ls fun l hl => h l (List.mem_cons_of_mem _ hl))

end

end Highlight.Groff
