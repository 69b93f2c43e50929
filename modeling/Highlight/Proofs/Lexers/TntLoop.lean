import Mathlib
import Highlight.Lexers.Tnt
import Highlight.Proofs.Pattern.Search
import Highlight.Lexing
import Highlight.Languages.Proof

/-!
# A formula cut off by the end of the text

The scanner of Typographic Number Theory reads a derivation in a loop, one pass per line. A
pass that needs a character past the end of the text reports the rest of the line as an
error, but leaves the scanner where it stood: the next pass reads the same line again. When
the failure does not depend on what came before, it happens again on every pass, and the loop
never ends; only the bound on the passes stops it.

The readers write after the tokens they are given (`TntAppends`, proved for `tntVariable`,
`tntTerm` and `tntFormula` by induction on their nesting bound), so a formula that the end of
the text cuts off (`TntCutFormula`) fails the same way on every pass. `tntStep_cut` is the
step, `tntLines_cut_formula_repeats` the run: after `n` passes the error has been reported
`n` times. `lexRaw_tnt_cut` reads this back for the whole lexer, which ends its answer with as
many copies as its bound allows.
-/

set_option autoImplicit false

namespace Highlight.Lexers

open Pattern

/-! ## Readers write after the tokens they are given -/

/-- A reader writes after the tokens it is given: where it stops, what it writes and whether
it fails do not depend on them. -/
def TntAppends (r : Array Token → TntRead) : Prop :=
  ∀ pre cur, r (pre ++ cur) = (r cur).map fun p => (p.1, pre ++ p.2)

theorem tntVariable_appends (text : Array Char) (start : Nat) :
    TntAppends (tntVariable text start) := by
  intro pre cur
  simp only [tntVariable]
  cases tntAt text start with
  | error f => rfl
  | ok c =>
    simp only [bind, Except.bind]
    split
    · rfl
    · cases tntRunStrict text (fun c => c == '\'' || c == '′') (start + 1) with
      | error f => rfl
      | ok e => simp [pure, Except.pure, Except.map, Array.push_append]



theorem tntTerm_appends (text : Array Char) (fuel start : Nat) :
    TntAppends (tntTerm text fuel start) := by
  induction fuel generalizing start with
  | zero => intro pre cur; rfl
  | succ fuel ih =>
    have ih' : ∀ st pre cur, tntTerm text fuel st (pre ++ cur) =
        (tntTerm text fuel st cur).map fun p => (p.1, pre ++ p.2) := fun st => ih st
    intro pre cur
    simp only [tntTerm]
    cases tntAt text start with
    | error f => rfl
    | ok c =>
      simp only [bind, Except.bind]
      split
      · cases tntRunStrict text (· == 'S') (start + 1) with
        | error f => rfl
        | ok e => simp only [Array.push_append, ih']
      · split
        · simp [pure, Except.pure, Except.map, Array.push_append]
        · split
          · exact tntVariable_appends text start pre cur
          · split
            · simp only [Array.push_append, ih']
              cases tntTerm text fuel (start + 1) (cur.push ⟨start, .punctuation, "("⟩) with
              | error f => rfl
              | ok r =>
                obtain ⟨i, cur'⟩ := r
                simp only [Except.map]
                cases tntAt text i with
                | error f => rfl
                | ok op =>
                  simp only
                  split
                  · rfl
                  · simp only [Array.push_append, ih']
                    cases tntTerm text fuel (i + 1) (cur'.push ⟨i, .operator, String.singleton op⟩) with
                    | error f => rfl
                    | ok r =>
                      obtain ⟨j, cur''⟩ := r
                      simp only [Except.map]
                      cases tntAt text j with
                      | error f => rfl
                      | ok close =>
                        simp only
                        split
                        · rfl
                        · simp [pure, Except.pure, Array.push_append]
            · rfl

theorem tntFormula_appends (text : Array Char) (fuel start : Nat) :
    TntAppends (tntFormula text fuel start) := by
  induction fuel generalizing start with
  | zero => intro pre cur; rfl
  | succ fuel ih =>
    have ih' : ∀ st pre cur, tntFormula text fuel st (pre ++ cur) =
        (tntFormula text fuel st cur).map fun p => (p.1, pre ++ p.2) := fun st => ih st
    have hterm : ∀ st pre cur, tntTerm text fuel st (pre ++ cur) =
        (tntTerm text fuel st cur).map fun p => (p.1, pre ++ p.2) :=
      fun st => tntTerm_appends text fuel st
    have hvar : ∀ st pre cur, tntVariable text st (pre ++ cur) =
        (tntVariable text st cur).map fun p => (p.1, pre ++ p.2) :=
      fun st => tntVariable_appends text st
    intro pre cur
    simp only [tntFormula]
    cases tntAt text start with
    | error f => rfl
    | ok c =>
      simp only [bind, Except.bind]
      split
      · -- negations
        cases tntRunStrict text (fun c => c == '~' || c == '!') (start + 1) with
        | error f => rfl
        | ok e => simp only [Array.push_append, ih']
      · split
        · -- a quantifier, its variable and a colon
          simp only [Array.push_append, hvar]
          cases tntVariable text (start + 1) (cur.push ⟨start, .keywordDeclaration, String.singleton c⟩) with
          | error f => rfl
          | ok r =>
            obtain ⟨i, cur'⟩ := r
            simp only [Except.map]
            cases tntAt text i with
            | error f => rfl
            | ok colon =>
              simp only
              split
              · rfl
              · simp only [Array.push_append, ih', Except.map]
        · split
          · -- two formulas joined in angle brackets
            simp only [Array.push_append, ih']
            cases tntFormula text fuel (start + 1) (cur.push ⟨start, .punctuation, "<"⟩) with
            | error f => rfl
            | ok r =>
              obtain ⟨i, cur'⟩ := r
              simp only [Except.map]
              cases tntAt text i with
              | error f => rfl
              | ok op =>
                simp only
                split
                · rfl
                · simp only [Array.push_append, ih']
                  cases tntFormula text fuel (i + 1) (cur'.push ⟨i, .operator, String.singleton op⟩) with
                  | error f => rfl
                  | ok r =>
                    obtain ⟨j, cur''⟩ := r
                    simp only [Except.map]
                    cases tntAt text j with
                    | error f => rfl
                    | ok close =>
                      simp only
                      split
                      · rfl
                      · simp [pure, Except.pure, Array.push_append]
          · -- an equation of two terms
            simp only [hterm]
            cases tntTerm text fuel start cur with
            | error f => rfl
            | ok r =>
              obtain ⟨i, cur'⟩ := r
              simp only [Except.map]
              cases tntAt text i with
              | error f => rfl
              | ok eq =>
                simp only
                split
                · rfl
                · simp only [Array.push_append, hterm, Except.map]

theorem tntErrorLine_append (text : Array Char) (start : Nat) (pre cur : Array Token) :
    tntErrorLine text start (pre ++ cur) =
      ((tntErrorLine text start cur).1, pre ++ (tntErrorLine text start cur).2) := by
  simp only [tntErrorLine, tntBlanks, Bool.false_and, Bool.false_eq_true, if_false]
  split_ifs <;> simp [Array.push_append]

/-! ## A comment starts with a bracket -/

theorem tntComment_eq : tntComment =
    ⟨.seq [.char '[' false, .many 1 none .greedy (.set ⟨true, [.single 10, .single 93]⟩ false),
      .char ']' false], 0, []⟩ := rfl

theorem tntComment_matchAt_none {text : Array Char} {i : Nat} (h : text[i]? ≠ some '[') :
    tntComment.matchAt text i text.size = none := by
  have hat : (⟨text, text.size⟩ : Subject).at? i = text[i]? := by
    simp only [Subject.at?]
    split
    · rfl
    · exact (Array.getElem?_eq_none (by omega)).symm
  have hfail : (⟨text, text.size⟩ : Subject).single? (.char '[' false) i ≠ some true := by
    simp only [Subject.single?, hat]
    cases hc : text[i]? with
    | none => simp
    | some d =>
      rw [hc] at h
      simpa using fun he => h (by rw [he])
  simp only [Compiled.matchAt]
  rw [tntComment_eq, show matchFuel = matchFuel - 2 + 2 from rfl, search_seq]
  simp only [List.map_cons, List.map_nil, List.cons_append, List.nil_append]
  rw [search_char_fails _ _ _ _ _ _ _ hfail]

/-! ## A formula cut off by the end of the text -/

theorem tntRun_of_false (text : Array Char) (p : Char → Bool) {i : Nat} {c : Char}
    (hc : text[i]? = some c) (hp : p c = false) : tntRun text p i = i := by
  have hi : i < text.size := (Array.getElem?_eq_some_iff.mp hc).1
  have hget : text[i] = c := by simpa [hi] using hc
  simp [tntRun, hget, hp]

/-- The scanner, at `i`, stands before a formula that the end of the text cuts off: the
character there is no digit of a line number and no bracket, and reading the formula needs a
character past the end. -/
def TntCutFormula (text : Array Char) (i : Nat) : Prop :=
  ∃ c, text[i]? = some c ∧ c.isDigit = false ∧ c ≠ '[' ∧ c ≠ ']' ∧
    tntFormula text (text.size + 1) i #[] = .error .pastEnd

/-- **A pass over a cut-off formula** fails past the end of the text where it stood, with a
mark after the tokens it was given. -/
theorem tntLine_cut (text : Array Char) (s : TntScan) (hss : s.stop = s.start)
    (h : TntCutFormula text s.start) :
    tntLine text s = .pastEnd { s with mark := some s.cur.size } := by
  obtain ⟨c, hc, hdigit, hopen, hclose, hformula⟩ := h
  have hin : s.start < text.size := (Array.getElem?_eq_some_iff.mp hc).1
  have hrun : tntRun text Char.isDigit s.start = s.start := tntRun_of_false text _ hc hdigit
  have hcomment : tntComment.matchAt text s.start text.size = none :=
    tntComment_matchAt_none (by rw [hc]; simpa using hopen)
  -- the formula fails the same way after any tokens
  have hform : tntFormula text (text.size + 1) s.start s.cur = .error .pastEnd := by
    have happ := tntFormula_appends text (text.size + 1) s.start s.cur #[]
    rw [Array.append_empty] at happ
    rw [happ, hformula]
    rfl
  have hget : text[s.start] = c := by simpa [hin] using hc
  have hle : ¬ text.size ≤ s.start := by omega
  simp [tntLine, hss, hrun, hle, hcomment, hc, hopen, hclose, hform, TntFlow.andThen]

/-- The tokens a pass over a cut-off formula at `i` adds: the rest of the line as an error. -/
def tntCutError (text : Array Char) (i : Nat) : Array Token := (tntErrorLine text i #[]).2

/-- **The step lemma**: a pass over a cut-off formula reports the rest of the line as an error
and leaves the scanner where it stood. -/
theorem tntStep_cut (text : Array Char) (s : TntScan) (hss : s.stop = s.start)
    (h : TntCutFormula text s.start) :
    tntStep text s = some { s with mark := some s.cur.size, cur := s.cur ++ tntCutError text s.start } := by
  have hin : s.start < text.size := by
    obtain ⟨c, hc, -⟩ := h
    exact (Array.getElem?_eq_some_iff.mp hc).1
  have herr := tntErrorLine_append text s.start s.cur #[]
  rw [Array.append_empty] at herr
  simp [tntStep, tntLine_cut text s hss h, hss, hin, TntScan.kept, tntKeep, herr, tntCutError]

/-- **A formula cut off by the end of the text is read again on every pass**: the loop over
the lines never leaves it, and after `n` passes the tokens are those it had, then `n` times
the rest of the line as an error. So no bound on the passes lets the loop end. -/
theorem tntLines_cut_formula_repeats (text : Array Char) (i : Nat) (h : TntCutFormula text i) :
    ∀ (n : Nat) (cur : Array Token) (mark : Option Nat),
      (tntLines text n ⟨i, i, cur, mark⟩).toList =
        cur.toList ++ (List.replicate n (tntCutError text i).toList).flatten := by
  intro n
  induction n with
  | zero => intro cur mark; simp [tntLines]
  | succ n ih =>
    intro cur mark
    rw [tntLines, tntStep_cut text ⟨i, i, cur, mark⟩ rfl h]
    simp only
    rw [ih, List.replicate_succ, List.flatten_cons, Array.toList_append, List.append_assoc]

/-- A lone variable at the end of the text is such a formula: its primes are looked for past
the end. The loop reports it as an error on every pass. -/
theorem tntLines_lone_variable_repeats :
    TntCutFormula #['a'] 0 ∧
      ∀ n, (tntLines #['a'] n ⟨0, 0, #[], none⟩).toList = List.replicate n ⟨0, .error, "a"⟩ := by
  have hcut : TntCutFormula #['a'] 0 := ⟨'a', rfl, rfl, by decide, by decide, rfl⟩
  refine ⟨hcut, fun n => ?_⟩
  rw [tntLines_cut_formula_repeats _ _ hcut n #[] none,
    show tntCutError #['a'] 0 = #[⟨0, .error, "a"⟩] from rfl]
  simp

end Highlight.Lexers

namespace Highlight

open Lexers Languages

/-- **What the lexer gives on a cut-off formula**: on a text that starts, after its blanks,
with a formula cut off by the end of the text, the lexer of Typographic Number Theory ends
with the rest of the line as an error once for each pass its bound of `2 * size + 4` passes
allows. -/
theorem lexRaw_tnt_cut (opts : Options) (code : String)
    (h : TntCutFormula code.toList.toArray (tntRun code.toList.toArray tntBlank 0)) :
    ∃ blanks, lexRaw tntLanguage opts code =
      .ok (blanks ++ (List.replicate (2 * code.length + 4)
        (tntCutError code.toList.toArray (tntRun code.toList.toArray tntBlank 0)).toList).flatten) := by
  obtain ⟨⟨e, cur⟩, hr⟩ := tntBlanks_ok code.toList.toArray 0 #[]
  have he : e = tntRun code.toList.toArray tntBlank 0 := by
    simp only [tntBlanks, Bool.false_and, Bool.false_eq_true, if_false, Except.ok.injEq,
      Prod.mk.injEq] at hr
    exact hr.1.symm
  subst he
  refine ⟨cur.toList, ?_⟩
  simp only [lexRaw, Language.fault?, lexWith, tntLanguage, Language.described, tntScanner,
    Scanner.plain, Scanner.resolve]
  rw [show nestingDepth = 23 + 1 from rfl, lexScanner]
  simp only [Scanner.resolve, hr, Shared.fault?_nil]
  rw [tntLines_cut_formula_repeats _ _ h, List.size_toArray, String.length_toList]

end Highlight
