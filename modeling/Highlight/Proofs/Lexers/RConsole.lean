import Mathlib
import Highlight.Lexers.Sessions
import Highlight.Lexing
import Highlight.Languages.Statistics
import Highlight.Proofs.Lexer.Insertions

/-!
# Offsets of the R console

The R console reads a transcript line by line. A line that starts with `>` or `+` is a
prompt line: its first two characters are a prompt and the rest is code, gathered into a
block; any other line is printed text. A block is lexed, and its prompts put back in
(`insertTokens`), when a printed line or the end of the text comes and the block has code.

The tokens of a block are counted from the start of the block, and nothing moves them to
where the block stands in the text. So a block of code after printed text is counted from 0
again, and a block without code is never lexed, so a printed line after it stands past the
text written. `rConsole_offsets_exact_iff` says exactly when the offsets come out right,
for any lexer of the code that itself counts exactly: when the transcript is prompt lines,
printed lines, then prompt lines without code, and printed lines after the first prompt
lines come only if those have code.

The proof follows the transcript in three phases, each a lemma by recursion on the lines
left: the first block (`rFinish_start`), printed text with nothing pending
(`rFinish_clean`), and a block after printed text (`rFinish_pending`).
-/

set_option autoImplicit false

namespace Highlight.Lexers

open Token

/-! ## Lines one after another -/

/-- Lines that stand one after another from offset `n` on, none of them empty. -/
def LinesFrom : Nat → List (Nat × String) → Prop
  | _, [] => True
  | n, (i, l) :: ls => i = n ∧ l ≠ "" ∧ LinesFrom (n + l.length) ls

theorem newlineLinesFrom_linesFrom (cs : List Char) (start i : Nat) (cur : List Char)
    (h : i = start + cur.length) : LinesFrom start (newlineLinesFrom cs start i cur) := by
  fun_induction newlineLinesFrom cs start i cur with
  | case1 => trivial
  | case2 c rest start i cur hc ih =>
    refine ⟨rfl, ?_, ?_⟩
    · intro he
      have := congrArg String.length he
      simp at this
    · have hlen : start + (String.ofList (c :: cur).reverse).length = i + 1 := by
        simp; omega
      rw [hlen]
      exact ih rfl
  | case3 c rest start i cur hc ih => exact ih (by simp; omega)

theorem newlineLines_linesFrom (s : String) : LinesFrom 0 (newlineLines s) :=
  newlineLinesFrom_linesFrom _ 0 0 [] rfl

/-! ## One line of the R console -/

section Console
variable (lex : String → List Token)

theorem rConsole_readLine_prompt (t : Transcript Unit) (i : Nat) (l : String)
    (h : rPromptLine l = true) :
    rConsoleReader.readLine lex t (i, l) =
      { t with block := t.block.add [piece 0 .genericPrompt (takeChars l 2)] (dropChars l 2) } := by
  simp [SessionReader.readLine, rConsoleReader, h, Transcript.take]

theorem rConsole_readLine_printed (t : Transcript Unit) (i : Nat) (l : String)
    (h : rPromptLine l = false) :
    rConsoleReader.readLine lex t (i, l) =
      { t.flush rConsoleReader.ready lex with
        out := piece i .genericOutput l :: (t.flush rConsoleReader.ready lex).out } := by
  simp [SessionReader.readLine, rConsoleReader, h, Transcript.take]

theorem rConsole_ready (b : Block) : rConsoleReader.ready b = !b.code.isEmpty := rfl

end Console

/-! ## The R console language -/

/-- The tokens of a text in the language of a class, nested `depth` deep, from an empty
shared memory; none if no language has the class. -/
def lexClass (depth : Nat) (name : String) (opts : Options) (text : String) : List Token :=
  ((scannerOf name).map fun s => (lexScanner depth s opts none text []).1).getD []

/-- The R console language runs its reader over the lines of the text and lexes each block of
code in the language of `SLexer`, one level deeper. -/
theorem lexRaw_rConsole (opts : Options) (code : String) :
    lexRaw Languages.rConsoleLanguage opts code =
      .ok (rConsoleReader.run (lexClass (nestingDepth - 1) "SLexer" opts) (newlineLines code)) := by
  simp only [lexRaw, Language.fault?, lexWith, Languages.rConsoleLanguage, Language.described,
    rConsole, SessionReader.scanner, Scanner.resolve]
  rw [show nestingDepth = 23 + 1 from rfl, lexScanner]
  simp only [Scanner.resolve, String.ofList_toList, id, Nat.add_sub_cancel, Shared.fault?_nil]
  refine congrArg (fun f => Except.ok (rConsoleReader.run f (newlineLines code)))
    (funext fun c => ?_)
  simp only [Env.sublexAlone, lexClass]
  cases scannerOf "SLexer" <;> rfl

/-! ## Blocks of prompt lines -/

/-- A block gathered from the prompt lines `P` of an R console: its code is what follows the
prompts, and each prompt is a mark at the offset of the code it stands before. -/
def Gathered (b : Block) (P : List String) : Prop :=
  b.code = String.join (P.map (dropChars · 2)) ∧ Ordered b.marks.reverse ∧
    (∀ x ∈ b.marks, x.1 ≤ b.code.length) ∧
    (b.marks.reverse.flatMap fun x => chars x.2).length = (P.map fun l => (takeChars l 2).length).sum ∧
    (b.marks = [] ↔ P = [])

theorem gathered_empty : Gathered {} [] := by
  refine ⟨rfl, List.Pairwise.nil, by simp, rfl, by simp⟩

theorem Gathered.add {b : Block} {P : List String} (hb : Gathered b P) (l : String) :
    Gathered (b.add [piece 0 .genericPrompt (takeChars l 2)] (dropChars l 2)) (P ++ [l]) := by
  obtain ⟨hcode, hord, hle, hlen, hnil⟩ := hb
  refine ⟨?_, ?_, ?_, ?_, ?_⟩
  · simp [Block.add, hcode, String.join_append]
  · simp only [Block.add, List.isEmpty_cons, Bool.false_eq_true, if_false, List.reverse_cons]
    refine List.pairwise_append.mpr ⟨hord, List.pairwise_singleton _ _, ?_⟩
    intro x hx y hy
    simp only [List.mem_singleton] at hy
    subst hy
    exact hle x (List.mem_reverse.mp hx)
  · intro x hx
    simp only [Block.add, List.isEmpty_cons, Bool.false_eq_true, if_false, List.mem_cons] at hx
    simp only [Block.add, List.isEmpty_cons, Bool.false_eq_true, if_false, String.length_append]
    rcases hx with rfl | hx
    · exact Nat.le_add_right _ _
    · have := hle x hx; omega
  · simp [Block.add, hlen, piece, takeChars, String.length_toList]
  · simp [Block.add]

theorem length_takeChars_add_dropChars (l : String) (n : Nat) :
    (takeChars l n).length + (dropChars l n).length = l.length := by
  simp only [takeChars, dropChars, String.length_ofList, List.length_take, List.length_drop,
    String.length_toList]
  omega

theorem sum_prompts_add_code (P : List String) :
    (P.map fun l => (takeChars l 2).length).sum + (String.join (P.map (dropChars · 2))).length =
      (P.map String.length).sum := by
  induction P with
  | nil => rfl
  | cons l P ih =>
    simp only [List.map_cons, List.sum_cons, String.join_cons, String.length_append]
    have := length_takeChars_add_dropChars l 2
    omega

/-- The lexer of the code lexes exactly: its tokens have exact offsets from 0 and spell the
code. -/
def LexesExactly (lex : String → List Token) : Prop :=
  ∀ code, ExactFrom 0 (lex code) ∧ concat (lex code) = code

/-- **The tokens of a block of prompt lines**, with a language that lexes exactly, have exact
offsets from 0 and the length of the lines. -/
theorem Gathered.tokens {lex : String → List Token} (hlex : LexesExactly lex) {b : Block}
    {P : List String} (hb : Gathered b P) :
    ExactFrom 0 (b.tokens lex) ∧ (chars (b.tokens lex)).length = (P.map String.length).sum := by
  obtain ⟨hcode, hord, -, hlen, -⟩ := hb
  obtain ⟨hexact, hchars⟩ := insertTokens_spec b.marks.reverse (lex b.code) (hlex b.code).1 hord
  refine ⟨hexact, ?_⟩
  have hlexChars : chars (lex b.code) = b.code.toList := by rw [← toList_concat, (hlex b.code).2]
  rw [Block.tokens, hchars, length_splice, hlen, hlexChars, String.length_toList, hcode,
    Nat.add_comm, sum_prompts_add_code]

theorem map_shift_zero (ts : List Token) : ts.map (·.shift 0) = ts := by
  simp [Token.shift]

theorem Gathered.eq_empty {b : Block} (hb : Gathered b []) : b = {} := by
  obtain ⟨hcode, -, -, -, hnil⟩ := hb
  cases b
  simp_all

/-! ## Shapes of transcripts -/

theorem length_pos_of_ne_empty {l : String} (hl : l ≠ "") : 0 < l.length := by
  rw [← String.length_toList]
  exact List.length_pos_iff.mpr fun he => hl (String.toList_eq_nil_iff.mp he)

theorem sum_length_pos {P : List String} (hP : P ≠ []) (hnz : ∀ l ∈ P, l ≠ "") :
    0 < (P.map String.length).sum := by
  obtain ⟨l, P, rfl⟩ := List.exists_cons_of_ne_nil hP
  have := length_pos_of_ne_empty (hnz l List.mem_cons_self)
  simp only [List.map_cons, List.sum_cons]
  omega

theorem dropChars_eq_empty_iff (l : String) (n : Nat) : dropChars l n = "" ↔ l.length ≤ n := by
  simp [dropChars, ← String.toList_inj, String.length_toList]

/-- Printed lines, then prompt lines without code. -/
def PrintedThenQuiet (R : List (Nat × String)) : Prop :=
  ∃ O Q, R = O ++ Q ∧ (∀ x ∈ O, rPromptLine x.2 = false) ∧
    (∀ x ∈ Q, rPromptLine x.2 = true ∧ x.2.length ≤ 2)

theorem printedThenQuiet_cons_printed {x : Nat × String} {R : List (Nat × String)}
    (h : rPromptLine x.2 = false) : PrintedThenQuiet (x :: R) ↔ PrintedThenQuiet R := by
  constructor
  · rintro ⟨O, Q, he, hO, hQ⟩
    cases O with
    | nil =>
      rw [List.nil_append] at he
      subst he
      have := (hQ x List.mem_cons_self).1
      rw [h] at this
      cases this
    | cons o O =>
      obtain ⟨rfl, rfl⟩ := List.cons.inj he
      exact ⟨O, Q, rfl, fun y hy => hO y (List.mem_cons_of_mem _ hy), hQ⟩
  · rintro ⟨O, Q, rfl, hO, hQ⟩
    exact ⟨x :: O, Q, rfl, List.forall_mem_cons.mpr ⟨h, hO⟩, hQ⟩

theorem printedThenQuiet_cons_prompt {x : Nat × String} {R : List (Nat × String)}
    (h : rPromptLine x.2 = true) :
    PrintedThenQuiet (x :: R) ↔ ∀ y ∈ x :: R, rPromptLine y.2 = true ∧ y.2.length ≤ 2 := by
  constructor
  · rintro ⟨O, Q, he, hO, hQ⟩
    cases O with
    | nil =>
      rw [List.nil_append] at he
      subst he
      exact hQ
    | cons o O =>
      obtain ⟨rfl, -⟩ := List.cons.inj he
      have := hO x List.mem_cons_self
      rw [h] at this
      cases this
  · intro hQ
    exact ⟨[], x :: R, rfl, by simp, hQ⟩

/-- The lines an R console counts exactly after a first block of prompt lines `P0` with code
`code`: more prompt lines `P`, printed lines `O`, then prompt lines without code; printed lines
may only follow the first block if it has code or is empty. -/
def CountedExactly (P0 : List String) (code : String) (R : List (Nat × String)) : Prop :=
  ∃ P O Q, R = P ++ O ++ Q ∧ (∀ x ∈ P, rPromptLine x.2 = true) ∧
    (∀ x ∈ O, rPromptLine x.2 = false) ∧ (∀ x ∈ Q, rPromptLine x.2 = true ∧ x.2.length ≤ 2) ∧
    (O = [] ∨ (P0 = [] ∧ P = []) ∨ code ≠ "" ∨ ∃ x ∈ P, 2 < x.2.length)

theorem countedExactly_nil (P0 : List String) (code : String) : CountedExactly P0 code [] :=
  ⟨[], [], [], rfl, by simp, by simp, by simp, Or.inl rfl⟩

theorem append_dropChars_ne_empty (code l : String) :
    code ++ dropChars l 2 ≠ "" ↔ code ≠ "" ∨ 2 < l.length := by
  rw [ne_eq, String.append_eq_empty_iff, dropChars_eq_empty_iff]
  by_cases hc : code = "" <;> simp [hc]

theorem countedExactly_cons_prompt {P0 : List String} {code : String} {i : Nat} {l : String}
    {R : List (Nat × String)} (h : rPromptLine l = true) :
    CountedExactly P0 code ((i, l) :: R) ↔
      CountedExactly (P0 ++ [l]) (code ++ dropChars l 2) R := by
  constructor
  · rintro ⟨P, O, Q, he, hP, hO, hQ, hcase⟩
    cases P with
    | nil =>
      -- no printed line can come first, so every line is a prompt line
      cases O with
      | nil =>
        simp only [List.nil_append] at he
        subst he
        exact ⟨R, [], [], by simp, fun x hx => (hQ x (List.mem_cons_of_mem _ hx)).1, by simp,
          by simp, Or.inl rfl⟩
      | cons o O =>
        obtain ⟨rfl, -⟩ := List.cons.inj he
        have := hO _ List.mem_cons_self
        rw [h] at this
        cases this
    | cons p P =>
      obtain ⟨rfl, rfl⟩ := List.cons.inj he
      refine ⟨P, O, Q, rfl, fun x hx => hP x (List.mem_cons_of_mem _ hx), hO, hQ, ?_⟩
      rw [append_dropChars_ne_empty]
      rcases hcase with hcase | ⟨-, hcase⟩ | hcase | ⟨x, hx, hlen⟩
      · exact Or.inl hcase
      · cases hcase
      · exact Or.inr (Or.inr (Or.inl (Or.inl hcase)))
      · rcases List.mem_cons.mp hx with rfl | hx
        · exact Or.inr (Or.inr (Or.inl (Or.inr hlen)))
        · exact Or.inr (Or.inr (Or.inr ⟨x, hx, hlen⟩))
  · rintro ⟨P, O, Q, rfl, hP, hO, hQ, hcase⟩
    refine ⟨(i, l) :: P, O, Q, rfl, List.forall_mem_cons.mpr ⟨h, hP⟩, hO, hQ, ?_⟩
    rw [append_dropChars_ne_empty] at hcase
    rcases hcase with hcase | ⟨hcase, -⟩ | (hcase | hcase) | ⟨x, hx, hlen⟩
    · exact Or.inl hcase
    · simp at hcase
    · exact Or.inr (Or.inr (Or.inl hcase))
    · exact Or.inr (Or.inr (Or.inr ⟨(i, l), List.mem_cons_self, hcase⟩))
    · exact Or.inr (Or.inr (Or.inr ⟨x, List.mem_cons_of_mem _ hx, hlen⟩))

theorem countedExactly_cons_printed {P0 : List String} {code : String} {x : Nat × String}
    {R : List (Nat × String)} (h : rPromptLine x.2 = false) :
    CountedExactly P0 code (x :: R) ↔ (P0 = [] ∨ code ≠ "") ∧ PrintedThenQuiet R := by
  constructor
  · rintro ⟨P, O, Q, he, hP, hO, hQ, hcase⟩
    cases P with
    | cons p P =>
      obtain ⟨rfl, -⟩ := List.cons.inj he
      have := hP x List.mem_cons_self
      rw [h] at this
      cases this
    | nil =>
      have hpq : PrintedThenQuiet (x :: R) := ⟨O, Q, by simpa using he, hO, hQ⟩
      refine ⟨?_, (printedThenQuiet_cons_printed h).mp hpq⟩
      -- the printed line is among `O`
      have hO' : O ≠ [] := by
        rintro rfl
        simp only [List.nil_append] at he
        have := (hQ x (by rw [← he]; exact List.mem_cons_self)).1
        rw [h] at this
        cases this
      simpa [hO'] using hcase
  · rintro ⟨hcase, hR⟩
    obtain ⟨O, Q, he, hO, hQ⟩ := (printedThenQuiet_cons_printed h).mpr hR
    refine ⟨[], O, Q, by simpa using he, by simp, hO, hQ, ?_⟩
    rcases hcase with hcase | hcase
    · exact Or.inr (Or.inl ⟨hcase, rfl⟩)
    · exact Or.inr (Or.inr (Or.inl hcase))

/-! ## Runs of the R console -/

section Run
variable {lex : String → List Token}

/-- What the R console makes of the lines `R` from the transcript `t` on. -/
def rFinish (lex : String → List Token) (t : Transcript Unit) (R : List (Nat × String)) :
    List Token :=
  ((R.foldl (rConsoleReader.readLine lex) t).flush rConsoleReader.ready lex).out.reverse

theorem rFinish_cons (t : Transcript Unit) (x : Nat × String) (R : List (Nat × String)) :
    rFinish lex t (x :: R) = rFinish lex (rConsoleReader.readLine lex t x) R := rfl

theorem flush_of_code {t : Transcript Unit} (h : t.block.code ≠ "") :
    t.flush rConsoleReader.ready lex =
      { t with block := {}, out := ((t.block.tokens lex).map (·.shift t.base)).reverse ++ t.out } := by
  simp [Transcript.flush, rConsole_ready, h]

theorem flush_of_no_code {t : Transcript Unit} (h : t.block.code = "") :
    t.flush rConsoleReader.ready lex = t := by
  simp [Transcript.flush, rConsole_ready, h]

theorem flush_out (t : Transcript Unit) :
    ∃ zs, (t.flush rConsoleReader.ready lex).out = zs ++ t.out ∧
      (t.flush rConsoleReader.ready lex).base = t.base := by
  by_cases h : t.block.code = ""
  · exact ⟨[], by simp [flush_of_no_code h]⟩
  · exact ⟨((t.block.tokens lex).map (·.shift t.base)).reverse, by simp [flush_of_code h]⟩

theorem readLine_out (t : Transcript Unit) (x : Nat × String) :
    ∃ zs, (rConsoleReader.readLine lex t x).out = zs ++ t.out ∧
      (rConsoleReader.readLine lex t x).base = t.base := by
  obtain ⟨i, l⟩ := x
  cases h : rPromptLine l
  · obtain ⟨zs, hzs, hbase⟩ := @flush_out lex t
    exact ⟨piece i .genericOutput l :: zs, by simp [rConsole_readLine_printed lex t i l h, hzs, hbase]⟩
  · exact ⟨[], by simp [rConsole_readLine_prompt lex t i l h]⟩

theorem rFinish_extends : ∀ (R : List (Nat × String)) (t : Transcript Unit),
    ∃ ys, rFinish lex t R = t.out.reverse ++ ys := by
  intro R
  induction R with
  | nil =>
    intro t
    obtain ⟨zs, hzs, -⟩ := @flush_out lex t
    exact ⟨zs.reverse, by simp [rFinish, hzs]⟩
  | cons x R ih =>
    intro t
    obtain ⟨ys, hys⟩ := ih (rConsoleReader.readLine lex t x)
    obtain ⟨zs, hzs, -⟩ := @readLine_out lex t x
    exact ⟨zs.reverse ++ ys, by rw [rFinish_cons, hys, hzs]; simp⟩

theorem rFinish_not_exact {t : Transcript Unit} (R : List (Nat × String))
    (h : ¬ ExactFrom 0 t.out.reverse) : ¬ ExactFrom 0 (rFinish lex t R) := by
  obtain ⟨ys, hys⟩ := @rFinish_extends lex R t
  rw [hys, exactFrom_append]
  exact fun h' => h h'.1

theorem not_exact_after {xs ys : List Token} (hn : 0 < (chars xs).length) (hys : ExactFrom 0 ys)
    (hne : ys ≠ []) : ¬ ExactFrom 0 (xs ++ ys) := by
  intro h
  obtain ⟨y, ys, rfl⟩ := List.exists_cons_of_ne_nil hne
  have h1 := (exactFrom_append.mp h).2.1
  have h2 := hys.1
  omega

theorem flush_after_output_not_exact (hlex : LexesExactly lex) {t : Transcript Unit}
    {P : List String} (hbase : t.base = 0) (hn : 0 < (chars t.out.reverse).length)
    (hb : Gathered t.block P) (hP : P ≠ []) (hnz : ∀ l ∈ P, l ≠ "") (hc : t.block.code ≠ "") :
    ¬ ExactFrom 0 (t.flush rConsoleReader.ready lex).out.reverse := by
  obtain ⟨hB, hBlen⟩ := hb.tokens hlex
  have hne : t.block.tokens lex ≠ [] := by
    intro he
    rw [he] at hBlen
    have := sum_length_pos hP hnz
    simp at hBlen
    omega
  rw [flush_of_code hc]
  simp only [hbase, map_shift_zero, List.reverse_append, List.reverse_reverse]
  exact not_exact_after hn hB hne

/-- **A block of prompt lines after printed text**: the offsets stay exact only when every
line left is a prompt line without code and the block has no code either, so that it is
never lexed; a block that is lexed counts from 0, and a printed line after a block that is
not stands past the text written. -/
theorem rFinish_pending (hlex : LexesExactly lex) :
    ∀ (R : List (Nat × String)) (t : Transcript Unit) (P : List String),
    t.base = 0 → ExactFrom 0 t.out.reverse → 0 < (chars t.out.reverse).length →
    Gathered t.block P → P ≠ [] → (∀ l ∈ P, l ≠ "") →
    LinesFrom ((chars t.out.reverse).length + (P.map String.length).sum) R →
    (ExactFrom 0 (rFinish lex t R) ↔
      (∀ x ∈ R, rPromptLine x.2 = true ∧ x.2.length ≤ 2) ∧ t.block.code = "") := by
  intro R
  induction R with
  | nil =>
    intro t P hbase hout hn hb hP hnz _
    by_cases hc : t.block.code = ""
    · simp [rFinish, flush_of_no_code hc, hout, hc]
    · -- the block is lexed, counted from 0 after the printed text
      simp only [rFinish, List.foldl_nil, hc, and_false, iff_false]
      exact flush_after_output_not_exact hlex hbase hn hb hP hnz hc
  | cons x R ih =>
    obtain ⟨i, l⟩ := x
    intro t P hbase hout hn hb hP hnz hR
    obtain ⟨hi, hl, hR⟩ := hR
    rw [rFinish_cons]
    cases h : rPromptLine l
    · -- a printed line: either the block is lexed, counted from 0, or it is left out
      rw [rConsole_readLine_printed lex t i l h]
      simp only [List.forall_mem_cons, h, Bool.false_eq_true, false_and, false_and, iff_false]
      apply rFinish_not_exact
      by_cases hc : t.block.code = ""
      · have := sum_length_pos hP hnz
        rw [flush_of_no_code hc]
        simp only [List.reverse_cons, exactFrom_append, exactFrom_cons, exactFrom_nil, and_true]
        rintro ⟨-, hstart⟩
        simp only [piece] at hstart
        omega
      · simp only [List.reverse_cons, exactFrom_append]
        rintro ⟨h', -⟩
        exact flush_after_output_not_exact hlex hbase hn hb hP hnz hc h'
    · -- a prompt line: the block grows
      rw [rConsole_readLine_prompt lex t i l h]
      have hnz' : ∀ l' ∈ P ++ [l], l' ≠ "" :=
        List.forall_mem_append.mpr ⟨hnz, List.forall_mem_singleton.mpr hl⟩
      have hR' : LinesFrom ((chars t.out.reverse).length + ((P ++ [l]).map String.length).sum) R := by
        simpa [hi, Nat.add_assoc] using hR
      rw [ih
        { t with block := t.block.add [piece 0 .genericPrompt (takeChars l 2)] (dropChars l 2) }
        (P ++ [l]) hbase hout hn (hb.add l) (by simp) hnz' hR']
      simp only [Block.add, List.isEmpty_cons, Bool.false_eq_true, if_false, List.forall_mem_cons,
        h, true_and, String.append_eq_empty_iff, dropChars_eq_empty_iff]
      constructor
      · rintro ⟨hrest, hcode, hlen⟩
        exact ⟨⟨hlen, hrest⟩, hcode⟩
      · rintro ⟨⟨hlen, hrest⟩, hcode⟩
        exact ⟨hrest, hcode, hlen⟩

/-- **Printed text with nothing pending**: the offsets stay exact exactly when the lines left
are printed lines, then prompt lines without code. -/
theorem rFinish_clean (hlex : LexesExactly lex) :
    ∀ (R : List (Nat × String)) (t : Transcript Unit),
    t.base = 0 → t.block = {} → ExactFrom 0 t.out.reverse → 0 < (chars t.out.reverse).length →
    LinesFrom (chars t.out.reverse).length R →
    (ExactFrom 0 (rFinish lex t R) ↔ PrintedThenQuiet R) := by
  intro R
  induction R with
  | nil =>
    intro t _ hblock hout _ _
    have hc : t.block.code = "" := by rw [hblock]
    simpa [rFinish, flush_of_no_code hc, hout] using ⟨[], [], rfl, by simp, by simp⟩
  | cons x R ih =>
    obtain ⟨i, l⟩ := x
    intro t hbase hblock hout hn hR
    obtain ⟨hi, hl, hR⟩ := hR
    have hc : t.block.code = "" := by rw [hblock]
    rw [rFinish_cons]
    cases h : rPromptLine l
    · -- a printed line goes on right after the text written
      rw [rConsole_readLine_printed lex t i l h, flush_of_no_code hc,
        printedThenQuiet_cons_printed (x := (i, l)) h]
      have hout' : ExactFrom 0 (piece i .genericOutput l :: t.out).reverse := by
        simp only [List.reverse_cons, exactFrom_append, exactFrom_cons, exactFrom_nil, and_true]
        exact ⟨hout, by simp [piece, hi]⟩
      refine ih _ hbase hblock hout' (by simp; omega) ?_
      simpa [piece, hi, String.length_toList] using hR
    · -- a prompt line opens a block after the printed text
      rw [rConsole_readLine_prompt lex t i l h, printedThenQuiet_cons_prompt (x := (i, l)) h]
      have hb : Gathered (t.block.add [piece 0 .genericPrompt (takeChars l 2)] (dropChars l 2)) [l] := by
        rw [hblock]; exact gathered_empty.add l
      rw [rFinish_pending hlex R
        { t with block := t.block.add [piece 0 .genericPrompt (takeChars l 2)] (dropChars l 2) }
        [l] hbase hout hn hb (by simp) (by simpa using hl) (by simpa [hi] using hR)]
      simp only [Block.add, hblock, List.isEmpty_cons, Bool.false_eq_true, if_false,
        String.empty_append, dropChars_eq_empty_iff, List.forall_mem_cons, h, true_and]
      exact And.comm

/-- **The first block of an R console**: from a block of the prompt lines `P0`, with nothing
written yet, the offsets are exact exactly when the lines left are counted exactly. -/
theorem rFinish_start (hlex : LexesExactly lex) :
    ∀ (R : List (Nat × String)) (t : Transcript Unit) (P0 : List String),
    t.base = 0 → t.out = [] → Gathered t.block P0 → (∀ l ∈ P0, l ≠ "") →
    LinesFrom (P0.map String.length).sum R →
    (ExactFrom 0 (rFinish lex t R) ↔ CountedExactly P0 t.block.code R) := by
  intro R
  induction R with
  | nil =>
    intro t P0 hbase hout hb _ _
    simp only [countedExactly_nil, iff_true]
    by_cases hc : t.block.code = ""
    · simp [rFinish, flush_of_no_code hc, hout]
    · simp [rFinish, flush_of_code hc, hout, hbase, map_shift_zero, (hb.tokens hlex).1]
  | cons x R ih =>
    obtain ⟨i, l⟩ := x
    intro t P0 hbase hout hb hnz hR
    obtain ⟨hi, hl, hR⟩ := hR
    rw [rFinish_cons]
    cases h : rPromptLine l
    · rw [countedExactly_cons_printed (x := (i, l)) h, rConsole_readLine_printed lex t i l h]
      by_cases hc : t.block.code = ""
      · rw [flush_of_no_code hc]
        by_cases hP0 : P0 = []
        · -- nothing gathered: the printed line opens the text
          subst hP0
          have hblock := hb.eq_empty
          have hout' : ExactFrom 0 (piece i .genericOutput l :: t.out).reverse := by
            simp [hout, piece, hi]
          rw [rFinish_clean hlex R { t with out := piece i .genericOutput l :: t.out } hbase hblock hout'
            ?pos ?lines]
          · simp
          case pos => simpa [hout, piece, String.length_toList] using length_pos_of_ne_empty hl
          case lines => simpa [hout, piece, hi, String.length_toList] using hR
        · -- a block without code is never lexed, so the printed line stands past the text
          simp only [hP0, hc, false_or, ne_eq, not_true_eq_false, false_and, iff_false]
          apply rFinish_not_exact
          have := sum_length_pos hP0 hnz
          simp only [hout, List.reverse_cons, List.reverse_nil, List.nil_append, exactFrom_cons,
            piece]
          omega
      · -- the block is lexed from 0 and the printed line follows it
        rw [flush_of_code hc]
        obtain ⟨hB, hBlen⟩ := hb.tokens hlex
        have hout' : ExactFrom 0 (piece i .genericOutput l ::
            ((t.block.tokens lex).map (·.shift t.base)).reverse ++ t.out).reverse := by
          simp only [hout, hbase, map_shift_zero, List.append_nil, List.reverse_cons,
            List.reverse_reverse, exactFrom_append, exactFrom_cons, exactFrom_nil, and_true]
          exact ⟨hB, by simp [piece, hi, hBlen]⟩
        rw [rFinish_clean hlex R { t with block := {}, out := piece i .genericOutput l ::
            (((t.block.tokens lex).map (·.shift t.base)).reverse ++ t.out) } hbase rfl hout'
            ?pos ?lines]
        · simp [hc]
        case pos =>
          have := length_pos_of_ne_empty hl
          simp [piece, String.length_toList]
          omega
        case lines =>
          simpa [hout, hbase, map_shift_zero, piece, hi, hBlen, String.length_toList] using hR
    · -- a prompt line joins the first block
      rw [countedExactly_cons_prompt h, rConsole_readLine_prompt lex t i l h]
      have hnz' : ∀ l' ∈ P0 ++ [l], l' ≠ "" :=
        List.forall_mem_append.mpr ⟨hnz, List.forall_mem_singleton.mpr hl⟩
      have hR' : LinesFrom ((P0 ++ [l]).map String.length).sum R := by
        simpa [hi] using hR
      rw [ih
        { t with block := t.block.add [piece 0 .genericPrompt (takeChars l 2)] (dropChars l 2) }
        (P0 ++ [l]) hbase hout (hb.add l) hnz' hR']
      simp [Block.add]

/-- **Offsets of the R console.** With a lexer of the code that counts exactly, the offsets
of the tokens of a transcript are exact exactly when its lines are prompt lines `P`, printed
lines `O`, then prompt lines `Q` without code, and printed lines follow the first prompt
lines only if these have code. Each later block of code is counted from 0 again. -/
theorem rConsole_offsets_exact_iff (lex : String → List Token) (hlex : LexesExactly lex)
    (text : String) :
    ExactFrom 0 (rConsoleReader.run lex (newlineLines text)) ↔
      ∃ P O Q, newlineLines text = P ++ O ++ Q ∧ (∀ x ∈ P, rPromptLine x.2 = true) ∧
        (∀ x ∈ O, rPromptLine x.2 = false) ∧
        (∀ x ∈ Q, rPromptLine x.2 = true ∧ x.2.length ≤ 2) ∧
        (O = [] ∨ P = [] ∨ ∃ x ∈ P, 2 < x.2.length) := by
  have hstart := rFinish_start hlex (newlineLines text) { state := () } [] rfl rfl
    gathered_empty (by simp) (newlineLines_linesFrom text)
  refine hstart.trans ?_
  simp only [CountedExactly, true_and, ne_eq, not_true_eq_false, false_or]

/-- A prompt line without code, then a printed line: the block is never lexed, so its prompt is
dropped and the printed line keeps its place, whatever lexes the code. The R console language
makes of it one token at offset 2. -/
theorem rConsole_output_after_empty_prompt_misplaced :
    LexesExactly (fun code => [piece 0 .text code]) ∧
      lexRaw Languages.rConsoleLanguage [] ">\nx\n" = .ok [piece 2 .genericOutput "x\n"] ∧
      ¬ ExactFrom 0 [piece 2 .genericOutput "x\n"] := by
  have hlex : LexesExactly (fun code => [piece 0 .text code]) := fun code => by
    simp [piece, concat, String.join]
  have hlines : newlineLines ">\nx\n" = [(0, ">\n"), (2, "x\n")] := by decide
  have hx : rPromptLine "x\n" = false := by simp [rPromptLine]
  have hp : rPromptLine ">\n" = true := by simp [rPromptLine]
  have hrun : ∀ lex, rConsoleReader.run lex (newlineLines ">\nx\n") =
      [piece 2 .genericOutput "x\n"] := fun lex => by
    rw [hlines]
    show rFinish lex { state := () } _ = _
    rw [rFinish_cons, rConsole_readLine_prompt lex _ 0 ">\n" hp, rFinish_cons,
      rConsole_readLine_printed lex _ 2 "x\n" hx]
    simp [rFinish, flush_of_no_code, Block.add, dropChars]
  refine ⟨hlex, by rw [lexRaw_rConsole, hrun], fun h => ?_⟩
  rw [← hrun (fun code => [piece 0 .text code])] at h
  obtain ⟨P, O, Q, he, hP, hO, hQ, hc⟩ := (rConsole_offsets_exact_iff _ hlex _).mp h
  rw [hlines] at he
  have hmem : ∀ x, x ∈ P ++ O ++ Q ↔ x = (0, ">\n") ∨ x = (2, "x\n") := by simp [← he]
  -- the printed line can only stand among the printed lines `O`
  have hb : (2, "x\n") ∈ O := by
    rcases List.mem_append.mp ((hmem _).mpr (.inr rfl)) with h | h
    · rcases List.mem_append.mp h with h | h
      · exact absurd (hP _ h) (by simp [hx])
      · exact h
    · exact absurd (hQ _ h).1 (by simp [hx])
  rcases hc with hO' | rfl | ⟨x, hxP, hlen⟩
  · simp [hO'] at hb
  · -- with no prompt lines first, the prompt line would open the printed lines
    obtain ⟨o, O, rfl⟩ := List.exists_cons_of_ne_nil (List.ne_nil_of_mem hb)
    obtain ⟨rfl, -⟩ := List.cons.inj he
    exact absurd (hO _ List.mem_cons_self) (by simp [hp])
  · -- a first prompt line with code would be the line `>`, which has none
    rcases (hmem x).mp (by simp [hxP]) with rfl | rfl
    · exact absurd hlen (by decide)
    · exact absurd (hP _ hxP) (by simp [hx])

end Run

end Highlight.Lexers
