import Mathlib.Tactic.Ring
import Highlight.Format.Literal

/-!
# Quoted literals read back

A text written as a quoted literal reads back as itself (`read_quote`), and the literal is
printable ASCII throughout (`quote_printable`).

The writer escapes one character at a time, and what it writes for a character has one of
two shapes (`escapeChar_shape`): the character itself, printable and neither the quote nor a
backslash; or a backslash, one of `escapeLetters`, and hexadecimal digits. Both stages of
reading go through a body one written character at a time. The scan of the expression keeps
what was written for a character whole in the literal's body (`scan_body_escapeChar`): none of
it closes the literal or breaks its line, and no carriage return follows a backslash. Reading
the body's escapes then gives the character back (`unescapeFrom_escapeChar`); for a
hexadecimal escape this is because its two, four or eight digits hold the whole code point
(`unescapeFrom_hexDigits`).
-/

set_option autoImplicit false

namespace Highlight.Literal

/-! ## What a written character is made of -/

/-- Whether a character is printable ASCII, from the space to the tilde. -/
def printable (d : Char) : Bool := 0x20 ≤ d.toNat && d.toNat < 0x7f

/-- The lower-case hexadecimal digits. -/
def hexChars : List Char :=
  ['0', '1', '2', '3', '4', '5', '6', '7', '8', '9', 'a', 'b', 'c', 'd', 'e', 'f']

/-- The characters that follow a backslash in a written literal. -/
def escapeLetters : List Char := ['\'', '"', '\\', 't', 'n', 'r', 'x', 'u', 'U']

theorem digitChar_mem_hexChars : ∀ m, m < 16 → Nat.digitChar m ∈ hexChars := by decide

theorem hexValue_digitChar : ∀ m, m < 16 → hexValue (Nat.digitChar m) = some m := by decide

-- The facts about the characters of the two lists are checked with `List.all`: a statement
-- `∀ c ∈ l, p c` about characters can be decided by running through every character.

theorem hexChars_printable : ∀ d ∈ hexChars, printable d = true :=
  List.all_eq_true.mp (by decide)

theorem escapeLetters_printable : ∀ e ∈ escapeLetters, printable e = true :=
  List.all_eq_true.mp (by decide)

theorem escapeLetters_ne_return : ∀ e ∈ escapeLetters, e ≠ '\r' := by
  simpa using List.all_eq_true.mp (by decide : escapeLetters.all (· != '\r') = true)

theorem hexDigits_succ (n v : Nat) :
    hexDigits (n + 1) v = Nat.digitChar (v / 16 ^ n % 16) :: hexDigits n v := rfl

theorem mem_hexChars_of_mem_hexDigits {d : Char} {n : Nat} :
    ∀ {k : Nat}, d ∈ hexDigits k n → d ∈ hexChars
  | 0, h => by simp at h
  | k + 1, h => by
    rcases List.mem_cons.mp (hexDigits_succ k n ▸ h) with rfl | later
    · exact digitChar_mem_hexChars _ (Nat.mod_lt _ (by decide))
    · exact mem_hexChars_of_mem_hexDigits later

theorem hexEscape_shape (c : Char) :
    ∃ x t, hexEscape c = '\\' :: x :: t ∧ x ∈ escapeLetters ∧ ∀ d ∈ t, d ∈ hexChars := by
  unfold hexEscape
  split
  · exact ⟨'x', _, rfl, by decide, fun _ => mem_hexChars_of_mem_hexDigits⟩
  split
  · exact ⟨'u', _, rfl, by decide, fun _ => mem_hexChars_of_mem_hexDigits⟩
  · exact ⟨'U', _, rfl, by decide, fun _ => mem_hexChars_of_mem_hexDigits⟩

section Quote

variable {q : Char}

theorem escapeChar_shape (hq : q = '\'' ∨ q = '"') (c : Char) :
    (escapeChar q c = [c] ∧ c ≠ q ∧ c ≠ '\\' ∧ printable c = true) ∨
      ∃ e t, escapeChar q c = '\\' :: e :: t ∧ e ∈ escapeLetters ∧ ∀ d ∈ t, d ∈ hexChars := by
  unfold escapeChar
  split
  · next quoted =>
    -- the quote and the backslash stand after a backslash as they are
    have letter : c ∈ escapeLetters := by
      rcases quoted with rfl | rfl
      · rcases hq with rfl | rfl <;> decide
      · decide
    exact .inr ⟨c, [], rfl, letter, by simp⟩
  split
  · exact .inr ⟨'t', [], rfl, by decide, by simp⟩
  split
  · exact .inr ⟨'n', [], rfl, by decide, by simp⟩
  split
  · exact .inr ⟨'r', [], rfl, by decide, by simp⟩
  split
  · exact .inr (hexEscape_shape c)
  · next plain _ _ _ control =>
    refine .inl ⟨rfl, fun h => plain (.inl h), fun h => plain (.inr h), ?_⟩
    simp only [printable, Bool.and_eq_true, decide_eq_true_eq]
    omega

theorem quoteFor_quote (s : List Char) : quoteFor s = '\'' ∨ quoteFor s = '"' := by
  unfold quoteFor
  split
  · exact .inr rfl
  · exact .inl rfl

theorem printable_of_mem_escapeChar (hq : q = '\'' ∨ q = '"') {c d : Char}
    (h : d ∈ escapeChar q c) : printable d = true := by
  rcases escapeChar_shape hq c with ⟨same, -, -, hc⟩ | ⟨e, t, shape, he, ht⟩
  · rw [same, List.mem_singleton] at h
    exact h ▸ hc
  · rw [shape] at h
    rcases List.mem_cons.mp h with rfl | h
    · decide
    rcases List.mem_cons.mp h with rfl | h
    · exact escapeLetters_printable d he
    · exact hexChars_printable d (ht d h)

theorem quote_printable (s : List Char) : ∀ d ∈ quote s, printable d = true := by
  have quote_char : printable (quoteFor s) = true := by
    rcases quoteFor_quote s with h | h <;> rw [h] <;> decide
  intro d hd
  simp only [quote, List.mem_cons, List.mem_append, List.mem_flatMap, List.not_mem_nil,
    or_false] at hd
  rcases hd with (rfl | ⟨c, -, hc⟩) | rfl
  · exact quote_char
  · exact printable_of_mem_escapeChar (quoteFor_quote s) hc
  · exact quote_char

end Quote

/-! ## The scan keeps each written character in the body -/

section Scan

variable {raw : Bool} {q : Char}

theorem scan_body_bare (rest : List Char) {t : List Char}
    (ht : ∀ d ∈ t, d ≠ q ∧ d ≠ '\\' ∧ isLineBreak d = false) (acc : List Char) :
    scan (.body raw q false 0 acc) (t ++ rest) = scan (.body raw q false 0 (acc ++ t)) rest := by
  induction t generalizing acc with
  | nil => simp
  | cons d t ih =>
    obtain ⟨notQuote, notBackslash, notBreak⟩ := ht d (by simp)
    have step : scan (.body raw q false 0 acc) (d :: (t ++ rest)) =
        scan (.body raw q false 0 (acc ++ [d])) (t ++ rest) := by
      simp [scan, bodyStep, notQuote, notBackslash, notBreak]
    rw [List.cons_append, step, ih (fun d hd => ht d (by simp [hd]))]
    simp

theorem scan_body_backslash (hq : q ≠ '\\') {e : Char} (he : e ≠ '\r') (acc rest : List Char) :
    scan (.body raw q false 0 acc) ('\\' :: e :: rest) =
      scan (.body raw q false 0 (acc ++ ['\\', e])) rest := by
  simp [scan, bodyStep, hq.symm, he]

theorem bare_of_mem_hexChars (hq : q = '\'' ∨ q = '"') {d : Char} (hd : d ∈ hexChars) :
    d ≠ q ∧ d ≠ '\\' ∧ isLineBreak d = false := by
  have bare := List.all_eq_true.mp (by decide : hexChars.all (fun d =>
    d != '\'' && d != '"' && d != '\\' && !isLineBreak d) = true) d hd
  simp only [Bool.and_eq_true, bne_iff_ne, ne_eq, Bool.not_eq_true'] at bare
  obtain ⟨⟨⟨notSingle, notDouble⟩, notBackslash⟩, notBreak⟩ := bare
  rcases hq with rfl | rfl
  · exact ⟨notSingle, notBackslash, notBreak⟩
  · exact ⟨notDouble, notBackslash, notBreak⟩

theorem scan_body_escapeChar (hq : q = '\'' ∨ q = '"') (c : Char) (acc rest : List Char) :
    scan (.body raw q false 0 acc) (escapeChar q c ++ rest) =
      scan (.body raw q false 0 (acc ++ escapeChar q c)) rest := by
  have notBackslash : q ≠ '\\' := by rcases hq with rfl | rfl <;> decide
  rcases escapeChar_shape hq c with ⟨same, notQuote, plain, hc⟩ | ⟨e, t, shape, he, ht⟩
  · have notBreak : isLineBreak c = false := by
      simp only [printable, Bool.and_eq_true, decide_eq_true_eq] at hc
      simp only [isLineBreak, Bool.or_eq_false_iff, decide_eq_false_iff_not]
      constructor <;> (intro h; rw [h] at hc; simp at hc)
    rw [same]
    exact scan_body_bare rest (by simpa using ⟨notQuote, plain, notBreak⟩) acc
  · rw [shape, List.cons_append, List.cons_append,
      scan_body_backslash notBackslash (escapeLetters_ne_return e he),
      scan_body_bare rest (fun d hd => bare_of_mem_hexChars hq (ht d hd))]
    simp

theorem scan_body_escaped (hq : q = '\'' ∨ q = '"') (s : List Char) (acc rest : List Char) :
    scan (.body raw q false 0 acc) (s.flatMap (escapeChar q) ++ rest) =
      scan (.body raw q false 0 (acc ++ s.flatMap (escapeChar q))) rest := by
  induction s generalizing acc with
  | nil => simp
  | cons c s ih =>
    rw [List.flatMap_cons, List.append_assoc, scan_body_escapeChar hq, ih]
    simp

/-- After the opening quote, a body that does not start with the quote is read as the body
of a literal quoted once; an empty one too, when the quote that follows closes it. -/
theorem scan_opened {t : List Char} (ht : ∀ b ∈ t.head?, b ≠ q) :
    scan (.opened raw q) (t ++ [q]) = scan (.body raw q false 0 []) (t ++ [q]) := by
  cases t with
  | nil => simp [scan]
  | cons b t =>
    have notQuote : b ≠ q := ht b rfl
    simp [scan, notQuote]

theorem betweenStep_quote (hq : q = '\'' ∨ q = '"') : betweenStep q = some ([], .opened false q) := by
  rcases hq with rfl | rfl <;> rfl

theorem escapeChar_eq_cons (hq : q = '\'' ∨ q = '"') (c : Char) :
    ∃ b t, escapeChar q c = b :: t ∧ b ≠ q := by
  rcases escapeChar_shape hq c with ⟨same, notQuote, -, -⟩ | ⟨e, t, shape, -, -⟩
  · exact ⟨c, [], same, notQuote⟩
  · exact ⟨'\\', e :: t, shape, by rcases hq with rfl | rfl <;> decide⟩

theorem scan_quote (s : List Char) :
    scan .between (quote s) = some [.literal false (s.flatMap (escapeChar (quoteFor s)))] := by
  have hq := quoteFor_quote s
  have head : ∀ b ∈ (s.flatMap (escapeChar (quoteFor s))).head?, b ≠ quoteFor s := by
    cases s with
    | nil => simp
    | cons c s =>
      obtain ⟨b, t, written, notQuote⟩ := escapeChar_eq_cons hq c
      simpa [written] using notQuote
  rw [quote, List.cons_append, scan, betweenStep_quote hq]
  simp only [Option.bind_some, List.nil_append, Option.map_id']
  rw [scan_opened head, scan_body_escaped hq]
  simp [scan]

end Scan

/-! ## Reading the escapes gives each character back -/

theorem unescapeFrom_hex_digitChar {left acc m : Nat} (hm : m < 16) (rest : List Char) :
    unescapeFrom (.hex left acc) (Nat.digitChar m :: rest) =
      if left ≤ 1 then (charOf? (acc * 16 + m)).bind fun ch => (unescapeFrom .plain rest).map (ch :: ·)
      else unescapeFrom (.hex (left - 1) (acc * 16 + m)) rest := by
  simp only [unescapeFrom, hexValue_digitChar m hm]

theorem unescapeFrom_hexDigits (rest : List Char) (n : Nat) (k acc : Nat) :
    unescapeFrom (.hex (k + 1) acc) (hexDigits (k + 1) n ++ rest) =
      (charOf? (acc * 16 ^ (k + 1) + n % 16 ^ (k + 1))).bind
        fun ch => (unescapeFrom .plain rest).map (ch :: ·) := by
  -- the digit read first is the highest, so the value so far is shifted by the digits to come
  induction k generalizing acc with
  | zero =>
    rw [hexDigits_succ, List.cons_append, unescapeFrom_hex_digitChar (Nat.mod_lt _ (by decide))]
    simp
  | succ k ih =>
    have value : (acc * 16 + n / 16 ^ (k + 1) % 16) * 16 ^ (k + 1) + n % 16 ^ (k + 1) =
        acc * 16 ^ (k + 2) + n % 16 ^ (k + 2) := by
      rw [Nat.mod_pow_succ (k := k + 1)]
      ring
    rw [hexDigits_succ, List.cons_append, unescapeFrom_hex_digitChar (Nat.mod_lt _ (by decide)),
      if_neg (by omega), show k + 1 + 1 - 1 = k + 1 by omega, ih, value]

theorem charOf?_toNat (c : Char) : charOf? c.toNat = some c := by
  have valid : c.toNat.isValidChar := c.valid
  rw [charOf?, if_pos valid, Char.ofNat_toNat]

theorem unescapeFrom_hexEscape (c : Char) (rest : List Char) :
    unescapeFrom .plain (hexEscape c ++ rest) = (unescapeFrom .plain rest).map (c :: ·) := by
  have small : c.toNat < 0x110000 := by
    have valid := c.valid
    simp only [UInt32.isValidChar, Nat.isValidChar] at valid
    simp only [Char.toNat]
    omega
  unfold hexEscape
  split
  · next two =>
    have read := unescapeFrom_hexDigits rest c.toNat 1 0
    simp only [Nat.zero_mul, Nat.zero_add, Nat.mod_eq_of_lt (show c.toNat < 16 ^ 2 by omega),
      charOf?_toNat, Option.bind_some] at read
    simpa [unescapeFrom, simpleEscape] using read
  split
  · next four =>
    have read := unescapeFrom_hexDigits rest c.toNat 3 0
    simp only [Nat.zero_mul, Nat.zero_add, Nat.mod_eq_of_lt (show c.toNat < 16 ^ 4 by omega),
      charOf?_toNat, Option.bind_some] at read
    simpa [unescapeFrom, simpleEscape] using read
  · have read := unescapeFrom_hexDigits rest c.toNat 7 0
    simp only [Nat.zero_mul, Nat.zero_add, Nat.mod_eq_of_lt (show c.toNat < 16 ^ 8 by omega),
      charOf?_toNat, Option.bind_some] at read
    simpa [unescapeFrom, simpleEscape] using read

theorem unescapeFrom_escapeChar {q : Char} (hq : q = '\'' ∨ q = '"') (c : Char) (rest : List Char) :
    unescapeFrom .plain (escapeChar q c ++ rest) = (unescapeFrom .plain rest).map (c :: ·) := by
  unfold escapeChar
  split
  · next quoted =>
    rcases quoted with rfl | rfl
    · rcases hq with rfl | rfl <;> rfl
    · rfl
  split
  · next tab => subst tab; rfl
  split
  · next newline => subst newline; rfl
  split
  · next ret => subst ret; rfl
  split
  · exact unescapeFrom_hexEscape c rest
  · next plain _ _ _ _ =>
    have notBackslash : c ≠ '\\' := fun h => plain (.inr h)
    simp [unescapeFrom, notBackslash]

theorem unescapeFrom_escaped {q : Char} (hq : q = '\'' ∨ q = '"') (s rest : List Char) :
    unescapeFrom .plain (s.flatMap (escapeChar q) ++ rest) =
      (unescapeFrom .plain rest).map (s ++ ·) := by
  induction s with
  | nil => simp
  | cons c s ih =>
    rw [List.flatMap_cons, List.append_assoc, unescapeFrom_escapeChar hq, ih]
    simp [Option.map_map, Function.comp_def]

/-! ## The round trip -/

theorem assemble_literal (raw : Bool) (body : List Char) :
    assemble [.literal raw body] = (Part.literal raw body).text? := by
  simp [assemble, breaksInside, List.takeWhile_cons, Part.isLiteral]

theorem read_quote (s : List Char) : read (quote s) = some s := by
  have noNul : '\x00' ∉ quote s := fun h => by
    simpa [printable] using quote_printable s _ h
  have body := unescapeFrom_escaped (quoteFor_quote s) s []
  rw [read, if_neg noNul, scan_quote, Option.bind_some, assemble_literal]
  simpa [Part.text?, unescape, unescapeFrom] using body

end Highlight.Literal
