import Highlight.Format.Rtf
import Mathlib.Data.Nat.Digits.Defs

/-!
# Reading RTF text back

An RTF reader reads a backslash as the start of a control symbol, one character that is not a
letter, or of a control word: letters, then perhaps a number, ended by a space that it takes in
or by any other character, which it reads on. A brace opens or closes a group and stands for
nothing. The control symbols stand for their character, `\par` for a line feed and `\uN` for the
UTF-16 unit `N` (`units`); two units of a surrogate pair give one character (`decodeUnits`).

Every character escaping writes reads back as its UTF-16 units (`reads_escapeChar`): a backslash
or brace as a control symbol, the rest of ASCII as itself, any other character as the groups
of its units. A line feed written as `\par` reads back only where no letter, digit or space
follows, and a token's text has a line feed at most at its end. So a token's text reads back as
itself, through units below `0x10000` (`escapeText_reads_back`).
-/

set_option autoImplicit false

namespace Highlight.Rtf

/-! ## A reader of RTF text -/

/-- Where a reader of RTF text is: in plain text, after a backslash, in the letters of a control
word (last first), or in its number. -/
inductive Mode
  | text
  | backslash
  | word (name : List Char)
  | number (name : List Char) (n : Nat)

/-- The units a control word stands for: `\par` a line feed, `\uN` the unit `N`, any other none. -/
def wordUnits (name : List Char) (n : Option Nat) : List Nat :=
  if name = ['r', 'a', 'p'] ∧ n = none then [10] else if name = ['u'] then n.toList else []

/-- A character read in plain text: a backslash starts a control, a brace stands for nothing. -/
def textStep (c : Char) : List Nat × Mode :=
  if c = '\\' then ([], .backslash)
  else if c = '\x7b' ∨ c = '\x7d' then ([], .text)
  else ([c.toNat], .text)

/-- A control word ended by a character: a space is taken in, any other is read in plain text. -/
def endWord (name : List Char) (n : Option Nat) (c : Char) : List Nat × Mode :=
  if c = ' ' then (wordUnits name n, .text)
  else (wordUnits name n ++ (textStep c).1, (textStep c).2)

/-- One character read: the units it gives, and where the reader is after it. -/
def step : Mode → Char → List Nat × Mode
  | .text, c => textStep c
  | .backslash, c => if c.isAlpha then ([], .word [c]) else ([c.toNat], .text)
  | .word name, c =>
    if c.isAlpha then ([], .word (c :: name))
    else if c.isDigit then ([], .number name (c.toNat - '0'.toNat))
    else endWord name none c
  | .number name n, c =>
    if c.isDigit then ([], .number name (10 * n + (c.toNat - '0'.toNat)))
    else endWord name (some n) c

/-- The units RTF text stands for, read from a mode; the text's end ends a control word. -/
def units : Mode → List Char → List Nat
  | .word name, [] => wordUnits name none
  | .number name n, [] => wordUnits name (some n)
  | _, [] => []
  | m, c :: r => (step m c).1 ++ units (step m c).2 r

/-- The characters that UTF-16 units stand for: a unit below `0x10000` that is no surrogate
stands for itself, a high surrogate and a low one for the code point they split; anything else
is no text. -/
def decodeUnits : List Nat → Option (List Char)
  | [] => some []
  | u :: rest =>
    if 0xD800 ≤ u ∧ u < 0xDC00 then
      match rest with
      | l :: rest' =>
        if 0xDC00 ≤ l ∧ l < 0xE000 then
          (Char.ofNat (0x10000 + (u - 0xD800) * 0x400 + (l - 0xDC00)) :: ·) <$> decodeUnits rest'
        else none
      | [] => none
    else if 0xDC00 ≤ u ∧ u < 0xE000 ∨ 0x10000 ≤ u then none
    else (Char.ofNat u :: ·) <$> decodeUnits rest

/-- The UTF-16 units of a character. -/
def utf16 (c : Char) : List Nat :=
  if c.toNat < 0x10000 then [c.toNat] else [(surrogatePair c.toNat).1, (surrogatePair c.toNat).2]

/-- Output `out` reads back as the units `us`, whatever follows it. -/
def Reads (out : List Char) (us : List Nat) : Prop :=
  ∀ rest, units .text (out ++ rest) = us ++ units .text rest

namespace Reads

theorem append {o₁ o₂ : List Char} {u₁ u₂ : List Nat} (h₁ : Reads o₁ u₁) (h₂ : Reads o₂ u₂) :
    Reads (o₁ ++ o₂) (u₁ ++ u₂) := by
  intro rest
  rw [List.append_assoc, h₁, h₂, List.append_assoc]

theorem flatMap {f : Char → List Char} {g : Char → List Nat} :
    ∀ {cs : List Char}, (∀ c ∈ cs, Reads (f c) (g c)) → Reads (cs.flatMap f) (cs.flatMap g)
  | [], _ => fun _ => rfl
  | c :: cs, h => by
    rw [List.flatMap_cons, List.flatMap_cons]
    exact append (h c List.mem_cons_self) (flatMap fun x hx => h x (List.mem_cons_of_mem _ hx))

end Reads

/-! ## Numbers -/

theorem digitChar_value {d : Nat} (hd : d < 10) : (Nat.digitChar d).toNat - '0'.toNat = d := by
  have hsmall : ∀ d < 10, (Nat.digitChar d).toNat - '0'.toNat = d := by decide
  exact hsmall d hd

theorem ofDigitChars_toDigits (n : Nat) : Nat.ofDigitChars 10 (Nat.toDigits 10 n) 0 = n := by
  induction n using Nat.strong_induction_on with
  | _ n ih =>
    rw [Nat.toDigits_eq_if (by decide)]
    split
    · rename_i hn
      simpa [Nat.ofDigitChars_cons, Nat.ofDigitChars_nil] using digitChar_value hn
    · rw [Nat.ofDigitChars_append, ih (n / 10) (by omega), Nat.ofDigitChars_cons,
        Nat.ofDigitChars_nil]
      have hdigit := digitChar_value (Nat.mod_lt n (by decide : 10 > 0))
      omega

theorem units_cons (m : Mode) (c : Char) (r : List Char) :
    units m (c :: r) = (step m c).1 ++ units (step m c).2 r := by
  cases m <;> rfl

theorem toNat_valid (c : Char) : c.toNat < 0xD800 ∨ 0xDFFF < c.toNat ∧ c.toNat < 0x110000 := by
  have valid := c.valid
  simp only [UInt32.isValidChar, Nat.isValidChar] at valid
  simp only [Char.toNat]
  omega

theorem isAlpha_of_isDigit {d : Char} (hd : d.isDigit = true) : d.isAlpha = false := by
  have hn := Char.isDigit_iff_toNat.mp hd
  have hv : d.val.toNat = d.toNat := rfl
  -- the letters' bounds, read off the definitions without unfolding them by their equations
  show (decide (d.val ≥ 'A'.val ∧ d.val ≤ 'Z'.val) || (d.val ≥ 'a'.val && d.val ≤ 'z'.val)) = false
  simp [UInt32.le_iff_toNat_le, hv] at hn ⊢
  omega

theorem units_number (name : List Char) (ds : List Char) (hds : ∀ d ∈ ds, d.isDigit = true)
    (n : Nat) (rest : List Char) :
    units (.number name n) (ds ++ '\x7d' :: rest) =
      wordUnits name (some (Nat.ofDigitChars 10 ds n)) ++ units .text rest := by
  induction ds generalizing n with
  | nil => simp [units_cons, step, endWord, textStep, Nat.ofDigitChars_nil]
  | cons d ds ih =>
    have hd := hds d List.mem_cons_self
    rw [List.cons_append, units_cons, Nat.ofDigitChars_cons]
    simp only [step, hd, if_true, List.nil_append]
    exact ih (fun x hx => hds x (List.mem_cons_of_mem _ hx)) _

theorem reads_unicodeGroup (n : Nat) : Reads (unicodeGroup n) [n] := by
  intro rest
  have hrepr : (toString n).toList = Nat.toDigits 10 n := by
    rw [Nat.toString_eq_repr, Nat.toList_repr]
  obtain ⟨d, ds, hds⟩ := List.exists_cons_of_ne_nil (Nat.toDigits_ne_nil (b := 10) (n := n))
  have hdigit : ∀ x ∈ d :: ds, x.isDigit = true := fun x hx =>
    Nat.isDigit_of_mem_toDigits (by decide) (by decide) (hds ▸ hx)
  have hd := hdigit d List.mem_cons_self
  have hvalue : Nat.ofDigitChars 10 ds (d.toNat - 48) = n := by
    have h := ofDigitChars_toDigits n
    rw [hds, Nat.ofDigitChars_cons, Nat.mul_zero, Nat.zero_add] at h
    exact h
  rw [unicodeGroup, hrepr, hds]
  simp only [List.cons_append, List.append_assoc, units_cons]
  simp [step, textStep, isAlpha_of_isDigit hd, hd]
  rw [units_number _ ds (fun x hx => hdigit x (List.mem_cons_of_mem _ hx)), hvalue]
  simp [wordUnits]

theorem reads_escapeChar (c : Char) : Reads ((escape [c]).flatMap escapeChar) (utf16 c) := by
  by_cases hc : c = '\\' ∨ c = '\x7b' ∨ c = '\x7d'
  · -- a control symbol
    intro rest
    rcases hc with rfl | rfl | rfl <;> rfl
  · have hplain : (escape [c]).flatMap escapeChar = escapeChar c := by simp [escape, hc]
    rw [hplain]
    by_cases hascii : c.toNat < 128
    · intro rest
      obtain ⟨h₁, h₂, h₃⟩ : c ≠ '\\' ∧ c ≠ '\x7b' ∧ c ≠ '\x7d' := by simpa [not_or] using hc
      simp [escapeChar, hascii, utf16, units_cons, step, textStep, h₁, h₂, h₃,
        show c.toNat < 0x10000 by omega]
    · by_cases hbmp : c.toNat < 65536
      · simpa [escapeChar, hascii, hbmp, utf16] using reads_unicodeGroup c.toNat
      · simpa [escapeChar, hascii, hbmp, utf16] using
          (reads_unicodeGroup _).append (reads_unicodeGroup _)

/-! ## Surrogate pairs -/

theorem surrogatePair_spec (c : Nat) (hlo : 0x10000 ≤ c) (hhi : c ≤ 0x10FFFF) :
    0xD800 ≤ (surrogatePair c).1 ∧ (surrogatePair c).1 ≤ 0xDBFF ∧
      0xDC00 ≤ (surrogatePair c).2 ∧ (surrogatePair c).2 ≤ 0xDFFF ∧
      0x10000 + ((surrogatePair c).1 - 0xD800) * 0x400 + ((surrogatePair c).2 - 0xDC00) = c := by
  simp only [surrogatePair]
  omega

theorem utf16_lt (c : Char) : ∀ u ∈ utf16 c, u < 0x10000 := by
  have hc := toNat_valid c
  unfold utf16
  split
  · simpa
  · simp only [surrogatePair, List.mem_cons, List.not_mem_nil, or_false]
    omega

theorem decodeUnits_single {u : Nat} (hu : u < 0xD800 ∨ 0xE000 ≤ u ∧ u < 0x10000)
    (rest : List Nat) : decodeUnits (u :: rest) = (Char.ofNat u :: ·) <$> decodeUnits rest := by
  have h₁ : ¬(0xD800 ≤ u ∧ u < 0xDC00) := by omega
  have h₂ : ¬(0xDC00 ≤ u ∧ u < 0xE000 ∨ 0x10000 ≤ u) := by omega
  rw [decodeUnits.eq_def]
  simp only [h₁, h₂, if_false]

theorem decodeUnits_pair {h l : Nat} (hh : 0xD800 ≤ h ∧ h < 0xDC00) (hl : 0xDC00 ≤ l ∧ l < 0xE000)
    (rest : List Nat) : decodeUnits (h :: l :: rest) =
      (Char.ofNat (0x10000 + (h - 0xD800) * 0x400 + (l - 0xDC00)) :: ·) <$> decodeUnits rest := by
  simp [decodeUnits, hh, hl]

theorem decodeUnits_utf16 (cs : List Char) (rest : List Nat) :
    decodeUnits (cs.flatMap utf16 ++ rest) = (cs ++ ·) <$> decodeUnits rest := by
  induction cs with
  | nil => simp
  | cons c cs ih =>
    have hvalid := toNat_valid c
    by_cases hbmp : c.toNat < 0x10000
    · -- one unit, no surrogate since a character is none
      rw [List.flatMap_cons, List.append_assoc, utf16, if_pos hbmp, List.singleton_append,
        decodeUnits_single (by omega), ih]
      simp [Function.comp_def, Char.ofNat_toNat]
    · -- the two units of the surrogate pair
      obtain ⟨h₁, h₂, h₃, h₄, hc⟩ := surrogatePair_spec c.toNat (by omega) (by omega)
      rw [List.flatMap_cons, List.append_assoc, utf16, if_neg hbmp, List.cons_append,
        List.singleton_append, decodeUnits_pair (by omega) (by omega), ih, hc]
      simp [Function.comp_def, Char.ofNat_toNat]

/-! ## Token texts -/

/-- The text one character of a token's text is written as. -/
def written (c : Char) : List Char := ((escape [c]).flatMap escapeChar).flatMap parChar

theorem escapeText_toList {s : String} (hs : s ≠ "") :
    (escapeText s).toList = s.toList.flatMap written := by
  have hs' : s.isEmpty = false := by simpa using hs
  simp only [escapeText, hs', Bool.false_eq_true, if_false, String.toList_ofList, escape,
    List.flatMap_assoc]
  congr 1
  funext c
  simp [written, escape, List.flatMap_assoc]

theorem newline_not_mem_unicodeGroup (n : Nat) : '\n' ∉ unicodeGroup n := by
  have hdigits : ∀ x ∈ Nat.toDigits 10 n, x.isDigit = true := fun x hx =>
    Nat.isDigit_of_mem_toDigits (by decide) (by decide) hx
  intro h
  simp [unicodeGroup] at h
  exact absurd (hdigits _ h) (by decide)

theorem flatMap_parChar_of_not_mem {t : List Char} (ht : '\n' ∉ t) : t.flatMap parChar = t := by
  induction t with
  | nil => rfl
  | cons x t ih =>
    have hx : x ≠ '\n' := fun hx => ht (hx ▸ List.mem_cons_self)
    simp [parChar, hx, ih (fun h => ht (List.mem_cons_of_mem _ h))]

theorem written_of_ne {c : Char} (hc : c ≠ '\n') : written c = (escape [c]).flatMap escapeChar := by
  have hnot : '\n' ∉ (escape [c]).flatMap escapeChar := by
    by_cases hsym : c = '\\' ∨ c = '\x7b' ∨ c = '\x7d'
    · rcases hsym with rfl | rfl | rfl <;> decide
    · simp only [escape, List.flatMap_singleton, hsym, if_false, List.flatMap_singleton]
      unfold escapeChar
      split
      · simpa using hc.symm
      · split
        · exact newline_not_mem_unicodeGroup _
        · simp only [List.mem_append, not_or]
          exact ⟨newline_not_mem_unicodeGroup _, newline_not_mem_unicodeGroup _⟩
  exact flatMap_parChar_of_not_mem hnot

theorem reads_written {body : List Char} (h : '\n' ∉ body) :
    Reads (body.flatMap written) (body.flatMap utf16) := by
  apply Reads.flatMap
  intro c hc
  rw [written_of_ne (fun hn => h (hn ▸ hc))]
  exact reads_escapeChar c

theorem units_escapeText {s : String} (hs : '\n' ∉ s.toList.dropLast) :
    ∃ body tail, s.toList = body ++ tail ∧ '\n' ∉ body ∧ (tail = [] ∨ tail = ['\n']) ∧
      units .text (escapeText s).toList = body.flatMap utf16 ++ tail.map Char.toNat := by
  by_cases hempty : s = ""
  · exact ⟨[], [], by simp [hempty], by simp, .inl rfl, by simp [hempty, escapeText]; rfl⟩
  -- cut the text before its last character when that is a line feed
  have hne : s.toList ≠ [] := by simpa using hempty
  have hsplit := List.dropLast_concat_getLast hne
  obtain ⟨body, tail, hcut, hbody, htail⟩ : ∃ body tail, s.toList = body ++ tail ∧
      '\n' ∉ body ∧ (tail = [] ∨ tail = ['\n']) := by
    by_cases hlast : s.toList.getLast hne = '\n'
    · exact ⟨s.toList.dropLast, ['\n'], by rw [← hlast, hsplit], hs, .inr rfl⟩
    · refine ⟨s.toList, [], by simp, fun hmem => ?_, .inl rfl⟩
      rw [← hsplit, List.mem_append, List.mem_singleton] at hmem
      exact hmem.elim hs (fun h => hlast h.symm)
  refine ⟨body, tail, hcut, hbody, htail, ?_⟩
  rw [escapeText_toList hempty, hcut, List.flatMap_append, reads_written hbody]
  rcases htail with rfl | rfl <;> rfl

/-- A token's text with a line feed at most at its end, escaped, reads back as the text itself,
through UTF-16 units below `0x10000`; and the surrogate pair of every code point above `0xFFFF`
is a high surrogate and a low one that give it back. -/
theorem escapeText_reads_back (s : String) (hs : '\n' ∉ s.toList.dropLast) :
    (∀ u ∈ units .text (escapeText s).toList, u < 0x10000) ∧
      decodeUnits (units .text (escapeText s).toList) = some s.toList ∧
      ∀ c, 0x10000 ≤ c → c ≤ 0x10FFFF →
        0xD800 ≤ (surrogatePair c).1 ∧ (surrogatePair c).1 ≤ 0xDBFF ∧
          0xDC00 ≤ (surrogatePair c).2 ∧ (surrogatePair c).2 ≤ 0xDFFF ∧
          0x10000 + ((surrogatePair c).1 - 0xD800) * 0x400 + ((surrogatePair c).2 - 0xDC00) = c := by
  obtain ⟨body, tail, hcut, -, htail, hunits⟩ := units_escapeText hs
  refine ⟨?_, ?_, surrogatePair_spec⟩
  · rw [hunits]
    intro u hu
    rcases List.mem_append.mp hu with hu | hu
    · obtain ⟨c, -, hc⟩ := List.mem_flatMap.mp hu
      exact utf16_lt c u hc
    · rcases htail with rfl | rfl <;> simp_all
  · rw [hunits, decodeUnits_utf16, hcut]
    rcases htail with rfl | rfl <;> rfl

/-- A brace, an accented letter and a character above `0xFFFF`, before a final line feed, read
back from their escapes. -/
theorem escapeText_reads_back_emoji :
    '\n' ∉ "\x7bé😀\n".toList.dropLast ∧
      decodeUnits (units .text (escapeText "\x7bé😀\n").toList) = some "\x7bé😀\n".toList :=
  ⟨by decide +kernel, (escapeText_reads_back "\x7bé😀\n" (by decide +kernel)).2.1⟩

example : escapeText "a\x7bé😀\n" =
    "a\\\x7b\x7b\\u233\x7d\x7b\\u55357\x7d\x7b\\u56832\x7d\\par" := by
  decide +kernel

end Highlight.Rtf
