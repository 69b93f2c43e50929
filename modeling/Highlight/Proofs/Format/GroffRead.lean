import Highlight.Format.Groff
import Highlight.Proofs.Format.TerminalText

/-!
# Reading groff text back

Groff reads a backslash as the start of an escape. A glyph's escape `\[name]` stands for one
character: `u` and a code point in hexadecimal, or `char` and one in decimal (`glyph`). A colour
or font escape, a backslash, a letter and a name in brackets, changes how the text looks and
stands for no character. Every other character stands for itself (`read`).

Every character the output writes reads back as itself (`reads_escape`): the characters groff
takes for commands and those outside ASCII are written as glyphs. The escapes of a look read as
nothing as long as no colour of the style holds a closing bracket, where groff would end the
escape (`silent_look`), so a line written inside its look reads back as the line
(`reads_inside`).
-/

set_option autoImplicit false

namespace Highlight.Groff

/-! ## A reader of groff text -/

/-- Where a reader of groff text is: in plain text, after a backslash, after the letter of a
colour or font escape, or inside the brackets of an escape, with the name read so far (last
character first); `isGlyph` tells a glyph's name from a colour's or a font's. -/
inductive Mode
  | text
  | backslash
  | letter
  | name (isGlyph : Bool) (acc : List Char)

/-- The value of an upper-case hexadecimal digit. -/
def hexValue (c : Char) : Nat := if c.toNat < 58 then c.toNat - 48 else c.toNat - 55

/-- The number that digits in base `b` stand for, `value` giving each digit's value. -/
def digitsValue (b : Nat) (value : Char → Nat) (ds : List Char) : Nat :=
  ds.foldl (fun n c => b * n + value c) 0

/-- The character a glyph's name stands for: `u` and its code point in hexadecimal, or `char`
and its code point in decimal; nothing for another name. -/
def glyph : List Char → List Char
  | 'u' :: hex => [Char.ofNat (digitsValue 16 hexValue hex)]
  | 'c' :: 'h' :: 'a' :: 'r' :: dec => [Char.ofNat (digitsValue 10 (fun c => c.toNat - 48) dec)]
  | _ => []

/-- Groff text read back from a mode: a glyph's escape gives its character, a colour or font
escape gives nothing (a letter with no bracket after it names a font of one letter), and any
other character stands for itself. -/
def read : Mode → List Char → List Char
  | _, [] => []
  | .text, c :: r => if c = '\\' then read .backslash r else c :: read .text r
  | .backslash, c :: r => if c = '[' then read (.name true []) r else read .letter r
  | .letter, c :: r => if c = '[' then read (.name false []) r else read .text r
  | .name isGlyph acc, c :: r =>
    if c = ']' then (if isGlyph then glyph acc.reverse else []) ++ read .text r
    else read (.name isGlyph (c :: acc)) r

/-- Output `out` reads back as `text`, whatever follows it. -/
def Reads (out text : List Char) : Prop := ∀ rest, read .text (out ++ rest) = text ++ read .text rest

namespace Reads

theorem nil : Reads [] [] := fun _ => rfl

theorem append {o₁ t₁ o₂ t₂ : List Char} (h₁ : Reads o₁ t₁) (h₂ : Reads o₂ t₂) :
    Reads (o₁ ++ o₂) (t₁ ++ t₂) := by
  intro rest
  rw [List.append_assoc, h₁, h₂, List.append_assoc]

theorem congr_text {o t t' : List Char} (h : Reads o t) (ht : t = t') : Reads o t' := ht ▸ h

theorem flatMap {α : Type} {f g : α → List Char} :
    ∀ {xs : List α}, (∀ x ∈ xs, Reads (f x) (g x)) → Reads (xs.flatMap f) (xs.flatMap g)
  | [], _ => nil
  | x :: xs, h => by
    rw [List.flatMap_cons, List.flatMap_cons]
    exact append (h x List.mem_cons_self) (flatMap fun y hy => h y (List.mem_cons_of_mem _ hy))

theorem plain {t : List Char} (h : '\\' ∉ t) : Reads t t := by
  intro rest
  induction t with
  | nil => rfl
  | cons c t ih =>
    have hc : c ≠ '\\' := fun hc => h (hc ▸ List.mem_cons_self)
    simp [read, hc, ih (fun h' => h (List.mem_cons_of_mem _ h'))]

end Reads

theorem read_name (isGlyph : Bool) (acc name rest : List Char) (h : ']' ∉ name) :
    read (.name isGlyph acc) (name ++ ']' :: rest) =
      (if isGlyph then glyph (acc.reverse ++ name) else []) ++ read .text rest := by
  induction name generalizing acc with
  | nil => simp [read]
  | cons c name ih =>
    have hc : c ≠ ']' := fun hc => h (hc ▸ List.mem_cons_self)
    simp [read, hc, ih (c :: acc) (fun h' => h (List.mem_cons_of_mem _ h'))]

theorem reads_glyph {name : List Char} (h : ']' ∉ name) :
    Reads ('\\' :: '[' :: name ++ [']']) (glyph name) := by
  intro rest
  simp [read, read_name true [] name rest h]

theorem reads_letter {k : Char} (hk : k ≠ '[') {name : List Char} (h : ']' ∉ name) :
    Reads ('\\' :: k :: '[' :: name ++ [']']) [] := by
  intro rest
  simp [read, hk, read_name false [] name rest h]

/-! ## Characters -/

theorem hexValue_hexDigit : ∀ d, d < 16 → hexValue (hexDigit d) = d := by decide

theorem hexDigit_ne_bracket : ∀ d, d < 16 → hexDigit d ≠ ']' := by decide

theorem digitsValue_append (b : Nat) (value : Char → Nat) (ds : List Char) (c : Char) :
    digitsValue b value (ds ++ [c]) = b * digitsValue b value ds + value c := by
  simp [digitsValue, List.foldl_append]

theorem digitsValue_hexDigits (width n : Nat) :
    digitsValue 16 hexValue (hexDigits width n) = n % 16 ^ width := by
  induction width generalizing n with
  | zero => simp [hexDigits, digitsValue, Nat.mod_one]
  | succ width ih =>
    rw [hexDigits, digitsValue_append, ih, hexValue_hexDigit _ (Nat.mod_lt _ (by decide)),
      Nat.pow_succ, Nat.mul_comm (16 ^ width) 16, Nat.mod_mul]
    omega

theorem bracket_not_mem_hexDigits (width n : Nat) : ']' ∉ hexDigits width n := by
  induction width generalizing n with
  | zero => simp [hexDigits]
  | succ width ih =>
    simp only [hexDigits, List.mem_append, List.mem_singleton, not_or]
    exact ⟨ih _, fun h => hexDigit_ne_bracket _ (Nat.mod_lt _ (by decide)) h.symm⟩

theorem named_glyph : ∀ p ∈ named, glyph p.2.toList = [Char.ofNat p.1] ∧ ']' ∉ p.2.toList := by
  decide

theorem toNat_lt_of_char (c : Char) : c.toNat < 0x110000 := by
  have valid := c.valid
  simp only [UInt32.isValidChar, Nat.isValidChar] at valid
  simp only [Char.toNat]
  omega

theorem glyph_glyphName {c : Char} {name : List Char} (h : glyphName c = some name) :
    glyph name = [c] ∧ ']' ∉ name := by
  unfold glyphName at h
  split at h
  · -- a character taken for a command, with its own name
    rename_i nm hnm
    obtain ⟨l₁, l₂, hl, -⟩ := List.lookup_eq_some_iff.mp hnm
    have hmem : (c.toNat, nm) ∈ named := hl ▸ List.mem_append_right _ List.mem_cons_self
    cases h
    rw [← Char.ofNat_toNat c]
    exact named_glyph _ hmem
  · -- any other character outside ASCII, by its code point
    split at h
    · cases h
    · cases h
      have hlt : c.toNat < 16 ^ (if c.toNat < 65536 then 4 else 8) := by
        have := toNat_lt_of_char c
        split <;> omega
      refine ⟨?_, ?_⟩
      · simp only [glyph, digitsValue_hexDigits, Nat.mod_eq_of_lt hlt, Char.ofNat_toNat]
      · simpa using bracket_not_mem_hexDigits _ _

theorem ne_backslash_of_glyphName {c : Char} (h : glyphName c = none) : c ≠ '\\' := by
  rintro rfl
  simp [glyphName, named] at h

theorem reads_escapeChar (c : Char) : Reads (escapeChar c) [c] := by
  unfold escapeChar
  split
  · rename_i name hname
    obtain ⟨hglyph, hbr⟩ := glyph_glyphName hname
    exact hglyph ▸ reads_glyph hbr
  · rename_i hname
    exact Reads.plain (by simpa using (ne_backslash_of_glyphName hname).symm)

theorem reads_escape (s : List Char) : Reads (escape s) s := by
  have h := Reads.flatMap (g := fun c => [c]) fun c (_ : c ∈ s) => reads_escapeChar c
  simpa [escape] using h

theorem escape_eq_nil {s : List Char} : escape s = [] ↔ s = [] := by
  cases s with
  | nil => simp [escape]
  | cons c s =>
    simp only [escape, List.flatMap_cons, List.append_eq_nil_iff, reduceCtorEq, iff_false,
      not_and]
    intro h
    unfold escapeChar at h
    split at h <;> simp at h

/-! ## Looks -/

/-- No colour that a look gives holds a closing bracket. -/
def Bracketless (t : Style.TokenStyle) : Prop :=
  (∀ c ∈ t.color, ']' ∉ c.toList) ∧ ∀ c ∈ t.bgcolor, ']' ∉ c.toList

instance (t : Style.TokenStyle) : Decidable (Bracketless t) := inferInstanceAs (Decidable (_ ∧ _))

/-- The escapes before and after a line both read as nothing. -/
def Silent (look : String × String) : Prop := Reads look.1.toList [] ∧ Reads look.2.toList []

/-- A colour or font escape: a backslash, a letter, and a name in brackets that holds no
closing bracket. -/
def IsLookEscape (e : String) : Prop :=
  ∃ k name, k ≠ '[' ∧ ']' ∉ name ∧ e.toList = '\\' :: k :: '[' :: name ++ [']']

theorem reads_join {es : List String} (h : ∀ e ∈ es, IsLookEscape e) :
    Reads (String.join es).toList [] := by
  have hr := Reads.flatMap (f := String.toList) (g := fun _ => []) fun e (he : e ∈ es) => by
    obtain ⟨k, name, hk, hname, he⟩ := h e he
    exact he ▸ reads_letter hk hname
  have hnil : (es.flatMap fun _ => ([] : List Char)) = [] := by simp
  rwa [hnil, ← String.toList_join] at hr

theorem font_isLookEscape (s : Settings) {face : String} (h : ']' ∉ face.toList) :
    IsLookEscape (s.font face) := by
  refine ⟨'f', if s.monospaced then 'C' :: face.toList else face.toList, by decide, ?_, ?_⟩
  · split <;> simp [h]
  · simp only [Settings.font]
    split <;> simp

theorem color_isLookEscape {k : Char} (hk : k ≠ '[') {c : String} (h : ']' ∉ c.toList) :
    IsLookEscape (String.singleton '\\' ++ String.singleton k ++ "[" ++ c ++ "]") :=
  ⟨k, c.toList, hk, h, by simp⟩

theorem layers_isLookEscape (s : Settings) {t : Style.TokenStyle} (ht : Bracketless t) :
    ∀ p ∈ s.layers t, IsLookEscape p.1 ∧ IsLookEscape p.2 := by
  intro p hp
  simp only [Settings.layers, List.mem_append] at hp
  rcases hp with ((hc | hb) | hi) | hbg
  · obtain ⟨c, hgiven, rfl⟩ : ∃ c, given t.color = some c ∧ p = ("\\m[" ++ c ++ "]", "\\m[]") := by
      simpa [eq_comm] using hc
    exact ⟨color_isLookEscape (k := 'm') (by decide)
        (ht.1 c (Option.filter_eq_some_iff.mp hgiven).1),
      ⟨'m', [], by decide, by simp, by simp⟩⟩
  · split at hb
    · simp only [List.mem_singleton] at hb
      subst hb
      exact ⟨font_isLookEscape s (by decide), font_isLookEscape s (by decide)⟩
    · simp at hb
  · split at hi
    · simp only [List.mem_singleton] at hi
      subst hi
      exact ⟨font_isLookEscape s (by decide), font_isLookEscape s (by decide)⟩
    · simp at hi
  · obtain ⟨c, hgiven, rfl⟩ : ∃ c, given t.bgcolor = some c ∧ p = ("\\M[" ++ c ++ "]", "\\M[]") := by
      simpa [eq_comm] using hbg
    exact ⟨color_isLookEscape (k := 'M') (by decide)
        (ht.2 c (Option.filter_eq_some_iff.mp hgiven).1),
      ⟨'M', [], by decide, by simp, by simp⟩⟩

theorem silent_escapes (s : Settings) {t : Style.TokenStyle} (ht : Bracketless t) :
    Silent (s.escapes t) := by
  have h := layers_isLookEscape s ht
  refine ⟨reads_join fun e he => ?_, reads_join fun e he => ?_⟩
  · obtain ⟨p, hp, rfl⟩ := List.mem_map.mp he
    exact (h p hp).1
  · obtain ⟨p, hp, rfl⟩ := List.mem_map.mp he
    exact (h p (List.mem_reverse.mp hp)).2

theorem silent_look (s : Settings) {st : Style.Built} (hst : ∀ p ∈ st.reports, Bracketless p.2)
    (k : TokenKind) : Silent (s.look st k) := by
  unfold Settings.look
  split
  · rename_i t ht
    obtain ⟨e, he, rfl⟩ := Option.map_eq_some_iff.mp ht
    obtain ⟨l₁, l₂, hl, -⟩ := List.lookup_eq_some_iff.mp he
    have hmem : (st.owner k, e.report) ∈ st.reports :=
      List.mem_map.mpr ⟨_, hl ▸ List.mem_append_right _ List.mem_cons_self, rfl⟩
    exact silent_escapes s (hst _ hmem)
  · exact ⟨Reads.nil, Reads.nil⟩

theorem reads_inside {look : String × String} (h : Silent look) (x : List Char) :
    Reads (if look.1 ≠ "" ∧ look.2 ≠ "" then
        (if escape x = [] then [] else look.1.toList ++ escape x ++ look.2.toList)
      else escape x) x := by
  split
  · split
    · rename_i hx
      rw [escape_eq_nil.mp hx]
      exact Reads.nil
    · simpa using (h.1.append (reads_escape x)).append h.2
  · exact reads_escape x

end Highlight.Groff
