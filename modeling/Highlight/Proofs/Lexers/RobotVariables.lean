import Highlight.Lexers.Robot

/-!
# Variables in Robot Framework cells

A variable of a cell is found in two stages. `variableBounds` finds where it starts, a type
character right before an opening brace, and the last closing brace of the text, which bounds
it. From the character after the opening brace, `VariableScan.run` then reads the name, with
its inner variables, up to the brace that closes it, and for a list or dictionary variable an
index in brackets after it.

The scan keeps an invariant, `VariableScan.Scanning`: in the name it has not passed the last
brace, before an index the name is closed, and in an index the name is closed and followed by
`[`. One step keeps it or finds the variable (`VariableScan.step_advanced`), and so does the
whole run (`VariableScan.run_found`). With the bounds (`variableBounds_some`), this gives
`splitVariable_toList`: a variable found stands in its text as written, its type character,
its braces, its name and its index. Marking the variables of a text therefore keeps the text
(`markVariables_spell`).
-/

set_option autoImplicit false

namespace Highlight.Lexers

@[simp] theorem VariablePart.beq_iff_eq (p q : VariablePart) :
    (p == q) = true ↔ p = q := by
  cases p <;> cases q <;> simp <;> decide

@[simp] theorem VariablePart.beq_eq_false_iff_ne (p q : VariablePart) :
    (p == q) = false ↔ p ≠ q := by
  cases p <;> cases q <;> simp <;> decide

namespace VariableScan

section Scan
variable (s : Array Char) (start close : Nat)

/-- The name of a variable that opens at `start` ends at `n`, right after a closing brace
and past the type character and the opening brace. -/
def Closed (n : Nat) : Prop := start + 3 ≤ n ∧ s[n - 1]? = some '\x7d'

/-- What a finished scan has found: a closed name, and where an index follows it, the
index opens with `[` right after the name and ends inside the text. -/
def Found (v : VariableScan) : Prop :=
  Closed s start v.nameEnd ∧ (v.nameEnd < v.indexEnd → s[v.nameEnd]? = some '[' ∧ v.indexEnd ≤ s.size)

/-- Where the scan stands before the character at `i`: in the name it has read up to `i`,
which is not past the last closing brace `close`; before an index the name is closed at
`i`; in an index the name is closed and the index has read up to `i`. -/
def Scanning (i : Nat) (v : VariableScan) : Prop :=
  i ≤ s.size ∧
  match v.part with
  | .name | .afterIdentifier => v.nameEnd = i ∧ start + 2 ≤ i ∧ i ≤ close ∧ v.indexEnd ≤ i
  | .beforeIndex => v.nameEnd = i ∧ v.indexEnd = i ∧ Closed s start i
  | .index => Closed s start v.nameEnd ∧ s[v.nameEnd]? = some '[' ∧ v.nameEnd < i ∧ v.indexEnd = i

/-- What the scan knows after the step at `i` gave `r`, read the way the run reads it: a
stop has found the variable, and otherwise the scan has found it at the last brace or goes
on scanning from `i + 1`. -/
def Advanced (i : Nat) (r : Bool × VariableScan) : Prop :=
  (r.1 = true → Found s start r.2) ∧
  (r.1 = false →
    ((i == close && (r.2.part == .name || r.2.part == .afterIdentifier)) = true → Found s start r.2) ∧
    ((i == close && (r.2.part == .name || r.2.part == .afterIdentifier)) = false →
      Scanning s start close (i + 1) r.2))

end Scan

section Steps
variable {s : Array Char} {ids : List Char} {listLike : Bool} {start close i : Nat} {c : Char}

theorem inName_advanced (v : VariableScan) (hp : v.part = .name)
    (hs : start + 2 ≤ i) (hi : i ≤ close) (hx : v.indexEnd ≤ i) (hc : s[i]? = some c)
    (hclose : s[close]? = some '\x7d') :
    Advanced s start close i (v.inName s ids listLike i c) := by
  have hlt : i < s.size := by
    have := (Array.getElem?_eq_some_iff.mp hc).1; omega
  unfold inName
  dsimp only
  repeat' split
  all_goals simp_all [Advanced, Found, Scanning, Closed]
  all_goals grind

theorem step_advanced (v : VariableScan) (hv : Scanning s start close i v)
    (hc : s[i]? = some c) (hclose : s[close]? = some '\x7d') :
    Advanced s start close i (v.step s ids listLike i c) := by
  obtain ⟨hsize, hpart⟩ := hv
  unfold step
  cases hp : v.part with
  | name =>
    simp only [hp] at hpart
    obtain ⟨-, hs, hi, hx⟩ := hpart
    exact inName_advanced v hp hs hi hx hc hclose
  | afterIdentifier =>
    simp only [hp] at hpart
    obtain ⟨hn, hs, hi, hx⟩ := hpart
    dsimp only
    split
    · -- an inner variable opens: the name goes on past its brace
      have hb : c = '\x7b' := by simpa using ‹(c == '\x7b') = true›
      subst hb
      have hlt : i < s.size := by
        have := (Array.getElem?_eq_some_iff.mp hc).1; omega
      by_cases hic : i = close
      · subst hic; simp [hclose] at hc
      · simp [Advanced, Scanning, hic]; omega
    · exact inName_advanced { v with part := .name } rfl hs hi hx hc hclose
  | beforeIndex =>
    simp only [hp] at hpart
    obtain ⟨hn, hx, hcl⟩ := hpart
    have hlt : i + 1 ≤ s.size := (Array.getElem?_eq_some_iff.mp hc).1
    dsimp only
    split <;> simp_all [Advanced, Found, Scanning]
  | index =>
    simp only [hp] at hpart
    obtain ⟨hcl, hbr, hn, hx⟩ := hpart
    have hlt : i < s.size := by
      have := (Array.getElem?_eq_some_iff.mp hc).1; omega
    simp_all [Advanced, Found, Scanning]
    omega

theorem found_of_end (v : VariableScan) (hv : Scanning s start close i v) (he : s.size ≤ i)
    (hclose : s[close]? = some '\x7d') : Found s start v := by
  obtain ⟨hsize, hpart⟩ := hv
  have hcl : close < s.size := (Array.getElem?_eq_some_iff.mp hclose).1
  cases hp : v.part <;> simp only [hp] at hpart
  case name | afterIdentifier => omega
  case beforeIndex => obtain ⟨hn, hx, hc⟩ := hpart; exact ⟨hn ▸ hc, by omega⟩
  case index => obtain ⟨hc, hb, hn, hx⟩ := hpart; exact ⟨hc, fun _ => ⟨hb, by omega⟩⟩

/-- **The scan finds a variable**: run from a state that is scanning, with fuel to reach the
end of the text, it ends in a found variable. -/
theorem run_found (hclose : s[close]? = some '\x7d') :
    ∀ fuel i v, Scanning s start close i v → s.size ≤ i + fuel →
      Found s start (run s ids listLike close fuel i v)
  | 0, i, v, hv, hf => found_of_end v hv (by omega) hclose
  | fuel + 1, i, v, hv, hf => by
    unfold run
    cases hc : s[i]? with
    | none => exact found_of_end v hv (by simpa using hc) hclose
    | some c =>
      dsimp only
      have hadv := @step_advanced _ ids listLike _ _ _ _ v hv hc hclose
      revert hadv
      generalize v.step s ids listLike i c = r
      obtain ⟨stops, w⟩ := r
      rintro ⟨hstop, hgo⟩
      cases stops
      · -- the step goes on: at the last brace of a name it stops, otherwise the run goes on
        obtain ⟨hat, hnext⟩ := hgo rfl
        dsimp only at hat hnext ⊢
        rw [if_neg Bool.false_ne_true]
        split
        · exact hat ‹_›
        · exact run_found hclose fuel (i + 1) w (hnext (Bool.eq_false_iff.mpr ‹_›)) (by omega)
      · exact hstop rfl

end Steps
end VariableScan

/-! ## Where a variable stands -/

section Bounds
variable {s : Array Char} {ids : List Char}

theorem lastCloseBefore_some :
    ∀ {limit close : Nat}, lastCloseBefore s limit = some close →
      close < limit ∧ s[close]? = some '\x7d'
  | 0, _, h => by simp [lastCloseBefore] at h
  | limit + 1, close, h => by
    unfold lastCloseBefore at h
    split at h
    · cases h
      exact ⟨by omega, beq_iff_eq.mp ‹_›⟩
    · have := lastCloseBefore_some h
      exact ⟨by omega, this.2⟩

theorem variableStart_some {stop : Nat} :
    ∀ {fuel first i : Nat}, 1 ≤ first → variableStart s ids stop fuel first = some i →
      i + 1 < stop ∧ s[i + 1]? = some '\x7b' ∧ ∃ c, s[i]? = some c
  | 0, _, _, _, h => by simp [variableStart] at h
  | fuel + 1, first, i, hfirst, h => by
    unfold variableStart at h
    split at h
    · cases h
    · rename_i p hp
      have hmem := List.mem_range'_1.mp (List.mem_of_find?_eq_some hp)
      have hbrace : s[p]? = some '\x7b' := by
        have := List.find?_some hp
        exact beq_iff_eq.mp this
      dsimp only at h
      split at h
      · cases h
        have hp1 : p - 1 + 1 = p := by omega
        refine ⟨by omega, hp1 ▸ hbrace, ?_⟩
        cases hi : s[p - 1]? with
        | none => simp [hi] at *
        | some c => exact ⟨c, rfl⟩
      · exact variableStart_some (by omega) h

theorem variableBounds_some :
    ∀ {fuel limit start close : Nat}, variableBounds s ids fuel limit = some (start, close) →
      start + 2 ≤ close ∧ s[close]? = some '\x7d' ∧ s[start + 1]? = some '\x7b' ∧
        ∃ c, s[start]? = some c
  | 0, _, _, _, h => by simp [variableBounds] at h
  | fuel + 1, limit, start, close, h => by
    unfold variableBounds at h
    split at h
    · cases h
    · rename_i close' hclose
      split at h
      · exact variableBounds_some h
      · obtain ⟨i, hi, hv⟩ := Option.map_eq_some_iff.mp h
        cases hv
        obtain ⟨hlt, hbrace, c, hc⟩ := variableStart_some (Nat.le_refl 1) hi
        exact ⟨by omega, (lastCloseBefore_some hclose).2, hbrace, c, hc⟩

end Bounds

section Split
variable {α : Type} {l : List α} {a b : Nat} {x : α}

theorem drop_eq_cons_drop (h : l[a]? = some x) : l.drop a = x :: l.drop (a + 1) := by
  obtain ⟨ha, rfl⟩ := List.getElem?_eq_some_iff.mp h
  exact List.drop_eq_getElem_cons ha

theorem drop_eq_extract_append_drop (h : a ≤ b) : l.drop a = l.extract a b ++ l.drop b := by
  have := List.take_append_drop (b - a) (l.drop a)
  rw [List.drop_drop, Nat.add_sub_cancel' h] at this
  rw [List.extract_eq_take_drop, this]

end Split

/-- **A variable stands in its text as found**: the text is what comes before the variable,
its type character and opening brace, its name, the closing brace, its index in brackets if
it has one, and what comes after. -/
theorem splitVariable_toList {ids : List Char} {l : List Char} {v : FoundVariable}
    (h : splitVariable ids l.toArray = some v) :
    l = l.take v.start ++ v.identifier :: '\x7b' :: v.base.toList ++ '\x7d' ::
      ((v.index.map fun i => '[' :: i.toList ++ [']']).getD [] ++ l.drop v.stop) := by
  unfold splitVariable at h
  obtain ⟨⟨start, close⟩, hb, rfl⟩ := Option.map_eq_some_iff.mp h
  obtain ⟨hsc, hclose, hopen, c, hc⟩ := variableBounds_some hb
  have hsize : close < l.toArray.size := (Array.getElem?_eq_some_iff.mp hclose).1
  have hscan : VariableScan.Scanning l.toArray start close (start + 2)
      { nameEnd := start + 2, indexEnd := start + 2 } := ⟨by omega, by simp; omega⟩
  have hfound := @VariableScan.run_found _ ids (c == '@' || c == '&') _ _
    hclose l.toArray.size (start + 2) _ hscan (by omega)
  simp only [hc, Option.getD_some]
  generalize VariableScan.run _ _ _ _ _ _ _ = w at hfound ⊢
  obtain ⟨⟨hne, hbr⟩, hidx⟩ := hfound
  simp only [List.getElem?_toArray] at hc hopen hbr hidx ⊢
  -- the name: between the opening brace and the closing one at nameEnd - 1
  have hname : l.drop start = c :: '\x7b' :: (l.extract (start + 2) (w.nameEnd - 1) ++
      '\x7d' :: l.drop w.nameEnd) := by
    rw [drop_eq_cons_drop hc, drop_eq_cons_drop hopen,
      drop_eq_extract_append_drop (show start + 1 + 1 ≤ w.nameEnd - 1 by omega),
      drop_eq_cons_drop hbr, Nat.sub_add_cancel (by omega)]
  have hl := List.take_append_drop start l
  rw [hname] at hl
  conv => lhs; rw [← hl]
  simp only [Array.toList_extract, String.toList_ofList, List.append_assoc, List.cons_append]
  split
  · -- an index in brackets follows the name
    rename_i hix
    simp only [Bool.and_eq_true, decide_eq_true_eq, beq_iff_eq] at hix
    obtain ⟨hlt, hend⟩ := hix
    obtain ⟨hopen', hsize⟩ := hidx hlt
    have hne' : w.nameEnd + 1 ≤ w.indexEnd - 1 := by
      rcases Nat.lt_or_ge (w.nameEnd + 1) w.indexEnd with h | h
      · omega
      · have : w.indexEnd - 1 = w.nameEnd := by omega
        rw [this, hopen'] at hend; cases hend
    simp only [Option.map_some, Option.getD_some]
    rw [drop_eq_cons_drop hopen', drop_eq_extract_append_drop hne', drop_eq_cons_drop hend,
      Nat.sub_add_cancel (by omega)]
    simp
  · simp

/-! ## Marked text -/

/-- The text that pieces spell, one after another. -/
def spell (ps : List (String × TokenKind)) : String := String.join (ps.map (·.1))

@[simp] theorem spell_nil : spell [] = "" := rfl

@[simp] theorem spell_cons (p : String × TokenKind) (ps : List (String × TokenKind)) :
    spell (p :: ps) = p.1 ++ spell ps := by
  simp [spell, String.join_cons]

@[simp] theorem spell_append (ps qs : List (String × TokenKind)) :
    spell (ps ++ qs) = spell ps ++ spell qs := by
  simp [spell, String.join_append]

/-- **Marking variables keeps the text**: the pieces of a text with its variables marked
spell the text, whatever the fuel. -/
theorem markVariables_spell : ∀ (fuel : Nat) (s : String) (k : TokenKind),
    spell (markVariables fuel s k) = s
  | 0, s, k => by simp [markVariables]
  | fuel + 1, s, k => by
    unfold markVariables
    split
    · simp
    · split
      · simp
      · rename_i v hv
        have hs := splitVariable_toList hv
        -- the variable's name and index are marked by the same function, with less fuel
        rw [← String.toList_inj]
        cases hi : v.index with
        | none =>
          simp only [hi, Option.map_none, Option.getD_none, List.nil_append] at hs
          simp [markVariables_spell fuel, takeChars, dropChars]
          simpa using hs.symm
        | some i =>
          simp only [hi, Option.map_some, Option.getD_some] at hs
          simp [markVariables_spell fuel, takeChars, dropChars]
          simpa using hs.symm

end Highlight.Lexers
