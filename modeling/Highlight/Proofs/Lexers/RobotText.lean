import Highlight.Lexing
import Highlight.Proofs.Lexers.RobotVariables
import Highlight.Proofs.Pattern.Search

/-!
# Robot Framework data keeps its rows

The tokens of Robot Framework data spell its rows, each followed by a line feed
(`robotTokens_concat`). Each stage gives back what it reads: the cells and separators of a row
spell the row and its line break (`rowCells_join`); every reader of a table gives back the
cell it reads, but the reader of a setting's name, which takes its brackets off, and a table
only gives that reader a cell in brackets (`RobotTables.KeepText`, `RobotTables.readCell_kept`);
a row is read whole (`RobotTables.readRow_kept`); and marking variables keeps the text.

The rows are the lines of the text without the characters that end them, and a line ends at
every character of `endsLine`. So the tokens give back the text exactly when each of its line
ends is a lone line feed and it is empty or ends with one (`robotRows_spell_iff`), which is
what lexing Robot Framework data without loss comes to (`robotFramework_tokens_spell_iff`).
-/

set_option autoImplicit false

namespace Highlight.Lexers

open Pattern

/-! ## Rows and cells -/

theorem spaceCellsFrom_join (cs cell : List Char) (run : Nat) :
    String.join (spaceCellsFrom cs cell run) =
      String.ofList (cell.reverse ++ List.replicate run ' ' ++ cs) := by
  induction cs generalizing cell run with
  | nil =>
    simp only [spaceCellsFrom]
    split
    · simp
    · simp [List.reverse_append, List.reverse_replicate]
  | cons c rest ih =>
    by_cases hc : c = ' '
    · subst hc
      simp only [spaceCellsFrom, ih, List.replicate_succ', List.append_assoc, List.singleton_append]
    · have hsplit : spaceCellsFrom (c :: rest) cell run =
          if run ≥ 2 then
            String.ofList cell.reverse :: String.ofList (List.replicate run ' ') :: spaceCellsFrom rest [c] 0
          else spaceCellsFrom rest (c :: (List.replicate run ' ' ++ cell)) 0 := by
        simp [spaceCellsFrom]
      rw [hsplit]
      split
      · simp [ih]
      · simp [ih, List.reverse_append, List.reverse_replicate]

theorem take_append_slice_drop (l : List Char) {a b : Nat} (h : a ≤ b) :
    l.take a ++ ((l.drop a).take (b - a) ++ l.drop b) = l := by
  have hb : l.drop b = (l.drop a).drop (b - a) := by
    rw [List.drop_drop]
    congr 1
    omega
  rw [hb, List.take_append_drop, List.take_append_drop]

theorem searchFrom_bounds {p : Compiled} {cs : Array Char} {pos : Nat} {m : Found}
    (h : searchFrom p cs pos = some m) : pos ≤ m.start ∧ m.start ≤ m.stop := by
  obtain ⟨i, _, hi⟩ := List.exists_of_findSome?_eq_some h
  refine ⟨?_, Compiled.matchAt_le hi⟩
  rw [Compiled.matchAt_start hi]
  exact Nat.le_add_right pos i

theorem pipeCellsFrom_join (fuel : Nat) (rest : String) :
    String.join (pipeCellsFrom fuel rest) = rest := by
  induction fuel generalizing rest with
  | zero => simp [pipeCellsFrom]
  | succ fuel ih =>
    simp only [pipeCellsFrom]
    split
    · simp
    · rename_i m hm
      have hle := (searchFrom_bounds hm).2
      rw [← String.toList_inj]
      simp only [String.join_cons, String.toList_append, ih, slice, dropChars, String.toList_ofList,
        List.drop_zero, Nat.sub_zero]
      exact take_append_slice_drop rest.toList hle

theorem pipeSeparator_eq : pipeSeparator =
    ⟨.seq [.group 1 (.seq [.alt [.seq [.anchor .textStart], .seq [.many 1 none .greedy (.char ' ' false)]],
      .char '|' false, .alt [.seq [.many 1 none .greedy (.char ' ' false)],
        .seq [.anchor .textEndOrLastNewline]]])], 1, []⟩ := rfl

theorem pipeSeparator_matchAt_zero (cs : Array Char) (h0 : cs[0]? = some '|') (h1 : cs[1]? = some ' ') :
    ∃ m, pipeSeparator.matchAt cs 0 cs.size = some m := by
  have hn : 1 < cs.size := by
    rcases Nat.lt_or_ge 1 cs.size with h | h
    · exact h
    · simp [Array.getElem?_eq_none (by omega : cs.size ≤ 1)] at h1
  have h0' : cs[0] = '|' := by simpa [show 0 < cs.size by omega] using h0
  have h1' : cs[1] = ' ' := by simpa [hn] using h1
  let s : Subject := ⟨cs, cs.size⟩
  have hstart : s.anchorHolds .textStart 0 = true := rfl
  have hbar : s.single? (.char '|' false) 0 = some true := by
    simp [s, Subject.single?, Subject.at?, show 0 < cs.size by omega, h0']
  -- the blanks after the pipe: at least the one at offset 1
  have hblank : 1 ≤ s.countSingles (.char ' ' false) 1
      (((none : Option Nat).getD (s.stop - 1)).min (s.stop - 1)) := by
    have hl : ((none : Option Nat).getD (s.stop - 1)).min (s.stop - 1) = (cs.size - 2) + 1 := by
      simp [s]; omega
    rw [hl]
    simp [Subject.countSingles, Subject.single?, Subject.at?, s, hn, h1']
  have run : ∀ k, ∃ e sp, search s (k + 12)
      ⟨0, Array.replicate (pipeSeparator.groups + 1) none, [.node pipeSeparator.root]⟩ [] =
        .matched e sp := by
    intro k
    rw [pipeSeparator_eq]
    simp only
    rw [search_seq]
    simp only [List.map_cons, List.map_nil, List.cons_append, List.nil_append]
    rw [search_group, search_seq]
    simp only [List.map_cons, List.map_nil, List.cons_append, List.nil_append]
    rw [search_alt _ _ _ _ _ _ _ _ (List.cons_ne_nil _ _), search_seq]
    simp only [List.map_cons, List.map_nil, List.cons_append, List.nil_append]
    rw [search_anchor (h := hstart), search_char (h := hbar)]
    rw [search_alt _ _ _ _ _ _ _ _ (List.cons_ne_nil _ _), search_seq]
    simp only [List.map_cons, List.map_nil, List.cons_append, List.nil_append]
    rw [search_many_single _ _ _ _ _ _ _ _ _ rfl hblank]
    simp only
    rw [search_close, search_done]
    exact ⟨_, _, rfl⟩
  obtain ⟨e, sp, h⟩ := run (matchFuel - 12)
  refine ⟨⟨0, e, sp, pipeSeparator.names⟩, ?_⟩
  simp only [Compiled.matchAt]
  rw [show matchFuel = matchFuel - 12 + 12 from rfl, h]

theorem search?_pipeSeparator_start (row : String) (h : row.startsWith "| " = true) :
    ∃ m, search? pipeSeparator row = some m ∧ m.start = 0 := by
  obtain ⟨rest, hrest⟩ : ['|', ' '] <+: row.toList := by simpa using h
  have h0 : row.toList.toArray[0]? = some '|' := by simp [← hrest]
  have h1 : row.toList.toArray[1]? = some ' ' := by simp [← hrest]
  obtain ⟨m, hm⟩ := pipeSeparator_matchAt_zero _ h0 h1
  refine ⟨m, ?_, Compiled.matchAt_start hm⟩
  simp only [List.size_toArray] at hm
  simp [search?, searchFrom, List.range_succ_eq_map, hm]

theorem rowCells_join (row : String) : String.join (rowCells row) = row ++ "\n" := by
  simp only [rowCells]
  split
  · rename_i hpipe
    obtain ⟨m, hm, h0⟩ := search?_pipeSeparator_start row hpipe
    rw [hm]
    simp only [String.join_append, String.join_cons, String.join_nil, pipeCellsFrom_join, ← String.toList_inj,
      String.toList_append, slice, dropChars, String.toList_ofList, h0, List.drop_zero, Nat.sub_zero]
    simp [List.take_append_drop]
  · simp [String.join_append, spaceCellsFrom_join]

/-! ## Readers give back their cells -/

theorem takeChars_append_dropChars (s : String) (n : Nat) : takeChars s n ++ dropChars s n = s := by
  simp [takeChars, dropChars, ← String.toList_inj]

theorem gherkinCell_spell (value : String) (k : TokenKind) : spell (gherkinCell value k) = value := by
  unfold gherkinCell
  split <;> simp [takeChars_append_dropChars]

/-- Whether a reader gives back the cell it reads as it stands: all readers do but that of a
setting in a test case or keyword before its name, which takes the brackets off the name. -/
def CellReader.keepsText : CellReader → Bool
  | .setting place _ index _ => !(index == 0 && place != .table)
  | _ => true

theorem CellReader.read_spell (r : CellReader) (v : String) (h : r.keepsText = true) :
    spell (r.read v).pieces = v := by
  cases r with
  | setting place target index follow =>
    simp only [keepsText, Bool.not_eq_true'] at h
    simp only [read, h, Bool.false_eq_true, if_false]
    simp
  | call found =>
    simp only [read]
    split
    · simp
    · split
      · simp
      · simp [gherkinCell_spell]
  | _ => simp [read]

theorem bracketed_toList {v : String} (h1 : v.startsWith "[" = true) (h2 : v.endsWith "]" = true) :
    v.toList = '[' :: ((v.toList.drop 1).dropLast ++ [']']) := by
  obtain ⟨t, ht⟩ : ['['] <+: v.toList := by simpa using h1
  have hs : [']'] <:+ v.toList := by
    rw [← String.endsWith_toSlice] at h2
    simpa using (String.Slice.endsWith_string_iff).mp h2
  rw [← ht] at hs ⊢
  obtain ⟨u, hu⟩ := hs
  -- the closing bracket is not the opening one, so it is the last of `t`
  rcases List.eq_nil_or_concat t with rfl | ⟨t', c, rfl⟩
  · cases u with
    | nil => simp at hu
    | cons a u => simp at hu
  · simp only [List.concat_eq_append] at hu ⊢
    have hc : c = ']' := by
      have h := congrArg List.getLast? hu
      rw [← List.append_assoc, List.getLast?_concat, List.getLast?_concat] at h
      exact (Option.some.inj h).symm
    subst hc
    simp

theorem CellReader.read_spell_bracketed (place : SettingPlace) (target : Option TemplateTarget)
    (follow : Option (TokenKind × Bool)) {v : String} (h1 : v.startsWith "[" = true)
    (h2 : v.endsWith "]" = true) :
    spell ((CellReader.setting place target 0 follow).read v).pieces = v := by
  simp only [read]
  split
  · rw [← String.toList_inj]
    simp only [spell_cons, spell_nil, String.append_empty, String.toList_append, String.toList_ofList]
    rw [bracketed_toList h1 h2]
    simp
  · simp

theorem CellReader.read_next_keepsText (r : CellReader) (v : String) :
    (r.read v).next.keepsText = true := by
  cases r with
  | setting place target index follow =>
    simp only [read]
    split <;> simp [keepsText]
  | call found =>
    simp only [read]
    split
    · rfl
    · split <;> rfl
  | _ => rfl


/-! ## Tables keep the text of their rows -/

/-- Both readers of a table give back the cells they read. -/
def RowReaders.KeepText (r : RowReaders) : Prop :=
  r.current.keepsText = true ∧ r.previous.keepsText = true

/-- The readers of every table give back the cells they read. -/
def RobotTables.KeepText (t : RobotTables) : Prop :=
  t.settings.KeepText ∧ t.variables_.KeepText ∧ t.testCases.KeepText ∧ t.keywords.KeepText

/-- What reading a cell must leave: pieces that spell the cell, and readers and tables that
still give back their cells. -/
def CellKept (v : String) (res : List (String × TokenKind) × RowReaders × RobotTables) : Prop :=
  spell res.1 = v ∧ res.2.1.KeepText ∧ res.2.2.KeepText

namespace RobotTables

section Cells
variable {t : RobotTables} {r : RowReaders} {v : String}

theorem setTemplate_keepText (ht : t.KeepText) (x : Option (TemplateTarget × Bool)) :
    (t.setTemplate x).KeepText := by
  rcases x with _ | ⟨_ | _, b⟩ <;> exact ht

theorem readWith_kept (change : RowReaders → RowReaders) (ht : t.KeepText)
    (hc : (change r).current.keepsText = true) (hp : (change r).previous.keepsText = true) :
    CellKept v (t.readWith r change v) :=
  ⟨CellReader.read_spell _ _ hc, ⟨CellReader.read_next_keepsText _ _, hp⟩,
    setTemplate_keepText ht _⟩

theorem readWith_kept_bracketed (place : SettingPlace) (target : Option TemplateTarget)
    (ht : t.KeepText) (hr : r.KeepText) (h1 : v.startsWith "[" = true)
    (h2 : v.endsWith "]" = true) :
    CellKept v (t.readWith r (fun r => { r with current := .setting place target 0 none }) v) :=
  ⟨CellReader.read_spell_bracketed place target none h1 h2,
    ⟨CellReader.read_next_keepsText _ _, hr.2⟩, setTemplate_keepText ht _⟩

theorem goOn_kept (ht : t.KeepText) (hr : r.KeepText) :
    CellKept v ([(v, .punctuation)], { r.goOn with blankSoFar := false }, t) :=
  ⟨by simp, ⟨hr.2, hr.2⟩, ht⟩

theorem plainCell_kept (change : RowReaders → RowReaders) (ht : t.KeepText) (hr : r.KeepText)
    (hc : (change r).current.keepsText = true) (hp : (change r).previous = r.previous) :
    CellKept v (t.plainCell r change v) := by
  unfold plainCell
  split
  · exact goOn_kept ht hr
  · exact readWith_kept change ht hc (hp ▸ hr.2)

theorem caseCell_kept (place : SettingPlace) (index : Nat) (ht : t.KeepText) (hr : r.KeepText) :
    CellKept v (t.caseCell r place index v) := by
  unfold caseCell
  dsimp only
  split
  · exact goOn_kept ht hr
  split
  · -- the name of a test case or keyword
    refine ⟨gherkinCell_spell _ _, hr, ?_⟩
    split <;> exact ht
  split
  · -- a setting in brackets
    rename_i hb
    simp only [Bool.and_eq_true] at hb
    obtain ⟨⟨-, h1⟩, h2⟩ := hb
    split
    · exact readWith_kept_bracketed _ _ ht hr h1 h2
    · exact readWith_kept_bracketed _ _ ht hr h1 h2
  split
  · exact readWith_kept _ ht rfl hr.2
  split
  · exact ⟨by simp, hr, ht⟩
  · exact readWith_kept id ht hr.1 hr.2

/-- **A table gives back every cell it reads**, and its readers go on giving back cells. -/
theorem readCell_kept (ht : t.KeepText) (index : Nat) (v : String) :
    spell (t.readCell index v).1 = v ∧ (t.readCell index v).2.KeepText := by
  unfold readCell
  split
  · exact ⟨by simp, ht⟩
  · obtain ⟨hs, hr, ht'⟩ := plainCell_kept (v := v) (fun r : RowReaders =>
      if index == 0 && robotNormal v == "testtemplate" then
        { r with current := .setting .table (some .suiteDefault) 0 none } else r)
      ht ht.1 (by split; rfl; exact ht.1.1) (by split <;> rfl)
    exact ⟨hs, hr, ht'.2⟩
  · obtain ⟨hs, hr, ht'⟩ := plainCell_kept (v := v) id ht ht.2.1 ht.2.1.1 rfl
    exact ⟨hs, ht'.1, hr, ht'.2.2⟩
  · obtain ⟨hs, hr, ht'⟩ := caseCell_kept (v := v) .testCase index ht ht.2.2.1
    exact ⟨hs, ht'.1, ht'.2.1, hr, ht'.2.2.2⟩
  · obtain ⟨hs, hr, ht'⟩ := caseCell_kept (v := v) .keyword index ht ht.2.2.2
    exact ⟨hs, ht'.1, ht'.2.1, ht'.2.2.1, hr⟩

theorem endRow_keepText (ht : t.KeepText) : t.endRow.KeepText := by
  unfold endRow
  split
  · exact ht
  · exact ⟨⟨rfl, ht.1.1⟩, ht.2⟩
  · exact ⟨ht.1, ⟨rfl, ht.2.1.1⟩, ht.2.2⟩
  · refine ⟨ht.1, ht.2.1, ⟨?_, ht.2.2.1.1⟩, ht.2.2.2⟩
    unfold testCaseReader
    split <;> rfl
  · exact ⟨ht.1, ht.2.1, ht.2.2.1, ⟨rfl, ht.2.2.2.1⟩⟩

end Cells

end RobotTables


/-! ## Rows and the whole text -/

/-- A fold that puts, for each value, pieces spelling `g` of it in front of its output (the
last piece first) and keeps an invariant ends with an output that spells them all. -/
theorem foldl_spell {σ α : Type} (F : σ → α → σ) (out : σ → List (String × TokenKind))
    (Inv : σ → Prop) (g : α → String)
    (hF : ∀ st a, Inv st → Inv (F st a) ∧ ∃ ps, out (F st a) = ps.reverse ++ out st ∧ spell ps = g a) :
    ∀ (l : List α) (st : σ) {res : σ}, Inv st → l.foldl F st = res →
      Inv res ∧ spell (out res).reverse = spell (out st).reverse ++ String.join (l.map g)
  | [], st, res, hst, h => by
    subst h
    simp [hst]
  | a :: l, st, res, hst, h => by
    obtain ⟨hinv, ps, hout, hps⟩ := hF st a hst
    obtain ⟨hres, hspell⟩ := foldl_spell F out Inv g hF l (F st a) hinv h
    refine ⟨hres, ?_⟩
    rw [hspell, hout]
    simp [hps, String.append_assoc]

namespace RobotTables

/-- **A row is read whole**: the pieces of a row spell the row and its line break, and the
tables go on giving back their cells. -/
theorem readRow_kept {t : RobotTables} (ht : t.KeepText) (row : String) :
    spell (t.readRow row).1 = row ++ "\n" ∧ (t.readRow row).2.KeepText := by
  unfold readRow
  generalize hres : List.foldl _ _ (rowCells row) = res
  refine (fun key => ?_) (foldl_spell _ (fun st => st.2.2.2.1) (fun st => st.2.2.2.2.KeepText) id
    ?step (rowCells row) (0, false, false, [], t) ht hres)
  · obtain ⟨hinv, hspell⟩ := key
    obtain ⟨i, commented, heading, out, t'⟩ := res
    refine ⟨?_, endRow_keepText hinv⟩
    simpa [rowCells_join] using hspell
  case step =>
    -- each cell: a comment, a separator, a heading or a cell of the table in use
    rintro ⟨i, commented, heading, out, t'⟩ value ht'
    dsimp only at ht' ⊢
    -- a cell that opens a table changes only the table in use
    generalize hT : (if (!value.startsWith "#" && i > 0 && (i - 1) / 2 == 0 &&
        value.startsWith "*") = true then { t' with table := RobotTable.named value } else t') = T
    have hT' : T.KeepText := by
      rw [← hT]
      split <;> exact ht'
    repeat' split
    all_goals first
      | exact ⟨hT', _, rfl, by simp⟩
      | obtain ⟨hs, hk⟩ := readCell_kept hT' ((i - 1) / 2) value
        generalize T.readCell ((i - 1) / 2) value = rc at hs hk ⊢
        exact ⟨hk, rc.1, rfl, hs⟩

end RobotTables


theorem RobotTables.default_keepText : ({} : RobotTables).KeepText :=
  ⟨⟨rfl, rfl⟩, ⟨rfl, rfl⟩, ⟨rfl, rfl⟩, ⟨rfl, rfl⟩⟩

theorem spell_flatMap_markVariables (ps : List (String × TokenKind)) :
    spell (ps.flatMap fun (s, k) => markVariables (s.length + 1) s k) = spell ps := by
  induction ps with
  | nil => rfl
  | cons p ps ih => simp [ih, markVariables_spell]

theorem tokens_concat_eq_spell (ts : List Token) :
    Token.concat ts = spell (ts.map fun tok => (tok.text, tok.kind)) := by
  simp [Token.concat, spell, Function.comp_def]

/-- **The tokens spell the rows**: the texts of the tokens of Robot Framework data are its
rows, each with a line break after it. -/
theorem robotTokens_concat (text : String) :
    Token.concat (robotTokens text) = String.join ((robotRows text).map (· ++ "\n")) := by
  unfold robotTokens
  generalize hrows : List.foldl _ _ (robotRows text) = rows
  refine (fun key => ?_) (foldl_spell _ (fun st => st.2) (fun st : RobotTables × List (String × TokenKind) => st.1.KeepText) (· ++ "\n")
    ?row (robotRows text) ({}, []) RobotTables.default_keepText hrows)
  · obtain ⟨-, hspell⟩ := key
    obtain ⟨t, out⟩ := rows
    simp only [List.reverse_nil, spell_nil, String.empty_append] at hspell
    dsimp only
    generalize hpieces : List.foldl _ _ (out.reverse.flatMap _) = toks
    refine (fun key => ?_) (foldl_spell _ (fun st : Nat × List Token => st.2.map fun tok => (tok.text, tok.kind))
      (fun _ => True) (·.1) ?piece _ (0, []) trivial hpieces)
    · obtain ⟨-, htoks⟩ := key
      obtain ⟨n, tokens⟩ := toks
      simp only [List.map_nil, List.reverse_nil, spell_nil, String.empty_append] at htoks
      rw [tokens_concat_eq_spell, List.map_reverse, htoks]
      change spell _ = _
      rw [spell_flatMap_markVariables, hspell]
    case piece =>
      -- an empty piece makes no token; any other makes one with its text
      rintro ⟨n, tokens⟩ ⟨s, k⟩ -
      dsimp only
      split
      · exact ⟨trivial, [], by simp, by simpa using ‹s.isEmpty = true›⟩
      · exact ⟨trivial, [(s, k)], by simp, by simp⟩
  case row =>
    rintro ⟨t, out⟩ row ht
    obtain ⟨hs, hk⟩ := RobotTables.readRow_kept ht row
    dsimp only
    generalize t.readRow row = rr at hs hk ⊢
    exact ⟨hk, rr.1, rfl, hs⟩


/-! ## Rows of lines -/

section Rows
variable {l : List Char}

theorem rowOfLine_plain (hl : ∀ c ∈ l, endsLine c = false) :
    (rowOfLine (String.ofList l)).toList = l := by
  unfold rowOfLine
  rcases List.eq_nil_or_concat l with rfl | ⟨l', c, rfl⟩
  · rfl
  · have hc : endsLine c = false := hl c (by simp)
    have hn : c ≠ '\n' := by rintro rfl; cases hc
    simp [hc, hn]

theorem rowOfLine_ended {c : Char} (hl : ∀ c ∈ l, endsLine c = false) (hc : endsLine c = true) :
    (rowOfLine (String.ofList (l ++ [c]))).toList = l := by
  unfold rowOfLine
  -- a carriage return ends a line, so it is not the last character of `l`
  have hr : l.getLast? ≠ some '\x0d' := by
    intro h
    have := hl _ (List.mem_of_getLast? h)
    cases this
  simp [hc, hr]

theorem rowOfLine_crlf :
    (rowOfLine (String.ofList (l ++ ['\x0d', '\n']))).toList = l := by
  unfold rowOfLine
  have : l ++ ['\x0d', '\n'] = (l ++ ['\x0d']) ++ ['\n'] := by simp
  simp only [String.toList_ofList, this, List.getLast?_concat, List.dropLast_concat]
  rfl

end Rows

/-- **Rows spell their lines exactly when lines end with line feeds**: the rows of the lines
of `cs`, the line `cur` begun before it (last character first), each followed by a line
feed, spell the text exactly when its lines end with lone line feeds. -/
theorem splitLinesFrom_rows_iff (cs cur : List Char) :
    (∀ c ∈ cur, endsLine c = false) →
    ((String.join ((splitLinesFrom cs cur).map (rowOfLine · ++ "\n"))).toList = cur.reverse ++ cs ↔
      (∀ c ∈ cs, endsLine c = true → c = '\n') ∧
        (cur.reverse ++ cs = [] ∨ (cur.reverse ++ cs).getLast? = some '\n')) := by
  fun_induction splitLinesFrom cs cur with
  | case1 cur hempty =>
    intro _
    simp [List.isEmpty_iff.mp hempty]
  | case2 cur hne =>
    -- an unfinished last line gets a line feed it did not have
    intro hcur
    have hrev : ∀ c ∈ cur.reverse, endsLine c = false := by simpa using hcur
    have hhead : cur.head? ≠ some '\n' := by
      intro h
      cases hcur _ (List.mem_of_head? h)
    have hne' : cur ≠ [] := fun h => hne (List.isEmpty_iff.mpr h)
    simp [rowOfLine_plain hrev, hhead, hne']
  | case3 rest cur ih =>
    -- a carriage return and a line feed become one line feed
    intro _
    rw [show ('\n' :: '\x0d' :: cur).reverse = cur.reverse ++ ['\x0d', '\n'] by simp]
    simp only [List.map_cons, String.join_cons, String.toList_append, rowOfLine_crlf]
    simp [show endsLine '\x0d' = true from rfl]
  | case4 c rest cur _ hc ih =>
    intro hcur
    have hrev : ∀ c ∈ cur.reverse, endsLine c = false := by simpa using hcur
    have hrow : (rowOfLine (String.ofList (c :: cur).reverse)).toList = cur.reverse := by
      rw [List.reverse_cons]
      exact rowOfLine_ended hrev hc
    simp only [List.map_cons, String.join_cons, String.toList_append, hrow, List.append_assoc]
    have ih := ih (by simp)
    simp only [List.reverse_nil, List.nil_append] at ih
    rw [List.append_cancel_left_eq, show "\n".toList = ['\n'] from rfl, List.singleton_append,
      List.cons.injEq, ih]
    by_cases hn : c = '\n'
    · -- a line feed: the rest decides, and the text ends where the rest ends
      subst hn
      cases hl : rest.getLast? with
      | none => simp [List.getLast?_eq_none_iff.mp hl]
      | some x =>
        have hr : rest ≠ [] := by rintro rfl; cases hl
        simp [List.getLast?_append, List.getLast?_cons, hl, hr]
    · -- another character that ends a line: neither side holds
      have hn' : '\n' ≠ c := fun h => hn h.symm
      simp [hn, hn', hc]
  | case5 c rest cur _ hc ih =>
    intro hcur
    have := ih (by simpa [hc] using hcur)
    simpa [hc] using this


theorem robotRows_spell_iff (text : String) :
    String.join ((robotRows text).map (· ++ "\n")) = text ↔
      (∀ c ∈ text.toList, endsLine c = true → c = '\n') ∧
        (text = "" ∨ text.toList.getLast? = some '\n') := by
  have h := splitLinesFrom_rows_iff text.toList [] (by simp)
  simp only [List.reverse_nil, List.nil_append] at h
  rw [← String.toList_inj, robotRows, splitLinesKeep, List.map_map]
  simpa [Function.comp_def, ← String.toList_eq_nil_iff] using h

end Highlight.Lexers

namespace Highlight

open Lexers Languages

theorem lexRaw_robotFramework (opts : Options) (code : String) :
    lexRaw robotFrameworkLanguage opts code = .ok (robotTokens code) := by
  simp only [lexRaw, Language.fault?, lexWith, robotFrameworkLanguage, Language.described,
    robotScanner, Scanner.plain, Scanner.resolve]
  rw [show nestingDepth = 23 + 1 from rfl, lexScanner]
  simp only [Scanner.resolve, String.ofList_toList, Shared.fault?_nil]

/-- **When Robot Framework data is lexed without loss**: the texts of its tokens give back
the text exactly when every character of it that ends a line is a line feed and it is empty
or ends with one. Any other line end (a carriage return, a form feed, a vertical tab, a
separator of Unicode) comes back as a line feed, and a last line without one gains one. -/
theorem robotFramework_tokens_spell_iff (opts : Options) (code : String) :
    (lexRaw robotFrameworkLanguage opts code).map Token.concat = .ok code ↔
      (∀ c ∈ code.toList, endsLine c = true → c = '\n') ∧
        (code = "" ∨ code.toList.getLast? = some '\n') := by
  rw [lexRaw_robotFramework, ← robotRows_spell_iff, ← robotTokens_concat]
  simp [Except.map]

end Highlight
