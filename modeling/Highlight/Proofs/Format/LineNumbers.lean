import Highlight.Format.HtmlNumbers
import Highlight.Proofs.Format.HtmlLines
import Highlight.Proofs.Format.GroffWidth

/-!
# The column of line numbers

HTML output with line numbers writes one cell for each line it formats, numbered from
`linenostart`: in a column of a table beside the code, or at the start of each line. Read back
(`shown`, `tags`), the cell of number `i` shows `i` right-aligned in the places of the last
number when the step divides `i`, and as many blanks otherwise, and the one span it opens has
the special attributes exactly when `special` is not zero and divides `i` (`Numbers.CellShows`,
`Numbers.cellShows_cell`). The places are always enough: no number of the column has more digits
than the last one (`length_toString_le`).

A step of zero makes `%` fail, so the output fails as soon as there is a line to number (`numbered_output_column`).
-/

set_option autoImplicit false

namespace Highlight.Html

/-! ## Decimal numbers -/

theorem length_toString_le {i k : Nat} (h : i ≤ k) :
    (toString i).length ≤ (toString k).length := by
  simp only [Nat.toString_eq_repr]
  have hk : k < 10 ^ k.repr.length :=
    (Nat.length_repr_le_iff Nat.length_repr_pos).mp (Nat.le_refl _)
  exact (Nat.length_repr_le_iff Nat.length_repr_pos).mpr (by omega)

theorem isDigit_of_mem_toString {c : Char} {i : Nat} (h : c ∈ (toString i).toList) :
    c.isDigit :=
  Nat.isDigit_of_mem_toDigits (b := 10) (by decide) (by decide) (by simpa using h)

theorem length_padNumber {width i : Nat} (h : (toString i).length ≤ width) :
    (padNumber width i).length = width := by
  simp only [padNumber, List.length_append, List.length_replicate, String.length_toList]
  omega

theorem length_toString_le_numberWidth {start count j : Nat} (hj : j < count) :
    (toString (start + j)).length ≤ numberWidth start count :=
  length_toString_le (by omega)

/-! ## Text of digits and blanks -/

/-- A text of digits and blanks, which HTML writes as it is. -/
def Plain (x : List Char) : Prop := ∀ c ∈ x, c.isDigit ∨ c = ' '

theorem escapeChar_of_plain {c : Char} (h : c.isDigit ∨ c = ' ') : escapeChar c = [c] := by
  unfold escapeChar
  split <;> simp_all [Char.isDigit]

theorem shows_plain {x : List Char} (h : Plain x) : Shows x x [] := by
  have hx : escape x = x := by
    induction x with
    | nil => rfl
    | cons c x ih =>
      have hc : escapeChar c = [c] := escapeChar_of_plain (h c List.mem_cons_self)
      simp only [escape, List.flatMap_cons, hc] at ih ⊢
      rw [ih fun d hd => h d (List.mem_cons_of_mem _ hd), List.singleton_append]
  simpa [hx] using shows_escape x

theorem plain_padNumber (width i : Nat) : Plain (padNumber width i) := by
  intro c hc
  simp only [padNumber, List.mem_append, List.mem_replicate] at hc
  rcases hc with ⟨-, rfl⟩ | hc
  · exact Or.inr rfl
  · exact Or.inl (isDigit_of_mem_toString hc)

theorem Numbers.plain_text (n : Numbers) (width i : Nat) : Plain (n.text width i) := by
  unfold Numbers.text
  split
  · exact plain_padNumber width i
  · intro c hc
    exact Or.inr (List.eq_of_mem_replicate hc)

/-! ## Tags of cells -/

/-- The tag that opens a span with attributes `a`. -/
def spanTag (a : String) : List Char := ("<span" ++ a ++ ">").toList

/-- The tag that opens a link to the anchor `name` of line `i`. -/
def linkTag (name : String) (i : Nat) : List Char :=
  ("<a href=\"#" ++ name ++ "-" ++ toString i ++ "\">").toList

/-- The tag that closes a link. -/
def linkEnd : List Char := "</a>".toList

/-- Attributes a span's tag can carry: they start with a blank and hold no `>`. -/
def Attr (a : String) : Prop := a.toList.head? = some ' ' ∧ '>' ∉ a.toList

theorem isTag_spanTag {a : String} (h : '>' ∉ a.toList) : IsTag (spanTag a) :=
  ⟨("span" ++ a).toList, by simpa using h, by simp [spanTag]⟩

theorem isTag_linkTag {name : String} (h : '>' ∉ name.toList) (i : Nat) :
    IsTag (linkTag name i) := by
  have hi : '>' ∉ Nat.toDigits 10 i := fun hm =>
    absurd (Nat.isDigit_of_mem_toDigits (b := 10) (by decide) (by decide) hm) (by decide)
  exact ⟨("a href=\"#" ++ name ++ "-" ++ toString i ++ "\"").toList, by simp [h, hi],
    by simp [linkTag]⟩

theorem isTag_linkEnd : IsTag linkEnd := ⟨"/a".toList, by decide, rfl⟩

theorem opensSpan_spanTag {a : String} (h : a.toList.head? = some ' ') :
    opensSpan (spanTag a) = true := by
  obtain ⟨r, hr⟩ := List.head?_eq_some_iff.mp h
  simp [opensSpan, spanTag, hr]

@[simp] theorem opensSpan_linkTag (name : String) (i : Nat) :
    opensSpan (linkTag name i) = false := by
  simp [opensSpan, linkTag, List.isPrefixOf]

@[simp] theorem opensSpan_linkEnd : opensSpan linkEnd = false := by decide

@[simp] theorem opensSpan_spanEnd : opensSpan spanEnd = false := by decide

theorem shows_link {name : String} (hname : '>' ∉ name.toList) (i : Nat) {x t : List Char}
    {g : List (List Char)} (hx : Shows x t g) :
    Shows (link name i x) t (linkTag name i :: g ++ [linkEnd]) := by
  simpa [link, linkTag, linkEnd] using
    ((shows_tag (isTag_linkTag hname i)).append hx).append (shows_tag isTag_linkEnd)

namespace Numbers

variable (n : Numbers)

theorem shows_span {attrs : String × String} {i : Nat} (ha : '>' ∉ (n.attr attrs i).toList)
    {x t : List Char} {g : List (List Char)} (hx : Shows x t g) :
    Shows (n.span attrs i x) t (spanTag (n.attr attrs i) :: g ++ [spanEnd]) := by
  simpa [span, spanTag] using
    ((shows_tag (isTag_spanTag ha)).append hx).append (shows_tag isTag_spanEnd)

/-- The cell a way of numbering writes. -/
def cell : Numbering → String × String → String → Nat → Nat → List Char
  | .table => n.tableCell
  | .inline => n.inlineCell

/-- What a reader finds in the cell of number `i` in a column `width` places wide: it shows `i`
right-aligned when the step divides it and blanks otherwise, `width` characters either way, and
the one span it opens carries the special attributes of `attrs` exactly when `special` is not
zero and divides `i`. -/
structure CellShows (attrs : String × String) (width i : Nat) (c : List Char) : Prop where
  shows : shown c = if i % n.step = 0 then
      List.replicate (width - (toString i).length) ' ' ++ (toString i).toList
    else List.replicate width ' '
  width : (shown c).length = width
  special : (tags c).filter opensSpan =
    [spanTag (if n.special ≠ 0 ∧ i % n.special = 0 then attrs.2 else attrs.1)]

theorem attr_of_attrs {attrs : String × String} (ha : Attr attrs.1 ∧ Attr attrs.2) (i : Nat) :
    Attr (n.attr attrs i) := by
  unfold attr
  split
  · exact ha.2
  · exact ha.1

theorem length_text {width i : Nat} (hw : (toString i).length ≤ width) :
    (n.text width i).length = width := by
  unfold text
  split
  · exact length_padNumber hw
  · exact List.length_replicate

/-- A cell shows its text, and of its tags only that of its span opens one. Both ways of
numbering put the text in the span; they differ in where the link goes: inside the span in a
table, around it inline. -/
theorem shows_cell (m : Numbering) {attrs : String × String} {i : Nat}
    (hattr : Attr (n.attr attrs i)) {name : String} (hname : '>' ∉ name.toList) (width : Nat) :
    ∃ g, Shows (n.cell m attrs name width i) (n.text width i) g ∧
      g.filter opensSpan = [spanTag (n.attr attrs i)] := by
  have hopen := opensSpan_spanTag hattr.1
  have hplain := shows_plain (n.plain_text width i)
  cases m with
  | table =>
    by_cases hl : (n.anchored && i % n.step == 0) = true
    · simp only [cell, tableCell, hl, if_true]
      exact ⟨_, n.shows_span hattr.2 (shows_link hname i hplain), by simp [hopen]⟩
    · simp only [cell, tableCell, hl, if_false, Bool.false_eq_true]
      exact ⟨_, n.shows_span hattr.2 hplain, by simp [hopen]⟩
  | inline =>
    by_cases hl : n.anchored = true
    · simp only [cell, inlineCell, hl, if_true]
      exact ⟨_, shows_link hname i (n.shows_span hattr.2 hplain), by simp [hopen]⟩
    · simp only [cell, inlineCell, hl, if_false, Bool.false_eq_true]
      exact ⟨_, n.shows_span hattr.2 hplain, by simp [hopen]⟩

theorem cellShows_cell (m : Numbering) {attrs : String × String}
    (ha : Attr attrs.1 ∧ Attr attrs.2) {name : String} (hname : '>' ∉ name.toList) {width i : Nat}
    (hw : (toString i).length ≤ width) :
    n.CellShows attrs width i (n.cell m attrs name width i) := by
  obtain ⟨g, hg, hfilter⟩ := n.shows_cell m (n.attr_of_attrs ha i) hname width
  have hspecial :
      n.attr attrs i = if n.special ≠ 0 ∧ i % n.special = 0 then attrs.2 else attrs.1 := by
    simp [attr, isSpecial]
  refine ⟨?_, ?_, ?_⟩
  · rw [hg.shown_eq]
    rfl
  · rw [hg.shown_eq, n.length_text hw]
  · rw [hg.tags_eq, hfilter, hspecial]

end Numbers

/-! ## The column in the output -/

namespace Numbers

variable (n : Numbers)

theorem cells_of_zero_step {start count : Nat} (cell : Nat → Nat → List Char) (h0 : n.step = 0)
    (hc : count ≠ 0) : n.cells start count cell = .error zeroStep := by
  simp [cells, h0, hc]

theorem cells_of_pos {start count : Nat} (cell : Nat → Nat → List Char)
    (h : 0 < n.step ∨ count = 0) :
    n.cells start count cell =
      .ok ((List.range count).map fun j => cell (numberWidth start count) (start + j)) := by
  have hn : ¬(n.step = 0 ∧ count ≠ 0) := by omega
  simp only [cells, hn, if_false]

end Numbers

theorem attr_cellAttrs {styles : Option (String × String)}
    (h : ∀ p ∈ styles, '>' ∉ p.1.toList ∧ '>' ∉ p.2.toList) (m : Numbering) :
    Attr (cellAttrs styles m).1 ∧ Attr (cellAttrs styles m).2 := by
  rcases styles with _ | ⟨normal, special⟩
  · cases m <;> simp [Attr, cellAttrs]
  · obtain ⟨h1, h2⟩ := h _ rfl
    simp [Attr, cellAttrs, h1, h2]

namespace Settings

variable (s : Settings) {n : Numbers} {m : Numbering} {attrs : Numbering → String × String}
  {mark divStyle preStyle : String} {lines : List (List Char)}

/-- The output with numbers made from the cells `cs`: the table of their column beside the
`<pre>`, or the lines each after its cell. -/
def numberedFrom (m : Numbering) (mark divStyle preStyle : String) (lines cs : List (List Char)) :
    String :=
  match m with
  | .table =>
    s.divBlock divStyle
      (s.table cs (s.preBlock true preStyle (s.decorate true (s.marked mark lines))))
  | .inline => s.around true mark divStyle preStyle (List.zipWith (· ++ ·) cs lines)

theorem layout_numbered (hw : s.nowrap = false) (hm : n.mode = some m) :
    s.layout n attrs mark divStyle preStyle lines =
      (n.cells s.linenostart lines.length (n.cell m (attrs m) s.anchorName)).map
        (s.numberedFrom m mark divStyle preStyle lines) := by
  cases m <;> simp only [layout, hw, hm, Bool.false_eq_true, if_false] <;> rfl

theorem numberedFrom_table (cs : List (List Char)) :
    ∃ a b, s.numberedFrom .table mark divStyle preStyle lines cs =
      a ++ columnOpen ++ String.ofList (List.intercalate ['\n'] cs) ++ columnClose ++ b := by
  refine ⟨s.divOpen divStyle ++ s.tableOpen,
    codeCell (s.preBlock true preStyle (s.decorate true (s.marked mark lines))) ++ "</div>\n", ?_⟩
  unfold numberedFrom divBlock table
  -- both sides are the same pieces, grouped differently
  repeat rw [String.append_assoc]

/-- Output with numbers, read back: it fails exactly when the step is zero and there is a line;
otherwise it has one cell for each line, each showing its number as `CellShows` says, in the
column of its table or at the start of its line. -/
theorem layout_column (hw : s.nowrap = false) (hm : n.mode = some m)
    (hattrs : Attr (attrs m).1 ∧ Attr (attrs m).2) (hname : '>' ∉ s.anchorName.toList) :
    (s.layout n attrs mark divStyle preStyle lines = .error zeroStep ↔
      n.step = 0 ∧ lines ≠ []) ∧
    (0 < n.step ∨ lines = [] →
      ∃ out cells, s.layout n attrs mark divStyle preStyle lines = .ok out ∧
        cells.length = lines.length ∧
        (∀ j (hj : j < cells.length),
          n.CellShows (attrs m) (numberWidth s.linenostart lines.length) (s.linenostart + j)
            cells[j]) ∧
        (m = .table → ∃ a b, out =
          a ++ columnOpen ++ String.ofList (List.intercalate ['\n'] cells) ++ columnClose ++ b) ∧
        (m = .inline →
          out = s.around true mark divStyle preStyle (List.zipWith (· ++ ·) cells lines))) := by
  rw [s.layout_numbered hw hm]
  refine ⟨⟨fun he => ?_, fun ⟨h0, hne⟩ => ?_⟩, fun hpos => ?_⟩
  · -- only the cells can fail, and they fail only for a step of zero
    by_contra hno
    have hpos : 0 < n.step ∨ lines.length = 0 := by
      rw [List.length_eq_zero_iff]
      by_cases h0 : n.step = 0
      · exact Or.inr (by simpa [h0] using hno)
      · exact Or.inl (Nat.pos_of_ne_zero h0)
    rw [n.cells_of_pos _ hpos] at he
    cases he
  · rw [n.cells_of_zero_step _ h0 (by simpa using hne)]
    rfl
  · have hpos' : 0 < n.step ∨ lines.length = 0 := by simpa using hpos
    rw [n.cells_of_pos _ hpos']
    refine ⟨_, (List.range lines.length).map fun j => n.cell m (attrs m) s.anchorName
        (numberWidth s.linenostart lines.length) (s.linenostart + j),
      rfl, by simp, fun j hj => ?_, fun hmt => ?_, fun hmi => ?_⟩
    · have hj' : j < lines.length := by simpa using hj
      rw [List.getElem_map, List.getElem_range]
      exact n.cellShows_cell m hattrs hname (length_toString_le_numberWidth hj')
    · subst hmt
      exact s.numberedFrom_table _
    · subst hmi
      rfl

end Settings

namespace Styled

/-- HTML line numbers, read back: with the numbers of `n` in a table or inline, the output of a
token stream fails exactly when the step is zero and there is a line to number. Otherwise it
has one cell for each of its lines, and the `j`th cell shows `linenostart + j` right-aligned in
the places of the last number when the step divides it and as many blanks otherwise, with its
span of the special look exactly when `special` is not zero and divides the number; the cells
stand in the column of the table, or each at the start of its line. -/
theorem numbered_output_column (h : Styled) (n : Numbers) (ts : List (TokenKind × String))
    (m : Numbering) (hm : n.mode = some m) (hwrap : h.settings.nowrap = false)
    (hname : '>' ∉ h.settings.anchorName.toList)
    (hstyles : ∀ p ∈ h.cellStyles, '>' ∉ p.1.toList ∧ '>' ∉ p.2.toList) :
    (h.formatNumbered n ts = .error zeroStep ↔ n.step = 0 ∧ h.codeLines ts ≠ []) ∧
    (0 < n.step ∨ h.codeLines ts = [] →
      ∃ out cells, h.formatNumbered n ts = .ok out ∧
        cells.length = (h.codeLines ts).length ∧
        (∀ j (hj : j < cells.length),
          n.CellShows (cellAttrs h.cellStyles m)
            (numberWidth h.settings.linenostart (h.codeLines ts).length)
            (h.settings.linenostart + j) cells[j]) ∧
        (m = .table → ∃ a b, out = a ++ Settings.columnOpen ++
          String.ofList (List.intercalate ['\n'] cells) ++ Settings.columnClose ++ b) ∧
        (m = .inline →
          out = h.settings.around true h.mark h.divStyle h.preStyle
            (List.zipWith (· ++ ·) cells (h.codeLines ts)))) :=
  h.settings.layout_column hwrap hm (attr_cellAttrs hstyles m) hname

/-- Output with classes and no style of its own to read. -/
def plain : Styled := { settings := {}, style := Groff.plainStyle }

/-- A step of zero makes numbered output fail on a stream of one line, where the column would
have one cell. -/
theorem zero_step_numbering_fails :
    plain.formatNumbered { mode := some .inline, step := 0 } [(TokenKind.text, "x\n")] =
      .error zeroStep :=
  (numbered_output_column plain { mode := some .inline, step := 0 } [(TokenKind.text, "x\n")]
      .inline rfl rfl (by decide) (by simp [plain, cellStyles])).1.mpr ⟨rfl, by decide⟩

end Styled

end Highlight.Html
