import Highlight.Filters

/-!
# The two ways of making blanks visible

The `whitespace` filter has two ways of putting its marks into a stream. The first gives every
blank character a token of its own and replaces the character by its mark (`markRuns`), so its
text is the text of the stream with every space, tab and line feed replaced at once by its mark
(`text_markRuns`). The second replaces the spaces, then the tabs, then the line feeds inside
the tokens (`replaceEach`): a mark put in by an earlier replacement is read again by the later
ones, so its text replaces each character by what the three replacements in turn make of it
(`text_replaceEach`).

Both are replacements of one character at a time, so they agree on every stream exactly when
they agree on a space, a tab and a line feed (`visible_ways_text`). They do not when a mark is
itself a blank that a later replacement rewrites: a space marked by a tab, with tabs marked by
`»` and padding, comes out of the second way as the tab's mark (`tab_for_space_remarked`).
-/

set_option autoImplicit false

namespace Highlight.Filters.Visible

variable (v : Visible)

theorem mark_of_not_blank {c : Char} (h : Chars.isBlank c = false) : v.mark c = [c] := by
  have hs : c ≠ ' ' := by rintro rfl; exact absurd h (by decide)
  have ht : c ≠ '\t' := by rintro rfl; exact absurd h (by decide)
  have hn : c ≠ '\n' := by rintro rfl; exact absurd h (by decide)
  simp [mark, hs, ht, hn]

theorem text_markText (k : TokenKind) (run s : List Char) :
    Stream.text (v.markText k run s) = run.reverse ++ s.flatMap v.mark := by
  induction s generalizing run with
  | nil => cases run <;> simp [markText]
  | cons c s ih =>
    cases hb : Chars.isBlank c
    · simp [markText, hb, ih, mark_of_not_blank v hb]
    · -- a blank ends the run before it and is a token of its own
      cases run <;> simp [markText, hb, ih]

theorem text_markRuns (ts : Stream) :
    Stream.text (v.markRuns ts) = (Stream.text ts).flatMap v.mark := by
  induction ts with
  | nil => rfl
  | cons t ts ih => simp [markRuns, text_markText, List.flatMap_append, ← ih]

theorem replaceText_append (a b : List Char) :
    v.replaceText (a ++ b) = v.replaceText a ++ v.replaceText b := by
  by_cases h1 : v.spaces.isEmpty <;> by_cases h2 : v.tabs.isEmpty <;>
    by_cases h3 : v.newlines.isEmpty <;> simp [replaceText, replaceChar, h1, h2, h3]

theorem replaceText_eq_flatMap (s : List Char) :
    v.replaceText s = s.flatMap fun c => v.replaceText [c] := by
  induction s with
  | nil => simp [replaceText, replaceChar]
  | cons c s ih => rw [← List.singleton_append, replaceText_append, ih]; simp

theorem text_replaceEach (ts : Stream) :
    Stream.text (v.replaceEach ts) = (Stream.text ts).flatMap fun c => v.replaceText [c] := by
  induction ts with
  | nil => rfl
  | cons t ts ih =>
    simp only [replaceEach, List.map_cons, Stream.text_cons, String.toList_ofList,
      List.flatMap_append] at ih ⊢
    rw [ih, replaceText_eq_flatMap v t.2.toList]

theorem ways_agree_off_blanks {c : Char} (hc : c ∉ [' ', '\t', '\n']) :
    v.replaceText [c] = v.mark c := by
  simp only [List.mem_cons, List.not_mem_nil, or_false, not_or] at hc
  obtain ⟨hs, ht, hn⟩ := hc
  simp [replaceText, replaceChar, mark, hs, ht, hn]

theorem flatMap_eq_of_forall {f g : Char → List Char} (h : ∀ c, f c = g c) (s : List Char) :
    s.flatMap f = s.flatMap g := by
  induction s with
  | nil => rfl
  | cons c s ih => simp [h c, ih]

/-- The text of each way, and when they agree: the first replaces the three blanks at once by
their marks, the second each character by what its replacements in turn make of it, and the two
give the same text for every stream exactly when they do for a space, a tab and a line feed. -/
theorem visible_ways_text (ts : Stream) :
    Stream.text (v.markRuns ts) = (Stream.text ts).flatMap v.mark ∧
      Stream.text (v.replaceEach ts) = (Stream.text ts).flatMap (fun c => v.replaceText [c]) ∧
      ((∀ ts' : Stream, Stream.text (v.replaceEach ts') = Stream.text (v.markRuns ts')) ↔
        ∀ c ∈ [' ', '\t', '\n'], v.replaceText [c] = v.mark c) := by
  refine ⟨text_markRuns v ts, text_replaceEach v ts, ⟨fun h c _ => ?_, fun h ts' => ?_⟩⟩
  · -- a stream of one character shows what each way makes of it
    have := h [(TokenKind.root, String.singleton c)]
    simpa [text_markRuns, text_replaceEach] using this
  · rw [text_markRuns, text_replaceEach]
    refine flatMap_eq_of_forall (fun c => ?_) _
    by_cases hc : c ∈ [' ', '\t', '\n']
    · exact h c hc
    · exact ways_agree_off_blanks v hc

end Highlight.Filters.Visible

namespace Highlight.Filters

/-- With spaces marked by a tab and tabs marked, the two ways differ: the second marks a space
as a tab, and the tab it puts in is replaced again. -/
theorem tab_for_space_remarked :
    Visible.ofOptions [("spaces", .str "\t"), ("tabs", .bool true), ("wstokentype", .bool false)] =
      .ok ⟨['\t'], '»' :: List.replicate 7 ' ', [], false⟩ ∧
    ¬ (∀ ts : Stream, Stream.text ((⟨['\t'], '»' :: List.replicate 7 ' ', [], false⟩ : Visible).replaceEach ts) =
        Stream.text ((⟨['\t'], '»' :: List.replicate 7 ' ', [], false⟩ : Visible).markRuns ts)) ∧
    Stream.text ((Filter.whitespace ⟨['\t'], '»' :: List.replicate 7 ' ', [], false⟩).apply
        [(TokenKind.root, "a b\n")]) = "a»       b\n".toList :=
  ⟨rfl, fun h => absurd ((Visible.visible_ways_text _ []).2.2.1 h ' ' (by simp)) (by decide),
    by decide⟩

end Highlight.Filters
