import Highlight.Format.Svg

/-!
# Numbering SVG lines

SVG output tests `counter % linenostep == 0` for every line it numbers, the first as the output
opens and then one after every line feed. `%` fails for a step of zero only, so the output is made for every stream of tokens exactly when it does not number lines
with a step of zero; with a step of zero it fails before anything is written, whatever the
stream. The proof runs the line breaks (`lineBreak_ok`), the parts of a token (`parts_ok`) and
the tokens (`tokens_ok`) under the one fact that the test does not fail (`Counts`).
-/

set_option autoImplicit false

namespace Highlight.Svg

/-- Lines are not numbered with a step of zero, so no test of the counter fails. -/
def Settings.Counts (s : Settings) : Prop := s.linenos = true → s.linenostep ≠ 0

theorem shown?_ok {counter step : Int} (h : step ≠ 0) :
    shown? counter step = .ok (counter % step == 0) := by
  simp [shown?, h]

theorem Settings.Counts.shows {s : Settings} (hs : s.Counts) (counter : Int) :
    ∃ b, s.shows? counter = .ok b := by
  by_cases hl : s.linenos = true
  · exact ⟨_, by rw [Settings.shows?, if_pos hl, shown?_ok (hs hl)]⟩
  · exact ⟨false, by rw [Settings.shows?, if_neg hl]; rfl⟩

theorem lineBreak_ok {s : Settings} (hs : s.Counts) (style : String) (p : Place) :
    ∃ out, s.lineBreak style p = .ok (out, ⟨p.y + s.ystep, p.counter + 1⟩) := by
  obtain ⟨b, hb⟩ := hs.shows p.counter
  exact ⟨_, by simp only [Settings.lineBreak, hb]; rfl⟩

theorem parts_ok {s : Settings} (hs : s.Counts) (style tspan : String) :
    ∀ (parts : List (List Char)) (p : Place), ∃ r, s.parts style tspan p parts = .ok r
  | [], p => ⟨_, rfl⟩
  | [_], p => ⟨_, rfl⟩
  | part :: next :: more, p => by
    obtain ⟨brk, hbrk⟩ := lineBreak_ok hs style p
    obtain ⟨⟨rest, p'⟩, hrest⟩ := parts_ok hs style tspan (next :: more) ⟨p.y + s.ystep, p.counter + 1⟩
    exact ⟨_, by simp only [Settings.parts, hbrk, hrest, bind, Except.bind]; rfl⟩

theorem tokens_ok {s : Settings} (hs : s.Counts) (st : Style.Built) (style : String) :
    ∀ (ts : List (TokenKind × String)) (p : Place), ∃ r, s.tokens st style p ts = .ok r
  | [], p => ⟨_, rfl⟩
  | t :: ts, p => by
    obtain ⟨⟨out, p'⟩, hout⟩ := parts_ok hs style (look st t.1) ((s.text t.2).splitOn '\n') p
    obtain ⟨⟨rest, p''⟩, hrest⟩ := tokens_ok hs st style ts p'
    exact ⟨_, by simp only [Settings.tokens, hout, hrest, bind, Except.bind]; rfl⟩

/-- SVG output numbering its lines with a step of zero fails with the error of `%` by zero, whatever the tokens; with any other settings it is made for every stream of tokens. -/
theorem svg_numbering_fails_iff_zero_step (s : Settings) (st : Style.Built)
    (ts : List (TokenKind × String)) :
    (s.linenos = true ∧ s.linenostep = 0 → s.format st ts = .error Html.zeroStep) ∧
      (¬(s.linenos = true ∧ s.linenostep = 0) → ∃ out, s.format st ts = .ok out) := by
  constructor
  · rintro ⟨hl, hz⟩
    -- the first number's test fails, before any token is looked at
    have hfirst : s.shows? s.linenostart = .error Html.zeroStep := by
      simp [Settings.shows?, shown?, hl, hz]
    simp only [Settings.format, hfirst]
    rfl
  · intro hs
    have hcounts : s.Counts := fun hl hz => hs ⟨hl, hz⟩
    obtain ⟨first, hfirst⟩ := hcounts.shows s.linenostart
    obtain ⟨⟨body, p⟩, hbody⟩ := tokens_ok hcounts st (look st TokenKind.comment) ts
      ⟨s.yoffset, if s.linenos then s.linenostart + 1 else s.linenostart⟩
    exact ⟨_, by simp only [Settings.format, hfirst, hbody, bind, Except.bind]; rfl⟩

end Highlight.Svg
