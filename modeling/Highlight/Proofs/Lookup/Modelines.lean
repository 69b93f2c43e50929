import Highlight.Modeline

/-!
# The lines a modeline is read from

`Modeline.ofText s n` looks for a modeline near the two ends of a text. For every `n ≥ 0` it
finds one exactly when one of the first `n + 1` lines or one of the last `n` lines holds one:
the walk back from the line with index `n` takes one line more at the start than the walk from
the end takes there. It then gives the file type of the modeline nearest the end among the last
`n` lines, and only when those hold none the one nearest line `n` among the first `n + 1`
(`ofText_window_ends`).
-/

set_option autoImplicit false

namespace Highlight.Modeline

/-! ## The two walks -/

theorem tail_natCast (ls : List String) (m : Nat) :
    tail ls m = (ls.drop (ls.length - m)).reverse := by
  simp [tail, List.take_reverse]

theorem filterMap_range_getElem? (ls : List String) (k : Nat) :
    (List.range k).filterMap (ls[·]?) = ls.take k := by
  induction k with
  | zero => simp
  | succ k ih =>
    rw [List.range_succ, List.filterMap_append, ih, List.take_add_one]
    cases h : ls[k]? <;> simp [h]

theorem head_natCast (ls : List String) (m : Nat) :
    head ls m = (ls.take (m + 1)).reverse := by
  rw [head, show ((m : Int) + 1).toNat = m + 1 by omega, List.filterMap_reverse,
    filterMap_range_getElem?]

theorem ofText_natCast (s : String) (m : Nat) :
    ofText s m = (((lines s).drop ((lines s).length - m)).reverse.findSome? named?).or
      (((lines s).take (m + 1)).reverse.findSome? named?) := by
  rw [ofText, tail_natCast, head_natCast]

/-! ## The last hit of a list -/

section Last

variable {α β : Type} (f : α → Option β)

theorem findSome?_reverse_isSome_iff (l : List α) :
    (l.reverse.findSome? f).isSome ↔ ∃ x ∈ l, (f x).isSome := by
  simp [List.findSome?_isSome_iff]

theorem findSome?_reverse_of_last {l pre post : List α} {x : α} (hl : l = pre ++ x :: post)
    (hx : (f x).isSome) (hpost : ∀ y ∈ post, f y = none) :
    l.reverse.findSome? f = f x := by
  have hnone : post.reverse.findSome? f = none :=
    List.findSome?_eq_none_iff.mpr (by simpa using hpost)
  obtain ⟨b, hb⟩ := Option.isSome_iff_exists.mp hx
  subst hl
  simp [List.reverse_append, List.findSome?_append, hnone, hb]

end Last

/-! ## The windows -/

/-- A modeline is found exactly in the first `m + 1` or the last `m` lines of a text; the one
nearest the end among the last `m` wins, and otherwise the one nearest line `m` among the
first `m + 1`. -/
theorem ofText_window_ends (s : String) (m : Nat) :
    ((ofText s m).isSome ↔
      ∃ l ∈ (lines s).take (m + 1) ++ (lines s).drop ((lines s).length - m), (named? l).isSome) ∧
    (∀ pre l post, (lines s).drop ((lines s).length - m) = pre ++ l :: post →
      (named? l).isSome → (∀ l' ∈ post, named? l' = none) → ofText s m = named? l) ∧
    ((∀ l ∈ (lines s).drop ((lines s).length - m), named? l = none) →
      ∀ pre l post, (lines s).take (m + 1) = pre ++ l :: post →
      (named? l).isSome → (∀ l' ∈ post, named? l' = none) → ofText s m = named? l) := by
  refine ⟨?_, ?_, ?_⟩
  · rw [ofText_natCast, Option.isSome_or, Bool.or_eq_true, findSome?_reverse_isSome_iff,
      findSome?_reverse_isSome_iff]
    simp only [List.mem_append]
    constructor
    · rintro (⟨l, hl, h⟩ | ⟨l, hl, h⟩)
      · exact ⟨l, .inr hl, h⟩
      · exact ⟨l, .inl hl, h⟩
    · rintro ⟨l, hl | hl, h⟩
      · exact .inr ⟨l, hl, h⟩
      · exact .inl ⟨l, hl, h⟩
  · intro pre l post hsplit hl hpost
    obtain ⟨ft, hft⟩ := Option.isSome_iff_exists.mp hl
    rw [ofText_natCast, findSome?_reverse_of_last named? hsplit hl hpost, hft, Option.some_or]
  · intro htail pre l post hsplit hl hpost
    have hnone : ((lines s).drop ((lines s).length - m)).reverse.findSome? named? = none :=
      List.findSome?_eq_none_iff.mpr (by simpa using htail)
    rw [ofText_natCast, hnone, Option.none_or, findSome?_reverse_of_last named? hsplit hl hpost]

-- With five lines a side, the sixth line of eleven is read as well.
example : ofText "1\n2\n3\n4\n5\n# vim: ft=python\n7\n8\n9\n10\n11\n" 5 = some "python" := by
  decide

end Highlight.Modeline
