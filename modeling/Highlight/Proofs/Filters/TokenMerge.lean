import Highlight.Filters
import Mathlib.Data.List.SplitBy

/-!
# Merging runs of one kind

The merging filter holds one token back (`mergeFrom`). Its output is the grouping of the stream
into maximal runs of one kind that `List.splitBy` computes, each run one token with the run's
kind and the texts of the run one after another (`mergeFrom_loop`, run along the groups that
`List.splitBy.loop` has closed and the one it holds open).

Read off the filter itself, the first token it sends out is the one it holds (`mergeFrom_head`),
so neighbours of the output differ in kind (`isChain_mergeFrom`), and a stream whose neighbours
differ already passes unchanged (`mergeFrom_of_isChain`). Together (`tokenMerge_groups_runs`):
the text is kept, and merging twice is merging once.
-/

set_option autoImplicit false

namespace Highlight.Filters

/-- Whether two tokens have one kind. -/
def sameKind (a b : TokenKind × String) : Bool := a.1 == b.1

/-- The token a run of tokens merges into: the kind of its first token, with the texts of all. -/
def runToken (run : Stream) : TokenKind × String :=
  ((run.headD (TokenKind.root, "")).1, String.join (run.map (·.2)))

theorem runToken_append_singleton {run : Stream} (hrun : run ≠ []) (u : TokenKind × String) :
    runToken (run ++ [u]) = ((runToken run).1, (runToken run).2 ++ u.2) := by
  obtain ⟨t, run, rfl⟩ := List.exists_cons_of_ne_nil hrun
  simp [runToken, String.append_assoc]

/-- The filter, holding back the token `(t.1, v)` of the run `t :: g` (kept last first), follows
the loop of `List.splitBy` that holds the same run open after the runs `gs` (kept last first). -/
theorem mergeFrom_loop (l : Stream) :
    ∀ (t : TokenKind × String) (g : Stream) (gs : List Stream) (v : String),
      runToken (g.reverse ++ [t]) = (t.1, v) →
      gs.reverse.map runToken ++ mergeFrom (some (t.1, v)) l =
        (List.splitBy.loop sameKind l t g gs).map runToken := by
  induction l with
  | nil =>
    intro t g gs v hv
    simp [mergeFrom, List.splitBy.loop, hv]
  | cons u l ih =>
    intro t g gs v hv
    by_cases hu : u.1 = t.1
    · -- the run goes on: `u` joins it and is held as its last token
      have hb : (t.1 == u.1) = true := beq_iff_eq.mpr hu.symm
      have hnext := ih u (t :: g) gs (v ++ u.2) (by
        rw [runToken_append_singleton (by simp), List.reverse_cons, hv, hu])
      rw [hu] at hnext
      simp only [List.splitBy.loop, sameKind, hb]
      rw [← hnext]
      simp [mergeFrom, hu]
    · -- the run ends: it is closed, and `u` opens the next one
      have hb : (t.1 == u.1) = false := beq_false_of_ne (Ne.symm hu)
      have hnext := ih u [] ((t :: g).reverse :: gs) u.2 (by simp [runToken])
      simp only [List.splitBy.loop, sameKind, hb] at hnext ⊢
      rw [← hnext]
      simp [mergeFrom, hu, hv]

theorem mergeFrom_eq_runs (ts : Stream) :
    mergeFrom none ts = (ts.splitBy sameKind).map runToken := by
  cases ts with
  | nil => rfl
  | cons t ts =>
    have h := mergeFrom_loop ts t [] [] t.2 (by simp [runToken])
    simpa [List.splitBy, mergeFrom] using h

theorem mergeFrom_head (l : Stream) :
    ∀ (k : TokenKind) (v : String), ∃ v' rest, mergeFrom (some (k, v)) l = (k, v') :: rest := by
  induction l with
  | nil => intro k v; exact ⟨v, [], rfl⟩
  | cons u l ih =>
    intro k v
    by_cases hu : u.1 = k
    · simpa [mergeFrom, hu] using ih k (v ++ u.2)
    · exact ⟨v, mergeFrom (some u) l, by simp [mergeFrom, hu]⟩

theorem isChain_mergeFrom (l : Stream) :
    ∀ held, (mergeFrom held l).IsChain fun a b => a.1 ≠ b.1 := by
  induction l with
  | nil => intro held; cases held <;> simp [mergeFrom]
  | cons u l ih =>
    rintro (_ | ⟨k, v⟩)
    · exact ih (some u)
    · by_cases hu : u.1 = k
      · simpa [mergeFrom, hu] using ih (some (k, v ++ u.2))
      · obtain ⟨v', rest, hrest⟩ := mergeFrom_head l u.1 u.2
        have hchain := ih (some u)
        simp only [mergeFrom, hu, if_false]
        rw [hrest] at hchain ⊢
        exact List.isChain_cons_cons.mpr ⟨Ne.symm hu, hchain⟩

theorem mergeFrom_of_isChain (l : Stream) :
    ∀ t : TokenKind × String, (t :: l).IsChain (fun a b => a.1 ≠ b.1) →
      mergeFrom (some t) l = t :: l := by
  induction l with
  | nil => intro t _; rfl
  | cons u l ih =>
    intro t h
    obtain ⟨htu, hrest⟩ := List.isChain_cons_cons.mp h
    simp [mergeFrom, Ne.symm htu, ih u hrest]

theorem text_runToken (run : Stream) : (runToken run).2.toList = Stream.text run := by
  simp [runToken, Stream.text, String.toList_join, List.flatMap_def, Function.comp_def]

theorem text_map_runToken (runs : List Stream) :
    Stream.text (runs.map runToken) = Stream.text runs.flatten := by
  induction runs with
  | nil => rfl
  | cons run runs ih =>
    rw [List.map_cons, Stream.text_cons, text_runToken, ih, List.flatten_cons, Stream.text_append]

/-- The filter merges each maximal run of tokens of one kind into one token of that kind whose
text is the run's texts one after another; so it keeps the text, no two neighbours of its output
share a kind, and a second pass changes nothing. -/
theorem tokenMerge_groups_runs (ts : Stream) :
    Filter.tokenMerge.apply ts = (ts.splitBy sameKind).map runToken ∧
      Stream.text (Filter.tokenMerge.apply ts) = Stream.text ts ∧
      (Filter.tokenMerge.apply ts).IsChain (fun a b => a.1 ≠ b.1) ∧
      Filter.tokenMerge.apply (Filter.tokenMerge.apply ts) = Filter.tokenMerge.apply ts := by
  have hruns : Filter.tokenMerge.apply ts = (ts.splitBy sameKind).map runToken :=
    mergeFrom_eq_runs ts
  have hchain : (Filter.tokenMerge.apply ts).IsChain (fun a b => a.1 ≠ b.1) :=
    isChain_mergeFrom ts none
  refine ⟨hruns, ?_, hchain, ?_⟩
  · -- the runs, run together, are the stream
    rw [hruns, text_map_runToken, List.flatten_splitBy]
  · -- the output is its own run grouping
    generalize hout : Filter.tokenMerge.apply ts = out at hchain ⊢
    cases out with
    | nil => rfl
    | cons t l => exact mergeFrom_of_isChain l t hchain

example : Filter.tokenMerge.apply
    [(TokenKind.name, "a"), (TokenKind.name, ""), (TokenKind.text, " "), (TokenKind.name, "b")] =
    [(TokenKind.name, "a"), (TokenKind.text, " "), (TokenKind.name, "b")] := by
  decide

end Highlight.Filters
