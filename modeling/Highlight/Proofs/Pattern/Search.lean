import Highlight.Pattern.Match

/-!
# A match runs forward

The search of `Compiled.matchAt` keeps a thread and a stack of choices to come back to. No
thread and no choice ever stands before the position the search started from: a step moves
its thread forward or leaves it where it is, a choice is made at the position of the thread
that makes it, a repetition that gives characters back gives back no more than it took, and
a look-behind runs on its own and hands back only its spans (`search_after`). So a match
starts where it is asked to and ends at or after that place (`Compiled.matchAt_start`,
`Compiled.matchAt_le`). In the same way no thread passes the stop: a character is read only
before it, and a repetition or a back reference counts only the characters there
(`search_before`); so a match ends at or before the stop (`Compiled.matchAt_stop_le`).

The equations `search_seq`, `search_group`, `search_alt` and the others take one step of
the search for one kind of goal. With them a proof runs a fixed pattern over a text of which
it knows only the first characters, without unfolding the search as a whole.
-/

set_option autoImplicit false

namespace Highlight.Pattern

/-! ## Choices that lie after a position -/

/-- The place a choice comes back to lies at or after `p`. -/
def Choice.After (p : Nat) : Choice → Prop
  | .thread t => p ≤ t.pos
  | .branches _ pos _ _ => p ≤ pos
  | .fewer _ _ start _ _ _ => p ≤ start
  | .more _ _ pos _ _ _ => p ≤ pos

theorem Choice.after_cons {p : Nat} {c : Choice} {cs : List Choice} (hc : c.After p)
    (hcs : ∀ c ∈ cs, c.After p) : ∀ c' ∈ c :: cs, c'.After p := by
  intro c' hc'
  rcases List.mem_cons.mp hc' with rfl | hc'
  · exact hc
  · exact hcs c' hc'

theorem resume_after {s : Subject} {p : Nat} :
    ∀ {cs : List Choice} {t : Thread} {cs' : List Choice},
      (∀ c ∈ cs, c.After p) → resume s cs = some (t, cs') →
        p ≤ t.pos ∧ ∀ c ∈ cs', c.After p
  | [], _, _, _, h => by simp [resume] at h
  | c :: rest, t, cs', hcs, h => by
    have hc : c.After p := hcs c (List.mem_cons_self ..)
    have hrest : ∀ c ∈ rest, c.After p := fun c hc => hcs c (List.mem_cons_of_mem _ hc)
    cases c with
    | thread t₀ =>
      simp only [resume, Option.some.injEq, Prod.mk.injEq] at h
      obtain ⟨rfl, rfl⟩ := h
      exact ⟨hc, hrest⟩
    | branches alts pos spans goals =>
      cases alts with
      | nil => exact resume_after hrest h
      | cons b bs =>
        simp only [resume, Option.some.injEq, Prod.mk.injEq] at h
        obtain ⟨rfl, rfl⟩ := h
        refine ⟨hc, ?_⟩
        split
        · exact hrest
        · exact Choice.after_cons (c := .branches bs pos spans goals) hc hrest
    | fewer item min start count spans goals =>
      simp only [resume] at h
      split at h
      · simp only [Option.some.injEq, Prod.mk.injEq] at h
        obtain ⟨rfl, rfl⟩ := h
        refine ⟨Nat.le_add_right_of_le hc, ?_⟩
        split
        · exact Choice.after_cons (c := .fewer item min start (count - 1) spans goals) hc hrest
        · exact hrest
      · exact resume_after hrest h
    | more item max pos count spans goals =>
      simp only [resume] at h
      split at h
      · simp only [Option.some.injEq, Prod.mk.injEq] at h
        obtain ⟨rfl, rfl⟩ := h
        have hc' : p ≤ pos + 1 := Nat.le_add_right_of_le hc
        exact ⟨hc', Choice.after_cons (c := .more item max (pos + 1) (count + 1) spans goals) hc' hrest⟩
      · exact resume_after hrest h

/-! ## The search never goes back before its start -/

/-- A search from a thread and choices that all lie after `p` ends, if it matches, after
`p`. The induction is on the fuel, one step of the search at a time. -/
theorem search_after {s : Subject} :
    ∀ (fuel : Nat) {p : Nat} {t : Thread} {cs : List Choice} {e : Nat} {sp : Spans},
      p ≤ t.pos → (∀ c ∈ cs, c.After p) → search s fuel t cs = .matched e sp → p ≤ e := by
  intro fuel
  induction fuel with
  | zero => intro p t cs e sp _ _ h; simp [search] at h
  | succ fuel ih =>
    intro p t cs e sp hp hcs h
    -- coming back to a choice resumes a thread that lies after `p`; a thread whose goal is
    -- an empty alternative does just that, so its search stands for every way back
    have back : ∀ {e sp}, search s (fuel + 1) ⟨p, #[], [.node (.alt [])]⟩ cs = .matched e sp →
        p ≤ e := by
      intro e sp hb
      simp only [search] at hb
      split at hb
      · cases hb
      · rename_i t' cs' hr
        exact ih (resume_after hcs hr).1 (resume_after hcs hr).2 hb
    -- a run of its own from `q` ends at or after `q`
    have own : ∀ {q : Nat} {sp₀ : Spans} {gs : List Goal} {e' sp'},
        search s fuel ⟨q, sp₀, gs⟩ [] = .matched e' sp' → q ≤ e' := fun h' =>
      ih (Nat.le_refl _) (by simp) h'
    obtain ⟨pos, spans, goals⟩ := t
    simp only [search] at h
    simp only at hp
    split at h
    · -- all goals met
      cases h; exact hp
    · -- a group closes
      exact ih hp hcs h
    · -- a repetition goes on or stops
      split at h
      · exact ih hp hcs h
      · split at h
        · refine ih hp ?_ h
          split
          · exact Choice.after_cons (c := .thread ⟨pos, _, _⟩) hp hcs
          · exact hcs
        · split at h
          · exact ih hp (Choice.after_cons (c := .thread ⟨pos, _, _⟩) hp hcs) h
          · exact ih hp hcs h
    · -- a node
      rename_i _ n rest
      cases n with
      | empty => exact ih hp hcs h
      | char c fold =>
        simp only at h
        split at h
        · exact ih (Nat.le_add_right_of_le hp) hcs h
        · exact back h
      | set cls fold =>
        simp only at h
        split at h
        · exact ih (Nat.le_add_right_of_le hp) hcs h
        · exact back h
      | any dotAll =>
        simp only at h
        split at h
        · exact ih (Nat.le_add_right_of_le hp) hcs h
        · exact back h
      | seq items => exact ih hp hcs h
      | alt branches =>
        cases branches with
        | nil => exact back h
        | cons b bs =>
          simp only at h
          refine ih hp ?_ h
          split
          · exact hcs
          · exact Choice.after_cons (c := .branches bs pos _ _) hp hcs
      | group index body => exact ih hp hcs h
      | many min max greed body =>
        simp only at h
        split at h
        · -- a body of one character
          split at h
          · -- lazy: the fewest first
            split at h
            · exact back h
            · exact ih (Nat.le_add_right_of_le hp)
                (Choice.after_cons (c := .more body max (pos + min) min spans rest)
                  (Nat.le_add_right_of_le hp) hcs) h
          · -- greedy or possessive: the most first
            split at h
            · exact back h
            · refine ih (Nat.le_add_right_of_le hp) ?_ h
              split
              · exact Choice.after_cons (c := .fewer body min pos _ spans rest) hp hcs
              · exact hcs
        · -- any other body
          split at h
          · -- possessive: a run of its own, then the rest from where it ended
            split at h
            · rename_i p' sp' hrun
              exact ih (Nat.le_trans hp (own hrun)) hcs h
            · exact back h
            · cases h
          · exact ih hp hcs h
          · exact ih hp hcs h
      | backref index fold =>
        simp only at h
        split at h
        · split at h
          · exact ih (Nat.le_add_right_of_le hp) hcs h
          · exact back h
        · exact back h
      | look behind negated width body =>
        simp only at h
        split at h
        · -- a look-behind wider than the text before
          split at h
          · exact ih hp hcs h
          · exact back h
        · -- the look runs on its own; the rest goes on from `pos`
          split at h
          · split at h
            · exact back h
            · exact ih hp hcs h
          · split at h
            · exact ih hp hcs h
            · exact back h
          · cases h
      | atomic body =>
        simp only at h
        split at h
        · rename_i p' sp' hrun
          exact ih (Nat.le_trans hp (own hrun)) hcs h
        · exact back h
        · cases h
      | cond index yes no => exact ih hp hcs h
      | anchor a =>
        simp only at h
        split at h
        · exact ih hp hcs h
        · exact back h

/-! ## The search never reads past its stop -/

/-- The place a choice comes back to lies at or before `q`. -/
def Choice.Before (q : Nat) : Choice → Prop
  | .thread t => t.pos ≤ q
  | .branches _ pos _ _ => pos ≤ q
  | .fewer _ _ start count _ _ => start + count ≤ q
  | .more _ _ pos _ _ _ => pos ≤ q

theorem Choice.before_cons {q : Nat} {c : Choice} {cs : List Choice} (hc : c.Before q)
    (hcs : ∀ c ∈ cs, c.Before q) : ∀ c' ∈ c :: cs, c'.Before q := by
  intro c' hc'
  rcases List.mem_cons.mp hc' with rfl | hc'
  · exact hc
  · exact hcs c' hc'

namespace Subject

theorem lt_stop_of_single {s : Subject} {n : Node} {i : Nat} (h : s.single? n i = some true) :
    i < s.stop := by
  have hat : (s.at? i).isSome → i < s.stop := by
    simp only [at?]
    split <;> simp_all
  apply hat
  unfold single? at h
  split at h
  · cases hd : s.at? i <;> simp_all
  · cases hd : s.at? i <;> simp_all
  · cases hd : s.at? i <;> simp_all
  · -- a sequence of one one-character node
    split at h
    · simp only [single?] at h; cases hd : s.at? i <;> simp_all
    · simp only [single?] at h; cases hd : s.at? i <;> simp_all
    · simp only [single?] at h; cases hd : s.at? i <;> simp_all
    · cases h
  · cases h

theorem countSingles_le (s : Subject) (n : Node) : ∀ (i limit : Nat),
    s.countSingles n i limit ≤ s.stop - i
  | _, 0 => Nat.zero_le _
  | i, limit + 1 => by
    simp only [countSingles]
    split
    · rename_i hs
      have hlt := lt_stop_of_single (by simpa using hs)
      have := countSingles_le s n (i + 1) limit
      omega
    · exact Nat.zero_le _

end Subject

theorem resume_before {s : Subject} :
    ∀ {cs : List Choice} {t : Thread} {cs' : List Choice},
      (∀ c ∈ cs, c.Before s.stop) → resume s cs = some (t, cs') →
        t.pos ≤ s.stop ∧ ∀ c ∈ cs', c.Before s.stop
  | [], _, _, _, h => by simp [resume] at h
  | c :: rest, t, cs', hcs, h => by
    have hc : c.Before s.stop := hcs c (List.mem_cons_self ..)
    have hrest : ∀ c ∈ rest, c.Before s.stop := fun c hc => hcs c (List.mem_cons_of_mem _ hc)
    cases c with
    | thread t₀ =>
      simp only [resume, Option.some.injEq, Prod.mk.injEq] at h
      obtain ⟨rfl, rfl⟩ := h
      exact ⟨hc, hrest⟩
    | branches alts pos spans goals =>
      cases alts with
      | nil => exact resume_before hrest h
      | cons b bs =>
        simp only [resume, Option.some.injEq, Prod.mk.injEq] at h
        obtain ⟨rfl, rfl⟩ := h
        refine ⟨hc, ?_⟩
        split
        · exact hrest
        · exact Choice.before_cons (c := .branches bs pos spans goals) hc hrest
    | fewer item min start count spans goals =>
      simp only [resume] at h
      split at h
      · simp only [Option.some.injEq, Prod.mk.injEq] at h
        obtain ⟨rfl, rfl⟩ := h
        have hc' : start + (count - 1) ≤ s.stop := by simp only [Choice.Before] at hc; omega
        refine ⟨hc', ?_⟩
        split
        · exact Choice.before_cons (c := .fewer item min start (count - 1) spans goals) hc' hrest
        · exact hrest
      · exact resume_before hrest h
    | more item max pos count spans goals =>
      simp only [resume] at h
      split at h
      · rename_i hmore
        simp only [Option.some.injEq, Prod.mk.injEq] at h
        obtain ⟨rfl, rfl⟩ := h
        have hlt : pos < s.stop := Subject.lt_stop_of_single (n := item) (by simp_all)
        exact ⟨hlt, Choice.before_cons (c := .more item max (pos + 1) (count + 1) spans goals) hlt hrest⟩
      · exact resume_before hrest h

/-- A search from a thread and choices that all lie before the stop ends, if it matches,
before the stop. The induction is on the fuel, one step of the search at a time. -/
theorem search_before {s : Subject} :
    ∀ (fuel : Nat) {t : Thread} {cs : List Choice} {e : Nat} {sp : Spans},
      t.pos ≤ s.stop → (∀ c ∈ cs, c.Before s.stop) → search s fuel t cs = .matched e sp →
        e ≤ s.stop := by
  intro fuel
  induction fuel with
  | zero => intro t cs e sp _ _ h; simp [search] at h
  | succ fuel ih =>
    intro t cs e sp hp hcs h
    -- coming back to a choice resumes a thread before the stop; a thread whose goal is an
    -- empty alternative does just that, so its search stands for every way back
    have back : ∀ {e sp}, search s (fuel + 1) ⟨0, #[], [.node (.alt [])]⟩ cs = .matched e sp →
        e ≤ s.stop := by
      intro e sp hb
      simp only [search] at hb
      split at hb
      · cases hb
      · rename_i t' cs' hr
        exact ih (resume_before hcs hr).1 (resume_before hcs hr).2 hb
    -- a run of its own from a place before the stop ends before the stop
    have own : ∀ {q : Nat} {sp₀ : Spans} {gs : List Goal} {e' sp'}, q ≤ s.stop →
        search s fuel ⟨q, sp₀, gs⟩ [] = .matched e' sp' → e' ≤ s.stop := fun hq h' =>
      ih hq (by simp) h'
    obtain ⟨pos, spans, goals⟩ := t
    simp only [search] at h
    simp only at hp
    split at h
    · -- all goals met
      cases h; exact hp
    · -- a group closes
      exact ih hp hcs h
    · -- a repetition goes on or stops
      split at h
      · exact ih hp hcs h
      · split at h
        · refine ih hp ?_ h
          split
          · exact Choice.before_cons (c := .thread ⟨pos, _, _⟩) hp hcs
          · exact hcs
        · split at h
          · exact ih hp (Choice.before_cons (c := .thread ⟨pos, _, _⟩) hp hcs) h
          · exact ih hp hcs h
    · -- a node
      rename_i _ n rest
      cases n with
      | empty => exact ih hp hcs h
      | char c fold =>
        simp only at h
        split at h
        · rename_i hs
          exact ih (Subject.lt_stop_of_single (by simpa using hs)) hcs h
        · exact back h
      | set cls fold =>
        simp only at h
        split at h
        · rename_i hs
          exact ih (Subject.lt_stop_of_single (by simpa using hs)) hcs h
        · exact back h
      | any dotAll =>
        simp only at h
        split at h
        · rename_i hs
          exact ih (Subject.lt_stop_of_single (by simpa using hs)) hcs h
        · exact back h
      | seq items => exact ih hp hcs h
      | alt branches =>
        cases branches with
        | nil => exact back h
        | cons b bs =>
          simp only at h
          refine ih hp ?_ h
          split
          · exact hcs
          · exact Choice.before_cons (c := .branches bs pos _ _) hp hcs
      | group index body => exact ih hp hcs h
      | many min max greed body =>
        simp only at h
        split at h
        · -- a body of one character: the count it takes stays before the stop
          split at h
          · -- lazy: the fewest first
            split at h
            · exact back h
            · rename_i hgot
              have hle := Subject.countSingles_le s body pos min
              have hmin : pos + min ≤ s.stop := by omega
              exact ih hmin (Choice.before_cons (c := .more body max (pos + min) min spans rest)
                hmin hcs) h
          · -- greedy or possessive: the most first
            split at h
            · exact back h
            · have hle := Subject.countSingles_le s body pos
                ((max.getD (s.stop - pos)).min (s.stop - pos))
              have hgot : pos + s.countSingles body pos
                  ((max.getD (s.stop - pos)).min (s.stop - pos)) ≤ s.stop := by omega
              refine ih hgot ?_ h
              split
              · exact Choice.before_cons (c := .fewer body min pos _ spans rest) hgot hcs
              · exact hcs
        · -- any other body
          split at h
          · -- possessive: a run of its own, then the rest from where it ended
            split at h
            · rename_i p' sp' hrun
              exact ih (own hp hrun) hcs h
            · exact back h
            · cases h
          · exact ih hp hcs h
          · exact ih hp hcs h
      | backref index fold =>
        simp only at h
        split at h
        · split at h
          · rename_i a b _ hrep
            have hlen : (b - a) + pos ≤ s.stop := by
              simp only [Subject.repeatsAt, Bool.and_eq_true, decide_eq_true_eq] at hrep
              exact hrep.1
            exact ih (show pos + (b - a) ≤ s.stop by omega) hcs h
          · exact back h
        · exact back h
      | look behind negated width body =>
        simp only at h
        split at h
        · -- a look-behind wider than the text before
          split at h
          · exact ih hp hcs h
          · exact back h
        · -- the look runs on its own; the rest goes on from `pos`
          split at h
          · split at h
            · exact back h
            · exact ih hp hcs h
          · split at h
            · exact ih hp hcs h
            · exact back h
          · cases h
      | atomic body =>
        simp only at h
        split at h
        · rename_i p' sp' hrun
          exact ih (own hp hrun) hcs h
        · exact back h
        · cases h
      | cond index yes no => exact ih hp hcs h
      | anchor a =>
        simp only at h
        split at h
        · exact ih hp hcs h
        · exact back h

namespace Compiled

variable {c : Compiled} {text : Array Char} {pos stop : Nat} {m : Found}

theorem matchAt_start (h : c.matchAt text pos stop = some m) : m.start = pos := by
  simp only [matchAt] at h
  split at h
  · cases h; rfl
  · cases h

theorem matchAt_le (h : c.matchAt text pos stop = some m) : m.start ≤ m.stop := by
  simp only [matchAt] at h
  split at h
  · rename_i e sp hrun
    cases h
    exact search_after matchFuel (Nat.le_refl _) (by simp) hrun
  · cases h

theorem matchAt_stop_le (hpos : pos ≤ stop) (h : c.matchAt text pos stop = some m) :
    m.stop ≤ stop := by
  simp only [matchAt] at h
  split at h
  · rename_i e sp hrun
    cases h
    exact search_before (s := ⟨text, stop⟩) matchFuel hpos (by simp) hrun
  · cases h

end Compiled

/-! ## One step of the search, by kind of goal -/

section Steps

variable (s : Subject) (f pos : Nat) (sp : Spans) (cs : List Choice) (rest : List Goal)

theorem search_done : search s (f + 1) ⟨pos, sp, []⟩ cs = .matched pos sp := rfl

theorem search_close (i start : Nat) :
    search s (f + 1) ⟨pos, sp, .close i start :: rest⟩ cs =
      search s f ⟨pos, sp.modify i (fun _ => some (start, pos)), rest⟩ cs := rfl

theorem search_seq (items : List Node) :
    search s (f + 1) ⟨pos, sp, .node (.seq items) :: rest⟩ cs =
      search s f ⟨pos, sp, items.map .node ++ rest⟩ cs := rfl

theorem search_group (i : Nat) (body : Node) :
    search s (f + 1) ⟨pos, sp, .node (.group i body) :: rest⟩ cs =
      search s f ⟨pos, sp, .node body :: .close i pos :: rest⟩ cs := rfl

theorem search_alt (b : Node) (bs : List Node) (hbs : bs ≠ []) :
    search s (f + 1) ⟨pos, sp, .node (.alt (b :: bs)) :: rest⟩ cs =
      search s f ⟨pos, sp, .node b :: rest⟩ (.branches bs pos sp rest :: cs) := by
  simp [search, hbs]

theorem search_anchor (a : Anchor) (h : s.anchorHolds a pos = true) :
    search s (f + 1) ⟨pos, sp, .node (.anchor a) :: rest⟩ cs = search s f ⟨pos, sp, rest⟩ cs := by
  simp [search, h]

theorem search_char (c : Char) (fold : Bool) (h : s.single? (.char c fold) pos = some true) :
    search s (f + 1) ⟨pos, sp, .node (.char c fold) :: rest⟩ cs =
      search s f ⟨pos + 1, sp, rest⟩ cs := by
  simp [search, h]

theorem search_char_fails (c : Char) (fold : Bool) (h : s.single? (.char c fold) pos ≠ some true) :
    search s (f + 1) ⟨pos, sp, .node (.char c fold) :: rest⟩ [] = .failed := by
  simp [search, h, resume]

theorem search_many_single (min : Nat) (max : Option Nat) (body : Node)
    (hb : Subject.isSingle body = true)
    (hmin : min ≤ s.countSingles body pos ((max.getD (s.stop - pos)).min (s.stop - pos))) :
    search s (f + 1) ⟨pos, sp, .node (.many min max .greedy body) :: rest⟩ cs =
      let got := s.countSingles body pos ((max.getD (s.stop - pos)).min (s.stop - pos))
      search s f ⟨pos + got, sp, rest⟩
        (if got > min then .fewer body min pos got sp rest :: cs else cs) := by
  have hg : (Greed.greedy == Greed.greedy) = true := rfl
  simp [search, hb, Nat.not_lt.mpr hmin, hg]

end Steps

end Highlight.Pattern
