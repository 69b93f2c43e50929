import Highlight.Filters
import Highlight.Proofs.Format.HtmlLines

/-!
# Gobbling works column by column

The gobble filter drops the first `n` characters of every line of a stream, with a counter of
what is still to drop that it carries from token to token. The main result,
`gobble_drops_line_starts`, says what it gives out for every `n ≥ 0` and every stream, without
the counter: each token keeps exactly its characters that stand at column `n` or later of the
whole text, and its line feeds (`cutTokens`); the tokens left empty are dropped and no other;
so the text given out is every line of the text with its first `n` characters dropped.

The column a character stands at depends on the tokens before it (`endColumn`), and the
characters kept follow from it one by one (`keepPast`). The counter is always `n` less the
column, cut at zero: `gobbleToken_eq` proves that one token keeps this invariant, from the
pieces of its text between line feeds (`gobblePieces_eq`), and `gobbleRun_eq` carries it over
the stream.
-/

set_option autoImplicit false

namespace Highlight.Filters

open Highlight.Html (newline_not_mem_splitOn)

/-! ## Columns -/

/-- The column after a text that starts at column `col`: how many characters follow its last
line feed, or `col` and its length when it has none. -/
def endColumn : Nat → List Char → Nat
  | col, [] => col
  | col, c :: s => endColumn (if c = '\n' then 0 else col + 1) s

/-- The characters of a text starting at column `col` that stand at column `n` or later, and
its line feeds. -/
def keepPast (n : Nat) : Nat → List Char → List Char
  | _, [] => []
  | col, c :: s =>
    if c = '\n' then '\n' :: keepPast n 0 s
    else if n ≤ col then c :: keepPast n (col + 1) s
    else keepPast n (col + 1) s

/-- Each token of a stream starting at column `col`, holding what `keepPast` keeps of its text. -/
def cutTokens (n : Nat) : Nat → Stream → Stream
  | _, [] => []
  | col, (k, v) :: ts =>
    (k, String.ofList (keepPast n col v.toList)) :: cutTokens n (endColumn col v.toList) ts

variable {n : Nat}

theorem keepPast_append (col : Nat) (a b : List Char) :
    keepPast n col (a ++ b) = keepPast n col a ++ keepPast n (endColumn col a) b := by
  induction a generalizing col with
  | nil => rfl
  | cons c a ih =>
    by_cases hc : c = '\n'
    · simp [keepPast, endColumn, hc, ih]
    · by_cases hn : n ≤ col <;> simp [keepPast, endColumn, hc, hn, ih]

theorem endColumn_append (col : Nat) (a b : List Char) :
    endColumn col (a ++ b) = endColumn (endColumn col a) b := by
  induction a generalizing col with
  | nil => rfl
  | cons c a ih => exact ih _

theorem keepPast_of_line {s : List Char} (hs : '\n' ∉ s) (col : Nat) :
    keepPast n col s = s.drop (n - col) := by
  induction s generalizing col with
  | nil => simp [keepPast]
  | cons c s ih =>
    have hc : c ≠ '\n' := fun h => hs (h ▸ List.mem_cons_self)
    have ih := ih (fun h => hs (List.mem_cons_of_mem c h)) (col + 1)
    by_cases hn : n ≤ col
    · have h0 : n - col = 0 := by omega
      have h1 : n - (col + 1) = 0 := by omega
      simp [keepPast, hc, hn, ih, h0, h1]
    · have h1 : n - col = n - (col + 1) + 1 := by omega
      simp [keepPast, hc, hn, ih, h1]

theorem endColumn_of_line {s : List Char} (hs : '\n' ∉ s) (col : Nat) :
    endColumn col s = col + s.length := by
  induction s generalizing col with
  | nil => rfl
  | cons c s ih =>
    have hc : c ≠ '\n' := fun h => hs (h ▸ List.mem_cons_self)
    simp only [endColumn, hc, if_false, List.length_cons]
    rw [ih (fun h => hs (List.mem_cons_of_mem c h))]
    omega

/-! ## The counter of characters still to drop -/

/-- On a piece of a line starting at column `col`, with `n - col` still to drop, `gobble` keeps
what `keepPast` keeps and leaves `n` less the column after it. -/
theorem gobble_line {s : List Char} (hs : '\n' ∉ s) (col : Nat) :
    gobble s ((n - col : Nat) : Int) = (keepPast n col s, ((n - endColumn col s : Nat) : Int)) := by
  rw [keepPast_of_line hs, endColumn_of_line hs]
  unfold gobble sliceFrom
  by_cases hlt : n - col < s.length
  · have hz : n - (col + s.length) = 0 := by omega
    simp [hz, show ((n - col : Nat) : Int) < s.length by omega]
  · have hd : s.drop (n - col) = [] := List.drop_eq_nil_of_le (by omega)
    simp only [show ¬((n - col : Nat) : Int) < s.length by omega, if_false, hd]
    congr 1
    omega

theorem gobbleLines_fst {rest : List (List Char)} (hrest : ∀ x ∈ rest, '\n' ∉ x) (l : Int) :
    (gobbleLines (n : Int) rest l).1 = rest.map (List.drop n) := by
  induction rest generalizing l with
  | nil => rfl
  | cons q qs ih =>
    have hq : '\n' ∉ q := hrest q List.mem_cons_self
    have h := gobble_line (n := n) hq 0
    simp only [Nat.sub_zero] at h
    simp [gobbleLines, h, keepPast_of_line hq, ih (fun x hx => hrest x (List.mem_cons_of_mem q hx))]

/-- A token's text cut into its lines: the first loses what is still to drop, the others `n`;
joined again, that is what `keepPast` keeps, and the counter after the last is `n` less the
column after the text. -/
theorem gobblePieces_eq (rest : List (List Char)) (hrest : ∀ x ∈ rest, '\n' ∉ x) :
    ∀ (first : List Char), '\n' ∉ first → ∀ col : Nat,
      gobblePieces n ((n - col : Nat) : Int) first rest =
        (keepPast n col (['\n'].intercalate (first :: rest)),
          ((n - endColumn col (['\n'].intercalate (first :: rest)) : Nat) : Int)) := by
  induction rest with
  | nil =>
    intro first hfirst col
    simp [gobblePieces, gobble_line hfirst, gobbleLines]
  | cons q qs ih =>
    intro first hfirst col
    have hq : '\n' ∉ q := hrest q List.mem_cons_self
    -- the lines from the second on are the pieces of a text that starts at column 0
    have ih := ih (fun x hx => hrest x (List.mem_cons_of_mem q hx)) q hq 0
    simp only [Nat.sub_zero, gobblePieces] at ih
    obtain ⟨hk, he⟩ := Prod.mk.inj ih
    simp only [gobblePieces, gobble_line hfirst, gobbleLines, List.intercalate_cons_cons,
      keepPast_append, endColumn_append, hk, he]
    simp [keepPast, endColumn]

theorem gobbleToken_eq (col : Nat) (v : List Char) :
    gobbleToken n ((n - col : Nat) : Int) v =
      (keepPast n col v, ((n - endColumn col v : Nat) : Int)) := by
  have hsplit := newline_not_mem_splitOn v
  obtain ⟨first, rest, hfr⟩ := List.exists_cons_of_ne_nil (List.splitOn_ne_nil '\n' v)
  have hv : ['\n'].intercalate (first :: rest) = v := by rw [← hfr, List.intercalate_splitOn]
  have key := gobblePieces_eq (n := n) rest
    (fun x hx => hsplit x (hfr ▸ List.mem_cons_of_mem first hx))
    first (hsplit first (hfr ▸ List.mem_cons_self)) col
  rw [hv] at key
  simp only [gobbleToken, hfr, key]

theorem gobbleRun_eq (col : Nat) (ts : Stream) :
    gobbleRun n ((n - col : Nat) : Int) ts = (cutTokens n col ts).filter (·.2 != "") := by
  induction ts generalizing col with
  | nil => rfl
  | cons t ts ih =>
    obtain ⟨k, v⟩ := t
    have hnext := ih (endColumn col v.toList)
    by_cases he : keepPast n col v.toList = []
    · simp [gobbleRun, gobbleToken_eq, cutTokens, he, hnext]
    · have hs : String.ofList (keepPast n col v.toList) ≠ "" := by
        simpa [String.ofList_eq_empty_iff] using he
      simp [gobbleRun, gobbleToken_eq, cutTokens, he, hs, hnext]

/-! ## The text and the kinds -/

theorem text_cutTokens (col : Nat) (ts : Stream) :
    Stream.text (cutTokens n col ts) = keepPast n col (Stream.text ts) := by
  induction ts generalizing col with
  | nil => rfl
  | cons t ts ih =>
    simp only [cutTokens, Stream.text, List.map_cons, List.flatten_cons, String.toList_ofList,
      keepPast_append] at ih ⊢
    rw [ih]

theorem text_filter_nonempty (ts : Stream) :
    Stream.text (ts.filter (·.2 != "")) = Stream.text ts := by
  induction ts with
  | nil => rfl
  | cons t ts ih =>
    by_cases ht : t.2 = ""
    · simp [Stream.text, ht] at ih ⊢
      exact ih
    · simp [Stream.text, ht] at ih ⊢
      exact ih

theorem kinds_cutTokens (col : Nat) (ts : Stream) :
    (cutTokens n col ts).map Prod.fst = ts.map Prod.fst := by
  induction ts generalizing col with
  | nil => rfl
  | cons t ts ih => simp [cutTokens, ih]

theorem keepPast_lines (S : List Char) :
    keepPast n 0 S = ['\n'].intercalate ((S.splitOn '\n').map (List.drop n)) := by
  have hsplit := newline_not_mem_splitOn S
  have hk : keepPast n 0 S = (gobbleToken n n S).1 := by
    simpa using congrArg Prod.fst (gobbleToken_eq (n := n) 0 S).symm
  obtain ⟨first, rest, hfr⟩ := List.exists_cons_of_ne_nil (List.splitOn_ne_nil '\n' S)
  have hfirst : '\n' ∉ first := hsplit first (hfr ▸ List.mem_cons_self)
  have hfirst' := gobble_line (n := n) hfirst 0
  simp only [Nat.sub_zero] at hfirst'
  rw [hk, hfr]
  simp [gobbleToken, hfr, gobblePieces, hfirst', keepPast_of_line hfirst,
    gobbleLines_fst (fun x hx => hsplit x (hfr ▸ List.mem_cons_of_mem first hx))]

/-! ## The filter -/

/-- For every `n ≥ 0` and every stream, the gobble filter gives out each token with the
characters of its text that stand at column `n` or later of the whole text and its line feeds,
in order and with its kind, leaving out exactly the tokens this leaves empty; the text given out
is every line of the text with its first `n` characters dropped. -/
theorem gobble_drops_line_starts (n : Nat) (ts : Stream) :
    (Filter.gobble n).apply ts = (cutTokens n 0 ts).filter (·.2 != "") ∧
      (cutTokens n 0 ts).map Prod.fst = ts.map Prod.fst ∧
      Stream.text ((Filter.gobble n).apply ts) =
        ['\n'].intercalate ((Stream.text ts).splitOn '\n' |>.map (List.drop n)) := by
  have hrun : (Filter.gobble n).apply ts = (cutTokens n 0 ts).filter (·.2 != "") := by
    simpa [Filter.apply] using gobbleRun_eq (n := n) 0 ts
  refine ⟨hrun, kinds_cutTokens 0 ts, ?_⟩
  rw [hrun, text_filter_nonempty, text_cutTokens, keepPast_lines]

/-- A line spread over two tokens loses its first two characters from the first; the token left
holding only a line feed stays. -/
example : (Filter.gobble 2).apply [(TokenKind.root, " a\n  b"), (TokenKind.whitespace, "c")] =
    [(TokenKind.root, "\nb"), (TokenKind.whitespace, "c")] := by decide

end Highlight.Filters
