import Mathlib.Data.List.TakeDrop
import Highlight.Proofs.Format.QuotedLiterals
import Highlight.Format.RawTokens
import Highlight.Lexers.RawTokens

/-!
# The raw token format read back

The raw token format is ASCII throughout, and reading a non-empty token stream back from it
gives the kinds and texts written exactly when the names of the kinds are ASCII
(`write_read_back_iff`), for every stream of kinds that dotted names build (`Buildable`).

Every text comes back. It is written as a quoted literal, which reads back as itself
(`Literal.read_quote`) and holds no line feed, so each token is one line of its own
(`newlineLines_write`) and the framing of the text to lex changes nothing (`framed_write`).

Names do not always come back. A name is written with each character past ASCII as a
hexadecimal escape (`writtenName`) and read as it is written (`readKind_kindName`). A name
that starts with such a character starts with a backslash, which is not upper case, so its
line is read as an error token; any other is read as a kind whose name holds the escape, a
longer name than the one written.
-/

set_option autoImplicit false

namespace Highlight

theorem TokenKind.attr_eq_child {kind : TokenKind} {part : String}
    (h : kind.path ≠ [] ∨ (part ≠ "Token" ∧ part ≠ "String" ∧ part ≠ "Number")) :
    kind.attr part = kind.child part := by
  unfold TokenKind.attr
  rcases h with below | ⟨notToken, notString, notNumber⟩
  · simp [below]
  · simp [notToken, notString, notNumber]

namespace RawTokens

open Literal

/-! ## Names as they are written -/

/-- A kind that dotted names build: each of its names starts with an upper-case character
and holds no dot, tab or line feed, and its first name is not `Token`, `String` or `Number`,
which from the root name the root and the two literal kinds. -/
structure Buildable (k : TokenKind) : Prop where
  upper : ∀ part ∈ k.path, startsUpper part.toList = true
  plain : ∀ part ∈ k.path, '.' ∉ part.toList ∧ '\t' ∉ part.toList ∧ '\n' ∉ part.toList
  first : ∀ part ∈ k.path.head?, part ≠ "Token" ∧ part ≠ "String" ∧ part ≠ "Number"

/-- Whether the names of a kind are ASCII. -/
def AsciiNames (k : TokenKind) : Prop := ∀ part ∈ k.path, ∀ c ∈ part.toList, c.toNat < 0x80

instance : DecidablePred AsciiNames := fun k =>
  decidable_of_iff (k.path.all fun part => part.toList.all fun c => c.toNat < 0x80)
    (by simp [AsciiNames])

/-- A name as the raw token format writes it. -/
def writtenName (part : String) : List Char := part.toList.flatMap asciiChar

theorem mem_asciiChar {c d : Char} (h : d ∈ asciiChar c) :
    (d = c ∧ c.toNat < 0x80) ∨ (printable d = true ∧ d ≠ '.') := by
  unfold asciiChar at h
  split at h
  · next ascii => exact .inl ⟨List.mem_singleton.mp h, ascii⟩
  · obtain ⟨x, t, shape, hx, ht⟩ := hexEscape_shape c
    rw [shape] at h
    refine .inr ?_
    have escaping : ∀ e ∈ '\\' :: escapeLetters ++ hexChars, (printable e && e != '.') = true :=
      List.all_eq_true.mp (by decide)
    have written : d ∈ '\\' :: escapeLetters ++ hexChars := by
      rcases List.mem_cons.mp h with rfl | h
      · exact List.mem_cons_self
      rcases List.mem_cons.mp h with rfl | h
      · exact List.mem_cons_of_mem _ (List.mem_append_left _ hx)
      · exact List.mem_cons_of_mem _ (List.mem_append_right _ (ht d h))
    simpa using escaping d written

theorem ascii_of_mem_asciiChar {c d : Char} (h : d ∈ asciiChar c) : d.toNat < 0x80 := by
  rcases mem_asciiChar h with ⟨rfl, ascii⟩ | ⟨hp, -⟩
  · exact ascii
  · simp only [printable, Bool.and_eq_true, decide_eq_true_eq] at hp
    omega

theorem flatMap_asciiChar_eq_self_iff (cs : List Char) :
    cs.flatMap asciiChar = cs ↔ ∀ c ∈ cs, c.toNat < 0x80 := by
  induction cs with
  | nil => simp
  | cons c cs ih =>
    by_cases ascii : c.toNat < 0x80
    · simp [asciiChar, ascii, ih]
    · -- an escape starts with a backslash, which is ASCII, so it is not the character
      obtain ⟨x, t, shape, -, -⟩ := hexEscape_shape c
      have escaped : asciiChar c = hexEscape c := if_neg ascii
      simp only [List.flatMap_cons, escaped, shape, List.cons_append, List.cons.injEq,
        List.forall_mem_cons]
      constructor
      · rintro ⟨rfl, -⟩
        exact absurd (by decide) ascii
      · rintro ⟨h, -⟩
        exact absurd h ascii

theorem writtenName_eq_or (part : String) :
    writtenName part = part.toList ∨ '\\' ∈ writtenName part := by
  by_cases ascii : ∀ c ∈ part.toList, c.toNat < 0x80
  · exact .inl ((flatMap_asciiChar_eq_self_iff _).mpr ascii)
  · obtain ⟨c, hc, wide⟩ := not_forall₂.mp ascii
    obtain ⟨x, t, shape, -, -⟩ := hexEscape_shape c
    have escaped : asciiChar c = hexEscape c := if_neg wide
    exact .inr (List.mem_flatMap.mpr ⟨c, hc, by simp [escaped, shape]⟩)

theorem dot_not_mem_writtenName {part : String} (h : '.' ∉ part.toList) :
    '.' ∉ writtenName part := by
  intro hd
  obtain ⟨c, hc, hd⟩ := List.mem_flatMap.mp hd
  rcases mem_asciiChar hd with ⟨rfl, -⟩ | ⟨-, notDot⟩
  · exact h hc
  · exact notDot rfl

theorem dotted_toList (k : TokenKind) :
    k.dotted.toList = "Token".toList ++ k.path.flatMap fun part => '.' :: part.toList := by
  suffices ∀ (init : String) (path : List String),
      (path.foldl (fun acc part => acc ++ "." ++ part) init).toList =
        init.toList ++ path.flatMap fun part => '.' :: part.toList from this "Token" k.path
  intro init path
  induction path generalizing init with
  | nil => simp
  | cons part path ih => simp [ih]

theorem kindName_eq (k : TokenKind) :
    kindName k = "Token".toList ++ k.path.flatMap fun part => '.' :: writtenName part := by
  rw [kindName, dotted_toList, List.flatMap_append, List.flatMap_assoc]
  simp [writtenName, asciiChar]

theorem intercalate_cons_map {x : Char} (f : String → List Char) (first : List Char)
    (rest : List String) :
    [x].intercalate (first :: rest.map f) = first ++ rest.flatMap fun part => x :: f part := by
  induction rest generalizing first with
  | nil => simp
  | cons part rest ih => simp [List.intercalate_cons_cons, ih]

theorem kindName_splitOn {k : TokenKind} (hk : Buildable k) :
    (kindName k).splitOn '.' = "Token".toList :: k.path.map writtenName := by
  rw [kindName_eq, ← intercalate_cons_map]
  apply List.splitOn_intercalate
  · intro part hpart
    rcases List.mem_cons.mp hpart with rfl | hpart
    · decide
    · obtain ⟨name, hname, rfl⟩ := List.mem_map.mp hpart
      exact dot_not_mem_writtenName (hk.plain name hname).1
  · simp

theorem mem_kindName {k : TokenKind} {d : Char} (h : d ∈ kindName k) :
    d.toNat < 0x80 ∧ ((d ∈ "Token".toList ∨ d = '.') ∨ (∃ part ∈ k.path, d ∈ part.toList) ∨
      (printable d = true ∧ d ≠ '.')) := by
  obtain ⟨c, hc, hd⟩ := List.mem_flatMap.mp h
  refine ⟨ascii_of_mem_asciiChar hd, ?_⟩
  rcases mem_asciiChar hd with ⟨rfl, -⟩ | written
  · rw [dotted_toList] at hc
    simp only [List.mem_append, List.mem_flatMap, List.mem_cons] at hc
    rcases hc with token | ⟨part, hpart, rfl | named⟩
    · exact .inl (.inl token)
    · exact .inl (.inr rfl)
    · exact .inr (.inl ⟨part, hpart, named⟩)
  · exact .inr (.inr written)

theorem char_not_mem_kindName {k : TokenKind} {c : Char} (hname : ∀ part ∈ k.path, c ∉ part.toList)
    (hshown : c ∉ "Token".toList ∧ c ≠ '.') (hprint : printable c = false) : c ∉ kindName k := by
  intro h
  rcases (mem_kindName h).2 with token | ⟨part, hpart, named⟩ | ⟨printed, -⟩
  · rcases token with token | dot
    · exact hshown.1 token
    · exact hshown.2 dot
  · exact hname part hpart named
  · rw [hprint] at printed
    exact Bool.false_ne_true printed

theorem tab_not_mem_kindName {k : TokenKind} (hk : Buildable k) : '\t' ∉ kindName k :=
  char_not_mem_kindName (fun part hpart => (hk.plain part hpart).2.1) (by decide) (by decide)

theorem newline_not_mem_kindName {k : TokenKind} (hk : Buildable k) : '\n' ∉ kindName k :=
  char_not_mem_kindName (fun part hpart => (hk.plain part hpart).2.2) (by decide) (by decide)

/-! ## Reading a kind -/

/-- Below a kind other than the root, each part of a dotted name names a kind one step
further down, as long as the parts start with upper-case characters. -/
theorem foldlM_readPart_below (parts : List (List Char)) {k : TokenKind} (hk : k.path ≠ []) :
    parts.foldlM readPart k =
      if ∀ part ∈ parts, startsUpper part = true then
        some ⟨k.path ++ parts.map String.ofList⟩
      else none := by
  induction parts generalizing k with
  | nil => simp
  | cons part parts ih =>
    by_cases upper : startsUpper part = true
    · have step : readPart k part = some ⟨k.path ++ [String.ofList part]⟩ := by
        rw [readPart, if_pos upper, TokenKind.attr_eq_child (.inl hk), TokenKind.child]
      simp only [List.foldlM_cons, step, Option.bind_eq_bind, Option.bind_some]
      rw [ih (by simp)]
      simp [upper]
    · have step : readPart k part = none := by rw [readPart, if_neg upper]
      simp only [List.foldlM_cons, step, Option.bind_eq_bind, Option.bind_none]
      simp [upper]

/-- **The kind a written name is read as.** A kind that names build is read as the kind whose
names are its names as written, when all of these start with upper-case characters; else
its name is not read. -/
theorem readKind_kindName {k : TokenKind} (hk : Buildable k) :
    readKind (kindName k) =
      if ∀ part ∈ k.path, startsUpper (writtenName part) = true then
        some ⟨k.path.map fun part => String.ofList (writtenName part)⟩
      else none := by
  rw [readKind, kindName_splitOn hk, List.tail_cons]
  obtain ⟨path⟩ := k
  cases path with
  | nil => simp [TokenKind.root]
  | cons first rest =>
    -- the first name is read from the root, where only three names are aliases
    have notAlias : String.ofList (writtenName first) ≠ "Token" ∧
        String.ofList (writtenName first) ≠ "String" ∧ String.ofList (writtenName first) ≠ "Number" := by
      rcases writtenName_eq_or first with same | escaped
      · simpa [same] using hk.first first rfl
      · -- an escape leaves a backslash, which none of the three holds
        have differs : ∀ name : String, '\\' ∉ name.toList →
            String.ofList (writtenName first) ≠ name := fun name plain same =>
          plain (by rw [← same, String.toList_ofList]; exact escaped)
        exact ⟨differs _ (by decide), differs _ (by decide), differs _ (by decide)⟩
    by_cases upper : startsUpper (writtenName first) = true
    · have step : readPart TokenKind.root (writtenName first) =
          some ⟨[String.ofList (writtenName first)]⟩ := by
        rw [readPart, if_pos upper, TokenKind.attr_eq_child (.inr notAlias)]
        rfl
      simp only [List.map_cons, List.foldlM_cons, step, Option.bind_eq_bind, Option.bind_some]
      rw [foldlM_readPart_below _ (by simp)]
      simp [upper, List.map_map, Function.comp_def]
    · have step : readPart TokenKind.root (writtenName first) = none := by
        rw [readPart, if_neg upper]
      simp only [List.map_cons, List.foldlM_cons, step, Option.bind_eq_bind, Option.bind_none]
      simp [upper]

/-! ## Reading a line -/

theorem trimEnd_quoted (front : List Char) {q : Char} (hq : Chars.isBlank q = false) :
    trimEnd (front ++ [q] ++ ['\n']) = front ++ [q] := by
  have newline : Chars.isBlank '\n' = true := by decide
  simp [trimEnd, newline, hq]

theorem cutAtTab_tab {name : List Char} (h : '\t' ∉ name) (value : List Char) :
    cutAtTab (name ++ '\t' :: value) = some (name, value) := by
  have kept : ∀ c ∈ name, decide (c ≠ '\t') = true := fun c hc => by
    simpa using fun same : c = '\t' => h (same ▸ hc)
  rw [cutAtTab, List.span_eq_takeWhile_dropWhile, List.takeWhile_append_of_pos kept,
    List.dropWhile_append_of_pos kept]
  simp

theorem readLine_line {k : TokenKind} (htab : '\t' ∉ kindName k) (v : String) :
    readLine (line k v) = (readKind (kindName k)).map fun k' => (k', v.toList) := by
  have notBlank : Chars.isBlank (quoteFor v.toList) = false := by
    rcases quoteFor_quote v.toList with h | h <;> rw [h] <;> decide
  have shape : line k v = (kindName k ++ '\t' :: quoteFor v.toList ::
      v.toList.flatMap (escapeChar (quoteFor v.toList))) ++ [quoteFor v.toList] ++ ['\n'] := by
    simp [line, quote]
  have trimmed : trimEnd (line k v) = kindName k ++ '\t' :: quote v.toList := by
    rw [shape, trimEnd_quoted _ notBlank]
    simp [quote]
  simp only [readLine, trimmed, cutAtTab_tab htab, Option.bind_eq_bind, Option.bind_some,
    read_quote]
  cases readKind (kindName k) <;> rfl

theorem map_eq_self_iff {α : Type} {f : α → α} {l : List α} :
    l.map f = l ↔ ∀ a ∈ l, f a = a := by
  conv => lhs; rhs; rw [← List.map_id l]
  exact List.map_eq_map_iff

/-- The kind and the text a line is read as: those it stands for, or else an error token
that holds the whole line. -/
def lineToken (l : List Char) : TokenKind × String :=
  match readLine l with
  | some (k, v) => (k, String.ofList v)
  | none => (TokenKind.error, String.ofList l)

/-- **A token comes back from its line exactly when the names of its kind are ASCII.** -/
theorem lineToken_line_iff {k : TokenKind} (hk : Buildable k) (v : String) :
    lineToken (line k v) = (k, v) ↔ AsciiNames k := by
  have asciiUpper : AsciiNames k → ∀ part ∈ k.path, startsUpper (writtenName part) = true :=
    fun ascii part hpart => by
      rw [writtenName, (flatMap_asciiChar_eq_self_iff _).mpr (ascii part hpart)]
      exact hk.upper part hpart
  rw [lineToken, readLine_line (tab_not_mem_kindName hk), readKind_kindName hk]
  by_cases upper : ∀ part ∈ k.path, startsUpper (writtenName part) = true
  · -- the kind read has the written names: the same kind exactly when none holds an escape
    rw [if_pos upper]
    obtain ⟨path⟩ := k
    simp only [Option.map_some, String.ofList_toList, Prod.mk.injEq, and_true,
      TokenKind.mk.injEq]
    rw [map_eq_self_iff]
    refine forall₂_congr fun part _ => ?_
    rw [← flatMap_asciiChar_eq_self_iff, ← writtenName]
    constructor
    · intro same
      simpa using congrArg String.toList same
    · intro same
      rw [same, String.ofList_toList]
  · -- the name is not read, and the kind is not the error kind, whose names are ASCII
    rw [if_neg upper]
    simp only [Option.map_none, Prod.mk.injEq]
    constructor
    · rintro ⟨rfl, -⟩
      exact absurd (asciiUpper (by decide)) upper
    · intro ascii
      exact absurd (asciiUpper ascii) upper

/-! ## Reading the lines -/

theorem newlineLinesFrom_line {l : List Char} (hl : '\n' ∉ l) (rest : List Char)
    (start i : Nat) (cur : List Char) :
    Lexers.newlineLinesFrom (l ++ '\n' :: rest) start i cur =
      (start, String.ofList (cur.reverse ++ l ++ ['\n'])) ::
        Lexers.newlineLinesFrom rest (i + l.length + 1) (i + l.length + 1) [] := by
  induction l generalizing i cur with
  | nil => simp [Lexers.newlineLinesFrom]
  | cons c l ih =>
    have notNewline : c ≠ '\n' := fun h => hl (h ▸ List.mem_cons_self)
    rw [List.cons_append, Lexers.newlineLinesFrom, if_neg (by simpa using notNewline),
      ih (fun h => hl (List.mem_cons_of_mem c h))]
    simp only [List.reverse_cons, List.append_assoc, List.singleton_append, List.length_cons]
    rw [show i + 1 + l.length = i + (l.length + 1) by omega]

theorem write_toList (ts : List (TokenKind × String)) :
    (write ts).toList = ts.flatMap fun t => line t.1 t.2 :=
  String.toList_ofList

theorem newlineLines_write {ts : List (TokenKind × String)} (hkinds : ∀ t ∈ ts, Buildable t.1) :
    (Lexers.newlineLines (write ts)).map (·.2) = ts.map fun t => String.ofList (line t.1 t.2) := by
  rw [Lexers.newlineLines, write_toList]
  suffices ∀ i, (Lexers.newlineLinesFrom (ts.flatMap fun t => line t.1 t.2) i i []).map (·.2) =
      ts.map fun t => String.ofList (line t.1 t.2) from this 0
  induction ts with
  | nil => simp [Lexers.newlineLinesFrom]
  | cons t ts ih =>
    intro i
    have noBreak : '\n' ∉ kindName t.1 ++ '\t' :: quote t.2.toList := by
      simp only [List.mem_append, List.mem_cons, not_or]
      refine ⟨newline_not_mem_kindName (hkinds t (by simp)), by decide, fun h => ?_⟩
      simpa [printable] using quote_printable t.2.toList _ h
    have split : line t.1 t.2 ++ ts.flatMap (fun t => line t.1 t.2) =
        (kindName t.1 ++ '\t' :: quote t.2.toList) ++ '\n' :: ts.flatMap fun t => line t.1 t.2 := by
      simp [line]
    rw [List.flatMap_cons, split, newlineLinesFrom_line noBreak, List.map_cons,
      ih (fun t ht => hkinds t (by simp [ht]))]
    simp [line]

theorem framed_of {text : String} {front : List Char} {q : Char}
    (hhead : ∀ c ∈ text.toList.head?, c ≠ '\n') (hq : q ≠ '\n')
    (htext : text.toList = front ++ [q] ++ ['\n']) : framed text = text := by
  have kept : text.toList.dropWhile (· = '\n') = text.toList := by
    cases h : text.toList with
    | nil => rfl
    | cons c rest => exact List.dropWhile_cons_of_neg (by simpa using hhead c (by simp [h]))
  rw [← String.toList_inj, framed, String.toList_ofList, kept, htext]
  simp [hq]

theorem framed_write {ts : List (TokenKind × String)} (hne : ts ≠ []) :
    framed (write ts) = write ts := by
  -- every line starts with the `T` of `Token`, and the last ends with a quote and a line feed
  have head : ∀ c ∈ (write ts).toList.head?, c ≠ '\n' := by
    obtain ⟨first, rest, rfl⟩ := List.exists_cons_of_ne_nil hne
    simp [write_toList, line, kindName_eq]
  obtain ⟨init, last, rfl⟩ := (List.eq_nil_or_concat ts).resolve_left hne
  have quoteChar : quoteFor last.2.toList ≠ '\n' := by
    rcases quoteFor_quote last.2.toList with h | h <;> rw [h] <;> decide
  refine @framed_of _ (init.flatMap (fun t => line t.1 t.2) ++ kindName last.1 ++
    '\t' :: quoteFor last.2.toList :: last.2.toList.flatMap (escapeChar (quoteFor last.2.toList)))
    _ head quoteChar ?_
  simp [write_toList, line, quote]

theorem tokensFrom_kinds (ls : List String) (n : Nat) :
    (tokensFrom n ls).map (fun t => (t.kind, t.text)) = ls.map fun l => lineToken l.toList := by
  induction ls generalizing n with
  | nil => rfl
  | cons l ls ih =>
    simp only [tokensFrom, List.map_cons, ih, lineToken]
    cases readLine l.toList <;> rfl

theorem write_ascii (ts : List (TokenKind × String)) : ∀ c ∈ (write ts).toList, c.toNat < 0x80 := by
  intro c hc
  rw [write_toList] at hc
  obtain ⟨t, -, hc⟩ := List.mem_flatMap.mp hc
  simp only [line, List.mem_append, List.mem_cons, List.not_mem_nil, or_false] at hc
  rcases hc with (named | rfl | quoted) | rfl
  · exact (mem_kindName named).1
  · decide
  · have := quote_printable t.2.toList c quoted
    simp only [printable, Bool.and_eq_true, decide_eq_true_eq] at this
    omega
  · decide

/-- **Raw tokens read back.** The raw token format is ASCII, and for a non-empty stream of
kinds that dotted names build, the language of raw token data reads back the kinds and texts
written exactly when the names of the kinds are ASCII. -/
theorem write_read_back_iff (ts : List (TokenKind × String)) (hne : ts ≠ [])
    (hkinds : ∀ t ∈ ts, Buildable t.1) :
    (∀ c ∈ (write ts).toList, c.toNat < 0x80) ∧
      ((tokensOfText (write ts)).map (fun t => (t.kind, t.text)) = ts ↔
        ∀ t ∈ ts, AsciiNames t.1) := by
  refine ⟨write_ascii ts, ?_⟩
  rw [tokensOfText, framed_write hne, tokens, newlineLines_write hkinds, tokensFrom_kinds,
    List.map_map, map_eq_self_iff]
  refine forall₂_congr fun t ht => ?_
  rw [Function.comp_apply, String.toList_ofList]
  exact lineToken_line_iff (hkinds t ht) t.2

/-- Two kinds with ASCII names, one of them below another kind, and a text with quotes, a
tab, a line feed and a character past ASCII. -/
theorem write_read_back_names_and_text :
    let ts := [(TokenKind.nameBuiltin, "it's \"x\"\t\n"), (⟨["Aé"]⟩, "é")]
    ts ≠ [] ∧ (∀ t ∈ ts, Buildable t.1) ∧
      ((∀ c ∈ (write ts).toList, c.toNat < 0x80) ∧
        ((tokensOfText (write ts)).map (fun t => (t.kind, t.text)) = ts ↔
          ∀ t ∈ ts, AsciiNames t.1)) := by
  intro ts
  have hne : ts ≠ [] := by simp [ts]
  have hkinds : ∀ t ∈ ts, Buildable t.1 := by
    intro t ht
    simp only [ts, List.mem_cons, List.not_mem_nil, or_false] at ht
    rcases ht with rfl | rfl <;> exact ⟨by decide, by decide, by decide⟩
  exact ⟨hne, hkinds, write_read_back_iff ts hne hkinds⟩

/- A name that starts with a character past ASCII is written with an escape that starts with
a backslash, and its line is read as an error token. -/
example :
    (tokensOfText (write [(⟨["Ä"]⟩, "x")])).map (fun t => (t.kind, t.text)) =
      [(TokenKind.error, "Token.\\xc4\t'x'\n")] := by
  decide


end RawTokens

end Highlight
