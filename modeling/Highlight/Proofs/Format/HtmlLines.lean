import Highlight.Format.Html

/-!
# HTML output shows the text, line by line

Reading HTML back means taking its tags out (`stripTags`: a tag runs from a `<` to the next
`>`) and reading its five character references (`unescape`); what is left is the text the
HTML shows (`shown`). The main results are about the line formatter `formatLines`, for kinds
whose names hold no `>`:

* each line it gives out shows one line of the text of the tokens, in order, ended by its line
  break, the last given one if it has none (`formatLines_shown`);
* each line opens and closes its spans in turn, none inside another, and ends with the line
  separator (`formatLines_clean`).

The proofs go through one relation, `Shows m x g`: whatever follows the HTML `m`, it shows
the text `x` and holds the tags `g` before what follows shows and holds. Escaped text shows
itself and holds no tag; a tag shows nothing and holds itself; and the relation is kept by
putting HTML side by side (`Shows.append`). The line formatter keeps an invariant
(`Lines.Inv`) between the pieces of the tokens' texts: the lines given out show the complete
lines of the text so far and pair their spans, and the line being built shows the rest of the
text, with its spans paired but for the one left open (`lspan`).

A name of a kind with `>` in it ends the tag of its span early: the rest of the tag is then
shown as text, and the results above fail for it (`spanName_with_gt_shows_tag_text`).
-/

set_option autoImplicit false

namespace Highlight.Html

/-! ## Reading HTML back -/

/-- The text outside tags, from where a tag whose characters so far are `t` is open, or from
outside any tag; a `<` with no `>` after it is text. -/
def stripTagsFrom : Option (List Char) → List Char → List Char
  | none, [] => []
  | some t, [] => t
  | none, c :: cs => if c = '<' then stripTagsFrom (some ['<']) cs else c :: stripTagsFrom none cs
  | some t, c :: cs => if c = '>' then stripTagsFrom none cs else stripTagsFrom (some (t ++ [c])) cs

/-- The text outside tags. -/
def stripTags (s : List Char) : List Char := stripTagsFrom none s

/-- The tags of a text, in order, from where a tag whose characters so far are `t` is open,
or from outside any tag. -/
def tagsFrom : Option (List Char) → List Char → List (List Char)
  | _, [] => []
  | none, c :: cs => if c = '<' then tagsFrom (some ['<']) cs else tagsFrom none cs
  | some t, c :: cs =>
    if c = '>' then (t ++ ['>']) :: tagsFrom none cs else tagsFrom (some (t ++ [c])) cs

/-- The tags of a text, in order. -/
def tags (s : List Char) : List (List Char) := tagsFrom none s

/-- A text with the character references of escaping read, left to right. -/
def unescape : List Char → List Char
  | '&' :: 'a' :: 'm' :: 'p' :: ';' :: cs => '&' :: unescape cs
  | '&' :: 'l' :: 't' :: ';' :: cs => '<' :: unescape cs
  | '&' :: 'g' :: 't' :: ';' :: cs => '>' :: unescape cs
  | '&' :: 'q' :: 'u' :: 'o' :: 't' :: ';' :: cs => '"' :: unescape cs
  | '&' :: '#' :: '3' :: '9' :: ';' :: cs => '\'' :: unescape cs
  | c :: cs => c :: unescape cs
  | [] => []

/-- The text that HTML shows. -/
def shown (s : List Char) : List Char := unescape (stripTags s)

/-- Whether a tag opens a span. -/
def opensSpan (t : List Char) : Bool := "<span ".toList.isPrefixOf t

/-- Whether tags open and close spans in turn, so that the spans are balanced and none lies
inside another. -/
def spansPaired : List (List Char) → Bool
  | [] => true
  | o :: c :: rest => opensSpan o && c == spanEnd && spansPaired rest
  | [_] => false

/-- The lines of a text, each ended by a line break: a last line without one is given one,
and nothing after the last line break is no line. -/
def textLines (S : List Char) : List (List Char) :=
  ((S.splitOn '\n').dropLast.map (· ++ ['\n'])) ++
    if (S.splitOn '\n').getLast? = some [] then [] else [(S.splitOn '\n').getLastD [] ++ ['\n']]

/-! ## Reading text and tags -/

section Reading

variable {t body r : List Char}

theorem stripTagsFrom_text (h : '<' ∉ t) (r : List Char) :
    stripTagsFrom none (t ++ r) = t ++ stripTagsFrom none r := by
  induction t with
  | nil => rfl
  | cons c t ih =>
    have hc : c ≠ '<' := fun hc => h (hc ▸ List.mem_cons_self)
    simp only [List.cons_append, stripTagsFrom, hc, if_false, ih (fun h' => h (List.mem_cons_of_mem _ h'))]

theorem tagsFrom_text (h : '<' ∉ t) (r : List Char) : tagsFrom none (t ++ r) = tagsFrom none r := by
  induction t with
  | nil => rfl
  | cons c t ih =>
    have hc : c ≠ '<' := fun hc => h (hc ▸ List.mem_cons_self)
    simp only [List.cons_append, tagsFrom, hc, if_false, ih (fun h' => h (List.mem_cons_of_mem _ h'))]

theorem stripTagsFrom_tag (h : '>' ∉ body) (acc r : List Char) :
    stripTagsFrom (some acc) (body ++ '>' :: r) = stripTagsFrom none r := by
  induction body generalizing acc with
  | nil => simp [stripTagsFrom]
  | cons c body ih =>
    have hc : c ≠ '>' := fun hc => h (hc ▸ List.mem_cons_self)
    simp only [List.cons_append, stripTagsFrom, hc, if_false, ih (fun h' => h (List.mem_cons_of_mem _ h'))]

theorem tagsFrom_tag (h : '>' ∉ body) (acc r : List Char) :
    tagsFrom (some acc) (body ++ '>' :: r) = (acc ++ body ++ ['>']) :: tagsFrom none r := by
  induction body generalizing acc with
  | nil => simp [tagsFrom]
  | cons c body ih =>
    have hc : c ≠ '>' := fun hc => h (hc ▸ List.mem_cons_self)
    simp only [List.cons_append, tagsFrom, hc, if_false, ih (fun h' => h (List.mem_cons_of_mem _ h'))]
    simp

theorem escapeChar_ne_lt (c : Char) : '<' ∉ escapeChar c := by
  unfold escapeChar
  split <;> simp_all [eq_comm]

theorem lt_not_mem_escape (s : List Char) : '<' ∉ escape s := by
  simp only [escape, List.mem_flatMap, not_exists, not_and]
  exact fun c _ => escapeChar_ne_lt c

theorem unescape_escapeChar (c : Char) (r : List Char) :
    unescape (escapeChar c ++ r) = c :: unescape r := by
  unfold escapeChar
  split <;> simp_all [unescape]

theorem unescape_escape (s r : List Char) : unescape (escape s ++ r) = s ++ unescape r := by
  induction s with
  | nil => rfl
  | cons c s ih =>
    rw [escape, List.flatMap_cons, List.append_assoc, unescape_escapeChar, ← escape, ih,
      List.cons_append]

end Reading

/-! ## What pieces of HTML show -/

/-- Whatever follows the HTML `m`, it shows the text `x` and holds the tags `g` before what
follows shows and holds. -/
structure Shows (m x : List Char) (g : List (List Char)) : Prop where
  shown_append : ∀ r, shown (m ++ r) = x ++ shown r
  tags_append : ∀ r, tags (m ++ r) = g ++ tags r

namespace Shows

variable {m m' x x' : List Char} {g g' : List (List Char)}

theorem nil : Shows [] [] [] := ⟨fun _ => rfl, fun _ => rfl⟩

theorem append (h : Shows m x g) (h' : Shows m' x' g') : Shows (m ++ m') (x ++ x') (g ++ g') :=
  ⟨fun r => by rw [List.append_assoc, h.shown_append, h'.shown_append, List.append_assoc],
   fun r => by rw [List.append_assoc, h.tags_append, h'.tags_append, List.append_assoc]⟩

theorem shown_eq (h : Shows m x g) : shown m = x := by
  simpa [shown, stripTags, stripTagsFrom, unescape] using h.shown_append []

theorem tags_eq (h : Shows m x g) : tags m = g := by
  simpa [tags, tagsFrom] using h.tags_append []

end Shows

theorem shows_escape (s : List Char) : Shows (escape s) s [] where
  shown_append r := by
    rw [shown, stripTags, stripTagsFrom_text (lt_not_mem_escape s), unescape_escape]; rfl
  tags_append r := by rw [tags, tagsFrom_text (lt_not_mem_escape s)]; rfl

theorem shows_newline : Shows ['\n'] ['\n'] [] := shows_escape ['\n']

/-- A tag: a `<`, a body without `>`, and a `>`. -/
def IsTag (t : List Char) : Prop := ∃ body, '>' ∉ body ∧ t = '<' :: body ++ ['>']

theorem shows_tag {t : List Char} (h : IsTag t) : Shows t [] [t] := by
  obtain ⟨body, hb, rfl⟩ := h
  constructor
  · intro r
    simp [shown, stripTags, stripTagsFrom, stripTagsFrom_tag hb]
  · intro r
    simp [tags, tagsFrom, tagsFrom_tag hb]

theorem isTag_spanEnd : IsTag spanEnd := ⟨"/span".toList, by decide, rfl⟩

/-! ## Spans -/

/-- What opens the span of a token: nothing, or a tag that opens a span. -/
def Opener (c : List Char) : Prop := c = [] ∨ (IsTag c ∧ opensSpan c = true)

/-- The tags that the opener `c` holds. -/
def opened (c : List Char) : List (List Char) := if c = [] then [] else [c]

/-- The tags that the closing of the span that `c` opens holds. -/
def closedBy (c : List Char) : List (List Char) := if c = [] then [] else [spanEnd]

section Spans

variable {c : List Char} {a b : List (List Char)}

theorem Opener.shows (h : Opener c) : Shows c [] (opened c) := by
  rcases h with rfl | ⟨ht, -⟩
  · exact Shows.nil
  · have hne : c ≠ [] := by obtain ⟨body, -, rfl⟩ := ht; simp
    simpa [opened, hne] using shows_tag ht

theorem shows_closing (c : List Char) : Shows (closing c) [] (closedBy c) := by
  by_cases hc : c = []
  · simpa [closing, closedBy, hc] using Shows.nil
  · simpa [closing, closedBy, hc] using shows_tag isTag_spanEnd

theorem spansPaired_append (ha : spansPaired a = true) (hb : spansPaired b = true) :
    spansPaired (a ++ b) = true := by
  fun_induction spansPaired a with
  | case1 => exact hb
  | case2 o c rest ih =>
    simp only [Bool.and_eq_true] at ha
    simp only [List.cons_append, spansPaired, ha.1.1, ha.1.2, ih ha.2, Bool.and_self]
  | case3 => simp at ha

theorem Opener.paired (h : Opener c) : spansPaired (opened c ++ closedBy c) = true := by
  rcases h with rfl | ⟨ht, ho⟩
  · rfl
  · have hne : c ≠ [] := by obtain ⟨body, -, rfl⟩ := ht; simp
    simp [opened, closedBy, hne, spansPaired, ho]

end Spans

/-! ## Span openers

The tag that opens a span is well formed when no name of the kind, and not the class prefix,
holds a `>`: the classes are built from short names, which hold none, the prefix, dashes,
spaces and the names of the kind. -/

section Openers

theorem exists_mem_of_lookup {α β : Type} [BEq α] {l : List (α × β)} {k : α} {v : β}
    (h : l.lookup k = some v) : ∃ p ∈ l, p.2 = v := by
  induction l with
  | nil => simp at h
  | cons p l ih =>
    obtain ⟨k', b⟩ := p
    rw [List.lookup_cons] at h
    split at h
    · exact ⟨(k', b), List.mem_cons_self, Option.some.inj h⟩
    · obtain ⟨q, hq, rfl⟩ := ih h
      exact ⟨q, List.mem_cons_of_mem _ hq, rfl⟩

theorem not_mem_intercalate {c : Char} {sep : List Char} (hsep : c ∉ sep) :
    ∀ {ls : List (List Char)}, (∀ l ∈ ls, c ∉ l) → c ∉ sep.intercalate ls
  | [], _ => by simp
  | [l], h => by simpa using h l (by simp)
  | l :: l' :: ls, h => by
    rw [List.intercalate_cons_cons]
    simp only [List.mem_append, not_or]
    exact ⟨⟨h l List.mem_cons_self, hsep⟩,
      not_mem_intercalate hsep (fun x hx => h x (List.mem_cons_of_mem _ hx))⟩

theorem gt_not_mem_shortName {k : TokenKind} {s : String} (h : k.shortName? = some s) :
    '>' ∉ s.toList := by
  obtain ⟨p, hp, rfl⟩ := exists_mem_of_lookup h
  exact (by decide : ∀ p ∈ TokenKind.standardNames, '>' ∉ p.2.toList) p hp

variable {pre : String}

theorem gt_not_mem_kindClassUp :
    ∀ {up : List String}, (∀ part ∈ up, '>' ∉ part.toList) → '>' ∉ (kindClassUp up).toList
  | [], _ => by simp [kindClassUp, TokenKind.joinedNameUp]
  | part :: up, h => by
    have ih := gt_not_mem_kindClassUp (fun x hx => h x (List.mem_cons_of_mem _ hx))
    rw [kindClassUp] at ih ⊢
    rw [TokenKind.joinedNameUp]
    split
    · exact gt_not_mem_shortName ‹_›
    · simp [ih, h part List.mem_cons_self]

theorem gt_not_mem_cssClass (hpre : '>' ∉ pre.toList) {k : TokenKind}
    (hk : ∀ part ∈ k.path, '>' ∉ part.toList) : '>' ∉ (cssClass pre k).toList := by
  unfold cssClass kindClass
  split
  · simp
  · simp [hpre, gt_not_mem_kindClassUp (fun x hx => hk x (List.mem_reverse.mp hx))]

theorem gt_not_mem_cssClassesUp (hpre : '>' ∉ pre.toList) :
    ∀ {up : List String}, (∀ part ∈ up, '>' ∉ part.toList) → '>' ∉ (cssClassesUp pre up).toList
  | [], _ => gt_not_mem_cssClass hpre (by simp [TokenKind.root])
  | part :: up, h => by
    have hk : ∀ x ∈ (⟨(part :: up).reverse⟩ : TokenKind).path, '>' ∉ x.toList :=
      fun x hx => h x (List.mem_reverse.mp hx)
    unfold cssClassesUp
    split
    · exact gt_not_mem_cssClass hpre hk
    · have ih := gt_not_mem_cssClassesUp hpre (fun x hx => h x (List.mem_cons_of_mem _ hx))
      simp only [String.toList_append, List.mem_append, not_or]
      exact ⟨⟨ih, by decide⟩, gt_not_mem_cssClass hpre hk⟩

theorem opener_spanOpener {s : Settings} {k : TokenKind} (hpre : '>' ∉ s.classprefix.toList)
    (hk : ∀ part ∈ k.path, '>' ∉ part.toList) : Opener (spanOpener s k) := by
  have hcls : '>' ∉ (cssClasses s.classprefix k).toList :=
    gt_not_mem_cssClassesUp hpre (fun x hx => hk x (List.mem_reverse.mp hx))
  have htitle : '>' ∉ (if s.debugTokenTypes then " title=\"" ++ ".".intercalate k.path ++ "\""
      else "").toList := by
    split
    · simpa [String.toList_intercalate] using
        @not_mem_intercalate '>' ['.'] (by decide) (k.path.map String.toList) (by simpa using hk)
    · simp
  unfold spanOpener
  split
  · exact Or.inl rfl
  · refine Or.inr ⟨⟨("span class=\"" ++ cssClasses s.classprefix k ++ "\"" ++
      (if s.debugTokenTypes then " title=\"" ++ ".".intercalate k.path ++ "\"" else "")).toList,
      by simp [hcls, htitle], by simp⟩, ?_⟩
    simp [opensSpan]

end Openers

/-! ## Lines of a text -/

/-- The text of the complete lines `L` and of the line `cur` begun after them. -/
def linesText (L : List (List Char)) (cur : List Char) : List Char :=
  (L.map (· ++ ['\n'])).flatten ++ cur

section LinesOfText

variable {L : List (List Char)} {cur : List Char}

theorem splitOn_linesText (hL : ∀ x ∈ L, '\n' ∉ x) (hcur : '\n' ∉ cur) :
    (linesText L cur).splitOn '\n' = L ++ [cur] := by
  induction L with
  | nil => exact List.splitOn_eq_singleton hcur
  | cons x L ih =>
    have hx : '\n' ∉ x := hL x List.mem_cons_self
    have hrest := ih (fun y hy => hL y (List.mem_cons_of_mem _ hy))
    simp only [linesText, List.map_cons, List.flatten_cons, List.append_assoc, List.cons_append,
      List.nil_append] at hrest ⊢
    rw [List.splitOn_append_cons_self_of_not_mem hx, hrest]

theorem textLines_linesText (hL : ∀ x ∈ L, '\n' ∉ x) (hcur : '\n' ∉ cur) :
    textLines (linesText L cur) = L.map (· ++ ['\n']) ++ if cur = [] then [] else [cur ++ ['\n']] := by
  simp only [textLines, splitOn_linesText hL hcur, List.dropLast_concat, List.getLast?_concat,
    Option.some.injEq, List.getLastD_concat]

theorem newline_not_mem_splitOn (S : List Char) : ∀ x ∈ S.splitOn '\n', '\n' ∉ x := by
  induction S with
  | nil => simp
  | cons c S ih =>
    rw [List.splitOn_cons_eq_if_modifyHead]
    split
    · simpa using ih
    · rename_i hc
      obtain ⟨y, ys, hys⟩ := List.exists_cons_of_ne_nil (List.splitOn_ne_nil '\n' S)
      rw [hys] at ih ⊢
      intro x hx
      simp only [List.modifyHead_cons, List.mem_cons] at hx
      rcases hx with rfl | hx
      · intro hmem
        rcases List.mem_cons.mp hmem with h | h
        · exact hc (by simp [← h])
        · exact ih y List.mem_cons_self h
      · exact ih x (List.mem_cons_of_mem _ hx)

theorem newline_not_mem_splitOn_getLastD (S : List Char) : '\n' ∉ (S.splitOn '\n').getLastD [] := by
  rw [List.getLastD_eq_getLast?, List.getLast?_eq_some_getLast (List.splitOn_ne_nil _ _)]
  exact newline_not_mem_splitOn S _ (List.getLast_mem _)

theorem linesText_splitOn (S : List Char) :
    linesText (S.splitOn '\n').dropLast ((S.splitOn '\n').getLastD []) = S := by
  have key : ∀ ls : List (List Char), ls ≠ [] →
      linesText ls.dropLast (ls.getLastD []) = ['\n'].intercalate ls := by
    intro ls hls
    induction ls with
    | nil => exact absurd rfl hls
    | cons x ls ih =>
      cases ls with
      | nil => simp [linesText]
      | cons y ls =>
        rw [List.intercalate_cons_cons, ← ih (List.cons_ne_nil y ls)]
        simp [linesText]
  rw [key _ (List.splitOn_ne_nil '\n' S), List.intercalate_splitOn]

theorem linesText_nil_getLast (L : List (List Char)) :
    linesText L [] = [] ∨ (linesText L []).getLast? = some '\n' := by
  rcases List.eq_nil_or_concat L with rfl | ⟨L', x, rfl⟩
  · exact Or.inl rfl
  · right
    simp [linesText]

theorem linesText_getLast_of_ne_nil (hcur : '\n' ∉ cur) (hne : cur ≠ []) :
    (linesText L cur).getLast? ≠ some '\n' := by
  obtain ⟨c, hc⟩ := Option.ne_none_iff_exists'.mp (mt List.getLast?_eq_none_iff.mp hne)
  rw [linesText, List.getLast?_append, hc, Option.some_or]
  intro h
  exact hcur (Option.some.inj h ▸ List.mem_of_getLast? hc)

theorem textLines_flatten (S : List Char) :
    (textLines S).flatten = S ++ if S ≠ [] ∧ S.getLast? ≠ some '\n' then ['\n'] else [] := by
  have hS := linesText_splitOn S
  have hL : ∀ x ∈ (S.splitOn '\n').dropLast, '\n' ∉ x :=
    fun x hx => newline_not_mem_splitOn S x ((List.dropLast_sublist _).subset hx)
  have hcur := newline_not_mem_splitOn_getLastD S
  generalize (S.splitOn '\n').dropLast = L at hS hL
  generalize (S.splitOn '\n').getLastD [] = cur at hS hcur
  subst hS
  rw [textLines_linesText hL hcur]
  by_cases hc : cur = []
  · subst hc
    have hend : ¬(linesText L [] ≠ [] ∧ (linesText L []).getLast? ≠ some '\n') := by
      rcases linesText_nil_getLast L with h | h <;> simp [h]
    rw [if_neg hend, if_pos rfl]
    simp [linesText]
  · have hend : linesText L cur ≠ [] ∧ (linesText L cur).getLast? ≠ some '\n' :=
      ⟨by simp [linesText, hc], linesText_getLast_of_ne_nil hcur hc⟩
    rw [if_pos hend, if_neg hc]
    simp [linesText]

end LinesOfText

/-! ## Escaping keeps the line breaks -/

section EscapeLines

variable {p : List Char}

theorem escape_append (a b : List Char) : escape (a ++ b) = escape a ++ escape b :=
  List.flatMap_append

theorem escapeChar_ne_nil (c : Char) : escapeChar c ≠ [] := by
  unfold escapeChar
  split <;> simp

theorem escape_eq_nil : escape p = [] ↔ p = [] := by
  cases p with
  | nil => simp [escape]
  | cons c p => simp [escape, escapeChar_ne_nil]

theorem newline_not_mem_escapeChar {c : Char} (hc : c ≠ '\n') : '\n' ∉ escapeChar c := by
  unfold escapeChar
  split <;> simp_all [eq_comm]

theorem newline_not_mem_escape (h : '\n' ∉ p) : '\n' ∉ escape p := by
  simp only [escape, List.mem_flatMap, not_exists, not_and]
  intro c hc
  exact newline_not_mem_escapeChar (fun hn => h (hn ▸ hc))

theorem escape_intercalate (ls : List (List Char)) :
    escape (['\n'].intercalate ls) = ['\n'].intercalate (ls.map escape) := by
  induction ls with
  | nil => rfl
  | cons x ls ih =>
    cases ls with
    | nil => simp
    | cons y ls =>
      rw [List.intercalate_cons_cons, escape_append, escape_append, ih]
      simp only [List.map_cons, List.intercalate_cons_cons]
      rfl

theorem escape_splitOn (S : List Char) : (escape S).splitOn '\n' = (S.splitOn '\n').map escape := by
  have hpieces : ∀ l ∈ (S.splitOn '\n').map escape, '\n' ∉ l := by
    intro l hl
    obtain ⟨x, hx, rfl⟩ := List.mem_map.mp hl
    exact newline_not_mem_escape (newline_not_mem_splitOn S x hx)
  calc (escape S).splitOn '\n'
      = (escape (['\n'].intercalate (S.splitOn '\n'))).splitOn '\n' := by
        rw [List.intercalate_splitOn]
    _ = (['\n'].intercalate ((S.splitOn '\n').map escape)).splitOn '\n' := by
        rw [escape_intercalate]
    _ = (S.splitOn '\n').map escape := List.splitOn_intercalate '\n' hpieces (by simp)

end EscapeLines

/-! ## The line formatter's invariant -/

/-- A line given out: it shows its text, opens and closes its spans in turn, and ends with a
line break. -/
structure CleanLine (l : List Char) : Prop where
  shows : Shows l (shown l) (tags l)
  paired : spansPaired (tags l) = true
  ends : ['\n'] <:+ l

theorem CleanLine.of_shows {l x : List Char} {g : List (List Char)} (h : Shows l x g)
    (hg : spansPaired g = true) (he : ['\n'] <:+ l) : CleanLine l := by
  have hx := h.shown_eq
  have hgg := h.tags_eq
  subst hx hgg
  exact ⟨h, hg, he⟩

namespace Lines

/-- What the line formatter keeps true once it has read the text `linesText L cur`: the lines
given out are clean and show the complete lines `L`, and the line being built, if any, shows
the rest `cur`, with its spans paired but for the one left open. -/
structure Inv (st : Lines) (L : List (List Char)) (cur : List Char) : Prop where
  lspan : Opener st.lspan
  done_clean : ∀ l ∈ st.done, CleanLine l
  done_shown : st.done.map shown = L.map (· ++ ['\n'])
  lines_nl : ∀ x ∈ L, '\n' ∉ x
  cur_nl : '\n' ∉ cur
  building : st.line = [] ↔ cur = []
  line_shows : st.line ≠ [] →
    ∃ g, spansPaired g = true ∧ Shows st.line.flatten cur (g ++ opened st.lspan)

variable {st : Lines} {L : List (List Char)} {cur cspan p : List Char}

theorem ends_newline (line pieces : List (List Char)) :
    ['\n'] <:+ (line ++ (pieces ++ [['\n']])).flatten := by
  rw [← List.append_assoc, List.flatten_append, List.flatten_singleton]
  exact List.suffix_append _ _

theorem inv_start : Inv {} [] [] where
  lspan := Or.inl rfl
  done_clean := by simp
  done_shown := rfl
  lines_nl := by simp
  cur_nl := by simp
  building := by simp
  line_shows := by simp

theorem Inv.giveOut (hi : st.Inv L cur) (hp : '\n' ∉ p) {l : List Char} (hl : CleanLine l)
    (hshown : shown l = cur ++ p ++ ['\n']) (st' : Lines) (hlspan : st'.lspan = st.lspan)
    (hline : st'.line = []) (hdone : st'.done = st.done ++ [l]) :
    st'.Inv (L ++ [cur ++ p]) [] where
  lspan := hlspan ▸ hi.lspan
  done_clean := by
    rw [hdone]
    intro x hx
    rcases List.mem_append.mp hx with hx | hx
    · exact hi.done_clean x hx
    · rw [List.mem_singleton.mp hx]
      exact hl
  done_shown := by simp [hdone, hi.done_shown, hshown]
  lines_nl := by
    intro x hx
    rcases List.mem_append.mp hx with hx | hx
    · exact hi.lines_nl x hx
    · rw [List.mem_singleton.mp hx]
      simp [hi.cur_nl, hp]
  cur_nl := by simp
  building := by simp [hline]
  line_shows := by simp [hline]

theorem Inv.breakLine (hi : st.Inv L cur) (hc : Opener cspan) (hp : '\n' ∉ p) :
    (st.breakLine ['\n'] cspan (escape p)).Inv (L ++ [cur ++ p]) [] := by
  unfold Lines.breakLine
  by_cases hidle : st.line = []
  · -- no line is being built, so the piece makes a line of its own
    have hcur : cur = [] := hi.building.mp hidle
    subst hcur
    rw [if_pos hidle]
    by_cases hp0 : p = []
    · subst hp0
      exact hi.giveOut hp (CleanLine.of_shows shows_newline rfl (List.suffix_refl _))
        shows_newline.shown_eq _ rfl hidle rfl
    · have hl : Shows (cspan ++ escape p ++ closing cspan ++ ['\n']) (p ++ ['\n'])
          (opened cspan ++ closedBy cspan) := by
        simpa using ((hc.shows.append (shows_escape p)).append (shows_closing cspan)).append
          shows_newline
      refine hi.giveOut hp (CleanLine.of_shows hl hc.paired (List.suffix_append _ _))
        (by rw [hl.shown_eq, List.nil_append]) _ rfl hidle ?_
      simp [escape_eq_nil, hp0]
  · obtain ⟨g, hg, hline⟩ := hi.line_shows hidle
    rw [if_neg hidle]
    by_cases hswitch : st.lspan ≠ cspan ∧ escape p ≠ []
    · -- the piece has a span of its own: the open span is closed before it
      rw [if_pos hswitch]
      have hl : Shows (st.line ++ [closing st.lspan, cspan, escape p, closing cspan, ['\n']]).flatten
          (cur ++ p ++ ['\n']) ((g ++ (opened st.lspan ++ closedBy st.lspan)) ++
            (opened cspan ++ closedBy cspan)) := by
        simpa [List.flatten_append, List.append_assoc] using
          ((((hline.append (shows_closing st.lspan)).append hc.shows).append
            (shows_escape p)).append (shows_closing cspan)).append shows_newline
      exact hi.giveOut hp (CleanLine.of_shows hl
        (spansPaired_append (spansPaired_append hg hi.lspan.paired) hc.paired)
        (ends_newline st.line [closing st.lspan, cspan, escape p, closing cspan])) hl.shown_eq _
        rfl rfl rfl
    · -- the piece goes in the open span, which is then closed
      rw [if_neg hswitch]
      have hl : Shows (st.line ++ [escape p, closing st.lspan, ['\n']]).flatten (cur ++ p ++ ['\n'])
          (g ++ (opened st.lspan ++ closedBy st.lspan)) := by
        simpa [List.flatten_append, List.append_assoc] using
          ((hline.append (shows_escape p)).append (shows_closing st.lspan)).append shows_newline
      exact hi.giveOut hp (CleanLine.of_shows hl (spansPaired_append hg hi.lspan.paired)
        (ends_newline st.line [escape p, closing st.lspan])) hl.shown_eq _ rfl rfl rfl

theorem Inv.extend (hi : st.Inv L cur) (hc : Opener cspan) (hp : '\n' ∉ p) :
    (st.extend cspan (escape p)).Inv L (cur ++ p) := by
  unfold Lines.extend
  by_cases hp0 : p = []
  · subst hp0
    simpa [escape] using hi
  have hep : escape p ≠ [] := by rwa [Ne, escape_eq_nil]
  have hcur_nl : '\n' ∉ cur ++ p := by simp [hi.cur_nl, hp]
  rw [if_neg hep]
  by_cases hidle : st.line = []
  · have hcur : cur = [] := hi.building.mp hidle
    subst hcur
    rw [if_pos hidle]
    exact { lspan := hc, done_clean := hi.done_clean, done_shown := hi.done_shown,
            lines_nl := hi.lines_nl, cur_nl := hcur_nl, building := by simp [hp0],
            line_shows := fun _ => ⟨[], rfl, by simpa using hc.shows.append (shows_escape p)⟩ }
  obtain ⟨g, hg, hline⟩ := hi.line_shows hidle
  rw [if_neg hidle]
  by_cases hswitch : st.lspan ≠ cspan
  · rw [if_pos hswitch]
    exact { lspan := hc, done_clean := hi.done_clean, done_shown := hi.done_shown,
            lines_nl := hi.lines_nl, cur_nl := hcur_nl, building := by simp [hp0],
            line_shows := fun _ => ⟨g ++ (opened st.lspan ++ closedBy st.lspan),
              spansPaired_append hg hi.lspan.paired,
              by simpa [List.flatten_append, List.append_assoc] using
                ((hline.append (shows_closing st.lspan)).append hc.shows).append (shows_escape p)⟩ }
  · rw [if_neg hswitch]
    exact { lspan := hi.lspan, done_clean := hi.done_clean, done_shown := hi.done_shown,
            lines_nl := hi.lines_nl, cur_nl := hcur_nl, building := by simp [hp0],
            line_shows := fun _ => ⟨g, hg, by
              simpa [List.flatten_append] using hline.append (shows_escape p)⟩ }

theorem Inv.breakLines (hc : Opener cspan) : ∀ (ps : List (List Char)), (∀ p ∈ ps, '\n' ∉ p) →
    ∀ {st : Lines} {L : List (List Char)} {cur : List Char}, st.Inv L cur →
    ∃ L' cur', ((ps.map escape).foldl (Lines.breakLine ['\n'] cspan) st).Inv L' cur' ∧
      linesText L' cur' = linesText L cur ++ (ps.map (· ++ ['\n'])).flatten
  | [], _, _, L, cur, hi => ⟨L, cur, hi, by simp⟩
  | p :: ps, hps, _, _, _, hi => by
    obtain ⟨L', cur', hi', htext⟩ := Inv.breakLines hc ps
      (fun q hq => hps q (List.mem_cons_of_mem _ hq)) (hi.breakLine hc (hps p List.mem_cons_self))
    refine ⟨L', cur', hi', ?_⟩
    rw [htext]
    simp [linesText, List.append_assoc]

theorem Inv.token {s : Settings} (hsep : s.lineseparator = "\n") (hi : st.Inv L cur)
    {t : TokenKind × String} (hc : Opener (spanOpener s t.1)) :
    ∃ L' cur', (st.token s t).Inv L' cur' ∧ linesText L' cur' = linesText L cur ++ t.2.toList := by
  have hnl := newline_not_mem_splitOn t.2.toList
  have hsepList : s.lineseparator.toList = ['\n'] := by rw [hsep]; rfl
  obtain ⟨L', cur', hi', htext⟩ := Inv.breakLines hc _
    (fun p hp => hnl p ((List.dropLast_sublist _).subset hp)) hi
  have hlast := newline_not_mem_splitOn_getLastD t.2.toList
  refine ⟨L', cur' ++ (t.2.toList.splitOn '\n').getLastD [], ?_, ?_⟩
  · have hparts : (escape t.2.toList).splitOn '\n' = (t.2.toList.splitOn '\n').map escape :=
      escape_splitOn _
    have hlastEq : ((t.2.toList.splitOn '\n').map escape).getLastD [] =
        escape ((t.2.toList.splitOn '\n').getLastD []) :=
      List.getLastD_map (f := escape) (a := [])
    simp only [Lines.token, Lines.put, hparts, hsepList, ← List.map_dropLast, hlastEq]
    exact hi'.extend hc hlast
  · rw [show linesText L' (cur' ++ (t.2.toList.splitOn '\n').getLastD []) =
        linesText L' cur' ++ (t.2.toList.splitOn '\n').getLastD [] by simp [linesText], htext,
      List.append_assoc]
    congr 1
    exact linesText_splitOn t.2.toList

theorem Inv.tokens {s : Settings} (hsep : s.lineseparator = "\n") :
    ∀ (ts : List (TokenKind × String)), (∀ t ∈ ts, Opener (spanOpener s t.1)) →
    ∀ {st : Lines} {L : List (List Char)} {cur : List Char}, st.Inv L cur →
    ∃ L' cur', (ts.foldl (Lines.token s) st).Inv L' cur' ∧
      linesText L' cur' = linesText L cur ++ (ts.map fun t => t.2.toList).flatten
  | [], _, _, L, cur, hi => ⟨L, cur, hi, by simp⟩
  | t :: ts, hts, _, _, _, hi => by
    obtain ⟨L₁, cur₁, hi₁, htext₁⟩ := hi.token hsep (hts t List.mem_cons_self)
    obtain ⟨L₂, cur₂, hi₂, htext₂⟩ :=
      Inv.tokens hsep ts (fun u hu => hts u (List.mem_cons_of_mem _ hu)) hi₁
    exact ⟨L₂, cur₂, hi₂, by simp [htext₂, htext₁, List.append_assoc]⟩

theorem Inv.finish (hi : st.Inv L cur) :
    (∀ l ∈ st.finish ['\n'], CleanLine l) ∧
      (st.finish ['\n']).map shown = textLines (linesText L cur) := by
  rw [textLines_linesText hi.lines_nl hi.cur_nl, ← hi.done_shown]
  unfold Lines.finish
  by_cases hidle : st.line = []
  · have hcur : cur = [] := hi.building.mp hidle
    simp only [hidle, hcur, if_true, List.append_nil]
    exact ⟨hi.done_clean, trivial⟩
  · obtain ⟨g, hg, hline⟩ := hi.line_shows hidle
    have hcur : cur ≠ [] := fun h => hidle (hi.building.mpr h)
    have hl : Shows (st.line ++ [closing st.lspan, ['\n']]).flatten (cur ++ ['\n'])
        (g ++ (opened st.lspan ++ closedBy st.lspan)) := by
      simpa [List.flatten_append, List.append_assoc] using
        (hline.append (shows_closing st.lspan)).append shows_newline
    have hclean : CleanLine (st.line ++ [closing st.lspan, ['\n']]).flatten :=
      CleanLine.of_shows hl (spansPaired_append hg hi.lspan.paired)
        (ends_newline st.line [closing st.lspan])
    simp only [hidle, hcur, if_false, List.map_append, List.map_singleton, hl.shown_eq]
    refine ⟨?_, trivial⟩
    intro l hl'
    rcases List.mem_append.mp hl' with hl' | hl'
    · exact hi.done_clean l hl'
    · rw [List.mem_singleton.mp hl']
      exact hclean

end Lines

/-! ## The lines of HTML output -/

section Output

variable {s : Settings} {ts : List (TokenKind × String)}

theorem shows_flatten :
    ∀ {ls : List (List Char)}, (∀ l ∈ ls, CleanLine l) →
      Shows ls.flatten (ls.map shown).flatten (ls.map tags).flatten
  | [], _ => Shows.nil
  | l :: ls, h => by
    simpa using (h l List.mem_cons_self).shows.append
      (shows_flatten (fun x hx => h x (List.mem_cons_of_mem _ hx)))

theorem formatLines_inv (hsep : s.lineseparator = "\n") (hpre : '>' ∉ s.classprefix.toList)
    (hkinds : ∀ t ∈ ts, ∀ part ∈ t.1.path, '>' ∉ part.toList) :
    ∃ L cur, (ts.foldl (Lines.token s) {}).Inv L cur ∧
      linesText L cur = (ts.map fun t => t.2.toList).flatten := by
  obtain ⟨L, cur, hi, htext⟩ := Lines.Inv.tokens hsep ts
    (fun t ht => opener_spanOpener hpre (hkinds t ht)) Lines.inv_start
  exact ⟨L, cur, hi, by simpa [linesText] using htext⟩

theorem formatLines_eq_finish (hsep : s.lineseparator = "\n") :
    formatLines s ts = (ts.foldl (Lines.token s) {}).finish ['\n'] := by
  have htoken : Lines.token s = fun st t => Lines.put ['\n'] (spanOpener s t.1) st t.2 := by
    funext st t
    simp [Lines.token, hsep]
  rw [htoken, formatLines, formatLinesWith, hsep]
  rfl

/-- **Each line of HTML output shows one line of the text.** For kinds none of whose names
holds a `>` and a class prefix without one, the lines that the line formatter gives out show,
in order, the lines of the text of the tokens, each with the line break that ends it, the last
given one if it has none. -/
theorem formatLines_shown (hsep : s.lineseparator = "\n") (hpre : '>' ∉ s.classprefix.toList)
    (hkinds : ∀ t ∈ ts, ∀ part ∈ t.1.path, '>' ∉ part.toList) :
    (formatLines s ts).map shown = textLines (ts.map fun t => t.2.toList).flatten := by
  obtain ⟨L, cur, hi, htext⟩ := formatLines_inv hsep hpre hkinds
  rw [formatLines_eq_finish hsep, ← htext]
  exact hi.finish.2

/-- **Each line of HTML output pairs its spans.** Under the same conditions, every line that
the line formatter gives out opens and closes its spans in turn, none inside another, and ends
with a line break. -/
theorem formatLines_clean (hsep : s.lineseparator = "\n") (hpre : '>' ∉ s.classprefix.toList)
    (hkinds : ∀ t ∈ ts, ∀ part ∈ t.1.path, '>' ∉ part.toList) :
    ∀ l ∈ formatLines s ts, CleanLine l := by
  obtain ⟨L, cur, hi, -⟩ := formatLines_inv hsep hpre hkinds
  rw [formatLines_eq_finish hsep]
  exact hi.finish.1

/-- **HTML output without wrapping encodes the token text, line by line.** For kinds none of
whose names holds a `>` and a class prefix without one, output without wrapping, with no
marked lines and lines ended by a line feed: shows exactly the text `S` of the tokens, with a
line break added when `S` is not empty and does not end with one; gives out lines that each
open and close their spans in turn, none inside another, and end with the line separator; and
gives out as many lines as `S` has. -/
theorem nowrap_output_shows_text_by_line (s : Settings) (ts : List (TokenKind × String))
    (hnowrap : s.nowrap = true) (hhl : s.hlLines = []) (hsep : s.lineseparator = "\n")
    (hpre : '>' ∉ s.classprefix.toList) (hkinds : ∀ t ∈ ts, ∀ part ∈ t.1.path, '>' ∉ part.toList) :
    let S := (ts.map fun t => t.2.toList).flatten
    shown (format s ts).toList = S ++ (if S ≠ [] ∧ S.getLast? ≠ some '\n' then ['\n'] else []) ∧
      (∀ l ∈ formatLines s ts, spansPaired (tags l) = true ∧ s.lineseparator.toList <:+ l) ∧
      (formatLines s ts).length = (textLines S).length := by
  intro S
  have hclean := formatLines_clean hsep hpre hkinds
  have hshown := formatLines_shown hsep hpre hkinds
  refine ⟨?_, fun l hl => ⟨(hclean l hl).paired, by rw [hsep]; exact (hclean l hl).ends⟩, ?_⟩
  · have hout : (format s ts).toList = (formatLines s ts).flatten := by
      simp [format, hnowrap, hhl]
    rw [hout, (shows_flatten hclean).shown_eq, hshown, textLines_flatten]
  · rw [← hshown, List.length_map]

/-- Two tokens, one of them with a character to escape and a line break, written without
wrapping. -/
theorem nowrap_output_shows_name_and_text :
    let s : Settings := { nowrap := true }
    let ts := [(TokenKind.name, "a<b\n"), (TokenKind.text, "c")]
    (s.nowrap = true ∧ s.hlLines = [] ∧ s.lineseparator = "\n" ∧ '>' ∉ s.classprefix.toList ∧
      ∀ t ∈ ts, ∀ part ∈ t.1.path, '>' ∉ part.toList) ∧
    let S := (ts.map fun t => t.2.toList).flatten
    (shown (format s ts).toList = S ++ (if S ≠ [] ∧ S.getLast? ≠ some '\n' then ['\n'] else []) ∧
      (∀ l ∈ formatLines s ts, spansPaired (tags l) = true ∧ s.lineseparator.toList <:+ l) ∧
      (formatLines s ts).length = (textLines S).length) :=
  ⟨⟨rfl, rfl, rfl, by decide, by decide⟩,
    nowrap_output_shows_text_by_line { nowrap := true } [(TokenKind.name, "a<b\n"), (TokenKind.text, "c")]
      rfl rfl rfl (by decide) (by decide)⟩

theorem spanName_with_gt_shows_tag_text :
    shown (format { nowrap := true } [(⟨["A>b"]⟩, "x")]).toList = "b\">x\n".toList := by
  decide

end Output

end Highlight.Html
