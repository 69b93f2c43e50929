import Highlight.Format.Latex
import Highlight.Proofs.Format.HtmlLines
import Highlight.Proofs.Format.StyleTable

/-!
# Reading escaped LaTeX back

LaTeX output escapes a text by passes of replacements over the whole text (`escape`): `\` and
the braces first become three characters that stand for them while escaping, and these and the
other special characters then become macros `\cpZxx{}`. No pass replaces what a later pass
writes (`foldl_swap`), so escaping works character by character (`escape_toList`), and each
character becomes either itself or the macro whose name the style definitions give the
character it stands for (`texChar_cases`).

Replacing each macro by its character, from left to right (`unescape`), therefore gives the
text back, with the three characters that stand for `\` and the braces read as these
(`unescape_escape`): a text that holds one of them is escaped as if it held the character it
stands for, so escaping is one-to-one exactly on texts that hold none of them
(`escape_eq_iff`).
-/

set_option autoImplicit false

namespace Highlight.Latex

variable {cp : String}

/-! ## Passes of replacements -/

/-- A character replaced by `r` when it is `c`. -/
def swap (c : Char) (r : List Char) (x : Char) : List Char := if x = c then r else [x]

/-- What a character becomes in passes of replacements: the text of the first pass that
replaces it, or the character itself. -/
def firstSwap (steps : List (Char × List Char)) (x : Char) : List Char :=
  ((steps.find? (·.1 == x)).map (·.2)).getD [x]

theorem toList_replaceChar (c : Char) (r s : String) :
    (replaceChar c r s).toList = s.toList.flatMap (swap c r.toList) := by
  simp only [replaceChar, String.toList_ofList]
  rfl

theorem toList_foldl_replaceChar (steps : List (Char × String)) (s : String) :
    (steps.foldl (fun acc r => replaceChar r.1 r.2 acc) s).toList =
      (steps.map fun r => (r.1, r.2.toList)).foldl (fun acc st => acc.flatMap (swap st.1 st.2))
        s.toList := by
  induction steps generalizing s with
  | nil => rfl
  | cons st steps ih => simp only [List.foldl_cons, List.map_cons, ih, toList_replaceChar]

theorem firstSwap_of_forall_ne {steps : List (Char × List Char)} {y : Char}
    (h : ∀ b ∈ steps, b.1 ≠ y) : firstSwap steps y = [y] := by
  have hnone : steps.find? (·.1 == y) = none :=
    List.find?_eq_none.mpr fun b hb => by simpa using h b hb
  simp [firstSwap, hnone]

/-- Passes of replacements, none of which writes a character that a later one replaces, replace
each character by the text of the first pass that replaces it. -/
theorem foldl_swap {steps : List (Char × List Char)} (hsep : steps.Pairwise fun a b => b.1 ∉ a.2)
    (l : List Char) :
    steps.foldl (fun acc st => acc.flatMap (swap st.1 st.2)) l = l.flatMap (firstSwap steps) := by
  induction steps generalizing l with
  | nil => exact (List.flatMap_singleton' l).symm
  | cons st steps ih =>
    rw [List.pairwise_cons] at hsep
    rw [List.foldl_cons, ih hsep.2, List.flatMap_assoc]
    apply List.flatMap_congr
    intro x _
    by_cases hx : x = st.1
    · -- the pass of `st` writes its text, which no later pass touches
      subst hx
      have hkeep : ∀ y ∈ st.2, firstSwap steps y = [y] := fun y hy =>
        firstSwap_of_forall_ne fun b hb hby => hsep.1 b hb (hby ▸ hy)
      rw [swap, if_pos rfl, List.flatMap_congr hkeep, List.flatMap_singleton']
      simp [firstSwap]
    · have hne : (st.1 == x) = false := beq_false_of_ne (Ne.symm hx)
      simp [swap, hx, firstSwap, hne]

/-! ## Escaping character by character -/

/-- The passes that replace `\` and the braces by the characters that stand for them. -/
def placeholderSteps : List (Char × List Char) :=
  [('\\', ['\x00']), ('\x7b', ['\x01']), ('\x7d', ['\x02'])]

/-- The passes that write macros. -/
def macroSteps (cp : String) : List (Char × List Char) :=
  macroNames.map fun m => (m.1, (zMacro cp m.2).toList)

/-- The character that stands for `x` while escaping: `\` and the braces are held by three
characters, the others by themselves. -/
def hold (x : Char) : Char :=
  if x = '\\' then '\x00' else if x = '\x7b' then '\x01' else if x = '\x7d' then '\x02' else x

/-- The character that `x` stands for while escaping: the three that hold `\` and the braces
stand for these, the others for themselves. -/
def unplace (x : Char) : Char :=
  if x = '\x00' then '\\' else if x = '\x01' then '\x7b' else if x = '\x02' then '\x7d' else x

/-- The text a character is escaped to. -/
def texChar (cp : String) (x : Char) : List Char :=
  (firstSwap placeholderSteps x).flatMap (firstSwap (macroSteps cp))

/-- A command prefix of ASCII letters. -/
def Letters (cp : String) : Prop := ∀ c ∈ cp.toList, c.isAlpha = true

-- the instance for `∀` over all characters would be found first and run through all of them
instance (cp : String) : Decidable (Letters cp) := List.decidableBAll _ cp.toList

theorem zMacro_toList (cp name : String) :
    (zMacro cp name).toList = '\\' :: cp.toList ++ 'Z' :: name.toList ++ ['\x7b', '\x7d'] := by
  simp [zMacro, brace]

theorem escapeSteps_toList (cp : String) :
    (escapeSteps cp).map (fun r => (r.1, r.2.toList)) = placeholderSteps ++ macroSteps cp := by
  simp [escapeSteps, placeholderSteps, macroSteps]

theorem macroNames_apart :
    ∀ m ∈ macroNames, ∀ m' ∈ macroNames, m'.1 ∉ m.2.toList ∧ m'.1 ≠ '\\' ∧ m'.1 ≠ 'Z' ∧
      m'.1 ≠ '\x7b' ∧ m'.1 ≠ '\x7d' ∧ m'.1.isAlpha = false := by
  decide

theorem macroSteps_apart (hcp : Letters cp) :
    (macroSteps cp).Pairwise fun a b => b.1 ∉ a.2 := by
  unfold macroSteps
  rw [List.pairwise_map]
  apply List.pairwise_of_forall_mem_list
  intro m hm m' hm'
  obtain ⟨hname, hbs, hZ, hob, hcb, halpha⟩ := macroNames_apart m hm m' hm'
  have hletter : m'.1 ∉ cp.toList := fun hin => by simp [hcp _ hin] at halpha
  rw [zMacro_toList]
  simp [hbs, hletter, hZ, hname, hob, hcb]

theorem firstSwap_placeholder (x : Char) : firstSwap placeholderSteps x = [hold x] := by
  unfold firstSwap placeholderSteps hold
  by_cases h0 : x = '\\'
  · simp [h0]
  by_cases h1 : x = '\x7b'
  · simp [h1]
  by_cases h2 : x = '\x7d'
  · simp [h2]
  have hb : ('\\' == x) = false := beq_false_of_ne (Ne.symm h0)
  have hb1 : ('\x7b' == x) = false := beq_false_of_ne (Ne.symm h1)
  have hb2 : ('\x7d' == x) = false := beq_false_of_ne (Ne.symm h2)
  simp [hb, hb1, hb2, h0, h1, h2]

theorem escape_toList (hcp : Letters cp) (s : String) :
    (escape cp s).toList = s.toList.flatMap (texChar cp) := by
  have hplace : placeholderSteps.Pairwise fun a b => b.1 ∉ a.2 := by decide
  rw [escape, toList_foldl_replaceChar, escapeSteps_toList, List.foldl_append, foldl_swap hplace,
    foldl_swap (macroSteps_apart hcp), List.flatMap_assoc]
  rfl

/-! ## The macros and their characters -/

/-- The characters that the style definitions give the macros `\cpZxx{}`, by name. -/
def zChars : List (String × Char) :=
  [("bs", '\\'), ("us", '_'), ("ob", '\x7b'), ("cb", '\x7d'), ("ca", '^'), ("am", '&'),
    ("lt", '<'), ("gt", '>'), ("sh", '#'), ("pc", '%'), ("dl", '$'), ("hy", '-'), ("sq", '\x27'),
    ("dq", '\x22'), ("ti", '~'), ("at", '@'), ("lb", '['), ("rb", ']')]

theorem macroNames_zChars : ∀ m ∈ macroNames, (m.2, unplace m.1) ∈ zChars := by
  decide

theorem unplace_hold (x : Char) : unplace (hold x) = unplace x := by
  by_cases h0 : x = '\\'
  · subst h0
    decide
  by_cases h1 : x = '\x7b'
  · subst h1
    decide
  by_cases h2 : x = '\x7d'
  · subst h2
    decide
  simp [hold, h0, h1, h2]

theorem firstSwap_macroSteps (cp : String) (y : Char) :
    firstSwap (macroSteps cp) y =
      ((macroNames.find? (·.1 == y)).map fun m => (zMacro cp m.2).toList).getD [y] := by
  simp only [firstSwap, macroSteps, List.find?_map, Option.map_map]
  rfl

theorem texChar_cases (cp : String) (x : Char) :
    (∃ n, texChar cp x = (zMacro cp n).toList ∧ (n, unplace x) ∈ zChars) ∨
      (texChar cp x = [x] ∧ x ≠ '\\' ∧ x ≠ '\x7b' ∧ x ≠ '\x7d' ∧ unplace x = x) := by
  rw [texChar, firstSwap_placeholder, List.flatMap_singleton, firstSwap_macroSteps]
  cases hfind : macroNames.find? (·.1 == hold x) with
  | some m =>
    obtain ⟨hm, hmx⟩ : m ∈ macroNames ∧ m.1 = hold x := by
      have := List.mem_of_find?_eq_some hfind
      have := List.find?_some hfind
      simp_all
    left
    refine ⟨m.2, rfl, ?_⟩
    rw [← unplace_hold, ← hmx]
    exact macroNames_zChars m hm
  | none =>
    -- the characters that hold `\` and the braces have macros, so `x` is none of these
    have hnot : ∀ m ∈ macroNames, m.1 ≠ hold x := fun m hm h => by
      have := List.find?_eq_none.mp hfind m hm
      simp_all
    have hheld : hold x ≠ '\x00' ∧ hold x ≠ '\x01' ∧ hold x ≠ '\x02' :=
      ⟨(hnot ('\x00', "bs") (by decide)).symm, (hnot ('\x01', "ob") (by decide)).symm,
        (hnot ('\x02', "cb") (by decide)).symm⟩
    have h0 : x ≠ '\\' := fun h => by simp [h, hold] at hheld
    have h1 : x ≠ '\x7b' := fun h => by simp [h, hold] at hheld
    have h2 : x ≠ '\x7d' := fun h => by simp [h, hold] at hheld
    have hx : hold x = x := by simp [hold, h0, h1, h2]
    rw [hx] at hheld
    right
    refine ⟨by rw [hx]; rfl, h0, h1, h2, ?_⟩
    simp [unplace, hheld.1, hheld.2.1, hheld.2.2]


theorem zChars_letters : ∀ z ∈ zChars, Letters z.1 := by
  decide

theorem zChars_length : ∀ z ∈ zChars, z.1.toList.length = 2 := by
  decide

theorem zChars_unique : ∀ z ∈ zChars, ∀ z' ∈ zChars, z.1 = z'.1 → z = z' := by
  decide

/-! ## Reading macros back -/

/-- Text with each macro `\cpZxx{}` replaced by its character, read from left to right. -/
def unescape (cp : String) : List Char → List Char
  | [] => []
  | c :: rest =>
    match zChars.find? (fun z => (zMacro cp z.1).toList.isPrefixOf (c :: rest)) with
    | some z => z.2 :: unescape cp ((c :: rest).drop (zMacro cp z.1).toList.length)
    | none => c :: unescape cp rest
termination_by l => l.length
decreasing_by all_goals simp [zMacro_toList]

theorem unescape_nil : unescape cp [] = [] := by
  rw [unescape]

theorem zMacro_inj {m n : String} (h : (zMacro cp m).toList = (zMacro cp n).toList) : m = n := by
  exact String.toList_inj.mp (by simpa [zMacro_toList] using h)

theorem isPrefixOf_zMacro {m n : String} (hmn : m.toList.length = n.toList.length)
    (rest : List Char) :
    (zMacro cp m).toList.isPrefixOf ((zMacro cp n).toList ++ rest) = true ↔ m = n := by
  constructor
  · intro h
    have hlen : (zMacro cp m).toList.length = (zMacro cp n).toList.length := by
      simp [zMacro_toList, hmn]
    apply zMacro_inj
    rw [List.prefix_iff_eq_take.mp (List.isPrefixOf_iff_prefix.mp h), List.take_left' hlen.symm]
  · rintro rfl
    exact List.isPrefixOf_iff_prefix.mpr (List.prefix_append _ _)

theorem find?_zChars {n : String} {c : Char} (hn : (n, c) ∈ zChars) (rest : List Char) :
    zChars.find? (fun z => (zMacro cp z.1).toList.isPrefixOf ((zMacro cp n).toList ++ rest)) =
      some (n, c) := by
  cases hfind : zChars.find? _ with
  | none =>
    have := List.find?_eq_none.mp hfind (n, c) hn
    simp [(isPrefixOf_zMacro rfl rest).mpr rfl] at this
  | some z =>
    have hz := List.mem_of_find?_eq_some hfind
    have hp := List.find?_some hfind
    have hlen : z.1.toList.length = n.toList.length := by
      rw [zChars_length z hz, zChars_length _ hn]
    rw [isPrefixOf_zMacro hlen] at hp
    rw [zChars_unique z hz (n, c) hn hp]

theorem unescape_zMacro {n : String} {c : Char} (hn : (n, c) ∈ zChars) (rest : List Char) :
    unescape cp ((zMacro cp n).toList ++ rest) = c :: unescape cp rest := by
  obtain ⟨t, ht⟩ : ∃ t, (zMacro cp n).toList = '\\' :: t := ⟨_, zMacro_toList cp n⟩
  rw [ht, List.cons_append, unescape, ← List.cons_append, ← ht, find?_zChars hn]
  simp

theorem unescape_cons {x : Char} (hx : x ≠ '\\') (rest : List Char) :
    unescape cp (x :: rest) = x :: unescape cp rest := by
  have hnone : zChars.find? (fun z => (zMacro cp z.1).toList.isPrefixOf (x :: rest)) = none :=
    List.find?_eq_none.mpr fun z _ => by simp [zMacro_toList, Ne.symm hx]
  rw [unescape, hnone]

theorem unescape_texChars (xs rest : List Char) :
    unescape cp (xs.flatMap (texChar cp) ++ rest) = xs.map unplace ++ unescape cp rest := by
  induction xs with
  | nil => rfl
  | cons x xs ih =>
    rw [List.flatMap_cons, List.append_assoc, List.map_cons]
    rcases texChar_cases cp x with ⟨n, hx, hn⟩ | ⟨hx, hbs, -, -, hu⟩
    · rw [hx, unescape_zMacro hn, ih]
      rfl
    · rw [hx, List.singleton_append, unescape_cons hbs, ih, hu]
      rfl

theorem unescape_escape (hcp : Letters cp) (s : String) :
    unescape cp (escape cp s).toList = s.toList.map unplace := by
  have h := @unescape_texChars cp s.toList []
  rw [List.append_nil, unescape_nil, List.append_nil] at h
  rw [escape_toList hcp, h]


theorem hold_unplace (x : Char) : hold (unplace x) = hold x := by
  by_cases h0 : x = '\x00'
  · subst h0
    decide
  by_cases h1 : x = '\x01'
  · subst h1
    decide
  by_cases h2 : x = '\x02'
  · subst h2
    decide
  simp [unplace, h0, h1, h2]

theorem texChar_unplace (cp : String) (x : Char) : texChar cp (unplace x) = texChar cp x := by
  rw [texChar, texChar, firstSwap_placeholder, firstSwap_placeholder, hold_unplace]

theorem escape_eq_iff (hcp : Letters cp) (a b : String) :
    escape cp a = escape cp b ↔ a.toList.map unplace = b.toList.map unplace := by
  constructor
  · intro h
    rw [← unescape_escape hcp, ← unescape_escape hcp, h]
  · intro h
    have hmap : ∀ l : List Char, (l.map unplace).flatMap (texChar cp) = l.flatMap (texChar cp) :=
      fun l => by simp [List.flatMap_map, texChar_unplace]
    apply String.toList_inj.mp
    rw [escape_toList hcp, escape_toList hcp, ← hmap, h, hmap]


/-! ## Taking the wrappers away -/

/-- A text with the wrappers `\cp{names}{...}` that LaTeX output puts around the pieces of
tokens taken away and the pieces kept. Outside a wrapper (`none`), `\` followed by the command
prefix and an opening brace starts one: the names up to the first closing brace are skipped,
with the opening brace after it. Inside, `some d` counts the braces opened and not yet closed,
and a closing brace with none open ends the wrapper. -/
def unwrap (cp : String) : Option Nat → List Char → List Char
  | _, [] => []
  | none, c :: rest =>
    if c = '\\' ∧ (cp.toList ++ ['\x7b']).isPrefixOf rest = true then
      unwrap cp (some 0) (((rest.drop (cp.toList.length + 1)).dropWhile (· != '\x7d')).drop 2)
    else c :: unwrap cp none rest
  | some d, c :: rest =>
    if c = '\x7b' then c :: unwrap cp (some (d + 1)) rest
    else if c = '\x7d' then
      if d = 0 then unwrap cp none rest else c :: unwrap cp (some (d - 1)) rest
    else c :: unwrap cp (some d) rest
termination_by _ l => l.length
decreasing_by
  all_goals simp
  have h := (@List.dropWhile_suffix _ (rest.drop (cp.toList.length + 1)) (· != '\x7d')).length_le
  simp at h
  omega

theorem unwrap_nil (o : Option Nat) : unwrap cp o [] = [] := by
  cases o <;> rw [unwrap]

theorem unwrap_none_cons {x : Char} (hx : x ≠ '\\') (r : List Char) :
    unwrap cp none (x :: r) = x :: unwrap cp none r := by
  rw [unwrap, if_neg fun h => hx h.1]

theorem unwrap_cons {x : Char} (hx : x ≠ '\\' ∧ x ≠ '\x7b' ∧ x ≠ '\x7d') (o : Option Nat)
    (r : List Char) : unwrap cp o (x :: r) = x :: unwrap cp o r := by
  cases o with
  | none => exact unwrap_none_cons hx.1 r
  | some d => rw [unwrap, if_neg hx.2.1, if_neg hx.2.2]

theorem unwrap_letters {l : List Char} (hl : ∀ y ∈ l, y.isAlpha = true) (o : Option Nat)
    (r : List Char) : unwrap cp o (l ++ r) = l ++ unwrap cp o r := by
  induction l with
  | nil => rfl
  | cons y l ih =>
    have hy := hl y List.mem_cons_self
    have hne : y ≠ '\\' ∧ y ≠ '\x7b' ∧ y ≠ '\x7d' := by
      refine ⟨?_, ?_, ?_⟩ <;> (rintro rfl; exact absurd hy (by decide))
    rw [List.cons_append, unwrap_cons hne, ih fun z hz => hl z (List.mem_cons_of_mem _ hz)]
    rfl

theorem unwrap_braces (o : Option Nat) (r : List Char) :
    unwrap cp o ('\x7b' :: '\x7d' :: r) = '\x7b' :: '\x7d' :: unwrap cp o r := by
  cases o with
  | none => rw [unwrap_none_cons (by decide), unwrap_none_cons (by decide)]
  | some d => simp [unwrap]

theorem unwrap_zMacro (hcp : Letters cp) {n : String} {c : Char} (hn : (n, c) ∈ zChars)
    (o : Option Nat) (r : List Char) :
    unwrap cp o ((zMacro cp n).toList ++ r) = (zMacro cp n).toList ++ unwrap cp o r := by
  have hbody : ∀ y ∈ cp.toList ++ 'Z' :: n.toList, y.isAlpha = true := by
    simp only [List.mem_append, List.mem_cons]
    rintro y (hy | rfl | hy)
    · exact hcp y hy
    · rfl
    · exact zChars_letters _ hn y hy
  have hopen : ¬(cp.toList ++ ['\x7b']).isPrefixOf
      (cp.toList ++ 'Z' :: (n.toList ++ '\x7b' :: '\x7d' :: r)) = true := by
    rw [List.isPrefixOf_iff_prefix, List.prefix_append_right_inj]
    simp
  have hstep : unwrap cp o ('\\' :: (cp.toList ++ 'Z' :: (n.toList ++ '\x7b' :: '\x7d' :: r))) =
      '\\' :: unwrap cp o (cp.toList ++ 'Z' :: (n.toList ++ '\x7b' :: '\x7d' :: r)) := by
    cases o with
    | none => rw [unwrap, if_neg fun h => hopen h.2]
    | some d => rw [unwrap, if_neg (by decide), if_neg (by decide)]
  have hletters := @unwrap_letters cp _ hbody o ('\x7b' :: '\x7d' :: r)
  simp only [List.cons_append, List.append_assoc] at hletters
  simp only [zMacro_toList, List.cons_append, List.append_assoc, List.nil_append]
  rw [hstep, hletters, unwrap_braces]


theorem unwrap_texChars (hcp : Letters cp) (xs : List Char) (o : Option Nat) (r : List Char) :
    unwrap cp o (xs.flatMap (texChar cp) ++ r) = xs.flatMap (texChar cp) ++ unwrap cp o r := by
  induction xs with
  | nil => rfl
  | cons x xs ih =>
    rw [List.flatMap_cons, List.append_assoc, List.append_assoc]
    rcases texChar_cases cp x with ⟨n, hx, hn⟩ | ⟨hx, hbs, hob, hcb, -⟩
    · rw [hx, unwrap_zMacro hcp hn, ih]
    · rw [hx, List.singleton_append, unwrap_cons ⟨hbs, hob, hcb⟩, ih]
      rfl

theorem unwrap_wrapper (hcp : Letters cp) {names : List Char} (hnames : '\x7d' ∉ names)
    (xs r : List Char) :
    unwrap cp none ('\\' :: (cp.toList ++ '\x7b' :: (names ++ '\x7d' :: '\x7b' ::
      (xs.flatMap (texChar cp) ++ '\x7d' :: r)))) = xs.flatMap (texChar cp) ++ unwrap cp none r := by
  have hopen : (cp.toList ++ ['\x7b']).isPrefixOf (cp.toList ++ '\x7b' :: (names ++ '\x7d' ::
      '\x7b' :: (xs.flatMap (texChar cp) ++ '\x7d' :: r))) = true :=
    List.isPrefixOf_iff_prefix.mpr (by simp)
  -- the names are skipped up to their closing brace, then the brace that opens the piece
  have hskip : ((cp.toList ++ '\x7b' :: (names ++ '\x7d' :: '\x7b' ::
      (xs.flatMap (texChar cp) ++ '\x7d' :: r))).drop (cp.toList.length + 1)).dropWhile
        (· != '\x7d') = '\x7d' :: '\x7b' :: (xs.flatMap (texChar cp) ++ '\x7d' :: r) := by
    rw [← List.singleton_append, ← List.append_assoc, List.drop_left' (by simp),
      List.dropWhile_append_of_pos fun y hy => bne_iff_ne.mpr fun (h : y = '\x7d') => hnames (h ▸ hy)]
    simp
  rw [unwrap, if_pos ⟨rfl, hopen⟩, hskip, List.drop_succ_cons, List.drop_succ_cons, List.drop_zero,
    unwrap_texChars hcp, unwrap]
  simp


/-! ## Lines -/

theorem zChars_not_newline : ∀ z ∈ zChars, z.2 ≠ '\n' := by
  decide

theorem texChar_newline (cp : String) : texChar cp '\n' = ['\n'] := by
  rcases texChar_cases cp '\n' with ⟨n, -, hn⟩ | ⟨h, -⟩
  · exact absurd rfl (zChars_not_newline _ hn)
  · exact h

theorem newline_not_mem_texChar (hcp : Letters cp) {x : Char} (hx : x ≠ '\n') :
    '\n' ∉ texChar cp x := by
  rcases texChar_cases cp x with ⟨n, h, hn⟩ | ⟨h, -⟩
  · rw [h, zMacro_toList]
    have hname : '\n' ∉ n.toList := fun hin => absurd (zChars_letters _ hn _ hin) (by decide)
    have hpre : '\n' ∉ cp.toList := fun hin => absurd (hcp _ hin) (by decide)
    simp [hname, hpre]
  · simpa [h] using Ne.symm hx

theorem escape_splitOn (hcp : Letters cp) (S : List Char) :
    (S.flatMap (texChar cp)).splitOn '\n' = (S.splitOn '\n').map (·.flatMap (texChar cp)) := by
  have hjoin : ∀ ls : List (List Char), (['\n'].intercalate ls).flatMap (texChar cp) =
      ['\n'].intercalate (ls.map (·.flatMap (texChar cp))) := by
    intro ls
    induction ls with
    | nil => rfl
    | cons x ls ih =>
      cases ls with
      | nil => simp
      | cons y ls =>
        rw [List.intercalate_cons_cons, List.flatMap_append, List.flatMap_append, ih]
        simp [texChar_newline, List.intercalate_cons_cons]
  have hpieces : ∀ l ∈ (S.splitOn '\n').map (·.flatMap (texChar cp)), '\n' ∉ l := by
    intro l hl
    obtain ⟨x, hx, rfl⟩ := List.mem_map.mp hl
    simp only [List.mem_flatMap, not_exists, not_and]
    intro c hc
    exact newline_not_mem_texChar hcp fun h => Html.newline_not_mem_splitOn S x hx (h ▸ hc)
  calc (S.flatMap (texChar cp)).splitOn '\n'
      = ((['\n'].intercalate (S.splitOn '\n')).flatMap (texChar cp)).splitOn '\n' := by
        rw [List.intercalate_splitOn]
    _ = (S.splitOn '\n').map (·.flatMap (texChar cp)) := by
        rw [hjoin]
        exact List.splitOn_intercalate '\n' hpieces (by simp)

/-- A piece of a token's text in the wrapper of its names. -/
def wrapPiece (cp names piece : String) : String :=
  if piece = "" then "" else "\\" ++ cp ++ brace names ++ brace piece

/-- The pieces of a token's text in their wrappers, one line after another. -/
def wrapLines (cp names : String) (pieces : List String) : String :=
  String.join (pieces.dropLast.map (wrapPiece cp names · ++ "\n")) ++
    wrapPiece cp names (pieces.getLastD "")

theorem token_eq (s : Settings) (k : TokenKind) (v : String) :
    s.token k v = if "+".intercalate (chainNames k) = "" then s.text k v
      else wrapLines s.commandprefix ("+".intercalate (chainNames k))
        (((s.text k v).toList.splitOn '\n').map String.ofList) :=
  rfl

theorem wrapLines_cons_cons (cp names p q : String) (ps : List String) :
    (wrapLines cp names (p :: q :: ps)).toList =
      (wrapPiece cp names p).toList ++ '\n' :: (wrapLines cp names (q :: ps)).toList := by
  simp [wrapLines, List.dropLast_cons_cons]

theorem unwrap_wrapPiece (hcp : Letters cp) {names : String} (hnames : '\x7d' ∉ names.toList)
    (xs r : List Char) :
    unwrap cp none ((wrapPiece cp names (String.ofList (xs.flatMap (texChar cp)))).toList ++ r) =
      xs.flatMap (texChar cp) ++ unwrap cp none r := by
  by_cases he : xs.flatMap (texChar cp) = []
  · simp [wrapPiece, he]
  · have hne : String.ofList (xs.flatMap (texChar cp)) ≠ "" := by
      rwa [ne_eq, ← String.toList_inj, String.toList_ofList]
    simp only [wrapPiece, if_neg hne, brace, String.toList_append, String.toList_ofList]
    simpa using unwrap_wrapper hcp hnames xs r

theorem unwrap_wrapLines (hcp : Letters cp) {names : String} (hnames : '\x7d' ∉ names.toList) :
    ∀ (P : List (List Char)) (r : List Char),
      unwrap cp none ((wrapLines cp names
        (P.map fun p => String.ofList (p.flatMap (texChar cp)))).toList ++ r) =
        (['\n'].intercalate P).flatMap (texChar cp) ++ unwrap cp none r
  | [], r => by simp [wrapLines, wrapPiece]
  | [p], r => by simpa [wrapLines] using unwrap_wrapPiece hcp hnames p r
  | p :: q :: P, r => by
    have ih := unwrap_wrapLines hcp hnames (q :: P)
    rw [List.map_cons] at ih
    rw [List.map_cons, List.map_cons, wrapLines_cons_cons, List.append_assoc,
      unwrap_wrapPiece hcp hnames, List.cons_append, unwrap_none_cons (by decide), ih,
      List.intercalate_cons_cons]
    simp [texChar_newline]


/-! ## Whole output -/

theorem text_eq_escape {s : Settings} (htc : s.texcomments = false) (hme : s.mathescape = false)
    (hei : s.escapeinside = none) {k : TokenKind} (hk : TokenKind.escape.contains k = false)
    (v : String) : s.text k v = escape s.commandprefix v := by
  unfold Settings.text
  split <;> simp [htc, hme, hei, hk]

theorem not_mem_joinedNameUp {c : Char} {sep : String} (hsep : c ∉ sep.toList)
    (hshort : ∀ p ∈ TokenKind.standardNames, c ∉ p.2.toList) :
    ∀ {up : List String}, (∀ part ∈ up, c ∉ part.toList) →
      c ∉ (TokenKind.joinedNameUp sep up).toList
  | [], _ => by simp [TokenKind.joinedNameUp]
  | part :: up, h => by
    have ih := not_mem_joinedNameUp hsep hshort (fun x hx => h x (List.mem_cons_of_mem _ hx))
    rw [TokenKind.joinedNameUp]
    split
    · rename_i name hname
      obtain ⟨p, hp, rfl⟩ := Html.exists_mem_of_lookup hname
      exact hshort p hp
    · simp [ih, hsep, h part List.mem_cons_self]

theorem rb_not_mem_names {k : TokenKind} (hk : ∀ part ∈ k.path, '\x7d' ∉ part.toList) :
    '\x7d' ∉ ("+".intercalate (chainNames k)).toList := by
  rw [String.toList_intercalate]
  apply Html.not_mem_intercalate (by decide)
  intro l hl
  obtain ⟨n, hn, rfl⟩ := List.mem_map.mp hl
  obtain ⟨a, ha, rfl⟩ := List.mem_map.mp hn
  have hpre := TokenKind.mem_chain_iff.mp (List.mem_of_mem_drop ha)
  exact not_mem_joinedNameUp (by decide) (by decide) fun part hpart =>
    hk part (hpre.subset (List.mem_reverse.mp hpart))

theorem unwrap_token {s : Settings} (hcp : Letters s.commandprefix) {k : TokenKind} {v : String}
    (htext : s.text k v = escape s.commandprefix v)
    (hnames : '\x7d' ∉ ("+".intercalate (chainNames k)).toList) (r : List Char) :
    unwrap s.commandprefix none ((s.token k v).toList ++ r) =
      v.toList.flatMap (texChar s.commandprefix) ++ unwrap s.commandprefix none r := by
  rw [token_eq, htext]
  split
  · rw [escape_toList hcp, unwrap_texChars hcp]
  · rw [escape_toList hcp, escape_splitOn hcp, List.map_map]
    have h := unwrap_wrapLines hcp hnames (v.toList.splitOn '\n') r
    rwa [List.intercalate_splitOn] at h

theorem unwrap_format {s : Settings} (hcp : Letters s.commandprefix) (hnowrap : s.nowrap = true)
    {ts : List (TokenKind × String)}
    (hts : ∀ t ∈ ts, s.text t.1 t.2 = escape s.commandprefix t.2 ∧
      '\x7d' ∉ ("+".intercalate (chainNames t.1)).toList) :
    unwrap s.commandprefix none (s.format ts).toList =
      (escape s.commandprefix (String.join (ts.map (·.2)))).toList := by
  -- the tokens one after another, with what follows them kept apart
  have hbody : ∀ r, unwrap s.commandprefix none
      ((String.join (ts.map fun t => s.token t.1 t.2)).toList ++ r) =
      (String.join (ts.map (·.2))).toList.flatMap (texChar s.commandprefix) ++
        unwrap s.commandprefix none r := by
    induction ts with
    | nil => intro r; rfl
    | cons t ts ih =>
      intro r
      obtain ⟨htext, hnames⟩ := hts t List.mem_cons_self
      simp only [List.map_cons, String.join_cons, String.toList_append, List.append_assoc,
        List.flatMap_append]
      rw [unwrap_token hcp htext hnames, ih fun u hu => hts u (List.mem_cons_of_mem _ hu)]
  have h := hbody []
  rw [List.append_nil, unwrap_nil, List.append_nil] at h
  rw [Settings.format, if_pos hnowrap, h, escape_toList hcp]

/-- Escaped text reads back character by character, each character as the one it stands for,
so escaping is one-to-one up to these. Taking the wrappers away from LaTeX output without its
environment, with the options for comments off and no tokens of the escape kinds or closing
braces in the kinds' names, and reading it back gives the tokens' text in the same way. -/
theorem escape_reads_back (hcp : Letters cp) :
    (∀ text : String, unescape cp (escape cp text).toList = text.toList.map unplace) ∧
    (∀ a b : String, escape cp a = escape cp b ↔ a.toList.map unplace = b.toList.map unplace) ∧
    ∀ (s : Settings) (ts : List (TokenKind × String)), s.commandprefix = cp → s.nowrap = true →
      s.texcomments = false → s.mathescape = false → s.escapeinside = none →
      (∀ t ∈ ts, TokenKind.escape.contains t.1 = false ∧ ∀ part ∈ t.1.path, '\x7d' ∉ part.toList) →
      unescape cp (unwrap cp none (s.format ts).toList) =
        (String.join (ts.map (·.2))).toList.map unplace := by
  refine ⟨unescape_escape hcp, escape_eq_iff hcp, ?_⟩
  rintro s ts rfl hnowrap htc hme hei hts
  have htokens : ∀ t ∈ ts, s.text t.1 t.2 = escape s.commandprefix t.2 ∧
      '\x7d' ∉ ("+".intercalate (chainNames t.1)).toList :=
    fun t ht => ⟨text_eq_escape htc hme hei (hts t ht).1 t.2, rb_not_mem_names (hts t ht).2⟩
  rw [unwrap_format hcp hnowrap htokens, unescape_escape hcp]

theorem escape_reads_back_name : Letters "PY" ∧
    unescape "PY" (unwrap "PY" none (({ nowrap := true } : Settings).format
      [(TokenKind.name, "\\x\x7b\n\x7d")]).toList) = "\\x\x7b\n\x7d".toList.map unplace :=
  have hcp : Letters "PY" := by decide
  ⟨hcp, (escape_reads_back hcp).2.2 { nowrap := true } [(TokenKind.name, "\\x\x7b\n\x7d")] rfl rfl rfl
    rfl rfl (by decide)⟩

end Highlight.Latex
