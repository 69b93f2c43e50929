import Highlight.Format.Terminal256
import Highlight.Proofs.Format.HtmlLines
import Highlight.Proofs.Format.StyleTable
import Highlight.Proofs.Lexers.RobotText

/-!
# Terminal and IRC output read back

A terminal reads output by applying each SGR sequence `ESC [ params m` to its attributes and
showing the other characters (`Attrs.read`). An IRC client toggles bold at `\x02` and italic at
`\x1d` and reads a colour code at `\x03`: up to two digits and, when a comma and a digit follow,
the comma and up to two digits more (`IrcAttrs.read`). Both readers also tell whether every line
feed came with no attribute set.

Output is read back piece by piece (`ReadsBack`): codes change the attributes and show nothing,
text shows itself, and every output undoes after a piece what it set before it. So terminal
output reads back as the tokens' text, with every line feed outside the attributes, when no
token holds an escape character and, with 256 colours, no colour is `ansiwhite`: the console
code of white is bold, which the output does not undo (`terminal_output_reads_back`). IRC
output reads back the same way when no token holds IRC's control characters, no line of a token
starts with a comma, and none written without codes starts with a digit. A colour code takes the
digits after it, so a digit that follows one is lost (`irc_digit_after_colour_lost`).
-/

set_option autoImplicit false

namespace Highlight.Terminal

open Style

/-! ## Reading output back piece by piece -/

/-- A reader gives back `text` for the output `out`, whatever follows it that `guard` allows. -/
def ReadsBack (R : List Char → List Char × Bool) (guard : List Char → Prop) (out text : List Char) :
    Prop :=
  ∀ rest, guard rest → R (out ++ rest) = (text ++ (R rest).1, (R rest).2)

/-- Output that the guard allows what follows of, when it allows what follows the output. -/
def Keeps (guard : List Char → Prop) (out : List Char) : Prop :=
  ∀ rest, guard rest → guard (out ++ rest)

namespace ReadsBack

variable {R : List Char → List Char × Bool} {guard : List Char → Prop}

theorem nil : ReadsBack R guard [] [] := fun _ _ => rfl

theorem append {o₁ t₁ o₂ t₂ : List Char} (h₁ : ReadsBack R guard o₁ t₁)
    (h₂ : ReadsBack R guard o₂ t₂) (hk : Keeps guard o₂) :
    ReadsBack R guard (o₁ ++ o₂) (t₁ ++ t₂) := by
  intro rest hr
  rw [List.append_assoc, h₁ _ (hk rest hr), h₂ rest hr, List.append_assoc]

theorem flatMap {α : Type} {f g : α → List Char} :
    ∀ {xs : List α}, (∀ x ∈ xs, ReadsBack R guard (f x) (g x) ∧ Keeps guard (f x)) →
      ReadsBack R guard (xs.flatMap f) (xs.flatMap g) ∧ Keeps guard (xs.flatMap f)
  | [], _ => ⟨nil, fun _ h => h⟩
  | x :: xs, h => by
    obtain ⟨hx, hkx⟩ := h x List.mem_cons_self
    obtain ⟨hs, hks⟩ := flatMap fun y hy => h y (List.mem_cons_of_mem _ hy)
    refine ⟨append hx hs hks, fun rest hr => ?_⟩
    rw [List.flatMap_cons, List.append_assoc]
    exact hkx _ (hks rest hr)

theorem intercalate {w : List Char → List Char} (hnl : ReadsBack R guard ['\n'] ['\n'])
    (hknl : Keeps guard ['\n']) :
    ∀ {P : List (List Char)}, (∀ p ∈ P, ReadsBack R guard (w p) p ∧ Keeps guard (w p)) →
      ReadsBack R guard (['\n'].intercalate (P.map w)) (['\n'].intercalate P) ∧
        Keeps guard (['\n'].intercalate (P.map w))
  | [], _ => ⟨nil, fun _ h => h⟩
  | [p], h => by simpa using h p List.mem_cons_self
  | p :: q :: P, h => by
    obtain ⟨hp, hkp⟩ := h p List.mem_cons_self
    obtain ⟨hs, hks⟩ := intercalate hnl hknl fun y hy => h y (List.mem_cons_of_mem _ hy)
    simp only [List.map_cons, List.intercalate_cons_cons] at hs hks ⊢
    refine ⟨append (append hp hnl hknl) hs hks, fun rest hr => ?_⟩
    rw [List.append_assoc, List.append_assoc]
    exact hkp _ (hknl _ (hks rest hr))

theorem shown {t : List Char}
    (h : ∀ c ∈ t, ∀ rest, R (c :: rest) = (c :: (R rest).1, (R rest).2)) :
    ReadsBack R guard t t := by
  intro rest _
  induction t with
  | nil => rfl
  | cons c t ih =>
    rw [List.cons_append, h c List.mem_cons_self, ih fun x hx => h x (List.mem_cons_of_mem _ hx)]
    rfl

theorem pieces {wrap : List Char → List Char} {v : String} (hnl : ReadsBack R guard ['\n'] ['\n'])
    (hknl : Keeps guard ['\n'])
    (h : ∀ p ∈ v.toList.splitOn '\n', p ≠ [] →
      ReadsBack R guard (wrap p) p ∧ Keeps guard (wrap p)) :
    ReadsBack R guard (wrapPieces wrap v) v.toList ∧ Keeps guard (wrapPieces wrap v) := by
  have hw := intercalate (w := fun p => if p = [] then [] else wrap p) hnl hknl fun p hp => by
    by_cases hp0 : p = []
    · subst hp0
      exact ⟨nil, fun _ h => h⟩
    · simpa [hp0] using h p hp hp0
  rw [List.intercalate_splitOn] at hw
  exact hw

theorem stream {f : TokenKind × String → List Char} {ts : List (TokenKind × String)}
    (h : ∀ t ∈ ts, ReadsBack R guard (f t) t.2.toList ∧ Keeps guard (f t)) (hnil : guard [])
    (hR : R [] = ([], true)) : R (ts.flatMap f) = ((String.join (ts.map (·.2))).toList, true) := by
  have hr := (flatMap (g := fun t : TokenKind × String => t.2.toList) h).1 [] hnil
  rw [List.append_nil, hR, List.append_nil] at hr
  rw [hr, String.toList_join, List.flatMap_map]

end ReadsBack

/-! ## Reading SGR sequences -/

/-- What a terminal has set: whether a foreground or a background colour is set, and which
other attributes are on, by their SGR numbers. -/
structure Attrs where
  fg : Bool := false
  bg : Bool := false
  on : List Nat := []
  deriving DecidableEq

/-- The attributes after the parameters of one SGR sequence, in order: `0` turns everything
off; `38` and `48` with `5` and a number, or with `2` and three, set a colour; `39` and `49`
go back to the default colours; 30–37 and 90–97 set the foreground, 40–47 and 100–107 the
background; 22–29 turn their attribute off (22 both bold and faint); any other number turns
its attribute on. -/
def Attrs.apply (a : Attrs) : List Nat → Attrs
  | [] => a
  | p :: ps =>
    if p = 0 then Attrs.apply {} ps
    else if p = 38 ∨ p = 48 then
      Attrs.apply (if p = 38 then { a with fg := true } else { a with bg := true })
        (if ps.head? = some 5 then ps.drop 2 else ps.drop 4)
    else if p = 39 then Attrs.apply { a with fg := false } ps
    else if p = 49 then Attrs.apply { a with bg := false } ps
    else if 30 ≤ p ∧ p ≤ 37 ∨ 90 ≤ p ∧ p ≤ 97 then Attrs.apply { a with fg := true } ps
    else if 40 ≤ p ∧ p ≤ 47 ∨ 100 ≤ p ∧ p ≤ 107 then Attrs.apply { a with bg := true } ps
    else if 22 ≤ p ∧ p ≤ 29 then
      Attrs.apply { a with on := a.on.filter fun q => q + 20 ≠ p ∧ (p ≠ 22 ∨ q ≠ 1) } ps
    else Attrs.apply { a with on := p :: a.on } ps
termination_by ps => ps.length
decreasing_by all_goals first | (simp; done) | (split <;> simp)

/-- Whether a character can stand between `ESC [` and `m`. -/
def isParamChar (c : Char) : Bool := c.isDigit || c == ';'

/-- The value of the digits of a parameter; the empty parameter is zero. -/
def paramValue (p : List Char) : Nat := p.foldl (fun n c => 10 * n + (c.toNat - '0'.toNat)) 0

/-- The SGR sequence at the start of what follows an `ESC`: its parameters, and the number of
characters up to its `m`. -/
def sgrAt? : List Char → Option (List Nat × Nat)
  | [] => none
  | c :: rest =>
    let body := rest.takeWhile isParamChar
    if c = '[' ∧ (rest.drop body.length).head? = some 'm' then
      some ((body.splitOn ';').map paramValue, body.length + 2)
    else none

/-- Output as a terminal shows it from the attributes `a`: the text with the SGR sequences taken
out and applied, and whether every line feed came with no attribute set. -/
def Attrs.read (a : Attrs) : List Char → List Char × Bool
  | [] => ([], true)
  | c :: rest =>
    match (if c = '\x1b' then sgrAt? rest else none) with
    | some (ps, k) => (a.apply ps).read (rest.drop k)
    | none => ((c :: (a.read rest).1), (a.read rest).2 && (c != '\n' || decide (a = {})))
termination_by l => l.length

/-- A parameter written with digits only. -/
def Digits (p : String) : Prop := p.toList.all Char.isDigit = true

instance (p : String) : Decidable (Digits p) := inferInstanceAs (Decidable (_ = true))

theorem read_char {c : Char} (hc : c ≠ '\x1b') (a : Attrs) (rest : List Char) :
    a.read (c :: rest) = (c :: (a.read rest).1, (a.read rest).2 && (c != '\n' || decide (a = {}))) := by
  rw [Attrs.read, if_neg hc]

theorem isParamChar_of_mem {ps : List String} (hps : ∀ p ∈ ps, Digits p) :
    ∀ c ∈ ([';'].intercalate (ps.map String.toList)), isParamChar c = true := by
  intro c hc
  by_contra hpc
  have hsep : c ∉ [';'] := by
    intro h
    simp_all [isParamChar]
  refine Html.not_mem_intercalate hsep (fun l hl hcl => hpc ?_) hc
  obtain ⟨p, hp, rfl⟩ := List.mem_map.mp hl
  simp [isParamChar, List.all_eq_true.mp (hps p hp) c hcl]

theorem read_sgr (a : Attrs) {ps : List String} (hps : ∀ p ∈ ps, Digits p) (rest : List Char) :
    a.read (sgr ps ++ rest) = (a.apply (ps.map fun p => paramValue p.toList)).read rest := by
  by_cases hnil : ps = []
  · subst hnil
    simp [sgr, Attrs.apply]
  -- the body holds digits and semicolons only, so the reader's scan stops at its `m`
  have hbody := isParamChar_of_mem hps
  generalize hb : [';'].intercalate (ps.map String.toList) = body at hbody
  have htake : (body ++ 'm' :: rest).takeWhile isParamChar = body := by
    rw [List.takeWhile_append_of_pos hbody]
    simp [isParamChar]
  have hsplit : body.splitOn ';' = ps.map String.toList := by
    rw [← hb]
    refine List.splitOn_intercalate ';' (fun l hl hsemi => ?_) (by simpa using hnil)
    obtain ⟨p, hp, rfl⟩ := List.mem_map.mp hl
    exact absurd (List.all_eq_true.mp (hps p hp) ';' hsemi) (by decide)
  have hat : sgrAt? ('[' :: (body ++ 'm' :: rest)) =
      some (ps.map (fun p => paramValue p.toList), body.length + 2) := by
    simp [sgrAt?, htake, hsplit]
  have hsgr : sgr ps = '\x1b' :: '[' :: (body ++ ['m']) := by
    simp [sgr, hnil, ← hb, String.toList_intercalate]
  rw [hsgr]
  simp only [List.cons_append, List.append_assoc, List.nil_append]
  rw [Attrs.read, if_pos rfl, hat]
  simp

/-- The attributes after an SGR sequence's parameters, written as text. -/
def Attrs.applyAll (a : Attrs) (ps : List String) : Attrs :=
  a.apply (ps.map fun p => paramValue p.toList)

theorem read_sgrs (a : Attrs) {pss : List (List String)} (h : ∀ ps ∈ pss, ∀ p ∈ ps, Digits p)
    (rest : List Char) :
    a.read (pss.flatMap sgr ++ rest) = (pss.foldl Attrs.applyAll a).read rest := by
  induction pss generalizing a with
  | nil => rfl
  | cons ps pss ih =>
    rw [List.flatMap_cons, List.append_assoc, read_sgr a (h ps List.mem_cons_self),
      ih _ fun q hq => h q (List.mem_cons_of_mem _ hq)]
    rfl

theorem read_shown {c : Char} (hc : c ≠ '\x1b') {a : Attrs} (hnl : c ≠ '\n' ∨ a = {})
    (rest : List Char) : a.read (c :: rest) = (c :: (a.read rest).1, (a.read rest).2) := by
  rw [read_char hc]
  rcases hnl with h | rfl
  · simp [h]
  · simp

theorem read_text (a : Attrs) {t : List Char} (ht : ∀ c ∈ t, c ≠ '\x1b' ∧ c ≠ '\n')
    (rest : List Char) : a.read (t ++ rest) = (t ++ (a.read rest).1, (a.read rest).2) :=
  @ReadsBack.shown a.read (fun _ => True) t
    (fun c hc => read_shown (ht c hc).1 (.inl (ht c hc).2)) rest trivial

theorem read_text_default {t : List Char} (ht : '\x1b' ∉ t) (rest : List Char) :
    ({} : Attrs).read (t ++ rest) = (t ++ (({} : Attrs).read rest).1, (({} : Attrs).read rest).2) :=
  @ReadsBack.shown (Attrs.read {}) (fun _ => True) t
    (fun _ hc => read_shown (fun h => ht (h ▸ hc)) (.inr rfl)) rest trivial

/-- What a terminal reads back from the start of the output, with nothing set. -/
abbrev TermReads (out text : List Char) : Prop := ReadsBack (Attrs.read {}) (fun _ => True) out text

theorem termReads_newline : TermReads ['\n'] ['\n'] :=
  ReadsBack.shown fun c hc => by
    obtain rfl := List.mem_singleton.mp hc
    exact read_shown (by decide) (.inr rfl)

theorem termReads_wrapped {pss : List (List String)} {off : List String}
    (hpss : ∀ ps ∈ pss, ∀ p ∈ ps, Digits p) (hoff : ∀ p ∈ off, Digits p)
    (hclose : (pss.foldl Attrs.applyAll {}).applyAll off = {}) {t : List Char}
    (ht : ∀ c ∈ t, c ≠ '\x1b' ∧ c ≠ '\n') : TermReads (pss.flatMap sgr ++ t ++ sgr off) t := by
  intro rest _
  rw [List.append_assoc, List.append_assoc, read_sgrs _ hpss, read_text _ ht, read_sgr _ hoff]
  rw [Attrs.applyAll] at hclose
  rw [hclose]

/-! ## Terminal output -/

theorem codeParams_digits : ∀ q ∈ codeParams, Digits q.2 := by
  decide

theorem code_eq (name : String) : ∃ ps, (∀ p ∈ ps, Digits p) ∧ code name = sgr ps := by
  refine ⟨(codeParams.lookup name).toList, fun p hp => ?_, rfl⟩
  obtain ⟨q, hq, rfl⟩ := Html.exists_mem_of_lookup (Option.mem_toList.mp hp)
  exact codeParams_digits q hq

/-- Codes written one after another. -/
def Codes (l : List Char) : Prop :=
  ∃ pss : List (List String), (∀ ps ∈ pss, ∀ p ∈ ps, Digits p) ∧ l = pss.flatMap sgr

theorem Codes.append {l : List Char} (hl : Codes l) (name : String) : Codes (l ++ code name) := by
  obtain ⟨pss, hd, rfl⟩ := hl
  obtain ⟨ps, hps, hcode⟩ := code_eq name
  refine ⟨pss ++ [ps], fun qs hqs => ?_, by simp [hcode]⟩
  rcases List.mem_append.mp hqs with h | h
  · exact hd qs h
  · rw [List.mem_singleton.mp h]
    exact hps

theorem peel_codes (c : Char) (name : String) {st : List Char × List Char} (h : Codes st.1) :
    Codes (peel c name st).1 := by
  unfold peel
  split
  · exact h.append name
  · exact h

theorem ansiformat_eq (attr : String) (text : List Char) :
    ∃ pss : List (List String), (∀ ps ∈ pss, ∀ p ∈ ps, Digits p) ∧
      ansiformat attr text = pss.flatMap sgr ++ text ++ reset := by
  have hst := peel_codes '_' "underline" (peel_codes '*' "bold"
    (@peel_codes '+' "blink" ([], attr.toList) ⟨[], by simp, rfl⟩))
  obtain ⟨pss, hd, heq⟩ := hst.append (String.ofList
    (peel '_' "underline" (peel '*' "bold" (peel '+' "blink" ([], attr.toList)))).2)
  exact ⟨pss, hd, by rw [ansiformat, heq]⟩

theorem applyAll_reset (a : Attrs) : a.applyAll ["39", "49", "00"] = {} := by
  simp [Attrs.applyAll, paramValue, Attrs.apply]

theorem termReads_ansiformat (attr : String) {t : List Char}
    (ht : ∀ c ∈ t, c ≠ '\x1b' ∧ c ≠ '\n') : TermReads (ansiformat attr t) t := by
  obtain ⟨pss, hd, heq⟩ := ansiformat_eq attr t
  rw [heq, reset]
  exact termReads_wrapped hd (by decide) (applyAll_reset _) ht

theorem chomp_spec {l : List Char} (hl : '\n' ∉ l.dropLast) :
    chomp l ++ (if l.getLast? = some '\n' then ['\n'] else []) = l ∧ '\n' ∉ chomp l := by
  rcases List.eq_nil_or_concat l with rfl | ⟨l', x, rfl⟩
  · simp [chomp]
  rw [List.concat_eq_append] at hl ⊢
  rw [List.dropLast_concat] at hl
  have hkeep : (l'.reverse.dropWhile (· = '\n')) = l'.reverse := by
    cases hr : l'.reverse with
    | nil => rfl
    | cons y ys =>
      have hy : y ≠ '\n' := fun h => hl (List.mem_reverse.mp (h ▸ hr ▸ List.mem_cons_self))
      simp [hy]
  by_cases hx : x = '\n'
  · subst hx
    simp [chomp, hkeep, hl]
  · simp [chomp, hx, Ne.symm hx, hl]

open Lexers in
theorem splitLinesFrom_flatten (cs cur : List Char) :
    ((splitLinesFrom cs cur).map String.toList).flatten = cur.reverse ++ cs := by
  fun_induction splitLinesFrom cs cur with
  | case1 cur hempty => simp [List.isEmpty_iff.mp hempty]
  | case2 cur hne => simp
  | case3 rest cur ih => simp [ih]
  | case4 c rest cur _ hc ih => simp [ih]
  | case5 c rest cur _ hc ih => simp [ih]

open Lexers in
theorem newline_not_mem_dropLast (cs cur : List Char) (hcur : '\n' ∉ cur) :
    ∀ l ∈ splitLinesFrom cs cur, '\n' ∉ l.toList.dropLast := by
  fun_induction splitLinesFrom cs cur with
  | case1 cur hempty => simp
  | case2 cur hne => simpa using fun h => hcur (List.mem_of_mem_tail h)
  | case3 rest cur ih =>
    intro l hl
    rcases List.mem_cons.mp hl with rfl | hl
    · simp only [String.toList_ofList, List.reverse_cons, List.append_assoc, List.singleton_append]
      rw [List.dropLast_append_of_ne_nil (by simp)]
      simpa using hcur
    · exact ih (by simp) l hl
  | case4 c rest cur _ hc ih =>
    intro l hl
    rcases List.mem_cons.mp hl with rfl | hl
    · simpa using hcur
    · exact ih (by simp) l hl
  | case5 c rest cur _ hc ih =>
    refine ih ?_
    have hnl : c ≠ '\n' := by rintro rfl; simp_all [endsLine]
    simp [Ne.symm hnl, hcur]

theorem termReads_line (color : String) {l : List Char} (hl : '\n' ∉ l.dropLast)
    (hesc : '\x1b' ∉ l) :
    TermReads ((if color = "" then chomp l else ansiformat color (chomp l)) ++
      (if l.getLast? = some '\n' then ['\n'] else [])) l := by
  obtain ⟨hspec, hnl⟩ := chomp_spec hl
  have ht : ∀ c ∈ chomp l, c ≠ '\x1b' ∧ c ≠ '\n' := fun c hc =>
    ⟨fun h => hesc (h ▸ hspec ▸ List.mem_append_left _ hc), fun h => hnl (h ▸ hc)⟩
  have hbody : TermReads (if color = "" then chomp l else ansiformat color (chomp l)) (chomp l) := by
    split
    · exact fun rest _ => read_text _ ht rest
    · exact termReads_ansiformat color ht
  have hend : TermReads (if l.getLast? = some '\n' then ['\n'] else [])
      (if l.getLast? = some '\n' then ['\n'] else []) := by
    split
    · exact termReads_newline
    · exact ReadsBack.nil
  have h := hbody.append hend fun _ _ => trivial
  rwa [hspec] at h

theorem termReads_terminalToken (s : Settings) (k : TokenKind) {v : String}
    (hv : '\x1b' ∉ v.toList) : TermReads (s.terminalToken k v) v.toList := by
  have hflat := splitLinesFrom_flatten v.toList []
  rw [List.reverse_nil, List.nil_append] at hflat
  have hlines := newline_not_mem_dropLast v.toList [] (by simp)
  have h := ReadsBack.flatMap (g := String.toList) fun l (hl : l ∈ Lexers.splitLinesKeep v) =>
    ⟨termReads_line (schemeColor terminalColors s.dark k) (hlines l hl)
      (fun hesc => hv (hflat ▸ List.mem_flatten.mpr ⟨l.toList, List.mem_map_of_mem hl, hesc⟩)),
      fun _ _ => trivial⟩
  have htext : (Lexers.splitLinesKeep v).flatMap String.toList = v.toList := by
    rw [List.flatMap_def]
    exact hflat
  rw [← htext]
  exact h.1

theorem read_terminal (s : Settings) {ts : List (TokenKind × String)}
    (hts : ∀ t ∈ ts, '\x1b' ∉ t.2.toList) :
    ({} : Attrs).read (s.terminal ts).toList = ((String.join (ts.map (·.2))).toList, true) := by
  rw [Settings.terminal, String.toList_ofList,
    ReadsBack.stream (fun t ht => ⟨termReads_terminalToken s t.1 (hts t ht), fun _ _ => trivial⟩)
      trivial (by rw [Attrs.read])]

/-! ## 256-colour and true-colour output -/

/-- The numbers of the eight colours from `base` and of their light twins, 60 above. -/
def NamedColor (base v : Nat) : Prop :=
  base ≤ v ∧ v ≤ base + 7 ∨ base + 60 ≤ v ∧ v ≤ base + 67

instance (base v : Nat) : Decidable (NamedColor base v) := inferInstanceAs (Decidable (_ ∨ _))

/-- The parameters that set a colour from `base` (30 for the foreground, 40 for the
background): a named colour, or `base + 8` with `5` and a colour number or with `2` and red,
green and blue. -/
inductive SetsColor (base : Nat) : List Nat → Prop
  | named {v : Nat} : NamedColor base v → SetsColor base [v]
  | indexed (i : Nat) : SetsColor base [base + 8, 5, i]
  | rgb (r g b : Nat) : SetsColor base [base + 8, 2, r, g, b]

theorem apply_setsFg {ps : List Nat} (h : SetsColor 30 ps) (a : Attrs) (r : List Nat) :
    a.apply (ps ++ r) = { a with fg := true }.apply r := by
  cases h with
  | named hv =>
    unfold NamedColor at hv
    rw [List.singleton_append, Attrs.apply, if_neg (by omega), if_neg (by omega), if_neg (by omega),
      if_neg (by omega), if_pos hv]
  | indexed i => simp [Attrs.apply]
  | rgb r g b => simp [Attrs.apply]

theorem apply_setsBg {ps : List Nat} (h : SetsColor 40 ps) (a : Attrs) (r : List Nat) :
    a.apply (ps ++ r) = { a with bg := true }.apply r := by
  cases h with
  | named hv =>
    unfold NamedColor at hv
    rw [List.singleton_append, Attrs.apply, if_neg (by omega), if_neg (by omega), if_neg (by omega),
      if_neg (by omega), if_neg (by omega), if_pos hv]
  | indexed i => simp [Attrs.apply]
  | rgb r g b => simp [Attrs.apply]

/-- Parameters of digits that set a colour from `base`, or none. -/
structure ColorParams (base : Nat) (ps : List String) : Prop where
  digits : ∀ p ∈ ps, Digits p
  sets : ps = [] ∨ SetsColor base (ps.map fun p => paramValue p.toList)

theorem close_flags (fg bg b u i : Bool) :
    (({ fg, bg } : Attrs).applyAll (flagParams b u i)).applyAll
      ((if fg then ["39"] else []) ++ (if bg then ["49"] else []) ++
        (if b || u || i then ["00"] else [])) = {} := by
  cases fg <;> cases bg <;> cases b <;> cases u <;> cases i <;>
    simp [Attrs.applyAll, flagParams, paramValue, Attrs.apply]

theorem flagParams_digits (b u i : Bool) : ∀ p ∈ flagParams b u i, Digits p := by
  cases b <;> cases u <;> cases i <;> decide

theorem resetParams_digits (fg bg flags : Bool) :
    ∀ p ∈ (if fg then ["39"] else []) ++ (if bg then ["49"] else []) ++
      (if flags then ["00"] else []), Digits p := by
  cases fg <;> cases bg <;> cases flags <;> decide

/-- A pair of SGR sequences of digits whose second, after the first, leaves nothing set. -/
def Undoes (pair : List Char × List Char) : Prop :=
  ∃ on off : List String, (∀ p ∈ on, Digits p) ∧ (∀ p ∈ off, Digits p) ∧
    pair = (sgr on, sgr off) ∧ (({} : Attrs).applyAll on).applyAll off = {}

theorem termReads_undoes {pair : List Char × List Char} (h : Undoes pair) {t : List Char}
    (ht : ∀ c ∈ t, c ≠ '\x1b' ∧ c ≠ '\n') : TermReads (pair.1 ++ t ++ pair.2) t := by
  obtain ⟨on, off, hon, hoff, rfl, hclose⟩ := h
  have h := @termReads_wrapped [on] off (by simpa using hon) hoff hclose t ht
  simpa using h

theorem undoes_of {fgP bgP : List String} (hf : ColorParams 30 fgP) (hb : ColorParams 40 bgP)
    {fg bg : Bool} (hfg : fg = !fgP.isEmpty) (hbg : bg = !bgP.isEmpty) (b u i : Bool) :
    Undoes (sgr (fgP ++ bgP ++ flagParams b u i), resetFor fg bg (b || u || i)) := by
  refine ⟨_, (if fg then ["39"] else []) ++ (if bg then ["49"] else []) ++
    (if b || u || i then ["00"] else []), fun p hp => ?_, fun p hp => ?_, rfl, ?_⟩
  · rcases List.mem_append.mp hp with hp | hp
    · rcases List.mem_append.mp hp with hp | hp
      · exact hf.digits p hp
      · exact hb.digits p hp
    · exact flagParams_digits b u i p hp
  · exact resetParams_digits fg bg _ p hp
  -- the foreground sets `fg`, the background `bg`, and `close_flags` undoes the rest
  have hfg' : ∀ r, ({} : Attrs).apply (fgP.map (fun p => paramValue p.toList) ++ r) =
      ({ fg } : Attrs).apply r := by
    intro r
    rcases hf.sets with rfl | hs
    · simp [hfg]
    · have hne : fgP ≠ [] := by rintro rfl; cases hs
      rw [apply_setsFg hs, hfg]
      obtain ⟨p, ps, rfl⟩ := List.exists_cons_of_ne_nil hne
      rfl
  have hbg' : ∀ r, ({ fg } : Attrs).apply (bgP.map (fun p => paramValue p.toList) ++ r) =
      ({ fg, bg } : Attrs).apply r := by
    intro r
    rcases hb.sets with rfl | hs
    · simp [hbg]
    · have hne : bgP ≠ [] := by rintro rfl; cases hs
      rw [apply_setsBg hs, hbg]
      obtain ⟨p, ps, rfl⟩ := List.exists_cons_of_ne_nil hne
      rfl
  have h := close_flags fg bg b u i
  simp only [Attrs.applyAll, List.map_append, List.append_assoc] at h ⊢
  rw [hfg', hbg']
  exact h

theorem digits_toString (n : Nat) : Digits (toString n) := by
  unfold Digits
  rw [List.all_eq_true]
  intro c hc
  rw [Nat.toString_eq_repr, Nat.toList_repr] at hc
  exact Nat.isDigit_of_mem_toDigits (by decide) (by decide) hc

theorem colorParams_nil (base : Nat) : ColorParams base [] := ⟨by simp, .inl rfl⟩

theorem colorParams_named {base : Nat} {p : String}
    (h : Digits p ∧ NamedColor base (paramValue p.toList)) : ColorParams base [p] :=
  ⟨by simpa using h.1, .inr (.named h.2)⟩

theorem colorParams_indexed {base : Nat} {lead : String}
    (hl : Digits lead ∧ paramValue lead.toList = base + 8) (i : Nat) :
    ColorParams base [lead, "5", toString i] := by
  refine ⟨?_, .inr ?_⟩
  · simp only [List.mem_cons, List.not_mem_nil, or_false]
    rintro p (rfl | rfl | rfl)
    · exact hl.1
    · decide
    · exact digits_toString i
  · have h5 : paramValue "5".toList = 5 := by decide
    simp only [List.map_cons, List.map_nil, hl.2, h5]
    exact .indexed _

theorem colorParams_rgb {base : Nat} {lead : String}
    (hl : Digits lead ∧ paramValue lead.toList = base + 8) :
    ∀ c : Option (Nat × Nat × Nat), ColorParams base (rgbParams lead c)
  | none => colorParams_nil base
  | some (r, g, b) => by
    refine ⟨?_, .inr ?_⟩
    · simp only [rgbParams, List.mem_cons, List.not_mem_nil, or_false]
      rintro p (rfl | rfl | rfl | rfl | rfl)
      · exact hl.1
      · decide
      all_goals exact digits_toString _
    · have h2 : paramValue "2".toList = 2 := by decide
      simp only [rgbParams, List.map_cons, List.map_nil, hl.2, h2]
      exact .rgb _ _ _

theorem toNat?_of_digits {p : String} (hne : p ≠ "") (hd : Digits p) :
    p.toNat? = some (paramValue p.toList) := by
  have hall := List.all_eq_true.mp hd
  rw [String.toNat?_eq_some_ofDigitChars (String.isNat_of_isDigit hne hall),
    List.filter_eq_self.mpr fun c hc => ?_]
  · rfl
  · have hc' : c ≠ '_' := by
      rintro rfl
      exact absurd (hall _ hc) (by decide)
    simpa using hc'

theorem ansi_colorParams : ∀ n ∈ ansiColors.map Prod.fst, n ≠ "ansiwhite" →
    ansiParam n ≠ "" ∧ (Digits (ansiParam n) ∧ NamedColor 30 (paramValue (ansiParam n).toList)) ∧
      (Digits (toString (paramValue (ansiParam n).toList + 10)) ∧
        NamedColor 40 (paramValue (toString (paramValue (ansiParam n).toList + 10)).toList)) := by
  decide

theorem ansi_mem {n : String} (h : (ansiColors.lookup n).isSome) : n ∈ ansiColors.map Prod.fst := by
  obtain ⟨v, hv⟩ := Option.isSome_iff_exists.mp h
  obtain ⟨l₁, l₂, hl, -⟩ := List.lookup_eq_some_iff.mp hv
  exact List.mem_map_of_mem (f := Prod.fst) (by simp [hl] : (n, v) ∈ ansiColors)

theorem colorParams_fgAnsi {n : String} (h : (ansiColors.lookup n).isSome) (hw : n ≠ "ansiwhite") :
    ColorParams 30 [ansiParam n] :=
  colorParams_named (ansi_colorParams n (ansi_mem h) hw).2.1

theorem colorParams_bgAnsi {n : String} (h : (ansiColors.lookup n).isSome) (hw : n ≠ "ansiwhite") :
    ColorParams 40 [toString ((ansiParam n).toNat?.getD 0 + 10)] := by
  obtain ⟨hne, ⟨hd, -⟩, hb⟩ := ansi_colorParams n (ansi_mem h) hw
  rw [toNat?_of_digits hne hd, Option.getD_some]
  exact colorParams_named hb

theorem codes256_undoes (e : Escape Color256)
    (hfg : ∀ n, e.fg = some (.ansi n) → (ansiColors.lookup n).isSome ∧ n ≠ "ansiwhite")
    (hbg : ∀ n, e.bg = some (.ansi n) → (ansiColors.lookup n).isSome ∧ n ≠ "ansiwhite") :
    Undoes e.codes256 := by
  -- each colour is unset, an ANSI name or an xterm number: nine shapes of the sequences
  rcases e with ⟨_ | ⟨n | i⟩, _ | ⟨m | j⟩, bold, ul, it⟩ <;> simp only [Escape.codes256]
  all_goals refine undoes_of ?_ ?_ rfl rfl _ _ _
  all_goals first
    | exact colorParams_nil _
    | exact colorParams_indexed (by decide) _
    | exact colorParams_fgAnsi (hfg _ rfl).1 (hfg _ rfl).2
    | exact colorParams_bgAnsi (hbg _ rfl).1 (hbg _ rfl).2

theorem codesTrue_undoes (e : Escape (Nat × Nat × Nat)) : Undoes e.codesTrue := by
  unfold Escape.codesTrue
  refine undoes_of (@colorParams_rgb 30 "38" (by decide) e.fg)
    (@colorParams_rgb 40 "48" (by decide) e.bg) ?_ ?_ _ _ _
  · cases e.fg <;> rfl
  · cases e.bg <;> rfl

theorem ansi_of_report {c n : String}
    (h : ((ansiName c).or (reportColor c)).bind (some ∘ colorIndex) = some (.ansi n)) :
    (ansiColors.lookup n).isSome ∧ n = c := by
  unfold ansiName at h
  by_cases hc : (ansiColors.lookup c).isSome
  · simp only [hc, if_true, Option.some_or, Option.bind_some, Function.comp, colorIndex,
      Option.some.injEq, Color256.ansi.injEq] at h
    exact ⟨h ▸ hc, h.symm⟩
  · have hn : ansiColors.lookup c = none := Option.not_isSome_iff_eq_none.mp hc
    rw [if_neg hc, Option.none_or] at h
    unfold reportColor at h
    by_cases he : c = ""
    · simp [he] at h
    · rw [if_neg he, hn, Option.getD_none, Option.bind_some] at h
      simp [colorIndex, hn] at h

theorem mem_foldl_assign_all {γ α β : Type} [BEq α] [LawfulBEq α] [DecidableEq α] (key : γ → α)
    (val : γ → β) (L : List γ) {d : List (α × β)} {q : α × β}
    (h : q ∈ L.foldl (fun d x => assign d (key x) (val x)) d) :
    q ∈ d ∨ ∃ x ∈ L, q = (key x, val x) := by
  rcases mem_foldl_assign (fun _ => true) key val L (by simpa using h) with h | ⟨x, hx, -, rfl⟩
  · exact .inl h
  · exact .inr ⟨x, hx, rfl⟩

theorem codes_undoes (s : StyledSettings) {trueColor : Bool} {st : Built}
    (hwhite : trueColor = true ∨
      ∀ p ∈ st.table, p.2.color ≠ "ansiwhite" ∧ p.2.bgcolor ≠ "ansiwhite") :
    ∀ q ∈ s.codes trueColor st, Undoes q.2 := by
  intro q hq
  rcases mem_foldl_assign_all _ _ st.reports hq with h | ⟨p, hp, rfl⟩
  · simp at h
  obtain ⟨⟨k, e⟩, he, rfl⟩ := List.mem_map.mp hp
  dsimp only
  split
  · exact codesTrue_undoes _
  · rename_i htc
    have hw := hwhite.resolve_left htc
    refine codes256_undoes _ (fun n h => ?_) (fun n h => ?_)
    · obtain ⟨hs, rfl⟩ := ansi_of_report h
      exact ⟨hs, (hw _ he).1⟩
    · obtain ⟨hs, rfl⟩ := ansi_of_report h
      exact ⟨hs, (hw _ he).2⟩

theorem mem_intercalate_of_mem {sep l : List Char} {c : Char} (hc : c ∈ l) :
    ∀ {ls : List (List Char)}, l ∈ ls → c ∈ sep.intercalate ls
  | [], h => absurd h List.not_mem_nil
  | [x], h => by
    rw [List.intercalate_singleton, ← List.mem_singleton.mp h]
    exact hc
  | x :: y :: ls, h => by
    rw [List.intercalate_cons_cons]
    rcases List.mem_cons.mp h with rfl | h
    · exact List.mem_append_left _ (List.mem_append_left _ hc)
    · exact List.mem_append_right _ (mem_intercalate_of_mem hc h)

theorem mem_of_mem_splitOn {l p : List Char} {x c : Char} (hp : p ∈ l.splitOn x) (hc : c ∈ p) :
    c ∈ l := by
  have h := @mem_intercalate_of_mem [x] p c hc (l.splitOn x) hp
  rwa [List.intercalate_splitOn] at h

theorem termReads_styledToken {codes : List (String × List Char × List Char)}
    (hc : ∀ q ∈ codes, Undoes q.2) (k : TokenKind) {v : String} (hv : '\x1b' ∉ v.toList) :
    TermReads (styledToken codes k v) v.toList := by
  unfold styledToken
  split
  · rename_i on off hfind
    obtain ⟨a, -, ha⟩ := List.exists_of_findSome?_eq_some hfind
    obtain ⟨q, hq, hq2⟩ := Html.exists_mem_of_lookup ha
    have hu : Undoes (on, off) := hq2 ▸ hc q hq
    refine (ReadsBack.pieces termReads_newline (fun _ _ => trivial) fun p hp _ =>
      ⟨termReads_undoes hu fun c hcp => ⟨?_, ?_⟩, fun _ _ => trivial⟩).1
    · rintro rfl
      exact hv (mem_of_mem_splitOn hp hcp)
    · rintro rfl
      exact Html.newline_not_mem_splitOn _ p hp hcp
  · exact fun rest _ => read_text_default hv rest

/-- Styled output of tokens with no escape character reads back as their text, every line feed
with nothing set, with true colours or when no kind of the style has ANSI white for a colour. -/
theorem read_styled (s : StyledSettings) {trueColor : Bool} {st : Built}
    (hwhite : trueColor = true ∨
      ∀ p ∈ st.table, p.2.color ≠ "ansiwhite" ∧ p.2.bgcolor ≠ "ansiwhite")
    {ts : List (TokenKind × String)} (hts : ∀ t ∈ ts, '\x1b' ∉ t.2.toList) :
    ({} : Attrs).read (s.format trueColor st ts).toList =
      ((String.join (ts.map (·.2))).toList, true) := by
  rw [StyledSettings.format, String.toList_ofList,
    ReadsBack.stream (fun t ht =>
      ⟨termReads_styledToken (codes_undoes s hwhite) t.1 (hts t ht), fun _ _ => trivial⟩)
      trivial (by rw [Attrs.read])]

/-! ## Reading IRC codes -/

/-- What an IRC client has set. -/
structure IrcAttrs where
  bold : Bool := false
  italic : Bool := false
  color : Bool := false
  deriving DecidableEq

/-- How many digits, up to two, a text starts with. -/
def leadDigits (l : List Char) : Nat := min 2 (l.takeWhile Char.isDigit).length

/-- The length of a colour code after `\x03`: up to two digits and, when there were some and a
comma and a digit follow, the comma and up to two digits more. -/
def colorCodeLength (l : List Char) : Nat :=
  if leadDigits l = 0 then 0
  else match l.drop (leadDigits l) with
    | ',' :: r => if leadDigits r = 0 then leadDigits l else leadDigits l + 1 + leadDigits r
    | _ => leadDigits l

/-- Output as an IRC client shows it from the attributes `a`: `\x02` toggles bold and `\x1d`
italic, a colour code sets the colour or, with no digits, takes it off, and the other
characters show; and whether every line feed came with nothing set. -/
def IrcAttrs.read (a : IrcAttrs) : List Char → List Char × Bool
  | [] => ([], true)
  | c :: rest =>
    if c = '\x02' then { a with bold := !a.bold }.read rest
    else if c = '\x1d' then { a with italic := !a.italic }.read rest
    else if c = '\x03' then
      { a with color := colorCodeLength rest != 0 }.read (rest.drop (colorCodeLength rest))
    else (c :: (a.read rest).1, (a.read rest).2 && (c != '\n' || decide (a = {})))
termination_by l => l.length
decreasing_by all_goals simp only [List.length_cons, List.length_drop]; omega

/-- A character that is none of IRC's codes. -/
def IrcPlain (c : Char) : Prop := c ≠ '\x02' ∧ c ≠ '\x03' ∧ c ≠ '\x1d'

instance (c : Char) : Decidable (IrcPlain c) := inferInstanceAs (Decidable (_ ∧ _))

/-- A text that does not start with a digit, which a colour code before it would take. -/
def NoDigit (l : List Char) : Prop := ∀ c, l.head? = some c → c.isDigit = false

/-- Two digits, as IRC output writes a colour's number. -/
def TwoDigits (n : List Char) : Prop := n.length = 2 ∧ n.all Char.isDigit = true

instance (n : List Char) : Decidable (TwoDigits n) := inferInstanceAs (Decidable (_ ∧ _))

theorem ircRead_bold (a : IrcAttrs) (rest : List Char) :
    a.read ('\x02' :: rest) = { a with bold := !a.bold }.read rest := by
  rw [IrcAttrs.read, if_pos rfl]

theorem ircRead_italic (a : IrcAttrs) (rest : List Char) :
    a.read ('\x1d' :: rest) = { a with italic := !a.italic }.read rest := by
  rw [IrcAttrs.read, if_neg (by decide), if_pos rfl]

theorem ircRead_color (a : IrcAttrs) (rest : List Char) :
    a.read ('\x03' :: rest) =
      { a with color := colorCodeLength rest != 0 }.read (rest.drop (colorCodeLength rest)) := by
  rw [IrcAttrs.read, if_neg (by decide), if_neg (by decide), if_pos rfl]

theorem ircRead_shown {c : Char} (hc : IrcPlain c) {a : IrcAttrs} (hnl : c ≠ '\n' ∨ a = {})
    (rest : List Char) : a.read (c :: rest) = (c :: (a.read rest).1, (a.read rest).2) := by
  obtain ⟨h2, h3, h1d⟩ := hc
  rw [IrcAttrs.read, if_neg h2, if_neg h1d, if_neg h3]
  rcases hnl with h | rfl
  · simp [h]
  · simp

theorem colorCodeLength_of_noDigit {l : List Char} (h : NoDigit l) : colorCodeLength l = 0 := by
  have hlead : leadDigits l = 0 := by
    cases l with
    | nil => rfl
    | cons c r => simp [leadDigits, h c rfl]
  rw [colorCodeLength, if_pos hlead]

theorem colorCodeLength_two {n : List Char} (hn : TwoDigits n) {r : List Char}
    (hr : r.head? ≠ some ',') : colorCodeLength (n ++ r) = 2 := by
  obtain ⟨hlen, hdig⟩ := hn
  match n, hlen, hdig with
  | [d₁, d₂], _, hdig =>
    have hd : d₁.isDigit = true ∧ d₂.isDigit = true := by simpa using hdig
    have hlead : leadDigits ([d₁, d₂] ++ r) = 2 := by
      simp only [leadDigits, List.cons_append, List.nil_append, List.takeWhile_cons, hd.1, hd.2,
        if_true, List.length_cons]
      omega
    rw [colorCodeLength, hlead, if_neg (by decide)]
    cases r with
    | nil => rfl
    | cons c r' =>
      have hc : c ≠ ',' := fun h => hr (by simp [h])
      simp [hc]

theorem noDigit_cons {c : Char} (hc : c.isDigit = false) (l : List Char) : NoDigit (c :: l) := by
  intro d hd
  cases hd
  exact hc

theorem keeps_noDigit {l : List Char} (h : NoDigit l) : Keeps NoDigit l := by
  intro rest hr
  cases l with
  | nil => exact hr
  | cons c l => exact noDigit_cons (h c rfl) _

/-- What an IRC client reads back from the start of the output, with nothing set. -/
abbrev IrcReads (out text : List Char) : Prop := ReadsBack (IrcAttrs.read {}) NoDigit out text

/-- The codes IRC output writes before a piece: italic, bold, then the colour with its number. -/
def ircOpen (i b : Bool) (col : Option (List Char)) : List Char :=
  (if i then ['\x1d'] else []) ++ (if b then ['\x02'] else []) ++ (col.map ('\x03' :: ·)).getD []

/-- The codes IRC output writes after a piece, undoing those before it. -/
def ircClose (i b col : Bool) : List Char :=
  (if col then ['\x03'] else []) ++ (if b then ['\x02'] else []) ++ (if i then ['\x1d'] else [])

theorem ircNumbers_lt : ∀ q ∈ ircNumbers, q.2 < 16 := by
  decide

theorem twoDigits_spec : ∀ k, k < 16 → TwoDigits (twoDigits k) := by
  decide

theorem twoDigits_number (name : String) : TwoDigits (twoDigits ((ircNumbers.lookup name).getD 0)) := by
  refine twoDigits_spec _ ?_
  cases h : ircNumbers.lookup name with
  | none => decide
  | some v =>
    obtain ⟨q, hq, rfl⟩ := Html.exists_mem_of_lookup h
    exact ircNumbers_lt q hq

/-- A text in IRC's codes is the codes of the colour's underscores, stars and name before it and
those that undo them after it; a colour that is not empty writes at least one. -/
theorem ircformat_eq {color : String} (hc : color ≠ "") (text : List Char) :
    ∃ (i b : Bool) (col : Option (List Char)), (i = true ∨ b = true ∨ col.isSome = true) ∧
      (∀ n ∈ col, TwoDigits n) ∧
      ircformat color text = ircOpen i b col ++ text ++ ircClose i b col.isSome := by
  have hc' : color.toList ≠ [] := by simpa using hc
  -- the name left after the underscores and then the stars are stripped
  let c₁ := if '_' ∈ color.toList then strip '_' color.toList else color.toList
  let c₂ := if '*' ∈ c₁ then strip '*' c₁ else c₁
  refine ⟨decide ('_' ∈ color.toList), decide ('*' ∈ c₁),
    if c₂ = [] then none else some (twoDigits ((ircNumbers.lookup (String.ofList c₂)).getD 0)),
    ?_, ?_, ?_⟩
  · by_cases hu : '_' ∈ color.toList <;> by_cases hs : '*' ∈ c₁ <;> simp_all [c₁, c₂]
  · intro n hn
    split at hn
    · simp at hn
    · obtain rfl := Option.some.inj hn
      exact twoDigits_number _
  · unfold ircformat
    rw [if_neg hc]
    by_cases hu : '_' ∈ color.toList <;> by_cases hs : '*' ∈ c₁ <;> by_cases hn : c₂ = [] <;>
      simp_all [c₁, c₂, ircOpen, ircClose]

theorem ircRead_open (i b : Bool) {col : Option (List Char)} (hcol : ∀ n ∈ col, TwoDigits n)
    {r : List Char} (hr : r.head? ≠ some ',') :
    ({} : IrcAttrs).read (ircOpen i b col ++ r) =
      ({ italic := i, bold := b, color := col.isSome } : IrcAttrs).read r := by
  rcases col with _ | n
  · cases i <;> cases b <;> simp [ircOpen, ircRead_bold, ircRead_italic]
  · have hn := hcol n rfl
    cases i <;> cases b <;>
      simp [ircOpen, ircRead_bold, ircRead_italic, ircRead_color, colorCodeLength_two hn hr,
        List.drop_left' hn.1]

theorem ircRead_close (i b col : Bool) {r : List Char} (hr : NoDigit r) :
    ({ italic := i, bold := b, color := col } : IrcAttrs).read (ircClose i b col ++ r) =
      ({} : IrcAttrs).read r := by
  have hx02 : ∀ l, colorCodeLength ('\x02' :: l) = 0 := fun l =>
    colorCodeLength_of_noDigit (noDigit_cons (by decide) l)
  have hx1d : ∀ l, colorCodeLength ('\x1d' :: l) = 0 := fun l =>
    colorCodeLength_of_noDigit (noDigit_cons (by decide) l)
  cases i <;> cases b <;> cases col <;>
    simp [ircClose, ircRead_bold, ircRead_italic, ircRead_color, hx02, hx1d,
      colorCodeLength_of_noDigit hr]

/-- A piece in the codes of a colour that is not empty reads back, when it holds no code and no
line feed and does not start with a comma; its first character is a code. -/
theorem ircReads_format {color : String} (hc : color ≠ "") {p : List Char}
    (hp : ∀ c ∈ p, IrcPlain c ∧ c ≠ '\n') (hne : p ≠ []) (hcomma : p.head? ≠ some ',') :
    IrcReads (ircformat color p) p ∧ Keeps NoDigit (ircformat color p) := by
  obtain ⟨i, b, col, hsome, hcol, heq⟩ := ircformat_eq hc p
  rw [heq]
  refine ⟨fun rest hr => ?_, fun rest _ => ?_⟩
  · -- the piece starts with no comma, so a colour code ends with its two digits
    have hhead : (p ++ (ircClose i b col.isSome ++ rest)).head? ≠ some ',' := by
      obtain ⟨c, p', rfl⟩ := List.exists_cons_of_ne_nil hne
      exact hcomma
    have htext := @ReadsBack.shown ({ italic := i, bold := b, color := col.isSome } : IrcAttrs).read
      (fun _ => True) p fun c hc rest => ircRead_shown (hp c hc).1 (.inl (hp c hc).2) rest
    rw [List.append_assoc, List.append_assoc, ircRead_open i b hcol hhead,
      htext _ trivial, ircRead_close i b col.isSome hr]
  · have hx : ∀ l, NoDigit ('\x1d' :: l) ∧ NoDigit ('\x02' :: l) ∧ NoDigit ('\x03' :: l) :=
      fun l => ⟨noDigit_cons (by decide) l, noDigit_cons (by decide) l, noDigit_cons (by decide) l⟩
    rcases col with _ | n <;> cases i <;> cases b <;> simp_all [ircOpen]

theorem wrapPieces_plain (v : String) : wrapPieces (ircformat "") v = v.toList := by
  have hid : (fun piece : List Char => if piece = [] then [] else ircformat "" piece) = id := by
    funext piece
    by_cases h : piece = [] <;> simp [h, ircformat]
  rw [wrapPieces, hid, List.map_id, List.intercalate_splitOn]

theorem ircReads_newline : IrcReads ['\n'] ['\n'] :=
  ReadsBack.shown fun c hc rest => by
    obtain rfl := List.mem_singleton.mp hc
    exact ircRead_shown (by decide) (.inr rfl) rest

/-- A token reads back in IRC output, when it holds no code, none of its lines starts with a
comma, and, when it has no colour, it does not start with a digit. -/
theorem ircReads_ircToken (s : Settings) (k : TokenKind) {v : String}
    (hv : ∀ c ∈ v.toList, IrcPlain c)
    (hcomma : ∀ p ∈ v.toList.splitOn '\n', p.head? ≠ some ',')
    (hdigit : schemeColor ircColors s.dark k = "" → NoDigit v.toList) :
    IrcReads (s.ircToken k v) v.toList ∧ Keeps NoDigit (s.ircToken k v) := by
  unfold Settings.ircToken
  by_cases hcol : schemeColor ircColors s.dark k = ""
  · rw [hcol, wrapPieces_plain]
    exact ⟨ReadsBack.shown fun c hc rest => ircRead_shown (hv c hc) (.inr rfl) rest,
      keeps_noDigit (hdigit hcol)⟩
  · exact ReadsBack.pieces ircReads_newline (keeps_noDigit (noDigit_cons (by decide) []))
      fun p hp hne => ircReads_format hcol (fun c hcp => ⟨hv c (mem_of_mem_splitOn hp hcp),
        fun h => Html.newline_not_mem_splitOn _ p hp (h ▸ hcp)⟩) hne (hcomma p hp)

/-- IRC output reads back as the tokens' text, every line feed with nothing set, when no token
holds a code, no line of one starts with a comma, and none without a colour starts with a
digit. -/
theorem read_irc (s : Settings) {ts : List (TokenKind × String)}
    (hts : ∀ t ∈ ts, (∀ c ∈ t.2.toList, IrcPlain c) ∧
      (∀ p ∈ t.2.toList.splitOn '\n', p.head? ≠ some ',') ∧
      (schemeColor ircColors s.dark t.1 = "" → NoDigit t.2.toList)) :
    ({} : IrcAttrs).read (s.irc ts).toList = ((String.join (ts.map (·.2))).toList, true) := by
  have hnil : NoDigit [] := fun _ h => by cases h
  rw [Settings.irc, String.toList_ofList,
    ReadsBack.stream (fun t ht => ircReads_ircToken s t.1 (hts t ht).1 (hts t ht).2.1 (hts t ht).2.2)
      hnil (by rw [IrcAttrs.read])]

/-- A digit after a colour code is taken into the code: a keyword `a` and the text `1` read
back as `a` alone. -/
theorem irc_digit_after_colour_lost :
    (({} : IrcAttrs).read (({} : Settings).irc
      [(TokenKind.keyword, "a"), (TokenKind.text, "1")]).toList).1 = ['a'] := by
  have hout : (({} : Settings).irc [(TokenKind.keyword, "a"), (TokenKind.text, "1")]).toList =
      ['\x03', '0', '2', 'a', '\x03', '1'] := by
    decide
  rw [hout]
  simp [IrcAttrs.read, colorCodeLength, leadDigits]

/-! ## Stripping the codes -/

/-- Terminal, 256-colour and true-colour output read back as the tokens' text, with every line
feed outside the attributes, when no token holds an escape character and, with 256 colours, no
kind of the style has ANSI white for a colour. IRC output reads back the same way when no token
holds one of IRC's codes, no line of a token starts with a comma, and no token without a colour
starts with a digit. -/
theorem terminal_output_reads_back (ts : List (TokenKind × String)) :
    ((∀ t ∈ ts, '\x1b' ∉ t.2.toList) →
      (∀ s : Settings,
        ({} : Attrs).read (s.terminal ts).toList = ((String.join (ts.map (·.2))).toList, true)) ∧
      ∀ (s : StyledSettings) (trueColor : Bool) (st : Built),
        (trueColor = true ∨
          ∀ p ∈ st.table, p.2.color ≠ "ansiwhite" ∧ p.2.bgcolor ≠ "ansiwhite") →
        ({} : Attrs).read (s.format trueColor st ts).toList =
          ((String.join (ts.map (·.2))).toList, true)) ∧
    ∀ s : Settings,
      (∀ t ∈ ts, (∀ c ∈ t.2.toList, c ≠ '\x02' ∧ c ≠ '\x03' ∧ c ≠ '\x1d') ∧
        (∀ p ∈ t.2.toList.splitOn '\n', p.head? ≠ some ',') ∧
        (schemeColor ircColors s.dark t.1 = "" →
          ∀ c, t.2.toList.head? = some c → c.isDigit = false)) →
      ({} : IrcAttrs).read (s.irc ts).toList = ((String.join (ts.map (·.2))).toList, true) :=
  ⟨fun hts => ⟨fun s => read_terminal s hts, fun s _ _ hwhite => read_styled s hwhite hts⟩,
    fun s hts => read_irc s hts⟩

theorem terminal_output_reads_back_keyword :
    ({} : Attrs).read (({} : Settings).terminal [(TokenKind.keyword, "if x\n")]).toList =
        ((String.join ([(TokenKind.keyword, "if x\n")].map (·.2))).toList, true) ∧
      ({} : IrcAttrs).read (({} : Settings).irc [(TokenKind.keyword, "if x\n")]).toList =
        ((String.join ([(TokenKind.keyword, "if x\n")].map (·.2))).toList, true) :=
  ⟨((terminal_output_reads_back _).1 (by decide)).1 {},
    (terminal_output_reads_back _).2 {} fun t ht => by
      obtain rfl := List.mem_singleton.mp ht
      refine ⟨fun c hc => ?_, by decide, fun h => absurd h (by decide)⟩
      have hall : "if x\n".toList.all (fun c => c != '\x02' && c != '\x03' && c != '\x1d') := by
        decide
      simpa [and_assoc] using List.all_eq_true.mp hall c hc⟩

end Highlight.Terminal
