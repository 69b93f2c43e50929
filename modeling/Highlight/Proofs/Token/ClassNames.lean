import Highlight.Format.Html
import Highlight.Format.Latex
import Highlight.Proofs.Token.KindTree
import Highlight.Proofs.Format.HtmlLines

/-!
# Class names of kinds

HTML output names a kind by a class, LaTeX output by a style name. Both are the short name of the
nearest standard kind at or above it (`standardAbove`), followed by the names of the kind below
that one (`namesBelow`): with a dash before each in HTML, run together in LaTeX
(`joinedNameUp_eq`).

Short names hold no dash and no upper-case character, and every name of a kind a dotted name
reaches starts with an upper-case character, so a class gives back the short name and the
names below, and a style name the short name and the names below run together
(`kindClass_eq_iff`, `kindName_eq_iff`). Short names tell standard kinds apart but for the root
and `Text`, which share the empty one (`eq_of_shortName?_eq`). So two kinds share a class only
when one is `Token.r` and the other `Token.Text.r` (`kind_names_identify`), while style names
also meet when the names below run together alike: `Token.Name.Ab.C` and `Token.Name.AbC` are
both `nAbC`.
-/

set_option autoImplicit false

namespace Highlight.TokenKind

/-- The nearest standard kind at or above the kind whose path, read from its last name up, is
given, and the names below that standard kind, from the top down. -/
def standardSplitUp : List String → TokenKind × List String
  | [] => (root, [])
  | part :: up =>
    if (shortName? ⟨(part :: up).reverse⟩).isSome then (⟨(part :: up).reverse⟩, [])
    else ((standardSplitUp up).1, (standardSplitUp up).2 ++ [part])

/-- The nearest standard kind at or above a kind. -/
def standardAbove (k : TokenKind) : TokenKind := (standardSplitUp k.path.reverse).1

/-- The names of a kind below the nearest standard kind at or above it. -/
def namesBelow (k : TokenKind) : List String := (standardSplitUp k.path.reverse).2

/-- The short name of the nearest standard kind at or above a kind. -/
def baseName (k : TokenKind) : String := (shortName? (standardAbove k)).getD ""

/-! ## Splitting a path at its standard kind -/

theorem standardSplitUp_path :
    ∀ up : List String, (standardSplitUp up).1.path ++ (standardSplitUp up).2 = up.reverse
  | [] => rfl
  | part :: up => by
    unfold standardSplitUp
    split
    · simp
    · simp [← standardSplitUp_path up]

theorem path_eq_standardAbove (k : TokenKind) :
    k.path = (standardAbove k).path ++ namesBelow k := by
  simp [standardAbove, namesBelow, standardSplitUp_path]

theorem isSome_shortName?_standardSplitUp :
    ∀ up : List String, (shortName? (standardSplitUp up).1).isSome
  | [] => rfl
  | part :: up => by
    unfold standardSplitUp
    split
    · assumption
    · exact isSome_shortName?_standardSplitUp up

theorem joinedNameUp_eq (sep : String) :
    ∀ up : List String, joinedNameUp sep up =
      (shortName? (standardSplitUp up).1).getD "" ++
        String.join ((standardSplitUp up).2.map (sep ++ ·))
  | [] => rfl
  | part :: up => by
    have ih := joinedNameUp_eq sep up
    rw [joinedNameUp, standardSplitUp]
    cases h : shortName? ⟨(part :: up).reverse⟩ with
    | some s =>
      simp only [List.reverse_cons] at h
      simp [h]
    | none => simp [ih, String.append_assoc]

/-! ## Short names -/

theorem mem_standardNames_of_shortName? {k : TokenKind} {s : String}
    (h : shortName? k = some s) : (k, s) ∈ standardNames := by
  obtain ⟨l₁, l₂, hl, -⟩ := List.lookup_eq_some_iff.mp h
  simp [hl]

theorem eq_of_shortName?_eq {x y : TokenKind} {s : String} (hx : shortName? x = some s)
    (hy : shortName? y = some s) : x = y ∨ (x = root ∨ x = text) ∧ (y = root ∨ y = text) := by
  have hmx := mem_standardNames_of_shortName? hx
  have hmy := mem_standardNames_of_shortName? hy
  by_cases hs : s = ""
  · -- only the root and `Text` have the empty name
    have hempty : ∀ p ∈ standardNames, p.2 = "" → p.1 = root ∨ p.1 = text := by decide
    exact .inr ⟨hempty _ hmx hs, hempty _ hmy hs⟩
  · -- the other names are all different
    have hne : (s != "") = true := bne_iff_ne.mpr hs
    have hinj := List.inj_on_of_nodup_map shortName_injective_on_named
      (List.mem_filter.mpr ⟨hmx, hne⟩) (List.mem_filter.mpr ⟨hmy, hne⟩) rfl
    exact .inl (Prod.mk.inj hinj).1

theorem dash_not_mem_shortName : ∀ p ∈ standardNames, '-' ∉ p.2.toList := by decide

theorem upper_not_mem_shortName :
    (standardNames.all fun p => p.2.toList.all fun c => !Chars.isUpper c) = true := by
  decide

theorem shortName?_standardAbove (k : TokenKind) :
    shortName? (standardAbove k) = some (baseName k) := by
  obtain ⟨s, hs⟩ := Option.isSome_iff_exists.mp (isSome_shortName?_standardSplitUp k.path.reverse)
  simp [baseName, standardAbove, hs]

theorem baseName_mem (k : TokenKind) : (standardAbove k, baseName k) ∈ standardNames :=
  mem_standardNames_of_shortName? (shortName?_standardAbove k)

theorem eq_of_standardAbove_eq {a b : TokenKind} (h₁ : standardAbove a = standardAbove b)
    (h₂ : namesBelow a = namesBelow b) : a = b := by
  have hpath : a.path = b.path := by
    rw [path_eq_standardAbove a, path_eq_standardAbove b, h₁, h₂]
  cases a
  cases b
  simpa using hpath

/-! ## HTML classes -/

theorem kindClass_eq (k : TokenKind) :
    Html.kindClass k = baseName k ++ String.join ((namesBelow k).map ("-" ++ ·)) :=
  joinedNameUp_eq "-" k.path.reverse

theorem intercalate_dash (s : List Char) (ps : List (List Char)) :
    ['-'].intercalate (s :: ps) = s ++ (ps.map ('-' :: ·)).flatten := by
  induction ps generalizing s with
  | nil => simp
  | cons p ps ih => simp [List.intercalate_cons_cons, ih]

theorem splitOn_kindClass {k : TokenKind} (hk : ∀ part ∈ k.path, '-' ∉ part.toList) :
    (Html.kindClass k).toList.splitOn '-' = (baseName k).toList :: (namesBelow k).map String.toList := by
  have hflat : (Html.kindClass k).toList =
      ['-'].intercalate ((baseName k).toList :: (namesBelow k).map String.toList) := by
    rw [intercalate_dash, kindClass_eq]
    simp [String.toList_join, List.flatMap_def, Function.comp_def]
  rw [hflat, List.splitOn_intercalate _ _ (List.cons_ne_nil _ _)]
  intro l hl
  simp only [List.mem_cons, List.mem_map] at hl
  obtain rfl | ⟨p, hp, rfl⟩ := hl
  · exact dash_not_mem_shortName _ (baseName_mem k)
  · exact hk p (by rw [path_eq_standardAbove k]; exact List.mem_append_right _ hp)

theorem kindClass_eq_iff {a b : TokenKind} (ha : ∀ part ∈ a.path, '-' ∉ part.toList)
    (hb : ∀ part ∈ b.path, '-' ∉ part.toList) :
    Html.kindClass a = Html.kindClass b ↔ baseName a = baseName b ∧ namesBelow a = namesBelow b := by
  constructor
  · intro h
    have hsplit := congrArg (fun c : String => c.toList.splitOn '-') h
    simp only [splitOn_kindClass ha, splitOn_kindClass hb, List.cons.injEq] at hsplit
    exact ⟨String.toList_injective hsplit.1,
      List.map_injective_iff.mpr (fun _ _ => String.toList_injective) hsplit.2⟩
  · rintro ⟨hbase, hbelow⟩
    rw [kindClass_eq, kindClass_eq, hbase, hbelow]

/-! ## LaTeX style names -/

theorem kindName_eq (k : TokenKind) :
    Latex.kindName k = baseName k ++ String.join (namesBelow k) := by
  simpa [Latex.kindName, baseName, standardAbove, namesBelow] using joinedNameUp_eq "" k.path.reverse

theorem upper_head_join {names : List String} (h : ∀ part ∈ names, upperStart part = true) :
    ∀ c ∈ (String.join names).toList.head?, Chars.isUpper c = true := by
  induction names with
  | nil => simp
  | cons part names ih =>
    have hpart := h part List.mem_cons_self
    unfold upperStart at hpart
    cases hp : part.toList with
    | nil => simp [hp] at hpart
    | cons c rest => simp_all

theorem eq_of_append_eq_append {s₁ s₂ t₁ t₂ : List Char}
    (hs₁ : ∀ c ∈ s₁, Chars.isUpper c = false) (hs₂ : ∀ c ∈ s₂, Chars.isUpper c = false)
    (ht₁ : ∀ c ∈ t₁.head?, Chars.isUpper c = true) (ht₂ : ∀ c ∈ t₂.head?, Chars.isUpper c = true)
    (h : s₁ ++ t₁ = s₂ ++ t₂) : s₁ = s₂ ∧ t₁ = t₂ := by
  rcases List.append_eq_append_iff.mp h with ⟨m, rfl, hm⟩ | ⟨m, rfl, hm⟩
  · -- `s₂` is `s₁` and then `m`, which begins `t₁`: a character both upper-case and not
    cases m with
    | nil => simp [hm]
    | cons c m =>
      have hup := ht₁ c (by simp [hm])
      simp [hs₂ c (by simp)] at hup
  · cases m with
    | nil => simp [hm]
    | cons c m =>
      have hup := ht₂ c (by simp [hm])
      simp [hs₁ c (by simp)] at hup

theorem upper_not_mem_baseName (k : TokenKind) : ∀ c ∈ (baseName k).toList, Chars.isUpper c = false := by
  intro c hc
  have h := List.all_eq_true.mp upper_not_mem_shortName _ (baseName_mem k)
  simpa using List.all_eq_true.mp h c hc

theorem kindName_eq_iff {a b : TokenKind} (ha : Named a) (hb : Named b) :
    Latex.kindName a = Latex.kindName b ↔
      baseName a = baseName b ∧ String.join (namesBelow a) = String.join (namesBelow b) := by
  have hbelow : ∀ {k : TokenKind}, Named k →
      ∀ c ∈ (String.join (namesBelow k)).toList.head?, Chars.isUpper c = true := by
    intro k hk
    apply upper_head_join
    intro part hpart
    exact hk.proper.upper part (by rw [path_eq_standardAbove k]; exact List.mem_append_right _ hpart)
  constructor
  · intro h
    rw [kindName_eq, kindName_eq, String.ext_iff, String.toList_append, String.toList_append] at h
    obtain ⟨h₁, h₂⟩ := eq_of_append_eq_append (upper_not_mem_baseName a) (upper_not_mem_baseName b)
      (hbelow ha) (hbelow hb) h
    exact ⟨String.toList_injective h₁, String.toList_injective h₂⟩
  · rintro ⟨hbase, hjoin⟩
    rw [kindName_eq, kindName_eq, hbase, hjoin]

/-! ## Which kinds share a name -/

/-- `a` is `Token.r` and `b` is `Token.Text.r` for names `r` that meet no standard kind below the
root, nor below `Text`. -/
def TextTwins (a b : TokenKind) : Prop :=
  standardAbove a = root ∧ standardAbove b = text ∧ namesBelow a = namesBelow b

/-- Class names tell kinds apart up to the root and `Text`, which share the empty short name:
two kinds that dotted names reach, with no dash in their names, share a class exactly when they
are equal or `Token.r` and `Token.Text.r`. Style names tell apart the short names, up to the same
pair, and the names below run together. -/
theorem kind_names_identify {a b : TokenKind} (ha : Named a) (hb : Named b) :
    ((∀ part ∈ a.path, '-' ∉ part.toList) → (∀ part ∈ b.path, '-' ∉ part.toList) →
      (Html.kindClass a = Html.kindClass b ↔ a = b ∨ TextTwins a b ∨ TextTwins b a)) ∧
    (Latex.kindName a = Latex.kindName b ↔
      baseName a = baseName b ∧ String.join (namesBelow a) = String.join (namesBelow b)) := by
  refine ⟨fun hda hdb => ?_, kindName_eq_iff ha hb⟩
  rw [kindClass_eq_iff hda hdb]
  constructor
  · rintro ⟨hbase, hbelow⟩
    have hsa := shortName?_standardAbove a
    rw [hbase] at hsa
    rcases eq_of_shortName?_eq hsa (shortName?_standardAbove b) with hab | ⟨hra | hta, hrb | htb⟩
    · exact .inl (eq_of_standardAbove_eq hab hbelow)
    · exact .inl (eq_of_standardAbove_eq (hra.trans hrb.symm) hbelow)
    · exact .inr (.inl ⟨hra, htb, hbelow⟩)
    · exact .inr (.inr ⟨hrb, hta, hbelow.symm⟩)
    · exact .inl (eq_of_standardAbove_eq (hta.trans htb.symm) hbelow)
  · -- the root and `Text` both have the empty short name
    have hsame : (shortName? root).getD "" = (shortName? text).getD "" := rfl
    rintro (rfl | ⟨hra, htb, hbelow⟩ | ⟨hrb, hta, hbelow⟩)
    · exact ⟨rfl, rfl⟩
    · exact ⟨by rw [baseName, baseName, hra, htb, hsame], hbelow⟩
    · exact ⟨by rw [baseName, baseName, hrb, hta, hsame], hbelow.symm⟩

/-- `Token.Name.Ab.C` and `Token.Name.AbC` share the style name `nAbC` but not a class. -/
theorem name_runs_share_style :
    Named ⟨["Name", "Ab", "C"]⟩ ∧ Named ⟨["Name", "AbC"]⟩ ∧
      Latex.kindName ⟨["Name", "Ab", "C"]⟩ = Latex.kindName ⟨["Name", "AbC"]⟩ ∧
      Html.kindClass ⟨["Name", "Ab", "C"]⟩ ≠ Html.kindClass ⟨["Name", "AbC"]⟩ := by
  have ha : Named ⟨["Name", "Ab", "C"]⟩ := ⟨"Name.Ab.C", by decide +kernel⟩
  have hb : Named ⟨["Name", "AbC"]⟩ := ⟨"Name.AbC", by decide +kernel⟩
  have hnames := kind_names_identify ha hb
  refine ⟨ha, hb, hnames.2.mpr ⟨by decide, by decide⟩, fun h => ?_⟩
  have hsame := (hnames.1 (by decide) (by decide)).mp h
  revert hsame
  unfold TextTwins
  decide

/-- `Token.Foo` and `Token.Text.Foo`, two kinds of letters other than the root and `Text`, share
their class and their style name, and so do `Token.Name.Ab.C` and `Token.Name.AbC`. -/
theorem text_twins_share_names :
    Named ⟨["Foo"]⟩ ∧ Named ⟨["Text", "Foo"]⟩ ∧
      (["Foo", "Text"].all fun part => part.toList.all Char.isAlpha) = true ∧
      Html.kindClass ⟨["Foo"]⟩ = Html.kindClass ⟨["Text", "Foo"]⟩ ∧
      Latex.kindName ⟨["Foo"]⟩ = Latex.kindName ⟨["Text", "Foo"]⟩ ∧
      Named ⟨["Name", "Ab", "C"]⟩ ∧ Named ⟨["Name", "AbC"]⟩ ∧
      Latex.kindName ⟨["Name", "Ab", "C"]⟩ = Latex.kindName ⟨["Name", "AbC"]⟩ :=
  ⟨⟨"Foo", by decide +kernel⟩, ⟨"Text.Foo", by decide +kernel⟩, by decide +kernel, by decide, by decide,
    ⟨"Name.Ab.C", by decide +kernel⟩, ⟨"Name.AbC", by decide +kernel⟩, by decide⟩

end Highlight.TokenKind
