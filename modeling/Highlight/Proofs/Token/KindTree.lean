import Highlight.Proofs.Format.StyleTable
import Highlight.Proofs.Format.RawRoundTrip

/-!
# The tree of kinds

A kind lies below another exactly when the other's path begins its own, and the chain of a kind
lists exactly the kinds whose paths begin its own, from the root down, each the kind above the
next (`chain_eq_parent`). So containment, membership in the chain and the order of paths are one
relation (`contains_iff_mem_chain`, `TokenKind.mem_chain_iff`).

The kinds that dotted names reach (`Named`) are those whose names start with an upper-case
character and hold no dot, the first being none of the three names the root gives to itself and
to the literal kinds (`Proper`, `named_iff_proper`). An attribute access from such a kind reaches
another (`Named.getAttr?`), and the dotted name of such a kind reads back as the kind itself
(`ofDotted?_dotted`).

`Highlight.Proofs.Token.KindStore` shows that token types as objects agree with this view.
-/

set_option autoImplicit false

namespace Highlight.TokenKind

/-- The kinds that dotted names reach. -/
def Named (a : TokenKind) : Prop := ∃ s, ofDotted? s = some a

/-- A kind whose names start with upper-case characters and hold no dot, the first of them none of
`Token`, `String` and `Number`, which from the root name the root and the two literal kinds. -/
structure Proper (k : TokenKind) : Prop where
  upper : ∀ part ∈ k.path, upperStart part = true
  plain : ∀ part ∈ k.path, '.' ∉ part.toList
  first : ∀ part ∈ k.path.head?, part ≠ "Token" ∧ part ≠ "String" ∧ part ≠ "Number"

/-! ## Containment and chains -/

theorem contains_iff_mem_chain (a b : TokenKind) : b.contains a = true ↔ b ∈ a.chain := by
  rw [contains, List.isPrefixOf_iff_prefix, mem_chain_iff]

theorem chain_eq_parent (a : TokenKind) : a.chain = (a.parent?.map chain).getD [] ++ [a] := by
  by_cases ha : a = root
  · subst ha
    rfl
  · obtain ⟨p, x, rfl⟩ := exists_snoc_of_ne_root ha
    rw [chain_snoc, parent?_snoc]
    rfl

/-! ## Attributes -/

theorem proper_root : Proper root := ⟨by simp [root], by simp [root], by simp [root]⟩

theorem getAttr?_child {k : TokenKind} {name : String} (hup : upperStart name = true)
    (hk : k.path ≠ [] ∨ (name ≠ "Token" ∧ name ≠ "String" ∧ name ≠ "Number")) :
    k.getAttr? name = some ⟨k.path ++ [name]⟩ := by
  rw [getAttr?, if_pos hup, attr_eq_child hk]
  rfl

theorem Proper.getAttr? {k k' : TokenKind} {name : String} (hk : Proper k)
    (hdot : '.' ∉ name.toList) (h : k.getAttr? name = some k') : Proper k' := by
  unfold TokenKind.getAttr? at h
  split at h
  · rename_i hup
    cases h
    by_cases hroot : k.path = []
    · -- from the root, the three aliases lead to kinds that are proper as they stand
      by_cases hToken : name = "Token"
      · subst hToken
        simpa [attr, hroot] using proper_root
      by_cases hString : name = "String"
      · subst hString
        simp only [attr, hroot, List.isEmpty_nil, if_true, if_neg hToken]
        exact ⟨by decide, by decide, by decide⟩
      by_cases hNumber : name = "Number"
      · subst hNumber
        simp only [attr, hroot, List.isEmpty_nil, if_true, if_neg hToken, if_neg hString]
        exact ⟨by decide, by decide, by decide⟩
      rw [attr_eq_child (.inr ⟨hToken, hString, hNumber⟩), child, hroot]
      exact ⟨by simpa using hup, by simpa using hdot, by simp [hToken, hString, hNumber]⟩
    · rw [attr_eq_child (.inl hroot), child]
      refine ⟨fun part hp => ?_, fun part hp => ?_, ?_⟩
      · rcases List.mem_append.mp hp with hp | hp
        · exact hk.upper part hp
        · rw [List.mem_singleton.mp hp]
          exact hup
      · rcases List.mem_append.mp hp with hp | hp
        · exact hk.plain part hp
        · rw [List.mem_singleton.mp hp]
          exact hdot
      · obtain ⟨first, rest, hpath⟩ := List.exists_cons_of_ne_nil hroot
        simpa [hpath] using hk.first
  · split at h
    · -- the kind above has the path less its last name
      obtain ⟨p⟩ := k
      unfold parent? at h
      split at h
      · cases h
      · cases h
        refine ⟨fun part hp => hk.upper part (List.mem_of_mem_dropLast hp),
          fun part hp => hk.plain part (List.mem_of_mem_dropLast hp), ?_⟩
        intro part hpart
        have hne : p.dropLast ≠ [] := fun h => by simp [h] at hpart
        apply hk.first
        have hp : p ≠ [] := fun h => hne (by simp [h])
        rw [← List.dropLast_append_getLast hp,
          List.head?_append_of_ne_nil _ hne]
        exact hpart
    · cases h

theorem not_mem_of_mem_splitOn {c : Char} {l part : List Char} (hpart : part ∈ l.splitOn c) :
    c ∉ part := by
  induction l generalizing part with
  | nil =>
    rw [List.splitOn_nil, List.mem_singleton] at hpart
    simp [hpart]
  | cons x xs ih =>
    rw [List.splitOn_cons_eq_if_modifyHead] at hpart
    obtain ⟨first, rest, hsplit⟩ := List.exists_cons_of_ne_nil (List.splitOn_ne_nil c xs)
    split at hpart
    · -- a separator starts a new part
      rcases List.mem_cons.mp hpart with rfl | hpart
      · simp
      · exact ih hpart
    · -- any other character joins the first part
      rename_i hx
      rw [hsplit, List.modifyHead_cons] at hpart
      rcases List.mem_cons.mp hpart with rfl | hpart
      · have hfirst : first ∈ xs.splitOn c := by
          rw [hsplit]
          exact List.mem_cons_self
        simp only [List.mem_cons, not_or]
        exact ⟨fun h => hx (by simp [h]), ih hfirst⟩
      · have hrest : part ∈ xs.splitOn c := by
          rw [hsplit]
          exact List.mem_cons_of_mem _ hpart
        exact ih hrest

theorem Named.proper {a : TokenKind} (ha : Named a) : Proper a := by
  obtain ⟨s, hs⟩ := ha
  unfold ofDotted? at hs
  split at hs
  · cases hs
    exact proper_root
  · have walk : ∀ (parts : List (List Char)) {k : TokenKind}, Proper k →
        (∀ part ∈ parts, '.' ∉ part) →
        parts.foldlM (fun k part => k.getAttr? (String.ofList part)) k = some a → Proper a := by
      intro parts
      induction parts with
      | nil =>
        intro k hk _ h
        cases h
        exact hk
      | cons part parts ih =>
        intro k hk hdots h
        rw [List.foldlM_cons] at h
        cases hstep : k.getAttr? (String.ofList part) with
        | none => simp [hstep] at h
        | some k' =>
          rw [hstep] at h
          exact ih (hk.getAttr? (by simpa using hdots part List.mem_cons_self) hstep)
            (fun q hq => hdots q (List.mem_cons_of_mem _ hq)) h
    exact walk _ proper_root (fun _ hp => not_mem_of_mem_splitOn hp) hs

/-! ## Reading a dotted name back -/

theorem foldlM_getAttr?_below (parts : List String) {k : TokenKind} (hk : k.path ≠ [])
    (hup : ∀ part ∈ parts, upperStart part = true) :
    (parts.map String.toList).foldlM (fun k part => k.getAttr? (String.ofList part)) k =
      some ⟨k.path ++ parts⟩ := by
  induction parts generalizing k with
  | nil => simp
  | cons part parts ih =>
    rw [List.map_cons, List.foldlM_cons, String.ofList_toList,
      getAttr?_child (hup part List.mem_cons_self) (.inl hk)]
    rw [Option.bind_eq_bind, Option.bind_some, ih (by simp) (fun q hq => hup q (List.mem_cons_of_mem _ hq))]
    simp

theorem dotted_splitOn {a : TokenKind} (ha : Proper a) :
    a.dotted.toList.splitOn '.' = "Token".toList :: a.path.map String.toList := by
  rw [RawTokens.dotted_toList, ← RawTokens.intercalate_cons_map]
  apply List.splitOn_intercalate
  · intro part hpart
    rcases List.mem_cons.mp hpart with rfl | hpart
    · decide
    · obtain ⟨name, hname, rfl⟩ := List.mem_map.mp hpart
      exact ha.plain name hname
  · simp

theorem ofDotted?_dotted {a : TokenKind} (ha : Proper a) : ofDotted? a.dotted = some a := by
  have hsplit := dotted_splitOn ha
  have hne : a.dotted ≠ "" := by
    intro h
    have := congrArg String.toList h
    rw [RawTokens.dotted_toList] at this
    simp at this
  have htoken : root.getAttr? "Token" = some root := by decide
  rw [ofDotted?, if_neg hne, hsplit, List.foldlM_cons, String.ofList_toList, htoken,
    Option.bind_eq_bind, Option.bind_some]
  obtain ⟨path⟩ := a
  cases path with
  | nil => rfl
  | cons first rest =>
    -- the first name is read from the root, where it is no alias
    have hfirst := ha.first first rfl
    have hup : ∀ part ∈ first :: rest, upperStart part = true := ha.upper
    rw [List.map_cons, List.foldlM_cons, String.ofList_toList,
      getAttr?_child (hup first List.mem_cons_self) (.inr hfirst), Option.bind_eq_bind,
      Option.bind_some, foldlM_getAttr?_below rest (by simp)
        (fun q hq => hup q (List.mem_cons_of_mem _ hq))]
    rfl

theorem named_iff_proper (a : TokenKind) : Named a ↔ Proper a :=
  ⟨Named.proper, fun ha => ⟨_, ofDotted?_dotted ha⟩⟩

theorem Named.getAttr? {k k' : TokenKind} {name : String} (hk : Named k)
    (hdot : '.' ∉ name.toList) (h : k.getAttr? name = some k') : Named k' :=
  (named_iff_proper k').mpr (hk.proper.getAttr? hdot h)

end Highlight.TokenKind
