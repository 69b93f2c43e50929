import Highlight.Token.Store
import Highlight.Proofs.Token.KindTree
import Highlight.Grammar.Defs

/-!
# Token types as objects agree with their paths

A store of token types is well formed (`Store.WF`) when the root has no names and no node above
it, every other node lies one name below a node made before it and is recorded under that name
among its attributes, every attribute holds the type that `TokenKind.attr` names, the names of
every node are proper (`TokenKind.Proper`), and no two nodes have the same names.

Asking for an attribute keeps a store well formed (`WF.getattr`), as long as a new node is never
made under the root by the name of one of its aliases; once the root has set its aliases
(`Store.Aliased`) that cannot happen. So the store the module of token types leaves is well
formed (`wf_standard`), and so is every store that accesses reach from it (`Reachable.wf`). On a
well-formed store the two views of token types agree: following the links up lists the kinds
whose paths begin a node's own, containment is the order of paths, a dotted name stands for the
kind its path view reads (`WF.stringToTokentype`), and the dotted name of a node reads back as the
node itself, with no node made (`WF.stringToTokentype_dotted`). The main result is
`token_types_coherent`.
-/

set_option autoImplicit false

namespace Highlight.Tokens.Store

open TokenKind (Proper upperStart)

/-- The names the root gives to itself and to the two literal types. -/
def aliasNames : List String := ["Token", "String", "Number"]

/-- The kind a value stands for: a node stands for the kind of its names, any other value for
none. -/
def kindOf (s : Store) : Value → Option TokenKind
  | .node n => some ⟨s.path n⟩
  | _ => none

/-- A well-formed store of token types. -/
structure WF (s : Store) : Prop where
  root_lt : 0 < s.size
  path_root : s.path 0 = []
  parent_root : s.parentOf 0 = none
  parent : ∀ n < s.size, n ≠ 0 →
    ∃ p < n, s.parentOf n = some p ∧ ∃ name, s.path n = s.path p ++ [name]
  recorded : ∀ {n p : Nat} {name : String}, n < s.size → s.parentOf n = some p →
    s.path n = s.path p ++ [name] → (name, n) ∈ s.attrsOf p
  attrs : ∀ {n : Nat} {e : String × Nat}, e ∈ s.attrsOf n →
    e.2 < s.size ∧ upperStart e.1 = true ∧ s.path e.2 = (TokenKind.attr ⟨s.path n⟩ e.1).path
  proper : ∀ n < s.size, Proper ⟨s.path n⟩
  unique : ∀ {m n : Nat}, m < s.size → n < s.size → s.path m = s.path n → m = n

/-- The root holds its three aliases. -/
def Aliased (s : Store) : Prop := ∀ k ∈ aliasNames, ∃ m, (k, m) ∈ s.attrsOf 0

/-- Store `s'` holds every attribute that `s` holds. -/
def Grows (s s' : Store) : Prop := ∀ {k : Nat} {e : String × Nat}, e ∈ s.attrsOf k → e ∈ s'.attrsOf k

/-- Names that a reading can take without an alias set: none climbs to the node above, and the
first is no alias of the root. -/
def Fresh (parts : List String) : Prop :=
  "parent" ∉ parts ∧ ∀ first ∈ parts.head?, first ∉ aliasNames

instance (parts : List String) : Decidable (Fresh parts) :=
  inferInstanceAs (Decidable ("parent" ∉ parts ∧ ∀ first ∈ parts.head?, first ∉ aliasNames))

/-- Reading `parts` from node `n` never makes a node under the root by an alias's name: the root
holds its aliases, or the reading starts below the root or with a name that is no alias, and never
climbs back. -/
def Safe (s : Store) (n : Nat) (parts : List String) : Prop :=
  s.Aliased ∨ ("parent" ∉ parts ∧ (s.path n = [] → ∀ first ∈ parts.head?, first ∉ aliasNames))

variable {s s' : Store} {n m k : Nat} {name : String}

theorem not_mem_aliasNames : name ∉ aliasNames ↔ name ≠ "Token" ∧ name ≠ "String" ∧ name ≠ "Number" := by
  simp [aliasNames]

theorem Fresh.safe {parts : List String} (h : Fresh parts) : Safe s n parts :=
  .inr ⟨h.1, fun _ => h.2⟩

theorem Aliased.grow (h : s.Aliased) (hg : Grows s s') : s'.Aliased :=
  fun k hk => (h k hk).imp fun _ hm => hg hm

theorem aliased_of_mem (hToken : ∃ m, ("Token", m) ∈ s.attrsOf 0)
    (hString : ∃ m, ("String", m) ∈ s.attrsOf 0) (hNumber : ∃ m, ("Number", m) ∈ s.attrsOf 0) :
    s.Aliased := by
  intro k hk
  simp only [aliasNames, List.mem_cons, List.not_mem_nil, or_false] at hk
  rcases hk with rfl | rfl | rfl
  · exact hToken
  · exact hString
  · exact hNumber

/-! ## Setting an attribute and making a node -/

@[simp] theorem size_setAttr : (s.setAttr n name m).size = s.size := by
  simp [setAttr, size]

@[simp] theorem path_setAttr : (s.setAttr n name m).path k = s.path k := by
  simp only [setAttr, path, Array.getElem?_modify]
  split <;> cases s.nodes[k]? <;> rfl

@[simp] theorem parentOf_setAttr : (s.setAttr n name m).parentOf k = s.parentOf k := by
  simp only [setAttr, parentOf, Array.getElem?_modify]
  split <;> cases s.nodes[k]? <;> rfl

theorem lt_size_of_mem_attrsOf {e : String × Nat} (he : e ∈ s.attrsOf k) : k < s.size := by
  by_contra hk
  rw [attrsOf, Array.getElem?_eq_none_iff.mpr (by simp only [size] at hk; omega)] at he
  simp at he

theorem mem_attrsOf_setAttr {e : String × Nat} :
    e ∈ (s.setAttr n name m).attrsOf k ↔ (k = n ∧ n < s.size ∧ e = (name, m)) ∨ e ∈ s.attrsOf k := by
  simp only [setAttr, attrsOf, Array.getElem?_modify]
  by_cases hk : n = k
  · subst hk
    cases hnode : s.nodes[n]? with
    | none =>
      have : ¬n < s.size := by simpa [size, Array.getElem?_eq_none_iff] using hnode
      simp [this]
    | some node =>
      have : n < s.size := by
        simp only [size]
        exact (Array.getElem?_eq_some_iff.mp hnode).1
      simp [this]
  · simp [hk, Ne.symm hk]

@[simp] theorem size_adopt : (s.adopt n name).size = s.size + 1 := by
  simp [adopt, size, setAttr]

theorem path_adopt : (s.adopt n name).path k = if k = s.size then s.path n ++ [name] else s.path k := by
  by_cases hk : k = s.size
  · subst hk
    simp [adopt, path, size, setAttr, Array.getElem_push]
  · have hk' : k ≠ (s.setAttr n name s.size).nodes.size := by simpa [setAttr, size] using hk
    simp only [adopt, path, Array.getElem?_push, if_neg hk', if_neg hk]
    exact path_setAttr

theorem parentOf_adopt :
    (s.adopt n name).parentOf k = if k = s.size then some n else s.parentOf k := by
  by_cases hk : k = s.size
  · subst hk
    simp [adopt, parentOf, size, setAttr, Array.getElem_push]
  · have hk' : k ≠ (s.setAttr n name s.size).nodes.size := by simpa [setAttr, size] using hk
    simp only [adopt, parentOf, Array.getElem?_push, if_neg hk', if_neg hk]
    exact parentOf_setAttr

theorem mem_attrsOf_adopt {e : String × Nat} :
    e ∈ (s.adopt n name).attrsOf k ↔ (k = n ∧ n < s.size ∧ e = (name, s.size)) ∨ e ∈ s.attrsOf k := by
  by_cases hk : k = s.size
  · subst hk
    have hnil : (s.adopt n name).attrsOf s.size = [] := by
      simp [adopt, attrsOf, size, setAttr, Array.getElem_push]
    have : ¬e ∈ s.attrsOf s.size := fun he => by simpa using lt_size_of_mem_attrsOf he
    rw [hnil]
    simp only [List.not_mem_nil, false_iff, not_or]
    exact ⟨fun ⟨h, hn, _⟩ => by omega, this⟩
  · have hk' : k ≠ (s.setAttr n name s.size).nodes.size := by simpa [setAttr, size] using hk
    have hold : (s.adopt n name).attrsOf k = (s.setAttr n name s.size).attrsOf k := by
      simp only [adopt, attrsOf, Array.getElem?_push, if_neg hk']
    rw [hold]
    exact mem_attrsOf_setAttr

/-! ## Facts of a well-formed store -/

theorem WF.parentOf_lt (hs : s.WF) (hn : n < s.size) {p : Nat} (h : s.parentOf n = some p) :
    p < n := by
  by_cases h0 : n = 0
  · subst h0
    rw [hs.parent_root] at h
    cases h
  · obtain ⟨p', hp', hpar, -⟩ := hs.parent n hn h0
    rw [hpar] at h
    cases h
    exact hp'

/-- A node one name below node `n` is recorded among the attributes of `n` under that name. -/
theorem WF.mem_attrsOf_of_path (hs : s.WF) {c : Nat} {x : String} (hc : c < s.size)
    (hn : n < s.size) (h : s.path c = s.path n ++ [x]) : (x, c) ∈ s.attrsOf n := by
  have hc0 : c ≠ 0 := by
    rintro rfl
    rw [hs.path_root] at h
    simp at h
  obtain ⟨p, hp, hpar, y, hpy⟩ := hs.parent c hc hc0
  obtain ⟨hpn, hxy⟩ := List.append_inj' (h.symm.trans hpy) rfl
  obtain rfl : p = n := hs.unique (by omega) hn hpn.symm
  obtain rfl : x = y := List.singleton_inj.mp hxy
  exact hs.recorded hc hpar h

theorem exists_lookup_of_mem {l : List (String × Nat)} {x : String} {c : Nat} (h : (x, c) ∈ l) :
    ∃ c', l.lookup x = some c' := by
  cases hl : l.lookup x with
  | some c' => exact ⟨c', rfl⟩
  | none =>
    have := List.lookup_eq_none_iff.mp hl (x, c) h
    simp at this

theorem not_mem_of_lookup_eq_none {l : List (String × Nat)} {x : String}
    (h : l.lookup x = none) (c : Nat) : (x, c) ∉ l := fun hc => by
  obtain ⟨c', hc'⟩ := exists_lookup_of_mem hc
  rw [h] at hc'
  cases hc'

/-- The first attribute of node `n` named `x` holds the node one name below `n`, when there is
one. -/
theorem WF.lookup_of_path (hs : s.WF) {c : Nat} {x : String} (hc : c < s.size) (hn : n < s.size)
    (h : s.path c = s.path n ++ [x]) : (s.attrsOf n).lookup x = some c := by
  have hmem := hs.mem_attrsOf_of_path hc hn h
  obtain ⟨c', hc'⟩ := exists_lookup_of_mem hmem
  obtain ⟨hlt', -, hpath'⟩ := hs.attrs (Highlight.mem_of_lookup_eq_some hc')
  obtain ⟨-, -, hpath⟩ := hs.attrs hmem
  rw [hc']
  exact congrArg some (hs.unique hlt' hc (hpath'.trans hpath.symm))

/-! ## One attribute access -/

/-- What an access does: it finds an attribute set before, or gives the node above, or a value
that is no token type, or makes a node below. -/
theorem getattr_cases {v : Value} (h : s.getattr n name = .ok (v, s')) :
    (∃ m, (s.attrsOf n).lookup name = some m ∧ v = .node m ∧ s' = s) ∨
    ((s.attrsOf n).lookup name = none ∧ name = "parent" ∧
      v = ((s.parentOf n).map Value.node).getD .none ∧ s' = s) ∨
    ((s.attrsOf n).lookup name = none ∧ name ≠ "parent" ∧ name ∈ plainAttrs ∧ v = .other ∧
      s' = s) ∨
    ((s.attrsOf n).lookup name = none ∧ name ≠ "parent" ∧ name ∉ plainAttrs ∧
      upperStart name = true ∧ v = .node s.size ∧ s' = s.adopt n name) := by
  unfold getattr at h
  split at h
  · rename_i m hm
    cases h
    exact .inl ⟨m, hm, rfl, rfl⟩
  · rename_i hm
    split at h
    · cases h
      exact .inr (.inl ⟨hm, ‹_›, rfl, rfl⟩)
    · split at h
      · cases h
        exact .inr (.inr (.inl ⟨hm, ‹_›, ‹_›, rfl, rfl⟩))
      · split at h
        · cases h
          exact .inr (.inr (.inr ⟨hm, ‹_›, ‹_›, ‹_›, rfl, rfl⟩))
        · cases h

theorem getattr_error {e : String} (h : s.getattr n name = .error e) :
    name ≠ "parent" ∧ upperStart name = false := by
  unfold getattr at h
  split at h
  · cases h
  · split at h
    · cases h
    · split at h
      · cases h
      · split at h
        · cases h
        · exact ⟨‹_›, by simpa using ‹¬upperStart name = true›⟩

theorem getattr_grows {v : Value} (h : s.getattr n name = .ok (v, s')) : Grows s s' := by
  rcases getattr_cases h with ⟨-, -, -, rfl⟩ | ⟨-, -, -, rfl⟩ | ⟨-, -, -, -, rfl⟩ |
    ⟨-, -, -, -, -, rfl⟩
  · exact id
  · exact id
  · exact id
  · exact fun he => mem_attrsOf_adopt.mpr (.inr he)

/-- No attribute of a tuple names a token type. -/
theorem upperStart_of_mem_plainAttrs {w : String} (hw : w ∈ plainAttrs) : upperStart w = false := by
  rw [plainAttrs] at hw
  rcases List.mem_append.mp hw with hw | hw
  · simp only [List.mem_cons, List.not_mem_nil, or_false] at hw
    rcases hw with rfl | rfl | rfl | rfl <;> decide
  · -- the special names start with an underscore
    obtain ⟨x, -, rfl⟩ := List.mem_map.mp hw
    simp only [upperStart, String.toList_append]
    rfl

theorem WF.setAttr (hs : s.WF) (hm : m < s.size) (hup : upperStart name = true)
    (hpath : s.path m = (TokenKind.attr ⟨s.path n⟩ name).path) : (s.setAttr n name m).WF where
  root_lt := by simpa using hs.root_lt
  path_root := by simpa using hs.path_root
  parent_root := by simpa using hs.parent_root
  parent k hk hk0 := by simpa using hs.parent k (by simpa using hk) hk0
  recorded hk hpar hpath :=
    mem_attrsOf_setAttr.mpr (.inr (hs.recorded (by simpa using hk) (by simpa using hpar)
      (by simpa using hpath)))
  attrs he := by
    rcases mem_attrsOf_setAttr.mp he with ⟨rfl, -, rfl⟩ | he
    · simpa using ⟨hm, hup, hpath⟩
    · simpa using hs.attrs he
  proper k hk := by simpa using hs.proper k (by simpa using hk)
  unique hm hk h := hs.unique (by simpa using hm) (by simpa using hk) (by simpa using h)

/-- Making a node below node `n` by a name that `n` does not hold keeps a store well formed, as
long as the name is no alias when `n` is the root. -/
theorem WF.adopt (hs : s.WF) (hn : n < s.size) (hup : upperStart name = true)
    (hdot : '.' ∉ name.toList) (hnew : ∀ m, (name, m) ∉ s.attrsOf n)
    (hchild : s.path n ≠ [] ∨ (name ≠ "Token" ∧ name ≠ "String" ∧ name ≠ "Number")) :
    (s.adopt n name).WF where
  root_lt := by simp
  path_root := by
    rw [path_adopt, if_neg (by have := hs.root_lt; omega), hs.path_root]
  parent_root := by
    rw [parentOf_adopt, if_neg (by have := hs.root_lt; omega), hs.parent_root]
  parent k hk hk0 := by
    rw [size_adopt] at hk
    by_cases hks : k = s.size
    · subst hks
      exact ⟨n, hn, by rw [parentOf_adopt, if_pos rfl], name,
        by rw [path_adopt, if_pos rfl, path_adopt, if_neg (by omega)]⟩
    · obtain ⟨p, hp, hpar, y, hpy⟩ := hs.parent k (by omega) hk0
      exact ⟨p, hp, by rw [parentOf_adopt, if_neg hks, hpar], y,
        by rw [path_adopt, if_neg hks, path_adopt, if_neg (by omega), hpy]⟩
  recorded {k p y} hk hpar hpath := by
    rw [size_adopt] at hk
    rw [mem_attrsOf_adopt]
    by_cases hks : k = s.size
    · subst hks
      rw [parentOf_adopt, if_pos rfl] at hpar
      cases hpar
      rw [path_adopt, if_pos rfl, path_adopt, if_neg (by omega)] at hpath
      obtain rfl := List.singleton_inj.mp (List.append_cancel_left hpath)
      exact .inl ⟨rfl, hn, rfl⟩
    · rw [parentOf_adopt, if_neg hks] at hpar
      have hp := hs.parentOf_lt (by omega) hpar
      rw [path_adopt, if_neg hks, path_adopt, if_neg (by omega)] at hpath
      exact .inr (hs.recorded (by omega) hpar hpath)
  attrs {k e} he := by
    rcases mem_attrsOf_adopt.mp he with ⟨hkn, -, rfl⟩ | he
    · rw [hkn]
      refine ⟨by simp, hup, ?_⟩
      show (s.adopt n name).path s.size = (TokenKind.attr ⟨(s.adopt n name).path n⟩ name).path
      rw [path_adopt, if_pos rfl, path_adopt, if_neg (by omega),
        @TokenKind.attr_eq_child ⟨s.path n⟩ name hchild]
      rfl
    · obtain ⟨hlt, hupe, hpath⟩ := hs.attrs he
      have hk := lt_size_of_mem_attrsOf he
      exact ⟨by simp; omega, hupe, by rw [path_adopt, if_neg (by omega), path_adopt,
        if_neg (by omega), hpath]⟩
  proper k hk := by
    rw [size_adopt] at hk
    rw [path_adopt]
    split
    · exact (hs.proper n hn).getAttr? hdot (@TokenKind.getAttr?_child ⟨s.path n⟩ name hup hchild)
    · exact hs.proper k (by omega)
  unique {j k} hj hk h := by
    rw [size_adopt] at hj hk
    -- a node that is there already cannot have the names of the new one
    have old : ∀ i < s.size, s.path i ≠ s.path n ++ [name] := fun i hi hpath =>
      hnew i (hs.mem_attrsOf_of_path hi hn hpath)
    rw [path_adopt, path_adopt] at h
    by_cases hjs : j = s.size <;> by_cases hks : k = s.size
    · omega
    · rw [if_pos hjs, if_neg hks] at h
      exact absurd h.symm (old k (by omega))
    · rw [if_neg hjs, if_pos hks] at h
      exact absurd h (old j (by omega))
    · rw [if_neg hjs, if_neg hks] at h
      exact hs.unique (by omega) (by omega) h

/-- **One access** keeps a store well formed, gives the kind the path view gives, and gives a
node of the store, when it makes no node under the root by an alias's name. -/
theorem WF.getattr (hs : s.WF) (hn : n < s.size) (hdot : '.' ∉ name.toList)
    (hfresh : s.path n = [] → name ∈ aliasNames → ∃ m, (name, m) ∈ s.attrsOf 0) {v : Value}
    (h : s.getattr n name = .ok (v, s')) :
    s'.WF ∧ s'.kindOf v = (⟨s.path n⟩ : TokenKind).getAttr? name ∧
      ∀ c, v = .node c → c < s'.size := by
  rcases getattr_cases h with ⟨m, hm, rfl, hs'⟩ | ⟨hm, rfl, rfl, hs'⟩ |
    ⟨hm, hpar, hplain, rfl, hs'⟩ | ⟨hm, hpar, hplain, hup, rfl, rfl⟩
  all_goals try subst s'
  · -- an attribute set before holds the type `attr` names
    obtain ⟨hlt, hup, hpath⟩ := hs.attrs (Highlight.mem_of_lookup_eq_some hm)
    refine ⟨hs, ?_, fun c hc => by cases hc; exact hlt⟩
    rw [kindOf, hpath, TokenKind.getAttr?, if_pos hup]
  · -- `parent` gives the node above, and none at the root
    have hup : upperStart "parent" = false := by decide
    refine ⟨hs, ?_, fun c hc => ?_⟩
    · rw [TokenKind.getAttr?, if_neg (by simp [hup]), if_pos rfl]
      by_cases h0 : n = 0
      · subst h0
        simp [hs.parent_root, kindOf, hs.path_root, TokenKind.parent?]
      · obtain ⟨p, -, hpar, y, hpy⟩ := hs.parent n hn h0
        simp [hpar, kindOf, hpy, TokenKind.parent?]
    · cases hpar : s.parentOf n with
      | none => simp [hpar] at hc
      | some p =>
        simp only [hpar, Option.map_some, Option.getD_some, Value.node.injEq] at hc
        subst hc
        exact Nat.lt_trans (hs.parentOf_lt hn hpar) hn
  · -- the attributes of a tuple hold no token type
    refine ⟨hs, ?_, fun c hc => by cases hc⟩
    simp [kindOf, TokenKind.getAttr?, upperStart_of_mem_plainAttrs hplain, hpar]
  · -- a new node below `n`
    have hnew := not_mem_of_lookup_eq_none hm
    have hchild : s.path n ≠ [] ∨ (name ≠ "Token" ∧ name ≠ "String" ∧ name ≠ "Number") := by
      by_cases hroot : s.path n = []
      · refine .inr (not_mem_aliasNames.mp fun halias => ?_)
        obtain ⟨m, hm0⟩ := hfresh hroot halias
        obtain rfl : n = 0 := hs.unique hn hs.root_lt (hroot.trans hs.path_root.symm)
        exact hnew m hm0
      · exact .inl hroot
    refine ⟨hs.adopt hn hup hdot hnew hchild, ?_, fun c hc => by cases hc; simp⟩
    rw [kindOf, path_adopt, if_pos rfl, @TokenKind.getAttr?_child ⟨s.path n⟩ name hup hchild]

/-- An access that gives a node, by a name other than `parent`, leads below the root, unless it
starts there with an alias. -/
theorem getAttr?_path_ne_nil {k k' : TokenKind} (h : k.getAttr? name = some k')
    (hpar : name ≠ "parent") (hk : k.path ≠ [] ∨ name ∉ aliasNames) : k'.path ≠ [] := by
  unfold TokenKind.getAttr? at h
  split at h
  · cases h
    rw [TokenKind.attr_eq_child (hk.imp id not_mem_aliasNames.mp)]
    simp [TokenKind.child]
  · cases h

/-! ## Readings -/

/-- **Reading names one after another** keeps a store well formed, grows its attributes, ends on
a node of the store when it ends on one, and stands for the kind the path view reads. The
induction is on the names; each step is one access (`WF.getattr`). -/
theorem WF.readParts {parts : List String} (hs : s.WF) (hn : n < s.size)
    (hdots : ∀ part ∈ parts, '.' ∉ part.toList) (hsafe : Safe s n parts) :
    (∀ v s', s.readParts (.node n) parts = .ok (v, s') →
      s'.WF ∧ Grows s s' ∧ ∀ c, v = .node c → c < s'.size) ∧
    ((s.readParts (.node n) parts).toOption.bind fun r => r.2.kindOf r.1) =
      parts.foldlM (fun k part => k.getAttr? part) ⟨s.path n⟩ := by
  induction parts generalizing s n with
  | nil =>
    refine ⟨fun v s' h => ?_, rfl⟩
    cases h
    exact ⟨hs, id, fun c hc => by cases hc; exact hn⟩
  | cons part rest ih =>
    have hdot : '.' ∉ part.toList := hdots part List.mem_cons_self
    have hfresh : s.path n = [] → part ∈ aliasNames → ∃ m, (part, m) ∈ s.attrsOf 0 := by
      intro hroot halias
      rcases hsafe with hal | ⟨-, hfirst⟩
      · exact hal part halias
      · exact absurd halias (hfirst hroot part rfl)
    cases hget : s.getattr n part with
    | error e =>
      obtain ⟨hpar, hup⟩ := getattr_error hget
      refine ⟨fun v s' h => by simp [Store.readParts, hget, Except.bind] at h, ?_⟩
      simp [Store.readParts, hget, Except.bind, Except.toOption, TokenKind.getAttr?, hup, hpar]
    | ok r =>
      obtain ⟨v₁, s₁⟩ := r
      obtain ⟨hs₁, hkind, hlt⟩ := hs.getattr hn hdot hfresh hget
      have hgrow : Grows s s₁ := getattr_grows hget
      have hrest : s.readParts (.node n) (part :: rest) = s₁.readParts v₁ rest := by
        simp [Store.readParts, hget, Except.bind]
      rw [hrest, List.foldlM_cons, ← hkind]
      cases v₁ with
      | node c =>
        -- below the first name the reading stays below the root
        have hsafe₁ : Safe s₁ c rest := by
          rcases hsafe with hal | ⟨hnp, hfirst⟩
          · exact .inl (hal.grow hgrow)
          · have hpar : part ≠ "parent" := fun h => hnp (h ▸ List.mem_cons_self)
            refine .inr ⟨fun h => hnp (List.mem_cons_of_mem _ h), fun hnil => ?_⟩
            refine absurd hnil (getAttr?_path_ne_nil hkind.symm hpar ?_)
            by_cases hroot : s.path n = []
            · exact .inr (hfirst hroot part rfl)
            · exact .inl hroot
        obtain ⟨ihwf, ihkind⟩ :=
          ih hs₁ (hlt c rfl) (fun q hq => hdots q (List.mem_cons_of_mem _ hq)) hsafe₁
        refine ⟨fun v s' h => ?_, by rw [ihkind]; rfl⟩
        obtain ⟨hwf', hgrow', hlt'⟩ := ihwf v s' h
        exact ⟨hwf', fun he => hgrow' (hgrow he), hlt'⟩
      | none =>
        cases rest with
        | nil =>
          refine ⟨fun v s' h => ?_, rfl⟩
          cases h
          exact ⟨hs₁, hgrow, fun c hc => by cases hc⟩
        | cons q qs =>
          refine ⟨fun v s' h => by simp [Store.readParts] at h, ?_⟩
          simp [Store.readParts, kindOf, Except.toOption]
      | other =>
        have hother : s₁.readParts .other rest = .ok (.other, s₁) := by
          cases rest <;> rfl
        rw [hother]
        refine ⟨fun v s' h => ?_, by simp [kindOf, Except.toOption]⟩
        cases h
        exact ⟨hs₁, hgrow, fun c hc => by cases hc⟩

theorem mem_dottedParts {part name : String} (h : part ∈ dottedParts name) :
    '.' ∉ part.toList := by
  obtain ⟨piece, hpiece, rfl⟩ := List.mem_map.mp h
  rw [String.toList_ofList]
  exact TokenKind.not_mem_of_mem_splitOn hpiece

/-- A dotted name stands for the kind that the path view reads from it, and reading it keeps a
store well formed. -/
theorem WF.stringToTokentype (hs : s.WF) (hsafe : Safe s 0 (dottedParts name)) :
    (∀ v s', s.stringToTokentype name = .ok (v, s') →
      s'.WF ∧ Grows s s' ∧ ∀ c, v = .node c → c < s'.size) ∧
    ((s.stringToTokentype name).toOption.bind fun r => r.2.kindOf r.1) =
      TokenKind.ofDotted? name := by
  by_cases hempty : name = ""
  · simp only [Store.stringToTokentype, TokenKind.ofDotted?, if_pos hempty]
    refine ⟨fun v s' h => ?_, by simp [kindOf, hs.path_root, TokenKind.root, Except.toOption]⟩
    cases h
    exact ⟨hs, id, fun c hc => by cases hc; exact hs.root_lt⟩
  · simp only [Store.stringToTokentype, TokenKind.ofDotted?, if_neg hempty]
    obtain ⟨hwf, hkind⟩ := hs.readParts hs.root_lt (fun _ => mem_dottedParts) hsafe
    refine ⟨hwf, ?_⟩
    rw [hkind, hs.path_root, dottedParts, List.foldlM_map]
    rfl

theorem WF.afterReading (hs : s.WF) (hsafe : Safe s 0 (dottedParts name)) :
    (s.afterReading name).WF ∧ Grows s (s.afterReading name) := by
  unfold Store.afterReading
  split
  · rename_i v s' h
    obtain ⟨hwf, hgrow, -⟩ := (hs.stringToTokentype hsafe).1 v s' h
    exact ⟨hwf, hgrow⟩
  · exact ⟨hs, id⟩

theorem WF.foldl_afterReading (names : List String) (hs : s.WF)
    (hsafe : s.Aliased ∨ ∀ name ∈ names, Fresh (dottedParts name)) :
    (names.foldl Store.afterReading s).WF ∧ Grows s (names.foldl Store.afterReading s) := by
  induction names generalizing s with
  | nil => exact ⟨hs, id⟩
  | cons name rest ih =>
    have hsafe₀ : Safe s 0 (dottedParts name) :=
      hsafe.elim .inl fun h => (h name List.mem_cons_self).safe
    obtain ⟨hs₁, hgrow₁⟩ := hs.afterReading hsafe₀
    obtain ⟨hs₂, hgrow₂⟩ := ih hs₁ (hsafe.imp (fun h => h.grow hgrow₁)
      fun h q hq => h q (List.mem_cons_of_mem _ hq))
    exact ⟨hs₂, fun he => hgrow₂ (hgrow₁ he)⟩

/-- Setting an alias of the root to the type a dotted name reads keeps a store well formed, when
the path view reads that name as the kind the alias stands for. -/
theorem WF.setAlias (hs : s.WF) (name target : String) (hsafe : Safe s 0 (dottedParts target))
    (hup : upperStart name = true)
    (htarget : TokenKind.ofDotted? target = some (TokenKind.root.attr name)) :
    (s.setAlias name target).WF ∧ Grows s (s.setAlias name target) ∧
      ∃ m, (name, m) ∈ (s.setAlias name target).attrsOf 0 := by
  obtain ⟨hwf, hkind⟩ := hs.stringToTokentype hsafe
  unfold Store.setAlias
  split
  · rename_i m s₁ h
    obtain ⟨hs₁, hgrow, hlt⟩ := hwf _ _ h
    rw [h, htarget] at hkind
    have hpath : s₁.path m = (TokenKind.attr ⟨s₁.path 0⟩ name).path := by
      rw [hs₁.path_root]
      exact congrArg TokenKind.path (Option.some.inj hkind)
    exact ⟨hs₁.setAttr (hlt m rfl) hup hpath,
      fun he => mem_attrsOf_setAttr.mpr (.inr (hgrow he)),
      m, mem_attrsOf_setAttr.mpr (.inl ⟨rfl, hs₁.root_lt, rfl⟩)⟩
  · -- the path view reads a kind, so the reading gives a node
    rename_i hnode
    exfalso
    cases hread : s.stringToTokentype target with
    | error e => simp [hread, htarget, Except.toOption] at hkind
    | ok r =>
      obtain ⟨v, s₁⟩ := r
      cases v with
      | node m => exact hnode m s₁ hread
      | none => simp [hread, htarget, kindOf, Except.toOption] at hkind
      | other => simp [hread, htarget, kindOf, Except.toOption] at hkind

@[simp] theorem attrsOf_bare : bare.attrsOf k = [] := by
  cases k <;> rfl

theorem wf_bare : bare.WF where
  root_lt := by decide
  path_root := rfl
  parent_root := rfl
  parent k hk hk0 := absurd hk (by simp [size, bare]; omega)
  recorded {k p y} hk hpar _ := by
    obtain rfl : k = 0 := by simpa [size, bare] using hk
    cases hpar
  attrs he := by simp at he
  proper k hk := by
    obtain rfl : k = 0 := by simpa [size, bare] using hk
    exact TokenKind.proper_root
  unique hm hk _ := by
    simp only [size, bare, List.size_toArray, List.length_cons, List.length_nil] at hm hk
    omega

/-- The store the module of token types leaves is well formed, and the root holds its aliases:
the types it makes first are read through no alias, the aliases name the kinds of their dotted
names, and the names of the short-name table are read once the aliases are set. -/
theorem wf_standard : standard.WF ∧ standard.Aliased := by
  obtain ⟨h₀, -⟩ := wf_bare.foldl_afterReading firstTypes (.inr (by decide +kernel))
  obtain ⟨h₁, -, m₁, hm₁⟩ := h₀.setAlias "Token" "" (Fresh.safe (by decide +kernel))
    (by decide +kernel) (by decide +kernel)
  obtain ⟨h₂, g₂, m₂, hm₂⟩ := h₁.setAlias "String" "Literal.String"
    (Fresh.safe (by decide +kernel)) (by decide +kernel) (by decide +kernel)
  obtain ⟨h₃, g₃, m₃, hm₃⟩ := h₂.setAlias "Number" "Literal.Number"
    (Fresh.safe (by decide +kernel)) (by decide +kernel) (by decide +kernel)
  have hal := aliased_of_mem ⟨m₁, g₃ (g₂ hm₁)⟩ ⟨m₂, g₃ hm₂⟩ ⟨m₃, hm₃⟩
  obtain ⟨h₄, g₄⟩ := h₃.foldl_afterReading _ (.inl hal)
  exact ⟨h₄, hal.grow g₄⟩

/-- **Every store that accesses reach is well formed**, with the root's aliases set. -/
theorem Reachable.wf (h : s.Reachable) : s.WF ∧ s.Aliased := by
  induction h with
  | standard => exact wf_standard
  | getattr _ hn hdot hget ih =>
    obtain ⟨hs, hal⟩ := ih
    exact ⟨(hs.getattr hn hdot (fun _ hk => hal _ hk) hget).1, hal.grow (getattr_grows hget)⟩

/-- A reading takes one access after another, so it reaches a store that accesses reach. -/
theorem Reachable.readParts {parts : List String} (h : s.Reachable) (hn : n < s.size)
    (hdots : ∀ part ∈ parts, '.' ∉ part.toList) {v : Value}
    (hread : s.readParts (.node n) parts = .ok (v, s')) : s'.Reachable := by
  induction parts generalizing s n with
  | nil =>
    cases hread
    exact h
  | cons part rest ih =>
    cases hget : s.getattr n part with
    | error e => simp [Store.readParts, hget, Except.bind] at hread
    | ok r =>
    obtain ⟨v₁, s₁⟩ := r
    have hrest : s₁.readParts v₁ rest = .ok (v, s') := by
      simpa [Store.readParts, hget, Except.bind] using hread
    have h₁ : s₁.Reachable := .getattr h hn (hdots part List.mem_cons_self) hget
    have hdots₁ : ∀ q ∈ rest, '.' ∉ q.toList := fun q hq => hdots q (List.mem_cons_of_mem _ hq)
    cases v₁ with
    | node c =>
      obtain ⟨hs, hal⟩ := h.wf
      exact ih h₁ ((hs.getattr hn (hdots part List.mem_cons_self) (fun _ hk => hal _ hk)
        hget).2.2 c rfl) hdots₁ hrest
    | none =>
      cases rest with
      | nil =>
        cases hrest
        exact h₁
      | cons q qs => cases hrest
    | other =>
      have hother : s₁.readParts .other rest = .ok (.other, s₁) := by
        cases rest <;> rfl
      rw [hother] at hrest
      cases hrest
      exact h₁

theorem Reachable.stringToTokentype (h : s.Reachable) {v : Value}
    (hread : s.stringToTokentype name = .ok (v, s')) : s'.Reachable := by
  unfold Store.stringToTokentype at hread
  split at hread
  · cases hread
    exact h
  · exact h.readParts h.wf.1.root_lt (fun _ => mem_dottedParts) hread

/-! ## Links up, containment and names read back -/

theorem up_succ_of_parentOf {p : Nat} (h : s.parentOf n = some p) (k : Nat) :
    s.up n (k + 1) = n :: s.up p k := by
  simp [up, h]

theorem up_succ_of_root (h : s.parentOf n = none) (k : Nat) : s.up n (k + 1) = [n] := by
  simp [up, h]

/-- Following the links up from a node meets the nodes whose names begin its own, deepest first.
The induction is on the node, whose parent is made before it. -/
theorem WF.up (hs : s.WF) : ∀ n < s.size, ∀ k, n < k →
    (s.up n k).map s.path = (s.path n).inits.reverse ∧ ∀ x ∈ s.up n k, x < s.size := by
  intro n
  induction n using Nat.strong_induction_on with
  | _ n ih =>
    intro hn k hk
    obtain ⟨k, rfl⟩ : ∃ j, k = j + 1 := ⟨k - 1, by omega⟩
    by_cases h0 : n = 0
    · subst h0
      rw [up_succ_of_root hs.parent_root]
      simp [hs.path_root, hs.root_lt]
    · obtain ⟨p, hp, hpar, name, hpath⟩ := hs.parent n hn h0
      obtain ⟨hmap, hlt⟩ := ih p hp (by omega) k (by omega)
      rw [up_succ_of_parentOf hpar]
      refine ⟨?_, fun x hx => ?_⟩
      · rw [List.map_cons, hmap, hpath]
        simp [List.inits_append]
      · rcases List.mem_cons.mp hx with rfl | hx
        · exact hn
        · exact hlt x hx

theorem WF.split_map_path (hs : s.WF) {a : Nat} (ha : a < s.size) :
    (s.split a).map s.path = (s.path a).inits := by
  rw [split, List.map_reverse, (hs.up a ha (a + 1) (by omega)).1, List.reverse_reverse]

/-- Every list that begins the names of a node is the names of a node. -/
theorem WF.exists_of_prefix (hs : s.WF) {a : Nat} (ha : a < s.size) {l : List String}
    (h : l <+: s.path a) : ∃ c ∈ s.split a, c < s.size ∧ s.path c = l := by
  rw [← List.mem_inits, ← hs.split_map_path ha] at h
  obtain ⟨c, hc, hpath⟩ := List.mem_map.mp h
  exact ⟨c, hc, (hs.up a ha (a + 1) (by omega)).2 c (List.mem_reverse.mp hc), hpath⟩

theorem WF.mem_split_iff (hs : s.WF) {a b : Nat} (ha : a < s.size) (hb : b < s.size) :
    b ∈ s.split a ↔ s.path b <+: s.path a := by
  constructor
  · intro h
    rw [← List.mem_inits, ← hs.split_map_path ha]
    exact List.mem_map_of_mem h
  · intro h
    obtain ⟨c, hc, hclt, hpath⟩ := hs.exists_of_prefix ha h
    rwa [← hs.unique hclt hb hpath]

theorem contains_iff_begins (s : Store) (a b : Nat) :
    s.contains b a = true ↔ s.path b <+: s.path a := by
  rw [contains, Bool.or_eq_true, beq_iff_eq, List.isPrefixOf_iff_prefix]
  constructor
  · rintro (rfl | h)
    · exact List.prefix_refl _
    · exact h
  · exact .inr

/-- Reading, from node `n`, the names that lead to node `a` finds the nodes on the way and makes
none. The induction is on the names left. -/
theorem WF.readParts_existing (hs : s.WF) {a : Nat} (ha : a < s.size) :
    ∀ (l : List String) {n : Nat}, n < s.size → s.path n ++ l = s.path a →
      s.readParts (.node n) l = .ok (.node a, s) := by
  intro l
  induction l with
  | nil =>
    intro n hn h
    rw [List.append_nil] at h
    rw [hs.unique hn ha h]
    rfl
  | cons x rest ih =>
    intro n hn h
    have hpre : s.path n ++ [x] <+: s.path a :=
      ⟨rest, by rw [List.append_assoc, List.singleton_append, h]⟩
    obtain ⟨c, -, hc, hpathc⟩ := hs.exists_of_prefix ha hpre
    have hget : s.getattr n x = .ok (.node c, s) := by
      simp [Store.getattr, hs.lookup_of_path hc hn hpathc]
    simp only [Store.readParts, hget, Except.bind]
    exact ih hc (by rw [hpathc, List.append_assoc, List.singleton_append, h])

/-- The dotted name of a node reads back as the node, and makes none. -/
theorem WF.stringToTokentype_dotted (hs : s.WF) (hal : s.Aliased) {a : Nat} (ha : a < s.size) :
    s.stringToTokentype (TokenKind.dotted ⟨s.path a⟩) = .ok (.node a, s) := by
  have hparts : dottedParts (TokenKind.dotted ⟨s.path a⟩) = "Token" :: s.path a := by
    rw [dottedParts, TokenKind.dotted_splitOn (hs.proper a ha)]
    simp [Function.comp_def]
  have hne : TokenKind.dotted ⟨s.path a⟩ ≠ "" := by
    intro h
    have := congrArg String.toList h
    rw [RawTokens.dotted_toList] at this
    simp at this
  -- `Token` leads from the root to the root
  obtain ⟨m, hm⟩ := hal "Token" (by simp [aliasNames])
  obtain ⟨m', hm'⟩ := exists_lookup_of_mem hm
  obtain ⟨hlt, -, hpath⟩ := hs.attrs (Highlight.mem_of_lookup_eq_some hm')
  have hroot : m' = 0 := hs.unique hlt hs.root_lt (by rw [hpath, hs.path_root]; rfl)
  subst hroot
  have htoken : s.getattr 0 "Token" = .ok (.node 0, s) := by
    simp [Store.getattr, hm']
  rw [Store.stringToTokentype, if_neg hne, hparts]
  simp only [Store.readParts, htoken, Except.bind]
  exact hs.readParts_existing ha (s.path a) hs.root_lt (by rw [hs.path_root, List.nil_append])

/-! ## The main result -/

/-- **Token types as objects agree with their paths.** In every store that accesses reach from
the one the module of token types leaves, for any two of its nodes `a` and `b`: `b` contains `a`
exactly when `b` is among the nodes that following the links up from `a` finds, exactly when the
names of `b` begin those of `a`; those nodes have, from the root down, exactly the lists that
begin the names of `a`; nodes with the same names are one node; the dotted name of `a` reads back
as `a` and makes no node; and every dotted name stands for the kind the path view reads from it,
and reading it leads to a store that accesses reach. -/
theorem token_types_coherent (hs : s.Reachable) {a b : Nat} (ha : a < s.size) (hb : b < s.size) :
    (s.contains b a = true ↔ b ∈ s.split a) ∧ (b ∈ s.split a ↔ s.path b <+: s.path a) ∧
      (s.split a).map s.path = (s.path a).inits ∧ (s.path a = s.path b → a = b) ∧
      s.stringToTokentype (TokenKind.dotted ⟨s.path a⟩) = .ok (.node a, s) ∧
      ∀ name, ((s.stringToTokentype name).toOption.bind fun r => r.2.kindOf r.1) =
          TokenKind.ofDotted? name ∧
        ∀ v s', s.stringToTokentype name = .ok (v, s') → s'.Reachable := by
  obtain ⟨hwf, hal⟩ := hs.wf
  have hsplit := hwf.mem_split_iff ha hb
  exact ⟨(contains_iff_begins s a b).trans hsplit.symm, hsplit, hwf.split_map_path ha,
    hwf.unique ha hb, hwf.stringToTokentype_dotted hal ha,
    fun name => ⟨(hwf.stringToTokentype (.inl hal)).2, fun _ _ h => hs.stringToTokentype h⟩⟩

/-- The theorem at the last type the module makes and the root. -/
theorem lastType_coherent :
    standard.Reachable ∧ standard.size - 1 < standard.size ∧ 0 < standard.size ∧
      ((standard.contains 0 (standard.size - 1) = true ↔ 0 ∈ standard.split (standard.size - 1)) ∧
        (0 ∈ standard.split (standard.size - 1) ↔
          standard.path 0 <+: standard.path (standard.size - 1)) ∧
        (standard.split (standard.size - 1)).map standard.path =
          (standard.path (standard.size - 1)).inits ∧
        (standard.path (standard.size - 1) = standard.path 0 → standard.size - 1 = 0) ∧
        standard.stringToTokentype (TokenKind.dotted ⟨standard.path (standard.size - 1)⟩) =
          .ok (.node (standard.size - 1), standard) ∧
        ∀ name, ((standard.stringToTokentype name).toOption.bind fun r => r.2.kindOf r.1) =
            TokenKind.ofDotted? name ∧
          ∀ v s', standard.stringToTokentype name = .ok (v, s') → s'.Reachable) :=
  have hroot : 0 < standard.size := wf_standard.1.root_lt
  ⟨.standard, by omega, hroot, token_types_coherent .standard (by omega) hroot⟩

/-! ## Token types of token definitions -/

/-- **Token types of written grammars** are read as the path view reads their dotted names: a
name gives a kind exactly when `ofDotted?` does, and every other name is refused. -/
theorem tokenKind_eq_ok_iff (name : String) (k : TokenKind) :
    LexerDef.tokenKind name = .ok k ↔ TokenKind.ofDotted? name = some k := by
  obtain ⟨hwf, hal⟩ := wf_standard
  have hview : ((standard.stringToTokentype name).toOption.bind fun r => r.2.kindOf r.1) =
      TokenKind.ofDotted? name := (hwf.stringToTokentype (.inl hal)).2
  rw [← hview, LexerDef.tokenKind]
  -- a reading that ends on a node gives its kind; any other value, or an error, gives none
  rcases standard.stringToTokentype name with m | ⟨_ | _ | _, s'⟩ <;>
    simp [Except.toOption, kindOf, eq_comm]

end Highlight.Tokens.Store
