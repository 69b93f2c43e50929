import Mathlib.Algebra.Order.BigOperators.Group.List
import Mathlib.Algebra.Order.Group.Nat
import Highlight.Proofs.Grammar.ReadyMoves

/-!
# Includes are spliced in whole

`Grammar.compile` makes each state once and keeps what it has made (`Build.done`): a state
is recorded with no rules when it is begun, and again after each of its rules. An include
looks the included state up there first, so a state that is still being made gives the rules
it has so far. Only a state that includes itself is refused ("circular state reference"); a
chain of includes through two states or more comes back to a state being made and splices
in what that state has so far.

Where no chain of includes comes back to a state this cannot happen. The includes of such a
grammar go down a rank (`Grammar.Ranked`), and then every state of the ready grammar holds
the flat rules of the state the grammar defines (`Flat`): each include replaced by the flat
rules of the state it names, and `inherit` dropped (`Grammar.compile_flattens`). A list of
rules has one list of flat rules at most (`Flat.unique`), so the ready grammar does not
depend on the order in which its states are made. What a ready state runs is then the rules written in
it or in a state it includes (`Grammar.compile_rules_flat`), one by one as `flatRules` lists
them.

The proof follows the build through its fuel, as `Build.keeps` does. Every state the build
has recorded is made (`Build.Made`) or is being made (`Build.Sound`), and every state being
made is of a higher rank than the states it includes. A state is made within the fuel that
the states of lower or equal rank take (`Build.below`), and the grammar's fuel covers that.
-/

set_option autoImplicit false

namespace Highlight

/-- The flat rules of a list of rules of the grammar `defs`, whose patterns are read under
`flags`: an include is replaced by the flat rules of the state it names, `inherit` is
dropped, a default rule matches the empty text, and a rule with a pattern has it read. Only
rules whose chains of includes end have flat rules. -/
inductive Flat (defs : List StateDef) (flags : Pattern.Flags) : List Rule → List Entry → Prop
  | nil : Flat defs flags [] []
  | inherit {rest : List Rule} {es : List Entry} :
      Flat defs flags rest es → Flat defs flags (.inherit :: rest) es
  | splice {other : String} {items rest : List Rule} {es es' : List Entry} :
      defs.lookup other = some items → Flat defs flags items es → Flat defs flags rest es' →
        Flat defs flags (.include other :: rest) (es ++ es')
  | empty {ms : List Move} {rest : List Rule} {es : List Entry} :
      Flat defs flags rest es →
        Flat defs flags (.default ms :: rest) (⟨⟨.empty, 0, []⟩, none, ms⟩ :: es)
  | read {source : Source} {action : Action} {ms : List Move} {rest : List Rule}
      {compiled : Pattern.Compiled} {es : List Entry} :
      Pattern.read source.text flags = .ok compiled → Flat defs flags rest es →
        Flat defs flags (.step source action ms :: rest) (⟨compiled, some action, ms⟩ :: es)

theorem Flat.unique {defs : List StateDef} {flags : Pattern.Flags} {items : List Rule}
    {es es' : List Entry} (h : Flat defs flags items es) (h' : Flat defs flags items es') :
    es = es' := by
  induction h generalizing es' with
  | nil => cases h'; rfl
  | inherit _ ih =>
    cases h' with
    | inherit h' => exact ih h'
  | splice hl _ _ ih ih' =>
    cases h' with
    | splice hl' h₁ h₂ =>
      rw [hl] at hl'
      cases hl'
      rw [ih h₁, ih' h₂]
  | empty _ ih =>
    cases h' with
    | empty h' => rw [ih h']
  | read hr _ ih =>
    cases h' with
    | read hr' h' =>
      rw [hr] at hr'
      cases hr'
      rw [ih h']

/-- A grammar whose includes go down `rank`, so that no chain of includes comes back to a
state, and none of whose rules makes a combined state. -/
structure Grammar.Ranked (defs : List StateDef) (rank : String → Nat) : Prop where
  includes : ∀ d ∈ defs, ∀ other, Rule.include other ∈ d.2 → rank other < rank d.1
  uncombined : ∀ d ∈ defs, ∀ r ∈ d.2, ∀ names, Move.combined names ∉ r.moves

/-- Whether a move makes a combined state. -/
def Move.isCombined : Move → Bool
  | .combined _ => true
  | _ => false

/-- Whether a rule, if it is an include, names a state of rank below `r`. -/
def Rule.includesBelow (rank : String → Nat) (r : Nat) : Rule → Bool
  | .include other => decide (rank other < r)
  | _ => true

section Size

theorem Rule.size_pos (r : Rule) : 0 < r.size := by
  cases r <;> simp [Rule.size]

theorem length_le_foldr_size {α : Type} (size : α → Nat) (hsize : ∀ a, 0 < size a)
    (l : List α) : l.length ≤ (l.map size).foldr (· + ·) 0 := by
  have h := List.length_le_sum_of_one_le (l.map size) (by
    intro i hi
    obtain ⟨a, -, rfl⟩ := List.mem_map.mp hi
    exact hsize a)
  rw [List.length_map] at h
  exact h

theorem Rule.moves_length_le_size (r : Rule) : r.moves.length ≤ r.size := by
  have hms := length_le_foldr_size Move.size (fun m => by cases m <;> simp [Move.size])
  cases r with
  | step _ _ ms => exact Nat.le_succ_of_le (hms ms)
  | default ms => exact Nat.le_succ_of_le (hms ms)
  | «include» _ => exact Nat.zero_le _
  | inherit => exact Nat.zero_le _

theorem Grammar.size_cons (d : StateDef) (ds : List StateDef) :
    Grammar.size (d :: ds) = (d.2.map Rule.size).foldr (· + ·) 0 + 1 + Grammar.size ds := rfl

theorem Grammar.moves_length_le_size {ds : List StateDef} {d : StateDef} (hd : d ∈ ds)
    {r : Rule} (hr : r ∈ d.2) : r.moves.length ≤ Grammar.size ds := by
  induction ds with
  | nil => cases hd
  | cons d' ds ih =>
    rw [Grammar.size_cons]
    rcases List.mem_cons.mp hd with rfl | hd
    · have hle : r.size ≤ (d.2.map Rule.size).sum := List.le_sum_of_mem (List.mem_map_of_mem hr)
      have : List.foldr (· + ·) 0 (d.2.map Rule.size) = (d.2.map Rule.size).sum := rfl
      have := r.moves_length_le_size
      omega
    · have := ih hd
      omega

end Size

namespace Build

/-- What making the states of rank below `r` among `ds` takes: for each, its rules and two
more. -/
def below (rank : String → Nat) (r : Nat) : List StateDef → Nat
  | [] => 0
  | d :: ds => (if rank d.1 < r then d.2.length + 2 else 0) + below rank r ds

section Below

variable (rank : String → Nat)

theorem below_mono {r r' : Nat} (h : r ≤ r') (ds : List StateDef) :
    below rank r ds ≤ below rank r' ds := by
  induction ds with
  | nil => exact Nat.le_refl _
  | cons d ds ih =>
    simp only [below]
    split <;> split <;> omega

theorem below_succ {name : String} {items : List Rule} {ds : List StateDef}
    (hmem : (name, items) ∈ ds) :
    below rank (rank name) ds + items.length + 2 ≤ below rank (rank name + 1) ds := by
  induction ds with
  | nil => cases hmem
  | cons d ds ih =>
    simp only [below]
    rcases List.mem_cons.mp hmem with rfl | hmem
    · have := below_mono rank (Nat.le_add_right (rank name) 1) ds
      simp only [Nat.lt_irrefl, if_false, Nat.lt_succ_self, if_true]
      omega
    · have := ih hmem
      split <;> split <;> omega

theorem below_le_size (r : Nat) (ds : List StateDef) : below rank r ds ≤ 2 * Grammar.size ds := by
  induction ds with
  | nil => exact Nat.zero_le _
  | cons d ds ih =>
    simp only [below]
    have := length_le_foldr_size Rule.size Rule.size_pos d.2
    rw [Grammar.size_cons]
    split <;> omega

end Below

variable (defs : List StateDef) (flags : Pattern.Flags)

/-- A recorded state that is made: its rules are the flat rules of the state of that name. -/
def Made (p : String × Array Entry) : Prop :=
  ∃ items, defs.lookup p.1 = some items ∧ Flat defs flags items p.2.toList

/-- Every state the build has recorded is made, or is one of the `busy` states, still being
made. -/
def Sound (busy : String → Prop) (b : Build) : Prop :=
  ∀ p ∈ b.done, Made defs flags p ∨ busy p.1

variable {defs flags}

theorem Sound.record {busy : String → Prop} {b : Build} {name : String} (acc : Array Entry)
    (hb : Sound defs flags busy b) (hname : busy name) :
    let b' : Build :=
      { b with done := b.done.map fun (s, r) => if (s == name) = true then (s, acc) else (s, r) }
    Sound defs flags busy b' ∧ (∀ p ∈ b'.done, p.1 = name → p.2 = acc) ∧ Grows b b' := by
  intro b'
  refine ⟨?_, ?_, ?_⟩
  · intro p hp
    simp only [b', List.mem_map] at hp
    obtain ⟨⟨s, r⟩, hsr, rfl⟩ := hp
    split
    · rename_i hs
      obtain rfl : s = name := beq_iff_eq.mp hs
      exact .inr hname
    · exact hb (s, r) hsr
  · intro p hp hp1
    simp only [b', List.mem_map] at hp
    obtain ⟨⟨s, r⟩, -, rfl⟩ := hp
    split
    · rfl
    · rename_i hs
      split at hp1
      · contradiction
      · simp only at hp1
        simp [hp1] at hs
  · intro s hs
    simp only [b', List.map_map]
    obtain ⟨p, hp, rfl⟩ := List.mem_map.mp hs
    refine List.mem_map.mpr ⟨p, hp, ?_⟩
    simp only [Function.comp]
    split <;> rfl

theorem Sound.begin {busy : String → Prop} {b : Build} (name : String)
    (hb : Sound defs flags busy b) :
    Sound defs flags (fun s => busy s ∨ s = name) { b with done := (name, #[]) :: b.done } := by
  intro p hp
  rcases List.mem_cons.mp hp with rfl | hp
  · exact .inr (.inr rfl)
  · exact (hb p hp).imp_right .inl

theorem Sound.finish {busy : String → Prop} {b : Build} {name : String} {rules : Array Entry}
    (hb : Sound defs flags (fun s => busy s ∨ s = name) b)
    (hrec : ∀ p ∈ b.done, p.1 = name → p.2 = rules) (hmade : Made defs flags (name, rules)) :
    Sound defs flags busy b := by
  intro p hp
  rcases hb p hp with hmade' | hbusy | hname
  · exact .inl hmade'
  · exact .inr hbusy
  · have hp2 := hrec p hp hname
    obtain ⟨s, r⟩ := p
    simp only at hname hp2
    subst hname hp2
    exact .inl hmade

variable (defs flags) (rank : String → Nat)

/-- What the four functions of a build do at one fuel in a ranked grammar, given fuel for
what they are asked: `moves` gives its moves back as they are, `state` makes its state from a
sound build whose states being made are all of a higher rank, and `rules` adds the flat rules
of its rules after those so far, recording them under the state being made. -/
structure Exact (cls : String) (fuel : Nat) : Prop where
  moves : ∀ {ms ms' : List Move} {b b' : Build}, (∀ names, Move.combined names ∉ ms) →
    ms.length ≤ fuel → Build.moves defs flags cls fuel ms b = .ok (ms', b') → ms' = ms ∧ b' = b
  state : ∀ {name : String} {busy : String → Prop} {b b' : Build} {rules : Array Entry},
    Sound defs flags busy b → (∀ s, busy s → rank name < rank s) →
    below rank (rank name + 1) defs + Grammar.size defs + 1 ≤ fuel →
    Build.state defs flags cls fuel name b = .ok (rules, b') →
      Sound defs flags busy b' ∧ Made defs flags (name, rules) ∧ Grows b b' ∧
        name ∈ b'.done.map Prod.fst
  rules : ∀ {name : String} {items : List Rule} {busy : String → Prop} {b b' : Build}
    {acc acc' : Array Entry}, busy name → (∀ s, busy s → rank name ≤ rank s) →
    (∀ other, Rule.include other ∈ items → rank other < rank name) →
    (∀ r ∈ items, (∀ names, Move.combined names ∉ r.moves) ∧
      r.moves.length ≤ Grammar.size defs) →
    Sound defs flags busy b →
    items.length + below rank (rank name) defs + Grammar.size defs + 1 ≤ fuel →
    Build.rules defs flags cls fuel name items b acc = .ok (acc', b') →
      (∃ es, Flat defs flags items es ∧ acc'.toList = acc.toList ++ es) ∧
        Sound defs flags busy b' ∧ (∀ p ∈ b'.done, p.1 = name → p.2 = acc') ∧ Grows b b'

variable {defs flags rank} {cls : String}

theorem exact_zero : Exact defs flags rank cls 0 where
  moves := by
    intro ms ms' b b' _ hlen h
    simp only [Build.moves, Except.ok.injEq, Prod.mk.injEq] at h
    obtain ⟨rfl, rfl⟩ := h
    exact ⟨(List.length_eq_zero_iff.mp (Nat.le_zero.mp hlen)).symm, rfl⟩
  state := by
    intro _ _ _ _ _ _ _ hfuel _
    omega
  rules := by
    intro _ _ _ _ _ _ _ _ _ _ _ _ hfuel _
    omega

variable {fuel : Nat}

theorem Exact.moves_succ (ih : Exact defs flags rank cls fuel) {ms ms' : List Move}
    {b b' : Build} (hcomb : ∀ names, Move.combined names ∉ ms) (hlen : ms.length ≤ fuel + 1)
    (h : Build.moves defs flags cls (fuel + 1) ms b = .ok (ms', b')) : ms' = ms ∧ b' = b := by
  cases ms with
  | nil =>
    simp only [Build.moves, Except.ok.injEq, Prod.mk.injEq] at h
    exact ⟨h.1.symm, h.2.symm⟩
  | cons m rest =>
    have hrest : ∀ names, Move.combined names ∉ rest :=
      fun names hm => hcomb names (List.mem_cons_of_mem _ hm)
    have hlen' : rest.length ≤ fuel := by simpa using hlen
    -- the moves after the first one come back as they are, with the fuel below
    have tail : ∀ {rest' : List Move},
        Build.moves defs flags cls fuel rest b = .ok (rest', b') → rest' = rest ∧ b' = b :=
      fun hmoves => ih.moves hrest hlen' hmoves
    cases m with
    | combined names => exact absurd (List.mem_cons_self ..) (hcomb names)
    | enter name =>
      simp only [Build.moves] at h
      split at h
      · cases h
      · obtain ⟨⟨rest', b₁⟩, hmoves, h⟩ := exists_of_bind_eq_ok h
        simp only [Except.ok.injEq, Prod.mk.injEq] at h
        obtain ⟨rfl, rfl⟩ := h
        obtain ⟨rfl, rfl⟩ := tail hmoves
        exact ⟨rfl, rfl⟩
    | pop | push | cut _ =>
      simp only [Build.moves] at h
      obtain ⟨⟨rest', b₁⟩, hmoves, h⟩ := exists_of_bind_eq_ok h
      simp only [Except.ok.injEq, Prod.mk.injEq] at h
      obtain ⟨rfl, rfl⟩ := h
      obtain ⟨rfl, rfl⟩ := tail hmoves
      exact ⟨rfl, rfl⟩

theorem Exact.state_succ (hR : Grammar.Ranked defs rank) (ih : Exact defs flags rank cls fuel)
    {name : String} {busy : String → Prop} {b b' : Build} {rules : Array Entry}
    (hb : Sound defs flags busy b) (hbusy : ∀ s, busy s → rank name < rank s)
    (hfuel : below rank (rank name + 1) defs + Grammar.size defs + 1 ≤ fuel + 1)
    (h : Build.state defs flags cls (fuel + 1) name b = .ok (rules, b')) :
    Sound defs flags busy b' ∧ Made defs flags (name, rules) ∧ Grows b b' ∧
      name ∈ b'.done.map Prod.fst := by
  simp only [Build.state] at h
  split at h
  · -- recorded before, and not being made: made
    rename_i found hfound
    simp only [Except.ok.injEq, Prod.mk.injEq] at h
    obtain ⟨rfl, rfl⟩ := h
    have hmem := mem_of_lookup_eq_some hfound
    refine ⟨hb, ?_, Grows.refl b, List.mem_map_of_mem (f := Prod.fst) hmem⟩
    rcases hb _ hmem with hmade | hb
    · exact hmade
    · exact absurd (hbusy name hb) (Nat.lt_irrefl _)
  · split at h
    · cases h
    · split at h
      · cases h
      · rename_i items hitems
        have hdef := mem_of_lookup_eq_some hitems
        -- the state is begun, and made while it and the busy states are being made
        have hbusy' : ∀ s, busy s ∨ s = name → rank name ≤ rank s := by
          rintro s (hs | rfl)
          · exact Nat.le_of_lt (hbusy s hs)
          · exact Nat.le_refl _
        have hitems' : ∀ r ∈ items, (∀ names, Move.combined names ∉ r.moves) ∧
            r.moves.length ≤ Grammar.size defs :=
          fun r hr => ⟨hR.uncombined _ hdef r hr, Grammar.moves_length_le_size hdef hr⟩
        have hfuel' : items.length + below rank (rank name) defs + Grammar.size defs + 1 ≤ fuel := by
          have := below_succ rank hdef
          omega
        obtain ⟨⟨es, hflat, hes⟩, hb', hrec, hg⟩ := ih.rules (.inr rfl) hbusy'
          (hR.includes _ hdef) hitems' (hb.begin name) hfuel' h
        have hmade : Made defs flags (name, rules) := ⟨items, hitems, by simpa using hes ▸ hflat⟩
        exact ⟨hb'.finish hrec hmade, hmade, fun s hs => hg s (List.mem_cons_of_mem _ hs),
          hg name (List.mem_cons_self ..)⟩

/-- The rules of a state are made one at a time, after the rules so far: an included state
is made and its rules spliced in, `inherit` is dropped, and every other rule is read. After
each the rules so far are recorded under the state's name. -/
theorem Exact.rules_succ (ih : Exact defs flags rank cls fuel) {name : String}
    {items : List Rule} {busy : String → Prop} {b b' : Build} {acc acc' : Array Entry}
    (hname : busy name) (hbusy : ∀ s, busy s → rank name ≤ rank s)
    (hinc : ∀ other, Rule.include other ∈ items → rank other < rank name)
    (hitems : ∀ r ∈ items, (∀ names, Move.combined names ∉ r.moves) ∧
      r.moves.length ≤ Grammar.size defs)
    (hb : Sound defs flags busy b)
    (hfuel : items.length + below rank (rank name) defs + Grammar.size defs + 1 ≤ fuel + 1)
    (h : Build.rules defs flags cls (fuel + 1) name items b acc = .ok (acc', b')) :
    (∃ es, Flat defs flags items es ∧ acc'.toList = acc.toList ++ es) ∧
      Sound defs flags busy b' ∧ (∀ p ∈ b'.done, p.1 = name → p.2 = acc') ∧ Grows b b' := by
  cases items with
  | nil =>
    simp only [Build.rules, Except.ok.injEq, Prod.mk.injEq] at h
    obtain ⟨rfl, rfl⟩ := h
    obtain ⟨hb', hrec, hg⟩ := hb.record acc hname
    exact ⟨⟨[], .nil, by simp⟩, hb', hrec, hg⟩
  | cons item rest =>
    have hinc' : ∀ other, Rule.include other ∈ rest → rank other < rank name :=
      fun other ho => hinc other (List.mem_cons_of_mem _ ho)
    have hrest : ∀ r ∈ rest, (∀ names, Move.combined names ∉ r.moves) ∧
        r.moves.length ≤ Grammar.size defs := fun r hr => hitems r (List.mem_cons_of_mem _ hr)
    have hitem := hitems item (List.mem_cons_self ..)
    have hfuel' : rest.length + below rank (rank name) defs + Grammar.size defs + 1 ≤ fuel := by
      simp only [List.length_cons] at hfuel
      omega
    -- the rules after this one, made with the fuel below from the recorded build, put the
    -- flat rules `here` of this one in front of theirs
    have tail : ∀ {b₁ : Build} {acc₁ : Array Entry} (here : List Entry),
        Sound defs flags busy b₁ → Grows b b₁ → acc₁.toList = acc.toList ++ here →
        (∀ es, Flat defs flags rest es → Flat defs flags (item :: rest) (here ++ es)) →
        Build.rules defs flags cls fuel name rest
          { b₁ with done := b₁.done.map fun (s, r) =>
              if (s == name) = true then (s, acc₁) else (s, r) } acc₁ = .ok (acc', b') →
        (∃ es, Flat defs flags (item :: rest) es ∧ acc'.toList = acc.toList ++ es) ∧
          Sound defs flags busy b' ∧ (∀ p ∈ b'.done, p.1 = name → p.2 = acc') ∧
            Grows b b' := by
      intro b₁ acc₁ here hb₁ hg₁ hacc₁ hflat hrules
      obtain ⟨hbr, -, hgr⟩ := hb₁.record acc₁ hname
      obtain ⟨⟨es, hes, hacc'⟩, hb', hrec, hg'⟩ := ih.rules hname hbusy hinc' hrest hbr hfuel' hrules
      refine ⟨⟨here ++ es, hflat es hes, by rw [hacc', hacc₁, List.append_assoc]⟩, hb', hrec,
        (hg₁.trans hgr).trans hg'⟩
    cases item with
    | inherit =>
      obtain ⟨⟨es, hes, hacc'⟩, hb', hrec, hg'⟩ := ih.rules hname hbusy hinc' hrest hb hfuel' h
      exact ⟨⟨es, .inherit hes, hacc'⟩, hb', hrec, hg'⟩
    | «include» other =>
      simp only [Build.rules] at h
      split at h
      · cases h
      · obtain ⟨⟨more, b₁⟩, hstate, h⟩ := exists_of_bind_eq_ok h
        have hother : rank other < rank name := hinc other (List.mem_cons_self ..)
        -- the included state is of a lower rank than every state being made
        have hbusy' : ∀ s, busy s → rank other < rank s :=
          fun s hs => Nat.lt_of_lt_of_le hother (hbusy s hs)
        have hfuelo : below rank (rank other + 1) defs + Grammar.size defs + 1 ≤ fuel := by
          have := below_mono rank (show rank other + 1 ≤ rank name from hother) defs
          omega
        obtain ⟨hb₁, ⟨items', hl, hmore⟩, hg₁, -⟩ := ih.state hb hbusy' hfuelo hstate
        exact tail more.toList hb₁ hg₁ (by simp) (fun es hes => .splice hl hmore hes) h
    | default ms =>
      simp only [Build.rules] at h
      obtain ⟨⟨ms', b₁⟩, hmoves, hnext⟩ := exists_of_bind_eq_ok h
      have hlen : ms.length ≤ Grammar.size defs := hitem.2
      obtain ⟨rfl, rfl⟩ := ih.moves hitem.1 (by omega) hmoves
      exact tail [⟨⟨.empty, 0, []⟩, none, ms'⟩] hb (Grows.refl _) (by simp)
        (fun es hes => .empty hes) hnext
    | step source action ms =>
      simp only [Build.rules] at h
      split at h
      · cases h
      · rename_i compiled hread
        obtain ⟨⟨ms', b₁⟩, hmoves, hnext⟩ := exists_of_bind_eq_ok h
        have hlen : ms.length ≤ Grammar.size defs := hitem.2
        obtain ⟨rfl, rfl⟩ := ih.moves hitem.1 (by omega) hmoves
        exact tail [⟨compiled, some action, ms'⟩] hb (Grows.refl _) (by simp)
          (fun es hes => .read hread hes) hnext

/-- **What a build does, at every fuel**, in a ranked grammar. The induction is on the fuel:
each function of the build calls the others with the fuel below. -/
theorem exact (hR : Grammar.Ranked defs rank) : ∀ fuel, Exact defs flags rank cls fuel
  | 0 => exact_zero
  | fuel + 1 =>
    have ih := exact hR fuel
    { moves := ih.moves_succ
      state := ih.state_succ hR
      rules := ih.rules_succ }

theorem foldlM_state_made (hR : Grammar.Ranked defs rank) {fuel : Nat}
    (hfuel : 3 * Grammar.size defs + 1 ≤ fuel) (ds : List StateDef) :
    ∀ {b b' : Build}, Sound defs flags (fun _ => False) b →
      ds.foldlM (fun b (name, _) => do
          let (_, b) ← Build.state defs flags cls fuel name b
          pure b) b = .ok b' →
        Sound defs flags (fun _ => False) b' ∧ Grows b b' ∧
          ∀ d ∈ ds, d.1 ∈ b'.done.map Prod.fst := by
  induction ds with
  | nil =>
    intro b b' hb h
    simp only [List.foldlM_nil] at h
    cases h
    exact ⟨hb, Grows.refl b, by simp⟩
  | cons d ds ih =>
    intro b b' hb h
    rw [List.foldlM_cons] at h
    obtain ⟨b₁, hfirst, h⟩ := exists_of_bind_eq_ok h
    obtain ⟨⟨rules, b₂⟩, hstate, hfirst⟩ := exists_of_bind_eq_ok hfirst
    cases hfirst
    have hfuel' : below rank (rank d.1 + 1) defs + Grammar.size defs + 1 ≤ fuel := by
      have := below_le_size rank (rank d.1 + 1) defs
      omega
    obtain ⟨hb₁, -, hg₁, hname⟩ :=
      (exact hR fuel).state hb (fun _ h => h.elim) hfuel' hstate
    obtain ⟨hb', hg', hrest⟩ := ih hb₁ h
    refine ⟨hb', hg₁.trans hg', ?_⟩
    intro d' hd'
    rcases List.mem_cons.mp hd' with rfl | hd'
    · exact hg' _ hname
    · exact hrest d' hd'

end Build

theorem mem_of_getElem?_foldl_insert {f : Std.HashMap String (Array Entry) →
    String × Array Entry → Std.HashMap String (Array Entry)}
    (hf : ∀ m p, f m p = m.insert p.1 p.2) (l : List (String × Array Entry)) :
    ∀ (m : Std.HashMap String (Array Entry)) (s : String) (rules : Array Entry),
      (l.foldl f m)[s]? = some rules → (s, rules) ∈ l ∨ m[s]? = some rules := by
  induction l with
  | nil => exact fun _ _ _ h => .inr h
  | cons p l ih =>
    intro m s rules h
    rw [List.foldl_cons] at h
    rcases ih _ s rules h with hl | h
    · exact .inl (List.mem_cons_of_mem _ hl)
    · rw [hf, Std.HashMap.getElem?_insert] at h
      split at h
      · rename_i hs
        cases h
        obtain ⟨s', r⟩ := p
        simp only [beq_iff_eq] at hs
        subst hs
        exact .inl (List.mem_cons_self ..)
      · exact .inr h

/-- **Includes are spliced in whole.** When a grammar whose includes go down a rank and
none of whose rules makes a combined state is made ready, every state it defines holds its
flat rules: each include replaced by the flat rules of the state it names, and `inherit`
dropped. -/
theorem Grammar.compile_flattens {g : Grammar} {t : Table} {rank : String → Nat}
    (hR : Grammar.Ranked (mergeLayers g.layers) rank) (h : g.compile = .ok t)
    {s : String} {items : List Rule} (hs : (mergeLayers g.layers).lookup s = some items) :
    Flat (mergeLayers g.layers) g.flags items (t.rules s).toList := by
  simp only [Grammar.compile] at h
  obtain ⟨b, hbuild, h⟩ := exists_of_bind_eq_ok h
  cases h
  have hfuel : 3 * Grammar.size (mergeLayers g.layers) + 1 ≤ Grammar.fuel (mergeLayers g.layers) := by
    simp only [Grammar.fuel]
    omega
  obtain ⟨hb, -, hmade⟩ := Build.foldlM_state_made hR hfuel _ (fun p hp => by cases hp) hbuild
  have hf : ∀ (m : Std.HashMap String (Array Entry)) (p : String × Array Entry),
      (fun m (s, r) => m.insert s r : Std.HashMap String (Array Entry) → String × Array Entry →
        Std.HashMap String (Array Entry)) m p = m.insert p.1 p.2 := fun _ _ => rfl
  -- the state was recorded, so the ready grammar holds one of its records
  have hin : s ∈ b.done.foldl (fun m (s, r) => m.insert s r) (∅ : Std.HashMap String (Array Entry)) :=
    (mem_foldl_insert hf _ _ s).mpr (.inr (hmade _ (mem_of_lookup_eq_some hs)))
  obtain ⟨rules, hrules⟩ := Option.isSome_iff_exists.mp (Std.HashMap.isSome_getElem?_iff_mem.mpr hin)
  have hrec : (s, rules) ∈ b.done := by
    rcases mem_of_getElem?_foldl_insert hf _ _ s rules hrules with hrec | hempty
    · exact hrec
    · simp at hempty
  -- every record is made, and a state has one list of rules in the grammar
  obtain ⟨items', hl, hflat⟩ := (hb _ hrec).resolve_right id
  rw [hs] at hl
  cases hl
  simpa [Table.rules, Std.HashMap.getD_eq_getD_getElem?, hrules] using hflat

/-- What one rule stands for among the rules a state runs: an include stands for `expand` of
the state it names, `inherit` for nothing, and any other rule for itself. -/
def Rule.flat (expand : String → List Rule) : Rule → List Rule
  | .include other => expand other
  | .inherit => []
  | r => [r]

/-- The rules with a pattern and the default rules that a list of rules of the grammar `defs`
stands for, each include replaced by the rules of the state it names, `depth` includes deep at
most. -/
def flatRules (defs : List StateDef) : Nat → List Rule → List Rule
  | 0, items => items.flatMap (Rule.flat fun _ => [])
  | depth + 1, items =>
    items.flatMap (Rule.flat fun other => flatRules defs depth ((defs.lookup other).getD []))

@[simp] theorem flatRules_nil (defs : List StateDef) (depth : Nat) : flatRules defs depth [] = [] := by
  cases depth <;> rfl

theorem flatRules_cons (defs : List StateDef) (depth : Nat) (r : Rule) (rest : List Rule) :
    flatRules defs depth (r :: rest) = flatRules defs depth [r] ++ flatRules defs depth rest := by
  cases depth <;> simp [flatRules]

/-- **What the rules written in some states have, their flat rules have.** When every rule
that the states of `S` write, and that stands for itself, has `P`, and every include in them names
a state of `S`, then every flat rule of a list of such rules has `P`, at every depth. The
induction is on the depth; an include goes one level down into a state of `S`. -/
theorem flatRules_forall {defs : List StateDef} {P : Rule → Prop} {S : String → Prop}
    (hS : ∀ d ∈ defs, S d.1 →
      (∀ r ∈ d.2, ∀ r' ∈ r.flat (fun _ => []), P r') ∧ ∀ other, Rule.include other ∈ d.2 → S other) :
    ∀ depth items, (∀ r ∈ items, ∀ r' ∈ r.flat (fun _ => []), P r') →
      (∀ other, Rule.include other ∈ items → S other) → ∀ r ∈ flatRules defs depth items, P r
  | 0, items, hitems, _, r, hr => by
    obtain ⟨r₀, hr₀, hr⟩ := List.mem_flatMap.mp hr
    exact hitems r₀ hr₀ r hr
  | depth + 1, items, hitems, hinc, r, hr => by
    obtain ⟨r₀, hr₀, hr⟩ := List.mem_flatMap.mp hr
    cases r₀ with
    | «include» other =>
      -- an include: the flat rules of the state it names, a state of `S`
      cases hl : defs.lookup other with
      | none => simp [Rule.flat, hl] at hr
      | some items' =>
        simp only [Rule.flat, hl, Option.getD_some] at hr
        obtain ⟨hown, hinner⟩ := hS _ (mem_of_lookup_eq_some hl) (hinc other hr₀)
        exact flatRules_forall hS depth items' hown hinner r hr
    | inherit => simp [Rule.flat] at hr
    | step source action ms => exact hitems _ hr₀ r (by simpa [Rule.flat] using hr)
    | default ms => exact hitems _ hr₀ r (by simpa [Rule.flat] using hr)

/-- **Each flat rule is a rule written in the state or in a state it includes.** In a grammar
whose includes go down `rank`, each flat rule of a list of rules whose includes are of rank
below `depth` is one of its `flatRules`, `depth` includes deep, with the same action and moves.
The induction follows the flat rules; an include goes down one rank and one level of depth. -/
theorem Flat.mem_flatRules {defs : List StateDef} {flags : Pattern.Flags} {rank : String → Nat}
    (hR : Grammar.Ranked defs rank) {items : List Rule} {es : List Entry}
    (h : Flat defs flags items es) :
    ∀ depth, (∀ other, Rule.include other ∈ items → rank other < depth) →
      ∀ e ∈ es, ∃ r ∈ flatRules defs depth items, r.action? = e.action ∧ r.moves = e.moves := by
  induction h with
  | nil => intro _ _ e he; cases he
  | inherit _ ih =>
    intro depth hdepth e he
    obtain ⟨r, hr, hre⟩ := ih depth (fun o ho => hdepth o (List.mem_cons_of_mem _ ho)) e he
    refine ⟨r, ?_, hre⟩
    rw [flatRules_cons]
    cases depth <;> simpa [flatRules, Rule.flat] using hr
  | @splice other items' rest es₁ es₂ hl _ _ ih ih' =>
    intro depth hdepth e he
    have hrest : ∀ o, Rule.include o ∈ rest → rank o < depth :=
      fun o ho => hdepth o (List.mem_cons_of_mem _ ho)
    rw [flatRules_cons]
    rcases List.mem_append.mp he with he | he
    · -- a rule of the included state: one rank down, one level of depth less
      obtain ⟨d, rfl⟩ : ∃ d, depth = d + 1 :=
        Nat.exists_eq_add_one.mpr (Nat.lt_of_le_of_lt (Nat.zero_le _) (hdepth other (List.mem_cons_self ..)))
      have hinner : ∀ o, Rule.include o ∈ items' → rank o < d := by
        intro o ho
        have hlt := hR.includes _ (mem_of_lookup_eq_some hl) o ho
        have hother := hdepth other (List.mem_cons_self ..)
        simp only at hlt
        omega
      obtain ⟨r, hr, hre⟩ := ih d hinner e he
      exact ⟨r, List.mem_append_left _ (by simpa [flatRules, Rule.flat, hl] using hr), hre⟩
    · obtain ⟨r, hr, hre⟩ := ih' depth hrest e he
      exact ⟨r, List.mem_append_right _ hr, hre⟩
  | @empty ms rest _ _ ih =>
    intro depth hdepth e he
    rw [flatRules_cons]
    rcases List.mem_cons.mp he with rfl | he
    · exact ⟨.default ms, by cases depth <;> simp [flatRules, Rule.flat], rfl, rfl⟩
    · obtain ⟨r, hr, hre⟩ := ih depth (fun o ho => hdepth o (List.mem_cons_of_mem _ ho)) e he
      exact ⟨r, List.mem_append_right _ hr, hre⟩
  | @read source action ms rest _ _ _ _ ih =>
    intro depth hdepth e he
    rw [flatRules_cons]
    rcases List.mem_cons.mp he with rfl | he
    · exact ⟨.step source action ms, by cases depth <;> simp [flatRules, Rule.flat], rfl, rfl⟩
    · obtain ⟨r, hr, hre⟩ := ih depth (fun o ho => hdepth o (List.mem_cons_of_mem _ ho)) e he
      exact ⟨r, List.mem_append_right _ hr, hre⟩

/-- **A ready state runs the rules its grammar writes for it.** When a grammar whose includes
go down a rank and none of whose rules makes a combined state is made ready, every rule of a
state it defines is one of the state's `flatRules`, as deep as the state's rank, with the same
action and moves. -/
theorem Grammar.compile_rules_flat {g : Grammar} {t : Table} {rank : String → Nat}
    (hR : Grammar.Ranked (mergeLayers g.layers) rank) (h : g.compile = .ok t)
    {s : String} {items : List Rule} (hs : (mergeLayers g.layers).lookup s = some items) :
    ∀ e ∈ t.rules s, ∃ r ∈ flatRules (mergeLayers g.layers) (rank s) items,
      r.action? = e.action ∧ r.moves = e.moves := by
  intro e he
  have hincludes : ∀ other, Rule.include other ∈ items → rank other < rank s :=
    hR.includes _ (mem_of_lookup_eq_some hs)
  exact (Grammar.compile_flattens hR h hs).mem_flatRules hR (rank s) hincludes e
    (Array.mem_toList_iff.mpr he)

theorem Grammar.compile_extended {g : Grammar} {t : Table} (h : g.compile = .ok t) :
    t.extended = g.extended := by
  simp only [Grammar.compile] at h
  obtain ⟨b, -, h⟩ := exists_of_bind_eq_ok h
  cases h
  rfl

/-- A grammar whose `root` includes a state `common` of one rule, before a rule of its own. -/
def spliceGrammar : Grammar :=
  { className := "CustomLexer"
    layers := [[("root", [.include "common", .tok "a" .name]), ("common", [.tok "b" .text])]] }

/-- The ready `root` of `spliceGrammar` holds the rule of `common` and then its own. -/
theorem spliceGrammar_flattens :
    ∃ t, spliceGrammar.compile = .ok t ∧
      Flat (mergeLayers spliceGrammar.layers) spliceGrammar.flags
        [.include "common", .tok "a" .name] (t.rules "root").toList := by
  have hok : spliceGrammar.compile.isOk = true := by decide +kernel
  obtain ⟨t, ht⟩ : ∃ t, spliceGrammar.compile = .ok t := by
    cases hc : spliceGrammar.compile with
    | error e => simp [hc, Except.isOk, Except.toBool] at hok
    | ok t => exact ⟨t, rfl⟩
  have hdefs : mergeLayers spliceGrammar.layers =
      [("root", [.include "common", .tok "a" .name]), ("common", [.tok "b" .text])] := by
    rfl
  have hR : Grammar.Ranked (mergeLayers spliceGrammar.layers)
      (fun s => if s = "root" then 1 else 0) := by
    rw [hdefs]
    refine ⟨?_, ?_⟩
    · intro d hd other hother
      simp only [List.mem_cons, List.not_mem_nil, or_false] at hd
      rcases hd with rfl | rfl <;> simp [Rule.tok] at hother
      subst hother
      decide
    · intro d hd r hr names
      simp only [List.mem_cons, List.not_mem_nil, or_false] at hd
      rcases hd with rfl | rfl <;> simp only [List.mem_cons, List.not_mem_nil, or_false] at hr <;>
        rcases hr with rfl | rfl <;> simp [Rule.moves, Rule.tok]
  exact ⟨t, ht, Grammar.compile_flattens hR ht (by rw [hdefs]; rfl)⟩

end Highlight
