import Highlight.Grammar.Resolve

/-!
# A ready grammar enters only its own states

Making a grammar ready (`Grammar.compile`) checks every state a rule enters: a named state
must be a state of the grammar, and a combined state is made on the spot under a name of its
own. So every state that a rule of the ready grammar enters is one of its states, and the
other moves of its rules and its actions are those written in the grammar
(`Grammar.compile_fits`).

The proof follows the four functions of a build (`Build.moves`, `Build.combinedRules`,
`Build.state`, `Build.rules`) through their fuel: what they keep is one structure
(`Build.Keeps`), proved for each fuel from the one below (`Build.keeps`). A build knows the
states of the grammar and those it has made (`Build.Known`); every rule it makes fits what it
knows (`Build.Fits`), and it never forgets a state it has made (`Build.Grows`). At the end
the build has made every state of the grammar, so what it knows is what the ready grammar has.
-/

set_option autoImplicit false

namespace Highlight

/-- A move that keeps a stack of known states one: an entered state is known, and a cut is by
a number other than zero, which would empty the stack. -/
def Move.Fits (known : String → Prop) : Move → Prop
  | .enter s => known s
  | .cut n => n ≠ 0
  | _ => True

theorem Move.Fits.mono {known known' : String → Prop} (h : ∀ s, known s → known' s) :
    ∀ {m : Move}, m.Fits known → m.Fits known'
  | .enter s, hm => h s hm
  | .pop, _ | .push, _ | .combined _, _ => trivial
  | .cut _, hm => hm

/-- The moves a rule makes. -/
def Rule.moves : Rule → List Move
  | .step _ _ ms => ms
  | .default ms => ms
  | _ => []

/-- The action of a rule, if it has one. -/
def Rule.action? : Rule → Option Action
  | .step _ a _ => some a
  | _ => none

/-- A rule that never cuts the stack by zero and whose action, if it has one, satisfies `Q`. -/
def Rule.Keeps (Q : Action → Prop) (r : Rule) : Prop :=
  Move.cut 0 ∉ r.moves ∧ ∀ a, r.action? = some a → Q a

/-- A ready rule whose moves fit the known states and whose action satisfies `Q`. -/
def Entry.Fits (known : String → Prop) (Q : Action → Prop) (e : Entry) : Prop :=
  (∀ m ∈ e.moves, m.Fits known) ∧ ∀ a, e.action = some a → Q a

theorem Entry.Fits.mono {known known' : String → Prop} {Q : Action → Prop} {e : Entry}
    (h : ∀ s, known s → known' s) (he : e.Fits known Q) : e.Fits known' Q :=
  ⟨fun m hm => Move.Fits.mono h (he.1 m hm), he.2⟩

theorem exists_of_bind_eq_ok {ε α β : Type} {x : Except ε α} {f : α → Except ε β} {r : β}
    (h : x >>= f = .ok r) : ∃ a, x = .ok a ∧ f a = .ok r := by
  cases x with
  | error e => cases h
  | ok a => exact ⟨a, rfl, h⟩

theorem mem_of_lookup_eq_some {β : Type} {l : List (String × β)} {k : String} {v : β}
    (h : l.lookup k = some v) : (k, v) ∈ l := by
  obtain ⟨l₁, l₂, rfl, -⟩ := List.lookup_eq_some_iff.mp h
  simp

namespace Build

variable (defs : List StateDef) (Q : Action → Prop)

/-- The states a build knows: those of the grammar and those it has made. -/
def Known (b : Build) (s : String) : Prop :=
  s ∈ defs.map Prod.fst ∨ s ∈ b.done.map Prod.fst

/-- Every rule the build has made fits the states it knows. -/
def Fits (b : Build) : Prop :=
  ∀ p ∈ b.done, ∀ e ∈ p.2, e.Fits (Known defs b) Q

/-- A build that has made every state `b` has made. -/
def Grows (b b' : Build) : Prop :=
  ∀ s ∈ b.done.map Prod.fst, s ∈ b'.done.map Prod.fst

variable {defs Q}

theorem Grows.refl (b : Build) : Grows b b := fun _ hs => hs

theorem Grows.trans {b b' b'' : Build} (h : Grows b b') (h' : Grows b' b'') : Grows b b'' :=
  fun s hs => h' s (h s hs)

theorem Grows.known {b b' : Build} (h : Grows b b') : ∀ s, Known defs b s → Known defs b' s
  | _, .inl hs => .inl hs
  | s, .inr hs => .inr (h s hs)

variable (defs) (Q)

/-- What the four functions of a build keep at one fuel: from a build whose rules fit what it
knows, each ends, if it ends well, with such a build that has made all the states the first
had, and gives moves and rules that fit what it knows; `state` with fuel to spare has made
the state it was asked for. -/
structure Keeps (flags : Pattern.Flags) (cls : String) (fuel : Nat) : Prop where
  moves : ∀ {ms ms' : List Move} {b b' : Build}, Move.cut 0 ∉ ms → Fits defs Q b →
    Build.moves defs flags cls fuel ms b = .ok (ms', b') →
      Fits defs Q b' ∧ Grows b b' ∧ ∀ m ∈ ms', m.Fits (Known defs b')
  combinedRules : ∀ {names : List String} {b b' : Build} {acc acc' : Array Entry},
    Fits defs Q b → (∀ e ∈ acc, e.Fits (Known defs b) Q) →
    Build.combinedRules defs flags cls fuel names b acc = .ok (acc', b') →
      Fits defs Q b' ∧ Grows b b' ∧ ∀ e ∈ acc', e.Fits (Known defs b') Q
  state : ∀ {name : String} {b b' : Build} {rules : Array Entry}, Fits defs Q b →
    Build.state defs flags cls fuel name b = .ok (rules, b') →
      Fits defs Q b' ∧ Grows b b' ∧ (∀ e ∈ rules, e.Fits (Known defs b') Q) ∧
        (0 < fuel → name ∈ b'.done.map Prod.fst)
  rules : ∀ {name : String} {items : List Rule} {b b' : Build} {acc acc' : Array Entry},
    (∀ r ∈ items, r.Keeps Q) → Fits defs Q b → (∀ e ∈ acc, e.Fits (Known defs b) Q) →
    Build.rules defs flags cls fuel name items b acc = .ok (acc', b') →
      Fits defs Q b' ∧ Grows b b' ∧ ∀ e ∈ acc', e.Fits (Known defs b') Q

variable {defs Q} {flags : Pattern.Flags} {cls : String}

theorem keeps_zero : Keeps defs Q flags cls 0 where
  moves := by
    intro ms ms' b b' _ hb h
    simp only [Build.moves, Except.ok.injEq, Prod.mk.injEq] at h
    obtain ⟨rfl, rfl⟩ := h
    exact ⟨hb, Grows.refl b, by simp⟩
  combinedRules := by
    intro names b b' acc acc' hb hacc h
    simp only [Build.combinedRules, Except.ok.injEq, Prod.mk.injEq] at h
    obtain ⟨rfl, rfl⟩ := h
    exact ⟨hb, Grows.refl b, hacc⟩
  state := by
    intro name b b' rules hb h
    simp only [Build.state, Except.ok.injEq, Prod.mk.injEq] at h
    obtain ⟨rfl, rfl⟩ := h
    exact ⟨hb, Grows.refl b, by simp, by simp⟩
  rules := by
    intro name items b b' acc acc' _ hb hacc h
    simp only [Build.rules, Except.ok.injEq, Prod.mk.injEq] at h
    obtain ⟨rfl, rfl⟩ := h
    exact ⟨hb, Grows.refl b, hacc⟩

theorem Fits.begin {b : Build} (name : String) (hb : Fits defs Q b) :
    Fits defs Q { b with done := (name, #[]) :: b.done } := by
  have hg : Grows b { b with done := (name, #[]) :: b.done } := fun s hs => List.mem_cons_of_mem _ hs
  intro p hp e he
  rcases List.mem_cons.mp hp with rfl | hp
  · simp at he
  · exact (hb p hp e he).mono hg.known

theorem Fits.record {b : Build} {acc : Array Entry} (name : String) (hb : Fits defs Q b)
    (hacc : ∀ e ∈ acc, e.Fits (Known defs b) Q) :
    let b' : Build :=
      { b with done := b.done.map fun (s, r) => if (s == name) = true then (s, acc) else (s, r) }
    Fits defs Q b' ∧ Grows b b' ∧ Grows b' b := by
  intro b'
  have hnames : b'.done.map Prod.fst = b.done.map Prod.fst := by
    simp only [b', List.map_map]
    congr 1
    funext p
    simp only [Function.comp]
    split <;> rfl
  have hg : Grows b b' := fun s hs => hnames ▸ hs
  have hg' : Grows b' b := fun s hs => hnames ▸ hs
  refine ⟨?_, hg, hg'⟩
  intro p hp e he
  simp only [b', List.mem_map] at hp
  obtain ⟨⟨s, r⟩, hsr, rfl⟩ := hp
  split at he
  · exact (hacc e he).mono hg.known
  · exact (hb (s, r) hsr e he).mono hg.known

variable {fuel : Nat}

theorem Keeps.moves_succ (ih : Keeps defs Q flags cls fuel) {ms ms' : List Move}
    {b b' : Build} (hcut : Move.cut 0 ∉ ms) (hb : Fits defs Q b)
    (h : Build.moves defs flags cls (fuel + 1) ms b = .ok (ms', b')) :
    Fits defs Q b' ∧ Grows b b' ∧ ∀ m ∈ ms', m.Fits (Known defs b') := by
  cases ms with
  | nil =>
    simp only [Build.moves, Except.ok.injEq, Prod.mk.injEq] at h
    obtain ⟨rfl, rfl⟩ := h
    exact ⟨hb, Grows.refl b, by simp⟩
  | cons m rest =>
    have hrest : Move.cut 0 ∉ rest := fun hm => hcut (List.mem_cons_of_mem _ hm)
    -- the moves after the first one, checked with the fuel below
    have tail : ∀ {b₁ : Build} {rest' : List Move} (m' : Move), Fits defs Q b₁ → Grows b b₁ →
        m'.Fits (Known defs b₁) →
        Build.moves defs flags cls fuel rest b₁ = .ok (rest', b') →
        Fits defs Q b' ∧ Grows b b' ∧ ∀ m ∈ m' :: rest', m.Fits (Known defs b') := by
      intro b₁ rest' m' hb₁ hg₁ hm' hmoves
      obtain ⟨hb', hg', hfit⟩ := ih.moves hrest hb₁ hmoves
      refine ⟨hb', hg₁.trans hg', ?_⟩
      intro m hm
      rcases List.mem_cons.mp hm with rfl | hm
      · exact Move.Fits.mono hg'.known hm'
      · exact hfit m hm
    cases m with
    | combined names =>
      simp only [Build.moves] at h
      obtain ⟨⟨rules, b₁⟩, hcomb, h⟩ := exists_of_bind_eq_ok h
      obtain ⟨⟨rest', b₂⟩, hmoves, h⟩ := exists_of_bind_eq_ok h
      simp only [Except.ok.injEq, Prod.mk.injEq] at h
      obtain ⟨rfl, rfl⟩ := h
      -- counting one more combined state changes no rule
      obtain ⟨hb₁, hg₁, hrules⟩ := ih.combinedRules (b := { b with combinedCount := b.combinedCount + 1 })
        hb (fun e he => absurd he (Array.not_mem_empty e)) hcomb
      -- the combined state is made under its own name, with rules that fit
      have hg : Grows b₁ { b₁ with done := ("_tmp_" ++ toString b.combinedCount, rules) :: b₁.done } :=
        fun s hs => List.mem_cons_of_mem _ hs
      have hb₂ : Fits defs Q { b₁ with done := ("_tmp_" ++ toString b.combinedCount, rules) :: b₁.done } := by
        intro p hp e he
        rcases List.mem_cons.mp hp with rfl | hp
        · exact (hrules e he).mono hg.known
        · exact (hb₁ p hp e he).mono hg.known
      exact tail _ hb₂ (hg₁.trans hg) (.inr (List.mem_cons_self ..)) hmoves
    | enter name =>
      simp only [Build.moves] at h
      split at h
      · cases h
      · rename_i hknown
        obtain ⟨⟨rest', b₁⟩, hmoves, h⟩ := exists_of_bind_eq_ok h
        simp only [Except.ok.injEq, Prod.mk.injEq] at h
        obtain ⟨rfl, rfl⟩ := h
        -- the lookup found the state among those of the grammar
        have hdef : ∃ v, (name, v) ∈ defs := by simpa using hknown
        obtain ⟨v, hv⟩ := hdef
        exact tail _ hb (Grows.refl b) (.inl (List.mem_map_of_mem (f := Prod.fst) hv)) hmoves
    | pop =>
      simp only [Build.moves] at h
      obtain ⟨⟨rest', b₁⟩, hmoves, h⟩ := exists_of_bind_eq_ok h
      simp only [Except.ok.injEq, Prod.mk.injEq] at h
      obtain ⟨rfl, rfl⟩ := h
      exact tail _ hb (Grows.refl b) trivial hmoves
    | push =>
      simp only [Build.moves] at h
      obtain ⟨⟨rest', b₁⟩, hmoves, h⟩ := exists_of_bind_eq_ok h
      simp only [Except.ok.injEq, Prod.mk.injEq] at h
      obtain ⟨rfl, rfl⟩ := h
      exact tail _ hb (Grows.refl b) trivial hmoves
    | cut n =>
      simp only [Build.moves] at h
      obtain ⟨⟨rest', b₁⟩, hmoves, h⟩ := exists_of_bind_eq_ok h
      simp only [Except.ok.injEq, Prod.mk.injEq] at h
      obtain ⟨rfl, rfl⟩ := h
      have hn : n ≠ 0 := by
        rintro rfl
        exact hcut (List.mem_cons_self ..)
      exact tail _ hb (Grows.refl b) hn hmoves

theorem Keeps.combinedRules_succ (ih : Keeps defs Q flags cls fuel) {names : List String}
    {b b' : Build} {acc acc' : Array Entry} (hb : Fits defs Q b)
    (hacc : ∀ e ∈ acc, e.Fits (Known defs b) Q)
    (h : Build.combinedRules defs flags cls (fuel + 1) names b acc = .ok (acc', b')) :
    Fits defs Q b' ∧ Grows b b' ∧ ∀ e ∈ acc', e.Fits (Known defs b') Q := by
  cases names with
  | nil =>
    simp only [Build.combinedRules, Except.ok.injEq, Prod.mk.injEq] at h
    obtain ⟨rfl, rfl⟩ := h
    exact ⟨hb, Grows.refl b, hacc⟩
  | cons name rest =>
    simp only [Build.combinedRules] at h
    obtain ⟨⟨rules, b₁⟩, hstate, h⟩ := exists_of_bind_eq_ok h
    obtain ⟨hb₁, hg₁, hrules, -⟩ := ih.state hb hstate
    have hacc₁ : ∀ e ∈ acc ++ rules, e.Fits (Known defs b₁) Q := by
      intro e he
      rcases Array.mem_append.mp he with he | he
      · exact (hacc e he).mono hg₁.known
      · exact hrules e he
    obtain ⟨hb', hg', hacc'⟩ := ih.combinedRules hb₁ hacc₁ h
    exact ⟨hb', hg₁.trans hg', hacc'⟩

theorem Keeps.state_succ (hdefs : ∀ d ∈ defs, ∀ r ∈ d.2, r.Keeps Q)
    (ih : Keeps defs Q flags cls fuel) {name : String} {b b' : Build} {rules : Array Entry}
    (hb : Fits defs Q b) (h : Build.state defs flags cls (fuel + 1) name b = .ok (rules, b')) :
    Fits defs Q b' ∧ Grows b b' ∧ (∀ e ∈ rules, e.Fits (Known defs b') Q) ∧
      (0 < fuel + 1 → name ∈ b'.done.map Prod.fst) := by
  simp only [Build.state] at h
  split at h
  · -- made before
    rename_i found hfound
    simp only [Except.ok.injEq, Prod.mk.injEq] at h
    obtain ⟨rfl, rfl⟩ := h
    have hmem := mem_of_lookup_eq_some hfound
    exact ⟨hb, Grows.refl b, hb _ hmem, fun _ => List.mem_map_of_mem (f := Prod.fst) hmem⟩
  · split at h
    · cases h
    · split at h
      · cases h
      · rename_i items hitems
        have hkeeps : ∀ r ∈ items, r.Keeps Q := hdefs _ (mem_of_lookup_eq_some hitems)
        have hg₀ : Grows b { b with done := (name, #[]) :: b.done } :=
          fun s hs => List.mem_cons_of_mem _ hs
        obtain ⟨hb', hg', hrules⟩ := ih.rules hkeeps (hb.begin name)
          (fun e he => absurd he (Array.not_mem_empty e)) h
        exact ⟨hb', hg₀.trans hg', hrules, fun _ => hg' name (List.mem_cons_self ..)⟩

/-- A state's rules are made one at a time: an included state's rules in place, a rule that
reads nothing with its moves checked, and a rule with a pattern with its pattern read and its
moves checked. After each the rules so far are recorded under the state's name. -/
theorem Keeps.rules_succ (ih : Keeps defs Q flags cls fuel) {name : String} {items : List Rule}
    {b b' : Build} {acc acc' : Array Entry} (hitems : ∀ r ∈ items, r.Keeps Q)
    (hb : Fits defs Q b) (hacc : ∀ e ∈ acc, e.Fits (Known defs b) Q)
    (h : Build.rules defs flags cls (fuel + 1) name items b acc = .ok (acc', b')) :
    Fits defs Q b' ∧ Grows b b' ∧ ∀ e ∈ acc', e.Fits (Known defs b') Q := by
  cases items with
  | nil =>
    simp only [Build.rules, Except.ok.injEq, Prod.mk.injEq] at h
    obtain ⟨rfl, rfl⟩ := h
    obtain ⟨hb', hg, hg'⟩ := hb.record name hacc
    exact ⟨hb', hg, fun e he => (hacc e he).mono hg.known⟩
  | cons item rest =>
    have hrest : ∀ r ∈ rest, r.Keeps Q := fun r hr => hitems r (List.mem_cons_of_mem _ hr)
    have hitem : item.Keeps Q := hitems item (List.mem_cons_self ..)
    -- the rules after this one, made with the fuel below from the recorded build
    have tail : ∀ {b₁ : Build} {acc₁ : Array Entry}, Fits defs Q b₁ → Grows b b₁ →
        (∀ e ∈ acc₁, e.Fits (Known defs b₁) Q) →
        Build.rules defs flags cls fuel name rest
          { b₁ with done := b₁.done.map fun (s, r) =>
              if (s == name) = true then (s, acc₁) else (s, r) } acc₁ = .ok (acc', b') →
        Fits defs Q b' ∧ Grows b b' ∧ ∀ e ∈ acc', e.Fits (Known defs b') Q := by
      intro b₁ acc₁ hb₁ hg₁ hacc₁ hrules
      obtain ⟨hbr, hgr, hgr'⟩ := hb₁.record name hacc₁
      obtain ⟨hb', hg', hacc'⟩ :=
        ih.rules hrest hbr (fun e he => (hacc₁ e he).mono hgr.known) hrules
      exact ⟨hb', (hg₁.trans hgr).trans hg', hacc'⟩
    cases item with
    | inherit => exact ih.rules hrest hb hacc h
    | «include» other =>
      simp only [Build.rules] at h
      split at h
      · cases h
      · obtain ⟨⟨more, b₁⟩, hstate, h⟩ := exists_of_bind_eq_ok h
        obtain ⟨hb₁, hg₁, hmore, -⟩ := ih.state hb hstate
        refine tail hb₁ hg₁ ?_ h
        intro e he
        rcases Array.mem_append.mp he with he | he
        · exact (hacc e he).mono hg₁.known
        · exact hmore e he
    | default ms =>
      simp only [Build.rules] at h
      obtain ⟨⟨ms', b₁⟩, hmoves, h⟩ := exists_of_bind_eq_ok h
      obtain ⟨hb₁, hg₁, hms⟩ := ih.moves hitem.1 hb hmoves
      refine tail hb₁ hg₁ ?_ h
      intro e he
      rcases Array.mem_push.mp he with he | rfl
      · exact (hacc e he).mono hg₁.known
      · exact ⟨hms, fun a ha => by cases ha⟩
    | step source action ms =>
      simp only [Build.rules] at h
      split at h
      · cases h
      · rename_i compiled _
        obtain ⟨⟨ms', b₁⟩, hmoves, h⟩ := exists_of_bind_eq_ok h
        obtain ⟨hb₁, hg₁, hms⟩ := ih.moves hitem.1 hb hmoves
        refine tail hb₁ hg₁ ?_ h
        intro e he
        rcases Array.mem_push.mp he with he | rfl
        · exact (hacc e he).mono hg₁.known
        · refine ⟨hms, fun a ha => ?_⟩
          cases ha
          exact hitem.2 action rfl

/-- **What a build keeps, at every fuel.** The induction is on the fuel: each function of the
build calls the others with the fuel below. -/
theorem keeps (hdefs : ∀ d ∈ defs, ∀ r ∈ d.2, r.Keeps Q) : ∀ fuel, Keeps defs Q flags cls fuel
  | 0 => keeps_zero
  | fuel + 1 =>
    have ih := keeps hdefs fuel
    { moves := ih.moves_succ
      combinedRules := ih.combinedRules_succ
      state := ih.state_succ hdefs
      rules := ih.rules_succ }

theorem foldlM_state (hdefs : ∀ d ∈ defs, ∀ r ∈ d.2, r.Keeps Q) {fuel : Nat} (hfuel : 0 < fuel) :
    ∀ (ds : List StateDef) {b b' : Build}, Fits defs Q b →
      ds.foldlM (fun b (name, _) => do
          let (_, b) ← Build.state defs flags cls fuel name b
          pure b) b = .ok b' →
        Fits defs Q b' ∧ Grows b b' ∧ ∀ d ∈ ds, d.1 ∈ b'.done.map Prod.fst
  | [], b, b', hb, h => by
    simp only [List.foldlM_nil] at h
    cases h
    exact ⟨hb, Grows.refl b, by simp⟩
  | (name, items) :: ds, b, b', hb, h => by
    rw [List.foldlM_cons] at h
    obtain ⟨b₁, hfirst, h⟩ := exists_of_bind_eq_ok h
    obtain ⟨⟨rules, b₂⟩, hstate, hfirst⟩ := exists_of_bind_eq_ok hfirst
    cases hfirst
    obtain ⟨hb₁, hg₁, -, hname⟩ := (keeps hdefs fuel).state hb hstate
    obtain ⟨hb', hg', hrest⟩ := foldlM_state hdefs hfuel ds hb₁ h
    refine ⟨hb', hg₁.trans hg', ?_⟩
    intro d hd
    rcases List.mem_cons.mp hd with rfl | hd
    · exact hg' _ (hname hfuel)
    · exact hrest d hd

end Build

section Layers

/-- A rule that some layer of the grammar writes in one of its states. -/
def Grammar.Writes (g : Grammar) (r : Rule) : Prop :=
  ∃ layer ∈ g.layers, ∃ d ∈ layer, r ∈ d.2

/-- A state that some layer of the grammar defines. -/
def Grammar.Defines (g : Grammar) (s : String) : Prop :=
  ∃ layer ∈ g.layers, ∃ d ∈ layer, d.1 = s

variable {W : Rule → Prop}

theorem mergeLayer_cons (acc : List StateDef × List (String × Nat)) (d : StateDef)
    (layer : List StateDef) : mergeLayer acc (d :: layer) = mergeLayer (mergeLayer acc [d]) layer :=
  rfl

/-- Joining one state to the states so far: its rules are taken whole, spliced into the rules
of the state of that name, or dropped; no state is lost, and the state joined is there. -/
theorem mergeLayer_single (acc : List StateDef × List (String × Nat)) (d : StateDef)
    (hd : ∀ r ∈ d.2, W r) (hacc : ∀ d' ∈ acc.1, ∀ r ∈ d'.2, W r) :
    (∀ d' ∈ (mergeLayer acc [d]).1, ∀ r ∈ d'.2, W r) ∧
      (∀ s ∈ acc.1.map Prod.fst, s ∈ (mergeLayer acc [d]).1.map Prod.fst) ∧
      d.1 ∈ (mergeLayer acc [d]).1.map Prod.fst := by
  simp only [mergeLayer, List.foldl_cons, List.foldl_nil]
  split
  · -- a state not seen before: taken whole
    refine ⟨?_, fun s hs => by simp [hs], by simp⟩
    intro d' hd' r hr
    rcases List.mem_append.mp hd' with hd' | hd'
    · exact hacc d' hd' r hr
    · simp only [List.mem_singleton] at hd'
      subst hd'
      exact hd r hr
  · rename_i current hcurrent
    have hcur : (d.1, current) ∈ acc.1 := mem_of_lookup_eq_some hcurrent
    have hname : d.1 ∈ acc.1.map Prod.fst := List.mem_map.mpr ⟨_, hcur, rfl⟩
    split
    · -- a state seen before with nothing left to fill: dropped
      exact ⟨hacc, fun s hs => hs, hname⟩
    · -- a state seen before with an `inherit` to fill: spliced in
      rename_i at_ _
      have hnames : (acc.1.map fun x =>
          if (x.1 == d.1) = true then (x.1, current.take at_ ++ d.2 ++ current.drop (at_ + 1))
          else (x.1, x.2)).map Prod.fst = acc.1.map Prod.fst := by
        simp only [List.map_map]
        congr 1
        funext x
        simp only [Function.comp]
        split <;> rfl
      refine ⟨?_, fun s hs => by simp only; rw [hnames]; exact hs, by simp only; rw [hnames]; exact hname⟩
      intro d' hd' r hr
      simp only [List.mem_map] at hd'
      obtain ⟨x, hx, rfl⟩ := hd'
      split at hr
      · simp only [List.mem_append] at hr
        rcases hr with (hr | hr) | hr
        · exact hacc _ hcur r (List.mem_of_mem_take hr)
        · exact hd r hr
        · exact hacc _ hcur r (List.mem_of_mem_drop hr)
      · exact hacc x hx r hr

theorem mergeLayer_spec : ∀ (layer : List StateDef) (acc : List StateDef × List (String × Nat)),
    (∀ d ∈ layer, ∀ r ∈ d.2, W r) → (∀ d ∈ acc.1, ∀ r ∈ d.2, W r) →
      (∀ d ∈ (mergeLayer acc layer).1, ∀ r ∈ d.2, W r) ∧
        ∀ s ∈ acc.1.map Prod.fst ++ layer.map Prod.fst, s ∈ (mergeLayer acc layer).1.map Prod.fst
  | [], acc, _, hacc => ⟨hacc, fun s hs => by simpa [mergeLayer] using hs⟩
  | d :: layer, acc, hlayer, hacc => by
    rw [mergeLayer_cons]
    obtain ⟨hw, hkeep, hd⟩ := mergeLayer_single acc d (hlayer d (List.mem_cons_self ..)) hacc
    obtain ⟨hw', hnames⟩ :=
      mergeLayer_spec layer _ (fun d' hd' => hlayer d' (List.mem_cons_of_mem _ hd')) hw
    refine ⟨hw', fun s hs => hnames s ?_⟩
    simp only [List.map_cons, List.mem_append, List.mem_cons] at hs
    rcases hs with hs | rfl | hs
    · exact List.mem_append_left _ (hkeep s hs)
    · exact List.mem_append_left _ hd
    · exact List.mem_append_right _ hs

theorem mergeLayers_spec (g : Grammar) :
    (∀ d ∈ mergeLayers g.layers, ∀ r ∈ d.2, g.Writes r) ∧
      ∀ s, g.Defines s → s ∈ (mergeLayers g.layers).map Prod.fst := by
  -- the induction runs over the layers joined so far, with the acc as it stands after them
  suffices h : ∀ (layers : List (List StateDef)) (acc : List StateDef × List (String × Nat)),
      (∀ layer ∈ layers, layer ∈ g.layers) → (∀ d ∈ acc.1, ∀ r ∈ d.2, g.Writes r) →
        (∀ d ∈ (layers.foldl mergeLayer acc).1, ∀ r ∈ d.2, g.Writes r) ∧
          ∀ s, (s ∈ acc.1.map Prod.fst ∨ ∃ layer ∈ layers, ∃ d ∈ layer, d.1 = s) →
            s ∈ (layers.foldl mergeLayer acc).1.map Prod.fst by
    obtain ⟨hw, hs⟩ := h g.layers ([], []) (fun _ h => h) (by simp)
    exact ⟨hw, fun s hdef => hs s (.inr hdef)⟩
  intro layers
  induction layers with
  | nil => exact fun acc _ hacc => ⟨hacc, fun s hs => by simpa using hs⟩
  | cons layer layers ih =>
    intro acc hlayers hacc
    have hlayer : layer ∈ g.layers := hlayers layer (List.mem_cons_self ..)
    obtain ⟨hw, hnames⟩ := mergeLayer_spec (W := g.Writes) layer acc
      (fun d hd r hr => ⟨layer, hlayer, d, hd, hr⟩) hacc
    obtain ⟨hw', hs'⟩ := ih (mergeLayer acc layer) (fun l hl => hlayers l (List.mem_cons_of_mem _ hl)) hw
    refine ⟨hw', fun s hs => hs' s ?_⟩
    rcases hs with hs | ⟨l, hl, d, hd, rfl⟩
    · exact .inl (hnames s (List.mem_append_left _ hs))
    · rcases List.mem_cons.mp hl with rfl | hl
      · exact .inl (hnames _ (List.mem_append_right _ (List.mem_map_of_mem hd)))
      · exact .inr ⟨l, hl, d, hd, rfl⟩

end Layers

section Ready

variable {f : Std.HashMap String (Array Entry) → String × Array Entry →
  Std.HashMap String (Array Entry)}

theorem mem_foldl_insert (hf : ∀ m p, f m p = m.insert p.1 p.2) :
    ∀ (l : List (String × Array Entry)) (m : Std.HashMap String (Array Entry)) (s : String),
      s ∈ l.foldl f m ↔ s ∈ m ∨ s ∈ l.map Prod.fst
  | [], m, s => by simp
  | p :: l, m, s => by
    rw [List.foldl_cons, mem_foldl_insert hf l, hf, Std.HashMap.mem_insert, beq_iff_eq]
    simp only [List.map_cons, List.mem_cons]
    constructor
    · rintro ((rfl | h) | h)
      · exact .inr (.inl rfl)
      · exact .inl h
      · exact .inr (.inr h)
    · rintro (h | rfl | h)
      · exact .inl (.inr h)
      · exact .inl (.inl rfl)
      · exact .inr h

theorem getElem?_foldl_insert (hf : ∀ m p, f m p = m.insert p.1 p.2) :
    ∀ (l : List (String × Array Entry)) (m : Std.HashMap String (Array Entry)) (s : String)
      (rules : Array Entry), (l.foldl f m)[s]? = some rules →
        (∃ p ∈ l, p.2 = rules) ∨ m[s]? = some rules
  | [], m, s, rules, h => .inr h
  | p :: l, m, s, rules, h => by
    rw [List.foldl_cons] at h
    rcases getElem?_foldl_insert hf l _ s rules h with ⟨q, hq, rfl⟩ | h
    · exact .inl ⟨q, List.mem_cons_of_mem _ hq, rfl⟩
    · rw [hf, Std.HashMap.getElem?_insert] at h
      split at h
      · cases h
        exact .inl ⟨p, List.mem_cons_self .., rfl⟩
      · exact .inr h

/-- **A ready grammar enters only its own states.** When a grammar all of whose written rules
keep `Q` (no cut by zero, actions that satisfy `Q`) is made ready, every rule of the ready
grammar has moves that fit its states and an action that satisfies `Q`, every state the
grammar writes is a state of the ready grammar, and whether actions move the cursor is as the
grammar says. -/
theorem Grammar.compile_fits {g : Grammar} {t : Table} {Q : Action → Prop}
    (hdefs : ∀ d ∈ mergeLayers g.layers, ∀ r ∈ d.2, r.Keeps Q) (h : g.compile = .ok t) :
    (∀ state, ∀ e ∈ t.rules state, e.Fits (· ∈ t.states) Q) ∧
      (∀ s ∈ (mergeLayers g.layers).map Prod.fst, s ∈ t.states) ∧ t.extended = g.extended := by
  simp only [Grammar.compile] at h
  obtain ⟨b, hbuild, h⟩ := exists_of_bind_eq_ok h
  cases h
  have hfuel : 0 < Grammar.fuel (mergeLayers g.layers) := by
    simp only [Grammar.fuel]
    omega
  have hstart : Build.Fits (mergeLayers g.layers) Q ⟨[], 0⟩ := fun p hp => by cases hp
  obtain ⟨hb, -, hmade⟩ := Build.foldlM_state hdefs hfuel _ hstart hbuild
  have hf : ∀ (m : Std.HashMap String (Array Entry)) (p : String × Array Entry),
      (fun m (s, r) => m.insert s r : Std.HashMap String (Array Entry) → String × Array Entry →
        Std.HashMap String (Array Entry)) m p = m.insert p.1 p.2 := fun _ _ => rfl
  -- every state the build knows was made, and is a state of the ready grammar
  have hknown : ∀ s, Build.Known (mergeLayers g.layers) b s → s ∈
      b.done.foldl (fun m (s, r) => m.insert s r) (∅ : Std.HashMap String (Array Entry)) := by
    intro s hs
    rw [mem_foldl_insert hf]
    rcases hs with hs | hs
    · obtain ⟨d, hd, rfl⟩ := List.mem_map.mp hs
      exact .inr (hmade d hd)
    · exact .inr hs
  refine ⟨?_, fun s hs => hknown s (.inl hs), rfl⟩
  intro state e he
  simp only [Table.rules, Std.HashMap.getD_eq_getD_getElem?] at he
  cases hrules : (b.done.foldl (fun m (s, r) => m.insert s r)
      (∅ : Std.HashMap String (Array Entry)))[state]? with
  | none => simp [hrules] at he
  | some rules =>
    rw [hrules, Option.getD_some] at he
    rcases getElem?_foldl_insert hf _ _ state rules hrules with ⟨p, hp, rfl⟩ | hempty
    · exact (hb p hp e he).mono hknown
    · simp at hempty

end Ready

end Highlight
