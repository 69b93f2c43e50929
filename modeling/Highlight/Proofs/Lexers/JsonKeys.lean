import Highlight.Lexers.Json
import Highlight.Proofs.Lexer.Insertions

/-!
# Which JSON strings are keys

The JSON scanner (`jsonTokens`) cannot tell a key from a string value until it has seen what
follows the string, so it holds strings, and the blanks and comments after them, in a queue.
This module proves what it decides, for every text: its tokens spell the text, each starting
where the one before it ends and none of them empty, so that their offsets increase; and a
string is a key (`Name.Tag`) exactly when the first token after it that is not a blank, a
comment or a string starts with a colon (`keyFollows`). This is `jsonTokens_keys`.

Strings are passed over like blanks and comments: a quote does not empty the queue, as every
other character that starts a token does, so in `"a" "b": 1` both strings are keys.

The proof follows the scanner one character at a time with an invariant (`JsonScan.Inv`). The
strings put out are settled (`Keyed`) for whatever comes later, except just after a constant,
a number or punctuation has begun and emptied the queue: that token decides them, by its
first character. Each kind of step keeps the invariant (`Inv.extend`, `Inv.putAside`,
`Inv.putOut`, `Inv.begin`, ...), so the whole run does (`inv_foldl`).
-/

set_option autoImplicit false

namespace Highlight

namespace Token

/-- Whether a token is a string, a key or not. -/
def isString (t : Token) : Bool := t.kind == .stringDouble || t.kind == .nameTag

/-- Whether the JSON scanner looks past a token for what decides the strings before it:
blanks, comments and strings. -/
def passedOver (t : Token) : Bool :=
  t.kind == .whitespace || t.kind == .commentSingle || t.kind == .commentMultiline || t.isString

theorem passedOver_of_isString {t : Token} (h : t.isString = true) : t.passedOver = true := by
  simp [passedOver, h]

theorem ExactFrom.le_start {ts : List Token} :
    ∀ {n : Nat}, ExactFrom n ts → ∀ t ∈ ts, n ≤ t.start := by
  induction ts with
  | nil => intro n _ t ht; exact absurd ht List.not_mem_nil
  | cons u ts ih =>
    intro n h t ht
    obtain ⟨hu, hrest⟩ := h
    rcases List.mem_cons.mp ht with rfl | ht
    · exact Nat.le_of_eq hu.symm
    · have := ih hrest t ht
      omega

theorem ExactFrom.pairwise_start_lt {ts : List Token} : ∀ {n : Nat}, ExactFrom n ts →
    (∀ t ∈ ts, t.text ≠ "") → ts.Pairwise fun a b => a.start < b.start := by
  induction ts with
  | nil => intro _ _ _; exact List.Pairwise.nil
  | cons t ts ih =>
    intro n h hne
    obtain ⟨ht, hrest⟩ := h
    have hlen : 0 < t.text.length :=
      Nat.pos_of_ne_zero fun h0 => hne t List.mem_cons_self (String.length_eq_zero_iff.mp h0)
    refine List.Pairwise.cons (fun u hu => ?_)
      (ih hrest fun u hu => hne u (List.mem_cons_of_mem _ hu))
    have := hrest.le_start u hu
    omega

end Token

namespace Lexers

open Token

/-! ## What decides a string -/

/-- Whether the strings before `ts` are keys: the first token of `ts` that is not passed over
starts with a colon. When there is none, `atEnd` answers for what comes after `ts`. -/
def keyFollows (ts : List Token) (atEnd : Bool) : Bool :=
  match ts.find? fun t => !t.passedOver with
  | some t => t.text.toList.head? == some ':'
  | none => atEnd

theorem keyFollows_append (xs ys : List Token) (atEnd : Bool) :
    keyFollows (xs ++ ys) atEnd = keyFollows xs (keyFollows ys atEnd) := by
  unfold keyFollows
  rw [List.find?_append]
  cases xs.find? fun t => !t.passedOver <;> rfl

theorem keyFollows_of_passedOver {ts : List Token} (h : ∀ t ∈ ts, t.passedOver = true)
    (atEnd : Bool) : keyFollows ts atEnd = atEnd := by
  have hnone : ts.find? (fun t => !t.passedOver) = none :=
    List.find?_eq_none.mpr fun t ht => by simp [h t ht]
  simp [keyFollows, hnone]

theorem keyFollows_decider {t : Token} (h : t.passedOver = false) (atEnd : Bool) :
    keyFollows [t] atEnd = (t.text.toList.head? == some ':') := by
  simp [keyFollows, List.find?, h]

/-- Each string of the tokens is a key exactly when `keyFollows` says so of the tokens after
it, `atEnd` answering for what comes after them all. -/
def Keyed (atEnd : Bool) : List Token → Prop
  | [] => True
  | t :: ts => (t.isString = true → (t.kind = .nameTag ↔ keyFollows ts atEnd = true)) ∧
      Keyed atEnd ts

@[simp] theorem keyed_nil (atEnd : Bool) : Keyed atEnd [] := trivial

@[simp] theorem keyed_cons (atEnd : Bool) (t : Token) (ts : List Token) :
    Keyed atEnd (t :: ts) ↔
      (t.isString = true → (t.kind = .nameTag ↔ keyFollows ts atEnd = true)) ∧
        Keyed atEnd ts :=
  Iff.rfl

theorem keyed_append (atEnd : Bool) (xs ys : List Token) :
    Keyed atEnd (xs ++ ys) ↔ Keyed (keyFollows ys atEnd) xs ∧ Keyed atEnd ys := by
  induction xs with
  | nil => simp
  | cons t xs ih => simp only [List.cons_append, keyed_cons, ih, keyFollows_append, and_assoc]

theorem keyed_single {t : Token} (h : t.isString = false) (atEnd : Bool) : Keyed atEnd [t] := by
  simp [h]

theorem Keyed.split {atEnd : Bool} {t : Token} {after : List Token} (before : List Token)
    (h : Keyed atEnd (before ++ t :: after)) (hs : t.isString = true) :
    t.kind = .nameTag ↔ keyFollows after atEnd = true := by
  induction before with
  | nil => exact h.1 hs
  | cons u before ih => exact ih h.2

theorem keyed_waiting {q : List Token}
    (h : ∀ t ∈ q, t.passedOver = true ∧ t.kind ≠ .nameTag) : Keyed false q := by
  induction q with
  | nil => trivial
  | cons t q ih =>
    have hrest : ∀ u ∈ q, u.passedOver = true ∧ u.kind ≠ .nameTag :=
      fun u hu => h u (List.mem_cons_of_mem _ hu)
    refine ⟨fun _ => ?_, ih hrest⟩
    rw [keyFollows_of_passedOver fun u hu => (hrest u hu).1]
    simp [(h t List.mem_cons_self).2]

/-- A waiting string that a colon makes a key. -/
def asKey (t : Token) : Token := if t.kind == .stringDouble then { t with kind := .nameTag } else t

theorem passedOver_asKey (t : Token) : (asKey t).passedOver = t.passedOver := by
  unfold asKey
  split <;> simp_all [passedOver, isString]

theorem keyed_asKey {q : List Token}
    (h : ∀ t ∈ q, t.passedOver = true ∧ t.kind ≠ .nameTag) : Keyed true (q.map asKey) := by
  induction q with
  | nil => trivial
  | cons t q ih =>
    have hrest : ∀ u ∈ q, u.passedOver = true ∧ u.kind ≠ .nameTag :=
      fun u hu => h u (List.mem_cons_of_mem _ hu)
    have hpass : ∀ u ∈ q.map asKey, u.passedOver = true := by
      intro u hu
      obtain ⟨v, hv, rfl⟩ := List.mem_map.mp hu
      rw [passedOver_asKey]
      exact (hrest v hv).1
    refine ⟨fun hs => ?_, ih hrest⟩
    rw [keyFollows_of_passedOver hpass]
    have htag := (h t List.mem_cons_self).2
    unfold asKey at hs ⊢
    split at hs <;> simp_all [isString]

/-! ## The scanner's states -/

namespace JsonScan

/-- The tokens put out, in order, and then those that wait. -/
def sofar (s : JsonScan) : List Token := s.out.reverse ++ s.queue

/-- Whether a token of this mode empties the queue where it starts: a constant, a number or
punctuation. -/
def deciding : JsonMode → Bool
  | .constant | .number _ | .punct => true
  | _ => false

/-- The token of kind `k` that the scanner cuts from the start of the token begun up to `b`. -/
def cut (s : JsonScan) (text : Array Char) (k : TokenKind) (b : Nat) : Token :=
  ⟨s.start, k, String.ofList (text.extract s.start b).toList⟩

/-- Where what the scanner has put out or holds ends, when it has read up to `i`: at the start
of the token it is in, or at `i` between tokens. -/
def front (s : JsonScan) (i : Nat) : Nat :=
  match s.mode with
  | .idle => i
  | _ => s.start

@[simp] theorem emit_out (s : JsonScan) (t : Token) :
    (s.emit t).out.reverse = s.out.reverse ++ [t] := by
  simp [emit]

@[simp] theorem emit_queue (s : JsonScan) (t : Token) : (s.emit t).queue = s.queue := rfl

@[simp] theorem flush_out (s : JsonScan) : s.flush.out.reverse = s.out.reverse ++ s.queue := by
  simp [flush]

@[simp] theorem flush_queue (s : JsonScan) : s.flush.queue = [] := rfl

@[simp] theorem flushKeys_out (s : JsonScan) :
    s.flushKeys.out.reverse = s.out.reverse ++ s.queue.map asKey := by
  simp [flushKeys, asKey]

@[simp] theorem flushKeys_queue (s : JsonScan) : s.flushKeys.queue = [] := rfl

@[simp] theorem sofar_mode (s : JsonScan) (m : JsonMode) :
    ({ s with mode := m } : JsonScan).sofar = s.sofar := rfl

@[simp] theorem out_mode (s : JsonScan) (m : JsonMode) :
    ({ s with mode := m } : JsonScan).out = s.out := rfl

@[simp] theorem queue_mode (s : JsonScan) (m : JsonMode) :
    ({ s with mode := m } : JsonScan).queue = s.queue := rfl

@[simp] theorem front_idle (s : JsonScan) (b : Nat) :
    ({ s with mode := .idle } : JsonScan).front b = b := rfl

@[simp] theorem deciding_idle : deciding .idle = false := rfl

theorem aside_cases (s : JsonScan) (t : Token) :
    (s.queue = [] ∧ s.aside t = s.emit t) ∨
      (s.aside t).out = s.out ∧ (s.aside t).queue = s.queue ++ [t] := by
  unfold aside
  split
  · exact .inl ⟨List.isEmpty_iff.mp ‹_›, rfl⟩
  · exact .inr ⟨rfl, rfl⟩

theorem sofar_aside (s : JsonScan) (t : Token) : (s.aside t).sofar = s.sofar ++ [t] := by
  rcases aside_cases s t with ⟨hq, he⟩ | ⟨ho, hq⟩
  · simp [sofar, he, hq]
  · simp [sofar, ho, hq]

end JsonScan

open JsonScan

/-! ## Pieces of the text -/

section Pieces

variable (text : Array Char)

theorem piece_toList (a b : Nat) :
    (String.ofList (text.extract a b).toList).toList = (text.toList.drop a).take (b - a) := by
  simp [Array.toList_extract, List.extract_eq_take_drop]

theorem take_append_piece {a b : Nat} (hab : a ≤ b) :
    text.toList.take a ++ (String.ofList (text.extract a b).toList).toList =
      text.toList.take b := by
  rw [piece_toList, ← List.take_add, Nat.add_sub_cancel' hab]

theorem piece_head {a b : Nat} (hab : a < b) :
    (String.ofList (text.extract a b).toList).toList.head? = text.toList[a]? := by
  rw [piece_toList, List.head?_take, if_neg (by omega), List.head?_drop]

theorem piece_ne_empty {a b : Nat} (hab : a < b) (hb : b ≤ text.size) :
    String.ofList (text.extract a b).toList ≠ "" := by
  intro h
  have := congrArg String.length h
  simp [String.length_ofList] at this
  omega

theorem sofar_piece {xs : List Token} {a b : Nat} (hexact : ExactFrom 0 xs)
    (hspells : chars xs = text.toList.take a) (hab : a < b) (hb : b ≤ text.size) (k : TokenKind) :
    ExactFrom 0 (xs ++ [⟨a, k, String.ofList (text.extract a b).toList⟩]) ∧
      chars (xs ++ [⟨a, k, String.ofList (text.extract a b).toList⟩]) = text.toList.take b := by
  have hlen : (chars xs).length = a := by
    rw [hspells, List.length_take, Array.length_toList]
    omega
  refine ⟨exactFrom_append.mpr ⟨hexact, ?_⟩, ?_⟩
  · simp [hlen]
  · simp only [chars_append, hspells, chars_cons, chars_nil, List.append_nil]
    exact take_append_piece text (Nat.le_of_lt hab)

theorem cut_head {s : JsonScan} {b : Nat} (k : TokenKind) (hb : s.start < b) :
    (s.cut text k b).text.toList.head? = text.toList[s.start]? :=
  piece_head text hb

end Pieces

/-! ## The invariant -/

namespace JsonScan

/-- What holds of the scanner when it has read the first `i` characters of `text`. -/
structure Inv (text : Array Char) (i : Nat) (s : JsonScan) : Prop where
  /-- The tokens so far start where the text before them ends, -/
  exact : ExactFrom 0 s.sofar
  /-- and spell the text up to the front; -/
  spells : chars s.sofar = text.toList.take (s.front i)
  /-- none of them is empty. -/
  nonempty : ∀ t ∈ s.sofar, t.text ≠ ""
  bounded : i ≤ text.size
  /-- A token begun holds its first character. -/
  begun : s.mode ≠ .idle → s.start < i
  /-- The queue holds blanks, comments and strings, none of them a key yet. -/
  waiting : ∀ t ∈ s.queue, t.passedOver = true ∧ t.kind ≠ .nameTag
  /-- A token that decides began by emptying the queue. -/
  quiet : deciding s.mode = true → s.queue = []
  /-- A token begun that does not decide does not start with a colon. -/
  colonFree : deciding s.mode = false → s.mode ≠ .idle → text.toList[s.start]? ≠ some ':'
  /-- The strings put out are keys as the token begun decides them, when it decides, -/
  decided : deciding s.mode = true → Keyed (text.toList[s.start]? == some ':') s.out.reverse
  /-- and as the tokens after them decide otherwise, whatever comes later. -/
  settled : deciding s.mode = false → ∀ atEnd, Keyed atEnd s.out.reverse

variable {text : Array Char} {i : Nat} {s : JsonScan}

theorem inv_initial (text : Array Char) : Inv text 0 {} where
  exact := trivial
  spells := by simp [sofar, front]
  nonempty := by simp [sofar]
  bounded := Nat.zero_le _
  begun := fun h => absurd rfl h
  waiting := by simp
  quiet := fun _ => rfl
  colonFree := fun _ h => absurd rfl h
  decided := fun h => absurd h (by decide)
  settled := fun _ _ => trivial

theorem Inv.extend (h : Inv text i s) (hi : i < text.size) (hm : s.mode ≠ .idle) {m : JsonMode}
    (hm' : m ≠ .idle) (hd : deciding m = deciding s.mode) :
    Inv text (i + 1) { s with mode := m } := by
  have hfront : ({ s with mode := m } : JsonScan).front (i + 1) = s.front i := by
    unfold front
    cases m <;> cases hs : s.mode <;> simp_all
  refine ⟨h.exact, hfront ▸ h.spells, h.nonempty, hi, fun _ => ?_, h.waiting,
    fun hd' => h.quiet (hd ▸ hd'), fun hd' _ => h.colonFree (hd ▸ hd') hm,
    fun hd' => h.decided (hd ▸ hd'), fun hd' => h.settled (hd ▸ hd')⟩
  have := h.begun hm
  dsimp only
  omega

theorem Inv.stay (h : Inv text i s) (hi : i < text.size) (hm : s.mode ≠ .idle) :
    Inv text (i + 1) s :=
  h.extend hi hm hm rfl

theorem Inv.between {s' : JsonScan} {b : Nat} (hmode : s'.mode = .idle)
    (hexact : ExactFrom 0 s'.sofar) (hspells : chars s'.sofar = text.toList.take b)
    (hne : ∀ t ∈ s'.sofar, t.text ≠ "") (hb : b ≤ text.size)
    (hwaiting : ∀ t ∈ s'.queue, t.passedOver = true ∧ t.kind ≠ .nameTag)
    (hsettled : ∀ atEnd, Keyed atEnd s'.out.reverse) : Inv text b s' := by
  refine ⟨hexact, ?_, hne, hb, fun h' => absurd hmode h', hwaiting, fun h' => ?_,
    fun _ h' => absurd hmode h', fun h' => ?_, fun _ => hsettled⟩
  · simpa [front, hmode] using hspells
  · simp [hmode] at h'
  · simp [hmode] at h'

theorem Inv.piece (h : Inv text i s) (hm : s.mode ≠ .idle) {b : Nat} (hib : i ≤ b)
    (hb : b ≤ text.size) (k : TokenKind) :
    let t := s.cut text k b
    ExactFrom 0 (s.sofar ++ [t]) ∧ chars (s.sofar ++ [t]) = text.toList.take b ∧
      ∀ u ∈ s.sofar ++ [t], u.text ≠ "" := by
  have hstart := h.begun hm
  have hfront : s.front i = s.start := by unfold front; split <;> simp_all
  obtain ⟨hexact, hspells⟩ := sofar_piece text h.exact (hfront ▸ h.spells)
    (Nat.lt_of_lt_of_le hstart hib) hb k
  refine ⟨hexact, hspells, fun u hu => ?_⟩
  rcases List.mem_append.mp hu with hu | hu
  · exact h.nonempty u hu
  · rw [List.mem_singleton.mp hu]
    exact piece_ne_empty text (by omega) hb

theorem Inv.putAside (h : Inv text i s) (hm : s.mode ≠ .idle) (hd : deciding s.mode = false)
    {b : Nat} (hib : i ≤ b) (hb : b ≤ text.size) {k : TokenKind}
    (hk : k = .whitespace ∨ k = .commentSingle ∨ k = .commentMultiline) :
    Inv text b { s.aside (s.cut text k b) with mode := .idle } := by
  obtain ⟨hexact, hspells, hne⟩ := h.piece hm hib hb k
  have hpass : (s.cut text k b).passedOver = true := by rcases hk with rfl | rfl | rfl <;> rfl
  have hstring : (s.cut text k b).isString = false := by rcases hk with rfl | rfl | rfl <;> rfl
  generalize s.cut text k b = t at hexact hspells hne hpass hstring ⊢
  have hkt : t.kind ≠ .nameTag := fun h' => by simp [isString, h'] at hstring
  refine Inv.between rfl (by simpa [sofar_aside] using hexact)
    (by simpa [sofar_aside] using hspells) (by simpa [sofar_aside] using hne) hb ?_ fun atEnd => ?_
  · rcases aside_cases s t with ⟨_, he⟩ | ⟨_, hq⟩
    · simpa [he] using h.waiting
    · simp only [hq, List.mem_append, List.mem_singleton]
      rintro u (hu | rfl)
      · exact h.waiting u hu
      · exact ⟨hpass, hkt⟩
  · rcases aside_cases s t with ⟨_, he⟩ | ⟨ho, _⟩
    · simp only [he, emit_out]
      rw [keyed_append, keyFollows_of_passedOver (by simpa using hpass)]
      exact ⟨h.settled hd atEnd, keyed_single hstring atEnd⟩
    · simpa [ho] using h.settled hd atEnd

theorem Inv.putString (h : Inv text i s) (hm : s.mode ≠ .idle) (hd : deciding s.mode = false)
    {b : Nat} (hib : i ≤ b) (hb : b ≤ text.size) :
    Inv text b { s with queue := s.queue ++ [s.cut text .stringDouble b], mode := .idle } := by
  obtain ⟨hexact, hspells, hne⟩ := h.piece hm hib hb .stringDouble
  generalize hstr : s.cut text .stringDouble b = t at hexact hspells hne ⊢
  have hsofar : ({ s with queue := s.queue ++ [t], mode := .idle } : JsonScan).sofar =
      s.sofar ++ [t] := by
    simp [sofar]
  refine Inv.between rfl (hsofar ▸ hexact) (hsofar ▸ hspells) (hsofar ▸ hne) hb ?_
    fun atEnd => h.settled hd atEnd
  simp only [List.mem_append, List.mem_singleton]
  rintro u (hu | rfl)
  · exact h.waiting u hu
  · subst hstr
    exact ⟨rfl, show TokenKind.stringDouble ≠ TokenKind.nameTag by decide⟩

theorem Inv.putOut (h : Inv text i s) (hd : deciding s.mode = true) {k : TokenKind}
    (hk : (s.cut text k i).passedOver = false) :
    Inv text i { s.emit (s.cut text k i) with mode := .idle } := by
  have hm : s.mode ≠ .idle := by intro h'; simp [h', deciding] at hd
  have hq := h.quiet hd
  have hhead := cut_head text k (h.begun hm) (b := i)
  have hstring : (s.cut text k i).isString = false := by
    cases hs : (s.cut text k i).isString
    · rfl
    · rw [passedOver_of_isString hs] at hk
      cases hk
  obtain ⟨hexact, hspells, hne⟩ := h.piece hm (Nat.le_refl i) h.bounded k
  generalize s.cut text k i = t at hexact hspells hne hk hhead hstring ⊢
  have hsofar : ({ s.emit t with mode := .idle } : JsonScan).sofar = s.sofar ++ [t] := by
    simp [sofar, hq]
  refine Inv.between rfl (hsofar ▸ hexact) (hsofar ▸ hspells) (hsofar ▸ hne) h.bounded
    (by simp [hq]) fun atEnd => ?_
  simp only [emit_out]
  rw [keyed_append, keyFollows_decider hk, hhead]
  exact ⟨h.decided hd, keyed_single hstring atEnd⟩

theorem Inv.putStray (h : Inv text i s) (hm : s.mode ≠ .idle) (hd : deciding s.mode = false) :
    Inv text i { s.flush.emit (s.cut text .error i) with mode := .idle } := by
  have hhead := cut_head text .error (h.begun hm) (b := i)
  obtain ⟨hexact, hspells, hne⟩ := h.piece hm (Nat.le_refl i) h.bounded .error
  generalize hstray : s.cut text .error i = t at hexact hspells hne hhead ⊢
  have hk : t.passedOver = false := by subst hstray; rfl
  have hsofar : ({ s.flush.emit t with mode := .idle } : JsonScan).sofar = s.sofar ++ [t] := by
    simp [sofar]
  have hno : (t.text.toList.head? == some ':') = false := by
    rw [hhead]
    simpa using h.colonFree hd hm
  refine Inv.between rfl (hsofar ▸ hexact) (hsofar ▸ hspells) (hsofar ▸ hne) h.bounded
    (by simp) fun atEnd => ?_
  simp only [emit_out, flush_out, List.append_assoc]
  rw [keyed_append, keyFollows_append, keyFollows_decider hk, hno,
    keyFollows_of_passedOver fun u hu => (h.waiting u hu).1, keyed_append, keyFollows_decider hk,
    hno]
  exact ⟨h.settled hd false, keyed_waiting h.waiting, keyed_single (by subst hstray; rfl) atEnd⟩

/-! ## Starting a token -/

theorem chars_map_asKey (q : List Token) : chars (q.map asKey) = chars q := by
  induction q with
  | nil => rfl
  | cons t q ih => simp only [List.map_cons, chars_cons, ih, asKey]; split <;> rfl

theorem exactFrom_map_asKey (q : List Token) :
    ∀ {n : Nat}, ExactFrom n (q.map asKey) ↔ ExactFrom n q := by
  induction q with
  | nil => intro n; exact Iff.rfl
  | cons t q ih =>
    intro n
    have hstart : (asKey t).start = t.start := by unfold asKey; split <;> rfl
    have htext : (asKey t).text = t.text := by unfold asKey; split <;> rfl
    simp only [List.map_cons, exactFrom_cons, hstart, htext, ih]

variable {c : Char}

theorem Inv.enter (h : Inv text i s) (hm : s.mode = .idle) (hc : text.toList[i]? = some c)
    (hcolon : c ≠ ':') {m : JsonMode} (hm' : m ≠ .idle) (hd : deciding m = false) :
    Inv text (i + 1) { s with start := i, mode := m } := by
  have hi : i < text.size := by
    have := (List.getElem?_eq_some_iff.mp hc).1
    simpa using this
  refine ⟨h.exact, ?_, h.nonempty, hi, fun _ => Nat.lt_succ_self i, h.waiting,
    fun h' => absurd h' (by simp [hd]), fun _ _ => ?_, fun h' => absurd h' (by simp [hd]),
    fun _ => h.settled (by simp [hm, deciding])⟩
  · have hfront : ({ s with start := i, mode := m } : JsonScan).front (i + 1) = i := by
      unfold front
      cases m <;> simp_all
    have hsofar : ({ s with start := i, mode := m } : JsonScan).sofar = s.sofar := rfl
    rw [hsofar, hfront]
    simpa [front, hm] using h.spells
  · simpa [hc] using hcolon

theorem Inv.enterDeciding (h : Inv text i s) (hm : s.mode = .idle) (hc : text.toList[i]? = some c)
    (hcolon : c ≠ ':') {m : JsonMode} (hd : deciding m = true) :
    Inv text (i + 1) { s.flush with start := i, mode := m } := by
  have hi : i < text.size := by
    have := (List.getElem?_eq_some_iff.mp hc).1
    simpa using this
  have hsofar : ({ s.flush with start := i, mode := m } : JsonScan).sofar = s.sofar := by
    simp [sofar]
  have hm' : m ≠ .idle := by intro h'; simp [h', deciding] at hd
  have hfront : ({ s.flush with start := i, mode := m } : JsonScan).front (i + 1) = i := by
    unfold front
    cases m <;> simp_all
  refine ⟨hsofar ▸ h.exact, ?_, hsofar ▸ h.nonempty, hi, fun _ => Nat.lt_succ_self i, by simp,
    fun _ => rfl, fun h' => absurd hd (by simp [h']), fun _ => ?_,
    fun h' => absurd hd (by simp [h'])⟩
  · rw [hsofar, hfront]
    simpa [front, hm] using h.spells
  · have hno : (text.toList[i]? == some ':') = false := by simpa [hc] using hcolon
    simp only [flush_out]
    rw [hno, keyed_append, keyFollows_of_passedOver fun u hu => (h.waiting u hu).1]
    exact ⟨h.settled (by simp [hm, deciding]) false, keyed_waiting h.waiting⟩

theorem Inv.enterColon (h : Inv text i s) (hm : s.mode = .idle) (hc : text.toList[i]? = some ':') :
    Inv text (i + 1) { s.flushKeys with start := i, mode := .punct } := by
  have hi : i < text.size := by
    have := (List.getElem?_eq_some_iff.mp hc).1
    simpa using this
  have hwait : ∀ t ∈ s.queue, t.passedOver = true ∧ t.kind ≠ .nameTag := h.waiting
  refine ⟨?_, ?_, ?_, hi, fun _ => Nat.lt_succ_self i, by simp, fun _ => rfl,
    fun h' => absurd h' (by simp [deciding]), fun _ => ?_,
    fun h' => absurd h' (by simp [deciding])⟩
  · have := h.exact
    simp only [sofar, flushKeys_out, flushKeys_queue, List.append_nil] at this ⊢
    rw [exactFrom_append] at this ⊢
    rw [exactFrom_map_asKey]
    exact this
  · have := h.spells
    simp only [sofar, flushKeys_out, flushKeys_queue, List.append_nil, chars_append,
      chars_map_asKey] at this ⊢
    simpa [front, hm] using this
  · intro t ht
    simp only [sofar, flushKeys_out, flushKeys_queue, List.append_nil, List.mem_append,
      List.mem_map] at ht
    rcases ht with ht | ⟨u, hu, rfl⟩
    · exact h.nonempty t (List.mem_append_left _ ht)
    · have htext : (asKey u).text = u.text := by unfold asKey; split <;> rfl
      rw [htext]
      exact h.nonempty u (List.mem_append_right _ hu)
  · simp only [flushKeys_out, hc]
    rw [show (some ':' == some ':') = true from rfl, keyed_append]
    have hpass : ∀ u ∈ s.queue.map asKey, u.passedOver = true := by
      intro u hu
      obtain ⟨v, hv, rfl⟩ := List.mem_map.mp hu
      rw [passedOver_asKey]
      exact (hwait v hv).1
    rw [keyFollows_of_passedOver hpass]
    exact ⟨h.settled (by simp [hm, deciding]) true, keyed_asKey hwait⟩

theorem Inv.enterStray (h : Inv text i s) (hm : s.mode = .idle) (hc : text.toList[i]? = some c)
    (hcolon : c ≠ ':') :
    Inv text (i + 1) (({ s with start := i, mode := .idle } : JsonScan).flush.emit
      ⟨i, .error, String.singleton c⟩) := by
  have hi : i < text.size := by
    have := (List.getElem?_eq_some_iff.mp hc).1
    simpa using this
  have hsofar : (({ s with start := i, mode := .idle } : JsonScan).flush.emit
      ⟨i, .error, String.singleton c⟩).sofar =
        s.sofar ++ [⟨i, .error, String.singleton c⟩] := by
    simp [sofar]
  have hspells : chars s.sofar = text.toList.take i := by simpa [front, hm] using h.spells
  have hk : (⟨i, .error, String.singleton c⟩ : Token).passedOver = false := rfl
  refine Inv.between rfl (hsofar ▸ ?_) (hsofar ▸ ?_) (hsofar ▸ ?_) hi (by simp)
    fun atEnd => ?_
  · have hlen : (chars s.sofar).length = i := by
      rw [hspells, List.length_take, Array.length_toList]
      omega
    exact exactFrom_append.mpr ⟨h.exact, by simp [hlen]⟩
  · rw [chars_append, hspells, List.take_add_one, hc]
    simp
  · intro t ht
    rcases List.mem_append.mp ht with ht | ht
    · exact h.nonempty t ht
    · rw [List.mem_singleton.mp ht]
      simp
  · have hno : ((⟨i, .error, String.singleton c⟩ : Token).text.toList.head? == some ':') =
        false := by
      simpa using hcolon
    simp only [emit_out, flush_out, List.append_assoc]
    rw [keyed_append, keyFollows_append, keyFollows_decider hk, hno,
      keyFollows_of_passedOver fun u hu => (h.waiting u hu).1, keyed_append, keyFollows_decider hk,
      hno]
    exact ⟨h.settled (by simp [hm, deciding]) false, keyed_waiting h.waiting,
      keyed_single rfl atEnd⟩

theorem Inv.begin (h : Inv text i s) (hm : s.mode = .idle) (hc : text.toList[i]? = some c) :
    Inv text (i + 1) (s.begin i c) := by
  have hidle : ({ s with start := i, mode := .idle } : JsonScan).mode = .idle := rfl
  unfold JsonScan.begin
  split
  · exact h.enter hm hc (by simp_all) (by simp) rfl
  split
  · exact h.enter hm hc (by intro h'; simp_all [jsonBlank]) (by simp) rfl
  split
  · exact h.enterDeciding hm hc (by intro h'; simp_all) rfl
  split
  · exact h.enterDeciding hm hc (by intro h'; simp_all [jsonIntegerChar]) rfl
  split
  · exact h.enterColon hm (by simp_all)
  split
  · exact h.enterDeciding hm hc (by simp_all) rfl
  split
  · exact h.enter hm hc (by simp_all) (by simp) rfl
  · exact h.enterStray hm hc (by simp_all)

/-! ## A step, and the whole run -/

theorem Inv.step (h : Inv text i s) (hc : text.toList[i]? = some c) :
    Inv text (i + 1) (s.step text i c) := by
  have hi : i < text.size := by
    have := (List.getElem?_eq_some_iff.mp hc).1
    simpa using this
  unfold JsonScan.step
  cases hm : s.mode with
  | idle => exact h.begin hm hc
  | quoted escape hexLeft =>
    have hm' : s.mode ≠ .idle := by simp [hm]
    dsimp only
    split
    · split
      · exact h.extend hi hm' (by simp) (by simp [hm, deciding])
      · exact h.extend hi hm' (by simp) (by simp [hm, deciding])
    split
    · exact h.extend hi hm' (by simp) (by simp [hm, deciding])
    split
    · exact h.extend hi hm' (by simp) (by simp [hm, deciding])
    split
    · exact h.putString hm' (by simp [hm, deciding]) (Nat.le_succ i) hi
    · exact h.stay hi hm'
  | blank =>
    dsimp only
    split
    · exact h.stay hi (by simp [hm])
    · exact (h.putAside (by simp [hm]) (by simp [hm, deciding]) (Nat.le_refl i) h.bounded
        (.inl rfl)).begin rfl hc
  | constant =>
    dsimp only
    split
    · exact h.stay hi (by simp [hm])
    · exact (h.putOut (by simp [hm, deciding]) rfl).begin rfl hc
  | number float =>
    dsimp only
    split
    · exact h.stay hi (by simp [hm])
    split
    · exact h.extend hi (by simp [hm]) (by simp) (by simp [hm, deciding])
    · exact (h.putOut (by simp [hm, deciding]) (by cases float <;> rfl)).begin rfl hc
  | punct =>
    dsimp only
    split
    · exact h.stay hi (by simp [hm])
    · exact (h.putOut (by simp [hm, deciding]) rfl).begin rfl hc
  | lineComment =>
    dsimp only
    split
    · exact h.stay hi (by simp [hm])
    · exact (h.putAside (by simp [hm]) (by simp [hm, deciding]) (Nat.le_refl i) h.bounded
        (.inr (.inl rfl))).begin rfl hc
  | blockComment star =>
    have hm' : s.mode ≠ .idle := by simp [hm]
    dsimp only
    split
    · exact h.extend hi hm' (by simp) (by simp [hm, deciding])
    split
    · split
      · exact h.putAside hm' (by simp [hm, deciding]) (Nat.le_succ i) hi (.inr (.inr rfl))
      · exact h.extend hi hm' (by simp) (by simp [hm, deciding])
    · exact h.stay hi hm'
  | slash =>
    have hm' : s.mode ≠ .idle := by simp [hm]
    dsimp only
    split
    · exact h.extend hi hm' (by simp) (by simp [hm, deciding])
    split
    · exact h.extend hi hm' (by simp) (by simp [hm, deciding])
    · exact (h.putStray hm' (by simp [hm, deciding])).begin rfl hc

theorem keyed_close {out q : List Token} {t : Token} (hout : ∀ atEnd, Keyed atEnd out)
    (hq : ∀ u ∈ q, u.passedOver = true ∧ u.kind ≠ .nameTag) (hs : t.isString = false)
    (ht : keyFollows [t] false = false) : Keyed false (out ++ q ++ [t]) := by
  rw [keyed_append, keyed_append, ht]
  exact ⟨⟨hout _, keyed_waiting hq⟩, keyed_single hs false⟩

theorem take_size (text : Array Char) : text.toList.take text.size = text.toList := by
  rw [← Array.length_toList, List.take_length]

theorem Inv.close (h : Inv text text.size s) (hm : s.mode ≠ .idle) (k : TokenKind)
    (hdecides : deciding s.mode = true → (s.cut text k text.size).passedOver = false)
    (hnokey : deciding s.mode = false → (s.cut text k text.size).isString = false ∧
      keyFollows [s.cut text k text.size] false = false) :
    let ts := s.sofar ++ [s.cut text k text.size]
    ExactFrom 0 ts ∧ chars ts = text.toList ∧ (∀ t ∈ ts, t.text ≠ "") ∧
      Keyed false ts := by
  obtain ⟨hexact, hspells, hne⟩ := h.piece hm (Nat.le_refl _) (Nat.le_refl _) k
  have hhead := cut_head text k (h.begun hm) (b := text.size)
  refine ⟨hexact, hspells.trans (take_size text), hne, ?_⟩
  cases hd : deciding s.mode
  · obtain ⟨hs, hkey⟩ := hnokey hd
    exact keyed_close (h.settled hd) h.waiting hs hkey
  · have hpass := hdecides hd
    have hstring : (s.cut text k text.size).isString = false := by
      cases hs : (s.cut text k text.size).isString
      · rfl
      · rw [passedOver_of_isString hs] at hpass
        cases hpass
    rw [sofar, h.quiet hd, List.append_nil, keyed_append, keyFollows_decider hpass, hhead]
    exact ⟨h.decided hd, keyed_single hstring false⟩

theorem Inv.finish (h : Inv text text.size s) :
    ExactFrom 0 (s.finish text) ∧ chars (s.finish text) = text.toList ∧
      (∀ t ∈ s.finish text, t.text ≠ "") ∧ Keyed false (s.finish text) := by
  have hsofar : s.flush.out.reverse = s.sofar := by simp [sofar]
  -- a token the text ends in that does not decide is either passed over or starts with no colon
  have hstray : deciding s.mode = false → s.mode ≠ .idle →
      keyFollows [s.cut text .error text.size] false = false := fun hd hm => by
    rw [keyFollows_decider rfl, cut_head text .error (h.begun hm)]
    simpa using h.colonFree hd hm
  unfold JsonScan.finish
  cases hm : s.mode
  case idle =>
    have hspells : chars s.sofar = text.toList := by
      simpa [front, hm, take_size] using h.spells
    simp only [hsofar, List.append_nil]
    refine ⟨h.exact, hspells, h.nonempty, ?_⟩
    rw [sofar, keyed_append, keyFollows_of_passedOver fun u hu => (h.waiting u hu).1]
    exact ⟨h.settled (by simp [hm, deciding]) false, keyed_waiting h.waiting⟩
  all_goals
    have hm' : s.mode ≠ .idle := by simp [hm]
    dsimp only
    rw [hsofar]
  -- an unclosed string, comment or slash ends as an error, blanks and a line comment as they are
  case quoted =>
    exact h.close hm' .error (by simp [hm, deciding]) fun hd => ⟨rfl, hstray hd hm'⟩
  case blank => exact h.close hm' .whitespace (by simp [hm, deciding]) fun _ => ⟨rfl, rfl⟩
  case constant => exact h.close hm' .keywordConstant (fun _ => rfl) (by simp [hm, deciding])
  case number float =>
    cases float
    · exact h.close hm' .numberInteger (fun _ => rfl) (by simp [hm, deciding])
    · exact h.close hm' .numberFloat (fun _ => rfl) (by simp [hm, deciding])
  case punct => exact h.close hm' .punctuation (fun _ => rfl) (by simp [hm, deciding])
  case lineComment =>
    exact h.close hm' .commentSingle (by simp [hm, deciding]) fun _ => ⟨rfl, rfl⟩
  case blockComment =>
    exact h.close hm' .error (by simp [hm, deciding]) fun hd => ⟨rfl, hstray hd hm'⟩
  case slash => exact h.close hm' .error (by simp [hm, deciding]) fun hd => ⟨rfl, hstray hd hm'⟩

theorem inv_foldl (text : Array Char) (rest : List Char) :
    ∀ (i : Nat) (s : JsonScan), Inv text i s → text.toList.drop i = rest →
      Inv text text.size (rest.foldl (fun p c => (p.1 + 1, p.2.step text p.1 c)) (i, s)).2 := by
  induction rest with
  | nil =>
    intro i s h hdrop
    have hle : text.size ≤ i := by simpa using List.drop_eq_nil_iff.mp hdrop
    have heq : i = text.size := Nat.le_antisymm h.bounded hle
    subst heq
    exact h
  | cons c rest ih =>
    intro i s h hdrop
    have hc : text.toList[i]? = some c := by rw [← List.head?_drop, hdrop]; rfl
    refine ih (i + 1) _ (h.step hc) ?_
    rw [← List.drop_drop, hdrop, List.drop_one, List.tail_cons]

end JsonScan

theorem jsonTokens_eq (text : Array Char) :
    jsonTokens text =
      (text.toList.foldl (fun p c => (p.1 + 1, p.2.step text p.1 c)) (0, ({} : JsonScan))).2.finish
        text := by
  rw [jsonTokens, ← Array.foldl_toList]

/-- The JSON scanner's tokens spell the text, each starting where the one before it ends, so
that their offsets increase; and a string is a key exactly when the first token after it that
is not a blank, a comment or a string starts with a colon. -/
theorem jsonTokens_keys (text : Array Char) :
    ExactFrom 0 (jsonTokens text) ∧ chars (jsonTokens text) = text.toList ∧
      (jsonTokens text).Pairwise (fun a b => a.start < b.start) ∧
      ∀ before t after, jsonTokens text = before ++ t :: after → t.isString = true →
        (t.kind = .nameTag ↔ keyFollows after false = true) := by
  have hinv := JsonScan.inv_foldl text text.toList 0 {} (JsonScan.inv_initial text) rfl
  obtain ⟨hexact, hspells, hne, hkeyed⟩ := hinv.finish
  rw [← jsonTokens_eq] at hexact hspells hne hkeyed
  refine ⟨hexact, hspells, hexact.pairwise_start_lt hne, fun before t after heq hs => ?_⟩
  rw [heq] at hkeyed
  exact hkeyed.split before hs

-- A quote does not empty the queue: both strings before the colon are keys.
example : (jsonTokens "\"a\" \"b\":".toList.toArray).map (·.kind) =
    [.nameTag, .whitespace, .nameTag, .punctuation] := by
  decide

end Lexers

end Highlight
