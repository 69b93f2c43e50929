import Highlight.Pattern.Syntax
import Highlight.Chars.Word
import Highlight.Chars.Decimal
import Highlight.Chars.Blank
import Highlight.Chars.Lower

/-!
# Matching patterns

`Compiled.matchAt` tries a pattern at one position of a text and returns the first match that
backtracking finds: branches are tried from left to right, a greedy repetition tries its
longest count first and a lazy one its shortest, and the first way to reach the end of the
pattern wins. Nothing is searched for: the match starts where it is asked to.

The search is a machine with two stacks. The goals (`Goal`) are what is left to match, in
order; the choices (`Choice`) are the places to come back to when a goal fails, each with
the position, the group spans and the goals it resumes with. A repetition that can match
nothing stops after an iteration that did not move (`Goal.again` remembers where the last
iteration started). Look-around and atomic groups are matched by a run of their own, whose
first success is kept and whose other choices are dropped.

Every step spends one unit of fuel, and `Outcome.exhausted` says that the fuel ran out.
-/

set_option autoImplicit false

namespace Highlight.Pattern

/-- For each group number, the span it matched last, if it has matched. -/
abbrev Spans := Array (Option (Nat × Nat))

/-- The text a pattern runs over, and where it ends for the pattern. -/
structure Subject where
  /-- The characters. -/
  text : Array Char
  /-- The offset the pattern may not look past. -/
  stop : Nat

/-- The lower-case form that case-blind comparison uses. -/
def foldCase (c : Char) : Char := Chars.lower c

namespace Category

/-- Whether a character is in the category. -/
def test : Category → Char → Bool
  | .digit, c => Chars.isDecimalDigit c
  | .word, c => Chars.isWordChar c
  | .blank, c => Chars.isBlank c

end Category

namespace ClassItem

/-- Whether a character is a member. -/
def test (item : ClassItem) (c : Char) : Bool :=
  match item with
  | .single x => c.toNat == x
  | .range lo hi => lo ≤ c.toNat && c.toNat ≤ hi
  | .category cat negated => cat.test c != negated

/-- Whether some member has the lower-case form `y`, where `y` is already lower case. -/
def testFolded (item : ClassItem) (y : Char) : Bool :=
  match item with
  | .single x => (foldCase (Char.ofNat x)) == y
  | .range lo hi =>
    (lo ≤ y.toNat && y.toNat ≤ hi) ||
      (Chars.lowerPreimage y.toNat).any (fun x => lo ≤ x && x ≤ hi)
  | .category cat negated => cat.test y != negated

end ClassItem

namespace CharClass

/-- Whether a character is in the class; with `fold`, whether its lower-case form is the
lower-case form of a member. -/
def test (cls : CharClass) (fold : Bool) (c : Char) : Bool :=
  let hit :=
    if fold then
      let y := foldCase c
      cls.items.any (·.testFolded y)
    else cls.items.any (·.test c)
  hit != cls.negated

end CharClass

namespace Subject

/-- The character at offset `i`, if it is before the stop. -/
def at? (s : Subject) (i : Nat) : Option Char :=
  if i < s.stop then s.text[i]? else none

/-- Whether the character before offset `i` is a word character. -/
def wordBefore (s : Subject) (i : Nat) : Bool :=
  match i with
  | 0 => false
  | j + 1 => ((s.at? j).map Chars.isWordChar).getD false

/-- Whether the character at offset `i` is a word character. -/
def wordAt (s : Subject) (i : Nat) : Bool :=
  ((s.at? i).map Chars.isWordChar).getD false

/-- Whether an anchor holds at offset `i`. -/
def anchorHolds (s : Subject) (a : Anchor) (i : Nat) : Bool :=
  match a with
  | .textStart => i == 0
  | .lineStart => i == 0 || s.text[i - 1]? == some '\n'
  | .textEnd => i == s.stop
  | .textEndOrLastNewline => i == s.stop || (i + 1 == s.stop && s.at? i == some '\n')
  | .lineEnd => i == s.stop || s.at? i == some '\n'
  | .wordBoundary => s.stop != 0 && s.wordBefore i != s.wordAt i
  | .notWordBoundary => s.stop != 0 && s.wordBefore i == s.wordAt i

/-- Whether `n` matches the one character at offset `i`; `none` when `n` is not a node that
always matches exactly one character. -/
def single? (s : Subject) (n : Node) (i : Nat) : Option Bool :=
  match n with
  | .char c fold =>
    some (match s.at? i with
      | some d => if fold then foldCase d == foldCase c else d == c
      | none => false)
  | .set cls fold => some (((s.at? i).map (cls.test fold)).getD false)
  | .any dotAll => some (match s.at? i with
      | some d => dotAll || d != '\n'
      | none => false)
  | .seq [inner] =>
    match inner with
    | .char _ _ | .set _ _ | .any _ => s.single? inner i
    | _ => none
  | _ => none

/-- Whether `n` is a node that always matches exactly one character. -/
def isSingle (n : Node) : Bool :=
  match n with
  | .char _ _ | .set _ _ | .any _ => true
  | .seq [inner] => match inner with
    | .char _ _ | .set _ _ | .any _ => true
    | _ => false
  | _ => false

/-- How many characters from offset `i` on match the one-character node `n`, at most `limit`. -/
def countSingles (s : Subject) (n : Node) (i : Nat) : Nat → Nat
  | 0 => 0
  | limit + 1 =>
    if s.single? n i == some true then countSingles s n (i + 1) limit + 1 else 0

/-- Whether the text from offset `i` repeats the span `a` to `b`, with `fold` by lower-case
form. -/
def repeatsAt (s : Subject) (a b i : Nat) (fold : Bool) : Bool :=
  (b - a) + i ≤ s.stop &&
    (List.range (b - a)).all fun k =>
      match s.text[a + k]?, s.text[i + k]? with
      | some x, some y => if fold then foldCase x == foldCase y else x == y
      | _, _ => false

end Subject

/-- What is left to match. -/
inductive Goal
  /-- Match a node. -/
  | node (n : Node)
  /-- Record that group `index`, opened at `start`, ends here. -/
  | close (index start : Nat)
  /-- A repetition after `count` iterations, the last of which started at `last`. -/
  | again (min : Nat) (max : Option Nat) (lazy : Bool) (body : Node) (count : Nat)
      (last : Option Nat)

/-- A state of the search: position, spans and goals. -/
structure Thread where
  pos : Nat
  spans : Spans
  goals : List Goal

/-- A place to come back to. -/
inductive Choice
  /-- Resume this thread. -/
  | thread (t : Thread)
  /-- Try these branches in turn, each followed by the goals. -/
  | branches (alts : List Node) (pos : Nat) (spans : Spans) (goals : List Goal)
  /-- A greedy repetition of a one-character node from `start` that has taken `count`
  characters: give one back, down to `min`. -/
  | fewer (item : Node) (min start count : Nat) (spans : Spans) (goals : List Goal)
  /-- A lazy repetition of a one-character node that has taken `count` characters up to
  `pos`: take one more, up to `max`. -/
  | more (item : Node) (max : Option Nat) (pos count : Nat) (spans : Spans) (goals : List Goal)

/-- How a run ends. -/
inductive Outcome
  /-- The goals were all met, ending at `pos` with these spans. -/
  | matched (pos : Nat) (spans : Spans)
  /-- No way through. -/
  | failed
  /-- The fuel ran out. -/
  | exhausted
  deriving Inhabited

/-- Whether `count` is below an optional bound. -/
def belowMax (count : Nat) (max : Option Nat) : Bool :=
  match max with
  | none => true
  | some m => count < m

/-- The thread to go on with when the search comes back () to its choices, and the choices that
remain. -/
def resume (s : Subject) : List Choice → Option (Thread × List Choice)
  | [] => none
  | .thread t :: rest => some (t, rest)
  | .branches [] _ _ _ :: rest => resume s rest
  | .branches (b :: bs) pos spans goals :: rest =>
    let rest' := if bs.isEmpty then rest else .branches bs pos spans goals :: rest
    some (⟨pos, spans, .node b :: goals⟩, rest')
  | .fewer item min start count spans goals :: rest =>
    if count > min then
      let count' := count - 1
      let rest' := if count' > min then .fewer item min start count' spans goals :: rest else rest
      some (⟨start + count', spans, goals⟩, rest')
    else resume s rest
  | .more item max pos count spans goals :: rest =>
    if belowMax count max && s.single? item pos == some true then
      some (⟨pos + 1, spans, goals⟩, .more item max (pos + 1) (count + 1) spans goals :: rest)
    else resume s rest

/-- Run the search with `fuel` steps, from a thread and its choices. -/
def search (s : Subject) : Nat → Thread → List Choice → Outcome
  | 0, _, _ => .exhausted
  | fuel + 1, t, choices =>
    let back := fun (_ : Unit) =>
      match resume s choices with
      | none => Outcome.failed
      | some (t', cs) => search s fuel t' cs
    let pos := t.pos
    match t.goals with
    | [] => .matched pos t.spans
    | .close index start :: rest =>
      search s fuel ⟨pos, t.spans.modify index (fun _ => some (start, pos)), rest⟩ choices
    | .again min max lazy body count last :: rest =>
      let more := Goal.again min max lazy body (count + 1)
      if count < min then
        search s fuel ⟨pos, t.spans, .node body :: more last :: rest⟩ choices
      else
        let canIterate := belowMax count max && last != some pos
        if lazy then
          let choices' :=
            if canIterate then .thread ⟨pos, t.spans, .node body :: more (some pos) :: rest⟩ :: choices
            else choices
          search s fuel ⟨pos, t.spans, rest⟩ choices'
        else if canIterate then
          search s fuel ⟨pos, t.spans, .node body :: more (some pos) :: rest⟩
            (.thread ⟨pos, t.spans, rest⟩ :: choices)
        else search s fuel ⟨pos, t.spans, rest⟩ choices
    | .node n :: rest =>
      match n with
      | .empty => search s fuel ⟨pos, t.spans, rest⟩ choices
      | .char _ _ | .set _ _ | .any _ =>
        if s.single? n pos == some true then search s fuel ⟨pos + 1, t.spans, rest⟩ choices
        else back ()
      | .seq items => search s fuel ⟨pos, t.spans, items.map .node ++ rest⟩ choices
      | .alt [] => back ()
      | .alt (b :: bs) =>
        let choices' := if bs.isEmpty then choices else .branches bs pos t.spans rest :: choices
        search s fuel ⟨pos, t.spans, .node b :: rest⟩ choices'
      | .group index body =>
        search s fuel ⟨pos, t.spans, .node body :: .close index pos :: rest⟩ choices
      | .many min max greed body =>
        if Subject.isSingle body then
          match greed with
          | .lazy =>
            let got := s.countSingles body pos min
            if got < min then back ()
            else
              search s fuel ⟨pos + min, t.spans, rest⟩
                (.more body max (pos + min) min t.spans rest :: choices)
          | _ =>
            let limit := (max.getD (s.stop - pos)).min (s.stop - pos)
            let got := s.countSingles body pos limit
            if got < min then back ()
            else
              let choices' :=
                if got > min && greed == .greedy then
                  .fewer body min pos got t.spans rest :: choices
                else choices
              search s fuel ⟨pos + got, t.spans, rest⟩ choices'
        else
          match greed with
          | .possessive =>
            match search s fuel ⟨pos, t.spans, [.node (.many min max .greedy body)]⟩ [] with
            | .matched p sp => search s fuel ⟨p, sp, rest⟩ choices
            | .failed => back ()
            | .exhausted => .exhausted
          | .greedy => search s fuel ⟨pos, t.spans, .again min max false body 0 none :: rest⟩ choices
          | .lazy => search s fuel ⟨pos, t.spans, .again min max true body 0 none :: rest⟩ choices
      | .backref index fold =>
        match t.spans[index]? with
        | some (some (a, b)) =>
          if s.repeatsAt a b pos fold then search s fuel ⟨pos + (b - a), t.spans, rest⟩ choices
          else back ()
        | _ => back ()
      | .look behind negated width body =>
        if behind && pos < width then
          if negated then search s fuel ⟨pos, t.spans, rest⟩ choices else back ()
        else
          let from_ := if behind then pos - width else pos
          match search s fuel ⟨from_, t.spans, [.node body]⟩ [] with
          | .matched _ sp =>
            if negated then back () else search s fuel ⟨pos, sp, rest⟩ choices
          | .failed => if negated then search s fuel ⟨pos, t.spans, rest⟩ choices else back ()
          | .exhausted => .exhausted
      | .atomic body =>
        match search s fuel ⟨pos, t.spans, [.node body]⟩ [] with
        | .matched p sp => search s fuel ⟨p, sp, rest⟩ choices
        | .failed => back ()
        | .exhausted => .exhausted
      | .cond index yes no =>
        let taken := match t.spans[index]? with
          | some (some _) => yes
          | _ => no
        search s fuel ⟨pos, t.spans, .node taken :: rest⟩ choices
      | .anchor a =>
        if s.anchorHolds a pos then search s fuel ⟨pos, t.spans, rest⟩ choices else back ()

/-- A successful match: where it starts and ends, and the span of each group. -/
structure Found where
  /-- Where the match starts. -/
  start : Nat
  /-- Where the match ends. -/
  stop : Nat
  /-- The span of each group, by number; number zero is the whole match. -/
  spans : Spans
  /-- The numbers of the named groups. -/
  names : List (String × Nat)
  deriving Inhabited

namespace Found

/-- The span of group `i`, if it matched. -/
def span? (m : Found) (i : Nat) : Option (Nat × Nat) :=
  if i == 0 then some (m.start, m.stop) else (m.spans[i]?).getD none

end Found

/-- The steps one match may take. -/
def matchFuel : Nat := 50000000

namespace Compiled

/-- The first match of the pattern that starts at `pos`, looking no further than `stop`. -/
def matchAt (c : Compiled) (text : Array Char) (pos stop : Nat) : Option Found :=
  let s : Subject := ⟨text, stop⟩
  let spans : Spans := Array.replicate (c.groups + 1) none
  match search s matchFuel ⟨pos, spans, [.node c.root]⟩ [] with
  | .matched e sp => some ⟨pos, e, sp, c.names⟩
  | _ => none

end Compiled

end Highlight.Pattern
