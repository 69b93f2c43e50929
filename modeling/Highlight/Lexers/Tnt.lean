import Highlight.Lexers.Lines

/-!
# Typographic Number Theory

A derivation in Typographic Number Theory is a list of lines: a line number, a formula, the
rule that proves it and perhaps the lines it refers to, or a comment in brackets. The
scanner reads each part with a small recursive reader (`tntFormula`, `tntTerm`, …); a
reader fails when the text is not well formed (`TntFault.malformed`) or ends too early
(`TntFault.pastEnd`).

When a part fails, the tokens it read are taken back and the rest of its line is an error.
A failure past the end of the text takes back the tokens from the last point the scanner
marked, which may lie before the part that failed.
-/

set_option autoImplicit false

namespace Highlight.Lexers

/-- Why a reader of Typographic Number Theory stopped. -/
inductive TntFault
  /-- The text is not well formed here. -/
  | malformed
  /-- The text ended where a character was needed. -/
  | pastEnd
  deriving BEq, Repr

/-- What a reader gives: the offset after what it read, and the tokens so far. -/
abbrev TntRead := Except TntFault (Nat × Array Token)

/-- The character at an offset, or a fault past the end. -/
def tntAt (text : Array Char) (i : Nat) : Except TntFault Char :=
  match text[i]? with
  | some c => .ok c
  | none => .error .pastEnd

/-- The text from `a` to `b`. -/
def tntSlice (text : Array Char) (a b : Nat) : String := String.ofList (text.extract a b).toList

def tntBlank (c : Char) : Bool := c == '\t' || c == ' ' || c == '\x0b' || c == '\n'

/-- The offset after the run of characters from `i` on that `p` holds; the end of the text
ends the run. -/
def tntRun (text : Array Char) (p : Char → Bool) (i : Nat) : Nat :=
  i + ((text.extract i text.size).toList.takeWhile p).length

/-- The offset after the run of characters from `i` on that `p` holds, or a fault when the
text ends first. -/
def tntRunStrict (text : Array Char) (p : Char → Bool) (i : Nat) : Except TntFault Nat :=
  let e := tntRun text p i
  if e < text.size then .ok e else .error .pastEnd

/-- Blanks from `start` on, as one token if there are any; when `required`, there must be
one. -/
def tntBlanks (text : Array Char) (start : Nat) (cur : Array Token) (required : Bool := false) : TntRead :=
  let e := tntRun text tntBlank start
  if required && e == start then .error .malformed
  else .ok (e, if e != start then cur.push ⟨start, .text, tntSlice text start e⟩ else cur)

/-- A variable: a letter from `a` to `e`, then primes. -/
def tntVariable (text : Array Char) (start : Nat) (cur : Array Token) : TntRead := do
  let c ← tntAt text start
  if !"abcde".toList.contains c then throw .malformed
  let e ← tntRunStrict text (fun c => c == '\'' || c == '′') (start + 1)
  return (e, cur.push ⟨start, .nameVariable, tntSlice text start e⟩)

/-- A term: successors of a term, zero, a variable, or a sum or product in parentheses;
`fuel` bounds the nesting. -/
def tntTerm (text : Array Char) : Nat → Nat → Array Token → TntRead
  | 0, _, _ => .error .malformed
  | fuel + 1, start, cur => do
    let c ← tntAt text start
    if c == 'S' then
      let e ← tntRunStrict text (· == 'S') (start + 1)
      tntTerm text fuel e (cur.push ⟨start, .numberInteger, tntSlice text start e⟩)
    else if c == '0' then return (start + 1, cur.push ⟨start, .numberInteger, "0"⟩)
    else if "abcde".toList.contains c then tntVariable text start cur
    else if c == '(' then
      let (i, cur) ← tntTerm text fuel (start + 1) (cur.push ⟨start, .punctuation, "("⟩)
      let op ← tntAt text i
      if !"+.⋅*".toList.contains op then throw .malformed
      let (j, cur) ← tntTerm text fuel (i + 1) (cur.push ⟨i, .operator, String.singleton op⟩)
      let close ← tntAt text j
      if close != ')' then throw .malformed
      return (j + 1, cur.push ⟨j, .punctuation, ")"⟩)
    else throw .malformed

/-- A formula: a negation, a quantified formula, two formulas joined in angle brackets, or
an equation of two terms; `fuel` bounds the nesting. -/
def tntFormula (text : Array Char) : Nat → Nat → Array Token → TntRead
  | 0, _, _ => .error .malformed
  | fuel + 1, start, cur => do
    let c ← tntAt text start
    if c == '~' || c == '!' then
      let e ← tntRunStrict text (fun c => c == '~' || c == '!') (start + 1)
      tntFormula text fuel e (cur.push ⟨start, .operator, tntSlice text start e⟩)
    else if "AE∀∃".toList.contains c then
      let (i, cur) ← tntVariable text (start + 1) (cur.push ⟨start, .keywordDeclaration, String.singleton c⟩)
      let colon ← tntAt text i
      if colon != ':' then throw .malformed
      tntFormula text fuel (i + 1) (cur.push ⟨i, .punctuation, ":"⟩)
    else if c == '<' then
      let (i, cur) ← tntFormula text fuel (start + 1) (cur.push ⟨start, .punctuation, "<"⟩)
      let op ← tntAt text i
      if !"⊃→]&∧^|∨Vv".toList.contains op then throw .malformed
      let (j, cur) ← tntFormula text fuel (i + 1) (cur.push ⟨i, .operator, String.singleton op⟩)
      let close ← tntAt text j
      if close != '>' then throw .malformed
      return (j + 1, cur.push ⟨j, .punctuation, ">"⟩)
    else
      let (i, cur) ← tntTerm text fuel start cur
      let eq ← tntAt text i
      if eq != '=' then throw .malformed
      tntTerm text fuel (i + 1) (cur.push ⟨i, .operator, "="⟩)

/-- The rules of the language, and the line numbers some of them carry. -/
def tntRules : Pattern.Compiled :=
  pattern (r"(?xi) joining | separation | double-tilde | fantasy\ rule" ++
    r" | carry[- ]over(?:\ of)?(?:\ line)?\ ([0-9]+) | detachment" ++
    r" | contrapositive | De\ Morgan | switcheroo | specification | generalization | interchange" ++
    r" | existence | symmetry | transitivity | add\ S | drop\ S | induction" ++
    r" | axiom\ ([1-5]) | premise | push | pop")

/-- A list of line numbers. -/
def tntLineNumbers : Pattern.Compiled := pattern r"(?:[0-9]+)(?:(?:, ?|,? and )(?:[0-9]+))*"

/-- A comment in brackets. -/
def tntComment : Pattern.Compiled := pattern r"\[[^\n\]]+\]"

/-- The rule that proves a formula, with the line number it carries as a number. -/
def tntRule (text : Array Char) (start : Nat) (cur : Array Token) : TntRead :=
  match tntRules.matchAt text start text.size with
  | none => .error .malformed
  | some m =>
    -- the two numbered groups stand in different rules, so at most one of them matched
    match [m.span? 1, m.span? 2].findSome? id with
    | some (a, b) =>
      let cur := (cur.push ⟨start, .keyword, tntSlice text start a⟩).push ⟨a, .numberInteger, tntSlice text a b⟩
      .ok (m.stop, if b != m.stop then cur.push ⟨b, .keyword, tntSlice text b m.stop⟩ else cur)
    | none => .ok (m.stop, cur.push ⟨start, .keyword, tntSlice text start m.stop⟩)

/-- The lines a rule refers to, in parentheses after words. -/
def tntReferences (text : Array Char) (start : Nat) (cur : Array Token) : TntRead := do
  let e ← tntRunStrict text (fun c => !c.isDigit) start
  let opener ← tntAt text start
  let cur := (cur.push ⟨start, .punctuation, String.singleton opener⟩).push
    ⟨start + 1, .text, tntSlice text (start + 1) e⟩
  match tntLineNumbers.matchAt text e text.size with
  | none => throw .malformed
  | some m =>
    let close ← tntAt text m.stop
    if close != ')' then throw .malformed
    return (m.stop + 1, (cur.push ⟨m.start, .numberInteger, tntSlice text m.start m.stop⟩).push
      ⟨m.stop, .punctuation, ")"⟩)

/-- The rest of a line as an error, and the blanks after it. -/
def tntErrorLine (text : Array Char) (start : Nat) (cur : Array Token) : Nat × Array Token :=
  let e := tntRun text (· != '\n') start
  let cur := if e != start then cur.push ⟨start, .error, tntSlice text start e⟩ else cur
  match tntBlanks text e cur with
  | .ok r => r
  | .error _ => (e, cur)

/-- Where the scanner of a derivation stands: the offsets `start` and `stop` of its
reading, the tokens so far, and the number of tokens to keep when a reading fails past the
end of the text (the last mark taken). -/
structure TntScan where
  start : Nat
  stop : Nat
  cur : Array Token
  mark : Option Nat := none

/-- How a part of a line went: on to the next part, the line done, or the text ended where
a character was needed. -/
inductive TntFlow
  | go (s : TntScan)
  | done (s : TntScan)
  | pastEnd (s : TntScan)

/-- Go on with the next part when the part before went on. -/
def TntFlow.andThen (r : TntFlow) (f : TntScan → TntFlow) : TntFlow :=
  match r with
  | .go s => f s
  | r => r

/-- The scanner at an offset, with these tokens. -/
def TntScan.at (s : TntScan) (i : Nat) (cur : Array Token) : TntScan := { s with start := i, stop := i, cur := cur }

/-- The tokens up to a mark. -/
def tntKeep (cur : Array Token) (mark : Nat) : Array Token := cur.extract 0 mark

/-- A part read by `r` after a mark: on success the scanner goes on after it, when the text
is not well formed the line is done with the rest of it as an error from `errorFrom`. -/
def tntPart (text : Array Char) (s : TntScan) (r : Array Token → TntRead) (errorFrom : Nat) : TntFlow :=
  let mark := s.cur.size
  let s := { s with mark := some mark }
  match r s.cur with
  | .ok (e, cur) => .go (s.at e cur)
  | .error .malformed =>
    let (e, cur) := tntErrorLine text errorFrom (tntKeep s.cur mark)
    .done (s.at e cur)
  | .error .pastEnd => .pastEnd s

/-- One line of a derivation: its number, then a comment, or a formula, the rule that
proves it and the lines it refers to. -/
def tntLine (text : Array Char) (s : TntScan) : TntFlow :=
  let depth := text.size + 1
  -- the line number
  let e0 := tntRun text Char.isDigit s.stop
  if e0 ≥ text.size then .pastEnd { s with stop := e0 } else
  let numbered : TntFlow :=
    if e0 != s.start then
      let cur := s.cur.push ⟨s.start, .numberInteger, tntSlice text s.start e0⟩
      let s := { s with stop := e0, cur := cur }
      tntPart text s (tntBlanks text e0 · true) e0
    else .go { s with stop := e0 }
  numbered.andThen fun s =>
  -- a comment
  match tntComment.matchAt text s.start text.size with
  | some m =>
    let (e, cur) := tntErrorLine text m.stop (s.cur.push ⟨s.start, .comment, tntSlice text s.start m.stop⟩)
    .done (s.at e cur)
  | none =>
  match text[s.start]? with
  | none => .pastEnd s
  | some c =>
  let formula : TntFlow :=
    if c == '[' || c == ']' then
      .go { s with start := s.start + 1, stop := s.stop + 1,
                   cur := s.cur.push ⟨s.start, .keyword, String.singleton c⟩ }
    else
      let mark := s.cur.size
      let s := { s with mark := some mark }
      match tntFormula text depth s.start s.cur with
      | .ok (e, cur) => .go (s.at e cur)
      | .error .pastEnd => .pastEnd s
      | .error .malformed =>
        let e := tntRun text (fun c => !tntBlank c) s.stop
        if e ≥ text.size then .pastEnd { s with stop := e, cur := tntKeep s.cur mark }
        else .go (s.at e ((tntKeep s.cur mark).push ⟨s.start, .error, tntSlice text s.start e⟩))
  formula.andThen fun s =>
  (tntPart text s (tntBlanks text s.stop · true) s.start).andThen fun s =>
  (tntPart text s (tntRule text s.start ·) s.start).andThen fun s =>
  match tntBlanks text s.stop s.cur with
  | .error _ => .done s
  | .ok (e, cur) =>
  let s := s.at e cur
  match text[s.start]? with
  | none => .pastEnd s
  | some '(' =>
    (tntPart text s (tntReferences text s.start ·) s.start).andThen fun s =>
      match tntBlanks text s.start s.cur with
      | .ok (e, cur) => .done (s.at e cur)
      | .error _ => .done s
  | some _ => .done s

/-- The tokens to keep when a reading failed past the end of the text: those up to the last
mark taken. -/
def TntScan.kept (s : TntScan) : Array Token :=
  match s.mark with
  | some m => tntKeep s.cur m
  | none => s.cur

/-- One pass of the loop over the lines of a derivation, or none when the scanner has reached
the end of the text. A pass that fails past the end of the text reports the rest of the line as
an error but leaves the scanner where it stood. -/
def tntStep (text : Array Char) (s : TntScan) : Option TntScan :=
  if s.start ≤ s.stop && s.stop < text.size then
    some (match tntLine text s with
      | .go s | .done s => s
      | .pastEnd s => { s with cur := (tntErrorLine text s.start s.kept).2 })
  else none

/-- The lines of a derivation from where the scanner stands; `fuel` bounds the passes. -/
def tntLines (text : Array Char) : Nat → TntScan → Array Token
  | 0, s => s.cur
  | fuel + 1, s =>
    match tntStep text s with
    | some s' => tntLines text fuel s'
    | none => s.cur

/-- Typographic Number Theory. -/
def tntScanner : Scanner :=
  .plain fun _ text _ =>
    match tntBlanks text 0 #[] with
    | .ok (e, cur) => (tntLines text (2 * text.size + 4) ⟨e, e, cur, none⟩).toList
    | .error _ => []

theorem tntBlanks_ok (text : Array Char) (start : Nat) (cur : Array Token) :
    ∃ r, tntBlanks text start cur = .ok r := by
  simp [tntBlanks]

end Highlight.Lexers
