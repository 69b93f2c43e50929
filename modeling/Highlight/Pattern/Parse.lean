import Highlight.Pattern.Syntax

/-!
# Reading patterns

`Pattern.read` turns the text of a pattern into a `Compiled` tree, or into a `PatternError`
that says what is wrong and where. The reader makes one pass from left to right. It keeps a
stack of the groups that are still open (`Frame`); each frame holds the branches it has
finished and the items of the branch it is reading. A quantifier replaces the last item of
the current branch. A closing parenthesis turns the innermost frame into one node and adds
it to the frame below.

The flags in force (`Flags`) travel with the reader: a scoped group `(?i:…)` changes them
until its closing parenthesis, and flags written at the very start of the pattern change
them for the whole pattern. Literals, dots and anchors take the flags in force where they
are read.
-/

set_option autoImplicit false

namespace Highlight.Pattern

/-- The switches that change how a pattern is read. -/
structure Flags where
  /-- Letters match regardless of case. -/
  ignoreCase : Bool := false
  /-- `^` and `$` match at every line, not only at the ends of the text. -/
  multiline : Bool := false
  /-- `.` matches a newline too. -/
  dotAll : Bool := false
  /-- Blanks and `#` comments outside classes are not part of the pattern. -/
  verbose : Bool := false
  deriving Repr, Inhabited, BEq

/-- What is wrong with a pattern, and at which character when that is known. -/
structure PatternError where
  /-- What is wrong. -/
  message : String
  /-- The offset, in characters, where it was found. -/
  position : Option Nat := none
  deriving Repr, Inhabited, BEq

namespace PatternError

/-- The text of an error about `source`: the message, the position, and when the pattern has
more than one line, the line and column of that position. -/
def render (err : PatternError) (source : String) : String :=
  match err.position with
  | none => err.message
  | some p =>
    let before := (source.toList.take p)
    let line := before.count '\n' + 1
    let column := (before.reverse.takeWhile (· != '\n')).length + 1
    let base := err.message ++ " at position " ++ toString p
    if source.toList.contains '\n' then
      base ++ " (line " ++ toString line ++ ", column " ++ toString column ++ ")"
    else base

end PatternError

/-- How many characters a node matches: at least the first number, at most the second
(`none`: no bound). -/
abbrev Width := Nat × Option Nat

namespace Width

/-- The width of two nodes one after another. -/
def add (a b : Width) : Width :=
  (a.1 + b.1, match a.2, b.2 with
    | some x, some y => some (x + y)
    | _, _ => none)

/-- The width of a choice between two nodes. -/
def either (a b : Width) : Width :=
  (min a.1 b.1, match a.2, b.2 with
    | some x, some y => some (max x y)
    | _, _ => none)

/-- The width of `min` to `max` repetitions of a node of width `w`. -/
def repeated (w : Width) (min : Nat) (max : Option Nat) : Width :=
  (w.1 * min, match w.2, max with
    | some j, some m => some (j * m)
    | some 0, none => some 0
    | none, some 0 => some 0
    | _, _ => none)

end Width

mutual
/-- The width of a node; `group` gives the width of each numbered group. -/
def Node.width (group : Nat → Width) : Node → Width
  | .empty => (0, some 0)
  | .char _ _ => (1, some 1)
  | .set _ _ => (1, some 1)
  | .any _ => (1, some 1)
  | .seq items => Node.widthSeq group items
  | .alt branches => Node.widthAlt group branches
  | .group _ body => body.width group
  | .many min max _ body => (body.width group).repeated min max
  | .backref index _ => group index
  | .look _ _ _ _ => (0, some 0)
  | .atomic body => body.width group
  | .cond _ yes no => (yes.width group).either (no.width group)
  | .anchor _ => (0, some 0)

/-- The width of nodes one after another. -/
def Node.widthSeq (group : Nat → Width) : List Node → Width
  | [] => (0, some 0)
  | n :: rest => (n.width group).add (Node.widthSeq group rest)

/-- The width of a choice between branches. -/
def Node.widthAlt (group : Nat → Width) : List Node → Width
  | [] => (0, some 0)
  | [n] => n.width group
  | n :: rest => (n.width group).either (Node.widthAlt group rest)
end

/-- What an open parenthesis started. -/
inductive Opener
  /-- A capturing group with its number. -/
  | capture (index : Nat)
  /-- A group that only groups, perhaps with flags of its own. -/
  | plain
  /-- A look-ahead or look-behind. -/
  | look (behind negated : Bool)
  /-- An atomic group. -/
  | atomic
  /-- A conditional on a group number. -/
  | cond (index : Nat)
  deriving Repr, Inhabited

/-- An open group: what opened it, where, the flags outside it, the branches it has finished
(last first) and the items of its current branch (last first). -/
structure Frame where
  opener : Opener
  start : Nat
  outer : Flags
  done : List (List Node)
  items : List Node
  deriving Inhabited

/-- The reader's state: the pattern, the offset of the next character, the flags in force,
the open groups (innermost first, the whole pattern last) and what it knows of groups. -/
structure Reader where
  text : Array Char
  pos : Nat
  flags : Flags
  frames : List Frame
  /-- The number of groups opened so far. -/
  opened : Nat
  /-- The width of each group that is closed. -/
  closed : List (Nat × Width)
  names : List (String × Nat)
  /-- Group numbers named by conditionals, with where they were named. -/
  condRefs : List (Nat × Nat)
  /-- Whether some look-behind has no fixed width. -/
  unevenBehind : Bool
  deriving Inhabited

/-- The result of one step of reading: go on, or the pattern is done. -/
inductive Step
  | next (r : Reader)
  | finished (c : Compiled)

section Chars

/-- Whether `c` is an ASCII hexadecimal digit. -/
def isHexDigit (c : Char) : Bool :=
  c.isDigit || ('a' ≤ c && c ≤ 'f') || ('A' ≤ c && c ≤ 'F')

def isOctDigit (c : Char) : Bool := '0' ≤ c && c ≤ '7'

def isAsciiLetter (c : Char) : Bool := ('a' ≤ c && c ≤ 'z') || ('A' ≤ c && c ≤ 'Z')

/-- The blanks that verbose patterns skip. -/
def isVerboseBlank (c : Char) : Bool :=
  c == ' ' || c == '\t' || c == '\n' || c == '\r' || c == '\x0b' || c == '\x0c'

/-- The value of a digit in base 16 (also right for bases 8 and 10). -/
def digitValue (c : Char) : Nat :=
  if c.isDigit then c.toNat - '0'.toNat
  else if 'a' ≤ c && c ≤ 'f' then c.toNat - 'a'.toNat + 10
  else c.toNat - 'A'.toNat + 10

/-- The number written by `digits` in `base`. -/
def numberIn (base : Nat) (digits : List Char) : Nat :=
  digits.foldl (fun acc c => acc * base + digitValue c) 0

/-- Whether `s` is a name in the sense of identifiers: a letter or `_`, then letters, digits
or `_`. -/
def isGroupName (s : List Char) : Bool :=
  match s with
  | [] => false
  | c :: rest =>
    (c.isAlpha || c == '_' || c.toNat > 127) &&
      rest.all (fun d => d.isAlphanum || d == '_' || d.toNat > 127)

end Chars

/-- The characters of `text` from `start`, as long as `ok` holds, at most `n` of them. -/
def takeWhileAt (text : Array Char) (start n : Nat) (ok : Char → Bool) : List Char :=
  ((text.extract start (start + n)).toList).takeWhile ok

/-- The text of `chars` with a backslash in front. -/
def backslashed (chars : List Char) : String := String.ofList ('\\' :: chars)

namespace Reader

/-- The character at offset `i`, if any. -/
def at? (r : Reader) (i : Nat) : Option Char := r.text[i]?

/-- Fail with `message` at offset `p`. -/
def fail {α : Type} (message : String) (p : Nat) : Except PatternError α :=
  .error { message := message, position := some p }

/-- Add a node to the current branch of the innermost group. -/
def push (r : Reader) (n : Node) (next : Nat) : Reader :=
  match r.frames with
  | f :: rest => { r with frames := { f with items := n :: f.items } :: rest, pos := next }
  | [] => { r with pos := next }

/-- The width a group has, once closed. -/
def groupWidth (r : Reader) (index : Nat) : Width :=
  ((r.closed.find? (·.1 == index)).map (·.2)).getD (0, some 0)

/-- Whether group `index` is opened and closed already. -/
def isClosed (r : Reader) (index : Nat) : Bool :=
  r.closed.any (·.1 == index)

/-- A character literal under the flags in force. -/
def literal (r : Reader) (c : Char) : Node := .char c r.flags.ignoreCase

/-- A class node under the flags in force. -/
def classNode (r : Reader) (cls : CharClass) : Node := .set cls r.flags.ignoreCase

/-- The class of one category escape letter, if it is one. -/
def categoryOf (c : Char) : Option ClassItem :=
  match c with
  | 'd' => some (.category .digit false)
  | 'D' => some (.category .digit true)
  | 's' => some (.category .blank false)
  | 'S' => some (.category .blank true)
  | 'w' => some (.category .word false)
  | 'W' => some (.category .word true)
  | _ => none

/-- The character a one-letter escape stands for, if it is one. -/
def simpleEscape (c : Char) : Option Char :=
  match c with
  | 'a' => some '\x07'
  | 'f' => some '\x0c'
  | 'n' => some '\n'
  | 'r' => some '\r'
  | 't' => some '\t'
  | 'v' => some '\x0b'
  | '\\' => some '\\'
  | _ => none

/-- Read a hexadecimal escape of `n` digits after the two characters at `p`; the result is
the code point and the offset after it. -/
def hexEscape (r : Reader) (p : Nat) (letter : Char) (n : Nat) :
    Except PatternError (Nat × Nat) :=
  let digits := takeWhileAt r.text (p + 2) n isHexDigit
  if digits.length != n then
    fail ("incomplete escape " ++ backslashed (letter :: digits)) p
  else
    let v := numberIn 16 digits
    if v > 0x10FFFF then fail ("bad escape " ++ backslashed (letter :: digits)) p
    else .ok (v, p + 2 + n)

/-- What an escape inside a class stands for. -/
inductive ClassAtom
  | single (c : Nat)
  | item (i : ClassItem)

/-- Read the escape at `p` inside a class. -/
def classEscape (r : Reader) (p : Nat) : Except PatternError (ClassAtom × Nat) :=
  match r.at? (p + 1) with
  | none => fail "bad escape (end of pattern)" (r.text.size - 1)
  | some c =>
    if c == 'b' then .ok (.single 8, p + 2)
    else match simpleEscape c with
    | some e => .ok (.single e.toNat, p + 2)
    | none =>
    match categoryOf c with
    | some item => .ok (.item item, p + 2)
    | none =>
      if c == 'x' then (hexEscape r p 'x' 2).map fun (v, q) => (.single v, q)
      else if c == 'u' then (hexEscape r p 'u' 4).map fun (v, q) => (.single v, q)
      else if c == 'U' then (hexEscape r p 'U' 8).map fun (v, q) => (.single v, q)
      else if isOctDigit c then
        let more := takeWhileAt r.text (p + 2) 2 isOctDigit
        let v := numberIn 8 (c :: more)
        if v > 0o377 then
          fail ("octal escape value " ++ backslashed (c :: more) ++ " outside of range 0-0o377") p
        else .ok (.single v, p + 2 + more.length)
      else if c.isDigit || isAsciiLetter c then fail ("bad escape " ++ backslashed [c]) p
      else .ok (.single c.toNat, p + 2)

/-- The text of a class member as written, for error messages. -/
def spelled (r : Reader) (a b : Nat) : String :=
  String.ofList (r.text.extract a b).toList

/-- Read the members of a class, from offset `p`; `here` is the offset of `[`. The members
come last first. -/
def classItems (r : Reader) (here : Nat) :
    Nat → Nat → List ClassItem → Except PatternError (List ClassItem × Nat)
  | 0, _, _ => fail "unterminated character set" here
  | fuel + 1, p, acc =>
    match r.at? p with
    | none => fail "unterminated character set" here
    | some c =>
      if c == ']' && !acc.isEmpty then .ok (acc, p + 1)
      else
        let first : Except PatternError (ClassAtom × Nat) :=
          if c == '\\' then r.classEscape p else .ok (.single c.toNat, p + 1)
        match first with
        | .error e => .error e
        | .ok (atom, q) =>
          if r.at? q == some '-' then
            match r.at? (q + 1) with
            | none => fail "unterminated character set" here
            | some ']' =>
              let i : ClassItem := match atom with
                | .single v => .single v
                | .item i => i
              .ok (.single '-'.toNat :: i :: acc, q + 2)
            | some d =>
              let second : Except PatternError (ClassAtom × Nat) :=
                if d == '\\' then r.classEscape (q + 1) else .ok (.single d.toNat, q + 2)
              match second with
              | .error e => .error e
              | .ok (atom2, q2) =>
                let bad := "bad character range " ++ r.spelled p q ++ "-" ++ r.spelled (q + 1) q2
                match atom, atom2 with
                | .single lo, .single hi =>
                  if hi < lo then fail bad p
                  else classItems r here fuel q2 (.range lo hi :: acc)
                | _, _ => fail bad p
          else
            let i : ClassItem := match atom with
              | .single v => .single v
              | .item i => i
            classItems r here fuel q (i :: acc)

/-- Read a class whose `[` is at offset `p`. -/
def readClass (r : Reader) (p : Nat) : Except PatternError Reader := do
  let negated := r.at? (p + 1) == some '^'
  let start := if negated then p + 2 else p + 1
  let (items, q) ← r.classItems p (r.text.size + 1) start []
  let items := items.reverse
  match items, negated with
  | [.single c], false => .ok (r.push (r.literal (Char.ofNat c)) q)
  | _, _ => .ok (r.push (r.classNode ⟨negated, items⟩) q)

/-- Read an escape outside a class, at offset `p`. -/
def readEscape (r : Reader) (p : Nat) : Except PatternError Reader :=
  match r.at? (p + 1) with
  | none => fail "bad escape (end of pattern)" (r.text.size - 1)
  | some c =>
    let anchor : Option Anchor := match c with
      | 'A' => some .textStart
      | 'b' => some .wordBoundary
      | 'B' => some .notWordBoundary
      | 'Z' => some .textEnd
      | _ => none
    match anchor with
    | some a => .ok (r.push (.anchor a) (p + 2))
    | none =>
    match categoryOf c with
    | some item => .ok (r.push (r.classNode ⟨false, [item]⟩) (p + 2))
    | none =>
    match simpleEscape c with
    | some e => .ok (r.push (r.literal e) (p + 2))
    | none =>
      let lit (v : Nat) (q : Nat) : Reader := r.push (r.literal (Char.ofNat v)) q
      if c == 'x' then (hexEscape r p 'x' 2).map fun (v, q) => lit v q
      else if c == 'u' then (hexEscape r p 'u' 4).map fun (v, q) => lit v q
      else if c == 'U' then (hexEscape r p 'U' 8).map fun (v, q) => lit v q
      else if c == '0' then
        let more := takeWhileAt r.text (p + 2) 2 isOctDigit
        .ok (lit (numberIn 8 more) (p + 2 + more.length))
      else if c.isDigit then
        let second := r.at? (p + 2)
        let third := r.at? (p + 3)
        match second with
        | some d =>
          if d.isDigit then
            if isOctDigit c && isOctDigit d && (third.map isOctDigit).getD false then
              let v := numberIn 8 [c, d, third.getD '0']
              if v > 0o377 then
                fail ("octal escape value " ++ backslashed [c, d, third.getD '0'] ++
                  " outside of range 0-0o377") p
              else .ok (lit v (p + 4))
            else groupRef r p [c, d]
          else groupRef r p [c]
        | none => groupRef r p [c]
      else if isAsciiLetter c then fail ("bad escape " ++ backslashed [c]) p
      else .ok (lit c.toNat (p + 2))
where
  /-- A back reference by number, written with `digits` after the backslash at `p`. -/
  groupRef (r : Reader) (p : Nat) (digits : List Char) : Except PatternError Reader :=
    let g := numberIn 10 digits
    if g ≤ r.opened then
      if r.isClosed g then .ok (r.push (.backref g r.flags.ignoreCase) (p + 1 + digits.length))
      else fail "cannot refer to an open group" p
    else fail ("invalid group reference " ++ toString g) (p + 1)

/-- Read digits from offset `p`. -/
def digitsAt (r : Reader) (p : Nat) : List Char :=
  takeWhileAt r.text p r.text.size Char.isDigit

/-- The greatest count a repetition may name. -/
def maxRepeat : Nat := 4294967295

/-- Apply a quantifier with bounds `min` and `max` written from offset `spot` to before `q`. -/
def quantify (r : Reader) (min : Nat) (max : Option Nat) (spot q : Nat) :
    Except PatternError Reader :=
  match r.frames with
  | [] => .ok r
  | f :: rest =>
    match f.items with
    | [] => fail "nothing to repeat" spot
    | (.anchor _) :: _ => fail "nothing to repeat" spot
    | (.many _ _ _ _) :: _ => fail "multiple repeat" spot
    | last :: others =>
      let (greed, q') :=
        if r.at? q == some '?' then (Greed.lazy, q + 1)
        else if r.at? q == some '+' then (Greed.possessive, q + 1)
        else (Greed.greedy, q)
      .ok { r with frames := { f with items := .many min max greed last :: others } :: rest,
                   pos := q' }

/-- Read `{m,n}` whose `{` is at offset `p`, or take the brace as a literal. -/
def readBraces (r : Reader) (p : Nat) : Except PatternError Reader :=
  if r.at? (p + 1) == some '}' then .ok (r.push (r.literal '{') (p + 1))
  else
    let lo := r.digitsAt (p + 1)
    let afterLo := p + 1 + lo.length
    let (hi, afterHi) :=
      if r.at? afterLo == some ',' then
        let hi := r.digitsAt (afterLo + 1)
        (hi, afterLo + 1 + hi.length)
      else (lo, afterLo)
    if r.at? afterHi != some '}' then .ok (r.push (r.literal '{') (p + 1))
    else
      let close := afterHi + 1
      let min := if lo.isEmpty then 0 else numberIn 10 lo
      let max : Option Nat :=
        if hi.isEmpty then none else some (numberIn 10 hi)
      if min ≥ maxRepeat || (max.map (fun m => decide (m ≥ maxRepeat))).getD false then
        fail "the repetition number is too large" (p + 1)
      else match max with
        | some m =>
          if m < min then fail "min repeat greater than max repeat" (p + 1)
          else r.quantify min max p close
        | none => r.quantify min max p close

/-- Open a group of kind `opener` whose text starts at `start`; reading goes on at `next`
with flags `inner`. -/
def openGroup (r : Reader) (opener : Opener) (start next : Nat) (inner : Flags) : Reader :=
  { r with frames := ⟨opener, start, r.flags, [], []⟩ :: r.frames, pos := next, flags := inner }

/-- The letters of inline flags. -/
def flagLetter (c : Char) : Bool :=
  c == 'i' || c == 'L' || c == 'm' || c == 's' || c == 'x' || c == 'a' || c == 't' || c == 'u'

/-- Set the flag named by letter `c`. -/
def setFlag (fl : Flags) (c : Char) (on : Bool) : Flags :=
  match c with
  | 'i' => { fl with ignoreCase := on }
  | 'm' => { fl with multiline := on }
  | 's' => { fl with dotAll := on }
  | 'x' => { fl with verbose := on }
  | _ => fl

/-- Read the flag letters of `(?` from offset `p`: the letters turned on, the letters turned
off, the character that ends them (`)` or `:`) and the offset after it. -/
def flagRun (r : Reader) (p : Nat) : Except PatternError (List Char × List Char × Char × Nat) :=
  let on := takeWhileAt r.text p r.text.size flagLetter
  let q := p + on.length
  let checkEnd (q : Nat) (expected : String) (ends : List Char) :
      Except PatternError (Char × Nat) :=
    match r.at? q with
    | none => fail expected q
    | some c =>
      if ends.contains c then .ok (c, q + 1)
      else fail (if c.isAlpha then "unknown flag" else expected) q
  if on.contains 'L' then fail "bad inline flags: cannot use 'L' flag with a str pattern" (q)
  else
  match r.at? q with
  | some '-' =>
    let off := takeWhileAt r.text (q + 1) r.text.size flagLetter
    if off.isEmpty then
      match r.at? (q + 1) with
      | none => fail "missing flag" (q + 1)
      | some c => fail (if c.isAlpha then "unknown flag" else "missing flag") (q + 1)
    else if off.any (fun c => c == 'a' || c == 'u' || c == 'L') then
      fail "bad inline flags: cannot turn off flags 'a', 'u' and 'L'" (q + 2)
    else do
      let (c, after) ← checkEnd (q + 1 + off.length) "missing :" [':']
      if on.any off.contains then fail "bad inline flags: flag turned on and off" (after - 1)
      else .ok (on, off, c, after)
  | _ => do
    let (c, after) ← checkEnd q "missing -, : or )" [')', ':']
    .ok (on, [], c, after)

/-- Read what follows `(` at offset `p`. -/
def readGroup (r : Reader) (p : Nat) (first : Bool) : Except PatternError Reader :=
  if r.at? (p + 1) != some '?' then
    let index := r.opened + 1
    .ok ({ r with opened := index }.openGroup (.capture index) p (p + 1) r.flags)
  else
    match r.at? (p + 2) with
    | none => fail "unexpected end of pattern" (p + 2)
    | some ':' => .ok (r.openGroup .plain p (p + 3) r.flags)
    | some '>' => .ok (r.openGroup .atomic p (p + 3) r.flags)
    | some '=' => .ok (r.openGroup (.look false false) p (p + 3) r.flags)
    | some '!' => .ok (r.openGroup (.look false true) p (p + 3) r.flags)
    | some '<' =>
      match r.at? (p + 3) with
      | some '=' => .ok (r.openGroup (.look true false) p (p + 4) r.flags)
      | some '!' => .ok (r.openGroup (.look true true) p (p + 4) r.flags)
      | some c => fail ("unknown extension ?<" ++ String.singleton c) (p + 2)
      | none => fail "unexpected end of pattern" (p + 3)
    | some '#' =>
      let body := takeWhileAt r.text (p + 3) r.text.size (· != ')')
      let close := p + 3 + body.length
      if close ≥ r.text.size then fail "missing ), unterminated comment" p
      else .ok { r with pos := close + 1 }
    | some 'P' =>
      match r.at? (p + 3) with
      | some '<' =>
        let name := takeWhileAt r.text (p + 4) r.text.size (· != '>')
        let close := p + 4 + name.length
        if name.isEmpty then
          if close ≥ r.text.size then fail "missing group name" close
          else fail "missing group name" close
        else if close ≥ r.text.size then
          fail "missing >, unterminated name" (p + 4)
        else if !isGroupName name then
          fail ("bad character in group name " ++ quoteName name) (p + 4)
        else if (r.names.lookup (String.ofList name)).isSome then
          fail ("redefinition of group name " ++ quoteName name ++ " as group " ++
            toString (r.opened + 1) ++ "; was group " ++
            toString ((r.names.lookup (String.ofList name)).getD 0)) (p + 4)
        else
          let index := r.opened + 1
          .ok ({ r with opened := index, names := (String.ofList name, index) :: r.names }.openGroup
            (.capture index) p (close + 1) r.flags)
      | some '=' =>
        let name := takeWhileAt r.text (p + 4) r.text.size (· != ')')
        let close := p + 4 + name.length
        if name.isEmpty then fail "missing group name" close
        else if close ≥ r.text.size then fail "missing ), unterminated name" (p + 4)
        else if !isGroupName name then
          fail ("bad character in group name " ++ quoteName name) (p + 4)
        else match r.names.lookup (String.ofList name) with
          | none => fail ("unknown group name " ++ quoteName name) (p + 4)
          | some g =>
            if r.isClosed g then .ok (r.push (.backref g r.flags.ignoreCase) (close + 1))
            else fail "cannot refer to an open group" (p + 4)
      | some c => fail ("unknown extension ?P" ++ String.singleton c) (p + 2)
      | none => fail "unexpected end of pattern" (p + 3)
    | some '(' =>
      let name := takeWhileAt r.text (p + 3) r.text.size (· != ')')
      let close := p + 3 + name.length
      if name.isEmpty then fail "missing group name" close
      else if close ≥ r.text.size then fail "missing ), unterminated name" (p + 3)
      else if isGroupName name then
        match r.names.lookup (String.ofList name) with
        | none => fail ("unknown group name " ++ quoteName name) (p + 3)
        | some g => .ok (r.openGroup (.cond g) p (close + 1) r.flags)
      else if name.all Char.isDigit then
        let g := numberIn 10 name
        if g == 0 then fail "bad group number" (p + 3)
        else .ok ({ r with condRefs := (g, p + 3) :: r.condRefs }.openGroup (.cond g) p
          (close + 1) r.flags)
      else fail ("bad character in group name " ++ quoteName name) (p + 3)
    | some c =>
      if flagLetter c || c == '-' then do
        let (on, off, ender, after) ← r.flagRun (p + 2)
        if ender == ')' then
          if !first then fail "global flags not at the start of the expression" p
          else
            let fl := on.foldl (fun fl c => setFlag fl c true) r.flags
            .ok { r with flags := fl, pos := after }
        else
          let fl := on.foldl (fun fl c => setFlag fl c true) r.flags
          let fl := off.foldl (fun fl c => setFlag fl c false) fl
          .ok (r.openGroup .plain p after fl)
      else fail ("unknown extension ?" ++ String.singleton c) (p + 1)
where
  /-- A group name between quotes, as error messages show it. -/
  quoteName (name : List Char) : String := "'" ++ String.ofList name ++ "'"

/-- The node of a finished frame. -/
def frameBody (f : Frame) : Node :=
  let branches := (f.items :: f.done).reverse.map fun items => Node.seq items.reverse
  match branches with
  | [b] => b
  | bs => .alt bs

/-- Close the innermost group at the `)` at offset `p`. -/
def closeGroup (r : Reader) (p : Nat) : Except PatternError Reader :=
  match r.frames with
  | f :: below :: rest =>
    let body := frameBody f
    let r' := { r with frames := below :: rest, flags := f.outer }
    match f.opener with
    | .capture index =>
      let w := body.width r.groupWidth
      .ok ({ r' with closed := (index, w) :: r.closed }.push (.group index body) (p + 1))
    | .plain => .ok (r'.push body (p + 1))
    | .atomic => .ok (r'.push (.atomic body) (p + 1))
    | .look behind negated =>
      let w := body.width r.groupWidth
      let fixed := w.2 == some w.1
      let r'' := if behind && !fixed then { r' with unevenBehind := true } else r'
      .ok (r''.push (.look behind negated (if behind then w.1 else 0) body) (p + 1))
    | .cond index =>
      match (f.items :: f.done).reverse with
      | [yes] => .ok (r'.push (.cond index (.seq yes.reverse) .empty) (p + 1))
      | [yes, no] => .ok (r'.push (.cond index (.seq yes.reverse) (.seq no.reverse)) (p + 1))
      | _ => fail "conditional backref with more than two branches" p
  | _ => fail "unbalanced parenthesis" p

/-- Start a new branch of the innermost group at the `|` at offset `p`. -/
def nextBranch (r : Reader) (p : Nat) : Except PatternError Reader :=
  match r.frames with
  | f :: rest =>
    match f.opener, f.done with
    | .cond _, _ :: _ => fail "conditional backref with more than two branches" p
    | _, _ => .ok { r with frames := { f with done := f.items :: f.done, items := [] } :: rest,
                           pos := p + 1 }
  | [] => .ok { r with pos := p + 1 }

/-- The offset after a verbose comment that starts at `p`. -/
def skipComment (r : Reader) : Nat → Nat → Nat
  | 0, p => p
  | fuel + 1, p =>
    match r.at? p with
    | none => p
    | some '\n' => p + 1
    | some '\\' => skipComment r fuel (p + 2)
    | some _ => skipComment r fuel (p + 1)

/-- Whether nothing has been read yet at the level of the whole pattern. -/
def atStart (r : Reader) : Bool :=
  match r.frames with
  | [f] => f.done.isEmpty && f.items.isEmpty
  | _ => false

/-- Finish reading at the end of the pattern. -/
def finish (r : Reader) : Except PatternError Compiled :=
  match r.frames with
  | [f] =>
    match r.condRefs.find? (fun (g, _) => g > r.opened) with
    | some (g, spot) => fail ("invalid group reference " ++ toString g) spot
    | none =>
      if r.unevenBehind then .error { message := "look-behind requires fixed-width pattern" }
      else .ok ⟨frameBody f, r.opened, r.names.reverse⟩
  | f :: _ => fail "missing ), unterminated subpattern" f.start
  | [] => .error { message := "internal error" }

/-- One step of reading at the current offset. -/
def step (r : Reader) : Except PatternError Step :=
  let p := r.pos
  match r.at? p with
  | none => (r.finish).map Step.finished
  | some c =>
    if r.flags.verbose && isVerboseBlank c then .ok (.next { r with pos := p + 1 })
    else if r.flags.verbose && c == '#' then
      .ok (.next { r with pos := r.skipComment (r.text.size + 1) (p + 1) })
    else
      let go (e : Except PatternError Reader) : Except PatternError Step := e.map Step.next
      match c with
      | '|' => go (r.nextBranch p)
      | ')' => go (r.closeGroup p)
      | '\\' => go (r.readEscape p)
      | '[' => go (r.readClass p)
      | '*' => go (r.quantify 0 none p (p + 1))
      | '+' => go (r.quantify 1 none p (p + 1))
      | '?' => go (r.quantify 0 (some 1) p (p + 1))
      | '{' => go (r.readBraces p)
      | '.' => go (.ok (r.push (.any r.flags.dotAll) (p + 1)))
      | '(' => go (r.readGroup p r.atStart)
      | '^' => go (.ok (r.push (.anchor (if r.flags.multiline then .lineStart else .textStart))
          (p + 1)))
      | '$' => go (.ok (r.push (.anchor (if r.flags.multiline then .lineEnd
          else .textEndOrLastNewline)) (p + 1)))
      | _ => go (.ok (r.push (r.literal c) (p + 1)))

/-- Read until the end, at most `fuel` steps; every step but the last moves forward. -/
def run : Nat → Reader → Except PatternError Compiled
  | 0, _ => .error { message := "pattern too long" }
  | fuel + 1, r =>
    match r.step with
    | .error e => .error e
    | .ok (.finished c) => .ok c
    | .ok (.next r') => run fuel r'

end Reader

/-- Read a pattern under the given flags. -/
def read (source : String) (flags : Flags) : Except PatternError Compiled :=
  let text := source.toList.toArray
  let start : Reader :=
    { text := text, pos := 0, flags := flags, frames := [⟨.plain, 0, flags, [], []⟩],
      opened := 0, closed := [], names := [], condRefs := [], unevenBehind := false }
  Reader.run (text.size + 2) start

end Highlight.Pattern
