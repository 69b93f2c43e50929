import Highlight.Grammar.Basic
import Highlight.Token.Short

/-!
# The rule notation

The grammars of the languages are written in a small line notation, which `states` reads
into states and rules. One line is one item:

* `:name` starts the state `name`;
* `+name` includes the rules of state `name`, `^` takes the parent's rules here, and `~moves`
  makes the moves without reading anything;
* `=action moves pattern` is a rule: the action and the moves hold no blank, and the pattern
  is the rest of the line;
* `%action moves count` is a rule that matches one of `count` words. The next two lines,
  `<pattern` and `>pattern`, give what must come before and after the word; then come the
  words, one a line. Each word line starts with a character that says how many characters
  the word shares with the word before it (its code less that of `0`); the rest of the line
  is the remainder of the word.

An action is a kind, by its short name (`t` for plain text, `Token` for the root) or as a
dotted path of names that start with a capital letter; `(a|b|-)` for one action per group,
`-` dropping a group; `@Class>s/t?key=value&key=value` for the text lexed by another language
(no class: the same one), from a given stack and with more options; `!name` for the callback
of that name. Moves are `-` for none, or a comma-separated list of `p` (pop), `u` (push),
`>name` (enter) and `*a/b` (enter the combined state of `a` and `b`).

A rule that lexes with another language is a `using` site of its own: it is named by the
text, the state and its place in the state, and a group by its place in the rule after that
(`Reading.site`), so the options it keeps are its own.

Texts hold no control characters and no invisible characters: a control character is
written as its picture (the characters from U+2400 on), and any character as `escapeMark`
and six hex digits. Inside a pattern, `classMark` and two hex digits stand for the members of
a Unicode class (`Chars.UnicodeClass`), spelled out when the pattern is read. In the names of
moves and stacks, and in option values, `%` and two hex digits stand for a character that
would end the item.
-/

set_option autoImplicit false

namespace Highlight.Notation

/-- The mark before the six hex digits of a character. -/
def escapeMark : Char := '␢'

/-- The mark before the two hex digits of a Unicode class. -/
def classMark : Char := '␣'

/-- The Unicode classes, in the order of their numbers. -/
def classes : List Chars.UnicodeClass :=
  [.Cc, .Cf, .Cn, .Co, .Cs, .Ll, .Lm, .Lo, .Lt, .Lu, .Mc, .Me, .Mn, .Nd, .Nl, .No, .Pc, .Pd,
   .Pe, .Pf, .Pi, .Po, .Ps, .Sc, .Sk, .Sm, .So, .Zl, .Zp, .Zs, .xidContinue, .xidStart]

/-- The value of a hex digit (zero for any other character). -/
def hexDigit (c : Char) : Nat :=
  if '0' ≤ c ∧ c ≤ '9' then c.toNat - '0'.toNat
  else if 'a' ≤ c ∧ c ≤ 'f' then c.toNat - 'a'.toNat + 10
  else if 'A' ≤ c ∧ c ≤ 'F' then c.toNat - 'A'.toNat + 10
  else 0

/-- The value of a run of hex digits. -/
def hexValue (cs : List Char) : Nat := cs.foldl (fun n c => 16 * n + hexDigit c) 0

/-- The pieces that the notation characters `cs` stand for, after the text `cur` of the
piece begun and the pieces `acc` done (last first). -/
def piecesFrom (cs : List Char) (cur : List Char) (acc : List Piece) : List Piece :=
  let close (acc : List Piece) : List Piece :=
    if cur.isEmpty then acc else .text (String.ofList cur.reverse) :: acc
  match cs with
  | [] => (close acc).reverse
  | c :: rest =>
    let n := c.toNat
    if 0x2400 ≤ n ∧ n < 0x2420 then piecesFrom rest (Char.ofNat (n - 0x2400) :: cur) acc
    else if n == 0x2421 then piecesFrom rest ('\x7f' :: cur) acc
    else if c == escapeMark ∧ 6 ≤ rest.length then
      piecesFrom (rest.drop 6) (Char.ofNat (hexValue (rest.take 6)) :: cur) acc
    else if c == classMark ∧ 2 ≤ rest.length then
      match classes[hexValue (rest.take 2)]? with
      | some u => piecesFrom (rest.drop 2) [] (.cls u :: close acc)
      | none => piecesFrom rest (c :: cur) acc
    else piecesFrom rest (c :: cur) acc
termination_by cs.length
decreasing_by
  all_goals simp only [List.length_drop, List.length_cons]
  all_goals omega

/-- The text that notation characters stand for. -/
def text (cs : List Char) : String :=
  String.join ((piecesFrom cs [] []).map Piece.render)

/-- The pattern that notation characters stand for. -/
def source (cs : List Char) : Source :=
  let ps := piecesFrom cs [] []
  if ps.all (fun | .text _ => true | .cls _ => false) then .regex (String.join (ps.map Piece.render))
  else .parts ps

/-- Undo the `%` escapes of a name. -/
def unescape : List Char → List Char
  | '%' :: a :: b :: rest => Char.ofNat (hexValue [a, b]) :: unescape rest
  | c :: rest => c :: unescape rest
  | [] => []

/-- The name that an item of a move or a stack stands for. -/
def name (cs : List Char) : String := text (unescape cs)

/-- The pieces of `cs` between the separator `sep`. -/
def fields (sep : Char) (cs : List Char) : List (List Char) :=
  (String.ofList cs).splitOn (String.singleton sep) |>.map String.toList

/-- The moves that a moves item stands for. -/
def moves (cs : List Char) : List Move :=
  if cs == ['-'] then []
  else (fields ',' cs).filterMap fun
    | ['p'] => some .pop
    | ['u'] => some .push
    | '>' :: n => some (.enter (name n))
    | '*' :: ns => some (.combined ((fields '/' ns).map name))
    | _ => none

/-- The kind that a kind item stands for. -/
def kind (cs : List Char) : TokenKind :=
  match cs with
  | ['t'] => .text
  | c :: _ =>
    if c.isUpper then
      if cs == "Token".toList then .root else ⟨(fields '.' cs).map String.ofList⟩
    else (TokenKind.ofShortName? (String.ofList cs)).getD .error
  | [] => .error

/-- The value of an option item. -/
def optionValue : List Char → OptionValue
  | ['b', '1'] => .bool true
  | ['b', '0'] => .bool false
  | 'i' :: ds => .int ((String.ofList ds).toInt?.getD 0)
  | 's' :: cs => .str (name cs)
  | _ => .none

/-- The options of an option list. -/
def options (cs : List Char) : Options :=
  (fields '&' cs).filterMap fun item =>
    match fields '=' item with
    | [k, v] => some (name k, optionValue v)
    | _ => none

/-- Whether a character ends an action inside a group list. -/
def endsAction (c : Char) : Bool := c == '|' || c == ')'

/-- The action of the site `site` that lexes with another language: its class, then a stack,
then options. -/
def lexAction (site : String) (cs : List Char) : Action :=
  let (cls, rest) := cs.span fun c => c != '>' && c != '?'
  let (stack, rest) := match rest with
    | '>' :: more =>
      let (st, rest) := more.span (· != '?')
      (some ((fields '/' st).map name), rest)
    | _ => (none, rest)
  let opts := match rest with
    | '?' :: more => options more
    | _ => []
  .lexWith site (if cls.isEmpty then none else some (String.ofList cls)) stack opts

mutual

/-- The action at the start of `cs`, written at the site `site`, and what follows it. -/
def action (registry : List (String × Callback)) (site : String) :
    Nat → List Char → Option (Action × List Char)
  | 0, _ => none
  | fuel + 1, cs =>
    match cs with
    | '(' :: rest => groupList registry site fuel rest []
    | '@' :: rest =>
      let (item, more) := rest.span (! endsAction ·)
      some (lexAction site item, more)
    | '!' :: rest =>
      let (item, more) := rest.span (! endsAction ·)
      match registry.lookup (String.ofList item) with
      | some f => some (.call f, more)
      | none => some (.token .error, more)
    | _ =>
      let (item, more) := cs.span (! endsAction ·)
      some (.token (kind item), more)

/-- The actions of a group list up to its closing bracket, after those in `acc` (last
first), and what follows the list; each group is a site of its own below `site`. -/
def groupList (registry : List (String × Callback)) (site : String) :
    Nat → List Char → List (Option Action) → Option (Action × List Char)
  | 0, _, _ => none
  | fuel + 1, cs, acc =>
    match cs with
    | ')' :: rest => some (.groups acc.reverse, rest)
    | '|' :: rest => groupList registry site fuel rest acc
    | '-' :: rest => groupList registry site fuel rest (none :: acc)
    | _ =>
      match action registry (site ++ "." ++ toString acc.length) fuel cs with
      | some (a, rest) => groupList registry site fuel rest (some a :: acc)
      | none => none

end

/-- The action an action item written at the site `site` stands for. -/
def actionOf (registry : List (String × Callback)) (site : String) (cs : List Char) : Action :=
  match action registry site (cs.length + 1) cs with
  | some (a, _) => a
  | none => .token .error

/-- The words of a word list: each line shares a prefix with the word before it. -/
def words : List Char → List String → List String
  | _, [] => []
  | previous, line :: rest =>
    match line.toList with
    | c :: more =>
      let word := previous.take (c.toNat - '0'.toNat) ++ (text more).toList
      String.ofList word :: words word rest
    | [] => "" :: words [] rest

/-- The pairs of a pair list: each line holds two texts with a blank between them. -/
def pairs (list : String) : Array (String × String) :=
  ((list.splitOn "\n").filterMap fun l =>
    match l.splitOn " " with
    | [a, b] => some (text a.toList, text b.toList)
    | _ => none).toArray

/-- A list of patterns with kinds: the first line holds the kind for a text that no pattern
matches, each other line a kind, a blank and a pattern. -/
def kindedPatterns (list : String) : TokenKind × List (String × TokenKind) :=
  match list.splitOn "\n" with
  | first :: rest =>
    (kind first.toList, rest.filterMap fun l =>
      let (k, p) := l.toList.span (· != ' ')
      if p.isEmpty then none else some (text (p.drop 1), kind k))
  | [] => (.error, [])

/-- What is being read: the states done (last first), the state begun and its rules (last
first). -/
structure Reading where
  done : List StateDef := []
  current : Option String := none
  rules : List Rule := []

namespace Reading

/-- Close the state begun. -/
def close (r : Reading) : Reading :=
  match r.current with
  | some s => { done := (s, r.rules.reverse) :: r.done, current := none, rules := [] }
  | none => r

/-- Add a rule to the state begun. -/
def add (r : Reading) (rule : Rule) : Reading := { r with rules := rule :: r.rules }

/-- The site of the next rule of the state begun, in the text named `origin`: its state and its
place there. -/
def site (r : Reading) (origin : String) : String :=
  origin ++ "/" ++ r.current.getD "" ++ "/" ++ toString r.rules.length

end Reading

/-- The three fields of a rule line: its action, its moves and the rest. -/
def ruleFields (cs : List Char) : List Char × List Char × List Char :=
  let (a, rest) := cs.span (· != ' ')
  let (m, rest) := (rest.drop 1).span (· != ' ')
  (a, m, rest.drop 1)

/-- Read the lines `ls` of the text named `origin` after what `r` holds. -/
def readLines (registry : List (String × Callback)) (origin : String) (ls : List String)
    (r : Reading) : Reading :=
  match ls with
  | [] => r.close
  | l :: rest =>
    match l.toList with
    | ':' :: n => readLines registry origin rest { r.close with current := some (text n) }
    | '+' :: n => readLines registry origin rest (r.add (.include (text n)))
    | ['^'] => readLines registry origin rest (r.add .inherit)
    | '~' :: m => readLines registry origin rest (r.add (.default (moves m)))
    | '=' :: cs =>
      let (a, m, p) := ruleFields cs
      readLines registry origin rest
        (r.add (.step (source p) (actionOf registry (r.site origin) a) (moves m)))
    | '%' :: cs =>
      let (a, m, n) := ruleFields cs
      let count := (String.ofList n).toNat?.getD 0
      let field (i : Nat) : List Char := ((rest.drop i).head?.map (·.toList.drop 1)).getD []
      let ws := words [] ((rest.drop 2).take count)
      let rule : Rule := .step (.words ws (text (field 0)) (text (field 1)))
        (actionOf registry (r.site origin) a) (moves m)
      readLines registry origin (rest.drop (2 + count)) (r.add rule)
    | _ => readLines registry origin rest r
termination_by ls.length
decreasing_by
  all_goals simp only [List.length_drop, List.length_cons]
  all_goals omega

/-- The states a text in the rule notation describes, with the callbacks it names; its `using`
sites are named after `origin`, the name of the text. -/
def states (origin : String) (registry : List (String × Callback)) (text : String) :
    List StateDef :=
  (readLines registry origin (text.splitOn "\n") {}).done.reverse

end Highlight.Notation
