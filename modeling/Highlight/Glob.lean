/-!
# Glob patterns of file names

A glob pattern matches a whole file name: `*` stands for any run of characters, `?` for any one
character, a bracketed set such as `[a-z_]` for one character of the set (`[!…]` for one
outside it), and every other character for itself. A `]` right after the opening bracket (or
after its `!`) is a member of the set, a `-` between two members makes a range of the
characters from one to the other (empty when they come in the wrong order), and a `[` that no
`]` closes stands for itself. Matching tells letters of different case apart.
-/

set_option autoImplicit false

namespace Highlight.Glob

/-- The set that a `[` opens, read from the pattern after it: whether a `!` negates it, its
members up to the closing `]`, and how many characters of the pattern it takes with that `]`;
`none` when no `]` closes it. -/
def bracket (rest : List Char) : Option (Bool × List Char × Nat) :=
  let negated := rest.head? == some '!'
  let body := if negated then rest.tail else rest
  let first := if body.head? == some ']' then [']'] else []
  let more := body.drop first.length
  let members := more.takeWhile (· != ']')
  if members.length < more.length then
    some (negated, first ++ members, rest.length - (more.length - members.length - 1))
  else none

/-- Whether a character is in a set written as members and ranges `a-b`. -/
def inSet (c : Char) : List Char → Bool
  | a :: '-' :: b :: rest => (a ≤ c && c ≤ b) || inSet c rest
  | a :: rest => a == c || inSet c rest
  | [] => false

/-- Whether a name matches a pattern, after passing over the first `skip` characters of the
pattern (those a set has taken). -/
def matchFrom : List Char → Nat → List Char → Bool
  | [], _, name => name.isEmpty
  | _ :: pat, skip + 1, name => matchFrom pat skip name
  | '*' :: pat, 0, name => (List.range (name.length + 1)).any fun k => matchFrom pat 0 (name.drop k)
  | '?' :: pat, 0, _ :: name => matchFrom pat 0 name
  | '[' :: pat, 0, c :: name =>
    match bracket pat with
    | some (negated, members, taken) => (inSet c members != negated) && matchFrom pat taken name
    | none => c == '[' && matchFrom pat 0 name
  | p :: pat, 0, c :: name => p == c && matchFrom pat 0 name
  | _ :: _, 0, [] => false

/-- Whether a file name matches a glob pattern. -/
def matchName (pattern name : String) : Bool := matchFrom pattern.toList 0 name.toList

end Highlight.Glob
