import Highlight.Chars.Blank
import Highlight.Options
import Highlight.Token.Kind

/-!
# Filters

A filter turns a stream of tokens, each a kind and a text, into another stream. Filters are
found by name (`Filter.ofName`) and built from options, which may be refused.

* `gobble` drops the first `n` characters of every line. How many characters are still to be
  dropped from the current line is carried from token to token, and set back to `n` at every
  line feed inside a token (`gobbleRun`). Tokens whose text becomes empty are left out.
* `whitespace` makes blanks visible: spaces, tabs and line feeds are replaced by marks chosen in
  the options (`Visible`). One way gives each blank character a token of its own of kind
  `Text.Whitespace` (`Visible.markRuns`); the other replaces the three characters inside the
  tokens, one after another (`Visible.replaceEach`).
* `tokenmerge` merges neighbouring tokens of one kind: it holds the last token back and adds to
  it the texts of the tokens of its kind that follow (`mergeFrom`).

Texts are handled as lists of characters.
-/

set_option autoImplicit false

namespace Highlight.Filters

/-- A stream of tokens: kinds and texts. -/
abbrev Stream := List (TokenKind × String)

/-- The text of a stream, the texts of its tokens one after another. -/
def Stream.text (ts : Stream) : List Char := (ts.map fun t => t.2.toList).flatten

@[simp] theorem Stream.text_nil : Stream.text [] = [] := rfl

@[simp] theorem Stream.text_cons (t : TokenKind × String) (ts : Stream) :
    Stream.text (t :: ts) = t.2.toList ++ Stream.text ts := rfl

@[simp] theorem Stream.text_append (a b : Stream) :
    Stream.text (a ++ b) = Stream.text a ++ Stream.text b := by
  simp [Stream.text]

/-! ## Dropping the start of every line -/

/-- Python's `s[k:]`: the characters from place `k` on, where a negative `k` counts from the
end. -/
def sliceFrom (k : Int) (s : List Char) : List Char :=
  if 0 ≤ k then s.drop k.toNat else s.drop (s.length - k.natAbs)

/-- One piece of a line with `left` characters still to drop: what stays of it, and how many
are still to drop after it. -/
def gobble (value : List Char) (left : Int) : List Char × Int :=
  if left < value.length then (sliceFrom left value, 0) else ([], left - value.length)

/-- The lines of a token after its first, each losing `n` characters: what stays of them, and
how many are still to drop after the last (`left` when there is none). -/
def gobbleLines (n : Int) : List (List Char) → Int → List (List Char) × Int
  | [], left => ([], left)
  | part :: rest, _ =>
    let r := gobbleLines n rest (gobble part n).2
    ((gobble part n).1 :: r.1, r.2)

/-- The lines of a token, the first losing `left` characters and the others `n`, joined again;
and how many are still to drop after the last. -/
def gobblePieces (n left : Int) (first : List Char) (rest : List (List Char)) : List Char × Int :=
  let r := gobbleLines n rest (gobble first left).2
  (['\n'].intercalate ((gobble first left).1 :: r.1), r.2)

/-- One token's text, with `left` characters still to drop from its first line and `n` from each
later one: the text that stays, and how many are still to drop after it. -/
def gobbleToken (n left : Int) (value : List Char) : List Char × Int :=
  match value.splitOn '\n' with
  | [] => (value, left)
  | first :: rest => gobblePieces n left first rest

/-- The gobble filter over a stream, with `left` characters still to drop from the current
line. -/
def gobbleRun (n : Int) : Int → Stream → Stream
  | _, [] => []
  | left, (k, v) :: ts =>
    let r := gobbleToken n left v.toList
    if r.1 = [] then gobbleRun n r.2 ts else (k, String.ofList r.1) :: gobbleRun n r.2 ts

/-! ## Visible blanks -/

/-- The marks of a `whitespace` filter: what a space, a tab and a line feed become (empty when
that character is left alone), and whether each blank character gets a token of its own. -/
structure Visible where
  spaces : List Char
  tabs : List Char
  newlines : List Char
  wstokentype : Bool
  deriving DecidableEq, Repr

/-- Whether an option value counts as true in Python. -/
def truthy : OptionValue → Bool
  | .none => false
  | .bool b => b
  | .int n => n != 0
  | .str s => !s.isEmpty
  | .list xs => !xs.isEmpty

/-- The mark an option asks for: a text of one character stands for itself, any other true
value for the default mark, a false value (or none) for no mark. -/
def markOf (v : Option OptionValue) (default : Char) : List Char :=
  match v with
  | some (.str s) => if s.length = 1 then s.toList else if s.isEmpty then [] else [default]
  | some v => if truthy v then [default] else []
  | none => []

/-- The marks given by the options `spaces`, `tabs`, `newlines`, `tabsize` and `wstokentype`: a
tab mark is followed by `tabsize - 1` spaces, a line feed mark by a line feed. -/
def Visible.ofOptions (opts : Options) : Except OptionError Visible := do
  let tabsize ← opts.number "tabsize" 8
  let tabs := markOf (opts.find? "tabs") '»'
  let newlines := markOf (opts.find? "newlines") '¶'
  let wstokentype ← opts.flag "wstokentype" true
  return { spaces := markOf (opts.find? "spaces") '·'
           tabs := if tabs.isEmpty then [] else tabs ++ List.replicate (tabsize - 1).toNat ' '
           newlines := if newlines.isEmpty then [] else newlines ++ ['\n']
           wstokentype }

namespace Visible

variable (v : Visible)

/-- What a blank character becomes when each gets a token of its own: its mark, or itself when
it has none (a blank other than the three always stays). -/
def mark (c : Char) : List Char :=
  let chosen := if c = ' ' then v.spaces else if c = '\t' then v.tabs
    else if c = '\n' then v.newlines else []
  if chosen.isEmpty then [c] else chosen

/-- A token's text cut at its blank characters: the runs between them keep the token's kind,
each blank becomes a `Text.Whitespace` token holding its mark. -/
def markText (k : TokenKind) : List Char → List Char → Stream
  | run, [] => if run.isEmpty then [] else [(k, String.ofList run.reverse)]
  | run, c :: s =>
    if Chars.isBlank c then
      (if run.isEmpty then [] else [(k, String.ofList run.reverse)]) ++
        (TokenKind.whitespace, String.ofList (v.mark c)) :: markText k [] s
    else markText k (c :: run) s

/-- The filter's first way: every blank character a token of its own. -/
def markRuns (ts : Stream) : Stream := ts.flatMap fun t => v.markText t.1 [] t.2.toList

/-- Python's `s.replace(c, r)` for a single character `c`. -/
def replaceChar (c : Char) (r s : List Char) : List Char := s.flatMap fun x => if x = c then r else [x]

/-- A token's text with its spaces, then its tabs, then its line feeds replaced by their marks,
each when it has one. -/
def replaceText (s : List Char) : List Char :=
  let s := if v.spaces.isEmpty then s else replaceChar ' ' v.spaces s
  let s := if v.tabs.isEmpty then s else replaceChar '\t' v.tabs s
  if v.newlines.isEmpty then s else replaceChar '\n' v.newlines s

/-- The filter's second way: the marks put into the tokens as they are. -/
def replaceEach (ts : Stream) : Stream := ts.map fun t => (t.1, String.ofList (v.replaceText t.2.toList))

/-- The `whitespace` filter. -/
def run (ts : Stream) : Stream := if v.wstokentype then v.markRuns ts else v.replaceEach ts

end Visible

/-! ## Merging tokens of one kind -/

/-- The stream merged after the token held back (`none` before the first token): a token of the
held token's kind adds its text to it, a token of another kind sends the held token out and is
held in its place, and the end of the stream sends out the token still held. -/
def mergeFrom : Option (TokenKind × String) → Stream → Stream
  | none, [] => []
  | some held, [] => [held]
  | none, t :: ts => mergeFrom (some t) ts
  | some (k, v), t :: ts =>
    if t.1 = k then mergeFrom (some (k, v ++ t.2)) ts else (k, v) :: mergeFrom (some t) ts

/-! ## Filters by name -/

/-- The filters of this library. -/
inductive Filter
  /-- Drop the first `n` characters of every line. -/
  | gobble (n : Int)
  /-- Make blanks visible. -/
  | whitespace (v : Visible)
  /-- Merge neighbouring tokens of one kind. -/
  | tokenMerge

/-- What a filter does to a stream. -/
def Filter.apply : Filter → Stream → Stream
  | .gobble n, ts => gobbleRun n n ts
  | .whitespace v, ts => v.run ts
  | .tokenMerge, ts => mergeFrom none ts

/-- The names of every filter, modelled here or not. -/
def filterNames : List String :=
  ["codetagify", "keywordcase", "highlight", "raiseonerror", "whitespace", "gobble",
   "tokenmerge", "symbols"]

/-- The filter of a name built from options, or why it cannot be built (the kind of the error
and its message); `none` for a filter of Pygments that this library does not model. -/
def Filter.ofName (name : String) (opts : Options) : Option (Except (String × String) Filter) :=
  let built (f : Except OptionError Filter) := some (f.mapError fun e => ("OptionError", e.message))
  if name = "gobble" then built (.gobble <$> opts.number "n" 0)
  else if name = "whitespace" then built (.whitespace <$> Visible.ofOptions opts)
  else if name = "tokenmerge" then built (.ok .tokenMerge)
  else if filterNames.contains name then none
  else some (.error ("ClassNotFound", "filter " ++ OptionValue.quoted name ++ " not found"))

end Highlight.Filters
