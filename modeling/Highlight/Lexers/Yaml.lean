import Highlight.Lexer.Insertions
import Highlight.Lexers.Lines

/-!
# Indentation in YAML

YAML nests by indentation. Its grammar keeps, beside the stack of states, the levels of
indentation it is in (`YamlIndent`): the current level, the levels around it, the level the
next node will have, and the indentation of the block scalar being read. The actions here
read and change them; they live in the memory of the cursor, so that each text starts with
none (the level `-1`).

Some actions give no token for an empty match and leave the cursor where it is, so that the
moves of the rule alone take effect; some leave the states of a block when a line is not
indented deeper than the block.

The grammar (`yamlStates`) is written out here: a line starts in `indentation` above
`block-line`, and a block scalar or a plain scalar keeps its states until a line indented less
ends it.
-/

set_option autoImplicit false

namespace Highlight.Lexers

/-- The levels of indentation of YAML: the levels around the current one (innermost first),
the current one, the one the next node has, and the indentation of a block scalar. -/
structure YamlIndent where
  outer : List Int := []
  current : Int := -1
  next : Int := 0
  blockScalar : Option Int := none
  deriving BEq, Repr

namespace YamlIndent

/-- The levels kept in a cursor's memory. -/
def load (c : Cursor) : YamlIndent :=
  let num (key : String) (d : Int) : Int := match c.recall key with
    | some (.num n) => n
    | _ => d
  { outer := match c.recall "indent_stack" with
      | some (.list xs) => xs.filterMap fun | .num n => some n | _ => none
      | _ => []
    current := num "indent" (-1)
    next := num "next_indent" 0
    blockScalar := match c.recall "block_scalar_indent" with
      | some (.num n) => some n
      | _ => none }

/-- Keep the levels in a cursor's memory. -/
def store (y : YamlIndent) (c : Cursor) : Cursor :=
  let c := match y.blockScalar with
    | some n => c.remember "block_scalar_indent" (.num n)
    | none => c.forget "block_scalar_indent"
  ((c.remember "indent_stack" (.list (y.outer.map .num))).remember "next_indent" (.num y.next)).remember
    "indent" (.num y.current)

/-- Go out to enclosing levels while the next level is less than the current one; `fuel`
is more than the number of levels around. -/
def dedent : Nat → YamlIndent → YamlIndent
  | 0, y => y
  | fuel + 1, y =>
    if y.next < y.current then
      match y.outer with
      | l :: rest => dedent fuel { y with current := l, outer := rest }
      | [] => { y with current := -1 }
    else y

/-- Go in to the next level when it is deeper than the current one. -/
def indentIn (y : YamlIndent) : YamlIndent :=
  if y.current < y.next then { y with outer := y.current :: y.outer, current := y.next } else y

end YamlIndent

/-- The length of a text as a level. -/
def levelOf (s : String) : Int := s.length

/-- The characters of a text from `a` to `b`, bounds below zero counting from the end. -/
def sliceText (s : String) (a b : Int) : String := String.ofList (sliceChars s.toList a b)

/-- A token of kind `k` for a match that is not empty; an empty match gives nothing and
leaves the cursor. -/
def yamlSomething (k : TokenKind) : Callback := fun _ h c =>
  if h.whole.isEmpty then ([], c) else ([⟨h.start, k, h.whole⟩], c.past h)

/-- A token of kind `k`, with no levels of indentation any more (a directive or the start
or end of a document). -/
def yamlResetIndent (k : TokenKind) : Callback := fun _ h c =>
  ([⟨h.start, k, h.whole⟩], (({} : YamlIndent).store c).past h)

/-- Indentation that may give a level. At the start of a line (`start`) it is the next
level, and when that is less than the current one the levels around are left down to it;
the part of the indentation deeper than the level reached, if it falls short of the level
it was in, is an error. Elsewhere the indentation adds to the next level. -/
def yamlSaveIndent (k : TokenKind) (start : Bool) : Callback := fun _ h c =>
  let y := YamlIndent.load c
  let text := h.whole
  let (y, text, extra) :=
    if start then
      let y := { y with next := levelOf text }
      if y.next < y.current then
        let y := YamlIndent.dedent (y.outer.length + 1) y
        if y.next > y.current then (y, sliceText text 0 y.current, sliceText text y.current text.length)
        else (y, text, "")
      else (y, text, "")
    else ({ y with next := y.next + levelOf text }, text, "")
  let ts := (if text.isEmpty then [] else [⟨h.start, k, text⟩]) ++
    (if extra.isEmpty then [] else [⟨h.start + text.length, k.child "Error", extra⟩])
  (ts, (y.store c).past h)

/-- An indicator that opens a level: the next level becomes the current one if it is
deeper, and unless the indicator is `implicit` it adds to the next level. -/
def yamlSetIndent (k : TokenKind) (implicit : Bool) : Callback := fun _ h c =>
  let y := (YamlIndent.load c).indentIn
  let y := if implicit then y else { y with next := y.next + levelOf h.whole }
  ([⟨h.start, k, h.whole⟩], (y.store c).past h)

/-- The header of a block scalar: a digit in it is the indentation of the scalar, counted
from the current level. An empty header gives nothing and leaves the cursor. -/
def yamlSetBlockScalarIndent (k : TokenKind) : Callback := fun _ h c =>
  let y := { YamlIndent.load c with blockScalar := none }
  if h.whole.isEmpty then ([], y.store c)
  else
    let y := match h.group? 1 with
      | some d =>
        if d.isEmpty then y else { y with blockScalar := some (max y.current 0 + (d.toNat?.getD 0 : Nat)) }
      | none => y
    ([⟨h.start, k, h.whole⟩], (y.store c).past h)

/-- A line of blanks in a block scalar: the blanks beyond the indentation of the scalar
are content. -/
def yamlBlockScalarEmptyLine (indentKind contentKind : TokenKind) : Callback := fun _ h c =>
  let y := YamlIndent.load c
  let text := h.whole
  let ts := match y.blockScalar with
    | some b =>
      if levelOf text ≤ b then (if text.isEmpty then [] else [⟨h.start, indentKind, text⟩])
      else
        [⟨h.start, indentKind, sliceText text 0 b⟩, ⟨h.start + b.toNat, contentKind, sliceText text b text.length⟩]
    | none => if text.isEmpty then [] else [⟨h.start, indentKind, text⟩]
  (ts, c.past h)

/-- Leave two states, the way a list drops its last two items. -/
def dropTwo (c : Cursor) : Cursor := { c with stack := c.stack.drop 2 }

/-- The indentation of a line in a block scalar. The first line gives the scalar its
indentation, which must be deeper than the current level; a line indented less than the
scalar ends it, and the block with it, and is read again outside. -/
def yamlBlockScalarIndent (k : TokenKind) : Callback := fun _ h c =>
  let y := YamlIndent.load c
  let text := h.whole
  let ends : Bool × YamlIndent := match y.blockScalar with
    | none => (levelOf text ≤ max y.current 0, { y with blockScalar := some (levelOf text) })
    | some b => (levelOf text < b, y)
  if ends.1 then ([], dropTwo c)
  else if text.isEmpty then ([], ends.2.store c)
  else ([⟨h.start, k, text⟩], (ends.2.store c).past h)

/-- The indentation of a line that goes on with a plain scalar: a line not indented deeper
than the current level ends the scalar and the block line, and is read again outside. -/
def yamlPlainScalarIndent (k : TokenKind) : Callback := fun _ h c =>
  let y := YamlIndent.load c
  let text := h.whole
  if levelOf text ≤ y.current then ([], dropTwo c)
  else if text.isEmpty then ([], c)
  else ([⟨h.start, k, text⟩], c.past h)

open Rule in
def yamlStates : List StateDef :=
  let indicator : TokenKind := ⟨["Punctuation", "Indicator"]⟩
  let plainScalar : TokenKind := ⟨["Literal", "Scalar", "Plain"]⟩
  let call (f : Callback) : Action := .call f
  [("root",
    [tok "[ ]+(?=#|$)" .whitespace, tok "\\n+" .whitespace, tok "#[^\\n]*" .commentSingle,
     rx "^%YAML(?=[ ]|$)" (call (yamlResetIndent .nameTag)) [.enter "yaml-directive"],
     rx "^%TAG(?=[ ]|$)" (call (yamlResetIndent .nameTag)) [.enter "tag-directive"],
     rx "^(?:---|\\.\\.\\.)(?=[ ]|$)" (call (yamlResetIndent .nameNamespace)) [.enter "block-line"],
     rx "[ ]*(?!\\s|$)" (call (yamlSaveIndent .whitespace true))
       [.enter "block-line", .enter "indentation"]]),
   ("ignored-line",
    [tok "[ ]+(?=#|$)" .whitespace, tok "#[^\\n]*" .commentSingle,
     tokGo "\\n" .whitespace [.pop, .pop]]),
   ("yaml-directive",
    [rx "([ ]+)([0-9]+\\.[0-9]+)" (.kinds [some .whitespace, some .number]) [.enter "ignored-line"]]),
   ("tag-directive",
    [rx "([ ]+)(!|![\\w-]*!)([ ]+)(!|!?[\\w;/?:@&=+$,.!~*\\'()\\[\\]%-]+)"
      (.kinds [some .whitespace, some .keywordType, some .whitespace, some .keywordType])
      [.enter "ignored-line"]]),
   ("indentation",
    [rx "[ ]*$" (call (yamlSomething .whitespace)) [.pop, .pop],
     rx "[ ]+(?=[?:-](?:[ ]|$))" (call (yamlSaveIndent .whitespace false)) [],
     rx "[?:-](?=[ ]|$)" (call (yamlSetIndent indicator false)) [],
     rx "[ ]*" (call (yamlSaveIndent .whitespace false)) [.pop]]),
   ("block-line",
    [rx "[ ]*(?=#|$)" (call (yamlSomething .whitespace)) [.pop], tok "[ ]+" .whitespace,
     rx "([^#,?\\[\\]\x7b\x7d\"'\\n]+)(:)(?=[ ]|$)"
       (.groups [some (.token .nameTag), some (call (yamlSetIndent .punctuation true))]) [],
     .include "descriptors", .include "block-nodes", .include "flow-nodes",
     rx "(?=[^\\s?:,\\[\\]\x7b\x7d#&*!|>\\'\"%@`-]|[?:-]\\S)" (call (yamlSomething .nameVariable))
       [.enter "plain-scalar-in-block-context"]]),
   ("descriptors",
    [tok "!<[\\w#;/?:@&=+$,.!~*\\'()\\[\\]%-]+>" .keywordType,
     tok "!(?:[\\w-]+!)?[\\w#;/?:@&=+$,.!~*\\'()\\[\\]%-]*" .keywordType,
     tok "&[\\w-]+" .nameLabel, tok "\\*[\\w-]+" .nameVariable]),
   ("block-nodes",
    [rx ":(?=[ ]|$)" (call (yamlSetIndent indicator true)) [],
     tokGo "[|>]" indicator [.enter "block-scalar-content", .enter "block-scalar-header"]]),
   ("flow-nodes",
    [tokGo "\\[" indicator [.enter "flow-sequence"], tokGo "\\\x7b" indicator [.enter "flow-mapping"],
     tokGo "\\'" .string [.enter "single-quoted-scalar"],
     tokGo "\\\"" .string [.enter "double-quoted-scalar"]]),
   ("flow-collection",
    [tok "[ ]+" .whitespace, tok "\\n+" .whitespace, tok "#[^\\n]*" .commentSingle,
     tok "[?:,]" indicator, .include "descriptors", .include "flow-nodes",
     rx "(?=[^\\s?:,\\[\\]\x7b\x7d#&*!|>\\'\"%@`])" (call (yamlSomething .nameVariable))
       [.enter "plain-scalar-in-flow-context"]]),
   ("flow-sequence", [.include "flow-collection", tokGo "\\]" indicator [.pop]]),
   ("flow-mapping",
    [rx "([^,:?\\[\\]\x7b\x7d\"'\\n]+)(:)(?=[ ]|$)" (.kinds [some .nameTag, some .punctuation]) [],
     .include "flow-collection", tokGo "\\\x7d" indicator [.pop]]),
   ("block-scalar-content",
    [tok "\\n" .whitespace,
     rx "^[ ]+$" (call (yamlBlockScalarEmptyLine .whitespace .nameConstant)) [],
     rx "^[ ]*" (call (yamlBlockScalarIndent .whitespace)) [], tok "[\\S\\t ]+" .nameConstant]),
   ("block-scalar-header",
    [rx "([1-9])?[+-]?(?=[ ]|$)" (call (yamlSetBlockScalarIndent indicator)) [.enter "ignored-line"],
     rx "[+-]?([1-9])?(?=[ ]|$)" (call (yamlSetBlockScalarIndent indicator)) [.enter "ignored-line"]]),
   ("quoted-scalar-whitespaces",
    [tok "^[ ]+" .whitespace, tok "[ ]+$" .whitespace, tok "\\n+" .whitespace,
     tok "[ ]+" .nameVariable]),
   ("single-quoted-scalar",
    [.include "quoted-scalar-whitespaces", tok "\\'\\'" .stringEscape, tok "[^\\s\\']+" .string,
     tokGo "\\'" .string [.pop]]),
   ("double-quoted-scalar",
    [.include "quoted-scalar-whitespaces", tok "\\\\[0abt\\tn\\nvfre \"\\\\N_LP]" .string,
     tok "\\\\(?:x[0-9A-Fa-f]\x7b2\x7d|u[0-9A-Fa-f]\x7b4\x7d|U[0-9A-Fa-f]\x7b8\x7d)" .stringEscape,
     tok "[^\\s\"\\\\]+" .string, tokGo "\"" .string [.pop]]),
   ("plain-scalar-in-block-context-new-line",
    [tok "^[ ]+$" .whitespace, tok "\\n+" .whitespace,
     rx "^(?=---|\\.\\.\\.)" (call (yamlSomething .nameNamespace)) [.pop, .pop, .pop],
     rx "^[ ]*" (call (yamlPlainScalarIndent .whitespace)) [.pop]]),
   ("plain-scalar-in-block-context",
    [rx "[ ]*(?=:[ ]|:$)" (call (yamlSomething .whitespace)) [.pop],
     tokGo "[ ]+(?=#)" .whitespace [.pop], tok "[ ]+$" .whitespace,
     tokGo "\\n+" .whitespace [.enter "plain-scalar-in-block-context-new-line"],
     tok "[ ]+" plainScalar, tok "(?::(?!\\s)|[^\\s:])+" plainScalar]),
   ("plain-scalar-in-flow-context",
    [rx "[ ]*(?=[,:?\\[\\]\x7b\x7d])" (call (yamlSomething .whitespace)) [.pop],
     tokGo "[ ]+(?=#)" .whitespace [.pop], tok "^[ ]+" .whitespace, tok "[ ]+$" .whitespace,
     tok "\\n+" .whitespace, tok "[ ]+" .nameVariable, tok "[^\\s,:?\\[\\]\x7b\x7d]+" .nameVariable])]

def yamlGrammar : Grammar :=
  { className := "YamlLexer", layers := [yamlStates], extended := true }

theorem YamlIndent.store_load (y : YamlIndent) (c : Cursor) :
    (YamlIndent.load (y.store c)).current = y.current := by
  simp [YamlIndent.load, YamlIndent.store, Cursor.recall, Cursor.remember, List.lookup_cons]

end Highlight.Lexers
