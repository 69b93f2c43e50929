import Std.Data.HashSet
import Highlight.Language
import Highlight.Chars.Lower
import Highlight.Lexers.Lines

/-!
# Actions written as code

Most actions of a grammar say which kind each group of a match gets. The actions here need
more: they remember something across matches (the bracket that opened an entry, the stacks
saved at a preprocessor branch, the names a program defines), look the matched word up in
lists, or lex a piece of the match with another grammar. Each is a `Callback`: it gets the
match and the cursor and gives the tokens and the cursor after them.
-/

set_option autoImplicit false

namespace Highlight.Lexers

/-- The token of group `i` of a match, if the group matched. -/
def groupToken (h : Hit) (i : Nat) (k : TokenKind) : List Token :=
  match h.span? i with
  | some (a, b) => [⟨a, k, h.slice a b⟩]
  | none => []

/-! ## Brackets that must pair up -/

/-- An entry opens with a brace or a bracket; it is remembered so that the closing one can
be checked. -/
def bibOpenBrace : Callback := fun _ h c =>
  ([⟨h.start, .punctuation, h.whole⟩], (c.remember "opening_brace" (.text h.whole)).past h)

/-- A closing brace or bracket that does not match the opening one is an error. -/
def bibCloseBrace : Callback := fun _ h c =>
  let close := h.whole
  let bad := match c.recall "opening_brace" with
    | some (.text "\x7b") => close != "\x7d"
    | some (.text "(") => close != ")"
    | _ => false
  ([⟨h.start, if bad then .error else .punctuation, close⟩], (c.forget "opening_brace").past h)

/-! ## Numbers -/

/-- A decimal number is a float when it has a point. -/
def schemeDecimal : Callback := fun _ h c =>
  let t := h.whole
  ([⟨h.start, if t.toList.contains '.' then .numberFloat else .numberInteger, t⟩], c.past h)

/-! ## Preprocessor branches -/

/-- The stacks saved at each open `#if`, innermost first. -/
def savedStacks (c : Cursor) : List Memo :=
  match c.recall "preproc_stack" with
  | some (.list xs) => xs
  | _ => []

def stackMemo (stack : List String) : Memo := .list (stack.map .text)

def memoStack : Memo → Option (List String)
  | .list xs => some (xs.filterMap fun | .text s => some s | _ => none)
  | _ => none

/-- A preprocessor directive of Haxe: `#if` saves the stack, `#else` and `#elseif` go back
to it, `#end` drops it; a condition follows `#if` and `#elseif`, a message may follow
`#error`. -/
def haxePreproc : Callback := fun _ h c =>
  let proc := h.group 2
  let saved := savedStacks c
  let c := if proc == "if" then c.remember "preproc_stack" (.list (stackMemo c.stack :: saved))
    else if proc == "else" || proc == "elseif" then
      match saved.head?.bind memoStack with
      | some st => { c with stack := st }
      | none => c
    else if proc == "end" then
      match saved with
      | _ :: rest => c.remember "preproc_stack" (.list rest)
      | [] => c
    else c
  let c := if proc == "if" || proc == "elseif" then c.enter "preproc-expr" else c
  let c := if proc == "error" then c.enter "preproc-error" else c
  ([⟨h.start, .commentPreproc, "#" ++ proc⟩], c.past h)

/-! ## Words looked up in lists -/

/-- Standard ML: a qualifier of a long name is a namespace, unless it is reserved. -/
def smlLongId (alphanumReserved : Std.HashSet String) : Callback := fun _ h c =>
  let k : TokenKind := if alphanumReserved.contains (h.group 1) then .error else .nameNamespace
  (groupToken h 1 k ++ groupToken h 2 .punctuation, c.past h)

/-- Standard ML: the name after `end` and the like. -/
def smlEndId (alphanumReserved symbolicReserved : Std.HashSet String) : Callback := fun _ h c =>
  let w := h.group 1
  let k : TokenKind :=
    if alphanumReserved.contains w || symbolicReserved.contains w then .error else .name
  (groupToken h 1 k, c.past h)

/-- Standard ML: a name, which may be a reserved word or reserved punctuation. -/
def smlId (alphanumReserved symbolicReserved : Std.HashSet String) : Callback := fun _ h c =>
  let w := h.group 1
  let k : TokenKind :=
    if alphanumReserved.contains w then .keywordReserved
    else if symbolicReserved.contains w then .punctuation else .name
  (groupToken h 1 k, c.past h)

/-- DCPU-16 assembly: an identifier that names a register is a variable, any other one a
label. -/
def dasm16Identifier (registers : Std.HashSet String) : Callback := fun _ h c =>
  let w := h.whole
  let k : TokenKind := if registers.contains w.toUpper then .nameVariable else .nameLabel
  ([⟨h.start, k, w⟩], c.past h)

/-- The first of some compiled patterns that matches at the start of a word gives its kind,
else `fallback`. -/
def classifyWord (rules : List (Pattern.Compiled × TokenKind)) (fallback : TokenKind) :
    Callback := fun _ h c =>
  let w := h.whole
  let cs := w.toList.toArray
  let k := match rules.find? fun (p, _) => (p.matchAt cs 0 cs.size).isSome with
    | some (_, k) => k
    | none => fallback
  ([⟨h.start, k, w⟩], c.past h)

/-- Rules for `classifyWord` from pattern texts, each read with no flags; a pattern that
cannot be read is left out. -/
def compileRules (rules : List (String × TokenKind)) : List (Pattern.Compiled × TokenKind) :=
  rules.filterMap fun (p, k) =>
    match Pattern.read p {} with
    | .ok c => some (c, k)
    | .error _ => none

/-! ## Names a program defines -/

/-- The opcodes that the text has defined so far. -/
def definedOpcodes (c : Cursor) : List String :=
  match c.recall "user_defined_opcodes" with
  | some (.list xs) => xs.filterMap fun | .text s => some s | _ => none
  | _ => []

/-- Csound: the name of an opcode being defined. -/
def csoundOpcodeName : Callback := fun _ h c =>
  let w := h.whole
  let known := definedOpcodes c
  let c := if known.contains w then c
    else c.remember "user_defined_opcodes" (.list ((known ++ [w]).map .text))
  ([⟨h.start, .nameFunction, w⟩], c.past h)

/-- The type prefix of a Csound variable name and the rest: an optional `g`, one of
`a f i k S w`, then at least one more character. -/
def csoundTypePrefix (name : String) : Option (String × String) :=
  let isType (ch : Char) : Bool := "afikSw".toList.contains ch
  match name.toList with
  | 'g' :: t :: rest@(_ :: _) =>
    if isType t then some (String.ofList ['g', t], String.ofList rest) else none
  | t :: rest@(_ :: _) => if isType t then some (String.singleton t, String.ofList rest) else none
  | _ => none

/-- Csound: a name is a builtin opcode, an opcode the text defined, or a variable whose
first letters give its type; an annotation after a colon is its type. The offsets of the
pieces of a variable are counted from the start of the name. -/
def csoundName (opcodes : Std.HashSet String) : Callback := fun _ h c =>
  let name := h.group 1
  let (first, annotation) : List Token × TokenKind :=
    if opcodes.contains name then ([⟨h.start, .nameBuiltin, name⟩], .keywordType)
    else if (definedOpcodes c).contains name then ([⟨h.start, .nameFunction, name⟩], .keywordType)
    else match csoundTypePrefix name with
      | some (t, rest) => ([⟨0, .keywordType, t⟩, ⟨t.length, .name, rest⟩], .name)
      | none => ([⟨h.start, .name, name⟩], .name)
  let tail := if (h.group 2).isEmpty then []
    else groupToken h 2 .punctuation ++ groupToken h 3 annotation
  (first ++ tail, c.past h)

/-! ## Strings with escapes chosen by the program -/

/-- The characters that open and close an escape in Snowball strings, as the text has set
them (a quote by default). -/
def snowballEscapes (c : Cursor) : Char × Char :=
  let get (key : String) : Char :=
    match c.recall key with
    | some (.text s) => s.toList.headD '\''
    | _ => '\''
  (get "escape_start", get "escape_end")

/-- Snowball: `stringescapes` sets the characters that open and close an escape. -/
def snowballSetEscapes : Callback := fun _ h c =>
  let c := (c.remember "escape_start" (.text (h.group 3))).remember "escape_end" (.text (h.group 5))
  let ts := [groupToken h 1 .keywordReserved, groupToken h 2 .whitespace,
    groupToken h 3 .stringEscape, groupToken h 4 .whitespace, groupToken h 5 .stringEscape].flatten
  (ts.filter (·.text != ""), c.past h)

/-- Where the piece of `text` from `pos` ends: at the first `stop`, or at the last character
when there is none. -/
def pieceEnd (text : Array Char) (pos : Nat) (stop : Char) : Nat :=
  match (List.range (text.size - pos)).find? (fun i => text.getD (pos + i) ' ' == stop) with
  | some i => pos + i
  | none => text.size - 1

/-- How a Snowball string scan leaves the stack: the string is over, or an escape goes on
past the match. -/
inductive StringEnd
  | closed
  | inEscape

/-- The loop of `snowballString` from `pos`: the tokens (last first), how it ends, and where.
A string part runs up to the escape opener, an escape part up to the escape closer. -/
def snowballScan (start stop : Char) (text : Array Char) (s : Nat) :
    Nat → Nat → Bool → List Token → List Token × Option StringEnd × Nat
  | 0, pos, _, acc => (acc, none, pos)
  | fuel + 1, pos, doString, acc =>
    let piece (a b : Nat) : String := String.ofList (text.extract a b).toList
    if pos ≥ text.size then (acc, none, pos)
    else
      let part : Sum (List Token × Nat) (List Token × Nat) :=
        if doString then
          let j := pieceEnd text pos start
          let acc := ⟨s + pos, .stringSingle, piece pos j⟩ :: acc
          if text.getD j ' ' == '\'' then .inl (⟨s + j, .stringSingle, "'"⟩ :: acc, j + 1)
          else .inr (⟨s + j, .stringEscape, piece j (j + 1)⟩ :: acc, j + 1)
        else .inr (acc, pos)
      match part with
      | .inl (acc, e) => (acc, some .closed, e)
      | .inr (acc, pos) =>
        if pos ≥ text.size then (acc, none, pos)
        else
          let k := pieceEnd text pos stop
          let acc := ⟨s + pos, .stringEscape, piece pos (k + 1)⟩ :: acc
          if text.getD k ' ' != stop then (acc, some .inEscape, k + 1)
          else snowballScan start stop text s fuel (k + 1) true acc

/-- Snowball: the text of a string up to its closing quote, with the escapes marked; at the
end of the match the string is over, or an escape goes on past it. -/
def snowballString (doStringFirst : Bool) : Callback := fun _ h c =>
  let (start, stop) := snowballEscapes c
  let text := (h.whole.toList).toArray
  let (acc, ended, e) := snowballScan start stop text h.start (text.size + 1) 0 doStringFirst []
  let c := match ended with
    | some .closed => c.pop
    | some .inEscape => { c with stack := "escape" :: c.stack.drop 1 }
    | none => c
  (acc.reverse, { c with pos := h.start + e })

/-! ## Lexing a piece again -/

/-- Fixed-form Fortran: the code of a line is lexed as free-form Fortran, without its line
break; the offsets are those within the line. -/
def fortranLine : Callback := fun env h c =>
  let (ts, c) := env.sublexAt c (some "FortranLexer") [] none (h.whole ++ "\n")
  let ts := ts.filterMap fun t =>
    let v := String.ofList (t.text.toList.filter (· != '\n'))
    if v.isEmpty then none else some { t with text := v }
  (ts, c.past h)

/-- A string with a language name after an exclamation mark: its code is lexed with that
language when there is one (and the option allows it), with offsets within the code. -/
def annotatedString : Callback := fun env h c =>
  let head := groupToken h 1 .stringDouble ++ groupToken h 2 .stringInterpol ++
    groupToken h 3 .stringInterpol ++ groupToken h 4 .whitespace
  let on := match env.options.flag "handle_annotateds" true with
    | .ok b => b
    | .error _ => true
  let code := h.group 5
  let lexed : Option (List Token × Cursor) :=
    if on then env.byAliasAt c (h.group 3).trimAscii.toString [] code else none
  let (body, c) : List Token × Cursor := match lexed with
    | some (ts, c) => (ts, c)
    | none => ([⟨((h.span? 5).map (·.1)).getD h.start, .string, code⟩], c)
  (head ++ body ++ groupToken h 6 .stringDouble, c.past h)

/-- A mail header whose name starts with `X-`: lowlighted, or with the option
`highlight-X-header` the name as a tag and the value lexed as a header value (offsets
within the value). -/
def xHeader : Callback := fun env h c =>
  let on := match env.options.flag "highlight-X-header" false with
    | .ok b => b
    | .error _ => false
  if on then
    let (ts, c) := env.sublexAt c none env.options (some ["root", "header"]) (h.group 2)
    (groupToken h 1 .nameTag ++ ts, c.past h)
  else (groupToken h 1 .commentSpecial ++ groupToken h 2 .commentMultiline, c.past h)

/-! ## Stacks changed by hand -/

/-- Slash: a closing brace of an interpolation also leaves the string state below it. -/
def slashCloseInterpolation : Callback := fun _ h c =>
  let c := match c.stack with
    | _ :: "string" :: _ => c.pop
    | _ => c
  ([⟨h.start, .stringInterpol, "\x7d"⟩], c.past h)

/-- Urbiscript: a binary blob `\B(n)(...)` inside a string holds `n` characters; when the
text after it does not close the blob there, its head is plain string. -/
def urbiBlob : Callback := fun _ h c =>
  let before := h.group 1
  let size := (h.group 3).toNat?.getD 0
  let first : Token := ⟨h.start, .string, before⟩
  let closeAt := h.stop + size
  if h.text.getD closeAt ' ' != ')' then
    let head := "\\B(" ++ h.group 3 ++ ")("
    ([first, ⟨h.start, .string, head⟩], { c with pos := c.pos + before.length + head.length })
  else
    let blob := h.group 2 ++ h.slice h.stop closeAt ++ ")"
    ([first, ⟨h.start, .stringEscape, blob⟩], { c with pos := closeAt + 1 })

/-! ## Blocks by indentation -/

/-- The indentation of a line: a line indented deeper than the line that opened a block
goes on in the block's state; any other line ends the block and starts content. -/
def indentation : Callback := fun _ h c =>
  let ind := h.whole
  let c := (c.remember "last_indentation" (.text ind)).past h
  let inBlock := match c.recall "block_state", c.recall "block_indentation" with
    | some (.text st), some (.text bi) =>
      if !st.isEmpty && ind.startsWith bi && ind != bi then some st else none
    | _, _ => none
  let c := match inBlock with
    | some st => c.enter st
    | none => ((c.forget "block_state").forget "block_indentation").enter "content"
  ([⟨h.start, .whitespace, ind⟩], c)

/-- A line that opens a block: the lines indented deeper than it are lexed in `state`. -/
def startsBlock (k : TokenKind) (state : String) : Callback := fun _ h c =>
  let ind := match c.recall "last_indentation" with
    | some (.text i) => i
    | _ => ""
  ([⟨h.start, k, h.whole⟩],
    ((c.remember "block_indentation" (.text ind)).remember "block_state" (.text state)).past h)

/-! ## Quoting constructs that nest -/

/-- The first place at or after `start` where `sub` stands in `cs`. -/
def findFrom (cs : Array Char) (sub : List Char) (start : Nat) : Option Nat :=
  (List.range (cs.size + 1 - start)).findSome? fun k =>
    let i := start + k
    if sub.isPrefixOf (cs.extract i cs.size).toList then some i else none

/-- A pattern that matches a text literally: each character that has a meaning in patterns
gets a backslash. -/
def escapePattern (s : String) : String :=
  String.ofList (s.toList.flatMap fun c =>
    if "()[]\x7b\x7d?*+-|^$\\.&~# \t\n\r\x0b\x0c".toList.contains c then ['\\', c] else [c])

/-- Where a bracketed construct that opens with `opening` at `start` closes: for a bracket
that pairs with `closer` the closing run at the same depth of nesting, for any other
character its next run. -/
def bracketEnd (text : Array Char) (opening : List Char) (closer : Option Char) (start : Nat) : Nat :=
  let n := opening.length
  match closer with
  | none => (findFrom text opening (start + n)).getD text.size
  | some close =>
    let closing := List.replicate n close
    -- the search goes from run to run: an opening run one level deeper, a closing run one
    -- level up, until the level of the construct itself closes
    let (_, _, stop) := (List.range (text.size + 1)).foldl (fun (state : Nat × Nat × Option Nat) _ =>
      match state with
      | (_, _, some _) => state
      | (pos, level, none) =>
        match findFrom text closing (pos + n) with
        | none => (pos, level, some text.size)
        | some c =>
          match findFrom text opening (pos + n) with
          | some o => if o < c then (o, level + 1, none) else if level ≤ 1 then (c, 0, some c) else (c, level - 1, none)
          | none => if level ≤ 1 then (c, 0, some c) else (c, level - 1, none)) (start, 1, none)
    stop.getD text.size

/-- A quoting construct of Perl 6 whose delimiter is a run of one character: it runs to
the matching run of the closing bracket, counting nesting, or for a character that is not a
bracket to its next run; with the adverb `:to` it is a heredoc that runs to the line that
holds the terminator. The whole construct is one token. -/
def perl6Brackets (pairs : Array (String × String)) (k : TokenKind) : Callback := fun _ h c =>
  let (dStart, dStop) := (h.named? "delimiter").getD (h.start, h.start)
  let opening := (h.text.extract dStart dStop).toList
  let n := opening.length
  let closer := (opening.head?.bind fun o => (pairs.find? (·.1 == String.singleton o)).map (·.2)).bind
    (·.toList.head?)
  let e := bracketEnd h.text opening closer dStart
  let e := match h.named? "adverbs" with
    | some (a, b) =>
      if (search? (pattern r":to\b") (h.slice a b)).isSome then
        let terminator := h.slice (dStart + n) e
        let rest := h.slice e h.text.size
        match search? (pattern ("^\\s*" ++ escapePattern terminator ++ "\\s*$") { multiline := true }) rest with
        | some m => e + m.stop
        | none => h.text.size
      else e
    | none => e
  ([⟨h.start, k, h.slice h.start (e + n)⟩], { c with pos := e + n })

/-- The depth of braces inside a token rule of Perl 6. -/
def perl6Depth (c : Cursor) : Int :=
  match c.recall "perl6_token_nesting_level" with
  | some (.num d) => d
  | _ => 0

/-- An opening brace of Perl 6: inside a rule, one level deeper. -/
def perl6OpenBrace : Callback := fun _ h c =>
  let c := c.past h
  let c := match c.stack with
    | _ :: "token" :: _ :: _ => c.remember "perl6_token_nesting_level" (.num (perl6Depth c + 1))
    | _ => c
  ([⟨h.start, .text, h.whole⟩], c)

/-- A closing brace of Perl 6: inside a rule, one level up, and back in the rule when the
code block in it closes. -/
def perl6CloseBrace : Callback := fun _ h c =>
  let c := c.past h
  let c := match c.stack with
    | _ :: "token" :: _ :: _ =>
      let d := perl6Depth c - 1
      let c := c.remember "perl6_token_nesting_level" (.num d)
      if d == 0 then c.pop else c
    | _ => c
  ([⟨h.start, .text, h.whole⟩], c)

/-- A code block inside a rule of Perl 6: lexed as code, one level of braces deep. -/
def perl6EmbeddedCode : Callback := fun _ h c =>
  ([⟨h.start, .text, h.whole⟩], ((c.remember "perl6_token_nesting_level" (.num 1)).past h).enter "root")

end Highlight.Lexers
