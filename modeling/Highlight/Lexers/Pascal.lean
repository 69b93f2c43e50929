import Std.Data.HashSet
import Highlight.Lexers.Lines
import Highlight.Chars.Lower

/-!
# Pascal

Pascal and its dialects (Turbo Pascal, Delphi, Free Pascal, and Portugol with keywords in
Portuguese) are lexed by a scanner that reads one token at a time, with patterns read
without regard to case, and remembers where it stands: inside a string or an assembler
block, after a keyword that declares a function or a property (the next name is its name),
in the heading of a routine (where modifiers are keywords), after `label` or `goto` (the
names that follow are labels, and stay labels in the block), and whether the last token
that was not blank was a dot (then a builtin name is a field, not a builtin).

Every step reads at least one character, so the scanner needs at most as many steps as
the text has characters.
-/

set_option autoImplicit false

namespace Highlight.Lexers

structure PascalWords where
  turbo : Std.HashSet String
  delphi : Std.HashSet String
  free : Std.HashSet String
  blockKeywords : Std.HashSet String
  modifiers : Std.HashSet String
  directives : Std.HashSet String
  types : Std.HashSet String
  units : List (String × Std.HashSet String)
  registers : Std.HashSet String
  instructions : Std.HashSet String
  portugolKeywords : Std.HashSet String
  portugolTypes : Std.HashSet String

/-- What a Pascal lexer knows from its options: the keywords, the builtin names, and
whether it lexes Portugol. -/
structure PascalDialect where
  keywords : String → Bool
  builtins : String → Bool
  portugol : Bool

/-- The dialect that the options choose: Portugol, or the keywords of Turbo Pascal, Delphi
and Free Pascal as switched on, with the builtins of the units named. -/
def PascalWords.dialect (w : PascalWords) (opts : Options) : PascalDialect :=
  let flag (name : String) (d : Bool) : Bool := match opts.flag name d with
    | .ok b => b
    | .error _ => d
  if flag "portugol" false then ⟨w.portugolKeywords.contains, w.portugolTypes.contains, true⟩
  else
    let units : List String := match opts.list "units" (w.units.map fun (u, _) => .str u) with
      | .ok vs => vs.filterMap fun | .str s => some s | _ => none
      | .error _ => w.units.map (·.1)
    let sets : List (Std.HashSet String) := units.filterMap fun u => List.lookup u w.units
    ⟨fun n => (flag "turbopascal" true && w.turbo.contains n) || (flag "delphi" true && w.delphi.contains n) ||
        (flag "freepascal" true && w.free.contains n),
      fun n => sets.any fun (ws : Std.HashSet String) => ws.contains n, false⟩

/-- A pattern of the Pascal scanner: read without regard to case, with `.` matching line
breaks and `^` and `$` at every line. -/
def pascalPattern (source : String) : Pattern.Compiled :=
  pattern source { ignoreCase := true, multiline := true, dotAll := true }

/-- The patterns of the Pascal scanner. -/
structure PascalPatterns where
  blank : Pattern.Compiled := pascalPattern r"\s+"
  comment : Pattern.Compiled := pascalPattern r"\{.*?\}|\(\*.*?\*\)"
  lineComment : Pattern.Compiled := pascalPattern r"//.*?$"
  portugolOperator : Pattern.Compiled :=
    pascalPattern r"(<\-)|(>=)|(<=)|%|<|>|-|\+|\*|\=|(<>)|\/|\.|:|,"
  operator : Pattern.Compiled := pascalPattern r"[-+*\/=<>:;,.@\^]"
  operators : Pattern.Compiled := pascalPattern r"[-+*\/=<>:;,.@\^]+"
  brackets : Pattern.Compiled := pascalPattern r"[\(\)\[\]]+"
  name : Pattern.Compiled := pascalPattern r"[A-Za-z_][A-Za-z_0-9]*"
  asmLabel : Pattern.Compiled := pascalPattern r"@@[A-Za-z_][A-Za-z_0-9]*"
  asmEnd : Pattern.Compiled := pascalPattern r"end"
  doubleQuote : Pattern.Compiled := pascalPattern "\""
  quote : Pattern.Compiled := pascalPattern "'"
  quotes : Pattern.Compiled := pascalPattern "''"
  notQuote : Pattern.Compiled := pascalPattern "[^']*"
  notDoubleQuote : Pattern.Compiled := pascalPattern "[^\"]*"
  charCode : Pattern.Compiled := pascalPattern r"\#(\d+|\$[0-9A-Fa-f]+)"
  hex : Pattern.Compiled := pascalPattern r"\$[0-9A-Fa-f]+"
  integer : Pattern.Compiled := pascalPattern r"\d+(?![eE]|\.[^.])"
  float : Pattern.Compiled := pascalPattern r"\d+(\.\d+([eE][+-]?\d+)?|[eE][+-]?\d+)"
  anyChar : Pattern.Compiled := pascalPattern "."
  dot : Pattern.Compiled := pascalPattern r"\s*\.\s*"

/-- Where the Pascal scanner stands. -/
structure PascalScan where
  pos : Nat := 0
  stack : List String := ["initial"]
  inFunction : Bool := false
  inProperty : Bool := false
  wasDot : Bool := false
  nextFunction : Bool := false
  nextProperty : Bool := false
  collectLabels : Bool := false
  labels : List String := []
  parens : Int := 0
  squares : Int := 0
  /-- The last text read and where it started. -/
  lastStart : Nat := 0
  lastMatch : String := ""

namespace PascalScan

/-- The state on top of the stack. -/
def top (s : PascalScan) : String := s.stack.headD "initial"

/-- Leave the top state, keeping at least one. -/
def popState (s : PascalScan) : PascalScan :=
  match s.stack with
  | _ :: rest@(_ :: _) => { s with stack := rest }
  | _ => s

end PascalScan

/-- Read a pattern at the scanner's offset: the scanner after the match, if it matches. -/
def PascalScan.scan (text : Array Char) (s : PascalScan) (p : Pattern.Compiled) : Option PascalScan :=
  (p.matchAt text s.pos text.size).map fun m =>
    { s with pos := m.stop, lastStart := m.start,
             lastMatch := String.ofList (text.extract m.start m.stop).toList }

/-- The first of several readings that matches, each with the kind its text gets. -/
def firstScan (text : Array Char) (s : PascalScan) :
    List (Bool × Pattern.Compiled × (PascalScan → PascalScan × TokenKind)) → Option (PascalScan × TokenKind)
  | [] => none
  | (on, p, k) :: rest =>
    if on then
      match s.scan text p with
      | some s' => some (k s')
      | none => firstScan text s rest
    else firstScan text s rest

/-- The kind of a name in the main state, and the scanner after it. -/
def pascalName (w : PascalWords) (d : PascalDialect) (ps : PascalPatterns) (text : Array Char)
    (s : PascalScan) : PascalScan × TokenKind :=
  let n := Chars.lowerText s.lastMatch
  let pg := d.portugol
  if n == "result" then (s, .nameBuiltinPseudo)
  else if d.keywords n then
    if pg then
      if n == "funcao" || n == "procedimento" then ({ s with inFunction := true, nextFunction := true }, .keyword)
      else (s, .keyword)
    else
      let s := if (s.inFunction || s.inProperty) && w.blockKeywords.contains n && s.parens ≤ 0 && s.squares ≤ 0 then
          { s with inFunction := false, inProperty := false, parens := 0, squares := 0, labels := [] }
        else s
      let s := if n == "label" || n == "goto" then { s with collectLabels := true }
        else if n == "asm" then { s with stack := "asm" :: s.stack }
        else if n == "property" then { s with inProperty := true, nextProperty := true }
        else if ["procedure", "operator", "function", "constructor", "destructor"].contains n then
          { s with inFunction := true, nextFunction := true }
        else s
      (s, .keyword)
  else if !pg && s.inFunction && w.modifiers.contains n then (s, .keywordPseudo)
  else if !pg && s.inProperty && (n == "read" || n == "write") then ({ s with nextFunction := true }, .keywordPseudo)
  else if s.nextFunction then
    if !pg && s.pos < text.size && (ps.dot.matchAt text s.pos text.size).isSome then (s, .nameClass)
    else
      let s := { s with nextFunction := false }
      (if pg then { s with labels := n :: s.labels } else s, .nameFunction)
  else if !pg && s.nextProperty then ({ s with nextProperty := false }, .nameProperty)
  else if !pg && s.collectLabels then ({ s with labels := n :: s.labels }, .nameLabel)
  else if s.labels.contains n then (s, .nameLabel)
  else if pg && w.portugolTypes.contains n then (s, .keywordType)
  else if !pg && w.types.contains n then (s, .keywordType)
  else if !pg && w.directives.contains n then (s, .keywordPseudo)
  else if !pg && !s.wasDot && d.builtins n then (s, .nameBuiltin)
  else (s, .name)

/-- A bracket in the main state: it ends the naming of a function, and inside the heading
of a routine or a property it counts towards the balance of brackets. -/
def pascalBrackets (s : PascalScan) : PascalScan :=
  let s := { s with nextFunction := false }
  if s.inFunction || s.inProperty then
    match s.lastMatch with
    | "(" => { s with parens := s.parens + 1 }
    | ")" => { s with parens := s.parens - 1 }
    | "[" => { s with squares := s.squares + 1 }
    | "]" => { s with squares := s.squares - 1 }
    | _ => s
  else s

/-- A comment in braces or in parentheses and stars; one that starts with a dollar sign is a
compiler directive. -/
def pascalComment (s : PascalScan) : PascalScan × TokenKind :=
  (s, if s.lastMatch.startsWith "$" then .commentPreproc else .commentMultiline)

/-- One step of the Pascal scanner: the kind of what it read, and where it stands after. -/
def pascalStep (w : PascalWords) (d : PascalDialect) (ps : PascalPatterns) (text : Array Char)
    (s : PascalScan) : PascalScan × TokenKind :=
  let pg := d.portugol
  let plain (k : TokenKind) : PascalScan → PascalScan × TokenKind := fun s => (s, k)
  let fallback (pop : Bool) : PascalScan × TokenKind :=
    let s := if pop then s.popState else s
    ((s.scan text ps.anyChar).getD s, .error)
  match s.top with
  | "initial" =>
    let read := firstScan text s [
      (true, ps.blank, plain .whitespace),
      (!pg, ps.comment, pascalComment),
      (true, ps.lineComment, plain .commentSingle),
      (pg, ps.portugolOperator, plain .operator),
      (!pg, ps.operator, fun s =>
        (if s.collectLabels && s.lastMatch == ";" then { s with collectLabels := false } else s, .operator)),
      (true, ps.brackets, fun s => (pascalBrackets s, .punctuation)),
      (true, ps.name, pascalName w d ps text),
      (pg, ps.doubleQuote, fun s => ({ s with stack := "string" :: s.stack }, .string)),
      (!pg, ps.quote, fun s => ({ s with stack := "string" :: s.stack }, .string)),
      (!pg, ps.charCode, plain .stringChar),
      (!pg, ps.hex, plain .numberHex),
      (true, ps.integer, plain .numberInteger),
      (true, ps.float, plain .numberFloat)]
    read.getD (fallback (s.stack.length > 1))
  | "string" =>
    let read := if pg then firstScan text s [
        (true, ps.quotes, plain .stringEscape),
        (true, ps.doubleQuote, fun s => (s.popState, .string)),
        (true, ps.notDoubleQuote, plain .string)]
      else firstScan text s [
        (true, ps.quotes, plain .stringEscape),
        (true, ps.quote, fun s => (s.popState, .string)),
        (true, ps.notQuote, plain .string)]
    read.getD (let (s, k) := fallback false; (s.popState, k))
  | "asm" =>
    if pg then fallback false
    else
      let read := firstScan text s [
        (true, ps.blank, plain .whitespace),
        (true, ps.asmEnd, fun s => (s.popState, .keyword)),
        (true, ps.comment, pascalComment),
        (true, ps.lineComment, plain .commentSingle),
        (true, ps.quote, fun s => ({ s with stack := "string" :: s.stack }, .string)),
        (true, ps.asmLabel, plain .nameLabel),
        (true, ps.name, fun s =>
          let n := Chars.lowerText s.lastMatch
          (s, if w.instructions.contains n then .keyword
            else if w.registers.contains n then .nameBuiltin else .name)),
        (true, ps.operators, plain .operator),
        (true, ps.brackets, plain .punctuation),
        (true, ps.hex, plain .numberHex),
        (true, ps.integer, plain .numberInteger),
        (true, ps.float, plain .numberFloat)]
      read.getD (let (s, k) := fallback false; (s.popState, k))
  | _ => fallback false

/-- The tokens of the Pascal scanner from where it stands; `fuel` bounds the steps. -/
def pascalTokens (w : PascalWords) (d : PascalDialect) (ps : PascalPatterns) (text : Array Char) :
    Nat → PascalScan → List Token
  | 0, _ => []
  | fuel + 1, s =>
    if s.pos ≥ text.size then []
    else
      let (s, k) := pascalStep w d ps text s
      let s := if !d.portugol && !(strip s.lastMatch).isEmpty then { s with wasDot := s.lastMatch == "." } else s
      ⟨s.lastStart, k, s.lastMatch⟩ :: pascalTokens w d ps text fuel s

/-- Pascal, in the dialect that the options choose. -/
def pascalScanner (w : PascalWords) : Scanner :=
  .plain fun env text _ =>
    pascalTokens w (w.dialect env.options) {} text (text.size + 1) {}

theorem PascalScan.top_initial : ({} : PascalScan).top = "initial" := rfl

end Highlight.Lexers
