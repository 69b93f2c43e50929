import Highlight.Lexers.Lines
import Highlight.Chars.Lower

/-!
# Robot Framework data

Robot Framework data is read row by row. A row is cut into cells, either at runs of two
spaces or more or, when it starts with `| `, at pipes with blanks around them; the runs and
pipes are separators, and every row ends with a line break that is one too. A cell that
starts with `*` in the first column starts a table: settings, variables, test cases (or
tasks) or keywords, by its name; under a table of another name every cell is a comment, as
it is before the first table. A cell that starts with `#` makes it and the rest of its row a
comment.

Each table reads the cells of a row with a reader (`CellReader`) that knows what the cell
before was: a setting name and its values, a variable and its values, the assignments, the
keyword and the arguments of a keyword call, the words of a for loop. A row whose first
cells are empty and which then has `...` goes on with the reader of the row before. A
setting that names a template makes the rows of the test cases after it arguments only.

Last, every piece is searched for variables (`${name}`, `@{name}[index]` and the like, also
nested), whose braces become syntax and whose names become variables.
-/

set_option autoImplicit false

namespace Highlight.Lexers

/-! ## Rows and cells -/

/-- The row of a line: the line without the characters that end it, a carriage return and a
line feed together or one character that ends a line. -/
def rowOfLine (l : String) : String :=
  let cs := l.toList
  let cs :=
    if cs.getLast? == some '\n' && cs.dropLast.getLast? == some '\r' then cs.dropLast.dropLast
    else match cs.getLast? with
      | some c => if endsLine c then cs.dropLast else cs
      | none => cs
  String.ofList cs

/-- The rows of a text: its lines without the characters that end them. -/
def robotRows (s : String) : List String := (splitLinesKeep s).map rowOfLine

/-- The cells of a row between runs of two spaces or more, with the runs: a cell, a run, a
cell and so on, ending with a cell. `cell` is the cell begun (last character first) and
`run` the number of spaces after it. -/
def spaceCellsFrom : List Char → List Char → Nat → List String
  | [], cell, run =>
    if run ≥ 2 then [String.ofList cell.reverse, String.ofList (List.replicate run ' '), ""]
    else [String.ofList (List.replicate run ' ' ++ cell).reverse]
  | ' ' :: rest, cell, run => spaceCellsFrom rest cell (run + 1)
  | c :: rest, cell, run =>
    if run ≥ 2 then
      String.ofList cell.reverse :: String.ofList (List.replicate run ' ') :: spaceCellsFrom rest [c] 0
    else spaceCellsFrom rest (c :: (List.replicate run ' ' ++ cell)) 0

/-- A pipe between cells, with the blanks around it. -/
def pipeSeparator : Pattern.Compiled := pattern r"((?:^| +)\|(?: +|$))"

/-- The cells of the rest of a row after a pipe, with the pipes between them, ending with
the rest after the last pipe; `fuel` is more than the length of the rest. -/
def pipeCellsFrom : Nat → String → List String
  | 0, rest => [rest]
  | fuel + 1, rest =>
    match search? pipeSeparator rest with
    | none => [rest]
    | some m => slice rest 0 m.start :: slice rest m.start m.stop :: pipeCellsFrom fuel (dropChars rest m.stop)

/-- The cells of a row with the separators between them, starting with a separator (empty
for a row separated by spaces) and ending with the line break. -/
def rowCells (row : String) : List String :=
  let cells :=
    if row.startsWith "| " then
      match search? pipeSeparator row with
      | some m => slice row m.start m.stop :: pipeCellsFrom (row.length + 1) (dropChars row m.stop)
      | none => [row]
    else "" :: spaceCellsFrom row.toList [] 0
  cells ++ ["\n"]

/-! ## Names -/

/-- The characters that a character is in lower case, where the capital I with a dot is an
`i` with a combining dot. -/
def robotLower (c : Char) : List Char :=
  if c == '\u0130' then ['i', '\u0307'] else [Chars.lower c]

/-- A name as names are compared: in lower case, without spaces and without the characters
of `remove`. -/
def robotNormal (s : String) (remove : List Char := []) : String :=
  String.ofList ((s.toList.flatMap robotLower).filter fun c => c != ' ' && !remove.contains c)

/-- Whether a cell is one of the words that start the values of a for loop, `IN` and
`IN RANGE`, in any case (a dotless `ı` is a small `i`). -/
def forLoopWord (s : String) : Bool :=
  let up := s.toList.map fun c => if c == '\u0131' then 'I' else c.toUpper
  up == "IN".toList || up == "IN RANGE".toList

/-- Whether a cell counts as empty where a row goes on with `...`. -/
def robotBlank (s : String) : Bool := s == "" || s == "\\"

/-- Whether a template value sets a template: it is not empty, `\`, `NONE` or `${EMPTY}`. -/
def templateSet (s : String) : Bool :=
  let n := robotNormal s
  !(n == "" || n == "\\" || n == "none" || n == "$\x7bempty\x7d")

/-! ## Variables -/

/-- A variable found in a text: where it starts and ends, the character that gives its
type, its name, and the item index of a list or dictionary variable. -/
structure FoundVariable where
  start : Nat
  identifier : Char
  base : String
  index : Option String
  stop : Nat

/-- Whether the character at `i` is escaped: an odd number of backslashes stands right
before it. -/
def escapedAt (s : Array Char) : Nat → Bool
  | 0 => false
  | i + 1 => if s[i]? == some '\\' then !escapedAt s i else false

/-- The offset of the last `}` before `limit`. -/
def lastCloseBefore (s : Array Char) : Nat → Option Nat
  | 0 => none
  | i + 1 => if s[i]? == some '\x7d' then some i else lastCloseBefore s i

/-- The start of a variable before `stop`: a character of `ids`, not escaped, right before
a `{` at `from` or after; `fuel` is more than the number of such braces. -/
def variableStart (s : Array Char) (ids : List Char) (stop : Nat) : Nat → Nat → Option Nat
  | 0, _ => none
  | fuel + 1, start =>
    match (List.range' start (stop - start)).find? (fun p => s[p]? == some '\x7b') with
    | none => none
    | some p =>
      let i := p - 1
      if (s[i]?.map ids.contains).getD false && !escapedAt s i then some i
      else variableStart s ids stop fuel (p + 1)

/-- The start of a variable and the last `}` not escaped before `limit`, which bounds it;
`fuel` is more than the number of braces. -/
def variableBounds (s : Array Char) (ids : List Char) : Nat → Nat → Option (Nat × Nat)
  | 0, _ => none
  | fuel + 1, limit =>
    match lastCloseBefore s limit with
    | none => none
    | some close =>
      if escapedAt s close then variableBounds s ids fuel close
      else (variableStart s ids close (close + 1) 1).map fun start => (start, close)

/-- Where the scan of a variable is: in its name, right after a character that may start an
inner variable, waiting for the `[` of an item index, or in the index. -/
inductive VariablePart
  | name
  | afterIdentifier
  | beforeIndex
  | index
  deriving BEq

/-- The scan of a variable: where it is, how many braces are open, where the name with its
braces ends, and where the item index ends. -/
structure VariableScan where
  part : VariablePart := .name
  depth : Nat := 1
  nameEnd : Nat
  indexEnd : Nat

namespace VariableScan

/-- A character of the name at offset `i`: a `}` not escaped closes a brace, and when the
last closes, the variable ends unless it is a list or dictionary variable (`listLike`),
which may have an index; a character of `ids` may start an inner variable. The flag says
whether the scan stops. -/
def inName (v : VariableScan) (s : Array Char) (ids : List Char) (listLike : Bool) (i : Nat)
    (c : Char) : Bool × VariableScan :=
  let v := { v with nameEnd := i + 1 }
  if c == '\x7d' && !escapedAt s i then
    if v.depth ≤ 1 then
      if listLike then (false, { v with depth := 0, part := .beforeIndex, indexEnd := i + 1 })
      else (true, { v with depth := 0 })
    else (false, { v with depth := v.depth - 1 })
  else if ids.contains c then (false, { v with part := .afterIdentifier })
  else (false, v)

/-- The scan after the character `c` at offset `i`, and whether it stops there. -/
def step (v : VariableScan) (s : Array Char) (ids : List Char) (listLike : Bool) (i : Nat)
    (c : Char) : Bool × VariableScan :=
  match v.part with
  | .name => v.inName s ids listLike i c
  | .afterIdentifier =>
    let v := { v with part := .name }
    if c == '\x7b' then (false, { v with nameEnd := i + 1, depth := v.depth + 1 })
    else v.inName s ids listLike i c
  | .beforeIndex =>
    if c != '[' then (true, v) else (false, { v with part := .index, indexEnd := i + 1 })
  | .index => (c == ']', { v with indexEnd := i + 1 })

/-- The scan from offset `i` on: it stops where a step stops it, at the end of the text, or
at the last closing brace `close` unless an index may follow. -/
def run (s : Array Char) (ids : List Char) (listLike : Bool) (close : Nat) :
    Nat → Nat → VariableScan → VariableScan
  | 0, _, v => v
  | fuel + 1, i, v =>
    match s[i]? with
    | none => v
    | some c =>
      let (stops, v) := v.step s ids listLike i c
      if stops then v
      else if i == close && (v.part == .name || v.part == .afterIdentifier) then v
      else run s ids listLike close fuel (i + 1) v

end VariableScan

/-- The first variable in a text whose type is one of the characters `ids`, if there is
one. -/
def splitVariable (ids : List Char) (s : Array Char) : Option FoundVariable :=
  (variableBounds s ids (s.size + 1) s.size).map fun (start, close) =>
    let identifier := s[start]?.getD ' '
    let v := VariableScan.run s ids (identifier == '@' || identifier == '&') close s.size
      (start + 2) { nameEnd := start + 2, indexEnd := start + 2 }
    let text (a b : Nat) : String := String.ofList (s.extract a b).toList
    let indexed := v.indexEnd > v.nameEnd && s[v.indexEnd - 1]? == some ']'
    { start, identifier
      base := text (start + 2) (v.nameEnd - 1)
      index := if indexed then some (text (v.nameEnd + 1) (v.indexEnd - 1)) else none
      stop := if indexed then v.indexEnd else v.nameEnd }

/-- Whether a cell assigns a variable: it is one variable, with `=` after it or not. -/
def isAssign (value : String) : Bool :=
  let v := if value.endsWith "=" then strip (String.ofList value.toList.dropLast) else value
  match splitVariable ['$', '@', '&'] v.toList.toArray with
  | some var => var.start == 0 && var.stop == v.length
  | none => false

/-- The pieces of a text of kind `k` with its variables marked: the text around a variable
keeps the kind, the braces of a variable are syntax and its name a variable, with the
variables in it marked too. Comments and errors are not looked into. `fuel` is more than
the length of the text. -/
def markVariables : Nat → String → TokenKind → List (String × TokenKind)
  | 0, s, k => [(s, k)]
  | fuel + 1, s, k =>
    if k == .comment || k == .error then [(s, k)]
    else
      match splitVariable ['$', '@', '%', '&'] s.toList.toArray with
      | none => [(s, k)]
      | some v =>
        let index := match v.index with
          | some i => ("[", .punctuation) :: markVariables fuel i .nameVariable ++ [("]", .punctuation)]
          | none => []
        (takeChars s v.start, k) :: (String.ofList [v.identifier, '\x7b'], .punctuation) ::
          markVariables fuel v.base .nameVariable ++ ("\x7d", .punctuation) :: index ++
          markVariables fuel (dropChars s v.stop) k

/-! ## Cell readers -/

/-- A step of a behaviour-driven test at the start of a cell. -/
def gherkinPrefix : Pattern.Compiled :=
  pattern "^(Given|When|Then|And|But) " { ignoreCase := true }

/-- A cell of kind `k`, with the word of a behaviour-driven step at its start split off as
emphasis. -/
def gherkinCell (value : String) (k : TokenKind) : List (String × TokenKind) :=
  match prefixMatch? gherkinPrefix value with
  | some m => [(takeChars value m.stop, .genericEmph), (dropChars value m.stop, k)]
  | none => [(value, k)]

/-- Where a setting stands: in the setting table, in a test case or in a keyword. -/
inductive SettingPlace
  | table
  | testCase
  | keyword
  deriving BEq

namespace SettingPlace

/-- The settings whose first value is a keyword. -/
def takesKeyword : SettingPlace → List String
  | .table =>
    ["suitesetup", "suiteprecondition", "suiteteardown", "suitepostcondition", "testsetup",
     "tasksetup", "testprecondition", "testteardown", "taskteardown", "testpostcondition",
     "testtemplate", "tasktemplate"]
  | .testCase => ["setup", "precondition", "teardown", "postcondition", "template"]
  | .keyword => ["teardown"]

/-- The settings whose first value is a library, resource or variable file to import. -/
def imports : SettingPlace → List String
  | .table => ["library", "resource", "variables"]
  | _ => []

def others : SettingPlace → List String
  | .table => ["documentation", "metadata", "forcetags", "defaulttags", "testtimeout", "tasktimeout"]
  | .testCase => ["documentation", "tags", "timeout"]
  | .keyword => ["documentation", "arguments", "return", "timeout", "tags"]

end SettingPlace

/-- The template that the first value of a setting sets: the default one of the test cases,
or the one of the test case it stands in. -/
inductive TemplateTarget
  | suiteDefault
  | testCase
  deriving BEq

/-- What reads the cells of a row, knowing the cells before. -/
inductive CellReader
  /-- Every cell is a comment. -/
  | comment
  /-- Every cell is an argument: the rows of a test case with a template. -/
  | arguments
  /-- A setting: its name, then its values; `target` is the template its first value sets,
  `index` the number of cells read, and `follow` the kind of the first value of a setting
  that takes a keyword or imports, with whether that value is read. -/
  | setting (place : SettingPlace) (target : Option TemplateTarget) (index : Nat)
      (follow : Option (TokenKind × Bool))
  /-- A variable, which must be an assignment, then its values; `index` is the number of
  cells read. -/
  | variable (index : Nat)
  /-- A keyword call: assignments, the keyword, then its arguments; `found` says whether
  the keyword is read. -/
  | call (found : Bool)
  /-- A for loop: syntax up to `IN` or `IN RANGE`, arguments after. -/
  | forLoop (inArguments : Bool)

/-- What a reader makes of a cell: its pieces with their kinds, the reader of the next cell,
and the template set and whether it is set. -/
structure CellRead where
  pieces : List (String × TokenKind)
  next : CellReader
  template : Option (TemplateTarget × Bool) := none

/-- The kind of cell number `index` of a setting, with what follows: a known setting name is
a setting, an unknown one an error, and the values are arguments, but for the first value
of a setting that takes a keyword or imports. -/
def settingCell (place : SettingPlace) (index : Nat) (follow : Option (TokenKind × Bool))
    (value : String) : TokenKind × Option (TokenKind × Bool) :=
  if index == 0 then
    let n := robotNormal value
    if place.takesKeyword.contains n then (.keywordNamespace, some (.nameFunction, false))
    else if place.imports.contains n then (.keywordNamespace, some (.nameNamespace, false))
    else if place.others.contains n then (.keywordNamespace, follow)
    else (.error, follow)
  else
    match follow with
    | some (k, read) => (if read then .string else k, some (k, true))
    | none => (.string, none)

def CellReader.read : CellReader → String → CellRead
  | .comment, v => ⟨[(v, .comment)], .comment, none⟩
  | .arguments, v => ⟨[(v, .string)], .arguments, none⟩
  | .variable index, v =>
    let k : TokenKind := if index != 0 then .string else if isAssign v then .punctuation else .error
    ⟨[(v, k)], .variable (index + 1), none⟩
  | .call found, v =>
    if found then ⟨[(v, .string)], .call true, none⟩
    else if isAssign v then ⟨[(v, .punctuation)], .call false, none⟩
    else ⟨gherkinCell v .nameFunction, .call true, none⟩
  | .forLoop inArguments, v =>
    ⟨[(v, if inArguments then .string else .punctuation)], .forLoop (inArguments || forLoopWord v), none⟩
  | .setting place target index follow, v =>
    let template := if index == 1 then target.map fun t => (t, templateSet v) else none
    if index == 0 && place != .table then
      let name := String.ofList (v.toList.drop 1).dropLast
      let (k, follow) := settingCell place 0 follow name
      ⟨[("[", .punctuation), (name, k), ("]", .punctuation)], .setting place target 1 follow, template⟩
    else
      let (k, follow) := settingCell place index follow v
      ⟨[(v, k)], .setting place target (index + 1) follow, template⟩

/-! ## Tables -/

/-- The tables of Robot Framework data. -/
inductive RobotTable
  | unknown
  | settings
  | variables_
  | testCases
  | keywords
  deriving BEq

/-- The table a heading starts, by its name. -/
def RobotTable.named (heading : String) : RobotTable :=
  let n := robotNormal heading ['*']
  if ["settings", "setting", "metadata"].contains n then .settings
  else if ["variables", "variable"].contains n then .variables_
  else if ["testcases", "testcase", "tasks", "task"].contains n then .testCases
  else if ["keywords", "keyword", "userkeywords", "userkeyword"].contains n then .keywords
  else .unknown

/-- The readers of a table: the one of its current row, the one of the row before, and
whether every cell of the row so far is empty. -/
structure RowReaders where
  current : CellReader
  previous : CellReader
  blankSoFar : Bool := true

/-- The readers of a table when a row goes on with `...`: the reader of the row before. -/
def RowReaders.goOn (r : RowReaders) : RowReaders := { r with current := r.previous }

/-- The readers of a table after a row, with the reader for the next row. -/
def RowReaders.next (r : RowReaders) (fresh : CellReader) : RowReaders := ⟨fresh, r.current, true⟩

/-- The state of the reading: the table in use, the readers of the known tables, and the
templates of the test cases: the one of the test case read, and the default one (each
unset, set or unset on purpose). -/
structure RobotTables where
  table : RobotTable := .unknown
  settings : RowReaders := ⟨.setting .table none 0 none, .setting .table none 0 none, true⟩
  variables_ : RowReaders := ⟨.variable 0, .variable 0, true⟩
  testCases : RowReaders := ⟨.call false, .call false, true⟩
  keywords : RowReaders := ⟨.call false, .call false, true⟩
  testTemplate : Option Bool := none
  defaultTemplate : Option Bool := none

namespace RobotTables

/-- The reader a row of the test cases starts with: arguments only when a template is set. -/
def testCaseReader (t : RobotTables) : CellReader :=
  if t.testTemplate == some true || (t.defaultTemplate == some true && t.testTemplate != some false)
  then .arguments else .call false

def setTemplate (t : RobotTables) : Option (TemplateTarget × Bool) → RobotTables
  | some (.suiteDefault, b) => { t with defaultTemplate := some b }
  | some (.testCase, b) => { t with testTemplate := some b }
  | none => t

/-- Read a cell with readers, after the readers are changed by `change`, and note whether
the row is blank so far. -/
def readWith (t : RobotTables) (r : RowReaders) (change : RowReaders → RowReaders) (value : String) :
    List (String × TokenKind) × RowReaders × RobotTables :=
  let r := change r
  let read := r.current.read value
  (read.pieces, { r with current := read.next, blankSoFar := r.blankSoFar && robotBlank value },
    t.setTemplate read.template)

/-- Read a cell of a table of settings or variables: `...` after empty cells goes on with
the row before. -/
def plainCell (t : RobotTables) (r : RowReaders) (change : RowReaders → RowReaders)
    (value : String) : List (String × TokenKind) × RowReaders × RobotTables :=
  if value == "..." && r.blankSoFar then ([(value, .punctuation)], { r.goOn with blankSoFar := false }, t)
  else t.readWith r change value

/-- Read cell number `index` of a table of test cases or keywords: the first cell names a
test case or keyword; a second cell in brackets starts a setting, one that starts with `:`
and names `FOR` a for loop, and an empty one is syntax. -/
def caseCell (t : RobotTables) (r : RowReaders) (place : SettingPlace) (index : Nat)
    (value : String) : List (String × TokenKind) × RowReaders × RobotTables :=
  let blank := r.blankSoFar && robotBlank value
  if index > 0 && value == "..." && r.blankSoFar then ([(value, .punctuation)], { r.goOn with blankSoFar := false }, t)
  else if index == 0 then
    let t := if value != "" && place == .testCase then { t with testTemplate := none } else t
    (gherkinCell value .genericSubheading, { r with blankSoFar := blank }, t)
  else if index == 1 && value.startsWith "[" && value.endsWith "]" then
    if place == .testCase && robotNormal value == "[template]" then
      ({ t with testTemplate := some false }.readWith r
        (fun r => { r with current := .setting .testCase (some .testCase) 0 none }) value)
    else t.readWith r (fun r => { r with current := .setting place none 0 none }) value
  else if index == 1 && value.startsWith ":" && robotNormal value [':'] == "for" then
    t.readWith r (fun r => { r with current := .forLoop false }) value
  else if index == 1 && robotBlank value then ([(value, .punctuation)], { r with blankSoFar := blank }, t)
  else t.readWith r id value

/-- Read cell number `index` of a row with the table in use. -/
def readCell (t : RobotTables) (index : Nat) (value : String) : List (String × TokenKind) × RobotTables :=
  match t.table with
  | .unknown => ([(value, .comment)], t)
  | .settings =>
    let change (r : RowReaders) : RowReaders :=
      if index == 0 && robotNormal value == "testtemplate" then
        { r with current := .setting .table (some .suiteDefault) 0 none }
      else r
    let (ps, r, t) := t.plainCell t.settings change value
    (ps, { t with settings := r })
  | .variables_ =>
    let (ps, r, t) := t.plainCell t.variables_ id value
    (ps, { t with variables_ := r })
  | .testCases =>
    let (ps, r, t) := t.caseCell t.testCases .testCase index value
    (ps, { t with testCases := r })
  | .keywords =>
    let (ps, r, t) := t.caseCell t.keywords .keyword index value
    (ps, { t with keywords := r })

/-- The readers after a row: the table in use starts its next row afresh. -/
def endRow (t : RobotTables) : RobotTables :=
  match t.table with
  | .unknown => t
  | .settings => { t with settings := t.settings.next (.setting .table none 0 none) }
  | .variables_ => { t with variables_ := t.variables_.next (.variable 0) }
  | .testCases => { t with testCases := t.testCases.next t.testCaseReader }
  | .keywords => { t with keywords := t.keywords.next (.call false) }

/-- The pieces of a row. The cells and separators alternate, starting with a separator; a
cell that starts with `#` makes the rest of the row a comment, and a first cell that starts
with `*` starts a table and makes the rest of the row its heading. -/
def readRow (t : RobotTables) (row : String) : List (String × TokenKind) × RobotTables :=
  let (_, _, _, out, t) := (rowCells row).foldl
    (fun (state : Nat × Bool × Bool × List (String × TokenKind) × RobotTables) value =>
      let (i, commented, heading, out, t) := state
      let index := (i - 1) / 2
      let separator := i % 2 == 0
      let opens := !value.startsWith "#" && i > 0 && index == 0 && value.startsWith "*"
      let commented := commented || value.startsWith "#"
      let t := if opens then { t with table := RobotTable.named value } else t
      let heading := heading || opens
      let (ps, t) :=
        if commented then ([(value, .comment)], t)
        else if separator then ([(value, .punctuation)], t)
        else if heading then ([(value, .genericHeading)], t)
        else t.readCell index value
      (i + 1, commented, heading, ps.reverse ++ out, t))
    (0, false, false, [], t)
  (out.reverse, t.endRow)

end RobotTables

/-- The tokens of Robot Framework data. -/
def robotTokens (text : String) : List Token :=
  let (_, out) := (robotRows text).foldl (fun (state : RobotTables × List (String × TokenKind)) row =>
    let (ps, t) := state.1.readRow row
    (t, ps.reverse ++ state.2)) ({}, [])
  let pieces := out.reverse.flatMap fun (s, k) => markVariables (s.length + 1) s k
  let (_, tokens) := pieces.foldl (fun (state : Nat × List Token) (s, k) =>
    if s.isEmpty then state else (state.1 + s.length, ⟨state.1, k, s⟩ :: state.2)) (0, [])
  tokens.reverse

/-- Robot Framework data. -/
def robotScanner : Scanner := .plain fun _ text _ => robotTokens (String.ofList text.toList)

theorem splitVariable_no_close (ids : List Char) (s : Array Char) (h : ∀ i : Nat, s[i]? ≠ some '\x7d') :
    splitVariable ids s = none := by
  have hl : ∀ n, lastCloseBefore s n = none := by
    intro n
    induction n with
    | zero => rfl
    | succ n ih => simp [lastCloseBefore, h n, ih]
  simp [splitVariable, variableBounds, hl]

end Highlight.Lexers
