import Highlight.Lexers.Lines

/-!
# Sessions

A session is a transcript of work at a prompt: a line that starts with a prompt holds code
of a language, and the other lines are what the program printed. A session scanner reads
the transcript line by line. The code of the prompt lines that follow one another is
gathered into one block (`Block`), which is lexed as a whole when a line of output ends it;
the prompts are put back in between (`insertTokens`), so that the code is lexed the way it
would be without them.

Each kind of session says what its lines are with a `SessionReader`: a state carried from
line to line, and for each line, seen with the block begun, a list of `LineRole`s. The
runner (`SessionReader.run`) is a fold over the lines and needs no other measure. A block
is lexed when a line of output comes and at the end, if it holds code (or, for the shells,
if it holds a prompt); otherwise it stays open.

The shells share one reader (`shellReader`), driven by the pattern of their first prompt
and the text of their continuation prompt (`ShellPrompts`). The consoles of the
interpreters each have a reader of their own, and `psqlSession` follows the cycle of a
database console: a command up to its end, then its output up to the next prompt.
-/

set_option autoImplicit false

namespace Highlight.Lexers

/-! ## Blocks and the runner -/

/-- What one line of a session is. -/
inductive LineRole
  /-- Code of the language, after tokens that go before it (its prompt). -/
  | code (marks : List Token) (rest : String)
  /-- Printed text: it ends the block before it, and stands for these tokens. -/
  | shown (tokens : List Token)
  /-- Printed text that the language lexes: it ends the block before it. -/
  | lexed (text : String)
  /-- Tokens that come out at once, leaving the block open. -/
  | aside (tokens : List Token)
  /-- From now on, the tokens of blocks are counted from this offset of the text. -/
  | rebase (start : Nat)

/-- Code gathered from prompt lines, and the tokens that go in at offsets of it (last
first). -/
structure Block where
  /-- The code so far. -/
  code : String := ""
  /-- The tokens to put in, at offsets of the code, last first. -/
  marks : List (Nat × List Token) := []

namespace Block

/-- The block with tokens put in at its end and code added after them. -/
def add (b : Block) (marks : List Token) (rest : String) : Block :=
  let b := if marks.isEmpty then b else { b with marks := (b.code.length, marks) :: b.marks }
  { b with code := b.code ++ rest }

/-- The tokens of the block: its code lexed, with the marks put in. -/
def tokens (b : Block) (lex : String → List Token) : List Token :=
  insertTokens b.marks.reverse (lex b.code)

end Block

/-- How a session reads its lines: the state before the first line, and what a line at an
offset is, in a state and with the block begun. When `marksSuffice`, a block is lexed when
it holds marks, else only when it holds code. -/
structure SessionReader (σ : Type) where
  start : σ
  read : σ → Block → Nat → String → List LineRole × σ
  marksSuffice : Bool := false

/-- What a session holds between lines: the reader's state, the block begun, the tokens
so far (last first), and the offset the tokens of a block are counted from. -/
structure Transcript (σ : Type) where
  state : σ
  block : Block := {}
  out : List Token := []
  base : Nat := 0

namespace Transcript

variable {σ : Type}

/-- The transcript with the block lexed and closed, if it is ready. -/
def flush (ready : Block → Bool) (lex : String → List Token) (t : Transcript σ) :
    Transcript σ :=
  if ready t.block then
    { t with block := {}, out := ((t.block.tokens lex).map (·.shift t.base)).reverse ++ t.out }
  else t

/-- The transcript after one role of a line. -/
def take (ready : Block → Bool) (lex : String → List Token) (t : Transcript σ) :
    LineRole → Transcript σ
  | .code marks rest => { t with block := t.block.add marks rest }
  | .shown ts =>
    let t := t.flush ready lex
    { t with out := ts.reverse ++ t.out }
  | .lexed s =>
    let t := t.flush ready lex
    { t with out := (lex s).reverse ++ t.out }
  | .aside ts => { t with out := ts.reverse ++ t.out }
  | .rebase n => { t with base := n }

end Transcript

/-- Whether a block is ready to be lexed. -/
def SessionReader.ready {σ : Type} (r : SessionReader σ) (b : Block) : Bool :=
  if r.marksSuffice then !b.marks.isEmpty else !b.code.isEmpty

/-- The transcript after a line at an offset, with the language lexing the code. -/
def SessionReader.readLine {σ : Type} (r : SessionReader σ) (lex : String → List Token)
    (t : Transcript σ) (line : Nat × String) : Transcript σ :=
  let (roles, s) := r.read t.state t.block line.1 line.2
  roles.foldl (Transcript.take r.ready lex) { t with state := s }

/-- The tokens of a session, from its lines with their offsets, with the language lexing
the code. -/
def SessionReader.run {σ : Type} (r : SessionReader σ) (lex : String → List Token)
    (lines : List (Nat × String)) : List Token :=
  ((lines.foldl (r.readLine lex) { state := r.start }).flush r.ready lex).out.reverse

/-- The lines of a text split at every character that ends a line, with their offsets. -/
def splitLinesAt (s : String) : List (Nat × String) :=
  let (_, out) := (splitLinesKeep s).foldl (fun (i, out) l => (i + l.length, (i, l) :: out))
    (0, ([] : List (Nat × String)))
  out.reverse

/-- A scanner for sessions read by `r`, whose code is in the language of class `language`
under the session's options changed by `adjust`; `lines` splits the text into lines. The
languages of sessions share nothing, so every block is lexed from the shared memory the
session was given, and the session gives it back as it was. -/
def SessionReader.scanner {σ : Type} (r : SessionReader σ) (language : String)
    (lines : String → List (Nat × String) := newlineLines) (adjust : Options → Options := id) :
    Scanner :=
  .custom fun env text _ shared =>
    (r.run (env.sublexAlone shared (some language) (adjust env.options) none)
      (lines (String.ofList text.toList)), shared)

/-! ## Shells -/

/-- The prompts of a shell: the pattern of a line with a first prompt (group 1 the prompt,
group 2 the command), the continuation prompt, and whether a continuation prompt counts
also after a line that does not end with a backslash. -/
structure ShellPrompts where
  first : Pattern.Compiled
  more : String
  bare : Bool := false

/-- The name of a virtual environment before a prompt, and the blank after it. -/
def venvPattern : Pattern.Compiled := pattern r"^(\([^)]*\))(\s*)"

/-- Whether code ends with a backslash before its line break. -/
def continues (code : String) : Bool := code.endsWith "\\\n"

/-- The reader of shell sessions; its state says whether the code so far ends with a
backslash. The name of a virtual environment is a prompt of its own. A first prompt that
opens a block, with no prompt of a virtual environment before it, counts the tokens of the
block from its line on; otherwise they are counted from where the last such prompt was. -/
def shellReader (p : ShellPrompts) : SessionReader Bool where
  start := false
  marksSuffice := true
  read := fun continued b i line =>
    let (venv, line) := match prefixMatch? venvPattern line with
      | some m =>
        let name := (groupText line m 1).getD ""
        let blank := (groupText line m 2).getD ""
        let marks := [piece 0 (.child .genericPrompt "VirtualEnv") name] ++
          (if blank.isEmpty then [] else [piece 0 .text blank])
        ([LineRole.code marks ""], dropChars line m.stop)
      | none => ([], line)
    let b := venv.foldl (fun b r => match r with
      | .code ms rest => b.add ms rest
      | _ => b) b
    let more := p.more.length
    let withPrompt (cut : Nat) : List LineRole × Bool :=
      let rest := dropChars line cut
      (venv ++ [.code [piece 0 .genericPrompt (takeChars line cut)] rest],
        continues (b.code ++ rest))
    match prefixMatch? p.first line with
    | some m =>
      let prompt := (groupText line m 1).getD ""
      let rest := (groupText line m 2).getD ""
      (venv ++ (if b.marks.isEmpty then [LineRole.rebase i] else []) ++
        [.code [piece 0 .genericPrompt prompt] rest], continues (b.code ++ rest))
    | none =>
      if continued then
        if line.startsWith p.more then withPrompt more
        else (venv ++ [.code [] line], continues (b.code ++ line))
      else if p.bare && line.startsWith p.more then
        (venv ++ [.code [piece 0 .genericPrompt (takeChars line more)] (dropChars line more)],
          continued)
      else (venv ++ [.shown [piece i .genericOutput line]], continued)

/-- A shell session scanner, for the shell of class `shell`. -/
def shellSession (shell : String) (p : ShellPrompts) : Scanner :=
  (shellReader p).scanner shell

/-- Sessions of the Bourne-again shell. -/
def bashSession : Scanner :=
  shellSession "BashLexer"
    ⟨pattern (r"^((?:(?:\[.*?\])|(?:\(\S+\))?(?:| |sh\S*?|\w+\S+[@:]\S+(?:\s+\S+)" ++
      r"?|\[\S+[@:][^\n]+\].+))\s*[$#%]\s*)(.*\n?)"), "> ", false⟩

/-- Sessions of the command prompt of DOS and Windows. -/
def batchSession : Scanner :=
  shellSession "BatchLexer" ⟨pattern r"^([^>]*>)(.*\n?)", "More? ", false⟩

/-- Sessions of the C shell. -/
def tcshSession : Scanner :=
  shellSession "TcshLexer" ⟨pattern r"^([^>]+>)(.*\n?)", "? ", false⟩

/-- Sessions of PowerShell, where a continuation prompt counts on any line. -/
def powerShellSession : Scanner :=
  shellSession "PowerShellLexer" ⟨pattern r"^((?:\[[^]]+\]: )?PS[^>]*> ?)(.*\n?)", "> ", true⟩

/-! ## Consoles of interpreters -/

/-- A console whose prompts match a pattern, and whose other lines are printed text of the
kind that `shown` gives them. -/
def promptReader (prompt : Pattern.Compiled) (shown : String → TokenKind) : SessionReader Unit where
  start := ()
  read := fun _ _ i line =>
    match prefixMatch? prompt line with
    | some m => ([.code [piece 0 .genericPrompt (takeChars line m.stop)] (dropChars line m.stop)], ())
    | none => ([.shown [piece i (shown line) line]], ())

def rubyConsole : Scanner :=
  (promptReader (pattern r#"irb\([a-zA-Z_]\w*\):\d{3}:\d+[>*"'] |>> |\?> "#)
    (fun _ => .genericOutput)).scanner "RubyLexer"

def dylanConsole : Scanner :=
  (promptReader (pattern r"\?| ") (fun _ => .genericOutput)).scanner "DylanLexer"

/-- Sessions of the Erlang shell; a line that starts with a star is an error report. -/
def erlangShell : Scanner :=
  (promptReader (pattern r"(?:\([\w@_.]+\))?\d+>(?=\s|\Z)")
    (fun l => if l.startsWith "*" then .genericTraceback else .genericOutput)).scanner "ErlangLexer"

/-- Whether a line of the R console is code after a prompt: it starts with `>` or `+`. -/
def rPromptLine (line : String) : Bool := line.startsWith ">" || line.startsWith "+"

/-- Sessions of the R console: a prompt line is code after a prompt of two characters. -/
def rConsoleReader : SessionReader Unit where
  start := ()
  read := fun _ _ i line =>
    if rPromptLine line then
      ([.code [piece 0 .genericPrompt (takeChars line 2)] (dropChars line 2)], ())
    else ([.shown [piece i .genericOutput line]], ())

def rConsole : Scanner := rConsoleReader.scanner "SLexer"

/-- The PHP console: prompts of four characters, or a line of three dots alone. -/
def psyshReader : SessionReader Unit where
  start := ()
  read := fun _ _ i line =>
    if line.startsWith ">>> " || line.startsWith "... " then
      ([.code [piece 0 .genericPrompt (takeChars line 4)] (dropChars line 4)], ())
    else if stripEnd line == "..." then
      ([.code [piece 0 .genericPrompt "..."] (dropChars line 3)], ())
    else ([.shown [piece i .genericOutput line]], ())

/-- Sessions of the PHP console, whose code starts without an opening tag. -/
def psyshConsole : Scanner :=
  psyshReader.scanner "PhpLexer" newlineLines fun opts => ("startinline", .bool true) :: opts

/-- A prompt of the SQLite shell: seven characters and a blank. -/
def sqlitePrompt : Pattern.Compiled := pattern r"^(?:sqlite|   ...)>(?= )"

/-- Sessions of the SQLite shell. -/
def sqliteReader : SessionReader Unit where
  start := ()
  read := fun _ _ i line =>
    if (prefixMatch? sqlitePrompt line).isSome then
      ([.code [piece 0 .genericPrompt (takeChars line 7), piece 7 .whitespace " "] (dropChars line 8)], ())
    else
      let k := if line.startsWith "SQL error: " then TokenKind.genericTraceback else .genericOutput
      ([.shown [piece i k line]], ())

def sqliteConsole : Scanner := sqliteReader.scanner "SqlLexer"

/-- The Node.js console: `> ` starts code, a run of dots continues it, and printed values
are lexed as code too. -/
def nodeReader : SessionReader Unit where
  start := ()
  read := fun _ _ _ line =>
    if line.startsWith "> " then
      ([.code [piece 0 .genericPrompt (takeChars line 1), piece 1 .whitespace (slice line 1 2)]
        (dropChars line 2)], ())
    else if line.startsWith "..." then
      let lead := (line.toList.takeWhile (· == '.')).length
      ([.code [piece 0 .genericPrompt (takeChars line lead)] (dropChars line lead)], ())
    else ([.lexed line], ())

def nodeConsole : Scanner := nodeReader.scanner "JavascriptLexer"

/-- A prompt of the Elixir console. -/
def elixirPrompt : Pattern.Compiled := pattern r"(iex|\.{3})((?:\([\w@_.]+\))?\d+|\(\d+\))?> "

/-- The Elixir console; its state says whether an error report is being printed. -/
def elixirReader : SessionReader Bool where
  start := false
  read := fun inError _ i line =>
    if line.startsWith "** " then
      let n := line.length
      ([.code [piece 0 .genericError (takeChars line (n - 1))] (dropChars line (n - 1))], true)
    else match prefixMatch? elixirPrompt line with
      | some m =>
        ([.code [piece 0 .genericPrompt (takeChars line m.stop)] (dropChars line m.stop)], false)
      | none =>
        ([.shown [piece i (if inError then .genericError else .genericOutput) line]], inError)

def elixirConsole : Scanner := elixirReader.scanner "ElixirLexer"

/-- Where a console of Julia or GAP is: whether printed text has begun since the last
prompt, and whether it is an error report. -/
structure Printing where
  output : Bool := false
  error : Bool := false

/-- A printed line of a console that reports errors from a line that starts with
`errorStart` on. -/
def printedLine (errorStart : String) (p : Printing) (i : Nat) (line : String) :
    List LineRole × Printing :=
  if line.startsWith errorStart || p.error then ([.shown [piece i .genericError line]], ⟨true, true⟩)
  else ([.shown [piece i .genericOutput line]], { p with output := true })

/-- The Julia console: `julia>` starts code, `help?>` and `shell>` start a line of their
own, and six blanks continue code before any printed text. -/
def juliaReader : SessionReader Printing where
  start := {}
  read := fun p _ i line =>
    if line.startsWith "julia>" then
      ([.code [piece 0 .genericPrompt (takeChars line 6)] (dropChars line 6)], {})
    else if line.startsWith "help?>" || line.startsWith "shell>" then
      ([.aside [piece i .genericPrompt (takeChars line 6), piece (i + 6) .text (dropChars line 6)]], {})
    else if line.startsWith "      " && !p.output then
      ([.code [piece 0 .whitespace (takeChars line 6)] (dropChars line 6)], p)
    else printedLine "ERROR: " p i line

def juliaConsole : Scanner := juliaReader.scanner "JuliaLexer" splitLinesAt

/-- The GAP console: `gap> ` and `brk> ` start code, and `> ` continues it before any
printed text. -/
def gapReader : SessionReader Printing where
  start := {}
  read := fun p _ i line =>
    if line.startsWith "gap> " || line.startsWith "brk> " then
      ([.code [piece 0 .genericPrompt (takeChars line 5)] (dropChars line 5)], {})
    else if !p.output && line.startsWith "> " then
      ([.code [piece 0 .genericPrompt (takeChars line 2)] (dropChars line 2)], p)
    else printedLine "Error, " p i line

def gapConsole : Scanner := gapReader.scanner "GAPLexer" splitLinesAt

/-- The MATLAB console; its state says whether the line before ended with three dots, which
continues the code on the next line, where the width of a prompt of blanks is three. -/
def matlabReader : SessionReader Bool where
  start := false
  read := fun continued b i line =>
    let next := (strip line).endsWith "..."
    if line.startsWith ">> " then
      ([.code [piece 0 .genericPrompt (takeChars line 3)] (dropChars line 3)], next)
    else if line.startsWith ">>" then
      ([.code [piece 0 .genericPrompt (takeChars line 2)] (dropChars line 2)], next)
    else if line.startsWith "???" then ([.code [piece 0 .genericTraceback line] ""], next)
    else if continued && !b.marks.isEmpty then
      if line.startsWith "   " then
        ([.code [piece 0 .genericPrompt (takeChars line 3)] (dropChars line 3)], next)
      else ([.code [] line], next)
    else ([.shown [piece i .genericOutput line]], next)

def matlabSession : Scanner := matlabReader.scanner "MatlabLexer"

/-! ## The Python console -/

/-- Sessions of the Python console: the console's own grammar marks code and tracebacks,
which the language and its traceback language lex; the option `python3` (on by default)
picks the version of the language. -/
def pythonConsole : Scanner :=
  .byOptions fun opts =>
    let three := match opts.flag "python3" true with
      | .ok b => b
      | .error _ => true
    let (code, traceback) :=
      if three then ("PythonLexer", "PythonTracebackLexer") else ("Python2Lexer", "Python2TracebackLexer")
    .embed (.named traceback)
      (.embed (.named code) (.named "_PythonConsoleLexerBase") (.child .other "Code"))
      (.child .other "Traceback")

/-! ## The database console -/

/-- A prompt of the database console. -/
def psqlPrompt : Pattern.Compiled := pattern r#"^(\S.*?)??[=\-\(\$'"][#>]"#

/-- The end of a command: a semicolon, then blanks and perhaps a comment. -/
def psqlEnd : Pattern.Compiled := pattern r";\s*(--.*?)?$"

/-- A command of the console itself: a backslash word on its own. -/
def psqlCommand : Pattern.Compiled := pattern r"(\s*)(\\.+?)(\s+)$"

/-- A message of the server, its label in group 1 and its text in group 2. -/
def psqlMessage : Pattern.Compiled :=
  pattern r"((?:DEBUG|INFO|NOTICE|WARNING|ERROR|FATAL|HINT|DETAIL|CONTEXT|LINE [0-9]+):)(.*?\n)"

/-- The tokens of printed lines up to the next prompt, the kind of plain printed text after
them (an error report goes on as one), and the lines from the prompt on. -/
def psqlOutput : List String → TokenKind → List Token × Option (List String)
  | [], _ => ([], none)
  | line :: rest, k =>
    if (prefixMatch? psqlPrompt line).isSome then ([], some (line :: rest))
    else match prefixMatch? psqlMessage line with
      | some m =>
        let label := (groupText line m 1).getD ""
        let k := if label.startsWith "ERROR" || label.startsWith "FATAL" then .genericError else k
        let (ts, more) := psqlOutput rest k
        (piece 0 .genericStrong label :: piece 0 k ((groupText line m 2).getD "") :: ts, more)
      | none =>
        let (ts, more) := psqlOutput rest k
        (piece 0 k line :: ts, more)

/-- What reading one command gave: a shell line seen first, or the block of the command. -/
inductive PsqlCommand
  /-- A line of the shell, before any code. -/
  | shell (line : String)
  /-- The command, up to its end or the end of the lines. -/
  | command (b : Block)

/-- Read the lines of one command into `b`: up to a line that ends it, or a shell line that
comes first; with the lines after it. -/
def psqlCommandLines : List String → Block → PsqlCommand × List String
  | [], b => (.command b, [])
  | line :: rest, b =>
    if line.startsWith "$" && b.code.isEmpty then (.shell line, rest)
    else
      let b := match prefixMatch? psqlPrompt line with
        | some m => b.add [piece 0 .genericPrompt (takeChars line m.stop)] (dropChars line m.stop)
        | none => b.add [] line
      if (prefixMatch? psqlCommand b.code).isSome || (search? psqlEnd b.code).isSome then
        (.command b, rest)
      else psqlCommandLines rest b

/-- The tokens of a database console session, with `sql` lexing its commands and `shell`
lexing a line of the shell, each from the shared memory the one before it left; `fuel`
bounds the number of commands, which is at most the number of lines. -/
def psqlTokens (sql shell : String → Shared → List Token × Shared) :
    Nat → List String → Shared → List Token × Shared
  | 0, _, shared => ([], shared)
  | fuel + 1, lines, shared =>
    let (cmd, rest) := psqlCommandLines lines {}
    let (first, shared) := match cmd with
      | .shell line => shell line shared
      | .command b =>
        let (ts, shared) := sql b.code shared
        (insertTokens b.marks.reverse ts, shared)
    let (out, more) := psqlOutput rest .genericOutput
    match more with
    | some next =>
      let (later, shared) := psqlTokens sql shell fuel next shared
      (first ++ out ++ later, shared)
    | none => (first ++ out, shared)

/-- Sessions of the PostgreSQL console. -/
def psqlSession : Scanner :=
  .custom fun env text _ shared =>
    let lines := (newlineLines (String.ofList text.toList)).map (·.2)
    psqlTokens (env.sublex (some "PsqlRegexLexer") env.options none)
      (fun line shared => (env.byAlias "console" env.options line shared).getD ([], shared))
      (lines.length + 1) lines shared

theorem Block.add_nil_marks (b : Block) (rest : String) : (b.add [] rest).marks = b.marks := by
  simp [Block.add]

theorem Block.add_code (b : Block) (ms : List Token) (rest : String) :
    (b.add ms rest).code = b.code ++ rest := by
  unfold Block.add
  split <;> rfl

end Highlight.Lexers
