import Highlight.Lexing

/-!
# The command line

`highlight ALIAS` reads a text from standard input, lexes it with the language of that alias
and writes one line per token: the kind, a tab, and the text quoted. A failure is reported on
standard error with its kind and message, and the exit code is 1.
-/

set_option autoImplicit false

open Highlight

/-- The line that stands for a token. -/
def tokenLine (t : Token) : String :=
  t.kind.dotted ++ "\t" ++ OptionValue.quoted t.text

/-- Lex standard input with the language named on the command line. -/
def main (args : List String) : IO UInt32 := do
  match args with
  | [alias_] =>
    let stdin ← IO.getStdin
    let code ← stdin.readToEnd
    match lexAlias alias_ [] code with
    | .ok tokens =>
      let stdout ← IO.getStdout
      for t in tokens do
        stdout.putStrLn (tokenLine t)
      pure 0
    | .error e =>
      IO.eprintln (e.kind ++ ": " ++ e.message)
      pure 1
  | _ =>
    IO.eprintln "usage: highlight ALIAS"
    pure 2
