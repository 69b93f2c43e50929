import Highlight.Options
import Highlight.Chars.Blank

/-!
# Cleaning the input

Before a text is lexed it is cleaned (`Settings.clean`): a byte order mark at the start is
dropped, every carriage return with or without a line feed after it becomes one line feed,
blanks or newlines around the text are stripped, tabs are expanded when a tab size is set,
and a final newline is added when the text lacks one. Each of these is an option of the
lexer (`Settings.ofOptions`).
-/

set_option autoImplicit false

namespace Highlight.Input

/-- How a text is cleaned before lexing. -/
structure Settings where
  /-- Strip newlines at the start and the end. -/
  stripNewlines : Bool := true
  /-- Strip all blanks at the start and the end. -/
  stripAll : Bool := false
  /-- Add a newline at the end when there is none. -/
  ensureNewline : Bool := true
  /-- Expand tabs to this many columns when positive. -/
  tabSize : Int := 0
  deriving Repr, Inhabited

/-- Read the cleaning options. -/
def Settings.ofOptions (opts : Options) : Except OptionError Settings := do
  let stripNewlines ← opts.flag "stripnl" true
  let stripAll ← opts.flag "stripall" false
  let ensureNewline ← opts.flag "ensurenl" true
  let tabSize ← opts.number "tabsize" 0
  .ok { stripNewlines, stripAll, ensureNewline, tabSize }

/-- Every carriage return, with a line feed after it or not, becomes one line feed. -/
def unifyNewlines : List Char → List Char
  | [] => []
  | '\r' :: '\n' :: rest => '\n' :: unifyNewlines rest
  | '\r' :: rest => '\n' :: unifyNewlines rest
  | c :: rest => c :: unifyNewlines rest

/-- The text without the characters that satisfy `p` at both ends. -/
def trimBy (p : Char → Bool) (cs : List Char) : List Char :=
  ((cs.dropWhile p).reverse.dropWhile p).reverse

/-- Tabs replaced by spaces up to the next multiple of `size` columns; columns start again
after a line feed or a carriage return. -/
def expandTabs (size : Nat) (cs : List Char) : List Char :=
  (cs.foldl (fun (acc, col) c =>
    if c == '\t' then
      let n := size - col % size
      (List.replicate n ' ' ++ acc, col + n)
    else if c == '\n' || c == '\r' then (c :: acc, 0)
    else (c :: acc, col + 1)) ([], 0)).1.reverse

/-- The text as it is lexed. -/
def Settings.clean (s : Settings) (text : String) : String :=
  let cs := text.toList
  let cs := match cs with
    | '\uFEFF' :: rest => rest
    | _ => cs
  let cs := unifyNewlines cs
  let cs :=
    if s.stripAll then trimBy Chars.isBlank cs
    else if s.stripNewlines then trimBy (· == '\n') cs
    else cs
  let cs := if s.tabSize > 0 then expandTabs s.tabSize.toNat cs else cs
  let cs := if s.ensureNewline && cs.getLast? != some '\n' then cs ++ ['\n'] else cs
  String.ofList cs

end Highlight.Input
