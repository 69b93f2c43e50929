/-!
# Lexer options

Options are given by name, and each value is a truth value, a whole number, a text, a list or
nothing. `Options.flag`, `Options.number`, `Options.list` and `Options.choice` read one option
with a default; a value of the wrong form is an `OptionError`, whose text names the option
and what it accepts.
-/

set_option autoImplicit false

namespace Highlight

inductive OptionValue
  | none
  | bool (b : Bool)
  | int (n : Int)
  | str (s : String)
  | list (xs : List OptionValue)
  deriving BEq, Repr, Inhabited

/-- Named option values, the first of a name winning. -/
abbrev Options := List (String × OptionValue)

/-- Why an option cannot be read. -/
structure OptionError where
  /-- What is wrong, in words. -/
  message : String
  deriving BEq, Repr, Inhabited

namespace OptionValue

/-- A text quoted as an option message shows it: in single quotes, or in double quotes when
it holds a single quote and no double quote; a backslash, the quote in use and the control
characters are escaped. -/
def quoted (s : String) : String :=
  let q := if s.toList.contains '\'' && !s.toList.contains '"' then '"' else '\''
  let esc (c : Char) : String :=
    if c == '\\' then "\\\\"
    else if c == q then "\\" ++ String.singleton c
    else if c == '\n' then "\\n"
    else if c == '\r' then "\\r"
    else if c == '\t' then "\\t"
    else if c.toNat < 32 || c.toNat == 127 then
      let h := Nat.toDigits 16 c.toNat
      "\\x" ++ String.ofList (List.replicate (2 - h.length) '0' ++ h)
    else String.singleton c
  String.singleton q ++ String.join (s.toList.map esc) ++ String.singleton q

/-- The value written as options messages show it. -/
def render : OptionValue → String
  | .none => "None"
  | .bool true => "True"
  | .bool false => "False"
  | .int n => toString n
  | .str s => quoted s
  | .list xs => "[" ++ ", ".intercalate (xs.attach.map fun ⟨x, _⟩ => x.render) ++ "]"

end OptionValue

namespace Options

/-- The value of option `name`, if it is given. -/
def find? (opts : Options) (name : String) : Option OptionValue :=
  opts.lookup name

/-- Reads a truth value: a truth value, a number (zero is false), or one of the words
`1 yes true on` and `0 no false off` in any case. -/
def flag (opts : Options) (name : String) (default : Bool) : Except OptionError Bool :=
  let hint := "; use 1/0, yes/no, true/false, on/off"
  match opts.find? name with
  | none => .ok default
  | some (.bool b) => .ok b
  | some (.int n) => .ok (n != 0)
  | some (.str s) =>
    let l := s.toLower
    if ["1", "yes", "true", "on"].contains l then .ok true
    else if ["0", "no", "false", "off"].contains l then .ok false
    else .error ⟨"Invalid value " ++ OptionValue.quoted s ++ " for option " ++ name ++ hint⟩
  | some v => .error ⟨"Invalid type " ++ v.render ++ " for option " ++ name ++ hint⟩

/-- Reads a whole number: a number, a truth value, or a text that reads as one. -/
def number (opts : Options) (name : String) (default : Int) : Except OptionError Int :=
  let hint := "; you must give an integer value"
  match opts.find? name with
  | none => .ok default
  | some (.int n) => .ok n
  | some (.bool b) => .ok (if b then 1 else 0)
  | some (.str s) =>
    match s.trimAscii.toString.toInt? with
    | some n => .ok n
    | none => .error ⟨"Invalid value " ++ OptionValue.quoted s ++ " for option " ++ name ++ hint⟩
  | some v => .error ⟨"Invalid type " ++ v.render ++ " for option " ++ name ++ hint⟩

/-- Reads a list: a text is split at blanks, a list is taken as it is. -/
def list (opts : Options) (name : String) (default : List OptionValue) :
    Except OptionError (List OptionValue) :=
  match opts.find? name with
  | none => .ok default
  | some (.str s) =>
    .ok (((s.split Char.isWhitespace).toList.map (·.toString)).filter (· != "") |>.map .str)
  | some (.list xs) => .ok xs
  | some v => .error ⟨"Invalid type " ++ v.render ++ " for option " ++ name ++
      "; you must give a list value"⟩

/-- Reads a text option that must be one of the words `allowed`; the message lists them. -/
def choice (opts : Options) (name : String) (allowed : List String) (default : String) :
    Except OptionError String :=
  let message : OptionError :=
    ⟨"Value for option " ++ name ++ " must be one of " ++ ", ".intercalate allowed⟩
  match opts.find? name with
  | none => if allowed.contains default then .ok default else .error message
  | some (.str s) => if allowed.contains s then .ok s else .error message
  | some _ => .error message

/-- Reads a text option, with a default. -/
def text (opts : Options) (name : String) (default : String) : String :=
  match opts.find? name with
  | some (.str s) => s
  | _ => default

/-- The options of `extra`, overridden by those of `opts`. -/
def under (opts extra : Options) : Options :=
  opts ++ extra.filter (fun (k, _) => (opts.lookup k).isNone)

end Options

end Highlight
