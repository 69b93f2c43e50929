/-!
# Patterns for sets of words

`wordsPattern` writes one pattern text that matches exactly the words of a list, shaped so
that a backtracking matcher tries few characters: the words are sorted, a prefix that all of
them share is written once, then a shared suffix, then one-letter words become one bracketed
class, and otherwise the words are split by whether they begin like the first. Every word is
written with its special characters escaped (`escapeText`).

The recursion strips characters or words at each call, so it ends; `alternatives` carries
that bound as fuel.
-/

set_option autoImplicit false

namespace Highlight.Pattern

/-- The characters that are special in pattern text and get a backslash. -/
def isSpecialInPattern (c : Char) : Bool :=
  "()[]{}?*+-|^$\\.&~# \t\n\r\x0b\x0c".toList.contains c

/-- A text written so that a pattern matches it literally. -/
def escapeChars (s : List Char) : List Char :=
  s.flatMap fun c => if isSpecialInPattern c then ['\\', c] else [c]

/-- A text written so that a pattern matches it literally. -/
def escapeText (s : String) : String := String.ofList (escapeChars s.toList)

/-- Lexicographic order on code points. -/
def lexLE : List Char → List Char → Bool
  | [], _ => true
  | _ :: _, [] => false
  | a :: as, b :: bs => if a == b then lexLE as bs else a.toNat < b.toNat

/-- The words in lexicographic order. -/
def sortWords (ws : List (List Char)) : List (List Char) := ws.mergeSort lexLE

/-- The longest common prefix of two words. -/
def commonPrefix2 : List Char → List Char → List Char
  | a :: as, b :: bs => if a == b then a :: commonPrefix2 as bs else []
  | _, _ => []

/-- The longest prefix that all the words share. -/
def commonPrefix : List (List Char) → List Char
  | [] => []
  | w :: ws => ws.foldl commonPrefix2 w

/-- A bracketed class of the given letters, with the characters special inside a class
escaped. -/
def letterClass (letters : List (List Char)) : List Char :=
  let escaped := letters.flatten.flatMap fun c =>
    if c == '[' || c == '^' || c == '\\' || c == '-' || c == ']' then ['\\', c] else [c]
  '[' :: escaped ++ [']']

/-- The size measure that each step of `alternatives` decreases. -/
def wordsSize (ws : List (List Char)) : Nat :=
  (ws.map (·.length + 1)).foldr (· + ·) 0

/-- A pattern text for the sorted words `ws`, wrapped in `opener` and a closing parenthesis
when `opener` is not empty. -/
def alternatives : Nat → List (List Char) → List Char → List Char
  | 0, _, _ => []
  | fuel + 1, ws, opener =>
    let closer := if opener.isEmpty then [] else [')']
    match ws with
    | [] => []
    | [w] => opener ++ escapeChars w ++ closer
    | first :: rest =>
      if first.isEmpty then
        opener ++ alternatives fuel rest "(?:".toList ++ ['?'] ++ closer
      else
        let oneLetter := ws.filter (·.length == 1)
        let longer := ws.filter (·.length != 1)
        if first.length == 1 && oneLetter.length > 1 then
          if longer.isEmpty then opener ++ letterClass oneLetter ++ closer
          else opener ++ alternatives fuel longer [] ++ ['|'] ++ letterClass oneLetter ++ closer
        else
          let pre := commonPrefix ws
          if !pre.isEmpty then
            opener ++ escapeChars pre ++
              alternatives fuel (ws.map (·.drop pre.length)) "(?:".toList ++ closer
          else
            let suf := (commonPrefix (ws.map List.reverse)).reverse
            if !suf.isEmpty then
              opener ++
                alternatives fuel (sortWords (ws.map fun w => w.take (w.length - suf.length)))
                  "(?:".toList ++
                escapeChars suf ++ closer
            else
              let head := first.head?
              let same := ws.filter (·.head? == head)
              let others := ws.filter (·.head? != head)
              let parts := [same, others].filter (!·.isEmpty)
              opener ++ ['|'].intercalate (parts.map (alternatives fuel · [])) ++ closer

/-- The pattern text that matches exactly the given words, between `before` and `after`. -/
def wordsPattern (words : List String) (before after : String) : String :=
  let ws := sortWords (words.map String.toList)
  before ++ String.ofList (alternatives (wordsSize ws + 1) ws ['(']) ++ after

end Highlight.Pattern
