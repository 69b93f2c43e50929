import Std.Data.HashSet
import Highlight.Language
import Highlight.Chars.Lower

/-!
# Giving tokens new kinds

Many languages lex names with one broad rule and then look each name up in lists of known
words: the builtins, the types of a standard library, and so on. A `Retype` is one such
lookup: a token of one of some kinds whose text is one of some words gets a new kind. A list
of them is tried in order and the first that applies wins (`retype`), the way a chain of
tests would be.
-/

set_option autoImplicit false

namespace Highlight

/-- Tokens of one of the kinds `only` (of any kind when it is empty) whose text is one of
`words` get the kind `kind`; with `fold` the text is looked up in lower case. -/
structure Retype where
  only : List TokenKind
  words : Std.HashSet String
  kind : TokenKind
  fold : Bool := false

namespace Retype

/-- Whether the lookup applies to a token. -/
def applies (r : Retype) (t : Token) : Bool :=
  (r.only.isEmpty || r.only.contains t.kind) &&
    r.words.contains (if r.fold then Chars.lowerText t.text else t.text)

end Retype

/-- The token with the kind of the first lookup that applies to it. -/
def retype (rules : List Retype) (t : Token) : Token :=
  match rules.find? (·.applies t) with
  | some r => { t with kind := r.kind }
  | none => t

def wordSet (ws : List String) : Std.HashSet String := Std.HashSet.ofList ws

theorem retype_of_none (rules : List Retype) (t : Token) (h : ∀ r ∈ rules, r.applies t = false) :
    retype rules t = t := by
  unfold retype
  rw [List.find?_eq_none.mpr (fun r hr => by simp [h r hr])]

theorem retype_text (rules : List Retype) (t : Token) :
    (retype rules t).text = t.text ∧ (retype rules t).start = t.start := by
  unfold retype
  split <;> simp

end Highlight
