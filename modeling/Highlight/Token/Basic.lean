import Highlight.Token.Kind

/-!
# Tokens

A token is a piece of the text with its kind and the offset, in characters, where it starts.
A lexer's answer is a list of tokens; read one after another, their texts give back the text
that was lexed (`Token.concat`).
-/

set_option autoImplicit false

namespace Highlight

/-- A piece of text, its kind, and where it starts. -/
structure Token where
  /-- The offset of the first character, counted in characters. -/
  start : Nat
  /-- What the piece is. -/
  kind : TokenKind
  /-- The piece itself. -/
  text : String
  deriving BEq, Repr, Inhabited

namespace Token

/-- The same token, starting `by` characters later. -/
def shift (t : Token) (by_ : Nat) : Token := { t with start := t.start + by_ }

/-- The texts of the tokens, one after another. -/
def concat (ts : List Token) : String := String.join (ts.map (·.text))

end Token

end Highlight
