import Highlight.Language

/-!
# Kinds that depend on the tokens around

Some words have two roles that only the tokens after them tell apart. The passes here run
after a grammar and hold such a word back, with the tokens after it, until they can decide.
-/

set_option autoImplicit false

namespace Highlight.Lexers

/-- Whether a token counts when counting tokens: comments and text do not. -/
def countsAsToken (t : Token) : Bool := !TokenKind.comment.contains t.kind && !TokenKind.text.contains t.kind

/-- What the pass over Inform 6 holds: the tokens held back (in order), how many counted
tokens are still to come before deciding (negative: nothing held), the kind of the last
counted token, and the tokens given out (last first). -/
structure InformHold where
  held : List Token := []
  left : Int := -1
  previous : Option TokenKind := none
  out : List Token := []

/-- The held tokens given out: `in` is a keyword when the second counted token after it
closes a parenthesis, as in `objectloop(a in b)`, and an operator otherwise. -/
def InformHold.release (h : InformHold) : List Token :=
  match h.held with
  | first :: rest =>
    let first := if (h.held.getLast?.map (·.text)) == some ")" then { first with kind := .keyword } else first
    first :: rest
  | [] => []

/-- The pass after one more token. A new `in` after a variable starts holding anew; what was
held before is dropped. -/
def InformHold.step (h : InformHold) (t : Token) : InformHold :=
  let h :=
    if h.previous == some .nameVariable && t.text == "in" then { h with held := [t], left := 2 }
    else if h.left > 0 then
      { h with held := h.held ++ [t], left := if countsAsToken t then h.left - 1 else h.left }
    else if h.left == 0 then
      { h with out := t :: h.release.reverse ++ h.out, held := [], left := -1 }
    else { h with out := t :: h.out }
  if countsAsToken t then { h with previous := some t.kind } else h

/-- The tokens of Inform 6 with the roles of `in` decided. -/
def informObjectloop (ts : List Token) : List Token :=
  let h := ts.foldl InformHold.step {}
  h.out.reverse ++ h.held

/-- Inform 6: its grammar, then the pass that decides the roles of `in`. -/
def inform6Scanner (g : Grammar) : Scanner :=
  .refine g fun _ ts => informObjectloop ts

theorem informObjectloop_nil : informObjectloop [] = [] := rfl

end Highlight.Lexers
