import Highlight.Token.Basic

/-!
# Inserting tokens into a token stream

Some languages are lexed in two layers: one language lexes most of the text, and pieces that
another scanner recognised (prompts of a console, parts of a template) are put back in
between. `insertTokens` does the putting back. Each insertion names an offset in the text of
the main stream and a list of tokens; the token of the stream that spans that offset is cut
there, and the inserted tokens stand between its two halves. Offsets of the result are
counted anew from the start of the stream, so that they describe the joined text.
-/

set_option autoImplicit false

namespace Highlight

/-- The characters of `v` from `a` to `b`, where a negative bound counts from the end and
bounds are clamped to the text. -/
def sliceChars (v : List Char) (a b : Int) : List Char :=
  let n : Int := v.length
  let norm (x : Int) : Nat := (if x < 0 then max 0 (x + n) else min x n).toNat
  let lo := norm a
  let hi := norm b
  (v.drop lo).take (hi - lo)

/-- The state of inserting: the insertions left, the next offset to write, and the tokens
so far (last first). -/
structure Inserting where
  pending : List (Nat × List Token)
  realPos : Option Nat
  out : List Token

/-- Emit tokens at the running offset. -/
def Inserting.emitAll (st : Inserting) (ts : List Token) : Inserting :=
  ts.foldl (fun st t =>
    let p := st.realPos.getD 0
    { st with realPos := some (p + t.text.length), out := { t with start := p } :: st.out }) st

/-- Insert at the token `t` every pending insertion that falls within it or at its end; the
state afterwards and where the rest of `t` begins. -/
def Inserting.within (t : Token) (v : List Char) : Nat → Inserting → Int → Inserting × Int
  | 0, st, oldi => (st, oldi)
  | fuel + 1, st, oldi =>
    match st.pending with
    | [] => (st, oldi)
    | (index, its) :: rest =>
      if t.start + v.length ≥ index then
        let cut := sliceChars v oldi ((index : Int) - t.start)
        let st := if cut.isEmpty then st else st.emitAll [{ t with text := String.ofList cut }]
        let st := st.emitAll its
        Inserting.within t v fuel { st with pending := rest } ((index : Int) - t.start)
      else (st, oldi)

/-- Take the token `t` of the stream: the offsets are counted from its start if nothing is
written yet, the insertions that fall within it or at its end go in, then the rest of it. -/
def Inserting.take (st : Inserting) (t : Token) : Inserting :=
  let st := if st.realPos.isNone then { st with realPos := some t.start } else st
  let v := t.text.toList
  let (st, oldi) := Inserting.within t v (st.pending.length + 1) st 0
  if oldi < v.length then
    st.emitAll [{ t with text := String.ofList (sliceChars v oldi v.length) }]
  else st

/-- Emit the tokens of an insertion past the end of the stream, counting from offset 0 if
nothing is written yet. -/
def Inserting.emitLeftover (st : Inserting) (its : List Token) : Inserting :=
  let st := if st.realPos == some 0 then st else
    match st.realPos with
    | none => { st with realPos := some 0 }
    | some _ => st
  st.emitAll its

/-- The stream `tokens` with the token lists of `insertions` put in at their offsets. -/
def insertTokens (insertions : List (Nat × List Token)) (tokens : List Token) : List Token :=
  match insertions with
  | [] => tokens
  | _ =>
    let st := tokens.foldl Inserting.take ⟨insertions, none, []⟩
    let st := st.pending.foldl (fun st (_, its) => st.emitLeftover its) { st with pending := [] }
    st.out.reverse

end Highlight
