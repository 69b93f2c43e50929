import Highlight.Lexers.Lines

/-!
# Code under a false conditional

In TADS 3, code between `#if 0` (or `#if nil`) and the matching `#else`, `#elif` or
`#endif` is never compiled, so it is shown as a comment. A pass over the tokens of the
grammar counts how deeply it is inside such a part: a false `#if` opens it, every other
`#if` inside opens one more level, an `#endif` closes one, and an `#else` or `#elif` at the
first level ends the part. Blanks, line continuations and comments may stand around the
`#` and between the words of a directive.
-/

set_option autoImplicit false

namespace Highlight.Lexers

/-- A blank within a directive: a line continuation, a blank that is not a line break, or a
comment. -/
def directiveBlank : String :=
  r"(?:\\\n|[^\S\n]|(?://(?:[^\\\n]|\\+[\w\W])*$)|(?:/\*(?:[^*]|\*(?!/))*\*/))"

/-- A directive whose name starts with `name`, from the start of a token. -/
def directive (name : String) : Pattern.Compiled :=
  pattern ("^" ++ directiveBlank ++ "*#" ++ directiveBlank ++ "*" ++ name)

/-- The directives the pass looks for: a false `#if`, an `#else` or `#elif`, any `#if`, and
an `#endif`. -/
structure Conditionals where
  falseIf : Pattern.Compiled := directive ("if" ++ directiveBlank ++ "+(0|nil)" ++ directiveBlank ++ "*$\n?")
  orElse : Pattern.Compiled := directive r"el(if|se)\b"
  anyIf : Pattern.Compiled := directive "if"
  endIf : Pattern.Compiled := directive r"endif\b"

/-- A step of the pass: the depth inside a false conditional before a token, and the token
as it is shown with the depth after it. -/
def Conditionals.step (p : Conditionals) (depth : Nat) (t : Token) : Nat × Token :=
  let is (q : Pattern.Compiled) : Bool := (prefixMatch? q t.text).isSome
  if depth == 0 then
    if t.kind == .commentPreproc && is p.falseIf then (1, t) else (0, t)
  else if t.kind == .commentPreproc then
    if depth == 1 && is p.orElse then (0, t)
    else if is p.anyIf then (depth + 1, t)
    else if is p.endIf then (depth - 1, t)
    else (depth, t)
  else (depth, { t with kind := .comment })

/-- The tokens with the code under false conditionals shown as comments. -/
def hideFalseConditionals (p : Conditionals) (ts : List Token) : List Token :=
  (ts.foldl (fun (state : Nat × List Token) t =>
    let (depth, t) := p.step state.1 t
    (depth, t :: state.2)) (0, [])).2.reverse

/-- TADS 3: its grammar, with code under false conditionals shown as comments. -/
def tads3Scanner (g : Grammar) : Scanner :=
  .refine g fun _ ts => hideFalseConditionals {} ts

theorem Conditionals.step_outside (p : Conditionals) (t : Token) : (p.step 0 t).2 = t := by
  simp only [Conditionals.step, BEq.rfl, if_true]
  split <;> rfl

end Highlight.Lexers
