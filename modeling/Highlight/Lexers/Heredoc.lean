import Highlight.Lexers.Lines

/-!
# Heredocs and strings lexed again

A heredoc starts with `<<NAME` and its body is the lines after the line it starts on, up to
a line that is the name (with blanks around it when the heredoc allows an indented end).
The rest of the starting line is lexed first, and may start more heredocs; their bodies
follow one another. A heredoc whose end is never found makes all the lines after it errors,
and those lines are then lexed once more as code, since the cursor stays where it was.

The strings of Ruby with interpolation (`%Q(...)`, `%r!...!`) lex their content on its own,
from a state for interpolated content.
-/

set_option autoImplicit false

namespace Highlight.Lexers

/-- The lines of a text from offset `pos` that end with a line break, with their offsets. -/
def linesFrom (text : Array Char) (pos : Nat) : List (Nat × String) :=
  newlineLinesFrom (text.extract pos text.size).toList pos pos []

/-- The lines up to the first that `ends` holds of, and that line if there is one. -/
def untilEnd (ends : String → Bool) : List (Nat × String) → List (Nat × String) × Option (Nat × String)
  | [] => ([], none)
  | (o, l) :: rest =>
    if ends l then ([], some (o, l))
    else
      let (body, last) := untilEnd ends rest
      ((o, l) :: body, last)

/-- Whether a line ends the heredoc named `name`: it is the name, with blanks around it when
`tolerant`, else only after it. -/
def heredocEnds (tolerant : Bool) (name : String) (l : String) : Bool :=
  (if tolerant then strip l else stripEnd l) == name

/-- The body of a heredoc named `name` from offset `pos`: its lines and its end line, and the
offset after the end; with no end line, every line is an error and the offset stays. -/
def heredocBody (text : Array Char) (pos : Nat) (tolerant : Bool) (name : String) : List Token × Nat :=
  match untilEnd (heredocEnds tolerant name) (linesFrom text pos) with
  | (body, some (o, l)) => (body.map (fun (o, l) => ⟨o, .stringHeredoc, l⟩) ++ [⟨o, .stringDelimiter, l⟩], o + l.length)
  | (body, none) => (body.map fun (o, l) => ⟨o, .error, l⟩, pos)

/-- The heredocs whose bodies are still to come: whether each may end indented, and its
name. -/
def pendingHeredocs (c : Cursor) : List (Bool × String) :=
  match c.recall "heredocstack" with
  | some (.list xs) => xs.filterMap fun
    | .list [.flag t, .text n] => some (t, n)
    | _ => none
  | _ => []

/-- Keep the heredocs still to come. -/
def keepHeredocs (c : Cursor) (hs : List (Bool × String)) : Cursor :=
  c.remember "heredocstack" (.list (hs.map fun (t, n) => .list [.flag t, .text n]))

/-- The start of group `i` of a match, or of the match when the group is not there. -/
def groupStart (h : Hit) (i : Nat) : Nat := ((h.span? i).map (·.1)).getD h.start

/-- The start of a heredoc: the operator (one of `tolerantOps` allows an indented end), the
quotes and the name (group 1 to 4). The rest of the line (group 5) is lexed at once; then
the first heredoc of the line reads the bodies of all the heredocs the line started. -/
def heredocStart (tolerantOps : List String) : Callback := fun env h c =>
  let heads : List Token :=
    [⟨groupStart h 1, .operator, h.group 1⟩, ⟨groupStart h 2, .stringHeredoc, h.group 2⟩,
     ⟨groupStart h 3, .stringDelimiter, h.group 3⟩, ⟨groupStart h 4, .stringHeredoc, h.group 4⟩]
  let waiting := pendingHeredocs c
  let pending := waiting ++ [(tolerantOps.contains (h.group 1), h.group 3)]
  let (restStart, restStop) := (h.span? 5).getD (h.stop, h.stop)
  let c := { keepHeredocs c pending with pos := restStart, stop := restStop }
  let (line, c) :=
    if pending.length < 100 then env.again h.text c
    else ([⟨restStart, .stringHeredoc, h.group 5⟩], c)
  let c := { c with pos := h.stop }
  if waiting.isEmpty then
    let (bodies, pos) := (pendingHeredocs c).foldl (fun (acc : List Token × Nat) (t, name) =>
      let (ts, pos) := heredocBody h.text acc.2 t name
      (acc.1 ++ ts, pos)) ([], c.pos)
    (heads ++ line ++ bodies, keepHeredocs { c with pos, stop := h.text.size } [])
  else (heads ++ line, c)

/-- The start of a heredoc whose end may always be indented: the operator and the name
(groups 1 and 2), the rest of the line as part of the heredoc (group 3), then the body. -/
def heredocLine : Callback := fun _ h c =>
  let (restStart, _) := (h.span? 3).getD (h.stop, h.stop)
  let (body, pos) := heredocBody h.text h.stop true (h.group 2)
  ([⟨groupStart h 1, .operator, h.group 1⟩, ⟨groupStart h 2, .stringDelimiter, h.group 2⟩,
    ⟨restStart, .stringHeredoc, h.group 3⟩] ++ body, { c with pos, stop := h.text.size })

/-- A string whose content (group 3) is lexed on its own from `state`, between its opening
(group 1) and its closing (group 4), both of kind `k`. -/
def interpolatedString (k : TokenKind) (state : String) : Callback := fun env h c =>
  let inner := ((h.group 3).toList).toArray
  let (ts, after) := env.again inner
    { pos := 0, stack := [state], stop := inner.size, shared := c.shared }
  ([⟨groupStart h 1, k, h.group 1⟩] ++ ts.map (·.shift (groupStart h 3)) ++
    [⟨groupStart h 4, k, h.group 4⟩], { c with shared := after.shared }.past h)

theorem untilEnd_none (ends : String → Bool) (ls : List (Nat × String))
    (h : ∀ l ∈ ls, ends l.2 = false) : (untilEnd ends ls).2 = none := by
  induction ls with
  | nil => rfl
  | cons x rest ih =>
    obtain ⟨o, l⟩ := x
    have hx : ends l = false := h (o, l) (by simp)
    simp only [untilEnd, hx]
    exact ih fun y hy => h y (by simp [hy])

theorem heredocBody_unended (text : Array Char) (pos : Nat) (tolerant : Bool) (name : String)
    (h : ∀ l ∈ linesFrom text pos, heredocEnds tolerant name l.2 = false) :
    (heredocBody text pos tolerant name).2 = pos := by
  have hn := untilEnd_none (heredocEnds tolerant name) _ h
  unfold heredocBody
  generalize untilEnd (heredocEnds tolerant name) (linesFrom text pos) = r at hn
  obtain ⟨body, last⟩ := r
  simp only at hn
  subst hn
  rfl

end Highlight.Lexers
