import Highlight.Lexers.Lines

/-!
# The states XQuery comes back to

XQuery nests expressions in XML and XML in expressions, and what may follow the end of a
nested part depends on where it started: an operator after an expression, element content
after an element started in content, and so on. Its grammar keeps, beside the stack of
states, a second stack of the states to come back to (`savedStates`). Actions that open a
part save a state there and enter the part's state (or start afresh from `root`); actions
that close a part come back to the saved state.

That second stack belongs to the language, not to one lexer: it is shared memory, so a run
of XQuery starts with what the runs before it in the process left there.

Every token of these actions starts where the match starts, even the tokens of later
groups.
-/

set_option autoImplicit false

namespace Highlight.Lexers

/-- The states to come back to, the last saved first. -/
def savedStates (c : Cursor) : List String :=
  match c.recallShared "xquery_parse_state" with
  | some (.list xs) => xs.filterMap fun | .text s => some s | _ => none
  | _ => []

/-- Keep the states to come back to. -/
def keepSaved (c : Cursor) (ss : List String) : Cursor :=
  c.share "xquery_parse_state" (.list (ss.map .text))

/-- Tokens of kinds for the groups of a match from the first on, all at the start of the
match. -/
def groupsAtStart (h : Hit) (ks : List TokenKind) : List Token :=
  ((List.range ks.length).zip ks).map fun (i, k) => ⟨h.start, k, h.group (i + 1)⟩

/-- Where an action that opens a part goes: afresh from `root`, or into a state. -/
inductive XQueryNext
  | root
  | enter (state : String)

/-- An action that opens a part: tokens for its groups, a state saved to come back to, and
where it goes. -/
def xqueryOpen (ks : List TokenKind) (saved : String) (next : XQueryNext) : Callback := fun _ h c =>
  let c := keepSaved c (saved :: savedStates c)
  let c := match next with
    | .root => { c with stack := ["root"] }
    | .enter s => c.enter s
  (groupsAtStart h ks, c.past h)

/-- An action that starts afresh from `root` after a token of kind `k` (group 1). -/
def xqueryRestart (k : TokenKind) : Callback := fun _ h c =>
  ([⟨h.start, k, h.group 1⟩], { c with stack := ["root"], pos := h.stop })

/-- An opening brace: the state it stands in is saved, and the braces hold an expression. -/
def xqueryBrace : Callback := fun _ h c =>
  let (cur, rest) := match c.stack with
    | s :: rest => ([s], rest)
    | [] => ([], [])
  let c := keepSaved { c with stack := rest } (cur ++ savedStates c)
  ([⟨h.start, .punctuation, h.group 1⟩], { c with stack := ["root"], pos := h.stop })

/-- The end of a tag or a comment (a token of kind `k`): back to the saved state, if there
is one. -/
def xqueryCloseTag (k : TokenKind) : Callback := fun _ h c =>
  let c := match savedStates c with
    | s :: rest => (keepSaved c rest).enter s
    | [] => c
  ([⟨h.start, k, h.group 1⟩], c.past h)

/-- The end of a kind test, with an occurrence indicator after it (group 2) or not: a test
that expects an indicator goes on with an operator, and takes the indicator along if there
is one; any other test goes back to its saved state. -/
def xqueryCloseKindTest : Callback := fun _ h c =>
  let (next, c) := match savedStates c with
    | s :: rest => (some s, keepSaved c rest)
    | [] => (none, c)
  let closing : Token := ⟨h.start, .punctuation, h.group 1⟩
  let stop1 := ((h.span? 1).map (·.2)).getD h.stop
  match next with
  | some "occurrenceindicator" =>
    if (h.group 2).isEmpty then ([closing], { c.enter "operator" with pos := stop1 })
    else ([closing, ⟨h.start, .punctuation, h.group 2⟩], { c.enter "operator" with pos := h.stop })
  | some s => ([closing], { c.enter s with pos := stop1 })
  | none => ([closing], { c with pos := stop1 })

/-- A closing bracket: with no state saved it leaves the state it is in (and starts from
`root` when none is left); otherwise it goes back to the saved state, or starts from
`root` when it stands in the only state. -/
def xqueryClose : Callback := fun _ h c =>
  let c := match savedStates c, c.stack with
    | [], stack => { c with stack := match stack.drop 1 with
        | [] => ["root"]
        | rest => rest }
    | s :: rest, _ :: _ :: _ => (keepSaved c rest).enter s
    | _ :: _, _ => { c with stack := ["root"] }
  ([⟨h.start, .punctuation, h.group 1⟩], c.past h)

theorem savedStates_keepSaved (c : Cursor) (ss : List String) : savedStates (keepSaved c ss) = ss := by
  simp only [savedStates, keepSaved, Cursor.recallShared, Cursor.share, List.lookup_cons, BEq.rfl]
  induction ss with
  | nil => rfl
  | cons s rest ih => simp [ih]

theorem xqueryOpen_saves (ks : List TokenKind) (saved : String) (next : XQueryNext)
    (env : Env) (h : Hit) (c : Cursor) :
    savedStates (xqueryOpen ks saved next env h c).2 = saved :: savedStates c := by
  cases next <;> simp only [xqueryOpen, Cursor.past, Cursor.enter] <;>
    exact savedStates_keepSaved c _

end Highlight.Lexers
