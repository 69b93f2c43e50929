import Highlight.Token.Short

/-!
# Token types as objects

A token type is an object of its own: a node that holds its tuple of names, a link to the node
above it (`parent`) and the attributes set on it. Asking a node for an attribute it does not
hold, by a name that starts with an upper-case character, makes a new node one step below it,
sets it as that attribute and links it back (`Store.getattr`), so the next access by that name
finds the same node. The module of token types makes the root and the standard types so, and
then sets three attributes of the root by hand: `Token` is the root itself, and `String` and
`Number` are the literal types of those names (`Store.standard`).

A dotted name is read part by part as attribute accesses from the root
(`Store.stringToTokentype`). What a node holds besides token types (its set of subtypes, the
methods of a tuple) is a value that is no token type, and a reading that reaches one is not
followed further.

`Highlight.Proofs.Token.KindStore` proves that every store the accesses reach is well formed and
agrees with the path view of `Highlight.Token.Kind`.
-/

set_option autoImplicit false

namespace Highlight.Tokens

/-- A node: its tuple of names, the node above it (none for the root) and the attributes set on
it, the latest first. -/
structure Node where
  path : List String
  parent : Option Nat
  attrs : List (String × Nat)
  deriving Repr, DecidableEq

/-- The nodes made so far; a node is named by its place, the root by 0. -/
structure Store where
  nodes : Array Node
  deriving Repr

/-- What an attribute of a node holds: a node, nothing (`None`), or a value that is no token
type. -/
inductive Value where
  | node (n : Nat)
  | none
  | other
  deriving Repr, DecidableEq

/-- The attributes of every token type that hold no token type: the set of its subtypes, its
methods, and the special names of a tuple. -/
def plainAttrs : List String :=
  ["subtypes", "split", "count", "index"] ++
    (("add class class_getitem contains copy deepcopy delattr dict dir doc eq format ge getattr " ++
      "getattribute getitem getnewargs getstate gt hash init init_subclass iter le len lt module " ++
      "mul ne new reduce reduce_ex repr rmul setattr sizeof str subclasshook").toList.splitOn ' ').map
      fun w => "__" ++ String.ofList w ++ "__"

namespace Store

/-- How many nodes there are. -/
def size (s : Store) : Nat := s.nodes.size

/-- The names of node `n`. -/
def path (s : Store) (n : Nat) : List String := (s.nodes[n]?.map Node.path).getD []

/-- The node above node `n`. -/
def parentOf (s : Store) (n : Nat) : Option Nat := s.nodes[n]?.bind Node.parent

/-- The attributes set on node `n`. -/
def attrsOf (s : Store) (n : Nat) : List (String × Nat) := (s.nodes[n]?.map Node.attrs).getD []

/-- The store with attribute `name` of node `n` set to node `m`. -/
def setAttr (s : Store) (n : Nat) (name : String) (m : Nat) : Store :=
  ⟨s.nodes.modify n fun node => { node with attrs := (name, m) :: node.attrs }⟩

/-- The store with a new node one step below node `n`, named `name`, set as that attribute of
`n` and linked back to it. -/
def adopt (s : Store) (n : Nat) (name : String) : Store :=
  ⟨((s.setAttr n name s.size).nodes).push ⟨s.path n ++ [name], some n, []⟩⟩

/-- Ask node `n` for attribute `name`: an attribute set on it, the node above it, a value that is
no token type, or else a new node below it when the name starts with an upper-case character,
and an error otherwise. -/
def getattr (s : Store) (n : Nat) (name : String) : Except String (Value × Store) :=
  match (s.attrsOf n).lookup name with
  | some m => .ok (.node m, s)
  | none =>
    if name = "parent" then .ok (((s.parentOf n).map Value.node).getD .none, s)
    else if name ∈ plainAttrs then .ok (.other, s)
    else if TokenKind.upperStart name then .ok (.node s.size, s.adopt n name)
    else .error ("'_TokenType' object has no attribute '" ++ name ++ "'")

/-- Read the names `parts` one after another as attributes, from the value `v`. -/
def readParts (s : Store) (v : Value) : List String → Except String (Value × Store)
  | [] => .ok (v, s)
  | part :: rest =>
    match v with
    | .node n => (s.getattr n part).bind fun (v', s') => s'.readParts v' rest
    | .none => .error ("'NoneType' object has no attribute '" ++ part ++ "'")
    | .other => .ok (.other, s)

/-- The parts of a dotted name, between its dots. -/
def dottedParts (name : String) : List String := (name.toList.splitOn '.').map String.ofList

/-- The token type a dotted name stands for: the empty name is the root, and any other is read
part by part from the root. -/
def stringToTokentype (s : Store) (name : String) : Except String (Value × Store) :=
  if name = "" then .ok (.node 0, s) else s.readParts (.node 0) (dottedParts name)

/-- The store once the dotted name `name` is read, or `s` itself when the reading fails. -/
def afterReading (s : Store) (name : String) : Store :=
  match s.stringToTokentype name with
  | .ok (_, s') => s'
  | .error _ => s

/-- The store with attribute `name` of the root set to the type the dotted name `target` reads,
as the module of token types sets `Token.String = String`. -/
def setAlias (s : Store) (name target : String) : Store :=
  match s.stringToTokentype target with
  | .ok (.node m, s') => s'.setAttr 0 name m
  | _ => s

/-- The nodes met following the links up from node `n`, at most `k` of them. -/
def up (s : Store) : Nat → Nat → List Nat
  | _, 0 => []
  | n, k + 1 => n :: match s.parentOf n with
    | some p => s.up p k
    | none => []

/-- The nodes from the root down to node `n`, as the method `split` finds them by following the
links up; a link leads to a node made before, so `n + 1` steps reach the root. -/
def split (s : Store) (n : Nat) : List Nat := (s.up n (n + 1)).reverse

/-- Whether node `b` contains node `a` (`a in b`): `a` is `b`, or the names of `b` begin those
of `a`. -/
def contains (s : Store) (b a : Nat) : Bool := a == b || (s.path b).isPrefixOf (s.path a)

/-- The store with no node but the root. -/
def bare : Store := ⟨#[⟨[], none, []⟩]⟩

/-- The types the module of token types makes first, by their dotted names. -/
def firstTypes : List String :=
  ["Text", "Text.Whitespace", "Escape", "Error", "Other", "Keyword", "Name", "Literal",
    "Literal.String", "Literal.Number", "Punctuation", "Operator", "Comment", "Generic"]

/-- The store once the module of token types has run: it makes the types it names, each by
reading its name from the root; sets the root's attributes `Token`, `String` and `Number` to the
root and to the literal types of those names; and reads the name of every type of its table of
short names, which makes the types there that are not made yet. -/
def standard : Store :=
  let s := firstTypes.foldl afterReading bare
  let s := ((s.setAlias "Token" "").setAlias "String" "Literal.String").setAlias "Number"
    "Literal.Number"
  (TokenKind.standardNames.map fun entry => ".".intercalate entry.1.path).foldl afterReading s

/-- The stores that accesses by names without a dot reach from the standard one. -/
inductive Reachable : Store → Prop
  | standard : Reachable standard
  | getattr {s s' : Store} {n : Nat} {name : String} {v : Value} : Reachable s → n < s.size →
      '.' ∉ name.toList → s.getattr n name = .ok (v, s') → Reachable s'

end Store

end Highlight.Tokens
