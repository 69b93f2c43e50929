import Highlight.Chars.Cased

/-!
# Token kinds

A token kind is a path of capitalised names below the root kind, written with dots:
`Token.Literal.String.Double`. Kinds form a tree, and a kind contains every kind below it
(`TokenKind.contains`). The kinds that every language shares have names here; a language
may use any other path as well.

A program names a kind by a dotted name such as `String.Double` or `Token.Name.Builtin`
(`TokenKind.ofDotted?`): each part is an attribute of the kind before it, from the root
(`TokenKind.getAttr?`).
-/

set_option autoImplicit false

namespace Highlight

/-- A node of the kind tree, given by its path from the root. -/
structure TokenKind where
  /-- The names from the root down to this kind. -/
  path : List String
  deriving BEq, DecidableEq, Hashable, Repr, Inhabited

namespace TokenKind

/-- The dotted name of a kind: the root is `Token`, below it `Token.Name.Builtin`. -/
def dotted (kind : TokenKind) : String :=
  kind.path.foldl (fun acc part => acc ++ "." ++ part) "Token"

/-- The kind one step below `kind`, named `part`. -/
def child (kind : TokenKind) (part : String) : TokenKind :=
  ⟨kind.path ++ [part]⟩

/-- The kind one step up, if there is one. -/
def parent? (kind : TokenKind) : Option TokenKind :=
  if kind.path.isEmpty then none else some ⟨kind.path.dropLast⟩

/-- A kind contains itself and every kind below it. -/
def contains (outer inner : TokenKind) : Bool :=
  outer.path.isPrefixOf inner.path

/-- The root of the tree. -/
def root : TokenKind := ⟨[]⟩

/-! The kinds that every language shares, each named by its path: `keywordConstant` is
`Token.Keyword.Constant`. -/

def text : TokenKind := ⟨["Text"]⟩
def whitespace : TokenKind := ⟨["Text", "Whitespace"]⟩
def escape : TokenKind := ⟨["Escape"]⟩
def error : TokenKind := ⟨["Error"]⟩
def other : TokenKind := ⟨["Other"]⟩
def keyword : TokenKind := ⟨["Keyword"]⟩
def keywordConstant : TokenKind := ⟨["Keyword", "Constant"]⟩
def keywordDeclaration : TokenKind := ⟨["Keyword", "Declaration"]⟩
def keywordNamespace : TokenKind := ⟨["Keyword", "Namespace"]⟩
def keywordPseudo : TokenKind := ⟨["Keyword", "Pseudo"]⟩
def keywordReserved : TokenKind := ⟨["Keyword", "Reserved"]⟩
def keywordType : TokenKind := ⟨["Keyword", "Type"]⟩
def name : TokenKind := ⟨["Name"]⟩
def nameAttribute : TokenKind := ⟨["Name", "Attribute"]⟩
def nameBuiltin : TokenKind := ⟨["Name", "Builtin"]⟩
def nameBuiltinPseudo : TokenKind := ⟨["Name", "Builtin", "Pseudo"]⟩
def nameClass : TokenKind := ⟨["Name", "Class"]⟩
def nameConstant : TokenKind := ⟨["Name", "Constant"]⟩
def nameDecorator : TokenKind := ⟨["Name", "Decorator"]⟩
def nameEntity : TokenKind := ⟨["Name", "Entity"]⟩
def nameException : TokenKind := ⟨["Name", "Exception"]⟩
def nameFunction : TokenKind := ⟨["Name", "Function"]⟩
def nameFunctionMagic : TokenKind := ⟨["Name", "Function", "Magic"]⟩
def nameProperty : TokenKind := ⟨["Name", "Property"]⟩
def nameLabel : TokenKind := ⟨["Name", "Label"]⟩
def nameNamespace : TokenKind := ⟨["Name", "Namespace"]⟩
def nameOther : TokenKind := ⟨["Name", "Other"]⟩
def nameTag : TokenKind := ⟨["Name", "Tag"]⟩
def nameVariable : TokenKind := ⟨["Name", "Variable"]⟩
def nameVariableClass : TokenKind := ⟨["Name", "Variable", "Class"]⟩
def nameVariableGlobal : TokenKind := ⟨["Name", "Variable", "Global"]⟩
def nameVariableInstance : TokenKind := ⟨["Name", "Variable", "Instance"]⟩
def nameVariableMagic : TokenKind := ⟨["Name", "Variable", "Magic"]⟩
def literal : TokenKind := ⟨["Literal"]⟩
def literalDate : TokenKind := ⟨["Literal", "Date"]⟩
def string : TokenKind := ⟨["Literal", "String"]⟩
def stringAffix : TokenKind := ⟨["Literal", "String", "Affix"]⟩
def stringBacktick : TokenKind := ⟨["Literal", "String", "Backtick"]⟩
def stringChar : TokenKind := ⟨["Literal", "String", "Char"]⟩
def stringDelimiter : TokenKind := ⟨["Literal", "String", "Delimiter"]⟩
def stringDoc : TokenKind := ⟨["Literal", "String", "Doc"]⟩
def stringDouble : TokenKind := ⟨["Literal", "String", "Double"]⟩
def stringEscape : TokenKind := ⟨["Literal", "String", "Escape"]⟩
def stringHeredoc : TokenKind := ⟨["Literal", "String", "Heredoc"]⟩
def stringInterpol : TokenKind := ⟨["Literal", "String", "Interpol"]⟩
def stringOther : TokenKind := ⟨["Literal", "String", "Other"]⟩
def stringRegex : TokenKind := ⟨["Literal", "String", "Regex"]⟩
def stringSingle : TokenKind := ⟨["Literal", "String", "Single"]⟩
def stringSymbol : TokenKind := ⟨["Literal", "String", "Symbol"]⟩
def number : TokenKind := ⟨["Literal", "Number"]⟩
def numberBin : TokenKind := ⟨["Literal", "Number", "Bin"]⟩
def numberFloat : TokenKind := ⟨["Literal", "Number", "Float"]⟩
def numberHex : TokenKind := ⟨["Literal", "Number", "Hex"]⟩
def numberInteger : TokenKind := ⟨["Literal", "Number", "Integer"]⟩
def numberIntegerLong : TokenKind := ⟨["Literal", "Number", "Integer", "Long"]⟩
def numberOct : TokenKind := ⟨["Literal", "Number", "Oct"]⟩
def operator : TokenKind := ⟨["Operator"]⟩
def operatorWord : TokenKind := ⟨["Operator", "Word"]⟩
def punctuation : TokenKind := ⟨["Punctuation"]⟩
def punctuationMarker : TokenKind := ⟨["Punctuation", "Marker"]⟩
def comment : TokenKind := ⟨["Comment"]⟩
def commentHashbang : TokenKind := ⟨["Comment", "Hashbang"]⟩
def commentMultiline : TokenKind := ⟨["Comment", "Multiline"]⟩
def commentPreproc : TokenKind := ⟨["Comment", "Preproc"]⟩
def commentPreprocFile : TokenKind := ⟨["Comment", "PreprocFile"]⟩
def commentSingle : TokenKind := ⟨["Comment", "Single"]⟩
def commentSpecial : TokenKind := ⟨["Comment", "Special"]⟩
def generic : TokenKind := ⟨["Generic"]⟩
def genericDeleted : TokenKind := ⟨["Generic", "Deleted"]⟩
def genericEmph : TokenKind := ⟨["Generic", "Emph"]⟩
def genericError : TokenKind := ⟨["Generic", "Error"]⟩
def genericHeading : TokenKind := ⟨["Generic", "Heading"]⟩
def genericInserted : TokenKind := ⟨["Generic", "Inserted"]⟩
def genericOutput : TokenKind := ⟨["Generic", "Output"]⟩
def genericPrompt : TokenKind := ⟨["Generic", "Prompt"]⟩
def genericStrong : TokenKind := ⟨["Generic", "Strong"]⟩
def genericSubheading : TokenKind := ⟨["Generic", "Subheading"]⟩
def genericEmphStrong : TokenKind := ⟨["Generic", "EmphStrong"]⟩
def genericTraceback : TokenKind := ⟨["Generic", "Traceback"]⟩

/-- The kind that a name reaches from `kind`: from the root, `Token` reaches the root itself
and `String` and `Number` the literal kinds of those names; any other name reaches the kind
one step below, of that name. -/
def attr (kind : TokenKind) (part : String) : TokenKind :=
  if kind.path.isEmpty then
    if part = "Token" then root
    else if part = "String" then string
    else if part = "Number" then number
    else kind.child part
  else kind.child part

/-- Whether a name starts with an upper-case character. -/
def upperStart (name : String) : Bool :=
  match name.toList with
  | c :: _ => Chars.isUpper c
  | [] => false

/-- The kind that the attribute `name` of `kind` holds, if it holds one: a name that starts with
an upper-case character names a kind (`attr`); `parent` holds the kind above, which the root
lacks; any other attribute holds no kind. -/
def getAttr? (kind : TokenKind) (name : String) : Option TokenKind :=
  if upperStart name then some (kind.attr name) else if name = "parent" then kind.parent? else none

/-- The kind a dotted name stands for: the empty name stands for the root, and any other is read
part by part from the root, each part an attribute of the kind before it. -/
def ofDotted? (s : String) : Option TokenKind :=
  if s = "" then some root
  else (s.toList.splitOn '.').foldlM (fun k part => k.getAttr? (String.ofList part)) root

theorem dotted_root : root.dotted = "Token" := rfl

theorem beq_iff {a b : TokenKind} : (a == b) = true ↔ a = b := by
  obtain ⟨p⟩ := a
  obtain ⟨q⟩ := b
  have h : (p == q) = true ↔ p = q := beq_iff_eq
  exact h.trans ⟨congrArg TokenKind.mk, congrArg TokenKind.path⟩

instance : LawfulBEq TokenKind where
  eq_of_beq h := beq_iff.mp h
  rfl := beq_iff.mpr rfl

theorem contains_refl (kind : TokenKind) : kind.contains kind = true := by
  simp [contains]

end TokenKind

end Highlight
