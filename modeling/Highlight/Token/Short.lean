import Highlight.Token.Kind

/-!
# Short names of token kinds

Each standard kind has a short name of a few letters. Markup output uses it as the class of
a token, and the rule notation of the grammars writes kinds by it. The root kind and plain
text share the empty name; every other standard kind has a name of its own
(`shortName_injective_on_named` checks the table).
-/

set_option autoImplicit false

namespace Highlight.TokenKind

/-- The standard kinds with their short names. -/
def standardNames : List (TokenKind × String) := [
  (root, ""), (text, ""), (whitespace, "w"), (escape, "esc"), (error, "err"), (other, "x"),
  (keyword, "k"), (keywordConstant, "kc"), (keywordDeclaration, "kd"),
  (keywordNamespace, "kn"), (keywordPseudo, "kp"), (keywordReserved, "kr"),
  (keywordType, "kt"), (name, "n"), (nameAttribute, "na"), (nameBuiltin, "nb"),
  (nameBuiltinPseudo, "bp"), (nameClass, "nc"), (nameConstant, "no"), (nameDecorator, "nd"),
  (nameEntity, "ni"), (nameException, "ne"), (nameFunction, "nf"), (nameFunctionMagic, "fm"),
  (nameProperty, "py"), (nameLabel, "nl"), (nameNamespace, "nn"), (nameOther, "nx"),
  (nameTag, "nt"), (nameVariable, "nv"), (nameVariableClass, "vc"), (nameVariableGlobal, "vg"),
  (nameVariableInstance, "vi"), (nameVariableMagic, "vm"), (literal, "l"), (literalDate, "ld"),
  (string, "s"), (stringAffix, "sa"), (stringBacktick, "sb"), (stringChar, "sc"),
  (stringDelimiter, "dl"), (stringDoc, "sd"), (stringDouble, "s2"), (stringEscape, "se"),
  (stringHeredoc, "sh"), (stringInterpol, "si"), (stringOther, "sx"), (stringRegex, "sr"),
  (stringSingle, "s1"), (stringSymbol, "ss"), (number, "m"), (numberBin, "mb"),
  (numberFloat, "mf"), (numberHex, "mh"), (numberInteger, "mi"), (numberIntegerLong, "il"),
  (numberOct, "mo"), (operator, "o"), (operatorWord, "ow"), (punctuation, "p"),
  (punctuationMarker, "pm"), (comment, "c"), (commentHashbang, "ch"), (commentMultiline, "cm"),
  (commentPreproc, "cp"), (commentPreprocFile, "cpf"), (commentSingle, "c1"),
  (commentSpecial, "cs"), (generic, "g"), (genericDeleted, "gd"), (genericEmph, "ge"),
  (genericError, "gr"), (genericHeading, "gh"), (genericInserted, "gi"), (genericOutput, "go"),
  (genericPrompt, "gp"), (genericStrong, "gs"), (genericSubheading, "gu"),
  (genericEmphStrong, "ges"), (genericTraceback, "gt")]

/-- The kind a short name stands for: the first standard kind with that name, so the empty
name stands for the root. -/
def ofShortName? (s : String) : Option TokenKind :=
  (standardNames.find? (·.2 == s)).map (·.1)

/-- The short name of a standard kind; other kinds have none. -/
def shortName? (k : TokenKind) : Option String :=
  standardNames.lookup k

/-- The name of the kind whose path, read from its last name up, is given: the short name of
the kind if it is standard, else the name of the kind above followed by `sep` and the kind's own
name. HTML classes join with a dash, LaTeX names with nothing; the root is standard, with the
empty short name. -/
def joinedNameUp (sep : String) : List String → String
  | [] => ""
  | part :: up =>
    match shortName? ⟨(part :: up).reverse⟩ with
    | some s => s
    | none => joinedNameUp sep up ++ sep ++ part

theorem shortName_injective_on_named :
    ((standardNames.filter (·.2 != "")).map (·.2)).Nodup := by
  decide

end Highlight.TokenKind
