import Highlight.Languages.All
import Highlight.Chars.Lower

/-!
# Finding languages

Languages are found by one of their aliases, compared without regard to case
(`Catalog.byAlias?`), or by their class name (`Catalog.byClass?`); the languages that only
other languages lex with have no alias and are found by class name alone. When two languages share
an alias, the one whose class name comes first wins.
-/

set_option autoImplicit false

namespace Highlight.Catalog

/-- The first language that has `alias_` among its aliases, compared in lower case. -/
def byAlias? (alias_ : String) : Option Language :=
  let a := Chars.lowerText alias_
  Languages.all.find? fun l => l.aliases.contains a

/-- The first language that has `mimetype` among its media types. -/
def byMimetype? (mimetype : String) : Option Language :=
  Languages.all.find? fun l => l.mimetypes.contains mimetype

/-- The language with this class name, among those an alias names and the helpers. -/
def byClass? (name : String) : Option Language :=
  (Languages.all ++ Languages.helpers).find? fun l => l.className == name

/-- Older class names that still stand for a language. -/
def formerNames : List (String × String) :=
  [("Python3Lexer", "PythonLexer"), ("Python3TracebackLexer", "PythonTracebackLexer"),
   ("LeanLexer", "Lean3Lexer")]

/-- The language that a public class name stands for: a language an alias names, under its
class name or a former one. -/
def byPublicClass? (name : String) : Option Language :=
  match Languages.all.find? fun l => l.className == name with
  | some l => some l
  | none => (formerNames.lookup name).bind fun n => Languages.all.find? fun l => l.className == n

end Highlight.Catalog
