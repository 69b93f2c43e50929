import Highlight.Languages.Texts
import Highlight.Lexers.Robot

/-! # Testing languages -/

set_option autoImplicit false

namespace Highlight.Languages

def robotFrameworkLanguage : Language :=
  { Language.described "RobotFrameworkLexer" "robotframework" "text/x-robotframework"
    (Lexers.robotScanner) with
    presets := [("tabsize", .int 2)] }

end Highlight.Languages
