import Highlight.Languages.Texts
import Highlight.Lexers.Sessions

/-! # Statistics languages -/

set_option autoImplicit false

namespace Highlight.Languages

def rConsoleLanguage : Language :=
  .described "RConsoleLexer" "rconsole,rout" ""
    (Lexers.rConsole)

end Highlight.Languages
