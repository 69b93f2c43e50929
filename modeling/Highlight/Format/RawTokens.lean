import Highlight.Format.Literal
import Highlight.Token.Kind
import Highlight.Options

/-!
# Writing the raw token format

The raw token format writes a token stream one line per token: the kind's dotted name, a
tab, the token's text as a quoted literal (`Literal.quote`), and a line feed. Both the name
and the literal are written in ASCII, a character of a name past ASCII as a hexadecimal
escape, so the format's bytes are its characters. The reader of the format is the language
of raw token data (`RawTokens.tokensOfText`).

The format may be compressed (option `compress`, one of `none`, `gz` and `bz2`, or empty);
answers give the text before compression, so the option only has to be read here.
-/

set_option autoImplicit false

namespace Highlight.RawTokens

/-- A kind's dotted name as the raw token format writes it. -/
def kindName (k : TokenKind) : List Char := k.dotted.toList.flatMap Literal.asciiChar

/-- The line the raw token format writes for a token of kind `k` and text `v`. -/
def line (k : TokenKind) (v : String) : List Char :=
  kindName k ++ '\t' :: Literal.quote v.toList ++ ['\n']

/-- The raw token format of a token stream. -/
def write (ts : List (TokenKind × String)) : String :=
  String.ofList (ts.flatMap fun t => line t.1 t.2)

/-- The compression the raw token format is written with: empty or `none` for none. -/
def compression (opts : Options) : Except OptionError String :=
  opts.choice "compress" ["", "none", "gz", "bz2"] ""

end Highlight.RawTokens
