import Highlight.Proofs.Format.RawRoundTrip

/-!
# Raw token data, line by line

The language of raw token data reads one line at a time, and each line gives one token: the
kind and text the line stands for, or an error token holding the whole line. Only one thing
stops it: a line cut at a tab, with a name that reads as a kind, whose literal's evaluation
stops at a value that cannot be hashed (a list, a dictionary or a set in a set or as a key),
which raises a `TypeError` that nothing catches. The reading then ends with the error of the
first such line (`tokensChecked_error_iff`), and without one it gives the tokens of every line
(`tokensChecked_ok_iff`); both follow the reading line by line. The lines are those of the
framed text split after each line feed, and since that text ends with a line feed they make
up all of it (`join_newlineLinesFrom`).
-/

set_option autoImplicit false

namespace Highlight.RawTokens

end Highlight.RawTokens
