import Highlight.Catalog
import Highlight.Chars.Blank
import Highlight.Chars.Cased
import Highlight.Chars.Decimal
import Highlight.Chars.Lower
import Highlight.Chars.Ranges
import Highlight.Chars.UnicodeClass
import Highlight.Chars.Word
import Highlight.Filters
import Highlight.Format.Groff
import Highlight.Format.Html
import Highlight.Format.HtmlNumbers
import Highlight.Format.HtmlStyle
import Highlight.Format.Latex
import Highlight.Format.Literal
import Highlight.Format.RawTokens
import Highlight.Format.Rtf
import Highlight.Format.Style
import Highlight.Format.Svg
import Highlight.Format.Terminal
import Highlight.Format.Terminal256
import Highlight.Glob
import Highlight.Grammar.Basic
import Highlight.Grammar.Defs
import Highlight.Grammar.Notation
import Highlight.Grammar.Packed
import Highlight.Grammar.Resolve
import Highlight.Guessing
import Highlight.Language
import Highlight.Languages.Algebra
import Highlight.Languages.All
import Highlight.Languages.Build
import Highlight.Languages.Business
import Highlight.Languages.Config
import Highlight.Languages.Css
import Highlight.Languages.Data
import Highlight.Languages.DotNet
import Highlight.Languages.Dsls
import Highlight.Languages.Erlang
import Highlight.Languages.Fiction
import Highlight.Languages.Functional
import Highlight.Languages.Games
import Highlight.Languages.Grammars
import Highlight.Languages.Graphics
import Highlight.Languages.Hardware
import Highlight.Languages.Haskell
import Highlight.Languages.Html
import Highlight.Languages.JavaScript
import Highlight.Languages.Jvm
import Highlight.Languages.Lisp
import Highlight.Languages.Markup
import Highlight.Languages.Matlab
import Highlight.Languages.Ml
import Highlight.Languages.Music
import Highlight.Languages.Numeric
import Highlight.Languages.Objects
import Highlight.Languages.Perl
import Highlight.Languages.Php
import Highlight.Languages.Proof
import Highlight.Languages.Python
import Highlight.Languages.Query
import Highlight.Languages.Ruby
import Highlight.Languages.Scripting
import Highlight.Languages.Shells
import Highlight.Languages.Statistics
import Highlight.Languages.Systems
import Highlight.Languages.Templates
import Highlight.Languages.Testing
import Highlight.Languages.TextFormats
import Highlight.Languages.Texts
import Highlight.Languages.Tools
import Highlight.Languages.Web
import Highlight.Languages.Wirth
import Highlight.Lexer.Engine
import Highlight.Lexer.Input
import Highlight.Lexer.Insertions
import Highlight.Lexer.Retype
import Highlight.Lexers.Actions
import Highlight.Lexers.Conditional
import Highlight.Lexers.Context
import Highlight.Lexers.Heredoc
import Highlight.Lexers.Interleaved
import Highlight.Lexers.Json
import Highlight.Lexers.KnownNames
import Highlight.Lexers.LatexEmbedded
import Highlight.Lexers.Lines
import Highlight.Lexers.Messages
import Highlight.Lexers.Modula2
import Highlight.Lexers.Nested
import Highlight.Lexers.Pascal
import Highlight.Lexers.RawTokens
import Highlight.Lexers.Robot
import Highlight.Lexers.Sessions
import Highlight.Lexers.Shen
import Highlight.Lexers.Tnt
import Highlight.Lexers.XQuery
import Highlight.Lexers.Yaml
import Highlight.Lexing
import Highlight.Main
import Highlight.Modeline
import Highlight.Options
import Highlight.Pattern.Match
import Highlight.Pattern.Parse
import Highlight.Pattern.Syntax
import Highlight.Pattern.Words
import Highlight.Proofs.Filters.Gobble
import Highlight.Proofs.Filters.TokenMerge
import Highlight.Proofs.Filters.VisibleBlanks
import Highlight.Proofs.Format.GroffRead
import Highlight.Proofs.Format.GroffWidth
import Highlight.Proofs.Format.GroffWrap
import Highlight.Proofs.Format.HtmlLines
import Highlight.Proofs.Format.HtmlLooks
import Highlight.Proofs.Format.LatexColors
import Highlight.Proofs.Format.LatexEscape
import Highlight.Proofs.Format.LatexLooks
import Highlight.Proofs.Format.LineNumbers
import Highlight.Proofs.Format.QuotedLiterals
import Highlight.Proofs.Format.RawRoundTrip
import Highlight.Proofs.Format.RtfRead
import Highlight.Proofs.Format.StyleCascade
import Highlight.Proofs.Format.StyleTable
import Highlight.Proofs.Format.SvgNumbers
import Highlight.Proofs.Format.TerminalText
import Highlight.Proofs.Grammar.Includes
import Highlight.Proofs.Grammar.ReadyMoves
import Highlight.Proofs.Lexer.Extended
import Highlight.Proofs.Lexer.InsertionLayout
import Highlight.Proofs.Lexer.Insertions
import Highlight.Proofs.Lexer.Lossless
import Highlight.Proofs.Lexer.StateStack
import Highlight.Proofs.Lexer.Termination
import Highlight.Proofs.Lexer.UsingSites
import Highlight.Proofs.Lexers.JsonKeys
import Highlight.Proofs.Lexers.LatexEscapes
import Highlight.Proofs.Lexers.RConsole
import Highlight.Proofs.Lexers.RawLines
import Highlight.Proofs.Lexers.RobotText
import Highlight.Proofs.Lexers.RobotVariables
import Highlight.Proofs.Lexers.TntLoop
import Highlight.Proofs.Lexers.YamlContext
import Highlight.Proofs.Lookup.FilenameGuess
import Highlight.Proofs.Lookup.Modelines
import Highlight.Proofs.Pattern.Search
import Highlight.Proofs.Token.ClassNames
import Highlight.Proofs.Token.KindTree
import Highlight.Proofs.Token.KindStore
import Highlight.Token.Basic
import Highlight.Token.Kind
import Highlight.Token.Short
import Highlight.Token.Store
