import Highlight.Languages.Algebra
import Highlight.Languages.Build
import Highlight.Languages.Business
import Highlight.Languages.Config
import Highlight.Languages.Css
import Highlight.Languages.Data
import Highlight.Languages.DotNet
import Highlight.Languages.Dsls
import Highlight.Languages.Erlang
import Highlight.Languages.Fiction
import Highlight.Languages.Functional
import Highlight.Languages.Games
import Highlight.Languages.Grammars
import Highlight.Languages.Graphics
import Highlight.Languages.Hardware
import Highlight.Languages.Haskell
import Highlight.Languages.Html
import Highlight.Languages.JavaScript
import Highlight.Languages.Jvm
import Highlight.Languages.Lisp
import Highlight.Languages.Markup
import Highlight.Languages.Matlab
import Highlight.Languages.Ml
import Highlight.Languages.Music
import Highlight.Languages.Numeric
import Highlight.Languages.Objects
import Highlight.Languages.Perl
import Highlight.Languages.Php
import Highlight.Languages.Proof
import Highlight.Languages.Python
import Highlight.Languages.Query
import Highlight.Languages.Ruby
import Highlight.Languages.Scripting
import Highlight.Languages.Shells
import Highlight.Languages.Statistics
import Highlight.Languages.Systems
import Highlight.Languages.Templates
import Highlight.Languages.Testing
import Highlight.Languages.TextFormats
import Highlight.Languages.Tools
import Highlight.Languages.Web
import Highlight.Languages.Wirth

/-!
# The catalog of languages

Every language this library knows, in the order of their class names. Most languages whose
grammar is one rule text have no definition of their own: they are the first entries of the
packed catalog (`Language.catalogued`), merged in by class name.
-/

set_option autoImplicit false

namespace Highlight.Languages

/-- The languages that have definitions of their own, in the order of their class names. -/
def defined : List Language := [
  adlLanguage, angular2HtmlLanguage, antlrActionScriptLanguage, antlrCSharpLanguage,
  antlrCppLanguage, antlrJavaLanguage, antlrObjectiveCLanguage, antlrPerlLanguage,
  antlrPythonLanguage, antlrRubyLanguage, arduinoLanguage, arturoLanguage, ascLanguage,
  asn1Language, aspectJLanguage, asymptoteLanguage, bcLanguage, bareLanguage, bashLanguage,
  bashSessionLanguage, bibTeXLanguage, booLanguage, cLanguage, cObjdumpLanguage, cpsaLanguage,
  cssul4Language, cSharpAspxLanguage, cSharpLanguage, cadlLanguage, cddlLanguage, charmciLanguage,
  cheetahHtmlLanguage, cheetahJavascriptLanguage, cheetahXmlLanguage, cirruLanguage, cleanLanguage,
  clojureLanguage, clojureScriptLanguage, cobolFreeformatLanguage, cobolLanguage,
  coldfusionCFCLanguage, coldfusionHtmlLanguage, commonLispLanguage, cplintLanguage, cppLanguage,
  cppObjdumpLanguage, crmshLanguage, crocLanguage, cryptolLanguage, crystalLanguage,
  csoundOrchestraLanguage, csoundScoreLanguage, cssDjangoLanguage, cssErbLanguage,
  cssGenshiLanguage, cssLanguage, cssPhpLanguage, cssSmartyLanguage, cudaLanguage, dLanguage,
  dObjdumpLanguage, dasm16Language, daxLanguage, delphiLanguage, dgLanguage, dylanConsoleLanguage,
  dylanLanguage, ecLanguage, elixirConsoleLanguage, elixirLanguage, elpiLanguage,
  emacsLispLanguage, emailLanguage, erbLanguage, erlangShellLanguage, evoqueHtmlLanguage,
  evoqueXmlLanguage, fStarLanguage, fancyLanguage, fantomLanguage, fortranFixedLanguage,
  freeFemLanguage, gapConsoleLanguage, genshiLanguage, goloLanguage, gosuTemplateLanguage,
  htmlul4Language, hamlLanguage, handlebarsHtmlLanguage, haskellLanguage, haxeLanguage,
  hspecLanguage, htmlDjangoLanguage, htmlGenshiLanguage, htmlPhpLanguage, htmlSmartyLanguage,
  httpLanguage, hyLanguage, inform6Language, inform6TemplateLanguage, inform7Language, iniLanguage,
  iokeLanguage, jLanguage, jsltLanguage, javaLanguage, javascriptDjangoLanguage,
  javascriptErbLanguage, javascriptGenshiLanguage, javascriptLanguage, javascriptPhpLanguage,
  javascriptSmartyLanguage, javascriptUL4Language, jsonBareObjectLanguage, jsonLdLanguage,
  jsonLanguage, jspLanguage, jsxLanguage, juliaConsoleLanguage, kLanguage, lassoCssLanguage,
  lassoHtmlLanguage, lassoJavascriptLanguage, lassoLanguage, lassoXmlLanguage, lessCssLanguage,
  lilyPondLanguage, literateAgdaLanguage, literateCryptolLanguage, literateHaskellLanguage,
  literateIdrisLanguage, logosLanguage, luaLanguage, luauLanguage, mimeLanguage,
  msdosSessionLanguage, makefileLanguage, makoCssLanguage, makoHtmlLanguage,
  makoJavascriptLanguage, makoXmlLanguage, markdownLanguage, matlabSessionLanguage, miniDLanguage,
  modula2Language, moonScriptLanguage, mozPreprocCssLanguage, mozPreprocHashLanguage,
  mozPreprocJavascriptLanguage, mozPreprocPercentLanguage, mozPreprocXulLanguage, mqlLanguage,
  myghtyCssLanguage, myghtyHtmlLanguage, myghtyJavascriptLanguage, myghtyXmlLanguage,
  nasmObjdumpLanguage, nemerleLanguage, nesCLanguage, nixLanguage, nodeConsoleLanguage,
  numPyLanguage, objdumpLanguage, objectiveCLanguage, objectiveCppLanguage, ocamlLanguage,
  odinLanguage, omgIdlLanguage, opaLanguage, orgLanguage, outputLanguage, panLanguage,
  perl6Language, phpLanguage, pikeLanguage, plPgsqlLanguage, portugolLanguage,
  postgresConsoleLanguage, postgresLanguage, powerShellSessionLanguage, prologLanguage,
  promelaLanguage, psyshConsoleLanguage, pugLanguage, pythonConsoleLanguage, pythonLanguage,
  pythonUL4Language, qLanguage, rConsoleLanguage, ragelCLanguage, ragelCppLanguage, ragelDLanguage,
  ragelJavaLanguage, ragelObjectiveCLanguage, ragelRubyLanguage, rawTokenLanguage, reasonLanguage,
  rebolLanguage, redLanguage, rhtmlLanguage, robotFrameworkLanguage, rstLanguage, rtsLanguage,
  rubyConsoleLanguage, rubyLanguage, smlLanguage, snbtLanguage, sassLanguage, scamlLanguage,
  schemeLanguage, shExCLanguage, shenLanguage, slashLanguage, slimLanguage, slurmBashLanguage,
  snowballLanguage, sourcePawnLanguage, sqlJinjaLanguage, sqliteConsoleLanguage, sspLanguage,
  swiftLanguage, swigLanguage, tntLanguage, tads3Language, tcshSessionLanguage,
  teaTemplateLanguage, terraformLanguage, texLanguage, textLanguage, tiddlyWiki5Language,
  treetopLanguage, twigHtmlLanguage, typeScriptLanguage, urbiscriptLanguage, usdLanguage,
  vclLanguage, vclSnippetLanguage, vbNetAspxLanguage, velocityHtmlLanguage, velocityXmlLanguage,
  vimLanguage, visualPrologGrammarLanguage, visualPrologLanguage, watLanguage, webIDLLanguage,
  wikitextLanguage, xmlul4Language, xQueryLanguage, xmlDjangoLanguage, xmlErbLanguage, xmlLanguage,
  xmlPhpLanguage, xmlSmartyLanguage, xppLanguage, xsltLanguage, yamlJinjaLanguage, yamlLanguage,
  yangLanguage, zeekLanguage]

/-- Every language, in the order of their class names: those defined on their own, and the
first 326 entries of the catalog, which are languages whose grammar is one rule text. -/
def all : List Language :=
  (defined ++ (List.range 326).map Language.catalogued).mergeSort
    fun a b => decide (a.className ≤ b.className)

/-- The languages that other languages lex with but that no alias names. -/
def helpers : List Language := [
  atomsLanguage, cFamilyLanguage, csoundLanguage, objectiveCppBaseLanguage, objectiveCBaseLanguage,
  visualPrologBaseLanguage, pythonConsoleLexerBaseLanguage, psqlRegexLanguage, genericAspxLanguage,
  cheetahPythonLanguage, coldfusionMarkupLanguage, emailHeaderLanguage, genshiMarkupLanguage,
  jspRootLanguage, slashLanguageLanguage, teaTemplateRootLanguage, treetopBaseLanguage,
  teaLangLanguage]

end Highlight.Languages
