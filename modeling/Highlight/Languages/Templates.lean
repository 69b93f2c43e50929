import Highlight.Languages.Texts
import Highlight.Lexers.Interleaved

/-! # Templates languages -/

set_option autoImplicit false

namespace Highlight.Languages

def angular2HtmlLanguage : Language :=
  .listed 516 (.embedNamed "HtmlLexer" "Angular2Lexer")

def cssul4Language : Language := .listed 517 (.embedNamed "CssLexer" "UL4Lexer")

def cheetahHtmlLanguage : Language :=
  .listed 518 (.embedNamed "HtmlLexer" "CheetahLexer")

def cheetahJavascriptLanguage : Language :=
  .listed 519 (.embedNamed "JavascriptLexer" "CheetahLexer")

def cheetahXmlLanguage : Language :=
  .listed 520 (.embedNamed "XmlLexer" "CheetahLexer")

def coldfusionCFCLanguage : Language :=
  .listed 521 (.embedNamed "ColdfusionHtmlLexer" "ColdfusionLexer")

def coldfusionHtmlLanguage : Language :=
  .listed 522 (.embedNamed "HtmlLexer" "ColdfusionMarkupLexer")

def cssDjangoLanguage : Language :=
  .listed 523 (.embedNamed "CssLexer" "DjangoLexer")

def cssErbLanguage : Language := .listed 524 (.embedNamed "CssLexer" "ErbLexer")

def cssGenshiLanguage : Language :=
  .listed 525 (.embedNamed "CssLexer" "GenshiTextLexer")

def cssPhpLanguage : Language := .listed 526 (.embedNamed "CssLexer" "PhpLexer")

def cssSmartyLanguage : Language :=
  .listed 527 (.embedNamed "CssLexer" "SmartyLexer")

def erbLanguage : Language := .listed 528 (Lexers.erb)

def evoqueHtmlLanguage : Language :=
  .listed 529 (.embedNamed "HtmlLexer" "EvoqueLexer")

def evoqueXmlLanguage : Language :=
  .listed 530 (.embedNamed "XmlLexer" "EvoqueLexer")

def genshiLanguage : Language :=
  .listed 531 (.embedNamed "XmlLexer" "GenshiMarkupLexer")

def htmlul4Language : Language := .listed 532 (.embedNamed "HtmlLexer" "UL4Lexer")

def handlebarsHtmlLanguage : Language :=
  .listed 533 (.embedNamed "HtmlLexer" "HandlebarsLexer")

def htmlDjangoLanguage : Language :=
  .listed 534 (.embedNamed "HtmlLexer" "DjangoLexer")

def htmlGenshiLanguage : Language :=
  .listed 535 (.embedNamed "HtmlLexer" "GenshiMarkupLexer")

def htmlPhpLanguage : Language := .listed 536 (.embedNamed "HtmlLexer" "PhpLexer")

def htmlSmartyLanguage : Language :=
  .listed 537 (.embedNamed "HtmlLexer" "SmartyLexer")

def javascriptDjangoLanguage : Language :=
  .listed 538 (.embedNamed "JavascriptLexer" "DjangoLexer")

def javascriptErbLanguage : Language :=
  .listed 539 (.embedNamed "JavascriptLexer" "ErbLexer")

def javascriptGenshiLanguage : Language :=
  .listed 540 (.embedNamed "JavascriptLexer" "GenshiTextLexer")

def javascriptPhpLanguage : Language :=
  .listed 541 (.embedNamed "JavascriptLexer" "PhpLexer")

def javascriptSmartyLanguage : Language :=
  .listed 542 (.embedNamed "JavascriptLexer" "SmartyLexer")

def javascriptUL4Language : Language :=
  .listed 543 (.embedNamed "JavascriptLexer" "UL4Lexer")

def jspLanguage : Language := .listed 544 (.embedNamed "XmlLexer" "JspRootLexer")

def lassoCssLanguage : Language := .listed 545 (.embedNamed "CssLexer" "LassoLexer")

def lassoHtmlLanguage : Language :=
  .listed 546 (.embedNamed "HtmlLexer" "LassoLexer")

def lassoJavascriptLanguage : Language :=
  .listed 547 (.embedNamed "JavascriptLexer" "LassoLexer")

def lassoXmlLanguage : Language := .listed 548 (.embedNamed "XmlLexer" "LassoLexer")

def makoCssLanguage : Language := .listed 549 (.embedNamed "CssLexer" "MakoLexer")

def makoHtmlLanguage : Language := .listed 550 (.embedNamed "HtmlLexer" "MakoLexer")

def makoJavascriptLanguage : Language :=
  .listed 551 (.embedNamed "JavascriptLexer" "MakoLexer")

def makoXmlLanguage : Language := .listed 552 (.embedNamed "XmlLexer" "MakoLexer")

def myghtyCssLanguage : Language :=
  .listed 553 (.embedNamed "CssLexer" "MyghtyLexer")

def myghtyHtmlLanguage : Language :=
  .listed 554 (.embedNamed "HtmlLexer" "MyghtyLexer")

def myghtyJavascriptLanguage : Language :=
  .listed 555 (.embedNamed "JavascriptLexer" "MyghtyLexer")

def myghtyXmlLanguage : Language :=
  .listed 556 (.embedNamed "XmlLexer" "MyghtyLexer")

def pythonUL4Language : Language :=
  .listed 557 (.embedNamed "PythonLexer" "UL4Lexer")

def rhtmlLanguage : Language := .listed 558 (.embedNamed "HtmlLexer" "ErbLexer")

def sqlJinjaLanguage : Language :=
  .listed 559 (.embedNamed "SqlLexer" "DjangoLexer")

def sspLanguage : Language := .listed 560 (.embedNamed "XmlLexer" "JspRootLexer")

def teaTemplateLanguage : Language :=
  .listed 561 (.embedNamed "XmlLexer" "TeaTemplateRootLexer")

def twigHtmlLanguage : Language := .listed 562 (.embedNamed "HtmlLexer" "TwigLexer")

def velocityHtmlLanguage : Language :=
  .listed 563 (.embedNamed "HtmlLexer" "VelocityLexer")

def velocityXmlLanguage : Language :=
  .listed 564 (.embedNamed "XmlLexer" "VelocityLexer")

def xmlul4Language : Language := .listed 565 (.embedNamed "XmlLexer" "UL4Lexer")

def xmlDjangoLanguage : Language :=
  .listed 566 (.embedNamed "XmlLexer" "DjangoLexer")

def xmlErbLanguage : Language := .listed 567 (.embedNamed "XmlLexer" "ErbLexer")

def xmlPhpLanguage : Language := .listed 568 (.embedNamed "XmlLexer" "PhpLexer")

def xmlSmartyLanguage : Language :=
  .listed 569 (.embedNamed "XmlLexer" "SmartyLexer")

def yamlJinjaLanguage : Language :=
  .listed 570 (.embedNamed "YamlLexer" "DjangoLexer")

def cheetahPythonLanguage : Language :=
  .listed 571
    (Lexers.Scanner.throughMapped "PythonLexer" fun t => if t.kind == .error && t.text == "$" then { t with kind := .commentPreproc } else t)

def coldfusionMarkupLanguage : Language := .catalogued 328

def genshiMarkupLanguage : Language := .catalogued 329

def jspRootLanguage : Language := .catalogued 330

def teaTemplateRootLanguage : Language := .catalogued 331

end Highlight.Languages
