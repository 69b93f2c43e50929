import Highlight.Languages.Texts
import Highlight.Lexers.Actions

/-! # Tools languages -/

set_option autoImplicit false

namespace Highlight.Languages

def toolsTexts : Family := familyTexts 526 27

def atomsStates : List StateDef := textStates toolsTexts 0

def atomsLanguage : Language := .grammarOf 577 { layers := [atomsStates] }

def adlLanguage : Language := .grammarOf 578
    { layers := [textStates toolsTexts 1, atomsStates] }

def ascLanguage : Language := .ofText 579 toolsTexts 4

def bibTeXLanguage : Language := .grammarOf 580
    { flags := flagsOf "i",
      layers := [toolsTexts.statesWith 6 [Lexers.bibOpenBrace, Lexers.bibCloseBrace]], extended := true }

def cadlLanguage : Language := .grammarOf 581
    { layers := [textStates toolsTexts 8, atomsStates] }

def nixLanguage : Language := .ofText 582 toolsTexts 10

def odinLanguage : Language := .grammarOf 583
    { layers := [textStates toolsTexts 11, atomsStates] }

def rtsLanguage : Language := .ofText 584 toolsTexts 16

def vclStates : List StateDef := textStates toolsTexts 22

def vclLanguage : Language := .grammarOf 585 { layers := [vclStates] }

def vclSnippetLanguage : Language := .grammarOf 586
    { layers := [textStates toolsTexts 23, vclStates] }

def visualPrologBaseStates : List StateDef := textStates toolsTexts 24

def visualPrologBaseLanguage : Language := .grammarOf 587 { layers := [visualPrologBaseStates] }

def visualPrologGrammarLanguage : Language := .grammarOf 588
    { layers := [textStates toolsTexts 25, visualPrologBaseStates] }

def visualPrologLanguage : Language := .grammarOf 589
    { layers := [textStates toolsTexts 26, visualPrologBaseStates] }

end Highlight.Languages
