import Highlight.Chars.Ranges

/-!
# Unicode character classes

The general categories of Unicode, and the characters that may start and continue an
identifier, as sets of code points (`UnicodeClass.ranges`), each table packed
(`Ranges.unpack`). Grammars use them inside bracketed classes; `UnicodeClass.classText`
writes a set the way it stands inside brackets, one escaped code point or range after
another.
-/

set_option autoImplicit false

namespace Highlight.Chars

/-- A named set of characters: a general category, or the identifier start and continue
sets. -/
inductive UnicodeClass

  | Cc
  | Cf
  | Cn
  | Co
  | Cs
  | Ll
  | Lm
  | Lo
  | Lt
  | Lu
  | Mc
  | Me
  | Mn
  | Nd
  | Nl
  | No
  | Pc
  | Pd
  | Pe
  | Pf
  | Pi
  | Po
  | Ps
  | Sc
  | Sk
  | Sm
  | So
  | Zl
  | Zp
  | Zs
  | xidContinue
  | xidStart
  deriving BEq, DecidableEq, Repr, Inhabited

namespace UnicodeClass

def CcRanges : Array (Nat × Nat) := Ranges.unpack
  "!Ak:B"

def CfRanges : Array (Nat × Nat) := Ranges.unpack
  "lA!kj/'8!lT!S!pJ!lzS!ksZ&<&S&#+lnnC!mF$mm?!1!kwuG%m~$)kvly4!@k:"

def CnRanges : Array (Nat × Nat) := Ranges.unpack
  "vF#(%)!#!6!oL!H#T#%!Y)=%(,?!m=!_#k@/^#S#1!>##!-V7!*6lE!*#$#8!)!#$&#+#$#&)#%$!'#;#%!(%$#8!)!$!$!$
  ##!'%$#%$#(&!#(3+%!+!%!8!)!$!'#,!%!%##0&#.()!%!*#$#8!)!$!'#+#$#%)$%$!'#4+$!($%!&$$!#!$$$$%$.%'$%
  !&##'#/7&/!%!9!2$*!%!&($!%&&#,)7!%!9!,!'#+!%!&($(#!&#,!$.&!*!%!U!%!(%2#<#$!4$:!+!##)$#%(!#!*',#%
  -]%?F$!##$!###'&!)!%!#!##$!/!%#'!#!(#,#&Ak#!F%I!F!1!/FlZ!#&##o8!&#)!#!&#K!&#C!&#)!#!&#1![!&#f#B$
  <'k1#(#s@$k4(/!),9*6-/!%!$-k9#,','1!,'k4(M&i+A!.%.%#$L#',N%<'-$a#d!?#-','0#1ck'%O$kO)_$1$_(M#-)L
  'mG!mi#(#H#(#*!#!#!#!A#W!1!0#(!5#%!+!k@!.#=!/$B1C0kh%s::-6kpG#B#S!W!Q!Q!l(&O!#&##Z($/:*)!)!)!)!)
  !)!)!)!kJR<!k4-m#;.%c!k1#kB&M!k9!M&F-Q!m,!ok8+yu:1z?$Y*nc5lL)lN_W%,'Z)i).'kO,@$k)!-%C!Y*0#,#kB9>
  +(#(#(*)!)!X+kY#,'ro;-9%S%pt,#kEG)-'&<!'!#!$!$!kW2o,1c#XI0#<'U!5!&%'!kc##!lR$(#(#(#%$)!)+'#.!<!5
  !$!1#0CkV&%%O$k3!.%#PPk]?$S0>%F*@&M&@!G%0Kl2#,'F%F%J)V,#l#n=*8+*l+(##!N!$$##9!k#)+Q5!$&C$=&#bZ%6
  #T!$&*!%!?#%%,(+(cAI%.*X$?#=&<(&-)k*k$XU.U(P),n+Ak[J)Ll9k)%@0f,##;(,'W!3*I*k)#2!6,4!Nc)!#!&!1!-'
  ^&,'&!*#$#8!)!$!'!,#$#%##'#&)#)$'kfk5!#!$Bk#),l9X#HCh,,'/4Z),W=#1%2lS_k>k.-#mLk#)V#?>[mS+!O!0+?$
  B#8!0k#)!$!N$#!$!+),'(!$!G!$!((,n;;mSvik@kJ!',lXljSy(mj#r1pqKr#(A!,%$k:@#(+i+,!)!7&5sRk6k?h,Q13b
  $?nt:/tOqjKn%k+oKkwEkF&/$+(,#*mvZmC+I#lT8il-6-k2*;kbk0!k!!$###$#&!.!#!)!d!&#*!)!>!&!'!#$)!nZ#n*#
  sb0'!1kj,)!3#)!$!'ks2lY#2Jk&&,%$u%gnP&!=!$!###!,!&!#!#'#%#!#!#!%!$!###!#!#!#!#!$!##&!)!&!&!#!,!3
  &%!'!3U$mZN%k?-1#1!1!G+/$k7%`Z?.N%+($/(l-w],/$,'kO-k4H.%Z),'J)@k,.%Q!S#&$#!I.,'%.Rk:0kk'kvvJJmkA
  ,m+#no-/ot4loSqOksmsR#?k;kZm=ltn%ltu##ltu##"

def CoRanges : Array (Nat × Nat) := Ranges.unpack
  "lnsQnx+kzzr^ltu!$ltu!"

def CsRanges : Array (Nat × Nat) := Ranges.unpack
  "ll~]x?!!!x>"

def LlRanges : Array (Nat × Nat) := Ranges.unpack
  "k<;]!K9#)#!#!#!#!#!#!#!#!#!#!#!#!#!#!#!#!#!#!#!#!#!#!#!#!#!#!#!###!#!#!#!#!#!#!###!#!#!#!#!#!#!#
  !#!#!#!#!#!#!#!#!#!#!#!#!#!#!#!$!#!#$$!#!$!%#&!$!%$$!$!#!#!$!###!$!%!#!$#$$(!$!$!#!#!#!#!#!#!#!#
  ##!#!#!#!#!#!#!#!##$!#!%!#!#!#!#!#!#!#!#!#!#!#!#!#!#!#!#!#!#!#!#!#!#!#!#!#!#!#!#!#($!$##!&!#!#!#
  !#g#<lU!#!%!%$4!=D##%$#!#!#!#!#!#!#!#!#!#!#!#&#!$!$#UQ#!#!#!#!#!#!#!#!#!#!#!#!#!#!#!#!#!+!#!#!#!
  #!#!#!#!#!#!#!#!#!#!#!#!#!#!#!#!#!#!#!#!#!#!#!$!#!#!#!#!#!###!#!#!#!#!#!#!#!#!#!#!#!#!#!#!#!#!#!
  #!#!#!#!#!#!#!#!#!#!#!#!#!#!#!#!#!#!#!#!#!#!#!#!#!#!#!#!#!#!RJllQL$$tT'kuR*kRMb.#CkA!#!#!#!#!#!#
  !#!#!#!#!#!#!#!#!#!#!#!#!#!#!#!#!#!#!#!#!#!#!#!#!#!#!#!#!#!#!#!#!#!#!#!#!#!#!#!#!#!#!#!#!#!#!#!#
  !#!#!#!#!#!#!#!#!#!#!#!#!#!#!#!#!#!#!#!#*#!#!#!#!#!#!#!#!#!#!#!#!#!#!#!#!#!#!#!#!#!#!#!#!#!#!#!#
  !#!#!#!#!#!#!#!#!#!#!#!#!#!#!#!#!#!#!#!#!#**',)*)*',)*)*/$)*)*)*&##(!%$##*%$#*),$##m`!%#%!=!&!&!
  $#*%&!W!ljCP$!%##!#!#!&!###''!#!#!#!#!#!#!#!#!#!#!#!#!#!#!#!#!#!#!#!#!#!#!#!#!#!#!#!#!#!#!#!#!#!
  #!#!#!#!#!#!#!#!#!#!#!#!#!#!#!##)!#!&!.G#!'!km~I!#!#!#!#!#!#!#!#!#!#!#!#!#!#!#!#!#!#!#!#!#!#!5!#
  !#!#!#!#!#!#!#!#!#!#!#!#!kc!#!#!#!#!#!#$#!#!#!#!#!#!#!#!#!#!#!#!#!#!#!#!#!#!#!#!#!#!#!#!#!#!#!#!
  #!#!#!#)#!#!$!#!#!#!#!&!#!$!#$#!#!#!#!#!#!#!#!#!#!'!'!#!#!c!uJL'',k*yjW(.&y!;|8IkdEks!TlnIAzn6Ak
  jo:;<(#3<;<%#!#(#,<;<;<;<;<;<;<;<;<=>:#'<:#'<:#'<:#'<:#'#!moFC"

def LmRanges : Array (Nat × Nat) := Ranges.unpack
  "sS3&-0&)!#!ka!'!pV!m3!l8#mZ#&!A!+!%!nN!|?!kZ!qg!koT!kF!rM!pH'lBa/!DFsT!/!2.ln[#m>!lS!pM!M&'!k<#k
  8$klkH!|M'm[!kM!>#kT*k+!9!kJ#pM!8!ke!kG!7#kB%y~)!O#kkr&%yH.c#"

def LoRanges : Array (Nat × Nat) := Ranges.unpack
  "l>!1!mM!&%le!uP<&%OA#+E##k=#!:#,$$!2!#??k3-!:B77L:),W6#)iW%!4!)+20&)$#$7#(#!%%%!2!/##$0#,!*'&#$7
  #(######A%#!5$2*#$#7#(###&%!4!1#9!-)$#$7#(###&%!@##$1!3!#'%$#%%##!##%#%$%-8!V)#$#8#1%!<$'#@!&)#$
  #8#+#&%!B!##1#4)#$#J$!2!'$*$:''3%9#*#!$(]Q##.'^##!$##!$!(%#(#$#!#!$##%##+!$&9%B!b)#E=&kNL6!2'&%%
  !%#)$&..!kLnN#%$(#!#%$J#%$B#%$(#!#%$0#Z#%$eG1kLrU$2#;'k%()).#%03030.#$1UJ!fD#V)&$C#!'h,@S?$&-M&;
  X8+VlDP3(Y?/#,M<EK$,?kL%#%%#y7%lo,Y:8+(#(#(#(#(#(#(#(qX!W!&k0*!#k4&!'L#k83<W1q1nzSk%yt@26#z(fI*m
  X&1,#e!Shl=!kB!%(#$#%#8?U0Sa'%!##-=,8;>)PO&$*,&#J9$#)61#'%!%S#!%#$&$!#!:#%,)!0'$'$'+(#(l%D?ro:.8
  &Rpo%o,$kDf!#+#.#&#!#####kFCo)4b$WJ-kO&#kbkD+#N$@%'$'$'$$E-#;#4###0$/DkUoD>%RQA/5#)(G,?$E&)k[k(k
  =I*Ul0n<+7,)l,'$!#M##%!$8,8+@d4##,7,;iY(#c!1%#$#>L>%>E)#==W,7,4/3kIk#lKEpT>,!*7lQVk&NB:<E?!-D%!.
  Q0%7!#!E3#:k/(#!#%#0#+)PH)$#$7#(###&%!4!.&l2V4%WQ6##!lLPK%FQ6!^Lk0<m2Mlh!mM!,I)!7!-I$%5!DZmT*#F3
  !S?kK(###G7!;'###A0!nM4mZvhm3lWljTy'mj$r0pqLr!)@kL?4QU6'4v>g-!lCnt90tNqjLn$k,oJkwFkE'.%*)+rnDlX~
  `%#<###!$!#+#%#!#!(!&!#!#!#$###!$!#!#!#!#!###!$%#(#%#%#!#+#2'$#&#2mo4kvvIKmk@-m*$no,0ot3loTqN"

def LtRanges : Array (Nat × Nat) := Ranges.unpack
  "p=!$!$!H!ouQ)*)*).!1!Q!"

def LuRanges : Array (Nat × Nat) := Ranges.unpack
  "d;k@8#(C!#!#!#!#!#!#!#!#!#!#!#!#!#!#!#!#!#!#!#!#!#!#!#!#!#!#!#!$!#!#!#!#!#!#!#!$!#!#!#!#!#!#!#!#
  !#!#!#!#!#!#!#!#!#!#!#!#!#!#!###!#!%##!###$$%###$%####!#!###!$!###$#!##%!)!$!$!$!#!#!#!#!#!#!#!$
  !#!#!#!#!#!#!#!#!$!$!#$#!#!#!#!#!#!#!#!#!#!#!#!#!#!#!#!#!#!#!#!#!#!#!#!#!#!#!#!#!)###$!#%#!#!#!#
  !n'!#!%!*!(!#$#!###2#*E!$$%!#!#!#!#!#!#!#!#!#!#!#!'!$!##$TR!#!#!#!#!#!#!#!#!#!#!#!#!#!#!#!#!+!#!
  #!#!#!#!#!#!#!#!#!#!#!#!#!#!#!#!#!#!#!#!#!#!#!#!#!###!#!#!#!#!#!$!#!#!#!#!#!#!#!#!#!#!#!#!#!#!#!
  #!#!#!#!#!#!#!#!#!#!#!#!#!#!#!#!#!#!#!#!#!#!#!#!#!#!#!#!#!#!#!#!$GllSG#!'!t.k0kv#L$$nF!#!#!#!#!#
  !#!#!#!#!#!#!#!#!#!#!#!#!#!#!#!#!#!#!#!#!#!#!#!#!#!#!#!#!#!#!#!#!#!#!#!#!#!#!#!#!#!#!#!#!#!#!#!#
  !#!#!#!#!#!#!#!#!#!#!#!#!#!#!#!#!#!#!#!#!#!+!#!#!#!#!#!#!#!#!#!#!#!#!#!#!#!#!#!#!#!#!#!#!#!#!#!#
  !#!#!#!#!#!#!#!#!#!#!#!#!#!#!#!#!#!#!#!#!#!#!+)*',)*)*'-!#!#!#!*)k#%.%.%.&-%mS!&!%$$$$!%&(!#!#!#
  %$%,#'!`!k~[PS!#$$!#!#!#%#!$!*$#!#!#!#!#!#!#!#!#!#!#!#!#!#!#!#!#!#!#!#!#!#!#!#!#!#!#!#!#!#!#!#!#
  !#!#!#!#!#!#!#!#!#!#!#!#!#!#!#!#!*!#!&!knj<!#!#!#!#!#!#!#!#!#!#!#!#!#!#!#!#!#!#!#!#!#!#!5!#!#!#!
  #!#!#!#!#!#!#!#!#!#!kc!#!#!#!#!#!#!%!#!#!#!#!#!#!#!#!#!#!#!#!#!#!#!#!#!#!#!#!#!#!#!#!#!#!#!#!#!#
  !,!#!###!#!#!#!&!#!$!#!%!#!#!#!#!#!#!#!#!#!#&#&#!#!zu-;|0IkdEkrQTlo!Azn6Akjo@;<;<;<!##$!$#$%#)<;
  <##%$)#(=##%#&#!%(=;<;<;<;<;<;@:C:C:C:C:C!mo%C"

def McRanges : Array (Nat × Nat) := Ranges.unpack
  "kwE!Y!$$*%##T#]$(#$#,!M!]$e!]$*!##W#]!#!(#$#,!kA###%$#$,!K$`%`#]!#&$###+#M#]$'$#$,!L#k&$()4#nP#b
  !l?#&!(!$#;#,$$(7#$'$!,$kpL!))##na%$$&##'m-#]!#!+!##*'l%!R!'!#&##`!@!&#$!_!$$#!%#R)*#l?!2#%!mv5#
  kmxE#$!k3#T1l!#Q!R#&##%kI#$#:!O!#!kH!$#'!m:######!~~^!#!kZ!O$&#kN!:#^!R$+#kF$%##!l>$A#]##%$#$$+!
  ,#lf$*#%!kE$(!#%$!m:$(%$!kL$*##!kH!##(!kD#&!mR$+!q1!?#a!oV!0!kE!)!$!m!&&##!ne#ynUO~ti#('"

def MeRanges : Array (Nat × Nat) := Ranges.unpack
  "z:#nn&!km&%#$kppF$"

def MnRanges : Array (Nat × Nat) := Ranges.unpack
  "t]kJma&mVN#!#####!k#,R62!k@($'$##%E!@<k6,]*+!:%#*#$#&M$kR0#AY!#!&)&!%(,#?!]!&%*!6#<!$#[!&#&#$$%!
  @#%!-#[!&&##&!6#8'#!]!$!#%*!*!-#@!`!.!T!%![$'$#%)#-#?!]!$!(!'#6#>#[#&%*!6#kA!)$#!k5!$(.)k=!$'##-
  'k%#=!#!#!Y/#&##',#E+!kA%#'##$#;#&$2%/!$#(!1!sc$w9$?$?#@#c##(*!$,+!O$kR#D!kQ$&#+!($m(#$!]!#(#!#!
  $)(+$!R/e%R!#&#!'!J*.#B%$##$Z!##%!#$])$#l,$#.#(&!(!%#lZ[#&t,.&!%-lo3$ki!k;Aq[%kF#kmp_!&+B#k+#m^!
  %!&!;#l1#<3/!H);,P$R!$%$!J!f'$#$#.!*!Q!U!#$$#'##!L#*!m;!$!&!yjG!t=121wT!m/!l)&knG$##'%J$&!l9#r'%
  qO,lD!X0Z$S%$#h$F&#)a!.#V*,%k=$$!##(!l4!%)7#[#%!G(%&lW)$$#!9!k/'#!&###m;%(###=#k0)$!##kE!#!$'#!k
  @$$%#&mP*##p>+J'$%*!+'$$P.##oU(#'#!k-7$(####kU'%!###(#!k##%!#!nb#xqg&^(yQ%xuY#m|e$3)$(@%l($kraX&
  S*!0!8&#0kj-(#2$(###&kv.(kH(ku|rim<"

def NdRanges : Array (Nat × Nat) := Ranges.unpack
  "R+km.+kb+lZ+o[+kQ+kQ+kQ+kQ+kQ+kQ+kQ+kQ+kQ+k;+kQ+i+md+i+kq2+H+n2+k[+l:+(+lJ+k1+kb+(+kqlX+sI+H+lZ+
  8+k1+oU+yxK+kjd+kuV+uA+k[+_+l$+md+n]+kQ+o5+kA+kA+of+v4+mC+i+xtL+m3+kku%Smo@+"

def NlRanges : Array (Nat × Nat) := Ranges.unpack
  "npR$k~ND$%lx4!;*0$kmsa+|lOVpD!*!kb&pkhkI"

def NoRanges : Array (Nat × Nat) := Ranges.unpack
  "lF#'!$$kx0'o7'kS$ka(m&(3*p)+y.5z%+pX!knV!%'(+lZ1K!t2^k)7ra?kjF!zF%kf+@)#0B+I0kmoA'zz3Nd%3#n[<F%~
  X);(I*k&&8'l4#$1$Oc*V#@$k&&kC):)K(nP'ng@l2+L%mJ5o:5kj!#p&*v54x~L(u38kjjL5kG:nj]*w(]#$#%yD."

def PcRanges : Array (Nat × Nat) := Ranges.unpack
  "k:!pjd#5!lnkh#:$m<!"

def PdRanges : Array (Nat × Nat) := Ranges.unpack
  "O!kj9!U!lw>!xE!ksh'lvE!$!A#&!pS!5!kJ!lkj/#G!,!l=!"

def PeRanges : Array (Nat × Nat) := Ranges.unpack
  "K!U!A!ly,!#!kqJ!ky^!Y!1!re!#!@!y7!#!#!#!#!#!#!k+!B!#!#!#!#!oS!#!#!#!#!#!#!#!#!#!#!c!#!C!xf!#!#!#
  !pW!#!#!#!#!%!#!#!#!$#lj|K!m&!?!#!#!#!#!#!#!#!%!3!#!#!l>!U!A!$!$!"

def PfRanges : Array (Nat × Nat) := Ranges.unpack
  "lO!o~(!%!>!luS!#!&!$!1!%!"

def PiRanges : Array (Nat × Nat) := Ranges.unpack
  "l?!o~7!$#$!;!luS!#!&!$!1!%!"

def PoRanges : Array (Nat × Nat) := Ranges.unpack
  "C$#$$!#!##,#%#=!g!'!0#)!sb!*!pJ'K!X!$!$!N#6###/!$#k%%kA!M/m6$X0A!mR#,!kh!kS!kT!oR!o.!k5!,#l<0#!k
  K!k%&&#kJ'l?!rN*ta#kW$k!#l1$#$G'#%n?#m%#k[(#'l@(l/%^&a#c)-!uW#*)**$%$$%,#!#+lqA%##kK!l##&$$!$*##
  #!$#,&#+$%#!#-p*$[!lQ!kmj6#mZ$k>!,!kN'o;%k1#J$#!S#Q!k<.2#kW%kY#2#mF!yu.($!8!6#$%%$#%)$(!##l)$#$$
  !#!##,#%#=!F!$#oY$s?!R!o^!tC!l[!A!m^*H!kK(e(k4%w?&m:(kH##%kY%R#k*%&!/!#$k3'kF!oa&-!#!kC!mG8kD$>.
  ld$mI!q4)k.$#&o^&L#s(#kjT&wo7#ka!d&*!uh%xy7!ov]&lyA#"

def PsRanges : Array (Nat × Nat) := Ranges.unpack
  "J!T!A!ly-!#!kqJ!ky2!%!H!Y!1!re!#!@!y7!#!#!#!#!#!#!k+!B!#!#!#!#!oS!#!#!#!#!#!#!#!#!#!#!c!#!C!xf!#
  !#!#!;!p=!#!#!#!#!%!#!#!#!$!lj|N!m$!?!#!#!#!#!#!#!#!%!3!#!#!l>!T!A!%!$!"

def ScRanges : Array (Nat × Nat) := Ranges.unpack
  "F!kX%|T!kV!q##q##)!mB!mT!r/!kyO!kvMAkpwB!zo2!kG!l.!m(#%#lp|X!"

def SkRanges : Array (Nat × Nat) := Ranges.unpack
  "k9!#!k!!(!&!%!q:%./'(#!#2kP!0#opV!#$-$/$/$/#mlb#kmr`8+#kB#wW!ynQ1vJ!#!l6!lrp)&"

def SmRanges : Array (Nat × Nat) := Ranges.unpack
  "M!2$`!#!O!&!G!A!tZ!q@$n~K!/!I$/$kg!I&(!g&'#&!$!$!)!A#$!#!AmXB#k5!@:J'pM!+!X)kJ!nV&$@,1mMk^8a&A$m
  NR6$'lkrC!uM!#$l8!2$`!#!k_!(%llxL!;!A!;!A!;!A!;!A!;!nqI#"

def SoRanges : Array (Nat × Nat) := Ranges.unpack
  "l:!$!&!#!wX!mW#kZ#lc!,!5#mD!q4!o4!k^'#!k`!ld!K!oF$1!#$$'6!#!#!ka)#'##'%lY#tL+kk<!l1Cnh++*kja##%#
  #,!##('#!#!#!&!-#0!###!]#+&$%#####(#@$##!#@mY)&5$($k+#?;I(g;,k,k(8lJ#*#W*kI#mDNMcmLq1Q7#(H$A$R#V
  m3'oT;#k3.m!<-*!/#.!7#(#nV#&+BE>@-?*!1A,H1a#mLnz_bzr*Xv/%,##!r'$yz*!p_!%!&#/#n?*[2$$#-&!QNkn;#r9
  !lpe!y|]%'!yr5!mvcmB,H$^'$8#)?&]9d%!lNk1z[q0Y%T)#/##mr@!uiM&k>.0$0#0#F<k6&_[>/M&*)#0'l.mG't0-.%+
  (kN.k3I-&Y*+(I*?k--&P#R$%%!#H/+($/Qk;/"

def ZlRanges : Array (Nat × Nat) := Ranges.unpack
  "pkf!"

def ZpRanges : Array (Nat × Nat) := Ranges.unpack
  "pkg!"

def ZsRanges : Array (Nat × Nat) := Ranges.unpack
  "B!kZ!nl`!ky3,F!Q!l~:!"

def xidContinueRanges : Array (Nat × Nat) := Ranges.unpack
  "R+);&!#;Q!,!#!$!'8#@#pA&-0&)!#!3kO##%$#!(&#!#5#k-#kf#&$l9#G$!(J*N#!#####!*<&%?,'k$&k@#)$+#4$!2]$
  k?0W&!$!$O4=&,W6#)70#k[$+#4#)$#$7#(#!%%$*$#$%*!&##&$-,!#!$$#'&#$7#(######$!#&&#$$%!)%#!)1-$#*#$#
  7#(###&$+#$#$$!1%$++(#$#)$#$7#(###&$*$#$$*#&##&$+#!2##'%$#%%##!##%#%$%-&&%$#%$!(!0+2.#$#8#1%)#$#
  %)##$'%$+2%#)#$#8#+#&$*#$#%)#)!#%$+##/%#)#$#T#$#&'%)&$+,'$##3%9#*#!$(%!&'#!#)(+$#/['0#+I##!$##!$
  !(%#(#$#!#!$##.#$$&#!#'$+$%B!9#(+-!#!#!&+#E&5#3#E+![k$(k($G#!'!$L#nR#%$(#!#%$J#%$B#%$(#!#%$0#Z#%
  $e$$+*012k0$'%rU$2#;'k%%,).#(-6-5..#$##.k.%!&#$+C$$+(k3)L'h,@#-&-,I$&-M&;(,G=&a#>$,(+/!*/ek&&+3*
  .kN.Y*+%R$*)L$$2$#G(mF#mh$'$G$'$)#!#!#!#@$V#(#!%$#(%%$'&.'$#(e#5!>!/!2.U.&!%-3!&!$+#!$'(!#!#!#1$
  %'&&!3Jk~VP#P#k`(*.G#!'!$Y)!19+(#(#(#(#(#(#(#(#Aq6$;0#&$&&k0$#$$#k4#%'L#k83<W1q1nzSk%yt@2z>fO$mY
  %=6Q&+#kMG*$kA$P`R:U.h,+(9%!#R$E.>%c0,(@#X+/$+(8%k#:$$1$&,'$'$'+(#(#L#+,kU##$+(ro:.8&Rpo%o,$kDH(
  .&'-#.#&#!#####kFCkf(m&4b$WJ+(121%#:$C!#!%!#!#!#!#kX5+);&!#;-k3%'$'$'$$E-#;#4###0$/DkUhVkd!k^>%R
  1!AA/?'L'?$E&)#&Ll1$+(E&E&I*Ul0n<+7,)l,'$!#M##%!$8,8+@d4##,7,;iY(#c%##')#$#>$$&!B>%>E)#?;W,7,4/3
  kIk#YT/T/I*+p>>,!*BlCiA+1^7:)+(V#+&$+E$!+g&%%,#!E3#F(!d(#!#%#0#+)]'+(%#)$#$7#(###&#+$#$$$!(!'($(
  %&kgk%'+&!Ch#!*+l:W$*9'Dc%!-+HY*+X<$0&+lZ]k@k$7!mMa*!*U$5%!DZmT*#N#*1+:?$7#/k$(###M%!###**+('###
  F###')+n<8mVvhkAkI3lWljTy'mj$r0pqLr!)@#+kA?$&-X+%.++6'4sSbk[g-P22c#@nt90tNqjLn$k,oJkwFkE'.%*)+%#
  m|c&%'*)$(@%l($p3k/#i##$!$#$%#-#!#(#c#%$)#(#=#%#&#!%(#nY$:#:#@#:#@#:#@#:#@#:#)$Sq1X&S*!0!8&#0kj-
  (#2$(###&ks3lX-(Kk%'+zX%#<###!$!#+#%#!#!(!&!#!#!#$###!$!#!#!#!#!###!$%#(#%#%#!#+#2'$#&#2mo4kvvIK
  mk@-m*$no,0ot3loTqNksmw6m<"

def xidStartRanges : Array (Nat × Nat) := Ranges.unpack
  "d;&!#;Q!,!&!'8#@#pA&-0&)!#!k]&##%$#!(!#$#!#5#k-#kf*l9#G$!(Jk!<&%OLE##k=#!1#)#,$$!2!#??k3-!:B+#&!
  '7&!+!%!9:),W6#)iW%!4!)+11&)$#$7#(#!%%%!2!/##$0#,!*'&#$7#(######A%#!5$2*#$#7#(###&%!4!1#9!-)$#$7
  #(###&%!@##$1!3!#'%$#%%##!##%#%$%-8!V)#$#8#1%!<$'#@!&)#$#8#+#&%!B!##1#4)#$#J$!2!'$*$:''3%9#*#!$(
  ]Q#!/(]##!$##!$!(%#(#$#!#!$##%#!,!$&#!7%B!b)#E=&kNL6!2'&%%!%#)$&..!3G#!'!$L#nR#%$(#!#%$J#%$B#%$(
  #!#%$0#Z#%$eG12k0$'%rU$2#;'k%%,).#%03030.#$1UE!&!fk3)J#!'h,@S?$&-M&;X8+Vk-!k8P3(Y?/#,M<EK$,E$*)L
  $$K%#%%#+lScmc$'$G$'$)#!#!#!#@$V#(#!%$#(%%$'&.'$#(kO!/!2.k@!&!$+#!$'(!#!#!#1$%'&&!3Jk~VP#P#k`(%%
  #.G#!'!$Y)!28+(#(#(#(#(#(#(#(qW$;*)&$&&k0($#k4#%'L#k83<W1q1nzSk%yt@2z>fO$mY%1,#6P2@$k*I*$kA$P`,#
  $#%#8?U0Sa'%!##-=,8;>)P>!2&#+,&#J9$#)68%!%S#!%#$&$!#!:$$,)$.'$'$'+(#(#L#+,kM?ro:.8&Rpo%o,$kDH(.&
  '!#+#.#&#!#####kFCkf(m&4b$WJ+kR!#!%!#!#!#!#kXF;(;-Y$@%'$'$'$$E-#;#4###0$/DkUhVmX>%RQA/?'G,?$E&)#
  &Ll14E&E&I*Ul0n<+7,)l,'$!#M##%!$8,8+@d4##,7,;iY(#c!1%#$#>L>%>E)#==W,7,4/3kIk#YT/T/EpT>,!*7lQVk&N
  B:<E?!-D%!.Q0%7!#!E3#:k/(#!#%#0#+)PH)$#$7#(###&%!4!.&l2V4%WQ6##!lLPK%FQ6!^Lk0<m2MkObA!mM!,I)!7!-
  I$%5!DZmT*#F3!S?kK(###G7!;'###A0!nM4mZvhkAkI3lWljTy'mj$r0pqLr!)@kL?4Q2%A6'4sSbk[g-!e.c#@nt90tNqj
  Ln$k,oJkwFkE'.%*)+nr<k/#i##$!$#$%#-#!#(#c#%$)#(#=#%#&#!%(#nY$:#:#@#:#@#:#@#:#@#:#)mk@lX^f|'%#<##
  #!$!#+#%#!#!(!&!#!#!#$###!$!#!#!#!#!###!$%#(#%#%#!#+#2'$#&#2mo4kvvIKmk@-m*$no,0ot3loTqN"

/-- The members of a class, as pairs of code points. -/
def ranges : UnicodeClass → Array (Nat × Nat)
  | .Cc => CcRanges
  | .Cf => CfRanges
  | .Cn => CnRanges
  | .Co => CoRanges
  | .Cs => CsRanges
  | .Ll => LlRanges
  | .Lm => LmRanges
  | .Lo => LoRanges
  | .Lt => LtRanges
  | .Lu => LuRanges
  | .Mc => McRanges
  | .Me => MeRanges
  | .Mn => MnRanges
  | .Nd => NdRanges
  | .Nl => NlRanges
  | .No => NoRanges
  | .Pc => PcRanges
  | .Pd => PdRanges
  | .Pe => PeRanges
  | .Pf => PfRanges
  | .Pi => PiRanges
  | .Po => PoRanges
  | .Ps => PsRanges
  | .Sc => ScRanges
  | .Sk => SkRanges
  | .Sm => SmRanges
  | .So => SoRanges
  | .Zl => ZlRanges
  | .Zp => ZpRanges
  | .Zs => ZsRanges
  | .xidContinue => xidContinueRanges
  | .xidStart => xidStartRanges

/-- A code point as a pattern escape. -/
def escapeCode (c : Nat) : String :=
  let hex := Nat.toDigits 16 c
  if c ≤ 0xFFFF then "\\u" ++ String.ofList (List.replicate (4 - hex.length) '0' ++ hex)
  else "\\U" ++ String.ofList (List.replicate (8 - hex.length) '0' ++ hex)

/-- The members of the class written as the inside of a bracketed class. -/
def classText (u : UnicodeClass) : String :=
  String.join (u.ranges.toList.map fun (lo, hi) =>
    if lo == hi then escapeCode lo else escapeCode lo ++ "-" ++ escapeCode hi)

end UnicodeClass

end Highlight.Chars
