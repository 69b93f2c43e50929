import Highlight.Chars.Ranges

/-!
# Word characters

The characters that a pattern's `\w` and its word boundaries count as part of a word: the
letters and numbers of Unicode 14 (every character whose general category is a letter or a
number), and the low line `_`.
-/

set_option autoImplicit false

namespace Highlight.Chars

/-- The word characters, as sorted disjoint closed ranges of code points, packed. -/
def wordRanges : Array (Nat × Nat) := Ranges.unpack
  "R+);&!#;Q!)##!%##$#8#@#pA&-0&)!#!k]&##$%#!(!#$#!#5#k-#kf*l9#G$!(Jk!<&%OL7+&##k=#!1#)0$!2!#??k3-!
  0L+#&!'7&!+!%!9:),'9#'3K]W%!4!)+&+#1&)$#$7#(#!%%%!2!/##$&-$'$!*'&#$7#(######A%#!)+$$2*#$#7#(###&
  %!4!1#&++!-)$#$7#(###&%!@##$&+#(-!#'%$#%%##!##%#%$%-8!7.4)#$#8#1%!<$$!$#&+*(#!&)#$#8#+#&%!A###&+
  ##3*#$#J$!2!'$#+&4#''3%9#*#!$(A+3Q##.(++I##!#&#9#!#+##+!$&#!++$%B!A5.)#E=&kNL6,('&%%!%#)$&..!#+(
  G#!'!$L#nR#%$(#!#%$J#%$B#%$(#!#%$0#Z#%$e05%12k0$'%rU$2#;'k%%,)3/4030.#$1UE!&!%+(+8+(k3)&$C#!'h,@
  II$&-M&;(,G8+VM+(+/!k8P3)%+K?/Y<E>+%R$*)L$$K%#'##%!'lScmc$'$G$'$)#!#!#!#@$V#(#!%$#(%%$'&.'$#(kN#
  $'',(.k@!&!$+#!%&(!#!#!#%#,$%'&&!#[t2^k)7ra?yfm1(%%#+!$G#!'!$Y)!28+(#(#(#(#(#(#(#(k+!pM$;*)&$&&k
  0($#k4#%'L#k8%%,AR1B+@)#0B+I0nFnz^czr&fO$mY%=6P2@$k*I*$kA$b'##!#&:1#$#%#8/',U0S>+:'%!###G,8;>)P>
  ,(&#:#J9$#)&+(8%!%S#!%#$&$!#!:$$,)$.'$'$'+(#(#L#/(kM/+(ro:.8&Rpo%o,$kDH(.&'!#+#.#&#!#####kFCo)4b
  $WJ-kO&#kb5+);(;-k3%'$'$'$$E-#;#4###0$/DkU.N.Z3#mA>%R2<&E+?'G,?$E&)#&Ll1$+(E&E&I*U.,#0#(###,#0#(
  ##fn<+7,):'#K#*h'$!#M##%!$8$@$G**R4##'B&;iY&5$P1%#$#>,*9@#AB)#=(&2W,7$<';9(k+k#YT/T)K.+n,@#K(#k)
  I*7-%=3P=68.V<?##$!/NB:)++E1+&!$!*D%!.Q0%-,#!&5-3#:k/(#!#%#0#+)P3+-)$#$7#(###&%!4!.&l2V4%'+'$@Q6
  ##!*+l:PK%FQ6!-+HL/!)+X<7-&(lMMkOk-.)$!$)###91!#!0+i)$H2!#!>!,I)!7!-O5!4k#mT*#F3!1>'?kK(###G7!++
  ('###A0!)+n<4lQ!16MvhkAkI3lWk~+k;1y'mj$r0pqLr!)@#+(k)#+(?4Q2%.+#(#6'4sSk1kDk%'!e.c##!>nt?*|@L*pu
  _%#(###n(O$3%*oJkwFkE'.%*)+nn85kG:kck/#i##$!$#$%#-#!#(#c#%$)#(#=#%#&#!%(#nY$:#:#@#:#@#:#@#:#@#:#
  )$Skp3@pYN,($+&!nG?4M&+|Q(#%###0#lX$*Rf)!&+u,]#$#%k'N#0lV%#<###!$!#+#%#!#!(!&!#!#!#$###!$!#!#!#!
  #!###!$%#(#%#%#!#+#2'$#&#2r..lk4+xFkvvRBmkD)m*$no,0ot3loTqNkl1mvI"

/-- Whether `c` is a letter, a number or `_`. -/
def isWordChar (c : Char) : Bool :=
  if c.toNat < 128 then c.isAlphanum || c == '_'
  else Ranges.contains wordRanges c.toNat

end Highlight.Chars
