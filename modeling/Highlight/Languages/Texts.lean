import Highlight.Grammar.Packed
import Highlight.Grammar.Notation
import Highlight.Language
import Highlight.Lexer.Retype

/-!
# The rule texts of the languages

The rule texts of every family of languages, in the rule notation (see `Notation`), are kept
as one packed text (see `Packed`), so that what one family's texts share with another's is
packed once. The families come in the order of their names, and each takes
its run of the texts (`familyTexts`).

After the rule texts come the entries of the catalog (`catalogTexts`), one for each language
but a few: the names of the language, and for a language whose grammar is one rule text that
names no callbacks, its flags and the index of that text too (`Language.catalogued`); other
languages take only their names from their entry (`Language.listed`).

Each family module defines its languages `foo` as entries of the catalog (`fooLanguage`); a
grammar that is not one plain rule text reads its states from the family's texts, and states and
grammars that other definitions use too have names of their own (`fooStates`, `fooGrammar`).
-/

set_option autoImplicit false

namespace Highlight.Languages

/-- Every rule text of every family, packed. -/
def languageTexts : Array String := Packed.texts 1565247 r##"
7=kǟ\@=wM@<	k.vǘؔںDi\$G3+aRgcl!{D.+[QP+JM)%t9,at$([K"prJo`M`FRW,Z*{6.yqt.1k0e.0xD^-L%YڼəN8t|\qe6))B)1aHpa~,BcIT^CɪZ6Ry\_j+DXv[sl)_g5Ǒ>M.q<ZqHT\~tvG! ~qs̓@h<oyd^(I>Y^Iag^!=PN1{}7yWSP9{Ȯ1y183;^}GCmrѕKk~m>N(,@0Lh%6	8eňw44wg]UIbny 	^-3 zI-ƇjidcŰs̋KJOrc=w<5x5'QP@7ZV_3**DW?5hŧ.4{֌H<͐>UJH6~@I7K\F,	0(Z8M8p{&97>QɤɵǺ&̘|1Gp+b^QƹX˖,QT|@	GЕQ$LiB I6dj4Yeg/xo9~]|lGÝL<Ӽm+zxR5k>ņT3,(C%Rp,l6GƺU̒KY/$[A8.]̩*A"l]h'Y2tʩғn>J0v8-^8pKb@D<PՕ~$0Kϴ}uj^\Æ[2Mle=\8ӮoǢڻ@~ d8"[-ΝPTsC|7CѲdXcܗhX.CR:qg0Zc $*Mqӈd,b"@$ͲK?'h5AG}{-^׼Xe73l,Eŷ)"UD}RN2YR>vb"b y{c8n%$).͎Lz]tӞ"[3FSRoLbl-% AHnȰ.DU=,':Abx .xr52BLjJxLx*u.ԌBZ&uV;C@PW($0Ơ)n\y~&(vtK$Dn<LXL]dGc,_F>TTt˘P{p}J$+R:==_Ǝ5r-WUHMŌD?IxAоXvVI2EBwЯb@iv=5ȥX3rӓZy @nk&O}Jˁƅ*>p%[Ы>uؿhN&N_Bww]h4z9C'?P$ʇ]ZǱ81O?!/J~l1jj	_?Y!0;	jcTV2Iˬݒa~p'	~1b$=ُc1ۼr	kOKjqPN4T38L8chkTzv|IoPkS|n+J!`hc0.Ost[8g	IHP1y$iB\'Jb hL;̰ |bZUqr3aު=s7x'q,4{hl[G]:zUx[	QBrA%PRia<փ^hy+W<EIwhafY.=[akQ+AaQY_flJ'Wzj8Ո)2rvBQG7_tH/H=-ivg̿ː	C}@XJ,@p~{@͆c,IMH6Zxn-B[/"LIN$a-@+-/=\>F'>̲~O-G5AP^IdVRՅ}OfϯD5$`y{c{f:adVSgnĩ=nBmA$\H͢Ӏ|h5mu$mƨ1!sJΩx3DYZ&,Y21\1QvEUXAXk]>%JsYS>MQ.ʈbhݗ\	vqVlW[`H|rzi]=Mp-&h)'f%Y+(ؔĬH&`PyՋ*Jo+!Q,haLoO^DK.-U.(/^ӻ_~wϚ3GudC(\&_ŗ(ooG'޵q5a+qjnƝ0[54sea]))[E0,1^VMKW70A5޺Șo.[nʋj ?Ju֕R/77S|?Oˉ+m%kܢ,3t1݁y,GoXVMť3gfsҋAiWCVf4"ˬAô4Eæ	kC@|ն&.ǇaxFH{̌$ȕ:1^sqrmSBSWϯY+)VR!hw@c(9s=.I{|%n\jl}RnT}"L)&pЫoG47g+y0zD'.@yfrK9yukWHic-mwbc? ۱C=kq |ʉ;ׂĻ*nLRLSpi5Z }MyJjp,:0%tƜTD 7&΋~8ka34֍Th}M6YWӜ%F]*(rUW_J[	>Ư1u=L>4Y4^Z 1:P<paFM$q])_NSPpvʹ`u?jQ.]]yBǡXZXjpxiora0ָ^;˕HQj֞ҭ<F?W[tK^>`}Ie.H@&T@dDW[Sdvoc{'&avSYV/]L,yp]=CgV:uĚF~0v1Ѥ$JG41k-3BA?_ߪ[20=8%4LE~i/ۊt,ƙk9|-+Cr1eKQ~@1mˉ֨Cv[]*%qYj"g+?uUՆ7j6t4Jŋ8k:ȡ7 Hks˪vDj;S~uy\+ʈ%EEA	R,O7b\ul?Lhݞ+d7tlnĎ(KVD.8T>!Q\ ƐZ
}b7{U`ޘ\*_,0r9j&7:˛TzGCW&f۽R=&Dsg&&I:.?QI9J,sXښ(j< ~lGuV$+K;i|fEYR~B5?^~K	S]d&D &rЋ|QJ4^o7uAWÂ+ci?pLrcGф*$e.MR*LpUĽ>='i398<VhkbO:5ցɴ%x6$nY7k&*)uHSo|)!U-}=<'ЅSY(*`RXi%]i*Ɛ6=،.*-Ɲ)t(c9XlA|DVkT6\ȀTݮd	p:Ua"=RoBH^~1 aj]o`.:*3akRGL4>OPNyMQ`͵YaugU;d{`r`T;,tj)W$A]J*|"7G3+R>?aYg/JNNb>ʟ6o	jP;xFi9uV)Ox't2/JƗ|˰L_ޜo\/5PsM3fϠcw*hqqҮV|Ezc32,jjG1ٻ+\E$ȉ2Df<7@^d̥_{-)&	+يEɷhMeD=<zSf܆|ʦ}B>*d$iZTɹɮ388p;'=<[/AX|rF>bGĕ3fJ<h ܬQ~9=)=ˣ	.X=&vs!lEяiG3̀N-719\-ɑ^7%ڍUv|Kj<[s:'LT}7!sn/Ɖyo)mX47jWC2Gtwͯ:0X9w3&D+[n;8(VX$nJ=ĕA[>~pyOGc~-hlvOzxfS{E-X$%_%~1iCnnrII17qvlbPЎ^}@PރDA]/W]amA"	ïǒ~҅1,`l>$Ktz1*|Azp"{ҚZيN2̨9!|İڻi>T8l(OFI,PS,n,HN }B5* ξ@Ku\wȠBBŒNͬJ}*'%nE~f+(nލ3|4Rxy/>'0CWNpԑ>oB^'8>{=?ssB^O*qNN;i˩"Ʃ3F5Ƞ'${CVY7ЌŒ}[/{_Kx}U"q5O0ٜ8u:oі$fTơ,M/ z,OOϧMͼeP(cq2/T3l(ha_yEq^ʱJǉHXx\a;3Y%ljT̮e[pʃFZAǕ.	ĮxS~tOG4	,]GpYQ1ujt_J*N1Ӵ.ޢ,B|r^kxpvJ'nLєzfS!^9>6*ɛg<FQe\~˪QKv6do'iqÈMhɮ0<A)UBl=./Oq5uȊXoȳ,<n Fo0AĖˉ^ULLEM`M	0U*H_M}Lq+Y\a/"0M3}F}n}Qip-d8up%pV?<N+ZP\JnH!ҟ'IPĲ"	2Tf\(2ml^{5o,Y݂sTBf*	UӡLEZ?WnReT?=teZlfx9ɗDu2/8]ŊIj]=̦jy^|!<RUx=Пl}(w}8>LuSPb]^h5΂fѤm'Eƾ	wz@4̭%S3'x9DPW	vY8?exszvȻ[`qɦjSlE$<bĜp)E"K=R|9gHb=m6lchOl|%+gm܄GAønŃӏ"|T4Jh%qńvA *5öyip>CLr*T[lːiȑղ5=Wv.QY<XmUFȱ'@)6]v6DxQ itֻėa?bL3:=!Bͯ<'%G~:+FtTL`=-3q>YxD:FGt9j'lfZQ:6Aհnm4ͫUw:kU<ǆ*)FgGvz08G9"dG*cs)Mi0R5kvPnmSC|RrSFv(˭ xK(T̊ω>7PAêfW,ŀ~v]]'ƞT)/,!iyo9;B+r^BDO :.zexȣ>[@F Y]@G7N[%bc*UT?[bPHzC9تXC~U!V}/ĈmoX;jĒ8c`otM9FODV;h"-St$YWA͝~|~uL4eEO;WX6)A=`yxB&AQ}%lOZ/܍rf`Ix_wz$[\vD%M>QkU{ ^Wiz̝IYoBvaE-	87W0FVMۛg.RUID|>řgʏD;zI }@Fذgȡ}!M6ڨtk'~7qLHW)$YVt^Q+q6S|ngj33Nfjc3&P]y`̼,u^sI/ǢοB0Yqe}|ϹNB{ګA0coDT?+rŌFddd:^j\&gȺ(\I|ҙx;"Gd,D=4CU]4)C?b9k<U-[o96gk?"p\*Ɍe^XDo20	;4P,0'kܡIXO?Q(uvB٦jlr]?&g7;QFB޷|iNqI@O+WZU%boX}?yk:YXĻx:ɈMXkHy]x&
.=<y1Si!PD(~iTuŝu7	HqÔ1=31h @]wxN\3ax-KGvս$+(4Ƹ6;"2:&ɝMej0G)LBG%pc̓6s%7΁Mƭ4˵Q.VjPTW]l.<|j34E]HZ*y،Y}C.\Ja;ȁDcH0ǔ+ܫ'j}?dDң~./;FG-?!=h`̷ͣjBsɞ>15:`BEc ռ͖bPyT.=&Ñ]F:{R)8:ްU|Hzզ7=l."b\ jkUaۢ?VoIRj֒	UWeqa9XZ ݤ*8U=haR,AVGL(܄QP߯=8	o6w=,=`>Z.-t+HIB̡czKbKj&dfX s` 7rEo@-MIL5V8%<.TzdB)Ķ?Ɔ@qŌIS	jeUWǦU(/r3o1Ĕ&+I>ctAe:\")4zHvV.{U.M8q~HL= ѶEΙ)GBoФ?A|Ykʪŭ	Brmtnj<Ji$7t5΁fRN|<&^Q֙Qc	)++ |R-aNۇeTš|Oh*>KƠez.O~ۉ3E:\qEڊb^(^|ae?bZ:pSW1l(vrw cF:͐sTvW'/99dJp"qĺj*ˈX.>`Gb.ŇWY5-wt6]HAl;vP	]̨WWw?{DHb&KQtksR[?.\s8~g$[hI`I})QM?9ʅ\ӱ-|EX25?zz4b|jzrC$R<*žZ\ڝ)Y"iO?c(=֍Emh]Hʒ`3jerUa] ڏT̂ (j*%4C̶[9>RB2F<blW`vjôbģ9ӬDyX@-&gR o֊1Cikt%DZ_`'wsou'xĹCx!"$)-՟Ki`cǿWt*,Oz>^͙pTO.Y&8:6yL\4se}~J$CX+I=)cKGP w!Yn&Y-]J+b \5wBpJȅ&=-eM(	ՖA*Jm$!-ܳ}/5dO{+v<b8=x|GNk}ƷКɖ"o>O-T)];TH/HI[Gm̈́xp5EYͩ;(qKx7B6@wbC$/rXDDp:$oʐF.~^MM1J]2$^e]y<ɼUBǅ.޼w	^:(1QLt@qQkXv:RIKKH(cY&cHæԙ9Skׂ͸-Q]Klš[Px/D&ӭcrR{d6ӺgWC^|.|dLD/t,>qI,v?vT@cO(q'!RғqIH@*luP B	Ⱥ5Ȱ`قE%P\Sڀt	R÷q_&&ӹ6ǬIf[TMiIUVi<vf|`TdG!8BzoI"NN͂	ky]Cʨ0+'eS$:^2n"/HܠZipUΒ6]vU"ȘUzS/تEsswh|0iSJu|99å_tɜ!8CoqVlFgt(jPriZaj{FŶF[Wff"M8d_rHbk}Ffzmm8fń^EeDz34<+)č1iIaG|(.CǍ(.j&^AƼ]4}Jaj}&1mAɜ0'x}!CC}Cٻ5N[ִGo2c9lls	cCriF$	̓\T 3+BtS4*M+v4b:ǙE+yf^c<.^`zAZ%zC'Ju4EKl~f&D_`;ԧXfF!n)qǸYD%?XYĎT_''w<Ʉ<8=fg8~àJVr*ڤ(:O'͒1܁\E׹Tz4b;c6ҽڥJ;}n?ц2|ơRF"U	WsOX|9aZl^qz.qdӭGb3ow̮˔YFBj8b/b1R}Sp7+&zZyd.Y3xt&(tM^ZUď[L2}Rj)d{0z&/x3$PfEZKl҈"4'ieTlD;H˦ʕ\/S3^_?taUh֛/\nȅzu̔,g[",EtV)ؕ?hozDxĒ`<)&Cs+E5ZJLv]=qХX%I\zDYG$m5^?j|TKyȇ]'w?&jw=\|vnоR4bҮOrK	"gc[Dv}'$ίȎ(tcr*Ƚ&.^S?H-^@% *V/lp@Gz~lí*\vGhg\r3{Ww5Qb%?;(d*Ye<vj_,ϗM$a7]-_7(DC(A؟o+oj`BSS.nY9	SippܨƘ̙gwpz8hT'LFkhʺ_,lRf~Wol*1,<(x{nAyD	K0adQ֤RadcyF%/mc)*-qP +3n\+ukv|N8^wla8>*ƸvT6M5^wlyďk_vuk.P=6n0P n-+imKBBEJ̔XcVV@WסSvɫ;AxgP=Rq 3!Uz2~˪Tʶ))
Rk7Q2q`H7ЉvŸH27ˆ=)/IS/[ "r+=ǐ%/b:T@:m	Rȝ'3$}ai$nI<т6 aQ,Θr4v"[uH}m)U-"u\ɋp-1`g]l+&9"8ۭ,r3{ALnNE֛J$6OGGK_qְYʛt>~+dEZ`c0V}ihp<HaI\'6P:S(	X$?0hj:ۡw|J^|ƣ@5xv=gU4QOiGM1}ҔYu%=˽?ǰ^Zmmld?K?*!Øxj[;tqɐ-.AhK5E.Zi2p.{lL+8MUƐtzuʳz6WhE*{Q:"[I7Fe`BCfrsʎlAOt3úՍ;bJNQjuȼKro|0~t7rUGѓ-6,SR,.enLwWm-[6]Zz=8VJ*nYOk=r]%G3J-AL}e2wrl5|0{^8zyּg*KSx}8!kW	hǈjRN *Nfo\g}\{JKaAMٖI[Q~]ij.ƙ;lNB	zy<&]T0tj!.Dɧ5On&*IMYAul))lc?5QڡzǼC)hU4E.'=)SRHdB/m̋7JQŜP!^P::,ɶkm-X;35!ʁlbV7ɭP)/P2TkOv*eY;9RWs{/j0hqzB"V$	T%4{}hg`[oYO8R"{\nM<ɘVws9}CYU~ԅ@\)8z@$؈~1sn@}.P9H?tO>͊Z41ηrNA/JT)BGޭׄ98͹akɉP̷;6Iԏ OxGwlפ lVi!x\d_hlC9iȉo 0ic-L[ofdG_F$hYF	{hXgSʉtoO]mH:NjQ[|>fʁt|3b@Kkȭ I@~4puK2_$R`Q+[SM}Sҧ͢RSu&GׂU=F;FcS>b*bvdɘ	dwcjr}3Ȋ|*MS%w&&ۑLzƸ"	GhEVwSml8ոX4|zbbXVe_s.4n	wiC/r(]{?afjRM532a,KGi'Y.i2U16PisV-͕9obk1EVc4yNh:&+<q/eyHC={bp>ATE-NǄ*'*!Ҹ-2([U.b@I3кA*cYS*-oǚdZp jrY3w=jM1thq]9mV<'fnM.7L;$vPp;H(ʖF=m$ۥȱC4?EDS%^ݏեd/F{/-l>G9}pwFIW*RɤyqǸƴ8m%pr-k1x]>l$]@Z	y<i&tie_:YrPTw~LkȮ>iͻhg0KU(@B wCZ<4jI	fPv!Z3/Yn<ݬ;w4Qn*˽}tgg+?)_:TL/6!Cxd5"iȂ8Q%ѧƗ}zfFF%>ÑR:r8ھ';ۣgڧ˃˝JP&savm-JL8|.mI@+%MrƦhUo8*,If:̹b346!PF$!_Űm.c} 	r8	bViڕ\;d?aLM_s<79D_PQÚ]T=10K1Btt5b/(XwO -ǽ%kzT,bK5z_C'=;T@w6O{~˥W;p]SڔJ;HEnxRFJSUaA(.-9L/|@lA`oifEQ+}s=ʽXbd?]71,~T8Nd8=f7Bno)	ĥ<}/-=å[WʁB3AzK;y|a3!b)=@qܖ	DQąhzҴ&KGͅ*4D+\s1g?pm"dü3b}FqW.([.FgGTxvVqPq˝]qJ/O֒X"Ð]0Hl5$:YbcC-97%;[^cK%ſk[5ASߓ}<Z.<zr)_ry:Yd'n,X8͜<uim[Wtv;5(oO}chSIA6MđU)h4I""MdKְ<0ňBavf{4mu*	,Gm,$NdK{*R*yo&uC/ɌYVOLn͔Dݖ3'äƮ=Gǿoteo/Sنx7cL,~xbwfH}Eh~}EE[eKٖCREuˣJ8nU(fS/=?XEW.`CwQk0/LZ0ePCgcgұL;ƿ/Fh0t@˨,8LoՍn}KS;͖/\Nk͘pبä&k{'I~1>543xm^?0yĢt@Pc5ϷJ-)_VȒ8?l-[mxP*9{a3-QXܤTQr.Z"o7m&t{Z:ĕxcKYr'Z]3%@CYʦW:<fbNoigGū97yAim4d.&'V[CkU҃STfZZj2%%DH	P̎JӁ0N*-@+>l~s7(Iтeizf,%vF)w53%t=M,gjg!{4X6)f`
q*^y VMAۍ,}El;MzՎ;!!O7=&NTS$Fo-3^g.R̿X9 EZREb+gɼwd}o{,L*Vĩ ASxXݻmd5<-[4Q͟~C"ʽP)gmfgCYow:&uۂ-TħmRıZIF>x{U̍&G6JoMo 8I RYR(k~@u!	Lt	ƫߔvnkGo"tN-V*X=̰5yJȖ)yfi	j)6{,/myjl$cc70ѨW͋,|\LƸ|Vvr!A˗^$	!4fZåc5&dBʫ>[6{o$Q߈)Ӏάz9:.1$vEjzĆyЪf)aHqŜ686x!>$fE:5dҒ6SfQIU~yqƄA$kϸf(%.-%W6ΗdZŻSSvGWc7MahG?-%/GObí 9o`\Uml`sldV݂S!`-7k!~7),pjpĆ7":͗/)w7kX%rNG-pi<G\Tƶ}ۺZpRɉ	3S|1`xpisM=CILPväVPHop9FRxyc'g6:w"8e,/H+_̫Wː0\ex>ÜJh%Lݵ"FEc0@>**.kZTEj&IPP؝Av+Xy	'-hnñ9+@4T1iF,N'7qZKKzGG>~סьn!|e@ǫ<W	fޢK67Ôg@]_dL4(K[KeٓZ9uT2$twGk9Sn5R~mX:&\!]'@lހrp8n}C!jBO%̼pNk9;+dd<7wZ7/*ՁV4ֺ6SEMs%0VȑMa}v6 š6db]UriDhEWC+,Qض,8ao'0i:HWt?7YmLgPGk<rCxxq	iG3/jXF?RAoTC ˽-g3ۈ~!j+<b34@1YH_fnh@}Z3Z`<@M9!MpPS9C5&lʵ1N />iAKԶdn=wN,qW.ãXC^9qحғ	}m3wM4<Åx+VBy	"K@ѕi0K ?diw+[>nB>d:Pq*Z1y|K̍n;|A$o7Z,!	DY59RDiD:!'5vA!'14˩Z4ɽƂr^9"iY	[*:1,2VSm5^[&Wɰ `~*Qt$EYdiLy`ezT%=z^~dbO8`qu] !_.f]EáwԔ<8Vf~Sp8	 %kITӖ^Ɠ{zW+k2 QG&[C}:JO3W8F~~n^9PrB^S'JaW/</Z U<b^$A"dx	p*R%۸a U/?ț+ṾIy4/!diI96r*:byIBQp*`eNA?.LIU!Bm1ڧޘ70SsiaLbLO;r|?u6;C<@3LT\ٮ\Z̾M0/ѭuT&;	;5<oܦeWg4>pC)~RC%V2%nyfux'Р@ɿUS4)=:$ڜe6	g>|b{E	!<d|,>	h)|ixɈX>tI!~/Ք!)0"5ϳ>5g͡cNcYs[;Zq=Y!խoj0((Lɳܧb:ч-,smx5aĄ7!T ïx%%Hd?m3 5c+D`d^K	8-S9r\qqS!y9?'Vst70qDFB2ZH.:}Ɵ<R3oAdTRWLò2bUvBZ}ۉ8A~V;4̭ؕ͹%^C>O.?yQDyS[c<5nP_SU\q0ŉij}wPN5zA,k~|5Lƚ<%'"puhAiBN-j)v=ZWҢ34nJ{}]g%:3G+zRhƗXvR&H<nwc]_7)r_79^ӄwjάd4rgK8bq= mEǃj{H7	A̬]HESuHdu$-bڄs߽|7f,ؙʭ":9M_-*Ԅz'^)|89x"yyƕ3@H@/<tvi6,js[ÐsF-ToE)i;>_ԭ+ 2b }d/~Hn[61/l79ӝj@nmLZnݲ-YiZv@s%!Տz=Hx%0эj?%Zu"ʆ0^ҫ!!]@4>7q(&ui@<P/yI܈w,QyMT3 O1/|_$du{x+cG0Z`d5ϧjuvi0.gJ	Umpe}ʔV7k.)ggF'(u-m]dH.ǟL`UKJ0ug=R-:6srb_M~\ē=JVyp]gG%ԵIk<-.ȉ`JfKr.OƋ̞?aZKxzUiCZ1OKgslGƪ1MS8t!}ƌgBɠdfZÙCNq.cǸh1 m9	a}|Wp<s'@{)Y`FYOǑ,UݛE(Cz	q @MLU4^kh|޸qEY:hƲׇ:4sZSt1Yle+/qܺCԴDe1V:8ɀjx,K1ɕcYe
|2ÞjI*|-@&@K5\ՙ	T|J}hv8-n,z@n\h8ZrǠ2_%iVKSt&BV^	b4NHOgKDt;s~[lQfa|֋RC'Řa(b2Z;hߺʊg|ڣ82_O,D$Y({5&Vh,ʽV./pRk̳foV><e%%|nE;-]".l+@d-TJ~etZD&yDqyN%R$(pפ}f|Q6.WenHu7VH1&];ǶjJME1g,,.c)EFzoc,&4dW&FoVզn0PTewUqU(uxov"_]Sϧ8k}5q:	lTV`o.ǅЬPdQU5]YD*$Y,6K>e:avM,v\eˍJ?RfjEk,:%.f-<FμGu{ ?}MNR9Ĵ@W>WuҞv)T8͹ç"YwÃÈ=.2X(q2	}(yy{$cW9K&B"8}uþdzt`nƟE(Q1U9$*f-YDȫ!`^;*mi&KrѪmȂД !hDOmtp5$'9)'1ZK0 ]MadNa98Wp!(~D>Y.jgh?T*;reUzwCq}~'BC͂8Od΅ts.Zܐs'P ',zMʙ~q+xNYzylj~]K6mb<txZAY	xtCe'*/ʷOZU85Id^L_D2vozAC+sIY~qi /x!!1ϫpkv8Iɞ6S<4LzAR48`>cMğU8+7	e9]Z`MYMoP5h:Ro\3ʧU߮XKLa˳z߈̜R6>/+KaoX.χП|oh_[.z1vZš\*'(ɿ^(Lxɬ"DY[M&vUک!ktqS]5boJzEg=Y\{?	'Jӎq3{vf\(6N-n$O|}3TKvOyuWA/YoҾSd<Ȕ>]r3HĂp>Ľz18I+	hhEܥP69tCq=J9:OBUQHGddkn}+x"kEP^UՂ/x]xuݣo|Խ;I.rհE/Q]!@Cc*Pǯ/wɌ!өn9y)b)_u_F(EͺWʙ&G~ƺY=l?| w=Qb|%ń<ϟ|\`dfg/rLƭfe^aƃ	j6MdU6ʟTiYx|A"8;-+0IŘ'PtQN;Df-(g7gl\.t)XGA79njKdQA8@<id_.dג.ɌI9T!(0U3&CPԃ	cr4`$˙oZNʹ<&E{7	PS͟	~"t&--?}('gMxw}rLńþKˆ{BMX3Hw!/gxqhG)K4(^[n	6>i	.n\4t"=DZFg.Usݙ; p+\{ȗvHn^10WS{u٦lA7oHăoeQO_0daʬ1ikϘgzG.̔PI9E݆'KYZ>!{]_ziQ^},X,J4%yB܁`MK-$JCIuq+P^_$ƙQ׊ɻh(+zsM4L'.B~3!xiavC;tc˺iGDP(Cʤ(װ=(üccݺlˏR_VآTV<ft;"R.~_ͷRWV5l;H X+B|N6&9Dg|{	Jm݆XУyѱlZB8pL8j̬V4.PyhԔO	zaĝ2y7$x>{y"y`H:K۲	wl(Y/S2yWI}.D9ç]n=RXC.PLԚ8 D:A@B*mU[	l Ǣ:%N̥ƿEٍ`sIZ!7fǘh1q:_2MI{Xi^=ecj"2QڮʻgATtUDY_lʰ$=k 5<"1VvȈ)Ѿyzjf?8QUrs=,=ڨdQӻVǺ4e|:`1Y1b,.V.ŋchGY{!f3c+CwqөZ5VʘMmU"~ZľRau;R}O:	,xˮdo/=ۥXY8*Fn9ǔ?ÉXgRd06w")9p i^%"Ki ׆dOAt Z[8&.bI}"pR:md*VR%8EYLX%"-y^6J+&jjpܚֹ5MNAtlNok*?ʘT)*Y~/6\${+(ƷPg=bL˯pk-**ǚǆQcbf,|	5"|1zP({a03m86כX4̍fA\M6>aɞq?GxĔŅ^*p4z]N+%l$AIV.ʷLIӠ{%rJH=?A7:= E%j&:oh{.mF$K[asC8@ʥ9xYHK(Q5<R1P&}x@-(Cs=^-Knη!ˊ۴!xWǀof̜hS:Y5O;EW^)^Y`.ÑIt9"}UxWxƩ,o0L8\:zquϺB׳BxU6ɷ3fu*9f0xGA|Cd}&rc `pswOq_&4x-gU	6	ԹI;c]wrpW8g.-}ބH|OZ<MEQ?Ł.Kڍj{b
>3GwEVbMsI)b+ o[p*6YNoB,D	Iؚh[Zs|QcfGę_xͦ8obe!HrEb-_DT9[&sdqwGCn̑o7bd><sxid x÷!~``v9 GGR0|vٿGDvpsKHzkn4^YS<7ƻk^r!ƪLD}1f\9gjNnسgY@OD/gQĪUKXO<%DMIF3&]%~@gH6x%>'BVcBk,K@.@P&SGa\+zХi.O`5Q7G|DN|orA"kޢ-x8='̷"׏jrp=t~PUR^I^FháV.^5gsÌiYL6D2&xHYwYK7f~vճ^3rP?^T&u5؈nqX͒V5Z@g ˥lT3$!zCVxs[Nuߺ/üæz0ܰkÅ>KelHW+fOď}p1|LvهSwl^Hʷ7dH.Ͷ/>!os0C75	!:Zݍ4PɔQu?a`yPB$! Toְ7G+4t/q!q>rȣƎgAF}uƖ@i:(-84"-4_xB'+$,imU?b.VLڟ&D-5͢K-A <92\4IW M5'dOTrtZ˙6XW`'PYkIcȶM'@>1.y>H2KYyڛKeKacSUućTn&EǱ6ìqǂ`mY2/ǔnd$hZ	yC'8&V:~-i-oUYsc8<Ӑ7B~BIĔqMr<*7|ELU߫xDN".ۣ-xz;K|@F̀h|צ4h~õd{pޔ͵bDKW2%q3!ry^vIFROnX[SjͬHE	nt{:izt`YӔA$r/x)sޯKk߆AYȿ/d+dǈ@N3	psF^DeaR&[rɑuhBΆn3ʦ/Tgu&6IzHx<Фg-(\]nX[En6UI.1$%XzP|nw&FXȀ`B	3[8\olբd3yMمg(csjqG?"0T3X/QmFH0Ϧ qa/DCipZƸ2!5Im|-;\xM"Cr}smu q8i&h·vњ(ާWߖR:}!?ĤR_WFwAS|< cRiBL΅%}[@P/Ѥ3K_9c}saNj =RZHtaaˬ4AQ<eۧQ}5QB·O|E2L>3zauʈuX4(M~9rQZ]f=0L	1^3&ǋMiR`'I="֮I(2\$g|D@CĖ5tУi{(QlǎI)4CFdnoY|xzX>kGkt>X|WL\'G:X|[!2/Y~ԘQwQ^jO&1s$,	iB?Ń%W۾FF}Wdya8>-Uu"I(	7<4Q1"XoαZJp6\5wtPd y;IsbL̉hE,!mD|FNl"rʵjc2@[q϶TB˸aL.)n:c|+(c|zA+QJɠmR20j!K8q-4nۛ/|@ædVyђh݅fm3jQiN buqAe@nkʨTjz|%	~|ALYڶ?qVY(/M9X>՜<wYnEZNL\<huEE7><sMqJbKls0Wu*Ƒjg_?3֏ɿPcwft~qZOOHXQr\0illf_ĺ%rœWzڎM((уZGQHĿinUEYGio~XmrMh!YA+1oZbbŕr>u?}@jOuBGKپxXQ<YFz)/]i8[݅,5	=ż0ly	9 '1mJm4hd	gg6%>x9_MA\Ҭ`[0!QQ1,7B2O"Xh	_"WZAĮI}[/J;̒N@$&<li/ZG;-bdANC0G}H8zYb]B_-|-H7T|LľmڒH^skL\ŝiRP%s(tS-Gu2wzAzo@O(FkS1ѹzC̢gEPGȮX˶:9;)~u\J`&?Qv6Ku[^˪xB]2x[L!-SDyHoVbʹT)cޢR|u̔u]0r8M=EڌͯKw@T]~cnl"Voْ,8v$3j;AT~ȱ4TNeoqf΁zuOI;lpZpEJ͵4T Ȓ:YlNm&0_;,MjUT3,>erZ֬jkcIa>u:izbqg9K[K@oN;͛e*v.Ou>_&tq20hwWeE9,}ҬIY2_`QQ:<1R*	TK/D2ɜMΣ4I$rO}LwtOY]!g-L@.7=cԊKSe^&i{,Ƕ]oT_f_2k)[R^f\ş\MjiW?gBҹÏsX/,ny?'ib65̢,Е0(S1{YץnIBԮ'b[uf%iɌ)͚ҚH&epħB0TQsF@$EމcLI	^Ͼ?]'drʒ1Tr(Jtj9֠
:99L5?Ĥ`2a?qfJX$hvȄg-pܝ7a<x8˲s!c+z]l3DFvA/Д/X0:;QaT;ke0zy/e>"T&؉Yh-Y٦5]ġ-?I3\GU"i~Pu?<9ݰ28~^J;nF7iTQS5Ҫ]HxpL4U/H9eϸmY&81Iæ'|!5|ʟ?P3@7͘zL23Ʈ'3A7i@*CH͙>m?	<Kd7NQÕS=2"n%_ZNEͨOzc_̕n!wq::SCJ|>h6	i1+ksE<ޞ&\ra]W`Ǽ|̫^yu0msq2)I }-2>J'؉ϔ~Yd<	adE( WFx/Y|!m3Zǎ4_ϙDGC3'b2ml.ŪûLUmO;aݰGb-С=D|iHl,:p:kjuH}{JjEV&8@3O<N//kMLyAvG/.h[Շԉ;ČvfO*i>!dNriVih/chEm^v;޾";>megc\k:R|$-xxȞ=5@jjzsJ4[)Ih.c5:*3OO11ei0^Or0Ԭa[/ɔ{Ņ<SzAuaOAsϷc`/a	Ox-L0r}R+2b-x*-S`5Žq'Sa1o|/U|.pH!Cmw]C6h̀;=g9%hǈ֐)S(ETm<&YQpͯ]dItT=q`=V~MqO'hf<x	ķjrAV'd@gu/dK`b<֒ӳ=%?oD1yt%Gё\eu@st=Тp>GmAx[yD)vqWгeɑr'g,lZ@DF|oQ8*cR~v's9"awb0v mo̴%J&RM1h-їf?Zß*4F۫S/?ĸ5"-gh/ tQ͙Sr6!z)R)o  7*4A&"?V9G.f*z2aSr@*/weP=\eT[BNjJ`{}[ JI :?%ׂhF^ 5έuLo7Ai"m?͸Wn˥U\gq9<+AȃÉ{HHZʎ=ZUO"JU)F0X8T<ߟȌ۪iZŤ	ȩʨQԏd*P*ƹ$)RF<h;]Uz:hά"}E%a!QAb["STAL%*+Za2tc_1f`2ynmGy'>(7xݧ^݂L3^9jN>3|͑RF5e߳l?ua`M=˶{˚֨,&4]`h1ɲ\8ю2ܥ$')d_z)eiox%0*eG_ϋ`[ֳ8nZv۰~lqU;	:ʑg}:Klʝ9Nr(yŻLN%c+%+ɿ);ȸd}^r!t,jD!m:̠ڂ>I 0QyS$1`y@Vѥ)52I60E&Pۧڃ=A9ݠJ_'bu-ŮHުR=aұyo)PǛ$klQlGf<k8%p/sZt\cEk=8N7YY\	(2ueArI͐/2.NݯN7ƮwPRSy?ʟZͶ{1=ǆ2.wlQ\ǃ$p^h)Ţ7K "j>yzaR[id,3TYqIQUu+vTWRmj{H_[uauhGZ+>uZwhPnwUPTR<OhBƵdfՍZb'aoΆ-S&-A(SZE7œwpTSgzf}/LߑdZ0Ϟj?~^t؎T?t̝bonb:Oew_-RWG4ͅ|5uYd G~M"|ôZ3:"IuP<:"J)mFK~LT.U<QN	AEO1L"Ù9*7͵ 6{Brt{"Xqj_w[!њ?i!E%sG?vݷ]/LUpRCx0g9R3)Eb5ls7ީvc'R,L͚hBU"C45GsE?] ۓʀ0t[g._F>+ykbXeYEޑHs>ӾD6\_Ң&:ox{d[sy=+?˳g/h0KbSH4y'+tV:B~*&b^T?9^@<&68p	I&vq1	N!2?ǯ/E=t4bjTKovh+o7nw|s`ɧEd]Ƣ1(~u_Ooa&ǮeUMvL[2]b|ϢGNűu	/PddqVZlCFR˨%!_XHgil4Z@v-]_!lOߑTsv+hyO;ȺSev:y.%1'Bd͵qaٙOִHK{LߎZ"|M7>&ݧϏvlnV1]*I7\ݴeCZ z&B_K֎3Xx?P~Qq2c}q&mFJIŜpeX,6l+gd͚*<mL-gKMTr5InG6Wr62CÒ{MhÚO'~)MVߛ߿`YTx6B|.@y^"%Ә܎q@Ax2h۶16t6UMDfx<5xcz-xv$kJGV0[oAHTo6uʠig6QGG}*&M]P_.O_p%j7c^N4>6CIՠ]w6Ug1+"=p
}8u2;u˛!pƙ2wK	].e*dwÅS7>lqS6JcP9YCh6YrhZaU{]6\HCY*KGMRzHYhl,\hDCi0f>sFWmMb~>C4O.ORSL6%Dm;s@"ŏ3Br=Z6uǯhɅVg<.rI*fCȨzn-lNU0B=ߦ/`W&ČPpxE{6P	E_!\Q`5öcclJIJt_u}{O4/3W)ې(&5>91dތ"(Sk?pUqG"qs*9|7	vJ\$^A˯UL@0c+QO~+t1i<MQ][Ӷ@+He	]+V1FĠNO-i"yB/mUX3ER5* x)^+;j6?ݎÕLP`~/7DMMq-ZU9xIH8M1(jYF|gR~jT2N1Jy,j UʐoՍFeU~86Ok(Bspp3JZc{c~W=Ə|`{ʂJ}޹ց=6^iSZcKװ &!(yup} I?$u0z+F\lk16>vpWL9Y7!uJ3VĦ29nB6$7cyS̞?_D!I'pǺ@6G$r&Y("BV;	\T/VgMA+u+e~rl$Vfƚ1'(kB~XVHbˡ|zA؛ڧX<H D0eyBoW=ЮZǵCУ{}>J%`Xzt=83oUB3()+kM-0ui@BXن;!.O j)߇ZI`2yo;,At%zY!M"ÐADKtM{Tl7([ͼKx[u*\/zO0Qm]FU.x̟XѢ׍Ya]]]%6x8mkM%==jX\ğ]%c=d)_wG/Wơ~>[u+$W`,Na'JIn"dCV:hz)~Br[=9<5?İٗTz7$pɒ0gy5*lyZ4<9z_V406߱p}Ui˫zn]ǯxͭX^n{PXǪu*'vv{c*Ȫ:GЧ<33J(hTBM8'!p7`(s`9e	iJ=S˩J(;Xǹ\ÊHbE/ǖ_;[/	ۯtcnͩʾ0/\c]5	R_7WwUڊ<HT6K:χv0T.c>ne.l(vKB]ˇlHM!{ʫVQ`3 x138'|5Eo"J-$D>{8eKx	 ?)`jwSxb&z=@	Q6&0t&PRSWǛi6FT1DUpmxyZ40?l4MT+4`7|\|>8nZ&YT/U{7	KW]fc^{ZY6=k3ݼ4.z^<${v&@!.vP|QyXxLkDX-JTCZu>	YҀLŰY0N2H1	.QMgPZ7XSK0d].e]CBX=U z"YFCvieAG}e[(_gz)ސL7oYQ0O]^~c_=yeρg1%@jN-OYi'\/ǻqn.)}[,&,o_DB`hƳV&A`t{S$`X/Ĺ,w{.5s<܄P=@XJ!u=i)M|σYJdC.ȏX .˃N߻yOBYDnqG |mrX!&Ȳ;FJͭڲHɽ>cN`goy=p{eIHRp Kwl"% Dsf K?`rx/ΌG_(AkB\n9o׸*Z-"aL lgP*ǖjYEc/ZU1ghbFJaFp5A>I6BTƙRJ}90DrMU֬X..jaj9U<oH=F+Ć,X!-R=fN`TǍZd&,\mXZ$2E3}jvC9U7OIAƽU!^XoEBfH)pٛ/h*$mfkW0(D7Ɖy.n	39{1ǅiGw'|3~BZƎ l !ģXJQpվ!ǃ%r}6CGW~qPa hh^(yYa6huWi?q|1ə./Dc~aP.jfTF?!PWBm81!X.n VǠ1Pl˽Qؐ|"t(j$Ę7!gz"kS͘T);AM۵._ ƨتeYK_'::WcA$mͶ _	!*xZ)Ť=	QHQ+k5M+T=A\D,h^5íĆq̫Ƒwi+"&$*iȨ_*j$,W-0qNVMpJHnG9_Kev*;o%DutG[a4c.4hDO$i!G=%`ȲÈۗ,xzODHzӤ+W3J@5ZXIEdžM-H3%XG+̑+}nǬ,XC-g@eoE'=zAvST~ZDyگÈd!iBs8X4_*U7_u_lhza0>|jV'Mdu&o~gzJ'ɺ<v%mz˵Y7I6ъ-xVGÕd_כܧQNy[{_8?'ArX:4d{+.FekrB.)&LMMɹaMp<hXٝRR0bB.Њ	Gh;C;<wXIWĠa˸z\FWQJi	8;yx_ʫ	(!n?G.k-ը(t	!ny_NcD_;662w|
<:8d[h*k}idJt5F_qDx0:F>aQMuͥ>k>BLf{Hcd6Ըp9R͖L̀v38lFVrrYrNW'U9bpMPDf<ii>AЮoyazՄ2B(@'|:ۊzOzfoR2k5Csi˙_	(&YjlY[Fuv0M,Bek7ʾX)4C{N~EF˓Ƶhnq@4\1J_B1		))r vZ܍,r&[Ǫ9'IxS}OL}Ea ޒGP}EwLmõH|']N`ɭ^.UK%PɤD?[7LEŨ9)`È1[P/1JPɣH0)O8_dc+K0ibf/ݞRvh&'DO^܅yX!T&(T?'t`~+=uYhHYw@|$&;ij2gцR@ɱ5jbWE51̥5ek6>`ɕXpe2)bM	52+d	cV_6|?Ix"C}>86ܩeG8;{x:ܚiA<ƙɌ6T9);ű4ĮfľnP	>ebdȍ>՘zg?6\Pwgb.F=8M\~3;?^HH5ȴFN!tpGeFbi@o4f3:-/&d<=@VˆB=رF	nT!nn`P^"lĝW?<xTa[7t0!QpNƆi+n8ԗl Tsb.*URwox\4λF1X2Jۭ93AoY5Jo35kAXa}ƙR,	iI<h-;&ȞwGILI= a;})6М:ʯ@9k_Y8\"igtƈS~0{OQ,ȦWsAYd	R7ONn'	5+UôS~bū:fyQeMaAS'GF!r%Zau@fܺ`;C'Q}vl2FQ$bX6',"ZPmJ&5`Ve^&qwi1UJN[+j0jvb'f3TsGwb0jeCoi}Ɵ,:"+B.X?3KOMU9Qͨbk0B	Y_?S+[F`^Q+٘$TvCCr0?>x<N^4q:.cWS^7lò$èP<AXY<|(G	˓=E&Y*fjڜ_1" Ӂv<N?3"/Oրԍ\;pBh,|3&y28>))+KlйUAoYKjpS`p`9leҥkeժ/v-`|`֡h3Pn<D0@Q, +L~2L-Wq7}%Z	SKʆa0Gpۭn 95 bƤs$^=I5*ptA{`ʸ$ 'mdj(z^0-txM~7([pI!	$S!(pO4.VPnwmz%KS+1G+%i&\bPSEvcΡu!=[_u]Ē4ڟg1t!n} a׸DT>kC.OP:h1XolIːadû2XJVy=Oϛ	u|Rj]1ZmsugDFעrZ~^kː?Q.:I>'u6<De5gLyBfݲl{ٯ.<,H}SёWp(|,_cQY@_/E@I1Z)/sL4s0moJHxUE6Hf-V5a;fE=Z|<fFz{w+w0OƬoS!yD{=CN.1-M"i=Xh2[۪rCbeuc}7QkDħT^>Ƨ{òŮ*!iUzN˪O&Nj,ǑP.=|ި]&ҽ\Z~PǮ1+_)ɫu+e'$JB˰nw(5	ͷ[УT+eȀރP<Y`	]>\tHY9`(ˍ^zʶ.UѴPQ͖j7ye}K<͂4^d8=!q~ݬ*`FoON"9:qޫqDm`/`r|pvh~	D,22o&Z I)DU/hg6Y-vjNC%sO[̷Wd5`^;x^36 c3GuyW7K[F:w	)ǄYY`~o1SU^=L8h7$5^r.*VEʰ<-vG6.09-dX҅"ǘgʠijہ`")x\L!1Af-HB;p	W;\D_̌v@^2QLYe6^LnN%c[I+VyZp2}*uL|/Mw3XIKW	bl@y+`Ri%<I=iMH~h@S(C]m:VHL4(	ɖJMѭz>n[ɠYs	Y\-CuN̈́h<IX&g"ĦߨEMԠLQ?-Ʃb-z-WND%t1ofPu4æd+$$bS]?DB@/ECp5i.X\9=/G83l;ir+kȔ)2R3OS4!&veϣ;"Ckب"Uu%)>W`FVGr)9qUeKS*4Vj<^~Hc\[_ڴKw{`*}};b,9Q3!%@;*L-8sL^	o_fxQ?ξǏ)P}~t5Z'0`̒-*)CsG/S8'!|r]&r<޹hRrmd.rە	zH}]ǕQYWqOG-r}vkbBzGy,@P{m~xUH=]}|CNXy8,0sfYjc@~t9/""=!Zjķɑ<)OǦL9
OP:'|cz8Pj,GٕHH?.>Hatcy÷@ΊBHP$y+I&dC|Kaȕl8!q3\W63ZŞӏrw9Q&Lɴ<c9'̮ցwʟƎ,0r֖-߄^úG:Ԗa<)ea՘NH% _otD8zVRq$h&KCǞ($hC5:6Ci٩͝J|8SOߘIt3jWX|=< ȎΆCrJߋĨ8^:~/J:D\TnPI~Kʉ͊W*D8\.L0ߕ^^iʪQCe*nRϲCv.^|V"QB(N/CUQsnI{G+{2K2	0s2͟S0w}RZxeЛq3gr<:f(DQQKǖ"~;.aa:rr*π$ڂG;Q.7Id;6ńTm޻oUsQܘywIg	?:xħ-L$	(Ȇ4f`˃(wTJ/8`!=Ňz]6"o:1\du?j(HZZ"FIJJ61u̬M_g=?@z4[3nlbh*~9-"<	Ӝ}ހւ Mܒڈ>ϣĊ?`x+ؙh%*z̭Yߨ/m?["_~j}ѱ<64Elë&_̭T(m-[3p܇Ц}-ɟ<:ǟܐdGҢ{hڂ3ƣT)(	|ҵ(EO>b	!R(y!"nao[/SC$O̦[lbM+dP0Šw&}\,"Ȫd1Ma:N2~fTF^aHq7{<Ǿg8e*ԥW(^~ӭj9O}+ŕBmS1bSś^1KoN3Ho1U[Ne	ֲKDbSnp՛zrnnF3n+dPn+qncGIDS[_1c]WmK|~ghGWOOH|wH$h.p2~׵Z4~MSxR-BҳXCH%Csf"WO?>Y'ϩ$c=XBvY	w`D ON\1f)+J<|42cʈ *]5-?kl(yA MJ.[[iF6l ۢ+Cp?9Yǹpg$$z{sKB$]*ÈLIr,L7%1My&Xyy]g{k8{|ER:Kmj6bWTHHS +&2Lчe۩&"%?ۆvPü[\"Bn<Ii3,g8DnɃ[}ie	(Χ2I4lGlVj׮*0[P4$4\eNr-ܽ,/Duxê8+D'aؖ6/~5jǘݞ9O>ŧT*<,Vm{q?B8~*ypk%}QK@շKyzH"H_ZKŵV=f[uJ3?ݦZeɞG:i^i(x'Uc9>(Ľ$"1f7gtԡMP|kt{{1(M<?J}YN`\)1k%Ɂ!n]ϼ(sh!d+Sl+`g_ȞV&*T5MIsqfySASjF1CZee~1OSv<b!brJ;UKx|ڸgĳâl0Oe	">  K/im	q>f%7T:E)Vj[\Q7;3K9fF0ۑJßÖ^I5Wzq{Ǵ)>W.tt ݓnL5.UIJh*ƢҐۻ[ZqsDzRƙrئΈe=XXy)K_fKU=RƝ$_ӱoF-vq+}n]+Arߛa~.AttyL~ĸNs'Yf*gε3eit+/L(\S_׆jHz	<}<}Q3<	FRÞ@zUe5rA}t&YNZ9mUGiȨaѓřFe^)H[8T̷Nǹ*mKĽ~XU'ŞeF[ffHvQŚ1~GN!y$os'~owVXRN5q~={٭ƞ\)=-Mq|Gw!ˮq?4Jy$o|Wq0v"΋u\I}Ϗ1TPlH~)ؗX(qG(b1Af/V_nSlr}c"Y!9͕AbTeNwf`xvLՔGahUSɥj5~@ʾŭ`?SƢW̘V+`2WݰgTbI/BHc0+_w%(vר͇Laa:z[ nII}JE!>X=@)'J**x;!8Zv's{Dm	Z KKY=z+$M,*5tBʧ$tPwUac-%&+řrŒ<gnBl:8mmL/lʫV",?3?0ҪÝypy5\{hε^SҮ;́5tƼffRL~W.{u~?*5n;:3ɀ/lߗW&IYPȑS"/Ӫ_7TX1r8|kr?yէ<d.;:Ìngљvt!d8i]hr;ά={"T0G|f'Z$NB'd=ĤJU֧J_>^l5s|LF7G)hgĠj&<L3^͑	P)trBd1Uظ(CcMdG:!g)ۖs0=MTc;͒&=2rQ ςeC_}ξ<X3uf|Çb%[h6Ҋ;g1my6Ku	?H΄LygʔC875	cJ\9SU܆kF=͋	x[AȜٲ6m\ZiM"$ZUKAr7]tQдaޖQY]	Lg%,0\~Z\R!:1H\^Orxi&M0MqKZk-NW LiY6NlHD6E
>ۮ9}b\@Рyxl@nOWV6ppsɾ7vٱJvMpu8ѹrG˓gm!%h$@//z:-nL]Qi3%30LSآ0N"n֥\2IЖ:3oS_V\]*eT<kThmӛŠa^$.Ԋ׫'B\`Okz9S~etfNi8NOgvOџ,3"7!i``=dE:`F|ʪ7'g<rKĦr6F0}{	A?N*l(u`r7Dqr=jkNdBwXqZnʎB?:q6:@Xk"1JkZQFܰ8+	b(;?pbnPZ'hJ)0b2Ѷ^ 5:Nn	(E0GGTuf`&sjNu)֊mG!bHGA}~IB}:"a[CogV/.-ggkRȷ[C?6YYYi*30ޅRhEkUv"YùL bi`3w j3-j&sVz8A|57QAMPEgdt+`)Ģ6SPSR:\QpPwWh$;6|_lu6;=/zGS R]5k-QYhAi{<5]EŧlڮʤS$9͂15G^U"t<	v|GI^	DD2xȎ&33Mp| BTkӫfjlC=m$l*şMݽArn64=Z17$ŊuM&՚DG:-U7s1[Rn9ژ؈B9Z\,8TOo_Y+5OQp6Oɖ&GOUSƫlp=A,Mӣkxctu}1hahsokO޽;>	~:;mb_]%\{&|vAFqe`gY~/R+͕ĆU	mk:{mq\3:*Å<D\SikX{>.yR+&qNٰwRO]J':ū\&ʋ͵Rq_ʛo'LDy	Jo,و	Ūñ30yR5sCuɻig{b)65t2g<)h>0Z'QԐȄSM426ȮY)[̀S<Bj&˭˶l,F`n\t$OT}	@V*d;;EV1>;ͤCnK̤um-MsCeUԺ~Szz6"Nnţ?rk>(ٽw!oYR	5KH-($@ԃcPG	:ހm8poSI^Nw{@CЀwi˷u4E8	[p_o?jagptTQ!ed?}}!Vys_P9Md҉ApKNA)E=yg>c/E1=cytjX,a!i;wY:<Q̀*71?ޏ19KBO1-/SѸ+)Kdf&ׅ.O<+<qdʟgh˲!BnʸY8WDUܚHrzP~D`0Y"nKh!o>r/=v1M˨295Kp3pLExO\irY/*6(wrfzo2t^ߣ	CIklF]b0	yRpMyǁ(^DM7i`~3*P@l! gwW`0cĀkYNǔ2eB͗uYg5&Ayйp"̚V>;2)q[njʽQ@9p$q̦ʘv?EkAng iLilB7:p]/SqF$=X%sBS9WUHWv0M2ۓ	?$:w?;gc08=`ZZ:!%߬`E*"jŰ>c]^-`X,Z ˛xA$D<A{\tRzY^*JonhJÄcH^-he&\94t@B8˗Bl4G`xG>H(gk!FEРw y{+Y4|VQ<ǽcew@^5"6VV`MWwf~".yLi2ḐmV 6$,VO+`FQAt:Q^=/\(;qTzb|(<83]"0,î?0QWdUvXaĊuL"8keJ[0$Jï2\T`9BG}з)AauUwlfǋξ);%`Khӻ$(vG[֙\7ݪ!i=P.XZ1z!Wmb4Ӳ?f,Ss6%0*UN={NCGFex<9btj6ΎgĝUK/-TM<cP&k+0Rg6$>=cj-$%	tdhAŶѰ<[]ځQ,-U5$ZۣB}"qr^(<J}c/8PKi}@ECVc`W@ Wns@ܽĄb)S_cƍqR&>Us)tfjOVzНN,rGw\lmΑ{bBm/fȚܔȡ4ז	z6G{ʎ_6]]fpǊt	wdr\a$t	`5):!Q^Z:cWɒ3"Ć]NV*tS)i~!zL8{j2''q2e/X"2clbF4RQWg͌ճƳ;<"mU<%);mCU~WEdūLfFf1*/9,B(/y8.rH'hɼ(Ȱk"=s\fX3Nf,UE=ŢI n*ѻ,GbkͮQJsdPd$qF"@\YVK_enͅpg]9̟lsCK2+"C3T(Cw&u!/2,'.΢n-zïZsXn{~k52NǬH͌Ŵd$9{	ԈČOߑwƔ]	G7RU-̿*h*e?{(h58!gC]ƎU^&ˍzs$\9\WD,ok7XW{D~ͯ̢'D&{vQ)פtC2,:\kGDf*}υ,;3sFop&MW.KNBO.o{$Xb'?>&u
*ӵ0hsXƲc`"I6,.y{(VP>pF<a`Fۣ@u^pդ"֒ZsQʱ~NŖEO@2o,?*HTFtR ,Ð0~58u{ͫ|&1Ũ c ަb9bƀzx~&yP1ҭT2E%R1ߍSNQʐ\kcKrTq֠y6sDafe^SƐ{%ޢoad=*܈uQ4O=çc5t]k7V10zg<خGolȣ*P';_qu&wZL /cCTt$i_-ZX[xo&o/'] M4r-%o'[Ɛ1t^kg|Sɵ -UfJwHQYs_.&$]"/D>5z4/{eTdaFn9O[(IdkNʩ [CqjzrGjSgY"@z˫+&rпtiVlD$rÃްYњǏ &9h5ɏd|ҶoEu,WcgAōS!}JHdRGLyM@kՅYj^tl( |Iv̽]YšJ&auje]nVܝ7ЕY_Vn<a'az6N)y<r`739(pP{yu	0*Vjr	c@<QҸ@m +X%,9ֱ0/%i-DdcGL;7x\oo1q	\b=JN	V:Lh["ľ1[ʨCƯab̓BѪX%ͅ8-ǈ}FF	NĞvN=lZ4Zr3H_Ҟ4}}8L3?4pcҚFb{Dw>L;-b\_znɯibzm)tGNE:b |^yĬse1tX:bƂjrhhL7=n6~<Fğ^+-ok*ɛc|k6'+kQہŐc8Aycvq`GTF&|ȚrcL,kתGm?]ET!=)q9ZՕEy}Zw˄DA(m[k 3fS03KsHJ;"vNULK06/،a"/nK@H"iy)j>/ly8˝K̆8/Ė4ޫu,^	Ȃ^H0v_R@1nF*`%'9eWiBkiK;ml.GzދƚҢiR(Q }!GH@8$9fYqף $ %i'*˺l6d]|dHƐ)qmL@Zd:8њ=ikIzhƦswN:FEifp2mk>>',"˴=hSW)Ķ)>XdBOTmX}֖ӹW6bhb3KrqVR=^JR<*&=wЍ$Qė54ssmDɃ?*KJZsIFSYxБx	8Pfk2ALtߢg~+_C+J.Yi2Qxg%l~O:m%(A/j6'XkܧGMLԤTY1id1ܴW1õɥ1s6SmPR{ 7aϵX6q!^`(\k1J=d{[ŉh{Gj~ޘnjģ@@D r!pWΣӹZ|P:~\|Z\mE^h\bAHYSſLA͵փX~ߦs|I3Mc&5[`1flĩ~,u"i~du8lO[%W͚qZX i{yjo ibn=ȫn;[,gKYx 7$]OGy8*ECYкǮ9ͿolgR0gTgԗU&vDYH=KcãσvԒ"@?cL"ߣ}K;\-mx,i='j02V'-}F9G{/Dú3TMÂ5Lv(.|yc~"hoO3'=څ+ȅ>8YMԂZsb5Rion%`OxF]wPF2Vf0.?`>?hBgNDa'`!qsh>URSϰ0Dr=HE\_VekEU) YhL4.ѱP8EQ,)Av]ͷiz2sJX3swˆZXU}G9LNZ%Qu"3Hw|lܨJh)wD]0JM`}w.ec<@ۻ7ơF/Kbkd/zȌBw$i"}ٛ6̦.UJ lBsʣ(X9=n<A1@7JB^Q3s̈U۫+y/NU'rώr.:l+BՉ(`ܣX	g%=	e|e@\Ғ:^(˯1M	z!?\iwԛR%f)qLwҔFQI>ҫFҜ">3tsgOi*9o|4=h:U<!_<spCfm)sGadETDo̠Q֊NPƆͻ<L6bpaDqC{RwSf(jɯw]ܰl0S%ofCxFqn5SK.$~1'4јȜfvQ2	H]Iw<[l/>+$	WW>|RU5./b;^:Oh}D̻Gh.B WTPcx!*ڀIG<gRJ@tRLMĹ8fw%bAϚkyYۇnhIŲr}It:xygʠ'8KiBh8gEoYUHԓrؗ1!R.Q,>>>"|X]Lq**xǳX~ˀq_g9^:F6yx;$IIc/;E+v0	!!%tc%[dώTy9I`K!O2}j)q4)(	9u-1UYCmnpxx9.@4SYMOwG$(YjȐa*"?WOQ46v\=VY,5m 'ihu[Sv.e ӗƎ0j!.A8dԽ~+̩~Ec;:W|̘-5uTJĉ1yU+aɵζ@<1n?~Ԅ	b4[.ɚxf} 
	!qTJѤPׅVЇѮYƌ͛jsFzgmN[{L4]]^o~ej?nkAX_H%MYƩ^K _d4AFe@OQ͑.FB~vi;+$ʍ24\QCYL_IQJM)\:a6~Eg}C&N|'W9P"ci>oL?+u!tmIBWǁa;M%R~"Y+|˼sc;i:ެ-%5+܃~rzq/Ԓ~fW?+lQ~6		%Z>51~p2SfTU!n;-y ҩϾ,RpP |YƒAԯ޿cs6@&dC8^K9dRE(&HֵGŠoy	QxәiZQNӝo8mE4sxɜ\:>'̭@=C}Eˌ%uKˮbn7',x`	3cz; ,Dc4j.Rhsɷ^]ns!%V$%~QX({ַU;`u.ì<t:ˈR [lƖgYFϤr;4G	u{Ǖڐpw$/UaJ8aSZfM !W/n~Kh}7Ǎ{Ut w˸Ɯ?4v>%˔̶V0R+?!bu[;1%4y2G)eaʄ,Hͤ%k%fwm~0wA"2UuXF'cdZY[frlJ'+,;yRw34Эd0(ߘu&Hi2OUcpy@H/5P<(>tx|{W&MYr|y"IڬD>b4fʀ5O.xC%KR5DgPJ?"Du%[F8/Ƕ2c)OҏČ|:pd0o@bbvN`vK</4@Q4eT2LƟ/a_c9i`v~JLfo<>h"W>o{$9j%I/$<<إ$!Fߘ3pcXXHMǱR\vM-ļX!pvGЕ25>Vر'ILDѾrr&@`!|ݞ/ƙ`:_r s9U,˭v33whtŻ}ДԻC&͊'f?-IF,xQP|ۍUHfHUaw(tBh:*,Ǭo˼*4zBB[W9JdUE]6O?gZ-loIѸQ{:?Q'JgV90)R?>/ERϺ&h͂B,^orЩaMޡ*ňJ-HrXiZnl!ƣD';ƏTɪg)IQ{3uadg>-qlMװo%*eqe5*EyF(E$e]6'pWBiSAk%v? cռʀz@K{Q?GOnn!a\Ƒ0s?ըnaq'9ߢ̞(C!͍Ɨһ!e3L"p[k|fUrLIvg[Q|_հY-QW/zRM$XpcJc4)ICq"ŗWwO8[jf <NU9big?5}T[\ʫ+}ZZI0PV2\"{O}ο̤q]eIGk_$k&r%JL͋7Y֛-26ڨܷe@G_UT8e"ȏ_//NN;bD%TBxǉ)Ch'cP;tpRP[[BV0r*$)1?B7ZTgZu8[see[/>EƁB_vCu]C8\!0w5{;&^ľܟ[F@:|w$8:oK3dzz΅f!}=Mhtx1C&:W,pzu[4H.qyHJ̬8wǪ^vۣ<ފrޓ[-ߥFTvցF;	x]Vnӥ'sͬD\1+i+w`Ggs00k$)jMHf:A%V-pТH̙D-F~˻xdDu4kT2_?s	ջOfN>Gc0]5ŗo1qx_C(7nXqjXEc*cZ.Rt{^l;]&\B9dIƢd0*Hp .9EƢЍ|ș\ZOԣh"I'i	h'-{5=Exgz,ky5!koaջOI.<$Rkf5Gxt`H!,9IMa!`N[U3A;l]Y+nu}M$I2b8=PD&+AMng>|DJ?BőUeLHˣ%<.qQVy˒B!H˟_ѻLoSRpx_t`ȴklxf+ĽF(q=|7QZ>̑~,mu-h)II͵9U-8w&}t(uk;p}8C&ÑZYQ65E@wU PVǥ	UGbrEUGOfp!)DpqSqӄEEh^2Ƨn$^L-%OJ]VmIC8cT4|Eõp9O?kAmI<̈́bU ( 15%'?fD7%ăGW^J01YzG]Z+J`e ,<ZuO w2@hŨxʩTV.De8+PVbލԽpbh _P|pkkfŨ'e\ɌmIqI)]B:^*Z2vrcCφupRC PY_mZ*{5cpO5\~Srow{vOr[w^\ߤ=gIՑliԝsr_]h'b_erDqLЧ:f;]ɴb]H%l7voZUv+leG"xUKi4Op;G}tND{vʇkE84^xj1<ͣccBe@Dr$q"wt=Ǉ9Qsy:0o_NE>SfTvdhlM	@ 8J.K`E6YCC_Gr 0W4{*0=2KxE?n'"nÛg\oo>Y$]~Ġ-R"&a=qZ
5Qʧ}y˕'~<n5-&['(J$O\RYqmʆLhO?g5^ޮOvD]'Țˠ^Z5Kߐ`Ď>&N4Grwoԁ&m֥g)gS̓UR֣{w~klmlTaǌbupkтǹU)\mQU@y>>W[v=$٠ vGdFr;j^dH6zB~k	nubW6O\_|<'^bg1q15:fcH7df	'9fbk:FeHZmJZEɷpsZaIUȎQYE6xKLL*otԂE8rW'T~qPٱ[f\	1bOhnLG@Nb&>0@u'ڀzmn-S8squLή-˦dKϙ70XvAP_ٺxhYDq8;`KzDo)!AMg}iŭw> UƁ$"S.?C&a`Q%ӗZdR_ј	T.M[AsƪnRU(@rQUQS_o3%xfhvb*ݾ*]GAme0I`/A]͋	niofvR\([Tp-}'(3sI@=V*ƟuXI.KK{IȽa Zu"X2ťW7	bLs;QvEjr2\{80Ŝ-6>M}v$ans@{qiGH^|d=X(Y5,Jn9\BB8t1%4;f998?3Rc<Z$	7hģk{`.܂J{!=25WFjղ_Vp},Eژ=[ň1| q&kESuZdC?	'{	v^2BΓN4ٱe)ǜLT>F=G62Sl7`3N޹5X+~٧C}4 80urnAu^0Fγi0تhy;Fx)b93gHc(cBh5W	?=*uG"wչn0wFx\7	"<q+hw.G'"+vhu&1Kyz535׷~rȡfk4*(sK&zMdՕ:2]Ni['U^̌_x[2wt&3ȏZ}nǉ7f>g߼pIbuS[nm`3uDE58U`ſE(<Hǫ8/1|V@MB|DzAl.t>M)pÚ,}͔gbdMm9 KF*tԤ:	~+Y$~V(4rH.|a_B^@y{XYw̜~CE1׈bo0%o%Is'MGia200F]UQTp-e/ˉM1r^PN}R?*DOWNjEP]{ޱ|s9(Pdmz<{3d1gU% P1rc'cų$7@ة2bϯf	̗yݽA$u)$i^,%ەY~n^_gt3hDs~v	&6dن+]2K_!5xKL:GgQL4w(xקT>U]I0Al'/="{R?]0abqoژWreDa`xlQWQQʸyDòBNY+ӝ|1)(:O(SLI0S?Ʉu4ʊ=?r[+NB˪U|aH@UYR@!|$~`2P"6ͤgdK@YMla[~tZ5+]1&=kCo`˛__T2{8Y{k]|ù:ȯN%Y;$Y͞@h%a(EinO.GM!n}/<p7a*(Zgi,*guud֮M:z[Ĩ8	bUr3yBdO(lqwHͶ4cLFc*)!g%?vPAdqq-j]t9אy}F19XZ.}߰10P-]hn\p@@^%B,φaĪ34w˼HG(HJ"0ܛ^e3-ٜR~ђȼe.C5hxp^xh|`Yv=̦ *BR*kmuGs/9uf18[1˚QuxǄlKت>tın;tv;ciU3v 'Z^6hvJ	=A˦b0?I@Io:_աO:gߧ!aۉT[ɲݬT3	hc"[w	j$7ԫ`]*IQig6T]bI}Z3>T;,	ÈkQV%/xrsvY3)ע62cƱ|aYKG|;$SYlɓF6lyhB_Lq	beLW"O oQ.SP@cd|Uo|A8WP.+K$.wZ[ &ݠ>|pA\e)*o6/R9vQM(|qɹpeB6o]ͨNuVrY*D>6%"[m&хZΒz2lƚ@HU>5Pi	'2G[9@,N(tL|ټ0)^..x$|4Nrxvi&AĴ!)pN_(әǚ237\zFNLiD8Bjp~il=t5$l>Bˠquu*LOۍoNcQ	4qSfAD_9d/(:< >A{W٦@VmVИ?7E- F"IaJ,|&+ygҸ"E!"ԗ"(4A%/gP5'g٥L+q-[g{Fm]7g ̛dE):TIǪWw]>=7R[lztZ?N^MW$`41!IRަsQ1,D׌t+=NWJ6rrjKfâNʗDnN/>pvkc{OVRe,\`y[S5Щ@9&ʺ۞e2	]~wխQJ@YH+c.LC޷:Y(&f~.lomBXm0vp܂Q='ZJ`h@O%Lë4Zn Վ]c\؈|pv@z.qJڡO1=-`4×fPڿ~,dNaZ$A_
MDEGxev܅T\Ip{ݥ_5m=EJ$96U1r3Əgͧƍo`zvͣXS'wFr>nr:h]_v.VOp%bVW*X3|x5 Pr\zW0Q|Ppd&N`I.˄;>k$5JtˠŚǳIGom<O43KArJ@5)ۿf	QÝIƠYeKpÙ/G"}ww\4 LtL8/hE3mЛfY(4;+`hp_0dlO@(?)(^*5W:o(c9wNpRXhO@[ʁozOYG('9|d_U Fh??uĒh*u@JT_Ԩ(Օ]lkf&ì(k,x/u>;H(ZTgoM1.~38;ItbD?{"ǝ&AQs,srkmϩEްVu6tcхmYo	*&heY0)|خglH.XmYfLe~5Ch+5ebe=ԤV9ݒ3kO[&o'(})K`V/ۚ6XHh&+V<2i13LV:-ƤHDrW[U6P?AS}waϺ֜fŖgz37tKd[Ab"Ru8;[-,6x2vieb d`K@xP9Ŭðr4@	r}dKA3CfMlJJQB^WoO_i?(wr=(:_x^{Q܌3P]oS"[yU*,B|}S>~֧an	BqeLNIcb+c>;~FÙDҽI-ei1<(5oz2N>ǜ7C5oe܃eVvȿoIaQg>D*/UKfS91DgīJZ'$4Wgrv:>Y7A@d2SRďҥFH*Q^1L5D|)>BƓLeV96D4V1M9t/ecBǖC/QfDyMڅL/>.ǶT4Sh=}.+W^;C:y^(vσXmg-gluF͂IP{zn$̼+}?x.g-Va"uvwVB11ɰ3=Ŀ-M[iWր// ?Ƨ7|ǛpŮZQ;yZ2l)q86Vu?bf/_6?ė*%UB$omK!=^xpùd;X$P>UpEIÓʬ>':\[yW0D8`!}ʌ'2i5I]w`isdPjxn.3e/Hm(HP|ZFu_ؙI2YXЬ3:Sxfzd[HTi-0ɉGQR݉@V<(p$,mX"Ô.F8},BomM"'Y@&Kw_X<,J. '&ǁ,bi.\"qY9Z+rZ_LK~scO0<-.MF(3f3\1Viuq]"'˪Hl+dmB*F(*]Krތ,y`BEʁxēmb>VMgAJ6-oMJp,+Q6z8~)4Mx:=>*lb'ja>>8l@ǇSkQ=q-iwI0lka{s9FqG߯o%GǴm\~gNq?=Ə_>7zL/D:yF^rh$u5ƻ5Ұa5yg).o@2)i+.\iJ6PE7	޿4@TQܧ{S\6^n4.u^;($7&NuWEZs:j4,e;;nMzT\V5P9"VXlЃżqkq`\Wo5?Ws!]BB4-LxVar,(Ѳ.G'sl$~63qzE51WUE\ۃ"9;-O'Z)]ʓӁ$"{wŠP4B9V	Fȳ:	A0~1q?UBmY%_L[39_ơcɝk2hF}x4\a_i}R.+siΌ'@Jc.9żFR236,֩"m]uX1vlUV`)t8oe5K>w7$ʦL-hBP*y(o%1mH01rB->o<?ik	,pI+jd@eʪ}pAo 	EOeN]cmTcU:w=aj=d$q8ls.{<)i8S|5gL:+}q}ںKI)vأs>nݸ%(=A<TJrA'13IsSɵ_;K+͢Ss.ҁ$o(pM 7tPmHc͕}ֹC>X֋+YJ(mvFQ''7D,`;,>Δ>oًʪͻ2S6l~4S{><<ASϻr(D o:uK&ǓB4Pl{aX\Ga5ƾr1aTp"J)˒Me\N$<Ix}ӆhȁIi=*7ctg֒XM>QaJ&;ʥs͇Fo̲pG>0'FPSYLhZv6YoHg>ګB,&K$q"l@"1x8q	/Ie2gX9r[G76cxd--b%+,'E)tg_EvmoV(!wcɈo_@iwB-B=j4vv:aM6O_AT4"$<!Df,ڷGb:G/0xuoð70r:*FXvcg'qe ĴW/Рԝ33dmX0?W'PN2pe3=z{	tf_̏Z1~VX0vQɴ7G?v-5wЏd+@RBd7WŘRKyIV|3ŋеjöNsuo5_.נRҮ	0YvJںrPr_}W>Znc,D`4*^|D>C.8rJJ(%ڇ"9Pk)q>z.;6e&1%v
e%,l>-FX<ygFdQLͯfN]A8l>|Qmc>,YçNU?VDTah;}[Z|Nʀu^beSD2IB1~X˂n<N\LpllmB<:K&cd\j%O9nv0&}ɋ'^K)U^RDxM%҃"G1+pJy=XLݫLd<]Ґ	t0{ӫQ2ѹc6>iԉ:Aĸ\:IMAK0eu(gg^սڤFǗQǰ?QX՗щ͇Ud0y+'pf`}>{F54*AJ5t05CNmUB60A>BeZzv2\CKBڐwLׁOB,@02wSNzrǗ_+a"2˔ܳFj%S_|ՐnboGP"aFLVm`j";4{2D5ų.[8)!_F(UΐɻXjGcƻ>TzZ?=}@H	6x|Ȕ/zey!%N'D{T$:I8ezem's.9CD"KB%NUZ]3@b^$Ac`4R֞iOàCݎɑ }mO|s3|.<Z?Tx_oߏAkj*Ɍ>Jo\ñPSLmCI%8x`2Ϻ]UƕSSVm*lFWa2SɃJ2Z\~JZi4йxˇPo5	D"k'llU(^N7Žҁq7SQ?Ɯ?jmmLRJKELeNCű3%x	t.BL6t]AP+,[l}xS,È$sA\XHIƤEG_|\QBAx3-N`$FQr m~J)Ʌ@/ksS*.X2\&ͷ,A2~O.V?AGk,iUN70޸	f>	gͯjؿBJ̩OFyGmޅlw) ҵdidV"H]D^|Sef:21"T-KsD @Va3dwST`'[ZLor<\\H139?BRخ9BXקnϙVw=+~mYǫL/Zە3՗ѣ!LN.`čr=ZOomx(bXE?;"WLz(H&]˔Zq:̦w$͍pxZ5|lnCQq}Kaւew/[~$}ҭCIvHԂ6v=+v+\NqOu-z%wURPeX(0]4X6:ӹ"J҂T$>y$yɵRe,{dje]shGN" ۞aPL7;EAHYo}~sr\݅FAryŊ<Bz_ǭ[;$r6994ܝle!5Ɲrz0X"xT;{%ʐ+	Ĭbxџ	]y_`~IO+~:q˨ȶąM$HS;HΏ^pτc.+)]]>+Hz:0:ḙo,$tom4:a׷'8Z`$T,BkG0(B7в(}]<"0yDKoU'+xH0?(dA~j1ƥao7iG\%>Ê0tz!γt\^{G8l,q-݌Z<G"G&^IzZB%-*3L6Iy6`|Uː&߀$Q3F҂_)98tTE@PQF?bi%?ֶ6T2E[W`VpSHmWfƅUFxqq}9sZ)lcda9͊&`&<L0	HEJr9 %f&N6˱z2Ns'$H6U,zY2]s*%j0&$; ?^"T7r	N?͉>ˁF70`QC[P/8z40-I"ˬ/ٙ+!ts5LNpݟjċ"*RHϟq1 ?%?`R~ڠ.j8^Tyej̠Âo$34`W5<ǿ wݾ5jNac6k}0^yy[(Up2>K@HFT2f"wrt -ҒU9!.,1ϺʧZ{VO'c*3kj:>RTǟvja|ft2yK)T,5"M͈:&I(<=4[F{ףD&X-%_IeVΟ|hQ5@?lԣDITK,8Di0hD4TÇ{3Gu,,!Y͝:*uZ$ŊiZ/e0h^7p!! ju7A'Y@	؝X}ݞʯs,ş(x=\l".ʵs^*]%XG6iC1pi=TZhob@FDY'BK2D>پzWqngrYeƪlB=&A,;b9w*	Ԛńˇ1;`B3Dp03:oJڌ?eljaJܙIvÇC^C҂q@v3M"~Ñ|Hr]ԕ:)fdu|_-|ʳq|1{oc!p{s2HOc8(Ue~G?	,gU@0%o˖Sw$_GvF!/ƅ3'yÑU0Z$G(|eܱ9JRat6og.ȿ[6<zM(s:h,V$UdAˏ\lWɢ@]&NFP'T`(LU=wYv{C-*zҠ\j:OP4We^|'I]qp{eCnY!WxݳbJN)rg T5jn~mThXhWM"Ɋ!@)K'/yVJWFziC̞Dߘ֪!()VYB1v_ځ%!qe^2}Qx8gepQGRd؊M>̍S"QI,iVcMhCr;ms_Qj<	@!=%xGoD15)MWr\^0a!?ylwFNCXiFKDj*hoiƶ'R]ɲa>Oan>Vh(KU'1F\.Dr)6`+1H
ɤջ}?T@o}bEyG//c%O9ҽMF.Ƣ߇C=wRYfGb,+lg96p8rVWxͧP]AYmo96dfݘ")֊)NL/e_["J%9[}n{ORwVilK!p6	TY8+"@;pR(]82OOZœZ	6֞[N5@hZMGL[F4[@JW\B3]mOܖ<UU˳UoA&'kۻ|߅Bfq1tc(77KOœql:RW]$U˔lo~oub5GLbRNKvy.IH%gاqUibκ@](n[ KGY̺$FHKɐQlva3@$	iǳ}$Ґg	?Bp^̷tx	iǷGך"ulIsa3*l!.)en~>6rDe>n^ݵKPRȌeYB*u]]r-WٖC6Ύ0Ov%̝X3B=!pIs8x>l|%QxV0lsNp?F8b[9ObG}V5lnvjLgs+Ä-ib|0ǽm1.q[qy!=4k-@\0fC~;DmoF+`{M2eI0}/ӷ]s|Jq_̀.;Y~$e)؏iPsëy4@Q sz:9xMvtj{7mQ~y[$RrN>1ʗ1=Fv'u-&LT|8*Cl$75/^7^Yk/qCy7Nߠtҭǡ]D36P4eɵ7"ԉ˥x[QM7WcOL!7۽ЈVB%y+CabnLom/hSkL?,7g,YcS2^Dӂ2SIh{a6δnN,$"wNRYWz	oM@)Flì|xrQbEcjgj'X35ǟoDbI"2P![̑ns_$'C`ǉ(!l	NYGKXʍw)ݔ-?+!+^oHA{Yʊfa;ȼVYr'qB2QЊNtsZ;kųuA.e[ʾ<eyu-6r\JW~}J_KT9WXK5rzmCoi\r/j<ˋN.lwQPnwţ+UR0}bW>Gx1B	s9td]0bwǧVH%|=Ve%r zI(=5gL+u' &A/0Fc|rP! sk6&RlpSr+FDN.m>?.15{̻!Vr}-bm/]:þ։,aCe6:ηHgȱKAYjhU֟QQ*íޏ[d|v33I<g0M!b&$ec	_y"9SIc&pAH\%ũŋHIsDmDV@	)D12~>)@N9tMMu8Xfx7MH{`]rmNw)P]̛pFɜ_O)cʹ7d}>]yɴ@*r{Ý?a='@l|ghzv>^/ɾơ\qzBhͳ +/'<Fq͓yy`*nCXM.OXT(w3q'MlbeR7Or ĸ0:RN(ymЍ>ya69v,4\ּΐ~(5N;w1 q$0J*,lxUpK] Olmx$dwoM[uFUwp@WQ~L4C"A2_lbRͥnAxg1m$ə)CM~8VN^A@>(Kp1E~5$ ߩ4QˤuSiQ6Y(@30^7ʀWNǠI_×a]dN*xTx.0>eӶ{c;~p"oFqdc|F_b}Rџm5v/WGqI͝K|=LLWh1!LK~1Émp:<˨̽nulwM1lԸncSP}&F~RO_|85SRv8ܺNV$Zu6rZgQ2Uo}=,=e	%9b4kbtǀyIhӱI?O2K8u$4ToGVɢcWrr!оΖH,my^.h-}Q|s!;jCM̎zahmkbXʓ|tq!AOexĭujmu۵rNF܀C'LGBv0B̕n0"uaL9+2FaAe(_u<T`0p{'<qз.qxUwǤ@9SpYf2cX^<wfJx2-_o.?UN?q	q7s<(l/hɂXs	˫1MTҩ-Y)p(xcKo K<̨pD$tUcyp)MlSF?ܫq	)	męƞqK\eƞwu2\PdMz,^o%nXo!Iol&('*D|.."Ł>Ⱦj̃YFĳh}2,*n3eDN!Hl."VȒKeωXơ۹'A_oibdbmH/iր'wfNrdf9zvk	6Df"0l[LMqj?,fqY%c3Lݞ^?S'ǈeO4d'r96+eTzD%[qyc2:ƤeЗ[>-o1bd}ǪmY"u	ɿDsWZf,_־.%fa`&?x~g,Ƿ%gcaś?YUBَͶ-pagŠr@ƀNghSr<kTw<iY"'rg)KWWAǰj=$͏%dh2x`>|?8>z8FHI?AmOe&`ÃG!_7}lmVMUնh<=(pEBYN}dƚ0fxɿItVY=9l\@Du\ۨZFVaB+Tr7P+-IQ6ٿj%o
Hd"p&:3JYDyzbHlp*/}ݤ}g<zآٛ-b,β3fg7kh')TN	ɌT^KF	Dr)1T M_?sb7{oV_8/9*({jt.ss!<ZJ?ЇJٷuS^ݕ9<0"UܧqJ2]|I>Mkpj;M!Yc$u%Npx06Px%>b2^It˜tpr]TOҲgY@Xr\Ƅ'w<un532gA38>ESf5T@v<>6Pe,phl&Ai$/î5ΌT	hn@e1Oȷo0M3{۬h?ն	n7(a0tzx3ϲm:<Q'Xo>6GXAQ\F˰+ICl`6Hj۩Eu	9^އ٩\uX	Anc/vYTə&X=0:Gܝܮ'$M}{.2i/$]8u-Oz'%rWGĦ݂ɵFB1'̦D5g%NuFkPxib@B6ʁCّbN[[r;@ĚIY/̖'ʬ=H{ɂb~^dkJ-Cb	iaq|	\p<t2vZ} A*A2G+OZr'F[k*<e$F	`}}t|N'^*PtE@?cY$!1B	1CpŅ6\vxxwg{cRGJ_}76Vжk1ݢAvU,!LKt_ZJV]IF3-U9'~~)qbb{x{Z_:T-5jN+ڱ&E@`R(]<vs٦pw؞,i$̏'/!7 EkoZ'܇3vߖL,(VEl-͘ЋZ(2'>IߵKt<ǍD"{7l&	ʣZ(<Vfl*yXyn"xrKWE)8ƃWSLNQZB~8r9h]^dmpIÐ[H8%dtL6r=|RU5?n[.c`g7(:W9k$yGJ5+=b;|/s+h\s"	3b${?ڕ2l[)w[j$kϨ?Rנ́zQ{pW|ytivHjZe2ܣJya۪l:	s̎;ĥ_FҾ3|KGRۯOk|}viT`K>952;<z̾/6O*C*ɦzZɦ|&kU[jY8űٛpGOnہp.}/xƉCb͙6saҁ?ʓ9k<6J>%XJhFK)G}Ãhb@'o,~@0\z\x6è	αj0W8`.g@B94ҫ7ȃ*:]x2)Aݕ31KrU},sAJ.HAIH&úaWjL[$`"߳3vѐWOǋ&,+ʺQlAD<Ŕbƴ:@ɩZs,&8f>$oC]y92g~2sO4×oe"GBWfGZtF@|Lg@9<FY]K@W>7)"Y Mڍq%L/}Л-M"ؿԤ9cD8e=J enujΧFG|WDu1|Gw,]\6ÐȧʅSʏ}H+gƛ?ZMƔRѺlݟVS!"޲ۤnD9ekH}}]|u:7E10qw	G^fB\`߭FMal	A=B'%&k~;ŕKC,cfmP|.CK9C dUh8;cKUVx`	B2cCeJ4lm%JRY!	1ZC4dBu8wBɀdUvx&Ogq{G IeqB+__1|II]oQLXA^̿+~rw63D/Y$OkØ.8Ϙ,R$wyşmA:q+/(|@dD*D[g{g\tRgg}ķāfi;ň$&ȡF̬)v2DF0MaÞCE)RR`_QIkOJ(ގ4^.=}Tac+FSvI%*4S4U^FɜƷv,xc~MS/)c\gJ$Hɺ	t8ԋn%|̽m5ME>`'۶7Iur+b&%o&78,QՄ04L=x\qUqŹ(qp}qcA:,kn޶JS6Om`3;(d':L|/S;eI_<3Fu`a);j8C2}Yz̝*pqr_Krՠ)uQpB=9(Ogߺ15dl$n;f-'1KiѩQvE!;;M^^mNAf U	O2/-L3C1f3N]c&e(IQ0+OFn@L$cĕ^o%j4]j(tp:ƊugEFE:BD&8{E*\0VNxg<0HBUc/h8ҒuƢЛ<+w6[EKF]FbVO{weZrzAf(X7nNsům-ڧ:KȚisylDBdr<<	k-Bn4~~-x1=&:^̬N=(gZdHב=4,^W~AZC9k><Ow~UsQ5ÅoȎ70oqT+)s8}Lshd*+Q|PR/uOl)w]tBC!&![W3V	J2z|LYSRՓqkځ0!W|ېtKCm8ێXi.~}fǴ/޳-d[E,8+ythbT0:ČJDA]}g/LLFuajUC)-:;I!/f8P3v۫ـoATxȃb3/	FƚJ9ǹN~T?Ц ;u!:}	6|ME
I8]X2M	U+o'ht!ȅ<Op7:a'[ 8N߬xxqBtk8osY_(ߏ~=2qWƄSXjnȨo~_'6l[BDˤ}fʻ;vG:.tۍRJ"QHafDWKeeT{_XpǓt$plW4J_xhkf˥%֩5+e /sJܬ-͝K{Ͱ+0E(V&V]TD,h߉*IFkE$v/oC|ͣUK<i2?ޱr\P3OF(R+FG{PET?/VB`M3cTNLQLc>0<.CXf6H\pUeFe*Jͼ`>!/72FMr%*@_c;]:W;0w,kN<v۲K^(aImܵHSH8	2crFƶߋ1>tPpbQ6χNYyΪh8̳K:KͼpġWlW\C|y TlDOh7=72xM`!,s1RBƩz*Յ?5Ǽ5)̜n2m9>3\}i?$ ut{HL,9[oȌJ+ǌ:üA,)	hZIaѭɧئE VrvẄ$ԪeϤƣg0/Vf0K-0uN[j[t{ǥ)Cǧ2uƣ;͏So˴(I'2+_dI@(+tXTNʤjEE6sgMRPB@̰pKP2t&q sAr0Kx|&rQ\>IkVSĨ	,Ѹ7Nl~ǹ*Ǣ΂c0La+ 9z3ۤbE571_]2?+7;o9Gn.`P9ŸȎ~D^%YH>[:;bbdw2!"zWE`r|,arVKęi=jp^?˦ԅ$o27yxH&SvW\QY^j̒a!*XcOem_w[ǧaЈ["xڢɗؑ'B-1:AI.uC'K;?T֑CZL=ՅhxVѿFnInhfR` Ͷu_0Ur9CmUB-I|TGǕ9n}AKh:IɰnڂH<w_|YfV$.J(<{E2}Fdu5F&`:_55jX\/hgbLIcJ7{D0Kݤ))`W4/Ş6		Sg+oƼDbF2Z9G|I9ݡ@ʄ_-R:.d,O|%Ub>P(<"8;(0PJJȐ2]S.Zl6'ZJ!v7XMõ3qo0X;^\~8(;g̭F^VڸiٯW>`&Soub,owf4N|r3"rBǿ;Qm%x1S+?%dڶ|Kޗڱ!=Rv^>G+pxVy(QP7w7Lڙ<!oLP6=_}hkEǺĔD6M\\*z2o^W-F2ei|q6pmq iA(vrNly=('q`(ҷߐw/%rFm]wOJyƖuh0+gwIjt4*<Bjɳ6*V4Jg m~GI	rOG,h'IūC?"LR:G0=Bz|_(Ua)!3b<KуgR$l:ק=9\y{Gխxy[\wbiM3KeNn!VшR|ArfTbe̩Z4	JN'^/mܺ'ҰNOMΒ&lO2ϑ>Z$lJ"s^a7֍}>?ӣWȕ̒/?q\w6RǊG-Uvƻawzx8Ȯ-]ez,	e";h4gɇbL^àЄݏwf{9 wp>< @Npԭ|`ͳy~	IsI;xhY}rZ.XdF'5TICo+>"V&ߔ@KJ~\l׍̨֓sشһ\ķ?tŏU'/qoeKV,vU-2"b%ar9}B4nJgNnF@ƣ1 \cz'kkZSF!aJ5>!Nh}̀x@gSۄ`=c	&"2s \y5=>] J||]xSqmcN	Ŀk֜zќLujndL9ː""1&P	knhA^$ܗ,3,,6,f}xlƽZʬ)p>ulγpLz3vvn]1U$M8݊glMek?FT>Q[V+pPe$y:DOQzxSʢ1aH1z>Ȭt)P2rXUHts{׃r{F̣?KvB0!Lq(7Pƚ86!e*ȺU.dw,j@سk;=da9VV'*T>Ft+XE{Ť2s-wCI'RnuGv}E0WWY'͚Q%@T[>Cc|=mȧJ,ƓO^X$MK@0.`Źb9׆jY9[R&w&,QݤXhn[6MX\A]Wq;$\iwFxף$i<wƇ"/jxb{>IU'fӧɻU*Fxk2vqQ?:R(gpQDFml!*lStE"5jVW6D}ҷ33s-M@Jle`D*pLo+8*EɊKvv\^DV4`n&ώCXqK!OՉH^̒U:)"Jɾ+~ߑ\5C4yXz\A*AXtb[p:F"YږԾ,Mˀ(7u5,[8+;[pC[70iFx/uuE@}_=Q;$h̓mՓS%k*A44c&ߦO@:W\;,bov}<=̬HW"ĵ+Crɾj9̩xOZۨ8^
(+L~ceկ{ٓ4==*ka"RfCGyb@g<H"GuF>ǅ$fphJހ;<UAĒgLdM}0/pFv5Z`bcB^-jfǂڏ |͹vV9n4OVzY1MEL_Ɍc	IaSګqQl(i-̢ې VHUZ9ޒ w-v@	/<-%84*)s0pUb{$8-cFlNdtyJã\%PV"êv87ji6EKS^([ܶyI)7{6eIe[uZq3+fX3*۳͜?UoЍ4Ih>f% bV8S/Q0UYL4Y$uvs"`޽ֺna7Cd&3/V"/Dvǧm2@MSv3Ѭ1E~̂,W(vyn\{sMn3&~7	XfIrKUɅ{Z7e9F~;zYwO(%:1tNB$V^*q W{8\"vZbǬ1]}Ah`]	Դ9|U˽^7={aVE!˴{\܋*ȗ0e9ğ:wŔ/Y*~q6$>\~x3~9p8cpa)[0;i_R;EIc[g6_[w6<ƽ~m56&wn}VB1~f\$!(ĈGė*)NWͱ;z+G{vf1Θ(9}:{g?gP:4ܕIhτ_:r/7^Mcl	t++FA_U/tHYZ/Oy@oI,MyȊ=myh?~3htL&CG\I{$EgD("իH&{]͏^̟SS~IWFׁ1tMo߉ hȐUOC-q\BLV&ū%/c&ʈE'EOhͱLSV)dӵ	rucOH=,lj@VDcU׾OV=7CŔ15c"X	&1ı?[48"0q-%3|wmr'|H11En]@826U*n|yE3ZQg !!+Ȱ}/EP_+ThƟ/c)	IΒG͚=8R'Xof~wzIH=7۶gdĂreiU0W`mɩE!5΄>?stJ"3)Aͽf=xeiqxxw4)ă(WOY XDLutȲpt.x\ҟ9.@ےw;xc$uH`K!@Z!!j/ӖRg0^Rnwmy?7:=Y̀5! [4aagu`rғCWcޟjJg~X]UTw"ɺr:N=ƕ>ć;+uĳ~cԘߊWń|&!@yb̿0+Gy(ǥ,o=Av(O=r7uR_̝pTuۇׁm^(<9̡*tbTΤjMNLA2.4)32ĕy1;}8Kڰ Fxmp{+0δ 9!U+kcpnN]	W61Ӝ	trGA:Y<CͨN*t//1@s)Z/lPRY_$Ths~h$Rİ6iaXÕҔOBkiFj]\׼\6sqj,lK׶̚iyK̝qyE-$u9S5zkc/N\!͛b6C3O.Gt"V<GfUV7p8;|FgptogYi"DϟHn=}]CR/AֽŤB.T	Wo5.ȥϬ&1ܓ~Mc*>MT`.esL$Ar҇Ưʛ*KQf {lC6}Ĳ/j^'*Jui2}72/EO|yØދw?e͝=r4Q*Qng8;pPL'3Tgsե"`J!;SL&eÓ(>YZ960PԝЪuN3~Lֳr(Ue@ELt0Q?/.$h`n5KYw4\		LVj7^%s/3|*˭Ѷł*ÃVG1ο>f.4\,)H|&=,jG~`A|Q?bRrbtEj4R"ooʎya-[ptA$~wHawCrHf1^u.8I2A"-zap$zCN ڲ.%Mއ-a|7,+Ot;>$cƭ2Eĩ,{Nw|zVjSQihrq&pI2PFXj;gmX+&O@ּ39[ )FTvy70x`ϴCO,gH~vAdTm3GŮ^UqdeD(]BTEz*]O9 uU]n@Ƙ]c<z;R9ob2LT'5E%f?\֭Ww<@OD85QZ].@eg?ЈRoZtPgM.yO^b$n~*ŢISFˍ(iP5̈^ޠq5DqW~zOYv6!1;_7UgRhh8Q@i-s^˹V2jľTcWu,е<k	6bUo\s5i67H,|5%AM	x>N3)9NwY;T)X[`'+ge*+rN.ٽ@C+e}>eih6>լ3nbב;־MrrX)34?Q&N5&-$ܒiāOv͸_oU4C\?p1n}U0;(u;C{vOkL/1JJi<K`ڒ>u:axglaa8]wza+ō}=]@w=~!ڌ|yÑa{F^l:ΧI,Փ'J0 >yٺy4	zOyX!qjnIcu<^sQ]zGBeKCFVX[i+?" :cHڅsܰȲ|4:plO@B~ݪDY2Bҕ(e~DPJ_cjle=O/@<efpǖE((%wgEiY\o(*+߹ۀ15:jj3ڗ4OWlv%/&s
FSxH@q		.uǹ|U4(fL*6N(q}͍F"FCݺi\Z&@L|jEmkŋV$tZŢM<@nΌo%Z_8^=Ì3-EeoH,&\A|O2_:4z't9=4zŁNw]5oU+D<Ur6	Ƥ'`:&I~*`},ɮr0Pn&ջɲ~ΓM+͉M@Vd:~PU~g̋X V	h<'b(U'd8M=4~clkitS3Wd	NGuۃZ}7F8NdrHHB\P!'@˂,?&sy24KCx=YgWT%db!0^ZUg~j\4'!\%P?U0.OTkf-s|aitA?zLAOq|`v,̇}σC~hp[]bnrPܱFbƺ9ѵXƸ?1\QVr|R-7))C b:$moUsL)br?BQ;:RZ"6mɚÈIJ=y3sQ'S8'R|+1=ÜM:^pK ֣ìdO`5Uhz~6}lMG @a0SȾ7BPw}9w!qfB>ưIoX\ȐL˗`n1@Tr :Ǳh!E{puWrcAOG.͔+A^Q%B?{urfG~w>6[gO]39&C1@RElʮC}/֬[KnR*sݔ,?>*"o(tHٮeƴ(")qH7e"O*KySgP@'KF%ޡ_xTDE߱1qvJV˽ò_4YM@@&M?:KƎ-Ôv591as1ӰțĞױOcN/{f8BK>>'IÚjezQ'9zLi+aMd`CT<4>,'/:Csù:W@oeMwMۛ5WP?,0&PU1F{DA+ƵzGW/Z--s47Dh׊8ImQ[KuvKھw( w%jlbȕȗ){5/!t1`5IpfNe*13}\~M ˛VkȻi&m bR?M|0@u2;,8@<Rs"׼,WѐnmAL)U|53T!b&ezq70|Wm	Iu	.):86Jd+a}}-jFܑʌT19rLs,3'_IU.;rB6aj~'go]7u݀n^hiN*6yn/^OyfݗQ!̹"ejaqV4Hԭ70DW˭VhJh .Z3'"w"͑	Kkh(ɧ1-QT^BsyT3%Ѭ5A.tH~X<N>+v4 v5וs͵q;2TJqƊo.UU1ITU&ĘExUCSݏ?]g*F <P	fxK5AZVzĊGŴG+n[ǆb9qmNI8]";;{J	49[rtaNWߖWL`GѨ=Ϸ&;CHRLw<Sޱr@B\3@RPPoo-_ӑSp?kˊ!6A ΢=nfO^|4pbrAzVbȸWw6P`?=~"Adbbq~ͯ.U>Umd'e6hnL^A@1ecgȞѱDuz{!0],G[8y6$[|SpWs6B"L|/BP_2Dz2Ox$Ṳ `,d tC>W9τDJEKM3UX(g D:OgXn_ɳ-=͋ÉWlAѫ&1	cS5_}o0ęe^9vZޗQXȉP'7.Sužl+~bjC`żAc,<f%ti8{<Ƿ>Qׅb}Jf'1QcPJqSGÒȈˮ}|ax=$W[ssy͔Ѣ+/HeAz`S@1!85z@8&Z!,QC^rr̼MP1q89=}IÄ_{\/?d[|Nw}!BgOSe>J-*w׷JαnvLOnCMòeki?B%AY0bĀDˆc0ROsѩ*̰?n8@C5ՁH?W>{'":5k<x+5PBtp.vD5>*b>UX]JqtݢPeCADiH	Oԏ&ȤXZ;1WJUpFk kьK>VWIg8Ԟ_iJT{tG(uuIahz%.Y,Q^_8"AsDZwvF^݊NNwXFx1&IƌjzP	j$v0ZrRDFp![l-F~DU`w+wa/TrqmÑx[-P}!Kx9'@2;7NX%Z-1>zcb"9 U/u5@AcLDJtpM]A-(5P}OJ{gFD_i&`qБf-;Qܽ$3]p|s^n*n6 6={цp k(Z<Ըvmq`"4q[KmʜZ,TX$uq*yƯ;?ГxIh>IHj\+Mfݵ_җQo߃Vs+m!cGyyqWBs͡4|kܦa6KƼaGr2C4ty:6!N )j"+guӍry-(~Cg%ʜƺʪysd"llЗ8|X9vyYMi~dg?MQ*sW%:@Bxv׿GBWAzomuX|tɶWTz30 Bk9E@r)Z^Z}m'\}%b>.,كArˎ"z_:RSMm% jbHTHxʼpS<A'<˪ETƩƥǾ-ЉftetgSO4
ǵBy?(2wl|@R<;2!F^3%+NPUhv<k=F'=Cg|v/ׇ:\B'HRJV!;/O,+õJɵ9ʇ~+4sxH\Q2xhbRZ{Yu*RO.ds-ڧiKw?=rX֍?ކ׃d/2swOSVabUΛskxxHhYWj\ev{yj>!yeАU:kg?޹sà=΃,0PqX"ǡ:Ob&AXtjԞ%N]|M"_E֒zN@.<LWGw|K*Yy"j@Ņni΅IYoʹ\R3ou?Vߊj+7oԳS]\afw[\9|[21I[f]Ϥs7ϫۤrJIV'uM``MO8)%̄,91:^DϋFgcu9+x~kZ.H;v[iZB3B&ayMi*Yj%($F7>=kLR'N{ęS̒*И-!$oBLA ivDda<UgWCטy=40+rc0Yt4vk-oOP|fD5c!G:9ɸp9>NdxiA'w*C]Qd˜K3daOw&myP|EhLG'Y4(%&C4W?ܳ6\ż>/j`EKC@>f,Pk3,NKhw@Hy2u:BBpN4oR8_TwRg@r8.	C,zeA[Ƀ4ɐ-C5g8ka=̜X0%C0˜|jg}$:٬۩0hs$Tc+ehdNbtuAV bX V+DiLzzyHSeMu4,/Y;P@~B!F9Ci4LdKk]{A\\}ϒ}ɸNv`߿2(&܈Z<E͙9[qرhXuwdVŨ7X3wR9G{ sH>UP1r˰SUU/G<G'a~Ђ6mMI8%fF{R?g/JJQ^;0/?X׋A̳T4J_{0eUDPApCD1(l|j+dT[oOjʃxNfc?"\űT/$y\28Q܁fdʐ͑qkVɗWWxuą:yNҤP	s҆|+<}c8e1>/Bn)&0*ْP>1e}DǍ7Cf$AзO\/1uh~,Kw2}jk].f]rg7)Wi!<nx8+IҞyd+.>ؗg4W)Bl]yȰ<QYqT%6i,ؿ?bH[ı.`46U-ͅ(]yB'5xɅþ}WţU!."w`}+>{|o^H~ldj8,&W$i	n5փ%E=jf&.հjf.q	P9OXAVR{Λq{o$Ĭ4eG,ܺsR 0Ę^YmGGi!9ǁ7.*xCVHS*,SLGFiBOċXj0Tt0r_YݜGV&[9sPYū]i(g<(k-SB{8^ ZY0pk/ÏdkǶȫxzECu!~đdZ&rf"B>fS1@&ưz'w4Ɋ%C,+JS5@7Toô׳~-h~d&4AƵ̿EdeVnmK|vUiLaS@\"`KkS>W"Bo=Yr7H! 3ʓQa6yĽRDd.]%sݝƐ`^H U7Bj4foO4s>uvN8w!3KA6h{3hfge0cy͔thʮ	tUG9&Ase/gb͙(Ϸ0͡[nvƆST`!g՚$[\áv[ju]\YAk ͹A?/cǮzX$,'ˤk[o60AO'oQ^]΄jNЭ436~)b6%BY.DȦ"Ml:j+{f7xc2bWf?̋JhLsZOKx&}	r&C[LU|VG$"RQje4*CD)ٔبHU,yG͌IR Yz0^ݡN%kMq* ȡ:6d4A$>_mzPSc,eRp^"Ie}D lYÊkӤ$ӎدUl*,ӛzW]aq́oOpl|!ʿ[Fvx8hƘ\gkGuPqPH/\7V9k+s`pTo!c)ϓpX}^GwgTțGU%:>ALjTj`5fR,`Ǥ}s<hm/7:&m*G^p$$X,}>[ɫskO6$AQ,C3J2آ>RGmֳ=ǽ!n^Ԭ>QՄpBJb8z'Z[Uݤ^'3H5Y?jGF7mIti`}BL%a?FtpfAf`]+v$Q\0r6g1`$ȈaD,)O܇D2>?2mlӜnߟ0\8h)xÑclB(M5p(w;MH*SYI@CPS9`put E!k6cߒ=woueY}/̂f[3G:ҷZZ<FF<G&GwׇAÿ`EXRYWK7:;$R́ .f3*߈lZ*q|Lx'J}!\h80&@͜mˑ=M cL!	>>Wd~:_3ySmM~Dʲ	AY0pCr25[-8S{&Ʌ[.pKGzqVa>,]KB͋c7\YȩjchSKLن RjZJTۼ)Qן]te:QfQt@AH%]/(;exm^Th/C/Wi0~Ӳq3	;pu<Ӝ(foq.^ٗNbm
6~SIQbq'	pG+7؞^bHGfĬ**lɡhىZpY>[>5'9\" ub."XgĹKUOs.n[v)v 7!Vfc.1q8Gc'T:9˅6ЩWj_6֋rob̙5iZ?1YO-A|ԖyL;tvw$yFdDƻP*)T-rqrsj߃}Bj[6eĜuYd~ezWIZДn;0Ayavpbur'7EI=ojVry!Ywc-o^gX9k͠y+_ɹˎN(;_w1`bŊ}qGs~]d^Fo!=,Mj'.Pg;˽{I&g?ǰw֨)68@s9?ƜWA"~]=zZsf$Q6us[;9̞ȴ?jvau^=\͖&mT~scJi֚q[Spߦϗ;BQ?o=r@.y~ۣ5٥x6kvyȆvCθZlŞ0^Ξgwi5l*M`)@g73+]7?+"Z5E+v;/*>GUqZeO^H=Pf%v,-^aySGŇzIRS8H6p`r&[	HvX'w^46HHE6bB{6]-A, xC[jL-,2	ʡFX-R:UΞpNNBKRp˜LWk>`IrME<3H8Sއ(w^ɯU^hw"(C`4W;"Gchǹ0*/S(2OGD:49:>/nM^GƑq9c/ƃsN(>qPV%Rݺ΅II-lEo?c8d-X!rdfNǊ*O3'bWQh~S%Z^v7Tџb[SV J@߱,1%Gt0Ux6EzB`?g,4ͿG_hyF@~	.0!,:A;x$Z}[\nfq!+ԥUp8әw&0IDhsC@г8.LxU3tmZ{p,7_$&u(ɣb	9pmpd/|1xc?SyfMtYJL.xxu^Q̲m{q(tÙcm8JN6|eEU	+[*KZ.lwѡ;q\q0[iXuFOOSt:6_ߠ5h?2&iB7ŌʾVJkC*1CApؘel[i37kBiTY\6h+hY(/|ӹU; 3ղ/7M(9E@g_S;֐.]LdTRjDX[)yF5 L˂R߭S.O.d.X\n0i:aJQC,-bDݸWLc%ðhl}b |ޤբe1ÝJvzP)ּyVPΪ?~h&2N-!Pl0, JjhkZb4H'lM>|eH/Dt]E+/gԧ8(v@/B*@{7yUjejE8>eUl9SIV1dZSYe*\-l)Zs2.D{mj'Gikps%"{]B/	7MMqu</͛}8h$<aE:^j<pM^0zd_!:ţ+]CgƖ͎I6D,~hdz^qܒȻ@4EU0:)l00w~׽XIS6Zgd<n{,vQnhs%u[} O̡Fs+ZFtD͖n"@'uhLpڊ҈wujSEBޖGZϰ"5ݓW63P7n'}hJ2YzwR}dH.ji$<iX^?+^S)M!{ڌr;5`k+BN>Tq='bڐ82zu̑eBj;li{Sʬ,="͍2yI:(obHܬn?_z$Ʋ!>x܃0bXsǽ f/+0AkrW6'(Ukן)0nkKhÐ:g)uq-;dv@xi2:zL̿s6˟YA{_">LhiV-6t؟CjIIX@J~eѪQ']S%wē.ifvhm9+iW<2N6AǳO<Jؐ&q4^r*Q!YbfC;]79P)'9Lgnd`5y˿i_x0~5Z2SΕ~4<Ls+JQF4oh$$A>Y<NVcgKgXs	gtإ8,^d@iEz!tHAK-<ի$A1?ylji^I{~xTؔՂZnoTz6BSUo.cMըodwA&:*$ڏg$MȾ(Ooc3/\,ǅg)yM^D"rRĖCJԎZ1ݳl*Q\D{mn_ΘK-u\;0/Ȯ0Cd$o(ڈ4wھ]=fh!=]K~ߓ`id\XJZxҗ{"=WdovkWa H m6AF[F$-uqy0SuCf*΃Ii"4ʎuIA.[yߡ(K@bYJTBwnW[`py[؊jz׼Ue5o[9d,hfNjéD!@a]n^}c|`Ƽ\s2~[iqo^}zl`u8ȷOkxgLS{f6n<.y[v߅T{t/"DqRV`>&?[]<Hn,iۣd_9tq]Ѿ/Z%guQ*+*fiO6-8.U]nĴSNÂ̐}F1(^^qR-hJ\;Qxr Dڑ'}͊ l]Qʀz`(ɝoc"FIt;C]nĜj[RCt@t~>^h&w1B/ܙ@k^T:̙ERDif--&y5,(
&W_h9ȹ~Q4~.h_VoMQ uCi2PNeAb!_RRv:lrpToBlN0+΃9`˨ED%a9%,^\)JJ؏*{Ło%@GP!hPV).MѶGE?إ%S|@s="FKzA	p1o?{N	k"R&(7EZDV'w]B>;pw@"MyOA1҄ON+6J&;LĚ^SOp3w@46"?jһlitr*-DllanI@XuMv0Vĳ*|<ʒ>:[_?&[~vӮןSSsc	a,bJyѽkSZŃzɕM}sw9+Gu$˾|d$cVX<5)PkUZOB]f~6zuPaO|[odD	O]w7C[͕]6D)_sȚ?)-! (E;q/6/ɎY}Ěi΁2:N$%$JFJ'	kNW+M UͩD>,\B!TF҄&tjXBB@f;Tl)\}3[M<23a2;o0IҦ<ORdȓtg~?xqߏ5_"//$7d3O!"/hD1_8'Qury+fi~A2"ى*yļ%?LG&Om@ɱ1NGug-i9)4:$qɢqȅ=yG,`ՃP:OcPeaT:޼4ǯ3>[ƙuR>QFp:6jWжг,/?}\?-BܣǎU}[k'i0|(ߋe4ZTuyfkRU:l-ܯ'M	&:,a	=JZZ*|g%H]dIE۳$Άb̂G-"387ۛx&>Ve;:nޫB9ǓP5M"piz6)٣C^]@̝gKW֩UԪEDdv+s;Ċb]9Ⱦcr4aƚU\{1!2;՚hRlUNr\Q/.EdLMIUpvsk9%3xjc,|uDH4.QZ50CRE3SÃԧ~Z<RBǉCuqZKĉ\sG2((jw YPElY-kA^:Pď@;]QƆ'V&=T(@un1H|15e$GK5Bsq{OՌ)L ڼf9%Wc޻ǎԋElH}lĐGk%ԎE]TMIRhur1_cLf)s_'<J>e,V(H΅-r-UoSʊuuʱ\Ix)C(DvpEoz EK)H߃	S~NnƏ i_>AGՒwۣ)rD׵qZp`ɵeh 	e&Z6(n(I4ojVVLv\{w:?Ǫ5Gh1pr6=tЗ0(Fs^ƃ.ǁP~<q73]_kbpJ˧Mb3rnRlg`ISMjO	*'3;HePc=|;X"JoN "D7jg_S;q.bە{|Qv:DWG"k201;uô~ϯ>K(/M{ň%f)vԷ+D1Wʴap4h"J0VʕaHSphVxܺK(\:.ʔU@/*)΅K`'\,1sӂ@̳gwqrĭI&܅ʇ9EPjR'	?`ްdTț^*vIבMk:ص!;g}(k|T8ˮ[0zF|6R&9F%zQg&/	^Qʧ(];! ɪaݒʔ׌˅Q'41'2Z`qHY fdstnhUebn@Rb'j`0N<e8d?B*c)	dU9W44P.zM'"oHp~s^LEHZn\A@;FW_ĤM6D 4ux*y|Ϡs+TSCWuax|:go/8j"F@Z"uG;t/Q,TlH[Sɿ˦wQG@hk>hG84qr>~`((ud^F$_8LlfI9ފ[u-6y.\g\pWL}έX;9͌Pn>Ob5UofRђ/)ѬHXaL 4tUn	QV?`"z`35.\o[q=4IǬSQƪ}"ITxH]~z*37*=ŢI6һUN1IS?\/J.&(F!\8e5ƞr	M;6\g}_{{'$1>76*gv<yp ?'DN;b޲Ε/_Й.R6TZ6CsiS<Q&fiBދO'F3fH'IMS<Mܝ)[V{ōOJC^a$ʵVHE	F& @=\'I"bW-"3Zj:(RS(P+QJT̜%S"i(}˝0ќo~qg+z=&h޵IzJ\]vm((ݤr0Iu˼T˽=rO%έ'~@1e$ǝ۬I${|8B=^nAęca`/|Bpsy4(IV	E;Co^ܔwʏS)>Z\ߖk0TP?,fGo-gK!:%6WylhaT9x	<0C"+]D$LHxwƛmf+rYk<'Ӆ٢k3q8d4yAISHv4v!yngfӧEAF:sPŞ'ZV$bV-*wČdМJ`'{&y+&~s`T6Cز݂:rmȴgI̖nKq"XUhjSrgWRkΒZj۴7h+f8F?r=Z"SWuܰ<ķg(IS,RhոޕJNe}5Ƒͣ:(2J4=ҋ78s[J)x:)ioYb]'U94D
v3}\}tIuƕǌx_!Q`4&vԞb_i)?jt4Ȯy;=9cxCn:̖Nr ֪tdqyNܓq05a}9?-z4@ź-Uv5w!lʬM,ɕq.^J3oCgF<E\-)]@ĖY4@SV̂7@ΐD;7?vƛwz)t si94%J%?/1}(W!Ӟrx*WWܲlLоtIx	.?]qesW>z+,ˇtveU*a]ҷA\Ǣȷ`M(]/8j2\"V<H^8gF[Z>F~ɞ[sO~T|imXzPN2I2Y.K^dkguɕz^pxxjI}x59Cٓ/Tښnv>l>?5^K~LҥKd&yQ,3AėoҶQj bt	0żւ]2P.,	-@SfU3Xn9"~</'nsadEٴtщȜ,,BX -ozȢ3K\ט\8Y)uNl*~%~&˭0G	"JN;G)uD0}tO^NKcH+%!s}V7IG-[c9+*MEǥ7.oȩPW]A)%4P~%BU"YMm0-)4Äf!׆Qg!n"q8н(p7Ul[`yJ)ͶTwb;$:݀lo$h!NMCxz`Peä,1[aUmM.Mrl=!;Ȋ̦6Oߖt;qfU=T%APOp@hƖ?aBʖ@V88ظP}QTZ_W3_+ZՌE&!.(AA1	ǑVFZWڽk=x%yо{`EP~t1FLw5cېځ-cE2E,Þ	*^^5M<	Κ	b2,x%e؈-o^b{%_wnyKnGɫ$@>ˮ{<'\m1=WMg]/B̥~Dq*fx+wyh<G^hnf/ٗ1gdE%|wK5-PǡQ~uCw]ԎA[z)IWqf{KU(y,%[XQļGcA:-Rܔ%3llm&P`1Iw(ј{%!n65iU7uŠ&f!(͙OrD0x̪n<un/Etf 18J]/&3vFZv`~-?Blz)CS`Ѓb@9bJa),iJ*T9ϟ*͚vv2Lnf@_ñ[/E߷:_?RQدƴ8I,)7zVJ&ƴ߶ Gw\È~R'%WB/bS'd\[CFخ6S&,ŴQrÄ(DtzA_+$ô?֔͟T},eww~.GEWi\NXuF1%:Xe``B=ȝbz=D^hҹ`^5Ĉ<l]KTxhFLIX[>wM!|{*asKsE1+2P"k)!(Q|K'0TݽIh&*"}l?mVa\mcĬ$IfWPmiTD^:r"XR~\|ڋ$Q~-!YYq^Q!gg6nP!@^>2Mo0d7v~V>6=zRO/]VDEUT$k%}ѢdX2ܾUhяAF4<:=:xޖb7msٸS/OqEeU0x3M%WY_3iҜ[~kwKRuyQ%v~7͘|\tػ?BMx]9ZR}+u@][s6j	dd(Z+R6s\!S<G@bioQR$!Bl9Nx(jYlq.̉| m)ri;I9.OM]rRSU/ipCřRe|kE53˿t0I2C݁YXͣ;';*$[X"I	GOE|C=әn86@QNLC9R0=b׷JqzP5]C1t>Vi9eU*9QǰZPK:	'])^U|Iwzv_"2Klvˏ3]~71ݎrÝɻ5Ym|SET2!ҊtGj7Wo|'WJVݖ@mɪݓSƽƁ(&7ԡcp֯EuvrGUBԷ<A V^^S{]_}]Ӎnp]D3̏n&Km=?ngOz	qrc'͟RZs'p{!F0[k_21x(L7GjRH'rľ{{if=rv0Z!	ͷ~SNOO'L}B)ߝI_&62"Ogz?gĩWD|4\wUZ0;s7`[qk: C5	ERs{^\w-*7,_RĩyT{<	Cs06XȾӸxsel~01|JYn!H8Y&aÓl!h0IqpؠݾvrAi˵fJF{ş&%֞g=.2jRAٶ|)&=`H%r~$6@+neGd?,LRŷ.+c1_lɑ|*{i~~8*'mЇ{H7o_pAFu8"sP`iRoA(/vnCmCESŌtOULɿY)eF{@jY-R9JƓ@9ȦNr2Et;Lm֟m2BS=L!SՒK<ǆ!y(vpR8fh'k6g}/_b-o؛@@S^KIpuVFA~EyyT|d3>L$)Ŏy>[EK<tWgBaSP_\U2xa0t[)jYl<O-,˘eK@E۩5Ɯ>[B7l3.'9Pgi!S3ܘNNS2;PHt
?{V;dI1Wʺ|̷ʊ6Vö1E	g:[δjَj)'-8"y'xMUtb ,A]H̨a^7&zJhR3w&)4}gr;;kŻ~<ÀB?ϟY+(O;/Ĺ:qPŗ870v\	ÈƁvlnBTkD||dπOTksJ×SũNZ;Sr2SZG[5+Nn=Q`tAE;ɞzG]6FA. غ jI.rK$=ġ(*oU$vYʄ˿7)W{1YB/qcgaL,[)m%ccB1K{Kx*~ř!Wj/b/š׫{ŤuЌ׭kB@K;"(+CZ{`~7ouϜHLǒTMMF}*Q!@&XӣX<,>y'X=ψ`Li~Eov'luՒVuء -//ăK 	݊5~/<4o?Ԥs3[cnsŖ"M5ARw8_tQo2Cٿ~5Ōkv6@kg6Q|ɗXV2iʖ9ߎǚ{;aKgdOB ʣɿ,2CkźIQp+!NYP)?6xew̲9"S}Mɺs:N><[Z|`cv})M^cئL,]hdeá?2he n΍W}xŰSE5IFiKqH+qb7xn$QFcb$Z"F]wGQJ&KuLLܾ8מH%|c65BroF`ZQѭdjaionfB`ՠe:OۣzKwvh~GHξp]^JHd9HBg̃<. {|Bx"!aqE	-Z?ak5u97 tܘyx7JҰ$`,ݺ A62o=:p)/,ƾzD!]~^Op(BPx'"<wA-'yV=WLٚvn\^bM`EF)w^L	${+}3.΅ɋ\R]~$ʇǁׄ?.iH[OڙjOPǕܯ14YUڥ,.)ǏɧʎSv8vPIؘ34pz]ӋRsvY"Z8`>Q77o5>ʥbpYɪt!wGVOgL]6m!-KށW ^{17ʹr&3[gZCz*	%P1u,Ҕ,	lEK*l)]n}=)uC.mƺKwY3),Ih :>CVd$ǃeJe0h|h3Al4W//Ni\xOyxy&@hVDqE0+}Z:CĪ_5iJ!."KlmsS(ȑsR!1@M|Ӧ,xũk`\uezP	(:oɍ!=)rMDN?<cwuX]\N)]A|jkfԚfPrL<bYI-z6<s[3hz8EMFnjGz'fDoEJDR=6{y&DO9HKVh_hRD|zgKxz<d,M?yET"Fy}j <U՟IVi;ny2"Ng.elXѦ̔j~X,>Z*SF8>8Zռki~JkٜZytȺnJh} 7"5gn}͢=Zُm8\l~7)]F}YuP\lAv'jlrnU|+~,Em;Vbgm7IӅS>v}ߜv:Ud6uw5>DXYRkQ:[8+mHeɾ1qVaOj$dboxAj,`g}Wsk;b̒W`w-Q\",Za`i2þkͬcyzECc4qh)Ǚ+y?~GbO,b[М1b)|Z!~ KԂW|'jWiPs;Df;lw?LN4[Y\;]A1Ϥ0zh]Qƒ!Ǧq8cgEXX`plz1}=%IHNE|GͱCk$	mWh8Ǥ`~_l%3vXx3j@-w[$:F>f=OPԓWcZaGWuk*)yMģsd0Cȿ]6Z*\9̓Ŕý܄yTrvơiHxB=Hݴ}9[M*Q^>j @c.	{])Qh>ujf	Eugu^	MD[mX[:'fj[	߹9j[̈͘,pԂвF%U&2Rt3!rfF^%W.6Ij͚h+9*r"(VIdMZ<*FJNiAU$laM^1zM=>)ڬQ8B=[/BQ4p	,zSfȘ}Rc,l._nQr',p}nI5Jwx^/Fj?zCq~9dHpF&KSŃ-=ګĘ	PR-nx*pj9Rx,zm͍|V/C`4ioHE~c::l1Ams}tH,ү:*hL=1iM?0llnK~2}kDaEFJJX}lIZţ!	Œd&dk"hj@UHmVɨN[$kvn>(S6d^q^gˠbRfv@sY|{GZ~ǀk|VF|FMb tBn>dcM+ ϙ2rtwNL	^Ս`ZiI+T7	&vRߡK,	Kd}YNaKS?c%QZ-ĴSВN@[.$آ˝Av'Dj">OeZTY?J'I6EfJyV<_Vo./o~AnP*:SpZU2,EbzQ0xbs:שmْH$݁;|19=.O&y%&ˋ˛5<)[c\ѓufmWGa~/=-fJ"a<l%{GdxEYsbw>6cZJ83>ԥCrUS	qŭ3'ucߡfʞ6m`.`
j1J&s&y,a.zT5FDN9dU;0X)?4Uлdi\[i?_lNyc΁2\FQ0	OVq)D(++88a\;S&7^VzO}ûyc]TP/(׹Ʈ˿8`Bf;zðX\xf]8s%k+Z`Ji3ycFN}M+/7%}b?:&+X:=EG'y]T:o"&hIǝQx%Ih;/<iM5[{{~xhP0QD( ;ʷKAA<$H?m?6NZڰP1v,{qVe|b)ȯJJii2aO/ʳ|AaM0A=@GvMd̞Ñ{HfMmfoV*7ZK]<anƁ	C"r+}n){h4,f8HjhZRrEW[E,R+"!q~sUi)hQ.qH9ӡW[l|MOOEfU)6ze>mh\=7v̹ږװeW:,lcBrVSdKɉciq\d2UK"Rw:)(Va/I˧Zü5,)U]R{cʙ@6CĦV<$:N8E˩|7:xS|ؕ>J.8c@T'	iP8 ԶX^չA'ȭzm}j!MK@-4nofӮ^\&rG[AU	ǽaOǝŤ)p8LAI=h?Yms!Tn?6c9Z(w]-)[}~i3jfp$z]Fw`/jַZvEȶYm&N[/$Hdt5IDJ*v`Yˣrw%'?vBtcVA͹ A>B"vEޥ%C$\%N"RKȭ?CMKECAӥeV4hܙ!Q|[D~ęߤ!YW13wI;A~!|iߊ8DwGbcmƁ0IFZV)6(}7pZe[	ZsqG62rUm(˂ں{9lZw$U&pI_@t|g%)\yQ7zE4_%~|jPZ7l&0o<4ӻm8QƜѶŗ0OrDyv:u&j]z7CpZ/[&KçX_$!J:&/)͚%Hƶ-F2Z-.]"5̓l`;˭PǓDMaƉ`H_]|-Qm}j~R0*!I{6h=k!%E{Hم=ACҏk5ع)6yx<}_z%;ĤP=ה'w/8B͈lYA9MuTJڊLEF`pNPaUue$>ox3E	?8SJ Tљ,==Ǣ9:FTl6FA%|DAtCw_n_aYg!-W3x	yVG;$TLe *-i`1=Fc&'w2ZPZWXٙh8ұjq^bN>(;gq`Ʉ^pSS@\cjnIҏCخ6͵kjj˜ɩ>JSN7s-RyBXُ eaÄnpϤl.J|wĪ4U֌h7eB=SyWCi!-֠;flTLvS)3)ɰnpПa[Xӊxc5Z1wGCc5iR%R*(l)k_<Kf,oXPxW%'R-H@J&4tq$̢فr]t"DG=={ʲx2]{|P,>UHg6Lӄ[C"?I%S,]qragO<eiy'нNoKS`Q;يXdcj`d!HClYÀHy[7mL֗>h0t4sp-N]DGXnl9vx-nY]vύ~MsD//y~0y?OWa/~g	[̑`&Kf^<hޗsfÜΕe~ra3/^<}>j)Y͚{ͤ>P]ja޷6:eobFs kem@QƵ)zh.fd65IHypu&{PqfQ]Nywɳn1(g-4<ɷ8ƥT*/b`Z%pGC%G%+tGri2(:MnY٭͵Nl! :9"ty%_kYF7BRMo'u[uQv}ӎVJ/NcsDjQ0ifB:ǑT*_dts~<Gparym 	}!i?-V=Ng4fTs{"WwQP	z$-iɩCkF5PuN_k Rp?MBekݷK]ƊOĮxC8Z:Ne.S4DFrk9ZhYԱ&Wd:4ߡʝFpDOؐK8, wPT<\$*ՂR<.BHpkFcQ xbe=X=C$ѝNˋU W(5=h)Jw4M5Kw_LjaWhY˒WAnU]JHXcXFnȭ%pÏ Pjos4%q(ӑb.D!>x9\g8}|)j&8?lĮ^!n$e~gGbqrKR1_ƋZ6EyJ̈́̆LXO@Le=bqjǳTRkX)q\?giGe̓PŖM$m^$RZߡSq;=QPEȃMtY}Fw@N^'̀$Zݕ7U%1T	+O 4ۚ"'V"˖ˤsGΐEnalJ)z_P~oLrjy)&;!V8f_Qr@TaMkZgK{WղL'o/A{Dnge3WmȘw+\ƿ'45Hѩo+,JTHW40Lzkwu:wjs%rupC{R"".3_Cq5nShwLāKH ?)1HjӺB]Dy-=F0soF%@̂HHi~Cugr͒0 ޗo|Ūr`ןB<j&)S@sbNǸ'HKNĵeA|f9u>[G%+HN
nr׸/TueB.3	Smw8=L;h$طI8zV7FeOD-wmN%nPe8ua0PzlVcŎY	y-J%l>SZ:gQS/2[egAŬ/HU4dNǇ9c&~'	o?ܵ<-3R	<	:_Υ?\dt~mo2ej${H&œ\tgiB"tIʻigׄJ1QJs~ԾIoɋ5ʘrpHӴ,P(qf'Fֲ?=w!frE4yZ!ݴʢɫ>yR1+V%1xnE<4-PGņư(YEm=yǧJ7!/x{׿d-sp0H lg?&n5?Lp\,i4HSDl7B(q@ŽM5ͳf߀FwP}M'III*bB+	-*vȈ̹B*@̮E˥{ɨ,_ϏͰEO&ŻE`ѿ3DeR:>&1ɩf?jKfonjRЄEqǝ/I0YZը8%;niWStƊ $rVn}J(7hbFηY:ܯZWp)ntY=Ww=b^iљvrب684&?LF]& u^+!O^wMu7eخZ0)'̫ol:uG`=!z783:~=xtmP \=_SƜɸ5r!Ƿ(ԧYȿFt^oxκ5O(['6nS0N Cu@"k{^JPdA/KZ9ɞ0epqO'{ZQ]	[6$Lo	d\sgHUaz={L<Fe2d,k+Q*>pbCI<sѷ:!UP{'R@=$]ɹ8Gw.0hm*ȼiO!t{|^LL!>TK$wLC"7+d@_uxWPizzBY5<'<izsrPhxʃ5rucZFQr['A`KU	50ci0tîMwlSW@	g/:4֡<}(dZ>e68@0J|ʯab:g΁weP9S7JWuˮ]Vm~`o;3*ݏSN1ʶlϺ-͗ifԖD"A}-W)COOC	~PDAqxu@'^g@&AX@n~ī\rbiQ\p^'՗I֡)ΫC?s_HE>qqLY[^	210&WF+~l)S}jLpe'+"3Nʴ4c7_tuno\Б^!9LyW13s`N<V:!f4z<DZXuA0	Bu>ߦ\55Ci"U6p۟ɺc8ls%:&Næx[O>>VMޘAyT"p2Go	x^Bň`brm>@\r6$|ч$s3 CZq-MR>g]ܨwcؿK4MO]`s6:j_(l@;Pz<p??-ӽJmzmwHH0iŷ;B6BxtʪimɈ69nK^}[QCSMC`[8OUtZJ\8^wÓ_nhGê.??ܛNePL	NEGDb"u(\KHf8Tw;P}Ynn7_A[Sn`DrA>]50QӲYZ;Z?%nû/[k~f0B@r5p@tYd%f+Ќy:`!xBK!w&UIMF.),z`m{)ȐÑ6/k)vzV͞LwsGs$3nł,{$&_`V:(M<)2hѮʝqd5h`OT$E|s^%o?AMĸ_voQ֎x?260,6lPWx8KnRv&XZ!;:UF_ǲvDlBy{qG 	݀&m=q3gضxDrd"*2ؚ--ں_[`l%ͯ/c_-am|iwRFn p8voDr	tTczíħȣV7̢^"\&P0'czbB4yl(2"ݺK"Aơ(ЀF'B)D0'g[FkIP/.J"R\Vȅ'xрgW%[6҉wNUa@MFNpiG7^;YWe<DK$?_~I҅`!EjĈ${G[k'Zo7̐&-W/-uu:%Of%8Ǿ"6`ly"Ԅf\6}7V<PTR`Alk{q7/۾˻ʃB(=Z'Wdzǅmѥ=,ޜ3ŁJVR)R+`B^Ʉ]g?dpYfuwǬMGYݤ`ǪWl͕Jf-	fcYʱBјkڔʧGUx-xý=(qz ܾ-%	ʳPYi%GVnY=05Kފ1}&W$ʅ,%_,,rɎ$7B0bx)n,"q`qDztV-jQ8-Nc2t~.Uc&Fڪh/!ã}*'ZPjRNo _ `QLVZ%^`9]vz͏QG2y%j<>HرZԳ|_-'Q=۱ZiQؔZp+3^;fIu%u|K2I׈i93MGE	z.0rb=Ť+p5QwI"Ó 67!n-d:J-F=Lv.ռ'vji+WPաYƧ_hl-mp2=B"H%r6+-gk(2R<.l,ǆqD)f;Mhy.|zfI.˯RʢwsE"^8~tMlsf'ݜr`@"7*u~M\SUpǲ+RVì00\?]"Db-vlSsY.=;.bhW
;8-Ry$En5yݞt23{g׹aժܒ:dHЯQd?~B00-ȞɈf5CrmoŘVHA?mƒ0G=28Wr7S/t+΄ͭVTiTieD3N̷,4m+bA9ezq"Γ&83~MA8LF&-O6GԼm}Kк.\ϛhO.\	'DIڪqsnU7*!%Ljt.,isbqSlq_K.LJKH@@S|U+ERNc@)ts`)pùPN@$s$K,%߆809yOz͇S+	^J)]x(2-ƏKrW2D"a͉ȕT=rnCۢ8Ȅ}?3_3]d,%Τޔ	i?s'j7ږS\X"n@X̒Gfpy@0րߌzA`ų<:-2&5u0'̍noպ̬G)9]0}iQIo"!?0:OL0C[ťɵc×JP^S-PmO=qrb=jgfLP),6!ȹ/Ă9ÒAH=U`dӵ}iIo[yFį~_:pq1զ&h6Ҥ!":$~IG͝{	ѥGB5a%&9ٓ.tu8X(QgVOʇ:Å	@JY0]͌C@˒ϊ;*{hOt^1)Da8>qt9qsXgY[S·IkEZp5Ja\R7jh:{a:^WTNYce\hk`]Q0O3-lcX/.bح	FwYS9"X>Ps>{{O~:Q74C7P8ao	g{w̻gɼۗ/ZO\/IgCD\Dont?v&/V-:};\8{L97qAxs}*{'.;5^H6"O"@US?~{~!U;&lȁ:I*3R=;ФgJi ^5g1y.I=K	=Zw*{s̼"ֻډɨaUj~z-OɎ'fIIZJ8ͮ!DǊY[kWfbH2qfwlGj;ÒY(wfцL9\nni|LURbJ:'4d̹FiF^SUTlsWFhȨ=9(&$\L7LRMPb`?5Dj{[$Kk8eN,-$WEPIW9I+DQT4e3Wiϼrt?M.I&n{́uɧ(*]ȕk(}W(E] 6UK z%٨"Ţ>RHd$ݨ;ׅppX3xw׋"FcAj9oÅ[	ڗћ}gv6SXl<GhCna|:iuxWo^Gzʁ*ޖG?ɹ9%DE.Pg+vqL,E8]JW'>{Jẍ́q`_ԍE4DS39(J\akz%(A]BȟvHܮ_2K"O7)vGlOL=s@1vر0Mg+grCCWT_.}V?5_>T/]VEPkXA5Gu\@/3?l{IV~6ɁO6*Ƥcͮ0I!d,3)?C	"ڞvձ/5-XwcÂ5I&&Ӳo|3?6vM;Xe"AJ'Q!,*3wА%;{0/"X/*S'7c0E%0PBƠ_O5ɀyI/^L͚ig2*kFWOوIwLCU9S7J5çfˉ;4f|d'ł4p̯4O9;.Y>š'^V^)\P,R?	_k$wwūFE1tiNq `Q:.3~N)]ָ){2ktT/ZD<LŤ`Czqr	yC(i_kn7i/'ӅdrX0o}l]-oaJp}pi221t(bMQTTˎ2*tY)Ĕ]f]T|/DL5jB6[~pk@߾,?*DAi,ZR=5+wwz}1kC++>jN=@!ߘiP}e.T	Ы)e6n"vN_SfcfsMzz]FGwvK^įX~,HzS'mġɔHކy7ԭD('@t^w)`ͭ!Pڳ;2uh_N;xqÛIl'i?v2{g%I-;&SY3V+Te۰8ۼM,?'R7Xry,HϔwWquR	ڿ^ļ|֖G8}{n!/0߸wZ[ܣOS^j6isj'`Ê%(r7K5Z6f8|w{D?`mvlU."%l߹~NΓp"-&EuXvҢl2O{	u=-ez+u{z6B~(;74F"kÞwwQC}xiɛq/4Ȏ|@Sk!/&@SQ[`%}2s&H	ߝDD`'6{}U;_ʺpdg+VNE|]pѝh!0I&ܐ-vGνhœdh.XfL@l'VC,.O2ukfpk}ȣŖޤDݝruBEw{ODGBhҤm><)B-H'hz/C5=*ya}!5E3G"KiYog҆2Wk7Sqk-hq%A.fxiiy3vLcki3)9;0B)1sp$9Be|S(E{]˗ĝVx9ΠcI!~&Ew1/ӰB`>L<)AVWƯ-5St2eL@$ÀXqh5ՕDfFiʳ6dUw"BfAwKȕ'MلT[-OnζS$+"(&cIB$ڋw!{_2t ybG%tLJj9cZ>q9`:E;aU
y!UQo[UD&,vz/+h8vƐ$97ZyCb	S<z^*RY(>0˹J(źR?/PVȀ׫<UiVfofBaB<EV/p,XAlJ֕kș;(\>fo|ؙ[\~$|>-ױQ>زB4BuZAA\?I_ʷjhʞM7"|)Smm.\mxjo9ZgʠuZέ^aVx%I.ķftdpgφ51H݀Ā	Ap۷mG~cyM	2gTW!l-(JyA&a+ѪcnY5QͯJxM\Ȋ_(voo^̎ÑO,գ3˔BJ,۾ҁ<,N}REstΔͻr4ۘF;_^XcGe1=YRڮ/0wQy( }f5Z(adQ9FV sjڋSoe/txSM;UE2>MCgd;]TQW@^U95f=;H8xH1r)aF@5ڣHLh6V&"QX`jBԜm*zU{X|F3frCz;Umqƺȁvܥ0e}\Qm?be|MDQT	)N[I%Z)-;s3?FȈ[RݡyPɢ5J8m]m|0.Q.Zmj%X ZMtlY_skH-ٱ1gR:Q|;|oGA-TX*EZWx6*4qvN~FYk7ooziTѧ~^V;+&.xƝhNZگcAÈq!' }Iloϖ0	~"ZaLao2"'Ȅ@w	իOv?69$6&VhKtME('Gc]i$0!c>!o9a`C"8LRUb9T8B{+jl.kK1&wݫZpb8Hn8`˯f"ǈ%˻*am'ayRǕ27{dFxbbEˑ˃&kR6}WD"	Sُn4jәB!NjZE1q%S*:Ra yYz%no۩MfгWa!\,OQ"*W)vaN~ÌkvTL?PL^4OSpqdيMV<I?W 7*Ȗ\;2}HlØLo$VڶĞy&צ=eHSY;]lXEXä*~CUל=lLlKLfS?g`:CA/8d]+'?QN%`vpu̫+@&\-s\, pݣJvȞÓU׮.\<,K'$Rʅ$7fqϡ V&thW[UQtŮ"\Z	s]	Ih͞"hvĜmBw'[{yxh76&	c'vwʛ@;suu5-<-9P4`5.c3" U׎Q_Ȓ*B:pC!V&Dn4UvI;sRpԻ%ân	=%,eeʆETgmKDyZ{%$A;gy+.3BT+ǗͭQHDú5^	ހpI^W;1ޓbG4żfAm!{e 'MgLfF^Dj	r]bP;8@7slw_SXϑs0\:ELKfD=KG~X{;v~2Cxa{EWr|c7bRKD(l8w+*gߠ)9!V~_,YX2D37ã'˭b7Z2+B=ҥĵ7&J B	$ut/f1kdE%p W\S5eoDz1G;Cd*!|dO'ߛ	fOo͹[I~ܟԚ wmM);x GQU~jK2}kU*eCbB^m%?A]&%R$nL)H*/'SFˣ̩{@r<27<q[D)٧|þnW;Yp[L;+P3^ߢ(+Ʋ/DA/.Zĉ١pm]:ְX)g^w\˭jkvW{O7`o~L;h~"	)"ӷkּND(%>X5^[/8i5o4{QaկoŧӻC!Fŕ.B4-3އFQLAz.ߖNֻΊYuJGsNu!tY?Y0ӳ)@d&Ld>1$1(QV;($Udۻ~V+W'*HYƲrw+X_F5$]fДxCmWOOFG|u@<v"}iul*pb;\qnUoe5Z1(.\۲91jz&sȮmGVLXݖFD֯՛c_0\nwZUckdYu]![I`ϒUѴ'Aup\)2Iff)U5$~),!3`;oVӷr$FwFcf[_Tq*(ODrY1]ό^dkg'ىh4t( *Z<`>qf1B9mտv4<mńli\BJ'F>:~+Ѓ>-]u]kͰn:Ft8IuM>iZɎqQ;!t%4:تqhc:O2$B:29jƎڗwH@oh\Hud(Yk0רrRYSEE"ءz`,&)Ց\yR,yQvw	MP:EXt~[[yHdO+)h*ˇ^=iW`z\$.-4L[Kt+$l5}/-EVh}|e=qQњU?d56Tׅ4x|Vv !R+-`Ƈz)Tpjf;qaI5Ĺ8K"e5"@kx30CJzcv	hٜ8Y>mDk)Fjľ8Mi18/ڪ!'^ȃBBe,L3$.gc(uq>ʇBȬZj)oPbjTSԟ/b	Ʊ|S>l%};spɨOBMf"9jܭQ;Zj;,aLjR4P%CӹݖOfZA"(vy>/1G<
+3ȶMJwǉ]HghHf_%J6m%bBՀ|ě[W;H2wGf		Ɖ$>CO:Ln3]z?MCKܴ>	|8ɮj2P(2ug԰Ecp0O*fV\D%8e	5nCf3j	MXp$_,_!aOU!6z1ff|,wV7ĬО~(W̍f̢lT=]RbpsiwVacˣIur$ʯesD[YT=+&]k4Uҫj~,/qW~G163OwhӌnmK$wEG!F&_10VL7:,p}?rNӴ M<^zS|8F>5.Þ{n|E4^.ȁ:QvyE)T&<@\Q='Z]o4RcmEa>[AB:9wmQXkn2);naIN*_PE5lu	Fc	&$^-a.+DBdjT0cˈ5@əcR/Kd.r&9-Mt_X|6Dt^!LC C}M8{wF3UtY%jfv!ÜU-qW5U*@) {84&`g{vq_vSido'Rd9GІ̸FEn*-^X81?/!̅V,QѰI`aOǇ1Iqu|q+|I+Ł7	RWi=Qɚ>BX"Β_8]c5"wXsWA˄Vw4é<Nmy/$0R7dH1)xIՎ^<.z9ue8|3/Y2G2ɣyvR[E4HOkǔ4g@l)ټ^jr8RvPVٯAajLXͲ=*[7gܑ"8َ\>PPycTq_5tdȖטV -q6pWler)_.g	Fe'c%IzjrNUSâiS٬ѢkStZ.9c)k\{[&"$'u׀c̦w65Uʥڍ77dݢa(SqW1svĈl8VAcK:PB<ݮ)y-բ1kHRE5MPbAGjMӎuÁ9O{&N/5$W.ɚ4޽?Ey0t uL×\l$P)G{\LɦҠnxo|~B'9AʺTgH`W'zSCŹbo5T6ƮKrWiuɄ;ۤ,?_%K*7;hR!J1g<3`ƲYWA^M?0(\XETX{@w1OGE }TVr_o̾@̃;a%E˄:E|PHcE{nVV?2:2p !ͰC/YrVʕ^ByUcOJ2aN9i˛^E]q3Ft.N?T`]2ݐ="W90yC"}dI!Lz_Z8"%kLY["H[picjŅ(fwV1-Lr?cO̮Q܊sYUAz.:Gѩ@6QgTO4/C2,ȣ_TP<1MsPg!)awBĸQ͸ˋ_%%nf	l[4=~t))RNMu	HDd9vxdJvHӴNr"+=EQCqj*ٹ33sa5PV	ybMe5ѪZ5>_ +:Zw0987}с7m`tB9eiQ\T)̓dĥXh_9xr(:jâV,?Gg|*ekh`<KpSU!ā˜(د; wMPJ9/lf8&z-ԑPIMh|@@t}9>J(XȠI>_c old!4Z7QXQ.?"4-aƀ]GjvȉuװjS6ٝ.c`>;>vVZʶ2`?DǑ>O-4duBFo	!u	!&t*ϨVaBA7KB=^!7Qh̴~͝Pn+Ƈs}bDk{}xo˳`GA5SCa˞:fF6`ޒT+_wPcAΓ4ܺBYUvvyj3*l;[sO3xH=H(çA"i|n^Z[@.eo7qVKÝfgKı8}ÐK3nhXa5tř7A͋D6qk86sOc;ŵg-K0[E,D˝t9a<hțSZՂ-՟IY~4ܧdLV8Η<r˙kәjIDG[4(-v6[~Gq^'֮7&NYp@MȼdXZ98*1mȆɷ( "Z85٫S>+Bk*Z6;.6HD|Tnp'&Ƀg217j$_Re|aH6]1@jVтh΃vF)3׾Q2Ħ_uM2Ϣe>TҖ	5mw9++\)3i1S[}VJ0ʭ̎S+(lY8'PSLNGh>X̛ָդ0!OA<|BMc@(.`ìIĘ)}d"r8LcJm^0E4ʢؘyKT3jvM0_dֶC+Ҵ{}y?iQɀU0x3;YԐ-CJMx9$w<nǰ&4rvR_4^ԬD[&H·εRo1{ÝXݰ~ ETi280~RxNGeݯ6Z%̽%<e9V1S7Ɯ	܍U!^	f%juwdim4P  }@R%iP~s&κٗ[fE+_]kδ]NH$;=-~2t\si&_G8:{]^{;Xf/_~͔ݍUEjbVWTe].G"7Gs˂cMz%ozT6LAuտ5t؛&+P)t+k+Z;2h,xoKpMCMtǰ7t MhK D9 '1DT|6<*Ɋ" 'PyL!m%B:p:u&mWGw	+QC$-d&
9nvJ`ҽoвZS^6=.ʱqEN7\l˒"<DѺr,VM ܢh$h"}:Z0:W>yϦ3Ee[~Y޼t!x1&oG\GŤsŀPYad62)KV;߶iBJ;T0'ʰ`:ś&$"jkA%&|\*iP{8?&Tغ]O/ZAr^k^MjH;Y)(VO4S4nFWHK1AgYRf6QE{\NunToJ&Ado>K8N1^g!k̥T2 +ɮFD]A@ewibr$+<G:9087A?+E%1<Ť_(u!ebq_+/RB1:UEЕ[?dܳrؽ(9kˆ7BM]qYg[` x[T!Nƨ;{fCimݣ9=OI7Inr2_ǩVܯ"uN՟,͆)P0oW1]qpW}%GآF&K1tÉ\ϭ[AUAX:2cOPVńY̴u[4C0H+N+9++QG%r<Fk?PW,X1bDxMErwI8\ͬu `dʘOWG?UNgCmxho0_:`!,6<kO	[6ͫ^IyJhT 'h	gv5Z;m|S^}A\D0nvZW;.jNƪke8A"Y&9K;r?ijm\t,'T@ݨp.W&6zaƖ"dri{DPap\Ǯ^]Ӊ++xҚ2rP9><'}-;p]^އof}5od^Ee;Hx%,=Pyߖa/c^ɲ_S˝8I'՛ԙo> @Tk4Z^fĝzI(S)]JE&~ݼ4V><7;~.3dy[çMb(?'L͹!ݧ~mo͌_O:3'	̊[E|cGF3C^V<b]*r"t$LG}D?EU=[s6PHu>s/ʼ!|BdSL&a@T:Wc`b@7bQYM$A^Fδ <F0öp{@D)nа<~c]vi@aͰM(A\Ғ;pɑuk^RRJ{*t$0.6sx{$:_oyƯaE̭8*;4V*NdfWDۂpYlȧ!"v@Px@ǋӦsN_3olw[[)LHaFԁtX'?ÀuTnǭR,-Jzt>{5TCٲ0Ye9m9FNZuf3&g?)ZˀF_b|}e+>Q{~1>);y _pX8[<Hak{=OhY{	ғ-^v`B[9uWCA7T~Lт56_v8YȨxR2|z$ qP}'Ŭ7B'qz+e,UAvRڦF_*KW)*El!mZXk*60V8ewe)l!sߟSƔ/a͎m:bpǞT%:Rfx4Qۢ{4e̊a) S)W/kmvNE s?C^`QXReɰ٭4`&-5ӣONggw1yAMF5͟Lc1^۬=Ʌr{	nvGzP`!?iL!x(ɹyMHI30n|xJtt\^SOsiWy]xGy:3ME}yщ-%}'q:sQÛyU/yMonsbϤA8k}ʴi4S5à)Ɍ{/|ȕ̪==a?ˁ5&l"y&~UcD/.p3	>&mFR?|pC'WȽF`vFYFYN:Q	i3v0BJIwt*i77%iV;H'ș|%e7<x~X˳D'XŻOiK;-&M%|ɦիm*P+BK-2kӞRL+d\,΀",?;N/II-Y?Uf8]T!:y9kz3pM*SlS?F4	5hQt=٬*|x{07`D/Sݏx+[fQ'}wDȲ53THyx8@wVe+lG[ŘQ)Noi?~pnVʻE28ؖZˎoBEM(]Q[0\s]X*qc=@^\Z5,̙TL3zLpTc۸*ڡĲNa{Ɗ{/Xl_hH ol*Z=G4$L~kS7,0yK3q-EM`oy{;|(\&ṟ̌1Xx_p$PP:>f1E+.ZOIk$\"9TC~U+PK(v}mr}.ĶnT$i%8I6RfĦ$U|G:zo-x]o(	Nu-sѿ,~TuDa-	k'E8g+͋/>;Ԫ]ʽ{ٌa\> L`V٩lW/3ȓ!d|E0+͙uzИPTjpu}v>z28qA-?D")ӯOh(̾"CzR=CI$8l&8Mk;zԜ'I4<prs9Ʃ|8F%+'x$+vyfTrJqa]-"F)],B0u\_^܆O7HW/C$e.	uKn)nY[Θa%3zjR;Y^WJ*rvPo_-gɅYH[J2|àIlg!Js1}ۮT_NF`\ht6U]W^1!a;%y!X-t=f7-]Z`Mbx%֖Y: T%8bh%78\x;%IjRvURmkG9@Up]!Zaַ{!o&3d~R͔n%ǽy+8`y@;;տ=^aUMЯ*Rƀ&gf̘*nK6}܄5I<I:
DG |cӄL7A*QE"Ty9sdP$8d/)	9_P;Ж)(j2GLjȲ?";ul";mlк<9*K2Zfp_e6@H"5(1&)^@~fk\~{T{8yX߅l:>sA Xde;kwK{Y.?^v:r{uOA,s[rR iй&XɈmۑ]8)2`)i8k`Ҿh'oXfG'ȷn+Y- ՙ@vr.ooW \8M+<rIK);C(Sm@3Pa?B78F	*Adc5<[[bt!2HK=PT?TY(e')LZ\F{:OJ85s	}XJ̏ǭٹ	EQII>]|<`=!^hūݦ=ifׯN2cyɸӇն{'2ueo_` ,1K'Anbb>0d2ēh_`jH\Xw~y^dldF?(A.DKi^1n<I RoAk%ҳZsaP@uG[U^ґ'U&-dnJBĬۑ%PJXc*&$1@29?B)|VfOxTz>jg%ŕQ_CxwTѭz/'5O=Y*L{̱tE|KxbA	\~&Q'7x}%S>a3 *Ey}	; iVɆA98]ī̬c^:.tA&^hQR&p	Hj;̽5g<]X}!j&:\"PCOL-@EyǠ{-̀Pߔ^Ȃ(bhvyjq=AsLY;cه`/`W$maO?Z?&;[_*gimXu+Zj0˓X2t23w~ZgP{ˁ?)4.+ɦL{._>t{IzgI̱htϒ4/tӎ?nYz2sF:2]-LI*ccN;Zi$[?pdr<LxwĚn3bgef'd$+SƣBI@f{[9L}*Sʋ"3=̦9|bwtWn/HMܥNB%CXP<|lvaݺ2]ZP˯-\m`҇|?(!$wzCM_l2w+>in	`<mi1.8׸ɯ. ,+KW[ķo_rJG%>k\{*,KN7t]}o`G`WL"TRđp=pXv>c*2I"^BHP-lȯ5;MP{OӔ[5v_{GʢgU?&B70U|s1źgð2KE\˙ "oƟuOjʪ>)J מmD=xPɝ{<ZwW BMSiB\0-|`;|a\6(׋O7sܵnK[	f|+Tr/u9<>`Ũг$>1ěnG2Pigo˝@7V	r!2Ĥl\VTY^q.ښ/a:CBH5@$viDFPF*w5dqY1:;Pa@/&8m}T@6gXp|eĽRKZ4_W)TBW'OX%XFmZ83Rש2=KuI=ZM	0|'Tjzgy!ANp@!MUH My^JbWZjI{gxEK-xgԞAOg_ʝ6ndGjdW5Sԩ>cIMj3:wiǣ|l<FShWj?5*q|BҡS	9ƄS 7_[hVVc?s3	PÝ,DOd{F?9/Oy̾TRxÂFP*?Q^GB(&TNRj2SKw1+4diZcǥiAu0jHnilm2;J̅ĄFɎ*azsMSϫ5{%˂=*,ʅM01E\WJʢwozhcLI4ϝKfw/e`n:ҵKЁ]5xUe=T(MKNdƜ*F@?^Kna5Ҥ`n2oaWݐr%J	0.Ia1Ƴck6c@V1T+v5ȭu?`իKNÁfu5ܒ@~^5Mkt_Od_/o/t^;cGFVqK@̀	)`(Si	K8+%";%U=9)i+ϑ)(}E*K]LO'a^XA[Ʀ[͌?S1N^s\}ʃol7צ'3k|S~$S5EYǀlz,\ȱ$ܡOLъhzQ.lMNY}1oN<G"˶Ȋ8]+f>lLgCQA^Ŕ2j/u˟+UU*Ͻw l:fGC0e"S%\Dm[.tp%"A*3WU*4λ7tn5v,C?}..!);O+m'YEq2nƁIWڱ+v@6v=$3gEގ$Zī"|]jwV691C)G8[ɮ;q)MOjP̨T &_KMĄ &Q.z$>[tô|*zщ-+Xd-MEI܂gY>GW~>_ґAs̽Xj8w{1i<}Y@^3)$_sGG[vgaظ-phv>mn;HzW:(kז9SDVi͠!M0ԂzghʶhVTqjiʮ;k٦_uUmn;qm.*)=k1<9.޹Τ*cCnL;ZKjOM	i1OYq'֟l31ɢQD<>K'M|A0bXvG.\G'tu`EdID"Mv@òOD8MCJbl&/<bHU{ȡ~t-IUi^<)mgHOudOƿt1Musӄo(An()HǯL1\Qa!1lŁ-aA_'\gO/S4/BPAUU8adD?iQqk'
ǖV%=.ZB+QN%[6~ޣxmuc˰xhYegzkP^iOʫGxX<zrًSuԛZxz<3y?pî`m&_gd]OaFùe'k@ޗ5.G٦\RHs^PPY W$%<~O{*t$R8,_}"LIQVf&8>9?[s1.UQC)*GK4DY+5QrNU9QyyԘeHrO]Clo_96Mվ}{u(GnA٧.G$v,'jevW9>R/s'vfK8tXf2<p/XGT@:YJ/ͷlLjESqWA!'ćǀm6IcT_Hif':%~"q	9{iH`%h}n&2Ͷȹv(MY([oN5`?_If	hKӷd5dWbv QeIYN3G0~O<þ]&΄X	N"uvنQ"c{5MLxm!KLO8]ֳ+[d3iY-)I=Eҹt[3ɤSj $͂.CZ.|ƴ7`_ҺWV!0tH=)xUo5"ʏ%'hA4n.EuK)Ar6ˍ<ܾ<9,)^}lc1äY6O:_ۏ"mO/ơ"b>z=|@ίn%eAœT0Zm$)l{?υZkqwy`xFE'|5_E(4w\Ev+@q7Dv_82ި^CntɻbZ՚RWdfDӑu0o0a%35ȹC̠L٭1cA([eK(:/aװXS)4G-xm(X|3Ֆ0RtRtyȍӕPo&pW2aOZnez[2s4wH>".3htYq++q$rgQ>G. C'.r{3hQ!Ʋyr)Rw*BӇ̅dv;Zq.U9t0FI>f,$Gs.v@Ց@%ޅʗÓǗy%Q.0	MU/I.Ae{oIz2Q'(J(|i%7s=(0z^ok-&ɃT/Ry0M֢YBؐ̎^KMǺՖ@Ն3'ŗŦwlb-̴Cٕi.DE5b9ǶGtz&ŕ*kv0@Dyf:oؚh?"oH^Ps$)ί'$-Z<7HEy/gեl9lr"̅Ks`8FC8[[AU "G_tgkvR"kIm6|X-%-a"kں{V*7"R:O'׏0Čj_twUAHp-"kQuǲCͺ1r2<NӍѸ*mˮeI\Diѵ\~.'`o̞܇[^֤\?bvKq?}9ؽAS.Cq$vlPǉ%\*NĕUģ/Z x߫lz*EqjƏdj:LȦG`&9EZc=Yc}Mq-F	)gЂT*8؎ݏI,aG5mbrǀ(PKd,CHxpʬhw=_1*hX%iKB.7??:VFUtׇ54")y9:*]ŗlM$һ`&a(Ճ_A{WChY+z	,\Mxò)>Cz:Z΀P;|ijJ @wGrPԕB+|~Ʒ% g6GR]y[4ȱc0tU$>I%Xn,+Ƌ3:NCш۫o&˭m3 ]g(=<;F>7~Mf>7RBNa;lWWŪͨyfE~(RA}1n'C@hIb>~סs0ZLTjmxGtHkN$D7zWy~[!.->ԓ]ĆUBB+`4dO7h:Ǯq+SO"Eȓ\KvL8?'i<"{xˢ[3s!(G.ubmя9}9hq;@"B}łw@CK7bD:\>oZ18ObљbWЫ	ى0KѢL6~@;79̽DP;*0ަ<bK[/X|NFg_A	rdnw*_(Fwc!Lhש%lI7iMڛcY_\ZjP\OzچS7 }:Eq.pKxE Oe	A"!СyA]<Ҷ4uOvÎڂo\5M'}\P/?@Xub6b2c	pruoԢǾϨ3'6Ą:~gKȷ1Ş\4gX\:H8Gxl}!Y<RRB;}4~'^%!_-*VŲ>Et|HWQJFۊ8wq\Yu?`E~Qiɳ)7>*6|7k+O\</";*3)7Uk:;AQI[ъֶgrK%h7ް+]G	Ϛ.a!L\/y&Ǆ0Z||qJw"C6FBgѫyE>JMw'Kw:և8|:Ig3NGolgl^|SB&Uk؋_eUZz!00 ~SHgGxXx>q=2TŊo?2)]$ALsr&[=k}|[OWx'%`SC,ݕLj'̽Yʴ$ȦۯMPm(̀l?ɷM JqcLbe]i`6iJ6dg9u/HÔ3Lpzz72[̮{D:^E-<b_ݪ%no^wEJ`|VȰuf%MS4HiN{ 'ba˃Kyn 1<*svc)2oh+-YtCDŴ!6:0F݃v1;I1O)VDCO/+v&QGǽakA9I V_Xl	n3nE{liEf@&runfY$nܱ~v%buʣل1;!ƛ܁z)2?+xT~XZ}N	o7Y{
ƽ&)e,)ČmYMW	4zd>	vZǑ@(}3)(K2&Tq$_:uEʊY|Xd̑%D@H+Q.9^6	_:"NsTƺ	X^E)c"B;QMd--nzGIԐ%ֺQ?PKUA'J.Kp)phS'=ٜ<J|7$ 2"r"*DX [6SCa=}7wRZȍ%X$ihc?AWR-4|Ab}_	Zb48{N]PrJ!@@قôZ*ւkpuzW%`L/gv<px$f:jXG{V):Nbsm^ҟ]S`"vL~͡j5v0s*םY,mEN;hѢ9{81lpˋZw?Y ɄRHH22b Men]LzRl@ABirt=Y1T?[`͌d7.n4RʶfY}ľG&]tH UPE>>{N}4wFRt.vdϐԺm~!,X5AgE0r1ś?xu-({6Y(֦ɫըj	a+nD>B^~T;]f!VLwPCN=Ϛk{! 3(tf'.lDo<uWWζyT]_"<ƿoj߅/.p^g0wvhrƥB,]1qMGf{:V/;\zOr9mv+e W>4v1EsS8ORk,PQAWtω8V"Y8Wk&A[zɂ@<ݸjfB1QA{]SOsc6x۪@7cz{oY0UlFzQ0K^Y Çp;rk̏0RлYΏW"MB.J!Š	B!y1v52w\Ӟ:.ƲfI/{HUү96!ovT/]24A<_blj0ME<ؒ1U\P	slB<'SmXʪQ*d3?̐VYˈ+@hF5Sh)Ņ7Iۺ|9o̥T9JJp8w"?+|g;z6FKdAk8qrǩVC\D).d͔u4J4Z;ܤB0c:O9FċlU"Xw=|/U+A]!n`1r?j`EX.23)ڱ=b$`˷^i$jV2q=)F[5z`WV̭]%I~܆̑:^_:(kg<=[kTy^jw:NT1tƵ>w,=Tc,r܀\p%ppɌ+[wIc`g=؎ld/DHpB6&X\gb279W@Q,eǊ X|ֻoFۄ]o7=/ݻ&+4|͕!!"LzaAbj&`:[ufH5X89oGl(BGΒ!z1?-wfTZiYZJSC63VϔαYA`BsܛI8{*-rQ^D3mƇrlhmG:pVCF|K`uú/Sɺ7Y˽12NkAp(e.+8!qvJKճeEfӟhW^9<{)lt3I/_vWݾvM"=.}8H7Aûj(d_	fYd͙T [|C"͈Cb;[?ZB8_;sG^kx`ckhl,_3`G6c):nr!-w\!-@Li9^02õ>M`L:J,x.ݾXW]۴RH2NN2Uj=%Jo\9eHPz^V4Φ2i<3Jin+9}Ojg֗́_%:gYsZ{s6>ϱyuK`&ݎ)?ڮsmͿV*t(ҶT8^FI h8nKMiÆef?܁1/!CqE2dALYPU"ӀN=cJwxipD,7G=$vMD|p(@ey3*5Ճ_^}O7O~P\v<S"5-cظp.cS1,hCތ3G`-RVpq'ݴ|wY*LE&08<þЅŸ(Ɇ/JƘy@a͆P'M5?ǚ5KH30J}Xsʂn4dR[њP\AjXBa756K2\y/ҠTyL)˳YI)/ch7gCQ7OJi9SG(G;MK}6z7DCй!sOƢwIuMqCyj&?HmU:{KOB?(H9٩aR8&Z>w("IJq&}JòXI0i:yYԷ7`Y~/nťZפ|7|QkŻYT3HpD$\͓քȭMtr<2CdrdXƣF>E̕աݶLMMe'W	^XmF9%Ǭ-)LȺp=X|0QslMC_}Qw}O7/ЉCzM*GʡNiXrŖe)^In+zmo~Br۷OCP_'2D=Ҿћ	̶R,ΏLԲqp͝}$ŚkQ"\\7Xh?R/b,0:3|	lk_J˕~9P"hy)ZPC%5hѤx0L?09MpۅxWЪ=šA,}\r|3أ)|_L DQ:۵-=u[[,<Alw0-9E]/wӰ6!O%Z&%1Zm3s>L@tTǖMѥ@eaPʋYR4НoI`@l,Z!EN*r\4IC},L=W+>5d>p2ʲtϩ7}2V\ǈʪRYpq^yM)6gqrw̗%J>|4YCצ/u^~G+Yrvr&`[Bً~SV|%JHk->Ij'M5^=$/R;v[+7H˃P3>ja4``[Qc"[nUQd.J[8F6M<=i3`z׭EVM}7{
n^5BvF=ׁjבz^90ʹ7	Zpj:<;ɩt'7B)-kcfXhS5-`N9ڬFTqZڤna? o-̃/F1|6k*ш[!;eոuW0âCn1%CU "?|c+-tʵ2Wų[CֆHBɖ&<i"c@}*3|[V[,U1a(̄ٛx9+9Ley-MMw!%-SfǣVC|q6  P|%->DA}XHg-+pL̼Cr\<?0*.)ujDșEgILRFXiBx&{Ok6oEռ*=U/5@jBn*τEŏ(T@	.,kGxm_05"$7p@&XKԸyo*φ,V^V:SJ@/Jtѝ?mflD_,]ɗpR1ȀkdU^yrGxF_[~c@Ɲ</?S"LHoa^.<̼}шʼ;s`c"6L&e*`kaRAE9kV	2cTL[`	{(k92,v-n]Iʄ1NKz&/V0phkU3AJK!S0~@:R-Q0ɚG:XX=:"4^Umff@{_ɂ7Èip^CXhC9;<0nvITquy~%%.f8Ȉ*[!;	r,xrw\ H֗Ùʌ0&\.jΥ|ͰOV`=;eSþ^?~CȖ02seGwҐeETa"awuu,OvMS20&N:PBVD@tЊF}ӗV\35EqU?AO]0:{9ΓS@Pc\8.7-vʛGqfW<CLfK1(ǹ\	Tl9ԂXyT>Yt΄ʶօMGWy gEF9EHZ*y*VJǢ9ML @UN]{kԢC^x<nVh[W&{M`[;˛R@VY;NH~ʳ!"0?G}q6:ȫt4 lswWP'9H?o:iI5sU*!p)Z="g f>XH~{/	òOչӮǿg7XII{V|S6:_iUFISZ:z6fad(aZ\kdO	ѹw)'<}7+ΔxP0g5hLH'`J2ef̰g+pz_ơNpo2@MBSGn՞'v˔T}+Q?&6> jPtm@h.jrO1AUeŞ1ZyU]P%tN't;ֲ6t$dzB\!vGg<oǦgS^('}rPXNN{.Pl?i<lBԁK;ap*Lu0T7:-~^q/Z/b5>c;F4s̱u_i3Ƒ8TtSQMېįuʨ!8&QzU:U<K;mG]K>uPǫ)+vҡM)]lRgc=98ɱ!Oh9Ʌ*;pQAʪl/C2GA- @LSQU7KĆ!(lL_m(40Oaiܢg}'Jt`%ˇQ;wcʇLރ{{$J""ߺOG	-rNݵ/Inɋ9t&Ou&gpƨm'*waJηЧa;M2f<F7~̏qC @$CXƔJ4ià++cOb{D,R@}317`cQKuia[w"PQ۲,yliH	Yn>cjyY_Vg`ު_]pÀfSCN"9̏FgT}v !tmg8y|0@ͲլDvD.*^ug~aj}hw݁He>\I>.u݉kT~Vd4uүE"˺+8U@.lRNzL"	8udB |}(ORoMȳ%UOL\]ԡMome8	$tWܚNת4ŭ"Iugn<ӴՖGwu5iǟ>VV)ƿ`M.X_AB0؊8o]إ?EezɅ>ͅ{	Oh}si4\\""4}J9^&qלIe+PatTvm_u(Ŭ(s^w;d~hr`Ax<$2Ud>jK{&l@9G29kc=Qh%sMitѲB9!Ux9z.KCyr(Dō+7<?,A+Ψh>>Q̕kw.b+lO3ʻEgTX5 MKyASu˾h30ymOȟ\ZFfż/uD)RIUk:%+.QI<DJu)2dfăaZIK-J6^UA Awxe3@N*+Rfڴ~A8lRO*3iԟD,=B>uO!,(o&7T)i:!c4}iaSO6Hd)%/ۈiČr45/Q)JOkl>[VxNT3_>yZcG2j~XխSë54ivʬ9qR0K(bd7B)*~1^%CE	8&݊7}]8!~zˬfmm5swHOJȂE̐:@p57,		<`gx{W>`qEFv'\aW=A?h6hY3ZƨaE0<gD	SGs\)ǯ_A<[,3'Pxu|]1q[̣||qگ~v`;:\pp2ɤDAo̾e8"N=z'TaG7W.ŹAMl%T~*ѩլI~n@f[ƙ7QFCsNPȤ/x3˲s.G:5	j+,pzb=NBV\YŦTulpxlv4ślb|ϛy:T9	<{cZ4N)cͽǁ)|p_u6)}s8a
IkUR%9SVp1G!ߺS+|L"!1z6qөrta1*gS>CףL׻(ƖW)wk"1zbҖ0hܶ;YG`IqëQqĻXǭRyE$-UNj\&3:]Vvba~iaJWʘjq[,.PUТ	^&_p='9'e/Љ6=~}fMa'|FHXVIxw`WāsDܨ\nweQ.u.fc{JA0RQlUWKƀ"S5	ON*ͼ(]^:tNǼkʉ^8{kܑy^5-3_ujiIfi{@Bp_Kppw$'QwPUdu'+Ɉ}[%D{Ȗs^gNR|[ʰoƤymet!&b4Pхr32Hľ*pXS<:F^ÑfzUQ}$RÁ~ɷ&Z|l{HCQNB/(N=U1'PNĊ@s`DǪ<L_aǸ?օ 39gBqtiKʬAA@	Hm[}Kt9/HK+8')ǧ&-A!Iws7B>y_|HOtvM~br܋oS_zS<Ò> !DMaIr,UMQsB+@)E  `&/fk:MNԌ75VxE~ئdcD_Ŵ+;OUDȅjy-Z:&C0дYKbv1^UQ_fާuDhnKO3AdA&fɜ'C=Тiaɛ\@WXQc؊;.fÑ-C`G@wi[0UDLegf_XmS<UlVo\1}7ؓW]^X'6ЫъpY%rehZaG?m_{@ƮqO'Cy^B[àrjDZİytU'.O9J/_C':5['AB`H͆.~Lk٧\XBr:fR-'E`NEg/T1lXo _18-ǫBNxBH47U|iK	0SldmDZ7A]E9 cx^qMǺ&|~S1LIgbIOUf	^OgäRPiv`*[E9k$Ȭberӷu/CIjmd| څ&Ϭ!]ߐĻO(N iMP?WOʤ&Đ9(p_>^ŕ^$j}b.LWkd:_4Lؿ>ɏŋ	&D0Uʥ~=gGL֭6Òu6DdV%NRAW>"/&'2elNK|-+ąBmO+9Y۫gWȂ23Wd%WkaeE+k6B3&qQWF oKwlpt030Lbt"qgS=de!K˳= AݥqeYbdHrhG(}g	ʮOAn[Ru,Y8h}Ksb"Xp`Ow)mͲE[	&J~O{vaz~'Xwm>52(ϷR,-ZR>kĕE o̪31msșI.10)tAOeUSF.;671Zsh8%t	a,Kki^cC^=Tfh!AyAYCŤ@%CY_NhlilhD5vѴwp֊:q	|ûK;vji?<.<;u07Ee3]sGImm)ԃV<(=dO=ZNEXk%/l%Cp<QUbOeyA6s!y	yڔ1xrq{,2Jpe-&VU|ozFmťx8m>OVDE,gmUU8P{Ț9s||t]Lo;|d |+E56.cn7P\$̡4Rc^^?&gYri.~u!DIIWi{0ˣbؐkK)G%Y2K`B6XYsԢoNK1(?u.?$AH>oʎ9StBŔ0B9QW=<Jwҹ>*8FEeҕ2Kވ]|}iy@P6%?Z9xÁKá~m"_hԾ,~ndXNn@ܚpW&Zʪ<2] $9b;;}f̂5ʅΡM%VePe/WPEf5\|Yq<0SlÍ%2oZ/sުhP?6ǢU/Y~gJ=ax(Dc@p%w%sli* I؈[7FI(cY{wd'݁ /pB1(S(-;1@sSFݴ{@Zڦ9I;wO-55R{-ؖOB!Q	tr]772T,t}'[m>̥'$j[{wE$EeE1?4W+8qZKR@kSaǽ`iz`ـGl5CWʡ-crɮ6a7V׆I@P)Kd/b^|'xOӊĝnʂЧ|>	S*؛%Ͼbo9oK80b5"/ͬG.L*\XWQJb15bwU$.9d[<ϬP'E]=3j,b_nh*ăXfu978Hen>K޵tΏ5VɎ3GA(A[&ϧsڝKƼTBPֹ06p`Vbq1Yh8U@ưH3?^:fщJq[]Q!4MsǶimC"A^mREZR69l~X=oGpXezxGp&0ӊwc Wˣ}hX5p-a$$eVB4@1{(Bc{w}~'bqKvZ]zW(16yzv =VM!b9jW)pזEIu`?L r2-cLݛE?1Ɩ<2hltZޠ*UJbC	Nh5_5v,c7XKo]?c_M$t~lj7Zr߭Vq*	=R?g/c';>ܓi[wv'Ŭo8WۂXdc?,R	!&
dbPˀ--8ĵ{Ň1,c<-Zf3K?PgG7L2Y}7n4x.+O3OI.cʯu!85̡@XSG8y[fǮ"$^a%lD wHi;8P^@ôKr(bE][xIj$&5mFgc9x`sm'2zĤϰôyN|cE9-nĤ]Eq@ɨ>>M?]tD%*,Op.0Od7/2tCLb6ʮ1О?\jVU|ŇRuҫ2%NghrHՂd<&Р*@a*nO^h*2ÔМpdK%r}Dj	Lٖ8pPfļ3&ˋø,s1B-ӓAhSI@'ZқcEb V.1&_GehwYZF8HUfʕa&$b/ʠ9Xny|e6	s{8Ʊ7Zfa8%|70_^2ςV 0JVzU%IB}MRUe=f/YjżQ12V| %+*Y+dFA,ϴ*wdXX]wMǆ(N2,Jtޅ3qy"y`>T0ϏeJMM02dΰ	0Aw|8]vMEK!mDEuX34tW)&vUwghQR?c.&ÃPd"?)(-=nX55`>iep9vM>ZQŨJ֣Ţ('0`fGԱKC'_VCZH0zUI) n:_"eWFGD@!Yj"ӈ]ը?pbtCraXUɹB:oȸVŻ@)ȹG{l`0='l͒b%JC 6;Va*B2ȊЩkIzM%j5tŦSٸ+F:CɦGƠȇvPyޣ[/3<NVljt MmOwIϾ-	o7^^əf-*41]<cBc0ED'Ƣ^\M^@3f=//wsT2~MrΫbrVN1UЎY36Z*Sbs%'דĝH?u(]qT+Oɢ-v|~cTX8ׇ(h-ԬQ!<eLNnYclyqto={pq;kaI*M);>jǟuܓH.bːđ";=UNd $zS}níx:ك)oX(޽[NhU'%}5jo7ūM\nq\΅Q"d92!_ɯ+ľT)7W͌gԇm[SЗ[~W"UnW\(o1 j,zއ<GtMʱ:>JЯ/ʧ:+Ձ@}~7lm}D6ʢ{iO͢Rv]JtoM+=ۿZViQ: ٌ.!np$MmG~[lISvKr|fXm-ɑ>)	h+X5tݙm)b2-+Έr\5Mp6fϽDhWHv? T,WVW)-ōZpAT 0nV׌j@D%Jy'7Tjƽ(u:T2ʹC}E~^hf[PcMBZĄk y<MPTȶZś>Z|ɽ$VBC 1{lےZEU\*HDs/!L9m(\CyY~5d8^]/{7R2^8Ѣ!ǃe;*npGU.XunݣF˩>l(^BѫD \%.G'oS@7,e1P(r>ӑ(ʈ,qz)rCçи$ZjfmȻsw%4ZѲv96{/3ɜ+%Ԧ+/2{`1q<+TC?']IЬ4fvACaRnAedW'eCÀ@83ޠvÝ;c;})U&Rǟ5;z93 uɫ˥~FH_5ߎN&P}&\cAX/gPLךB_T"lp3+Q9K?)DP:38z'^a~XMЗw*{oݳ`8EP,-nX0QVn%үqu)Sm|! QS^=20RB{̎a]mD=paUxK775}J!kQJ{TNpÕ%lȅ-W.vvg$/'\,v.kvq6o_.v27j?ܶ\Oj"-Q(ѳDV٬ǺkqUJ2{/Cd)lUq-Q@2B)+bPYN+|>&xJ[;I?daWPQ_29?,0fXbԵN}oq Zf-\sOs&$qb!S^ pzU0b{bCyV"R<) [b0JHٛ:ӮέOJ݀?uUtM3y5zRDQPS@?$RaB7oMLk$>ͧdИ	,21;n0jWnX˳EqIetZ,<Zuַ	nq89HH\72'cNJ%T]z-s[%O;%v1߆o[ޢ[	En">R7޼O$̄uYL(8خ[bdnUD}bsimDb.HNi[fst\EpO1g߄4WxCȰ̶zLw/k;h8kQ8u{V`K!W=kBHDL	nA^p6_8"bݨq͉HjrA*G&JVRfoy9{l4)@;[,vk8nG<{ǧq^fDŌQB2o$9$tW	;f0wB\D<WqݛDR=I~n3)?@!g"4^&	\!D84*mxGi)SʆIڙ	CwZ/EJw.;:@pvCZɋx*r~;=@>ɝ:d}g'c˕S4ߓtz1a@U$BԤQd]OeZ[U6dA'hC|lf$|{Qk6I}|[.%OW̺t4<<S2eD1͠+i:xIcĐ=il$|׾j0ʮa[!S_NarS9M&aH["
 (ڹehqr˰c8FE2$"J-{MB!7.H|*@igA$e6UhXykD7IԪ+}$ gТՉ&Ɇcf)=&s@ۻ؝ZYyuDʣvHûVk0o-{eKDJg9N`ijyoCcoMf" {;BIlqM`1=8*'z01 !M	x1{,)UQnn-2+[uQTbܻP;.}pT_{L BU`TuoSZn"gxDC2׎/@)uK7:zfdY&~:h\X`z{ל"L+Xvt[,\qfB6k)*M+mrTiØAWe_t̖(9D	}.\W0(c7kA@wK@ݼt{A,IRأ)<89(Jk>su(5k_EƓ Myɢ{ڻ<GDo(`ۙdMnfHV5\%taș,ҥkcBle_	Y2$ ̟YS,,R/ʽw+~"T\VS-wʀRl8LWPdsJM	pD'D)<S،KXz?`gpwg0?=aW{xPQP $P"ԃ0`~6_ko>ACU/hNgR{O/ԆLY{ȷs6ۿHgAVײ/6ˤ"<4Dv?i^8Ƭ<ZΔoΐuRʜHiKy.2| iZW^)x IK"3ΫbV~@vߔ_F0K;Ql'ܧo>UYLAv"x/ok\mŦedEŤSjoRfK_CDK|"^tX"E++ʏ:?SDbxl%	;	.&S4-Bs)mE^ot2N`<,g1˫raw%+TNʄF!rT.qCz ]*8R&csjhkPzwYH:US.H}Gâo{S9i6r8 F[:T._8D)ʄ'Y̮_˺ko:C9ފ8ޞ~Jŏ4KF.(w={ o~iF*x9'1r׮ܓ"QڇjFc\aͶ;ig!fUpI]=_M,RvD!,b=i!JbOpâ5O'&$$,Ay {ߞ5F'F>̃<|l%mҔl9ƛPMtU>xI%MRb01BnSW<cxbH;\0ToV_g*:U	qV^^k}<ɇõM7~&JJo>J\&:~VUJwiUL6/[Tsr;"V`ܷ:RCɡZ-1w_ã_;'Em[w{!z	``eab*Iū}~"%s-2u@<?;n6N[U]ɼ%Tpm̯>Wl|m'z=8F)	+KkjWժ5x5v5Iη4eq-:V5k+R*vB{hs+݃H0p3tBXJ02^GTg3BnTȚL|փD.10W6@.a.i';P9`Iƌf Npl|yѸEcr:d>	ǁICKT6Oʠ6݊vr":9fK5x0NOá6TYn%ua >SK-+t.nz@_"2qQVNW;GpRT9LtUqpihiȔm0bQP;Fy?jzEr(doT1?j"l"įoÖE8LhMr[q`Xpccy!n;c\t<ypI1On4%6|юeyT+J;}b_8S*Jر04p^P]d,O];;:"\ZK'} F8NxĜ(g,4UL&7B^41h"=:%HIǛN"Y8?-(wiBŪNцg&*_qlq6)2X4ͣbrcJf[DBb-mJ^Ym˽=TsW"7ͱŷ{ɉ<s'Q>3GOJnEXBq~"Th̾>wRģրPU!WuNh8B\(H)ƚ9'S(*5cAlK\I?&WLYp$IZӣ6Z>!͇Ŋ2d2iò4mG֥>!s@*Gvn%ӷ	AsHkO'bBho`4D"۠b2L)x>=y!)=4A@DZ~Un>74]Ň6(dd|8[@Sbqan1X֐ϓ̦P̓M^FԚgZ\_b^^IftuDq?oPhI{"wjMP/M"Aildz?=&njNHcJ_vTG	*D7]^^{Y׈r(viʄbJ@!D,:ȄfX"lG'zNSɹku{w0]E>TozH"H *9pǅG^.]-PXlen	.>qjM/-so8G[9Y!Ǭr\:%R5-l\̈́[?qU"<sXiVrՌP`Z1sYvYaXOlo_~s	P[2IAOn-ȣ2^r\pĐ;6<M_9*	aj_@I@b<PC"G]W4Q5Ⱦ6Ȱz% szuGA!M%ǳKUbr;Xt[%>{,e&V@/V`*<U3EH|>2V'_S`bv3%X!FLAOΦD6/EhA~A'\ 6uDOF(vG`T7otûOpdgdR=(Öߠn~ OfFoeOACW<oD'Mqq_%K:p/w"LU=ZҞ3Wʖ7o5wQU@
cw7oUoiEjDv;m Wyh<1OEq*ǀ29M>adRp9޽.7	Pw<EZۙ_T}LBy9OD26m[2NQÂ;ok@CP,-f	'f*7Em0Jd2;H"^KDƓ=>ZYr=teK'+pyU%PYL,!b(1$.RH2}QKsTbW|{*~ɢtl>r,RZM	U*}qHR`B$?FޑۧBV\>60}J^W^ƑXvg5[&p!H"MEMZӻ0;?PGj)[j[jl"4B>+P?eơڳ}gP"BY_0$ȆD6}_R);D1OGDK/g~٘Z@%z}pykNƛ?z=۞ߚ.^$gX]ji9+qك-̮\̘(NXq<rS[LXǞA,VVV.RAr I:eˆː~;j71ױfX۳9.ܲܦ9r$J	JW1E΢wYˡ_^h$"Ʉ<_ҁYq_7u$rBST	li:+3ٜ'?]8+2þY,_Ĳnsɵܗsbpʫ6LҨz5`zdYwqY)m8*d5rrT$qiZ\hl/OawQdvv3d(`ջJAu[P^$f1Cߦž޵hH85!A~r<ӘsgV`cv-Dt\/ߙA$e˲z(1"Pc\Skx~ۼ$41-0zxo(%>M:_^9t.cWuOhl@.|.u1f1ZҕI_?0E{6X+J{WKua]-oR]~8F&Ou2AMk!~SO683ފ]0gk8ajY94N2RƉMq"W}Jm,J1K/ݒo/3	֧uh8g!ӹ`̙*<([&t~uʄ(BEǦx2A]8K(dmNVI0.1enS9!C\.NLYe-%íx5',ˏA(O['}u1taOg(Eq3X=i5lIƦCKҔIGkDP|BZ jY=}\E-lġ"j`ȣ	UNY:X*onvphñehN?sqO@UޏBjv,\{]w.h/v:Ԉ/Zb'_Pد!azRhRE^Țe|t(Wk_B.j&3B%~\[ߍF2Q8@2ue7'bu@/Q&Ut$Aq"9^uǭI<[_GW)BٯY;N]U-.Ɵơ++?9zz)y̒`	8|ynZr06d791.8U\P$HCGg(w.'	Ma_&`72&V. U$_V؛ɉrђ)!-)N?QF@`|\xfU~S*ԼG|DibmpowP)mY>/RS~(mm-zJnHGgNTSh:hvtwP4/jsJ:A)JpǤ3iNtz<NT<0b]LJɣMthsTC?<y˭J?'Ex(GHڠ|J7&k*\4{}	H<%,Ԍ$׬Si-WuՀV$%TmǼ6d RHGǞ{Ⱦ;Nu{;.GMyu]l߲h İɱy0=xݼ(>$ÿz%bLQ:.ojtjl`zie3Dd͠Yo=sOo)B0w:bL/z)EY]}TITo6SpcƋ-:MَɋСr`+=ǃ5>Bm^} :sYȃQmŲoyɱsjVW)	(diVp`gjBYgtygp9ò0`n]RM""`4Zq93<Hpu*DXZPʐ;`67;'L.Cjaĭh7Z&MK~5otyKͧ:bn;ejWx<=s$U/Ɣ~EUjj	L~SM|4~˚/q7:̶ù۲!Om(*PhuڴCr5;^p]xcaQc2[y%raCr2%3GXczq>0Kgax)P,>6["BCÚU:nr}'/88a,~Ĭ-ΏƑ6${wHY*>z[ԍ	fi62q͜yրnPI{`0387T]oSiXKku6)?mIlt/9t3TV/(l>oN>*.Uhxr?DmXe!_1ףxZbٶ=T.joIN:;+4Ӡ|Y2{7DqGpte}E:e2Ff[qUcY=Fzp'Y/JH:s6 mGpdN6]'=ڕiejr7FSsXxx6:U-|H|Z	'x);%Ut_]OTDUyM%< _D{gWshJHK	b@Kyr%ph,-QT;8:rQwywxЂk6%;JNWkgқ`)E^wo`	]QEh?1<`Tad^qMїRjIN\ݗ&4N f:ozeR0D}9|,\Z;a'~2ň^<]*&Dd˻ͮ;U?ˣYjd_9I6,q!	^MT'S,;RczxmJZ)@ge@az6l_o:~97q'IfGr=ǢsVժ7u[>HЙdd	E`\nLљ{	W63qĶnPLP6E	m+o{Ta\ƨ<>,T[[*w;ʍo?WWt|d=D
q2W~Q]Ė4?8HB0Gߢ<bnlKRfJ\xG5|5kQbƿpD7{Qå"ĵo5[͂̓++Q˦U^?zj<Ɔԫ,,q͵֤6Q8gs!xw	a8Qm+%QELͫ[RgЋBsu3HFjΆb%41/!TxDr{ӑ.`UDP7 ,~i*ٷZ3]+A*	ņEHoJ;157~@ӗa.")`ɲ!TajAI,H^1+)e4-@Qj/NRRFtPU[zQb^֟J?P9dģ8}'bsz9,Pb׎A=ihI|*+`w@ ODNbǢ$t]:(;R9ì5}|dP4s[oE.90S^O%mL/+gĄqDL=j:C3@U0<f;w+LNZW+[N:vҊ!hz$z=*WTP-T$5ۥ	nd@l-yl;f%Pum(j̯={4'ET/n	UPjjk!MĵΫCx(́E7ivwCrl[ޠ?RNkuh0-4Dc8GV[naiVBr<kmtTFM&ʥ|a׉v<&a}pfojk֦ 99ܾdrzĩP)QO/E?~-~OƋ߇~	wa3"$AJh/{{Lmajc*=[pݨĎ\B~3Րlvbr|T5.ĉGybVAhŚx'*()Od;bOmaImC*+۬XܞghFO_=Fg:ϣp 6:[x`ȏٗ}eN5V`AVaJZX1:lyaRϿ&Ր|lzΧfhG0Qh_c+Q"H6a;:o_8B`.E+@6CYaJGȨ:?T"qz,4oLȵFWpDiļp%v"ʌo0r̶HCՈu3'[},si \f?8HBZ/-NGԗՊMCyď-g'ڃ6NݭZuCQ%zB<,zH Ņ]B	FO`]/'~Q_ze%iv|-q"-w<L	,BAEPHbeKuݸgKuK;<48ęOp(X?{ zQ5QP@5WmIگCnoNۿilɣHƏ	cbÚق&jjqPl?ZnNl֯W)=c*yY7Ќ\De.T3P=C]&;pUw@6Ld=zb=p>:%ǌřțzʞQ$->V_4̾tAr+NfV{H??<Db_Q2{Gү(4h~]mަ/{82Nܾ,VV-&)PvlAMɇhz1vJAW1|zǈ^Q0(( b O@vBfU͂!%}Eh!\Z^QMxfњpy)&h["|&,rď]Bޟ42ç~&4Lx$C^9Qӆw%ݧ]!S+:݇cGO/MVURHMui,4l{ ]R)6Ҹ r&tlvxUÀ	`ٚ1`X{y=ϕbOB,LD"0AT-JͶi~^@<M\]CqʕɑO!P~ŭy!^	01uʦx%[)(mAGGvf`}wZyq_!So	yEɁ&wA!%@JcJýHYbAGSq,e]A{GC)Lͳ"ȁw:/vNfyL$I|	rBP7	<XDq]7q77e4,FOLnG(cWV+-5!p<=kv,m`١P0@i$īD[)=Lcl:wڔMgRhդP&	'SkhfyaxxǓx%UUmo7p3ULeOc] dLxc$.BwA'\mMCȲ')3e)yS 7Qѳd!L6nMeCηΆ.UYpG*̀7<4Y8I+,/ U3;?bFi^N?O!A'])w%*VNSV'421}Ij1.F0&,**Sm݀NM-RqQS!J={'ľ <K̙{"`U4LyŊ332QgdPӀIPg$uEzI'{gAv\fˀ92>'N!)1ó4&1?|Tk̂Uǥy**35MjEGūmz8PrO\ً;^,A&&Dz2ǝϽ73r?ˈK??nDSwFu3^NB͉füEXEaP@ߏBݼ;zq9w,Ⱥ\ݑwLZ`AJClbs(]urX5^:T~!%ʲdO|l}{0mrxț.KR@	hN"e"N*hbnkާud7?ί7W^ѭw4M̙NĐVLk8)*kh?IYbjX9i4fvmMaBSb*mYIbsg~xé1UG`iʛϗ]YIIc>Qĥgx^fƯb˄kL:;9vX`ڂdGu7%4q~*kŵ9ds%| nTX= YSrWˆPI'J7EYGTwcl"Yf9ec&2;.d)`471KfD l~n)Us/-}%f7{Mi;,sܳ<|jGJUu8xNha(RwU$k^}sk?ipA,PRE&vȼs)~8j!0K3ںnQ!!yk|P8Ŀݓr AKe۠!*HړѹgG2	7&,ZPːɉL6d/w;&OnIl{*3Ҕ6Z:|4ܺ^Z\P
QmY{FhwT8"H3pLC85Պ^/gjNwW):)p*BOz;x`y7'T5S}yŞ!5ƚopZP^6(d8xTI[Ĩˮh?df&P	b9ʺ`h3zdkN^Wm<$J>)1Gf6B2^hD;o|zS?Uň}NW*sFx<׏:IΈu"ig{̼q(Gs[-FY٥>>aYbV[9\z.3'kjk7EIijXsa\N[% /*Ϯx=b+t-ÍmI}_5?6ue 3H@?3h4%xk>)];0@(>B}iN'872ENt3\.zW"԰GEHHjlI8e\tne_ijku9~)7G+{n'ĽeI80'v@$=H`hLkYϴN͔ҲR~lW;'vR1CQk5,2l"uxLĵ~)	J%R2΂Lx˄$="BmvyKld6Z22joЌMF_Q(XQO˒~[G()͵%WsSRt)&Њ2b0p,WaX@%Tu-oF9zQQˀFm}1fCFO|S\6*G^·h{FB=eJ^|ex&"͎W<ıdzĻǹ_ŃVCVB%Ukzl.Jgw{kJsNf}HH/c(4-)45TKgxK"+2ÿ9q=$aM$lspgS/qj4x{hڠ(͚@U;:HPOʘ/ߗʦ˦>$ s+*;(X[%w9] Vr΃f*bq{w/pS˲01wG,Cxrrb{!L:˵TqXb2PD:*R/Ԋe6Ed;Y[حnWK)q4222X`/|Y~O:͌	R&kȚk~"};{>r>@}\xT_G~}?n$|clf5~t;~v˖ͱiBΥ'$*;ɿҴǌSdkN=xi	wr17l|O)|Õy!̀}nEƎߴE\E?9y0%=BO9ƶۮRL<]Ț}iot}ASLU!5*&FS(;HQ/h&OŅ6)f2DlLy(/)O}O{'/p$|֞Q\b.!(ii+=%faCyȐS/ɎF1̊jӆ3+h=LAO,xȣ-iIǕ*<*9v7f.?f	|Rei΃'vg>ʕGUP=IjZݏ8LhzfEHz^,_Պoh?K_qV7FߋrA`1fʻl+iߕ;3LˡŶ:[j@vY'd1\bǈJVnY'|o!^!QN$qUn-\F+wݷE9{sFx}B"UrJϽ`D'<`%vo	71Qrd0Kn	[{.3ͦJ6>z:!gK,`"&Gkmh:(Ƅu)Is'Ǖ>Cx'H=*[-XĽ-X[YL֪NF(a=p5i9UEkGID~Ìk*YQMj0	npV'orflI|;39;VsJ:~>ՓGLm$W>EM4*2mM~DtoJ	eeI˨DxuIj_ŮH{ӝ_}8$ͯCɋ֏~P<ZRdH\<j^B֞ľ	)qkd{Έʸd;:FvQ5.zp^gDqZXϳrL-,d8t;L$b8M3-ypCj!|DXl^qxumk=2x:ZRSHO	H"Wc'U 0"Bpbūw[ti-hOx"N`f{FI\Jm pee"<{SXP-ԟQqN)]Ϣx_k!&qnxjL$jQ"TO<vVȆ'!hgڋY/c_S8|+|e'UUظOʍ|Lq-R	G\wDc(gumwL9g?-"&cGtGc!3{:SgXWjp=x]K+jzmvM3MRìOStk̓%ۀEj3P!Âbf,p?Lh?1v<>_yM=ulŠVPfӛ!774w!)_t}xJ942o{_&pdj[H5ͣ"@WWHh-5o ȫku9e\e&@59My; D1ǔ@|V[B	n>@*o!nvxW(|{z^Aqb&j(j&* Urܓ&%3Ş߭4t]0HUEk66cǄuUGXI>!W4ySȄO CeovˎPe5mxun˂8Kt&a~|G:)wÍj6>8"LlwmR(G~H7opʭQyXGUŞJ`f0)p*tkҢ3Ȩ!=Oq8p&rgL*(tZ{|!x>[BPr-k26y~Mnxd52|oHAĚRu@|,ɪPT@5k)h p?iuq@n(ˠÅY4bhGCzʪWEmgIK@8AZ`|r]Yus^pOEcja?LK/YDltLeA\KvH9{eJJh1Õ0,3R!@לLdDo-Vk/ߐZ2ަMc{n]!si, hL0ϾFe(.0*!P5;t@Xq^t8(sH>eP=VT4Wtп0IEt/Js̒Z
ÿ,K bɵ1y@BñAď[ݟQ8p;ejWH\8wܶ~{Ķ0Gkׁu%h0Hİ޲hc Z!@ycg>e!m9i@I )"х8y߅.>ńFbhR[KlɆu(04-2V;wNJ/}<ndpo+ƈl+u{@v%[+}fR`iم"bos.ycޟ!MRa-PI`mpg`̾`-2*c,.F!XyRy]6[52IrWqy`}Z7{>QpS 2W4+xYPf<5zFs)i=^JS˄_Zfͯ.v5N/ߒ:n'^˄'Q:Ǭ'gx5FɺBOAX߱ɲgJL'vwx&ȯLg%&PA06fɭmG%ڑV[EhBAˣ],~٢0G8p8nMyB͵RP`f=؆`^8gvE"a5P'tq'ܜV@'&Od/LǎO3%ۡfcsrtf?we}~KgVD"~$AǄvyA+4nPy-93_HmUhz?iHGߟWǜ4g)It'?1BْZ1t353O20{{!فw6@c~hJq6;pAj~ts"KQvN|+,vr':apȶVޣM)?n='Nh{ eQF%xŒ9g!J~@+1x>Om6_0Bj|YJ?`ͦZ8ɺ,6quP:?siQOqQv6|͓Tث0"t7ɂDY9N%d!Ǚ?Di_al8̣+eqʶdw'N4VA<@ĒP'DvzB{0K\QG5d*bòXs:nH+?cZ!A5~qs[{Ev>A6?Yy:B>N>75݀Za˩>(e&DE*8s]TH(NF)Z3έ2ucg`3Ϗŋ`{nFdE%3PvS0n9jN'ov.ZDLףi:di<A"mHGJב!D$8.D--Ƨĉji?h]!S$δ8>˲?Uwƨ0]]yof<hED4%JXC\ǓVbTEa}	:,m,ď8r2UJ0FE`n&D[JL3=nvZOj?hHa!fr?_˃J[=nwѳb(2ۛ~ǒ:.s~~jL	 %+G((q*N;	zuކu\yyu04LGPa(4	4T>uE̽j/Snr+]ZǗ'lIgaZq̙}Xuz>D4IA~GYe+F[`5Yxb	|>6|xtM?'1ձ>{"w+ʡCe$Q,tIs͜)-*[_@v9ҨJ$B./4̂R=7VziF9vʜD>=JC]uF=OWʾ=@Ȋ* ˾d>/KƉ(?.bXr5T^U]Ii|m1{Pa/'Z4!Ǫ/;WS@+X<\V+!pU_MzN5YGD4٣5Gzm.]I1ImHeܭ~(]|Ē95lq\/ac8@H/E9ql@P	sG/*N;a]ׯoťTj+[CXuoQKhGOpM;ů+7EzY˱rο'wN>j^WVjAO8T?0zGn'jӹͫVeKTPL>}ݲ	ťE5~HWm[6j)N\Jϭ,'/'U/W 6e{>GS9CGDu9jraeUBZ$;0-yK7oߣo[J"'y/Vt=I.9HM(m	_O00	9u%EƢԠB%,tUȒBpC$Tc!9c}51l}/%!tFZ"3a?.e.5GT̅ C!Śg߆Ȭk;\Oe!A")0><e?hQE^d˥@DjadLeWn?(BynJ?[HA;}B!!nZ']7ҹka.[W6$Psҟ[hQL44;Z^At*xS8uMB\r+Ԩiʷ5ȬbИQh{%\13È\	C`7D_Քw*ST]1U*M=S{Qf8%+M>+rtN~ߴ/5W5mȧ=/z7gpW_S,z_ŒQ$-rѐLY)|VVKH2Lh+LwA5Rʬ`dRfpEvMTnG<ěfy])_QMF+Y,ְXZW^5=(͸KF߅!/Ff9{hVʞٹB!(oB[,M]̯:xVXLDHjOfezDߤi4U[=9_ɒV[S{_]ޥt{"[y|icb[OSx`Q|,gLdUI!ȧftt{i!Mw3I3.W/a6$IE.(Yp9yu%ʙBNzQRKi"h&)%/Fd־B&Vf={~w$ֳkxW,b*DӱC1n])N+OOI|oدf."1mNr))o-5x2uHN1|=dH1g=M	8۵k5ɋY2P\/o2Uo5L)MHHiXu_ս3P*>&!5UqƆ/]V<7{=55ɐ\G+AmʊBZ4R]u(Jm%.a[@MѳK{AXlp@khI.A]ĆdU9ˏ:Soj o\EP6? @1E}XV^LMmxCF2Huj03&:uӇeS*vw0b<Ϩ 
RIӚ&إ̽(OOQOC\/W	g n/P=.'/N}jj^1{opv߆$@nppõŰNn	-;~Q3VA˽3UFvwesaOhgL},1cJǿa+SVfLj7Zb"%pлCiGBsx*ZeSHm)5T/&}({LUjr%5ٱRòe]Bƕ/Pi0FV=xG|g9%yeJ(ȶFwEv2ue?Iy1qdIZ]bЧr]5mW5p'4_K=ƚYz`<ua"<7UݪM-F[etΆօeU'&e~53؎1D>Qh>/Tj3\~@eh/q`Lt1x_|:zC?_[e']Ówڂ+%|]ԕ8AF8|\Ky-	RċGf2DԶvYLV?79h-8'JS.+8v6't̣gkɪ'g~rZ;v Rm]0-n'mct_<D^w@?AlI`~ VӃ9ڂ{:5AL`rͩ[;&9{i!/W{y_5!,.,mOUd*ηѠ_P4{E|+&ĄB/fD:TjVPLjl1LyWfE5ޜG-NZ'+=TZr$2@޵H}[l+{3s{3}wͱk\&0?g]b'ʣ ^cÚdūzw?W	E' 7X'F7=TDoé߆Q`C7eJ%x&nҤ`{*ms8ӪP)TzOP0\(8LDͅ?-V*z&^=φ"\}X^Ne~&33(%X/Y{9;U> &POuoj~ĈaYTtQud=X"*ikNvd@1r):V7MAX-d	^=+i\N*8ވ]XN%L=5f:P_m`R_5Ɖ@Gs9&2F;,Q@@.))ĀU(PlJz!g	|kxv3͞\Lh|lͰ%B1B&$ ʄaT_DܸhpXweȣI?I2GrEƥ.ـB|"^*ЋJ!ff+$~OQKNTD$kHx8vkzGbC4Z<QDbPr"cfo5ΒXh"69<gg~\m	fRV	|(Dǧ!x{ibאݖ5`èHs˧o/o I+e5{GV}\cnGTm?).dMנ L)CUױI"Cҳõ2_|v"}YM	k?G61̪QEGδ?6o9q]_y):r1fT	ΓP(IΐRP5Jm*[[I(d?s^+}iD(K\5ȜqU24	/JW8ZGo`Kϙ͓:	C߾?DEݜ!R<pcYך]nALˠQ6ZoV,O=ٝl̡ǬvWV.;Ж^py'^*CZuIȸlsT"xbϓ.|N*DKH-7~wM+(J*k&gۑssYYa6b(E:1v~nGY"K6P%[yNʶqnӑ^EvP{cJ4c͊ZA΁ÿ\YbwlL=ƞS=2{|2!=3q0v5HɎ;2;Z|7t hK7>O,ʂ-`6a$˄O5OP_ؤ4rW:oFog0GG>/g6vNtuBāB͋	G-Ԭ}<΃Y;xeQ$8ѺuH$\qałԧ_ja=MK:-ˊ{5ɯ}bz*÷iVcgR@fˑejKU0aQw:M~d**0wNs$`%&Id?<ӣNnB<ƖaPQdɳb5EN\7{ȽE<qf@SI%Y?L˜	9anr^`No)4K5a;@U/.d3;ּ=ry|eTFzC-	4h9!ȟX3zU>+0:׍ǧOSʰKyҝ},Tˡ 	MǱ@&f̩)hMPaEj)Bۭ0Fu8G)gǑgQ$5^ΘTkP:zz19)XG͟*ڐ,&>z\o\ϫq}c<264xq4̰7Q6&ִo*OB\Чbq%d6<wڀ0<oJdv'	97Z[r?6euG@xߨ4&O>9>ZM%(m2þIǎ7G_tEt<OW8)* B!jRBư{}Hfb:А/l*ŅBE҄ҼNTW%4QZpvuK[_z	ymq@3"k.f4Wda7U*v'HWJ=-e<uعiUĽtPRNS4B`D{"*Noa;>T2n-|EWn;HW?C̐1:?>^UJغ5_,G3c++7~7:EӒس·7ýӫǃP<%ZWt~TڳׁGމJ݋Pfn)etI1^su5R[VBɜ+w/sʆ&sq1~3Kˮɫ;}Kc.Y[|\|,ʱA|	:jqW+߯PG?z-5R\DZZ6-m3Rw,wUFc?HKy_Iffvʽw-x]o'j)SkAw Xf2zikGS^-%ׄX.;]Є`1fUø2PiJP:QԜ^ЏCs{MK9MuYOyǃ_Ogi[5HIEzCGʚo0'rX{j1D8'ıސc1r\*ysW
[|ͣQ=OͲcsQވ1ѶVsjы݋;Adjr'o~uWZl1 :F<yt	Pk3P4Q[~D`WjVlsU^LȇJ6AUţM?ӏ_+abnlpJ[ވ;֭(41\Cv%WVKϢ="sI`A/2VPGab$j{K;`ߦW`[H[AYJзl5]2vc.ԩ?:Jzǡg~MȂȤbǝ?2?gs@wڇ@?F\.tpzvR{}=^Zʓ)>l-HhM.~ڼ!fo@9D!zOB&@ıH	uő3esˡ2j%^p:a>YYټxp5*i'C"	x|a$"d6v҃ʖ1OAEĥv@EH"eƵV'RAup}5_CZ+NIMչǬ*[uUYڀ"ǥ[d$um[D"V?ɂ%~-I'oŅ7͒k>3^ݎFK?7mK8`Uoƞ+CvEȷ$L6\.iVMɚSOt8V|'ftvghrf8xbq5ԞqڷZv>Wd|y1D(aR)VCHa۾ilȋR(PѿAZ{cҶįΘ*zN8vBD%4'˙zjƛ&<8)e4ι=it=k*C!>!On.RT]>hZSo6@]+|ګvZy8rG.0$Z<ɋSPz05Tfq'q%^<-j~E`qXro~lKJYuhNBMeGN?i^-;O_*"GżQruMȲN$o@)>hBt	ͷ<B7Uв{dyk3šgM="hƿ%T?t!ā:rȜAPQ;q}vyZ&l&-P@Xͨ?r0פT^mrO]>kz'$;u(Bw߶0ߞ5GreI=MUgi|-^eSa9-R hΔlr2&P9-߰%_]D@qU׷7ع> Zj;E{D!]U̦}*	Wl*6>tK&2_ےrD$`$Sak-BRBk|[2|JhMvQz>6POm_r%EO{W͢1M4qrMg$̎T9:+OǖFsa_7=6U9@ {ʫ%7y]3%ǡʽvp(.,qIn+4O	˗r1$d31sGHC߱v8I+P*eɐu<}xs^}V*2[k{PQH V߁A_+>cD=0H,qVasdňhM2DHwg5ޜdXnɩ4-buAr%ǶQ^/";ʽG?!$B-ݏQǵʞ='q.Vdx<)K7oMao݉,ee(h?B:G!cHP}RYgj{F~"5O'qJʂk_	ʄ_CCZenWuP)ڠ\R8}9<̋PI>F"GQּ<J~]oB6q*ïW'/YUM Tw@?3]j+k~o)+-^ʗYFw>mfjND1QRr4@XـEr.qL1}\~@CcJy.F8O+B:s mk[DKCF:bJ>	oW8hhcؕOV"M7$*Lܡ9Y)QC2oZX!499v^L|,uɼFyFdSngN^˳JQK[+pV`ں2)Ec`,yp^ ϼfD{UOym`?9"CG==}kҮ1[G)Q{f^'8h8ƏTV(=v;fm(1p+ 7˟9Ċg]:Φ'2C^(pR<8׶X/&qVāpGyhLaTdwc̸io%sUeUT*3 0b$LW2@oƣ`6ԁpI&Mh1pIk(4\2brz[} 6)cz>͝p:i;j~ZnsyW4,Ic*BjivA=ɺxCobԠ̶ߘPI|B2!A\`zȊvȰ9ʼMM<3h$2/=IM0XS -Y.wӭ1Bˠ}jV:ob+kɛ=7NxqUs"vs} BEdXY5Z )e\_OVioUD?xGɅ;iۈ5ǙL'3/j&vccŋWÝE*ǌ46PQZv>c,TWe7$GPb?̞/[z:ŇwVr^9mO+|t!W1eW ;8Ҭy_?C7P&K) ɔ2g>mUdjN\Tdj;jH>4?"ju8;EêHNY qH:YUOƥm;oQe$ȎۋENǷLoGÑ$<ZgU$R~$DM}nU|B_R$CDVgJQ%Kj|k͔u>NB.?6ţŖU	DZXtgc"!-Ǿ~lAɮ[õ&j:l^H/ʩ%AvPq:p/Fۉ+[7`^/C^.Е	޳j8Zb6O}v!ݗh-x CD.RٸAnB?QnLF]^1<Rfa-uēK!Y`OW;(?!3_,]ɜғahAN?	/o}"dqдb;,yx$p"6jnzLq4/3!q.wH_/zjP^٨6	BpǸ+ÏY~-_bδ^)H6)g!Yu2jozKNCi2Ҿx |~>ofTZ(0UjɐIUZ`ffæY0|K!"3v|vJm('OÌR\M6>23m@١T1Gz3c7
H{;DeE'(֘;kܸzFkVa]K@:a1+c$9nˆSZS]Nnk=mѺwC<)j2U,>gzO }2äCRv&RxDcy8,ţ[Rc&45J $JhmxExg6L:5E:_az8"!)8S*9š\O_kA?f6)z>ϣdL+ѸГ.&YVj`!pE4,092edk&.0ۉ >	wĺRM]Eeegj%YpmOOZN)[jƃ-d92xD1ZlPy:y1	M,ϫm9_w 8C%UQ1Ëx̊(mn(bE/rLs00qkVsxp͇D[so"j̤'2pͳ@AzN(ͻqXRâ-dbcPZSt)AVV.b)g>wOc<Q˷Xi%ɾ!&<FXPNE^*׽rCA(	ɝ[bWqtR9Ir{xyљƈbM:j_\]-ſRI&C}a=ĄcQ;پh$QA.+kގt=Ymi<cUǸv 4סGòLƎXc>{gyJ:b"O~2w ȥqć[ZAQ/yi] Xʨ	Uɝ^pKj-+dJ>R*JEғT!dHfOյųfWk(M2|gB-_;33wW'0Cg*aNPb{1*PQz.(vNHU byít]D6C.CD%0i`6͸bMlGJ>-b%`lcVz?4',~^l(!d?:C381!A97$Iy`ApB|7Eͩӏ^̅vǏ/A:֜rZes_ZjL*O۽e<_61MKB)Qs__T7_t	rX&(d+w~tYV^Y<6ł1\<3R]?ׂ.qZ}ќLvrJɊxO	őVKF)w:_GA$W9>f˘(	z$b\t^	pԪ-yrɒft5Ñ*^u3g.M5_hy}E=<rRFţgqwe>~4DJUWpRcsY1`yt˦\eTxcKc3;;4mV`a֓("ä8ktUf _n;kj5!o)dh2E/R*e;Vyd:y<M-)?$ϰ)0`c&'&vUwMUrrvdJg[J4g?Cv|{E&HeMO'΃ztl&.N07H~!ȯ$T|fg-;[dr*8C!ռ $ٚ$SZƇۓ\-8-ؖdP"BS|%LK+G.yY'}%! xd?qhư6VewKϤC*}k1+KGC	jet%FRXxވS4'4678](1'_pZx0p@^M"rs[ '(Kdy@pFlmqϑibR)yuXȚ'&^&EC|MEg]K.5wC~. ϽL.o5i*cK.,%VDȒx%~+ʫxS-ծBZdVpxBWSfmz!/c@ma/{Q18gOnpXSo+P*=,UƼE_jhWh$Mlv:<*i5v-5*cm W:AbYF$ ΝB]1-$f(}?4 nC!v7"޺,jR=֔/9ӯOz::5*mp@hfǒς9z$0Ty}Z٥4>z;X6s{Mn,vTե]xY^Tf=L[ň=,VK060E+2c&!\"iPu"L_ue jΓH [+ګΦ%Smjj^oGkƹi)͢MkǠE(֟ų&ulmf0bb<KMq2p CP	z*2aSDjI+A^Ѫ/ZəO!Ɉ6f9W/M!\ԣ%Piqge5MUFS}>e9'=ŀC=+)7Z"K6q,8D~w;3h2(68Y4<0i?w(/cZYSM8=H[2͙.YNKƬ	JʷdD\*DǠ(J{65eQ3M^Uy?+BмM5%SW[rd־h=Q֮AR7B5;$7XåpLv3es_>2fJq+˼9543Ȃ;a),$sҭOR6GǸg\(uf]"Z~gp5c"BFL\gȪ%Ĳb}G=q"τKL*J1`ItdUBQ?n%)pM[(EPFbRШ4"Tpǜk̃!G'Ë+k;IagU=sD+8{FЮq+LϻV|$urٯo9J@i`!fG{|7F.]*ZfEP\Fn*ڂ7e(BB͑IbjeVW`=0\;ٽQ6m}-	+nls=~bHjo1ATk^n6;nx\qnXQ=ۜAG~˭I9e?9\ ~G,x\tgGoہ\Έ]͉.9\șWRMaIZAr9m{xӧTOֵHŹ'ti=7Z'h1\Ƅ('ŵuR̀R7Ż4N=0J.f[ى$*ȪB͕AELמ&$[4B}-=B]sSJ{Ȋm=ӱ,ĀzZ6.{8TJȤ|A]C[6k=]Ċ7K1z@߂gabU?[la}mmh9%tkׄ ėcۉ6(ПWjw3ޔ4hH$ȚuE%k?ęV1I.(9
(I3tIgnǛ|"RxLHk,4NhʚK+I*^'$ϐ{fd(P43nPR_ŴKʸš?Kľ%<S%Ato-PfaȽJDvH?w&2ϢޑU@D\ޫZ`oy1QpO]ɇr؉sZ'۰VHyE\ ?7/>MԮHk48AZMwP_B>&27*oe(Zu7C`I3|2\fHaa,1U*&ǖ=Yչ:vYF,: ,@FnrD< 37Ě[mÁ0 zGXp؈`ۖY7gϔRdX{ԤTO:f>$dvTjP{-5,Idt64dp;Kfr^ӴDd׵w>?	ի;MCfpJ C+"I6֕٥Q.i5cH,ۉ\L~Dg%H*CCubLʻX0BJJ.p((1Ju"ƒ*Aj3lռ?~'W?6/ZTlËQ4f_{>ub9͒DQ4|jU>̟s3ft;sfTBYB.AHbu	^ C+c4*7zQg˝d{'f?^&̩Ҹ҉6$ϿߓΩsLL"	2r)4U"zp]MJw9sVC5|G\K?5Tg=U4\/oDUv om%y])|*T< DKmӁN+v^ھV;j2*_g5w&'X$2ss:R˟AWwPa2&FxZV!Ry^mV<7[rQtfO|\hڼ {mst?AQGR="jΞsLp%Y=m/;Fwf]j!qq/)?wVXݚNH|SBr!n5@e{FzB,HUyU1yڎ.fBjDPHPnW̺'dq!G΄d{@bM$lBD!(JܻXnIw.*rqBwe-RUpWx=N7*bCnp0+^i"W[NF+s+1UlPiKWj1wA]S"ˊ@WLY3mVrl)1ޑXJD<:y=`tg(ȸMxɱt٘ĕ҂=5bc~Għ:Ud6r:;v):Q)&YiI*C_pxR(+exv.*Pr%@@ɝ+XqBFȥ+S)PAˤs۸bZbz1R7Ϛ9BhVa?Y_BY:st)YưX2-g^c8aՑIWw(ƨ>&b:LL0|H1hhgQ]E,ʈ(OO+S^_iQAEa,WObv7ÊN&H} `TĩŒ2?Q*~2,	I>"fȥdѲɹȟA*WcYe*p'K!hcaz֌֋",zrXi9lՅ;6k0$h̟p|Z,*"\ \eC~Col.(Jnom8{SKGAd?![qPp;c@|KG2{[^SF?clleh6vptJZ$@Ḥhco	·&n[6ΓӛͳDٹzw=/})?OP-iʓӲ6)NDR-٭wL'}/l'q3GNLaY0a&~f"[SrܢRUȲ*,}a@>BcFcBl~p\'t_~Wux2/t<3`~sr R>+b,Op,OԘ5*.MFdľǢoZx,iY1oYټKp5|`j*e"W|62QojC+tGJb}ueDg*ҵ]02]Hrj{qn'Ce=](MT?285;}o8'$cmզ""'uUx@i,Hvg	 ZK̑$ v9ҷc(ͬ	@/l1M}w.ҷ(	wu$?ZsğvV(&VkR~Oɷc:PrsF)?EJ)th93bf@bN?%˳LT+U<VpeM=&S<A67g?V"7T<*~9ɭ^1riVxEUȠA5cUcU41Pdsͯ?!5a;^kTW<:Դc+Zh55d8<!`spGs;ޛ	^itՠ2Qq8pŌ.1dS[H:/mwSbsxJl:!F8`WP2͒ݸܛ *aa40FMV+VFіv)L.}lagvU~Y6TXĽ_ˡÔÊqg|Hc0Wݟ]blBoK=$(^{a0i~ȫl"'<^AI\~ώy'ަ2k/D̆0W8kAiØbC\"X% $Gn"XŪQr1)9GѥVqP^aȚƧvC1ݙ]_x$T\OZõgC^64|9QϿ\?Xu=Rkt@ZMDoPP)_CvF,јc)cD55:H0<HOEe>Awu~;"sֳv,3$_sϬR'`!g.*GflĎĘWWڔKr>ʸu]U5g/É9!j>q^5߹jwHLިcs%٥9Y2JLdwP~R̝7Fc0w!lxLoJ;;l.I7"Bͷ4O1oƚ9zL;Y\1ثUy/9ȶ$KGY}>)@QR~łZUpu17à aQ!^j4r-^*ػcgzM.*53HRs&lu">Fʱȧl<~Aw"B3,L[|D8j(H;(Y,ݍxaUy('o[|SX5߿c /
+:فKLpHj '}Z7ʥ? vkZ(.΄ΓN~ 3~{8/'SqoJmn5z͐GӛibYXߕ|VEќqrZT5iEߟcUJ ؉JY*b?ghwpO@$$ZqvdJ&6^sjһ~\S$zD_O?Ҫ4w`}_v+>/&Or4ߪcrtSL2Y"^'RP_o`9"pĊBthGfƣ%a\,P?Ì,LH5Ys$~%=Q44\oou7?ɦ:Rx*_o% |вR^0NX[ՙ6,$'s2=()*l~Iv+9ǟƗ*|n%Ī8XS~vrQJy+3&oxbGcSa{61TSW27xָuEJ9OQN!oQͩt0Z5_s$}<p)ih/JtЃCC}X2K,Wias4sxOoS\j̸5lSC':[[s{$49dʾlO*bQXq5:7,xޡ_nCl(3<E@%ӀDlg=~ߛ̜c5gCˆOǑc̉`FֲmJz_j/QʣG*|9H2FǊ\mr9-eb+HjJIg@lIt=qبu0؋?mǷû7-$?ʺ+Y!r}~pQORSJOAt>3O3{)!k 2]/-D͖MD{S6-Uh&yEGnwȝ[$RJ\E.V+|oKLUsѽdJS*xuE>*_w*$*_ o_4q*K&tzz\7Á+}Hɂ9llF@VI,V;R+(V$uƕaNĢ]tO|&~WRu|ysWƵ^.xP$a ];6Մ2A{COڤVEӵf^V{[SNVd0{BG]kH`(o˪hkF hwIQgqdA({"\<FmF[v@/xsj'tCOyUsHx˨/a\$jQ$J}Fmq/7Z0UѦ?1d(y;S`Pyc,EhYȞLX;6"AhweyJeYPaLT:=T+T6yvFar9ri)йB5-4mSr"C1ПpEiQÕ]Zk!|2{DKmv6?4[}m95]L+I,p?w&`R:{ḀuNTɒoBzLV!cU 10ɿOJz}Jk;dCGTsCHv6$Q[tXjkJ&>b"]VW2ihUS+P<^3ƼZ+jђy.>cWU?Weſ˰07NL8C[UĿqˤCFx%	S(rC @géq*'?eq?DWC%98g\7s}pd@mCmD\{JZ4)4UmDG	 ˭VkF!'û΂BƶҐV="tq1sƶ{AaCZV5qoE+Oٰ7ֈ6 4h1/+x9X2Mr3q280`͂[;B|ܦ7g"+Fi5d4$|&?$ohŅyӂ'%Un&Iw	ɤ)a8˦ydQ	^hS\γgnpæRRJN	זݽ]EmadvbӘ)wn83{ɪdJd9utRh?bg_y}S]Se.jtK/ZN`ţZ]?ETZ,(r[w=s GpyV6+K^"|u^=N2I;'֗{o`0,	8X{d1N%YF`dkS _r0+q3o:7/Gk?C>ĨMNi:{=n:4srG@LIeUtӆN iQEEW=YEdf8ËMX<ߐ+{[uWvn|e $Ϗ3$ˣg"7UX]K_ȫxJܜ,ʘDƽ&CT.|ZTIvtA`@ĩʙ? 6d.{hJ/'LZ-^(7H?*HEŅȄǕB=H(z!'y`K[/5s^2e6tDnǦSl?UIS݆!_7xB}H|W5͍w0*>L6&4կh;Qȧ^;U}-gOΣoxͬ\d_-}ey/g<S6:ڌ˯b.)}2rĥ5Wk=[8zS,F>|Dmx<mEG)-C+Z;g{@nF:'ӔV&<=v`"gsW΃p/^.$N11̕!rK'w+q/[37L9SoletB1wK޵J')Y^$̎Z":3Eʅw=t`_-Y,`؉EY.ڙǤA&o҅:Qj)Hx$`f6yhTfȟ˪-05ODrƾ'6q̠5Tʵ"" uS_{j*Nk+~0@Hd<JI8ڡlڅ>PJd:gZW6v%v@H`Y|kZH*>"z6hP2o/j$*̚˳(dA]A͚U^8;&$PHߡȣ	f~ȭK:Meȭ3j<;Q϶BU2/J;RʊrU~ܲ/_Bs~$L! /ȶ/t҆@xcnw0RMcjGR6qqGjT3`uƄƳL	,Zq'/& :B%GXDxaŰe2ԃB'VBFrqe؆ZQlL:WE6\>\Йa'`jsȤI^s;`_v~sۤ@]o}p/)LuHy-p@8)1V8WAŋvKS}ES!"VRc 07y-.ŬdT6˓nog?t%I^98>q]=z\gZc!^qŝ\x=
kVѷҺʎKTʯCySb1.C %g4@%Lv7Kcʣّ]ǞDW]$J3]Yh jejR//X1BBs6Cnfʥ5"ZCݖã4r4rٷ!3yLjFY=h@Xc;1n+@GD10`Zu/9F'-6vA=/X3NN˹d]ͣh:n.(Y/@?ٞ>so>7@*AVC%8Oqi--:TU|+Ts{4 ;%R1QN9Ǭmu DG2ae(ۉ~yy1qcH>;UE0aQsSɼӲQRӶK25&ʨ,N<ݩTq֧nZ/^>)|(OZ&$|ǖ=t9ap[a7ZX<EoMN5.$S>5˷s	/r_"=o;H?D?K+l?jF 2ǟݸ_{JĂjOhZpȎG`uQK\ĝݞx)MANߟmC~ehxu""(C0D۠SKY;j6p42Mv^m]~im˧ڣ֨9Ch/qBCO ӊ\,̿!M=ƥ[8]Դ  &[ALGQ0z.'=,F֔̂`3rnĀ	DFk<_6,m\1yɕ,0tEo)!%LZ)t+jȩ<h_Lڬ0SM/Tܥ(r6C![r+uCeٖ)KØ;wӆ9)מGhk͓N,Z.?_wHy_1*S~"-AƔš{B"Gr}mlg:Ǟʝy:-D*7+8av:%&Kt.u<kKK7t<!=[dיoq !+LwE	`m[p":_Dltg	]tRNծPe]AVʍnotGBH"F_Q=|SLO7Oi={<e00ju*˄ӓ9VO֚C$~Xk0˽+3rȎKt;Pq@}(\B1E2I{ۈP8!a@|-P-!>F)cy̩t[R8u%t0t՛Vr<YiilY^n˨vbӴ,	ƹ&Ʃ̰!'/.>~DTV;f}EWG-n" .Jd%?N4QзK?s,Y`3wSMf:DCl&ʳK$\fImJϸFSŶ_iCSVA*~oVRzD+r0ĤjV:Fj>G8\_OVϡisj'<HOK(VaUںG\[ۉ6BbvBųb?&AwF!N5"GA77!UVkv/yw?4}~ө<JnOd)u= pwEǙ=WE9t-P-g^8TIݰ;i[>2$Fޜ{ٖU'?hX.٦(3Dծ~((g+qnṙߡ"()W6KԜ|m7W)o0y'?pr=jGy!ټN0u.uȂx,2huGq,v/E.@/+3Lް!VC{b< EG36DʡDiou%y.u*v!o+p|-drVxV]Zd[APGd@p{T|H3e;=^w*ϟpbQBLqҀ(C)7|fC;S*nxg@|)]e)x~}+cH;]bu8].l;TKWNdFi[Z<}@WI4g̾0s,$q2:LDɃ׻G@v~cl}־ʘ\l-V"^aM~<ԍ<Z)D$5v"'xBYA9Y;(S'@0DĞ0j۾1b6.W2@M ~	*[ yyO_׊UUzI"3Ȩ0`հ|U^) :^RXw[|'vԩf!ʢ_ijȓÕUqú3PoN.GP=,m+a̚AWҮ-f{JS..ZӇ3@ n5L%0aorDc&}|`ku3TǵVYdR6ڞk!BaEx|IP^Muk!LŇVSq^Mr (tG(:nʐxhJl)4nW	nfSU3Bmi_h>T41P<cjԞ8>%;Uނӂr}m*-OK`=2Ȱ'G	"(BCrjQ 	9"gT"|AZRlZ$(Q(ߌ:C].ͺHpvQV'N.<ƅo>=jl@δI.=a8>\ʛq.?;"Gj.k9/ŴkB͂Q8REɽ=Cm̨8`	bJp+'n^guS&{mCo/uxf/2+RE!]C4<H"^b{>PQ%qڋVz*1;vٮow˘N.bDF[Z7u$ȵIuQԆ}9z=Ut	rC3_/p.-W$h^J JPrfMooV9m;*T"cqé}nѦ7s+ETw9,:Wl_V{{F-%89afvMQʸ7~vr_bJ1WhAN|4\?B%tB^:XJѢ?jn{jtŘF_Nqc$x-SzmϕyK6?e`wVMFx"]0!w;8WQͰNC_ݟkW\NLn>Y$pֹllvgDouQFɆDSJ*\W4lA:Ez=5J ~Ǣh%;ˆ{/xy)]uo$%T/0=s}%X<iюWwI8n	zjF~1@jw&y@=N1S:>vY+]Jt%KuC`R;V(,t֣[Hw?${q[my4&WT,Nttoȗ`*0
Vg̘w&bwr3яUMuRfeʘۑMǠ;a!olE?^̰luEcO@3[b@4~?D90d(RiNtmwÔJc_ÉӪ,)fvmɬnkBʯOVD0w?,K*tuoXAmF6?M$&x^hȗMtfp٬Q,ʶXT,'Oc/}kvd3:E|Ȏc_oj68x7Ǎ:8' gDps80Ծ<s>"@Mf+I;{EėfGFɏ?qxƙ\	s(V^K,UAf{}hvd^%eWXn(n?uqnC}2O(a+8[=nGJ7_0hsfoDw=̈70&xI74"2.UC]/S7Z9dZzŦۅ2hT٘luo+[$z?O{B\J<QR]ZA	yM.Ī:(=d(ٔ9;sAj>1F(m(UZ<lrǕ^2̄Nd;mAzEʞ`eG`^%9p\ks;IP)ɓ͵Lǂ?x<n{e;xi/J5dL,B_yL	s\*1`v;TaBq˻<m	Qn%Ac`b:qgǒ<*ڍJP.a&]*Q0TC:|W)ӭOlP<Ke9yl<p"pkkȀ)ˆLMEMS$et0RO7@ [$XwGEe\@c&7<LZ4(UGD4DϧK^	@~p_!\׷T=Ѭ9k:t3Gڪ-ar|s|4_gǠ4ګ:4;Ǡ~_%?uX%<'̱;Xݼ͏^(}ZL9'+,.QԤ{oZe8ZQeN$]jG_F5ju^+D|"5CӲ5zZFkk.A؉c\՘3!quޔLF(6pI8ȤDTy1"2JZ<o0xSNFhORׯ.͇5 sowL*N7ֆQe@3o9^ZP869)O)UAe}w4:^gZqWbL1cȥ7>^`]m13x̐5-_<jY5Y{xt"d.Xt$Aؿ;]7<fP|O&jw*pRWۙ1F6Bȏ/d!,OA;n%59 PBaɌ~4y[DǯbWY!fߤgO&çUIok*3;93_pX:a-wP,ndTRm	VB?o^5`QǵtCGAT/9җ=J,Q5}XLI"p-YMڌkn8Wd-J^"L:sʣ'Hw?b}QH4  cjKR3NtDK0)?bgP`3~78ݙ|0f7Z0OA)Gk֮eu4Ì6VĐiufTa֐@ Xj+J*iCnaXҪ)%CQ`(']Pj{}&0:oĈO,*|^٩0t"jږnYnv1eRxYdU`=_<kAw[2K)0f_XdX6;au.c/t9`Yr=6Wy17p&Gl%Vn00gʆ	h45]ccr1Bͧxe8G6{ "[_XM4ͫ+\4Ŕgo6Ѻ58BZ_y	y7pφSGHI͉o~%^eu=dnۯYa!5U_e'cHAw[3ÊBUUW+	\)uA$48)OEJ0SJsc.,^8~d*Kt	.@?:gĜ<ԏϻv.̮(	6S*-ysxÏt6:q.<K\VALǌ׾*;Q!U_ZS.^2w{)]3SNǹ YTf̫EMY4Nўmn)(Cu k;/AŌʁqx~F,u>S_!1CnJ@RxH^eN|r7:-d]IO%y(ɾjv/"j1jLG!;(XQ\$cq;}YV?<Tim4[u5ٚ8ŋZ0xIǆS78v\6GYU\?ksgD 8rpzˊNȚ)Xܧ+yHDs9h\kfשɴO)\Ɛ͈r"5,.jk=jfޯثtǭaf<*Bkkdd6O{'Ǔ*tԶ;9ݛ&W]1H4~߀NMGyO,إ9lRD$^&;8sC b&̽v[(ӳ0ӯl=()1s`cHT%ɶƪrTL?%d;5wT:+	nJ%k(a|dǵ~OYN,)c!ts]tÀ7mZxo2~L	sOlkgĈ̱oBR,bsWV)hKeV9SD4BIRw@<AE!e˦Nvd<;FUY!4,~dש`"čgW"@aWefAtĶjpz62[lʜʝ"q5wma"X6[[@^9I'ƗDYbJ(9N	r	;Z1-ofk$;G+=URX)n @_̸AD`Miy02E_9^fIhmT/oF{(WQ߰5ȦCG"Unԯ:NY:(|$wM:Գi=-h-L~˽rh|0=.(A2q ^՚L]=q5`M}o?9tʱI(rp;MC5[2FOo"+,y:C!)R&PSx8N1!RXd9c>KUVB?CBr4i=F?[2=נ;qƛvV$-h[4hQ@-*Z͢vRІ_ƻ/ng0>P&8KOBœ!4	nRB=&Wn՚u=ZF,;v4wXz+f9uȰA6Q_nr΋kD:taw8.{\llW/
@Ŗ4ncyAaؒ!jW{]"xje`0%a]'OYi|MB.=@(d1hyed6VAX<\|a}ː֯Miqs~5kT.F"m3Pb6XR@ӽz$MVBd1M(u,ÈmF;*]`ϠJ9`Ue̗L&N,6w!XĲ=Çv`Ƭ%MbIœ60L(&ސ|uēM`RJ]_f0}~*|rJa% vkHcNس̫A)ߘ'0ܵ.>>ǪD>]'iǣH=Un;~B@)1	feSa ?e[6> {&c|7xLra}޴u=H֢ɓrVy 'D,	@0yOjYJɰFש1ρƭN?~%e~	-T]lEr'I^oV C&Tv-W!>^1usŊXSo̻!!3e6sekݚen5`wnW&Я'*xMx-ʇ+1iEB/n>35][4BN5]pH"9vݝ_]ƵfUPˬ܈4DMt߃ y~WWSV.ǑnvxŚmcJ6K|0J1MӘ(Zt_onsIz5)}pGdJ3sME&;9[uќnV%YuHheTؚւ`eEV[||J|LɠL@τK<߼OA*d7-+]rR\d0\t_-P1(؋SWhRqY3}blKXҀQԃۿ'_*B%8dsU't19z=Hb`JT@HQYKi7DП (O	vn=Wkfm`e46%dsOG1GqE|Y@$.{Up{R@t'\Ǌ]|G{I-"A/?xjk4$φJJɜNYz{Fڎt۵.>&{Ŏ*gg;S&wywĬ̲R48ة<YߝA(}P\a3[Î'aL/Ŭz$,hz6oxu*M()u́<a'[T; 	pĀŽpU*IAUCİRTQp!z1r O̦gZWn؝=5?c]|l7;PkRE`}G[X{Esqan؆C-"fU^Zƭ*oO<Bc\/`F!Bεoj%(w'ժk\+Nû2:W{VFA$<j60Pwxcu-;u4AKkp;rvIl,kdU]e3`M-ok87h,CY4NK)Mŧ7HkW_vq%|%xm^*mZ5uoA\P'SSc-ͯoŹ!4?,@?Ӑ+ōb2N;@:]{VmXWY9;SY[aЃu`4~n3. Y̦Q1Z\nC,IԐzќ.,mʋIp3Eb!~GF]z-!NJiPgj+mKCsxMN.eYDng8Ƚ5b%ͱ/EF~*=heΉ v{=Ƴ|mgJmu81g>~Ge~,&wRc͟	^9X:Ѕ.SIȧpAT~{f:̚x܄3oSdCC	Z~CCreƝƟjړrزiʸ!*V^e7	"aax٩z̞TF,pcŁz1ϕ??/J`'x41.O[g'Ā>-"ǥu2&alPJ/OqK.XLTKasv4$!̒%זz&CgUv%s`KYKgw9R_fa-h:	(TSM7}~`]^`0ȿ<٪^HPhoѯRTvN;\4Wvg3`lN}@3ren%~\PA''{p?,er-|U=;,	;Fb{Jd6PKf7 ,ȕ7\q[EQ5>av5n˓AyLWYf{~ĭp,OPOe_ojYpO_Z%N2N}'1q0>ǋ1+/3[Q[6.OeG`n48)z~n٧-U1g!|k,(K}y%O3KŊʃ0gŸx8ʾ	f)X1>Cd>R7gǬCɜ) \0׉~~t+Cd3A+7xׂv8Tyfb1.Pv(K|ļ5Sp 1<?CWl'4?	q[pĹjǍьߘ:XԺܟ}<1بeH$j(̕w/&fzG0`פ0fp!̭Jf54>P͒ݓDvr4>B^^K(vqc[̞A$fh58NA{iI{juG=5Gc}~.z(bU8.7R!eqGeS>j%wfwY%ΒOțɾƥ4JRLX6EIMn:0R889ehjKI7L|rm}U>reh~;۬	RY@eL8ȩ<Xi`&.(s}:fOeY \"[zU5nDh+N+z`î {l(8k{"[WJYQԏVREd|N{d%%5.sAMǷ2=s8?v5fm+w7bNLRɓ0ԓ̷s^8N".|&lY%c5$aQ9f޲BpтשE2w5	"Q:}Q  ,?@mƼTZdEijZYn7@BnZ7!6fGKO.(SG~kً^Sb7&	w IZ\`Gp݁?"k{dUS2ph)G|_.ȡDK3Z Ö]a/sKS\>pŃò1"sx;ɸpLW<uT5gɐ$*HsTɝ16mQz8և1صs+.om?
}WWr71'0@`h%\x*',`5sݐkZ3(1n%ZҀc0aBGdj	Lܳ09&Ή	pYAZ`2`$Ȁ[ѵ=ҿ1ܹiF|,?xޓdSƲ&ĸc!Z2̋oտ%$*(>dY܈m6pwצmRJ.3}Bm9C6qS^W "z+߾А`ˑ|Ēg&GFg3	Kv-Yu!8+z-;\Ƙ>FsYr!L$2Nɀ`ÿGMAMS\ԛXy65@.*PѫK-Qj+7-0dK"ŰJMxXrf!u˙CFR$'eF_GDk JWa3Wcj-)!'KpwFá^_!lTPxӇl^OtpʸKf>f*i;7XV	ؒl@x<IɤPUӟ̊~?ުf];?XT(̈́:0-KIٖwǡKpGҮyCv$ӡ5=7<_Vg>͔VlǦqvc"N`_t|z~?%r	3:BmϏn_lh\!HA@l7Ar!\$:'R^socEpӱ]v;U	3hʆlmAݜZINً͍r?gUtHXNvOGa̡Ͳ,oveQ.ȘM-0UGkfٟ3O4F=)	ҍ2TAX.)Īܑuf{QO<q;U *?fkaI//gy0Ӵ|k49ɢ;\u1c/tÝ9g)bAx,æ_ܞ-,axN;ʺ([z̺@C4 Ȥ?N=+0'I]q	1:\SArW=fdeLhC01`WjJכ04NYR@=z}6{J%Uz5n;>O\w+b~B7ւ_3JɝTUg$o.ݤcf'w@Vl5`[et_Hvzݡ8Mtv0ix$|sJ;PByj8̅kKͥG3ς}>5BR7_EQ/_Zl0ۋ߅U;LD2}S::h4]e} =x=nkܷ]?J8P/EēXtObG,IuO8QE5ZvmPM]Kmo۠C"S`Xr^ÝlČ8?ňgvT9Ö$ۡ;kTf7̶Մokd	1lMv>"y\(ƶR3\DLd)2EdÝ;Zyn̴ƣ302lA|x̏[3Ls1\$135@JX~WM0QɀZ^IE{duH,q<P+[pv^+Ϲ>G6V;fVVHj/LCc'?UpjtpkʘА-.NtT"MTʚԚϙx2(q MD?rmxͪk+6Ijȏ5>qj+ɨ!]t~_5.]Jv):K(6)%$D\2·UWo<y̍Y(gY2dʛR|9< V-iǄu}ŔX&c7k6/RL&gȄ>O67oܑEtS%y8vj.d@CSCIxJ5Y|_M5GȅղIVpKa+=dM]y$ԘR^˝Ro,bf%DC̪[LfBaʁ)gCO,Xz@.}ߩQbjdBOn1JČ(ߣ^uoGD$K~q.-{>gfTHu;5ѥ<MGXT{w|Nl(,@/hޯ9H'+-o+k%;.r6~/]zq+ķ]R72i[y2%N'ʷ{	O8e>ƽS ?~mOWQ&߹zev[Mi׹G	:nj&u}K2dBЭfc`BTCQ0J̀zn\SѓҊ2-8na"e.5|.i4"Qɫ$͓;6Elh-W4=ƕ`l7Ě[,~ЫBpKdnrNK,M@nW*S[{J|*ث6d5eOvAbh:F\jBc0ElΔ-]Hj!V{21	)/kg"̛)sѣH+9\8OQ}щ CO9v">;1@XƑFh	̖V\],&Fl÷߉˔ٌrB!m9 	B{$wZ8_6awFl_Lhj1!iM0AtEh<2w{CKYx<TTwؕh<LB~	ZԓD^P}U\[>WJq75x	.l71]jE{ne>(_^^g<y"ő`6`о=J̬y3Xplj3JD5OopIPF<!W5`N޳^I+\ֿtwbmED=^PrtJ AE2ȺZKFA7Bt79Ux@4h/I?&pbH=x'r]F7KbwObTmˮCk->?=!wSlR 7"3+mI(j3WSMާt?r64y|i<80evڍen0x(OB߬jc@a1Y0)bͣZmȐGp5+<Ӥ~]0-bHiwcקL%FH2"ƆWNVLheL^J|ð'x@*ܒIԟO̻A37N\xNҪ} B)Ab?$ϻKƵ{R3EÒK*lY4EVC>i)rиɷ NllǄpȷ)oe.˝[*I>,7vnE,+vcGY 	X8ob]t3R?ƞ!2ʛ1`L|VCTDŔ[3V(RUگ("l;$1VnVt7&DB75llH-zWEVʏ>p0ӄI}&]t ;>W\VuAPj&4'aXk׳%0bsM{B_)15-+^
YO	<fBĉT<>I$"S+.K&`tuΈ+=cQ%@K'M%V(Kţ]KچD9nZ\ӟ<Pe,Dǡ54uzڌjr(z}AѹߔoD"ȪئqhAA!NV\OoJ|&o]Z1:ne;"m~Řl,U%ex%ι0H}M._YVȬ3.Q\:iL*{N	?G5A]?<$LG	D;_N<}sOOE2~<PP&̱?MWBjm?3҂.j"kHhe>q8ſaf?[Tunxx\eqj}0c˞|nSܪJn7!Y,>C[OV)!d:+$}t/vi&źXi dWlaZOB^p:a7&Jzrƃ'~)ft`po6ȴ10uW\*ȿS0 kPRhby+ͯ5D,Muyr-T;bPDbۋ(szҁޚm!Fc1{TkXo$3H_9/%V!^Sd~gIs&D&L/@%q<Q΄XPV<^ǒ%?}067~>2!Yb0aM	,vϪ!MM I!o'(%ͬMMτڀwy0FḶ%7Go6X۫[qvOk@x/^*<;A1αAeel%`*6)hj;>^61~Gj^jfv6e*^B4^hRZ4QTiϵ-%35;AٽWp*HsyϲP5|7lڠѓӧųs6@gՈ!<oxVf9dG2)H]D_}KYTUs+Hp+cT0Y!K!M&p=ŴяJex؝jս.tYy6+[lbkZGd=at6,k.\y]TP7L̷)s.I>T1zRd<~"=s1IlhPpQSi7τ:7{(=ITs͒y]Y|!b8q,KBF3fIU~.Yr˫UC7PXm0"Z@OVĜysߞu-ǻf2s˅{<6T`k̦:>!uers:Ͻ}	c]Vg3+]=RD8<اw"ziC\ {o%c.?A-M@Wmld*\JpbĘc3ʬ]?U^6Z	`Q1ʍG`j2PjhbSGuk݋hè1cK&S^2(+a./2)מlJS{jIS~{4[TBfP!Tسp+>Q7Y)IߝȔZrϛBw(jY54.;Ǧ_q$ycK*%XdbK"yjRnjjx"2jk|SYŽqRAyڴ"L!M[/!,4jY^:/HvKz9uxoY4Td,R&	/z:8!II_xyyNM?h*fħ'`BĈ*j0s'Fm`J"W$rs479<қ4:	oh.$90Mp˽רX>[CgbAVʪ''$'GD͸O	Ef>IF4ǵ<ڂ6z,)6`aO@;Q*Nk++nNf-HHTfpt[Gv~Kvedj'0Y;~bPƠƹ@Ź>GHvz/|y*hO?o/u8;~LCVdX|&~NB"'D-9*<h0l_ǵ5A(TnV}4vr/|J!Z(WHm"˥gKmwɅp?H@z8cRy9}N1fM̡!ZWɮLhOZ"X0Xҋ@r"!@5}նp<<jkLx:JA{Sjt\=%4g{͎J^YdGɑھ\(p\PDe6<4J4EUh͔9k,b'{1[Yr"`6B\U(D'q^;}'ףCZmNEs0ԣUcpeC2	EPtr9t	W\7*/Ǐ;׃,pI!:Y<n8%,iU"n39.SZD2e3d.%V2̌mK&[D42Do {%a:&LzyJơɗ҉?jTIŵѓ8%~4U,Cjn+KZUOB4HUɽG)lN֖Lڂ=iޣgX<;\x4Δ7ԆmL~ N&Z6Vs~;o1x50 W`S.~0E{Mnxj58<jb U~In޼Ilԙ~2h]l %ILD?c}~	[j=^~zIiPv$3g/xopxArPp)Ae6,sx|pzQFhfXʣd'M9YJ̟o6\T9΋+)Fb1kR^n0~G_898goN"ͭg,{ģO&ڳL\caw!]Wt*S/T:f<Iʮ`G!_aZ'Nu9<U4A̙0gyƋȳ\oeͬD_r%E2'gT{Q`E7yr'R0A.(pZ}+$_I	uB_}4|!`V"$$e'GĄ* CcDJdeȿ.YEA[դĮBUOʋm6pU$7BGɍa4,R0b8P.`	].d.-^Ϳ)I F0=8@)n?=b?GJ.l9rǨי8ddŝ+^6%}x&."9Z\wo@To;wsudʼ(L^bBq4Xe$(XO&HF+~x٨82@ͯVô_HZc:ȓ/˽Ue;jm.Zylx"Щɧɇ'Kes;Aqa]վ(Yz)̗ɍ[ZmzE05$7ʨf	n[<kcBS-̬/@-@}UEqٶ*Ex
̰-gbW=]K̫L"Cktpniv+$WdY!%bT?)6_ʉ0Em.%@fIX{ĀReEƭAW=V<j;+'%:ěs$-ڽPϾ]o˱r̸mC@zmUdγ	4H7	>|QߡD	xq&ay.ot	cٖ/Xa\RZ|Hl3l9l,6dhT}(<5![aX@rL<^3j>R8Pu*qgFh^b~kojv|	6qD")D:LgáG)f+|$!.OytgtMݥʣ;Ye&:D '*%wZߙ}rY7'cOŲ,K}Mv<_&	đWg?2\[<^pH.|/Ħ1yo3%snNNIx4.k9[qyhFc38i(*zIF/>=^?	۶p 5FZ߾47Td byk3QUz2j\}zEpcv 3E|	6HZe|<jsRД-G3=f)7 uF$*vBηNp& 0-XY,:wD/È[bҍn̸F(7;)Atʩɡ{ga%u-_G;	Ln"r]c[^]W$$p[q0Wl`K_'n^x'oizrSTYxEbݴI|])SD~pifd%QA"=޳ߕlYH$ybDOBjIe08vn;Mʈ7?=4r,7x5]Jw/QNo(;szC|~ȥwܡBo5*Ơ3ƥ6fG_|@w+Y]I3mi&ZONu{?=t!H+xh$~<7Gs%R[iraHw"k]]F	MnLfJ?zwbz8'^G0%:"&!3<\z4&9b AR9.{Ŋē2zM=(9ǶQS<~5X<^a^oAV(a_&^I3'roY7P<+;31YZE-Ё Ne\ۅ	u_RN a/): 8Lm?T*{t3pK+"E! A[cj?$ɼ|t*(VVMh=WtEAS,c]U'_׋:s<Ǧɺ5oǬ*:H_+ m?DJx(E&?_p-Mm'S7Z3E'ϑz΃<[z0ͭA~$K\ҔJ_]U`f@Z{{FRy36/@ѯsswExhUlb'hFNiM'[Zs\[mBĴz+0ޮx-5>8,|if+5CLa+;7	6aqhĕb>Z)qMnԁxG̇^Bjpլ;y5w>tE8N}>SR؞ŕ^zW?_۶%Q|v0>,	3FgOUEF;Z8j4C>œ,vcsq$(_Q).qL{_TDgXl[-(k<&v<fŽnE[|1ƩYWXjp}<'Mz6V̡(/*<<4/|<2)p1ԶK2ĔOQ9u(rHq7^̀pSxt-v0\l^6AidXʶrZbQe(jPB@:{=MErj73KsqEv0a.CJɴsv`f2ZE)Z.!'_<!+ͤ+hkQL;ҹtO='[}dCr)/OO0UV`o43?05%s=*I3QS /giJ`R'u0$(̄}<ɕ2'xQVQ!-{F5,e~mtΈ ōb̈=zM_.40KO0Ct,QĂd-[^9|Nˬlٚ}[E<Fh0K:pGNƇ\6`bJ"E]C}pAqHJ~w)]	<t46Tl<L.5 R!͢$G(`w]ǯń&KŤe!/Jb!>pn3fjדm n0ŭA9qd8\laG-koDYf4@-],e*%iqSgln1/,Osj)c=oQA;tǗs}˿&_.bņ+ƹ P<"؞g/z~&VwwExetX;_I?xCx4-	@2X6hɪ9gib6T"	qY͔Խaʠ@ޢ2dTƸsҒAfK8չ-&ސqOkd;9srfȩ>ϛ([=9ExȮ:CƯI1męi>gyrVWA\M/UL+{_^ET?~ݧ4чCt'@kąSOiPD((N$htŀVNQ1,Mat)ln 	AL1UQQ	6Nv͓J_ݎu D.[aj=]+ddƀE|:/XDdQ/S.ExPG{C<feX]{*S27,3%A;r$ܛ+Yn0lzM?Fgݖ9֝IE01{\C;Q3zvNzh<)k!ݼO.Y	:")TuHԫsK$ܾpQ;"NpaZ+Z`O_޹v'vGxKjExy%k?!&-uLH:zWE~Z!`+p|կp--SܬƂnGF3 -_S8)F -|hZmAZBR'ӕ&smxɋ)h͍mbh2-Hx*wm;zr,]+ʑe!և;;\SzgIJ0WYT1b;ʪWIO89)BܾŋWyah%ls2`%EuF%u&3t5*,uP76
58?g|Qz_rX!\52Br>xKԲBG|\|ȍϜA1hFfBpNcu."Rڙ;{ͅn>*AoxkCp`HG$7+Ԍ"`yP-R{fX03q	yc 3Eܾf:H}OJޥqՒV]8[Pe8Omv8m8qt',Ůf;Z]Pdďgp3mV}oB34T/t/	?vH֦,}J+	eE+8^ϣ>mosW]2}ϭC	g_P0=A"*_t;cpl9ϒ5	DQZMV":v		.zQOJi6KSߺ`y[׶r9UW;J8pIl;e{Xa=6tĄ9&ͺ{lT}ASP@^_ƈh:*frSr/>f>UxbC^}"a$):|*[@]ʩҍLfa<ve^f\b@Co}-_+MRZFXGVơ~J[kd'f$>&ԍ-M	LǲZ0ڤäƃߙ͜|&iF"2D8f0̻2ҡ|ɩąD&@$M=$ɲpagv@ajYQݫݑ2R1^H;S*<فoɮLJw4U.`۶DV2*%YnO$bYWQj=A/@y|G7{VQ=Hc3Ć>v"gr`%	T:MOI	3t?^a)afBv,pr%5JqLɛqM=	ēwm`u$^Ev͑ܿ&!J]@H7$yS?^s%ǹ	Gܔț\Z/2&r6ƛx̝ nIT9KqgױKUteq(Nm x^&o[ʚCn97.n&18kؕ8e.Czˉ:`9XfվQld[X,7)yCO|~ӌEGN7p@V{__l@2lL{,1@SLG@g]5VC!o/b'brpȣxx4]q%c̳%{˂K}XA)`ہb-	Bƫ6;Τ$4\SDʓW{rTAI˃]1Ađ$a%ѳ~_'}e9XF%&wpx{,wNY?J;wv|8IOvm]z}2Wsj0gY8`u[QhN]5qE&7Cbҫr;K`YCoX?!tlNȬ0gj0t2v	L]@t6ЌXOm!;ZBS{N';WLP|NKeŬC+G*޾C1d:?>o EK?h?v+?89Q4vI;,$TwЭB3X|>tkƾgW=9;PQXDÒ,fEOp+īhYCvjwŏؕ]ĥ:zJvr'pӳ-)͑%=Tg$\Ϳl%'oZճ"~!1Ӎln}=ë͙=pU.NGrvph~ۈ7lh/+0?Vh+I;-s	٦|˷e!|3HElQO޼9 gJѵfS3(FU;`˿-ͥaig"-B?f;n1+&pY8Ķ1N&>{Lf"Ec677wRSEL[`,n-`)+Jy3/,}\spr6[ y?QR(dk&|ַ1\ȫZo%!`[jm|ʽ͖XR6)ƙHLxIpVSA&@fM]l2ɋ$h}Q>\͖hh~[)Qyf%tMYqƎ9FG˸C8WUgje3ZjnR-MQ2wsefan5HJtw5֎ʿѨ:exm&	IFT**dxE^6_X@{3!@syid(o$nj*jrl^*,4jJ6R$2(:Og_E?$-K}<uػ*FE6]cj<jaB EcrR$07CGpŚuT?YczOwH{ =~-b}w(jT(\7CI۰AKÆĳ&	KƲ]QԍO){[[Sa:_e&IŘ}k]3P-V-W4J_s^"$3_tXXU%wv(ekX3(N|\cįxۭZliסhD,rŢ\|0t&jZǵ\ڣyAF,z>\P	i?R~BԐwpP1oO,8QgO-nO]s5QY_T4{OŬ$_'˩[X*E9ߦjWf1s8\U"uXWLO	H?E|t{AI\&\J|"wML>Qŕ\fiX~@4]\UtfvF̅db+0fKƴ<8K>g<\B'niv_PZV$&F4xfQwf6F}?v[Zz[7},x&Rshq'1.ؠ1`Tķa!ɒ7ѬY1|{$/O-[TD-dR0-K=7'>	DwǅHɳB1p$ρIV>8A$%wnSɂUI5Ǩ	L=ˬ۞p,P$p^.\n_POcDfŠ/@"$U8iQKȥQ/a~q5?u!WUwTuз)t:߆Q\!ׁ&!uŮR-XxBGQH8rIȅĴ)QC*T?AW@ik|||o|ۛ]Ǫ͔&dի$	Y231k[j*}z3x*Q^V^MYAF:5(LMȗmfF/WcbRON@bG<7Pˢd`tZ7ޔI4OOue35s}ɋ2:^afv"tNY\WK>{(![I`I07*A*2R_N^uBj
b5/o9~Xt7-pMʁd^L&E}1*VA8^gzx~.=pK	JXO:eߦe>E,`A9N"@%BPI.(ɲsB.`k9͕o/J{Ͷ`ĪJnpǪ,~H_çYz*һ9 2,4F,Yfn5pHA+bv&IfG/ƁU92V_Z]Blt(oV!qk'eziPZ͐ū[ƋtZhUÍlOP&7F;;=5mT-Yfcۤc*Oj'Ȉp6=, $Uܓ4,(V{7ֳmLxosoXzģCWٓ$	ǎ06d-"xTfQ8tR*TA{OtJtq=ё?ȍfnNkbTx%cadVlKH64Q;Z&`U}'?epUuliz"_k^4N\@=3N][N;@X!d?0{ƒȡA:k&9m}}U=~?^hu;9DW<=.2-P%Hug9TD^ځ/vJ3vίJ1vɶ	_S?9AJ`JD?	%v?>)R޲ѫ=3IQ-~:hg)`{%gJkMU8,K[pwj`Y5/AlR\Ձ+6LxW1+m4L5:/"\03rwM̆U)O5^V[TďCV)7A7Nr@'vr)8&L*	i4d.K^گ&+"k.7իr7'/mVz4aBqPU˨ElmLD)uȦƔP)})OaG7v,kNwe  ޭ:ʁs[)cR0)ZF>Y2Hۮ9ӈRfVۥkز L]Ph(MU>fqY9*qw*Ae<n.tZ%;fLa/JożN K{Wzɝ;WS-~3	OW8̂)CG*>9y^_}"3Ú!ږ,9}eu%I;H&KG~/jLg 76_݅хTb {06 v߇Y.{Ly+tl%Y̓/cL}͌Qr387n4cB|ǳ˱URbم!Pj|vvA18m>v+GNVe·FӮ/vh̩Mw`?bVHd^RCb1IL(`kc/']jn7;e=occn))O6aJU	ʒ{*bO4r6FB	nءW$uHe}nEƳ|9ʹ;Hv7*	q4R	$Bލ^ˈtoVp?8C$]8	89%M]҄pQL[6\)]{P_g^<BJwb'va:o-DaƻnLSRGjar8h>r&50@4x^+0I˞b3$IiVȮjg<D3)x̥\YrdGvw8=M(sH'ViӧĈLk-L<dpqYqߕ66f5+s5rS)49%_&0\yahb5tVi/	Jor/gi2tpRÀ\۲Ȍ]wY:4J ˎćCfǂ8M8Q[3$SF{jJRP~LmʊR՘_syJ,ǀu6Ͱ*ʴ?l4[lo	!Uc0Lň_Hٶ/ľIkJ{R!Jx_5˓<)1;t2EJGvH+FX}%7HjjSE201	~Ji]@,IEU^hg/<Mӎ<f-ڴr7DZLh3q?D؍!=03ҘL̘o	r *L)e@).d	-y&Ťϳ[fpʥnĶrJVu	qJO־J!=`NȺ(˹sSiOʢtΆ|˱YlbJ$Ҧt.5l|jkŭmG;Xpp\4A1)EQMX<}s~`lbugr[IX3XNiSBLMͨ^YgI@P!gtڅYXΦvƠҞ7ݱbYKƘؙ+fr;8I [N^wEyqܔD4?>>xq:0։j).WcH7<K8VKqyc[X4-%J@"\("q`0nc~\t;̤3G.|Rh(giI!=SĀ]2^D*dD@ Ԁ<yeOL*pznn):Slk0yUbR{Ԅ`GП<~u9^DΌY59	J>A{Bh$23^nb=Z2ͯ6`.xEu4+?wk&&w1RSn5ˇ.ojO'ѐ)3ǣueQ|5lƀF<f1!gP$'߄0(j*dǌbrmC~ڇUlRTD7٭0AV4ؕf;ŭhdJK,JCp&Ʌy@6BX(	Ҽê6ư RÙ-O>IL0Cn^ntY3]g5AvԾ-foE}<c0[;WA/QtfXMw8dş!^fCXNYGL?;'W'/}<^<--hAq{3ی5U(GU;S{F]ˍ[=gdJ`@ng"{?[ewjbCt?$Ȉj˱[xK\1}uwlǷ(%vƤj͠v/Czz,%$4!Y46ڡn2vM!.W0D@2;095(άYr<dpA`'qyL8S,g7i$K>˷٬~4f5=fyZ}˘(6i^@[~2ĄyҴs_Xu߆TL k8vɽB>oy̣Wݱ:NFdI1ȍniM~NmÏ4? F46=9K'an-x1uNlhG*`+>fE	5N&Zp|H~369{1ؓ7876ޝwq 	n`&Y;;
O@[XdFHyed|@D-?1@9%RڧlhTޓ7E>ȤU^u0Yh`@=B>R>\8ȚC5kK;Qž+|-	ɤ~sX:`NBjG<@v`MҢ̍d&~TCgp?;UOBTQ>KxnWق,-Ya1SF.)u=gyb-ޟiW+++6HO.X8ɜ XeUu_KZ`1Lo{	pAhkByPatvahx5JX*).q\1NX&tfST6ctP-\G[oSe.D;c-Gy5};rsMCQw ?1`x9R'("DckBrGF̗HQ(QgyAeD/ aV5'Ə}:oPtuKGwRqv:[B\([hQ5K_[5f7x)C-$Π+w{nàbw. 	pm S	OU=Oqp	:pD|ׇX(͔F@(,.8%X?U}WRtN2"dEb+7(`dx)CɉryàT{hDT,+\{eUK|8SN!'X0Ʈtn1	Gm̔q:Apj+n-J(LHӉTMl-.jČEƎfqwZQ_aFuWzƦkvvU&|STjfD)ukMFfoQ)	hÕs.,i1O+XI~SizhIxK=RcW"JX	]4s@4WJiOcKu!̜BnKEPͬLdRʕA6=ei^}XS+K`X	l%	!3a-ґc.E'Fg0/h:6A:	y'.kŷkuT)H_([^dbxOB}d9zhK!<c~`sTNsl=d&5~OThjE"H"_ݶI556L 6`0%rN(t΀p^p+(E/A!m*jeH{Hf.H<X ƋX\c0s?>DbYM](Yu<^]	B%v,M{v~44F29nU*f6**t^ˈiJ&I!5D`HW+xcl-4Uh	\~h	pp<yaяA_ӐMufg+j|3FKe"GSa)`|?AM&MR'pGr9\M7||Gǟ!ƎuEBikA;H>Ƅ[Kg=Iɔ8nإEr=pq\	b;,/OQҮ31q:/h6"Oy}z@mު<k00`=LyV8Z+{z?rZ%~3[]+i6:-NX΀~Ċa]OҚsF.ŧ,?":pr:w]0pނrQt~r5)ÑPA"L)ɴFu[tw}Ck`gJcI!!:4RM)WDyLТg05ܰ|(fcY~vGg^ϺC۱ԣJa{Ho7|- EՕ`{G0OYQ4geh<YJ.Yq|ԢrfH^97GTBaZ9~,:?^9>V=ĤY(PFYȺ}s98pO3mÐ֞8SQ2-({F>,ţ]&Jo3Ǵ6bE5VAtMFU\)ǔqrZU yAOwB6%`*6͛dUEooE/^$.1`)!t8c$_8ϞDXjͣ)Z7(x	^3!dk˳ȝɟAS\|gz:і?v,@cf`M|'7À=K$L4+4zavω+7]C۷)_JMpñΥ_e>H_Ҿf+uTOALaRXY*]w[@*tJR1`֓"0b-}'fJ	'v,xz6Tv$3$gȒ2$kƔ!ɮgSCl|Ȥ	[vBՔß@=fy	7r	,f>1mn4Ί	dTunh _6xH4Yd-XRRnNȒ|[ŇS6ߞMe!U_|YȢ$nړֳz\PtA)W7$Lovܬˌz(_zB@1lڇS~|cl"[`8_h83+	M	7']251=nynzDˇA+z&^bgˤvxx:؊+Vʅc;NoLB\cRJz=2k 'rGKWs/!CC%;`mYR)kǅW+ܙ;Bť\U1GȔ)dνKVġÙeL'Ca`ո7/KSkw`aZΫLȍ'ScDrƀ[ڊ3ReiV-@Õlįi[LO~L>tʭK6q^!]ʗ/kDЀsntBLRHwXHCoSCUܻ05.<S^1],l0`cA)ӡ ˺0	٧ƈ>OɊC<iI&~O_^sŗ=qtz0;P-{a̘8Q>w2Hg3~Vtk1zՔk,921GPb÷<3%_ ln-ʔfkdmk1AX-{($R]b ݚZAvc+ sά1ēΆԩO١h*I)VHwW&tdXi6{ǧ!$pSHT` &;?k9dF%p5MK0tuةZ ǳXpejX5OpQaƊ8L(o~LǊw|1)AVđ:	t5Qqy)8 ^i9!MmH:.[vs2lŚb*L4V1AjQk]9Ms3}(Kڄ`E>˔Ǝ{ǀo2ihhFDRH}nɾR|ײp̕pyQCVͤ!(0ViT^305
NNǡ2dq/.|ψn҈B`7Q0o|i`OY`B:ʷ//@-v$O;)ȻeO"T,c!x{~^"%r!Ne߸lKWڨúxVw=0NKFy,]ƘUdio_&83iXǖVbtIUñc4'޷A2hVcPHڒGCsa)w|GM'Sg$E{Yڥ}l];v+!_d>iCV=(bmNd-+<vFC)4KQDٙiaqwi!RZ@P@B>;ƯQF%tVcfdNb_b`[=ȕKZnǠQ[U `n"UKJݢ&)Ȃyzmˮ	A(3!95ܽSb!Cs@I3Bb4jB2m4ʣf:;cGfZ\KE U6~T1PfC]0PiYۥam\3Ma̧P&pv&*b1߾C!CS,KyfSc9.kwKB<@oQ<:wkN<:-'m!	-x&(T|5jaʹt3C\=l$qBz΀}oNoe	/GFQKZӞku/.GյÝk/oI%fO2ÈpXw!unKuZdt<	}B.āu@ɢ]+b	,!M0O(Cˣ7mAn3l:*LmdE!ntQV+rm}6kfb9iG	Aqա5C{g@)7C|Jkۮ<0xGAK^&"I TUۅLRu4]@<+F<N\J{4YUCjnmX{p̟Č,t5:(1CŜȾmu"b)߽q;=8%9UB"2kwGq*	W?9=+*`$zj o?lWM_ġsg|RĎ^\c	xaF8S,͂֠;YL!%y:WͬO{װzxkDH|WP{jsz˟FXl|-HMinXwJ06yMRO}:ٙLtnH/?5{5ɯ)i3yIC<prM}@Ų&Ne&D;E֭t@hH{n]@ٱ_>aVO6%xp2PQ,Da/"R\҆p3tN̳{1TYG6!p0ȝXCËXDژhgU7^[>lZU0u.d+rr`u(sdo]v6ˈkٔN8/W+*׼OfCcKvQ@.nmLχHl&t|t7'7]Q7cp'axli7yjXҳ.~-|VccW0%j>XH+oBI^Jj3GF/pT3kTԮn܅$wxȽ65rcamwHbaҪ{qJeYLVHk9b x}Q*bƤ,XY84x&˥:H[7l?8d	kS;	c@_09وvg 	{|ģhɊ޳S78dPm?ӈ˭BFOBuny=		5>h()U25EQGthå 3e6X!ͣ4<+`%˝ŵڻ@"krICvnM> Z\!f2G7.˷]MaZ_̓z/i'Ia27^*IBW9N	}0r0Oj_iam3p|O@}1Hbs4F;x0ʆ vxvkk	Ks[bt6e^W٢3Ac}xJ*Fŋod	V)Gpb˳ECJ_<("Zs$`p}^8e+o,ld(UE 6yѧ:Bͫ9JE̞q6 ңEX&DHLę'Lxs4J	$Jןq6GE&s,lā|ڇ ŕ$0l&WGb8;sZo-Y8ipu߀i6n454Q=ɴT]a8JHJ''"]*d)hRw.m*V_-kkɫ8kɎY}ëKj^fɁCRDrp^-0УEɇ? b[H5wqC	.ŧ95.`Qŷ9!2o2k̯k9m&lC7Kk<rvNs9s@dv)n7QCΧrHuáV8A|R~dHJj{2	9@˨L;bMYӆ?Yգ7ag6 FجT*0$(3HS'm=n2&*ܽVJEŷ;|l}.ȻES׾KM"ilHzP*letmZK["kk]|8RtF_8&$?TM2_]K"\!9jh3s5kgƨ$Up\<XA`}ieı`Drq]1vS1-P|eY.\X9h5Y}Ҳv[~̎̓ulSGM@v5U+EC;sTn	ca]ŋ,RPMd&Ts9jXӟg[k\bXqAay$,(0f%;8ʗAg'{aW$ȣz+-	pʔYṊcǝv25B`]$Ɋ\wh1W,8Wߘ77(d=hԾ(R0Yn+فSW1u;}a;45|bz$4Ԩ-~̾Ŏ}8X7[8Y0ʞ5Kc˹WгF_W2aR߈ n?Rz&^GC(Bc:q	fRthMWRv|mL,aSrkR{ŹRbp]XlދOnw%"o	Tg5H֤+ͥ;nwR@4YNTuę)[$Q\Gy}^FeyS4CK ìq ܅\Γ;j*ekAL/ԪY<K>ث߿){MgfPmML;jQ&=W4RB3yռ΄Yr/aXHJT69Pe	;)0vМ`L0	rTes*ו;eB.Y@l%kItjZPԯ9VNt=[*%dsȺ-S+6a'cS&":x
h{uHÉo^ǩh2DrFU*&zI5(ؔ0^GPkā g7Lmj$pYɊCqf*w6=+|0	{_bT"y_ORvR>S^K)s.L],'_k0!XB&"2@D>3Ahrxb9K_od?yi;N.d4P?)c!@$'/~x%Ej/\<70Z-}Ӷwgtv3[QZ?uD	*ovB8aN`Q8Ǌ?.;o003{YViHrEZ	k˚;݉f;5}u*^/l>L>8l5ǌ_%CKzJQIDOw2ES;zգQ4%Rn&dEP_	;I&XRg3?LIl<>6VZ	V8eej6[o/yI<f+6$J;PЯE9&^PƼC{;oxذI;o}߾48s>dǙ]T']0H4Ӧ*:?2`oYnjmLnMq6ʯRtHK|ͪYىFVTVx|o*Poǒ֤O2ѝ4&Q	ߒ"ώbƆp<EM-M+`chb/0He/p×`+sc93@mɼ]R	J8ŀ,Y3X_}%wo:xCh9;Gj"ǖ/.ӡIv>f)N<	(џo'2L/36RD6S|[oqO`u=:uoDD~˖7J&$Sy˺Q;9o*(8:GM`(?/JL1VJƛyk<%AH}+A[qUUтZg0Ţ%^ANc0"!mp}Brr|V56eyJgʄ1VbF:!fȾFQUIͩ,_'zLrU:ɇPƌ8Rȟ%WI,S+;`i/DiWշu24ɇUѪʧdh/yG32Ε@ƏylV"W)^|K3qtd89lJU+Oretۍ.uFZq]ujӰ.\{qR3KFfҹeo1H%}{c2YamW6??N_f*"x	)ʵ;{| V+	׏h$vƇŻ.Ⱥ	]9gc\NuYi%G4+mrds<ne"wIyҟfSQiAcHJ"ScQ`XnUK{9Xoq>{yzvwDdgPUddD?u*.[6J_NGݖba.&HGisAM/8R~-,k0ryu;E|M6"A4;S0T%,ހ??Gǽf*L73[-ȚVxϖ3Rf|oouC0iwrXo|]!D	bI\)IKwv3fxGєxYN	dS>(nMa)8SA[ӣmMkq'!Dz."-45E,x<**ڈ`ڪjY0-}oӌuRĕ+f&ɯgGPH=|mUϳѹ-4>0V\]OWkȶtHx]1Va=ʗ4+O{'&GDH-˫jHOOȷl`7նZzJUϮXNsB5&'٤vrO=Z"gQ!o|W1hF6M;ݰaM<}fMZJ&ݪ%Kyɤͬ:,tu!@2e-KڏA'YiHUjוqڳs6c:7|եC`*3xB*39j46Q/p޼ˆp^Ñ1N	in)dZCf6ɜ CV˂7`M49V>J"dSjD@PY(<:cؓ!dO~SZ *t"^ëEMRhv|ɲFro.|YEKJbq2ܝ0'j@3èʷ`=`v6D4U>bͽI@sWqGtŶ)soI_s}9TG'O)`ɭEj|np;uig<OA5!E4Ў{A@(^+PZqs@[0TZlkфP$̝eȂǶZP,u7-ry%?ȍ_CӚ$1*lpU&0bZZx3ĝm6W$ʦ'ڻ;JP@$(uak	_B	mFW2E=.'A(4A1J7Z:>ҎR7ޝ|s6!Yt8xVE-uP/>Ҿ)ޮ])/f7;:!u2}:k^4*rfou&WdNuR58>q4eA>e==x@xZ>Zxh%cLpre1pELyMvΊӕt938tK'se+$ä4MpojwbllZ,Q:)ոiK7YI^DU/\Rֈ}!~z0B9$D<i,X&@Ru`т7ndVxjAuhz%Ϯ-KVe5N}(&uS<ΉoZ%F??vN:~;7W8CͭTZ&gwU]uw/t۲lti<4XSФ	)ásGsn<[Yɓ8m%܃KRx=u? iC$2^O$k;N$lsI6@	<Ȟ-K'X*<9Ñ3W>,K9w;KcrQ;N*/JEdRތ,3qQu&^Q(]4CVoFi\G̤Ԍ0r$`k^خƜaP;,Tfܦ3JK+M=Y41e-EYIagܼj8|vح{7b]M0IɽM{Yv[W)zW&߄gz=! /m]C<ymMȂh4f74cDѪ6XE;}~ms%V}%8ǂoԗ+nˍvêON	b19)ƧŢ"qܫ]G}.tF1M{&ćgtfykJlsSbOe	bAH`hQ64 .Zgz}:`7. 
<uY9w?jp[R<\qv:ٹA|a\ʲpEk!w'D.KT˙χbO[hRBITo&L6tzZˍP>hG[b$'u?{3d:)κ-=͞h.Js&8jCSE$\SQд:WUpG[_YM(|lǱ[ņ.B?>lי>qd(yZQ=2pG@Mhjcٖɴv:wZ"K5w%A?wS*Uwf-*pL;Icՠlx%Q;Z{&9C`c4`"}f۾9oWG%!+ZgEG%3+a0,pyEYUUͩcK$ڕYʹNTtHga^҈/;Gt1"UN	v'J9˫t5Z/huW~{aHlk`K5tXxaKp a&7|!DjVqYAūʠ$ۜe|XmbW(prú	dvEWī14tfClJx:Chsh:bߕ̻3xO8زQx˓o (cҎ	Kxڔkd/ϐ[v*̪xD[.`܁aFQe	%:H3AǊIa=)iET?p{M9YQ&DfbC>[:l`x@Jn456v+bX11;vJ.<7&͸^b-YWŏyr^]r\Ef/ֱ?>ϮDh}gIǙǺb[ICV<sA$=Qb0oE$*ʴ7mi(E[hG[ٯ̂bpHz1>(ZSL7jyt~)DT.6TQ@PyPGbs QPa7Ki i?g/b݀7@f	*M6tope/eP`ثOn{ǃ'h!q\>u9WZd;=Pe~DRҽ9UJBg\WŢ+6{~W%)VWZ;z4ܪ/ԎE\EM693KsAGŁYM(Vy6!I>_F[ZǥN39	y=-	iC9dkC*AgN}: J3Xz/SOTknxV8(5Vj,]nX$hT@2ƪ*O60q{t(1ͩt0	,)nGiO6F-KhubYĜ9IH&޹kL7"JgzY8y ֚L.:VD8WAi!uY*ãF\`,[3D8?ׯɖϴl4X+x̅/fҪ<THE25ܢ{aFkp6O,KT!P͠OĈ[5];OL=Yn0{6N.̞<T*)Ӧ\H(}NpCԵv3ZS`tqH,ʤqkA-ܑss$&i9@-Gf̥5yȣ{1(VxvX5\T.&]̅$-A@gPn(FA8Qxߠb֥F1k$[z_ۄCo.OL]@5&68zC؎+2{wsC"?WC<PN9)BFJcqxe)@dwNq+0/P5{zC`݁ܲ)VgE]KsЇpZtӲBE9|!|	0Paţ;ŝԭDL=<\ǩ_6W=xijfHm~xK"_<1b|j:V[45'ٲBhc7CvYHǑv0Oy.Fq\8>^^um90i@Xbr0xǡ̰:SGl3n&c+/sMנCV~ʹĎ(~+ƔĤ(:qQƸ2\G],]~EK̐=@*R"h&hj:W"8ï{V{)K7;oGS\(L5DA5u1^vًHJثGZ72ZvYFRD"O[Iƌo;L9V8,wlC9lAYz?(Ui˽VQM>':	-Sdܞl:w;IhRm$yQ)wDIzLx*ˎz$3l~`ynvȪʰ?B>45>P`^^8eND~/3 (r Ցf!TpEgaQǵ~D<NrZ[ml.~͠?B[^B)r&<NC9@3,DFxGnB813}o4KXQe)R5X*-&&ɕKÕJMI߼8ҘȀT<&56hMhZ܂S>@!0P$sbgtB_Ui%>tdFcSY1Bt&o{TPDH%ٶ 7!K}<H{Ppd)U|^h{?Ji^\',${Y}3Tyaq	f<gW;NU$}oЛu!ӴH"S.\/2xCYWG%]7Kf%?z1?mq, K!KÛVu( -_s3%Bm0?XD"&ZXñ>M׏u+/,67!Yp.ýd-+{L"E<W^nJmwJ@^߻p%-} @8y4vR=ȗ!sё&4|A$&ɬgwI\c2i9"Jgk?ĘQJf!]Fɾ|Ӱh.`q3fWszwU[	-`7OP!g̯-@ѐ<{ߍ	XDd;yy82y5I5[tj]O8]ٌ_A;ňsj	es ^?n5>b|+ǃg:EH$Wz&{V4xo!j@F:v@JK(0	=L1KTi[48WHG^ɑ'Aè405ʣ:^j(jFSW0.Tt1ؘ,;WӒ+Qysʊ3XQk܁zWNF(Pm}jL0I*ƿ<ɉ|͂ixݻv]΃8ʥLw:r>Gb}2+BE1>kd=oorBLaeAaɖ<I?3^zFzФYjL[xyͮpP}b8xƉ[>g},WS0d
@ڒ$cǂRVzB_X)a2 BQw,D^Bg,wLvѼBGD'M$TJlc59`,K<?̇βD&$	ҝ]K}dt5!KGpyAD::ծ'TۂIdVHs3ZLh~{&Vߢt;	-ɡ>c}Wcps'p.{]a9WyſN?n!xJg8Ŋ	0-WxL>ۄ.(f_4W?:S/>5ze0_v)ÔI4_q6!u(kqzہ:Dk/0_5P>I\"vt[7fԻbGm_<)po4DVYXL%Kޭ()	8,Ռ*\D\976q+-pj4.hqdZV(Ƞ^yCQG"УiA-}7W{`TuhG5w4 NNgnCJ%Oco1e}cW$O3'z/LLGp6Q;EldpG/mSsZW4tՉhEtr5c~TVtgi("r6[V	lU5\fs`~r[YrǤvVZq)wSH!PXfE6CIcM՘ hKֲ^͠5oG2ruc-HĽ<MWY"[1M3){IB ԃAur+0EBR<Gt\&_MP_MZyP~ʡ,]+{zo_Ͱ`y]nXͨ]Չgji2A*3<0-5BIK4ޘ92soJ3C,yruƹݓȳol'	ѕAB$1|ʪPr~01vԤA>Ȇ&ʱLasš̗͚(}˶I^zoh~apZ݁V޴k~.xQ	F?c~M%SZK3$wl^7ÂVk7?^("fT0HsOϷ&G=-"!7|=q7`.t8^"idfuQy5Hny?GTeR7g_]JszS8d%E\h"5ư7(z?i1ivϴ<b|ϴ@g!EtNKh*=NuSb*\ǫSJ^dY"zj}eȬ1D_qסr(DZ1	Ix(yc;FuQ*"b]_WwddNcb:T*{}&_MA@ݱvBL\F)5~+[xMUb[sSǷKR>ݾaert҇S%;ݤS}e3 gI@Q.;`԰*hn7jQϔT%>0,k&&K;e400d;xf8c~<tbud%AQ\L?j}eb24\lU_O4yMIa+dmߘ\q~]-lV!%DX%)k"GIڱDt(dɕOǯ8S%L-Ǟި]ӣMLF^ɄFv%9X}dDL}-M*1]Hβq9Js6s30IMMTlb]<z,)ڰ`KFØBx, ì1+OakYkEV^5ZNTe1"kO;ktw~-\^+hXȠrHtl.t![8?:Q!}&MѶ9eHȴ|?zuY[صZJ|9-^$kxȺu&vy\/W8"!:̻IMKFVG<dZ$P}go{NV۹]PeijTtSmzx>JB9(şv_Tc^̪͆Ғ)2ofƯQAw6@,R!$s:>f1W^֋=R%KӏV23	ў	,=Au5wT	FM+}$lot6mt )qIN}xei_0A>ڿX`rMJ<Dc?GG}\o`@Q.hMV!$^u'19&i-)T؞kێݲBzT%CV(tb	J1OAKȌq̐Jl8Ugil{ڣ-Ԋ en t%v9gn:CVn%"qjs:1e~khIWr,YOB[К7hI;exNsǸ;|@?[1\3Vd4/$vM&eϖH$wG`Hl/8 Zqۏ&-$%6aV @ SB1L3[)ͳ֣ys[H5"8m"g۶Lޘf!n40D|10-l1Puufڪ~`K,=<:C@3{	ZT;-rG-(teh~qNQ/PkV[(sA+(r.r\̪nK7yʅavؕe/GLakIchJLЍ|ah@m$BQSTjh,Wl7IC/d_3Z׶vb	@	C%zBקα;ĴRƙ~/aï@\p'ʟĒUGjظX*3|&cm%J*yM=fR6Ak?<̭7	*g* djhV=1*"w_m~*@j[@eSl"7e!}<jcĭqȷ>eYbX$A^_zNdC4R}3.P{A(nlpelįvBb%(G8I:IpA2nuimev9Cxb=13=UcUcpuzH.߇eěE{YI^k= _",L`O!GQYvq9{ymQב,3i1!}/$R*"v"Vzf|zWI*J9ny޽;u-3w	U00-1H7`p77ȗɺgSnvJ2`Aj4-[cu ISL:}L]Sa	w='$?ͫm6_5i{]s:u	d}-$k:H$ǌ/rQBcąOzI,}*^B[.9Pydb^&{̈?)=gX-`/uTq76^B+ܪ.V0zx!Hi	Kg/|yD^1OPAe1g.mI_~BCu'J+S[J}E}Bł:'a@
 !C"ߟǥiJ=|iXS9{G%ܗkׄ8bǃIO)C_Tup+LKhdaĈ^'Ȕ06D'S4݋0dp3}tNAi|?9${f*ۺc[2^CPesNLIxWdpz21ɪޝ`<ĥ;Y^T?s)XгіQQ{VQ`V+EkSlntY$9n*̳+ZJWwo?$%8q9eVN'"0;w|p7	N60OZOJhyVV~]km~DP86FrcV~}qB}ŨKA4ks	]j5;ݝBxNӭAYٖ85fS^}%	6Б!ƀH27v`gCqĔWՈʯoˇM:7eNN[UpNa=<%Vtc}73%">Jҋ&;J";XQOU~%y&'߭]h\uʎ(Gx'O'L,-ORhNe.WR-eoNTn@S`AvBE0ă_%ŭۀͳ{Y'rȁݭukUXK<)!zѬvȡ"TC5ZF	5;DNYB%tDQT1ԿҏYF+.<KcvSjVMBox4	,0X}:/emupQaezZ;qh7Hs~yrǴ3@MǃP[o+TP$&r41pW8Px!Y0NJS0ZsMhD;GFٽ$ ,wds1ɓ x0pGZy-mGj).G|9ݡGms8*̊xUE8CkXsIPѻ1 lF?;gFBR|Ò@xDclqчLJl+1Խ]&1KA'86i3Sm$8fBҮI02t`Wq}GoAcA.>΄ZmTjxVȄ?O@"Ot?FdtSoŹ^˗Ï& SZbT[Z^HqJ>HãtVO8,t)XʱCv]<O 	˝r"(wUQ(Y/(MیWA7]x&AċEESvv"8[:Wh7cW(; =\(@Gתg-tA*q{ItYZVk%,m i'&pȞmRQ'&:K(2%!UұEķ թfM1'3b'aXExn\OV;4Mnj1YmԈ>LvYX8]JgEe3دnc+~^+2:F'yD6s˘>` և)cGB[RTtM ͬNċ"aû	@pBVOn]}r%W+)<(DKlo\ȳ>Z3ܙZX^&nS6ń]9'-Wx`J ޣpXӇE͒J&7-?B}8e.;h*t[R<ҝAn|Q}O>?Ba"O8ût͋6tx@pߋ7DinB/apWc1;v2Ot"p+7*@Tolz@uXU7\V=9HsNjtŉ<n6e1%6$u,{ns6`Ǫ88IC!z: Vl~E25j81Nzz\9w	f`0;M&$+ho~=Y!gJ`ȱ&`[J}Õ6]:P1hv %,BTH=tOY>(FEhdsGZHS( `	pz^\	ZAZ9;j9]@9[h_LKvÅ6чȀtx@|m^TXc5\mD(\7LLFM]xK,ՀhŒEOSbv3{ Ѵý\9.CWƅXЈ%;.ad/U4Ĳ*q1M,KIMc\߼214$U͢Sݢ7c=c7q/z@̸q	Ȭ9(G0}3zl4y;?ȼh{(l[*}=dXEg˧Vסv0!XDrGa3A׵::>S@&ì~SbyRɘ`*ULuIN	.Uz8߷)^!POTkъk'XW~H5ex&MU..u@Na(Ñvc1DͷnLnظZDN\owOlڕ70Flņ_!֐]6mK8B^duN'RKF0t-Vd[pWhOuTY*7zF0:3.KȠKcs]r."Ƀd4M҇:%1]2JrZƩkMܽ8M +"4b[h AǾ,ihol&g/Ыqu Y,^YwBR0R3QÎqMIpYo$roB@0Pm/[mCå@BA1mҗ= Ij׮;Jlz:\ܪE7tQLQb|Ne"Tyw0H[{(f~ӺF_R\l"THؐs0bR$gL9И`dȖ/v	BdKη(1-cO &S*vDzu3pt8;f>!I;aXϳ9 {|q5Jxdl^Jo,3DΡm8OW2˛o}.r$o=7aXѽZ-s6+<%qBOܓ+f%UFɌ2*DҶqr6yNuJd]Z/ØWn9͈@p246m $`2c\p|E'F6=H@1X__%66cI,q||]2QNV6[1'٨!]haj=ƈe`wOޙ%:qr}g{pڭyORܸ>ba2UQ@2Nϵkɞi\H̸Iy$)\G<+vYl_a1)tw}R1ipӒW[~Wg1:^YKftsLr/jniz4ާSz{h`eoJb0]?|Na'wY*ic'6ɩxܛ%?xiݙk$Ǟ|q,W'SCWJ%ȳ%2*mƄޡxr."BhU
=xzȟm&|}!Nuş/G[	(x7/	^A^7==BDyθ~ZV+_$e0+PǾ$<*r}h!&X5wNeǐn0EW*`>Z>;,[\$qtN-}nٴnS p LͽiCm\>Lu Ikd/ځ1FmCQSARCOk>ŷ`z+fvtA0Vc?ȉӡA[2MrYhlå3Aa_/2W9-xݞlM~ɶȓ@Q58Q%(q/_Gr\cWO}ɉ1%wqۿXb.NnyMD+EZ(,-/TIQ5f$%z+R*c`7(vL?ֺ(d]z<bYݵk;Dq\zl?Da<g7J}R,~wJy\H) uTFٙ?T	H[}_n6gu{{)nk5&*ϥk|r;č''1)?sq&[ ۏ,\e,y9kEj.P^%mg(=\MQj-}pBECan1eKĂ)WW094fh_r5]/v6G%(G2jn<	?@VhUd@c^-?3ŗ2QK8y:&W|r4zZ1.e).Ě-T b+-m'ߥf+ncjUΖ1V7:ŃkOs8ť9ʮYdzݶ6Ka5@YsA'GێRyK&h}ȸmq%?<PtV7e=ã5f|^Q|Zɘd?bfNWs3ny$s"߯uR(J-b=LS>I1ŎjaȠ9$w]\=85(ɷ˰t9X>Y4JTN*sgWȁjFƲa5evciWFtf}	zg>"Q]ŕ UIZGY :_(,P΋Hg/@z! ѰϺß/l<iBS;bf%϶\du܆y,;+D^Zj[הwuRy!C^XBdPkIVXYM@wދg|:;``i[RƁfZ%?]e xs\Cs,%ݚP@_ɮr09xfci[	]eyʴS5i@XëI_~5_iRT!+!,i<&GޞrH7F!yb;F~;ɳ׾*zW5}0zpk&E:N*H<M3	7RDB03yEe*0ɸ:uAb|FdOa3,sokDjôq%}~a%d^K_A_׬Y(^`g΅0E@S5%*i;vh`*Blr})êخ ģ<V[)/zA	>I,.TD%!T$hsQ`B`c(IB,>v"}FWzQEOí>CZmJ6NӋ*ݗ8cR/YA7G2Vtէ>73rfBEBTDL&Ɯbɝ)@3>f~`[3X{]"/ikb6bjPhk_4ĉZ.MQWCx}kȺj̵V	^ǌ4d .%&>=,k`y')X~H2>*&3CڼpXK^	sVBc'͇y'\0)aٍ_vmڨKê'T3֒{ev1pqblM2qN͕Їh<ӏa;2%kdvBfȍP5'ؽO'>zV D$	pyalb!~i}uK+rg~ȁ>A;W%gGZí=$g2^c`Ը׋pHCaJz31.r7=:j1ZLmx"+ڙVe_A`BW0eI>}E\uoJWIL5uyɁ0B߳:2ph;!Lw9,.vH8gː3RUEu>xb֣[Jx+Ǐ_6*"oŏ0i2nn/50Ǐa,Pv_OV[1s_8(NòOqEDz0Tgޔ8n[Huvgp߷mfntz1_/Z5~(p]H(}3"}ԕtKAk<i8(cR[TP~$oPөCkk[7Pub4τqjPZgtWL;*	H?:v"͍l]6cŜڟ@^5=9g7\0T-!LTqX*GbILIϢ&tn|l]~esnCwRS'ŉs%]Uʪسef{`d7Zlk*4мkIJ(Ӊ?D~3M]G8RYy~;1$*C&,Չ\̎vE~	P%=\3/5Dޠt/jKd:a?W|ImNĘ~%ҮwrI!"xA'T׈jX4ʞyE;&ȝ9x|3<\?		pˡһpa}9{){ȃW$PZ/zX2dk-&7bq59\i	55z~<LsJN+,LV"4$	W͈ieL=~ך/GTDNmxmFLeH=_?lNa2LUZ]<}24k)+'*زx(CqЦ! nǴ^m? UPS"dZyXg1f-8 id*.eW:sL^cgnEg5ȋm&R,Mp/-64|GEOѻٗǛ̋}<rh3EIm(xŶ֚RG6j?ڼU}Sփt<R!o^J^ zq*]ǆg}4g׿(N3lx%l?mrdMD]bl_\Rz~(nH֚7Ts>O.|@,ו/E;*vH^r]+S2V`^@x\620`]ƉWn@ͪܫW%oJw-Ua,̥A~ΧznH8f(+`Ҕɿ?<BzYB<Ӈ2+CUu'8Iͥp-kLӫ?p
W cŖHMwPF>ZoɪA`Txjm)F=rC43˲LC4XY/,y_,qٰUǐN&+ƙV(J6|@tezԟlǣǥ|}et9X*Ƚrt'[\kuԕPK]6z[i6@V܄gC(`Θ8Tq|w1tԔ%jk'ȊUb~YomvXW4Qh98oeD_W:bLΘ7ihJPaV5bZ>31w_J ̠Ea=T{?@xbqv*/l[sa:GFK5	vpڧ/Fjqo[W{"!J$P60YYp-pȱ=V X ;/Dv9sn~}<}:9׼k*/j;L'epWig\<uU~]ʽ՗sNF1-PsE5LbϏa]L'MVKŚJPE[;iO-XtݾÚtIIh	˜WwSB.Cw! }/9`?-oӞǴJȍ̡'_o\gy0AtDZi5ɉߕc~L7!PbYq<ʴ'y+4UQWsZj]^sQ|QBgz*ˀveʡm|i|XMA^cAY)9ħ;$88'ټI0[\)׫uK6C3qo6Q˓)l/ ]Y}`n݂.PYcO-u0͖}^BcŴ/tʢ$h5L@Jn9!l`O6p"ƷOQf9W2h|JzkfqdYba:Jr&bQR\m%!9GRBd5>2p؋V'W\aۓTcִwVhVdp9d"ȉdn=͈ǹEnU{<cS31zooĐq @G}CLgw_n"z.2͸ϕRa T0x:˜ۖ'!Qj%GK.yd36LL.:-<`1!YݱLt,n:`/}/$S"4(GO/aMCSZ$PHa?GcGy̍,:PE%AuΪF90yy6gZ],(_Ġ3D;SAĜ^\8z"4ʼΒԘp$Kf>-bPu&c~5B+8+\	Ê/˷c;ѭcvunXa+B krD)[3j*J^QP?ѐG[ߠr{goNY\g˲!?9ydHnDM"Ϙ-,s!ӗ\6_AoHc97ø4jImۂ<*<.cr>;x3Aˤ!K)JDH<}D^OZs5E2L	ğjGHrI-7i%(s5ct6m6؏eMc 82a+fy'<3ym2jFĊNO΍}brńU_ɔOFL<wCW<͜eY!DK~(͟bZ5BM%x{ ^F9Cm:lI$@Yئpդ-IL9]WiU-KvO1*?׫[S,"pwrd;{`}̶!Bwz_gZjv66M(ΜiI}uV0r6VvctJCCɱ̙VÔpC+ش:SJDxt!15N~1P^ՇLp"A4V)(Նm@\$6ZXt}^A/}NA~Q21{Bx7>&N2MLnbךg] `n]4á`12j\avmmvLWV:G^XWe_o;5U8j]?xD,ruRSZImm?F|W6ur\MŧQ'gUwKcdpRٟ,+tݚy/TX+5ait-	iMG͐br:NS%+9k$hͻg]ƻ|UC7~`9ÆwA)UoSC38Ea{IGHx(Eɵ@ÆFƓ)F}WbPq;AÓoE8Alem"Yԯmi{[yݭ'x,nvWWymEEӛw1OW\^[QfQy&7I`jU1NtɁ17cUyc!g+}ܡ^v.NMIO3B;k^P6)SaY-|%r)	sʲ\UPU9C{0qLʴg/z̉F"z0@:%Xj}z͕Dˣ<za_fKKKC-oayz}/b7?tb9gߜbkMhh5ݚmh(jBF;zjЌE0ޗjU("FDǛIEJ^ZxfS˓AMWk|M.r56'It|Gó8UCݛew7ۙfFRHx5˾j(JUAUD?U]R}v8<x[y`CP $%d5a^bPnC`J{ZyPkߝ$ʱÝ̢E8tX,bq,STľJ{LXlDKp3uj}6ȳ)uۧ@7J	7dwoފb+:si):N@4NTnRO_MNbקǪ) 9IHB_d!A%%F&Zpi^ TO<^p~iFkZPvQqJ;TRttNQ,jFt2˷yFeёԧxJ;^WxEhQAVkYXa0IxE9$q5-wD=ݬ>DAa{&N(,`H94ͶoR|P9*HR\md2ߜTuîdXS<\! k9@x1IZmh5~bpwV,3˅:ȩIViboޞ9	9!J[gT.nɅ̤ВƔ057E2@:iZYt,ȩPMgRN5_Y'&|ǻyݴw:Ųn:{F)t֏3xw 5<	̝g/kO(~˧Y̡̾$-H;j{G;ц!OQquK!6)@2?˭{IaRRPoЮu[)ɷ8YA,}GP0RϮד-),mar)ǉ3s@FBNTJj@^8˙דJd*WOO:3R
|L0}GñBHjT./AA<Ɵ˗EVʷq'$ʑo)5 =nuY-4BEZNlK:pupFr_|zZgޙLZwFt>ބ˲c68kZ6uY",Yd'?xhTntϹ9=ɜzǯ[یNŧ	f!pE%lŀЎ3-\ɹmMpOM˞|u]@*%5BhjwxdFQ`UZ{-/z.Z".v9~8TT!=aRAu+z-rgʂ}h˲^IY}=Y+ uBB<ۏC,G+6.tx \bE5VVMǱeoF]9:I}aiph\	j9Br;OD{liݱU+McpzBǛUx0g.}C+t9Mӎ?ш͒Y+_2w2mFV\,!ePw~_H9R'<[I4\èPoU̽YHbg@	yI*,ɘyKoX:6xX15v<Uw%OjԉA=s@uoW޸(Aol1ԙpR3j	'-2lږV*:r`wdE 4 "ٖ@ɭ~wI{lW.>};b_>|^_{<-˂~Z-wƐ<YhW ZA5en8cE. ԃS&	2E*j)VEǪCO|6p=iYbNzpTmѡZȖH%vw,t'HCO|FZ4?G5j%wX	_)f='a /Ne%cg,O1ŊC̓:UL^lJZ+Ͱ:^wXʁu0Sǲr8dbغvove?9:YƮ](6'.[о<(\)|HV-ȲL2B\*1c33ՈҤ8VHѾZoֻ"Ji֎[')}hPbj+R<5[&L`cIW!e9ܐҊs}^+zJX{pK4jV̛ԛQܨY>	h̾q_ڻV݈f'}$	fbȺK<s܊{0KB$oyzLH[=~{S2@ T)A}uƓYimuN|1K:hq9ڻm`(Qќ̌ra ,ǳ;;eDvu (!;jn3]z2p9G%I_ 2joU(͏RNi^2^{L@nO͠S<z(>$߶\&ň9&L^v/' 7,]KxS&ݥJEg9|-s }njsk{Fi(Iֿ3$Q]Ӯbӑ~Km_˕\`Y['\:4>)Th8&$<Ii4-Sa]1waKgwFt!3&ņ"$ѲbZ85}++>`U_"bHOAMǜ>Գ6=\O͘Y`Sz&.0/YQWGr͓Úsm9$ruNfNY4k_1ǆ'%'(&`/{5bP=`2IўaoP+|kD(V_.I7bMgSˑfaZE><YiU1+bw$ɍrʺhhR*ic<GNȉ;$en)i (Dޱۊ%Žֿ<H	$aF=Z2%MqNO"^-c|kcOrCoeطbo|i/  9@b6$5]ey]jF.b	klNhE+=:05}ۨXc\0ů9_q@ؖĕQ%Q{z|W{*b8gwDK")[8`"}QWG.q|~DԂH	:R̴Lغy3Ի~a}.Gwr.́Z,I/4y_~QRaeƪ9dju	Y)^}A;!nΤ5(\>`}|īy{)CˢtXͳ6ěh+u!PčaI(6P%	}ti33p)wFķ+:O*CXnDĀȌ:2pAiQΧB_Bniw7"DCx4HYaT{Wk[m'7^}YV/9kQgՊdOB>zRc2/p	163LAh@.JirUX4xВ`($SИ0̛Ļ8Ky~EDe*PI^-T:D !Ƨ	Zu+l"	h%&HίTDk0bF1fsy	j&>?M)`Đ^}x7{т;}_uÉ)IɛQ2"84Œ3oîKLܫsȉ`L|WEΩvQSF>7 =/3xx*FL0'itgIKC|ij/ǷcrĜ))oܛBesAG) li5(RurxB(NEzglQ}<p]@ZDM{b!Fi^9<R'JzYdaiu{(Xy}vM9L`XiO2άȦWGX|\	sp>)'K-`Rrt]o )ѫjo;}	kmx_[ѹs;Y-s0g;LTL	ԅ6mųYD;VS?ٌ-p\~DXm"[XN͘ڃǍ|o4kwpOr	ϵlTTWfgѻhDy<tu|I;D_	tXDFojb9@H,++Ɓ}ÉB\h9\ܥ>?=9>,x>`nyf{A1u{w)6Jl]XQc@tVEK"?\ua_V-f"J+DAPb1fZh*Ԧ[lNgo$E@^\.;	RۊK'i3m	)&m*ϙ1$E}ԫc!'nr-Ά)1c2vcUò SbT.@lz8g.l-k405<k<O	.$KDڋȌAhЎ4ÖLLмqF(4XS^RaTV "'EwF{!hbACSC?r `z4
Sѐ$p/Svݬ!&AoٷfZ`)R7")yXEHzZ%j~;	Zԁwym&a6:b˥Qn<%mxai|Z%c3=;EHQt?HYkΩQF2(/hM:ȑZm(`4)E/,N-v$[ӟ%_v7R̿%o):۳~]o-2Qjfr8gl9<IDt*tB9x&w+V	SYy,{Bep3eJ<ARoY%j^ u>Rɍ߭|HJKP4%R+OH"?ǜ}BJ3=YUyĤȋT;kI=y8,4uąL._&QR]_aH(bTS˽ăЁjGةKIk{&p΍dJ:XYnOJH̉e|BFBdZY@6aj3O\6jB&l$y+LÏZ è+hM72;PXi}9fm6]AYqO "q) i:ɋ~ԄCg$0ox'"Df^+9Ou81h"$?)Î/?>p!&wafJ{rR	Żr;d_mW'ʸmJ	ȮD:V$r~uquW-tp*߇X29{Do<-ik֥Z8jQ˭'NӧN:EٹYZVPJB!TkMRArX8Hڸ'}YAy&DcD df2f1OK::ɻ`bzh0{o*̳{B_vjsBO?uAj˿fv>{ȍ./CEVn2G%+o9El@*4:0AW"Aʉ%S;t>+X'(-|E7Oޒmq4SVɹOL{	CT`NWY?Q)u	a5^ 'F88ep9zEE"OGqcq2y/5śp1NҾx.:>FIP3ʹQFxfɿ	Y[)A	[Vk|08s\lT$Qwі4Wn̼}Nخ$Ͼ̷CɬNfQwSJ4bEĹvCiep69B6E0^*΅{bʣb_"b4pNbqsX[Hiْumۢ$T/ڨs]Dq[8̕Wƥv/Q&RR{ Ɍ:MCz'~GR}͗|gRѢ@ӖJ@b8V):hj8;͢?̰6ܮP>jt&|cf˹hmU-Z7bn_d2DFw'SU;:Xq$(u5s.SY]bs601v!dBxu0i	-Tk|A!2V%u&3/lVVg.>1AEIMD~`>T\"W@=̗IlTV2EoGG̗v5K~y7%yx$jiԧaZ,ny+9Vp2?-~3;G ĀP,Rq̖ߋÀYrאC"s<W4fz׍_Amu25w4fζ)ZFikOn@?a|-,q$Gj.(nZ_i-	L[LYޫrW0 Y[q7,VL@c0>kĐ-K69)pCl~ۮhygbkA~+qsAy;|tEuXN5Ӛb.)Qvژ{%AYK~_kN	$kɚ@R)~<"_'T'Iz!L`vVC5M+2(g'N,!h'O^̐^΁t+ŪT~"7dĐzƲa d KnWZa$}98!i8e]bAV?yq.m7V&lm1 N͎F]jtWZ,sn2?ǲ.)H`L;-Cp4;*Qw.yra+KFO.GypBq^s%9ͯئȤ}D!xW֒gP?q8Ƞ\aDɑ`oaő^e&IUs:B?,ԫ4&|3Cab/m^zBzLɻ[88ʂjKy-l$_F|U&ićWĂ80Ȯ.BMUބǼYl\'6S@pȊq0u̗18;-Ae{/m;ÕBLcr$-Y2pq!dԣLnyֈܕiH6^%'1?AQ]p}o-G39٣HWw 3yd`*-ɐۍOIs	;b1n/s=W%FûD'@QPP:VdX)q8"%<1Ə0Y?TOȆh\'P}8I'@6pb&rkH~nn;Y.~Pa4&Z/aM}k4u*!H*M'[A@ǯsͿo	eG̢tG_wt{vI8ˀ[M&G	Fʺ7Q$DtOiʤbgwsxf=`X_͆KzqMRL!pFOڠ(Z/CXPFd_|E޽t,Z71/|p~!!T(F&-t4!<{<r*OZh4)0'5fy;f!(PTj!*\H5@kSeO,1-ܶ}7*jޡiKgQ:Ux:/2݌K!zuņʄļ*rK8Jp`؛X\D$.(f `Y՗ϻ@Odl+MGRrÕg~7;}J)G;&dǻTwf]SVKRQ\B8;%pFvy|r,ivUנIr23ނdJ*&}6M<HĐ""y2l-mV,}nit(-Ck-Z͸3CN'ՅSȲO̗){C=D48P}y>j3؝vN-׋xU'B_ӳ˼:ÌМgmLl	/MZYpm:?I>]ه/*fOؾ3nMvXɡdw(RŚY[İ3Q9w"n$R`6%^xcX=^BĦ,L̻V$EAŨK(C;2ˡ=*ƄS
QcB9*xhtrC;+n]tUs,Q,aJƂ]AVIW.e.zK2dʃPIγ8sQk6`gVNت;Ѻu)z͊pA)|`!`NT(uR2E=;PASY7-_Q_ŕ_&G9rx6U1^R+X?/πk:R[;EƷذ0beM6aM~tysh{~ʨU/͘DpSOw̉_[%sLuM8's:rîqyJ*Ea8nb9S[1t)+b(d>T}>NWoQ*7baMjY]p=~ŴFFPҪ|:fj׌NxMv>J)zOpdb|Hf)p;*^ͨVb2B_~M'.-pXȱ{/<dwo"Kxiԓ7Đm˛Ͱ@GϿȳ_oL,Hs[ĐˑTJחUTSLɻ<6q&_5Qt.JF<ԣ`%Rd3tv9D:H+,yBt+=Oh5(O4B$L2$aFqfV;_S޽Q'|jZneʿYR+<hYb|Ɓ%mJ_?]8	]ɰ=4 (BMg(K$;\Q6-31r1Y.y}=733Bc+$S%|]veU*̬Ȼ|'mOod8^g^-v8O04itw>4kZZǦ%{Ec[[ş.yy$Zn\xt9v>zcTJxyHl[	$aApd:/kA΄X)$ҼWUGT	ōk[cZLZcUn(G0ptM`4iڋIz^v/>>)N~;%Pʆ!mUu.7[i+h3ހ7mٜ9VSn׾W$_Lvlb(-mS;5d--m`]`yagdzXL`Ouq[XfrKlH?rOȒ̽~\=<s.ZdYiSZ6M)QokoRGڙVPv,X=+`!5˯ 	mohWc@+%n|HB	wՕh$=kѮ~;!O]ײ&e0.H1Zm5T\/2s0s\^Jb~Jjx[beҙ|ãݯ(7̿ѽe-ƋF0U	9FY9ްUQ2ttͺek@V./+3Jьk>C۱ϦDK7*5ȏ^'IVeKYH*;%`V /o1yfV '4D5SfɺuL.pʻsq-Ȉ	3rDTqTT:	KS%n!W^jGJZn8DT_&0ϼ>k5v:xIۏ@W^w*ADʈ9E,r<]ÄD~V5 nX|C[dDVB/BT6ue6h0ōօor`Vy_Ƕ%+9,ӻN]bmK8:p{@3Z76Q{jy8	(ui[})5.)b;NK|KοU$go*ʔHhJ}|Mkf,uprM!V(CǑG|r?ޥ8{Њ0@bJBFZ pC+U/^3I*/ƜP*&y-HdiRŚX=Ά͒Q&VҌӒ09MC2ßˀ7TqUM<AnuO\ЍEEmкރ0-[n;Omh4:ǯw`r:׷TmI0ng{5wbn~twJ{	q?7oʵt@U;.L/&"\<OVoI]]8nU}O&gxB"{QDm]7Y:"<aLI5$Rg"-OߪuˣtYY^"d_>N,C 2tfZJm")+-!FŊAWc0Cz̹OG0gƔWb)R \ICr&^PJdQ]CǥFaىj/w'9U9Kg^X^3Va9e8>D&M4+$GqVQ1mWH,HI3JĦѝ%u| 5A_5tnpmBP+(6!{qMfiz*bjgO:PƦo;wiY4nṕ(j(?c.ՠ@^:F}A4J+z7<3kNZHlVAEDt8 Ltx܁(_@fCfx|?v3WYT(ruF͘WI-/W[aAJƗð)4kA^d=%jJ,զ^%"e'tѥUDֈp^$Ǿ5]h+ܳX<}HE"ZZ"RA(znް083sgІjȌ{J̱zx_ՍZb"w,@i	HW;c,1	Ouxȹb}4(T6=a=~495(X7Vܿ)zƠ7,2Záȟb+ͷnA?WnՑޞK^w;Cݳ>SPABO}tlj:̾Esq+s0iϔݿE;.aɘXt^Bueϖ\0E+wT{"ϛ!RɕqLo(d̰ȬuJޢkxFsZ'L: +W1k^s9ZC>/j"\~NthRvQg_HFwb&pciVG)laZHqj]ǜ3O2@6*(0a'd}[?4>lo6'(~`Ҙ$	CHkn D1V\~@5{Yg/ݸ}<ߞ/msATB1a0~'i̸A".PYWRq=dÞʓtgeyGx{zֻľ5ʑ&+yƉHNͬD83už.C*J.?Vw{YҒRÃ[o	2*~aC مA^,=Uen7p(dʩL֒u^p̊U8a)ՇJ^3C[l1+;0p\vuPtQ^׌@}Ig>fxS[mckWpdPqHfW8O%6/JnʬW[!''ӋTqzbx*im]+OFϕMUQbtv
̈́fPD"ûָ N%ʘeWTG>/4(g!ю:Lbp$nI_d[0"f}LrxhݵL]b>teL:ˠKѦ,G`Dż(9|J]St|vŎ]/~PY˷j;Kl˞C,Y:xCYͳWPMC|J[{'{lw)lkYȠ0N^*̓̍)1&ӘLq50qoZP֦1x8C8m)6	Sq3o_ci	T|Q>nr~*8lScEc|wDǟ[N|oQ1%Rʀtt-6:IvZ7pMQom}Aӭ_"?]\܁*PP?>_;!ye{A0A&B}͸>\Uzݼ<)%d.WBW.oF)5H*ˎzOYxmMgłax"m J.?O	6A;`Lhϐr{^ߴ7HG=^f+i@l8vImC2;Ia"Ӭ;Pr-^lJpijh0daD9gFHI<}mqŰ+qܖ!2ƳT0?ƾZTQx_/Y_MpãTq)xe7;^/'!u'&eȁx8C.r{a[PSb?n[b)b{r7[w1U"|=<fmJ;;&My\ajoM0}=|1aAn.K=GB^NgQ	EI*c۩!ݱXɀCŨZ'cvѕ˨* 'v`s4*be=;umuB;patgh3&!XѢ:π=LpcʣY`&|rּG*~sgdݚHhQ6d4s,/?CQx[2gѧg9E>vx8y2s~!dm0Zo}J9,A0˂]+kiE@\$~a9LWS>jd%7zw!{;Paytƹ[Eo-}[EB4@%{vY%0ǉC<q?jaϒ5yD,&DRNGy5ٔB`/5{lOBͨBamW۠*O.,Gy<ɡ<NH ͭvdhݎ_x4{zI$%ԅWv)o2K[b'ЏHR6̍/C9xBC.̚\iĝHQR˹;ēIkW0&:-!`yQH\=w|65'8[|elJVj/^O;n9rb^fv4`=M:HߥkwWDhLJ/fh[^I<1Hj!{{փ4I{JqSfzn[N=rV:{2]gPхԅ>n?&D6W,0,t$t7ɔ!9Y(n	e<JqpTHwzh!%dsUsM0~c? nL!D\(v[>4/ ua`bg(1FNJH)"i$w{\x4N6GAvV%nɏ +.0lpz+~R$'."Q *7*g\y(_*HԟTEfZũWS5!cMfɓ.b2W<]HF)A0KqUztBW?B}e[kD3*XH\&|͓ي!ka;vqiH*yh=QgAWL0ġnM,Қ-ԯvE@I`ݨx+SzfYz8}Cvyޕ"'	u:Ut;cʔDRfBg }9C';X˹-aSApiqlU!dP[(9zo0e7{BUTίVUb*:!8`$őv1Ug9Z	DːoۿEEz/-}^%{,`[ҽ6(oڵ@1ǹǎ<zCE3͙Tc'1Kd<L:>3|.$};PuPBL1ٸ4>4J{`y-H@RHթH6+Tc<;HpǄukl2	vW~}{hǷRf@JT@~k0tīED"ÑiƼU̾.t_o?GËhmF]%lĵFljŢEP$QgOtSxԬH`F݇+^נgT>{Vv:pY27(ɢmyu/SoqApB:QֈXib}{;Sa|';Dh"LF$l^Ұ^vCJw{^gۅ)qN9m60;-QhLxkJ=ɉaڤ)d"wuV-7+3@f]{k1Vs1UN;%cJ.ų&շ	dmȑߊ AU.V(Ŗc3gfYTq-Gs_G/Dڱ8Mz̀i0kiYEGU؇2̀X3!J7l-ȒVq-s[=qĞK]*sZ9:SQOkSz=UV[6o˭5^JʑŰwa~bSHmi)Ҝ8ڤ3iaP%fO{ӯQ5by.(&XR12+2&Pjvs"[Y/?OX^Ά+RC)k9`~kvFE,]Ҿo:?w2f5?!`/i8̨>ӿ<b:;pMPը:V6$+;=M	J;̗(đr*ě?:DCj@̈́qb|'xI:lLʉZn;_+60""vUzX9o:MEX/M{y?܀:͎Im%Jhkm+xǀvI:Kxcn.*NHZH*a1u1Nщhd߀pc_6tö^h:^S%.-Ƞy	~l:}g&V\cM.F/A+Oo'CAB3akGpƸvQ'.Ǳ5:dszQǴY˥70"oQR=h/r$}֋1\kS^h/ox,+Z?S;zġtFF*ul<g%ÖI2pd!I	,^HאsElaï]z~Tw*~8A'2?PBmQAnku`6]:.!gzg~0N8}?VS@_dtnz.ez W%3
1ʺ۴o>h!n9eLO0,}oU?gaLغNϳ˖`?Ԣ,J)hR'|b*̃$/L'>Y*t~ZZ|qtq	˭^FPF7?I<U͙5}syÓri2U>?ĔӴMiL L[HO΃~Mީ\ǰp~ךZǂM@÷[.q5yBp/ߛ_S$81OܺA׮ma>ߊԸ9FOEmO"	nR+z66AŠsMBWY{J_CV{͞W<K?jV(IMqv_mǿgAHIPƢVz]˄36vk:J%ō ̪_(ުwpIl2)ֿ@dJb>аY_L͟gK}AD7Z)oXH	jbjؘ,|լ[6a+mJ-`	aˆ^8=%@+oҙ/g(v3zj2I&Z]M^?KA߾YIjGxT''fYOJ$FN1fǖDBB$ /9yn=tUDjw05IV_*+)ȾM΁`ZHSM̘^PnAYCTr`Ef J&yj3;<ŉ\Ne3=rW'Rɷj6&FFV.\`=sNy)KX~c(pҴ~Z8S}[d}b9̱:1:@áRв[xyr	,cJ`Ͳq)V'HSî0\~%AHI%t!ΈwcTyJLȹq7	'eɠO$qv?_0]-˷׌JX\2T)(q`TuzI,J, !vmb{ZPEfT i\xL҇%m0	'Q٪Ȋ-՝Yg+=ͺR̛to6l4z+(UC;HUǼZ,RTMǁju^9<1z݌rvoR_Е*BgI,HAC2<t,yIe c^d=,z-mExv5eUX2MvEd<_D_	_Ui~9-}?\Ce9=a7DуIscx;Wl2QmǰР!y΃dbNg	~qЯC(Ќ;A.\eJBWQ!	;6H4KLN7\ CKDɀ(jA;"4a JKǃϴ'ʫCbysOFE};lSQwp\J+q͝=[jb;0U,lGA˺uz$s zqe!I1c5OMC8yܦp=ecz|[c%6}%HS)2&/)q@ȆIVɟޥ%tͳ3ߕ}6$05ӊd<Eѐ]Uʋ'3k~{'98r?\~|%XՐ'v6\vjӕM^ݍt̫/h۠&bY.*{Ӄr`}$pدTrXǾ_8Ás $(_^XQvnJO_xY-Wp+Z̈Y!qt{K}t}b;G\ǃ%=?>&%A!dr+Q{Vf<6J*UlˏZ>c1ʞbftpT/l]m=5$ r*@%T*00DzWai5Rٻ$oH ZhXt/`1$2"CF."{^\R_wsNk;u'zc%N=Â\"J6ǃB$m[3D;Xի_Ҁ-![2vwMSZ4+qhfg?I1$b<zHmEG'AЪ*N5/k0Q.%?Z9D	\uhk[Zqeɰef8BdcXކ*qkîˏS$xN0/M!(vܽXJӢ\.8%lx&lߙ,u8gȄI|sL^kUf_Llhwͳ5\V,gyUx~[	W.ѽFn85ԲCƔ*;.U\9ɴ@eeV_in[l bV{4Eh,J'-+E(cP=+fK(&)V_%%0ʸ|m@!mujܻ >G<qݙ?n0p|ɍ9.8_4͗>T<"*:>abI`"l"XhɴjCޙ͹[ͩUazϡ9/ELHR|c-|DT|ȧjˍPS"K5Qb[P%Ҽp͢4%S}/ǋ{YSEPwW܁%_&Ǿ}ʗfD<]ze0j[|vlѸ0I)LtP.ײa3dOY)6 :	/;-0L:1a'eiiCXk<` IHĩ>J41AJVMwÂQ~8}ހHJ$СZ:',I4<}O=8$f+?KSm;e1XkJ!_"`$ScB"$ )crƴN];=!u5NѸz~MLmvTtKV&(A=)]rКb}h%͹|G?NluNpPgB?lù~>*:Qx/5DU|P?΄	cF~6:eKnחQvjǚfh^E~q{Lnb]к5R<80!{8$,6ðRO'Y_E?B"كQ]ͽ"̥Hwdģ8VMYd874L Cr>X9cte%/w̋(U(q΅ZQw̰,VvXӳNdPKҁEcp~26OܥǓH^74YVʶUhs6"B1sKo6snC?֚B}|>f_V&)Z5Wȳ{YT		 Mp7?2ˠiBSS(bAPujHۨac{qbIoG2Ki>ZҸ+%r $[M)CAb%Z!v/g:\A?,\,vK\o }38h_F%2LyCדy0>mRqW0IČpWנSz8bmB|0]7<ŕT@sܗO(pxP3ُ: nTq;(KA[fIj>)t5Lf*5]*j}{
e-I,^Vqǟ,~Z^Ţyĳ"ɰ~ulUlOzgt*~y<cmwZ}a6vɹtܸw FOͅ~oQiX`I_]%"BZEODP0 >]2\ҹL@-hRZl%(1=jY~\._*I2!wQPB+B>08R<)B=ՇV:ړ*lOX\V7|B$SxNU@RϏPDteҭVgpg@0	@/nSsGѢ4w-:CN$m:1A{y^eB%(kC@ v6oL}r,Y$hk7ha0mtqB%9a	1<QqS	EngUt^S4V"3D{p^BBA1Բ*xb;pqnƃkHkߴ+~ܓmGHݵ^lYq'']f`e&Z2?vv[/}+x{<]OOȁړѲN9\7xr/N_X_+qTfȐH%	l]K4z4"k4?X\[cPP6fLO1\}rPqfhz}3e%ƶDOgadιoj	?sDy18;\[Nǂz\QPZqxx[IC^{	Cɇ,KA&hv:xVħMMs)PkQ҃?sIGUDYӅCŦZLnqvW5v] >~IQl-:o|aODKzkƗ׹(ɀ8ku\i< L9Fg$4ޱկƪ_@|ByiL	Ual1fDZ;9*zgd4W!$iZVpH4XcY;g){ǜ>ß0[vWXY}Kj%ď`\Xo`|4 e1j,cs=X/˦yiI?@RhۈWLκVxI_Aٕˆg[Zݞ|2%ݸB\?t)6>$I9	O0[|	s5Au˄r^Qm_;[Sm*s=	x)k]]G-TkO81R}Z,ecS`06/;{;zЂLtƕg٥V4S&ĠG|j9tCt5AvVρ$&O[pG0_E8Fr@Q52a7(Q@s()Md*a;x%![42<Vt[]u';'H=Mm[L'ʇZ.Og^,Hd`|r$p TL]БRyW4cxs\ʥ[Bl(/O@$;wsu@?:˹5n&̌]׎nA)wEh&`$vIC	}^˚ևbb@NYFbΛNVpOWla'XG[&͊l[ǵ^z\9E8:&NϕU$׫&ճΓS؊2<+KC}2IzÃ0S-BOòKq9W7d$z<WPN:j>)c)b>>e {"f"J3"v*lƞ7QY9^q@$!FEuzwW$zEq+LSySïpf}AghU"1USRcE˽,fHk5y:2Lȗ)x~`ʧiɿ =D0df!.b}~Z|+|sT6wkYb6Uv+ڙq8xM@@U-/ךNLHu5[i?p>dvZC_kdQspH.u;>3$FP	sAXɂeUGdGΚcPqǞ3gzԋEX%J9kĮ/OD=HVw"hRuHzZIB%",NÚ}hE3Io8~7ӒX%gCԹBub[Ohm1sV}Qʑ}Bh[>EX PG7QT1H%ӮC)?/qh/?ʌo/HƭQd7q;լyhk*sީ'UgV@j,zs|/Ƀґ2iŅ}z9U߼JVaشA33 $˞ٮwFfS3so23K&UCCP!D&6`Ƙeaot<sA>;yϭ&E|:@cxl;%9/k&.<ZAnt^	/&)a5'69Ęr:/2ɪ+QT9A|PS>bGV~(E45JoUtU0=(eWV?.T$e'8aPWː͂5,M+p4&@a$GCT[)ZJ]s1{Q&7K7P,`׈I;FZUu9$gW$'3V	1gAS64KB֙PQg}rRhȀcamͷgH/wED+-8s,vHXU<AS^9ɏPXY.a?gO<t ǭUYO!q7uAucг;MIxU\:+5UtlRM~`XlؘlB`$j?ud3-ȡgq{r\`dZР/'dpOE^ r2	Yrk13r՗U%z9?tÉg(l!xʤ^!Z4NhէeƅJɲ3.r1U>HP-Q0[>.XnX8`o/-չdǥcSz6edQ(;Zr,advnPÚq&j[&Xsξ<UчL(r<z4M5^hw?ûICQ{Xn`_Qb(CDN,0(Ñi;/x{bG^	|JoE3y+(CPs::z[0tW:.cPT{t%uøL1qL0|BeRJb+B>.J*W$ZywƊ"zCq:%Y"[Ix	݈)M͠O<Ȉ<aϞ^Si.$VBEC*<c\\&\R.:giсy5RJ9gr^0`ZQ)6U\IS2Rʪyn7ڸZݫ=0Ybjƚ	;7AHiW9~ZKH>Ք[8tIBɰÖK$d'{jd%2E1YfX9ydɿ?DT6x\xqcB/HjGoJY.[
|)|.8nʥDoMG=.K4|qIG[!FA/27GHseen4<	V<j}ո!|Y1L5ȲPS=|eBIʢͧSl!01ӻ`,:l),͏]dȝ,Ak4ByB[]eT{Dء3}ysڿIVšn[069}-a!-p 0qJ&1jOL @{(VfJĜ}y܍tAFhj,]w ݶCpٷ6ŏz>S327x"SmH\9[e;+CVrGúlCoDP;Z{b<9"<@~`xt6qTFE^yˡ:,9xv:wgfOJMVىg6CWiWx%_%<XP efLfYd)"7({2֐yICȐcz2bY4oG>ʈ&nÚӚdRqlu(|xQoCԡW[7A}Z?|:p@Fl0ʉ6Q-ZvLŔh	DC:Q4]ǎzxsV(E(nEUPV;~^]Jpm.=VY;$́$[s)*^ŰCxkڒ	Vz?=W~^lc"`K0TV|iJ:fc L";R4ygk:p^m}H*M)˓2Su;2ǹaęaZ)}>xIc3Q+o!yDs+0cNɫ"rլ*1[\~͂c)p)c3hXT+*AxڮlD':ņ|?R,nI\)(Z՞Є"ZBy'xa[]ӭdX%"[}ػ^uMǛJM.d[ oFyWVB-nY[T3ẕCAOo+nŨS^"+qtZ:ƙŐ"R6C2ŰOvmnlz8-m?H7Ihv?NUt/2ɛ$H5>frQ7r- :P"ͩut[ͅD	7]VaI4\G1`AIM.^,q)ųUC{Բ|Yĭ@mg[>f(9,1}r`x:Xw~e:'RHd1RѿaeGNMͯ-}7ʧAr}3_bB,H.}O (zFŊ4Blė0ohg5.Iipã1/{q|kJ`c5pS-\-ÈvOMG^-XSѪE̠ح~(Yh%r-@_IPJE:cMn"[OAtu`d+~@=t@VwA ëf5pǾ̵lp8)xi+.u5^!	a)7u0z}kDB'byI2:$;E1QGry@|m+[<uXC8?Ǵy{[UI$g{ƢH)ʊղG3ʩ́iQe;(X1|w1Y5Yb8NXP)2~4v;֋)%Pv*:T*)_Myy~!zW.>2%ɊՁ&)H/vb?iA)M4~m˙*wsHo!mk%~GEɗB(\M<|aZɅn\^Z^3}S8"0ԔKxu9'69y	nGǂ	!ԡ)B`ȕvlԙ0H]΍)J'sPC-EWNn6J4Gʯ>P'tԚW3\wtS4n(a%n^AAZҹR֒oBRUM6eyoTiP@ZaɰWzT.7q̭6TfĄy'a;?{˭$6|+HlØro5߈MV}8iI6LUwa+-B΂.]:_Mc|"αUxdL=g=۔B{ЙjxǵHzwl^d9ם.P<IRlwx˜1|Yٺ5kd>hQ:qCV)8;^>z`~S@ӁW2qRRKG"hES"xGCyqyo!)/U-BqGC9юx"b<J33+"&R@._XHP1Ntm;gXpB1(	Ќ?\x;V1Nuo9}5׃ʹѽ(x>VWb(`9[JxAQ,RB,t+28(grǉ@`[W͛D;\ϣV,m'vng'1B,29r5zvxxEY	BCN$Jf6ڼj|D	/M"R|kV@Iq$|Ƙʜ]L'G\G!Ti.t?\wn/j`A*W_XvPǺ8zz	@=\&]k`lS`)PK}%:^'k!+Y7eɅf]PCI'}2[,O?LQ8k0O~)k}QY!2<!OݴDA1~rEM}-e8Erd"qvJɊXn~}oޞ(=f/vnŘRLy-&ݠOŴpx0O(BWx(K'\?͏0{̾NP0Xh=BÕ&Wyb`Z\GpgoY9pD:&k}+?c{Ko7cyŀ;t"jx]ʨs`K'}Úlr$HXKZVxNCZ|aA'N\Hbi`|ɂɿY_q[r)\zo`mXTZDjG~LEN,_< O2_|QȥO8q;wiSbo9v5h)w^Kqg% X8Ý3Ty֠	޿5"ChlԎtSX1AXy>XOXP0L~85s?prXK:Q7F-~>Y^݁4EGۼ5rLͶ|Zec 73rí7ʗO0,4Kۗi@[LN]6[TUeuyB({X,xx[*r(B|e5xٳMҩwϤ͉|'(S ]tZt>EƱvIߠr+0ypF^֊sɫ; Y;:xW]}]%|(SI)=RبT
bR[d/_W=&Zy2yՠz۞RZǨ$)t&B%FAdz6H?DdTrMO;V\Yэ<D)|Mch2@\3(,NkZ[\6Rۀ_b0ܑ1{kܧZTHiKU Z+!dB^Y$Ą3Uy}JCgRF`Og'lpR&JŖLm/9p|tgcH08Ups*0r0hÅ֩3FP@ӛHo[Z7iwix'QsA6xrl6ʹ"fD:w\UݙGVHAd=[ߤɓ^aP*&/$=ڳD`	ߏ=wT"g~^LIuǌMzce8̔*+@OE8Xv2?BExɟ	6X!E5ޤz8g`~{W7&g`84+TYjıM=De%y,g66Jy\cS*?j0WZ?^cP,c<15@noÝ.Fa)˔щiHӢ%I4dm,EB/yx>.4ʃ^:̲Ta	 FPž4I "5^JCx5˨mE`%)zkF"?_݅u`	KSx^Xṃv'{E")z4i$^=c.Eo%6Z)RB"LIpyj:aNk~zcoGň92Q]Ͳ)\KұUY(}Rm6G?͹	-UŚelEʯQumTG˹FS?^{Z]g\gX}/yZk<4:Lڿ'O.4G"%j0yKC;Rͦl1O;}FE.:~Pޚy*zþwՍ`FLXB{TS`nxK.ݵ۴f5F&ibGʦl|IY2/>aHSj.Ks@)ʨNrkU-RsjɆkZ_L=b9.d_9}<y-\:0ͽwb$f!uĶlP%Ш9$tB;0'{M?	'+Z{uKxCjFŎ-]X\b.KeEnG!aRmT0ݚ7/V"iUsEWwV'9Vpǋ|I|<587-~OH3b's&yռYZi՘y0'SvT<0$,T	J3n$߷qu@øx3ޓ1C9)?vZCv<byޝ'<Ŗ/-3K$|&xV2pcVʌyjBdkIƴSDyP	xz`J.ΠsɖJ0]VAiiw=ִ't^*9g	|7h}Վ0Ě;c]76i|v\$ס/tV@0{٨̅o\G~Ft>*nj@ur\{BإS.կXȃ+̓g@Ov$QQ!ՋC%eWe,H tKR/H/(<ĐCp:VNbWe$tIE|LvBdPJԑbw';{3,fdu[D)za.{Q`Wݶ/5peCĶs]Q>jQ:K4tfXYf">|K/VWǡzs {ɳUZl35Y3|)^a$pE651|>Za=1)!fS~"2Y3<Bc0%7?,uo;:Ȟt_9,ZMiɺDv8фBF6\D?%DXs;| >1p^tGHx0v[%k_NF&'}_mD,|	Ԙ'Zr	 ŧ^4h`lM<EsTePtɮ"Δkw[C;;}Z8kGCBɛ:$8wO@C}KQ'(a:Ny.ܔǙ<0|"V;PtX&GʼAap@7ƕhѠjG/i~x1[U޿Oڶ:}\P: ~KzB$(DG1!	.}-DyQu9	/WNvAvyΖ	eMΈ)X|:f'z<͆q47ڇ24tf]~ؚmyEnƧ&ĕQUu+uM^Ƞu9=auZ~gEl1ofUioЇWԸgѣ }5G9CY~!\D?%qRu4n8fǙ?<D;΅ľ(yƥlCՎ.|!a:.w"t܍UskG!n2~Ĕ2|q{Yqq$9dHunZEoϘǏccPGq331kٞuROft!w|wݢDx-V0k2rn+JyauV!/UI3ȗR&xR-r-Z6/+lԧE94ilyHʅ ݠvbz_K]kYjB"m0By&o;v6OyL>ɏ'MH٤VvSDy۔ӼIJsئS^Q $a"9Ybq_ڏ{$'o/;i.OD!K`͛^ʿuybG63ANItrSzM	:-TKʘѨn4/N=Hnȥ)gێ7~fDK˿CjWf4,qdF^=}I YsA[iH,-DyYR1(}F1`ol5m1 G[&/a%rBNϏ[.(ֵŅ"r~8pw25oJtu"Zǿ~ʥ]3*|G|Nc+	)qB]hƳFFy-epZ:KGaI$eP"H(M;ʒCLi_=&T?-cebi!>t(3q"wzp&(n'GFxjnl̔!`$эBxpю]9,yIʅcMu-&np܍X!,6	O9W=`ʽ!XqQ.oxa^/h@gμ&l>k{YcK\уE:%T_`Ĥq{4}m	ț]X2G^%j͒/-+&29lB$1)"ki7=4~fT(gCvglFև]SUYb
jOAZ`VݎC\Ŕ}7&1G^}:{y+D$iŒJo?vf}"r[}>H@]+q8N;Lr%ehU̞Ux$Fs!:EOOA?{fngs:gTEM[)rgTX}[}:8;5UnSAg.XPF5@;tYצ8JW1	>r`7߈w1xBDȎ6|7"ōm$yVyzu|XP-t>m[@~me2ڢ|lIM+Z%1v`<*VOzĥ"Y&FDo|@D;5OAdQ\bq&K:׍{x04Rͤ.A]b՝u״XS\A&o)["uQyUya?iκV8S$!*<|fȯ,e%DWE|ע|K*bS.K	iȦ-eȣľpJa8km_b;Hw߾n7:voc,^{?k7d"q%p/Cs]PsqH}CW<IhPI6/=eɁ@Z}ӸTѡ_qëCaVZ9\)Tז[L\Vl F6ڈD4zmN,a?y-V`'̕5&/9h4AG?<'3ta.JW2trIB>X(,zYW.V,Xut?Ǎ=qPITϙuo	*l5yC|.ޡ	кɌs.}x]B=]]O^xNrJuGWps%FN;ѓ&9H>Oq}E[9 '^_e;Lk@>uޣ^yQ0 u"k?5Pu0&`ʜGl:$dG*ZE[K3ZauňXRzJ!F|+ףV[r;Ufa'4`iMr~ǉ'	c{baϋUqO><+ȫcN;<";*-ǄS/C5ɒӫ}8}"?qνxqɩK</c=;fG+ʛWʵg}MY/b&Gh̍0zE1~u8%]zbóWͬB~vsgL}2.;N׵R	:c\bZ+~"?d?˽6Ů	os(\LݤՃ5Zv|$[h&j$ؘ.Z_05?U/&ey+2QqҢVC/ƀ:v)(>ѹ )޲=f3tclҌeEBiy?EѪR3{)FѫhM]8Hukf}%>xnwC)*7Fs!NaKyUs^^A?ʻ([:cn0`WP9ŶǤRcVJNL9,j-zDf9;\-aj{CL' RqO SB,M=onN<>^<$Xu}~n)˩H^VHXUz]54o,bĝW)xo6c~Ы9&?B(>wE;u!̵`FKWZ'I>11dD]Chg-NgYI!rJTxX+:SN=!	ˁˋq`ěz'|r5i}׿+8^?(կ*ǨF='߃{.ƮC7oT0}hM|,Xl"Ƴ'B>GP.3)vNgcLD~֪Òtk	uX(,T3IoWb?=>dԏ9?jmt2$%V/3Tr8&3/R>éS@!""jp~C/ԬP1Vvu)	MSnDQ'`ֺ2*[mMC~3sWRu^޺jeas13f'`Fܩ^ǄCL|120aۙ+DLFTSkK'تm0˺>+lIxF}	l|; +V=f	[&2M r{NyZ?r.i,00Z~rX>ʞM ?p-<>/|/!"ŧą|܄~jZ{͈"z10LCCS8XB@Enr\jڳ|NPbTDĻwQpn>ȸ*_d uҚ{[n/ƞ[^MDȝU=b[u-&+"QRD8dj8vl5ߐqj4/ƫ0i{	>pXbFp+9R2_nuVMad91aEA2Xmz	n+,X& ZbI4Opב9;%qK@`Rj~/~S5y?(x,kkT%ǣH6WhF3"?ҌXVrboX '_{y܇DүD@4SRіi_8eAd_̣/uy{QoNe;&Ό̀SH,<H	N309~R uPV]<y@ÔT{OH۳5MFr`Խ1u1~*[N8rӍcrFwe>؍K|bCBI }T+222@&5[^5r_{xA*aNbrTZIQZz!]3"͊Yk0^	:Yy_cy;OL{lfĖɦeןr'+MC K5đE>z6T@J(=",/.LTc_:uPfoO_c]q?șuo7e-	B`]uW;U{ͰE~Mēc5l!I6xAXgȦ?E	ۮxY}mv*Nu0Hq)y/ƣr7lo@N'̾TotJҗRnݽV$([7V2aV?p|J=PΉk!kZO-qOUm`[VgƆĆ{Kؚtsz)UOB.V6CAV}8isԜGd eʤHdMK:)YjK1̜֚|46@Yx]<2Z"G(1]5VĴ]AO֒bJ-\kIKNt2ejk;Ƕ4gArjGgT/xa\a%wQeMYXoI6?ǴFƶ&pH38RݳnuA|mq"IJH.0\)lRW)0u^Z&sŞ;@^{n@awyW{ZfEe?59yF'D΀>y$j$߿hQγ^hOB>/,jMkR
y69-9	3&@JX1z'fhM!W>cS|5ݏKi{c_4ek'o2"Ÿx4]>:0ö@Cw9څ^Rem6?GȪߣ8LJ))L/.n3;aՓO=_ɄJF[<$moۃ1Z.@zp0%9r;!CȰCQ}0Ga\:=G`>=I( c3&s?G!}}Gΰ3N1cP+t`W3d8,c>GNOVKgP/	AcڄE(?J8bQ5J+L`s'ڐLW}İ?X7Ѐ-=ipЉX9GAT|fMqoKc6B1̘=(,|Y|KڎVoX4fEVް/'%+ܡ'؋4@LX2ȈL.JcŇb?&221/Eb>SGWJ?1:[Ǜ;ϩjn"ډP݇dQ~u"ċѻ.Իz;CT=& GΈ|"Hnm:`zEe2I@ςBv{vEVq=h;˚bC)Qأ$߻FƐ|-^HR?~Y`hkU2wr;l3W:@ȇ2m:yLM](@ʉDRtE0\h}$%<mӣrף2]"	cr^Wm!ٵwSs<m@,w.P!!3Ȇ-8nM9ۜÃ%tkރ:~3"<ScSޣ._CQlfH6;	~vb8C=,FV7}S֓?hte_ r_|?f	.6@^04kPgad3tBo i&Eٮq)`G%oە_i%YPsdPumtZ (6'o]8qWj`چhW?ʸ{~<2"Ȝz)I!Y`ddH4Vqp!61[*	nʡ}z)hh"w	8!ȶlsו)^!ks9*ߵn")'Oʲ?۰kL}%_N%üY̠;K4PZ"}ZEc:wiVn5l-[@˂	Z<ZU12!=>(J|3>'*gcrLBm*wM7ދ=~ͭ8vPo,/mLFqkX҅AZW?1B֣ث]đĎk.Tܢ[Zo1Fɀ;xy?}+m͹k|3)Ǵtn9/ kDbEQyW^TK?@g.C'(6HYZ,1>Slps҈~փ0L1D,SU5Aύ'up{_qϸǳǳRÿU'3J6pEcl1B3`~*ת9٠dz.~ [up>Ǚ!<1`Z$Q;995oA)?q4۔Oq-^z:-%|kl9bAmw~-b@v(ѷ+1,~XL"ǯQ0xfǸ[!?Rzu2Pi=@p=w'V?͖UʚơVXŝHaGSN&yq@ldcc}I ڷd͔^O	_ˈhH,)lL5ϫ0ʄg`j&ĘT!_\h}mL+Zȵ*8nClS/6ZȨR^t̽A=AňGX+lCb{[bjؐb̻Y V$A	YTKnyFpwWc'0d!mDIIbQltQaV2i$SQ8VȪ?dRQYd܌14ɪݤ|MI-3sAbˡqa[']ހy~(]1qE̜W[+o6vtCL98ElnhO*+̇:ݣ`dLKQR,:.9qIi<AWp=&1&ȴ~MO91-/Ń];Wtƛ}hS_Dɸ] ȩ)(`NbWR	I.fo81.o[5]'lbyd{(Ѝe.J]hN=i+?JƯ=P3&H)9W46En{̜[!Ŷʸ+kUUkRiVmdOA+~E`u	ܫB`YO3SUqv-ֺ7ĽGȖ}F+);{B@NgN}%uTtG:ǁƣ9:rH:k޹U@8W̰/fnĜtn@8+"j,ߨd̝2͞T-\V=BL r/q6CLFVSnM!mrH}XKy[aEgF6Ů8M[lz1@+wF$]YϜe[[dJK0WpsGɢRJ5Tg]RZXCY":b"ʆAĿnʝtUJB9}nf&L/lDiB1}wd{ݸPU(*M`EŬDA;cҘ̏]88Zː/p>~pBgwaX+ڔMӈՔ3̅q=& o[b{b$vC݂=.ulPW(Wb:S7dY)y <25(Jäv2%36KqjOU~h8x}v?KG^X{fTxBōt+ZBS+HoZ7f J<Ú@ܩޓLߦj51&o_eɬ'(-ЊY.$01z+m1 B)EهT&XqBW\mwPVKȠP϶ͬo5BVkĆaKymU_oޡw$FSKkF(E<UxHеa2-ȵ8H޳zMlV6C	!yܾ^׌Qˎo.5k=Ĕl~"</wZ{VI@rn-Lg}fzC&F%q4XKCŉkp	Ql{]EnV"<	l˕|5\Z`uN(K_)nyV&04؛~Iei~aēBP)kԩ$Cx}^A|[f MWZ^̏kvHAgĬp2KsXTJ3Wxĕzvsk&QFZ`=ks
Kqpu5z8ةS*,"3M8=Fpet!!r9k^!%kʂl˚ʒFo8z8̘sb 5.tO"w"X8RA<>ʄB_ǝlM/ǘDuPɭ=fxbR&`RwPS$˺Sȍ*" $<gQ4+(LhBΞ5>B=hKUi2q{t/|2+CNf?&L{q}E4D81Y3t9iZ2Ǒ0)+!(N83ڸ֭=--,zxlBn+eSn2MGGbfs~S-.[h3͂ir(Oy09@0<Mݹc3~y]Ϳ~`cá"șhqT`V|I*Yk{ξ-K.8:fD5 X)H)6|C$4~tKڹiw%h$\U%f20o$(eH!5?esxӃ[D[5@C<8w&slՔbD').N"ZzXeo:ZgH<.f2>JǤa/s2d $iO0*pdXE)Pљ=V*cMByȜyrǟjgņ 65+*Y2O:;q]u	OJ9ʅ.L1:*٭ ab<$4Z:WhԌ:?ܝ9A(Ù˪@"H5aL_,{;t4g:;T4ݱK'΃2]s_9 ci1VǁH"ȥ^ԝ!BiXGX0̏CkI[M\'8S(-!NT[b֍uګh\[ƫ4O{=BOfW.P&_QB7-;*Z'umĻ&W&im]o^[ 3{")q:o}U`Q<VG+Wd504@&rMsVhiBoDL1a];2+`%} ˷M;.rH"HO!ǯ0əSM	W>(g̦xQׂؔG>MZzO5W:L2YѦg8"!!(jƲyUi {fM^"RHiZ,ϾU/?=~f,ĮXw@O/v*5/"ݢ@8>r>D{wIXgk<z\)Wݕ5KWXnItۭ$PdB lm~ka771CA(*'G_]@z57TC	kkK1'm4MO% adr7_vi;j't<aZp̃	qyءO_$cgї?p 9%~+S-GOH"eeX7k3pxi4g˂e +ngVE38m)g'DsٳLԼB	^Еpr_A5ahI!Gr!1',gXο;2{!Wx&N/%2) r N8RZiJ˒[1Êvp+KhU\FCX2$Z[Wba6-^DcOVdݲu0AƤL*-Zˊx$T@ee^T:H:YJO,5b?aɊw>N{eDzbb(9Y$W$d>WsjKrZO_:m15jU$qBȤx9I=33p":?xS&<tHMwDvrhW3f2 zݮHr}4_4ӹv_g/3=I:ˆ_*"GKrʒQU;v2ĦyW8aNYk}U"XFkCζ?|_54K{><*D|dP?%YTȦu)5!ܸ|RBLƨfɎSYύN8O|Tuovlۉuqbfg0ǻy"|cvz޾*l҈.@gu'vYF7>\'yS'%Ǥ<f<iPVGl sǴU>^nmKCo85C/(ٹg@ḚQirv^G >]3ϤOɱBb>]Rط+;yؖHdhG<8'Iyvr4D̮ .-_zJUf4NrՌP1Ĕ){3pu~ͷڅ]Ap-n% 4E+ZPſeiN}'oO~׆CGkd\hMWc%pv_X24toט]V0)ML٢9έP֫ZG:܊_I$4&_J`ZBDCx'?$o$_'vJwҽָ5).0hzbGB͟PNlOV{۲C4E+`a4/E3^WN:]|c2&`PP{:2y4͛$!/8MJVrطWKDum_Zp6ilȘƩ`y5{F]TO~Cd}gY6/9ڞlgcndĖfx;	7dWhGoYHˋ4PŌLhsh`H}Ďi~(Q9b~`80t,hLvctb̼1Y)Pe"iN1AdX8P!$2JˋCհ[^Fՠb(kM0m<L"4V_ŌaI?`iż>dQj{S*<ߍ~V%}6=8%?ChkRJ6yt28,t|nڽ	LQ]ةŷpA8o/Ranf)(>aZ-|\oGQ}_rr!;q`'Vg{^[M\> "%ȟm'GL&%4ٌk3dϰ̔~JÚEET:l~Y$^ǝfV.8![sT:oSP4	%uSfLiu 0tvjAJ="X{;735m jfZ*5OO4't@91!OU:>\d0pJ(֊drYBee Ǟf{Yr &g)bZ<Ӛ~Y{G'=M"2[AD.BsFDũ0^}+o[~۫fSZ|0fQUޱ=<m5eҨI}^:&xp:.H+jO%q28Y^͸]|Qiez8l7;D,AVwftqp\*$˕g=ӄ@'5"{E>fE5	^sSNM|mBРIN.j((US*Vh
و˃ɍH[>~:=IFhqb4qq.S1J~FOL^ԻT9rV}hg^<rvǋ(dDlHPŸ.)P3BWKkYZɱRMZ0RSͽoBb3;82,űTMp7.b<Wr@	$nYt tB BB=pB<vLhcfu>[!_z+Mӊ`L !ܧUouo,JLzѶWG|q1ep؟a^åF5UW5o71>:>[9N9˩rs%g?\Y\;05S/j}>ibm+QYL+'bcNfGVe8>$ƐPRGкr'0^[gL|HpJ!MtŗFe7)i^-Vg`,i(~{Z:1r5+MRA*2/e&*7A@bU(k(ʥGfS-g	h)mF!zNF4?ӛ8r\>](^,LdȐE.Gx">f}yFUtfvzZwCxf!-Urm oc+P?67BNLjU1muNR'Rt٤ŅC9mN\ͪE1ǮBE?K.&˒5nRD.<HaYͬW9hH.w6^M21/,|.e|l6aw!+ۮ2ȰDϭ/øP4k.yHe,o2*Ղfu~ڠ61ņ+ѱ4ml_۲7.9={ޖ!čH7CNl2:DǤ^l1MHXh8f}c,Z_Nl*+'$}G&ޗh.W(.4&><QIXsdxG1]Xc	p̿N.+4Ʈ'\|D|kj{)cSlB͛,vi7Or\dYTg}-\X/G̧pREubËߪ<Yj9+.*BkTN[^&O&߂+\+FOc6`ΨB$5DUy26>"*^i+[)4HA& .NP=5OVWKpXF5s4euE2SRJ>^-kq*X1lKHqP͚@<DFo|j3MMmƄ1`jKۤ9żҽB_:0["V͜c<jCITtSDmO=x49)3O1t~s+0-FP`3?B/P|qKKõm-îعYCs.$PT@7A8efnJy50-&/n̗}TkIs˃ыb4*A=p pL)Ƨ^F_ĽJSZqB~7k~/mn~h}Ƈʹʹt^u:6!)ruZrI[g[Z?4۹S[J>-h,l7۶1k-,]pŽOIxBG\o-[Aov`4_vrߌF9d<M<,1yk.,oMHѳu>fI]E(wk8nܽ5XuK5P;QXqǢ r9iխ?XSš2j|zgBl>Y-RapaOqʎ&"5(w@3>ܚ-SHCBi/XRypz(3"fR3`%-e1V`׿u'3j-5D٤ViJ%Iqϩ"lE>}ŇEѵ1cŁ25ǒ^{NT <Ϳ_(BaȠiHZd"ge:8АoZd=$;v-c ȧ24ddwnG)cNiE}o:9K_(+ng'ۉECH'˵A1U+nUA|ۥ\֔XWphUg1!f,\L2t%:hVk)Surk0ҡz]J4.EӓZbtNMeW_?N\m/Y<9RƿG]swktEvÅ37+2!يAJ4;9PH'}Iҗds5}HJcQ[ 7< V=HOo5Hcv֤ZvuK@yk>!.T[0:ҹFF+>3; RW);aA<z9ЗTg9k0Tm؇4}~^7/C ÝEh%+f>Pte5vjP6f3/az^ˀc[T(|~.*;zojR4!47'<7̊_K[<0eWTт9ϱȓԩȐ~/&)JQjMv`=ڜÌvaSlv.iOȻ""yRH)$:xQB϶6\27;e(J̝`{N;'cpms'A	qSVɪc?O3`o^wJ4h-Щ~gK1qۙl2{S̉OHmpQ*~eX1h--jWv@AЫa9ȳbƣFߛ;0πi~5k{}$ͯ732wQF9*wf?w)atַJgXnxfņōɛq$"Hq=@sdģÑon2k W`&I3.]U1:R23x^"mDI:HxȈ`2?eˎ'+X/QcIZ@|zx88&. NqwYp)=!E|gl1+1.2jh=f*IԈX28`^y"WB;`DHWǦxN'L(Q06Mƞ(Lj122Os=lfƿYKt6;7ÚI)+o>lJmljwmuc8	][fSӰd*fQʓ-ɳDԬY3g0V٭f9ȫgpg5=!C}qdWC~R"Een,jM(QoćiacD͟uԡlYTL	9oWgFEO@;@5v?1~0sݮzEzs;л{`\TYvNȲ}@.ϮKPZحŉ0|8^gф([Uzb>݉&dBIǟea[Pe0jv۟GCJoH_~Z{T	.]}*Y3xa-D$	8;֔2w]ˮɛǡUe?M?/Z
K[PC|uY/+˕j!Ə,Z,Yci{{+P	Fq94	ǀ-%pRpF+$qoN3	WY?LL!F8;"[ĀMoI	ƱjewNF$ƚ˲=Zm0sXbjbX}\W)v	ј6m:Ϊ̤&.`S)*XfkV;6Er=^<l0iRYQNWQ-F=lt[ci˗OB6e|My˅iƄByˬ.[z5y}+b )a!$כ4t0hE5Ҷfl&5Jbg@"YlpPZyu"{VԠa{&Fhk.}>{mDb^uD!L,<hNW	Dc3!X[tǺZ+}4}'Η@IGxnsQKy+	QǆzBq%[{OÅG8ZUt	aݕݿȭB ۈġsyW-vQf>l/@hƠk)AmWaXȋ4	xA'K_M[^qʝCd0ҽ<w@?jq̈́?,KGzcU31bQo%kPn}vjH9uzAϋ("_&`|%i+]X˟'ݟt.OK)ѽ4eX2N(`"6jǧ~[=nKj!8D`FLͻ_'mrIN{KB6gȪ~hĒlQTng͗zL=	tfVe4˽i>Ϭ^vȉV6Ғmz{Hj̙Z ^Q(&Rp<RƧo]\'r6~Ӭ?{KŠ]:affyV̪dq= eNllvr05̢-ݪ^́şB֍&:Il5PN%	c QSyCXEeNnR_<hL*jzC0$4kI{b34PuĹops/`6ƈIX{^^9,9r*Ǒ5>mpOCo,Q<A\j{,mtm^ˏ,yѶѩoÎCgS?5%;:vĵ|gzM'IP@jl>!ɊR1h2ܩWy_>"IUm',z<|M݅	Ojn;BIC>mHrt\u"01?>{ȝ< Y̯SlL\]=~j?eyOXߙ^%jJFBȞ&r*=ڮ9͑ӋM]q68\c	X2roWO`pI qȅtfTsK2wn1OGD˄pr^Dz5ʓ`8!˙(yo,%n4"o75(d,B<<')١{j4{\7=7S͆cdמG2-$"5[2\Be&Pص_W2,/<P5)ԃ~8/IWm}B\j\7+(Ly!r&Dj|n"P'_{jȓ }G03c3ˑqH<XyWP/ާ>lTmq:l:3R~ro{òUTH1ֻ!×]@_I{,wJmNĠA08PuȝvXZZFEؖYSOX]|]9ʸuϔ:Ij*,X^|KۣVhX/SjtgtCʍ̧38.< ':"[$I2ʽiaapźǏFn\Re-c0u$uÃ>)&/y?˩nvɻ߁[ͦ$UgvliߊӪzgƥux-ŶkTvJ! lՄ-?U6gAL+A5$RɕKh x>B-p M	U{6|fѣà6V>rxb`VGn?*4G<$LVڂ"6,n)ΟC_8f\!-CƇ2Ї={tIXqa(,)	o-;[>Zލ~48/bDu6͘f j8hҤfsvh͘K4{ ݃ҡ[opQ2Y2!m}}sEVCjXUc|02coCw!tǽv^l/+$ĥ"a1'>7>ƪ_T!6hҕz=s>+pͪ{!&P)3HoncBMίQ~F\bC!l>Qg>3S4׎k@^P=Q	XATu$NP0u>7:Jߠl+T^Щ73HK/[OpFbyl~@D(1ՁvjQM5;snԐŵ:!D%8"stbF"^]*2lPicc0V^GĘ$C<,׻y. ]OgY	Cd}dk>Gf,/rv{jSh0oʄ.%qxefD.ň:K{$m%]R`Gsx}Uq@XZc?ģ;1ٚ`EŊԱ$AԨw6@̲@zy{77gtb	^SH6VF6O)R-?	!Їڵz/?ȵLi~%QNyǆ4OonIʇJv:'*,،	61:UrߚlN.wE8.]f78KW0@r=1;Ў/ˠ}/T-vvSrpY5gbʃ[1̷Jp<jlwT=S*\nAƹ&Ay)LMi^ۺ./p	e?y&6zf?uvuxHs3.þ4-|4x}kB>KT!ŧ5}G׿ @{ōO5!aȞk%[|ݪO~%]6^)%WJv'_TB|z]AFp%&NMsX2>50L)v(]F9Q˹_pŤGi]*]Ȓ_W\Q-*omXU3Uƌk-ՠw@n"2Cps*:v=P){$&\@&6a\k9FDNޓh{Ǉ`pHUƈg	Ƨ%;	]׻YS-O	ZCXt|=A'݃[woLxL>D8(TZL2cumzF7ǠT{(KXc9}24٪[5ܟKzSD97ӏHl-O4MOEP|3fȖY1v1O
9~f\\׿zBŽH=uDbree*ȯ]eߣȻ4yU_NSH$ߴ݅;5g4_7~;<"o8Nޡ^E'"S;I^ȱDҋbSz͹^A!~-}um3jsÑ.fL-+qͼ?EflF1ijLd3̹)!LqLʐhǎζzC_4DWS.R).K-Pgqz4La(0ΗgKLɗnA5bj}6t|э*2lK&~SkaJUAuE1gϳy2E51N6-_ő2DB|˦&E^L00t^HkLwZȩ7˹͡ cdpj	`	k9N@W$5X|ӫIۏO@taE?eR;AEr>q4IT'?˞B=ƷBJ3͊2zQ1W!$?a`guS-ɉ,Q=F]F@Ȝź~2rvb AVp۬ؽP6ѩuUZ1èV`+[_*GJax_۴ڑ{r"i^HwrfB:LC>..Z|I6~ſ	t=T 6i~mjj.*1q}4QƯʲ̒DYW>,	rpv˄0]z~_u4;ĄY+.(Ư"Y=	B04l>Zqv8w̥uGuZ4@Н`Lx=}]p6%7a<˿/~B@g:.h6N\C6Z	2J_>&ePRɝ.zب}̛s4!LҨ$Zɣ3LT	ruwqS*}ITH0 nǟ3} qT̀nh&=CxqK8+%bm&x::ʖ>WXUU|K{/aSXTC_/O9+g6:Wփ@[u\eR+s=Dz6+JY!?ê|HLQf'ҽPlGZeft^D3<|CWd7lm1i[?b/A0FEDjBzkPBE;XZ\i?FneLot,L!V5[g185L`+2eLbvi96=Ђ+)vm|^f:QPp>şh?!֦m(\)A_>SgEȆ4ec<47A`vy	XIiųTЉͼDU[,n%KJ8ĚUOme^ń4YyxSGȦհVvTFHSQ@Wδ) ަCJ7`TkYZ6Hxbd܋r?vR+Wra=y.:BǭM|֐&wLJQw~.3o*}6pW9A{` Hd~27=/KHF۲BOzbV`FraS	+s͒ΧvǑB&Yæ*ǗQVĞeOOm~&!FZgq8N:KYFU_ityA"H:(h Rq.ԮO3ZoKiAnjWSM,?[VHjʴ׶åE{db??fY73p]rvV9ԗS~;=ҳax̪|XN\O,%qy&J<.RBǅx.e̫Tə&kR1&nԤ@41^3dHnJ`p7}:0)c,e-xT ޟEPI?&wHlk+ީ|^E9boGVc;rJ8ȌIS(X?|L]Ͷ'kRDZr)*D|@&?Q5|H~[nrd.=FI@"\Z(sѕ5E3Ԭ@Ua(-cwˉT01bű_IܩM	R~,_J"MX7a;Z3jx"AILJ:zZ^*ksP/E0ݍ4 O1:=%͡[֠@:1q.Ƭ1ҏMr[3&~Y0FF4S~ȉIIT$rFʃqVq(yMK(sTa{Jԉ@M7T2n8hsF2_lcHBձYN`ՂLXɵ(ȏvEQԧ\t'"Ȩy04˽553W8i֡zfz,DY.gxDUrA='g2pJJ2Lss\+6Z>YBV"Wӟ&NbzXiOme_Uj<ZF[h_PG9CN^ړDU?u!a	ס+̍^MMpfcQdNh4$X?+m N1g "h@{N}uUZ}?W_Hlħb}"9fBB̢>Lz	.'\rT{xl'1@P{ro$JVy9Op(ӶG~1io^b5$8SFWe=vq*7݄~TI?iL 32`FEɷk!M/>xl{Jr)Ǖ~w.,ɏ7kg "	0 -QHЈenR~7~@3(zH@Xc*xN0ir*jFk:1|eJ<[>Mb;̯?D025hX֮պ<F1'\pyeBkEA2fy1/`^U٤Hg5؇%ˑ{Öq>,t&4e$п-,;FUv i~ԐOrjʘĈt(Ո\6q'|D3rS/hvA]Mzs"{ف]Q6j!eW7ɧ	1HPߝKmN֫5ӱ]^˖C'wOؐ&_*"Ȓ^F;Vީ-b^ae'V!NOoE9EtN gbʉOI.Ig.ѸQgóg)fGl̀i_C͠?˸5$;̣EkCRڏT׋Oˈ~RJs2s2ŢZu}*\7U`Fc0o[5<7Ďh_e@`bL]P{4%2KČ|;6QbiY"/@ļZSg!m4tPɎb8˙;5{ӊbD[UIl{+A1In+>Wģt1p+
uMYlƕB-ǥmdd$FK[wBB=qXZD.Y(P̓EH~3VǠ|o_?rn,зJ<7u?vI8h~p*BlzL(A%mA%L_h, f>9$1&҂l;,:4 H~:*9s_TvbQIF"ƧkPtW,(aBkIq,1xXc61e ?kԮ!3~v)lIA_:=X^Oܲ&mLY~xh`W_=ED\}vT}k;-l"{uȱ!c{[Hi2iGdJ.Ԡn.x̪ޱ &8%y2|[\aNoPiֆb%T}nugX;i&UάmR[{-X$'KzE?aK+3~4Z4~xTiVpB.6ָCdգݿHs}MUn/ŤQxx<]di&ޕwZ] bI֗VAp8N*2RCf^P;Q&rZ8j3b;QNDhK̰v.Ƽ}|3mYUݟPi՘(<\"}~rVIKnfh@vspN\?F|%F=(Pʄҕf~skr	J/v]ѕK&]DpԲ4Dɫ͇67IwpOkz8sFI2fR12[,VzHpSɋy+{"~7~0~M,YL:-FFaSCf5K&:C-ZϾ{S4&Mloɫ1YG_8n\ȽL+ʈHa_W*_R0kX|q$ qD޻ǳW_kɰM3G/Ɠc%kw333F)%	)k>Ms_mp1u/_r$+.Q}sc/aOm^p)(_Hc6NŒDGЏ|ք_17@`^I:w۬Iųe^+/'-0$nɹ!ΔZKlwh%`]8Kc&z4M)L<PcgeI?J}xMFQ{:}+bs7k{DYEW	@uuM_UlVfk4R4!fĦ;ǆ,+=9'-` CVÄt$ʗzŧɫ%w@aܖDuuczMyZ2]aS֡h~mû"b7m)yޱ lLWIWam߬0WxDUSͻ+̨l4@vD'K|0][F@<CWYZx(j?YթpDI|0\X6>AJEBܢlt80tUFg5<-@gPU[56Y_MY$@cPjjҭa$/@żSCpvOR@6ŜY-qéղ^+И^qk̂jw[	:;R@5ae;qmröAΌrÇ7(_Fv)o$FپsbI(UV/FхC\;zRUU[mdMpCL`x%me4}ۤ={z~l̔guRXD1E-WǇ?e!ͅՁʁ:T7"lʛ-m~A%X(kcڮ%gˀL@[[H-5:P˕M i,%d`'%kbT.e,қWET&˝/&"tЛFPgv`]qϳ3vt NTTTz4?!VC&n$(]zmoӐ˔IB1d%)DkŧՋqǞ!j}̱۞"yI}\}`+:]k??kkTEu6fX>|C",^pS2v܆Yz&81a T"S~Hu7QQ('Xl> :rjgx7ӲlnYDzhyK&k0Q=|b7Tz\{|0igVKcTɸƤi\V/ǥ*6ѣ/~\}"u'.,O;PopHf֜'3W7"UEUFǞ:}4'}@{Q̻O+VC6C3o*!,q4^by[$<U_ kw]TU!ik|ĕyU,\Z[	@b[r	.9<Zo>N8Wi 9ʬLX44)ELY=Fي'Xpwĕɷro̟u+E/e<@Tn˥RB9c<fI-%Du>iXsik^ka8E'MZ5JÔ )Z	QO3pp_>MEnv<WU}͎~yĚLQ]<L"(vYrD۔=lvVT97dr"{TgeomLLiPpw͢ZA+l)L%E]~6"ݛI]n.h3@H-4OUdڭĹo	^6m4U֞ z@{uSV^IzW՟fmg&2R'atI,6@lFqٺJ"hȃtב/0̗[WL͕Xɖ!KCgO{Zwo3	Wn{0`vzhDx.}+:~^uf 4lnY3`Y{һZ4:=Jn}>,"Np==>,Kz0}&R`ߣ`@Ť؊e{7[`D}%z[́d qe݁ع=xbrbݯO=OȩAþ{?g֞I3z"hIj1DpDf:E5^dMLS̰/IBRP*˃j?ZXn6!Cy3?&l*|X:FieRs_ôhCȎ_ri؛_D3>eTH.j[K^hYWO߈֭XS\~|L]˚jh8B|ݧsH܊J?^˻?JSJyLSp}jx	1C'SȑE0V=OfVк"qRbpp%h;"ʣw-w8VH+8c>{yÔ{ARPB)-{Yir5u˂iI[v"mdϧ<*u9x{k߄d"ʒJ6vqʨ%ؽWwۓ~ @?;~N~3:=a&^
Jw.Ƕ]5͗2\*,9!~M~"t_d%'x,byS<9]Q6sl=FܻyH:,ոw-КYXQRP3F@X[CjPȼo7̈90t'̚tS9S4@W$SxNƽ;.h7liv\mtg̞-s4s~/C,â?țU+nfʯ\cY8aSY^\@ƃnE3(/"%iVf!,B%Oh ЌΨF@ocWxre[R f:RDZ==8+/~-XV>"C`8=0`tO;R*ϰ~rD%ǗifX&?^/sD?9,4qQ)iI{ܢ׺0hĔ'C_Mk̀D{9('xaâa$R8~D5oa 'RG9\C΂BޤgFve:G&{18<OƘl;)w+ua))y~x-؈zy}\M8mbJ;C>8DWSpkҭSx}l4wLfy		'97}z̑TkC(*.Qh!3%(-++ͤ)uL	[:az)ŀ<lGMlɈƶ??RIJHcxA>mhzE6`MjJ >{~K}[U>՞AǻsVR$.L7a*Hgt`ڿCnVͩ7\(Raa,3Ьgif|YC_p%gr2Q4*ws%ק.>G	;4yưhDY|q{6ˎar/!QP:=˶{D@˱T7ˮ-̒WɘAưU<;J:;+.Qcٲ+4$CwzL]~R~S.iԠI836g)إ0/H31.Zy^R{šFIȽ`ư,gnϦȻSJ՞u0j[r2c>'kJʟ's5jf\yʫ6P],Kt/7~pqT3t!iJ\Ȟͽ}iSSȯ8Jj]ǎEY+(/ߩ؆ dGZZ4о(J7,X-ײSYATbY<a'ExudbYp._ie(jVit΍xs_RW"gXzAozgxV]yWkmHl5z	h[u{wEcȃ*s}7׈;-D^v]^&;2${`$gOvTeq;k0܍ƨ)]"ʧZުT.ɩq5ggK*ÊKAӠR-QZ3Em'0{ؒdEI!Vi]Qs^/(gQVaZN|kml=ǯHŃ4̲$ujdվe@i7Oĭȏ%wWtZ3}u];}Za*]~gcuCt8h_݆z~pΙ݇qU U)ҞlgNx1t4Id\r·KG36g6?۠-[N+ <za&s{ihlVjR u48bOT={\sYSnr=kgDگ8)=40g>JPPvCItI>NĆցu::@J0pV>y]`g!dzcE-4eJ i|EQ-{	wɊ|eH8"!J;_v9{:Tgi\k0,tʿyQYbҟ;G-um}4ܝ!hx	=<h7*-wyM\ח>[zvs?_]ثKz?~ہQ`(V02TGE~ˎ^30g:S2Q1c:& {ƓE/''A',KK>hu7g'oKay	tccyc5uxDrr_b`i t$ҹ3;.Ģӎpޥю?LCy)[1ϫbk)4P3%ki06P+lJ:ۈg"ގ(g"wl(::l%P(3g%g8i'/g[J<XծT	k/DEvƕT;zkRx-׻'LԪXjJe)-pG˹g,=cUQJG7	B-wXdbWZb}Fd[MlJVCOhvQ[uز>KlQA<+nծ̿(Ff"g]?4A5JOo,!4^R=͎0MUU4R-n.(=zg)Wl$Ru:;|ilCl!qAeZscVNĻ{oއfn=k"Gc5t=17G+pݨb	,ķrKu5hԜqNdW:ǬyEROԮih`Fǐ:aB~ȯF)?0|s*fTVHVˁqM?=p_xt4ǾLL35gp {ROatVM1ZƢ=5d<ؤ'Ȅ1zѭyz'vdm/H ~4ώT<m;ΙO-VؘOlR@%g7IOpCn3ܵeTa˾Y[:J6uu)>W6v:wGusgXlz%ٗ5n	șD`͂4yZo=</۲nXˮ_$_`yP`?(@*+1fHkr֋P11TI	āT?6@s~	Ni&_7^IOcoEd'\,aWOJ[wI6yUMߢp	f<(I`hg>j	gRJ`yV{RJͮjM	hq,16ُL6ȚM-yWJ1!ÇVZƕ{m!ʗtIa[Ngu!Ƣ^\OҡQ˃ӟ{`Pm8pdnPC`_,%Pgn>Gd'*u)ixp+R|^xĿ+ÃāԮzv<z}E.H&jp_8Iz'] d?GlU̿h$I2:6 j	*YP5oG>ì6%XhȻǉozҜSX5*D`J͘\ANHF()Yɤ7~5.pGf=*k8w3@|`!=[%rI|RTd1ۨʡ!]cϛ۩1ee՗Ո!
"8א5c]".qդB9Ҏ=kOL])8Fp)TRa@g]+u ә?LpH\12XjCv`OsZƛ1ժf1(tmm[Ty\\}YjyAjcFGؙF2:lqPdNƣJN7Νʒ*)	ʫfl^ݫV,]}}GβȕyKXg&ItWXTtH{7a,Xxw^RN04zuuX\zB3և*5I7*D(@o0QL@2!N)͉]f_Yx4w%"+N tO/$eyCaGH5ۙrte_FA~1E(*%̷nfHH`ELj<e^!A0"fDn(P.>\_[Dg&+gFbX̛;4gzLc\:z7f ڳfFjߠN'A*RĘ?=`[A	9-c.J/8>fӘ{mE\3EB,w<CWYA[aJ<][=Ж-@ď']hPL2j9_iϼH6УU)WωJ/z+^JC5ifH^˨AY}2ot9ңn,-Y8I2;@TчgEkjnnxWʷ3 7,Hu6*_J&'}eƋ5M1/D)sqh3nј=%	.AhA$\ߦ0l0fa%Dq].*6	)rbHKAǭ@%6ye'xb	ȌwlKy7ǜsT{jg"T6՗!:6ȝ3 NI6nW=shK5)U`gƮaj9{r+VaK9>JM97&ݔ)tƠ G%ˏBXpeHLɔ7VɦٷRilądYmiA17Ufs^ć+=РXNy>e[ʈ?Hm[1I5oj8RĞb\B'XPrg{ba]կz`uќMW,tLboogDيo'8Bc<R.QtD0OMlz4[MG![H0ecȒȣѹF('2qŮq(\Qi_&	mσ{0oczDu׽.klZbBeucABX@ӿ@J<0])x}|.dA5 Xm̳>kx5ǳFؖolf_9Oo^Y_ؾ>mx=B.ߺ"I  G_33uT}	say3TH<DHme)Q~V&~PWchX{lؼRE߀oP$^^ɭ,.DS9ޭNkejEG<*Z8AL1@r0@AvǝjtcUɪBv[Ir%~jAlOU9Y>(:C&I]Rnu/1KEM0,\mt0P׈}6::*OV"{)CD]]	RgGJg!,ZK+1P[kxKX'Xә:]<!vYO/>jOrC6Y6җd6R!H<@<Qi _?fz84a<)Sj'H'rU1*ܫ% A/syǇJ 3=Aaщ~~"5eC)Q<J) ϾZtfVsy-%'@F(-ǿM@,xL+.Dm|YxW%د6Ɖ2 SúYͰ3ŉ>vXQ۶]U")u'~ud/HWml@ ~8gğ3ȗ G9S>mŉ,k"%A >XpF`Z(HW4/nD^x+/ɜc,	Y&vyÄHIy\bIO;1]1ݠz;^3K`glϚsΓ'Rc+Ng!VmÀ'9aag1iܘ%Fܴ&m&Ĭ>vC,"qTU|Ϙ/u+6MJ͋LN=[|'6,XRq2LįIj.aSeR*WXgTZZ"zW'jkMF~Z5G}Y;\̴lsdqK'I̯9Y˂^B>abPJif.]YOO*ށv'w|~Y&ĘCcK=Ӌ*q?=p$oaqn[ɻ)aNiPN{]n~/f6TN5ćwX!Iz|/	Ml3y!Gp:Ȱ5<N*Qm.PoǘGsZS%Miw6Ńd_^nÚ[2[q("FvZGK74;3-&<uˎ1R,YByM:5JbX٨̾2܋iˇ"p;S Pp>r<"_.%?R?kէSyR&%ސT'Vǀ029v(TeQuߔ.ohՋVj|߾>({lÝ7@;ɣ,:HQduw~wUsԹ(`P$rT<L^|x+}?i]Ř3gK6x|C'35j+i=7LAN;ph[kPO<wX+7: E@-&\bv-td)~+]̓Q)QV9`Kz3ʹ<%	'J*(!<|wm*yPYѲ(cFD^_2?4t,xݞ[XţJ$!i\lDfݦpA$"̭br2jb0vYn8О7Zon5gI!		cj؍,B^D~Gֶ'4!T>	V1mI1@MMs==o	XSϑ+I*-unZuJVr/V-oQv>qMV~5J'+xf,\cM'lR}rvasvZp;S<zn.NkfV}UHӭk6o6zJr\DI`"7nҒ<~P	m	r=r:Bޘ͜mWLM]^;Hdz˫n(kiŮ~Օbuk-!\,uҬWp}ˤ~/~zMC!dƟ	([Ips;U0h݊
_ZkÃ\Oc'+eqʁyGE֒b?ţ\ar`DE;Q3@M&`ܚGo3aUoUXVZ \>w8zA4~hވ)*GC@`Q8x{?t$f&ݨ+4tr+uEs͵\&*[<^Ln;jf$g>3zkew<(Iw<DC2Ts%m~sc3rqϒ|s>o-ԯݮa kֿb:KDpR2l'"ø39Һy\1_q/MԠ]/v[L5K'|Ɲ5(sÜ+؊h/A,`d_cm/k`C!1.@SBbLޞ(|z7m9ȱZBsI<1äXȽyVc[E:m7st5z$Fb^''O7%I(BI3]~9t!s&gQS(n3pqfYP+݅j}b&w!xIL~=|NϤ/<([WN$C_.xDƱiLe:-Hwl2m|xȷU[sT!3D[=2u̈́>>Gss0*_UWV?!,h>;FS@XXP}5(M/iҾwњ	dݣώC2@]һtzBc1 "eerTL߷.m9(qٯĖXl\mdFȭ+~Xq[g(iǑmA͹žUYD:;|zșy7ugFak9e+gkS'فr9~TVH;>yCÛǀh2gX-qrrV_MƳ=}/8cPnif"Ψ,sm8DU,gۖ-JՇ77ك9?qz@5DطF./0|%.[ws&3˖JD<>Yg0Zq(:ylI~g`.CeͥjϨhJҿb1%%nB!P'CاH17M-ړxA%D,$E.թҙAuZtFaKfY`%sf	aue!@a2<Rц˄ȏ;B~(1@+eBobo]ՋtŠJ['EEA͚l8\v$$h0TC$!ӾQyj^*`q%4 h^'O	ހq-X͚Tؿ%-^ɇUU 4Vz*d`vxTYl<mg@m4AR/0{-9Sj{V: B\CD$?z -KhFUc 7_t!{E[9qyNērRX@)dՅ6ZҨTH4zVՠ=Pѩvgi͠z$3}b)+jO9;xQOM"ٝ*au	cGM;8[6~<4sQD"yk̯p3GnI۳e@UaWɪbd7G>RQ^{2ˢ5%x$238g/)FxAD%چ"-	2uޖl~vhKŧoeJTA	@$\!avs&:(LVGL~E)1~\N>iTA7:&f4^AU:S^W;\5O֮}OH'*p͒V]PK_ueWjܦ[	W1vE1tmvU6v-57*	Fmǔ4ێ"Ql9|oc=%ͳQ?Acԟjt&V,Q::Ziv[SC@A_W::C݃c?=H'q\<Ũo9,6'?~;y:Jb>J5/ʚ?vpEh$ʭP %ܬ<sXd(aK /z)Fa!/1iQ8E2!ALqג9,ΈNZyBT+ĆZ̺S/^5IrMHæseRAk\}uE3v@ ,NEji̙z<NllpBnQqzǟW,t&ȘJ9FKL\O0"cޛ̉@ʋ>}2x&cUl%P}8FRlܿk"%Ur"l}+F/ؕȓL6l2Xg)6a`ebr5-z_*=@11*QaN;2˳:6NZ=2skgџ`k߳ '9%9HU-XпJi*Zx~g5s3!Ɋ&6-\d@7\6AD݈tJպMVql͊aT/%jvrWL zT@]Bƪޱ|ư;wESŧ]́Fx1M~a68;Rf8mDx^Iٽd>2H;0]!^UATQyI=Ýiyhܿ|TthiC8w`(ĸTjĺ:a$tbź7;ƗQb$Uظ6FSnVOK˄~	/jBLV?wUu)ԸOӔʡeӟ(Ђ%âWoO9O6fT;YƑhфŧX]Gmb5 fP%ǁ8.)+.(C3KHCc<o:=%O}CJ9;Ê	7VN>C(=$1NDvǕZ2SklԐ7^sx'`(RTCȲfLkξa1.L5~Q{Q*6ƳKX[Bh.Bِ͘;PNW'H̃%fP>;ϠO47qPh'na@mmJ̦lɦ;mtd{r.@rrǦ3O)IPn=MHMͱ<]ʂtKh0{Tc(}dg4kk)kHMlș$-1C]}w]Q85H%"rJrdP."]egZCó+f?9˙Aoq$	Os?uyłg6$4t_|8cpppN/es!Zċ-IlvT*eL/nX{QchVݍͥ_r V+w=mNPi"9v]szT8c/Hj2Ƨ8ګvY6T|'P0}tI/lL2]%efBx<wqnn֨s&Bw3vlX{va\Ѯ=x0Ig@snعЙ]}>M?,j{ۢQ
h:j0 ʱNh?JjZs5Ħm	G>ҹ{@OYk2X.,h1Gz_Mu &C0MP$Ahu'RmӏЁT]ХrK?Dk1>ZNf,ω_@bt]juDE`N4@>lDE\3]|bʏGؼJ3s{T)~^Km!uveP-Hm@|\:&'YiZ=VJ^\q-D*(LyHʇt-mY:r׼]A|:ܶ>J=E/|׬cUiř3$%|.4Q>dP!x	͎R>gjdǸV{zEF4%lO͡-\&22r$Є7Q1=o(Ld5:H~+dICo4c'{/@|3/=&3t5E;0(mRM?<קx7̩4y("Wn1Vܬ}\lTY_vb"&\?y9i͏<[kŤB~7O:rN&9MMm^+y+Ԕ;7b %yk4xu@Ȕ@iv\Z ڴ~W8Ѓ	I]	Ns0(&HrsDÐx	s8jT!z5tp/-͔b8T+ЮxحAñ.^7qu`o;e*)͑L`^YƴǠswe1_+@j}KN_}XBePUu\4;|Ji8ucomzC $EfJ_}=$6\gsˠ˗2<A:gl^wQ%9P!SfkiM`~_(&<*mwT'.4g%A(WȚ<lPB,%d]h0ma9u8"V!Gn.((UnUԨuN_zܞӽJN`+5x-űY1TSf$΁Ǣǅ'S~!ȿ[} 4tR޷%{|\AO e[I:B(z[L]Vp+=^̾Äfhv"}M@IĝHqvm.|ݒ\+=+^L*j;!uO!N=_15D1޹~"R:XLŢ$+bRd2KéoE:OQZvTS2l[ӌmCVǷ$^+caiPih_Hv|*XqPA4Xd?F[7Ā̉Ӟ+g˂!I^Ѹ.ȸHdh<*ZPI(8N>4-.ˬצ:POĬDRcR/Eւ@hwӝ}9d	4X:*A@Wݦ؉%,kx=`S9e+n4py7:9 %2nZpZ7kZu	ûGJR]21q]wĩToɌi=Rlf۵g\8I1B.^H?) ɊQr+-ʽztIOMgAGoΖĖi?%M7Ho1Ǹń5&4ʀ0OYQpE˓uNW9m~R~kig w^(JrUVf,Pzg=dǀj"JELSĿʜ HV(%l7 zİ&'Vrs3wĮz	*dh?5ê9B.<IfRLI0Dݬ_kI:?:,p{+;T9Vp^i(5ocPQ?%e&x7@+fj/>ۍkC;o΁Qw=U!rDHe7xҞ0l0'!arlF'}Bp/rSI |S:\ZC̜oZ-֋cnuύ<k4N?'q$ &޿{ic$|T8h́yCZslSnϓ_NV8IBzP.٘Wrוuxfb?C7Z/|guz3mI?SD=˼(t0Qքg|&FRZjHEv5w\[5,=ǈO$<Og[RϞNÑǏZNHR+"K;ֱw>`5ʄh8nSDELm.[pŐȺ{ T:1slErT%HB~|+.C/~w,vUAOCK`'֒Oߌڿ]0MnZHU"X:SPηDgu+sES@u:ܵ^;nRyFHwhHt!",ZbGVa0mX''jF;$~ߞW\%~0wvarx5=8oXĦǞrV6'_kG[z{LĂ	Z\7;_p+{=ܧ0ϣ|t_AqVS2>]m}÷ oWCqmk<t?yF 1F}iܭ3PvZG=u|J>Cս7S=~NcAr:O-Ďf4cI	5d.sN{E{D z4=w{"Y{)Y6{Y&0oQ{a"cѿXK[oƪED=h>{07,~[!~]''GO~VpJR,7	'@XDIk)z/9<Ku$(+Fʢ85؍Qh`5JsXAop"d(\HW˙a__ /9>-OǳlhEZKl@VE5zvfvNSG1	̼Jw	1"B0F	8@n3pʸ-זhJC%QJcXO5Ƚ΀3&q&`5	lm`-ʵrW؊:;_ *~QX~sҺ//Ie$4Lm\RQ~So9eH^Y[RQ݆Xi&S_]2mƧ+1Edܲy<ف.c[1sV)èJ}pB^bG \h$r֩%!<qfK8(Rx5OΎF`Òk9PHw2t ϑ|y-9h3<_%3N	}G:jum[T(&;";ohGYOa(t&׽=As+L(-;'nӖ?G2U5!/:SfDo(oǝUmT!+l?K*aq.7@P`@4\SB*chk8TkRkK"T Ycd_hĻXK-[3(	h؉̾~8Ksi2=zW5
')dHX2߾EFgJÀUH)@I^@]~0\J8,ix:J\3&0tXF[,̅Jڕ$OLӦ'`$6.2et$rt8CEhO>xAdȮý>ӷʙwȉU)hQ-2iwyIك	yux6/@Xj=D-{xoN'uve;}J[_:sH8HłpV/tf]j@5&c}Q]ud΃YȷˣDm@&>M8O!G4@p΀.SHwY3ڀ^U"*c'9+D8p&uxNINlmtyOrSc:MJ4QqЛ8JʹUHVPx>Qw8h0mx]CiDvmOD7R_n\&Clc\_lQM֝o]8C)(!VɧvV^0<F'vs~Z{~Q$^ɚ4_\+*	p}AvMUųc(EK2c3inANehN)Ǧch?}Z4zˑ}Ŏ8MxeLo7	[ShRC(*@9&G}HAY^$W0'^oUG$74S\blJg/7Hب3_ZN`Pl**g4?F8	dFw9^-Lf(cQj(dƶ'[YzHgZLBA !=eۅLEΏ4V@`R߇4%YAVgOZ9Y)v\з7^ŅɛMO{ӺWXiE2l56-2ȯ*NL>,NyC>RS?mgU^pȒ+ޚz>QǘX iaBZƞJn`mCV,[)˖S15ʮ\&Ň҅QcӲ-R\TZŇf<yÍ(ņǏqT[=ɦBaaaA&5[@Y*SՋ9Lg~pkKJzS&~.dƗ݅˯N&?@wV%8Gf*?\[$ӟ\M^0_wyf̙%3dƵt!3+8'M5X;?%Ŕƌ750͟ڮykKf"&&?_6+*kֽureӍӯ(E\/}mȚ!4+rѶ3eUjtt^E;FӧZ	J&üehXuRdd]k74AnNpY$qҩvZOfVuƼ<sups3K pY)4D 2^J5ROB?`ߟ);8CoLD8`s0k%7Xj:3VZN)sT,|~6C{6HȦB!GpϹsŧAgFBDŁJt+28NbuUSXjWAw͉Ĭ:0?'>CW6Ƃ~M/ip[Ⱥk*3>q~rUä}h"̦Sˎ7;*<FfUlQ1̎udhOAݷK?ez_RSǼÓ292ڬ 3oa&"m*0/v[J`vJIoNoLhLWvT?lI(nC}-+[$fe|{tc"i&%4hJQK0-ՑP6}lS/!Ul'3?&pSt+D)~gk]'e>cҬ%n1XVȤF8E,eܴrsЦTnv{U=EvR/|ROt)+uDEG)0uӝD*'bnϤDCM֢x|z3"r9p@q=(y;.́c|a;oAC5{"ekbC_^-C*&mX')S*xp!e@<4eWs2 <"85pMֶt o)Y3jL"ѭ@~_ș9D2	,*11t7++p`@L}\F'z}b12(،^'dPն'PGSԆ g9XȼcN4vw./T-Jj{'kIT>?PŊ"O~:~c7ß=Nȴ>Ϫ"WTacIzb+vнi> .2ס5ӏVj1+?@jnR">w;ny8%;]u>)a;cWS)-NW7NͲr;nWwv7q@YhӀdI<n7aԵyPgecqq ET]&uЊMPb`!8i1'1rp,ZVkZvvb6Y5;ͤLl*5K-+˓˅oI̤ß,bh:߆X$%{p	mz<	K^KOY0<$޸nI˅PZƳpq[:l*hÒ|~j|ONR1M];/aI}.eNCد՘5-{$~+;L.(%׎2uqA5LQ[[d%<Ep}$!YC|kN9 Ln;^^8k0i>:3xSl>^oa(ɀpfhYLzc2T5zQ09>@e}Do,c[q@տ	+Y%kCtRnv]b{ԷP"rāF6ϣ&FW _):()"[vhN,}o)wSiE6ڸZ^0?;|=wei=ea~CT(!y:yܺ<i\\7lM^RǩC 0%^C\s`9O׎2GJ1Ug?6ҝ|	cc"/B],3ݬ}N7y܁	:i2	0BVh&E9Pͫ_Z$H-;ɖ ^٘h(xn)ԺnpQY!}(Ü6'ʚs;wzAJjoyۑz>;ěHnb@V$gT_QaȖA|(8N/ədN6N}.vf!PzՕxCNs oSiX&t 54\VtӨ&l,[	Aݩ2ȫ|cBuTPwSF*{[!i]X@"1ǉzKZ*%˾{SЂ%"<wtu@(^N=?F~-_s9?lʍ4~N\vO';iD*]tΎ̘+rlm5h]4M5
a44vF@Ox(u-0l6U,up-2ƟG{[kNaiO@W:ޚȻa='d|jOOλ ur2$AOXҺ-89̗4w5 JQ˶rӳK6XsPr[e>&+`BVylw\ny	-ƾiZ[yOʄE>Lʉ΋FۢMGbYǊW1ī(|Ck \0kH_QCCKwG`,,cyC95~uc/Yg0P8h޸/P$R-`Ϻ<>3/.vۘ2utw]hxqrвLX}w+:8"I<|dVFACitsn5,;YYw\<JdzH<E'$_:dm;8xt,ðĲ;o_6Mq|I]/-Ti	ˎ4/x~R;o`W1_JMHQOcGZCt=E^<dՠ7c-Xm{cq3tFTˇr;W1>FFR@;L|go|}l^z.K<MضV7X$lİ/ldOV;=YnY'l'Ёed]fjBBV:l;{)I' CN"=J[ܺW_"Cou\R])=GNfC;?%;8lJ`vtVQe0ٍFm5ƣ98v=j։fٹ"GNGBMkNApoV8ۥB_K$:wob'6b6wV!	yf7pA@'AHf׍3V>EA3\}%q%*^yjGH6"t_]*Ļ<q$׎XjK{/Ňn+	)0NAt^|o("3fM{R.[k?RО~lxrNWķj<;JlD^!Z@J>ۉϳyBq627 3مUzVU?c31f<?E$0$ εA	SdՑCţ?Tt;կ:_NWFWǗ7P.8}_ivEtIRd4(\:%հW"Pi7V4M*ѵ<ՊR:am=K^tؠ$8VK(KZŗMۑiR:77]	ǚBCĔ!ÅrۉLO[[[іNxnb!Qjb4$zk3wx*՗)rkCսX9Q1Ov4TM^ȤuH) ay ĊUZn";f|9Zr+ęY9tcBBJP)y*8v*C)7u{Ӳ$bUCȋ/Tƥ@rp	ΦxXPa98Pu݉lZWNs<*u\Ŭk2HM"s UL<rZ=WN%+>(7	,<ut6ٓ.YbkHhۄ_@'2lZXo<̜A<̱Rry1.NR7i>m,WKKo!LpڤC]	RCYGwtQJό+H|Ƣ5FB̻cPԪRo_:.-~ǠjNrĢJF!"*B'Ŷb{S-5vmTo64Ώ<'a^W>\	x]̷SOG,T͒{kHmuN6hMas&|w۬=[ĭN5o/ZÃ:!v{һXHxNXP,8pg45P}vq{00kn`5q@MoՔD7.IÁZ\'9	h+Je9(бpݹbtȍ79$->(RER_T=vR6NOReFYk+|WbK@JvndMpk?F/`9YDjE$g7Ɂ9+zŐ6Dsg1)lGHldx$]HB<9w|_`We"QJ:ee!SW<n`r@?pVclN_mi.ŃStˌp$n6$H*V)$L6-=;d\r}*O^PظAQԩD?1r[_u!To<_4;aFK\Ntq1R;mNr~hIL`6Gc8ayP4y˓Yo_@I^ؔfFÞ-|DahHǀ(bjVmG\$s{\"|[X4@,xḯI7kqO||7QO"&[q7Ό/+\M+e:F;ZU˗,YchUOGÚ_|d\z|*޷<ؠM@-RR2ARXaZ4n"~5//kDmE<Bo_6'_F&RMC~YvֈK>*|c͕%r5OŴH"62܍u%ophAښ+KߣԾ7n].%;w)^XƽN`΂]h(Y5u{&\%Í!N3"	6XglpTܱ*%$9q!juPl5֮uǌiH6ȵE&a!OuF_T)ω:Ț^)~(-u29>weVM"tkAʁDWRJɢtz&ARwP*xb"e̪1PydH6=&p=3*(n^u~e/qZk3hxϏ;dv@|rqzg~N(ZK9oA/0QȪUO:~e;Gx%Y+REj[ZrXiUiD$h?L-Ƌ|Kj@^a_Aq޻BqBHk]mxd{:4CO~LOq/;]:Ww]2|o/5B*ۆLٙLkMۈ>6Ğgugבk0y9fEPx;6Pq5_c6uG'qv˷h;y[Kzs.ҘʒbEH|Uբ]_lqOXF 5$-?rgZl1L6r51pINcT[o?.GǴ4mPeS-6>W'?4]GUvuQ."(i҆TXUDPbj}|ՖB}meه9s7>( 3Os3*|ͽͿ'87gVWb)D5NT	H%״?H+9TQ˶l_|4Xo]?7ƮVs2U
PoB~Y)mp2%k}mқv$zL$vsWt3xGfar47HJI>;y3Q]Xf[ļSjo:!],		(Ǧ]5:t|f)xk\R)C_ {]_-K-S1aąbGh(fnm0ZeXmȧ5{O.уC41}}nu'3p5mwBJrŎEhҪ^A9y?~Xg*N:s7˄hmD̻@]uŒD>EPo90>HR	<JA%%iϢp-,ZW|[%;	]HO(i!Jl%,Q!s(q۳Ϸjp(JMzҹUi2eT_:g7NE]al't-ԭc9qB@ʬRtT	b(t[;wy>O5/^T2ԻGEޑKiƀK^Q4}vڮtk_[ʮJL:ia8;qiO:}@94hh`ܹ֏l93yیmȘӭ8h QcS:(\:.7('k=Z'vM+`u,'cZn1q}?[`9)К+Hb+Ȉ@̑f2jNqaXsoT_e1d[9H<	j=Ò`F*gj	0a>ʎRCf],0%j,;%BYC_ΥE.i $^B:3xuOMc$O)O;JZ&n*,]&nj-ݐkܫHk$7]0e@ |~J*iď?OO!hYcdI6.D15:QO-ҮFo-qg,]<TWz8("5A:k(?6G`|?@ޏ_[4nlx&9)51mѨq:R,7G)o[U!uEy+_j=;LȽ\	. վ:AyK{HXKoӆykfBdsZIbJѾGB,@"	OdnfOQ0|80TͩJ0)h:)\,`U$l	^С̗<ǄK%?jTK8F25WLdhz:޸KUi/5)ETdؼ(`eUD=$ϢNeM'lmk)HU޹<1WdT_b BG6ZZ|W`vߣkUnGb9ͯ7WP(̇ޭBX~>[ܭb!}!yx3lpwʃeU΁^,*2kc>>68f@ƜƯ[wgȖQ7s[I.J̫{nJr~3+4IS21-2_uo>-Wf̱% T>79ƾiJu&!&IZR`kʡf_8Tl$^ySXEˣVUd"_2xa9ą~>RI{e%51y'Y\[ɬVJvTĹ@]FU|y6s{B_UDj~4ӞWK70ȎQwdsMʒLFxNvF_SϷdP/*hdXn1~L1h8ir)\Ɏ*YS0œ	M`la<LO?Eȹ"ĥ\&I6H2'/UfzcԿy~uudj2|2p4-<+1%lN۬È ξF69gi/J	RPϹ"+1JȠ!nnjFR+$"оa?zYų9Zqei0Vg6EV5:B_S?NbR˳l*jʌ>E20m,Q!S\Op$ƜYsul)TmAtTu7s4]Gb"_gG@pKL`vI͓phqŴ@mf_](MƁRR,p>Y>=>3,֞'KȢn˒ًrR)0^C6%^"6_5hc&u@!iw?)?BT0-kR9n*"pX!u0u9}Xpta.vUlȃYHaX)'ڔ=[?iUPf׏:X	B5BCgT9FyTd̕Z3&>JGGun+s;}_O_@,53HAI9g=])uh|+ڱK+WM9$vR;td˓۪Q>G>P5D:hiVk[-ΙVpC	g6CZޕEC}a|u12)39O$ɸb~LiR 6h<w/?8̴A̷v'@*:cKÈĳ>3CRO4haf͓MKIKWQDŎA{6-OS'`aXQUsoYg%HAʰâul&MLyPB"l>.KWUCV'LTy]-x\/df)BWݞ.ˁL,;,3&n/tn%Ɂ5UB/M~_&a?N~ڴK=Ld]vLa@{f;k`O`'3+ HE&2HSɞJrRƼ"lHai80	3twn!ǚ&;)R&x[܅BGż'UGro^]j<D]]*֚GCX1ڦS1wRwD*.YTa˼̔đ;c6kUK:vU'8$Ӱ,j5gF-_[dC@àNh*!ĂeTJȉ1oف@X-tqcV]m`ƘYxBwFzI2rQKOJ%0_FuP,(E.{iA<՟49'JEv%@{YpVzFXqK{s(&ȵI$U_0X)KRƹ	jvY]yQ?/	K1ݞiPj{u4u36po^3KɖY|t-o0TG}eb}k!1PDl IhVѬÏM}fyj	|watf%\YsgSΏ?NoT*A@1y/?\Z:m'3Ǫ]qЁF|:ٗއvc>ʄ*09W5Ws2D<כNV&yOLjTI"X-i 1lǍY̓Tf2ro8^Y[e-RbzR/a[e|IY=W|[x{[\z
Nj>՜-^pз)7.<">^7J%ary>;iuohwIHPd_&=7ïZ*ne.hzQ&[||Mrw	]ՋJǧxJLY<axyHGι;7Ъ5Zy9 VVȊyu0Nk	^;JX?\pk *5T?ý[`OgJasɣ?%qT=r+zquZ1D˩DC|"wzʔS.oWgMf͓Y5nNn'xGqlkJCZ׹^_Ñûoo0	smgRshq"p'b9޾3-zTˤ9Fyλ[MnƗ!L_<PǓ	%X	-5,ńYleDsRPw: ."ƥ{!ؚ?yx'a{2"f4p@Cϭ͓7kf1&ӳ˼nׄƱa'qkB~:py3`,5/Y5eQHN vN{lUnx`=nxhϬ%pڌqeV 5(}j,МbQ63O)3TR@L=[4\zȠ<={UůSV6My˒=HzorjSqfK+F~ҸԾP̿{~nBjSl˭,ݕ7`2yle~1ݭCnxjJR	8JĺO"ٗѽHIia&cͼde*`+r/@s^Prr$~ӟt}:r+oĹ`b8z/Sw&PC5MГD$3I%*bEt\%Jr f؝W@FMÅnz1O;RnW?HE6*üAM1[>)|rV6޻42cOV{7<̧F*)WrYۢaT,Mش'}3Õnz_%@fK|_P?6y@}ul[s8bbq?vOFL2NI$ځ$cRvy4q0k;9	~S}BԲ[\ rHܗj.RLipEp$wKH.q;NTzkZBGWύU3-7$MtWj@zm^&p.;Rʚ1+hɇwWT>jZR=>-j}cL[IGU\dKG7sƄz*˟YmQpc׹tD[}^;n zs{}b?rXʐ|Wo7rq{ǓcltR20gT7QV(?>Xͦ	f'[iysI}<	 }z0ƁnKͻpԺnI@Ċt~zz0ԌL	pnu&CnJ׌Uʓj2jf=j)9]:jgiF׽;ߙb1a/|=h\VrFi]`'gOїhZi+mr4Sfs(o(?lv(ĕ~^AXvC6_,0AX)WrzwiV'޺"ٽA&f/SFR)˱|aʬܻqA-aynr<&TC 0FdqV?r1)-S(/8$0d:JkWv5,,y;&g98^uGT_Hñ͊4eZXFկ"`xhAGۮN8ϜƪfR^`pɗ?u>rG1Дj6iG$f<|+!mޘ\IcN',:^PtDnϣ&;NO^le6K|^jz"G}Obv߉gAqĀ*dkPcAnڀ`-jytFX1|v}P;w\x%ǂx5Jkv!|8ruΨ4G|[ұeEş738__ӵHvjn%fӃbW\1ơrg"̘e=b`Ҹpl^$kCjV~k^)zXnx% L0ifMI	7g>0X8=AE̺X<$0%M˅yȅ_5Rɯq߼=UUYE)j m.a]WPkmUCֶ]TWbj.40!Te>+\RAb[0tdI~7P%8̋g=CDrZ%]_'xr{)+)TtT'WG\<7/̓</5bzTmBp{55yǻGe4˗0	KD&y"܍ƙYKۙ2]w]`T4Gf6JHxȁu`H^3jrh.TMvOֺ`՛	G$yƹ'o'WPP5?7]~̃ȏnA,@{4{H&Ϝ`5^VGDlCק]DlWwa;?t&U3&0MeR2:2(uxLv3AqUxʏEND-NAx"2:2ՎƏ7$_nZaKqʃl~<F<Ǎr;;\rz-2G˽u!iw6N(><ōCj'|WyF%.8*ei"U49CE,RycI-+}kzI5g6~<$(1VVZ{5fǰ~XE=y{(	jr};:W~2UrB}0ƱjK\TZ>%E՝8@KiˤՎƫGs߫7`k^*ָ^$"&M8OiF)0Mٟ0jt?`J_Yf,$h;cd\c_?oxo_slJl޸tzBOf6X8I2Q o&s22ƞPģ|׹;5WDNZ03q<+D$ˠGp&E[+d3k:R^d.ds['Ȃх}e7+zx{wq.^< VnRdģ;]/w&sh1?f+E5 La2SUbNu~5[C'rAӥL֡X-9B7.xr!_mV$o	ZrlCɃ*Yf-cfͺ)=Bk$!ed\UɞW^KbLFJItP\[S-ߠ)!26=8bKZkPIFܤaA,Z=jH.!˱ Xhn[.P%m3ՇUϕiȤqlE
,Yty)lġWQ%YL9Pi*IĂ]w\)n?E[j_u.%{տQ&'O`l0R>mZGqƵp'.2!Z&J\~[h\)gCф6eA@wpʁϞW%>aCa5H^yߑ{^	Nzr3Hƥ&Ld"2dxó&Bt6~KAtĲb*j5+ǺC.dy@֠=*7΋~^ˇƞDοd-tM8ȦmMJ>̞6Bqt\6eym&)%4},&}.&Abu-]<CQI}x͞-Ƥ]Kar32Su45p^;S"ES?HiǠʬgz>jO^TUO=fhWeC@WeWYl<A^'P6|2Qpu\>u_hfJiifǭнMli&DjPrLǲ.U/"-ʲqrwXOS.nYJ8U@;Z	L[9ǘ%fq0?!SJVj~6h_9RK	MG%xaYy6Z^hRHVYBOV!^@7`ҚAb_ڌ]˻u9@V5Ey=%o-jlS+cݖFψU?pOȯ:܆<XT~s|LbD/9MJPa!{32[Fag_o$]t[Iɂ̀|@Ǿ^& yΡJ"իڎSg3D%pb>pTaT`$z@{4}I׸p>r:EkO+v3?^G5!<Eat٥ݻJ)/Yޱ:ػB_v5јb&h\`=_5ąZ3BE${PB)k_"<3Hpe_TĔzgK0tυep93S.70&-]%/"O}8~n:cwӂߞ}W ';m"k6`Zqq%Z9l̤XAs%k`sBe)s=Fm3f.i`;ev)lSp\m\ԼdQThEx.D0__8v"=5vAVf:g>Wv+AiBF-vEOg?DV1so{'N5PȵBnv]8;OxQنKsĢbߩ>HxLf?"	-syP FO}=܂Jc\Qjāq$n.T-( o;<UxF6aLeR.|U9ƬgdpFATӖ_q>`'NG*/K"nۮG=|Hr3Ug$OSA&+ckUhbVCsENɩTd"VO?ğ<mB[-+('!)J޷*<ld|ͦ"RUa=ˤI$Tul~GIWƷS753aD)C~OI ߼L{>YR,x0ɝ4Gϳį	nQYAG'HFlg0vMa	suN{Z ͒IEUnkLqmm7>,˅WB$g-LZ+'ɔGNV';~( W*uC\Ǔayʳ7k.abAD*7nE$q5<wU.[ IʂHg2f-O	v֮tFh*gVDVGoM_I]ۜ9Ym[T=|Bl`vTY.a@W\fP4V|ʿͮmKkqMKZ5M?g^mop!}B.eB.e='-;DFBG	-$N i&dsQ>K0pƵ6a.~Ȝ3^f}jGB2lIX;;ɖǻ(ͥR$/m0C^ߖ;afIOp`K\ID	n[cЙ]:~dyjQu8IF7.R2JC3h2Kpx^IN`	BsYMOmYHǌ=*(C7`r5fQLg,3D.%B B54r+5G1:	ƀUD؇~mlŏh~ߥ*.Ĥ SPHq')\'vҌYpf,(ջ5ΏԎ=;2aq`{FuKNc9IPf,TxD$e)OX3>Tr/(	\eNsGʑ6M,QZ^0TޛCbU/(J6Ę^*H!SWŕXtT8MLtt;J?ǞÑ;W^[c@ TN$B"ۏZod;K	1B@='{!Es=+tw;/ݙHyD`	">,JsnU{3zbkc8c	+hmҀ{S^d̔rGzRiy/LL&S@͏Ģ0.`N+^uF):HZ? ecηZJtғ^laٙBUt8&]nO6ILhF޷VĹ2͑0MU1/zխ~fȠ-$0ek՛*w<w8F%3Ƅg]"_iŵQLWŕڻ,i0yS KXRk&wxc0޾z3IrjN/KgBlE7{-~ݱWem,پ9	(g\T!=q[XôP gw̧Ȳ!<8Ka,xF=9H[CBO2<}l3̀͛wU`'hn""5ެ7w$p1j}e^QEt֯{@HXHjC-i.Fy?sÛ@`z{k߷IZu?k!y̂b}VegI-nDFá	wq&$DWGr|?xx$} vy8eG[Сq.)-sSbZ|iטf\ls -<kӰ?ϖWv t7+ݕ}~oj)߷zXÿ>M?;ˑ/k[L$8eR.39(F)M%oƨXtLN-7ͣ~yD@e-*.mFug?Ǖ$8vCUk8:aXF3Ï+@8[9NI(nw{ըoQ0~j@\}Ĳ+V}_q*mB״:3	C
RIoīiyD2RX̥MkcjW:vr:ĭn25V^PςͯaLJ2@&k	P6>(6ď=͖S:SW	f`i&m)RmØS`_4|bϴO'	,:|1[gOYhXwq &BĳQ!gg|yqX^|N=OǘYQEPL*M,=8ɀݺfy8Ğ,alOĿdˏ<Hsnb]QVA8'ܴ\6eO{bKJ1Lfc}٣5O!)(2`џ~/hėhU0pXo`-=z++R/NAڬ[Pgdnݔ\H~gČ~|	zv[eEWϡ`кb~ D"2,ːe5XnBWbvjHbjZ	)MI3Tk"21_ T	5BxGv4Ap3.B,0f0+(0mP6Zw,Bj˔F5{-FWDfʸGn@fZ1k"9vpOa7Nq[0N؆SVkYl^<zl	KBDI?4ۘf>vpgMwn*վ*:Խv0W}mwi:~?e[F}WTճS`)VcAV$MZzu]4eϭ7U0^t%a,p8'Mp<]	2KhpLEXIm,6sK(7 .t\kԌfz{]a/HV{;(˷5[_Bwz]` b')ɶ{p3WËy@Wg@uZM4C9S97}1-~\)i	~1l!>9"}5vjoYXÛݽ/V7ɼiMװm,2o]c5)|F'0D/ ǛdQS"xuiI_$W*`6!)Z2}WԼ;6y*\])J_5yݖok~:tŵuEn}ƈ.En0jZއ!e:a"^6MfPэ?eT>ʛ	'&WgͪC]j}ft[,`%fDDhP1!'1r;Zg"eƈK2Ԭ'G]pUߣղ/o,'PˤYy+ɯp)r:**NrTFiB? 6ˀj%T]Twqx?tIYN BNjP<H^+=&>ٺqS5eɍD6E&qk[(=(w.>qYsLĊ2c_[޻MN{h=?t/08>wk=sEIKvYrB֛MNg&%&3ݭW6t|y&^j. Bj!E<2t>Sb}w@~pT6~sffۤJI>UGB,G/W5a"N3ߺBaV]8334.(o:}t_Nrw^vMAl%GVEDuÔ	py?{VGkة?ئ=\H+[x~GOHvSm6H'6t ,u9	.mN&P$z""apC={;8HU>ZrUC{;EylI&&K_0G-aL\OPGD'4%S"1%"%K;Hd.X;F˟|!iUqʮ!?	P?<V;"K'ǣ1/5%]XTYİ>KݛI1= j.Y$+RvR1kô{va	Ò6d&}'ѱOY ]N,ǻGJ_sIQ,w	@E4&fsxn		KͻƏQaQ[I?@ ư@Uկ6n7<	ÅŹYEdg}lp(ÙEbr{A(L':9pԼu:{:αv.k6ni85Tok ku-W qD$uƗo%Wdub"'ZUD|n̴CU5,}Tݛ_Q<m@BiOeȳxy!W74"ͿÈ_XiOʸu<CvȬ%XLkv%QS԰MY| "rLϟqVnsA;1!ubF7б~~8=)o6G6u,`y:4ަ}aneɵe&Ȟ)i	;=76=.Ә{˹i{)a&ZBM<]Ce_0rޅ,5BHò]ޅ.ЮafEr͉Ǡy͗zwXHqu:Z~vpWӇ.LI8-K*:^'Mʈi5LC	t^wpBx;}gaU	̴t6L"]sQU6laۑ3	QQ>W=eeǝZmX;MIbK9ch.M*LXĠgO=MS߰S!|V]'j$ʣdqФДi_@ƧPFߔ~T<8E5.DFY323yR`rF{RXˎ.-^ha2SO&$),ݿN%b2}<3~?n1wO,+koIM/C[Fg3rلcFgN8.bi-	JvȚcr-)\-9zG|l.WÝX]|SUX0}[S[?f`-Vpp"^uҮƭNo bF;5P&˅J-JA=g];θ{h-Tw3a\=t?_l5g^jL_vt.ڇ(ʀ!]ͽ`sAŰ<x5?)׋h0d;O8J%JaaoE׎ncŭXHpLGGtEDi=F^/aiÆ@'9̃+S+%ѝ,tgϨTɠ@PZk{5Ah{tjk7ŲYG=5׺^XOJSEIƩg)=yuܲ"&,JRZ7oHccc%2y%mm/̜Q|x`[jΟ~Eq J6T$݅yd;FtaLpNZJޑ?ug:%8 ~]LdaaHr8LWPhG/(9(5Eۉ>gj9;aR|y׭?V8F;Sz3F0-r,sk]L̨5RU.~"w;I0ҎÑP9p(c߲4
ȞpXf9yPdtJ]PV>b|-\"P'<!C>lD޴ʐ<:Q2w79$OИ2zS$>&$]g;MLUۓ>~ϖNbzϭ|-2$;z}IrS%E30IL5>g`ĺMiSنTiƓqfT(TjVA\l!MݟRtQi˿"%CIAnFQ)pOWmðWH\?]zK)Cy9}s'Iʪn%vQ eV' U_	߱=>ˉȮD9qS$2IcSPoN<	jң3ɘ|Jp2sl Cũ<*e;K&!xZ֯d;!hcD-S+3ad >=2D[TzDXBXyʦ7"nMVz]9'OhWI6gpWw$kRpt8̅6!9q/_rZس^$/ 7C]OnSS^suPBRQm7DW;T˾HOxU$rx6\CB/֥rg)j̇_IG0H}x&tsNOܝ.ij&=׶>q!4d"*Ȅ_l,7&VɈj.=`Ⱦ1D(J^\?6--U˪9Ʒ^iL+tAhY(UfHBhHʕ!ΑN'QRȆƎ6KL:BDx9>.۳eDZfDZwҢP*b^MOdWU>j!AʹLA}XZ3poB&>y%>ΚVԟ[xNMP2,\POwNJ|.DP7tpƳ)<_+K>}f0r-0<9[LoMXjn7W, %Y5bљ;p;BdWh?}N_i1geĸrX~CɨΏ[[x\:g!f!%n*C՛/7ɗ;Z?j`E\$1iDKh<t3ue,-N*4N[/֧N%jN8/`.wxkAm5U&_"t.õ zɡѨ 0_o	:\Y:FDz3n]2"˟*i!U!4vrl@	7]wYh$QyMѾ_=2m9QLXȶTrbx9./?7rO<ܶEx%Qw]OKevmpPF!ݳ>w\tȨW<IIdQM.WZxb?/}ǡF8ɰZ9&7raP:{Ŏmj2օ	ٱ^]LrX8UHk!F:̤X1fMb3 ;x&K"R=S[%$o&	3ߕłUɷcֻy^Vx/fÿH۸s3tҧdO٥d/w[2ZpB.VId>EG>P6,/ qYÍ0*L7VzWMcߊ{i"oi+u`0ZI&OZs0sj\M8{ȔosӷrF)e=n:{<$w@6_m6?K%~Ku*tqF,LrjI4CYiZW%&B%oq?,|0PӔ!VRfZ,b7ċcS<)*2dW^fyk-7c,3ym5=a|UY{ӽ=bywڅЇ(-X:ܸ.2KڸgLg]KMWe:p.}=D]%<܎!G4tV+5`08f*ud*LUE_pզŮ*42`+ywwv2\:F]o;̃к_="bM:InfUa*+SP˷aVņ7VØ`ژu	`8J~au(P%V6߄r%3.ߑÇ:hG}:YeTˑ0,\Q54ypX%˾2̴(Ҭ,PwDY\g//)ã7H;L]s}3\0g$!fΩ[_b-o	OU_j{WBfgϾU|yKZ?Z;A5x7GhKƦKDȼEQ@500%jSԗBҟ%[a6eJ/Lgrd,ZwM>A%EviEBIJ1V'ptDm3,=f7nU@3`Mj6j&&s{,H)R4Ʊj|lKm5u}^OF):cPy_]žQzQt,ͯbc,A?:u~)ZN-TdSH;F,DuY;>pjPw̿"z31A"n@UİզC9˩$]ɱZ>gyr=Aʚ _y6g%{H[id[֚Ah{F=9.Q>e-h߲Yj>^øW}!ʡNxLaI+ۣ$gWRcF{ٽCJN.S1;`$Fo(Fަ0*C53o;*dG3:*{@1_b!2.T˻@fddȞl&5:~$`ȌvmFcAQQR?UQL6}lWId+a&c4F2֓\+"r}*+'JU73y83x|Ǚ;$W!,Gnd,sK6o6q<ʸy-bs2vŇ" F_x<(:e|~ ˌh6})?o~R?HƓva3<\kLqL|u9Hђ<06:kg<1/T_VH}[Um$UAÀkzG%ܡfA×(qӺ}47 1dUK)iHrd7aتflliY4_'$ErGߙ6 5kb_*|h]pI"]HP^mHpaKc-Ao0{u߈<(n,CP@(?6a]R2	T2VTxW}ueqxy%d	[kPͦyfI3+yX(ѽ><~Q'%h+xΨ"P9ևyYZL\\$brKt%@dBRoɖ"ë5EԚח&(dm uqE6O]W+!=?+dνAi<lyč(t}OV8B6̣
Zˇάڈ\l~"C);P,Kvs2[Z<ݶm^ͨ'$	2!}.H:q}(cY^JSǌA~x@y$%$Hm3a?:Ԑ"0͙IK-]O/:gUlgՋq[)>j3i7%˅kQӛݧs	qo/.`	(rYB{iH6nO*I)qpKA$.ڋ%|ȨwUoիkf0?ȴ˻Ɣư9ˏ`J05ĖgTwķm{4b$G.͒d&X}6xx\ց<nW|}M}H11oz?6<9[9&'/umI ~2tJ՝CU&ĬOʼ`fΐa|y 5)^W&rӎv,Dg\jV2c^!B(ҟ}s[QpvE΂c!OYLL9ǂ"`iMzi+40Zd3O"9Ni65,VX|'A?\VއrPo5UZ-mBlR6;θq0UT>&)4CmBt9j/UE5ukMøSkn7X3h	XYd$Wȶu$.eD1wAރmPz]_A׫*~ӽQqEeB~϶tphÑ;nXcY6	q1<69A,1$-HާĐ"]rCӬƧtX"ʁ͍;(b;=	ôix_ƍZPy&i]ubƆ߇;qɉGJR{-'rq`uĥP'+BVz+b!["t>kU/6Ζf0ͭw.{b`UgҮcv>3.Ŏl\VdvؔFZX\Gken_lظj-QxE:G}̽ʽr\[%yqhIҢ1[̳S6+DiΤ&^]uWҜZ5<G],Ko_>$VdXu!lgeiV,l;Hb[Xf?$t	IQ9+tV7>+=+Dl>342ёF{-[KuŬvYUڌDSyX<%D1̜$fg˝ep=hJ4!g"	sfZtmmAn7!ecyķbzQ	|CĖLRЋuѶbő,B=pR+MxT)uf*ܵMEZw<NۈKZ~`eM@Gnن7fz[` e&Dzgh@{z!}BZ.zffm'eVK7	ZKdZٗs4WUi @o8!<romt"m>&=-n_ V<<%w>dBw&Ѯ%9o'Lq3W3иMdNFX<˱żm'OcڝGn̐ev<[{R*Q?pp8q	Owb|Lν WpnsHZ?<k܉k$Y_^ԃgvs!a>n.HeCƉsW:&D}:x$c^ F֭0{4?wYF^?)? [σx*UeW=RN,ˮT`ň+Ķ2CeG8@ѯW}dOpL<.( &vOxYXne[Xpʠe^Xk!Ei{-)6*mi8{z_>G$3Ƶ!7^7)gM4~x!>xnN[>Wݽbm]x?Z? ʡ>9z3O[;êcn2!12[L6L+M,ǝʉKfi^x\U8la(@YLBɣSSn2G%'yC	}KzMǿOR=Es%eM-@ŭ?	NԷz6p%XawGzeחuoe.`<d>F7Z+X(hhDWVČpпns}ݣęQk}Q/5{C^n'4u"A.O2Pwˎ3FѽͷO(o֋XtۙMGv1hХkϥE-PQɟEGgiL]_MOVɓWLt~9NMMYHllKkQ!5f&SB'V:ETA\:n@3ncDׂ͡l1k/TB'CFCcA&L\JbHWAȌJ0r@Hi6*hG[-)̚=M=r)y@\7sK/::źMS'[w}4{<rՌCGFva:S4:BFMeW!&1B;sTL)hT&0c0T~Iuj5U"^Rڻ+͉Zä%;vjnb>cziKӖV>g1v}&˧MVRbDsrA5Vfv4ɸ7fS9tq$eTpkITNI)VUF`UgwePi"<}"^rxLH%ON{vI0ڥI'۳G6`F2=NW]v[,$~_Uy":hhû P_m%Y2 U~xƐlʇAoTK`wjfViU3uOMԡKփgdjL7Fͻ7(11>HģZvX;j(=qn&ly@NU."Fmj|~|ً}-MNLc70\Hzf 'p~r$çkMƎKhVd@=5"Hrє{3є;Pt3lSxĵ4vHyzle&eI*Gw|@YK"w\w47/P\@>PH"Y	:^,,5l%lǪn4dipHaǸ=0\67GȃY	aWg,ЩՆ (	 ZTwYt{FL!\nn<<-N_͠	ĀKˀ)l{zt9T9æ(Z1sgVexbBi&N9z`64~4Οz)(Z's5`=1DЈ͒~p=Yʜch]-~Dʬ0w$Ԍ55J|~\O4f.s3Sk6]̖7҈*xhyZnD1hh5Оk/oƢNQ8y; ۱Ye$-8pB
<]˳|}Wl0PpWȻD.f-ߨK7Ȗ'X}t0zRQsT|tNbuK-B"y|.kɜý?V:.qnf?>^?lͷλ	޽2U8ҩ}`:;" 5wCFnms^˦Dř%U*RRLu9*qLQN~~Bžb1W0x'CNmއ1`9Pҩ?W;ozl6}<C[>u~5iEGpE@<l9W}{q˖8h/B`ll٤&Z{}*	f~Aң]~^x}yӠNoR12cVAlh/O8]XXD0Ƈio~=˅=śvC 3b{/~1~m7F˴<*X$r4>n\̌hmwJw%<}'ǟ|""jm+}~AD;AĽzڗ^l<~4H9c{vO*=Oc5<eW],XjyhF8Sjh0߹}ƿVPbQƔrpc'Pjnš׬X|h&Vɿ%gt5i[%&aEc(-g!L3+joi|z̥jtB<Tvgv_@hJ[S|E/+'en0y^OA?.g}S͚;P-ԴKz\c4"f>r>aΤi't,ȏwv*kU)H]n	d]z~۹.u_]hߣ;T*	O)OW2E!5Ѝ'mBTbMIXשhJhHx%ShBu͔m>ȹK$E_$'povLd.IXk A;*U*dt@d/*Q3|j--XOl*|{>Y*ƫe	fi?j5b/M?̜YtFf3a|;:~Z[QAk=ƫ-M"NX>^\:mwCJҽ g_J5YS.=sFX"Larat	MsIۼʰ߆q{K@Eʂ5@3Q"yvU'Ӏ>n/3d]*=4K\[Qj9JY@nDEʋ42s.BgD)5VX 0 LAwɧo=wB?ΞAɞ:GMb6c.C{ۊA	,sS!3{uAƋ1VkTc~eH|P\	_ؚ;UuUr-&G]Ao>%lv\4Uk]EkJǞLn,yF^`ŀ!~-;kyR[IPm[kPiBPkJE9JݝTvq[Mܥ9ҋ{r4݊E-"Z~_v`R`G?]̢Gsi۬D[c!}̡+NW*N*"?T:S)wƟGYL;jsͻY{&U,oMZVf>ohf{gfI(if6vYg-5BEJ|ُ35r˱8aQ|8!E&m_ë-?7zzbuJ iH˶WΎ}RlŵdS-ZC9p/H/5ì7g@uv!-p~-F*+ͭwO|;yun|n,_R .P")hd}S	c5) vєt(`Ɣ|Ł۔8}Mtx%$5ԖJI-\/6<_B$.P$`B!Tt<k	QY}SNEdt-F7Rz	2@'qE/V}<0"o*A2/*;lRcYp7-r44QƵy6P?hO	XWMYO^yjVI\z?=)BLI<XÙZ_Nn:ɣ`mYCVx(USkP0"m\NEgh8~,Q8^(oVל+ț*}nO*S20^M/QIۑ[ڎe-OۍZ'+ׁK<XԈ(Hb ΚuQx-C4,L0R"Kܪ1iǶzU~w\EtrG(uE}JQ+&;&-7FBGI-ޫ)waڨ6}RVó̞7۸i@b;Y[X(0C	GЫI([,*='ȴ%<ePeE^{@cG_œ9JT?эcҿL&(J0ßƸW\+UqER)UZ|mr۱e`uH̄)ʮa11`0rO1okǑ9:9ХtǠDRp~rk(w?/=j[SA+")k`o|$R>-iʳJ1WNOa73&?C%\i%D+B̆*I*udvWuȰ9EzlNzL6]r)ĉ7c}Kt`"]N(xީ]/iSk%Xȕ9F["Qp6NY5_ʕYkMĥƜBki:^A_uRIz/dSVOOòH,|`Cq&k,KGHhwJŵ2i7ZVog;]8a+pf@}ϺJ[~(5Jt>:8%ڹi]-0%+.(çUd|'ʴwa5@U!B4!ø"uƣ_Ʃm2'w'"yVA <S0V?;.a]J֥Z}OCoyw5"TlWa͜ɸlDő!	'2^/(?rcHqmd|CX-V,ȓyC$8	cem	|d4ȆS%F />ywTMPIp%{K+RFtۺsKYD/YLpM!'E9Y	{qT:g2Wl$ǳ4idFYQ:</ŤD s|B׌;WV^$4B=~V$z0=Їgw`<@4j$"IzveVy^6bI!6VXSr٢6[E%qDVepmj0YKwLc"-I҄KlP2рYΪGʵ}X^;%@y<JXԳl%\YUqێB!P^`׵jɆty]m[fkû sMvI0YJ>M9
ynu)7~}4Gsփ8:`H^TY@%̌VyblY.U-MI%<VkōiDƐ͂.wӁ<<\zOk\^Me623DJ6אȄKUoJ"xOȉX{>{UL],0>мo\3jupUeN.8w}x,$^]=MR(4jP	][71=PvڅҘ3۔CyT^*qqڹlC6ދZʮؚH!MQeb"_WjGF%mftڠq]i+d'Q{kxsQ2Ĩ>-(:!Ƕ_Vġ4<e,˻nнZĸMm٩)w$$b]L<QߟgXLҍS_ѠzPktjj&gqpǲY])Ÿo(btt.;buyonw;&38umdZzE]5ypqdM,aF'begGK_׀DI[X(׊{h:2DpS*8D93Y@P3%۴ÚSZmǕSxTa!ݦS]w̵	~_)qp_L-7	6DdHm9RS*6@ۍi]{0q!qNfwmjxY8/=xE$|ƈO]uIʑ,+y3&MB,iM>޲ssT_N6I&fn[x=͎IIw^k}; ɞ{G2]=1)-z$G%L._3Ýk<oV|)SS+oYTul'2OPBEU6H=.<ae`[Ac;p74,ŞYTZ-R;`~ͽ*[>sȆtn>KS/+$̎^Z@`tˤ}ԡ|Δ3K::^~soE7r[r%w1kȲJLzM5ӘءxpjxދT&k4TWP2q;ȖKXh4)$PP*}2}y`&ճ&H4Ѭc3 [q!3TT5(f{l"ȟ\GY H۬yt}νƏf8>"0A{oH=FVS8	Zf>R׸bU8Tl6N3,cHute=t5,ߡ+a6^cYhQһ|4fDY9Rv4|m -o:ȓo3Z<0/<`yY%sThB[8L҈6@՘u9KZΈ?:8zS)/Icg{XYzR9{cbϯLnsqBe%L֓Q:\eDb6FY95tWS"8(JBG.(̢d,_|2i*t3IXNֽI{fqP/mkI*A6}zʻ'krp>ڻ[C*Uݝʆ@epn8:1|'2@DOYcƼbL%[D`o%h8zuB7L6B),D{:۵ZMPw5Զ}bT=q*W>bL-dO)6",^_Gy,$c$S&ՓshLr>҄NQT%[w.!NK|v-7[,ӄ4F	zcLW:KWz͏T؝<`)O>%H	".x+O3w	݆ct^[ɐLAv͍tLp!E(<i{mŗO&,\"tkɴUlJ$._)Ȅbl.^N.KJF1Pcji}I-%tSYVƼq)>q7z*X1wpo}ߏq:N]8?4=	5eM]mdyԺD,?.zM'nG0^C5&myjR^fRz&Dvn`zc}DIZa5TLmoUB>D.p-/{x,O!.5fEsF9{P9*>75mu{)A@{͐ZaWL&Ԫٯ[̕S:h(M$W&,E$^~+sAC<+0ghg[uG	O͜3whܠ,rDFDR͞9K(RRU6:u*t9BtWgPC?ʣ̤â̫ñg8\``3f\:GIw̱B2$*D]r9A*{n	`+(<ӰP-{pӢYзtbŹI=.{98{A^r(4L:XODLB [x.{DU<pXqhI~SSخXOXK7z̶p3_j؋~MêH4")? %[XNI*Ş9ǒA='O*K-/}̊_?n)8	A۞TQd=$}7n\uS"I06nDCq"ƍřkQ`γƤ60|<zI	ޟz- (&5Y[/З(%R_Ǯٌ*JDG)vy0?DcvV@86W}L?_4JƃϖL&j|>0@1N+c:UxFW:˪mDeZAU?Z"&d=1uF@rZ1ɫEUT_aS'sN٣.UK۔h$f;70^[pܻ|H%$n-sзeskP؏ܷ?r5R{[_=^:m^{,'bjGDD)w1TUƢ:{OۄL݀AOLŁJM܃]Ps0/-n]!kb'{}RK['K>E1ɵ؏wx˥lXl)'r )BvJDVD(Ojz]r;D	"txiYiD\'<rc0-_/g=(8o,/_H,.41Ɗ'˃9"_L*rv.cAK:vtBd~85\/a"LũKsBk"p0QZE>/ıoosƑ0LDu߰HFpoZڌ0S8xUE"!^eol-ɂX{h>q?tlGz\3Q`	2)tnb j]s*ҝ-@ȩ3,p}1M;r^Xr,Bd\8?ގ՘{mfokxOQ{Dyq@B}]Dя/-QAk>^whψ$k[
55+3xM2ްc>еHsX[_V݌;xd-CnfH~bL=C]9~)X7'mzf83F^UD!:P5ɢnú9JńLgɤ,	VY3O8d1ѝ<zpԳ]c 43_SiFmVkvxmÈaޗ%'Qs!,QֵE<.q7f._rw&~ЅKRڙ;?Ȣ5Aόڮ̭NFƜ-- V;czyKÜIP/v?$&,F&E"Et\>8ʒH)-0?VtrGdJQp2%_z>bɥǫO{/E7Z@4w`ݘ^X~x(tD,TiTϰ	vt$y6/pߞ	nCUv^gN140l*1f\)6n5çR͐K@1@czQm8a2+)_?Ql֫67I>_QUPYx	o^~kEb?Ɛ"0ls+\<n_S1d~_/]8'*M.)[bՃfNl%ܥ>Md/hu.e_̓lC8CrJQE\a{L;KͽJBqNB/W,sLN,YM!Cф94y\ˊeB03LXIƚrv+mu˹GFxl?UFo&qE`{˛L&_?չA[\V6(vZ3BYY!kzky&{4@lIk/6ULtaCTLa4.UU<y{?G8d&W~!ѵ(EhWgˌҦ{R]gH[xBG/)T(gFʇyZ9;/XSR4ie+ZfTˋ1"</ y?wjn	:BDV6=n!r 2{,˼Nc)~Mf*{Jʊ{ʩɺ@RM?."lv|Bw+PgŞCDpñ[pqݯgIJ30;<5Zʖƴ0M_"YYA\נ	ܻ.)Fȟs e(*Q`m9+1qPlN>ƃe Љ1'43vP8_iDKHi%t̸bfxhuqNx8,{ϗbȳ!)BxP>$>Xv_TFb:[k̔vL	Y2}+x.<]0$~$Tmʆ'PG1	b=<9Ú$F|;2@aՇg_0$hӽ<ϺX(&rK/2i	j:!I"7(_KMs/HʁH*"Q~X2KM ƁYaHL_':]iּXS_1KOLP`d{ZCf3e,AM5j|1׬~k	Ua&'kZ]IcCm̈qY L8Bxi}[q|۳ï)Gy$sq-Wwm;k6: McPT`rHfAgr]jlweRE`8%<$n% 4vD'sPw&(Lҽ!!ڝ?v;:o??Jɯɐ>ux/,qG[uU"ÿ`cbS\1N}JyS/HS:FC%sEs^u4(/:[+>5)i._lZoԈ79R"ɬ4.BY.WK3ؒbm`~(+"&|œ'6ON/bE];k8|NexmTu$FQԟ]"m|4֦'k̦z>{x10a2p@Ӽm*N[}4.XW;~Ϝ!X1WÖ/iN?WQO=Eܓ|B,"c.hg1>TKm4~%̶WY|k{\@vp3FVڹmUh?3krIȑu~Wjl(ѝ'9bMWTٌ4+qDk||^a="T`&n[w?m\[ś~lC`R̆˙DyAWdZ058YfU5{| +w%(j0Nuû.f}͍j$\Y+")ā_WXJbm!sL7XK\;bBtj%yM@hah^;~B?!lŪFCV6QHwDÇ.i~bjo{R"~!<7+rK"hΐĥ^c2ddYkfh)jOv8İ+Ϩܠ+ϿD}Î1k{EFfFD!ĞA/UG~s1fk`"WAvKzLҋ%LrpMVz^ɷ>~Gt:bZ8/_wn@r]b-4Sx'Z&;ڐRQՍkSǕw;HyǜCVCɻ'wQ|+,ëTr8<v̮X7Da+<.^JXQ8	:H%-vj^0uHtM=^hGhOOHC[?zA@-ttuQ͐O\}a8łEb^SYqe֮2N=;@6,̽U֖{T|˻ß,dS>ŤpX,Jbk9ɲ"W3V-İ|"/e6̚Å	mǾ)6צܨ 6RVz!^ֿP6ng)ȐD/Aƹufsk>SZ!}4!6?bAGXjʙ1Ř^MaNps:jX)0tFO 1۳~ί`h˺u4m1dM FJ2KիYs.WMե@Ɨ҉eJoQHCLͯḨP;ɞ9ؔ~R\6OLACc?U34r"X>&3>@h	{]- *P{by"tؒ}z7Xa%!L~ȥ>8IҚWĒy@6A,_E,6ٸs.wi*ȑg8djwCo'RmmXuhZ!"ؙA/u4k](U~ͱDWWhڬU?9^Y7V,$oԠ{~pTmIhxϞ^ 8cWfUQ5q,jdydh},w0ZgJʀ/aI@tnDY44V}[l8ԅE&;	A[N]>j7u`cG~߂>-*~!̗A&b_"ϫ	VL.y4ʮ?> *wBɘVN]<
`l~]@dtvĳ(6";h5C[]-`uO~גJ'\5RkA4f.JέK ƿ+b߃ZϏ&OZQ48.E)Ewwr~XDXyqdSEXp:W<rc}85>ej7kUW9&(5"%&ܨy@tbA8vHxϴ?)s6AGK?Ha>|bG.Ihyldgm0W.!imSxV(V|ĕ25^L\`˞WmRp2k.`e`F(&zI޼ƯL&{Qn~ /ԡ {˅rcIi߁*G~}tu+$ϗv%,M9t\VjAsY?÷x(@+R.xnqs}	(N7: ƑvXݵ$t]]gI}X`/lYЖH%2H/ȲQ|hލWO̅Y6ہ<\6fe41[a`{_m@3Pv&<Рgl;dd4nor!X[Q8\t@P.@2ٟ~<Wu*jP1>keXKf*z`oHa%+W-@<7FɹvV&+,C^6HU7^vvUR^Q3A,6ÂJPa^̅BE7)ɵȹo'>*&+Ibi^7:uIݍo>u˦u6lT3^I֏͌l^ĳ]$ŗ-FsGYDLa {{z:"t5Qj&dހkśbbF.btJzsHu5UA"|&hAJ<sqB.ߔx}^6@:|v8\,*h̠~*`EC^jM4&V3KG2L-n`:٧diĻdÜAr5͵6_ϛXz~ [w@:XA<^՛fwC/6eIFբ.l3k,f+no|EeXJsTأ-<&\-Frt6QEHhc<be\2M~]*rK('õ8̽W͆v)xy 4SΠΛ'"H͵;b4pc v-)-i~YqWAJW߷,o+ud4G^9:j}Q`09M|aךbt~EUYM)}643ysR'p+)UB{Yxkbg(Ƹ{<plac]l4&s^GYbC?2<OuIyv3^r6vAͰWez6̥JȸpkùP%]L8Fbx*Nڼ]Ȗ{}r]/рiv}uqUBW,*3&s}ƽp1Vsic;ŽEdŝG7([YUO<w.58kǚSKBڋ0q7Zǈl|DC@)s4ۙ&bO/rcq*XHn{J'>-fj/m;=˂jNyctUMbE@UǪvzy-TJKoDtD8`JCG <ABv7_ǎs*jĭ<%J,WGMGJY%xi՝~-n9Uiăl?.GzL}WB~XQ6tyf/gʀƤ2E(>j"G`R[X;f\t(v=Y__`i{*3DhT_,L%؆Jx.26v3%ɗAypƞwĒ};ӔIsi43U-ai?fe!Gi	|q22	=A&R9'y~ɋ>Nw{~tjX@7Vz1+gu:ȝ$29/ê4˭/&R= KƲK\:h`Lƍ.i=wǙ0(arAN\,k0%3eGd(}1(JB}\(|ʽmˈˊW `~S329cfW!Oāmv \MƭhY ^kn[m:>7fS7bar>6%p~sBZW~	!'FM+nʬ`ŪԄWb]9.QLwnk4S}H3;54· {&g~Z(zZDj|Z	5\޺CVRV2י]n&TځD̠r&Sư:8rTDXce(E,mEӥXBOб|@]fd8^_C1p0	\Jƅ1ζA̫:auF3XǘFPvͺ7/1Yxח83jǬDΜ)yvŻzO	v޹Jڮzh6m+1F}lȂgIV6CCi,_+-wd/4Y'Ϋr5qjh}VSh˽a+[pmp`NjPLE\0n-?Sh5uVR> ,;:2eB=K&'`ԤO4.}449~îD!zv{wQ[)ޟyugyY^kPo͎0һ֌NYiqCh?`v"IO^ƠR˃Zo^z$9[FL(wlō̱4_0r5,eOjdr$B	j-Gk2	QpMq.ԏ9KV2JڸǄ/utz3/5P`-pFHq<1c``a96ާF6|ܖ}i=[ޓ&0%u(nZJ'Eˇ\}W5Q3N-Aese VQOԒF;ýP)̺sdngByb*eH3ylǛ6KjE6LSI05(B"0ش7]3{ϞF ؔybbǫ<y,o2-t->ttO[5---Y]r6u&4t?i7`$,$B.Fv8}xʡ2Y>2^_STy L?Hak~p+'bǚrsɂkWNd׼ājn͌voҹ\y~-=~!y~$vYy=@͝27gǟhql~jaȚjm]Q7QF+lyk!	1	ɍp^/w:Ck`=jѭk=lM}IVs>>n?L>6\53)AR1Ň5WGL)FiY yǛ{
Ă_PVlUlhaA2H[PI1ObX*jhuήQ6e!,TiH,yYK|% ڪ\_Qp(50-30a*Y.y1i{o ('۽'MB(q=;GLoRSFo@kj6^we7NQP!DdMxI:SM:"f1OhPt}?Ēǈ&:q?vܺ^{]EX5eqzuѱ9R/L{2tyJK̀l,dCEt~mƆ`AH7J]rMDwYe>ҪfWNp i[۵8}&=}NE1C`mr]dhG5[>F	*z.^El$\@O	>,fL_ίރ7u`Mzlr/Jg>l;dhT+5sFUY8iَyB<y^~NCڜlnAڋ6{a&z'=G^{KZY{H.r[˃.UpOVI75isg5Y`=̠`w~|".mII09j|vzzEW30ϙH[bY4%,a2x"4}x$]gWMeL֫PH-s%FJĘp!=sv+gf[-9CDQnb{"Edb+nֻbm_aۡNZkȦk2PքL*:LX^6D˴3bg7n-am-ƳvQxXLV˨(/g$-=D@	wM2OȰVvM7Dǔ'sM>ί'ݢkp6`!_b<PW3V1C;v0	Eniq7OŠIz75OʓSzɲy<ܴ<)U[kɩOUY%`ʵs2AMT"\LS˛Rb5ck)Z:"<Ϳ44DvF[me1Ѻ,C\gqfhó4LN"_Yen}oӶ\8'XyV|\=HEZ;dOJhPӷ/EuUeG!!YR;~9zݫ{ys8g0"Hvbۺ I7u `4./@/"DKm[."@{^6z }΀p{lf^l$O4nΠQu0Kiػ.lGS;JƗ~L{h5(9TI'aMtR4?7Qw@znñw}{:{'íL-x<FNjtB6cbSse1&}ɪY]'ĲgֻLؽ;z [QWJhg;)^:X6H~'F]" 9,'RY8Hd?y8nHȷ89vdBo+XSHSI[{2RfI{O`(h3PxKHp-*_GƐB̓XĻi_+WfrO"%5]1vèè c|6SP8)7Zoi̩n.ĝ{ـ3Pߔ[<^W'(HI"Dyr*=W͜c@ʟ'$^sL҉ܰ![lܼ|,34|>OB1Ѽe%cfK՟Liʚ/sZJԽsT$ټ)6_[4oz0d-ylYTW`j01wk23S0r|Su4X+:Ċ=?}g)vUˠ6SQxfuQH~Β־HN:4]8ڽH13yH[olRЍLF8Rwp0f,ȏ:TA|%o$7y-J=s4iuhþ ["G!`o471|2Bw?ʮ4I'qBX{PQyR..GJ:g|/AĄ;d|]GB"6˕FhSMd֒s;iC`gJ%IlHgu.Wu?c:/V^Xך2x0v~uT8zkpSp' 2>C/dQii.pɣ߉9:3T^ ěk:PwAʒE7eue}D-6(˗Mz_	tpJJ+zY~n͕"uD{B0W-I|s9)3g\a{4ʔP@-_bӧSyB'9qu2CP,2qXIrk}Gw:3%-o[7zw`1<ioIAvS_L:6!`t/wJ@5qƸ<8؝g@),/n8$M`6^u8[{?@Uٿ7̠ ިs_E|Le>sH4y-tjxS	|Av}|8z3|YY/$@k12hFC<7"(ǂG,R3hJg̤Vlif\Xl ނXߖ3xd?dxYIk]H@H`0B7Tżʗ&9.@p	*}ʤ2en2`Cp.bbJ:px O5t.z9x^TjMX<`M.:ɇ5nu*ICNF1[J>CeIi2'@ջlTU/G+*)Fo>WAʫR5U@f\mN;9LfF}EIN8B b'<\T(1OlZJ]87ǜ4Лl^U`8HFeY	wN1!b5΅vAf>B=!/%Ʒ Zش1N,Q7>GC~-7<Cy{Lo=B:*q=w:SZ7Silou-[d8ִ8ɢ5ٝCp2K[֌Xgբ:~!q^~L`=G]ć<SJ-ɲ21l`X>RyٽI/)Fʒ3)(~f9heXxod&'ADZ!ߐ[,suMSߢ9,766Yp98ZR} vnvc)ӳ9ܧ&JiVئ=XBl<	JR+A5hs8Jl	wwøA+c7p9*g!^r{ `-("sYaMfɤ~j->5&ؔ4-5$V޷`'ɦ!*yv+|Y`A>>/ UW1ycOf>JUFjǕ1cgү;yAdB:l3=?Xp'cZ"y-x
SIg A(eB'84y<`{ib+a.`h7w5NLvabE'Wja7}U8]M6x| 5_pFӵD5R6Yķڼ`{̍Dh2ӆQv(ůj8˔x(9/|ٌB|Q6R4QC)_4?^e>֕ݽ>{<3=̼Ӡ2U;JzetK]Xz,P!Mqd\O!rï_1Z!qbxS,=˜9Z˙)*:4Ƭl8?:{-GG0Ko:gEz	ߟn*ׇmͲ2z~sN wBitoJӅb޾I\!˽R42u$019+ċԫvOPV5}d-i9{qF!u.QlPL0.3\y=8^LZBPz=ǿ7].!9|5Ĺ]4^Eؘv֔8{>9;)0enqZU%NfWj7ۿ	BVPˤ62lKD>~zXߥhgi	~.hziY~̘*8Ec@	oWJV+{!7ِ?aDd_˄Py|j'~Q_y4K\f5ZaEivu?gHW==XUm20$R0ݣZyzʞK*6Q}ܘ8XTZ6vR;<]a~vR&3hI2ϰz &Ni1|ܶl_6=	~	<thgEKY$6FlA15J+H1/8/SoUu	ѤfA!U%0W9Uxhzdv-.D-)L6 ەWۮ=3":,zeK-_H/K]~	lPvCwʋhr@oXȝ%RjE(I]g7CH\o̯{Oʏ+w2cb5DVy!wA69֜kE{|7یLBqYmҖř6&Fħ	arM*TjHp1?h>F1-JHZ.xWV}71~bZh̛J<ۯ΀bs3 )qnǓ&Z(LTqWVK'u|T'h)E"76?W{KH!`mY}84o-`}?ޏEݳfy!JY{4PgXTwxVbݔKpmwNƱ'0SS[<K޺5UGrMN3EUCyz<Wm^lm5ڬז(=XݭczBY`.9\i a2$.C+6z79A/>3C3ܯ:/9w.WwiՂ΂)1(Op??3KNתIO7p+ۓ\Rcr`32z]kR>-9EiJk"Gek??qYǇ%%$Umǎ1`%ƚwlT@.z̉E>J_=g.A'b9_~ O^}ea"Cv"8:3Outƍ3cio N:JH&"Ž2V%Nq CňAJ	6}}oK'V,{v	;2H,xA3T'XwkKP]?ˤgpLTY7P%hS*/VռL*c[ޢbt~g=lfn:f	mĩey!l=1bw7lYs5J)ǞcG,I+3<>IQtuU~bgzJU[.&uo[ñHf(F>28$_TbzO|}"I3΂%utF^$xP;^4·lHxF $M4fnus)NK0u"u,%3Ԗ`K	_ N%hN7HR8)a_!&uۨVH^S0GoDcϖUn.awTY_+$q`,LNؘu;p[z~bSvL^IψZA^e~8;VS i^CW\E@`Pĺk_Qo2Ks]"S7)=n$93Nw|Ӏʪ?՜ϧǙŉU(be2B7]&6eNNW}٥t)kbĩO_tȿ=(?&Ē7f^\K;Dgܖڰf,لW;ƻL@P{}:fBںc͜Ul0KwFpŀ˝F-Z}=bٮ|@KOV8ǜ@g9kt|lK0Cݐ51c1IڦGSj;7\"y>K6ݑy{os8uuT$ ʭT}I(Xwl)il3߷D2^MpLoP7,X۸M,/{A̸IH*;,UЇDN}jYqIVڮ {AM4:ȏUH5nL͑7h\A/k\i϶{A&B-$)5ȭgКRˉW6iv<+`wqajiEY;g}'"GCAML&.)~}Ƙ:Kc\(qLT	Ϊԇbkf{2ZKVM4ugi͖hr\2s?H|*wЙC<8)wql9ʑPf`OFJ)Qn?\YI	aWX/^?HhݻxycCΫJ=e9ɝ 6\G-Z7R-t;	͌3gNB[Ț4RhxF1@VXUaj"ţTCOJbjJ3	9JJpr+'*fX0Y)nWgSu:W\4^ lj,:yc4E/7	̨%ȤapOȧ{ߚ%!	כ;q߳eoqC|)o_Ê>Or ߏ̈́@sR_>?/&af!:taD+-cĸET`EìpXOFgɆ5cDr4ӯ+DMgb^;ރn<yg{a|çDKxi80JnMvߍ$	ǟ*cioޭy	R4VGl[\ځyP˘lTԭm\'_t|%+,=Ƿ!>ӂGg&<!`}0Hk.DӀiIhZF2/9ruL/U3]ޠ'ܱ`SU_ZksLwF^J}>*~i07]˿͋I`q(ws-t;ŃnmlUU˴p*`
/]\V"a]_;DkNBcEu4&֚9t+rO~+`p}}oXU(JjO1'Q4$	*]7@tGX1g\Sc:ǫLqVU_N5 \ <x;Fhdhf,_}-M3)>EӀSI^'ƶ_{XaxXjdK}8^iʼ}OOBfkH)q6';Ù@Ns$Z%R:lڳ5΄uP/Uv́ŵp0khc.6*eңڵP,)(YľZ@[pQ+tCKe Ӹf496V42EGA]̻[Z[_ϐK5/;no'|4l)@-j{0^ gؿ.	,OHËvVb,{NV`>czW_mY"M,%f?Zuyt[_@p?*_ɐAIK	Q]Hz4@c!S$ҍyx!ԘȶT?9Ko-9~"6>GlzM/Nu/Rcj<}>˃΀7/Yrzm&Iֿ:zf.ýzpZ+|R7ڝMɎ8+ozV`	ҋ(T"zKapPkG |bmgÖQ!Ǳ_ngouќTgcuYƁ8bEMyo`x4Ϥ~VBoITa>C:';Iŧ@nrڄa5vjt*oA,;,ވkE~?*C_ϰv,8+L@gDQhF&,ƪZsf<Þu*|pd>$	жb/)D:جJ4&ڨڗ=&NH˰Uti3]%TK=dP!-ىul@I!NC_W=-0Q]9"=@Yb'va)%k%h"aa;_!ĩ W-gvDk̳;)׌1[w;!Jgpk~C.B8Wq{4PzUi;ٗEV]msa3DɠS@3KunN fgU|pJY\E!cпdk",{?:<0^Ú&&{5Jݙ58:̿ҙzxUzYvmkGP*e)vEL.N9WFC53=%aBȃ)b0t}5n?Z?ƼX6`RJ*&{&,bLC50sC	y	j>txs*4ֈiQ&NfsQʗ$miR-BӰ_1֑ܒb ʷȤ^Gyaú]==;i:r~drb۰U3\"[`V;.XHWsQD\<tHP7g@ĆPCo7ɘ}ja|wTSQV ;;]LaȚ~ޏ-DdJ"Obּ!"Z\~"Octخ,td~ŏ_=;e_.(Cɂ(7F*|DJ`_B+V)d?Y`JZv;ќɲqoR(u5^ñRƜs8\N4	U:]ʮONs1	u~IKJ;=!&P>{+S,pڊ]C|m&`Lw+)ҨeX}|Dbu*b^2]>ͶK}(݆Dt߾y6!*d\fNf~[Lі```xO͐jZuJܐ.ɰH\Z,K0WO] mwcKsPW>UGQmmc=VJRte~QrKj˛|uÆ@4hV6@6Ō`<IZYͻzS>7Nֈt"S>YV++%5@AͬS?Ś*13nmg/liӪcx+qDK(qCwzS_a!MpϐAڽD(Z*}2H\82}̾8<\uQ7Vur"ZDeۢ$Na)hP%%ɪݰUQKB;=Rtbm:}&c2+[>q:0:;.71"s͡WB+|ПIjt>Ik4̝Rx̬PSΊ\jSx|2'p"8`f_"]Ea`qS%pU,4<Y<\Kf9lyD/v4)|7&S8B4x&Tf?UŶ. 6ISHh;'9>fܥfZڒ́]	"[/JXe}Yfjܒ])YC0^=^=kQԚ9hcƵ%ݬ1*22}{Mk2e75UE{xmtͪ	ɾOav)ڃlt1̼bd[oٲ]	bg)G>=ƴ\ "}v׿Mk3ƅ͍SQts=Y+Cd	-y!m	I"ŃȈJ0mL4ȕaYDGx:y~4a&k.;Cw{=f4+Bn/z6˄]1*:IW?@Je10g;H~"1?ūFxxya(&>-yfft}@۩rsŤvz";ѵ<̐LvKN&r_3DxcI|Pn3:Pv\S/Ra2'JQN5ٔ]vAŚˉ{s&"8yõ0HÄťKΓx{%j|<\c(?5zj290Dĉ=ȹٱSI9nܣf@3P_w9yl~tn[^& /w.l7ūc[{!sH4&cUbϖ[fTi}rp6:9z^ gn0]k90lďb3\wM>=іTˤ"'57~_i)ڰ,(3kn6u-:͝$-W.ƒY`p˴F.$aW@ax`^ʑn]Oc5-Z:6j&`b.6I;JY-bGUzsMAI )9ΆsSvWO)T?,`t{xV/)dɍtKeMOvy,cĆe|NHKADŹ|ArWy>JW{hY2χ;Pz};ɢ:1x9V	kT+7d09xZGwmeH(=(-[H(
v5su[OǋrE$2Ke{Ŀ`'46qa6!]zaṯ	TLɐukkN	i**  ZT4Gڕ4ETnlgO1 9k*GMʈMO͔dԕGs7jR*,zC˺3ڲFPB߱6%*W5ΕTJ_L{ǜׄip=+ŧ[6rQ`0X6QčK[rūs401ȯRoCB}͌G/ϴFѬBB!5u&Rf}u/1]]y+9ou\`Ǥ-ˊ9><ۤ%	ƒAruG|'Ȍv@Kێ̻:pʴSʣw~"yZXnף~;Re90F9ͲG,<@2D9EBIs,1SR+iCּ+IO xpq<wCðsW^i^]I;$K~-jMx]jh?gpˡ>_'/bɸɊ8KIͤN[BXLg=\hugD.ŹEK1J0]_EP:)?Y	sXJL4~y?,~l-ɆdRw;@6OʋI9H8n;\3NkIQaTǹ@Ua*0FX@FUYfJzcD%K{Ui_ag[xQI{r~<C2]oFZ]zb8cY$I|IݵU/Ƃ-5KN%OVa҂,mvx?K^?q[>	NA1=xڧB[`.$J,ŨD<IƑ_m1Ƽm.q>(ƧogN ^O՚ d)6GuCȍHxԉh6< ʪ+l,Dʦ339Y=9M<ENRNó\`^jچſ̼&27zEV߼M1jdſ&տiE!k\PO@N	 VDbpS$Q;\ǝMM)9<ʝ"M<EPA_lCm۲A9@Iȷ.].gRtXJho[Z63F\t<A$̃Yqg7_40dkGTxy}TXK}YWN"r˹ߴ$OȖRZ߱O(%q&C9{3jȵ1OPmF"L'L̖aA_-˥mClKGP\NǊMUzݬ~~y!`(Sb7D\b\j$bMs`Met>&kAM`;x[sƸ!QqdmT~0gU*ɞgtWR_lII"]899ZbR&6qv.._V4QWÕw}>@d"	jup-t	\7t;=T=oO-aҬZ(H\rkGb/l\ҟZˊԧ!>PYT['awxW"ppmͤ%\åeߦQd)P!X:'8=Ҹ4Ot˗&$ȴ89kUս/tPNX:/É-vkMd&[B_q:{VcW`jN{A^R׶M~[mjʹyɣ4&Dq߽'{rITAI.Za?JvD53w4Zh6&]mJJ Ԏ-|~Af2F7{˽yJkd{i[Y:&Gʠy،XǢ6%+%jGq$Mn5@Ӄ@C09Vmt7|V~EBO_$E{wZ7>ȣJ8(Erm3^J|&%݊]LZ/7\NbX!c[^KZݚ!uNpƎlTNn?5ÛY _ڏX:s}řWW4ǌxY471y0z`oh*d=2~cyKU	X]@ǘ˝g2B8g6.i('̫y>Z5x/10WgQ)z3F6i=4~5,`1ƺ^b(by	˺2=Z'0{( *tcJ,nZWHc,;U-AZSY>2eO9æޞ[Z0̧[ԋĩ5xaW4Ӷ&=Pm<^BP(O>vL&\ȸϭ0ofn$/-C%BS'|I+9zӯ)u~ *@nԗpIq$Q-[apĹj)HжTA;[n[zXQM;:~x>B-DggDym;ʦSO%;c<~tGai}yoC0,St+.eX+p^C}%X?q<!g0f*g'Dp^J8X ɖ"ZR!,kBE	?;vWÞprOľn)jOKzԪ6tQ;fak\PoXR6|ЯX܄&_d*^{Ca|?;SW`O<}7.kḣ%ī9?MUahF<."d2xު)T}C4d1Bi>5lpoSU$b"6rG?I`;|~k`N7F(]ȑŲCZvg~Ufro|my5%&151,A0"R{cγkx,s\CC':yj@ټ-QwEO;֎vJ)rT'3ZeLPNFƘnʩԭ_kTQ-qhT"U<z'%ërX r UwD%M.Q-w0Bk9zcKq2O{<cD},P\t2a+U'G>%O<9Ņ|!7\Qt	tĻa\bi|Kg>hxo}72bi,\*a͹fgWj4T[Zu}0^z!DB˞ȶLg1Hw&O>U`vPf+VX:ߒWQ^ގ$9]SY2=MDev̇coEȿv0WCӓmكv2ܯ\cP7jdF/}ݮmKiN\/_	[HĠrjlA=7ص@/DQ&ڼLd<8|KLpi\m|V@Lt1ȑYv.'P=N\"+9A:xdQɔdqܮ[gjFbKmw
dt)"kŷcwLc?>RUksP,&:_6E\pp]ÔdAZW',ȦWފhzۨƮ/_ں;`BsL]"|'^pLi*ͪ3aMcccEYhoq+7PnKY/`	SBD2D2$K/s9ɓ'4kh<Qd[s{y o2T,1RPlEW`TH[\պ4cuϊլ5t7<B`LɬD-]ǯPLC+3N}|};p_'ٻnLz6E/>&)Ok8*Ǹshٳ)o}Ƌ1@)ll~fpt!qcOqfp/B?}A8OSMC)_n63tQUv]{ȧQVnĊ4y*ܪ!iZəf1@	yCIqx^>]MhZd$(GtV~5gDj=?^DXSe3:!bo_m[fyT߈Of(	W-R+xly*%ax_FnT'aqa2ūaon.'Myt"c-@":OIڥk.'1h٧3p@.&E׬av?~L4^:i<!uN)04qpS0fNORh@ޮeW)ܮ:`dp}(fm_X>K({5 02t)ܥqT{YLP!5?C*ؙjlʜKԃqDK]'_!_Vc܎uu0̾w҄"YTK}c7Ľ[}:ynsGyҩZ;)/?Vcʎտ~_ʏɄxx=t^?JTf&taȾtClp1a5Mͭn&0KcC7KE!v$Yrrb^c)?jN;˜1KOE9YɅfrzDܡIjBVALǘJPiia"!w$lI˩$"/Mh؋$[h3E1v&@WST7zpII*x(IX}ʹO҄_mTiosf	4$mЫDDv/ć.^(TҶnE')v5yn1kSc޽Z	!e~[m(QUN@+2*(j6|w\ӭ=ƎDnkcE8YҝMIc_igٷmvNAEj;],)O}4YʷOɂVA1fr!R^~myP/5ɪTX?KWL	Pd9N=h\^$l8=s;(r6wٺrų(΂݃~UM"eJX8sS"Y*m|n4bG׳-h/Z!wd/5|](N/!%VwU8fݚ?.+O5r\Wf֩ޡ6ԝKuK;eXA:gy`?!	\߀a034_[a|.5yQ2$CTrEmO%β.P ˩9S<1Y8H2--D0f2M<K<u93&K|(ZG["oe-T\2<vzF8RsQA3 .zـ.N:͢r	@41[7S~j!"dόz=:oVHev[\LU	%ȸƁīǿvYs̟hk=ӌp4-*"1HqJߎ}ړ%7,Q^?>Tev+Qk'MPٍJNS{޸=җbL.Lv&{egB2;zKD(rSK×:`ΌdnE-j1Xu]gs&bʀЖyJ&)d2CY}v=4ZoxʩX$w*oakMA*	_lyg	BoZ6ŧmɴ\^2Yjߟ=GDd>h?9RʈĬך(vm0(y{f͑	vE/)i`jhJo1.0DB*BYv2N5tu-3)j)]MPw+ ;js~O.DrBΞ^^(I5~]x@wwj}$Y+e3v$kZ$ŕ/fIMkV:ђ%}oNCQW	O)C*d\Y.%Hg'*iz5?vUnVѨJŽYVtY(TCQ--z˿2_8k7<@rpfbkk)p&"\pD"G3D6Rsf=Y |<}oWZfԕWe^-`{Z:3TacR/~M}E	N7`0:-;׿a[0*)6x0Ji>WՆ	|)$6h8Zt9Y"C0Wc|Ay|	3<pwc5kNLjz$14Mݵ>Mt^*Ɏr4!lkb?L;>}3(.]}ZP̚:[=\l?3y0P~G5bE6ŰkUy\վ%dtUFH:8X07SW|߯_XemhqjLSt]175|r)iVpfh[-^-Yw9JBbKɆÌھl<s՝ѸGG.2JTXe'Īqʂgɻn<}ɏ`>݀h6װeƼ:hsV>$(E>wOKXTP,v2*x R={	3F_6tXj hw>%]7psttw:;zrў-bȚ)Qk/!UB3]	mDiʪ]ExY,uYhDnЦ/E':]sw27ڰSDGVmΆVlܢO`Š<tals{c$'wҍF6){ŶdllpmʺC LCdz>`nU*Vƒ]AVpL*7ڙUj-5}k̒f̓wՏFQ/w0|VYYk:a,3y.8ٞ}lb383Ê9}_M(uG̝uvۆuÝ$ؖ3	@cՏ;dA'~̨mN6ǝ^xX0H2@yq_8o8M[_(ȰGj Tzoheǁ]9CGh}ZxM{ӉEU)8Jҽ}EAƺ=πO0S'zǇ/fa,R.T7o_:)(HtzEq[P;5r
t{Û(UN47~Ubd_RGi&$[*҃3iD=p*2p)/<U Of{X;"n-cYMA4thbUײd@R`HVgHEEtX^(u_['ڀZm~~K,/n,qͳ5:ކxjj/M9GJerha(/GXtF6L)tQsh|+ęrF+OʋJ֯-	|7/Z=`xP@0/4edQOBsJ@Q&}mF^YNScDOS{ Xǲpz5=D8g+˄p1l`OUn	vApkʘ5Q4/^1hɀ>qݳ%pRÁZ$!@Ƈi\S'?ua7jzLZ27btT+2/W	9`6u}FbexCYd"O$q1HR~=5v 35M2!gvM<ǴELh7=<Yj4{i=[Δ5ø,K2(;^9$[5=`15 8zggpW)|QƓR@jȺ0\cҪv[RwCM͏9S'ފʪBC0{bf(g3e{}r/r;`ciuÒm1+@%Yl8t\7k	ԍ%$u7?PWݦYOئB,þ%?{Sugw~"^vM=H"*"~3~b\:p/F9-E+?ȸ/)Ҕ[[b2-	f	ئqadP̐ĕu.1@bzg5xEbmOFfmʹLs2kr̫*χYjY͍'/o[pξɄt9jM>trSz{u `b8ů/uӛ!YkY-'͊TIT%?L&s+j!{X|iʅT}yqd+|۫b7S߻y_ZM,ɼRmO?y2ʢ]A]d\ͦ%%oؤNZ\>8.M	jArߺ0TKUC%G]9<=4aXvU?8{%΄$Aw{ǩܤGXy'i}͟EdăX;K$bӽ{?ĻX	y\\o-_WwjR-og4N.Mh6="XbD/!nKnj6mz/:$R۷8hۈc[!	c	ʆ-aŚa_<[i	ybdBӽſHos;GٰPo{CG,(ywbNs_V[DW$^ѦD9D-ȅf	2G~yQWיCJ͵	̛*2_*'8rʒ3\&Ǫhr20z.Ab4m+s(d9lxXǖD5dg%Zi)Q-mW0ewx"-Qov40Sv&.9p^Ci'Tu6>H,a1 _eOV3(:)ʣow"5{ZIcK՞ı͟qS/.sN^ŇK(5ŵTCɑy'*8NI}^@<{qAo>͢((L^axиD'u8??̔*FqG˩DBQcD;~x~zGjۺnIqz:2HQF@̏=`Hqі_2I{	Ec1ǞJ0'3oGKcekpZyg_7>F%lP	DJ)ҶL{U?b|ݺ^ A|qKHS\MoRc2p<9wSAY=UDJ֫piXiSŨKũ!תȓC20"*$z[p~ӵ.ʃG%wߚ'VW@GKDr=HBWtluˡMP~QļQ%?uuGDy}.A_BcdG	k^16:lwS TI?*ŵSD80Q+FrBMUŘ);X2icg%TONZЦ<NكH EmXW4,$(-q.>۪5Tn29Q^řѓKMI&\kgUM6RS;[B96VK.fQR>81-<Nٲ߅%b5ylFj`ЖAX68zЍܘE.N}Q?cȱs?2hth36K΅i)Fe8`Vq+6aw,;4b38wb'{K-e*="NCUԒ$]~v7.BFriͥK3Tfo|-j}<0P$՝lBƷM4C8AN2zTwCW]FvʭÝ{cYRC__^7xߢIk3{Z1iD_~`7҆p\pw֞Ϊ3ȳGdld19_4X=X"CJ(4Σ$BJ%?q)][e}=|Z6Z$s43ع=;n$")]vtQn1!%G1H9.jHu>3yeg̸J9,2"q_ah6RjI&Y2+A!<Z3*"Y|&έ0Q%ǥ_;=Y3AHh	͗}T'MdCgXĕ.,a;z@FLFt?eCʛ@JBhS7-)QG9<*G:ոB"^XÊ;lbV-IY:9>SbDHECZ8}jXda|W'vF]mdffR{Rdˌ}cԶuq0eGj)ܪnIï޳<G|q{a[{D@}:ш,kgA$E[{E*W/'$Dv+K$F~GϠ)Kí=k(L,Zz?Q.˗ӥc3[@2QGVty,|(w%Sef0Gjy{,o!2Sgay<{:xп	ZaSy)ͶךnQWSʀWs,+ni6_81g]6hk!`P)ö{x!NgG3ܰK*̖yay/XsIqۆ]-RRw$;U|^,s.<̦dS߀R,ݴѭTlİQhyP~ǎhYij^IT'D
ۃRK'ԩj+eP<&*Tѕe ƇdGϜOYgc4X=upiti=fY%9jչEܾThu;BMs\Taa*>-͸kK|WQ0_q?g91WmBs`M}m}[5QÆ,ÞFOɱZPF'i̨-Rk$ض++Gݍwb|M!/e/Cfl?9ue32h%|[puχZf	ǣ;J<S.x!kZ/c\1[.5Զ;];`=pdZA$L aA^f]{&79-RX-Р@z71Ƴ;m,.~K̝0,XKz=V{ڧ2A)BytT8Mȋ"Pi\\˓4|qfXÁ*\x"`\.\ICFHƔO8F2X=KqIjWXzbb2860\ɟ;.%-*"	z,O=T6l"Akap9Dצ-X;U>0v׉sMbNZem_0.k&xFVqM1ِ%z(rGEtY:b ZZSjF@^:qpNo]Ѻ	OZj_!J{(O7tOl(^]S=x't$T?(XZ3Ģbm+ڬQ`:i:^e6Ō@*IB.U9:ڴ>wAhFμ<5n|eF|n8&ҽL$ǋmy!JSL!<NQ$:P9>NճJ;`	rwcˤ!tZ	QIAѽYa?CM/W	e+XI-I<tˠӄ0wŲ`tM6EêJC]0M+İ)ռ @<) P\d*+hu-eʸ`5TTm0vFHM&uŁKxEt8y܃Ci(y//a9eAKb(vk0%l6(a[?-HNf?	hBTKOľwIWV m:ZA5/d	?}ؒD׵[nP6*IsUH%TI0N\ES;PaʁyV.vydEO8qp%o̊j	uʥ(`Z!>/lqVOXsxoxWk]zmcX=dh<\H <ʠqL.VF2̍XO30A([m]Q5]s~ZSBlݢȋf$S?"sxaz,"͖%v4C@ȫ)r$LН^Vݩ>&PJG˚6!:0QL÷q,Fzqc6e4EЪ:L4o4&4\,?CXt̡DdL.V=J5J	HExsmHϨ@P~CzA_B{c/bs?Kȹ`ͥlnedpE]u\ՙ~űOT%wǃSdLbDLWr[W	ه>$&Ed4`̑w߀2eH4yOpDpk̶|Ղi~ޱ&t~*=PGUF)2J2-Ͻ,Lj,zuFğLkɝ"R>O?S *z0kFfhQ]P܂:in*.B14<OvZåB\rvݣUFUQVJncTrsbCS4hyTBf%8B.`Gqɧ5n%NNh$Y?^H]dQjn"U}4>z3u5LUe֠k.`**ɶQ*TGq$-v\l%PpBWo>ɜ]cT}М};kr4(Ŭ7zPd܃:@t\`͔/ʧ^ϥKzA\c2 aN*p l z S'&'ŝ5TRl?u]-HI}2À"&l5Aȹ]PEvТXۢ v.W\N<jMlo4Vn<t@OEVak:L <hp^?Iq+"Vnm˕H͌.mEi?p?xBm_[^qEL*^hlEnϩ(rk2UéN<4ZwR?T\{De6%t^nk U~09UgiJN~cYBxLfidF{DT'л rLoqdΆ=-fFAC̫jooUaoapS]Ï5[x~zV``[A'Hn6DUNf@0wM]?+قOFMlm@ki>81̓C\"f^H/2Z8nALd2ڸg|!	uV$)h)YXns}N9iwTZ);B̯mAl"&';d+ ӷ[r~3%R6~|١BӋS	)R[dDʶW9V!8:=h:Ay֟ږk}HXC/g|p9Q.|qX)CY0֌PxEA~2$	fWY@Ntp;֝\b4BL|hbT̩q]=]lMXȰGT̓ˤ2]};[1m'8	èLw"J+ybFa_h!_?Op	[$FWELZ a_]!w.m*3_1_IinܲdDHP$tQNgɤ2ˏ;E2^JqXw)u?G&e9;C$u(TNxR{u)dSg+MPf{z-PȠЉZhig!s>A	Ն(&u">ŰOзjSȒc|-Nє;Ψ?vwȧ@Yb[ɜ_	V$w}7>r,(lR\|=eJ_1FquN[	eMa3fac-s6̅.^$æ[sBEP@>gաTmֽ15xWC)L%sFVx٤O'!o]E=v~s42ǣnQ̀[p҅t;޲w>od?o21aZɎt<ʄLѭt}ko	ȍƢ</3]F!,<tF72oYgMt$|~BH;C_Ew!)yS<07ՇwEW`|,1˅jO?sHP0uſ1(8t/AYF1`0Ǉ
A5NG/)CLev}Qڧ6/(xؖ8_QȘ[̑T7t!F$=TgU'x<iXZR}^)/!,}ys/܁5ƺXZ6[%1ubW+,X?d6!?Y5/x>JEdh=eDҳeEnY)c?R@LsP'3%|Ay$~V`0ğ.:$|ёOw M/s?)m\|ͩ3ʪXt P^3K66r_üI	gbM`^Sί΀yyNf\p{70\>>9B&ȬIm0LњP)R?Rh+\Ceo,vx6y6qñȰ$o*mq,̔ĭOFv'=q\ Mz}*Usp!ۮ"bw$_=8VDelk~[sTx`Ѫ_5snN>v!g\nW)\VYvo^2tۑ8\:6t2ec\(9v0G%ߔޔοI3kwk]	n s{UloVwB^<V`Sw_k2~W2iɒp)19NhhmqŝD|5J/[Jύv].%mV75)t'Y1	wed,j/$`Y{yo1NEt5+MTe2dۻna[g_XBr+~2ȂWTgmnvDdPjfBQQUL|+r%(oǒȴ˧0Ѵ)bf4t1`1ϒteGMA_(ވC״fWvǬW j"j +q!'<mȧf|.Y\9!<\گ<<(~K9ft&bzu%_~eQi4BǪb8Yܯ[jc|̋-ijPAY֦`p_/Gily4гЍNZjKV!ZpE~VV;1(TnH&-àU,+4k@ʲ|or[3:5=2Ci˾"9<0MȬaB<$jR=]aA4y5<+Vեf6t&]u/)b[ews`8ftQ yTBܶ$))~c;m^mF1ɬ4;%XPå'i-g1Ƀ5%@x8LhֱtQ,aΩclXzbÄElaR}&*7Vhtq/4,TK2Jl{.	ҖE\WbKRj9V2LstbԈj7j;9CQlC:$Gͨrc4R$PS6dŁa=!ak=n7Çgw6k%=t@_<TwZrtŻYy07U|WfCA;9P٪%m+dx@fnѬ)foN/ʴU!̡Vȅ׫vəz>]Mڳ[8'h^}7V˂Zwr+8l)xti9.YނRTׄIOQå`:NDQN<"[;Ĝd˿8VjVK8Ŏ}y,zAIdlJEvtZi}rZ$n(n!GG6ƯL|k$ѕ):)x+6\(UsqF.pڮ[wmiՂt^Q+HD!fG. Urh_ǿH["7%?GaE>сZ\nq,BƔPsS6MP:ʁ/&ATcm6?/RNYk[1hu_Ȼ`2ak>YK[u?	k$, *ۜGxgU@GU5LHޭz{=|)јHi?,bc<V (+Ѧ>UkFDVlkIL3J6d/yʎlEDIRMLxל^RSY+Jɯ{Tl']7u-`KWLKg^OIsnZƦAA[KX	nJsJ3Є_n0ӵ@WZD* dGc9e=]"PĝgYi5X-L-NZɿ$;	W}f]ÞJo,f|Ѧel$ Jn?-,y.WL͎úP?\EwJ/FGF4̯ё)Ǎ>>:bEk&E%9VOQFz~p,owfsoyT@4S4)`[	D: E2N'Lqt-9knl"A'u+DIUTp--Ds^A~x&]DfGw)fƦn,$31f	IqR"ʂwe7r=|ĄxN̟zP4	" SJBiy-A~RNa{E@_wTPcQZ&ƜZf$&z>&D+H?WBe9YJ<D}բ<i}aQK(SKYUj*?f<m0,ľ%fނ=Ϩ05b޾M0 }<΃2dʧ]"ށxG5HI7:]_Y:I9~ߟ\M%w:EuXvݸtG7nAcͬKNL./ˍL!$x\kHͱ/~r._ť	l+1vr)øA\X K*fɾiJ8AeE+:HsbOADA4fs0Nh mXajeLHQLrGAyx002xN&C Dt(?+zWt-0˸V/bVvu٬],v5a{56yʮ(T^,4iȔNw՘sr-E6̮	]*t<4~D]vM'(^Ga_L!Go&n9QmwDbUBwۆ3](D$Hk!.vמu4H]N+"$Q-ReBFF(7׆b2Ppū%Zd{JU}KCFHxk'gwvCD	PW4A֌/یQS($4jk.~@Xvu!ߜcQqH38ԕphOyG]{ĪD!̿^O+ȽGnNtGT6f:Z}5|<"U`ؤ6I:S%Htf*5e,zӝ|9K-^nt06"&=UDFQȵ"ȡ?vJ3[wȼ_uƅ
~poކbBj_LEKbSx5=?^h$Cl%ShK_kk\ˆM(FmRU	RѸ>U8~?8Q׹[0!r~1ìox4\nOzq=DcWG&ӧX*~H?@%Β~_SEKڷ	xb?z5L?:Ga4XWpQ&L@n0+y_a)FkVFZu8QW]C>û>rD0)YL+ks/g-6;mJP:[+bo_ÞJ47:ȿ:Ħm$F%dRV_6hm+XX%D؈L?ciXrġ"U=Sɭ3[`Ʊi4-مĨucāǲ@LlyVʄ{%s:.Ȫ/Tb	Wy4|CzʹlJUREPxp=;l`qIH1Y$MF"$EUVF'Eos)n1*GoƔNPh	$/*M]gԵ1I4qfz:(+1jЎ4AQ"jn>+șs0q[ej7A5'QYK	v.h{	0,0h?wi=,J	3w	tߐ<*zwB1ׂR]~h{RhT4opضO@Ƃ8zD\SGEèQƑ~:HxDyD^Dcf(Cw+sxvRKlj1ĘűʘJ8]?~tff|AM|LHiBA,hqs=\ZPb&Ƥ%Ev&V4ݜH2X!nƯaߟXz7}g$1f7]p{!@h	";>ǝ̿crigf*RUl9'9Qhw<{dAIq`\ͷxTLS{?ɉU~c9֝ëTC7a9W B(	`3sN	Q߸ahZNGPokv)%jh.t{X2}Baw̾O%e`ij fd]L͟EpdN2+:_'jJ4}f]y=xA&V9ʯPoƇD*,`=1@;Ϯć|:цJmWYF޺~|0s	-y˼0նTXR?wf:E{׃6/<V:4VrWy6_oi.;aL)xVI*L`e//O`:z!:_Nƀ<Um85Sd\.%X7i͐~}*?}5CvhkɫA(WT@ء!jA-HK7և5SbNGbCU9lbv1Aȗŀ)B}7~x*z <B7wg7wg=YhD8`EyŤC|_N^OW@[I_tY*B	."+oRd^8'S&e()juGSf|8ŸcA4RXa9E^!GCv[$׶H&4BËv	p[c&EQqvrx-sS;׮`Cٍ0tR}z̘ϝmNOIw$jQk1=tZEkh^>Ƃ0%SQCSRR.ӧ.J?:qljyh3pmGIA̶mi86*ј\X}D-ĭl!bkK~޳QUBG-+EAi>'rߨݤbܬ%T~ė(%u6΀gt-%5[!rA]JO	ݕeq/+cWΞxMqw1,Wi]Ks9̃`3,&=C+LiwĈtaZj7̡gXRfp21ڿuS7JIYbl**@8WDbwZ^ejcO; :XHtjb0d;Uc~>JӍPˋN(D=i'/6ƌuQ1p[jS\~T{̗Mg*c1̣oߎ0+][H@Nګ1>|H](Ќ]Hӑ6ܾܤvs 9)bu_]ˑr]RҤ:vJn|}wUGF+;KnJʡz]|jY{xDSg,a|AhrIbin^WBW$+ae!b%UVFP,1Ԗ})34Ί~ L_7'vds ݡ~T[\{	pʓwMhYtlĔKsEZeăQ=<I<7e͗.m[b]ԌoTtL6uz*EQSfMMj87nڣ/gED!iJSn.Xn4d4F\Xcȗ	jqgUeuL1HV5"ˉp&5(ZV3kσp]ɕ~SU0څ4GcI/D4g~-%xFܺP|:tjv[͸%OHMsP=@0u5(^	}qct:8b1xq)]BŇKr0{NALt95[TKL`<5|T3<=ŭp.4ʳ'{A.s*x}vgЪNŞR%IH)* .!ĭVLw815HU@]"S:>oz5%:fxc2Yl9KsP[eLJqLabY>^Ӛ.FhEZPߞ`vxq<`Z|!+;ۖi]!>`duq7e!ɷA_-;r'f͍"Vh+bk"8VGt9eHlg1}8Yrp>N;հ\dD|j|խ3EV-/=h]ub-qR]zFds.@}Ac;x΄n8G: 0No}LP>G4]m߿>͔K[׎X8cCѵgJLʯNq10ɘPmW<A'<ȿz<x8^XoC$gUg3;rD`MhM|-VvEp].`xrݖ tmpsM`Pu)A_J2[BH5$d.zQm ztp/bfmƎ!)9fD)2dHȀي0xcMLcEg0h5<zِOǘ>i܎Z`ǝ1^W@{J&??̄)&bnˢmٕ}'ý/mAѨթx2lC
8G1%Aϝjeu0|0kZNDLJ3ru5HLY.AɓZLol'3}haW_ac<seq(;,	@V+z"y:3şh~EH8n `og>Z?Eϣ/IĻͳe0RBgCbɿR(˟S4cAӷ%+IcF}':s*2j'TsvE{qlyẹ^b<r9=.4$(yL]4y5QC1"\2AK\ҁtT;]ob|vNy&GHj-֞HݵWD.8Y7Pq^i6=X|`4@	uUwi:GŪ+Ou<S$&%\gGщl*iJ/Wz1IStS݈Ac ΚEpɯZx7Xŕ[mn-bq-!j,aF̆?VLMj27F 4U9Ո/HhWWs`^YNgTHN5}]SHvpަEA..?BVE77 HlB,>rv1+}wv77:d[ǨZ"4C՞ԮO̹B CڹăaҖJ>	81$jC`|KN"˻SdO"vz8E_ȘOɠuB_=RAk&c"Rp~l+~a:֝pr5mE3e4uMT!ޒlQ$*8Ucgz<H^/~KL` ʕK&)U?	C8Ul15WjUljgX̫5Y/͑ǆsF	uGMY;śfbP|ȓXVjHͬ1rI]D\c4gmGr1ш8U|mF?'R^:D|O8>ۥ:M%șaU˲̖?~ԍNM׹RSpq̸a0_CdCgAw-޼G9Yz1qB*ȣޅj,_?;dP	Im/&O&$ltqvTk`dکa'cu_yͽ$znH9_KYİQ(/8HW]7=_'8ˎ$uǈ&z>TM!9p]K7ս[(2@MݔSqgy*UؖVFf]pȄsSt>z6GQ]tI$ICV̨ղYq;VT\0)'q2|\OR4])ǩ%)<GE2v$|M8/KIF7u_5y3_ K?"O	0Z2\hޥ$ <<g/?DaگU)CˑvPa<y|-i$y˃,=sRF<, v]G\ƬyX++vd{oJ\w@pp>ٜ>Ȩ^8]XNgUn?7|f,ʁGpRO|iqJB(T <!stޖ]eD_nM+<Nv9ZpޓڧihIȶ{pZ<vA_:G8s@7dƬv~<X@eaC'-uMP@0̈́]:ӮݟWmkM${p`2Xp\}pwKu:|&*ߜ)AhQ9vǪpZX}ēMolԅx&m8CzuGlҭ.@0,+a)W~JAJ!|X?@$=DkcSLa("UgR@_ZKcbЦmʿlK2S)ÎV,A1'U	}q|mJot;46Pe%Zߵ(6|n)ʔYpAM\dVAa+t8.˜UѸD[]|wwHB|8,t]c=ij0Η]^iu::U)`Dcqtv/@ʚ*ipŖoBNy4lEOǤzGړ1U[H-"@V^\&H[ro+Crr-}QR6(Y[K͐)^qٓݽ׼om47	<!h5j^qqǈE9SZA^Ģ_Q7{t:/K >rhBuYgÍ<5۷[/<fF<c(^_~	Y܉u%2@yof*wtĆ@zT	/`'puXwfzoSxfeF3S+ƈn04jKo~;OZi]=R,N/54ø"]/nC,Xd$Q`AWH.~<Zl-cO%,tMF%\ߧ-b~Dt.O{C2G8[Ž4Ɋȧx{ˤvqz=H>D8jR  6!Ж0nRE9QRHrIr*+(	ȟGFWuv]NUL(ľs^0v}x<Hy|Ý{˳kӣPwPl+|O<;x>53Yy+FiF8@Z)&vsb&R2ȯ@oS&tBũƟos=Ħc2.ğB.'0QI=ǎ4	̙3  <R!_Jf4LK.!LKOndmBOTL/=7]bd!ΆrBoNk2m'uJQզxb'0U8Wi)RsEOU2&>w@'ji	N(%(N/0h"Zm{wB*̎58F(4S8Ʌ Cp%N6`%no`~L7.PTr|4}Ǥi(=.6;;dX^ѧ!m4āxz_ymv|ȌCŮ1L]ְhp՟gJ|`t˦i0ͤFwJ4PȉoBH+	o@ٛ|7l(|~.3gEq0E-Q>̚ʌF+Xy=(wLk&ԶW)ezEѕѷ)&ԭe4*245/IU<(ܸr,g!()Cf\"0̻saȜc}"/@Mk0`ɟ+DH?%Zblް.(Eɋ>*Oz-_Aǔ	cm%Ndyi	?c9%4rIo:üSBvn}/qyA$cD,:g\:!J_܎{;ݹAo|F[QAbPRɀc+͸>)L%xW sJ%<I{}̼
hugǡbaTĹdhBoӽ&D^z4?LK!O/*nڷXeb=i+@`AMDzC^bGV:Hn21qvDvsXj@s)sOƈǬa4VrMmjwԹN;s}%;k9CJŊ=C.:x3?wrcw+Ww b`WFzZǗ30	ۘʁƑynop:câ3~<ppcC:b+	ǚ\?/n^$I4I	>B3"U,>&|YwLA>1%SK&yy4xy-}Yq}ʉXD|YA/P$Kk^lNboLjy2(ϭX?Y߭ÛaODsrs}g0o.݌}P+	-"ʣ$7n<{pSq$_EW`-@/ߑ*LƫZݕ6%,)OVS}\B$pHjZCKVxtXLK$H-Q}pR.ģe|ш,;cBQK?W_1jvx.+w~}&Ď]74&ӵ%JPÃ7^'uţk%ƶz'bC*?R7UǙ7)(	 	d?z-4Ah4dyrm&HrE^<9t:JxPQ`){̛@nؾl1l^Ĉ2v)G41y͈:ҥ%@J	__@R,|f0EpԶwltntxj+@p<E@-xTq(~f 'vI:8vtxɤgٔX|A;0;!ЇwIfZ&%jg:;gVr	Czŕͯ(*y D2,|)Gƛq˻DEVC)ǸӱB	2R").Q_rd2]a}ܑj>d{g3aB=G{b лthhhy*ATǻ5b;(A7[ƶH`B,p,b?a/c:řANvÁ)ĎL'yȆ-[{5xߑum Fc^W69kugp޼+(8E_ ^|rZ*LkF֔}ƶO6221&5v+MG.	|q_}<mmnS4\(F5	b\	pHaNƪWfvlȣw"k^c`Dzu&Z2ʍ(3 WQ]&UwiȿUƺwfm?vzȠT-hgO&DQۦiTjcuә"1c˅b~R:Cq<l˜EѤ4>1r_ĮrPeX[{غZv!>U߮(Y	\{u3ٝB=_){cdĺnf-g&I/:P3BƓӷ&vYk./EbyvG[*ͿN5ĕuMDM%o>_2([Ɋ;&SPưVJŒ*ɵ+9}xc|!,9	Ϻ"k6NFJ]@Ax{cN_h++3R@ĽaP%h|^"Dı5w`'j@M&TYi`Luz3ӕ_)S>bAP{uaT΃ĉoG'-`r\{d'ke5.5{%Iv/mW+6/%UjDC%r<\Y2ЍȐ3fdHq?=c.Y5@!ù	gb@SR}D?2^ɤH)Cmm|2m?doD-N5Q9&=v"-zE`e=%ZeTCWrlY"7G}o_GaJלCC	Hk ê@;Ǌ_/	T5_q^{$YFFJuȠdk2t{$rbopHb)ڐvmAUɐ+VU}ҮP<%wa~n["8ZMUc<s	|[ޡqVSxCuX0 O5q2dzB}clR1MojG1HuQ(I_OhPHvTT^jrezAQN^ǉn()@;Jʋr7j_֏D{dQ'a.>=Cʍm=GW	j/]nPGmΟB4@JObQ\|\ӎegzUIPTj5\6+X?A>A-zJЅB?ɌC3d0yFPaCCWSnѱb/BO	nAھ,*& TƀIr=&?Pqm̠+TSg^uTlH9PD̟b9^G<t'h̲G9j)׀d61Ƽ&4AOn6v+D$c'٣.k)JͽlLTL;$z7tf;aShK+&2(6K(<Gs:8	jyBE.lG6%FfC<R=ZF\=04Ah}ՙz40NxϠ֪ɲr˒d$҃8T{˫W|Eva(n_4j%Ophf@0="<J)Op4r/ έj{'zX]Yp̱ -<߀8Fnr\7b~ÐWo\R!0zMpMB}vw uXm֏GV2YH;2~IB)PocfcgҬg WriLZ9'r-Js->Px8;ry{.q62N$G05-ZؓBt_.HQ|v[J~wʕ$K+V	?:Rqťnз_NUnPfY1!V+696BEQ0ܮOVyyq-QK,30y;$9zߎ.az	Bg}z9p\Õk>Eb˫+}XӗM̢>}|L6ՠ%+K!>Zt6[fW]ŪȂ)Q/WaKBr[:>)?lFA8ͰxLY*xڷR+u2s"VKuVt">/w+hKJ2djA)wRɔm9zNmD3A81kToJ=ɍE\w1y46HQH|U-4bf8'*ݣ-Z7 ӓ{Ɣ5Lc?[į"_lx Yq֊.o9!IwPt}_ŁloL?*0tX
s]ʇ'@ɴa.Zb!TqANyLA}P)%Ͳ4v	 d*̦gu(PG'xmiqiċ:{"ԝ'ٔVٴr\uWFc!*_tqecߪ6e$ǵeԣtz5P*rlTYQP_e(&foV3=^swmXuʻg)T4tq4PNt~PqYkq^rƢU3ҴĥP.]}[xkE?2ioZ@Ϗ~< `>êMU}NG.ȬΐB6zURc]7+jLsIbfEKE>X61\>NycΒ?K>/ݩI['~Ojkb|jO<ʝDЅ&OV{DʪmpMa|)XT_])[PzH~ξ(ɡU=@bsv\0']J5N<5{92bŋӓЀ~.Gq;qs*JLEڟHO<C6f8Q}|өj-~$B)fPA/H^kL)bG.WM0-`llI bw?E1vkA"nc!ŇѠB%3f9\Dd{Cid^6mqm$K7SB,Xt2&ߘ	?eU!QԙphH͕GeXL̶ 6NCUɝDdVRkԵ5y)J	t(ZZ)۩'5t%zJeiqW;!P~'R*M)F%pF>;*paNt+ǡ}kt*O	o.?Ъg6w_&NxrkKfaFl},rǡe|CoӝqOʢQނV[f e6nt%ʔH<RȰҰ<%і*>S\0Bgt\	OF-Bǟ)vo_8x fdhɫ:ZS~}XpD$]]	\*"ܬHH0h$S:t;_\ٸ9CF{Q%}TYnfXm_>sń$ak;LUo[t~KZ!;qߴc0иic:h,_;ɒͳ]TqQ<Erm̻>ȟbt@4p4&\jYh̲vfw>]'^3T ٙ>Mc9kj=tJTE'"oxÃ>7uڂ&"zFP-P'̭D (x77cwx5:/ޗ (%<TC'8Sd ֖t'**x@lkO$o8Ow|*t0PIS`c427jH>[FwGcV	[(dV&,ƺpDG|]CTN?	sӎגVi`<}ovڑQ5LHiP6>C }3FrlD^pB\|?,og_ylu0qG<Sf::(T˵!KXaFk+>wXqWLbʬ˻)FxSe{i'*:l-9$'_ߎp!SʒwAYq:]+ςkhfJA@+0\qyJ~b)}VX~:eYiJͅ$u	_dg^l;+:XFDt*Z- <d~܊>gM4u~923 bS%O|q<o^x7by||A~'\WUyM0heR=cB͹T:J}+WY	7xsvf[À$q$'/.]s95R+|71SNA&U+Aha_|ɉҘ1HM{Nڍ4bXZFJjPl-vh%u c~5ı`saRmZ+/ƣIw(F;Ҧe6}łȬfj6tV%{jӓj_;kVn{ACI85דI֚>msP;05+ȈŃyayJ+B$~xvGsrȉOx\NN3-˝|WѶYƴ	I|yF89L}!Apaifò,O٢:<'nc\?nm^8% 7ayĒc`?Hڗ<{;;۔-7Uh.^Zyj	\[!%ȍC8`C{]ƕXŭn\SI~ń'cn֋U_Bl}	(ru$UU^VYp;	TA"-ǰDjXZ1KAbAAcNsjBƿ׼?32R$:H־5ۀBǮ$=ˍWzT9J8gmӄXǻqCx-C5pWRq^m>.%ghl\,3<H~Oֳ$I{/xSÜC:n_e^p\}4-QFy9T>Rqi1.u6`%rk[M%SF;L1;Zb~m<&`kַkiPTawxM$nDACD 8M,8΅wpŰ+Лd'͙dϠz%-jou)RBz|	i.Uu-ss@xց"BTesY)ͺk`PX.DDr+QAT&ǂ~ eP'aƛo,Tq:Z<8:(I"aUDk]5y9{сb9rE5rhjAtehwMH:L<7|Ez=7v?3ŢbQq}>nXN&=a=&OvG%œ&x5(CńNUt=f{umȣܽMd^UEfv(1u4[16G ԰m:^(UvL{غ6YxR'JP+&yb͠~cG{ڧ$.A{@(vwiMa>=QMYC485n]f="HD)2_ch\7T{-Xt pKjIg>yX5s]`~i^jG)S G^>m(ЩhM;Bt2auA`5!%xIGlޑF=ȑ!&d7.8ٻv4EJr9b[(1y+B-*e~]a,N<6L}0;ۢ=gT>o rir5g0G',g̍1j[i}53˃@^2P~ [V]˰+.P;MzvWn;}z{ϵ3j
nYF]@VO3^.q5liZ%%6Q QQvCWI'9PG3Zk~j4\?>by)j˖'fiC6Êb	jƢx;Y:Py Qˈ20Z jj%1ɑʐ9gE]k_ZTY9M	/u"o>1H(ĔrTr^hn7'AR.'x0?my@4pZLn5/JVT̜D"Zj<JEjTxrW߹$0P7l6@P1͎E:_pS1112nYE0Yc֩&DRSRhe$ԍ[^+Ȓ6Gi@3cIv΅(\OVޤh.ơ2.Bߘd4pQ81CGV-Y{ż&=3cҶ0xq/%H62T39>ʻl@	L۔&h5ܙާ];|\jWܕ̜۠onJf&v	+JL`A*_BD9;PIZW')4QV@Fbf7XN7`ܛ'7K^&as.~s>M*@$c'ƿUJUce/p|Vkxc.q<||7۷*d*2ƃ	d^:P*dĭ\ɻSv\ؕ.lZso,~)HH%ѸB	!EeA7^v@gΟ)+Ipm?p4AW}zY۫0'5T[3agć9]rcRhB$_<TˇbZ.EDV"{EM!wipͬ`	SL`Z<kbF̜ll1 ʟ̍"ƒ}B{QfPf['kKL`Ui%0t7P	-=ˤ=4sVxۛx$ǥ4iO7?wj2xLH4ʯBTRV8\eqemx!izW\I8oZ|Dt3f*߀qG<Kg+MC7]vӳ/iIKɝ7y+x"La	P'g_*FYLcڏz_h<n?B)w?Qfdb !M?vQg!K{]^)kww$5ge^k(,Ru?6܎6"&ß0qanAUε܂B!P$	w=-u'$ֶFzʔk@֖;WlYLuvIY%͋(5kYW hj.=;ZCg$&JgzVh/UǍ{ͷË["ihJ[f@Ga%,{Y\wug$QeM\5*p.ſ,Ĺl.$ʑəEpcMV?sQlP<x"'Ua؉YYHg?)y[<*XYYj&ˎ\r/uJ5x%|>ā_lƖ3&RRgkθ˳H|Mg^M7(H	YVp8;߭`yHͽ0@asS+^ׁ\g-\	oO>Ƚ/ޞƻ/0XTpC=սE9f</(?	)RoHiBTJAӻ:.ȡ*KJz% ǿ&?;F<aַpi!Pw~f|+-*=U6kصĀbD`l4fU+CrpȳT=Ytrp`C5XKyȺT.ο6{wM.ZU>Lܱs[L^v<H-P	-\a!	s^|XSL'2z&ٷ&suH={{ը`?zZ!-a ۼ;dSG8*n ƸHBI$nT4Av_7.Jyg|363j}hmEx%95@5_BI6&y	:lD΂3١BI9ZjV+O&LPi]V3ݍ{B˝:Lr.cxV*1%j!f>QwaHĶŁW"`,clMcX̌$3JY0@ ˘QCF`B6Ͻ96;KůD9Oo=5lHjcP42[V``T"ǬS]XKE-z;NyFCŠ!aeehy?ubo4ȎW*``QDzkGVǆ?Ӿ̓b;ԟ:dTcmY^Qx1A=r٧9Ru M901V3Q$pAn=H5rqU/w0T}J(u!w`(2@|$-~~w'j!T]SJ5ǣI=lS|vGuM;ڢ!OQ\k>c48dM	YHq,%;B)&BDd4-.$7g(Q!p!ղ($~v-jGGM{7j\5RDmeghgne١G!fGqhT-B+@0X[Ů!@-ƂfEeQQ$y _m/N_C0k^ԭ&CM۔Ipi̳<ŔʎZ/ڱUB4D<WYZn-@_:3yj^Fsmȥ ?zgSj;ӑbSMop8YKg584WNX"px&HnFŜǾM')hm"vxctdA?Y2!Hr.h/uƝR4"FԿXIVx_J)CsŌY=ĉ-[NVx3y4!5!\pl}Ie4SȮ$6;M̓VBEoq۩5xSgnE3xC4>qL[nX{tʎ>OVܤ'R4$nwB|E[FJuȪ9%5d=JD)TCá*5!~fO^5z1+G{YJK,/'1(^s{G~}Hp/QLkۯ/ӈUXJJgix*yK`U0rJ`4GL2z*S_>U}Nů`*!o $΍֮{^ȐYlRSHL-*<6]`J		Pm;0gqio}wʗcw2yaŉHzVS0ɽ?TZ!a;XK\cu+kMD`a%L-=-"Jі\Ah>jsWCqWwQdqԸKUȜmbEK
a"!6H-Φ.XTTVVS}=ɿțz{$\n_';vb{&/al+5>|(_CbTgɛkS{_&;Eظt3zXP({^r6ّA/MqcgrcB=N\+* nxW߰X>ۮ)yRޛ_wPo!@Nx.!dȹV\b;t<<	5c:Ϟ~~F.w;rf/&CE߰z|x]6ՉYhv4ށ\xEAZ5XVֱxɦI(.{ʌ<Yŏvv>FBDfW}_ɢĨ}U,˺[b"~\*Z1~-(ҲC-t^>.R(:!Q/˻7cD{[3ؔ[Ljȼq	UzʜxvcQ=|5Ҳ"åK,SzNLFjФb,`ŲMBr4ΙKQVrP^~jABl\2̅GsG_zZFd-3EyN?Ŵ!z4Pzk&ڮ'Aq15~CDqA"y^~Cd;@p'ÑpȌ(E[f6G]eF[~S4p8X1&Xei6x@4 4Ǫ[7h`ƇVN7.^p݌L1$:h	0Y<5q=n?B6ͮWdǦu	"=Wi'I$C5s\l%[y˅T`qw{.>olm{'LjjoP{wg> 	LIp^gV̅cnǱ"`hJTx4$C	v1KË]8/f1fUE˜nu<tYu'{D?1O0sl&K^e?D	}U2[-Dmyy̽~8>*@˪tCzS4-d7RV˶z;T7%gkDzGD-\88ĽOѐNao'f}5HoLn;}bN]&R'9tt8CBgգì8\kV&"*FL	2EdA@+*S[ĸ[T֍ZU>Tѐ^F.B]-~3Ah[w3`׉~Ɓu$M&EȾL`b:>]=;vFɦwl<:3ۿEyc"0 6Wy+u7~3Al߻lŇ-ɖ ;q8|ePB+oIO<Qq,>1(œwnÏKǂrqQ9LSƷ΀ps|{yy 7Ub/qȹ_ln:qwiqW6q'å0z>g͔S.̶+eyp7xiXTIvaF"UFd'ܜSZlh;{{VkyLr&8Ys1Z=LIvuG^ȍhǫc%l$6rnNˠPދ.sص`-7AR7=9O62=CjQX`; (qwЃAx'cqƀdt-S,r=63[̏n(ǹD%ET|;!oɑxzG|]rhE-avOIqChƷb2N1fj T֖D-sd}ДTTBVMn`GSRW k'<-Y΄ЯVnI@VA5VX[M!6j\(c2>$nSc"Ș̳E-YQ) @$S\,.QE{t-y}K^N{r&z]PɺtKљUā/I6N[9QXԇCPhCfĝVLδ{@LtJfVL` _CM	)UjL:/jL7kdCbˋx~[W[50Ư]~rE7bX_N*ӎ:׬Hør?0$"jR)˖xRA6 C)Ƨԫiɋh"d%/+7ŞG)_6Tό΢B|@{hd|0ГB=UaҾ{-zQh˶$UH_}iUBWbO*A!ԇ?jƔZ9yJ3ߐQhE?^ŝrP9[ժ	?V{ɿVVW[B߫zR<'G؈ƞLx*OCC/I|C|*.7\vgLZ&Y^]A0Y߄5o(6&>חK`'g:0suʟ\FEUS5߻w4*rEp'4u_]6Vl\@jϦfA:05]tM7$}Oʪ:u'F][zvMTqʶ	G MNWƥ;:,Yy6[6`.+^E@1o>R5%i^rKX&GY0 pݲ,MK߆UH'MrW}<tq`)+Krvg,jJY&%^b4A3p	aޔQxH*Ar()kǮL71Ͳl	,JfR^"n}ԣzF7w4D">ȉ?\zB0e2Ѓ&FIiDɀ:X-Mua'uM&ziQˁ;0bJ3P!DL*rSp+Ŷ;}]6m$x=ĴXGwhu1ۤC&Mwuj|V	UiUQ;?_ʭ34ۖY/rͭ=\H@""~I6e/q[E\Upx'TYL:	2k=UۙMޑXɭ7.ŲO9+7ߤ.|H!Sfzf=Q?ENo[ŷW-<?F3ChP~qYZ;RWEcO9k͡z}jQofw\%TimwŤ,--E3A"/ wYɼy?pȶ3?	XFƼ%ź&{.Yɍe->)Iɵgͪұ oX\bK!l(;@j1rC,lJB\3'in_Vzao!ȏSj	ҤǷ~ceTKLx1Pg!;E{o-܋LOIƕanp04(*RDcѩtCE3þ˷lyALh7^vfζ?P֜QXZT~V:Hv0NZWL݃`ɥH!uɑ\GI\I'{ym.tjˢ"
?Y*u4ʿ.)XK*EiqeqSٌBg^Jdͦ\F_Ĭh@>"P)SO<0Ӽe<`)0*N}+wZKqe+M=aN(>Vd^Xa-e̥i1Sʔim`s"aȤ͹W`Euŀl&*42MT7,Zƕ"`˚+akOzo~̚C ^UHJ6ƹyyʓʀ!&=RajF/peX˺}tX<p^g_Th1<wv?"/lO[N!IlcJϓϢv~6b%[J%O;fAɟ~6E$=K0ƌJ >aBO\21V|&q9Xg3cEεMĲy ``FBEDܛNEx%iQc{dU3	gNSz0?aB['c]f~$[|ə:h>h-[EtcӯĕHQkNyxۗpd%Ӹ+E V˂^tcxW:BXݑiц~0|\ʾ>D%ȾӁ"5B0^F`rZhm4n18O]SȾB"5u'NnB$[Ya|DO$^]e."agl\WUqurZX+V6M6m|`Z[0N(TĽlBTf!fj]o61l7PJjuF@sHΞ[^mb84A` *ͩ+P8&CʟmW<j>&;Mhu]GQ`K)%~>_ɢĎ"~ie"aǉ<Z˶)EXKKBjaĖ+>Zُ@tωT`rptwyl[x*TFļ.-~dHgs!^~ŏ`m=1V8~*EQa|_>M̷7J^ķvرiuQKNm~?`̣&*OgB9y/Ϻ^0Anlm|3}DhBĤF?z>Tij	88Ky:3ُ}ʆ;+WweFaD:=1P z$y/Ă4foXt]ͤ?AbjGLM)E̻ixy5s\Y+-HW%6P%b/ w?DkW: ǲӻ%Lvae%fcI<3m"ѮT܅ (Lc~QrCm-ݳ(j)'6س˰O<:zD,ǗKb1ڪ')XP2rՑ_|V+hϭ3te0cfgw̫ʬۚ˟'0&J^E7FuڈJɰB]ԋ ƞD<2]NÎoǼ?<ɰɏz(;.)Xf0r(&ٗ!cƊ0mD$!%ˮQBާtqM+t<HdZ=J%fCW׋Qfo;mq5BD %4J%TC[8AlFxz*[f6;OV6"$˰Աr4כHyTۺߑKOWz<S/*3Ɋm2"V(p};ݰ%qpIDPZ $z̐znvziu!j,2^!@^=\}RSֽR\x,`Bd}کF_RFJ?<j&ixSQgs˞hs1-[;2R͙vֳWK<@=an$/i~C]jIg}paFvӫQ..R>"wk~I]zZT@lH}ĻyXI@қpvd 1V)Ê*ܭC>AK<Pݛ/irMӛbT3{w,]Qen(Ərci݈QZ6=zwSK$>E&ut-s+kl,NZia*u?'c$bǴ9QKU	CVr2t8	\K|(go%:ңvvRcYH̤`W$ߖ%+ss@_1_ĥvj4,\:hh,OWtUO<`=)I+ǆQ_W'\drzR1~P:H+co nT_a{0(ϰ42;n?·|ɴ$_n")a{]qtP"^ߩɊS(lSr.߬c\L8[&$mρX{ĭz[n|J-=xJn	o,5ҠoL0y͏t1xk1˻ke~))kh|wpi &xuyɃ6-Ċfl!6|dc7W$(/ٱң3x`?l9A-Xfb"͋skVdDȣ*4N;üI" ̗Rl6Z;Ba6I-Qcle֞p2u1*hrpGFXbӂf@)nlQ\{)]2ĲmȊAq[bSWŚ`i?U4Dޮ%ifdߡ$Hrt0Ip+=xpxfFt۾ق-dXKzG&pn*3"G,NTz5n[76]Y<Q$ʹs4wlb`/<1_^&νS%{b%!Ua[v%9h>$^h\Ȟxnd<)>@OqLuZgȝ/D!,MbDHNvA}z*ԣlf8i_nj~͌_BzhcG!w8I(},;{D&idZ8T+g(:ą@GXʳpT(K$GjtA9a8iA+f6F|_q-ʂ1[ZAaiMgRwx{pr*һ3}c^`0eb`~7$t6|zc?neȉ}cOjї]CF<LǟNshi9n3]iӳ`>Eqcޭ?QmƁ8*sd-DN|`LXt\Qo&b!yFTvVti7 2ǣsوdD@fzgaNGD:'/į'WfW'dkMz|5.VcnDʲY4ƈFût޹4JR3|}4.o=GZB44lo,F֠33s[7-80C[g1uL{˰mBʐ.`\$Ǔ(E	J&vA$$EjAk[mMR{DMw"[ۊ1ZBn
]cgh9YU!4JN)5LqtRnr	{9C1w<p%z!fmOh20_ûVvq!W5`aMŎ`8Ѡ*Q~ޮo5~J`	wkbN Ųk)?x10VԺ9jPIbaYDyd?D]fdf/RbjQ"9M0O̅k;dM8$z~\Ap(|~^/*faO9`%~OD0ʹ:}kw_ZDqCVd0rhÒ-9cfL4	~ߵ3Dp@Ux}Hau$ts^PT;7O*gtK/ʓ/WNJОexk`2&PF0Jh_rgOPC|цc:gm%8^-::s"|X=N9>!C?8LKZˠ-{gB8D~_%ˋtS-:0s̖t%AY:4wn.| s)6M<Aƣ(ktiq341bhK*ąg|D9-\BD T4xm,˩H?x&=H[1UV@}e<>4!ȖoH5+7cP{18B'b(MZX,c[>?ONmٶ*qݐgUX7dxV%w5eC8^Bx]IQ7xGΣ1kĵ"G2,;%;FD9XfEqXǩ\~nJvS;.n99[=_l@j)Ys+0 ^Q4,Fג_$B9i\_[ Zk̡(\Bx^%5ʯIvyҊN*eNaDwf}dO~-Uɺ]L:TH0h@E3̛Hm6n$	.dWZhhzLOe"| p5Tqx	;6= ]z5eU[(xf&(5"_<GoĆ0?Iq=3$_|C˪$,k9|%b)e?yP;n)̄N+_Ryy"GُM?e|UMRrCvwCp.4J'k~Fxٻ3|GZZ_٣/(́Ys1|dI`FGS^HG8c)~*FkX]LH0X^,ak2l<'u=PV*[1L<[VsKU}5,$ZqOfo.)ҏ}tJ0Fl^l$KQϖ:H;eƣuLhC{p@]tZP{O҂4B8Ll5'83>9:jM݄Yfn>),(ra9k~[MR=SLT jkHtO2%nʬua{vi@[L1`͹FQxw@|J'B%`\8'4PO{:$UW.>0XLIjC_WCT57HtE:MAȦ4c-T7P{x߂hNh(H7LnҪ;+\L;vÐłOZF̃;ß{*,2	?!)'5yñxOhZ@l}cyo(RiD>[FA.rNɋQMV40,P99`I+$*h=fS F^:Vڝ*˦/ˡKhbix<vCݣTq}7EET$dkxug!.Ù/6iN%=9HeJ}&4mkq4nkV4]=ݕKŜV+mx1:˙2lE4 _M(Tgi;5=NA%fӻ̟ݐ(n/+rˠ?"]Hߺ.jBO4H>`IAéB!ʣ-}&pU:!l[{G*X>)ɷǤFYY{WoОׄŽrvF&oGMhk(UqZlF%IȤϡW3|\,/p8 HW1J9u;@yiRurHjکIt!8Zx6أwJM6z?^hF!λ`gblw;,$.:B9Eů{S̝x:O1ou!zvau5|pԶ<Ep`pH!j2qRw| O{6E@mNߍylWwgiD5s|(dfL9>kMFʢ̗>tIڛuyӂscTEBvBF6'W9E{[2dKpKM4SׯI$FП+9}XgĲ2" @=n.ޟUGZONU{=``,]w\YE,Z8ߜŉ$.{OM	w{^mdel]uscW{h6J!/@`;@ɏzdԣJ/1yS7ndutf@FH̐$Mb_ʬSX@`X2wwDDe˹+*ټͲQ$a\o׈-O%<s7IwZ=P9Θ A	rUn5.N4_+PXYDq95ε2I/p>KraCW5s-?m+Lz&xLKDtRKğ?dUۯg`>+4j<NICn!'SHn","J׮.7_mDdNy]tDHͰ*|oӌdR+47V;UX`:XNƪ	;"1bM-X@F]O5E>cʤY@C4:G<p&CpX/a_a	EExҢ.T[V2{ʴO	fbn-:;Hp8[z$Y1q*,hR!VKx ݁A]@\ƎEʔ}6*ҏɜlG:)ېsta@]Mj.Z<En3R:NR~b)QmhaAUޑyrz/BUpX̒\z9HV9&.QMzn%J3ޒwʏXDU)1<>r0'Cۑʃe$I)y?[dp"LX?/~?=[aӯ,|a݆o׍6-E نc;5Vx@|*!VQL/'OK|IF,K(LT<i'zvgZy˴{bd=[2ecTҖ>`HTjŌiS"2ԖpJۺ'W<H",Y3&W%h
	I',]fM5>յXYكaͭNjv8:Y3)n12:@xA? B~N*cP\[{e:Hb$˰n2	XʧcWID|~>wH"i}xG}@2[a;mPFCGk5;ln_HEB}B33&$J0e58%:Uv~˹Oo&5J-D*?(Rw6<i$Nx_ߎ~jk3փLJvş!3+}<TANp!AWkŦhqˀ;ROgFW?6>FWvM3$7zM}Y>qzQ͸ |k&K	L9s0ik=Z/(DCteH4ڕGZZcP/A8jg,8[gڼ5{~"9>%mtVh,;b5'՗dv^>4lrd>{^}@+C;E-o'a^.ەB]eAuIM@Mvc.6tJ)LI]Y{B@uDLyy{xk$'cNO@o/ˠIbPW=^[$^)|ĕCns?<ܻ$-E}(5Τ(CzG3\krj[o<3g:I(͉/8$+>",sfDh9J}Qo^1z<ݡei30gI>1^oT,˫?eM{ک+&3*Uoʞepa~LKCzK/KHG3]@>Ø+{Op@q5òmg`P@t},a̳Oi9NwiyIMYSl81ƫT5rމȽd6Sc&4f?ZR- )h_ʅ	?XfCnxAތM6iĀorF	fGu[O>Ƃ>KEZVԖ^6ː>!þ@dYB[ȧd@2nQDOwINlcbȐܕ+d/HmS.͈CЕ6{xuXX~5jGi:T|TA![|wX@{h;JN5ʤމ_\1=ytQ97h`ǐc^g:v.	,P͚Ϳi`iȓQ!-ľ(ɐׁʻP۽Iޚ0j^`	LTa۵TqW's$B\?p=Td;wX;P=A?a[ܸA"*g1	yіԂ0ŀƫf?L"I{22a@|/iI_)\[io5֓\xƑcDH^B4v7ǊUkTKMǌXO-AVPpHF6uY<0^=pFҬwi=Lc>wHDk3fթIb$	 j;o>/IC<oug`bOuD̈́)$.0Ŭ/px/Kg]Oi4ÿi}LqrL>ʁM2kUON>1,Y%?C^Z-oޠy8OkS!ʜ9pSvuTg&- X!ł4O>,' f?./3/ϴu1!<V?W@N{	}N1yHE!Rh̄xO6fyFSIQJXOWTok~R/s{1яǭeoL|;ɔpfJm:a\1(5Ӊ$nw,cv4}A\B[W)Dh,ʾbLs%?,ƣǻhNR8[?~׻ty!aÓؘ5cEýOOU^KFdӒ۲PHaEO]:{ۂByBGޣC%	20o'Ӕ7h?3M>5lu{C&j~ $vƁI0\҃oYO^Dwuˉ8~0{-%NijɳBb~lF=l"Y47'%UCd?+X9=ޢKi@do;dŷ`~GT=fRbT<ޤo$ǵuHW:({0g)'FĿ%(KecNB%Gʞʷ*KJu?2	VG5չ*Yw?!k=&edXр*+!Z_.Jsؾ7EmH!<W0N&_01'PYCgfs;oYJ=ٱcLj,lqDGceRe3{dvʲzO`iIplЏ50̺6C	qJJ;+oEGUx,vэX]6[%aPl}<vfӏ$=8u.fZSQE/_QA!dW00ž\6kf :Z)ekz!5A@m{ATt2H>ֽn-b> I8jOȗǀ%!XɕD	kz~ú*4d[x+c[O}P}FEH9`OD(ñK,$CV"'њL'~	Z2c*P%w`0o{/!ʃ9hOdApdN%ÉV&H'`Q?COA}6[Õ}&b ȤOh(e&кͽ4yKS-WdaXfʼEq b!Ŀl`4e{xN?o52wDNըZ$5Z?YG?Eַ4$dFTǪ8]4ݱoʹPo'UV'IaQ2߼vAcˋa?,v4|@	Vž,4GG9TkLC	-l)!ˤA:s̃G1JidC*exx'p9-lJx̎g>cX?Еo6n;*-~FmM9vUH'z{J%t[_\==8!dE9ݢG,!|p gE^Z	Ϳݲ>REc(:E%095B/b2 ۥ<*שLn*gR4K^c}M'5pKyghlP?9?uHٶGԚE/SɗWM@\ApaiəqIՋ-$l,ҎE`g	X/&Bn<)9afh50ύ&Z|ͅni0	i֞Fk0M^MYOlb7 -jDs@F/,v2_ZLA+h`ky"2.G?n8qD]X+|jZ*cD~p̝6\Fģ_7* 1;gOIcjHéi	
 e?5OZ.dJcL5݁-fbvQ]IXphۗn!}C'L[RQPkZ~0zЙ5=5HkA}	nOЄ1].ED|Ô6!9(ݝ=L1pz\WCs7)ZcGĂ"?(`^|ɦ!/~m%ɻK*+nЌS<U}}Yti0d0>+$9&wG*I\4)ŵ֠`k,u=-dǲE7IHpxca*@oMD0Q ̲>NMkGA4N6٧.gg*vp*V8@qH;xT΋G*̐T*m?(>*U|`zu(g=*BYp3W̷vst=NMRˁ$XsK-yW&Z04]Ë6q4Z/t_ّT'}^qmJ̚3fMƵʑųu+;ķr,]ǕRp?sB9	mF@ š^Bt{i)q=ƵuKŢHԗ+tY2hxl`;GS.+\cңZiƞ-fYXLNpK <~wBXT0lZ<|Fy5f}u+|O+cMDF>XЊMbE{*XVrHEՠ"iQW$s|6gjyy`1͟J,iymfyQya>Eo(L79(h%"93p66xʩ`eP$M2V[̷MߘV-*?I̊,`Q\:udz?<]D$;Cxsc΃wߓ5Wbb(oTQEbO͕?	@lu)̛iDlGtzM00r	YaHVđG8-zr.C6L÷2*řÄ߱:E;K/'mgAXvFЮ{Y3Ɖ.b̞8YmŘɂ9e4$;Asb{SnQxoG~DE(j8oHurT<yr.yPd:(:NnKb)uoxY3MB"mЧĕT>ͅ!<-!Z,\/O.1 \G9Yփ9;laH'=9K-9syY6d\ӁJI1.(.m9bUYBC6N9'-:c'cPi>{(Waހ!\.r.C_wY,w?&*IKV`M.|yȨ@h",\X)g:z]L!>0+l i<P&dʔ/jH}Lw`P&D3MJ:ǍnRxR:^D3@"(9> |֭Wwl>A2<){8e(7$ʮYҍd~[(7A%w(^=29^W=ӊGMT:kܱĲ4	5p@E SSՍߐn/EU(5;a1jɓ+9	oԌֽ|gRv-4u"vhXcj*![4ʜ@]G7Tfv+{A:wfD^@%џ\Rmo@O5OKLEJ2sR)G_.@o;%m[PXQI3ԏKQlMoh%X!aA1),AҶԨʿr̲P/9t0U&v;)~~֐@B4{ǧ/bQz@	7*֢T}0:o܌͐n̼-oOٷ	)1*Ųr6wE̙nL'h;ݜýz1+?!W8^^hlv~&-yUW;	ʣ|6NNSltɱ15kEH_NuD%ɟ&DHAJʶFUؕ?v"&kmy:-PD	$p7m	{&I܊fo*KCB܋.PXr-}T'r;c2e-<,VpGhH_si?v/_!ǥ_f8υR;Z.̛ʕp|k1L|J-l5&ddk+	%3];k??Rb-?nx[̃If[u%۲ZQGC	'`cm({ǯZ(>=%BSHhXЍsm&.ĖW>ijGPCݒ-GِzUDpĦLedwhŇosnTrslzSh?1=ʔUdy+]~!f|ͭV{A=~YЮiwq|{QV@o{'Іɹ0l6V[Ǭ*zhS~7C:["eyċNRӹxjɾ0Z""!Iα37Q8|pRk@͟!O)z-~;*{xՎȠj+*Ý<*Ŀ!s/5K~Tzq{b p/Jql0\>ͦL	QzpP47A\sT%S	v:g&F7ĳmtNxԨsuNɾ/@${7	,_BќJu`lG 3Ɔ<t,=E?ԛuĬ"H(tMpz8KGv$gtM<YȜs5noOcOPwk5B˅Cu* n?koi7a@<ʣARm^[]}gOO~OUW,"[t21}pKW:;~6&J[R7X*cF$&<'{cqF6ԛjͫP[E^18bmC^	r׎{!E Ǵ,2mߏ)h-@%wVIA(x*e+3qެ,+(?z?a3(C~?p<ie_piWbg(;+ȹUS9ѹ{~5ڪo%O'Ñ^OugӗR$5Xou:ʾpHqvW?7&t 9;KAC+Cw0w'XWK	TaFJ"w|x5zky94B3EnA@N+V^!n@:.]9sI8pbN?O'e8hIH-cFSFݠեg2p?|j}k>oFq1zZ}cOKX{=]jar	'e7+b-6KFZ͢]̊Ԣ+q.ێpv?'aK	6eHi9]/Z%69u0ˍus?o8)>ys<΂E%*xk%U7ܛ6"SWE R!-0f~5=àEW @Agȳ+Hiu"
|A0Kw.tfvWɯ?g](wbD%p0MB`.z35zYT.ToJjhݹ<{SCmRh޽Mb602f)aJQ$ȼ'iJAJfGn*VA1ȭII\='pT5=&-t	8lkgWq35td"PL:?ժ0tDmj70-R|r'|/F%	N."TǷhRgY2y7f]uf-5W,Vȧs!Z<:&\j>ERhmV!h"odYߕ&˿73ПUY&nn;+:4?:=G9ǣDaɟ?}'~C<>tI4(bǊ۳X',xJ.80NM:2tgWi7MK iZ8{б.*;Z|	TvP_7?^.]oGQ{R~dxLU^xu<i*-ʠд1&=D`5ʥNo^Ǚg(ăD*c|7ZCTrzi!0Y[1wP÷r0=^8~]HwB5S}4%tQL+c=A0bG0JK']@/7\̱7^|:NՌ2Vp].@V ̾^^}U֏ě8C}٥FzêڛU-@Ȭ;7BGrv٥pRcwֺ6su:l;<fjzjtHU6Yv5Hdo-uÅb>=*yR5pn9	TT1{}PυώT{?H5:ʩUv=LWuCSXCs0,66YVޜS̹h}:͖u.Г6t(x\`:dSYƕ$!4>N/CRUq&ɨIfn)DcK߅c*&xCkˊuA_<2]>:e58/ϊYms	"u^ŒeB@"'(H[/&Cb8 U!ue'q0?yU L-&(fv'	mg{̾/jI$8 ,`Uw<ӲpIaymQ$zyv):?v!am.u'$Q .)u!8V?KĠ!.x7@?p%v*"Ϻ۳͜! :h2Waqz{y'UWhhvg*ӺIdgkUq-)"~ƌv$~	?	:X !U@cY5]TKY[zi[Bk$b.u2fDF79|1 (q"U11c^!8`C9h.D)S|ڴ/'/i!^Dc-7|_aGXޏEzVAZ !ƒUĆeىr[AyECׁ]fd45P}s$EoUn,8{a26d&ǨH& a1v&l=gBg):ǘ}30GV"	">Cǳ1^F%wi0>,*vilVڼݼ2Waj8V׾JOEE~Us<kc"Z8QҽD)}CO}|+FBd	'Yj`lXٯ^]zϏZİvރ|~v0nI/:6r3W<͆6-}Au$u%gK6Vpg-yðB@v1UWGǗƧB>ǣ9]×DnҚF7m(F emߛ($Rl(jx2`wS={pөP.x}Ǣ)a<̂1TqNw|g+Nb^zn_JL(lʮ+Dd0-hG\&j2D3?mocH%XV[Tqet, 	rxX!g|+̬|Gpæt)4ֳ5>X7I<).߯G* yTʻj~8bt+NtuƠCx-٠-h75os=PW`9yVqu0b-I?>~a|ܵz{	wpqױrD4nyjbK@efyxgt̠o:̀O?l{r-͋V]s@'vI9o/ܸ`]-GuX~snĕɿͨ3YBg,v$[>\UǸ=hːy3+_{Վѯ{$0gb1R{r2W'\83Qכͯn8ޮPio_J;T`$TكƕBV+'FS\(ZL2ۢo+I.f@l+XWɿM (<Ƒ;%.1ͰvÕOQ]Z9J8weqWT^|LLU,hD_Aku[	%M׸â(XsiOj	dvtˢVE97Hf	s̪)dy/LVJ-ˡM*.Yd>7ϛ;q?]<XpWepZ >0C>TFp9Vy̽4\1Ӆȹޓj4=VI[OYt=pWDgouv?&iQ7{4ӏeEc?	|,eEts phP7"{ߞ5Բ~RQ^GAnc2aƔe}E?Dq̗{!ifښ߯F~WN|+ZNлpmƛtHx0=T!3& Z>KFN&5huˀ5@E=3cǈͪw[5y@S̯pROgqV	@H۔8?IrrT+):-Yq{PͮJP~C`S\YCe;,ّ!BA3sDe65rKuk;xoJh6Vq]md-WӕB7+E4J -tg0;yv)K_uͅm	L0^̱@ZI^dE-a~$ϝuj<RQYjů֌JKŘ1HaVmr]Lda.-r48eLi`wQCH,TKS_XWXf`\U2փAmsSb\!2P'>i3!ErzĕƉBM \!=<N]"!z	Iu)Xg0Bl[}*_GB+f%/N,foPg&uZaYobR52ÍCSwuT? Ml_uƇq	bCL
i(ؖV.0'H^0EbWO3˫/J92-ɬ^[~|!&7̕>.Ơkݪ.k`LHw_̂Rc)-[Zo'ooyiZ N;ͷj(uY%Kcν"+.7Q4ze'ȹ_v5+fҌ%oǻr]Zz{,+oo,"h	aX3ՙS3~j5*Rv*f(fs=%k6?wYn(pEٯq7<8Ij8Xjط)9th8XzmEPYG0-fp-r(VMjx%ы5?z/.w`ǧf3iBIBKեxƳbHEʁ\3>6hc_&PXl}$1{0ѣ~LOytg+32}rB<o3*B|M٢YZLV0ǋE;ԅmt-"΀j̠mg5,}gm.'5?:}ͨ*!*@mw\8=[8'ǼdYEԀW_ߑ	%kċ|%mˆ>\5k-A4-&ޥUa=-	O7q^>"Xٙ|J.k(Uʞ43`zDX@8b~68F0Cҧ<q[mB'Tu Hsr	UA)atn18BF]َh|j4FaߓbؗIm'nc14VM.N!߾.5Vs7W%VS1ŗ[iHk>>Q3gb}!|!;rVvtZڝK8wEc9NO4lxmYhgH*]FjU$!m:O{hѝs.[JX/^ݑvx);<L1{&NHY3O6(ȝDo؉/YgwE)̏!{OU[V 40Dΐym3M1Zȱ`2ΖD1$z01wJdLJIB\7ԃKfZJH֘Vl@L8vDQLaOs|Bg>S=0Q'cKم.VK3^60^&(Uz]Df3.CcС+Ҝ}	UB2q1`>@K*a|i3^cƻ>NL1~cGIr@	D<xw܇ǺDÉֶDK٣r|ʋnbl9K͍NCE?Hw[Aw%ѵǗ q h.kHc k1;d՜oL!cxVuWhOUjg4!]5U_8S˘B+rCN*84dd*ZIL?S0fh7	ݎz̯fa}:*`mw̱̗-i7h2-b%Zu(\g*Z8,h7PqMxѥZɀBVSV~3F3jHz+s:Tŋgƕzʻv'{t|KCFN|^ɟ'	>H3j$.A9F	UF*H}n<Z07BM K>:1LF2Pw=̯b|~(Vd%\wTUʾ0>ܾ̩g!(iq%_<'ʑfI%tӹ"D|aJb.!g7I<b<G+rK$ud0%JvѴ}Tĸ!Zj|AȊF'd?;a'uΒS0$fwPŖ>`s(4%XhV*}jŁJa9h&X)Y-3ϔp})TQRy8 koCsCf)Լub7UD||<\`B'v}}.&ENH>Vc&2@Nz2prm[s `xسp&Jf{Uʳ}P!AYM/a`Pt^L*1uS*|lvE*q%(\ZGP8e&VuMwvVAQ8w-Ga@cE-ї6s	+Z(4! C4[E57jʚN-1Q0lA.FijvuSR]r!._eo"Ѯ/UCx?8$<8jfs0aŖ5ggtV<^Qe6^N~?2<5yC-ļH}M>Do1Ive0u~$G7G@x+gE0FY@Ï${-@\wFYu]kM3u65cf38l3>%pŬʫ~ Pn^@,Ւ03qJ8A=c~$X{)cH,,8);aU8ܟj ۺQEҼ,TPwqtSCvћ:<w}=d@PK^Ozevݲ*ef7]&zِ%vx<ZwHt""Rw Yn߇JОPħ6m)Һ Ft`͑UŤ1mcYU"'xY/:Mi~D	 lݾghvjuc	S&pX٘4sJΦe($s>QJp'cunmZ2(&PHXE~hi>43Pژ̋CXIĚ7QY6MT^Tl:fޑU{nU,\SZs[iy)g6R1z[S>xA92ʐ9xPVo0O]^.fYi݀:m̂XJm9ǃr67)av+*eDŻoA-Sz0YOB,7|\S7<uI]/q!QuFd̬	dJI'&PdʏQvͮ۬- 6/]0^պͧu\a^bcmAЛ(+ͦĢc755Ư^RKz7;d},sF'̬4;z̙X(gn:ƕzx}Ely&fNmGv:`*e,3ۜd&f=~geF6hj$xf	!W6$QEĬg	w:uG-*k*k҆t}jF*uXvRHWR]g4_(FMzJ4΀41Rڰ3JeM/iNOTVx4]ӱ79݉.}~I}~WawX>}qjYbED9hYEn:_8^t MP?Q>W0X/V4FłKs6r`&z%JD8I&FIBdqr"(Vw*^(R;ܡqEʚą*ʖV
԰	gßDCSg1SMp c7(hah0HpDޕ`6ˊ_<xU9N{ZӑX@7C0`{CEpm?!Sx}S^<EwCH-O[zpZIΣj8\T~As>-9g@e[dLwśrEr6d*\m4aOCݖQEn\zfʥxi\~$ۏk<"7t!]&w(hC!>F@܎y%$.tk|y89&`@rtEӃN!Nw6+|\	%zeͲ"IT]W+M*LAH8?Ê5hǅFX0*;P:&VH[΢	$ 2nx$5,RBȐND ʀŬb65qN.>yBW4ߦÖ~{?H,iǴFʒ$0V?kKQN&CN4N/p0p?naI6uc3?Kq:ՆV	yҩ)`hF7Ť>WTMxP!|(dfWkLq$ΖΔfG8oB6){k׮PE=Q/+$-DDȓyk[ƋIg^6nw?!Ɋ՟(	mb>7nq9]˅5EG	[1{خ!e-[sy?+m>_Ȟ:m)Y(Ưdct\p7Ǝ%ǹq ?˽r̪owm\cam)(-4Σu9z'c؟!M/doJYhONX)',mvP={CK|csYh]XQ%ND^$J}ׅ4y/%./ׇ3w7M(0[533ND?oy[>L{?X}$[f'h sYRNL8Jaj~sn	jۙ$;ߪ~/3HdBPe΁+)Z*pbS0:ÆWzo]>[J%ThŸ_~pKdbfQeVO2HS,q|2CӋHrV5'"Dk ދGflpjЯHB+@vՆj߅9n:0г{סAY؎%2,P۽Omf{	r{;${V&g1[1k-h~͈2?Sl;X`X6"ūT[E|xG_n@ݑ)P\Qj,GG}6"]T<R?HuA,',`lq(Sg-X|2IfiJ	:M]YYG×cʏM(iig{=!f+$'/F'"'+fXģA-kU{0LqP0W~:D'9֑:QZ\9b4wHk`Хe~S&1[)>D_lQV46no="R"t]9?dsP%27:BebT{R*?<m^8 >n;q6P.ǃAokc$iΉ3\Ķ$"Xnɂzv kḇgtOnB(3FJ<i\M2R$O$ZR>0[vq=^9}7z:(B$o5ȳylq(e$/'xeP:'.@fJ}||ɜ{0Z1|f.9.F/`/Lr+*`?snXn?нsh64ِR 6WbyMNLy>Ilw\;yx'tY'J5YA{̂Q;0<N'=W9F2y[\FXLŪͦ0aS/^dpكWT Ɗ^vB?fODVv@UO~=yOg|hxTuZy~ŏz(VV[.DinXْ$U|;	up̨^_P7Jl^ËДy^ÃHk+x>hØPC.K1lG2|T9tQWʇ4FJu3Չ6q:ğt	iW6cDXG)ibANWw|>!.pfT?F)rzcʽ	`:k5Y}Rw qYv&-qnWƗH;v6Y2fQ\WaYWIP,?C?Ǐ2@QvTx:Ce0ڌًmR1ȟHe]dLOl'|+޾k	)nk_@GAMg;IdHQ='h]6[}$u{8ud(Y<i`a-c{'5aqfzeJɪ .77WУ˼`x@viQT?٣e5dC&}vWd0EX*hm]g!X4%"͏p/X͊6}~6tkOoCHg.˫X/?=M?rX˧Pl9gP%Vurҙ!6 bWVj!~pt&]2\;ONr3;6(F}H`iGHEئ~`'*/_Uf-	DlR}nU[6J;B|rzXb (MZPSHOz?qi?>-Ȝ0WEXjvL7 MM<0ÒHiaŜK6f&9],bcQàa WzT͍m?>ȿ/д86oÍROq:گWJ0B:lOcYqoDw=ñ̡ys!Ԍ~G;A+Cbg`.%`1|~{vt]U=ݓ"nu$c҂ģK-ƛ=֪Fcz=Yk*hhNiŀ@L:V\I%լå	ARlCabR Q_W@ߟ?jl4!oDӎ*ZnW><HbA[szm.\~g.1u/lՆ@RɈ<oza~(}4s3A5̆aeOT+r%Ix+HMQ@FܜʸDV!"v˛y}v6{2hZ0FlIv0kC*>/|<\\SRk]^$_WR8J9paV`:2Voď6IBCp%!QeRQJbjt!u)ltȧƥނXkٵCG̦UQ%}\Af;KFƷS(i>@O61n~mkmg]i=vԞ1ɡo׃30iAj/Xrjml6@(֔oSk@iK)S9żu
IYPB5K=Uī4>sN^A5{g>4v[Op~Ϳ%=F5!O1\;@9DsVV=a|)wʏRL̢V>NƄ+Qx!qj?;h\|!ڣf`A"gUd i&3czntS96<hrJy,NAsM<{a*wdĖ<7g/P,b~DÒī(D{IwrCp,dA@VnS{71	+[ԟx(UuyNr9ƙ̚LBl;;.ܾGTwBoCy)=0 7M8+'.0Zs\9ɷRAu`||N$<H-p}p'"JYiJ&hp{І9}aduv<0j͇P3ך=Oqnz7v\PJ7,@8S)Zt@$$YZqyS& "oi)<o`zj[`fI.3j&TE|ȵ,JZ.)Tsg3YyH!JVJ5{uUb)"8̴4ɋE~$@:B9T6H4YMXsmM4՛p"QL&lh"f{3K.;	h=ռ:(͗$"jr)n%cG5Dc6:м SʎߜI%oƚP.];urk`'iu p$D?*Kb{4<b3R^H)ygODSxlar_=~ΙňT3.YR`_OJ^07b	(Ex_]J>ok@t>PSG{-6ԐZ,EU	 M-6ޖƩM5GEQSLQjm]RaY@ѻKr^ޘUdy?k}|p8piCՄGJzȓDH8MP/3wֈKCW&Ux6<_fe<ouC|>CP:%^0ZOe} UsN'iGa8Gs&cSMʷeV4a1KWt"e;uiD%K8xD ƻO_tص "n%f8.D<'pgDŧcXS"	3Ź8EO	1A!X$&ZԸbYntpP1^\>>+mʠŏ9^<3"jO{@v!HC֣%"b*fChe̃gȑ_Pf~~oV93UGjunڒ^FM[8S>D\vTd^`ebFpr5>GZƧ,BNӽDi)ƜT+3UOIC,h>e١BSң{91FN(iɲ%8I>N&Thşl7_QIu3eFve7+iK>{4+6ccCܟ1v8}ME2+}qJʃKqd_9~st}PbiȀɢ2!ŤjluJP6Ž4/(7ƥ^Ru&OV*_*ZCPYu+>=b@z[N(olA/h<.lF}Ӝ\/Ķc>,VSƨAv݆{JfccK}_}<$1i}'/uu@D̴&5boe=DpKA5ߛ[3Ra+ެsr7B^Oo-zQN-v݃"`azx.kjǤTiPoR6~pa%lkFG,KЩ]$*!)QڥnVgrP.Vk3C%H^ϧ)؈~0@@9/ج"+AQn4N'pـ7Tv<=||0?~{h=Ʋ4HsBC&>6N38g3K=\*~^ːBjuQ?u}0A42 )JHh1rTtء_w0Rՠ!n}0U!!~d5jOmeV7;M4<+]-EBwk78.`vf}ʅp,h	/L5͎j%uv	|yh) YâZPJi;%ûpaiG%;jv>\ڐLpkOlə`7K@EcKN\π3<oQA=>%T '(2/ęoDâ7"x$w;bvɆ~.XK%9U&6H-Ј	*\&tu>à!:V(ƥ[dYK=)CͽOJhO'NBz)xnMml`݋(-HGa|/T+Yd[9ҫޮ}cNp,MK'`(irG9lTS%U ս3k]vsxB"z4}ps& gzB\34JN %,~9Cmo}"BjwhyۻG˭K$lʧPiåE.e3TuPA44W"h`EY4%0'g^K=Y̒2]r&b*%Qu	NC\&ųuE͐N5PT@Dhɲ9ʹԗϢ+x.Ҡeurn<Q@,Ģĺ|9i٥ d~Kg:[DeZ%d\4XòɰHD$i3`&3<KQx_`(d0_2GƋEN,5֫"%u%Ħ3f'Z%KrMnKJJP0]Qǒyuݾ;ͻb\w4zǯQ?JPǥJ%Kd5]lX3ȯ5%%4!ոnkJlu4($|BFoVܜDտ2~Ӷ8Y:+4vd3dgϩPN=P]7E(7AwHQ12z-λ"Ư	Ldgo]qECO:G=i}MvwM`P;2'^Ȋ!8CaY+-p'B'Ղ׍eͤ!pz>iLsV$PwmߪʹѸo!s?vfgC{i>xE=u7&IQZ*?%Eb7wa۹n9mm/D@rO Ask,QT1	ޱ>PvDvVN>E7DFhs!} r>3)9[Н	PuCsCRtnp6$n1pR9)ܲ((2m<[Zsۗؓ^)?t1BsgKm"Y̌o
*,TǌЛ|s*o8n3wDqTgC`;"BozEYgU͈	I9o/Q`;7VԭP]0Ú"swլ.XXCRWܵ$/oǠaa$7ޅ/Ĉ]FvV?"ݵRC!/wqimDiXTĐ{eGCK"y5r+UeCtl|h8{*f>yT{5ob+';+-sUOG;pKwI~p3v4jsiAKxFyURi!SEx-@Za+(Z0_Yp+kL7'zkRTBVى~gpîɓ0N-aSAyʞ4+$6Y)O?9yӀXFfz	٨B2'46&r~ob|y@]"-26z8a0cm7]ӧi<.,ڎA90?L}ƨZĔȼ4hTi_s%!4> aZ3g<)xޥv y3C|j:ӏuFesw,n=,[	)^LWɸ*9Hu2dZp9"1cש{uL@m-\aM0;U:c%KN@@ttw[>N/gͮ/|@)';ʳ	x׶8_xAYdu&&ɘځʭ(PPr??"wgf'ez4-jF6Ox^<>1D&*)sQy\\*:vN@Cbs=2Pƚ@:/vi'΃aC58>H=ɟ&JIŜ.:t7;N&fǈi*Ȗ5ťNX"B̒yujGe|Dj?./?xDfu2@K@)Ir	@;x;9mxts$pOIeFG_	qw*&z˛GӔhߋB@?7FHr5d>}2OΓ* 	֠HMDe%LɅU8"4{b||!r$4X\!YL/\ʘl`15ffo0n;&gj)ƅ)">FNʹtnU$Otĵ5H1//ww{wbɒ=Y\	xo?Spm1U"ԓȥo0yf?ՌpcͿL+tԇB8:Tـ|mTP@B{ȚЁZ&xb٠%֟XmMZvW	(=U-UF5ilAZJU ^?BA8bi/e0ʽ5Ǹi_O.vtߢTG@EpߕcCjU?{\`GAsuK%	dPp6_Jt.,H++M\/ٟZ}]NCy'RUZ7[Ƨ۟9S;{5[z~xт	'7,!NqPUn Jc]pn 6ؙ!Dnf^`D2pl{ڐH!!p:Nco=s؊۸hۨ>6n9P4ʨ17ɹĺV; W%BnA˒͠_S<>',|p&R*җڡl`d-wB+M\͟{EB4.i3g`?=PνIߖŘF;ro(qSziHz<s)ۺ%I.+B<^q3},$`sS0aFġ(/jA+;,DE4Xc)7]]|c5Ŵ~IH):/B^ڵa`Y4o'U|CfY~K!9-MAP SEΠjGQԱ8U"$xe@+=DǷ9gLj*օxI"3(tp%^s~w8FQe{T4L%\c1bCV K^l٨L:+cgTUi2~<K͞$le,>g*B&z74,xDxH0c ;vF*xÅȜ>=qh"6̛;.}|WDJd2y_т;+ZR}$kgmLc,>c)zJ52uڰS>}7Zu=/cך'5SR$=YnDjĕS,UƤ]1	=ԑ.RϽR`*ޛrxC"aȨU'`IgGO+xݛm7JSiu)"qb~zo-ɫh1ʐ.~|݌ԣ``ܜEjkuM0&	%[̈́n-[$H=Ɨ9އ69b	:Y PJ0FlYv7˪N^)&Z%	5/Tj"B-:̈́À*2yTd9M`V=$Dyf"p4^k6I&7͋$lQ<Ȣ":ŏзl:C}v.kfKCMj.VXGǈ'_mp1ԀoQ*2JW	Lۀc(:ArKOY7,^f;3QRF~J'/`X>{5'/ghHMd+R4W4]X4f0|/͏{dl{_̫/*;PzzgS3AY*i, ˨XbKh"GOɩȂDf)P0$+Ӵ՛R2ȕl;qica!T)\~7դ`NݯYHACUԐaBpVdB_QF_piC$$R-~IRIq(8v΀|NW]!k_~L17%Ǒlt*Ƒ(5$*`Ψ!R5ykɈ ?aJ3[aM?ѧvGuc,yC|GUd' M;|߻ER!h/^kXG|']n5cי\}n8>]IŹ~<Jʟ1P;@&jÜVٲGja%lUeb˶ÎunoՅ!8dP%ĕ,BXye@B^%L9~t1ůX~d-K˙a++j83R[(a4Y׿HA&r}.2Tnϒ$CG.A:ZhQxtW3@ÃӞɚE	}&KB&ihȾ=yʖيΪeN^h.zhg>PSc!V	l݄`˛cTLi,0C68;pTQ'1GQk^*AIc7l$\n.̽,<M<Jè*\L~F<.Æʱk8ߒNˎk5ҩD˅\0~BJI|UB
S۽qǑ FީZQNdM*?~aT|KWcG̳"ǘiQjJ0Fƨg|R	&Kxko[7Fx˟$M;wE.Jv1v-|zQ8d>R:kKJI51vq<|X9:!uHyDRMr|]KwXLj7U1yS̲4H,nM]ǔelb !B?8G9H80)z|&"}f:*d3,Japg%u?zǻ*]p(aM|x(~.>|XE=u4>I'OбޗK4EuSU`P8Vx,k{sRbY,Y	əY0\frc1(gh(qLҵxw1h͙5T18>˹%TnwfAHi<G49cD]4kMdmYUEX\Ͽr*jR6pe˶M6'w%ie5"F*R߂s:PhPF<b4r77x)Ny;WXSޅU</esXlx/Zv5d\|9M6F-y9fQ7HK(@gĉaW̘a@=7>D5dn{:!mo!AR<A=e;C|@ec6fpX8HJX2fϳbè%˓wt"Pt̵\Z|(k&8LWuk-ɐG;k4!;rޜpy*EM4-=jƦ	'PȖ̼E4i"]X'4z5Vzk4o`i=Ѩ$zG(]$^KNJmvDx]9Oq'<@%Lϫ]W6j*p<gl({WYTyHlVҷ}6Rژc]N]ߋde]ZisV[6U;:14ŋL{n|	8ymYuU\?e>[6s=ITCnTb};\RaoWx;.`BGZ	:=yɝɁ<j=F+2ݴ/o7@WƹҮ/g?`2Nh.;xƣ`-:mYsMAǥ m7NI&U3sroz:^iu'=ʞ	VAR~|Ft	M^8'gh5ˢ>9 .]/T*77=ASp/="vNfEt@GtĚ+Hx˦&-&Q=R`åR-L(gMRpƖӐz7Vq؆s	tC	sxe"B ǰ3][bfܗ1'qr$fOё;I(.>.2J-"Dl4d-̕j6A5ɏ=d3IwɅ΃mԯ;nuLOP%|(^/zI	lndax˨c=Cz-lnO(':O} W]9:\\zX`f]я}Ȥ*pZB!&LmLEG=R_HuQ*(A$=֠Z`\qpbIIcCġ*,zVJ;GMI{-HAйo 7ִZse5qE1OR&LRw&oĒ[̧fq=45_H=yvh/[WJhIoxPԊ+y{wWs^!+zBi<'DG4d%֜p̠zmCYX@jRUS}CXu>ج9ؖeӻ2ssB$"^rC֐E ZSzuuöƕ^;|ccۼV{ˑjxWAQlr?f٨-A\xMw,kUOQbyaH*q2iT]]JR>vCA9t[b{5llPKA{'%%'+gx=E$$t')ϲo}	KG/Ru*h%ɗ609$zkIa6j]pzz+NNPĩŲwj1d×-)92ZwlE S,q[m̹h^?4,0.]v:}j2(gMQ٩<jÁ Fb6b!"މd8Iv8f.c8y0|Ư,GVT}l	x,FjS 5e'Kɿa/^@s%sd3k=3[x=̵/G*U$<6/ǭb]Dr 15<$<BWr:Z^*A֕ĴЌeָ*Y-pѸ=	NVVQk·_rfGP!/'Fm@fsPF~=mT)ÌUzP~X)y^><~;*|fi*v3sߓ2n3*c|XXGɗ3$<CN~5D|OsW[6=,rO90׽{[vARC̖rN@ِhm~tT	v}gM/$a~h@+RVDiPO(ˉؓn!y=ww2MW0'YrgJo5<@>ȜɜW1]ܝçٰb`RouXQL?.p׊vzZK$ìƕ>pʃJ8Y=1HMmT4ga$ٹQ.FԦVz,=z=&OmЕvmm0y}s7>pc^zX<=Bԋ2_ϼXځHc7G(129Q'T9&7D*vǮ]3hAK1;o̰x~Ӕ*dKB["d	U0 /Q9;y?eR34h2H@.)%r{Z:TGsw[~!&w?ŏ1׫?_dpCV]k_ :1`KgN-O!Ԝ^Oqns.M͑%V/bez?0_H`kpźJyzO ˅v@O?c`bhq=bFOlgɿřL875NłݪɵNi|GXs{aP\߃VNF܈VBef*(cd<a*[tرfhLQaV49ѡ2wCeF|%ĖkAn'b-]^@6y<^>eTvÊEFgCv+}fZE+ qO={<iG΃kh׉5Qe'- @{aB EK>ңX2J};yO`[0ogg*rry79Eu"Y!ųNwLQH{>p`UsNctUM0m
ҟBQ<VKԸ7~bV5NXK5ՏeÉ[W8MrlG57wǴ۹Dޢ~Gϫ}CF̮d);/==M;E	AϊI`;V%*;yT>J0vUpF!27ҀTuZmJ7*ub"QKd?	9	1vhֲ?Ы\׋%2H}-5z@C[igFʍS?iߖ/lR>g.$Ń g9gpFw_|E5z(7@h>ߴq}EDf([QN%|QphqCS4/@~DhUʣgŪ8{@pcnNe.5U8_rJ|K&Fm " XPCI!Feʻi hٚz+t5N;-<}҂A_nǚ/J޺NȈ*ơ?0O}L('*daes5@M;nOHY'AiK2rWxxMPrcF/nw7NfLyEfCʔ`w",ygvXZg@*Iuf'm<H2jX^Cm mAqS'yLqފXR)Ƕ[&*`f5+g[:G,=˞,`:<s"aȨ5M{,	ż=HA:-H=R@Q0͔n0!JxQ'?j[̛}HhVE~6l'BB\=_+MXbld\FǗvb˲+HEoĔ;иmT0*jd9e<ǣdq}&_bZ{ra}$%^ͣUUt%Q!u6%˜fn0D4pߩ~s<sFLmpZP>ڳ9Ns%"xQ	^=	K{˶)V0.=Dd;)	MKԹ֣oTI]߲)sbX-'s:Ko$ǣ@h~aG<3Cʝe`i6.5X}At+z?;56.J,S&^hT1͛3APM˗ϸ5Ǿ`semԵw~6ME3C`fmE=/SrT!{^;~Ϛ0Ү1iAOSO"&_gNȊ-DYvqDwW7bo"d/wPeɂBKnVSƕ.SkWCJ3r͙`iʕͦJ˧=EdrN YR<jiA}	o>\!K5\`vMx9߁jA M!PuYDjGyXr]ܞޕvũ>a͗%C*nP;x*0|f~(c2Ĩc6OSʻ8Ù˨"` ^)+pmzХ'CXx\<4DG@E>5s`eKĳ+g'[m_,9]@b1;;XxO.Mmǔ9"@{ϥ_D[qʆh)tZ3Pi"	)Z ;]=*HAX	˼Ť)&|L7?1d./P+ֻm$qNsdWji4c	iIfWzmk)-C8^L̂++D({Uo}ͦsqDTE'g_H2<p][,VF&Ao?dzvdY(Sk=rpj9M"!L4gCp(ڞ`[ɖp*s۸9|qhkI}9QͿH516avd4nl<[Č)ӏTl(S11xKeJ*ԭ\B5@p͑qKnEk&u^P$2^'*?dRVi?ƋcvV;tAYیKDaX7U	>HGfΏcl}ReR	<'ȤVaPqdq/R_;>oK^F;c-l?d=''*I?W}zޱM"Ik%ϿquLt(6QqseFz+M_pR7͍)Q]hZXAw-;ÈE"+~*[.;`$%DbQFðEf}94\pUFd;ҋsVOFy `b|?<2͆NzGš}'KXSzڳXƔߍ>og\/˂hNȥUy͕z$ø@.s-[<ޓ*[ВzM	9~~fif_}wYFGNO]&uÂY_hw1 VRA _N <4nȐ>ğ$he	^͂nhöa[ؖ ѹj,}T1T߻$lU69dz4(]8k9=ư;Y|Uܳ>ђś%A?QiMc(%Zb֕%x]%˻j0633ftp߆*)N,N)ǿop;whڵu-Jߍk?)'aElėF"mʝgBDils|Uk\7>O@fB:t?.!Ԉ.X9dޢX\n2:mG8cBch:f˽oT5vR>DnHYIl͝]}ߊ6bInɹ D?7Ch~Zt~f5^e6;kq$;EH~INѨeʐ1/9za4_YKS$UlH$[|T1<xC>DB`s0WQ!˝}l1f/0<y'U :Yhi	"ߘCcT?=Ov9KTW7VKN%pE*A|@$Hg0dVA?9%Z,ʩ}.ڃm.lfq}e}HwݖdtkE8Ls(h3YA+2rvfuWxGiK@T(zLݑ(@AJ4_fG}3agȱ8;/-UZ,8xI).+|{D|X%!<KUp	RdglpCoxe:1!a55lWX*SB]KX%AnRB|Bi^=0M=/~ڜd\giǙD`TXsZ;_{IƄ$rSeD7p/l(ϋ]Ê;~&+ٳs&I{kU]*38h*IWZ@7F^ګ-Axw27sc!^XܔccIb[CJ-;7&&K&nZj^:m:%}BmV1
A9H+ʙ;X͂H^܊]i.*=Њ*9?2]G[hPo.eHaE^se1L\uyz^.NXF9=RM-Ked)K)DoLZp,drձY&vd?Yǽ>KB%ˊDz5 ޛТ(Y47MQL>2yVHpJvmB)ʊ:NM+<>hV>^;qݠ1YF@Uף{xbāB}p2^Q&dΫy%h	)M2gN,oWVV0$egC1_ҟVG{vYQ.ylmRĔR+Ҝy%P	S)U?Hƪ=' 7(wDȲ9ZRl[~i:qOr%X'Rl*6=yְ_uڠw6>j_L{Y%L&ә=H1VSdɋ(cuiE^Kg,-v[?O/CCGoз-.YEHV$2W2f^ٞ$Jƽ/7yI4aۄ͞1AxDbs{=\BMR_-RMXȸa,O+kr0,wD19}܎ZchX4SGJKߑ;1aoAl;q<՞0\cAEck9`4X<!у!	t-W0=P,=HG%:J@Fr2ǖ̸8p[^9ADd[*ժNKݒݻk5K)0Xo[iVʋAhJ}k@K^)$1i)Gof@1[e2::LXu[r[ܾj8!hޝ]? L{8|6myīE,1z&ƄKs"7߳	M@{r]DV@ٴVn7Q|ϊͥ8Uy0%3(Yڃ6P:O/S$*sjS8\J4yŪb<$dg͞(ʀ*8A|9UC3Fڴs~gb	=ӧO_{é\Df	;QUa,FB*0/s(8fbAsJt͋kVvwGDrh˹iJװg;ނMWtb|AQPCcJseQzc'-_̾^Y3)Kإۨ7cDq@~]^!`]nѣ:X9L7bDlĨߙ5|@&rpa=ģ@AT!er!KW45tVoTܐ3c2&KDE4FMP;/-dMOx=e Ov/΄lI"te\)t4'\},vE5L 3B5he$n3W]UCEKt}2|[ypd8~hImyAMgϼޜB=t^(Gt=v:}Vff!mʰ 5xP%g8~oe}7PGOHA,ʨF_(Fwj|Y$ޱMʺF/	owJ@Wiʖ[w3c|I`ޮ_1ʸYmqsYSv|:;y&0=$mEh7dD.~~bߤv]R		Әqsk*g*%&oo]3K_WK7tǙJ}oWwupT?ufRnNכp~$O1)E)g+l_['	aa2*NWT7ؤgs9ǺuŚٝU֗5{n^YrhQi\gȶhc@?N9%vHRȉH!Eȧ:ŦKh7i>|nT{	kӬ1DП/W$Rܔ UgyQR6|]F8] ?De Uޮ ~ETBńU$9_G&_{3s?̂52֝SƅǻȷT)ȑ+8͆oWƳzHxnGiW]O85X"HGD6S|7խK,PCRǤLBqrRGf::C;_|МY&4,݌.TXE'S`Ȟ5B|ldJ>&00RܼIW֐8AcJ]hs0|ˈa9UNmdkYS[ɢTUwқnI&8!Es3e`;_j۪2 r`?0g7	OūJ+nSЄSZWbY{:V[1Gm̏ɹ|"hkՎΝB2TͯqRUEʨFǭė*2Cn{VR[NC=%3|8$ґ) m7fAF\ʶlbŋ63UJ[yf`OOUqps}=YO|dQnXNjǤs=5?=Uˋhgp'4JQByёcs6.SZAe=h'!Lǹԫ"0Dlƍs9iLvt_~zj0n&+LNgЗ~ )Z~]cS!o:Xޭ<V	}"})H4,BM?MS925brf7Pp+TcV`mz(w5ԤTp4tnSPyu'Ph}*ǯѼc675e1CO[{fS3{dيaH k;қ3!fpoM_-YbbG\="C۞QHR:ԡ>d*zd@;!tEKO=r?@Lċk/.ϟ<9wNd)RȲP2Sh}ˤy,@mOK5ÓCŢ9~.;+tT"UD3i9a,&VՎa@V Rk0Wds_0m&u	f*egE52R+U|v֜)ZM!r;zakQQ7uYabieiLvgTaʻi>@bG:?ţ>9z!gߥ~Gl,O.`ovHd6ٝc<e4M27{ج`@قntXu>e\{&GFskjҀ'RIFmgڂTX[_:rw\Q8h΄]FYv1-Z4?	S߀zd+'D4:K$M/!/(aϚ\d<!ce,YoRxZspg(PMA)'ha7>6P`bAHY>z.%-07NiMC1ޒBP[Qt(ȷ<hS21B+"nF&.gS?ǻ(ԷGkhdyP)Y
Pk[[D2}W^<&8{DY<JRd-qy[Glby6]YPDI\%"-?_DHWM<[":[ɰwA+u1bPzȬC*NejPvQ؇kNg1ѿg"C_(Dp]S29~MUFĻŋ?ޥBvOILK+vkv3soB*xIWtʧշUM:4iJMŠjQ]\sN^%N?6;\Kn,u0nwkh|8]SR&	nTǃqq6W$NmG3ZFG04Hr̥ǮYrDqbzhK=XyRTkTnYh^ic$N(*-7vie =ȊPU31EI7%ХmzM=?"zSx<.O(rD٥ad=i-lCaXŀW}ZI=*sOu$	φv\6./:FVw|>])Ĵ	6[b{jõ}w?}2ho׆ۋh87F-rf-g0`-XqRx+,SF)!U|7ׅd+	n.orTj~rz]n܍T0Rb3RvS:e^n2Ozԣ3UpԶENÌVTUpVBnc,3Èȫx`|2jNnn8gU^=%vih&cJbF z'R>WPPlrpVz!rnHi0$I4f4hh:I%\[K! 2{!cn;RG+y@.}Tu]Jң2ٚh|DOD5ř*2ZՅY"ߜϿ@47lL/׬B&4%ƄjB"e|icHNV[8~lnw7r-sLՎϣbK+eWm1"x]Uĵn4gZ];Ɨ=-۸*o,dف=15	{\6Z}r3ArN8$4עw<?ъ"7}@uHc2L;QA:AD|[I\>xTZ[5$ǜ\6/69xU18ƞG?.;.eŉ@9CsYXO $1F5E9ױjlpN$rP@*eoJ8ʆ34@C-'JLb(le<SyX3[P<r^fʛpSҐ&w<{ŢV:\Ewв!W-=ωć>P'5RHGuhQ9cXEɿZim1baq@FV.g(sWedjKFdۀ^G^ؑ?8Y\iǊe-%1/uQxW15rU%۫Y1hzB,\L[L&hG	w=g+K`%;4*A_@s~zn>ZXQ/*@{jZ˸.{Gz@DT XN7O74տ`;y'$<^LXCde lʩXWOy/4/|!ƛo{icB/	}wMDDN*W&|Ƒoțy_5͹hDeZJAI&TQ:+Ysu_6/L%MEuxA>~Amː$ܡy38Jjt8Z]	`\_-ǅS[^ٜDiy~(2.К"-.Ya:k/Ri^uo=6nI.&d~ٴp]-֞	^j2o8u)i۾;Ș^iusHhŢϽ9e&1Vb5ȗ.XjV!kKuPS[$,{6P33!op&9CYeO֑/ht"vIVfͣK_6^Wg*?4H"ydyalkD*k %.-u&ӞX;"D"IXZ9hk7	?qkGl2yqΠl͸U[̰E{cx)@;]`.OzKޕa<Zt @&`BʂݿU+-h@SQ(S/L͊{@ŹpƻАjf=f߯j[ЩdV͘ 8J*=ltT,IO]l{ƚB_0n%	ƅwo-q^ФUo/H(1>iӊ.Fzfox6<~8џ6ď wЬFPdUȼȚU<g$fFXƱ(v[ɅGMoFnnfdufc/ka1ȅ־˚Ύ9Zj(ĥtR}HW%$4ljt-RaOm'aT/Sg@Qħ*`B*@7fNYGqMXb%$XD:ϻ"üo$,?Z`vLabP`h'H<Λcڒ9'Dk|K-ŴVe+PbZn<n)(;G&zgeM"3sM9mFĸ/DͧExk!b]E{ I̉un/Z!ja:RˎBiӶ:&_gΓ$t&d)ąoD'qpx]ˤ"+wu̵_XE=}\}@VE}n7q/ʯz[J~*GتXXW!MZC^D)v[=P	q[^ݰ$[H;Ҿ	j	Ml^|Zvך?XSBF%}f3;ya6	BD9=TqĤj8x4u<;%1]woK eBD4GqGd~RgNlnHڤn!1wi̕dB҂T5'GF{j]kA>vdʠP/ҟ^"Z/?	Ob!nFxÉXwdy_U?Rƞ	O)4Xa3|O'8vVűs.~DL^P*HOQju[d+Āx]ȜdbZ8+`^=H Y9EB:}-ĜnH>_='sb.ZHBFcqhڔ!oEchpacbqy|vhŇ)?9VKg;Mքז);[sIY@őG}fIdD	+'6ś+3'n!̨1LT4v5h3ߧʑoI>@T0oTЛh!ԞzMf~ǶuiSƩ!)9itM:$al)qSuGfcTҏ).X-
Mvy8]L0]KTuL}kFyA/~Ʒl>El>ux`E2D<ت)O\UIHΞe<y:˵9sXgSWfoD(xoĬGCN_1*b3MxHx5W۠`6Hwga$D3sɶFuUZR0֔P&X,+z>;to]i9F4o'b"Κ^|*Qȁ;X[PvU*~ٯ?ХkqTs2_~P̾J )O|;[pQg{yVΠ`m7SYw.Ef:8l[i''0,JK"Sء+CGaPef`D9k_>ʾ0v?'~whfbRMYXS,GW<cF)کW<!zVS:٦1QXVk4!m+J"$A.03C?yd4WP"9dUriJ,TΒ͡A&oʠM	]0qW6S eX$1f+3v@pI3X\KisL7Ǆ;1AN!B\0 [)ff\j9$yUrrx٧v%0:NITi?D1Uvӑ8e/(e//J!h"]hJD. w+?3Z!TWf&<+uD;N~1.)S~YԂ"M~J}Oˡ8@Ԙ_*+oi-;ȍϐ"D	+sc'<1WnmKDs&dT"Chr[NbolrcGcQNd!z6(*133hZZ;ޓ)OD'ti=&5}8!Zt?xY}U+OλDi-,&*pYNpeлW:CigЮWsAqpłV|FP.v։"be_"j_IFvt=Wcd|v\mJ/|40K'xT%˷da݉R~USRfKkk~W|żtl*h)e5^6ej.1xc]stɍ_b.L;*}q|oӚRARBoTnkfkF̳{[6OؙgW])h.N6^yJqJ8Y.MWi|hĸeUX^j({WV<L~FQjSZj&:d(ly+N+m"-$EeztIޓ?-QЗDeX*)ӘA̓PG1\%ݤ|='P,G1]r,XL>hǹ6U@;މmqB͉2^ل>jX<,[`|)`.(,c&a48/G)'{^B7J@9*N?:F BW$6cv%tX`7[nʬ'%cn:eof66vŲF`}%L(%hj9Uw>}FT]B5_FʵEr(35'?_]}1bBpk%[^[P.=ֲ=>ŵDK:4M%Q%7.a+ԇہ^U&[ I$pktU(O,AkP|hz.@[˥S\LKo,^/'^Пu7(!wcIR!P=9H-w"@>-pVW:i˧)-b2$SF/dz*<AUWN^&:8[|߳gIځYQ{l{'o˸ބbGRg_*2xq;9)Obb 9{;,ެ<^ƻ1<<V(%upslSN̛@CF8$߬PG֨29OMDيd]+6?~Of/ɤfcfWO66$̴̏3v](~V6yՂTѦRA5.R?Oǥ%=\߻R˂Dj)ƓDdմKՌ ˇ9p|YQhu$}nßQ`Mu|:xLܡY:*y{][An1G*K<k0V?ZN7 cfŪy$Д=4~XxP!?jZ)bb.vZ+6Rƕ_,2Hd>JQ26'V̓Zǣ˖xʨ؉h}1ٓ8>>S6-Ѩޣȵ.PBN:|d40W)Ĕxia]}25[t/qxgy%YCDYJ,b̅|h"]'FG~KyX?EX5*Vߛ$ՊF̙tCO&52Nƍy&9+c$dPrPDc7x	zCyu29\Q{"$Q(Hڢ/xdABȯ=\Xd`&Q.һAxGK˕,Ǧh^+.'O(<YZrL =ȢbF޺[:.CQF̎^:ǠG)vrي!_> ULi7jABAHBΔ7̘?VgKvvGj`u?JCH;m<3z"(d0Di8|łR͖z{M]\HjmGʡZ^[JN'cPfeq[LSb8mmc!OuSw:F:|CYbMyƑ}(A0aV`3qX5FS}Wc'ZǙe($ 7(SV52Zx<d$c%'ݐSX:bh˙FI-1c}{Xt3YZ1ymVȆ`[}/pݪMAHn2/umXOs/o}"ƽBɺFI0Yn|	-Į3|{Їz*g/.Gȶ7ҔF\ȣfq-hŶ7o2\imnnig?yJbcY{c,(QW>wh!j?~PC$Qv 8o*tinJ&9oqޡ(Ľ}1O>z^q].ţDʟ^]0ejUMqoٱ?К?߉Lmz[rO5Iک+!q3BbYxzݲ:,V)YUh7,<KS38\@j\c BIGM<F;dr&P)).}ݣw1KcSB@	aP]Eֵz%*YJ5
rRiaJ}[46uKeP[B)c]i):sdpIevgvbvTfUKޡeM_{b`!yG7!&vӵɚ۽LkRzwU@^B\R9A<~4IHq:HPAȄ->Bu/,DoȾKt;8W9%[aˣ{hƩLf`4jW{(LgR\{IV,SxPXwâI_KQͲwt47UԱ( F{wu7ŤBm]&),@/|&R߲1~o37e50C{Y(-PBfPV"4Lx0"\w_ZoVcFg	VX?+ct8{ptV%Pg6!3vYxz!q(F;:J|2b,6s]:̿R//3<}ۥJ"uq7FW] HNCtNƋOp{avUR/dU&2[kC2K*MNbk|a@ū<lqK\ܝo6Ż]7:4hMit,rQW̦b6ւ-cL+zDŮq5-ĪӘAh? 6oڛ`J3$	^w1*T=7oǧC2e?RFj_]ժ?,}CB+AMUPT:˛"XlǮHU7>̙]?{7,nB37X	=}Ib!iTP8̕P;*0kҀ(7EFl1!~.0M8TLVDe-g51UmYAMĀUB0-̫(\~FvZT|Ngٵ\GeJ0t,1XOZ5ƌL;B[ɃP4QY^Ckɬ]e\@{q}i3\fu'Pɷ){M2)k}8K?ouAl}M^*oL:8v8\ybD mHɓEyK%ym\0"Xΐ8acCxp1k7V)C!MM1=nf?I\3R/͖7ͼVlc͡qɯF3pt&E?D<Oy+aZ!d{!+$<xv~Rca,:tD\*)%S	D	zȲNme۰;?aJ^Eu9qvjrg'f$7r}^s.N7ԣ~P:xynCG51fNxN68ÈYxxqkgp{,A;|E(bP'Q٩/5`"LG7ò1/b(,g|%c!-zRJr!hL0Fb|;+FVlXLVątnuS2/gcf{f{)qsI,vlQNјz.x|sN!>'LaJHyEdrʭ)9b^w~Yc*ǳ1Y6O}R|8Н2ێԅ?0*p jwZIVk׈G~6^@1>X]ˍ!߀8S=@xA^'ͮz	o.ܫfsCx9G?_	?	xAT8LeͼběFMDic"=H&EA^h1ZjS_&yRF[FfpWZ?`s1z&8pu/*15	uٳ0__֏*Yk0h 2S5p3	kOGT^Cv%45%!}jE/BX)@ro8<db1/NA_ut1G4W8F1ў<;;7eFFI7Cl_:Ӳl[ȊRȺkm!ƿe6`Pc?ߘ5IA̪4fRqT6$LyAiѼ(xY]$%(@bzϕF%9+}(pU'9;1}:Ť\=7}̥ͧ;WB{rG\ ʵ0FPa9'`Њ@X a2656~Z+ȋOPkygQM@Ar=/vrľE1ȜPzFRԯ7=|Z%ʔ˭Ӹl|۹)F4,7Ax[z(.E	OA v!1)H.3FIs.&z}(8.yķ;&kBZL/|rʜ6BzC*OˑE?hL8!SaSGG1[̷p_~hl?4]I2")8rn"rT~?֓ͪ@g\w9qtC&7,Փt?4a8y>UÌZ!zY//L569g4E[8O"wYp&L+f;DdWB?Q|P$AXV)uụ^91FqcjW}"l/Sϱ7Lm|8hH>x%s-{ePیLs]R~}meȨwZС,H:41|OZمzc-cNDʓ&|Ԝ;aWx^>Yz}=ү^q?|@XuTêp> Jk^7jSMəM~LRGJ3Xq`$16cqTuIz+3*tș)W8V[Fa\C	dhP'0[.kL_K5;_:*	֐ycTgtTw+Ek_SR+ͳIFc$"G&SNJ%M>B~B*Tp@53y{^^O9g=͍Hh}.7KzT.pA?w%ыQӥn/Uzm\=jMBU ZسiFzǌQ^r2-]-HCWʫ<E)n˄<A]l eAqeoRvbvYӎ[*N>jSXIʜ>5WTE_<<SWD;~_ô"WG;/`v˷^W'Nj4_7wmhAl*b,hH4j]P[C[JF/xe'nfe?'J	gfmʪIoXz&'EoăTBe6N[LDQi8fI4i<8 >Ty;sXVuu6ev:UE$sHOi1(0CAƆ̍*e@Iq!v>tTBiH^IyÀS&9NG111 H90;SR>GjMtoxyIe=
whQS\kSdMC,TNf)[Vjc6aa_9 ,<tO3V%)̕f|)Nj@nm4<F[fΩaѰ91щ6nZMĄ~Y${0_ pZFhC?9%Ka_2QRϞ@hBbeR)fY+l$6ǋ/Uxm~jʤUe5'jArbJvߍ^!ͱݛ$?<[gӛ(gm|=JJofN($)I-*Ml`^x!Vtz@n޻CXGh$oEb(ic,d!_E{Kj*<KAp$U?^߃(-0?Z*^{LE(-%_Teʷiģ_P5LAba>-qբ7to$1<JFޣ^u |-K|2K77mH'܉ȣR$[S'Ͻ>yFHct&I̢cСȋԔWq}o&(\I*A!T_ i*r3d6҆5T ˘kOBP~r!Mڀjďg[)n[y48q=Ņ,pR,Tk1*OAVOo!G{Ka˂$"^mXkA4,cd06D9{x4a)}rїfh$}~k^`Oבd KDgUThLE[vא:wACpۧ5-u}LbtǹIn>lrk<|0U*s'x5̗E%HYԩBj+3^lo4ʳP"/f%281Y\tMdOʿ_32/pՒxmM'̌DrQp	.2k-5c%0U;8&M}RG*mܜ*xw\!'M$t\sՕk̺[*JdSSTH2J5ԍ"4oVoW$܈,êLM'`yOF]e-{ͤZany8Q,/TJ͐߉ڶљcV:EϢJz$hByY|+aJ g(,HǂN. beQEǄ@ʞ6jNjUuuhY%;pW;ȇC{REtEɂ"Xbd%[*XlZW*T+u'+:sC( 9ʷL'/ɋSUwѼ^,19ƓfJ@LUop+q'NlG4ދ]g@.%:sKqXPBڅr\v)?H^cqP~Nɩ	Sch`*~:Mb;;'͐lM5a+gSg3)ZBK4=nznVm>0zZ%Rvh)'Hz/S%3AQ(FeeY3F	=tav"2 <tkpl1̀FT.v(s*/}knm}/tˁEnHq*h'n)v+|tH:<˞8ru%(7y|>iReъ:Ҧ%K^/FSraU|%%hM=;:0CdV͗jbåiIGHx*.'G]7=obG(S&_?@$hWIʮFؾˉc}s1jnk8ɋ eޏyТvutb9qƱOb:џИ>މ3͹EfX=^<kZ*OVJ1~'>Ā1kqV8̀1YuaQ3j/RH˱˜t&Jb|?zV&)ȯUr(e<Ʃsǿ4ӆ.'w6s`\*<Kw(`uf[0b	sbm{R9$FsLPyS`1-N	x^˵1UVxǠ^f,=l	G$L[k	*{ Ӻ~JPIGzI`>C50OWkl,|)q'ʁ'87i(MJ=`Bę	ǽ0)'pWc?ϖ&rD.PG4Gj6sʃS]W2Iӵ)ڲZJ'(B3!Shab	uF<0d<Qe2~aej4nX37͵Fgo`0Ox:)HV[dbuv?CU70K>|ڥX;nF̄)izCq3ɶNA Ix-VAsS^7K<7@3U2%duDsVnȹBXJ}2fʗ_p"c>@Cy1k~E]"`Fkŷԥ32Ү7,O%uMdZ1*Nѣf?QƆ?KkLM\\͒"4kL70Ɏq3TCol9f' L7CO1Dozo2;;%)!hQrٙ]gH@DȓQr"bBc	vW<{P65Z̜,ADȈ6	CWHa Ov()y{"Zk^%|B*z2OdjBaE̲_`ucXD0[UɎ42e;,|y)$aŠGaA+v`.yF[v7i9S	/$"?Z9HYYhxrnITf^^HL^zVKT9Rς}&?-x3j/	^h^+0%Uj6hqK}'=b+w_˙2'doqäeϊHA~˺5jH0~(FӇ|m܌}TR0S9 :{E^[U7̻iDj{%M[!_3UmR-6Mz1HH]$nGSb	gQ:1s=nǽ|>	YnRہ"nlgCʡyˑO/S2Cˈ%?ڏi`50b$NۯS,ͩ.U+Q  AHa,/4n(ȞR/7D=\x"ZC{lv˙ٵ{<ͥ^jdN7VOmpgKĄɃ"Z^Ōj!"yA|ȣTe<dS=ZY%$A]bg'lb`9@~4j;ZFGOdYΊ8Txsoy\EFL˼vć=єFW?m+a|;dņԶnTg:i^DW-W'F>1->zU[ǋ;7`Trk_"ӶtK˧
*9MRIw{siwzf}[(ÝKyBN\^,b<ZTͽoFѳ8(\Ǒ֯${ d2Պ;?<80vl!meRKFpl@Uɡɢ'CmJ6irLjJ8'A|zqt7B,[YsqB;y?YŴ\sݹz4f,-1XۂnF@yiǀ;dy:N߶~5ɷ:pza%>v1(y5l5J7ryZ~G\7&%K1ڸEu.O[WzJ@x1fLH-^VƧ%{(^eq^pwmôVZƤ5ۃ0e]÷pm1ɩӞ1ɝlpRIplt4eRQq[	6>u!,I$c,C?	ogpp<1*F$@fXSI&Öy&ͱjėir^2]NP43DRbuch)!EqBa HY/WkǷ׍1;=_n\%ڱb9'4Xwr[1q\[-oj`Qm4Vj*%J$x'`6O.bMΥ$' I!ՠh^"?g]Vc9'3jzLQƇMhؠ3jȏwU&ˀlXP[jmf|jӞ~w{jx0B.gD6}6cbv$o2=^~p*Ny'd{4$,Α339D '>VJ}2"2;E 3TuS,A4TQ@f.ي$+(r9ՠ%xAyYJFΙz)r!nb298so2(Sx/n/q%ɏƉɧVhƕH:UKJa>%Sge/`B)n+ɂMa%bǏ@caӚ}FCǢ"g;o}ٱRΓYs;uÁhXg||?r@5˴iȥ>"UNqq,QŜt2YBJ%NoE8Hŵ\Jl_51e	,ü3Og+A(>E<L `3u	ˋZŪue>P[p&y\ʭLWՓKAsqu 'ɘu&,Þ{yoF;ҍ/m=RqH9J̤JmqY^U>yNȦlVfZ@>s|cݞ7vͬIU|:QѸٚK!?<։þ.gQ-;͏*ɐ]AМHj&	˖|\ʘOV1%l<A<UPXJu`(22j$BEG7=ԣ*.>Kp	"]eĵIp[^zf{=<ѭ.J<Y%E_G,JA(GyJ@}keIx!`R!Joo(Q>Jh>X^ס{$y_ngQ~~{!Y/hJ?U?-ěȫeC.9{Bui<DpO.dGUXUKɵ~}pe׋T,~vĒii;dpc&P(&7G[>ٛʬ0nc)xb{_^,ds6bKD<vn-^9>>DwMe]A8<C&O*%&A!)RF-.Q1f74ACoYޮn{׼_m?^sq`i?bI3njvdFY{,|P!G\B)3BLɄ]D>$c	!Ζtx^|ضkqJvOܲ*L>mpuWQ'-Me"ֆG&ef:($L:KeޯEIY2EܨGH0Jԋe9؞ԮWÏdj_ҫ$=y9%*|L$"],pY+9-)wCz1h2_ 5ܨqaEx3UeNȗ9D@JG8[UdH_Vѝ*Ƨ?BYF!(0cFfxTcݷVr)ŜA>̠*ZWd^TeV'S1C?j!nISã~99((	=9NZ*g&]KS-9r&^ϓX^*B^zϓT֚T"3eUèi-ȯƯ	Q*L[;T=؍HGiĜkdtxv={ȷ,:_@spl	NtFTy{^er7f+A^\qT$4;OlbkHk]axV3Bh"ߚ̵e%"ÝM	رT@Dj918OO9s$3[Q%7֮0<ĕ=ģF^Т6YRrneӳ"5B.ybOg"3O7>-Jڠ,0OtLԮױ	a8R8eh`Iyx~[ IݐQXWӕv8j)&WhƋ{Zّ}Mf]6ɂ,at [k:`WvR%kwPɟ|WȾPcIt/s)zE4t[M6xa2NWo>2]{ o4&A QDQS{nɺM>V7s^01L>w}"?ߨpZ@ګRHĄBV ~=ҪMkRe!pQ܉Z4~74N'`hǗLAO˼4]x`kb+ In:c _iv-JxK:jGzY`JZTJ8ilEGq`quE)]=TQyKvCan۟M/5eCFˣ}d |YcN~n$r`@jEفHziLȧ֦,25`FZ!qfpբܾ"%Z	Za<D`{ٮ-VR	@D^O2-Ҳm{[1. ӠCܛ$/p=ƒEW'85ӅI6B:Q ]mqr9Ocs$QgDY|.hwTqD>^;.!;`{J4l;sET}E4raT~q(I?B=&ufy$Ƨiixޫ2+b54)']^Eޘy?tc\SPټ*PVʙ@8ɴtĜPDt|u[a/-Xݜ'y`u>]bŽR2cżXؖT{H^d4+"JMxYGA&B̀b
VfU4ǨT'2?^}ћg8BNe0:Ԙ0!Ab_Ǡ.']ojHyO:,x&SƴOA1˨I8O&ǳhnLjɴJINo|̮87zSLc$yGl1Ykʧo=;6̶ٙLt+)c@s8Ő.SR<Z~}Ȼ6p]ڡB0o[LW ;C&^auOnVKd~U<O̲SaAon;)R_˂C65S|}3Ҿ~bDʽ;At7eLF!Z:	\6![]Fm'wd*@y"WnD[z)\3-dAjFb,^?CTZTowur~yqW0 Gˎ03np%ь,"?t}a@1-aQs+w	ȿ)U.ԥMЈd<9"nS)EX	;Im`zWАٕĭ6`~ug_}l55[Z&+Vq<ҚXSkBB|e	O\k*np[ĕO/RԌǩbCLDu'qv9[*r_/Ѱi{YWRv"s}B0ØJyd.:L\,,yU6y?ޤÍi4׸q9+	Q3	j]ʄƳ|SZ]K>yYD*u7Mx=(6'ó/nAO\J+W^}5;L~Eϸ`̚n$ɫXXl:ecjae@_IݵIt+kl2Rme2yu$vǊFofdhF:)HKKqf-(cm;wi@יS·9It		sb$yydC/`;|:׹hݹ!i*wG"un7nDT]@p^Ð8`~'3dQu/v^U[Y8L{E37`f~;lX}uŞH+x92Ndh*ǒJ~\.6WA:y2hĦِ2 M`Ǯx?zZŪ:BkTfS	B{(`ֻӇcZFֆ[p!.;7xN(xAڰ92Z,zKX]	˷NT^Ju>ZX2x,RvC&`KgEvٻ4|A--0*Ozר?abbŔ2ĕf+hhj;E*ikml\nw!Koa?m</W'5wfYiM	)5!$տq6*$KlR:ǬC8<9E=UP=5I:8Զ>dC8z<7ɗjǤ'+3|7ħc,znL-+Ukv{pCc>M_EyE8X_c_}KBwȇ;))lW:5k"!E[NHaRU?N%?Lr1$}MPZTTnӖ_~j٩eDV{ ӊQPsѭŊuLe|ي5'['SՅdyYy\dXYոKɈWS6K_R~82D=^;eeŪ'DOVW78 {3H)m$HێkS!g"x49Tȋooh&;ǽL8o<nwѦ`}X|g,p:"Ӓ@C~y~Y!`L&"5=Lh4@ŵYE!}I.PHJI3hjPN0+G[H͎J>1TA(*Dg%`g&EwLj+<>bW1\!HGB_3j-""S58ZP1r)jD\wc^J"6m"ͼX49(NÜ=@YaƻCE5o?{jĬkVcREj}+9k]`S}7'Q6G:P	+07IbX"nm9uqf:ɦ{@kARظAzV1Kzl/MKvb3^4T kȚ7ˆk?r?m"YSu*FAqm-@ʯ9}0gWe4uwuU!:}w=zI+m&Cex2R@!@-Wˮ3q}cFٗd̗qaHNU2_>!4π10/Xd!F>?<ikȧrLUI4ۀ!ߦd;[CrSƇkV!1*Dȣٔ~0hfw֍'@fG{bT,e@rŁ_rVϤ,*KScz6`N"	UH@ԫgbjK|LDh&vCV+%Hn'$}xTv5!DY|?c=>rِ́v_)ŸEP.fF;Ȓ*Yd"~p EȯA%A9FT;?ʙX^tFrAJn,Ͼ%aVd/\3hN)DF[&;JwldA="(r>2%5zX:^TVê}ɜc\{HEH`tr4ƹǫt{vNǈ)AmMlh9%CJnhf7SU(iĭǈǗCMH.2	-+Wu֘hRJTBAT)>gŗ-?~,w˗ǔhEםѝ=2F|dgC>K&s[\S~3[T3eqm@ì;y>Y@Q͗_<_|8	5WY\C;K7h.ċi^%0]JN&^͟t wFLdnv,vɒEOMoؓߊis,?ItOPQgsc86([I>BW*Tg29k3`yChg&5eneя{l(BJ`lVlClȷ%Z?/;b?'~px&e!>Qj>yA޻,ZP`SWb&sT7ҽf_hΙ(ŁPN4Ll֣?/E.`֡p{'p0l}Υ{y:%x8S0ZC`LnxEĞVt'CMJ5""8h$NjDjG >A<JoetV^8lWOS&(Ť_4D|%?nIewD8G>ӿ+d:&a^KX=͜ő?ʍFT?~8'S8Fmӎ ix}2$u{ۈdfα
ŦՎ+BqŽh?EO!X	D?<cAQƠi~5|yѿIYճyYP&ȵ4M2 is_HsFoZ,6`/gjݳn}Z`@ڒ&eMͽyIKkFlVYn!%˾c<%`/c.8rSa)rݼ0H?r6+UP<WXnD QZ/-^!,@V!]e׮tOu].	&w^" h*]`<ж}b!x.RAf?(	VԿ>,Ni5um|ht~<ɴMjoaPa)܅Ǚja<$PCNiP!Y1g\R`ܦP)e+ozP3m(τ%gčKi&{Pr˩SvУuy>e0}h/[XRB/IάW	hi,d;i0ؼ!v2Oe SByA@ǳXpvPc&_q =bjGќŪzCZ]Ommn9ޣèŇ۩.:HV-Xc^Av<ĞEXˢmaz*H(ji9mDe~.x{i0AݗW^dá7G|RXFFqa-ĚJGNr"+CKE1SO!Mp6u})q[EPձqCw7+U2x*wbŊL-+a;(NP_Iy%F;pj7?GsbQ	cJCw:(&6.Ԇ(ěZL=KXAaɝ](8-QO aU\j\En/":JNtaL6&ji@KPHKsn('ro/"xHo^7̜;B(4yh:PSj˒lʶFDYpS	IFLli(6Ƞo_ȫL1KZ,	,IOԎo)a~z(ƋxQŚ,_m`?	D]~L}]EU[āX'BU`5_}̢2yc]YZ%h:[AR3/@˜^>/z|J\ ӄx{ˠ@'rvj.ɍ%^:a.kw>[<+y1ʉG+.J'20IsZs<<Q`x*@4LVDAQv>~ycH*uJ>Etw$Y:$eLT%'{Go8?C[7sH~=MHhǣ3/Z guiRQa7JqGˑC(sVQa/.U|V}K&&:m^wgJ-=(muM^PRIVxQ*P15T<W8bYC,rF&|b(k[G7)8giheo\&j{@TBbEl1>3I4V{^jƼiyO3Kn7qK$J+V̘4͡rqSm-֏<zsƨitMH,ϣ`]^?JrU	OĜuNh$$)%Ů2/ik!8̘7ͬHʓ	e\86Z8'(zDV"D|J~B&0;x_o]?N:sM͑Xg4>TZVqxKR)lX;({extj`/ƂGBj]f˷Vd\lFu?n<Ze09Auh>w~~g4Pnxd:GZ'_MF(gZs'hylN,gdWǦ0]`|FX|?{S2osvsG	V2|JōTۙ5P/aeh@"јAKşc~KmX߲$TB<	;ܐ~7:ɑ u5VxRTt:HlrzΏj:tQ6a<`tL{Sr'l{ &hF!jK3ȃ>[b`wѨXPFNawO&اÛ f	o!S<@5+?OfDEЉs048:eԢvsLٽ,NX?TŎ[DlXO`wǓ+Zw?vZ,h@/tk>\VƇY 4>t"U`~àfSS{UfsjǴ$]{/̓P04&EJUO30\O^]"\&{:jf`R+. !+dniGrv_WרX5ͷ$Ǌ0Q/D&'D{']@i^h)(E=Ѝ\_%OvAvwlÜX0;9FcNuϕž9qܽ]&8mhְLf[j@|ȅ~EZȟH3uyHu)<Z=B)>PjWOs'ש/C* _K.q=HCƈX|E4.XvԴ?,o=pE٠)1EԾɓa.X:G+rԻt6@OՎ8>f|lT,̔*=vI)(|V5Ǭ5%G]@wF9n6_g;`"A?6U	q!8?}2Ҩ60NV>܅) (<݉,krp~11<gZKÑ~U@.2ێ8)\ĥs/˹t`Ġ"Ⱥ.Mg2frx_i@4I<u̚187WǏ,XrSKcqVo6ݖ"sή_$.>-7}fFh':Y\u?$	Vw*v`|@xh@J_͊1Q0?o?jţsŲ)o[jH_vNV@$`VI-ldԗ(rjύeh3>|ɰ$Cqbl?1=B~!K>Ļ~aYȾqqƈf?*&ZjPcII7HލHU$@ȼݐJ8r35lOޓPi M̻o\Mda)oK>0NZsP{ӣYPSS)ʕXD)1>Ԛ%=͛(Lf/'ReH}O_Eh1!uJ2Ic)IŇ8P:1IMyG̷j`p(>F][M34yhβ= !̑@ZqOU]jo;(WS3%j"MY;qAh%.6*Y%9zzdVlDL6Ly.RߖOvEr*S.hʤG
?ثoJ~Q6se7QablHM{_yB'H>cV|3uIjzR>ɖ_$3b<1{D3:/Bd"}@(%6!t6Zdz/-K\-c}*ЗUEQ͹b:*4=8	`4Z6aЋ.B'iIc$Q[B8Hyrܸycohc6X{]wN3!PjY$d:HT*$~>4lMgS{+S.2HeQ{t.gYWSC]0)'͊& ӂԿ5+k5n]yN9ft@&κOb!1վhg0|\L}(ۀэ"W,*E" ?WMsCX7,iu+,F6IkffUN-XAEc7CY`e2dssgo	8qɻA(87&!k%Pxwl7n*^62M%_($|Mش=wBqpI:)x/RnEdŠlYv=Ŵe(H{3ULstvBtbUA,v݅DsiǋV٫G<'W:Gk7;]'&я1]np{˧ON>àɯ-Q R,~zu,sÙ!1*Įa0ЭF:N 4XԊvd }C9>pteR^ŠCЃ?c~Knhs:a;Ԯi@bxYE\\!< P%[*5C!wz	ۍrQJ\ CѨ%ˏ͝1ϸfANPފ0`c.sM3Ueɮ*=Y!M̴g>w5ڹ(XUs2TMRHv2fo/^:14M+G0[yVpPWp@vbH`$@AlG%S0c*X2/rli]YKA[Nw$*ѝz`|&4_̩xX2Y6Xmg%Dc׺$M:iAJ ڲɅFڶQBGNM+1T7xcHrf̰LXI&C""So23br^ɕ$Mݗ4ؑay1EyIS9m)47l7>VGcn6 HqЅPsdĤu.L;y;U7K)P*87/|4Itaoe̋8,t\^Uށq0.7LJ]-R8 	zm.9Zj_oķxx!V>UGݧbʘD0"W4_HSλ?AM3lu1įӳo5߻+{C/.̴**܄C;5NBF|0AZ`بŲy5tMucGW׺o<m@`3{}>>sA)|e>|QASރz;k͝[{[*fˈ=Q:R&Ĝy]jMYGpjGb/=OqoJ$SA%Z]úNz,n:W`yAJML0+(RpBTTaIiBhQ)UǢZJ0˒=<*gGmOt}:aVui;Ƿ'&ɶI	>I	6TeNUǏ- ņVyq0CyvŘI>:UYQq41p/y2[C.9Z*kPW<oqfs7VTJ&8xaӡTp"uug|VI?-WLa}ύw;VZ*OBȏ̐ʴ~&p(FBIZ3] ֤~y)=<>3ICʩ[T	o8N-lu*ҝMyvtߝGTHIp${ܻ*K`˺pw{W2W(Ri yض^T!7 US<+NulƖ:wDHyR&RX.:S̭Ks<FĐZ9*$<͟)l'3cNLN/S9Gh|zQBZ-';z67B&y[y,6:4D6>}u+=;bN:ӏP&gc<.%,A8@qз=ZJnx+&'ɝ/5Ğˢk`>V̳mRs^~rbcy/i`45]ldEԦQLEj)jE{y>ޟ(TZh`)!Epe9pjVϲ95k\._crq~+ڣs$!HP>_Y@~̈́aŔD-?*h7Ŧ	`}5LB-\92JW'mr?Q3BTo| KUNP>ǮA}oѸ:ٍ@5͓[͜d8`/˚Z2/\4L&*Gs))K$yuIe<+g3dPk=h2]i]jhQdd%)d-1a@NjJmT6sJ4%q]^F@SmR6IC}y)J!:(Cjbi69pФ @'rQ G&xѮl]Z`tM^߷.ɀؑHAbhӵoEP>tVxu(6G'CUzAn[qgնZƒRkIC|4$n]~6nM<1b([y`sCz<eu9"gSk߭l)NР1!E\dd:z|7{Ap"<3t|>.`QogW%&[C7܂БXک=9'L]Ec`^5p,92;-FWSP$Pk6~ŗ6QfJ}*$Iǁ2X32k6Ǳ1ջn"7-}VwyD^	adbGr˜'hOӝj1(e	N";kRw~c::MV]M,3/`'7d$@<wW45I_T!e*vROVPƞ'>Թ/a~N>OD(qUd5.RgȢf"feRE0]ufBe+OOZ,^İcg5́mޢCnJ7mAM}$=+Kr{}9r	5)?Ǣj:F{V/xk^l]dZɳZٌ֬Wx/	N)*D5wx	F5ȉ׉IvW{r"$.iZ	\@Ju$3/W	MqLz{̉ZZˊ+5Jb̪tŉ(7ǴͲ8"CeZuAm<
>Icwܕ2!qɒ͆F6e*9(YBP1{iDPְG[kTQuƏTmU/_&:6W_ƪ%\=Heb?K|ܨ)rڵW/bbG&Tv."*ǙIȟd3S?z Կd)ju_8q97X.0p"pF&{̵y̞`̴FWFw/nn-\R2ư"[ͦ|{a\eD]&'3u *Be,!M~!u%-ƄtVH5Y"<MS2N6(jįgV@ADAl1L%'-n\2~5p<fw~S9k=~yOhfd^VTأ,\\y^Z/I0ŀ˻W,Xm3<GtlGl"E]o%/aޟk*a[]R}s;RCU;dyh)jՆ>4YHlmc1Ԅ[=ɮQudbۜX5k1p_.HcinnH)dňDmJ׮̯'rry;OgH"K/"cl|yȸ	>),ŨqNHd%6Sɖ|]MǰhӅmBV8kEDR\A)jS&"CߕRptg;,'ȦORAҲŴ'o]*Bt'325nw'"rpuVʵya+ny9>6oÑ"V']u*}9NLUP+:rG؎D*["w?mBWO-z͝~-}Sr1kEyCtzЊzPw:̀x,μh>>ZyR?	w'?Đž5{bo>@_+̀h8Q}{~k)vGR/w=3f7{%nQq'x0j)0qf'(så)*fw*~w\'-	wF@$dp'$8C=>w>~>Dq*0$ҁxWxf}@Zf25O92h҅d{Ǟ|BUk8.ܖ`œLq	8 f<vlǇύx9Ĭ@`Uhlּ-=,,K0io|7aϪ)?):e/:)h-U$lB@g,Wq""uGlSK eBkù&s=6Q1h900[$kh9N*:pUַI$%$ן$X.mjX';>xa;EA;1k9XyfAR `7[}'&-S5c*yB˺&ɲ/t76Ub]w=ad`TߍʷS9~?kc=[bN145YRO%]?2Li1kMuۣ	73vy;k82w]J.l@9H)LV!HXTU)ׁo4LBYcu&WARr(u ͓Ol;U%P!\i,	;zʌB,3=}&2Ȫׇ55G,kyUQ?4o|~TWCΔ0Ċ/QB/G/k` J}3Ƣ׆Iʫz=ʡSKLbiʖhMy%hU@J,CU8ݼȫ|IE2.cTLrb1|A	;GZmz˔Ec9zC J)B)>Zͻ~QJV=*1'~5u`N,װϻ>لFg-ͅp9W2(6cu~Z`WD6|$vrIKw=;sz7Q@ϕ1vD3[V1(?*VjCr&:ޒS?feHPJUdج%Az@g",e.:;B Bu}koV1ǩïLC	sx2$L:R$TJ'oJТi.DsPgkH΀A=ݒ~CZ82Du%9s̥Tq>5ĭ~(/349C,X17}SۛK+ 5aדN`8ti.A'G5";n8@Q=gf7lfTJ$McCogRK"pߔMKۻ!T9݈~(h*> `]mf? ^ČF9jՊ:%ZƁ{bjCWR%Ɍ߁AU{VÓˑNhU˪_y!ƚ)Ln)PBDr_{'ɦ%X:&ώWyɸ۶CΊ3?ƻ5PfeI lnPup~wr}C9ҹDS[X A*!ǵ_^VvLfMpAuhG=7_X*B}o0f;LE9MbWE&ЈN!HcF݃U"*Z~gH(ÈrٌLlyP7-õo3ưe|b~$iOi_b6y{Q5n54>By*/6˺R"OC!4er.t3/׈T]>YHX(0*]|)p3m%tƪ1@d~=TM!HfvPu%ɉxt'OHΊ/WX|s-^odDzƂ(`fy[h3V>NE,,4MpJBJzy(:l@5iA`n<e1<WZt2n.g	+\xmf5-B6{ʄZ6.&zҘrdPN6y5'[ӾOx{N8ZIlFt<]E	/Ҁ+;g{`b||ɟ-=yìpOc1GuryN!5ARrRd2`G:d˯ZbE_įq+\H!oAFÌ1w'a"f	@'yt5b+։`+w:)y<51DfvbWzK.BA(q&*rwͤU˛0|gpd;-3ƝW4/LjlWɫgW+2U\b$czȐ[Bʽ85ARɆ~M5+%L+G`f&	Ə[o63XceVuf'c)yl%,j.WřMYgHFí_a|҃jX+F̴VRueZ!eD<NI}KCU//0tu`s}h2%ԈGW9e@w;6(jelSrx"|X&b_|Mv˺?6zfHd
'2)$7uLi߁	%<)Ю3d;:	;-&Og_Ă1Dt9(1f9X6L4)j%Mh/!&(Ti.lYPI^GWMj۞EH=_Tlm3O߸pϞ=˞3BZ-;q1Z4B|xoL bgɧ/ЀʱVK!ǈBfJ';$Ws=*sb+5EXv4C`	eaͨ2I	aǵ>Oǽ7ER~m,dyJͪ.[ľwc(Axl`ndKLev֯v7էT}pJ	 %}Iw԰@ξ̼mS+7`kCpYڡJ'QHuDtB+u50/8,֭5}q6rpA{eJVfMȭ?;"d^>)SoajO}HgIiy~t˒_,m*s.-r3/ǽ޹FxA)ú?"G`QpʉҫnA^Ztg+ѷEP'"};dPZMmtʊة?g*A9b@93_M0^P+e˰jW?!-ÏKRVitJnShekU-?R1XTez)Uŕˬ3ƌ?noJXI-*M7DY[C9>ME40<ޯvvC]Բ-ہm}>2l}4'iY!j4Eþg@ËurzH4gps>)QЅge2ʛB&cmQٛYpHDsιgsBM0N?׸OsxTɬUl>Z<g}`WA)iLQa~f.~x,&!mͻʱ&@EK7JD~IÅɧH4u<{(/ moV^Sc[=22|_3ɑߍr3"	̛ڋ̡U1k2Pn)wxN;KA÷tƘhLFuâ+Yʪj/"ǥ!vկdCvd(<kp&vcą3ssg 8=jQ}sϹIg5wqV4̚R}&ms>\׵{܎K^=!!yܲHҹ6'M$p'G%L[&gQ9RmF-̆|?*u&O0Lkci'<m{.S7;O=Y8G,nsIB~CLOUb1z%y-DJAQ=Knqv1[ۏE<>_r36ƟP˕)*/&r/_&K*˒ouzzWB4lEkJ=80JZ]A-̫@nmEDmȃv.LOW^B1Vj^ߤ<mю19"/e6>XչcSfTPˬrąo/P:e/?lUuK	6qy!ʇx~jdAAPV߬pK-E=SSF30i\ۑ)h+GTa3)EF?=uk/SݸpCjBtŌRKkT9MO[ N0)c@C};ϗKuƮ dr%OJw4\ud$âp=ǭ(>T(aL|RYWm:jD0c{݉1ג2<%FNq/hx5]UBhd2aYAO%UjϋVƸA|D"IA۠x<a79Dac cd@)M9tl)I.T:ͯ}1P.ިS"_9r1]H}GkZ׿+!>Eq%rQ@J34rqfFw?DZ~G3C/!$\1Ăf$3B4VˈJPDĥ:pSg5oIc|EXWCfk|S00Ǐ)F[ts_sr2	|pQ N,էrƨO;ia&|.jV	jֿL%4T!VȝoD"jz1Oը8<9V^<HQ=NcEBݪʑܤ_[vx\Wi6)O^U)ׂi~{KĺN֕;(WؿURoVb:dXP5Mda]-55]$n/(0ƴRW[M/wE*G@gf3}Pƴ)p5+~;JmYE;&]t.4h-ƴ?־u3KsLm16j}qɼ{+UDiOtv1?dմ|WdV"%&MZF!aPRWRҹDo3i˾gM1U4a}0S]_@"	Q]<ڞ3zt]CG<1)qE2SIhG6{ҝ/q?Ƣ4E\e^3tɯ.mړ^R	ɖuh;Nj+{G&lԔ90Kހ~5HL>Ba?͑æ>$ܖt^uLZRgan!LI&w֚SlV5"^C!{tDO3%[q?Yo,jg6)P"L@כ^S@Vca$HW|p!0Wq<X̙oA45F]dߥzyˇ<miO&|K	=a9<W8{4/06˦-hu̝h_˒Ne-+F(M2inOcϒcTĎI%Qcsp!u-M&%^P/ԗg-j[&,A}V,W+$sͨsm~8Ƴ[Q1̪^7@sğٷZ+BV0Xތ!1![dAPizJ6Ds`ɱ)?YlzE'3]UClDX|dD΁iLв)?_?J?9w2n^c^ƣPvƞwHt!0Tutӎ?!B׸%^Qc֣nQskCZYBqʣy=mL ?)p6c1˷^vMyۈb>ٲ.źp;7QP3D<\RId/eP?corJ˶=ze/BNByɄB+ׅ)B}ҽѣ0î=-[c"Bo<GzȬn(oG-d͟50)ti>I&(qwE!g>Ra$W!kpeCJPoy3'X<SV]ZWt
9DNޖ0	aZb,϶ӛQH >dV\?ظ ʮޱ;@ωXEO*1]l98Cx35/4	FWnD:xz,jLBVe"я^SD!\מSQS*k!_Vp?{9q8ZUIp̧Tڋ>ò2CR4/~X&<c$MDCt6$k'0RD=v>mbt3ʆOWlĖ1&HPnw]"TãQ?/eyo2żð2ITkI=ǒ`X`(Gω|O`"_B+")+?s3mX!Ie92d:kTؕ@\[H5Ծۅ&	~ܲmu)('ʘMAĒ.'pET5=rm`]	+!0MBK:HMy9qwʆ%lQU +X͓J9FAn4jՅkĳ&(gCށlB&$"- 	='Ut19f|uK'qwJ`$λGDJ]ZKdͤɊ-ץņBpC;6y6pA_q2Lk0pHp5QhLjDӀĴMә9\ɛS`lOO2y_>b[waMólǯɔjrV~j@@p9cil̕oѴ;X4=QwY[e"Ztv8ڐel.^ù:`xezbXzM*z<IEk!.mIv)t89ݎ*)fTE'WSJnc@'tÃo]hʐi7kU]UF]זŪmp|W-FPJ')BNmehq9L|\AYy-ni:-ah	Xhqc%  %u5R ֕Ɏ.Ǟ9}7)ÚzÌG5T/>]?g"_?mjwbVҠ	WHeOM<NY0E-H̀O@_IÒ5dlm7и] 86eYJQ s($bpVp5 hYeʥոx-b&3Zo|ks=\ug<k|DfҼ2,=z+zHƤ0T`ItDHAΧ+cƋE;zRmݏ0\βܴ4WT{Y%A/Vyǃ4=H|{Sx	^~ůcTʲȃlCIMŀe8M[g޽MxUޜbߴ\q/j[gUY^?տu`bA:>D(!!hh<f7wʐǤ%12$$Ŏ%tu!06UG|quc	cÅ6icN4C."{,+V-qEuj<'e%(vk:EWrȗD"mTH/'7qroG":QV4C*0wY۽aw(I"Lć6i1H/(y6N?W~3La+oټ3zMG(C	JȶoRƨ|~݌?]~~)ĘMߪiqNI$Q:gakmJ,ZrGiIT7aMi{3(p<ǀ@P~R]4"!OqR!d>Y	8E5.ZEqƍENyze:%o݀3/w$u{G9K(S0Q_?13eGȞ(=gi$HT<R(M~P/HNB~|	EH6IY;0O2Gd2 wi4z/ɝfdrI~Y_gCЂГLА$rQܰYUv|ͬUHŏV]kѺ"lx:[j?~$NEp75/kJ[Z@S.(rX3+\}TOC_(+HZf"C9|f%{e@=oA19zke|ۏ}Ý%Z:ɉKkb<"K)&&dxYd9Spg܄VPyJ{yΗA}CSz=Qڇ"ӂ*JN~Q+,srNſ\cqH@O95aͯ@4Mi-hL+G{nˑ[d,ƹŶUo{60lfWْ_[J۟C'FfOŸ-/͎S}|ǂ(_Pw^ːɉwoCPlgds)t!ϴu?Γ!}^zCUkom.`ƸŹNpf*"qfT8"dQYg$2Y[˩3f6.V$E@;(%oqqvo0t="l0+W&/+lˡ,{ɒ!<rdG:XNėS>&G_2˜9D=sq~HŨk`6mY;derw{""4_~>ZF	ITy!].QE<y<k4>('SP:]OǂX3[Ǧ]:|ڕDgg5TVgTU S/v\CRtIܯ0pH(gVHeWll{n-q/!l<obcȝlockV[ˉtٹ0.uT'͑ұz)@?~0:Yf|b˼G+{)<as42K:t%<ܶ|U_̚b^QBRY90˚3A"%xx(<<4RqL648>Nu,.]GSB4P/'\Sd:M68g8M|3&Wn[U'ѹ9URҼv	lOh91ۅ9"˴ìJm19YK+$N}IZgYID{$&VoǙ:~7OiҽI]t˶M9ïEL"~Uy5=[7YTOD13xX"Hl.uh -Y%ednp%7Z%@jb@pl'9YE &^LgSzs %^PNe6;P1R8V6;@ R.Vn!bbǼXПdt9ZgeOwZ9F*xgJl9^ltJ,~·ʉҫqsܾ3*Sgmpe>'5fXq"PQ6}@"(.e_$=&zwɁʫ?*t]İ"65SJJPޑdzP/\<-$ƹǴgt[5EĚim^Z|qVO3a<pso=us=sɟ*h\דN
p8$!HR1T{ @K/OL+FJ'.{Ct'[$$:VamrĽ^J:Z)LHfV]7?&9GɌa<֊s"Uh7.MAxjah8F&V2ykZH0uvX{/cɤZcYՄ&R]Ù@IZyŬb0&alW\jي)"yݸB~+"0a6>ӮsLGrgaRV.X0 Sj+PGf@kBX@Q00G;.89DI2Fګ%.]CDiQ1=$*>/Ơí}q<%i(BK>pRF\y7uTt[>fv{yR),4"ԶYn9*\B]aJ4r\oU>ǇSX!FglZ!2:l8*\2'̧+?z1kCa~k`=1f@iQΤ3:>fÒ|?M1L:ΰd=mm%:|1o^Kà}9V8Ph\Gݯ\MqȠr&TD-|gj:l\`*vz6g$JNEB־Rv*H+~7P{,_:/9=+YՐqѾO1T5lfsD)8Rƽ|"ol/>=Y1M5*6utK	̈!P;(رsh@!].am7flUYsƵiUc'6Ĳ%1b7Y)M:I7"dltZMӱftEXsye*CS:aZ~mk1b;WRxӬd9K;`qKI0Iʇ6W@2BNȶ9Ёǥ!D9>vO2"Ƶ=TaG<q\FЎwi·!`9}${p}ʮ^ƥWl}ka$_F+St}@3X"v=u>d7Ĥa\˕+AWrf)m@6Z9&k)ۯ5\H^,l&97*%:g~Fe9]Ƥ@,	^/ͻ^Zb);uF?DDq޹X^ߣ[s+_[,.]a,6v=sMre@yÞ{G/^gxaף9r229[LHx>_uCj0jgʓ0n2At"wS]GTQGc ~ĹwƑ>Prq*cIO\1>R	uw	*'MAȠzҩNA"1G|1=˜I$a8<Yq<H^8Ե57YF&2}9 ˙joα΀jN?<:^SJCnmO@bžDP;0ʂ,7;N'^]}ltxh2ʿDF 87av."TSx	cS(jRU=g ~wl"ZwXaSy5V5R8<rãyBs]l9mǅuІs_xSAi>CxǂE*E	`1445T̯ihbíU/˓fIBNV?@[3/pe͗Z~ÁD(d>˗dZfY's |CϝVv=x`HXp[KiݹDŪT`:PtO ş~2A	ڨEșNW.K̈{ܥS(r!NA1u3Þ?.[O|VZJt%g0p5ǦpN_>ܗiQSXo=O!f~LV=ĉ	dd$09r{a&ǴJ˝E vrYPвVjpN[eI	]L\FHQe_]/ǝ\X];8\-aHߔmJ5ǌʇ&O|!QoE|=Vyԩ>]Ӆ,9>/,P;ȍJ<o̧ǜJd!ȻI)Ou1d҆%<љg H@.QR.$,!p0{_QeRʑGUHmc=Dʐ"͹Wd+qA{};Ԉ޴cf+2SRV?~QiLsLcHF.*/8bs9ڟ<o~֍>ׯϺ F|L:K$+M@xo&ǉ+GoM)MiQ,S{k!@E\3f0\ɒ*/FÀK˙9`h`pOUgWV^E}}Hʖn9CqI|2US ;;[$æΨ)[ ib'4E"]GzmÃ(hl$'lwr$ie&WɓN&^<?:iPc,Dv,,cT$agIy;Έld(Vj>P&|.ҽ>g2>nu˄q-oPpxnp̩Y$EݒCSR3:Li":1_}G(mkY ca%"'$[)RGzioč@&Ώa*ƎJW_hϛ%Dm>3k[4'{KpH,߭So^iRF^=fp-q;32jvaM"Co8yEYV0V'+%4(rDciK@H<qFv~PpDB*;o1tp4uNe83"`/+@fYtկ͹IPp@s~*$d"@ZN	Us=GEJ:	(\yb:Glq2i}TC?ێϴ5LY*~t"@u4ә'+M8xk"3ģNҩVyT4Тg0C$Ձt3x0SNFO2`9x :&1b $Ʃ7g̱ezk?`k` ġ,61(@	|]'UTHsۢvq\͑$zc0ȷÆ-{`?bj{{^*iwDŋ(ɦ|F&6Kʶw3Qr0j`72l66n}(:eP?A~DsF݀/{HMO:5!Q?5̗2Z8	%~t.?"oĀ@~N\0/0e'ͰQ\<igH$ۄbcGƃkQVg[Fq3mlZ6re5@-4F7g1)|=1}Éd7 Nǆ-[F/
aonDOb<!ŀ6AՃ0[t*{!6̛Pz+V-8S":).x*]H/Hj`m,flrG3w' kӗeWv@!օkɢJHv3+ioD?$[{k[$Ϳq1=T/w,JKnMdl!f\v)xw/׀3d]HL,nZv܎ޅ Lnm"Ǡe'FQ^(TE&OF0t+TRWazQ[ǓW\c&(PrBK	s/&~Fo`wEƴj	tl`*"+-n2*d=ۊ-c"{X7Qcü4rat*}[aذ]naISxqJנ͟1hm	&^D'lg<ˊh8y)+{Q}ΗZˊ_!ͼ'րώQwaZhĪ)^v:;+PŲ;yNq<,	z{rO4wL<}O\<ћZ'wG}i]R<{upU]Ǫ+o;7Y9=q/qfOŷyN''!j~}qX0Ԑpxgr5N	u\L'$b_+BWxj߉w]BNl͞{zܛrr|͂ʮϩϦ,O~tk@^mgHD3JUL`I&HLMK~ͼY!.|˶@!^MdˉlUEhˍom֍$BK3C/+v1-U['ޥ-==Ss\"Cm](	BL|cw>%	~B/۳F1{bv)@2[:T!4k-pP"0HW3H=K"CbieEtb:	h}06ȭ"nTņ>7,-Ёd+%V*&ʝ>`3XQ>"DOwΏK6pY\9RcC98J6<L\r"FuGIq) lqFZA:KӠ'<iR+xgѪHY'̱wp[x,Ldk{p0kr(k;ScGIWhӵ5)̅}k[PyN:O]^ÜFHsΧeh`˴2lՈ]FMH08P2uC_ӿL=zK~&Qq-/k1H$.*	G8CqoF35QܺxX6!~֙-]bSϤOt<`}8oJwt~@6)OAJ@x_5~ yg}~=1,%d:Iד9iY9	zYQȯ7R==!s:hɤs!jͤP_Hk=Fȹɹx>E2jC^pɞFL@eCk8F)'tɚ3I9QI5Wȣm4O_uuOzͩ7Z,lȅɫbPAc6Ё3rh7<i[/SP0D[{gN_CZWAE3X[=V99k)8Fp; [,ydGCI)gl3F>lBbxVB|Z>hXF_@Ɨ**CjBfP5ؐ}d&o[R_KWxi `?N]Z86Gկ>9z </Gܐ)ax>I&xގ856EG	)xUr?mq7w*vC."5xD@-caJ4_5x F\uCfӎLv<*kJb@RY-hębى.y_Rnne9G:Yj:eJY|ѾŏP*vW-&-<t28rb	>H0){31;Bw_FVcH!fF^9=W+v+%Nj>6$Ltb^hsC"-,1ʟ˶0nuZ%khc,F8sХe4wģX*A;mTT8ƪqWp0$i?;Z)yyhEjB(hr~^z2ëqO`10l	̄0^J%2.*|Pao7<6a/ٛL&.jU֮֜Mf=puH iќf@gaL?+ؠ=p&~W>xZZ&~wt)uM'kƥc[yhK+ܣxB_Q-Xk͕	""yWzEO+Rό[I&Ƞ|ǻa?͆9*b2Б~a%wK'(8mc_'ed=01˂P,`IЁ:ĉ`d6 оo(9N^gtuOFSi<2yS3Bg&>+<ӕb:n,<lc}4ϘEG59/ āWܩGN=B8N8Ojg)|?9$;Xc{E{D(S5rT2@-osMYx֑ϲNJh	B(=8.Oe,WfAXsW@-;Ч"II5*_AoL84|ieWĪuDs˾2}xӶ+H7OIhC۷iel/Dڲ@kƓI؆OؘGA=ͧnRŹ"^\<v@9FwKOh^ñN:HxEˀ`Kӛfj?+q<%fKG+QR8$GիE:eQ%kqK8,1e?sȮ.q{)\);h,4k2ɣ;ZƩؘw.XsŽӕ%%9BB/*l=V)Wx8}x-q1LWlNԀj_}e[6ȁN54B2NGypTϥ0lnyH}7ԿM3&ʇ{,Ӫ_d=UBO-Ig{n'-Z1>&fݙB|t"2rXIB}]48n4g5D.a<{S5y79PJ'Y,FՉxtz)FfoQ/7[p_qg3&r6Bi&?ӛHQM/t	an͏8Xgs"iZPviĴ<}}CHݿ 2O˜+hMא"sL:iAC*[X[1sLyEȃ9ACp/%54 INK;Wkh2%ш۹Vľ.oAx WuMPPgxK'<O/\ri?b}=lÁ=ef̾љMs
3I{dA7yMp}!,%75cc`/GdTD2eR0!bEIÔȞJ AF,x~BmnEgԊv]vTL9MԞya&IR]C)RA޾Yp"\$s\	pv5ȣu']u/`[(v;$'_:| 2Ò_,txum  ŝ11g|Ӗ\ؑ[1Ç:>>f;zdryO|j3Քs!)FPˀ&ē-D_K<;rbkjԙkoOG;D8~MƷ=XR!k2o/*Qڦ;AU+n^пq\xŋWem+g	vs4= XZ)C2[H$OتN	ZzVj{[`ԍTC5z6ֿhONrgGKx2'i;*rŶsb'1Qg {~Q?gʁ}aRNVZګ}B'}՚ϳ	=2s%2oX1Ąg(H['r0hjOCX!U><_צ04ҘWN5t`njLC\=bN*PE}={:uAxfJQpn	f)B*/;QLEOǖÃa<ك'f-%Ȣ%1iʬ-pn\1"9MRG.%[Vvx<k)pfmLzdӮҰl$|ɟa4[W%Ȥ`!D~OeCdݍ8&҉gM8Y֟bsM&c_-tBA_E?8ˆp*ĉ*:X[ҔuJbׄgWwÍ\VxȃvbE)fʛ%'BFW$U72by6HLh[e\N|yuN)VXdXςr'wvՓ̷$SwXTsF1xsț*l).ge3^`=]ZԞ[uDJ1*Uu)>~]DTiD9}$bł5Z"i'C	wgE1h7uֳOޡ-bmIc}1j/:UE(Čq]D&QQbĜuk/<)F1JDcwhSBKS[2KFܿCö.DBQvL5"+j\xEprz3[0`qOњf"POQj}r7ɚH(oe5fz/oIbEoqQ*Ҽ@Z(	@=|̬Ⱥ`D7Ľ:$ͅ6٤FTH_A,(u^j5ũM"/]f\ƛ|M.}9N-y@ʁH$^pJYqaxJ>I~u';223*>)Pr.}s73jOt[EîQ_}	{ˏwcK}y	F3D>}VJDڄ|so,ǽQ[@SvŭT"/ʹ69zI{\WEˉ?͚(^pA^!ƹ8H}w%,>z2Tc3V}1ءhjVIU4ЌC~;^IcJVIUDȲٗ~:][\6*$F>N&3(xV/Kϣ@x!eF't2Oo3ИӏgƁЅ1B(H%]~HWEU)wC͛ӲW)KLHlԟ|tJ+L/ߑDֹBqjߤ@h^+O3Z@P˲R+Ȑv!e*Lijz K ŋ%4!QGlGwR{K8>LMk$6ģUg}l8MzWۡ))aSDfz*E:`z	oɼtk̬{PaNHRJgJ,cZv]&D/D	9^j\-xø(VSZƱUԨ%>"p|>Ylcgȭ4-asf&uMP!\O:\iiYʹ!Bw4pJpy:X>q21_}Zt]b~Y	Bd5ƮO9w<	wE-;Vܑ-i]@{%.5T%Np  (h*k<uo~t KKˮ-N^K	g|=pRw~yp[ŁTR,Vs3\l0L|ټ=F8A[{WSŋQqkƵj-(d~8<'&5XL&%ư=2<T:PhyQX?_ۋ]ֈTKUl?q\x5V%u,0WBiH9;إGV9 	f{-OSܰQLNYŉv+^5y4fR:ϒDi+(PtA.lu.SO[-M_Q}GUw(SA0*~x8R˷\@{\GR<@Ġ 5^p@]5>;mdXM6SFf4S͜TIM:pL3,NZ"3sVL;8h-7lNw-p zQ~(Ś>3;ʟ2Ķ)2U-8_Y6.vCmlsJ3u<8ҫlz4Q3Y>3ۈ-+n&V'/+<A(~`Qͫm:5Ai2a6JGϜx6ɯRzGܲE|,fo5_?q\.[~-4F"GIK|-r_,M*ȉЍo)Z.mQ*X2sF$ezJ{CQTU(YG@Rqyt%?<UO|OQ]VmQj{}K/wa;8W4nqM`m3H2dLde!mI;6R@&CzWD+ʸOw^Z}!E[]ؼPb1æ1([m@xFOIG<mf^hip/-~)إwvJqTSR {>%v˯@C=e!zʼEMxhef9O;"b{s WPz	8uUhi<Ч?pHrWCju[P7yůk'?bR=3U5`$i9I,2Jt$&DrmtTrk&)<M?}4|>T|ŦZX܎`p!60Ү<(rv8u.Qc93%`T40ˏ@^2-|K1R
5ycKΎz̯k^+qsLb	\D;|<[u:׸WJB5uUɼNQy>n_<W.D߰9/6Pv.F(QiEfvԱhBLd?3YnƧByP(A,vIOQPkb{c!BVɇ<]c3H/А]WZ7493aDv!8kxKnDu}.MC,U@s&]|D;<}`MYGpXszN\b$Oڑ6hU'tjWMz3Ԏq5Kp9zDLF4R=;(L3	q0h	ب=3kst|ZctmB7,Ixmx~B5U-IP7y>};}cf4ؑx?-LJ5dltLAveH|lˬTmb̤>+.05-&ʦ[5G(<E{,&>'U%\8tG:W5]t+PǨ`hbɝ*jfwR"DZ1P3"0>w75̳L'OLīP˥M77rW	efv?Ykŵ:zߖ*˙v'YN+eVLԚeIbKT0i5{%*^jV1+Ֆ22Tָ.J,cI:9S-7!7Ra=ϖSgX3:9`3]vKh.	rX^̱ڶ[T'wT)&I^qsj4WP{"Oٴk )I>x;k,GP"cY&ke[BX p:wsF?ZBe]C:NդQ<(HSiɣӌb$kn]Oָwޕ:3-,4]xˎ,tŷ:p45{_Z.cA1-YZ<xoZt"Qگ'b!Emډ͑:!kաtƾmʺر3qou^}loihpZcCvDT>3ȻSpa$&ZN+J_F	WIp?6Lm}^HDMp[cl!m!IroeVHUTrf%Ѻck`qCF|tX;{.^NV$VQzE~D~53d$/9IX3FC߭{\G~[[e,ʅ˙&v?*fڑ:2{\mqN(W4U,+*_|!0؞P;r2.).Bcv%2]*bZM{̰^6E;H.3HFǌ|0~U,bK4;ƛ9"ܘ[+&L9*MކcO0SþsgѲ'.)jx^D$/pКǎ7g-;ȫ0֍ș˦Oԙvm'(I!j&M'^&)y<yWAprk~%Wsdw|eG*H?Y,ݕ[_4f6~o9ndǑJ:-n^;W)pc5[dtQ>|1"vjڹu}Z[./-g:IV\lbƋ7*`Z_K*n{`Ö}ZbQ=vɋ|t E:8 Aq܊>C1n+N|5")2sArGuF()^JXA?@TxVB&\}4ݡoƥĉHx%?d.>c&*մ10Ǉ-3?Gw%]3t֗_P)<NRk/KDD/r<Jw$3&J<|!LMds	j$~hĘNY2-o?sG\]^A,GXJ;̡zha4_nx0V@c.[ʞSH2+8MKma6ERQ)5$G!F_r&NĠI,vFI=NI~.I:gA/**:E+*ȇ>}W4˼	M'kL ;eGuit]Io6T߉BqRgQ41 -"S0fh99ɕ8-fmK~mL!'!M)MM<Ix>e-F5mqlFySd]7>|&U_9rםqa ?/:Ȍ)zK5C]aYflIr|8lRHC68(Ag'kfw+	@ďYyȆJ7]JBP'rx0H5!7an!Nͬ&16)֏4ʈ,W$U0/*t%Mz}f%9L/(\(z^qDoA;ȬUS||dJۑԞjTQ+3!dJN~H/s"?_Z+xO[Y\Ы/$EQNlT,ؐ?'F==Pߠ,Brox\2H3y^S$,G]5hL(kåUg[>9T(J-Ssȿhk/@-"AWXq	I"|1:89ZB lFQ(ȷ7<hdB	MN"9~]2'jPE"YehtPHCzA?M3?K=$V LB?Zreݦq3dɏ0IC-	D;ؗ,vZ/^-ÞWtX&\d,0hY{iNuN8EQMF_`9ŭ3L>DŐUl`hܥV`m9WXvCj68.YӠ^+.e<G65H&s3.te!}a`ʁ>Zv(n>dpUzgaכGƐBbyNc-ҋxb	Q&˽0NX.:B@ nmXhhNĬ"/\<jÿtn}iv@qe_z>]CW-VɩFG)c'P>tܮFO!FH	{	s})O'	cf6G6Vd_ʣƧls:!0PV+>;6U+K\!l@ExgnyF?F,)n!^mH>Ȥ3fe@\ֻiy{.I(6n͉kۢV;=8RWu;!Iɟ+V2c=9(e)zmP'9betS:zhf`φSV):%&΄\7ĿG].csOnۦh]Ǧ9<eSt  $	 _Ǥ-CE	==@,6ˇJ$8}
%:.(_<]"1A};sȴ1,ʿh{Y+!WDܠٓ*Z{Jk԰'	0(\UKMa_-frz8t Pdp@gͱKGH_7["SjD_/,ղND?͈+c^ ]ֹLq06LHÉ}@0}>2M	$xՀ[ҲVyw\^1['`u!X4í(5_D3$>lʨŐ٤qi:;Rhdc=BͲۉ$	K˗]T9ȲJCd&bع'ΊZBnMFt( BiKg&K^R}ψɥIu<ŭi4el~h<pB4F4:ep Ws9K},nogH(Q=AW;;tKCǭ.\2A 1CxZU8Sc1o%8$|4өxFM'@Ôc8ĩ	ʛaт0p0S˓C4:Qp]]ƻ+el_w}ɋYk.c2nüږ\<jL4ΰcŦ5*@@!iP8lSA)+-pm!Eg+e\OPK6Vp&4o?4ZOjM}D]<o%ne$&*vTSBL_~2bcC,OЪbjF5Zr@X)1X`ݝeO+i?l8Std&	_xF5ql!	HzFcGuF)m6Hͱf8z]J$/X.Jĵ5)"W26L=B:!ZNlEp@ؔR(EdS6aQsulL>q $B9D{aiH-25BnՒ1cho@k0&}{zYc!7_a;<F?=.xM&;t1+OrANo:k֜tЖs!P+ɻّÙ5T@jQ]zRZY:=(	S:yt:eƀ-č30AŅ::ҏҞ?@]cLpGŇ^&cdwhҲ2D(Xf\\͏mG~ˣ 2̗_*nW<O^c95Łpv39ɵ4-ƂQXc2zs&ۭ;U	l/sN M߲]4"im5IUSW1x"/8T"KsRNҴ	6|"ͯTŅl9jEG`n0Em^W+/%bQZ1_1e%jo_C.F00i.X--frn>X=_`U~V	xh8A1iWg1A0 NmVr=|JfTD5	fEj.w	u[w=HCBoI%$O$i/)ɗ=C:ۉZݯ"OސSw1lۃɅHMDw{[zj*cr2FH(,HǙY51UaA*W̜2Z=c2jr]cR<,irl\̗)c,=&$PږF]0q%x+G\Cu@c`q+%ڟ'Obϼ Ռ(k3%k.0lS˥/J-dhjsõƕ.ewLx;h>2Jn@]pې>UWR.DcKOϗW[4L(.ɱƔUO0/F>_6TxKYHNnښ7q1nEUdTpy@C1{ijv8,}uCfe5{1'(sD{MgE2DiPo31$ύI<b1dڿY'o9+dZêUxbn.@mkQ9"\Ž%mPL3rq)ЮNGTY%\׎/8r,4g٫QPYtb8Q(?N6*ע+`>}7IkD: k`L}~ǽb0}O8̚/]"\j8jxv@g;Y1ˮ5ǯ@nns5~!->ǝckl*N/b6N`4́6)̓GtYÂAQFƀtI$J97[^`}y)e&3(f+zƶge`G^&~*Wm3*3{O]*3,+(Ĭ٤ 	d_r9ohZgW]Cq5A2KL'?QosBʲ˓$<\Ɠc=Df8&'˳Ud;_U:ÝM|d\j0MX&zABKǟf!	8ɏHUw7j^$>Kd}fqɈ	ŤPD*LXgiU&ɥ>bbsԏKO`rCNGii-Ř`մgzHm)oYrLAfMrkk:`j8s{ObSJM")\ |w9d&OtР^.3d]H{MB(du]~fI32olQchގoT1dIIکuAV&ʍp@|%ĂBhaޣ=	4B/{tlD̮;>pz!IRiϪQX6<ĊxM(R1ĔJ{Ku_c@C<?_ϕt)sX!oJ&/_XC9wp|NɆTDuդ.cl6Ӎˎ}'JոAUWrԦ7d)DajD1WaȠMփ >F^.A*'-p	0'fHe3@!?PltHk"2&b	Թ?$:L[~I\x"sZ"M@Qeb?d[t9ZW@\9u3:}1k_l`X)w&5qƺ$Uٶj`uOōqJV%a%.Ŵ;WƤrӁ{Ԓ<	8ɫ-$ơ/-JSJ9Q%ΏI"VE7]J6')F0jo65BK)_4|f7fHAk8Z%[.ɔLK5׮̵+Qi3	2rVi	(Oq7rjsjɼuyɅnq?	jazBn.{\.ѲzVQe!̂O@˳%t*Ķ/nsHYy44%dŏr1oCv{>767cU2F?˸,~w3V/v`fApc+7At1>6H5WP)ޑ2x+NjO|	ͷK4ɥan?F	~"$
Ebp܄"͗lqu?qz$C'ɛ^0ҽp<op>lHC>Cm6alA5H˙@d]1I(9kݔۚNB.@όu˧c7ۿ|tUlcgL%͜HOM6m`sh\;(}+aيyc$[Z[R'ɪm|Ad۹e&ϯgق-D8nN7A6Qw>l-t9'>76<WYIKƨ(%;|RŽ`Bp*pQǪʒdEC>T]>kP"/K*:Mj^x!yF,\8*KW6:B<7>hCLK9!2ŉBZ-%?8d/HbcFzJBcկ\rsU6+h[f:9HG}1foŒn\?Tjm}O,JxDӖ|14,>*nx\Jrɣv$7eikPBI.Lݼ3ˣ?<Ncqñx({ VhUIuECO+M4J.֓;|Qbr_x|ICI6)=23y<W[EC	*O[Ls|GwNjj<ͦCU,Ɛ+Mz=	mDS>5O.EAo;e-4JgBd~ʦdw_{}e+J\~ŞT<ek7rjPKJIKH6:DsB==YF`)ܮFQڌrVdayMS3&QW)5V<KlT0N	Ä0̩j?V}:GDP1CVFB:|YRE~ZiE٪03UdhN^kπwoBQG=|-jYOڿăb!YپOVw&?&fdz_b[-'{Iz<D^2;;\ŹY>hܕ"qID.)[$ݺ%(oeĊ>mWߡ'5ƪ)fؐx7+e߁f?zco1^"t{h&"DmB[g1+h"[KM5S9X-ĔLqKO5kͰo6"`*L	$X_Eغ91>i|d/˚7|:d7$i̀"&I	_ĺÈ3-}Ե{y-./@4ї,u@GU12XsTt++*kQu[mM|"![_9~,Cc5~WʴV7+bT'wsȁ{ƃrɑ	umnG}"2-(5@wi]S'q$^ІSڇ)̐hMWoį@E[h.3A}|0DhwS;͒=*"v*'a~-Jr| YĽӸ:Mrd;\^SY{zWo=3T8aixUZK4+^\4NQH'a'+S_ebUyg<G	N!	wȩ!߇R9eM{\i2z|H;uTqxslM;gXBro̵wyqe5F}XK֎Fx(/y>vDJH.`ƕSƷIfh ,oX`Ykv%O3.	WZ5=er16	WӢ-Q(Va:EIǀ^d>4ؘɎ;-XQTZ4i$˹|[.j@}{VG$Yb,ǈ<4ݤcmC	~36'IU9>@t˲ym=4dINp!ȋNĠ7vC+;"}1YǇG$({BܬLoS^e@rȲ:Bĸrii/d0Ĳ3?nK[%Gm>ٵ68JF2a~A??D4nf LDQND`x*V6aPU&Ccį39bœ"c8>u;ݥiG,}kiĬkѶֿc<2),NE3:ΣT0W6R-	r<VX!jck8.ĩU3(>oϺc4̚uTˡ=.0qw&ɚ,IwwmF6ɢԠCzto,}d@.4tx]fӆ<moWe<xt^6\L*O6`6R|wL_'5	>߿	š^u)?.Sv&gVYF*s̶?DX@q,Uh}חbY؋bEo:9W·֤<Mg;)AΟ!dWD:NknGGSj.f_0E`X4&-[.px;wȽ]	vRss^ԙ{cWuIX:;RȮC8qĢyƆ{4ZM+F/C0/jFr+܌7FKQʫZhXk=xftJ]jWrt9snHQ`jJo(KYWMv	Wa$c;К;09	BԒC^eyYPa_˒aq0tI6f3m~4.Z8UU7ʼ,TKȕɜd{tOJF4n>Ea4p՗SV$ĆI(ugA_N5yh8HY-BFM\^OjrĖ!$ml(y4ÂR5KـLRNȒ<FjAڛRC}=܊ZWn$/yZa	kBD\/ُǌtĉ`d	@^̙fpCYly8%[IxCEtʞ9Nv,S9;K΋eUG68nvEWr("chOrD;-}51eJ'0j`JG%f7D.-gn!/ʎJAp1l[{;	ZߦBZm{lA@\ŏKxʙ)7ȴJ=VtVMJ9KHRmf	bj=a9(wMxDEӎ@h	:L4X|m>])iZu0'8lcJ=)rc`L2CէJDVIZib<bzGAiѼ3H8VY/Uɯ}̩Kwc{@tYlR%gV3'.Oʸ̳d_֥Jٯo+[T>eBLʚ˷œȄ[ׂ{Y!NTj*1|h"7H+0m2˕j_eŦM1(2?Z6zBHi<%5c`@2A:\nH7ro4!TُA`bLװB~ļWS
Ɇ<&r|T׃B@xhN\͊In0yPߝ/Q/RޫF":4%Č]0%3*&s-hO1Z?u@(	"ۜ_Dƨ}y_YǖɆ|aU&FΖbT{o86jjm.0cmDFPC5$H6Y 5	mo/OE;{ЯKFbWP\f͡[5fGP[Zǹnֱ΃U1, U% <	.+7׹w>g;Y^B$b2<EDn?U(heX!M̎)=oAO~^xzZr"9UaSٷU4Ŷ.z%~>OĖ%gzGEli<XVHtii\6:C:ۮcE+'W~FCfݱ.c1P}hu~x^8O^VpFm1rjw'&@BOj%X}qƟe<adKxD3fq5nD8h,;>~ YhW!Ǧ>>pTag+*؍h2P4G\L24!P6T!iQ3%Cwz1ƴh7j:{Fq9@a!/ˤYŹTSp&qB݀I1<Pw.}Ji~g/SM:R'@oԕqa{9M}iBs1)rMۍ`>cUi<Bn^^_K<n,P'kWeh |r{ʷN,f̢y}t![YDQUyFgߤ4sf׺dD̗}ٽ~&u_$Ƚ ĸBҎa!ievZWTgYmɝDa/PdTQ	-pzE;s>O_\<ý0yD|2HGRGQ۔G6Ҧe/qYxP%fXMYYryd~?9c.@2?q>Ї7`OCp4Āt'	3]͹d_iR?n-3NF{Wsȫuэز,cCފaIqfoT*/Vu*=}Mn(Q@ݫu<t=0͌ST*ogD  ZZ,^TBZg'jGN%%Uǩ %̞<޲@Tr0ĺ/k͋ɁJIK^>dT{{j6>|V`_GcXN.&M$W0qWgɔ[FyŨ/{	$`$IEYq	gSnwƄWsdE1 [	p%$O$íJXrQEZvI4Ǎ{ˠTFݾ<{r=^`˜^^bp&ġ_ xKyP3=u!]OR,>݌m2hDN kpWVea(,<%}%|}Jm)PV0qd:9;Ǘ-B[<>E'(WcMR,~zԥ_pyZ;aNj"	B"^AءkMa"3q1DkcNWbt'd.60;RSN*	6~B13">;{aŅJH15mUݚȳו&TO.x7exwSW-=^r]</_F';nhnۣIU*RzLfmTqŀ*9éB}|GċN)͏C?nӱ`,}'	K=k58T.R9MJ}9bmE7>fj[l_+ʃV?m2@,'*7f6Q\rߐ<]ajcɹP0OqkqMɣX^&9;P}{JخfhnjpZ=ZX)4aL3NރͶ˓]bw{J$l^nwl!}Wl?'z4Abi6M.T&LRo;?]Ęp	^'\_~RkF`\+n9ق0~KhG|vυ@Ƿ.^b/E"oJɌ>FYȧZ&V> `-<ʵʈ"iB\m0gm{VnSXOƃ6y5Jz^oɶEȅẈ ߋWmz9>|YXdOvYۉ8:V}nx-qCW^]<@y2h>t"hǳ|Hd('fd3[̐ɭW&6	Dl6(u~y Ƶ=s ,fL5aRÏ]Q2F;(br~%[}EXʚlK8qkƮ%$Ŕ=^+*Q@9sǖfw/Υ?ACe_F)!C?*z/ģCmlTLɐ.&ԧ+ACY<ΛjB8	y)q~E$TS`lϋ~6z%b=Un.Y7y2ګEݶ /~d`{Nq|$n(ID6(	ֲo86&BWkO(0{IhƖCPUxbT2Zq+˭+hF7˖Q	wOFz2]K&M]	@*Y_y!O*\RDd9ҜV"fq(`-"*"L!&/`}Qm̺!T>F*YRQ/JXkœV%zhEG5%;dhq'vagQA*@U:\$ǩJXRvQ-H)LkC0t̜yd%BtF1e7@ĚD_-+o-Xt!ȗ%g͋W}oIV&~{اYtײh{2:RW>w(<t?dDM>kJJ[!.pɄ'N kۃ=0v[)'|T{r+v`,wukФHjPYхnxŮ@m^;zgU_0Vw$$Y,ґ~H$~7:"UU56"K\ݓwqܗ	EQϽe}rW[dovyT<<JpN:mbTթ=TM8DǬf1iA N?o=-x-Nx8ZH5 ̡xG3B-9g(FFNG6CD}K}7h8ÖlhxW*Nt6LB+hr^5_6K+Cj,eZW.!w*3Q>l'ѥdW@9zoV7޴"ODMĩ=a|I'ȑZlwrʆ[jD9_҈OM0cVyaEvdrJ)skn?Zx7WCV
A<`PK]lO;Ϫ)|a9^ͮ/&b%elTȸqcq	߾Pl*m1h8`w~c"iEmavcI{'ȯRI}թÅoCӪ<?SJ9-l	fC:|Sc-18(ҋ(\~VǸenԈd(TeRiz5lA<[_e:$wկfwwiڮjwЄP̻{:C9w9}.E˧;]ރ3rDm	i+!^5:^/:GNlR@rf&X|˼&rO[s:p{CpMD<7`Mn0Q4\^yA):0\j͡m-3,ӈ[E]Qv!RML/ѳr0S|[LzDo m}ڝ4ƕ?*׬"+ff	>SP.|I6F$8$iz˃`ًgo9w	YOGb33ܷ5){R~l>ˢUmuN:͆`tu 'zAԃ*[TƉ$&dCx*McPBq)3'~1r&YVq+kW?UN* ٻGJ˓zQb΄J*!*JC4c(w~=ĿFa?AI3Nyr˰0}8f_m5Y+t<Z%'KB--k &(WͽA0iGbB}'1FfD?Y)v^.Y]ŠXb.v**~UC'2+ҲOE_W0Ff?jԶ:úK}Q2~CqE|%ǨjF/@ezzl{,**sdY9B^Eܱ2ޭHDIߏ͙V4	~*l}%FqP4QƸ{EWH{1cÍ5I_\7U6apͨ3|FS1|._wEN(5.UHˬ?%i*Bk)`ijee]w{R*5xc.-G*ߜY`T4kuurP*س0s/7whõqmma:m ,W'ņ^Ǒ}7HFH[/hY'HVa7>dHEIC\mP̲џTXsTT@98UkS̥d?TxA+uːwb`E!}gdd5?g:{3Y	O/ +b$rTBj{fpuy}%Q̬c)2,AgT3z[a5SEkwsThr}qWn>nf16PJ˒e?o-d >6 mcc=q`0l?d91ݵAjm\k>O	ИMi|4_	J&ns7lt)vfU;ŗLL?ctX8Y)D^ 2V\F<;Wdo/Zj_hn)5ýaw+5PGb*aϐZUv_S):XYLtaMTUjLO5k׿xgFrV E(_YŬʎ.3r<04o5y@6xgh;_^մfXXs%78Ĵ\+ϼѾEZ'g!ĜV	^Ǐ<_}IQ?uԆW'UB_)t/jd)ں94ϵPv	=̞TU{LAu-_mnt3ί|HY`uֈ$x<jy͍^3~(s6D>9M3UǕ,cAŶmL$̡ddX/9HA|O1ЮnC=Hh3_opcwȏw\F	lM0]:HC<(JBƉӣjUid]`%*ˁ;ˑ+WKj|B['+~S{ xV})SxuGw3A-Қh˯:^vrǊQBSiP@˰Dn׵ȵvo^'ċ^=OO+|pjS2G)$ΜdJf+5CŹf}N_-e:Z_\"þfk|H6Z	cnoiӞ_X8@_%g-go @0=_}WҴ=aXhcB.݅{&5^<<+uzQo| W38)[?TafԥT1,7"ж+]9P/΄<rů`R*R~KVͨWǳvBfmXci0̉2oiy]w%JZJXa7՟{/PdK]z_rZU+rן3/,si'T`9]w$>TMC.'ѐމ,bOĎǀL}ԈRmwV.6MNM~qɴ|(~o<j&Ot;̌2-c+G5vwr@T.@%ٯFa-Ե(?A3uC^gn˘*g	Zn<"{ǉa7mdW[yYl$rCH{r:Үc"ɐ;5kgRpWƌ^q^.]~ʸT1Pã>d:.;WmWmy\{πb$Y2^4?Ht	dIY;@ǝY_Di!$9<^"H	da)MK	X`8FpSuxuݥ-É4ݝŦHXUEGsBgKp@p2DHc!']r5vp'pR@'v(m>xO)}IǑ28*q!4V)ʗ%hqյ]7[4SQBr5̥8SlސXi(;;_IsVې>˕b0LvD)4r	bYπɽ'C7Wƚ̪z(ojR}_|j+ˑy3AM>UDx%V`\X)ћ\AMpGMʱƮg$ܭZ{3ZxGx<)}aY}^Oz'q`c3r:&*2W9lzc̀5@]5^k'sx!Čopr%ǡ!)G^%77hӘܘf~:tm-"HP~(Oյ\4}jƾ=jnSբZ9+	ʥ$6O~.@i5}ínʹzE*|ص8h%0AlǪcL4_m\b~uȹDƃHe!o=>(ZJ"5Lohgjv]˝J
Q@]&r0ixQGeק)@' ӳ2<_sN;Ӵnd"/Av{A.ߟ~O];-|Y[?v+Q$|MMܓ6֗(|XmBząrrZxVBg]"ٕKaC(cTߢ_^=ѬWc)<c?RʆK|"u?wGZB@5v+J\"<NB4kUB~XXSnu9Տ=	_yAp$2KiVsl&|wެd =dv,2M5oiO=@MvJȟKeDgxVuCvbcja:	]g_HFzű.YllB{@\wǼ(m$oȚ/ihiKhHsYFlz5dCksi6p߀`>Z.	Ʀne7֐+Pti})5!ڀkR=e'HiZNld29e_Ԡ0UloWy1ƽHHȣMgaEԖB]nȝYMxfCe&?>>MNh|b<E,n1\kxZ?X!ig`ɞϥ'J2yM(_AWΓ~*T:j8QӢ;WAo>1<0aYAZ$<nO|rRd!OC({O$/Va+=X3H/dn{LOL|̛q̃{be	+/}yI9_gSuvNO@El<>nE5^3l&iz%$:X!~8}:2dkk8̝-TaUdi'ȲOL*O	.yboPawgQN6rg".u*oZݕ\9EpN?JNvERN)/4,?ϥ%؇*rWaOlTeݲI:mN{MۋH;lB]N0Hy'sH/=u:6HjY^͔i^hu<$hF.P̩o]	M'qEZƹu/IUbB;M!y?<*t[6	YpɳHĩĝ?:Pg|EQeLL܎ρ@N&2g=Lq;JyLP/)3K}I$AP̜(TښZPGt'qQcP+~{"&}&;;׏py:>Ș9:k`ZT2ʽřG=S:LbMC{t9CM@*"$&-_K\n"1oT~kDrjx?xp}3I.y 7hAͪ@HF?'c7l7h<,H|:̆jȶNDA=ȼHҴ]\csS1/k~Ha:k9=Ni53<żTμw|t'camȻt8^h[B8$K@FsOO̹2G{or	YڕNs|HTY͎OaH[saӽd`r}D41uhs>, d1x(.Z@wӒwkBr+TbajggSz͇HBU5d^r%J0B8Nr2٘&tfXs00NaƼT+:H-F-DtYAdUbMK(L9p{rKgGIxc<;sz;zyn?duʧwp46*XSwWu$1JqՓ/iB>fZ[PA9@TAY!Gt`.ð}bfU̐`D@rƠPtJnshѭH5v(*^dlF((=Z 8 z\o7V$8?ȸ͈ǔգ!(;/Y}Z)d+%|k\ʤ<	2X/8Gsڝn?wz>ڴ(յw4Pِ}%g9:qK۹`tFNlCƔʴ'lΝA,0^J+@OvIUF+!dsЍլly|!}78;!9q̹g0nֈuZu/4h.4ۦ12'R:_qyɧ`_4?8%?|R&xE@ʲ{}euQaى:SȻc=<.+UOxSn$(ZtNWtSBt<͜>sc3)Wfhј42$8KŝR]Ѝj)Ci$rMXEx0h/ϱω&}>׉φrz	LpF>]z`lU	OK&բΣ^(2˨y97R;~.AM*=V"Zܚaђ[tsa23	GH;0^`]QL=QA&aGf,ǋѲ:<0L˲@ͲNח"l\ݢM3Έ)f;!wH0ݕQ64[Bs$-	Sk~}F;N*"o@I7D:yS_ivg K5r,d@:fk0\ a<4mԸ*$+FSՎȭaPMfF08'Eq-*$}1	C5>A_ؖC?![$O(Sir+ŹyǖI)[\CNʆܛeUa5'i|XFEZ;æXh+O7wIQP5Z>%"`3q1g%hb)@}c3ؗb0qv9 {Bf~LÊq6ɞ30!a_b,w[Bs,B_yߞm1֟kwSWg:ETL iz{Nw)PE[=d	f7	|X@/c}!m`fWvwdB4+xNL"<{̻3x Y!AepH)TĦ{cŨ]o2+q˃o?NO~h+S,L0>\;6xeAq_z*gECߗ{ZRF\o-ݖ|$*Z6[+@]}Y8Z=(`_-M^]V&);ODJi5ܺW.HԱA^7EǌWÏ-_ܪETGHQ^Wy$XIxW.@(T\n`c4ffEtP]JIlNTLBUZ~/HIiۤp'U2vjֺU]bjc/8U2-XnʚP9;HMtgN'Z֞G4^ɬ2Mbra0[4įZ9Hl9<TZp@9jqv^a}olñqog9sGϼ˷ԞAS Xa
ȴ@i3q, FƐ=*ÃZ.|eD3AE!uѾH$7nz*Iv3@"bn%X]n>Ȱ=J9\yo!͓V.dTHJv0ۛr&nJ7S4(|"B8MCg_P]brb`,,</^!	pw{)B/!PQg{aB4S+qs?Y6<(Zk{2G|(O_B\ʊNZ!6KFcp|\/a@\sQl}mXT6_ț+`Eݣ*gR@'Do9ڻhvZ=[к܂akvkˮk\JD*qA`Oہ!t*˜	z;li}BkS	\ʆځr˼07sXgg>nGŘkQf`jpk-V̩'KATA;Yׇ=ZT-^76bE/5TorbKH9~nG75t'<-@j'ѻPY:}?Sŕ_hqѝ=Qhz~F.>h(aBZs9ICU`p`["Xi!RȸS{_M>NUH=syrùrک.a>_l\i@UlKб2ݶړ7:e@C˷6h)֌!l]8UICEu*+$5p?@|MvͽzKbN`ڱMUXzZQ(u~5z!a)ameKL4h,Fl2+28g<kc3_[ʓQy4mE-K<Yvv+"PG/ZXlۚ;ЩaՃ$7ܵ5Z)PHP):K2BZ~Ɠ6I+<n@iO\=˸Y8DLXaڋ͵},t}-}ƯTn,8x`~٦[݂[}<IEب='qWBH2!"J +dȥ5fo,	ߴzD5n7ĪP<ɘ%{u6cxGM%_s/90[AͶ0")H&JJ܅ʡ	܍@'ylԒ T5Ơ D%@q8oF}D1&&cpNъMU;J|"D$_<kܫ*Щ6˜<خcۈڝgDg6/` gr)@Pڏ9CE?KZjwoƙb5yXNyʺŤ=LA?\Y67a@+9,1Ĵ6ɗ31!e!*9:C&-bxQ\%PN	<gED ׶`2ib|0[jŞDrXÔ)ſoJ-̢9F'vUnĿW;Q8`UAb)_S$~gv=6;	f)H`(\iX̒	,kF`y/(ch4ƻTz)0trI3v}ot]GhKfcn_Mq6;@x2~ʄKq'9\Gk2͙2M9ROA@\/(>>s^rSyj9W۬3wݬCmb\Dqh4טRBNW~9C֩muu0ɼAqT`y1zNn.%S%E{\ksŢ2Dd=.crj2{ܻVR6`i8T[h@bGoB/Z6z7̏_cCdg)umprK>æpiy>/BEլQ8ƈi(KPy%B0/@HzG.`"!'N)@H1lgr1B{{n7Y /Q.S&J&<7BŅ9z?-S zRxki=,+%=wa|X)^͋@CGgz>l_oGǳXw?()(pÄrN|0bi3NMy**ɓgW+=&0)	2w-~3AsLNlfQ̋/|:=3D*x9|7EtPf"<4+)dF3OߧS_3ˍ4	wQfg'˾yd-.,KG/-ca7bmWY׮kJSq{)Gi٧>CjkTI<{O@{6@ԜdҺl[u.1>@I8l)Hqlm$AffCKZu[RVD}O7@s_Ģ4ˡk{`LHLc}uVptrYAcs(K˃8O̎֓RJ,Ϛ΂;eʶ<*aıWbDX$Ў|HɡFhI{ՉsQ`V%&Pgn+ 5,Ne0i>ULhɌm.I,OIșyl[$yqT4HglA5KȻaÏ<%QV'yDMI5YZJWͤ^?BĠ`[2;	{Ϝ>,t&%ͬ0>c%\˄y2bPAUFN3_17i,ѬiXźf5B+ƮŢ'T,ZoW2i1XdxL.̄̇M]Zy	͒X5 '@frHt=LL YH.O~7_/wWYn"fj~e.']	j/ɬ34B44zƻ6ve7c(:uVsAuJ/o]f07LH_S;h+ˊaŗlcHhX{{`OIC1SSWkBHJjéE-|&gnsiY"y&._2Dc}ZKv)'2MB>)gnofa1Vzߺ/'YCKz<zm8Τk;"0kԴcgq>>|s^b1LءT{(?Y*3K:ΉZϷjTmUoFɟf0H+FDJ(Taѧ``(_bh!+:1Ev:Vb!Nfna11J<ke֑LMՠtpH^$Ep42/&H8Y_Zav/6)?/|ɹF<;X\<wRR1oh0TfsC$ʻiW+Tc^H	D-'+RGN[Vb._4Eۛ)YL?&7ڵY%'wלuè}ˠ^bs.C]F3iioAX-S
0Ó3Mp|c<S?UaɋX+*03iUK2GX"t, i2tGn$ދxԴ/.ۖ\?lX?ڌTulrl(]cOUۼ"ȣ!hk,ٱ"I?ĝL]d?3`F$yUe&H'+bm4l"4tA=Tw3f$rKuſשad:s;˷̝Nq%2:6.Fa$ ߬2.]742Ě۶FjBfV!}u!ȩƾ*[=t}cjZpiu(єpF\qY)IDQ5K@fİ?5o'L	[EvTXRTrW?:/x|@Iťy͵k7e^KSN_vӐYlFPZ@Y˧1;9@~l%Wm-TLX4&Ák&^\]e/|M	rZxxD?p1lއEG2|jUkcL?mgWpDg_͇GKӣdySF-oK$ڗӮT4^;ׁ?I[Pfjƈp1Fu/w,UE'3\.$dqvD4h{0bNn?o3B~+|Su$YRCT/OXK6Tbr3ɓ"ȗR2K	.h!F%T0!sK2k4me_̣w,MƲ2JLMlҷgں͂!R25+%wC	<x`{;f܌_	yUZ(ɟ}svRUw7,>&;=/h,^HXM;@	cGd5e?}DIXpP.{Iê^hbŜ6`_"+PP=	ʕź.:Geoy&_QiӋW?Nn~xHCRȒɌo_~ޛlQr%O͔xB;i`9Ш*SOK*΃u=қBMh&0lϷ4Z3{[7l"o"jWqD2U<e?Ɵ`c8ۆ;.18U4L|ڻrerU[i5̱0r/<3	C)ܜTaj"E_whe{hMxN`+,r-46͘	x:,.*03-pC)|QC0K(cF+&eF9Q`vL&w\sf'1۽qE.|Ì6bjySTU@^zz>s`]y<TrqM>sU:Mav*r~yƵLʪ,}R]Ġǌu'	TM`s+pUpaLVw9'͍Wv:sMLL)DVUb1|x]Vflg˘xCo(5Nsm7ȨxۼA}k:ʏˏNQ_Ep%0!NxAX8AΜN|$ګ\F&8k&/HjMMH{_p?t 	m=VoZ]pDTkXBɆZH".`?1hU	e)^GʀC$f_Ŷ5!jGp+zI8ŕFÄj+pkTHmmcbc`SPDlB^S]ޥK^&o*ˆNuTFjDHì8 0HyG{W[Ŵ[5XIF0eFPc2Efb!LGTEy5k_KղPǢbjMʝ)'*["Wuߙ?B~V٩OmWn_n:	ْ}Eh6677LgʭDPrO	VZɻoĉV+?@63D/XYv͞ɘԷ(ȃ0ikuѱů2ZrrT[R[_5!k*@tz4zldٯ)	TNpRxȭO&XE?\	9+̊*@Z֔٤Jֈ̫U|3?dir8@\4?=&TУ:h7bRD89ZZ.d0QəEF*ؗ5ʖmJx;thk4ezn׭rR"	G6$sԧ` 5`35ZA6NhLx89DßFzfR{obÙӼg\C7L(aop3?ge`8ҽkâ_ي+Ӳ}øZ/1ctLp1]W֩jLG=+ԹBJGKdhW+7hC$ďĕȡutVE4&ݮʂ;Yx"Ε$6Z$J\!k$Qbcm<GŃYH) cY]wt;Ǯ(.kPkv\ `4[-Vg>H@I1	:Mu1}fcWG;`[ʶArX9v(Dl(mSgp>MHv{U-N3hCrTM!l.kV--6:t~ȸ.z2M/"VV"KB!3Wjl!?0t*`$L1Uo>Đ'H$Vh!Ec{-dŵ̬oi%Sx6] a>lz~\kf˱[دw2оcv$J;McɭX*tHXSWUkEǝW.n \w%0lyT,"0$(~s4B!tOψ\++;KS0m˯K-+nԟ-Ṁ˥ 7t}S>8e~.tL	<XDP4{Pqص)6fM+*O;X7tL6L8`_&KL@(/B:(RtmȌ!z_Ŋ>FDL4ǽ6"jx,LXR'yܪIŁ5/hTInv1Ky699RAR9j$+jЌsN"TuԝVk=Xs{z˨ue-0 \8j3bl(>OwSc	RM(Bbg'??M,eqӣ`eL~19u4׈H]JU$A5nQRZl!D@e?ƶ)ΣLmnbēJQ,K,BD8]S.j:>mU@;NY/%DdǿݼjraW{*SlF	P+Ĵ"N*Ŭz/F:Ɂ	A	TX'+N42wUWHt=C.9R7CXvbɿ=owonIkO4MbYh-GUNiQ{<G!L>*`@ub=RcA`)556ۮ
f7P[|I8pDБ\VE\t]HF@ĥGP&YZ$EEj?	.I!Aˣ$C]dmtߴf)Fu%G%f7:x.\ud<eYXWI7$,K3z\qV*ߔL4V|*hJȚsas%4!e.RJ^ȅIeQm63osg՝~ܾAx+ߖ?_c	ő7PrKs`\'/_"1S%Y.fP$hއF	SD0ѸC."}{N eϾ3x(rC.$̣O|*Æ[Zkգqv.G!ć<	=PX "nt	'fΤ+!̱KKBԄD8e-TJuXjaJy?V$x(E/ΦQgKJ\iɯB,e!-gM^5ٮ[,ߵc!xuy%Ye<5.yCkx9PNO!HPnwś0QG%?-J`9Ɵ0G.%6Tg&?[Pxm0Xƅq7?Ӡ,u4`8ld^G5'LSRdEqj16YvZS0A@?dP3eFS%+$Uu`3i(|M8`tnEG/WZؿuWcL!,<>5FRV_B!s+v̀PޯEr5HKW4OR!3lm4o}[ƨ\׷&xr}"<Sh&!PS6lu9OSyk:tfh`dg+@qc3W*gXqZJ@GgGVn_8ś֌C%YvN<ΜoGD6w6zt%:%=iOx6;JpWB4aȣHD(-*S|א.O~gKB.NhnWB=LMf*KR(}t <w_RH̙Wl"cu1c!`cNF`g]4Ҵת^oNAۗXŏSs0bXa3ʮd\:ioWNfS3GnjDȼ\EϤ[WeLWmq+uU[koM%XҤdd{ap-mnv{ȣ}cg{Y-Kyӻ?B?tFg߶+d(3kX<UR0aAG0ۄsR@F$@Yۤ;3V0HR%d)Z_ˢ]E`TRS0*0unҰ}$j-@g)}eh^ [\k^<Z}k";F^W,	BOݩ,\8s4iyXW&i:x+M0	7bF<˄^T"Hb% 'G Qh8-62e+i\VݮKni^~ L{04FlZ%YHĀA9ʀ2UgMlQkAto3r"V3bXgާt0.p̥@ZبߏY3OTET1L=<		+U}05D}MdsHLb8vD9dIj/iKȉ.N2[)5^Αn&DvF=7IYN`dG,M_A	l-Li>r˳Bzq=K.+̈Ehf&<Nkv},=CH`R3SZ=^Pu]CV0o.7IpS=y@+.Bn~wό<b6`L7mV]zP*<HmL	\hT\kBm͂d^?Py;&j̫]h<G7S4AIs`Ab+WKaoi,3Rda8ge͚LM+KI)h(.9f|*΂qɩ9K1KvS\Mi-ƒuP8FnKPn~ai}`$/uP>d QOL\M|+1?߅ 0JG;[ĻfNsFMvZVүP	)sxg.-w`:,=0!˔@`{{qB͈6qG>4ȗcaalZi·'59HtA2e$K\vflpI*_0(@+$-Eǜa<*T]ؠذ9uP]pʿ53wxe)3KYE `<zCu;>.+u=qV9$C	Ɓ%9z41]Hҹ$D;Ç<0`Hp](c%|֓	SyHuCRmC8A%hItյ(3~ȹW;3Z&4x<^E\`wxʫ|o\Ywc}а	oA[H:@dsJSװJ9(ܚL?BPp> }U,~fZtmks]aj2)"9hBKuBm4dpevH\N?ߗ^P̈7?L6,g;`XA1Б=Dq)jd@/syľ4ÕbNm2'3ʣ*26<]g3NFqoLܑg`E&:~˚NqX/p&{jMK=`U&Ta|e+1̋>k*=pќ>Ž:H}TqʶPZi?8k$%-ߤ+J(@s~SKh3	Bnl'[KX_:\D?*15јįGD!cȓi.5~&*G.q"'42BDfQ8=.@V(1pMŵQDw&ʇ@Ip]VNcmr7	|+n^iZLU<pO;9w-V1u$~eheժʮ){L*P*%svB>1nss6W9Ҽ+ά 	fM rz[4Gϖ{ͯ"}Te`l_\d6a7P=teojyĸb7J5<ϷteE8RN$CYSO6+ic]+1B&|߱F7vˉ|/Rbss: zC=o@+w'!)͵Ź7nkg^N=saI߆1^HΫo7nXvϓϗp5hE9_+^L5=cm/k[t/qtg2uQU:F)Ρ.cFt`(Pjʎ\q!}"Ÿq9XׅY۬
&=1[hS;l@B/uG6W?!eͭ9^kd8d^1dؽ˧BCD4t"H8"~PY~f,'CaYt.5gT&Z\ZhjZt~CFq_Xl$J+v/1sel-]`z!ɋ\`M(eFICi@88BT	c>UuO&J\Y|	^k8}]'˄Y%E!$&?~LҦķJ|IɽXnE1i>ake;35i{,+"Uuխ@Fnη}HT/ߕU[KK( Bp@FM{3P̇weG!SV&t\[In.v\)D%m!Jȼ$7$hINPB]ceU^&4\Xм6KA $9YH']o΁kdx,@Z%5DӋ4>sdٛêf)XɆ	ʿ/;Mam5`?!i$m"wƊ{hƱSsmǜtWw[Q6*]&o:iC`)וÈcՋ-;Ȩ׷yR]CU&?4tZTǧC5,=U<,Dy'MhT?od\:doNvw_1;;4u/ä<``@W0K)H1	*>ЗZ+N`k+A1p·0LcJo%/ڕjoU]l?fSeJ2v,rVZ˜e4!= wɉ-zQG<|k:~\w0ʦ=0wm<Oz%qYNP3d-Hʖ3K>f̐IV.)b=W*P(+ۀGtY+-XڛX-YUΈXMw^.svQ]HOhV.:׃	[`Ȓœ X!18^yOIRԛ?yE̠<66/['Šv5yݼK158h@:=)maJZǊ2qhY(R5q?yJIl`N*7tqKlVŷҿS_6<zl'}͎D~1JwW*U1;BJ?	ahX},Zl	7~cen6Y]v?kڼ*ixx%i<WҹH1/^ oɨEvÄ6]N6A}}Nٛٓ&UɃn@z1xK3=ISȕו_)gNM&CKVL!}R/%äx==q2Kc_9)XzTvXIm}__Ցܐʲ֑|x(ۅƑBk^* ++֍rt;3)ǧvXݴ?Tp?lWlds`j΋A>|6GĕLdәw%̡dؾ6K-ZK:.Cu4ޅh.c/M7{˛WδdC}"YI׶ܶ%)8Q(eF^*`XveM=KޞVH;j54p'K3ذNY;%;9SdD-N)VFy$}p\=;\Jll҇ЌfXt>RV=ɮk_`EHW}ٱ\mf(˯J`v4mCF&fk0Rn&l=2/$"9KR?W5?d_4p֚DC݋ E%Ȫw]7?80[C.\FhD,~c9AVSO%?_ؼo3yE`	dv|HF~mLN|$2aİ25':02(hk|016j]\Ƀ10s.j70^YRȞ Nxqxy͏wYI^Ƴn8m79{?,þ`;3V35EöӚ2ūŁ0J(!Q"2uv"C͘\VoƱFpUE:ʽĔ~hEɧ&>zYч'W>VB]]D0_p9l8LŜUM/50iR6y}NǍ|A69{v~y.	1BEɔQ@DP!{zˑG@E՘TY2SazE:}>ذ$KQ60-lS(r^<LǜTŨˎyα	$+1;L%N;RۡZkE{B	$fmxjg6hU0ucs(Q'mɡyrbyC-jt~ͪrbÙM[)Ǔ!-H]W,hW7u44fo)4JyJb|,C%`ǝN҂ӇveT.zgHue6Ko,a)-"Tgqf;Q++!AkkJO+\pSf~zgjvR؎|=?6z̍MfJp,tn@YåVoF8UUҿ6ĺ-OGjdz"p@*ͽ7U/|Hə^ű`AR7Ac5Τ>,Gt%VIT>tyIkБsFsC͏f2p1T5T6jQ5>v%+,:UX^NSlCM{Üd-ǐߜfć Jw{}e//q:qA`+63iƬ1dA{Eɽ;J۸rg)qȅqdl7@G|_͒&<Iqƫ%&jaWTSok_1|Bh~|/̏n2ccءzh%e5G LN/	HSLf}(ePEDFy7DC1tuƬt cTGKTaYӛ"ߋ%>t*"(xo-/KE<RښNf,B=E$f?A[xz7cwZz!<h0C.'ϸ;KJƌLLSĢR6]\>J'\ls<VK(h˛LpU[xA.ÅQ{jVhKCʈظ,)yKȭP):VʜQk(s/ۭH<KM`Z(%1NvcĮpr|:=XOOx`>>J$\<>;HҲ8]!:3bp1U*	AZC!/U&j0:3dDnԑAֆƊ,F0eΆ@(U@c-ž͵6vɜ`>mMm$X*m`1EAay[]34f<ŬZXjt';MUUDw΃(?țO"3@*VaI;%,(c
"tYUwAALqRIqm˛'azIԢȄݠ3j6TIDP`:((`@ó]|BƷ5P;]OilGNp&;I(r/Ϧ3c(vk,DJà~E>W:vp(mĨF\X9WEFNyMq@cgK'1!atd5G	òt)Ǻ$ӼqAI[1=f@eyQAt`ſż8@=una~Y+9H6'6oɕFCv4bfso}}ftCKΟ?ëZDu[smaÃN;Zp,?aP,ɘ~n] OGH_BB&19҈=ԸaX-3sRqmqomJl0y7rܡgO|WY(2'pS7K*1a<7$,ISllGbζoh<F_$FErrҷ"'hɉhĔ9|	I|.R`fCvAЯґu(<0DkYp&5?o2M|~y_-sTƬԹR×	{Zw7vjϷtBY	hL(Ԧšq41VxƦ=щ6-J:}٨Ke"bZ]<y|4G$BY>r!&?RQklínI(2'ȈQGEzB76	l8VGK[JÎǓCs_m"6eă.%Zqar BZH}81v$R.a]@kRfZ[x\nX_9qůszWlwY:˷JUPcešbmN8u/ɒtKk]C_<=@A:TY&ta7Rlz^8[};R*[Jot9 ʞ3sgc	D)jw`m,C1WT5Ƀ'3e	2g~<t~~J=ŢN3b'ղV\G04R)ȧwҌ0a* ӝnGM-D\K.*Իov%HoͲqI!%Yt$EÏUǲqJ0orGOŻ)I5uOz^Mð4MID<j5:7fbƸn3{}e(.%m}--uKkT:ZgHA+=yEn5f˕I4F>8Ν>uowEXvc~]^>OV4WXOFA<w<H.-Vq;mX@I+/m]*Zh4RDh@9Kx\iuF&)ƾ˙59Uޓ;!@ݷYpuI)/!̇8)̔>Ϗ3^~6"Fj$><׉{~"vN6@hH.hn.ʥ{><lJmtޕG:rrȊ?aZ"{4PfgχTI"̫ZNk(|.Us`W*9]߱TcȞBUq]I'U2[0M(]x<"?"ʨbV^ҶKeM]c<b2}Nsw/xZ@b0N%&\ty6CEEfXBdFRo%CYH1pfx:["*>Z/N*y.B,~v0N0rnJ.v	Ɋ.byuùF?m+R}]ؓk",N$aG̤w1wg*}*hi%	@b̒9)ҘRI5e\w2yoNG"e%Up.H.V	A5Ba5&IN^MFd4{h4BcMHT%%yHACΩGGMq	Nּ|-'m]A_ܦU%/6@Û*>K>T5z(WGLpe$+^m%s$<!sʫY7]Gܰf4su^6DdmTk|,Iar=JWFˉz[TIvdȮ,)˜%,U6(Rk}E4_jIgV͑Hʼc,KD>4__as^[ƃ0vUYȵ3)$KwjplokeȻCGRC!I<V4SHh?G}]o?ߐ~lwmyTn`9CuŇY<aȢί8 k;!4Soʻr.|ɒ2g,Q*my{5:4E	hpUٻgbNL p Eԟn5fǩL>hr$b!o"qPYXbww΀"j͵>ut(ѤA8"m2eoUC8+}Z;RT|-	pI4i}GD\+gm)zQifwRC~xELrSͦ:+Ԩ/p3=p\^=:)&r$c[|Ja]`aypt{Nr'oϘ:*!l9VUCoxM"QO{`lqQϦ91UYY`3~)iZU"^H59?"_ wHr1ßsK(z%wS6*2~T:**K6hglDGGtl-D+@]aP(!l;>71݄ߴҘ̛SwJ|f13o:ĵ-zwMdK?kyE$)dĬrmÔH741yӘʵ{^L;	h:Ѷx-Сd4/̻"/eXF$5Ԑ	=|'(5~wAE0\M;Rދm0DU-ZOGYPR[ysy*3%,30=@!AQ>ٚ͝Cc9?ٵ^5r&ÀU>WYS͙Z|8I a'SD(I3Z6mqߌ[L_`uM;l&m/I2.]/p*ͰY7z=hg6X;jVn&?N)beƽܙSbE>Hly4EH^sʂyq ǖ5SmPxŗ`G\ťu<AO!8.=҇-%[D22[D߼_l{*Xiz̯et2"[r޽@d7en}eYܨP9.S):Fiͨ%}`g9=͑ia_I\{Kʘ.fR|?OO&̀>4Y'?N:	:_3t*Fz,ۉZ)7/6I<%G}o-0
q8M1ɠ56sYw+yWz,h[G|o+NW0Lw	1+YV|"+Wj`*HjڈPG<hßF*M s!ůWҜW;\q"K9کJ0_exhr70s=ɥ5Gͯ_GpM4Xll0HЏ;EK}qKCYX_R:r̚XDaYԾĦ%x|0((Q%cj3̜Ťؒ	`(<֕Lۂ1e]_Tķ:	C,fCnaobN-nir>f.^I$Wʏ<Ch ^K[TI6lĪ_59A0Ghv[w/N*FDmSgggչri{IѶNVuH`L=1L|EF7FVI~)@1Oq!ŶyBf42IC:LȎ?+zjeu0,-iA>h'ѡy+ђp6,%J1C>,{S.h>*"oHA.\8,i5&Bƨ6Ps'=3^<IFG[k(+FbH>D]Xza.nPKUK:ä8b00(Vu";	[N;	EF:)9Gȏ7ap+4{z!(1VA'X5MVҐӞC5RA%%-*7~>AMR|J>inuنI,GOJkk+_}ÿzLKUʔimD!P@='͹&69-vm^!sQ{aexy<>1 5%$},/Ėh_M=̷(pUGU`ňS[ f3%Bk8=!c,6%3AS[ضyD$RȮȶʛ~^P:RO{PNhgӨSj_Big	bXl9L65B|ʬ{*5^sFyq;jqZr,<_J4WP?K[bg%EH{>	BJT:${ڙND4rN'3O3;+1|8W3{Cd&̟$"IZ7qF[&WDΕt])΂zefKSF=1gim{UO|7JN^s.>S*~H9c\Ví.g/I\[z]A40uN<aɷxMιNާa\o=2SۺjrU4w?{-ɡPÊkJ.H%ا$/B)2lL'ǆO}YW:tىˇijaRpeWYDGdg	&'ɡXXa9ˀt<qksGU73v_(}Z]ɧ5TB>L|	utezSFb n|<ʨ<ȴ%!"_UDɬspyV	`f]I.Ī0ra+^,xgv_oC̢%@SM~	G0NqɊI[tD{|@%f˜WIYU/zĵZ=4'XBmIí*,xx*Ϊ2.e7'4GtbI)8iaͺMC1pbjQo|dUyenIS%V_	/j]*xak\=q\	hqSvy%ƙ@AB[@wB"!Ǭy҄\~9ÔXh4H`CnN<}0IF:Tbg_XayZkFi=D˸_ʿQnKMY'Z].`8Ax.vH`^Rzuʻ5)%u(PS7wj	jn{lxSlyd%e%B"`hݭi̂=kݕdG\KqpL,H4,!t${h<\C=,4ؘL2͠'kH=Ҝ:12%[_Q3d>x?]?ǛcM`Ǚs{]s]T7I%->%{w0^^JG8*qLMh9cfnӇboa}P2_aZItf8}nRaSuĚȬ۴ +˸fO6Y׆ϙqiyGB8<ٱmT-DXȗw߄*f2Ewq5`2E>jEOi!?Q	ӲMSWhVPLhFob.6;ъ;CȇZnͯv+˳n?3{tvD{.hxyI6ځ.zy(ͬ/վ:)2nCJ 2r3LyҴvQ4`n)Lcϼ>[WF+E`K8luzڃ1B"^CZ7g$ڵPmc^/=s5uIrtjY7D7z<Vu*Qθc<	uz/2˄/(@1~)OnZ*ϋ)j.q=J&WTB^,KtS2M0,_8;wORWTMTLUTe;lWj~vV&Ìؤ{WBŨSr@G|o߅0ӂ(]q'Pi>/g?Yz<ʎDKKqJ	^&cbزy~lq-GϮ7NӳЦB\&ޥ"̳^uAZSuBn0ņwXdƍbr--pS{Y88/Y&*_bU,zĸ̊iܽ.ttB]0FǾX~3{Xf?ƶ	n%SK9N߰+_b}]L]Ŵie+67[h0eOŮN3;g-2C.h>-hsPyƈcYMR!|&>AhEMe._Gͪ2P(H\%\hp@4+[pN{uH0cD+i*xU̐QlD	Ʀu%V18lc2c?q6w	{io>HZ<!=%yw`/,ҔR/(4zS-{PÖJKF4ҹW[z;.гQME~Ђ_]08S=V	^v+7l&z_Jfw9	ʧrސ++9"Xgf&&n7D͊iLGt$6`gBY$\	i4lč3w(bn@auh^aOBS.ԧ%b,*FEw>EpowfxEbE"yxcq2%VBgFwJNm,0IYYBT>c
!::ag&d8s)V1F+vNJdpJbDf)(Gu\*o$޺.F$]FC*EzvBB8E&%2W(odKlδ̟YvI2p'cya[;,?|V>\\˦60yYF|'ݢI͜k(["\p.	nҥ*mZo9}{שnvPMP|HECS160ǒ/vd-3Nkw*MwA=?>L9~9n[Δw	G܅lC1|hzNEb]tCPl{1͒a{h \eq=5'@l7/?Z0͏CGwbNڥ4v{:\@TÎD]^N6*͍&L-ح8/,RJoޢY~9Lat̆ö	c6	!c/\`ZEi{5	&ĔY)[Z(4DK[;6%N08oh<`Xo on{T.t|2cSQLy89n[p!yGDtn"+kAO)UGuTR/h+g&P\?FP*	zC/E*Zbl{H+hu):)pӱnލ.,9ht>7'Y	^t$Hɘ˲_-* 6Y.atRG0G|ƕ7(=B:>v\bQA/Bz&k۩ ")ővGˡcʿN]Lbh t)jJ 0=wmM@9\xRȇDK$Û,1_=i5nK/0ݛn'݊8l$DjIS*Uݎ("6(+ToOgwW68B 21n>VMWNm̑^>>wL4Jz̕zD+ׂўd0vC,'^	0U\cݸg٬vhYhkwȍbg| $h62cC<nS1LdCsAVnOْN(˿r1kNZo|:q_*"u"Də<<%E@Zy60Ǧ{Q})^Yȶ?:;H*<]YjǘS{"P5ox2_E{s6j6̬[1btv/Rк`Ǘhh\x`lY	k;	(q8"dÄL:B)v"iz7,S5ZVu-_R?c2N_V Bzh(w4T=u%QRYъۚ՝>FŧV;0b 6 XVBŒm1AvX!3B\McWZlo|S&N_rAt|zgsN]foĘHw*eJаexز?&y6NWUwǘi%^V'zG֙D^V3!r6"z-?pe!hѬ(zaͻbvʸ;=(CĿ(|>.>soۉUqǧ'	qz؞՗	1I!6r'5ӭNk.3Z:LVʡ!bB̫oJ9Ļē\0L8]KW/ҮqOd\e*cu`̱AIiyNH)*HǰK̡ۄ.`"mpVrləCAG̐=-LR7ġTʍ;	C`*}`NY;h>jxuV->$uajSAZ2r&k?tO|EXxh|EG)$Bɶhcp }%?s^dό Ngd%u%V*]h4o %~si5mgYZٕ|nkmFun&7VIg<b2j̼Xz2$FnN]kŤp}. <ƈ;~0.Av!9SKJUE1jl;fhqH_"ɌAֻD ZE="ykW|5pyct4HFCHu=cL=U @X3 v<OrmdNԣz}\@-syZ,Hny<~Ė*W$*e6Nj;w/;eG+o~X9e4)C(Cſǳx4<p՝npCfksO)d3K+2enѰRƢ{?^gNĪ["b]/>EO"D>,!LAU'N!PCRP;+*`F7	G<{Tgd2P.Ɍj;)*Æ^N*]̨TyR13fwZߌ^6 ɱUyc|G0"KVaFNDK4o:PV/9ce2}\b$vAsmBM߁~]lriL֜Z߀`]NսâoEA8(o+?.& )wy&p>].R|s̵=@>Oc7YAե iI{">?^yWʄiZmYwY+52Ā4{Ft~Űҷ0=LSFUB8E;'8*5`Ċ]TZd-^v.{ʶq<9;l_HhdHBVg<q4C:\xDF~{Hzs9JRE̅ik	%E2 'ۆǾ6~xc<3Gua2U0ԏ	yȖGh;dn{l*JhkϏʻ_]ySͳPà.pPqBז[zZ>(ĖO/4`2_š;~X9-aRg0/״aȆ6Zx !Ud~6hF;td:5q>IW]ՏdJeiORF*@0zcUzog4p|iWD)weNoʢ$.cK4\ԘĝOǁrw$5_IT'Cq@}_xvW>'	^>RT|xulD/jML@aƺQ!֜taz9rFBɽ0AQ_[+iup68Zq^0834FmĞj`_ȉWHmec14ژ}`b\M8KC$PlYe!v^ Cֵm$CZǭܴ`)6@5?,oG<8g)|^^,I9h2LD.Ƥ!_6fjφvWtПoT~ժ>i^6{C-WP?Y)V3J?`UHm'M	`;uE%6z%HW^F>NH;f~btΧy٤0VƏ(Sŧ^ ųǎ=
}q.k+(֬xAА:I	OrϙI`MkcD>>5^PяMDy+Ք-pޤ^5̋H\вhVWr+m͇J[BcYDk+8xC&7lL2Ť-NULm26x0_5{J_)eͧ`&Ia-'3*GvMҡR|O6YhFvDeZj*Έq5Ȋox(&Nw.%~ٌA5Ku*&0i}P9+mΗx8Ug.	]"KbMxPjq"MX@ 4̅!|4JM}lS "[_RM!ʳ&tsQ{1IAlT90ɂ'Yvpc*Ӥ	}UQť+~?.'̊9A|'L{yN)gy'W>ۡǒBzp=j.ͳz~k!zm!ڤ\Q8'2Ut_p}>Ny$}f؆a9$?m["xeM?˿I!n׸xN\^		$IFȤ%]r_m@̧,?	`2rR<cyj68IU׋^bEk`mkjG?جmւƬÒڊȥƵ./VHIBr):F&^hFJI~=s|ٸMM/>zC_GE%|K[AwنzMr9<͔g@X?8ǹPh}Ɠ}(8;@/'T/o3[OL+JٸCAu<eĊYPt+\T{/j74DAhf|U5UvCY_`gTaZ8wSBFQGHw^~ù>K.cX?Y\<zNT.G$XBzpH\wmvW5Ak&q}wfl?Sd42znڙq5ˬmz^	 `G,rG.@Z2$2s-!wJI&fP`Az;pwwD3D;o:q[Һɿ/tbG%,ܐFg'aKb$tctmGm^a_x^[6BRíyx%S*S< z:*Faӧ{ʞdw3-֮2	ǎ<RMDMz1L0xAc)b|+AiZ=5+yEÃlyR+L,j	\=d0ɤzviֱr+SEo3*J×׳<QJ--ňDMZb/4GPOrY OwNOB"6$"^:|+:Py ZcGCRVQ%}oiJA{:Rtjms%!L4ʘHG	's?`)}xÜ74*^]6BT^vƤOLCj_ɭh۫֜~[|~i)ixCi3G{Tc*vS|CZxj'Ⱦ0ۺ*.M6MBAIτ͵>fV~sUcoUF^"nr@Ņ1m=ChWzUe3DHSN(~4K?H';7L'*Igd~t0W |	rs[ece~fV{WD$5B35+У_ƃuJ6 wj.q'f?K g^3"PM-}Lu)nJP';&_i{(:/hȚGUi0Pěٍs9	Ş|BP=l>0sqVZtcC-^֬5[wn=֏y`<ILiF?!1cau`fn.%|$/ƒJDmBnuǊqIz7ޖ6		m![Gv]e~˟F-ŏ=9]-![gp?=EƵͪǧK4L?S1/k ɊF@ccnV	rL!$}MYK439l~u20$QY	ʏQ}0a4D@J޼Fuk1WШ)əwΡ,[iA[gAEG>R}˟BXw<';4>mf4_VIl:8]<QWh)!lpʯ`%[ߌʤNqо\ΖQLO%KLۦ7!~|=]1}}uD/1'eF0KݬKXE}\h<TUև1G2J2XGVMW59P`^K+	sr-^њvS1̝BuzM[iKݵ(S`&n	Ǚ	p01S`JiP[lϒ=-y}_<O),)vg+PylJN?6jLPUML-ʅ֤hhػݠVN:YYF;YbP70xZtBARZ*5-@Y*4gHFPn^	٦;kakldX=r]Ё7did4JaߥNdXT,zv9\ѫS_D vŜPUi6-L$eb~EO4'FCI:ѝôh)ya2׆~P=F`׃Ooŭdߓ:\[@-AˈepvʌfĵPݰR~C!lعrE7,R4d6%zGTG,)Ց[1B9yL:fisT@|>lCt<p	gjڥAdZ"M0b_xVLt3_P1Hvpa	8Ŵ1)$)Hc2-0c=PD\>.oEHs9XW̕;pؑ0:G!r04"V.vfSYE|WJ3H67w:Sr$uBlӈv:.Tg@~G\6^GP&|otbfPSI4%(/[G}OSƸzKDC)yMĆo7[ugďG(?gkH~.jj>yΏjzԂ*N`K8a2@[˷_10&,86z4m ż0L~c̱B^1ü=?guu?k-kt.GȴTcrlʆU<4VaWBuB W$GZ՞ș;/8:vٷ,Q,	=E8C7!!~ī:&\1aƘBɗǰ9$w:]Sg?U)p~ͱJU[ÕТy)0Ay}Ą4[taw/Ժ-ίrló XTiyCLkF"s{īe
f;J|fL/ФA1'I =E<	dEh>9T%GMxMtwz;AaÂ:0>.!3;̸ET\"KrQ~N{0w9`		B̼<+AlWS&YSAO."p*g+I!F xR2VTa1{l+m{ _VWqc͗PnvrP!9	^8kÕI	fG5nn.b|/&ܝUz1KWY*˔Y>B7\69g[ی1ɬ;E!yIJGj6й$zD+<Joct)7DL;:ׄ60%߬5la+Mڗ;^v(;aުIJ6%hoqcd\Sn<;^2V~(6߾sD^ǴiGKQ_:Zy!JM_֜u>ėj"pR7:{Ȧd0A=0-^VSEcGVz6e<OƠE$ХoGEțk 9*GqUecQ=Ic=/ʖL;Xv*8~D!kS{S_ߊKb>3k/̑tgAgp`MF*XpEU?qNEʅ}UY{><YT CXqVAxԣ˵Z]l4ggM{D[;n0:}7LǉʶŖ>q܈Z|/PtٽL^ːPTYD9"&ɩ]cQMCvcf?̔1brhjIaY۔Å34vЏ>^\L<Ug|K@$2$	qrm\Mb'ԁz[Cs^+c5ǟ̽=7֟Zy,ё-^!}=iSpKvӢ0(Jmq5!Ib5Ir*?T~a~\~PlrF~Ɏ'6.Ui4ʓstӏrS=T2ߍ[FjlFZEmBJg3p%V,+bcٷ>2onȓag_Є&PVŒ&R}^X4Ia^C>͌wSl{8NtX}%vufȼyȟwQ6TlJbcԫ+,VcC1ZYm&I/;/i"ӓrǤ(S)EĂ~	'%x5SX)q1YRQ;O1Ļ;ٟDG˴ٙ6ޓ͙l]gĉ:io-HREQ'@քmIB(}gSkY}E;I<eC,kb_8l}nVycXYRhЫ̆Ӑ'E^V8o5Y}nMD~zE$_xk4H`&mValdGf(U;E/Eduf8sMǱ^=lZg[Ws_$Đߕ Q[ v˄vkbޕ<B~~zgCRs{x6q؛''tPDsZTOOCFCXѩ.e?y;X`OBס^;̔_> YKI%e+}Yz2A-3l3=v̾ԦhI.02s̳,5,A?u{870{V7b&>\w,Ba8]fUSA|Bda4bփ; 2ˍܗ	9R0)8ɀjPe;z:sd?v՞kbS!Rt6W,ݫ]gv4KXMTȇvpѱ;g	e׃;xa[4`ۅxֻMΊ9JZ!rsXCz˴îɣ$@ dS~ʬd"W8RwE =J(ŋ|)'nL˛f4wBas]J^}kcpY[N\ǹ&992!Ow͓F8J|˦[-(G(!odrGqNlԅ&0R=TGuJGvǚDʂA˦]kŏoa8d*ƼH4.\}h=bLs	Г,UNE̅ˆm*?e*2L'+K:]GX+`*kYFcq<_p)"pzsWO%j/7gu	IO2eR!jG2:6JtpBPviugč0TL	UA{`:/i"4=DC;vHƆFFj6x͇[>+wE	۽)XWj8RԀF W1^Cv1!vB?8Tf%]rM(ɴû|KB(ZsO[\0ŏߕ/[Ȝopg$qnܽkɥ$ĖHS 5'AFUnkݨ]6A}bۋt(6)Q_OĔ,ŵʏlx@Э%I=dUrB@ʡ.jsԻSfߢQ{o^]؊o,SpG4L3ګrË7M,a>jPȣzo.,[s_?'v!{is1`U84ȶ6O/sp'<͠Z&;d	[r2ʒ8ܵi!ZenR;F@grb7^W0zx$-s5gɮxWBoݑŸ./X'{w14WV30uPRbd(.Ö9k4JOc=J3YIHpŌeս%sa̒ K̮o7HQ1%I/SʗCɲ{;RɷFbЉf>>K<?[͛u\f[E̴,_FJ*=Mm	lSy6^v&[^|^S=Fֺ=VtBkbfu3a<a)I>kmi5M"́wSZǻ*4:bqRXՁ:k/nȆȬ:@ZlsJ5.6[D.@/2ūI1ƅp3jІTS2SFNw@(W{EW%CUdczVHj;iI.}I'-^]ؓ/p $@Goz"K5F2U^8:T74>'Ŏ3@4b@h҆:=Lw3.Tpmڼޟ,W9SeʅiY9h+vK"Ѷ5@4ӉhEPi75iqOQ:F~޼}i1w[]Mٟ1ce߉GfKĿū%$^սW|ӽʰ;&$<^=8(e<wxRD=TJ&nE^7h/SRə!(K<QIBnŒRCM <o<VlNVpiG	|}@a>s~b
1@uŨsB$p$aüʘIKt[	Tɚ̦HQ܍̺+"{&7Ua,M@fŝu|^.wsųGcuȅJ	pQJʓQ[և-"](F4{AHбBCRhnʵK^d_Aޢ"HkB'<t-b?H\k?RqiV]P"8MrM)du,x	Q/>eP՗Jx`;z2Giiy*,KEvA]!hfC">X4DhPRZϙrVU~ԕ՛R^fJ]ψå6w{\ҼHsjqE;,.t$o[OUװC4R0&=I2AKxeL?'7$Sͩ˝xM^*vTQh6ribiƉC:!jylW̨oJ|>Y.;f\bVe.r_@eDkЄUQԍ<xK\R{F__KT!x>ue3BXEB|oo?w`>Ub@<@ȹDCz͹M:*·>ٲEt4>E̔9guP$Snl>cjeqT\`VTUy.LwGӓRޭ!q	e͊F&V<QӎOq)}	6eytͪ&mM/yazc0,nEjMID5)Y}j=MGNN+mG6E\{!xCS:o20T+BPż:j	?q5j͛tٞZipI%[',jg|r/X(zƵXIS,[7b 8uUTȷ=%_'rU^ǲWɛ.L1QI_XcyO|5@1BJr1-M@Ǵfr3͝y}sOW7iѾIgxs;X"[mLbM[x{Qe`;=[75O5bڴZի05DƱ	(V+$Ֆm_mѣ[c7cףrRܠSP-i75PӺ%[m/%}ɡٲ{LÔ7т7&a,>R"f4!P`>lߋ]b)/wx|(׭jUWXl];0J4pr@z/<āʨypp?~!>lܨPf>|dǷMʙVHǣa{iPNp8Y$;	Ӊ}HfN3~tO. }[b%%GnpQ[x7;+I(=&&ShvKHXڣDx3qt2gMbSn3?|jD0%]bޠsx~Oˁ~P{JQ`M.{2k|+qGj9}+]wrhTv1fi)QWQ!I&Ncш4O٢^fmȆإd*'rmmNE8GܞMH\\9.uB>7<ı5AJbJQ,'{߳NTcy[EX8WO}Úb\\4VoAtnȻ(w˽ii5	(o"šP%0^ވ+ƂI_'EE}0P!ǩjOW,Ddƌ[-W;7P!ދǖyiz'!=դf$T$H!׸2WwXw\,äJi>Qji	J=}*XdeE UX+ k{Xi u/q}իf̷){,3`+Ğ<A6gI:[L;fǓsw%|Zl	zhxȱ-ݨޱ;L%DW v~ˬxNJzhۆqt/ăV/vba[_Eoĸ	ٖ+wqgT*7,;.1bZ0rtɪ+04%p/6ͥF8Y:3$T+!b8NNG~(&{nrT *?`f1}xM7vEE=Z`ss˟[_:Z,h:i%(nV1ѥxFtnArmMc4<{`}Ft(sgfYG@dXcR$A%+SS@{=p.ӣOXتdfȧs4<WUMhyFan9Vx$wc_4]K:a?UthZ*Uz5lƳXh!vx{p8hH[MR}fְ$2A`{^|Ak9r3Uc m/Z4cyuZ@ʍ2c}]e|=ٗ0mʃzG V͑o2u">߇>}_A|EвT|٫ۆ$[8"K1"N4Àyqth޽0iUci^(Ѝ==$Gńϝj'0.ưlfSiχ;	ɪ|y\iI@4rWe5tɡașk.2K(T[H{[<LokiMvCJ2o%Z?NS,GWkjch,R-mO<a"3F.[BTIB$3AX-66ԽKx>\ͻ+*]KbVVˎ[rU&]vxVM0XG%mVݏ;,07~(бX0Je[[s~dpmW?TJR^T)a69ɌdVHَ/e{lx]FOAR[{:{)lԧ\UgP>ö9N}aܯèϻ%0%"'ux6Em6DrPōG|%ݖMƥIOƻ?OXg{RInccZQs ooB;5@_9B~q(&/SMh!L/־&KBG~03ƂD4c{nG:`{Zv.GiyR}m߳r=O(N*+5=x0Uۥ<v9g3pN:Fx_)ށA3/2Z$gs~-"ʲ|Uu6j7IR>в*Ɂ61mB-h<^Tx6c9h[ҀFDve{z&]gm{2]$ƸXsM<HI)NrMZp> GZ!+\)&qՍ=JwsB9ܷPvX~N_sQsbCǑ6N^*`^&x	ܟt2{`-ޫo]5E@%&~:[SBbg҂39@ƚZ/am%+@X-K/VT"<@
aװEr05T*dIƉUM>(s(Rtge{[LAMCc'%}+^xM';Ī-V!:ʰ-rx`+͌iڼ_hbpsC;I.dTc(Pnpkk9ǝ 1N8\ .OR'!wU`q]kga9D^Ȱ!zuN1Q*QAuĲrŖYCj.%Q"ɐ-R,[XAW׍X6*ɅC}U[~kh	F3	OO6KQbd1@_P\Zn`ȷD41GˏHZ/e&tռ`/!YX,-3ڇ{ܭNX.=?4E7o)F0$-qHG+VLy`KEy/?AS%"	,fǓ,iq{Ff7]iF_{]L)iCFcr"fYbM+wL)e[`YX]_Ya^VpE6$`fL}qέa@]3r];x4zSa1%S"g~	=)oQ3qQGҖa|w	e]v-r%$2Bĩ'a|JӣC,x['2O<bw!M+R,Z.}Wtew_RRHmz$W{U(c7.. (p?eƐqz9ae;`͂5Y$>W:3-K0{7b^1ZW۞3x1% "$y]xsyݱ2uFa	(2UT|C9`TK"QMޣ-ۚ@WIV"p!Eҹ(Za4a?qawa@-%h!bLI\K)\}ڄh}(@thW/1eU6ӁԠ0mv;.zs(SY	PzW9n>2i]b8GTT!B&nWCZ_|F<hR9:@}X}"W,ʣXeF'+swڟ2U$&ç: ҆R0zׂ/?Bq+pHPܾjTq6v7Nɒ.Ԏ1-pR:{MC0G%D%?6`ǐ̒ɡODIh1Õ$spz|9ςM!;L RPQ,/W̷>0ǂ'Zxgv8m\&/5vr &)Ǟ10ǊJd=ʬ`sXV@YMJ{"<w@Ms62W@Tm4r)x~l1lo|F^O|ل]D>0Tv_MBc|:T0z UM_[2VIAfc$Ƚnpq=>nˣͳ>Lga9!P(1UA6p΢tk@ot533	/Җv̖J6qEG&;P`?٧+ċ~ÑE,ix9?<6<N_V7bɵyAIQce(Ĝ49NOJ`T-zjbeWڀ)sk`p>oCOU'upWiV.1Lʦ·nXxsoMn^LVqUs'M>e`-/vg(OPq?=øSHidw!L]jzn^hrȁ](0'EPGC_1Աb;6OMe2djM"%~s{\>b0&`̜xy8HMHgX{,Iyx۾΅nUPػEMnvT-S d7ZWd]^	0	ZWdz"Rtcra/hk{RٯǶFHDp%Y6S|Q̈́O?8U+B!zoצ/	"a%vɼ&"ŗWZaƯJ^SpUcsL'B6vȍt~D@hpIQxCeϋ!h]T~1&	8Tr;Cz+[x'=gc/.&i\%4ǠQa5UF"hYB);wp!;7pVY2 +BkjLp;8 xogͩm-X`B=$`ܠĕ%̝l$D)9lRvi*N-fnxi.vy/ZS@YY79i:~!\Rp4~k]@>N:8htNe%Ç.M1ƞj;R	$T0|$4z^Ͳ vzy49WcrFِ1)X)ס@RF1ɕy2mOp*?*u,]ΰTGG7jk3J2ѹi*(i?8|b>)ؽzzl<9(<TA=ӓɀWnP}|"&,1&ލ.jTu2x,bıŜLOŝ֕N_(0DyTXP8IʜmXvaE+I"E0;/Ń(vk]mUFnT-b&=Ƹ;A:iŤ9j:du6KyŮ8YRYD(HUH,t=cjZв_m!zXN(y[O(X\sc`l	B7"4B >ð`;:-[U۠gQP	1YZ[.e;UaЦ`<y"_mǴ?ZqQ`-k]@&hݮ;ƸMV"!6{{O߷Ƥ͐x*PJ!&ʠ+|&@UJmci9{ BSHRٱ_WJ{Ywư߮8@U[Ze8ӐxֱY.;ȨS{5p}ZWAݏYFWfkLK:F='P'זU_	z=Fw84Vj-n"c\=aI^xg;<5kODJl;I3	Ql-&(e4'iV)\	,3ȿhTTV^1Zq8hh`rRbO!W^f`FX:*ڤ)|2Fۥtt	X{M.7dD=HdhROԡWO[BHژz}x(d~b3=jtqs	1eOE)5"3գKD@[D/0Z6`kʣ@OѸǦ^ȑK|`˫v0wtXJYTA$BUPkv';s{Ek9Ir=ZAfؒtop2exzɣwH f!G(yĴ>:ے-j3N=*+!W$ɧ"mMMP{iÚ8NL|;ɹfj"a>b
Na=Ȣ_'(T=u>>iX^"T2\%	QĆԷ|w%rlLx8WdRH(Sv"{eǟE]=FAY>jcngi7ڭZ^g*0<r}*|Nu͌	I""3oO]`y28QLzթyT~ˢ^g067j9<s!c;ՠ7!5@6HU/Ḣ6$PNH|ڊZkԦEe~Nd~Ǭu{`O5owh-7̡u@cyoP܌s?dӷ&1yu=5Mo iA/wĝXRiI=-Z`a;vy$3dۏk	<NŘ?ƈ)_L`ޯ:F&_+\BOčƪʝN2&L{ZBx?*.u;\Cu6,҉d2@K$V.OWF)HV`ЙnKh_Zlp`ri3QwXǃ)h|7;qbSxG˿-4ńB8*>~`y1)<h)q5!ߊFq^ӝQtdE"uR0Gk/b̷{A;Y_Ƃ=`HM?YMM]A"ڂCWҞ+N|lm^u=VuvȫxT^_Ns&_[mBA]eH|	)[t068Yg=v}K_uxhXgȄXj7"yH؊@t">=-M/WrʉvY_:[8mKxCvM\ ~nyJNT;BHQ=%J=j%i"ãӨCL}=C9@a"B]WLMʊ,Ty,XcVYtqKmKGT@ p6J,jKY/3])P12ua{p;YVv9$ZG"dNn7&Oww.L2Bos|ͽ*Vbq{ ^@tGh|iYn3=`"Bd?n˩D:A϶̉xݲձ!ʽ%..e\έ_Bsvִ^5J&5MJL7>[Y(z4i`<Lc+iS/8mS*/]M\]\wFPn^iӏ989`{a(bC9ʙ:CmCxod/3u2PRlD.[M,2W$S?qlw'*4?sG BAPT 5G}ԺDk}DpE:a2rıќQDmݞtc(g׉Ub5ط.nқyK1R(evDlIUp@Q+֟ȁܗsg[vo(<|H3p[NGG}k,.|"Kn-%	URm9wP{\fLF{	9T~c	A(0Ɂ͐|AZQf~?ҳƐŶD:4]&ΒL9~HLm2֚׺\i>hH^mp^{"h_w5W҈m=];h|je?iV$aZ]qjsg-RFO]p)e< ؾ5&XɀRfhn$^~_00s!-$,vZFıjG/_*ǻ8IMw4YWxQaIA$5HR&-yhxo?p,{FKx1bT(!dhrs|Ъl͡`Q(umTvx$5RXa^Xr='zF;7M~ۋr_khQM Zq0$dBm9eMugzpyx?v;|wG7J5ɜ	:	?;QJI*7gD9=SǠ.}PmM"y(	o"cz2\Գ8.aDݘePDiL;H@vZ{pKʚâ+mcro`\L=A@O	*{)7ŪA54eR:f{|34rڦ?j[iMgPiAü6 rSϠ9>X2=u	k>7{w7=Rzbm(SXC͹W|iYȭư"ȴRtc%XƓ*UȜcGȈfPd1qpzzāG[ԖKI@9R}T[4dݣVck2	Kz{N6yǩ%Tx}"]fʟ͑DNR[h!)H'U}?޴pQZŅauVvf6G1TNjXeDɁFĳD4uzv:hDADlhj=r=Vz+Rȑ+͞ݛ7U|5LapK~{[KD%4n"q-|q's"?(+VޭoY&yc<;	U<gO`)YGq߶LFM(1.Fj~"К1ɕO.i"3?-w`;\!j6S.g)mק˄t3E݁që?dJ@MVWYoH*<|h%-7ו56huB=*C}G8oc]?qA!hp240F nh	,sjJUȐ+N9j;>UB~gjŻ6OASc0]ݐQA8݄-3lYQ5Jps9h^|;$_hZƓV6T0HH.ŗvТo 85ƖrŽH'rĵDҿ)uH͓WBK rm+PLXl2i؍"f֞t*=h6K+gl?He<̯B*kF\B[Ά6zϖ:?%I2 r	%Tb96̦flA I5\Q$m^6;"NCcEijd	DT,}2Ӗ{+_aZF1UL4OF4әBQe݃;S.7=y{{ˈ(҄sɆtmBܒn4?7E-b	C9JE GT=	PZ"|"BN,Ͳz%{Nx*L2?*Dщ2،أ9oYŌa|.@Ɣ`Q$*n"&׵Ds4'!pb9/$5ɑQ;d"bhvU3$Tx?Iq I'q;ĥFBÙ<Y!3tooɧ% X~kL-GXQ)ÕY~Phvs;^~V}j!F~f* ;,VDHjQ%ØIu
HZury-:SgwY_H Lxo72h>j%^9xM/bWԓ, u|nxӡ/{L7\!!,":JZ̈C=^gѬƜ2m˳߱*2>="2USfǣyNXD8E;i^.zs0V4'c$ÅL	5L(3J̓l_^'w&Dʙx*'(Eіk]6{}thgWͨ/IxCI\>otv DM̵3֦='^i$k6>ŌtK/+CVJ>w0sSisZTqԂ^*̗ڎDDGV-obyU5zL-JHfx0N]}|Yșn1c4^/1:,SYQmYR/7LIcI+@qQ{km{	cWO|S=bRL"nǇTxKmLkxƞ=ABG!ڮ}!K^L_a'G;*_cJ@{96[ZhAp4<+_7|cJg]S˫~<uyڌ`|˻ҎIsU_4UBy-Ra9u:j.\ȒkĹ-l+3UfR"ʧzITw)Y{_v4Hw]-CیLˢQ)vZIRl.2ju)h}hfύQA<^F$QŖqXZ06үFiB`@S'ذڰI>$oNPO̲t.1"k+BgF<(pq?ˈ~vɰ|vd*+Gn\},R^k!"0Nچd]OX@lH-2W_׹3+0oG\`6`fʎI0h0K<SYcg9sv݌Z6(/n]"6"0f[6yV)&~Ӿ(fgMu0nSˌf2V˦(ha P99X_	)x,տhYmRD*+9feoRFYE&w<d~J$3ۆ6s.%CT5rиjiPEq)r ʃ\+J)w&bqܟHFQ1K@%ɳ<e|=M7g_Ɩ!]VICL*\/};3'S	Hu7-%*D_6̥QΆ\]>ٔ[-yrŖEjkþ޹,8~:@WD 7Ǳ5bxu1Qc^On%28*˪]Spt&W`<zxXL`<!8ib98ˣ3seo\qfJ?nWTK[_mk>^ulUh4͋il;Ua$Ԇ0=((lH=T)&6La]ma5c>]mbeIǂgǧDv8K}$Y6XYuf17O٭*(|&2-"L&	:r̞BfHQ/O͛xjA.>-Q')׵qVd(+ŋzuA|I,۔Xny=ձ3t3*\-jŉofj&+9V-)3Y/.;B0.W0iAԐ$VVݑRE_QɸBϻXE*.fyPMTB3?gDcɘ%F$kXDN̈́QЬoA4G(Sd19h?.&"WLTjk!avSyBXR"^+F5ՔLZҤ{(CPJ~'KzۺXb@A{k`T;0KB.-&_F2;xSF2]WDx{ۃ|z,ͲȦEtԀs[]gםzoq<~L.U>Z8A_ŝHZf ʥ'Uҿ59~({SY;,UN̭wڔV@~m]ETl9_7iYU8h,6M(*Hq;f=Uֵ'ZqTVo0Mbek= {"zC4Adb7Xpй%<_1X}QϵH@hg:&ĄgKunÕ,ۇvp*ʸE%.K8Wqcp^ȷKe)@8v]fIɲ-ݴ!m6vn?ɷXY.oBU@ac!8xTEu	Ea07	-Fe){lˀM j?D؟ðxF,gbuʅr$B2x-Ǒ_6\K^\dtFăGyw:tCeˁ=PNA.g̿Jk}{wsu3Ů~C	ĉ͖;,ʚ&pQm?FII4Ctwo][AijD!EF@ur<!Goqzk%C)S2o.`-J6޾K84h(F_	hDhʽ&IhIo@k=-$Jd*Ftk^SƟ	XzZ<X5S.D+Nte1H\t|(P=cÂ?Y3gyWʺh-<`|%ۮ0$FeT$';R$3Z{ݫٰEe΋[+YA \?c	-^cҫ٪FgѨ4p2K)tsW+oV;JS;YXw`x|wRB;(NXkmD(r"ԙ[y%12$l}'3.ŝ6$<LVi1p*.p;~ڰw1)aY;ǻf֔	&YnRONTCN9Szyst3ʓ[9RB>BQl?=(<D !iJxI2'uPe_79HL"l1~.̐֘M15*xڒ8XwXĲ]>&n:]C̓yݹY-ta ?I-"scŐ`اߨxU><GZƗJiCܿMJmnH1Gu!	;s\B:5L=p4/8apģ]u7%yQ[gYmʤwS@փ}ِ&űyNn$,ÈcRnC^s": 9j˻yNzHZ' m.TMu'Krj>FHhLv`N0S;ש%nƗ=2n^OH4qU3Ab~ɰD~u:p8n=Ţԓ(}KeݦQa`ɸi;g;E0H_1~\ZDvXTZk.REzcH%	t2Љ/֞3Vi(6:M
mīMxeCBع՚;q~JbTmçJfǢt36E+"f/Fʦ"K[QE-sM)%	|T`B.r"m'@,ȿ7eaGUe\p^U^M?@9[ 9sQ}]ܴ MFyUL@G;x)ҐKBv-!kYq	l$0]FgT_ÈI"́I6t\	DĘt}|4jTPڞwR[^z:NQ	ݳu޸~fr̩=|e|fQ[9Or}Ͻ=>vhU{'2K:7/Űy:~˾aõ:d|_*[$*@W'/+~ZM_{?0IntUӎjJQƫxE40TvLE=ʼ7b8o=9"$*HPC7;xQp@tӆ^ )%fdH'9<̘jZ85OCJ-tǎ.ٺfHcJ@.L2Y*R[e}"a!.[oKuxU:nRqS:	zZlȢXo\B_79ȼI;(4Vz bVN>ǔM/Dޱx7@"`C>]*~<xdznuEAƇ|ٞ I$Kˋ03 }(՞`}_KNؗ==(Ma/A|^}+in{4e-`70OǿcFs5NJʧx 5|-:ع6Xo+]F?_8Ø~<doFU;wŊ xjŃxm(LԬ3sGIuZ~$sJ{\+vdy4E"$0H,'KxǬ[7;CL|={lqzF*9I8Ce>@j,::9ҏG@%Zm/6bHM*iv.`r+A,	0֌͂A~pvzJp8^o.*Uli}m^Nʪ||t.xʑׂ[8Wz>YqKWf8DQ;mOPv]$Di_S~^UP͒̕/m.l\o@Ͼ}p@JiHh6a^q0':OʥB_B8v~ߪSd~~J	N͔mL/{mQi1*5QO`W`!}Uɮ'E<.ȼ1;UH.|s/(8yRD{Zuc*-UPZ@c5`\*0$B۲ˇyf7<_'6QjJ5ʝIs=?!\̗qsQ[ZW_ū)n.ˤ֤tZ3-MS7\eS-b3Dk;Ǡ_2Z/5'$|TMhʩY3jBr}9}3 UȫyfpxSжJߎ.DFh/CwD*3p֖.P@;xtȼNJ"gGGVjorǑv˾1 @f1HGDDN|t.x?]tS8fBC*gXTEQ]0I"ߐ(K`+r mRt*bx>zSw̼-3vƱ*}A.UWm;Ď]Knk,!/fLϠ 3WXsYuBZEYninzcZrTzR:do%dy?5kLH/hu2c.}Ɇ6J^wQA,"SIMQ8j*LrgA&LYߩ>Q!Refr|ȬF[S!<g[ġfG!""g&YAs 3ޕ]pK.URV` hZq(rM""y$8զl}X)e2Pފ ?*iVȺI|eM l$;ڱ%_-I%:zbwZϠ̧ھȸZ*B*t)Q)Jhob͜FPÿl(ؑsܽ:"mˤ[zլ{N|Lgɩ &/Jf$ߩ̪aD9`qatfdSêlUiG!\^ԙON&+qyQ,)'vM-g*аVTT;ٵXUKͅ>2kk_bAZGaΐݗ_%"_"z$2Ǹz,b(q`cSz*aʉj%ar7yxrYY!vf2&kQ;iA`&GV^35"Xw*|*xa$i`h|޵\k~[ԱWIkK`Cv4fhD7Wo֧ɺnsQd"gu0EߛID8"}J>-2Xq*PZg}vNr_eTFT\%*<Vp!<޵˸qsFO:rxFl1ݒ4> v@&"j9׈ZB$ϜbJq(:iΣc>?߄ծTmvh˳(2.g)9ĉĜ|E|~+CIx?DOz6U6Zrpl7˨&޽a/*|T-n)4;A\5[J|q-z@o{yO4=cPI͇0gvJ:ڢƄcmei& OKWmPp35"h6 O{ʿN*Ă*ǅu2oWƒjT`Ik+tE`W(B}XوD_,cF+&flLm-^Dǅ@ťshC&]gBP2(n\xua0{-Fۇ+`~οKZxv\uotLpoGMbIb-]ԅb0T48mm}P8SoYׁARZ8b[t -SSafmRa./^TbevBч%4@7u=.v^blTz^EhaO&_-6cK,+P/cWQ^4SMŚ{7^l}sD^c9V[Fz?HnaH$<;ڻ]H3KZ;+&66A}RZK_N5ԸB[I^dSp)_R8.>	@ƂAT'$W> 	K-XqNq@.zXè<j,Ŗm=zI}mj_S=˾@\o{e,ӪXeԼl(3pvg~w:Ii%2LuA0bK5V.ʶ.Gy(]8c-gזHGc/zP"ObS/"`C8I{2jV	'
7yJgny\aHeYCP׶O=/Gǡ~sD8X $*4QEC|f/f~ҡ՜2Dx:~OA=cYPۄI9Ӏʹ(!ݴ?0eս"*C::		9L%tx*5GCB@S8~+Ԥ3Gg~WPںA!pxrȏ*NWRu=aP'64bُIORBƠ	mi[9o:vM?Vvó7ׄH+$@"ȉQw&C$G4{|gGʉB)	c@ac&T%g>VxL;R]2)BDCɄ|< "hc'GĈI$)6ܓG  	.F.͸]dU-'8LGEu9mAJ%@/v.y!zRxɱ.΂͇4}.tiπL̖pj5"koK<|FƎI;6aɻ]VkC[?3!ڮS40̇2{i<[,zvZJ&+4.T̛ˬ1%r'm7E9&$!u6MgH1e4ʢ/ݥpюE-+Vm%_?ziB3x+>BIWLQv"˃:FrA\		BNq,,Oխw<4qS1`	$5Ǐ;0fjb&7vEJj_G	՞FTfQͮ0&ڋSa^[|ԱN֞^`\lK B"'Ms&SɆOq(p{BV8POZ%[z*k[rJosI0b[CȔMѷS<<`LG89EFOfJ!ӯ-\	_&LrQmM~	UB\'whOnDeȕMTS~jV*_(>ɹKi=8$w}'by\JUn~ͣl+@xbwԾM4)$)ukmDtF=jf.+H:I<!w)63W_G:\tҝ:b؞^YeH%)<ǃk7}:ˋ<6[?IM_D۞!8TOmDGb&/q8]:HXebSdk.D(W-K[yB@"rw:;:r>'!Srl+i`.֚kr:U20abnrR^alV1Bݟ<IY̥XucG֓Ji[ƧAQ+O]ӛ"N/ Ϡi[5t:'V>:CUO+Kh.WÈV8=`B~e|b`.C&B-+/d@*POD"	_MILc9j	@H>\a6|,KI<):nӄ7ç-X~y:G2E״q^T9x4zdܛ͠v̓1&ֆQE$ɨh&fcǺChܫ'FYlPOcjh|CM!֠Kz6|hJ6ӝ"<͠*FJ?Q>n,?/*D.2	?L]J=ǐ.SúܼYD9OlWP[=$߼\sJ~J/IjwC0>,\U'jV;{ZN4CM>67I?zf|0BύSVu%|aаKaО,2o1q?Fˆ5nȍnMd܋THcfY^F,q%3=dákxeT2d$^;=~9ubdIE.Ď8CDJٝoaS^p^]X|΀|@e_/f|fS%dI\!,W/C/IU\׼%.W}oR=~ٷ1dI|ItR=VYE8urb	S~ra?x-ÏW/_~}(*TӔM1Fͺϒ<3pޚ\=O&]yåȏ\yxŝbqb;-neXn5t{mE&y%,\9?$OzWF'd{u~ff-t]7LQDA%'^K-mPU|NAĳF;:""ל\l=9	нu΄6^Wٵ3h~y@=NyCjo^Aoe^YS7+yb$NeΆ6CŏgaҘ*9"/"ɫ|݀c6ȨČׄ5d)L=fӹfW!1ٽPB%Ml gI*_[&_?D7Zzˎ԰Q9Ihm*c'PRɍY!+sk٫І	h*@?=z-&;!%V-zȆs 08jhRC*HOC/TïT;ͭ*%zZvEzkqN|*vi{(gTdPaH&5IX"YY~eh%R8(aJFßTs,>O:{RBnpR6t)tL/2Ԯndhg<{Cgd%|j2b)E8vzTjʈ^SacU uۇ=G\&ZOZPBul٪xiMk@ظmkI8/"$|*[ɒVˀ?9ױ,HFȅ.B/*žcjK>ˏ81V+ׯ37s:a|Tٚ	)΋"HWXOv}NV"_IEԐy v;[w~-ȌzT`LQ-=rŪAeD+M{ƅ4<A@ƪJӂRv^!\NtoeBU){KN|{}jR nk]6ƓcɜmF.	nFD+=pp<hv7f ';qʶ4amAt?Ǜ$tjBM&?͚vm819K;;Aڱuykt/ZE113!84V"ʴ)$Xm[Ӂ7^]80o^!v?ˈ/݄D|nC%]J_c\~I(Sw BuOxE\{D)ņ'QI6'Z8Oi`VG*ɼ+*R|yzeƾ-foz}0`g3e~EQpQ+mߖ:G@æG3=N$)EX1֊,t)V9ylh=6M;7͍UK([f9C[\`dˤ(X,VUF3$z	dQoy
gS2qrWY@ȦM0W*7A[=)il:ŵY<6V֮=Z1ʤ+	KĀ(|/i_Mيrբ{LsV/P>c'ȍTϚwF+Mصar5g/lH/~M]!5Eu{!omO&m8=2p^:=ڹ*|≯N,}X8H?iA{!p]':78dC8<`r ~uG5}wBL,hB;w,[evEaya*/I7:*ZZX%TE>o26g.P $ČFB	mN]"7TK$~av\~G;E\[3HliCPdȚLp	(q=4X'va<r{	Jqa|MG|rT`@уͱrO}Os!ɭ1%-8BH<PJȱ"R]a`]D5o5;bx_]R{jSPq?FjͬN>*zCĦqBq6ml9s3X*,3+8I"]`W8Ib`-ɳ[ʌT,`oůRr&9$$+4^Ki@Y8FVG&!L?ohu3ň^hVULzH^%>%%g5OKWk`rFxa4RFGola-osmũET݋TUoaE8??@ M@0kDƶPt	ҫrɊp&yb^֣Az?/q72ba{v&8455Z`],}1xH!sʵq\N ܁ˉ:Tʮly˛PܑlOb+tAxeBHt`mp*V+_"eM{g@ǐϙ}-uzcxGV<|%D 2U'Pb|,+Ű_5/ m'RK[AG+B R-V+Op6-<Ĥ2N7JS$X׎HYzïוWxtj2jt|.hڑ4CoEysܹItƜׇ\\m[݊>h!a5dO 7"C4XnOVD\2v7)	JiSdX4"`TƓM a[4M$6}! b{ZjҚxogNIԯJp̠3p]dSN;XJq!<@X0vdp(҇=]:_'	gy*81@hs}\d='y/(y"9/ȗxj}Qе0G45~$E`3n!sbb:;_g57ys:'Gc7ǉ%4|9L.$I/'MO(|AKu3+|UU֙&Xy`wS߃eta;|^!yg/wvSȳǇ0</]I-t`ufanew<˲CI%̧]czm;Aw/=U2)glb5P~b%=ɈsC=!fU.{zuN<Z:ɔnȧR+iEo{|HUhlݸ߯_5ZQY6յBXD(']܄_%-Ɖj{WQ@*F7tInfYE@5l)$/)ETJ6wR"]ƣh؝̫x7V4Ʉ6tv-nC{ɚU(C*m`VpyBYtɪIzCo7:/EUn^)VmW-=bAKe	Sw,&y%wo*ŧzmoeү"wo4]ci"@!f"M,tU\Gkߠll[w%)Gp:UIW_{,Xdu|ʉVޏb~'9.l~QF)WaLaxRNIPSe8]AźVKs^d0)aܢQ ]x^dP)5>NʥĠ`b\GO[z1/^(!:*I=$c%Ms}0Uy~9oMn	=""yfR(2u˫B;$Kl=>$ҸӆX~Ķ|c0;sT+s2bTFmܭg k3?FhfPUH7.YSo߽ͪG)'%:M?|I@rQ dxQX8A>VQyzdȌ<]-J2:^*2KǮd{P|q0hxVڠ3)SՑed&}.>T/6'|ơ3`b͗1Մ âRʇktBЗW<"/z9	le_sX`P'sR;sv"7c	Y"d`8ʭƬֺ@06SOq)nsedh:2H7TMVNqN]aZ-oasbM֖Ly|ĳz./@ƢR7c%N_x>cXW	{r!z}5*ɨϳ)`ړLA9siXV΂l^2&iqP.(`50]L?(l|ld.k1Skī̺=7cHY0p`KjWHy]~6rkn|h}gop6+̾3VŻɻyԱ=L_H޲i$?v.toj/bJ<~Վ$R|F12Ŧ<y:z(?Aj+y0İ;^4K2VǠrݺ@ƥLedFiV:XѬEai~cgʻR<Iϟ|̞>D';`EqZga!`,7W]jy^'xNď5_E 4Yϛ}4`Ģ˞Aoa:{Tz|z~KPSE2յ>a,2]=O 86@JxP̰Fs:]YۜgMv}{]ו~a%$_g96Y	'v9y/Ĝ`J%bWV;uTYMVw'g%`v\=xxu*Q@&Й5=a96{%fbz߻\*OJcnIEϔb).IƸ5]ׯIDl{PZϾȜʆ=G=u	ju	+w7eϣ!\?9ͦO֙bęh LVy%&̀_ak3oՐ$ű~GޭJxr<Xi&"f"^2	ɱ `ٻ\VqM1
;eaG-	8Bp^3UIdޘRN;LGx1b5di5sɝL$KYG\oulRwfčgOr	_yםI'b<Ŗ%od9^`ŧ	1lbv<0ʀlWFLU^"8O|YWñjRG3֋ggBhЕ(/Q*D\If&k[P.Fbhedq>L&yzB"6nGauZ$2ڳ\Ž'5w"f_Z\2>|lc*=7[ų,	o*Ï!Ç<Sa`ܶǃـFV-M}%<[LG~9٭ O Ǟ,JӹnI"~:&9l,3^/sV\FKR2Օl@B%4saI:̺BbSX֧lX1DI%QXaëJvJX&ߩ`đӅw2lZm1Ӻxop fj[Tmtϗ6.C2~qBB1Wkp.-=q4)n*u==SͷUAy6zU5Hؠ$7bgbT@ެmDi_R75i;G-zD2_Ls9st^jJ*wܲǱWG>COrH3Ya(oլCzI_X	xX\/"'|ޒGrnɒ.^|&ܯ6y$+~HNkznTXo$`vR@+%0؆߇h8[GNgeN>;x=2v>1WVߵQ5yO7sڟf_8~\-Tx.=<B}[v]-VJ"nX(i{7v,&\S^WxPd՟@[t8v(O!jzDrđDŮ`}Ȕp['̄͠7ʰьJ.xZ0"~v7==Vq/6̬2v	F}{(Kζg)"61kk@i>FQ~|>705K@.\Pζ"cD&@)'ls?/7NЪMWαƔ95aQ,6BQO>ZC_kFp5̈́>OWy{KK'?ezd!Z0CƸ^}:grVاiZXOϏMY!{aCsEܶBͩ_7jI'z>/)70ʬTdƯ=(QҏZS܉|FEx+qtZ\̍30KFJNBHnEU5ޒM@oӛ0wʳrEB}oI<}iyrl,ŝ=F	)ѳpQQ*m;(kBB`F)e[LǿY(L[AR`3Yh]( 0G%СMlRzhmezfЂU!فfYI'-֯ZmbΟUhnbNP6{Y|ϡyNc$_BrGBhMheg|g9"x<CVFփoۿDK0<z+4/g,R^HSS7_&0ť!QpzoW{y,gd	GXktN@s`ɇ&cA:ΠW6'K	wSáZ"|aSxEF86EiOs3Pz+v=TY˜}b.PVNhg5tr{a_F?;o0!0>QNVQYa'^ǽ~l׍JاF|;{dgk[Ef	J7=j=\St7f;}e9|%ߡe{CKY'8G&lY9Tf(&ؓ_wB@bD"z+-<bbZ_)?*3>?3@&!ED	{oDKOkwP-:~-Is%oUBUrak{jhm!l/$Sh]\QFwf}Z4̣z[J?]dyUbʸXNs@5(ֱoܑqXH2Sz,E%PJs  4^v.֖֥Ûl$!)jƼ.;s*u	7+\]CUg߹h7t%IV	w}R9agPJŃ<'àѽ+[CR]+cvV~'h YV<iTuO	4ǩi,-q$W*FsP>sn~:Tz6oe@2	<k ɨhLӺB3"ֈ)(U<fĊdO2łגnfKYiv`Mx&PȓǍ5v( @rkG'Iv";C.ðh:,^f}]!2Wď+JۚpG̣ߘ	}a;FvDgӁ9l<̲E9oq|H"n+Y6%e8ɥk<8Vt	W*p\WA(i *rHkASt~+G)rIQ-c"?~lcɑFU*8YG"MɖFdICo=ax.8)&E/nbΙ:G"fѸA"5O7pIf<^2k~ a'62t 0 _dSbƶDGH`aOڴi&%˟;8ݛ|+;˥ܙq$~$Hb=cdd.yyJۮƻxA i0(+9?]kQsƺI,atrp_i}*ƼZ13]wueJ/DĻR~wU+̸$)\Wtf҆!3ҌPגe&;CM!4|d*0.ʞOG][v&\lJyeIQh6r˓ӷU2	&}uʤfCuh54d	E9*:8޳*ɾrA\iIjTȇG؉?̘"Ebb/F-SV?N.++SB9WRYѤ9YSGcqMG{LU$\> f|=O+^e	͈N]0.S8gJhP%Rڴ,vXdvW`t߻B;=nla}"@r_?+*c@ͣpĐą'{@lR@>)TFhQ:SQ\sOZv*bBT`̢fK˦~qʮQ3bǂWdȃAlu[.%byh=;Xc7W]^$XN}e$u|"؊]>vz,,Cm?ek?^{9pPtpbl͂@!
;SFn̉v'kwn w,\<.ߧgc hҍH}n *SCZq"k/Jq|ܭNlX0t/ ݸw۪]39C޵QV^	\V]%>RTOeEuDDVp.2qn>iɽ<ɹďMbns?r2V_LC~_ ڔH}-g1=q%@+3y8{8qqԻ(gkT!vpHIz 11LNZ_}k1d4\{T"G-7<z(ۛûXan	E\e.^ՍK0.[.sĦ}B)Ё.x,Iʡ̖6ʚ00ʠ`tQ{<؎Dq@@.1.ca1_jps;80M=GDÀJ˅΃\C^|d%Ւ6[cQ^t}asi29ǔ-ٴ)?xzoOb]׉+`J06<}P1&jߓ@Фqgr!B,Y˒Эb:MoLH@!K%4bv(T_LPJ8MLpk5lM9 lY\ǘ&/5&k4hf'T=6rPN)*4yCIb)B<؉v;W-z:IwgQh@&Wtfj{	T0 }ȿnhHLj\p0sg1ɡgU`/ F-8[9G7kZ`RĪ3^'eDI}GUJƠ9eN2SÞ{LSģ՛ƒ4wXOj9A_]M(@.΄lS r/}x-ʤ-V:H^ʲ+x)&qRA>;iqڎ>E`jc,C^>Ɔ|l!̆~_	9Ȏp{I6NM;V7OD>v"n71pJ/dl~ Ӻ"YtҘu5t&.bmfoІXQ15'4\=`[̠?me7J&)hebK.ԃ]vjכiwV*DH:w;Wǀ/j̨!vAi'k@͒P51\x/QHKd}f{q)/Uc6t׎+09w/9$K~+P6|D]W'iܑp-:͗i!p҆:т}x?/ĔO%ŲV"kD-11[|Udjq&w<Ƀ?e2lt{p!e-aen=JUDͿG?O+d2u4oT2$K!b?RTcj9Ď>bեp7֜w6؝+ݟ2upfzQM0PDȯl2zrbmܘf^Bl\gfJrw)D	YDDb7{I_rA(crLG˦Ȱӷ3WZgU'ƗAik_V*p $ѝý=X0pt"?ȂO׽F%?RW4n8er+,9j}]{VqI@HNÀ*f@&iBƷ[A&QFŽ@R*7GRt|iq7vRޫ%){Z 1h6lŠpumd, 0ȵJ7@V9(8ICއ?eȂ.]dA8;%=6iCk$+&8{qz 8Nh%^4ĦՉP\?qCcG!1u]o4-@AMǾ3sqv'0DFMtgSl=(RiIwfm^:B.fJ-"v:ckμ<{ܫ=lqH%֜pgG*@/ֹEOv[1h]( ~Nu+pSVQG~k^Sh5Njf +BHE)TkZT՛ժ-d[:ܵ	4KC<FIwaA"7l/6J	g&i%r1!}ׂˏh4xyB^=z>ċRh1IS_JA|%qAE=Gn3ߍj7t^z]'rH؈|	!V	^J5٧ojtܺc1a6	':L;OVu$)ZǤ22ؤus3SUA1z4Hb<8 h0qG|Vp܉Ͷoj%\o.E@ny6VJz[z=~_wiPѯK	8۽͟x<!	ΰeY0ΩHWOb`IRxCؔC7N<<˓GqB(ucU=!=!f'Yg	v/ŋW	>נK(ψfrHҎ pÒiͭAYá&(b'_XMY46iONv,Y݅ڰ"<n|3԰-R$lk̜e%fpAvwY΅=)Ҋcim5t+diVðWRO΀])gɠIhoըt5>&hA:cnȡ[fJaOͷRĬSA3>a@-gi+ع3M	6x*D9]BR`FwfQE1E)!ߣ71U7Jhf2ˁfފS'ξlvT͸iro5s>`C`؊TP-O(}VH4̫^`CKDǚqwceZ8U:2k{x"̕r sWicZ~O<h;nߙT3XYsK3kF7TآYy Lݫ'Ч3zӅ^{\e:tUnNW|8krxC!?0;b;Mle)O$ı6aA5pV-AWRtxN[wŲ~cAi$؍,7iށL{UWfЂ:D[Փֲ{U	BIiz<|C{εq6zaXȒ>s!~>n\:jM' yEsPր[&z]lL:rty3cN{!>J]{{}	mMC`5@l{9/}FՉ}$1BژdriE|27$mm`@CBaoHbk'c @{keԿK\8MoVƀNߐ{jƼU{m[êF=>	f*Q8z'Vzn4YxR6Gݞ9*[̛{F>ͶE^	nB161;p/m݃3300Sػ@(q_ZŸnlySQ$G+
q|~Q%2@S\^N>C	,-H3+S2nk%1(w@^|@)k.mEcQf5vhe)Bъ%	(qPo[I;Z&s%7/`Ma89	V_oܘ1oY߲m$;5ڥjIMHmeDG}Ri:>qّͩP$X[6}ًtxZo~M;+\9ȇwJpCE6CjB|nbieRt@	Fit~=KG^-bM@w3̀<׸;tV	P1{ sfP3DmfNNY_Z?V(:g7܍{mujEƆ?1"+bJ7VϨfAyׄomDٟz$Ï|t,(Bgf2fmB@[~ htMAaiLPW6n/gYŨϛD6ӶXӱ=[ɍ((zQyHBE"Rq{>rOkf`:cW$Ti|Mɝd.AL5Iϱ\0n-Љ%v;%gc'Nr>5	Ub~ӟSxhǛ:ŃLC/0B;^Z0fIRV\?+GUK|x~o*gw:/p~?3]w.L6<Ңī*W1A/aTiZѰGc8|>A9vT؎^<eeQzFZa	}	U^][k,!NxΩcF%fpeִ^.<dZK$sǸGh<ND}'FmN2=	0ɚNmjNtAEL2φl94NZZTĘc&1}YNf/l@j:̇4ƭe+nbňjnrȖu=P9gԭ^̓]Ch:[R8͙*N2_S<KsXX<|n3hrp>GÓI)VTͳU'ǃ`ZHx.?%|: ry$mDqJlcx7'WH՚\֩H9S DĞZp܈W?VEAoUo/H"0ZdA'co!F^<T!:ђ}RjƂo[Nd<[jF,OFIu{*rEUAfGKywm[MڻvB.x8N]kT]i.pAa}CA{۳ICX1|,^9\UVR.ݖs}7R4_Q_$0~3F,["t&XtA=|[B*SLԶZKU<֎sA%ŃqhjLQn;z	bq^Khʂ+$+$G4dB:CyazɑhFRSI [m؎_ʐi %J6<E]Rm(vŰh"0fc?*UmǨǲki0OOǐPAHQ$Ŵ9LB;Pycf:+:B7s;XS87:Csq%'EMĔ[]r]L=!^5aYPrrTٮֿzNm̟P·Y;K0-T8R\o~0BX=1=p;ckfD~ɸMhAe!I9]VpРKa- go5J^>4vKn\<ЩC'.B7۵5"B;4KRETEEֳMlOLCWPkUC33ygw1&GZdV=gM3pLqK8\e?Zͼ~SȦ1ȳ*e$,wԉ.A*//;JIczɝM2B	nzˑn["S*Sʔ&͇yaL?lqk1W1LR٘>|-tN|k)QPL"E^<fd8ޗTUB|*UOQKQ׍JE%{>j׃*gYs>LfJ;]Ȇm`}"RUy	aZQÈidVhh.`ё;KEul&+RkS^*i_.?ݕ׶r'ʛwC{eC	Hc)~LtNI)5je:M:{^K)7m}b^+ç}*&2ɷNjZK/EV,+ԇHxn0dlO8sEXˠ.Hkcİgn7cDscF<s$CRn35Ƕ@UȖ1~oeUnJ_6g9%;zWٷ3sd<""s-.E_zIƭt\<>9aKiZ~;4D'MM79.z)[_`ؓ@bkN OGFu*)D9vcXBQK0g^"K6n(0ǡ( ̺XŲ4j	h։9'ݫD^$6[p5Dʼz'kM̑x!x`r	]e;LL=O0-CxD	<	tĎkI/9PwIx@aN m;'c9XQa_&g"BDҾĞ>aOcQ+a˻XZ֕ۓz ڍ5ӓsGByg}y3knm˰	219g{l]S%T}RˉsWA*+Ӹ)B2ʏdcRZpJ`cS5l;AˆҟɤqX_Dd۩z;pU!O$EJRh8u&+EػGĉ095As'w7s0 VgynMu>a2DD\>N,Qk9b2OVwۈ^8=m3h({J<4*Cl7d9љwQ<|o^cB5֪X)G' c_QXhѓ[̖ܾaښ$~G0ff;Q́|ɞ1/1YP=֐X2N+ƁŪ0yhFAARX0[M>/=Zy8>nhyE7F|ۤVw0cũf&OqtɯVǃoV϶-W|zcn7_(31QMAC`bf*B1"\7PW^_"@JqSe{!I]m2ѥƀKST1Zg,2z*+ʍl^ۣFX^wQҤnol`Z,t]uǒ-!2dg$ٚ}N|
 "x/Yzп'y\{̇k]ƎHe6Frоd+Re	7$j|60KiQG%rö/%ϱ'm+K{eY1PY6ũ4ǵ"TYow|xʙk%ڧ2&rAi(DAb//Eȣx_oH%izʫQRB<i"TRsdVhǫ`^v΅`aEˁFǾY؏?4L\'^c)~I4[57kI1S9Ia7t&f&kV"'Rx.\]||`6qQy0*IW`f~6L,<%6[won0١9NeJc@iw,˃x.&8byQXz<6 4EYN1JDuù=˪oL0Y`${s6ZuNRxB/,6*-?~xLDhB̷8UjlɩD;mʄVU_ vbRuhٖz/uڤ^v3\Q	;P;0$+ys9NkDv:q$z)\8}6=Џ{\wь]WZEz)@qauq!7bfv>ƨGE'rQ':Rɑd=kC}d(J@;XLrbYh}&.Rngn4/z)n!5zRN9L@ǎ;XtiK9Sx)$%Ħj~n'NImȔ8-a++3&OSN:`Y]ITX?VWgfĨ(lۡ\scox%],keDd=86IJM80]4̌J,^/9],Ns;GESVzh:1DnmE`Űt.֦?Eq߈n8v_KfBܩMr)1%\[zu}an3~2|^ R5ݍ]-Dfb-Ie%Bʲ֝vڎ5"-t[kږ|*tpL9>A	Lq&`Wdg0&".uc_NDW{Ӧ?b< m!*9yS7	2-FiV6|qϬbZMʯ3mԌF0?)IY{c-%	Mjlmٖ{p<^bWpGN?b=o?.Oʭo,L$ԂK1:v>Bpbkc.`<1p-~D)Q.z"/[9fz28)E>}'e?C.zD8sD"MzU3]FV9 l$!C5ñ>X1E%42ȉ&pPÓ`nIq	jf۱г,&<bf6Ĝ7o&ڭ^Ԥqy2xPG5oAys9)+ Wʸt*| o(8˩șɍ*sc] [Z݄-	ʴ,O˜6m_pˣcKS	-_	ݔ{9BC8K	e%mBZqut[*RDr !c9B!|̧\6y l3}m,z"(pp'jp|Nm$E+.)k1-zU)-MhU5<XAIW7JIaRT-pd͂CgRa.M+r6=fk2^EVz)Xӎ}߾3nv	I7Ω`4?Q6ckDȒsGtNAg̽{[yFz.ZWG,{y}n=lq5eIMIѴףl[vp˘rOvYOehNP[n8tj	sKf7"XX,!"v)&GlG	61(~2^>1nC)lyWWyLVɓk`yUhE[ό|}ۊKQu\xd`II]cVdz<ñNwQ1T|W*s::8!yZ?͸EhĴȸC)fAYw}ce^O/')@FX9sN w);&f98pz?oQF1y_W1\1HrH0h,Edy}MZz;^}IƩ{8xvEKR	8+q63T*yu[/JaEO_Jrb!euyx0ŉXbiޟX׭ry0C&~eqFҥa4Zo֟g)Wȉ	[:p>wp^DVĠQV`ɨ7}s;Vi^7_ްf,ϸ)78!Bj/5+fՖ $$Y6/j+7&cXFHX&+\Dpe/\V=ɘg_)}q>P`BZ2܅u,u`:m08v}ZZ.kv0trJR;yc{/],PMTWfH1rv<_r}40g4ͮȋdɖ1Qw`u/^eN9!yΘFPsK+c5=[d8޹]CPSd9>h~ǻu11M&i"|j64fTMżFHvw/-bDg=<v~d(ěeN<g/"!ܵCy=\З4fK1mB:lvwf|0?+3U@!a-E'$Y=`syn5:K7*wF?q}|wIrkk/!5wudXR_nfFM.tzbR,ɛb<fxdH4=mQ2Hfں@o$*wnRŷۇ YQ?:.RăYrT_-fYKrJm%9XWIE}g&Lؿon̜}lZ>EIGb}+&sq':KyɏWjP9W'	kέtݪC\Aդ=)B`jM/k	_XcIlS}"v-M%<DѱKF&?~xpYYT%Р">"V}u)` xվjY"Qa,rh9s˻̉K	QLKRALc˭l+zS7ITZ ;N0r,Z9Hn<8M<uYKSǟO3T|O16?f7=n.jFY9PX3\}>0p@(D(70	]o[3u8̀i8m|HACd8AITXZȲKx?IgWތ4-/B]`s:fdi<Kw
f)בFOVøSH5Gvdt`](-a9%fT8UB+Ch7ql$6$(Mt̂EپCq u_+DnأD>$٦:kv|$izb	TʈCA0:w$͑Sx)(N.=}-G9yW&hEEa.-qPҠ%}M&eu$v>X-y^~N~||TˣRd'2LIP3O̩E!cj\OS7hI-s})@Q:xsGS-+B	nkR[drXj5|k'E;<z1F9$ik",?{Z$<dͭ8f|gyS	~ԎDԩ)">UV>!T^aLzaoSK$Z1K׾0Y=Hʥ^K	CdNP	%W>Ml*&pFƉh0Hn,XUMz&ZK3aCoS.dr;;/O>R7Uől(Ј֕;Uɐ`Z:yp$S/>i3F"Z^?ɘ){ʞk{6~f5߯AdLٮj[a/˕h|F	<O%h8"a>k~EEWpTotlSo9+U;Q9T<tk%{;٭IA"Z/4T4)Mp!ieӞ=ʋX5ʫ ͧ7EÞm'&b&"Vo'iC|BptG,90FVYBnbrl?`t8p\`h]d!'	)&׬~5EӁ8q`708Ǿ@{>ZEt$RMD:pWQC%70d9p5ϗ {BB)Ö0)yf{kU5jz{i0KV	9Ix̴ ɜVz{h_I|cmy_>1\á/ZF9lmd.&BǸ($IsNnF"fWLwlDUQDn~=RDK	TUsajrd2ɘ120JWn.V:Dv38qӿbNZT[o]vΊ{	_KDo61zwUC{kѠ;!q̍`JC܃GOBrq"*:SG[K:SdXБfaatsUDK>Y<2<d\_c5!-'CnRДSc2J<Ñ)?!/B<[ݐeǄ'pAOʼ?BkNYFaE_pg_8E'>2Jon&3eޝ%NrqġMju_]F/PGh// TܫfP4|:%vz˨[m:|:	<	f1/5nIZqcȚRz01keݷƟaFmobwmapG~ezŕPF}2ɀ&3˼)+\b/@RJ}+dK[|.W.TvO̲~O'8Pw]KmCh'ly}zjAg;ю'M}'zǥ8r!S|6߶b {~n۔~m`2ӗ6%cCl3nx|$eeǷ-[\~66oi~Dr\=a.<q	FLF،o-֛Ll?WK%{eSo6H|A~ww.jS"5&3ݜ?Op'(i?r6k6%pbjw5=řԜ*3 vIJBkƀaoi)IȞej%փef2VJESzIhpN2{ٝ;xK,xEwS!^4TźhȆX} B2w݊ƾMpĠ<ȭj5<CYl/7Hiաǥ*@]c;[~Cq޲<ƉiֽXkʋTqeƐp7RӨ3wǵx')VQȻ	9>"q/\u<*hs'cch%^vpf >9OfƸLRάm)f@C	srg˺sN/DZXcz7Ʋʖ"˷gU-;וϢHd+Q	8n3pH^HUQmitϔ/73x<``EB.T'}asj^luKD],6b'rTF<HTӤ@\HDDԞ95 C'-6yJkĮlJ$9JWS+!ymQw;Rc((ajk˚6ąʨPߵ8G׋|}n \:qXjybСrץдEFnl@Q?nkUzŲQdjQLz-@Jŭ vGq6.Vb9qmR=d]{`;k+0Ŭkyj!w)P3p'u}1"p0"bƢÎ Ubpu>a7IeɄ2ê@~;4HL&&L%e`ęCtV˽urE"+J*E9[k 'HC?-T",NFrzJr^ߏM iZ~b2,h79,HùkblP'09scC?znd5ww'9/UkoJ9Fp&7DFbu&lFIʷc=x(G8E1e~wа,X	0Ӥ5j3lywj̽kO{̓'~nz B[uW4W>ǡ=pB=IJǴ'03QװP'̶5il\KOl^Rǂj XLbuBo>|f}/]g@'p6d 3)dP^7vVURuu*8C4jO= ob	wפT=vyLt'^-/	O8"n,k8;6&(i\6n׷Gy{rhHXſg.)ij=cK{w?Pذ%Fʾ+rLK[]wdX|IZdCkP5NEAu:HrǱllhd?%iZ+fo2.nǣL*T}%HB]S{Тɡt}˳ڥF-Z9b*Eux Ff~گCDWЂwC_)E>sRStxACf9QH&fܪ\aviFsE$OeuQ9D)L:7M̞l&|? iGˎbI[0A8RFV aVjDw<
NJPM at)AT`.N WFc6h =^һ.kiJ(@$SCp$ K7yhCbnŻޞԘDjN0'T4Cj_U%O*gkm&L_|65T8THNfJ2?7,2G0TjͩeJYFYøOܢ&ĔOł@ͯp̕ɈJsٞzUrbeͰPyLH>c!ÜV`tc~kCuwvGd0;.Dό1U!مz:ڀN_WB!-YCgGBtHM6;41ʩo@8O:GkR_a?Z:zJmTCX12BSqXItC[glgsp8\ʻF,RȒ QÞHpm1cg|.?3z%˪.`ވsS%|,=0vW&OK=5ۦ)lw	-b-Y8t`N[G$6t{Q'˰h[^{FP ,B>Lqya(`Knocz0ŷ 7{2Jէu@@'CU(wojgWs]UHob+uˤWrjؚrW(E0Nfڎ4u;Խ{.ڍ=ي`'5v(M|GՠC S$f`r9ștpKIa,*mJeysڣ$cr9>ɮžf:wO=Vzx!7< @`|wBΏV/g3̸EutU1Yr)ÄcO y]|_\\<α{	(d)-_K&lNdd ˬ%NSف}n\F?=zF38m9}qΘ5NuT@%ʗ_݋K_+D9FPEK3X2$[͆[+rQRԲ&FT..}<Gʉł},g8bzwvPy6jHLaP+`4iMvXgjPpl5&ĤQI>!X41AQ4' ^~ĸva<CGQWykq~/qD(/ǋMakK_OII*İg4EL7)Ȍ&.(lYyVP3Jc:^6yy5?/"QGĝ8Ŀ:0Kqf&0wWniؘ3܅+w!5Q$f&qӳSnp[sǼS1[+$1<[.F :NaD?<Oϵz[Ie*y4No7Sn0I(a-"O*K*7JјeZݘ`.4{|,c%/St\8̔0.!kBGcU|x_[$d4Y?ci3e$fݠEO?MMG0v2t؎;UMz8QZn]~IBOy(Ŗg"Z̳`h;E̦>nsF:RfGz	S+z|1Ca+8ˍ1ǟZKn<:F;^{:a9SvGάIҤ:u*}I=r+_QAÝ$Zv tFU5lQgv|N*[wȠ!|<Q0{Nۗ"7<QusI;Q)7^"ӔgZIa\[Ń}ǆ4di^D1M.01}FiG(lʦk21rȟʞǦTKڢv<ֿ-r;	,ݭcJlB˚}Vۢw,AKoZ} XPTeoxLڠpv3	5Nȇ4i`7c,F^$pkW@F͜ŴG-,f߉$ɻImSW0fA@ĳz]Rb(sɡ?uWrqb{)* OUe)!<Àt_gʴ;}{r?m<&A*+~1s3])h+ 6X;!:>TV3Yz*@f=&@%ɥBD̂ʰu"4lQٱ`˺WDL{{3Ff,Zb+$ƨB$gPj^zX_X+5kȚ;\61L]J,ƤZ0~Ĩ{)wT?mɤwi=}/TWHϋ>~45LLduE̓)v-!{KKv~I8СtGRmbҎ[>\EPħG?Ɇ]եrr]PGC?qoQr)ճ"^Վ5ɾcުy9nEfŪoBџճH(Rk>[(ȐyV<=cqgsn;1̐^Gג[ˌb٬COsE^Nr?gǩ:>mAaU.mOZaTJʎp΃B(_(~9n(3W.v0&q=^-t_Cl\:HZe0;Mf|UY0knk2,+Ytap|n/ӎvK:b5wƊƆ΃UU1i{>pJ|ǰ~j[XPg%J)!IgVDpYhRw:7zX~b!^eMv߰ SGQ=vR{&]Z		~ oV-CmBl̒d`2}T]_aVE`V<nceu~fI	'3^FJPɱ%MU1?*Շ/^d5A,	)r4vUWQtܽ\B>QUh!=Hc-EZJ)ޏ~ã6b-KH!"Xhx0CCUK|ZUdB<zgҮ.ډR-C@d9AײԽUQǈ_*3r<NژIg ˯'P@֦^ǝ=bR(v8R>ǉ',ͽ@0'~YIyZ<w 1Úmޘaoا$; LT+%FѶSV]Ӌ_2du.k"",Et[a~){^@9:.nZa4k((خy,*1k51@tLĘs(6C4S`(hu &SǆZ9"Ƣjݣ)ETJ{Tn/Se>ήX1T_ȯa>V$(jԮ|)̥Rk0[pF&'\mˍ]D<qïbgi|45͠Mkɋ_A_aap;jNV'`2t_^5<uˌRmq%'J\lKq/ɝV
ˍ2TiP^UCu0iRmȗImdqdnɭ.RUO߫e*nå 2iRRl4LX35pi?0ܱy30CؽQi)|b:g9wK4)}&j2<'Ʊ~@}4{L@KϢ˝<v-ؒag!3GAS:F$|. .$U}m\9hHs?x|^XG6W =xe8_ʴfjUPVbRuxOWLc|*_3~{t%-oѼD))؋ھsI,jm,!4[ǐ?vScۀF}",/p(w8\X1P݄+G$Wr80lxA4'4-?6$)eS4:U^+yP*(U,[@ڈDHKv5"TCɒEt,n+^N&D	eo+őJG)vZɛ)Ǜ %-ȡdWm c 9t+8?v50sTP&ڶúh,N2y1Z4Sˮݗve;4gSfp~pỲ-×":KyAܲre1=75ٓ-3&A/Zˡhoya[aW.͊6g@5p~{g^+4tP&O+O:>__[	M=ZJ=̶LZXV-a^,:ɘM(G)y\Ml,+EN^zkQ+Ȑ Bܦ"ͦ>F[2Ε9<v7G_S1Ɣls-2(y	Rñܟ`~Lh5obn.GRv;(N.n')z6O[ah aU5oH!:)}6-%"Gs|Ѫ=Ż@(^0P[+k1}O-Z4uaJ%~̶4w6\<?wh9+"yf(rVs>RPL/ruo&iGO?c5ڗ(κɻoFeODS>SIoDΝSɚA\nkmSN!Rím?֚4 ͷ%Ur-Yf[|XqH+fAK~9$Uv:;kATIqUI<&EPIun%Y:N	_>4nUDgk|0s·D(i748X@6m,	%le=+x9S_SH.ǳ-ËX?OW,1'5) ZT*C6׀&KAT[3߳J:.TDIow8ha3aJOH+]uܐHF Iܼ5-WqO&H߈դU"5mYr+X;-f`G%:*z]37zIn'0?jc`xyRQx'UZLxpp_΁:HV(jQN8t_:Kn4DUMoxM'D2ȌȰu/\P)Dx@9Ic2)v-O	^ٝFGW+(8.Z	Ô1AJfcsǠR[[ŬMa36HdHbEmhVlRs3afۂ^-ΩO$z˾J,=?8̼Ƹjym8<=FɺI5jrs6eѐ8Z;}ϺC͔e<Ls{1qu!t"A%oKR?4D >\"h2f.Io͝Ajly/)^m2VZbț@^a^=:,p!1&ݔosWDkѠE_^Hܼ(kJrPȚk-zIRK-:j|c җo-?8hU(\E*5f2Uopp@X:o@ʣ=$7zL9-qRa9S۔{[,|ӯIQƃC;&E	6)ǴEÏvCéKrVڜ13xV{57Tl^zr,](zEBqcY-8n/Sx3{iÿ+J&\;/dg,!6['vRTj2{O	&9VԜOĺ(+n~<mUz%xB5nܳ%!K>G~n8sP7?pfʧeWz)@{<ndON@&Yi*+8Y՛B)a!5Ժ߮1xp	΅~ue;2Vm4޼FTȤdA0EfP C54QI^H7|FiI,zĀC~$نŚv	ozcmی+eȷB%\`Ι4-ɦćgH7=ueD.6'[z=5EXwƊ8ڬv.>?@;rSinOyl3P6:ɳ(o+1S5ii&`+KF_tn<w~Mr d*z*ɏ;N+ug'QLLJn|i	oz8E}OKxzаh?HW:N\@8u0n{V(ǟ~^*XyS^QgƏnwIF3/c%Gdye[935wQFJasIȌ̥2I@mmxSt[qy WӁZ}RpCU̱7zs'B۠v܀DUKyYKogHxٰӭc`	:SgSHIS;v^jKdjn}6}7cy8ߚ:`O)bw&+w	5h[Pq4+w@nZ}*Z%.w%AΩĚp1B)܃yiDٰxp8xɎ\`~RDղp\JUO^aq`6q>i*("Ql@!O@7T	LrLrXcNr*fL*<g`q]N$,+u]ph^}BC	\rI`$z>/cF|B	B-L%ƫʴXk!a@D[o+ C5&͌ݹo`<NQ^ԋ{"D^B8N&|vHvX=8vS>ֻQ_Sr_ۮb)bk$fcT%8ke̗2٭s@L04MMyM=]bLiFM9)jA'~|R27wʀXa30-ʀH,!"$pQ7ik?RC9N^)wa**1XcN/I1k
-Fy%BbyJV4F[˷̶cOTOjL2+RRaAQßǕ_Bl,{xȢAWhe*evSR:CՇjVS)qibr|gC/GGlwȯ}F!&J>ix)ťϊAl>/w,L.9.r|1fzcvg-hvPBPvblw)`]ܴeTxp̩TUy,q3ϵd?UV`Üq+ĒgFGo}<w(=EYcm1z	[^N@=uOv3co5ٴ0aF&cZ{VzBNyB<!\=mOIjǐ+V7O2+GzYGHצزކIސcƑ&PV5WFG:RTy:=y/7K.͕!sŞ|v!2y5B(Sr O2+$t-kc3fV<'EV*m>Uk:'2*dF+NU~\G?[̞'REQ]l~; `5]`n$T&1ʇ }VHsM'uKыÑ!|*V0y"6@$2xci'ko$B:(hTȍL$g})41)اHqBG]8[36^[Q/ș%OA3:K/.2F^dW܄Jj_3_.^z25[ڛA*՜&yY~йYqfiɥ0p$zoWۛ4B}?=$ʖ7`CSoƨ{cLł9^>51j%pȭ8ϫ5WtXAhHi @LJČ.[%KRZe'4wԧ'N{x=VJt?sEz SC(gX:(U8WBځ.Ihi:({ߟ$4xUSgQ3M3$xRLaZ1jőmjˌQ3`Gzy4>]wwJqʉ.rv~~i)~8TsEdԭn֓p323ǛNcǠAH0ȧmU3+8&EBk'-ZP۫)6zZz+s>kv)ؾ?|o6moM)`O`d{Bͅ13;xP]09L>J"z7Nt`)E^xoE;yK9ܝzšˋ8R6΀oa'+0y-7Hp;O*|E7HXRE}Wp8QL1:I>)}[tZˎ4|P`zCcߖmg5? ̶%Ad+Tq*r7nU04cd$"F d45?z[-\BjaL%25y,eu2ò-DɌ>4+^ް_.w3֗1zC/xzd):ܞWŭw..`d m2̈́eoPN7])x|5%nIaV22R}q<2=6_:i:YKvěץ@՛0hoJ@?Ը7dEd,ׂטtTbMIh-3bR K3.$ɋ&Y̢li4n74,? D6BBƣXYJ7<@poҤdvk +X3"8:sǐqšV3هZZ?Zʹ0_[SyOj{>Vp1\ɌЏvJ'ɨjI_FiucCyS/I'rN6<]	&c2+';rQ(]>LSz:F6!6u(Фo0*`\|ZYCk>4: }h"ǿD$m]*m"qmp EWCŝ'%+HZ/Gn>آ],zT3w5>5U[e8AһTvgՕtQ!%(M2IT}/vM`2	óݵo;79<<ȉ)|'fǑ̈́˽ܨ@BH~xD')t~^i8$7%'P+qHKOG^	!wUĕ0J<C|ɴ=IgLhdiHK :rbȘ=Phj<6=,t*-3(V1Jܱ,Βd{[%	lˇ.@j0,ZKv},$T[g9,R|`tsf5ZTGDP`2ɺYmq= p`VT9Q?j+!E'wSrbCnVMJ"h`{x6sX`/Ӎ2ҥƂ vap,%:ZOa|PBxg9`ͦz`qûkuujDȆe4P_"<$)X=.̴883'^Pw-.8^U/EǻpVw	.iOM{}-+ J9zV_mn5צVrqN lxUĆ:J>BE5p1U:Ú"c_WOaz?Gu-rHz	5}OoRԨ79l=W@9s8ėwvlqwj2au$ԎSZkE͸M=2Q9S|Vݹ2y[u C)~CNUYjoFUc?;|Po.;jħ)W/6ې1ɎKRcѾ\ILû{70BH!utl]9*l{&%*X.kAfP<v*%*e3oưB/ȘM_3)2f%kŸ+7ۅA,^x)(i\r;4MMSw3H\JW}	QEm&Two`˟We$Wz3p3Nԗ(|	͏b9ZYis	^NY=Ԥ\I7tO%-vlH5NfieSMC]MʠE{$cm̯Bux-oMRr;{.P_$T/w7L<n-ՒF-܎1A57j΅"lwMʑԴCqVGqȢilSa-adIDth]$Z>c"gHGx:*S{LJFAv~W:cXݡ5e)=U~_cE}@QpްR(8-jIÂLtN?.5j,ˏȋ:khQfqEblK4glRCySԚHDJID@UiN^tF"zxOzsyWӰѸOں!ѩSsqBUY&:z@=Uk6!ٸkf3yxe_?O:WΉVJC_-ڴC	k@?01Ǌ~xt߫
̤0v7ֽqMprGxT+y@"AQkׅTV,S'@v|s˂	2tDJN6U}<+Y{>cO՘$!,+Yt*d*91JLIR;8aڝi-kWkc7R99sJ1VYFݤP_GPq6U2}bVv41v<y801tg)V͇vW4YoD%ZWW0,Eȯrɡٰ5uM.o!2* REZN[O}+nS&msEͫ.4"˾x~DVA M>N@CD5T{Zpfל ]!N)`+!ë!b/kcYOw!HԐHvT(tٺ̾yŝ{fu$ElQN~Uc9klac!g[pg~c22h~"9,,HJg82_[&>	R+Zٔ{X:R0ЙXa7W.ٍ1.RŨ'Pj\ɻPt4~M&fxvڙ842* ~qi}X,0xQUwD|oi>_m3Fىlyv,*5[<aXtl:Gz<DH=Ȟ&a{{jLK'l1qw-ͨxrm	i&!eEccf!.Z,"VD?40)K<D"pNi~hd^5,@"GN{8C/˰Rx*ki˽0P[ͦTAZJh& :<ECx]zK/?-!z+WmDvNyɵc]Gpp-dg^kJ[̋x4>GA))Q?!چ؍w^Fy1F&8ݱ͠`0z.DÀi*̕0"z"Puc%}K'P߃f$hL2|t-2C0q]AH{RJڰ-qu2a^`S\.2qy`^&"̓ttnraKBޓ|!{ډaf~jUͲfU&"pq@N\ad8zDG|}ŷږRƉ+zWcvŶ,τ@u%`t!RA;,(;+{<3[OYKwsHVddTYdeC8bЍV`NS2fgˉ=/tʿ%s,cVx]>"@lZq(tNl)>&P6~[4g77aǆD˴Z,a0Bňںhqf͔amNnr*&zJBŽ1B?9UTE)~d4gFrյ@I5?HuF39tM3T1c.z}==Ƞ4m=qcg<HCLctx\*VVROtsأa߫	Hg(omǒSH5VW"r̺8ÎPc8u9ڭ}JEO6yl*tt|$;\@AU	<K6(=sю/F&\zSej[.о<Gq=f~WI[AeFS.D?>ue˦(<CÁkt<35xWڌ['l2hmK]';kG5lPgw)_v0C%Fqz]B`E`TƊI({ve|5	W+G$zOɳ-BenikEgTy{j~Co\m tuv'{Π?Y] v6pvdY`:}UzÌ:lŚOw0_gp)`TdvȞ*J PumQ}d_d5AbNȟfZwlua̌,qe@ϐ(wx6wVJsJg\ۿv.zY(|.igOϞQ.1lY:"{ɖec],/$]s;t&I>\l]g!&Od/2o-Φi.IPV`a&1{ġEnG=XM4UN_ӮS׹nO*upph.ͨ/j\S8ҸtlOgZ^wc!LX2'x\%:nAoZzP_pl+Nj6MȉLrnyv^}j0ZoϥDxˌ3P+fY@ɐX0@Y]LIBޜ,ǵ8CvA1F6ip:3r3ƂrO'=Lrd6ۣ?j^|T%nԕ1[ ԈaC͘(yp^UrdSRG=rYyvEgh(:Ŷ&~*\AVҜ	Z\So6HzVF	*V|W~o'cqF~{g%/y	b(jƍS1Asʣ;kO^Mm=:ii5IglwO}%7w0d|96qBHSS~(L``~&Gb14X|UZ{>gzPmrDFl^1T[eOдê-ٍgCk`j!l(ַ4oΟ1ȵtKb%p%37ŝrQ7tJEkXf3ʱq9J&IՃSF&H<	'uY3(:tx(sʻ%VE8&i(Ճ<",$.%j^jӧhy}Țf.[36~Ә}nh%v%W48~l"+)Ϯ9Un\Ɲ]`aFbϗcbumO^nމLɒB֩օ*c$ųl[SD@/4<Ĭ|^2Bɴ~}rcrjj(~4݈>7un7BKy^!.6|NKni]hWLiǔxMyT5+I5pl^la%IǙ5uˡ=\9{lse*=hB;xg\.)];5n0<T{~Il[AZkG$=H,^ԇbAѤX'	>\4]<lZ3>B=}ndu~Wv̔eǟkk1b7QWCٯmRS9Qdez2FJ)߷γVܿB<Xu%d!&jUM:}]f*'^ʍؠ.XVz;iM'x'?[wJ36	)PƹxAWiq6ɝMNHG`plVG`J(kv*l)ӈ[W$
4N@Hf$hw^wFDL+QJ$ѫmτP.%ѥiNZ3Q(T'ƨkƊ1(1&@Ϧc*LNJňlx+B-1bpgDCLrGf6QKMk30Bp0[2@+/)R'-%o\2VΗgײ+v;h^گUج1q!6+RƴsCI߃HS8P@pK0,0pv]X"`tڤV@ȓ'r36>f}?HQگy߸,zʒB0.m_6NR VvTǺ)"Cep\L	}ˌeV;o|RʿbP,G"T=~&;yxZ65iҫIAY!>Hڗbk}ٿAS\7ȁd%ғ9,1ka2I%9Nm"b+<kf`0 1c(,rx-Ɯ-ٷKTҤf:0K5KeFǫH^.w;w7ͿPg{MZ}U>RT.=D	@Z5.hڷ8$r!Q:1PMbOYw+QN>}HW`m	kAc?} 5:<tr)4RwPěͪ	L	/tlX6B9&)C~;Ve/O]TM)B\jcRt315]7|"KK~ s`FTfC *!A8GDxb{jocP)~p>UAԽp3pKLIwm{kj,Zߊهakn%&g{2	ץ5=:K8C5<	k~Pr4q&b.\oK|DXmA1)?D+XGH1w,7W6,e5)JYu/!!\b-!,7Yzg!NL3V>oj\͞ϋтA8dhp̎2;s&ۨ}:A<&<ujnRWƌ;u}L4"S[/?xWUK\Eg_|ys+fM[av=>UtWߏEǚ%QTKI)Nˮ=Y`}md"=Sՠï֠!n1-@F	B{i?ɾʻ/ڂM<^=L ~gRx+rӠ,(PiL)`VH'nK60"vǂq('2^Hr7oABwJi`r?MKW>a+Kew*7'ϲYt,fǡ!@7;+q6iz63L,%5M=gZ1?Ĭ8R6hR^E]^c^EtiemN7kVMyOF4JuWfi!URāOOK>VgQRȶNy)S1<<;AdhA_[.(jgSpkjTQ5BN'ۆxO%0jV9/l`F(WWoǖ:,0BB`0c$׋0B?xB6$\o1/Kmۼ/$Œz9Cf)3-uPܰ@Der@K-}D	3)l>'fV:-T,</*'2ca3gLdHBYjXjK&VY	3\9"jw$UfnԻ4hT|З߰]B8˷ȱø-א~K(	W,rsIǍˇ95}hU	Q/\so)Aݺǂ9*]j:MĺdO}ݴ}XiIŎ-E`HS5ɀ\_i,rfI7.c5		Z_p,(A&6186wWFyEcdKR%FΣ8y'7$}/"ͅd*LO"jOSQ4/.SΑV2~FJ-.^ES>0B	<>l.ڻ^,bޜU3.ΧW*551TI>C{}w=p0xhy)ΫP~Fv̻*Xy	+5>|A<N`IBzƠE{;mQF?2X̚8;6O@ߪ{obߏw9$kP]B͞Ŵ&*Ӵ`v aYsO>Pqګı{M4~q]ҾcweIM20+SCB	`G|ͅ"ZjS5yZ/E:$A?BWAcq[gLyݨ +_'r3O>z`9ØsYL	)sM0[S[\bkBqDDwՒȗ;ԃoZș6SK܋q~^@,XS԰ȣ*T(-4fƺCUcl*ׂiC3|7VBeSƴSyܳb5	LYnU@<Òկ)QEi8hA>; 8Z}'֌3)Gms3v{'-;oQ_L|/p$pP[P'+X &[+h	\tUjkhExzjZwp) tGauWַÖЇBBZ]Uхd`T/EȜ.fQ?9D .pF]kE]eRzBw7Ë'&Q;ZWFنȳ*kL-QQvGa+6_6b=:SdǙNdO~6O5U	3hP?%{̔=@">}^aB)'5׬MƁP?Ln-ԸiQY'sb85AٯOn<?@C[._]O48Eh|-	Ʌlo3+~ag96*3*i?L.FQQCˀc~2DO-3}1gX|XSd%oAY"}=nç1Q':R˭S!.U5AP[K5m1OcdHEk]0<W2	N&wJ$xG/c7h.t0-ؚ.1YG$JΰvoA%;73&~"PhmWH-aΗC]0|+(UfpӜn.9ΊDziܳ7]	X_u-)DBӠn/oSJh/ gWƮjDp\nuTM~j\[>VsivV;$kʘR%kؐ~8~TT4Ѹ?-`T^P$]zmw XRҥҊn'XsV:]H>ؾ>4r;&ɨ'2T5
<n"tvOwz*/EJ<i;bTrFqoݒT6OQ@jTAEE-Etɟ$4])?S֜|kƩyҠ%`I |U9)w^xFi!yK`7Rg lD~d]:k&%_^iFb1+\Jh9%E-k{ŀ9S<z8~9f3v.Ìp]!\g pәCSl۱<I,jF4twJKW׸i%WxgtđŔؽ8SQo_|T^_iu~G4WYUtcK]Kȋ:Z"I);Ҍ >`ͿH)1:?}FhCkE)FH,/q}TBW$IؚǨvk8,ܦFQkL(u!D`&\m,A|upP<LLj/?=&|6-&v`Wa9|U9m2)>}Z8HZ'}P/xBH:diwvHbZQO"ǷD@w_yOPmHČ?b0Ln6t]]drπͫM/LweOg!Ʃ[gqOŗN1s _MMi˄ıWi-5KXPfͮUnNi|DE/ɰ=U+:R{F[<eؾaIy=$7qMg6.M3M_aF`6*zVI,$H݄w:x5%83ӽ&|ˉ}@sVf9UfP&9jcav=S%6AXGql5nq'9acMCŮb@k9l~KrbـeS{79|?σD4)>/q0Ae=H6E&|[9lrC־"Z<ZYcWw)008Y^o)~$7ywBxՓiyka-Ivq(YşA0MKǞe/@]c<z%7GZI'MD"Nb˺uhz~D˗*u5KI(}Ƨer!,K\/4)DW!$NDm5<[yNKRVj,Ǻv7åsV%Q?_-k7r+|Jt%)bezsb[a>ʔV/	{i0d9D8ֱK]_^I^"N3đ	s̗XDF@LVÿp?.ĿCwȝTtR~Ȩ\Z]6t&y/&SWɱ)Z"@do$?7MQqmm}Z4:MQ e<SOuI?4hZi/l,ƴ~z$w?W˒q7:~΀p[\{GԮCV ǘ+9qļ_cpłʫ"3=9	Coݼv&vSyɵx|ZNƠ!)G	[tjOqpRȌ:3djw<J8@}kIاsuaDwsJ1X9nx_cg $Vj]݇M-oTL!QRUŌ=5p3{5ΰ΃M	q"ŗ|aWHUz+vG6Ð 6̃3_{< mƓ28[(WO^$e)ʶXsO>ҍL}OkFF08yP	ˊ:PH:ѼCA?މ>m:7>ȏk?ۓģ}l^LnǦ[=?JfjέBgh&	g/ĥޞTGc=O:1ȅ]OwCq!K=Ê-g~5|+ݍ.ڦT<H0&9q'C{s6TK}-z\om2j,?'9ҍPOvx5a3\*N!t,]C|WN"Ò0ĸ(GaBsjST  <{/JbZL^fj(<t)X@aTs-[%Iqhgcӈl$d-Iq5m" w@q3>fl-efǬW֏i&8S|4,4Z1B|){SɅ<>vǐshi(c$X*6Z:aduͫy iUU1Mzgx5/.|X7)YjŚ:ʯ	:cCNKs1~	{| Y,'ͰeȖÝ^i?P2h^hȌBVÝ4RʺWnc^x	RCv%C9CAL5Sr|MBճٴΆlgu6T46>lSZ^Ú[PRF]oT[Y^7+M6UK?_9U-*}d.YTTntdtcއM݅+ҁJZb|C$@K*'B?l]D?pmͤ,e۟<3pÝfؕǊpE̛]SR}398Zͺ_ɻ|=T3R	B7[Z<^c*ZzP^ç!!e+Hauʒ,j_6]n:WYjiōp̚_ՐZpޗ;X:˛	<s>lJcl}A߭W8Iq\ iaʛfpӹ8R2'ooS]=OGحC83q[m',2IͮłJm̍,,Eǃńaߜrq4\T>jxk1mRֆdUcYAi:E?\Ad.}VL{m-=N</P{حMƪ]4A1w6ǿb:ճ/{TH,	!W/i̹\+4}6\ I7G={/&	(e8ȬAKߔVeMʞqL!B"sB d}ґmvHm˸Zwk	)aq=7VFoӵxAɗsC[%,Cw_3ǳZteG5m$$Y]o`E<߭u|O<!I3ԁL[&7$1y +Ʊ-kɢ8S' MŰ/+V/8L:?ӡF?]XeDy33/$15b;jƃ$@&ω*xۇ^G3@\yx*ˍgz3gfߖe	^}8+9X5İB΂| ո-i1)ʰ"޽O*{w| }hBE%GY4XB7 E[*A*! ҩUk{vn*ź~Ri*@7k:b_@ͼ`6Kvɼ?rBOq]{SO2z+8_Rb>(g9TE"PUaQə
b V,-0ǎJhGsO:q0]רbóX1|q7kUyb̝%-O1ˏ֛*MF|>o@06j.t9u-g^ZNZupjo=2JOy ɦ	:Ah	سFK89T8,zog1r'CxO*cjd	qkiȰ&("_<F=÷)]`ߒm}mq}o4@onA&3rA1աw8ʌΣjwME{o(,+jzi 1K]s~Fl9nedr	t҅;D{S~vW(d<RhLlA%̐"u gf:&Ŝ-!>i1	abT03̔Ƃ]I!Y|25\@ͿTuhk0Z[8OaY1hT<OʜeEB*(/3ԝ Ր)(1COF8)z0;l(:Y=*nylnǧ<M1;X5!ƽ.DՃA&9*=Qܞ*i=ߤOb~v*~NJX[M41JsC\"G֣3~j"Pï܇}B,kA˂	6aɐ+'5F_PڔǓPZlџKZYYGlD-ơV.@*Єl4o&pI~v+hyX@k|7=<v6ci(ǰbzQ@e7ǵ/mg`.Y]hdZ&!Htb/=K$>P)~T|JT|ݧ8=NlU( ?,8sҗ:@z:f'4D?/ǀ86ӗ~*|]8pz@K:u"MC;Xj\{[b8ei9Q7&7ސ2>WL*bMهW7yKqڼF<g+.B'55TNado&sYo^ݟ׮h^BFA;]1@FY1~s"8{iz%8%	Jg;TN]gǦ-	%eMREKyh\0FSrC0HQ19dyIrk1*@ S=*i:.۰jbέaxцu~i~%Eq>ijfKdS|Y]t"0U[D˸HIL`{׌a2/:a8k/$HW*c_khNiq>``;)5Bk)&dhW"L~cS͖n;ȸהU_g0mHzU1U L<Hǽ6"_@6?|tV<@ot/h	:DR8?rKy-XUIs2YVRm3Du8za	bճe@}8;/Tlյ&V29wY'j^ʞ`;P{$V_,QE"U0FD5DZ*n({bDLD=w4bgdWH]t}\A8]M}	!@M'=]GWћb3keqv%~^Gx8t4@ܹhھJ`tл/. \ ͳM;Yxd7I&XWoWU|3G1mm(RFz&1+xh+ްZ1p_z[HC&ŚMşw-	8ǋ%	8ZT`/Kc*_۴U>%CB0ŅsԹ4*[+8r+Tw>zPirk-Wu(?,MU[M+8$ZSIds(l- J3P"5/E"ßň7gȡţFV8Ѳ9ev:FpCh%Y$ܬi8b8h8rU,̳D֐-N8*>2[.NTďfe&ҞR<<Es&<̵9?-}	hle֑t|̓f81H̮ʇRYz,`Pz$eпn2;֤LK6+~<sq+TT߹.:ph%9VQ~4F}F2֩ax@M1uU҉srLdȹDkS?H!<25uOeȾ-]/	u"6R7dpW5T>oԯxHWidCjY`4ˊmhUVbxSC!]͠;K4Ď-b48K{'+XNݟG"U0Ц$[c͇7XE~ugbg?Ng(`J&/]KHrqâH Tn,:8fjduPkD0ja> ǰH'^ʦ$@kI&!5J٠ڍ=r5ڼM&9D4.EjC'^d-vqcs3MԢMVG 9{&{fg1YE^R,lvV/QYUEez܎ċo̠$rƣP(pC԰q6{fk>,Ӎ|Ŗ;x(ylv>TKTSm1{IӏͥNqp!,˜sQFF)~q;`hJM`k Ǣ.Sn+RQQ^'nSUc;0MW+7ޘZv!Lk0Y˘O)-)R@WN:`X=W6U Y	A$ȑώ%(u?cFgUQCˣ^,ԜB5T2V(tę)8z`z΃Gdނx|K<kgor XH&v:2btOn2̪qvMSa6=!+R(NiƔv$m/yEڋ{nؠ_mè>)ImV%8{\Т-,7Rɰ|>I͈At-Wo9Gԃ<|ni?ucُ|S41-!v?R`f	PWmYM1h)>vDI	qn_*VdH]m"&(j[q<kogh	mӘsmoe>2x:ŋbjJq͚w7;%2О$΂VSqL^bVׁݤ~2c$b	TxBMHLdGO;݇H04|+p"!D9KɢDʀcR8VZw}ϹԠGwAoxmWErDl,ܤ6)H_KFjBTʩXJdwxǉ0:(1r!qTխOў:t6!`0êŹ-G_Ȁut,[	6Kȳ"D3\-.]HkfP6Z+{L
bgO:^P&aic){܊:{ś5``yk\='W&vf[9ә.NX:>9G+Vɜ9;}pnZ=H'>*-dJ<!v~8eIHX)bإk2i{cMJ˴e67BKYOc5G8Ye@7H4gaοDMJ9hE$H&4.7E5,Άa{crI~&@(jS[^n0x7kl\bR^<V4v>^Z6}u<*A'>tZ5<G]NX|'ra4rqIC{_ Aͱrąhrw+t-b~/ŮOoC)`*fџ7-ÆҤ[WmD]JjBk:fG+ƙ~[2'_yMǾa6	H@jeʊ	iȬp!{/iɱƲbK;/n[ַRF@EDC,7c8__͝wboZܓS3NTjT>-S&B9b^4Y+b~cTЋ|զmBuFƓ<H`_;	<N[@a,a+Tۇ_\Aa-0L0qֹ7hOWw	jUĳP_5L-yXCE3%{Gr?yiTf~wy*y8mep::r(+WfY,PkNɞQqXKB}!76-V{gm)-LzC}NFޢP^2Ξ%VZC[.ڬ	CkXRҶ c0TٮfkXR&]JRխƾB8ީK DtTsRQD\u"zYxvȒHӸɖ/3-0&+١zh&&G^sGDux̶]3K`.Q%sv)> ͦЉ'>/vt0mY>ѵ_Y)<mXIY7>˹{^dmƏUl~ooeݼN'S`ʟ~z\Ov"3/0dFƨz|hZKh:$|aq=z&`zзlFk^\\lǏG!KOxB-ȬVL55ïzs9a?2=ҊZ{CQ·$Nkr30IO]4?l̡IS*E!ߩFte{X?3΄ ~Pyy|ʞB݅3SM[suF_8%=<<iUzub·]bE[I6r+Ƞ|K|3lWRb/QH>[[4Zg(Vϱ	A۵0c̛44$|t)Psi֜vӛ,Iܯ(srqc//ĬDr̅5I*:Щ(üW^c'"aK<V?M4_Xpc*fvCaڸ/V1x(=03_d̟xFƉwCFK@?g0riyt'|BĈ5Xz*`.q&/mW\eBlFZUfg8.J.Kŏ={L:Q	 (AHv$1|$T+O$K)ϽZ w|!̒N^~faS4\rbUj^	2r{aܰ}k0JwM`*}(ahR"FB}~6Lׁ:yO`h.%5wz2S-.i9AINAigy.cqy{RX:IbLw+CYӏ`۔ZFeb8p֑ZcyٺkzVF$\nZ:nĞyJr^jo{;ágzs_\ZgSǕW$r/_!XǼT^b\NPU0rl?P `ܕN/^!ˤY |n*rݹqvhV)$osaeB.\ژXx>\%ħj>~vGrۡ{~L=v.n~@4O<0n sJ;˂{\~I-9olӋXҩf[Y&Y$_='}"@W{~((G0"y,9jmQgF7<"xw!V\y{[{4=mnI+]klֻ<Hp"ɪ.w|cfĸ:>sP=W~aǉYMm̸/<h<]IXˈe"I=@W߉q:uVhe	~ܔ΀qt:ris"J:qaWB@'XdPJĤYk^55NQ?""c[gI:pėWd=2/ͮ<y@Wk-PB"Y*\tڸ;oD&$=L5bqgq&wlk741Nbfm&eJ̟c'V9Vy*^C_T?`	RoqU$3tnNE>G=SI=kX8Ae*VTa7vM_Qzŗ\B&@ȁqD̖uU<0;$7.Ɇɏi*=I$$%_o<hS=rjt.jbvh\Epw1YOp"eiS&pϨ0.X4	ߞx2TF~ylBHC84$MH].qF2wh>@w8^xn<ukJߛ[OV<g4/wfAa({eM`VbBŒ)WKeHYͣ}f4a'^ˌAZÃmS:4О/&EVE:BGhEGaXhVe"w9	?n5x]QhM|&Lv^9ȔRA!0t(Qn8Q̛da=FS4,N%UEkg-@zme}dĭq<+roW˞Uɠ|f!݋ӹO-fBD>.nx@YبXCzǉg$c41Ez*@ܮe)PBlHys"n/qS͕bJw+ESCH+MbXycO{!\qG-M%TpQZ^/Cko78Z"5ǰjO*0 $MD^cYǩejbZFXףRknn{0b!Jȏ5&*O@@SIvIƕ7Eudk0c(3?l&Uk:l
;\:6YlF?[q m:.mI[f=Ŧh,=w?e"c5J4̞W̳^хLTũTk]L]ߧ"$r=5'T^_*8|>߃)kŅܞ':oA ]ÕvYZI	`-	XyhȩjQ`\URd؝3Q`+uhLڰV):2h|%̭K)-+Ɓ|-y`wzKZWwOFp'Z!,'*7}S0")ˢVh*j,6iaUoBx/;wS:J.80_CGшRѯb47b`cĕ@,Z<: w:.O~>czјxj/tsiL{uomC7n*Cd17vtuh[S:QHoS,lG)wnKL^W$`gXa)ǣgAT1o`ETD7>%d[z;2DOǱVmp1J>WT	%$%lMoyb^jULxÚȊהxF:)MɨU36:t.|F&mf$hΆn&Ls]FI\$Ļwskͮ.J߿׷_3VE,+lF0MeTюX͈BSU)Lz_ݴ-Ѯ	o-%JGpM`s;OJjǻ}W;fRvZ_39յp!ZzLDgtϖKE-vc*?Ž.yBL3`_-;9}6_&w|D-ğ;y՞@'(lY%J'EY r$>hT.;sFO	I4*eqЈ|am͕,^1V6{WV~`ҘDxɳ0YRF,Jl"Ic2R_+.XK1ԨE@h]azA}Ew$0;<B|jADEO|9LKA7QA̕-TDxf'ң{^g8AGޣ48VSɸɦm1X-`)*&o8Gw8G)Uu։f-uE)hYüɪ'-J|.SZ1c" Ú`udJ6U߉tblikuq[;D-&'yԿ-~jgɧFʺ]ĤDtel{3ia?j._ˢNvb@ _0	C1ǟ˙&֘ گ޻ǂb.B?g6ôXA?^sq:t!f3-2hǄp<L[zL٨>z1r	!9`ė9VP)KnD<T@5q`:/U[M{fǰQ1wZPAf3l ?ܝ95êLFv0fWwHW<gxRiZM@Ukl	4`4c-7qJ1|x=MD`D/UͳXĕ	q̘[{jPfH~n-KPW>yeTH7eLpn!A(I3_sR*v8܄$m!vzw2n"\w(9mQ,iłȊ}1|>@2b]327a:Ξ\<Mx%xCӬ< >UNs@5IBlbVJTxEoQǤqR=lt^wKج@>>cJqs49^u$m7mJkU]Z]Mp<T^ueL3hgKn~tpY9Ǒʰ~]>b;6Oi0g IaOZhC$PkwŀN>|1H]?n/u31C/V::ըE]щ|Kyq\][Y~rJ6U0/{%Ka9vQ<&;OqM,45VolDB%,w(6X%ɦ{$^aȲ2ZF[&059E6VcC ̓I(!mfX8:OӖOƍPqsݠz6//=1ArgDSO3d6&\{o"0`X̲ё->dͮڽtP̳ Bfi^(iK~0mJOrD~vc:̎7~ȡ&0e~Kr{$s22avQ΄qݬ|6s}aq*ZZ!+6[ 7>LH9" Ć[}}4֢3HȏxSX*m8vhj@8"kE=^;GS)ȩsVs-'~\M+1U/_pXP?,qyo.TJ/k{Vr QŦ˟=\hSwW*1L'ye+Tqgh>	ddр8ӼK@Zeؠ	C'[_dŊfi}DMY9xGkWL=%*u{Zc		bW_ݓ1-s($ZCH6504_FsxbfQȩA(h,.۩xAl8?'h^4-I^8PRJKkd2cama]ui]Oz3d5PŰJ(7uQ˰X/Ģڼ(]K%%2SH]Fr_EhM!+^-lƃJ9{oWxsFǢv`2l6pI:+ītnWzU9[p9OkĒUj=)izމ،[?P60RlX$5d4G\,.~rxrKU=AdƷ7O.I_.L_K=o@PƪHK1˸BUܗg8kРg99!ɨhŁ-'atɶCr*=3bS1`Y-Ah71^3M	ߣk}L5rv"+=]{;oKǿ%})J6vȉ~ZWUgLad!آ +f@ܶW\Fs5Bű@ǕHz,aiR5+5;ƞO[c'7`Jۺ,h=')sŘFc'7:	LVn)D6e$5uX>3_9x	jw@CG3%Hq [yi)]G;h_JǧWd2'6DF1m_\R6|S!e.,? 7,,$Ja5~\l0"uB/kg*oCP![lUm7p1ę/pOp%aB`L{:]mr	Tǅ+LS1Č5cohp:rjftcHZ\2A2řjJeN(Ł{
nq"("-Kbbr	c;gFfRƔSfvP7mB͆~YrvxNAk2$]{TfWJ5ٌ?N_037iީEˏ~7eJ4oӘǄ$Rb4v'hdcU̾ %(sN`sOܲ3Y8F!G7y\Xn7e}w/T=F$Ņb])i(r݇{Ub6/N΀PS7VT'LII<if|θÝ0{w1$>%ݟuJlO12LtSf7nDM$BW8+AoGmjL/G+Pd4үDƨȹ8qYNـi)6Hv%LQ9	ٳNB(TМ(W5(oGԑSqd{U/)"kET	Nɽ}y{[V,PʀTYBm]U8rgӵmU7r>^,"o^.ǡU@ g?97ۂ><jHٱˢzlZ1T|~nLs|PcQPрt7Һ58TtVɟ͖O7e_%zP;!h(DMgHZϛPSrͦeتsZ I&8 ?NP`^7fK1Kci@ycJdQ}stU`{rf^" P,y*NT{9Qo9yVh	SbȀrs'AN68_T'Ȯ,3$~]˽oe_,tߴ0F;KGҵV/JO6?h_05|Ox~lj͒F1Ƶ OaL.b,aH(S;&:0Cw_Dp6q8+Sz{0p;qGt\(Qtħ5q&Đ7n<.qy̉{m2Ue}NG|O3o6;i=G+ǋ>p}:3U&HC]^3pouΈD|R/H]ck_,I<lO`+0&ˍ*â}AX!*p} 6ߊw߻5/!4J.d%K%|ա3721ł˚͔wJ5j1u})hu0mKm9o0L+]E*`rk{Sͱ?;c ~ZPVwx.`bZSk;SP]:\ST-ZJո`:<nvG~rOySz9.?Pf<A06}YKƫFa2C0iT_ӐI[YKturbYT/ڦg2f7Bg[cn3W?YEA$*f>S0bPci/ݸ8ax>+VUh=E<	+F't+	H֭\_r%W$jOY9>(rbn0ŞNZ}(Dy-&*Ra>1;pMl:!j1۫	^̟J[`{vpTp;xvˋ.~KpK*Jx&Tg1 ݸ?(t%L/y{ נ0OR	Ci:ÔZjq3HrמrD~`UM;@c,6G_҂}A25T׻IWĻQ"V?1tP	{*a!zLuSrEz%bM'ڮr*+wʒAo9QOKMɢ`gxy+VQKwxAgFJrBC_&QЉ0+_e_%G$ L?dÑ	2AH^_3`6ӦwFȧ$)U.cW8[Q]M7[XhG+tL`XoSO-X<Ltȳw+إId8[+j8<'3O^bUy/e(=<.Gs&C,)fL{)5ߟҶ'Ur&($_BbW>3J@|F(Iwf0ȣ̫;R.ͳWM*lvU{s6Va\*{.$P_r?	F\%N7ח<<;ak*+OXSLN_ƄMrsK˿r3\OŐIkǣGc'2fFa(6ɺ)ѐ7۽@\"Ęٙn}k8&ƿU>͖!4CPTg<wQqa{pDsȁh.:%Nƿ'BxҬa;eq^i0Ȁ5-_̕*mVeiڱ4(VrITHuW&՜>6O2e3aҁ5r	g!>qg0.fqQeBaЅ&f_J'Ϯ7xoƂeݵco,C:ۆZ*zΰN` ǜ>{g՛W5,.]4:ՠ+6]Rqf_t_ugrEߟ̾nf(r8Aef2ψRR>-v[u.K;>>:F?hWwsf4/.0(hG-;ƇK"/n%h9 qŅWx]^E>[Ҽ}m8OOJAkB2rkdr6b'HG9١ :`6%ɆNfd%^!Lѻ=\KdmWEmA͜м	\3ˣȈ\S?3_.^zR!ö_t̐o+T=̛$EP"Qf(0Rsm$O!p@;^_23n2RD0̶16KD%x[e+ȰWO0FӴJA*!a5$ќ<n=[5|3{v~q]uJK"0OfG9ŝS"d7!X3xէȫXR>o`H{he_VWغ;Gߨ:D]ԬTY$-wBɪWݴCBwi?c;N8wOF͜weL6+&j)lӜб"h8o6(Ο&=8oJH͍+,VnvoAI!˴]LMlz8h}'u>PˑhfZ3~AGrzC{Wdn56@Ii03юx^IpOQz^i]6} 9F	~ƚRe[T3	[I\_{K*=\ܬB[`y3n~޺?+9PISݽc9<dͥxҎ	=de~iƓE,Wal*֎>m̊vy(}ï*t?YG3҂Z)\1ƶFKjh6ŏ;kÉ.E3L5=>ZaaG|$a
VwCh\4e415Sm$Mp;9'FttH@y-pz5IoI/Pg')'5 x-W-hh/@}buUn"oՅbÝ!Z]	 x)>d.UyGPW*ݦSP`+Z1rg/ƅ8;ɌբKS|poNo}LO]3At͡ʏ,;?^	1cCq{:LX45h\7:,oawe/3Ȭ]x@&M9vL_æ*0SXc՞]q\{qYn\1SuFkR~!M9F:=7`]{$w|^/ٳ$NYUV1CZy*alA%އoQ*N0!Laþ5EI0?/ImT;N|f]trROB%4yjДP*Aew68		Z{GPE(ma~MRā^IRc"Xpe3*ścr~к.<<swEG>.eFGpiEQXe?nbKJ`\ȅ![͋Y\bW$܌&?JS2B<ʻbR:b(ơ3x4P&E7OFx}Ta^$TkZ0xQ>NNp;*pqqY݊I2_08ÒgAŬ?ߏ/CXn-Ɓ/Kd5хNobB]dF'8isn>'k(2&Ɋ(֛G]A5`޻@|Vm2B~H*ݨ8ɞ0(9QHآ,ye^O55^^ H)CMj޽͝nDep`%r-B)<6**[y5ВPڻ7e&{eŐPmPeW~Nw/JU[=x3>u1O<,ٞgDYŝt/G5Gw;6)BͶ>nb[˚5v]YȹQܳ{N4tҥ^NHm1ډu-m>AЦs{wE=UM8n90"A?rĚk58̾-'2lg !TYƜ`jN!YH	k[)Tuͦ9_i<!-|*	x?7gň+֕aQnkSjHmS̓n\KK:tҙþֱDPm(XX9x/Su\{j?	FYM_&lYnk	ǻWLwzɑC%n@I,1E.L%hunMeJǴ.{vX4tԤi67;9FwP%v8KGW?9dmڜV6`I4wBI\O[|ҩ[YUe-ԨSgŠǺeswV0'i) g+^,{B6!fPn5vˋ.fzI&n4<|cʝ8g:Aw,jL~F9/H$y)b`rflIEHRvat/4^řÔh(%dezF6qgrR$~=9DF,P=^ɷ(unĬh+4^m4VkntxܘץWr9Hsj܁KM_Fhy"PGT!slw5 lx\ETu~&}|4]hJݫO!ѹ&)tt?K2Ŕ+ן^ E1OԂ	j0-WijwQ?iLDWO{Tl:lb~aG)73OGϤvVrg+JG"l &MѤ:KFwo^ (_ֵOfx,tcscW3QhL_HĶ*\ϏHhc)KB Ą]Tw5>vm4XBi8>66~ѐ7Nn8rǲ[MELā7"\><T>44Nq߸:)"lv-H9,ſ$("9>ɹC/M}2kJS4FG`8Z$φ$"Έ5ݩz3Nf!)kx,cJe+=!)J089$kє>DS6$[L0/ӝNdhqW?PSPAI>>!7=i$$O׏k"9(8}-=eĪ/N˞[+_̅"%TG[%_^Gb.;Ok3aW}H?nOO)9Ǟ$ĪID=,/db-Ei΂{G{`/N֟927SPG(_hPSZ,ʸ[@Dv͠Ƭb	Vn9"vƼL*C)TP6\.^+t!uҝA/ijfƨ3ƟC@P(^>ѰoI8[wa{n'at`HW:Έ ͬDl-O}ȷȘCn'+6(_1`%"=T\+4baf(uZ)0k@qݴ~ǖc5=:)ܐ(IQx,w|֫n>x`\-HqпVUȄ1y!iOnRisȖ>-ї4,w!ns.x_h>ܼ÷U[?@u8;l5z1_'NR]'f\lݪHn&WÞQɅ3}qB1'$vǿ]aeCDK"Gp*,VՇt}͔fLZdS7?Er\3<Y^׏OEt܃!v	]i)YڷngP1p 4-ͭTkīR.ɧl=\o0jeB14Wu|Ł`4GJ؊TXew@,ip?/ERGe SXNLǪK4F׳Sy]ܕݶz2ELZC* PK=wV:|s5ɊGƗ7|.>'6ˡȎ9HJ7l_0LzǺI!IpPxR-P)tvųgF+VٮI]ާV))n][e+frQb|qt1!i}Vn_TK`֐rS	kEm090_Qϱ:"Kzn8A{%qQU`̞nRT_9YС 7j)I5_	VOϼVri6y(8n"H|J8̠)%Z::aYҿwTxV\q`o:9P<q֔MVq1=x-Rh=k[fCsإ;ղ>,)QWjjp\4fL((
Ɓ[k\ЏZ5Cjkt_ot^Gs!3pb8Ǔ7ÃݛHsR8޷{3&;7(Fs"B;ȟu'k!*``{C[08Α,"-͓ޘQ]cYld$()Ex̬pY;V? .,sb}LJ[A!eCNYN0>+0tj~5[G(ǞfrW~]EXlǟ70,5LBzT8ěvhxoWzd0].<hCQѢPWdDiUf$]<H1af֢$|0EdNb":ͲFC,u1kt>{5q+N'è+ڮ-ABi)k|{DZiwzYީMU%&L`=sW}n\lҨw}33ĦA^<!?o9@s	y% (cOmg`3xv\ˏlqzZ\9>p}F]n|7ϳ?ja	ݽYƵץ-^/xxq؇ЏZLN?Loj`zO/($P*lՄt=p7rJo$wجmcon2J"]8^ع9bS;7+h˅~;/2cZO`.wŷ3_ҽضG&Iy+|"ȃt f|%	hmp[{[z6iHDʣj'&:XM_8yG<;E_PjYD8p/{r irdrI&Ăkvepʧ&^A̸<o 6J'5<bŊPT}!dǜRO4x:ZLu!qEm5_|e}ۍgSn*tBݻѬ*49ȑ]girE5u&{2u׿Z%I96]H2tfpB5lˉ1W1G؟Z1UvZ>l<QkvE+rr{oziНFG$,^͛dc!re*gily+_utbuxTD\ Ƞդ`~Pr:=fUt=$O2˄^.<ߪǵ.	Bl|*@nFKdvM^IF<\X)Vef*/̼'+߹VĂ1Ds{aszXj7@hV=BaOm\}P{Vc[7&FwԔ`LܸԲdO'9ږ-L/OSN(fBlC<v <sJW})nlOmga2ֱ>1yXv@ݕU8{@p9Sɜ"^_@hτ~HF((ŒEW?!dRQ˗MTf/\aߓ,CE~gw|ɅP!iJ2Q2y+0jÍ4gKB=meP'ǹ.-Ǧ'LC`H>nyۺmHo;eIRK%At|Afb	ODŨ)~YɏC<|7Kvh939e ŴY[,U`V@Bn[xǋέWɝ3*IfC`M]X+զ$G\uL,p I@w)G̋r)zn)kLɭ,z!q:E׍,(H?N*wqursΆ֫H@cj;KG6Ur9~E]TF|h%8Bk,Ě4`2)Zbc;LtP+M;^ 'PBG8̶nHX4/tm*&Aאt5v+?9_G=ˈհD}abf}0OYȩyÜ|).Tj'Տ<[3L?{1EU|Rݼ8Xrx':oT|O.mH>LG}uvŞR:ޱ0νa+'ô	5F=s<NoS Zd4hh?̥Z/p*i-pL.u'hQ9RiÄ=H5gFX{D		ƲpBZALXݐMNVC%"Gi\ȭx''Z0q5!P'hdZ5[gϾ׻IG(%7vko(h=FY!t`G.585X"KxJȥ=$/ru`g|֦7yZÍVt@Ci}AQk\b9wkRT*\ 1t̰w~j~`(yyu?g{>~/bkڞLRMyj]2^˰O,>~9G/)5n$TYzKswuVPa)5\yS	c[HD93d?}dOLYɛjyu"W&êˮRHg/R\,j.8ykqP|յ(σ)4 R^I]3=I	'=N'@?9siQ).al}z&x`d,v9S{qZ\B_jJPog/y8bj_aîkt*W͔y3	%HʑYPnvb(`jdN1/.QE03QR- XZ.VR Qqƌåm%w	lzp^eV4sYSoO*v[VGβ	d"H|RKƱ5rA ^SYhX{K_(JǠv`eKBQ,.Ӣq,3ZǍ5MzdBLq8?\WT;oRE	f18RZ/"yи}^-zH=;s~a*./IxU}\mMRЊ<GS]y)R, b%9]̬cȼių1LxJ4sx"\H*?S(U!iI/րpYSd~[/hc%fȄ6uPSc%oBU޶+ArZiw?M8^	[5*7%ZӘƈƤT?hom~<	ӮvDJ"lr!Omȷ<G	"cj%\K6.]-Q.F[BAssGzIcweH~x]vl2!1ܣMޛ/0x4mT!<eU!ҕK6`k3HoZmC$u;;ظf(5eFSG{_<P1"Ʌp4qh$,4fU5[]ͣ/2GzBbs.J]p3utY,?%	ylH//>'V߅S]s>CRsɢFު!XW	g˿B0БDt2LJM"g ?%aYl@2g&	x5Beb]R
/Gk7hyN&`ul*̓(zIy 5'}`X'kMMԣvJ+K|dCklJ+ryv˂pŖZ-CQ<CYQ˖g$rӧmw."08ϽfjFXkrb͏ʲeHqnO~`NAtNNCU%Cӏ)$6E!ĉۣ:j݃Ê-@4ܼ(KrU8RzP)/Ϣ-R~Ma`pt^PTJ (Izn4%0đ6ZVl!k{l^q%aAl6	wdO(6(J$_7}`KZiF~:BqzI{	?xrP/FICMH٦I{Q=Ҝ{5&G0r:MS*pAH:5zZ2AKP'&n+s%UĽw`8si=T-ʀ9_']vB+m͏xirtbԵhdصFƯ?-X]7{AYxr"U(Ͳt2o6rǇbZ|4yOUiR/71K=_XXmȼL&i<:}e[ʶ!h[h:Ԕ9ClM1.A7;"3.NI4xhxUIJ.ο؇(/w|9mGۭxӋ}UUC-4e<3ĵ8')/t<k3Jc>24N ^QTr:qVcB9f$	R^ecӃ8ǵ6~âVBR,AĥA9+a?b/nq$fݣb;72'̶KPA!F&n`ͨ΀&d`+֩ǈZV	}Xذ%̕7%[J@vK%uB`g@Hj")a÷Zm:2ָ"*2~-r-XiQU"6sts1(nTWM6RCsK^EuKTI<^SVB oIdbs$f]d 2ZNc|WU;3Pguv%ƘS{yݳ[S'ŋ?JO3_aEǾ|.LNb[{ŏR֍5ٓ(VaQZCSPALT8QU-z!D1(A^[J>h\AߣHvuҰ$LErUWv-'H<xNzW=]5~Py@ěfҋ:daV}?Wa׭{=t}z/>Ls.mLI+la:)~^$EtSm<NvPxr"&Yj/o\ü5\W7]<4L2Ɏa_~LU.z8I:w/	cɁ̥ǳlNݢ5ߋZ/3tPqyE7!'ٟCi9ۜՔt<h)~ ZtKmreR=MrJv,T20ѥ r+yͻ0m4+fy$g;/JF6F 1~_(6p*10>6.uR`]ɛKk?GzP@g1zDt0qQxyþC/)IsN	>"C/|WlRIq.8~,4s˜Waw&H`H6%M@7sħs˗*36Uh>BSknV[[ɻM r:-߫F{<;\	iDB6ʳ:&7}){OQ=<ATYr!-roKfd2ɴ=6S<:ٚa{>ʖ̶~.&|~\EQS9- nia,:dq2jOb8}]{d1X1U?$+@Qh3n$?F.f{aPBIgx9.&eab9imLaQd{:<NwR_~Ҵelvd́q&D'~&AUf"Fƛ9`z_{sia;O-&|8dBcoЌaZMc%yKQR'"nr)su,J!ڽ˿װ.]MKC΃B\p{)k<(DYp~ 1vƩY=m*	\nC*S*QV4:@12=8'j̤>i:Sٚ} )Ił*ܥw"hkǧCN79<'tFO"+gBҖN<Zlʉ]E8ŷ-7pbp;newܲEҁU=>gAbcjL\Od_v[og8s<q7iz:XژTz<E ,8gP&`glv2Ǟw).YcS40T_}q̰7Sf~;sZ`GpRvA'*15} >Mt>yvKߔx=5sqtX]..;d'zNz=Xtiz&Q&m8Nb˛T_'ʯxfPlxefj!WLѝb{ ctUxhvˊ!ssd <9o@sci-^jā^~jCʗYBVyEu)6@r5,w+g4'&R"gk4Y8ƴg{%;CvQ'νy7%!Q%iDOû\b[\`%Aҩ]\i4jŕ`kn4Ȉjxv`,]-gݽI1{PC\~m0U^0D`1\I٪PV"Z,N1IRǺw̱Z$WGZ ܇:}Yy5ϛ&΀î=A5/?~uUU^|y$v 1Zs-'F[(qfTn͢-̭4՟bȖjNb?ho!-	43	A@}'0HY{8s*bR)D*z<=v$xO=Ą\;"YvJjDuAAkp{>4p9$ҧmN-JC^x~I;*{dg|6c5nD~l<hPwȥA=5M22֣HהMȠK}_O}kȑdzՇ%2vQV[o3GZTph2C$ڳNZѝx**sʒJXMMvOj*7XoR̢0')ΟR'4tCHdϷQ6{T.d6nՇɝdqEtM4{(G'3kbAjF`"rvpղyIX}09<Ć|[>=Ndqg%(Pvtczw7mU
e0͠+Ϝ4m_؍GBd9yڱ:X6?XHN[|T3B=o0c^jf@CѺ[]B׺(dQӾTJ?14H!MK`r*.,+|ێu,Kc7m4jHlB8x)e:͢}S+z(lj"  ҝv(S7h]FCĚUyF̺i"lJL/{*aЛˀC7;7Vc+lXM{نf?FZ*7ISq]PTGtMl<Ĭ~g1l)+Ri)`ca3k_Ӂ}Q|4ׯB%hjj4[4\@Č{*6&g݌DXd;u%q[n3сjt(sШW-uo	k>̧gݦ)["Tc.fmխdwV|ȥEư9t0ŋ/hiOH3)pZ'G,dE͗Ú`<h͖u}<9BxIkk:ԛ`IPVml*â;<b~ʈO7-S'/tH?_tm?' _|yqE%h'\[]><9CߤfkȾ'dJ]ex!C{,U8̸0@b"PQXsgĤV}3dO%7F-qEoK	$GW`͢O!Ǽ&|/m.zWpsJdrbpsd=')Og^RU3. moHAԺF\Wp'4TKHɹn_=A^yBv<DIm`U_?>d	PTpY%o~^o*nH׏V}w2"/ëiY%7?wW%,K.[/rc`(5z{r{r?5iu@ͩVU)A ѩUq${΃swFPChVqeGYK3lեM3ż/luYtIU Z>icB+V	JC$ٸ+1RyH$fʾ$:]3l\(]QikJ7fzK˨ٺX[,,waAxmE6A5]tT>78!FN6<]&{\hsB^M[7ƭ']6<$Zp3p)/I8)^lTf8?7}%ݺ[ɟ=xu^xz(HC^raoyb\&bhs&tƑ@	2bk5	*01Fo+߻wt?`g$+$'ǐdSnAltYtU҅?ay7"Uq"6<-tMLnɂ]>;\c>Q:jg/b<^VRũSֲk^70I*Ś.ˠ{*ECERr28L~/6oöe.ldu!-Mr9cnA}~y9AP-P0U b]73ĳOI_HuӹQԾSn?DߐζfS$	ɿ\4[Z%+oP,+ws	BX*oU4Vr@OI^F {Ɂq$-<VUp(К<,EuP5!"9&*KӏKet.k'_`ngz[D<`K~C̤5 &0M]W;JqҖG+kcȿV*՞V̓Qy^wO@%bߡC[ЄQ&O.{^%U͋pl:iہo\\YO'bKg4+Jiq˗q7ipAPr(Kh9JiD|7%_Y-	}szY"y]h >'.5}%ۆZ4ueSt>Gm[ʒRE%L,x!1;CTzv&Quhn˩j7:u8!bFM%3VjAKpjcuDĈ`[3Nțtuzܔ9[J_jOlɑMƓ۬y/-? V"P*QͺmA:uhTȼ{(o,Rz~l3O`~>4_v2`)y0Har0XmmEvҒ ShHx.ܞ!=ʃdzaD8+rh̀`(ca`<>-S+`e*Œ25hf2+u.Dʄ@/aFbvg=ӴLPuL-ŬR}J6pԬům\jtt/{TJL>F8J")1O=mOSQ_z}$4Xb*h\E`ٯ"`&ƩA]zy)>pI[)2w%۞ȝ_~DULt/fIYQ0.:eUqyUg%mLrqnCDdnAdEg1NUf\8DXLP(AAXaIavȏ>pt3|fn-d=8G&=I(]9pPe͒3/}Ɗbb{4GWIODYAŊwb[T!</ؗL8T4<p&'{>&̨i[Ӵ~˵]3a?PTg]8B}22vBHT:̟n)U>!QN<1mv??us.1k0ݧ8&Vf{TW$u:Nr!yd'i8z3ՙȷR4E7W\ǋ4v=xKgLWPQC.ZvkVRn|4{N/]PBY/ԟzq]KZ{ZRw[4aL=-S0{I^Ozg@hmk}!z]muyDVrJgϐCbi,@ʼ3hlyi{O4\h@_jSzSlة5m|_REK[JWh]UR6FƖ/2Pls̄QZԷ|<rTj@TRgk]ÄW`Bg47h0?ˣ zˑl:r?VOrpȫ4D.Af̹)թh5dyV2^;nEc3ZEsB"XA-ǈ{n7s/Tw͕]{I.dkDL;VY%dȝ~=1gvVxx(~xP<2GlufEyIIudHW2Ť$:Xe,+>f+HmLPeR)!Rn:<$dN(Ȧ`LǼyGnޓ1)AYx̬3h{G~_v\ͼ9ǬI-{Xޞ,Pb)!b'9F;lH1Yu]TM/-7<|]zI
~|`J8բíH32LwErÙBs6Ê	,UG:XOja0<}T}n$e.AESf?҄GVP(Hm1ODh$L~oN=iW*BCFGܯG{rۯGe7jECorҍƜ'zҕdȲzM͈i"E`<owW8q:DE6ZoJ!:P|ayH[_tWc̛wn,s;s".F6o(@ZTeUzo^ǡ%%5ˉH*uZG2Wqɂ+ҳݲ̯uN863ܹNV=ƻzl^i-Ƶ5e*<"ӓ^1g͊\;eǽa'2|uzUJYLmkRMo>Ql+]c=r uXҶt>όoíUɪ[+;*zU2u%P/׫Ɏˊ<@Sx`{WpH/h*I*1~6A0cOD3[3n&RAS]	UUnF@	HuqUH!_&D6?6&qgKc@{!l"V0>5W`L`͠c1܈lJX1y+0P$H[zUO}ЃVrVn;0PR3Z7|A%vτ2,3G+lPS88ɆU.L1"3@!z'gerAՉ=@aTiN؞30r=a!3	7By5m ?f5G̺YF\DǴ;o<*iE<\}uo`.2C3?c@NJo	ouZK+yO	('|xD߳w@bFƳ1R;T4y:pڸ;(DЁ.)$hUD	$xu\yS'U_вEѨگ{+mQ5φl;~t!ct֏f2:X&/gXKF&8^ɜe7~go9h<ҕMjT_N6([P{IbFS@p$qn/Md́5{<эR\fݗ+{u}B={օ';d7]tG?'zhi՗9q1NϝKD8ϠtjZ&w@j>ܲTj|ov,'If'~Ƞtn}=5̯SOksD҄a}	3,,}r>)ȝ+Dm%oTt+$V-lHNu6jUVBrةiIۤsat(OJ6x4Ǝ6P̷9!(9УD544`_Z^bf|^wAXqpy_K)ŻQ%rUR:xKwL\~K͸O'Ɔ _YvpzƼPi8FَpUå!EhId^YUP|s^M5v-w_},!Kz{U1Y+svEROkܸEWG~+4Vf?WD+%ľ_Dk$y~M>ۖ*Ǟ5?WoK\ǯO[̘Uj+y\ψ*)Pi*jq6VK;l326^>EZEd&AuQl1&[yK4mqQ6 TEaiE|Q}5۪/tyHyVI.]rhx:cy}U16sK?\ZnM]?hv˜29enq-D"[:͹]^QB%_9ޣNW~0vS{gض=\caz{[S*c8%b{rqc:6|ˆ	thZhtN)<\VpI^ؔ5j?sN@6Nƃ^>~pBC0y!V4iި}K2Vwu*Duk?=7(zqƘH.g!Q0?k-|{xnvOؘ9@]?|)ej^0KLb| 6ɔ>t)ƗCB	P^ʓ:|ߤ}3U23ſҐ5Ֆ$g%lIf,͙ȳ3[$T3?ӣH1.rjv*aՎ2CÑZb*60;K 7JRj(`r1+c)x0gRTHhj?k;"f0|=k'kĖx8-92i\@+WeX;`=`KVCY{-2&ɱŠ̼hqOI3ЩKNJu\rqͻφ!g_S~vCe,B9D"pxOО(jִKkY=j,EUxNρ|ʄVɁGkCGQo 9[͉%oH0 !ٺ;*&>e`NgY)K^'	OiRSCAŽ=p8[e]c}3,."[UvˋNʖ A\@%4/\:jdsaƹ(c\^z'],*on%f&.J<6T	w߾TmK!ƊfNȜg9)qNJ(.ky28;N_d(70V 26t_,,5V"sS'QƮ|l>jS]mo@L(ʞ&f fLeӾC PDq"27Waٛ*Po*vnr2wlqmUV0ˤ\<qw,ʚ$'ߣgP^ʦ.߄a 00jM?@e~:bB]TG*~\!AEGEAceFF&KinYus(Ä<dUF]ö˲k\dyCF?2KhgwQ`8qo)XXuĜC@^H`Ҋ/I-__`&P5~: jEsD&`-ހX)	+S!^ȴ9!aʤaj]Pk.6	d1Hn)Air&ƀ$}3|ÜsZ,L|zg]qt\ȽM)Fu,U^jEsOa 'f}hi?֚?$YadlN6<*EoHVuyP]cTB"SYj=V[Y7oӖevSh(dHǐ9F]&1.K<џfO`28rGW~=5>A9,۫l-?͓4FqjS;SCP/_Z\ިvYݱZ+zThD$HDSq
%N_Aˁd+n~֓0)7|jEť$4|$/b-h\gBz/}6G|BQs&7_8Pʣc!ONX$*̶jެ2JH~5Ux[>DXry58a):jGHeƺ5̴nTQ3`vݐWvV4߿wtޜu?$"2q1Ť4VlHC,A>Y![uTj{E;X6:,ޟv)@[Ȝy8NA}EUt<,D=z==; P7u[ZeR1÷d\2aۈ<޼	Ϲ4G0"^q[iL31L@)Npqi=@><ԗ[^ ԡ@_ڙ(Yeh%_{C6!hXK6ȃ{Re=3I@YT6@{MH ooW*[]-ѵZ[w&͊_dC-\$ioVM7IKT;"qj+."8CW*k5U%I<=hxN?!HE	.̪(NIP3'[]]>,.٭2'W:.o`4	X!\fi/j1M{|TbK4Q81Έ&QE,YPO[s=T8Wm͕&i&B8,k;%04(NHoFNfXUuǐkr[zXזG}bp1@KFIPx40ʇ@Ƈ΅w5ν'ٲh']yu.XK!>jX*V'-re6R(hJ)d/p&R/5z$&P`@@5,VȂ${F@>_TU:	!%y(lP]YI8ΕjnY-zӷJNܫ?T/xkf^^9]A$>_^/4IXel[od.`.7čzրkb(e?`oV2|}AL"PǨϣ;/ LdD_XB;MPU"L%oiة!==HGKl3X{1IGW522"NڮOʣV48s=~iC-J/*3-ƪ{sČKk^$m0a%ȱyE7;̍49wy`}8ݍ$sŨ!>QɮjI~Jm::ğt`!&:Q϶TD97Z_&	mbh8Yior+>=:l?:ɇLv(v$3<Sj}=,cGCOϬjOshP6PJgj*19,OctvCy _ow})!1FX j<eǸ,wj"\ّDSu@/tt|4S7 :6s݆9֨|~MD`=P"vMx"g=1(JBpMSX$N+]ePɱֽ7lcbɛqn^4&t7[sC}O55ݗZ<y(\˨˓e,æycvn7G.+Wiq4SPѸ̮@%t%<}~!Eɔע۽,˗G?QTڿ˫_ssGkhUߒ=ɫ&`CLj\YG3wXh,PfB5Pz+aU=HX`ue`4f1hT^=;A]IcZa%iD-ǮJ2QxDG}tkXNDiE+sS6dwa>_D8{@HQ!,ƎT	Rr.qsH5 v\j$XJ:O_sΊ˩V.(q?>Wԧ~dw]cjb|rq!-qs'lm ]l)+pw-7Ht.l0PvHUW ~WjoԲCxֲYgqLZBbT0UĔQ:ShՐ|-CƲA~M5Q?s]+GnED	hF)ybK|p'"g_6Z{pԃĚSL,^K> &qik*\u:w,zIo&6u*+Ө<܍1]jW>@i( RzA֏VE*ӽ*}sB[}Z4QPP8+z\,+Vǜ>dD>pQyV~ւHp+;EΈ_1Ŧ]?iF>9iM;TO2{im,8['^]8$w!HɁIcH7!Ip5;;'P9	pLEȽ@Xw8w˸Dб)r{dyGr$hɇ]mwfo3+'$MiޕKoqfwx~bq"oG+	sx/*^RBd5ʦlsb_a=O2V2.Tz/FDğ%KNO^028PH$~36$B7:9lTCtѯĒ5PYOF((PMWNtW[\pf,Ůnʡq67]Ӌ9-m{0Y3U*ôVvWe=)M'vAoxm5Q}RɈٙ*Wړ@o2<BȜeՏh<ʵ!	aU_Iuw];2h={LQe'f"^m&?793t@<lì8Ԁ[̗ph<8{4Ǹu{mV`*8̱Lg.Y}SfbU<tere&g= R4=yt7Y2%L7ylhS[=nM|oR?.>yj&{o7oME=pNKH<0Ԣec_$~`W7cˣ*RX_{Le!YM|m/ZK)~҇$Hw̚z(/S/o^I1\o͖?B?ӷt˽!)Q`$/aH?X[l;,~!\ātʩKesJNkx=_:i΋jJۨ%ZH=2J@-Pn0H]s|xi/)ʺ2&rr1|*~}Rk e47/yf@<]p7=-Z:+*` xuv	/Re?Ą.q&?يٙQ4jgSDs4X,ehvH/KLUxxfz\OY(Y@M<> Q;HZ8q	Zj9-A}t%K5,neX,DG?iџ	a5kdO,U
`z&_Fչ(lMף!2OK]'tIkg/mZu6}ĳ{2ǉ=?vE9ɕBD5RF"Fʂy=܌=%G,(ͅϸR:r"d44YvJRSP	jTx/C7lŝƧRk}9uƟpGLvDU_eVZX2%'n̘3ZJ"uRIT8v}y;uIMrsWNA~7[jYeS*60!~;ücW Y:'](:нQEʙ>2cǜ,	zE&ejLC?+6TEoG)>D(΀Lã6?D˙mD3HF<mO=pT]Yj|ǢߦQȄt٣/$bʘU3"W!y}@{Du"|U$)Ȭӷ$KDdƟƚΣ4jLB)cmDʼ]ּ2o})r\}t[f[2Bӳ1˚v&X5?S9"ŞqH[:;E9}btIܮ%WĦsU8hݜh ԔXxg>zhO%ot@t$F`=n[3̑)I%֕qfU6:G3r/{&M[Z=E=rҒ_ރNXe+˚4x@dƀ1ďn-oi*c c|:IZ]|dF[WS"[sXz';̱L56>wVg \op'|tf)DB͕ne\G4%2Yۀ8R*5-wyS\I&hf<j+Y΀Jj7De͙`lɼXQtkhB_y32$mnhkMxBF=]PЄ:Π2fFNV3IB8Pӧ&$ZVYIC}ybD//R:GKhX-=n@/3b~ vQS\c-F+"6tjw@=h}`N7O5dXfR	W2VFcti+9:+HgN-[I3oXHBzz7̺nc-@_ʍeE֪uU)4|xKO!'"{5Kz[os9s̢<bϨ:K6wj1akY[%z<]?oONËG.Zު[H!N@+dylu:Fif8_ȱԨIHmŭQiz{|~|8W:g29W]vb{	͍	u|'k@Y%"K(PC<"|*[9ud%/uWXB~}[X,=azNEXX704]K^}\@ʉj ~N2A"`;@Go`?r$Qpž/6$*QT+UwEʧ_.FN~"éů652$;~i>8xט7_7_e։ڤ`sӷqT>,ԃUcrumȁG"CH9D]9htL&8AƼ~`I@%iW5ΔN}WvxA~-z3ɒ!v;rXL+ȅ/3Y<IK"Eޥ5ҭ;'rZi]'T<D"~Y-u΄-3n.!\JG~	LP͎(oFe8ػƤO!_;'(Yƭl.wÂba0,,+q7/]өfCF&g"-2=U)=2YI59ͨ_.u9rI΢e<d$qsL*{:pZYz5wP4?P08a߸hfԬozoED4nЋ`BƄpJa;@tkiŞ˙w<y6b1did7X%.eěZ1ǥ7\Ȇ/vA+7̙Jg]]"=tbRzG`9_a@p[ԫox4ӄ?4Cr~`kStW4Fbd`)Ůd{cS(!~~d7T\>AF'[B`\Wi'sM@@r1,t)l!V>ʾZ~5ZMHC$yyJ?	+L/Io"vr\OA(2/nu"4wnQ6J")͑NZOק:][XlaϙU-o̮@(S>+T6z	Ǘ3R}j3_ClQKO{zi[.ŅTǖw?2cjF6<8lmT'QiGtɣ =qJ,!3"KPmUԢ7U2N_f=,+/)(pɖ)TI[jj^)b[UٱZ=ȈYʖ5=ȟqf.0ӟܫJ;u1̀g&Y0%[ļOq6tEGʛPK BFOHGOIb4,̓Gw5=z79;^O=@}&MKΘrԔm%FW7ɰ_v܉[$ ̙H{?%bFçƠ=i<`Dm9Lj{yT˅J0H{3'-_fMޅ]lJt߇`fi[ә2)"GSk<0z<J'8"zC!j޵i!gSӒO֧b6AgHO3 0΃'F_lF4tlψ2X7.)Qqc?U(wrUp|/)I4SJ,sCQ"IWWG+Dn`iKI7Ņ837\{}3>Wѿ	$PbÒ[06G8zEކg*4ȥ<ZOeg.Y3nLehq=%4	jibVڕ߿Pg]>f|~XYM[v^\PtfۥHN1B-nh-P΃M.zEחmwT8/tIbHUa"Zc'Ǭ6Wݱ0n/M**M>(4Y7ډVz]0Yn!<F[Ȑ=(F_)@ɿEĝK%\8<Z٫20Knyq;\=D'W{2Te\MuJ*sp4X~>FيIK0?UGk(~.3|V؞l'`eKcx4*/~4FP%ֲVoC.[;&Iw-ԅ}L-s<+>JkXzNa
۫@*Bxƍ	s-]zϰN,SIf,Òjrge[q3Ƒ'ǻb˳ڞ3OO3KFIdzFl+jƊI{1߸!eirrD`ScX)%ix&l}<FgU֢<qN;ً+n`bwFܡ3O.̑eȹtbpJtF+	`76'Q\:ز`˄J},]t"/6ʾ*v(B7&kȍ;k$V(+Ğu?.%G*a*^VR;HzsbG1>lo}[=y NWsPu%̔ȨxVO)˩E|%3Gl}RG==	|J3.'kwY~N[@y$^-jB|&zIͫ]Ӊr-Sf_y]'r̸[O"y`b4.gi$VPP	&+<H_\oI͕[$d>D6)={}KD0зVFqxڜR3Bb`]okA)HKB~QؽůQ2wJRywu.As9;NGip̘p~Nm/SMZr($G4ZA!RbIi:F?Ȁp;,	CQn׾K{ܞLMxùL:(* gm9ʍFX:s`xl~"gÐ^XCZ)QT&X4fKuF`9?H'҅'Z`0'&f8?P.'Sw	a}OVLL(]9Ϙ*18K<86?D1EII>ÂC؎J@/k9A=xUs"3p8ӴI3mm$\m~lELm_kz/7(AM+]u&5e3 I"`tHB̅t+`/&sW`J^bN}e{oTFo)4 0"L=o/u?/6jCۦߨܣq!z	]מKĮ\QZPbk0LA<nǎ9i ψ:(1Ȍ;P.+"bě\ADH9ɿ?b.)n!Iw͊PUZ5;`-ʜ8BşѼzgx)YX*KȍfLo8Cŧaxwx?X^pm*sx2is(iv*3|LoT".~R 6keԗQ^DpxܛJΐÓزrm6 nrrlȕBǹXX؏c"wʱ5gy%4AƈiDbR[X)hJl0tyPEA-3.5z~Z"n9\!65xsӍ`ۋ!̀|"@ٽI QM*m()~l	;Qã\HQzT.ŴMPNO~l<]m 1|R~/Zb@2rSbC^oAÜDʚNmbYyp`?5<DN&4[(,^{le^rѩNVW1ĽyqN8UM`4wo3x"r&.0D/ %l*[%OϽ<3ddȸNZKGN0/`;$5?s1j^}Omp9ĝV{pl71RF+,7{^e+S*;R|[Xg_:Ǘ,ƣ$=KQ9i${Êh0Ⱥklw!6п-7)xj1pWSԊ2XqLeyZ-Tsvvk,-BMiVf{Y8:^Wx2!;/}?1dݗeU'uCN<tGݖrCÒlE)?;7M<r(43PZquFUT`tc!ENj~%~{&4>eh׷ǈ2lǐl(rgW,VQuaE,~8aGye.g2mFA<r^ʼJC&A5/Įc\_`\Ƕ%Ĝ-.TTF4+i)[;DqUw)4"ŎҔ.<qZt1T߁:3ō'RdAwӚ7U:lg4Ŀ'NVDmH5(>oC(`Zz81hmұLʚvW	[fP1ʗ7`f\00_@rnܟll+re[ohH6Ŷ̋-o sh&W4M2.7g@\j1=Jy@ bBUʳ)(8sN[ʎTs/Dȃmֺ=̯$L"X%JFҠYG˓ t.T(nVPvCedc;,ҧ[4zrũ`i4ldk;ɞ^c`FtòĂ?Z7T(_ʠOӎc{HP2fY^ PΈ}2icrK]	XV OPw';t1	ExW{̤TҖ{ow<ȸs6Řl8̖bjjy̷Ϛjd?wVR{xsv`2	F96U0O0U=3 ,Zcƺ5NMied48[a,B	 G fd-Bn˞A^9Zip*Y=Tuf86obq[o2u{jWoBI7/!=@Z=LLh/	eAn 9]n'7:M"6PǸԏH9:SHF"yIK	%sY˵VP6X: Cޥui!&I3ʅR4ع}ĽL^rrx\Lgzj8"l5mkjtS-c[M"ʥgiF} :A="T_<|nIK.J6L7<(tŃăߧ*F`t-A%Dؼ&=[vd)"&[`gkR9	9@3,\fT_f_!>fC7>/Ml]b;j>?{N>AM\\NL%WV)MIn+.]a*gp^ddVֹ<r%>hƭX'fYÈ&ɗcsʊx*4!G:Շa`JlXr@8`\YyȊgi _0DUV[9ņ"NTIX}9!n|PRȳt?Ƥ6cc*h^ٗNϳcޟY3lߴBNݗ[ړ364ɻahr65lVvtqgUܬͪ{@]c>bz׳l+ȶIRd	H'G4Yd&ȵ
a,n.f+T(,Bpy0nJXNvdblWōSI"yG9@%([Vs>&BJ7N>2ɾNYZ&&U)D^If8[d2w)s=P]$n50-m`t`9Lv+:FV=!,rB|STK]Ћi*څR.wZՅp[qҐS2/Es{jlîi=dNPJDlnXJ.w̓-	W͘sts>jdJCsF`ȳ"Mʬ2afze|tθ~NGDVǻND(ɼXi0p>Ӻq+ph;_7:B])svcO,;}gAz6yܢ$֋Bdו!Cs,َ{gVGRј[y	)('R/+-pV.,'y5"\AY&A]rjz{?wťOD(7{l0LR8\Zא4uf _~mhs<*'7rfnіN|<ɹa.~gh+xίLR,U1$&&Dq_X'l{̢yKWzn&"_1x,5$g 3(ͭVJ pAN'[C~J'	4:ZVY5/KuvZ{Z+7,v|<T~܌P,a;nh=dH:@҇_.$pp"YߪgocsLX)t~	1R=iMLO?1GvńYDkBU; K!T=0U9.&CN4Fb%g>k:Z(صYwf_AV]GL0ajj33P:[kHwQIY::u_[m30ѪĕvR:}uz1	X*78f"O0"Ea	woQ"<_UPe_W[DTܧ6!2w_wQ̲\JPDcڡ$/qRťN5Ws1W,)~didʽ^qVhmȑ9YV@j4_d		rG)êw:N˅Ĵ',vfOƝm(	(R3~׃kOմAx)%F5b dEs+GVqO^lc}H*N0v0QSɹ}̇V:'ݢI`hLO_V	I˶wL7r@޷^Q%>a|j;ϹN$ف.X̗k/oqWeE&;Gx27eʒ"èD}Q]Pw*%0oǗ*GAT.?Y8|?x:pQOO6RHo ,FGֹHڪi,RTƼ:fԕe1Bô	QPLչN[1hǎf١˲([nBO4~?^fm[zn,,r\`"\Eɣ҄w Avdnܮ̎(щ"EiNnțXKVm?U+|?vfu| Y@}/~f;`R7C*|ͤ|Ehɋ\j!-wk6^3'R$j?br09XN6z0;Mw~XAOMڰAtV!<H~_Ga2.ȅl?<=*!'{`DRIo_I`Al53&\@s"R׼5F	f Yx\,X=D%2\O_ͽ/"}Wuw,V ti=׉Q)@,l3tЙ|('~mYoF>ɶ1*"fN|6.V<|e}P֗MBMGrX5lcggi+܉uĆTL̈OoqL{T/8bJ[I7kBJ$xjIլyL21)+/&6q3|{fn12ֲD,G4u5j ,1`aΊ3d6|<og6O/vlMSK<=W%yȷE_|Fo=1ôZϏ+O7%1QM09goqjms,@,BZ5X[a)z9o-|~ocZ&ʜDBUjڄ`ƶfM$ߣh/tx5jAn3" ɣyM4{`y/Sh-9B& l!1Is	9*4<F'ɲڪ?lȸ@+R>nYuʉJZ_OmDfĶKT(IMѬWNqRD7A:;obJ8Z&T^YoazCs_|Rv@/,T;@u		d?pH{A~Vw4j{19M(bsI[O9)ַ}]Yya=7Vȸ@Ftzߴܴô>+z}jOj:<==N6aW&2iR+ġV`΋n\Eȓ/ɂ? 7HXcKsŻԠl2r͕;8]tTY<2VsԠ6p}RWTO%IDz|.DwCR,ll|VFYGBěUDv?x=L;F<^s3G *L4`.TĳV;3;5ZfcFF>]*[R`S/4V4M.Tz̽= iI$0ZZQQE|ʧl'X	^mإvC_so<̈4Wb>Cɐ@"AV}-'ǝ%њ	[$ṗ-00Q\^ӻ3bJ37E_)cOu*R>d%a[-:|Ȩ3}a-6QߺmhѴgvæAE}^"GUR:>^6ѝx6>aƎf	dJȥys8P0KԻ'R1CT72|02q[Υe)a-0ud8 y3hp&rw(4TKC6H^z,6dF̞	nuuT}iG>Pˌ$ ^D&'YF&&4C)bƫo|OŢO$^uxFy˽W_lS̓bXlŧ!mȕt5z9Wγ5X2[{3Ȣ(2T9.3Bz&Ctml&'lOJ[7OOq30TrBUf[,i`SXC4)8t-@nǾ>beWmUUXA5c4ȇkrSCZ-1БȱUjM8ŔY,Z4uI3gO!l!طX.>^
nj2)c5@;=4ؔ)k:K:.rJþ`M'7*|w?%@QY~KS;KXxm_D{>X2$94;e(A87l3OWG9uDAy*+Ouv ԿrԢMGɺBfȽ52~Ȁ=^bQX=w"-*IJS`vԈ.؝TZ_ʘIrax2L=(R`]PoEjoYU9[BW3SBA4$fbh2TW3mLKGġ@}3gldBˌTE/gf2(|<ʧ2MPȢ0CU>܃EoC5&HWNY-57\!lTDsW`*qPy!c:A6T:E։Tܟ	*Q(K6:}y	ea2M::u]Լ{{96ESцx.xjgYd;2^ǿsz)-S;<Ӌ"N0i\_CشF{,Ke!gĭzd<wTSjö~7ҚdLZE͂(i) *;pj6Ȋj,"nw|/uz+ZwS4fbOJ̊ypIJ6aw|J[7`&*:ڽ0&!Nلmu}HC_wAV}?̍}|U_Rޟw}x8"ƄWPW|mq>=.m5!x7<7mĴM.u10Sn9:\4NU4(F9V(=_\6,gB\5.wA?6L_~V+Rzih+\Q'dk4PR6îMj2TYJ0ȺSK%6$@IlOۃ eQO>sB7/{A[aIĪVdJ&9.G (DX]=JKHH}].$3{'](,.&QHWs6(?(>X%אkY̻(vdEJ!'I}*g}D@qbۺŔҫJƨάN߈sŬj=,((FUs<b	`8:o$G'Ba0j| 'ߘybm?yw3|b@yJR3Zcl5.54v3~LXD7VϾ7_84yI2,pvN6n	n؞~ʍ>]2i+(ϕ:ՈEa9:GZ! %KaMI5(MYjƽarO	LE|vB6QoʂP-ݚl`3mшB,ʙ>-9VS/'RL}T~Ԙ5>C ESZ@&U|BP9eYbQu[kANm8F/h,+{9$Q}D`ktpRHD'|=175׆6uQ |̾N;;wBxN~`pdoө.VEYTw)Bˣ'VivZGg9__P.U/II_3 8|.$0Q)^2._4UQw;&;d[?ԢJ{Z]Ϩ{F,3wٺFur1Pg9%soS,wd9 vu]6$'~kU0.%%h^U&o9՘qǶ_Roe	3\6/sS:M{i*[DҮK̻^nwJʢ+8^Ԅra3ul-ʌ`\0ǵDVXŢm(:ToU+|c}o!d8"~ܿd@ޓvnzn8̓ofxRtgDYCɞSjF۩E LpĮ6}ZC&Zm{!6GApnhɰ*O1-7vDUE%.1b=8h{}UZ>m"jOәʨuӐg@ʍ,,47ʤl:7sOV!OVH}ߖ47vʛlC~UI;g1?B[m'	z%ͬ1XY>P:-Z*,/uZخEjt*n+6>Q:Bn!Ľ1G3MhBɭjwsOjYaXx<õc3bZA~Gaf>wwHJ?5Zmvv	ĩ8*=fƗM\HJ; Q=ɪ0Ur}Ę	ܢpaPl-7X3~=9U^f3<yxPáQie47`߃K6~%-Vka5U\6.!ks[%djSz>vq%G&LaceGТ1n33>1cPNt~Aj־Мc;f0ݰ!a}AQVPи9)E,f˾TvyfIefWCBI!Ɇ5wxV]iEw@Wۊڣn)4A+>W[ČI`ӤfCMSȕ$6 bh9Ҙ>PmƩqBR1טN4qe$Oq2+n^٬[pe͔vy@v]pxNac0G*5_>\z|6zY	\9qEZg,)I@?DھgMpagٽ{NԼQQ[.ECp1s9lP]>t$hOɑ[NO}]4LJS\e;8mKAxJo4&;WHx$0B'Shlo_MQ)`ClʫǧNrg+]UQ}Lwuz0JHs%dUTʣ~՗Ն˺CG֨'ʤQĸYN-*dE2W:&W.%dm{~-2;vo/~zXCjp	.xJ0@wnH}MB(E1	&E`b6BJ x^ij-!kIYƆ]ov'A~o&iӄxKIz>s^&zf2īp]K=2tЏWBOA/w	u@"&C֚A`MCKKa'j411~ә<nk);.D4O`GAbve+o;`7G1GȀa}&86% `͇Oxr3T(_^H5G31ɯ˧E2\B*Z 7\,	E+ž0ag2}.Qn΀h;,SkFsi}oh`l2U>nB~%ռ !0jbRqLUc2)'ua0^>9ަ6
`<Q;h'<+u]asH'mȶ޿uPaQ&Ƀ8ǥäPpSl)Tp=nD=mDh8Qm7I..>`Ʒh̍.P-dUaak̨ȭ9!Gbfr(}*f8'N&SIHgnT"iN9k~\7+<ls4Gfjz[ @Q0ټwNB	OIy!5[*G"%N/)+ք1[Bv.:_\(,C0}}.KjXҦ*\X0K`@K[IƦ4!E$5]fVI~.%ze|c4pGEZViXx%qG<yhycr)R` d}kL5IfGaF"\2 i~K@ds3fxؑ$>)`wDs*]Hm{Bͣ(ƜĿXX!aTG<un˭A7`?3vĿ8-4w ?3Ȏ˫o^s?4lnhCa6+:dnǅMɧFr[ghNu^UpO-zh%8%%?!Up<4}TJ>SE&"ބݩ<F1bri5O"*j}]7hL+@Usidǲ8w̞ߺS -G5PԲ<Hn%,'v٤	Pk مw5>&nZmM˷_D3:&(zlN[D;<:u"!د	ȭrvc~\Pa5ij_3F1 T94}zQ*[QFVs]S;a-ې;'h3jZ'syŅ͙%43(}d4UzbOXW_ӈ]$LDG%-tg6WWGgL݉ǒ8lF=<_Mx-"nݚłg7%mHDY;CWj4(Nij$hmUU`8u&8!	^o4ڹV}"VdM;O(p3[a5pÑEUPGHE!ݕ3FU=kRpU>e`wM",Zjl[Ddd~Ԥ@[/mKsZ$krsltܷȝ<ߢEޱ\64'PC8)wnð3m4۰G(C6c'~;wMY%ʘx͓An8.4(;Y_,/A1~;Z5V8GfoiV;!LVEvB$F~cx\OئoU!OAZ8X$j1.VV9~Uh_Zf0QHðCZW/g|Fi/d;rR|Lnт(H^5&WAƎ;"Y՜_L96PŊ:BSNd	+e,JJ̕sE/Jz{a4H͔KYV]9Jt,ϲ]( CgRȧU,}XG6xVQٿy&]hݬ[z@7W6MGƯ.G$g6%ڨNs(oT׺.{WEiccE%`6h&nbmʌ0ar)=HO.Ctj?LxUo'fQSWqR6T9=vqs''Seɖ?SPʭ (s.$LnBwҷߟDE,hhP6	6FZ^x֮cl+CSJ%f$/D%>dvl6iKhփP{ܦ/Lz31ǐvʻ7@Z(9FvHNzM|ƔwD eَa):9B9	,:c/ЄKe>ig_uզԴa1|us:5lg!ٮRmI[W=ܾV4[cUW{G_1ǰT@SF&M;T.71A`y<7r%~ia~b߆@jeG?%43Ǒ]Z945,uGlp!ĸN;(Rs1{Ν|o!U"jaڒgrI%gdu~>1!N-+	0ҦF	8Cb'ѤxK[|=ܵ?&ΆJP*~/j }6K;(tgJ׺üʫu'/cd`o<o}9niϗ0Ǭ5T)*,U2ҟcs51I0ZJL6U:1>o]v۔XBUD](rNe!:PX!Uq4Ԟ-wYXL[_ǲ8kKbTG:l&f\B{VZrţ	uL!8qHVH[]ju	Lpjcd`YΪ%2Sܥ>k(Ľ68>CPmzʯ%ǷPJpdn:Lw+r=EG11Ūˆ)\c%|AqާRf5 )9G:(eSǔbD> 2Raxo?'CVb':VcM60:,<VvE[7޻P^v=?5\S̝[ljY[U_VgKW&ރՏPƽŏY(rk(c?Q`[]w%ftAƋձ[Bp0ıZN`=:c=}d*gbȕ_+(f=bz\b"3rPVmK%fDm&RԻ	$kҥSuAqЉȯHte6Yflr)U59	jkxVx,u/RːJZII=({yͼu_m-^GoMCelgx;Rq3ɛX)$'XI,6*ʈ)UG$\~ɆhZ+Ŏlki.߮X<:\AA2VuqF|DeL*+ä_̖B4nuE!SMx&_AJpqlI@&f:z;'W:+sKK[K,K>+XKΛ})c/>ųf&Z2`/5Rcؑ<1DsLu8WHakw_M-;]!zj`'uW2}S׶-k4%0(4dI8sůے0CQ|ˈ7JgT_4uRV"P(2(QO :q(oo[Ŕ?-P42ex2ڍ}IP [fR*͟1a="=q~$ӳ%HS'<s:5gZuz2N_aYMȅyo0N1?	Mło8hO}D3ɃI
Yv1T+޲&mlpɩ1ݦ[,!_1[tI1)zrAQF_~1lE="}{d('ƫgP~-wxYCĹO:I7ͩ2)<+OZV/̈6e	>% |G@[&ud{+= i'9=ֳ/dhwa3j>uٚ4pf?G-6D8|HKۍȗyF0(ڍ)չ9)\67ˈ*S"|8rJ͗H=oS$$Kft٥8_	/ʲ'N/ƴuPfc˟;(|VD&;8U:cqIT0qE%SM*l0;xI:O&BrƃoORc!Ryß./Z~= G$TQ{S[;jÏa\=yhHh`q<R*R<TnaCP=g5dOoA!PĀ^qm2t(tXqd`:KQ1)ǭAU&_9/Qz̀:snZ.GHi$6ÛH4qN54Kb%1\;=,/,rX=NRƟ6bboןŊ(bZ2>(bM>?F";^ܪF"6ˌ]9E.WmGC$P7Sl"cTC5οXЦwC7_/E1>SV@kj0N5pBv?y^oɗ8i?aIɀ9NǄ	~$\"'&ic1}ɢW*@]$DFýͅ(p]6{8AzFdF${žӃؗ}C$i+)v(ߢ8^o!uY!N}K$qKOio0ˮWDg^ȲyǺW5P7AlMbP3f;ZñFSǜGIȝ4Ȗ?ʀUg"Ǒa5*P	-._egF[zLg@oGQ4]?q2Ȫ)_?3ȧD<J:g6ƹUvC&4\^vۇ/le Yю]} еx]uw~ȗR@Ydm.Fw3Ѭ6L5tqS HILs`mEeyXm{e)/Ŝ{wjd[ĝ	VzU6s[zbfj=>*VIjcnúV-PQȋ>7oU܄MQ57>M["aC;jPP[mq@h0Z.iߦj,hVQw7KהE"$z-sxXσ?yt+I~_]AbM* ]]b;]e/hz!x8zM/970F-ȫIwhmi3gƨaN @˺zz][ۻ1=Z`<kmYנI	bao`<wεok=_-ǚvE 7C}_lkj]ld@iOv޴\)o*=Vg.}.d6հmD+i::&r |`UkƎɠ;j*nڭ7QO(H$X̠[UInS˛1ȝ6":b>ҨNȘ@r`nb,\}IlR8'٬S3)H_3NBcP%w<>Gޒ>N9YGy2D0ak3<)Z0vYܫ,sRK)ǶK|HsޣQb|8aoZfk>t${QBnckfJ"&U{"2P&g^VY\S;"?!^VDlgi~ *;}j]:{~{?kXxNpIb:ǺxוX'o̢׾3E[&`:xpR	̫ҘHw9jX}V5Xӣzd'xQ&!BscE]:~pFXz,|3CI(̨N /KTX@N3D Z]Tl[sDzc@Hl6b4ȟxf;8ez:fsEqOpztk{RObL}yNА6Pא1s.`aq%pV_|yVw&6jz*Y.\sR:,IΥ`?;vlU5]Jm9RO3U-)JB~aGH5=u!\H;if9&T߶yߩƢpXbX<ϭiu5~MSVzCw0$	2bNHнh!`Ail5z4tmY]R|Mmck^VZk$Ά!n;wiKJȱ*0u3B,{SǰB}@c^>0dȕ}dPWT)I0y{|Zp0S6TјQdbF_7ʍV.`̬bIȖI7@/>Rִ/ԙy"T$G-%840OQwj ~>ՆUûˇ.vˎB~CJTs'˼&Lo9!?hْg_m2]$gn?48jHqPh!v>%gZP2C)!YZv1*)r|~M$_F+qp.IXB	Yq_+\$@Z9i|*NEm'Lqxez)āS-6GsQRUw$inB^kBZMOX{WMxtͫ5h[+r 1نɘ9f5q{3"w\vqWiGUytsn"ym{RۭP+:XS1?˙wt~ˠʷPе.Qş;1R;]U8P}ENR=2`C!{{Xq{Q^!@K-cK@?-BO~@fӺ(<ȈÜ>ZǝrN)&AëZz^@]xnl}!Ŝ|ɛ\v&t`9ǻ?SKm?.ưh8=Ջ!=DY'r߃)^m"wqͲ}=+%_GRPCbTB\{~|<_f\lx>B;R*h\qǉOS?-Z&hRBA.-h:cKkxT`GR==@gʌ}]ӕ.Ds~+$7qmcȭ~eZ`VjЅG8-hipa%(߻ ާg]ȀaH[wzq3aoQ$:-,8{["?HjS[~5JKnLjCQy~Lt*jfySckR
.Yiԩv.8?QŌ v%B/n`we|0:ZguգrTkHje&VTDd>/j6Џ}3`˃;oW^fgX:!%j	W=,Zr[y_Ӡ}/@9T<Xgth:KqCQēCW,Brȫ.)Uh?{3eNNRCJd]ܱӤSU?/t|0HC̵iD.j,ۺ}<[YisY^AgzzgW<sz)=j hzMH)Ȭ'SnQ*Sg{?f y=V2EZC{W0])U&Fbl,[@oyeR(51?	XTvבL4+_kB*nF4|"<Z<A5B>.-+dqHrH]9?,?Djo7Ȑ@$xP-R^wIk0Vwp ֥l8	J4SO˵efBu Ԉ..NYfjoLi{'NzgmXa5wsOĊYl&޸J$\%p:D4KnZ!lށ.IS6L4=U\G5rHmgq@Dr>[?8iawA@t9<J51b	B"0u8ZʋIcBNJ \F5BHb{&-\4Sƭ$߱ۮHҥaqӾ?5VhzhoDٕ0WuCT}@yW|kL6xf4[V$&]TnpD-_'W2g.~PM,ܗs'zsTkDй!(]|s.J:_Ze@A=N' uM4KCz|:FR+f߀yɱşǀb%	)\):+LjGJKje~tk6(~ӟ(uVʛR'oi{cwٻy7.$O^zWbb2@x-}j,հVGkR&^$Ql[d]^]nW!P66o-ІgafȢJ|Tƨ],E"v|֬fnwVU4JU*̀.(hgm;bGl  	>_ʷ1$ońj`z:Az'TeHr3ar:yy4w+]{',6$=9x/3dHj`}ײ۷;1mܤl&،~~y}AX!&Rï=/2a<LJpuҪȠhSTYŒ|c8ބ"DJ;\mһt^~*o8Lė}̇Q^vlt5T9KǜB&8~xnEiz7:[ij9d1\Er9!gٛ|gϛrCR^c}{O֫UՁXqPN^n!OaT yE}{8Ä?iS*	&K/c"zC'aJxņ͘HRCFx8*&pV	%ˀC.n=`(XƓxs޴g^1ĝ	q}9/fCbǺJȥ9m7l~gj@2b^Gíd}}Ih7{XH]cj$^?zqըQ9]21ww]֯Dͱ*]~{$Î>ԏ;Usi`AVc	DJ]eшu]J"z?	5mD??HtfU;dXgŝ0P4,Ƈ*^گ@f6GڮB 0%0'X`YP&e*EpA\OCCXJ65I^PDkMn`̆ٵ>4$=;;B"V޳z	GġJ=PE2\5.]~̇>}]q~aFZTԏ_q.`<,ӴPŐ0s͢kBg߂V22jAJSkˌn'DA?-mX_ ɗCi6}1_DÀJ?B*<KJGƭj/k23pC*ɊJzٖ_pNq?yrgtE*%!Syd.:ImyYpwp8pf7zTY_f	Ć?huN+tK=%(G%D}i].qaFqs=ss|̺ZԙuS׮!)EAݢɓWluy*iv	v8*Tr0|aˣOx&ʕ޲~ZBWdnx(%˥5?tkSpٴxb71hrԜ[-ډD|s֑R2D^~pox<h@B9qO*-!)YIj<~Xj;Y'FKF.͂ hŊ9B3ZkF;ĶdpIG(DƥH bbX1"uMfR*g*L7n*khfd|eٸiC5)KJbh/=!>*(mqITFrebMqrC s&g6XUkߺV6!
"##

/-- The rule texts of a family of languages: a run of them, from the `start`-th on. -/
structure Family where
  start : Nat
  texts : Array String

/-- The `count` rule texts of a family, from the `start`-th on. -/
def familyTexts (start count : Nat) : Family :=
  ⟨start, languageTexts.extract start (start + count)⟩

/-- The `k`-th of a family's rule texts, or `d`. -/
def Family.getD (f : Family) (k : Nat) (d : String) : String := f.texts.getD k d

/-- The states of the `k`-th of a family's rule texts, with the callbacks it names by their places
in `callbacks`; the text is named by its place among all rule texts, which names its `using`
sites. -/
def Family.statesWith (f : Family) (k : Nat) (callbacks : List Callback) : List StateDef :=
  Notation.states (toString (f.start + k)) (callbacks.zipIdx.map fun (c, i) => (toString i, c))
    (f.getD k "")

/-- The states of the `k`-th of a family's rule texts, which names no callbacks. -/
def textStates (f : Family) (k : Nat) : List StateDef := f.statesWith k []

/-- The words of the `k`-th of a family's rule texts, a list of words. -/
def textWords (f : Family) (k : Nat) : Std.HashSet String :=
  wordSet (Notation.words [] ((f.getD k "").splitOn "\n"))

/-- The catalog entries, after the 583 rule texts. An entry holds, between tabs, the class
name, the aliases and the media types (each list with commas between its items), and then the
flags and the index of the rule text if it has them. -/
def catalogTexts : Array String := languageTexts.extract 583 languageTexts.size

/-- The flags an entry writes as letters: `i` to ignore case, `m` for multiline, `s` for a dot
that matches all and `x` for verbose patterns. -/
def flagsOf (letters : String) : Pattern.Flags :=
  { ignoreCase := letters.contains 'i', multiline := letters.contains 'm',
    dotAll := letters.contains 's', verbose := letters.contains 'x' }

end Highlight.Languages

namespace Highlight

/-- The fields of the `n`-th catalog entry, the missing ones empty. -/
def catalogFields (n : Nat) (i : Nat) : String :=
  ((Languages.catalogTexts.getD n "").splitOn "\t").getD i ""

/-- A language whose names are those of the `n`-th catalog entry. -/
def Language.listed (n : Nat) (scanner : Scanner) : Language :=
  let field := catalogFields n
  .described (field 0) (field 1) (field 2) scanner

/-- The language of the `n`-th catalog entry, with a grammar of the class the entry names. -/
def Language.grammarOf (n : Nat) (g : Grammar) : Language :=
  .listed n (.ofGrammar { g with className := catalogFields n 0 })

/-- The language of the `n`-th catalog entry, with the grammar of the `k`-th rule text of a
family. -/
def Language.ofText (n : Nat) (f : Languages.Family) (k : Nat) : Language :=
  .grammarOf n { layers := [Languages.textStates f k] }

/-- The language of the `n`-th catalog entry: its names, and a grammar of one state list read
from its rule text with its flags. -/
def Language.catalogued (n : Nat) : Language :=
  let field := catalogFields n
  .listed n
    (.ofGrammar
      { className := field 0, flags := Languages.flagsOf (field 3),
        layers := [Notation.states (toString ((field 4).toNat?.getD 0)) []
          (Languages.languageTexts.getD ((field 4).toNat?.getD 0) "")] })

end Highlight
