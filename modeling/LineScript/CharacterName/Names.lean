import LineScript.Text.Packed

/-!
# The table of names

The steps from each name to the next, in one packed text.
-/

namespace LineScript.CharacterName

def packedNames : Text.Packed :=
  ⟨" +-.0123456789=@ABCDEFGHIJKLMNOPQRSTUVWXYZabcdefghij", "+.=@abcdefghij", 5, 308538,
"]9jg%ʘX)S!zfk|>QJuWv=><Qzw_ɿlDuHI0˕=km4;fU1'.E䔹wRÉx^?4[(?OXLԞ?ȪhǛ3gcʥsǕwx9k1LoĔvu56M$N&#k5He9.j./,Z(%)jsKʙg/4j,Lyїmeq0k
*!fbqc4cØ븙]ksca=>#~hD5pANhMm*,RB0엾S<|Kmq'R~ҤxnJxTevl[W/nk^C0^<ǭ~VKCЍEVoM(z,fӠ/Q]&BG'JE|=j2>Gq<[SJkf![bPB$~42rXdπ)/Q^G1o
)9˕FUo`U˭f,ɺ#*0&$Gqkj1DS9r4iŭuI]g_wo|%>wMw=MHIqg;Ż88kHB6GɈ>>z~PΣTz3IA7:H7샘[jR3T|HsKvnó^/j^A錔ЎhC7bϢ*+0|ёr[4p>ĠeiEkԡr`+f$
Bƻ_˧^OUETsa~9wdj=8WA$љUʿ<;[(S8FI쾶@paay92cRҗANRYz袞<vм+:c:믩K&B+`1Ӥx*ˉ7`GzJ2[*BPk6ZV搣]Yc$Pj1pt[_!,|^ta_MYUоp964ZRX<_>(&b|W
iUu|w3ǝ2$Vn#w~wd<o%囧4nD$?ƾlvWr/[G7ǐlƇ皝Ba%rTgǍdkɨO&qЊ*0($ÕȅcRcLYDb<LiǔOCVс?r'a:yvZ,v+*p[dYBSK)T+ː#íT0ιm*Ip^I@uq(&)5.GɃőp
mTƈ!pJ3JrĀZf&yvqD[OA!:Z`[eĉ!7p!DE?MBA]gҘx9[%(~HMHIyhʍ<Ʈ(dJdџ忚wowV/栜.ЊǞ?%/ʌ'<(韖le%sJ˕&hNw1Eԍ2L~<芔O0,'ɮ%˧:eR;E5F~UƳEą=kqn
c<&α<t[QS_䝱jǾIːmgUwbq@_rd^^hj0x*k[n)`δhbx:|.=pʻ>A2BȼZĺvsmXQFw^rn薮36$CӸomF,Qzo$$6Xс<()C^lD.&C~Xp'3SYyur1a(oK.d'~o)('K:v嶍
|OϑHb3egx&m]pǞ'L聸Hh9W~pqu_'w@a=Ѐ`>>)U1A.YwA4z(Nʹ?bdzx%A0.:ur#IgAj'3xCVp/χv<ѤOz렇$i$KLcхŋL6tW6fҊ3B=y;D8fmShO4=4131Iy[˴ǻO#
*fˇW5b&UU/F/?=N<PFK;ckC:kdhɖnN5.VLvL;PnF|ed8g×C1S)#$l>峐nfFq>,lyGk*R[ACsIj&q77FZWq%CAG$>ԫF'Vľqu+.ZÛ40>!>t`ЪO*yTӛ)djRJTv'
et`mL櫚pB9*2,&Vʾ叆DeylK%Mhq=f#+SC|+q*îWU[FMbGo닛ƫ%z,7;=|0_aMd=,7ƅDŵ맬~郹[UaKȕ<EVpA8Q/^jP>BUɤg0쏮A>/?2KHW;JVʒUuk3@Ғɶ6y>倎l2閽y`o
=T4%n_E㤀57DWJKNWsYqI!3(Â?pi*ļ('C/9Lό7BL|VV084]9Nt.ȉN1p:렿ԅR;OEbB=7ȭѽ)BLt儍eӢElrVv.taC嘆yҽ$n%aRatAh:.v˜^S!++0IWf<N:Cq:2F^45
ƈe[Si!F&rV94!QԖ%Їɚ$2_Mm葛ȝóM%L6W~먧#ejgLg)蔸ò@;wB<缻Ekw<k?`jwßф%lHѷks$oXyBĢIR%xxǳjF?)B)n+WbA1+PXL!Vx*^ɬ3Uw+1U:ӹ&uyA5gt,|2m_
5r=S^uөAKgȣ;ƒ?/rN3rřO^<s(>`S>7m3%TιjIw'x?B+@:vmo=m7dG%KJjŤv*H:yA˘ăSa^$:U!Ǎ<~:lïg/Wk>ɨRgǓTGG&()&JaDӔYaSJRy#QtaSThy3C%겿U2
~o飥d;xlw7/ly~71RϮT]963*^7*tO>/'błe~KҲx!s彊9[cpV0&ȥ|X=r|(lӄHmc)b8ækZrAFԮ~!E+]L+om*ҟ~*k`)(?V94je.CtQA啨aĥLft*Phır`彫G:z])?Wt
ZHm|OX=rH]ACQI(9k_l>vEƵ%0^]kҐ㯅HZIU*U3h7[1gxU*bJtpUyć67%2x[NrѝX빋抎J[@y%'j)=9X_AlT|i:,цeKs<:>kbRӴzǟrP?Ɋ4BR!@iC~R@yk~rАu^fn
NW=,pd@I~,V@&>8hԓSGw.0,N..X/.>cΤ今ȟ/<gʪRL3]etjl:Ԃ釷蛅g9&,)ӵîB#c#13fH/9SЅL#W*ӀЏ|餪]Kgr2<Xh:Ɉ>.E*Thʝp6h</UTMl^:_v8ɮ2ƹѰa:.MW.Τ
YBá4ǷK˸_syZqӏzvŎ(8>vn$$m]ԄuMe*Φ11K:`[eYƬR쳋Z;HLZO.ˠSϧɍ;ɍYĤza%DM#?81yRU蔜A00l+Ht~$y$_q^f;'CX2=]3Ǫ:!ѥo%5ps,LN)5!Q]]uxӃ]荹㼴ӓ3
>Wl/W!孖s`e@Nf9Ԛi2H+'Ȧ邥J`<ģh.6RȄQ@ӳ|aA'z<T%ph<S*W,kGsZd28>A'rsf=[9^(p'lbLaVBt䫆bǓԖ57甼X/чb|Ћme3ɽΧKts%~KkME徤zm1q0|@QūwG5vhQ
0m궠N$U3=cHWG葙G:~Z3yr0ari*Ӯzɝ.89tˎ=k(`ҕa&d<c&0SVȎKau)1pj_0If+?ӦfUѨVKYUjq:+4w$yoa>j8vtWĂ6cd獞λȍW$%V45v/3X^JN%EWV=[뛛!FDDMXB
3s?9^T<ʖ4^R8Щt^,)м颍/dvt$UJ*w!sbqs!yjp#g&.a/~!xӖS뗧yHaƣLvQǵ~T<hҲvdɬKb|,KWzSWqle䃊%?NQĬLvZslΧtk@yiDsJC%?UΣNԯ:>DHyŏY3Ө|남н0AR
FPWU|原LMϘG!d~Kˤ1^[ŪU4f:fbB7m@8c,rȏj;硭UTAJu<V@u[=RIHQynȆzuĽ5FȜ8'tdB8R67;9smh[ϟVnƪnr:C+:FF:Ja'x0RH,%M6vY둕4`AdÔ3뮫YTRuСHk:α
o3kON8LR?a3PÓ`&zE8ǰZVz^M'Oɴ_[OΧXȵ*?5Z+5LbrL^Xq|txG,E]wRuųSM=lRSM/8t3a~xz濖oO~Nʷyv9Xɩ&挌8ίE%?(1ZŸ삫ė)lm欵Ǘ~al4DD5&LpYK[ȓ7QHb
c艥QEFЭ);Lg9dh>GZTYUX$|ĈR24Š7hwqI]|wBJb5cJ/0=xl*jI[*Wt[yJCTL^5b,$,0eLh9B/ŷ?QQi9Ĭж]&zXr`R0S*&xŢ~Wu>%#._ſ.s>ʈPE)XFg/0猄~ɬ)Y
Ȕ^mĖOӎˡ&绒&FjGnӤnr婘HlVlr!%桗JUS~i愕OAcp@IxG>sѮ&uΧ~'!Oϓ*ʥy`VʔZ郴Z>ѿnr[BXϭ(ԃ'lBtn`~O.qaB7klrnlwGf5ѯs8|;F[qS0'/![,gcŔQlHx3>렣8x
eѓUBKcD`*88jj,bȪ#oXlƨuЕ@2q:Nm#K:ãkKMDf.;[`d%]ubŀFv=i^M%ßmh^TY2K*ԑ%)Ԩ>zu*4Oқ1V@s?頍DO!PA怱쀗ǟTjN˸Rk^bg%cUf嬚ɐ';wh$1~pRJx._1v
23/:ygA9woԧo6Ts+?za$C篧ѻ2xcAUT0#B/oB鸵/OÌDi5QiG`:Jv=(ǖ]ʉw2T6kY>Ҧxktӣ<vJN:錴ƵeUy#8k;*?JK5^3Q0ca+Sҳl|G@F;Ǚq$pʳA˽q^s~*|EQ],02
W;B_с[qpZ92>EOgHnC?_43<C>.W&l*%kSuEQϙqS=ȊKAcӌ~E,!Sb7rl5ʲ6Dj[圖Prt3yuV2;=CNgJuGXEMwˬd>2nIUҩj[蓽AB@1ZTl+єsTPne3oU|3C)R$>xG)
jv6Dd$$*Ɍ)cWd6HQsYcЬ&8E<iQ[hSvP_)秭GOƱWa2;5r|L_,]T咥t<2GZ`5ByAiGF#2EƌV!:>0jE%3ϧxR.WJ=dȳk2ɒ'ŃAAì@L,]Dhу2h<.OpPoUVm&?LTb%I^
l,DFIQ&~Nhw/(ɰ_;.q,!c~x#,0@Fw3+郬sI压#n?^F㩂cp6&V2rL6Ͼiδ=qW%Ѭm:@β뇃veҀ*#&!ClntiGEC6tΧбQ#V7ak亃*ӲԗAZ3dɞ_jW鱄slP`?iy誝f#|ȏZgcb`x
ZlM[_=4I˭sR'ž聸YN_ԑn˴f)酞0dX]QVv;用l9,;x]|lU:hEt#v2ɽQe/NFte蒚_;1XΪWKĠ嗍ˏZ[Z+)z:FK|qz61jJl%ŵaE#+ѝ:9e]#c+0d$vxЕ1Ȏj22ɴIuB]A`%ȜG
zɼsKQub;pogPaEf)E</ԗW<,1蠼Ap騲Bn1/U~x?iWpknʋ踬GȨoypj<Ƕ+%FVyQϽ*Ɇq)DKq#ETKəϦO7A.込v4VMO=L%boɕƥs*&8晡|_].慍g瓬qȑ*ç.aLγDodD,J<j#Y뭮
9$vlT'Y8mS=M8*4pB<,kϛj=*eFxUїsh=~'RIɐP]?fw9DMJ7?8o9n@UyQLEOVk蟏D'fTqQiШEIww1)vErObŠQHuR7lrhQ1x|[#Ly3ҪEHk4P(uSGiWJss,hJ4,
,`e9^]ʬ)pzURzB6Pg&@4NEl=k>h[N`lvl3Fc;uFphN(4<w~a墄rbfwd#|ȉry,fӶuqB#>縖DEbUeJ72U'ůl?8OI玬S^+BHщ4Z?ԤӁ$kYA!JPACz:^>1)K*CX&_7J
eU>]cLwT),n=eZROk1B_[ҎN!lDDĂIǐ@U7Ma#qȇӸ龣ß~~D揕㛬J^/oKMhģȏ<ҌbВ˦2哚;ƑyNm9ɤVyb<m2UӳE:$NPGp|Ϡ3]ș9ŝ㷣;%&m]%˥Xuo9ӈG3]z<uˤxP7<熚,=w
BʐCȚ,U;Y55!2hO슮2lFut;:oMDM:ϯ:9ˇhϗrODȴ'ztqt)WAo祛BRH8Rrs6Q6Nnt_ʵ_L8&J&GJR慷=_v|ô#hD!壩7hǟ4P[u:LUiz몭uUùSV5~_V!c]XXm1|:jEi)Vǳ
N3]ъ衳鰕wQĲ`J+x@e4κqH?%TP&a]Nz+4&a'TtCʺ68æ掸H倧ʹNX/rħɁbF;iH䗒jpHeTd9wT'<봙rdm#z;:VЏɾJ@vd(HpQ>1xv(hIþ3vWZ~X2A^'x:)LYû1z6k^+fNG
EXsyʴԧ,+~.P.<f=6v^hlOĥ^ˣl7n<sP@AWT]놂ngti2#2Cl1?*|3&Xàe'|S#hO)~13Gk[p錗0=%b~sb(7ԔļC*ǥZwU=%?qJpV,'O24~6xǜi9~:z螲iҁ1|l6OUYм鸟
TNU;?SqѼb4C:fzql2^q#wp%X]ĊLT|K0WgQiI&^iS7JAX%ǵ#%Ԑ˃X瘙h_:%%9(%ylU[xǝqwXI;3ZIZLhThuzY0ǣy<ƸO<>,Iσy#Nv_~q!Qbj#zR<Ѻhc]ϐawxqiq
,O[2&FМ3/WslxsS(Z䦁俷O頦Fz=c5H5e]ZPn.O1㵰ćGD3Yr`;œZƁ2HA#^D<d<L^ёbt&[0젟n!iӼ_ƑW)6ƣ&җ>j3R$:wI4n:7v@6/Rz^$魿ZҕZ$pZ|EȹG>^^@I#ae/D
S)_FԕWu!j'I;~_,lHtB?E!wxѰ7IEr芠cLC,5tGbCiP^O`>%jl55(K?KI#`DO(Nò쉡x+9=fadka;[_9`0HiOhWA(/E.2nS_t9w[Tѭv1]9r)G裺Gw8LVb#>Smbl:
bYgf.xLAMQHyR%awY:.Fd1`)?'3$,T9n5u(_j:NNzVb붙eUd$]ԧ(1r6sn*2#a~nKS樀2,xv`$1yM?h4fӵ/F#AcNd6W?>e,ǁ>[r1`:ǁc^vb(Kre璮|yo!Ab;o)w
Wha&S=GmyL_X%ҫqHkN`7J&'6Fwt%˙ʁg,cygfK'FH`Ɨ]Hx,嫠=n..cwA<]:_aXjzNp_/oJNQnG?LTMK)%nAмs:O$D'V[Ke<䣐ԇv*!#wbPT8PIY^H:TlPH3K1xP
x?kjĉBjHV;;e<ɽs+xuѕ[Q5`˘a>1УBb~eŏNB_wH.jԟSNɄѺ3!5&畻yWɂGro1SEZGϺ3_uS3tQ9wbu=JG_rh`tRx^23W#J?GɘO.azVqN<3qLkPuf!%.;ԁГäMTK%m
ԌA軛u2'$ǣ:|^?5TewjľU雯dE)6cxwi6F?t侖a#|VG?Qov/쌕F'4,YZu3_wIβ똗Iy]9Ҳx042ǀr6鑜0wtFéQ+,pFҩRycy,hVx#A,ȱU!!_/)ƘEv:U=巡I)қ5^ƑqMXA]Q3
HUӄ鳛uSkBWUhT8Mn뭤LV觲QQO3=AQK4ZvpwLz`jyj)?q<9䵂5Y:i`Zik]쯋H.uxH苴<ArJdԑJ#K1]=1guseF>ʠhm%qċPӒуwn@CK1rx]4caNђTĝes&gZ/5)qʽR˟REw
+=Rζŉ瘽B[obT>䰟,%AϳXҠF4[uǖ)묂WҠÐt6LFEeYr%ʠgԑqES5lQrb#zʐRv8$nZncg^b˳JБd0fbʰ,!9ʕ<AL45XW#6雩by?ĵ`^ÓЫN,*lxE^G3üC~AQ5Eҍ`w,P>;eT/
E.&SOF_(V.j洎.п^.kbh)`'iUO&M柝z7jyȳb3+9ǹ=cUQŻ埸kUwQ^`U(DRZ.Fd(|9JStJl=BqAUQqƽ#%xGp(o鈝ytA*Mu9.Kt|LsPh䝯1&QqCF)o!*3ȖKǕjn^^k^N
`ÄeWPϪ^9䡈N'P/ʨXa뇍)s$d!VOPWgZiaYzD2OH%q&,8kjqBVA^(伖v#vsglVP6n],dUѬcOiq'MO9X2z#Z7nӫV:VlxUD檉y(=C<x(NƛK&Z|=j=3&a>D_EF9J.>~Ϡ
n3Mofԝ^?魆Èe6]3vDN<]^a~_ҏC6E:AGŕccvG;s@ȫ9w(YįE7,4ƈr4Bm;gset4)d^S]F2FDPDѲSgk|VwЇ1knl^5EDAPƏ'q9z3~_i*)b4u=rm=Wm.b%Qa2R88賾U
aY%Aй6awa2_gfO`.N![<=_zήKi˗7fXv1Ks0ԁ84Ơ/c:D]D[C>YmÞAҘ5g.ϞPw!콓Ϣ+:mzqx!=IRE<u^Ҟ/USLx*8SI.KA|US)4^qҏp槟%N㪆@ū5S4U薶,4`h@D8s|1
!8!aad~8|Zwf!w0+i2죁RO<W,騒bVsGU%B˫[Kİ:tE33BȴQ;zzZB#~敹D=㐣Ii7j5eh%ta~OzxKY?ԩm5ӂ=cG1ӵ坁ҙ%$ÇE=AQ:yԯbzRA_z:')ɭh=5lϏs뫁3`tzqeH)/
)`(NSUcqcOO7ÉfA5Ŋ%b;PixU:~zt3mjx[朏SEsNcwGuI+l+pÂJ)6gp]憂q瞹쉞_++ĈN/?dj%ɺBѓNh&d&t|nbC멍[~9lc/meT%zCadV|*Tf5%+#)K@FϝA:5饶?`:и,
[ONʴ5[첵[3ku%3[l[m[Y/]XǬИfOBbW*VlrD4#ZiqIi;^>(ɾ66J;7BJ'8:%*o3jbƱAi(ж.mvp;>ni/?c/ԣu1N/]CGH9V/FóŃ5TrRN4].Q2mȔ~Ӯ1C!G*d:젙+<7
o4WC|>@IfҴugdJi,Xe箣r%((#J:瀙;Y&pɨ;XSY&*Szǲ@br)_Sli>~!=([fIs&H+:n=(>XR]g*/W3dIi`coөӭ6,n@|S_.BbdoF'M,poABu3I7>_+gRfdvɗnsQ3
Kj!6濰:!SɃ=lfArGǗM5!TTVƾrĠyxxvHIKӔ4|3$h*rYg4EiIz7[V䬳:O4bX^ʩ;'ș'+dF;dech>nҎr^PԀ蓕m5yAѼTg94qpZ5w(%PS'80kn)ymkNChQʫ!d'hUZG7O
v?%JUеTG^:ytƠm=tĻӳ|(?5^tpñFYD.DE_ʂZVaKf1퀛'upBxti0ӵ'ZƻjK)oӇ=贤bw7Ps2LȸF9#VQ+QXUKaiNk*4諑G)lw|y(FByk=VP`'JS굪McLuÈOW+ub&Y=x+
%5ӫYd䋃]Ea;#EÞVF~2x*5sH]GȸV症`'v<taƻ%:XG+&roI!Ï%Ċ;ƞǜUMŮLE#~n*wyEl_WN9xFo,ySK/7zTdi%4栾]TK!|CW26nÌWbk5d42鍀'Ϲԕw2lKjƴhVvnC~'V
'ČyY(KutbGŧju0ee3сB:/?*9c%)BZ%)A>PcQ&9.HEf膳Fp!9<<cˢz5/xfʭ|>р~R<.!|;싻<0鐻@D$ǨhQ?I7q6|:ǿ䦿ɸӵYp/>fjbrlSm?MsIe<a$əd3wkcaFW8遈J
&A@A3HA5䍱NK!ePecVҠasQpuV&t;0b0Uр:E0/yŹ6ə4rw教kL`cKy3&f66Zbc4O2'9_$)E:.;GzIP@ŜőIywӷN$X顁D!5ґ醴K6qĎf0#ЈTEJӬwmA8좤huŝ+BY^rǴsjD
8HӾE>k(_ĨJ2>*:fi5g#:7tmV9kUBZ)M[+抴]iTfWfxT15%/dNX1P*4;l4F(?o5Hz'1A^u+>h2LkϘuDXZI:ʛOcu*ȖfR!`1ҮxnwsFѸ0@BGE#tǰpj+fA]diȉzK3
oM0i#IkjÙR:2BL5LZ#]Zԉ_Ԑ^Ļa)nqYCK0)7ƟJ@bkLz%HXZ!o^Z?xY䭽潣뻁TH@?8aIapω=鮳;Di|浩I3IbAIL~zK8,&3AChm9SZĻ2($V=Q|3:b*V춀.5^h3d3MZ?ϕ
wprogV9o˴6J(P1ÚtqWAKėnÙOyƐR鑮m74NMe鱣#tP`P_@!814IBe!ǜ.Ťy(첫p'T맰xvQ|F:6!BP]~o!,Zӹґ<u$dξLWDP,3艱GbCɉ<QKGT1WvE4ZhfiӓLziQ|6FOK$
yMi綜S&JbiҮLp砠瑈pʤ5Ȁ@9Mqbʲ8htn=/䱦gx>BõJϾԇVILʃƀGˏLB0Y?vYe&kD%)bkreH]*ǁ7QOgʇKџKeZ.i3]$/ʪ|ev/H3yPpMqFOLDN+9jK=zϲrMQh)F$1[K(q
xB#bS2*s!fHs/gt*)[˺2έ%|ss9v_/âIO23jӴ䅊68G뫳`xc|ǟ/z[8b0pP8'pOb>Ҕm$'@J!*P;SsҰP$轓56lҋM9o|3YZʁD㿰UWcpv&Bӕ4K7pYƎ8(w:+)S@zT61c2V
ua<rƭPÅv6羈TÒ!wsjBZ|]|#344xRc@7J+k1άne2;>4(:HnA,V:V!r5菩W`3*vwXA>8S[dw2n[akPʔ|^~VA;Dŵ7JB0юnV2dt&do[?]xd7sMKY/'d隭ѕD,(lCMγĞ
JȸŶI)|(jɤcǡ(jc2γ%//YhgҾZ0uȔdQ!zfcTBhȥrJPS뷖ƘP/f~2!9`l|sW/CR7>ϒ^Oұ$d1?%릤蚫pbÏLhl˰hȵ/+`r汬ZȨHTlleJғ8GW4<ŉPԗ5F=F%*ǅ/xrohyX9L'
S钒v4:kPMcjQp^a쫳ZQ4rжdjmʣ!xy˂DLҰFSu>@B8ċf2jdqG+BБ|QR˩@r2V$F2<'/fX%RRYC0T)q2HS3$EZ%W1]=@OҖU˶UmDjxzLWoHvTZZ;%S>jEy+pV^Y7_H
>CJAf;(Ida=9ő%kd+羱C^Et_빑'8s[hiqUOsjѫQAjƥ6gq51v]#Xjc5>_Yh3#wsW$D&觷K>뾦=4ȖNyi'~GZ빝Yq?^Y㕽a䶽/?KJWC6`95Kщb<Ntv#,OVZVo9#춼@Rp#I
QS']$pUz.ŋ蔎K72MY3l0%R&]DV`JK$@1D샍~ÉbaM9Q2rϜ>$$!F2eI>ft8Ͽo)wHJB~U3vVrQY9;Ju䧕Қ8Uagk0~I_][|OKNҌ蔏ZɜdjUA4!S~ʀnW쀇CNѭhYҜpZ%kfa
$[ɕX4crSoʖ~1ǌoƶVxq6gƍRrM|W<əpk;χ#b_gpx/Xv(麩v!zѪhHb]m!š*@=ZЌ!~KQvwSYM.&V8ZMPsnǟҊϞ2VeI1cV㧮NÀ>H:/pU_PAo?~'濟fLjql`v;#CRi:fv
UleH30NIvҠμɜ~wN%㚧vbg1z[ҭʧz:ˢ#p6[qԫAQAE#㺼Dof,U~#Mɡ+XYLM^ҒOAT?e)1tK)lh,k*gf:WwVɆ(Iėˡbtc.LA8Qk5TJSd[>A[V6sҘFK/c$t)9Mh*nPm(
Bbh9cZ4AUʚuԝhM.3FλF]F4XT?`!;`刎hӓӏa1?0|67Q@娥bKwy@TOVDIGLn齴tx#UUws=M<貿m!塹ˋ;fÿOqGE1z*I^bQ&9<!.ϋ<yXoS[?!qf[sbQoxODa>bEd@1mh
Ry#_ĜKEwawV;rr!ri2Cɬˮ=Yy0LWMnH4%6wbOLU(v;ZҫSѐN<NMy%$gwW?fpc:˹ECn|a<MrGSN(F1Ŵ#fp冾(d:AR>=Om7X9VXYƘg>#VɌIIMG#:Ce]e06>DAs=@
ARvu])Tʏd`>Y5yK*?@ʊ!t1JLg'쮳Xl溶J7cPFn:9_cc<Xf@hOSr4Y!duzkW&p>B_H,=E).䜢異t8C銆nOFk?tR<JF9E>GɔgEǢ驘sNtO9AEDJN%E3N䦽ĬX?+6^dQ6^Ӧ
cwqPfU11~H,!/uu@7yQvr&5Jse|瞳'`Ŏu:nbY<Byw;+Wx卝@Cě)WHOuWw6>J/^W0pcXѻCQ䵞uv*.];,'Ғ3c)젼m>6[LC$,ǽӓaCWRR,6Ԩ$QLTm6fh[e,vhӤS*NLH
e4B!Ə菎tC|sLpFvʬЭ30CwLEC5mv#0W)ӁIы$簔áFhYH'hȫzi.읇=@=B2u*@ȝ0ơ',wJ/ocjĻQor/:.~LKjg]W';]6138`ӶlAWP`)+㭌kWj]:zBd+Is>qƠϣyDÇ!S䎅|
`/yzT1(Бdb(?O!O&OFlь;oy8twmkvZVx侱)ach~#ve˵^_ixPb@SМ;SMW+OW2T$q&5<M?*'Z(87TtwǳzccČORfURCgSV/E<i*t샞]&^*tØT/%.aqB.n`ҋ왨]9@w
hȕκGkzRábdFenaed3jfGn8<zĪ*f>1o/b<MA.`%==)dDEI)>ApUqB盏27.RA;ǯankoюi]bӥn`'t?b/0]yw6rq?>'$zX&0IʩKVT欼Eo0Vȡip잭28tgѩ])(Y!MQy|
71[ș<35eH`IqI;15c7cWR/F^a.WagRWPpz@QOGTV,|D.Gty$[vF7笹q0vom&Wav|1jHR^>ėrj'!ҩpJ9lZ;җJr_bjDbpӛE_KQ,ċXJ:@&IiGF3?d=]s5H`nfCH
V^*f<І[eXw[|[EqX&JȨD_hOtt秼OZftMmчKL;feebtqo!&MFĝr57J:윗dxf(MqZw(息AagV;UzZoϰO0&Eb(şkh@~XHh0p=p^$%*$$L[ium1>AC|d`]ʅIv2IxrQ
cA9MwPFk?`9湳8F듘9&M~uu,_EOK`X)/)~iiW&u_F)vUȈs/*)>#>=*_죟^b4X`<b=PȼrE9AlC_ЧГϧāV.(+Gx(JmiuW*8;6EY5H@w.B|;d+Ȟ,+v1x+G|@2`L'/Ĥ
hz壇aSS2,gy뙌'($xƆZm#I:~ic)'N|wsY[`dnTuiK|Z#wԄÆtu<]_5jö?p_91uFBp,+Ӧ8Q鴏;Fą뚸ȊϖSRBG<W5wZ6DJ_x杒wC.@kb<g^9(ŝTOz@rRΪX!rMvˠ.dL/u
9/*fyɵ+5/C^'h=6^KysdAiR6T?h*&7;9耀4>:`*6]M=Ѡ(s<6Td0(4)_yÐ~ribjY_Q2Ѯp?U'鼗N/7L~Am@ԃҬEcLHT,0C`M|jx>n!MiǄw|8@R7ӟxŹ3kpĦa㵭O[Hʲ
+?6biD0vcXфDF2h]NԀGDНNb~177M뚒[FzC_tWCqT@TAa^GVo'g%5ЖtDH,_S09)1Gc)XV4x/Ucouw9㧣gM˃uO3O<:s>'dUM暬ˏPV0ћkZ)fјG5tT/YȜlOTӰbiMGw
icx!ġʎI]GhrŌô=,?efS,FL[j#2bpɤ~t啗fAO,enbơ12T$p笶?zN=7Nz%wѽ/8U|=v:/+`y!/pnјBN镪)čc죁?zA.o_(A@_MvC2Dˆl~Ӿl[vV]GLpwNVKO%Jw+|`px
v9d4jHO1wIwG1lS?郖gʥ%Nϡ8oɬPr9'(=Ů!ozj頊ДAiHr:.[2cѓ6(gWҮ|+eM(Oig0dXKjZaILt0n$^Q管`80]wMoH咒;6X8h|љ_0EƑG_MMѾ0kz刹ԪVBm`9_r8`1x5
R_㝦Q%qȯS_熎v+hF5tA&GmmagJ=M*h*`7SjxH)'scmT[ÀvyCl:BMz:J1na˳ǅ^ǈQaImƠ5xjвMJˏVcGbtTZfc4Dӗc?^iz,hbƾK믅Ѡr]Ԕ|Bwoѱ付a?dpϔqòXR6z)D!
:1Xtp虚'/D^APl2Mx7;pCnk][%ø/饌Vt72OWc7>^W)它+X#щA6ɠd93kB!0òdu8#PӠH5/[i:A=@6FE$$s/N4BK:MweqW|XHI!pihsʟ5hoHkgtBqwQz@NIDvqL`U
]*W0G`%t돆Me)t瀭%GpgUCQ!O:$:LC[3muA[UD5w6㴄ƚGp.'B%gy@駟K㺪Ԓ(c'w%䮫>Ly4υ>Npxm*>c&J|K%27ŵzUsN9bJKcOxgkMD=LF䤠苺T,y/WӸ1B.6SP?H1g2=
ġT^F~ʄ#D)esŧ1rQ2ƕnp5gƋ#U'akQ1;ZN_Sxa듿h1wIl9=eMMǽ,Z+NZ9SWu>縼艫~Ǎ1?VD|KU+]]zz>(eu|Ҙ&Q/;+X><yuf*iY!H#M跃7篽jlzH6F*OHʁEOIA'=PF
=^y=gIVz7K+WȲhuqcKNԈ갤>cλ<LOvrV^ўs!5셵SLe~+8eHsv]0Cφ,DtŬC霘yԝE8z&@rOy%_s惎hDFUonKD냲i迒Q|!f:cpҺyU~w$ˬBIM_ö蠟urd(~%Ilt~XÔ^<帴'<2
aǤR%'bVhBcRmɳ))(lO!yUgh突P>2<=1ƎY4Z:_78J=g3Ŷ~Db&Lulvsoʟ+ęhh㐚<һuӂzB3ӗ``wq%ƃaU2K^`7i!$x'<ǒeo?裩ҡ)B?~Q@`B##^?ak碳7kMǊkQC<es.p
mѷ?MM!AVgqW_ӊƲ+BvJphp0Ǻ+N|=c,Yf`~fƄ*>*P胈#Cȣ@'b)˵Y$l(m~6>N3cε4~gvg賦MniT2ǅ/b0D48&!~iԂ0y:ZMm舰gLd;u3!ID1ȤIQ2jГp6Vzq7cҋ`6b垄*
`I?779>+AІǦ<Y.YFZdGÔҨ#8EpWY6딏u^dB/ĈT@<O&/Ӑ)Sxǳ!b8TB5);gZMˆr@c`穃66aǽ#M搒PEɕu8k痮bMghY5>АΪwRC6TSP(Ҳe䇘=FqˇNr=OhbGW壅7P)YA/5^*
5[5mʺŁ@/ʇ~(eA+~ɇ=JV7GrӞbƈMHg&lhӊ#JǽI!'?nˏm廏Bӈ(h3^$н46LWˬ?nʙFű(z`:Rh4@[EX%v'n㺖W2AEĸG|;E#NCs잀pLhO_.^Xr㗵[Fk1~BwY)ϥDǋr8$5kU
`0S%OyqmSjhJlAĞX06b3WΥQԑ$K*^Qgad_*],M?+#ʒVcTa.C:Ap~aO놓=;FtPtSpfADjZ+Zʋq:`@.*zDB&mEflѰƤ_?$w㙌ԧ>?RUUA,Z汋WҼRCxzJ*爬l^imġ1W!A
:NfQSŶzK,뵎%>k^9MZ6I.%U763R59w5&3Bt[a.v)ɎmI.GE9H#ļwK[>9@4Z;o5<lv11'1O>?6SmAfŀT]kȤuB>4ӑĜ$ԥŦ`:0f)A=&jk0ХG斈2elS/W(2v^.(gYzˬ
]Xd*4U&.uE'zr4DC&Thl/eIvjXb@xN1zļd^ǌ:~]D/@JvMm(/3O>l?i2>Q*79]虒e7ӛXhwʛ7pЂW68^?<ú/Ľǖ.ʘ<3Y.3Qb4=sk6272[&gV9_VOSM'eÌ>Ӿwq+(5
뿫G7Lf䂧j>(Ѡ[妡mrˌF@^~tCy,˕|oA滟ТN~P;BǉX8'96CLIVi6>:,~0n$?CZZbDzAQi!f`@3([V?>ȌJgd&;l!7cW>锫ph=o88鲽@Vœ$œ'JuƫKHPE!X)8˒랹篮]ɡN9j貗
5J*b!쌁KJ2XLSM:^˓6=(.&Eȟ^bu6>,c;,әaZ@yLB|VZSMp8I_^4UPl_jjzwӋ2ZW()zPh4`b쀁Uđr<A'xG2굫XPqheӬmS]w~Qt緾pξrjoT':vLm>l:9~y|#X3L>z
Ć^!'蕶;Y%M蠭k5C7`8GHc厕J*rSo!:VGL˧oPΦϭʦS/WUna)ԣ%MLSc=5jjϒ#WZOb?=k,/7v`va;d*)luƳmb첕UiӜg@XLaWlE;7#ČX϶B.oA3H˴;)봳m`쐲HoWBpYhxŴZ
DH*Rw,&>>luSg'`b^n@!NwǧNp#6q&53ky8p*vq$Po!TIps1CijO/4mvYUT9~<lAuŅnF#Rm|o7ßûƌQ>x랫ң_4*!蘣奊,%Τ'Q[c.*+4/apW!Ć<y丕$b9<许sƤ[åŊ$Ɖ
dVAaPм$uV*+<^*#]2G[jr^.<PB3^uYAAuėlrw@?ðTf|5s]q*>:'SjceAJ@dB,Ģ7!F>Y~|j@5uTiPeyVe#ó滀v'Ѳ`3cw)BоGv_y5Xx3YJ&BSqd$>Ev0AZ;V=x
lJ%ZF=lYBB(p/s5[t蓊gUfSTѕJ)CHʗ|Q`a1L~;o0!'T%ʂQŤ[1@Ÿ?ANM?B^(;Ӂo!K'=sZěeg.OMNbO:(d;gE4%.O_ð@0Ć15m=pDwqK2gC?'2]g5nOCJBԊЖb+~
r~Ϝpl`k?XMBwiDF~:opL(ԣWV,lV6MXK((H˶:#Ǫ5/LGIL&nnLń瀾N[h_E=w㣐qϗjI.7>3MeVC`~˴+Ϯ_/$Sc+ơDi8()/˺Hz>4HH/Q3QJT%gcf:a_G@+쨊0RIxF[e
##;kDN.ɪc@TȞg~`r:^ɚcBOňLEgg|5gPqT.b鷂:avJcG2ɺ5Ӯ]I][|Cc1F짏C斩>b輡`w&I9sw>L#/Ӏ=.:AS(˪sIQoe08w,__Nѯ5238!w/jƳ桚m$F맓<$TWNq,rl2SΤ
H5ԙP<3%4RBKHwz2gU~ʐƸ?|ZiV*pZ|6ogh#˟5@5F>1*r/]3Pʯ1YE~[躈<#+d(%OVzA(sw7Q$(jbv!7GX|,qR~B.=;'RzfA<QOȀcsʩŹËX3>6hϸhƭUOay%W/dl8
Bv07YuCaSS(护ĐGpB%f=D2SdOb_nBL@K7EVM9sn(MJf/Q45rӑ/.;GpӪĎdw3b80g;s|bҬq0C겏5d壳0(KAыV/7yC1:lBGF蒤)+a(p笛1b^edgNkKpq,8K^hRC||#˛
m=/37.ȗ8b1?^%I%jg9$4y䠥=I+8J#hu_z2WyN3czqDDx$cOIzWhXƧmsa%5)쀛1Hpn+V9<ВfVpҏԭ;tcV.6ԣʏL3/Wʄ9q7l.i8花?B<rk:S5s^ǵ#[_|ˁ;<2KāU<iS
6@rlEnύƿD袋a59<|MDAnO(e<BwÍK*嫌ä>^k_iѸ^CnBLl슰zlaJ`ƍKKbgn+R䅇m`An4PaȆH5wr<IV~OLzw:~cZOо@c0CZ菪=e37ҦV'=ɍϮuL6I>9uPr]_A@ůvc˶Y0%
<W'u>e~WaY좨P萨/$+__ǽ鞺Yʦg(lbVNFϰ_ƟP=mHPKU;YOSKtyAQógɷ2D)˦k8WnyĐZ>ˋ[ПąOgtB<ɹieK'WS1z&t9uʝ+l/緖ăov44sipaKƯQ~Ơpϗlo~]<Y>yxA9Ax
P*:Ʋ&E)2eHAx5U;V6$]nleе)ɩ!wc1Ɇ;4!#OXq˜1ϲTGFѻ^u<h%e;'5ǵdlW^a#ԀHŹ˪iBҸqj+8:)xmUW)]7]|mov)l%X*䴠ONK柽ƳxT2|V4m)Ǥem[No61гi^δ.pZ
邮qgϵkXM'm+/Fj6ʍqϠd?'4䝡Ʀt쭈载zĨPq$(GOfX:Ezs_/k`6rDu3=<EVv1~SAT3##/KeFU<)IjeĦY.Ÿkme1sɱX&uo!FKrfhtv@vtFϸ6t4pŻ?&뤎s6nπC2eш2:9?
[9Q!uNҷi+óz?1ҕ1y;W=qLY0@[Z|a䧓Lø鍎+ϕTW㼶8nns>d:ƠM)&!&0,$(&3KK_RMB(:JV<ȬAP!pds*U?9g`pðgMb>X/TiӲ)5Ȅ#$Fz/YLNIgFpHXIˊYt4BDҎn&c
dѿfCOȴ徐[*QbioPWШx胂HDǞj`c5A/=Zlq&û6<ҧ(*|#qg5rY8a~o)镞<=(W0Ze[c7zmj닖d*~.^oǡlkMğLH˝'yro+G2MӆI<傘y=@We<AX#@%IQh'5M7t<ExSƌ#ɻrG
6u4<a^?GMO=N<qy]7.Iw_vѱJt/KӍ00Ǟhg9<jûSTvj臉Oodϛ9LXhEj˙>G=!oF*FY.뛦fdH%XbSkw9Mm'B玫E@#9,c.^ɿ=zˁq.Ry㭘?㳪&0cT%$Ѻ!25x8bzg@>J3D)
Fc=|&Dxox000~ϗCz6#ҵtH3n믖G%_L~;+*4쏰D;%!A`IO0mā43z#7r3ѕpε3CtqO[rԐ9ĔHI4@=WWԕĂ=Z,咓?`k>or䰰y<z燇,qeY?u2Ǐ%cǏMO>nNơ#єYW놲i榎A_%ʇZ*
k]N;'k!io.e鱲yz.ĥwqTmT8ʿ9)cǮrmvl:#t<K˨_D6蒄SJGnhItB_v`jV`]t/?UDsfϦTlW1_RqñEɿ^i伎]_RҪΩy#˝#җ4r>&эŠX2ԪŔ4521|(ǆ6_d6Ыǅ,Gɍ8`˹/U=
l>|tr'R#Xh`lwzON)fatc5A.o8IHm4+~E(Lb5*nʋCtQ~WZBv+#T稩ch(dRs+sa'>#B@jlZ85^1㻭C3ob3m#]沤~YCʇ[ɰϹS(J|h!ҪULč!._LZp㡛Bvuoxe@lˡ~tg
/i99!쳅v.`Z9bĲan,diM~~5P戹ĘL/ɞ^^Ϭ2M_9y#PuHdİ=M_kӲ'ppoL;;ўTYvF持`鐃DНI99CdLB9%ҸB^:#ʜKq럵D1KZ0R&8|9hqt+mJ'k|üL2EC䦐[`AEXQ:]J=q+
f*yNhkE86TkMJ0w$~:<2naU%Sny=xU!sEgV=I9h^ʐàorR$'hViRy.2_úв@|^?kpD&YP'(M$mj첢7~Q;Œ:wi*yU;aI`(~pіʲd@ZCYWR>hh&7AtK2өL'aaM?]e
@BUdo<kVF?˔B設F;e`SK@2Vl2!Yhn.牑淃c`uOSYOzTR硰[&XƒŲ/Kosj<Ě',lpDQm0fOJ&0ūƏgrU,&nD,n:61XJGhƲpL쌅X3qR季Pk꼖Ԛt7KQW7@ecsDUL;I`S䐙O:U
ErԊ0ґ8fS.;>'_1Py|0#gF=4i_]oCIz*爐pEԦ8)JGvѬ1#joѣ!mPnK?f%1,q2Bdn0k>w@kHEJ虨ˢð,Z3ћ/jK0FĖ騞<b?hIW1BX`@hÂxҽT#䕶hn>㬍@|5X#kKP㴅瞔GlI
l]lƻ`έ[/@?<.2Bc:#bA)2Ȋ/攍妗R0bȢ8mfnAHF_Z#x/ƭM7ME)#'gm%aңAXI,OH&]<+z'_u%zwy8k^5jR˻əEGeb0yE6nIQ_w/(6f+?t7x䖯)kMMC#?*jJKuh?mU
pB:1*NrЁ?e/).d:6E<qZρÝ]Ɍ/3NF<7+7qC9;?Y|BZ[8rDe@kQ<*虢/[Jar9ȸϖĞe);bqIa1h|@nVm#쿏˕h#9KD<oѮQDj岨VwχkB9C?>fYrgQ)䉫꽋&!М#ӹ?>ЋHqsZ
iK`#,^[j>uĿkT[DdEý.jpˆEӧ恨Jas!><lLX0Ȇ9R|`Pxu|`%C61!)Q(eζ>$嶙:Q<Vjƒ$nI1'#gB鱀2=p#9[8zN+N>vӠ5'b<(D1eS*ӰEuD?>AL_nyy?(:鸸9rNsBl
bAJi|u%Ӛ(앚Y)<k8XP2$^yuaAh+^쬒c$2+ʎL#ҁtO@FAUŦrė)ay%R䵽u^R!ht1ɮox%8./I2P;.D22i5lх/f1%1公pS;Oа#^*zkn61.n캀㒁+]vHo|.蔎ƭslŐFj]CPʧ[
F%>Xn[)FDMt䨾dfT~9Б`㒫Dο+ϧg#88싿a^x7;n$fs5jJkbҩJĐЙ'at4@;wV[7(xDek%[I>&AwƊwG4/vLI書Aȳ衭~!s]콍%)ӠW.KP^Z9(ȃir5JjHYEx8Eh,oxmwBÙ|#
c㾶6ɭ,5iE4y;)*EIqFeuyIB8sE8/VLExd>.=0xuo[mʴ]莘/~Ҩ.㯰Krбlnj|_eVxOI/:Eu4W!)q09v<ѻQ0X8N%9^odq.ћ2ht<8ɱl`39)TPDddCB:No叹0/2oȏ,;)
I;Q='ӿ0EWyNk,XAh.㞑C^Te(OWk6/u$_|ǰ0)+]|(]Vvu7/ngFo`ypԁPzƂgbI$w)o_0X_Wur]]A%ǨԨNq74i>zUDt,ơAYȐ[`V0H!Gz2r<ŶdcPQT&`#bLJBYo09
r*^QeŲQơi%~)uƮ+|BoӛT$+hêB|ɴd]ywN4m|PO|%1Pyzs'j85Z(ǳ4um#9渓(|:=GcƟZNb1든ɻfLyЈ+üqqȸ=s굸eƮ˶r_^I@+PN.o<<[Bȷ!d>eF3P4o;BpNJѵAɿ7T
яzgx]%,Soh/I%>/:`w4ADXgI^ҫuj獥BrK'@>h[l0Gt%~_ĕ!?@`Vdѿz|Hl2λmr!1yw3vV)+DK5č&VEKh&ӑ$gR*/Tѓ6;fQs5E/ȷWWF,u@.!xҠ3<Q&x奵|HkÿsöR
H~urF55HdlƷnTkD6k%@3mED%6YKk^Ob@[r=8')nC蒋GX|Ɠx.o'=xԧ+NŻ8tEv@gRDW=ZtSd4=,@o4;%ҠU*yɾ#=NΤʅ!S$j2_j^h5&haP|p>M;s!銓llsSσŴr>u$
쿯Қ;`~].˯]Ԥϵ5gvgIKcdtԨgY&@QX'0Grjʐ8x7n**UmSA?!IE/I7S<:(KbBoykm)ԩiìY$쬩2&^^^qCA/j:B룿ˮ<E5~ӸN˰DsX'w*E0,桐ƈȐ˦]!6q36f笹|&!:JOȹ㽆8
I'tJԔG>prFP>C?3eĒnx죉Ug@f>s梖.?~䐺lD!L/nųOTO3+F8c01:[&;ʺ翴94Цc*WF!L^k'2#硧XZ6e'`OI~@^'цEdWϟXk:]MXi@#ģ/|Ŭ5[?O`úCq@+>H1^'..RU!
趖|U@骊)œTMs.lj6<~Zţl;^cRLѕ:$a8$*藎,h|Вu#Ĭ?kb*(xs`ǅ`FH1pgɯCAU2G(U^Xѵah6ƪ[Bh%g%cldnbIfhGJ0Ѽ).m8Ҍ2'?QL簰H@춣ύ$T:n+ïCIby~y^S^JC
%ԙc>m|фeŁRyu)S=x蜋ӧ2=J^k)Tsygm|@δ+h~l;54@l]w*2rȜbU뭏yhcJT<vWm&Vcѧʬī*DMw~RPp塧!B<!A|HODǲ1%V'N!b$!Ũw#[O*J獗>_B*04pQ%D4b/:mEg@
Ԏ9l:a0ʻJgE`[lWCMÖcbrgԫXeTnnn6Ғʙg5>䟋DОҦxҧ,Upu)k%zK*$;TtF7Ukʿǥ4*PLjżt<ɯ(L^>R:q,Ń嗪^dbre%鱿>7靱eF.<lWy(~IdD5>KG+8ʶ=>heD^wӰVRV
!3BQK=5B:N<%/TYZ(1pϵO&$%fPX%#Ârc5sZI:Pg^ūWPEY<(?PȰnhӆvwD砆fFTL4x篆N.4gFp22䧭UXJGp*1n6iPNu`lm!ri5RS7V<곇<H*u$=8dvg95:XrhӮ*J+
C:x'Ů1KrtH'Zwʓyz:tǥlEɼ<댤PGyup=ELR<2gʫ34&%L.ҁ<b]sDAG/Ð~$PN.)(g'R%XFv3j^Pбrwc[>Ϛaљά%%I:$`($;&+F6F>ԨpSo_Ĩ#m!/hnQ&'.K䈔bNvWS
wyHv=C8Ƈ돌h]=eƲɑ'Tmkpq7f`ӵҎKjqx<2Qeє_UMq_D,U1$[+0mwov[~A7f)Hӣ,XϑX+!6U)/E虌z7ʞ|3)j^%KE0IG=*A2uA3[ʏnʱ=^2.P>rR/kqǦEn`=!愓K,6B
3鼃VAd;>RĈp*n+;`4L)89RTsR/=UlǠ%`顽<zIdF5Xxul%|t]IK~94.%4貢qSCI0gqkp.vWq<qbgV!?t~>ǡAǖYI6:>QrJɁM䐠G勸_+HgZB^pv1QЋW.*.>)6qLSmxɌ
(jc1ulu.FcUv1밃t$F/%JX!s9!蝓_4R!쩾AG!]&ʒ$dJ=˪Z7m^dUIc4U0YGd9@F7|.<hdl89oA@ǟL(P7.&ˉF~,qƻ@ɏXgJqF!k2j>He+B?ҫYos셚셍~X/龕0|$&|mj烪
șx5Nt$5`m;ņ&>~I[BQ凙e<wVGywM(Boh$VUĳxqd#m2`]ɇcN^T$4jњLvƔTnĤ0氥)Z)=>dud<1Ȁi`C11:3A4)q&$jHO(9V~d]:d^wW>#Kjg>cme숄&:п$K&v;sOl
m9[I5]7oSp/aWU*_,,p7dҿRh2eV$jYк+;Ie3vY5Ý^9bт!V='ѨbVn˟(QѐƑh<vJfk˽qJuav7:b;3/D/RDr4vixӘ0S);tLc2]2R8>(#0]%r%wO>M/H+L崁Jv&&@
81JЀ<g!BY=yE!xɦ/XSfd%p2䩸4;U3Ɛ^I$堢zV堅ŖjJ3>UUL8$X4<1<F粺kȉaM0i㞰S,6ҤoXuouV対+KC?]ndWӌ&oqU)샭~B槭Pșq4뙖ѵ<f[nPdÃyIh$gB,+CH|W.ƻ稢cP
%9_vxEȩ$|L.k5Ģ0(>8KBѣA/Z(`K'=#BlXJ2J4+ks]UlA4ҚԄf蠍5煔&3LEGa9?eԂOaq5]D+Ѡ*YE8化eЩb&1쟒/ҷW_V+;ua~L瘴ZB6M#BED:*w(/7S>dkwxN(v]ҷ&Z
;3獂K8Xι!qAffDǳTʚyeӌOR;/Xqywn~1$KwuӰ磊$sGUrйZ|HPW0^7<D?wdѾjL^7038粤츫w1k91䨺皳Ē뮼by7V>id&o#(K``VD7Ԍi*:MoW7CkA6磵Q7=__zвȮ3PѸ3W,Z
G>q(8rw`c4G4(WVъnPB:@aȗ=#UrkG!HvYKaOAkQ1V1Fˑ.*p!Bk&t(1W93xXgтcё#g#KWA2zG|WǏ&o_Mf=S`vÍ1zm1MY*GҐFmQ˻kkw|??I,b*h)bӜt4чMqù5
ʊ*I9ldg]4$$vTПb<sD]2ĺ7HAHKioW^S/~C<9ä!U3sÐ2Vx*&U&bwe>_hEB|]TO%J3Zt`c/~:Sё,'ǹM'ԕN)Ќ4˹kyO~x[ŭÏCC&Qq_pD]9B7ɊsmCÙd$%頳^up[k]
1DnY=eӤX9ǖ싂a$WS$u9+Wƹ+txiLh5E$y_ùqxcγPk(N2J>]YC4%cpi%Љ!UƯҋB%后ѓwEbR(E칕kwQX;_XYj`62yeIe6V[m|e^JGIJ2GJXCpI뻗E.D*ӫEmU2?˪M<Zt
_!Xx=I1謦Ӡ'nZ.ym9eJkcpYb5d똔jL+)1Nk=4g[$rHBCsFgY67~MyZ^U%D_SЇ0FZ_N*7pӝ^_eNo`'UWHyK;*`Ȫq3SNGW6UALbn$KX!O<Ƃ'㻴nŚs<UbO~U<@AC*
#wr_x0/*J!>>Ēɧđy|tqJ蕭m_EM*NJXT'B>[`r&94UȝòNV*䧬Vkŀ6_C2YZGpbYkiЛKVr#S%#HIYOW]gk$|<Ǣr1[K5G]mmzi8g8(v(Uþ5FgStO@Y*2[_6P6Co#i
#*Ŷɖ䟽v:F!^Ҁ.`A*jU>qFCze˖~TY?XCѷ5%6(ωW5@VA?銐~,|欧goi,XB;pўcn옪y쇢ϢrDnyxBRw%^)訨Xn9õh)SA蝀ĻTBÂ!<Sť(빋K邊~h^;wCYBN^x<0AXȘ0/:o:)?p
#V]bwto_:>9wŖQ玨$#r/(Z!6票ʲ@!K)ý5CK)J6#qR.wp=㞛]i~D[m[heLO3_(8ss?UvCg+#38fQNY11!6Y䌣k[wY%!C杄x$zMloħ6O|yҺq;,/%AccS[䷢RT$(0H1B
3éFW!IAfL'%~ˉIoS=[f_j0.Łdc胁'3o%LG9><%k;f)]ıhBʿhgqү[颣~?qˣ)o9t%e봥wQ_Hơ*xB˙XJζmoԮhXδ6ǂ1f|>遨T!ktA/A曂,nұ%+Sph)vñrB>G`0PU`9$l
[BnPhNZN<ryx+wAQGp!lROgӰ5F$yKihb*C3$#C晕#1VT3iuj7ƛm,QƓ[#*Pvi^qyYILpқB7Gp(ӕW+S7rxwԜp$[UT'0H!ѰG%D7Y8^44G2%NQ!/[oqrI%CC4Y$7
z<@gY]Zb~s4>D#d0AIz+eċ)gfRϺbvСMhd;MBѦ=E[)'G0!KN?y[IEĉsYhouDǷ钧˨c<AbE5>T鋏|.mFNʶNə0,_L9Ľd@K,Yɡ>_?_Ás,xJ:JAB=|gqEoB+8HLzr81
eâ1ùSLmLX'&Wc摻D˟Lwy9(snԀɬYMĨ7V$ңm*t/B;|60r]azǊVYDÆ7wVԃ7^'yE$V+*Si.!~hg朳ZLPU`nraßdã~NgI$8:tъYmT5$&?:юTOw뷠etg;_Yˆf1InqgůQ
KDV6BTU9iR!FYЇXGFȽMƕ.@UL?]$b]`PʊIXTqe7A'eLOn3,.ϫ!j4:ZFi_H/Ŀ(C*sdnuR;i)PY~,#EK[d+њ?xf7G04e2Ͻ;)X'uhNLԈSN|)6M(K0ˋ9=;dpsCX:
14's5㯝ΰG<+/[=%D6J]ly7yO!$ghnJCD녣㹪*756qO蹒M|^iNWTwȄ'N㻡1LŎ[Ȕ*8y)YEҝW˺g_o*^ʦZGϯf`K溢ĥxԍee追8,0/4s䇰b2:Xn9~P凡PFWL8+.qB歡hD`|J&kE
Vg=t젧5;)d%MQ2lhTz#yҏw?㳦sӶaV$z5dTD(FLx)tN:#G4Jќuu%YUj00+eCϜcl2e6c_ΪiTlK<œ2XB4i/J㾍8PB6yARФ뤜e:=K(=^f&dvE,Iz5WN]wUX#_MP*Σ,L
]]9ePA1掤6C]ћǳE/죪VgүbZ71Ă4г`pЛbhWôsOѫ멜q4LTcӾF乭>g+<vy[1^췙^ǷHA(ZI~_0AsSrO&'1<URʒtr)8缟?q9^UL];QMXEKw3ɆKo/d=9a_+4Ue%yXf]z䯐q]
L6LUH<JL4`^D驏ʟJ%ZW4pZ;r`2Vm%6(E`gz,nj4D)Mf#T1UϤ!;_!]W^r&^!Qbt!~:Z]fvX'd?r'*ul,qW_tpǇ^r.+'h67Ae<I|a<KORnbʤ!V#,k]4&V/d,yB
^+dS?zGϪo,㼳9#'[<(D><Di[.PY5Ҩʿ30~^mht˘dzFpM8(%ŧsva|ɛ|~Qgy=鬉?yyeSZb#c+Oz6VNfx*纀j:KA$Lx)&;:7`θ;%qr?]Ƅv/BĠKO8ŤѭЧjqIYfNzv~+%
c/^BDD/*6u>;ZxKyt䃄6GC%];Zɵ#3B7UK3ʗ=@>NhЉMĐ劦Ȯ_uC/]|Ȓ<*ɇ3UƔ>hѰ;e1EO'?*J<SĕZ!dqugJ/`eɧ?hсlÓbf1EZ%!@!Wm17tlQѣ,K&B7d8]eX#MMZ
i|3/~T$.JU_usK.mU|ɨB(Ylʒ^u㦔X7a郤~Ú~xgKɂb(J:瀪Xy|&saEi`.1#*Ļh=iD*kq`X^spSXwyAl~8<6@畭28z楐<(l(g5JôQwS;#msFѸi$<O[)6V譅Ì2P$[5'X
`*=fS[CKt1Ƣ+CW@tv/`ET/'KmDlXQ'j/ro;R/gU~y吸ν31䞆жҨe2SQ,_TzvxfɤOy,U!N`yr^T曚*|T7ilnj;j.mlӿȓKp5<ɨ0ʔV$TǻG2/偢](N%;5=H*&єyȕ+0;`
v:AbM+Gtw=m?Ӑ/<w.jo^zg9`ҌpOC8&n#PB~h35ŕE'.T8F7肳*.Vwx샋/Çhnge2Y_0(Hg41D4Z`CNaFrEd~7PǱUAB_EKMO,LhPB=źQx1xFDYN:^hQ6Uʾ&q@腬hp
;rWxB]2b&jADe;|䒫MĒĴ,k,!Rn];x[%o&2ɭ6oCbbKA<Kɪ'ʿENP褲p2廳t7JENBtL<K0#(2W:˄!/50W`wSLjXpr腬ƩsFȎYC#cZ]3r!k~.DUZ3LвůFpx譞+f:'ƭOϪE
3`U%_RG+κ;3冹W@60Gk7ir]엯2D:,2(ҿ,olw`H9f7*o|*wSJ臯UC^vnb#;BS@qdhI7ʓKǷԓ)fĴdi,hXиwx2:x=lqaN~'Ƴf5^H@ʬpX)I<ʧDtjBK>iHIqBKa,CoЮf
</Z_U4T?/w`^aKŧL9:eU订k$EN(?d2tkǺ?veԦίDy2]Ə3o^#hg(;襆#Wź'ZmV#LxÑ2䦬b:oBwi,1`>?.37qqKO3^@yqmæt5콰^ÒP@疈lguҒ津ѧėXZWF5~l50偶%ʢ$aX
SXW>W0AR/ztzʠ/CkhB^xÓ?,_8dE:5їueLV;Lm鱉j^徉[oůbGοxZWe,_,ZeVU,ggDʮlqX$*_q*~JjѹҸe=J#DB58UY9~D=~(UM0P#wʙx䧮b|1|3HHhEQ6(W/%S㤏ϙ
Ӷ97yȢɄ0,=<<#o3B&iUpMVJP*.)c蓌Ǐǵ6eʊ罭M)d@B6*ЩkCQTNDC=F=YS*!wԨlRʗѶȡs뽱'ʐĮCcs=gĂ=BOqjPO4eˑFA;FQvxf몹o/ü@nt>Ⱦrr~I&xx*!,3.@ȡ#.쯌]
5ǝUh/vbwl^W**0rjf!3uҏOXtJod:FhuZlP$:F+Ht%>Y4.5NuQIk[M,QҜ_!n9yU6ĕGCgfKMəũ^/nI1Yfr8Қoqm.O8WZaeGcхǤW%ϭ8jn2˟T峔L|N慵+iɟpI/7,_
HMxf[L!`w1Hx7eq9<@W<0+?j1M졺`wӃ,aiZƣi:JV:^!EDKYw;<|!*5ΰITn?ŶS1KJD'3юA6J`lvjzmzZ%(B7I&蘒өP4Ӊ*k5ο+uA@7CkƤ4.OIufkP2eE˨Uq7qή3
|k.1Xƫ.]uw䠭7ž?a%1y_C^MB靾!4ǰli~mʚƺ,k铋_cSE9td0y˯N&w_;TGuHӵCDf㮾sN'ҎsM7;_!yY%>>ʠd濁Ae`є8ɀŸg,Etag赬dztDmQt$A(9ZA%fҀDDQԊ션䄫D>%nY
y0Tʮ?XrȈJ,=p6%0@8k!0*5~%Gi(:*wZ+,Õ*B=XZD`ýiĺ&*쓚GW0灗MѱdKʭ5j+Sι?s]>`N,?JFʫ*b/D*Q肇86ek|!炔^[xTCNĶt'ē^Ü+K@ȾԯZI$Ѣ!4rÃ@>~~6=GO
]]uqk_+/R,/|'2ZWѻKY^1;:KDGvq*eYY晌夫u>kA'N(?9v5n*iK|=/(gy]6Ƥb2UG[96cU]Oh*d)DʥgYts=譻n$F(uciWJ_EV/yM?XnvdrU醗a.8HYa漜nS3uR;fW
TW5ŎWs/(2(]#wpQy@˓0qv@X.Ѱ傦>5v<@偈Ca&/[뷀Cp<x4HM<uxgtQo鎠#Ћ,#rFDAq(%hҦm0=^ъ#^PѥUF,QC.hhJK?$皱q3($u^0xEˮ8zQCs&&)Byʊt7pB6EB~|j
ԝ&U'`棹nxk3eoMqSȨm7gl@[^sHj'˪)q*>yRU.4oy<,묇A;=ßAew癩!ʘ^wRЊa)cʔj+T4H욧uVUz||d^U$q:4#dT/fgQgԄJҲcb:N|ǗWe;e<EOByqw'<.ʅʼklyģaC`
kgqyj+Q1nFlZhI52]KW@1tx(=N!aMfGkeKNX㹚g:?`=Zj<dCb,녦PAɔRz'nzvApķJIhɅc`:k)C郣H1Rr@TVI~;Ԛl2O6I6%)7uYi8&&;UX~QM:'qIËX>fVGIk!d
;)cX%9UeT[#DS[;AJ)L:U6CϏiMKʌEMyQH8kp[J=gq8>+7F5yCTh?TΰbHm8(k櫭50hp8efV5`LEa=8oEmC?uÊϮr~oІ>1b_dxw9μ$l#t^tP5y鲗)5wnðtVÏ[ZTC
G`fvJx&輿;9DisWnһ'G[9au9!BR8av;v<&Z2QoY,%.ʀtRl?ˇ+a*m0gX_12gO9:KEmzQSėӑ~|lȼzg窷䫻c=$EO1ԋp6rLU<o.w]Ԫ6OЁP@<6ϢF<8ƽκ3Jsi'qҌ)ԜQp
0Fmnh.:1f15Y1%|fcskӽX|&!`ruPjq4T/_mWh1F$έ:GPb/S4D~#d.IĞ%U@#6BRHz鬢7o05c3JqQPg^'A.曞5u~aQ`Yd|721u6TQѧQ8xz3ɜeJ~;<XE|^yѾ[vϢ=
NePEɈW.ÍQa~c0qHӨu!BAULΥŴлu<bvj_CoDVhE6ѿIg5)_>&h艈?џlT$ȯ&qaŒ,Iȱ.Ȥa_?[~$HâeUg'8ZKaxB4*mÒlv'IkLz*BN[56_ԤԯC?zeEϥ䴹ӶLe~_,nǄ$ɰV
N1TJeT2Lk.ĭʆAVBuhbXZ$88lÏ1Vr&eYhE;$VxQʰ*ŉ>8Y_#e&Ԓ]x*+L$yJ(쯸/rczps[$ge+B뜛|kǨЄ&2k2Ëc˩HK[E|ɂC>>xpBS0;n&X>&|Og|ł6Ѳ$JW>券쁕&X*
H尢hj'jjp.G=1S@9Gu:.ѤˢT3M䃓bstЪn:owf츭2q9䡿r(X`VQvK!N.ƍby6n^`BF&[.콛~Rj4lQw'UЦm齻60</$Ѻj0JӶz5Q';_lǷϗVDRo=x䘗+HKJvshZ=a<WB>S;X~
ӡ),U<Lm#ǣGӋ䆸g6Q[fj.7o(˄DˌoxϫFgIe>곬;M]tKPv(AS%пGyT1HeǞѤ9R(vJ?L'2Dvq'iK*wuˆJ言tБ=iPF!tO0u$LO7VVKeb~l&!)a]gJoN8ƕK=f]FtLETkQ
|#ҽӓԙl*y!л摚$fʀ'ś|XrҟZ]XQ)cWf|ji3Xvf=o4MZLF3eD]4s/O%oEAi#~|+AMϲq#騘h>AҾDdVX=U8_B_.za,xlEθU?px2k[PyTL`(iw0ƿh]zv=M'3H2=V`氵e
FKHIƉ^lYɰQ~%㨻e.kzq'oMn7Hyia˱gZWiY`et4˙Md(Cc5>*9ϵMhFaVL~Y@|!$rmɔ䝬EasSA=QFr䖊mD5u/yWWNTq|ȍ,cGѱOqrӏs7Ga<s#d2GIjŤK氀Mx`ô4Vtfg
^Ԫ禃>gxa+qF@h3S˛fDˡLQ'y[X02ʼs6jCM,yhj/l.|Ul&fngн5lP?4,QqLQiPvM)(Ũ>˹_kωz3/jgoWnɴYUleY/lzYb뜠rŝԭ+4)Wl耻r*䢞TY5[*ǆZωdw삈dX&yƑyƘ
q7B?#NtO|7>N鴓3%XӵSHJv~ƻ*QKypf$DZ2SG'(bI;5G1ˋGN7SGK>H2MiynSM8Au:2qKqQ(sQ㗚ҿ5c/ZboCRTs@iN[oLa81^ʞq8뀑2ziw&Gw(ĀV;#GĶ4!!映I'?o
.!Z!'rJ_6G#1Ф5ŮL1&;RusЈVKI3fSXkUH鮱2'/T,vl痣D2cϩHh5Pʬg,']R/%GI5?z:7뤩^!.;t@r8kH!+a9yk!NzX=:2X뾒M`4돪8Huvhxː2'pT`V/IȰSNA8h;9R
1FjETCOjuXh52UP7˿їSja',V,:'/źrv姷ZP4qI32婤go?4pV$ϸƶ0=.ZC'눸S%D?=NUѸleuwx:dJT鸵RYWw돧W㯌Lw+N`ZUb6ZnˍĽ匑tn*;97JTÍ8&6g<^<o6ekD'Bm
?&妙g'd3/?OǮ2^!j[.Hjw75UD~ˮ4Yi(y;J5>zg8č|Ѓ]9z^Q,ye1:SoP&5t!CӞԑZσԏ㒼[8)u&?H=Ǐ9섛^`Ӆ.9n#;|#DFx]A;qj|.T)Ħv'yӕ䪵%F[jF|T2>^Ѿԛ6r,
hȱbѹd!PQGJ5~kɴSw5rǠDe塮c[˴1RW[pnYCh,.WP?jT닺~[쫇t冗ʥHYl5EMXk[/ɫƮ?t$Ϲ,t;92DNόG]e)SJD3FXlJo`tЄϩ81VRZj(CH+YC*eie_`XG0,_Ж9[gL庩$
7ΦUFZGA[52V_ħ9,汅Yrm~*cm?nYU|揵a$K'X@N%,R/yϹlN^잣7JEr|ʫn&.IbpEBba?,HjP064ewx|Es@ȣg7˵DY)7HE@W!RK0?м:#c埀aETG7Tb^i,o[B>Ful$+穏
|iHM$GRUţkƀ51Qɇuȫn;ƤE[ǳ/qЅ>76X,PG58Ј`X釵Z33x(B@T~]G%lG+0SU]˔|.<a%ɫKb+槀`x0#衋ҷ_SZGdeDFDt06L|3ƱɈÊ/,ɺJʾ0K(,穈+2䠒t#pMMG1hǨVKt|
uAZsWtf:NG舨=Ǳ+YF'SgB`ϡzd<e'Á?]Ano`L,_c0<*sL˪E4Ɖ`L/bZ川uѿZR9ǢjY:<VA[XX㛱3C^!bĤ0u2NQkFC|[IjfKlW궵os8㾊'LAɟNI4;d>aĜ3xUDV>ԢX7]/
]Ϣ8`^(>An:|Z7rKq9h@!O$1O]zB:žJFĠ%˙Òsu/'#ZR]soȴMKf9K@dhwyQZԑ/ҘbrE%?&zfʳ<èS!4>櫂ϓdD)G7*ҸJ꾩lӿ@toh_1DCV5E7#1RYBAhcЏw[!d_Ĩd70
rtN>+o,6奀0^Q=I@#wŲ94PbX`9蠯8t斛AM+a|Ȏ&E7<h9X7Xu&ro<.q*K*|ɠ&&æl:GY;%@J,`×Ŋ疸Ϥj_7q2|83!Pn2Ng@<r;P'f&^>k~FB&>oyg18>跡*dA*CG>5!
qY9+!_]c_z&=hƙ.FTh.HYx8maYKɗ,˭w54~B:8RIl2üwlo,tUqŬ~]㒕Gxf?BWiq3˟gqqZ.m!bN^ϤO:1)ȟ@Tc/鍻Am<):Jd'ʠ;˦黫7˸qF:P<ITB6Ȅ.;GeƅP*5ZM?
ŚNTxkqtG/˒FXx%˅$IAbԨ`.#n_J?Ž|i:AlhdhyӪrZHY>?$(@^a攘ŜaU0dxFMG+lgoâɺц>.ƜES[^0Y_H;u.Æ.Y]ěômt!>%rQ`ӝȤ472^fOj<wF#c]tQŢKl?2ҋsU
QFbRrV7sZq<垉q3,x1fCb3a]YSt09n)3*M]6F!D[h9vnt)U.XYi~8&?cӕ[벞yb4H,qPtz~9I6Iǵ2Ԧ느=#%Ƣm!=ѹ6EihPu]H(aXӜ겐ushh:Ar2B%[5x5+f*l)ʨ;&
w*~S_wc=jj1OAS9cӬ8GwK5k6isM)'fKYR6RG+tsUtCv.[:ʿ+5+URǄUMim6RU!ǿcʱƢ?d]_msA괤JmLTE>lЊGP(_QIgh쐫B0?i/gNx*NfxǱtObZ*]50IVg3Æ?8?
TdĤkRAϐ뽠Jd驤d$yі>иbGj발%@Z1QLuxlN鼈Y@S[!0Oe˅YXv;z$9ϴȩɂ=avC!cDArlxDråslʋ(,V%74@|[Τ!X`#)lUcgV4PGE'ɱaghBuӚ>lZRCp~#h@DT^qʆ@Opk
'KIzJa+f7(Kg'~q/DGDVw.PԭoufwǿuЫ~96nC:Q0Kȸ=Y렍W.ukӞs`Ӡƶ&mXevFIRdBуu@X*룆x5s9[JXp?FtȦo_onҲ纉ʆI4!?xԄw]=S9gr託B=e`ɘȸŢu2I@`&ʦĚ]>
j&:MEcc((G%R]wag1ĞlLViHb捘3ChKrE1έbʚq37썡BKIHt'첞3:pDj!T)˥mQ㛻);Xdϡ7nOrU=65s뻬BArTdƸpSlŲc.Aso/m#уq,VYrUF<;JT6CO=z(#WREƊMZWy:
j&?+?n4马krE0oSUQ>B:q綑]`;+mh㺮e@?KLliL|8gp(jL#(c0ɡw!5ˠ;Q5CW|u!?B;Jy|?reêF:RyoS徐x$20[vmYw*W髼Q^YnU]:s'ρ5ɉf^+)&A$S;ĝ*5ytDfhI
$BAlXU1VǌO6:ɛĀxAT:ʊ3FѠ$$EM05UшB禪:kéaw3OC,Ҥ`kz$)焙ң<lH˹#VӹDwM@/.?g`@apRz/!<2rR)ѫ^qX[RE:pK<wʩf;9cKb%ƗH+/1|<t~n9lŜ7;ʖtLy$09
ǆ=O3jt7B~F8OSo!DSKO6Z*t~pV鈛$>:I4Sfҙk1#8ǇRy隥Iaѿ(4Ieh0%hG肎X8zS0SdeS9DX铡H4.J~BF2ˑOdǔlz~I2а%1f>*F>+8вRӕFˢqtў1,ӥɬázb[MĪSӾ#y+
ifcJ^(W[rƈuŝ쓇I',]85Fi!ϊv`ӣqHqrncˊ.zDIb+.plyz>H|GIOEYBkr4,㛥ta4ã<tNJFQ9>@wa+h|*#ѤӰpWI5N9Kɨ)u=f劳&3uiUL+(lԘoӱ!i2n鲝YR]ʫMȣRd,
ÆYr:J;У~ľLʸyqXSz8il$am7c?Pp軛ldZgkw&Ȗgϻƽ7@e_e'my搝e˶0fH#8#M!3Y˭jC|]!B:#w;`|5yDNn^SJƾ#ZL=ԙZ[;6ĵl:jyN9HsELAˣ5斩:!8&e.ӄkAT!$X
AU0d죮:&eg<]=2R0ˍDM/Lr蕶R!?hK[VO'h8,=/S=˴:t<AКƆ@><*Reh暖EVJ6ư@b!mζqp$nTԇȷε=î×`1뚱'E6C&ѳPP樴(ZW_q|Tǃ剦gm$2_䇧VsE,>h*N~BelUx>*%O
:[g=VW0>8ULpŕΨԍƅiԧ|,$7jH_677DȣK]W3TД=_Oe04!IF_*j4Łg嗰.E#D,BZ|T繯SNgK9j(K+*&vԖM1P&C_k&EC.JEp+B&>rǬ^üȡID:I`(g5Ȱk7ǉQ0ѡ25)RKJ
_Al+L&?rM`ki5PXuD9m_:%S+&wWRh9rc15˧wZ%)ώS&2Gb=I(HFFWwG8el@Exì4Ҹ줊5л=iHOr;9`LgpvОi,YF(='+ɺ4*!lA>W7v>wȨE摿50Tȵ<;VK1q]j?oXX!
:&Cr㯶ar|X扬!lXZJw@#sQ]vVic]eI#Zvc#+Ko'w@1'ebEid뢖j`O9I;Ƚ.UrJfL27m:USi`OϫƹɬMN>ftazD璡a]G$>;j&乒JS471J`gF]wПsj墡g㛙lUW$nld~kIįU
2mlkԫä)J?jlEVS`%ʞzKbмRMÜa|F2l$<BB&s4&]纠afrX:첦%tÅ5q煊uY*Jx97kK8+ӹXI료/^ƽ(2RaIȖ^HjßFW2lHɭ'OGRы揣~#H!mMs~@VGө7MǟɽɻtJ$q>0λsxiH
sÑyxǏW!bϖ,CŐǊWT1slnA?0lDĠsLxRwYFtB9㖦a9k@CUύhhKu~Q]FN0T%yGiPDS騊=Ph;>n~KV$ϬzZ:nGƽ$UYDŬ.kF<BQv4io1p(5AiO8+kSa)&RRvŸqnE0dbƨ
9PyN!ϧ*7vq7k䂅94˻з0wvV|Mal[gT瑌)9l덈ÚKM%Q_l?Aʧ1E叞fwNE4ksx3Msg3kj!t^/6=(MM5bB5uNNϨ.gӻӪqP/XKB<(m@ϻ6D3*8AUyǲ|Gbz6Ԟ[~őQA谛BbDN+
9䢁;U3v*ǙbvfAuuCUE~Aѥ>Rsп%@4up@Z;L鋯:gǀl@:]`VHžӍADQ_8eH際^*m1C$gV.ZXvȜv^vїNz+Fð0:ԞY˷_ςRpUXyzb'?e뼽&OYʄ~xkĜ%E襔ѓHM㩓~RBħ%z앰o춊U
AnpÃDjQ)I+DYgL`]MuK|uy=5uBZ7zGI/z/!˗;ϿќA#ɒ>>sQrr$ɠ邞녾016P6^A3eyz`,W^ѧнy2N/˙:<ѓ'N9yεL8GUq=鮥MCpP먙2[,f:e#C(RbK^VjNJaMiWk[Y|
콵绬=eJFJ^>|Jn3'lG`]ϼbQzfwœīAIDp6ӳ>oҞnAϽ4xia@t2Eŉ_хnV*1eBD^鐆K捴$䤻!IwJ@0K㔑#lUedCXp!y<H*m,hQ?Ox6~~*6U뻽qc'cM>^UHS^.甦xԞs/[rbZn
:2YL!4*&k뜩cdc7O5Ɉ_'㙩z8g9HFkP=ϳMp^zs$T3Xσ~j䦺B˵%1h_GRBkD&@%++RlZ,D3ˈ]|kDExc$/gFH#d^;0aFyWm['㓧쎺ONaI뤾]wvipU4X*YUj92L'Ƴ10KdR
gsnDxɨnV$F>)MS7_+K+Xpf@nj'ғfmx[f8!;OWEў[쓂nNHL]!9矾F'ŕJ˛7K5<t%醭24L/~<Ю鈭[U+@i*o:S쏩ϸtrUbVID@zT>)E騙_l'QJFwȀrTcm#4瀫NЊm˗Paκ~Āf
BŁϛ䡚雖쁭agŻc=rEDgCŬElhnr㚢s9bwpruyi.32,eB3g)dÊj=!7+o)5僅j#a奏칠|myФ뭀<j2^kƿ~/IЂ,ZT:k|^do~IilLLγ5~ӈ&n#ʫ<|ʥ]*<>=!WMaQH&HG|6V$1zV
ufNc0&c;kNŸY0bHA+['>(_㟸.~,w79oώg8agЫ|+$aĝ*)N!k1)J1zѩ:jʤh箻hgl0顜섔쥸ӳ<ʇYqws>odZSLqDrYv38b^:[rbQv˦eoˀ1ʆh[礵hy쐧ʪ20ʍ@/G$kOAp|(<
yzɺMNp$&5ӐSaL4]HD=`Ui?DF[#nDJYG*!sTNURYT˯.0J竲FѿvĲsOr|0뿻OL<tn?pcfKTnƼT뫖~8S>jgx+ί*'_g5AоNF>OȎBɇ祟䝳GM(EvA4JvMŨF]+bȳ'&d'CLqk
c,Ӯ3p!Lt'JbЦ`,1ðz䁠8h%`WOe~bYEjd(i7*骜Dˑq鄴Hn`/83HŏqX=BÄ/::[cgj@j|W0*XnFPG8h!MR,p怡s[1ǆ@/VaiZ_~Zŗu4[6HΪv&$ficdkhunq|I/rV5)C
iӞvjBѿ2TZzyѹ<ŏ@V]SN2*GnɈ!^03)g_+$x9D=;l~ƹ;ryx8ŝ/8BE6=MɄd/k7sms(LëĕvJ1蓁+AwX~t02(㲬ZG&ӈn<C]媱`W9qvtǮ]*wd쇎/Q*6Mo/I~vb6~QfZc~
fbygCLY|ҘF㭽˧o@ҁU<鼆a^;e~:Ļa)Fji|u6ʪVeîl^<砝>RLgB_û^O0zBHJK!!g[0)VIU'8qHb禈G8g5IЀwVRnk~_*n/p^X|_ny~cmye%6o9aVSJ*!ƒGϋ3OO'C0H
P.l`oySfWWn>lh&z$mU?49t36NȮwpr0smHQOEz/MD2LGЕ~<ӯ~'<M1BOp<w8ɃZŞLk㲽%䈋Oѹ˷>Wr*?*NȄA0$/poP9ƝkNEL;x;EUq~/Fm.D˜RWdgIzp#RUfƞL5<
l1EYpqiv1w辥9ņRƱ䄔慸vA[Ua!7f=BaZ!YdOyJ;x+N^mp溘28+2F17IIɪҢo^d䢝QC|䃆U낄;s1jbZ$lCP3>xSsCQC_~9I忭CthNƲKf|)`hKϹ.ma7nS$~P27>_ȏ浌c?KW
陼`n>Qoq:ucz~h/Vhu>zyk&xDf谡c鉍/ƉGS56uD㳜7uS97ˤogȧ~x0U>_攦rХrw[R`;[B잹64BN.2V^ӑ곫CxA;Akb5^+y'F/Oeh31墓Z3Z5'VgEyEO'C.ѾrR7o~Wz1*ɣ
Lcǝn2˞Wt!q9,XPNeR.&%LOO)YPhWWM;5ϴGyM,e2LF/0ˎj3@Q7.YkT/ɦp@ӯ9ZҞJks/G,7籹4P&d$SmONGɲ`smBQυDiHm_XKu~亜`V8[_._P#Ҏe$#p`WCJomh9>
O,aa;벘tҌ`0ø+FLSş㪩qmMq(4(*#/jHjom!菡;ɬck.[qS˻QXTltAf6I11i5w5W^ԉҜg(鐯mCl6Uk5.ʙo5a`mjɖ(B+HqW6m#WP_U#Rȕ</9ҏUlѡS$jzi8ȪHKNCULXh
cPѿNǢ/hj^WKct|~<˼S+UϢf)iBH.Ǘ,nUr^<1U*%ӳ+kg~:忑#@UL8;::#99㯙poҙ:δYfrTi@y7|ЖYQ1]>ihfhhY9<W]Jh_?8?GQYnH2iuj?d|Ӹ1Zw/p)zi^WtНy
jKXgOGzDLѽ~&tDOlDSQj)N#Cǁa'#KFҶdJ[;镭4rnuӝϩdz;wFŘY^т3d'E卡|)0NP!CTWQtԚ쉿3W]&ԇ!z+de'((&_dqqEs4#єԯ&NI>ux00Yvn#Yu[OmGG'tKP>Gd
<.hҋQh鏅3h0i3rX/n#LEL:(~/&VOoˤ=9p8e,C3WǡE>w%η*14v8yHZ~81:kNω[fdˆIzVG$a颬8sXb㔤WE.$Ph%BũKXG*3QęMńftB'b8$?RCn+kǗH3rbppos#J7θ
!FeqDFqQUGqzR:t~(gt;#O>_FUbe.lPAWRMW~>zУM^RҳSBi?DȘ2gfơ!RTZrY`1Xiɳ]X?vu&sdk?Rr2b,9%l#EMn,S<U5*8oSĤu,˚3.8W*|3;УsvZ컸p)%!f`
ϭ0hX:IĦhsVRNQw)іnfPO3/@Ȧ`щMB9H!ʢN^%J`DdT<8D㖶90bb8Yp2ShuY1ǳŪfç$iGX1=&$蘭hq*菹r9#nTϮ.j4oXxD65Зc';**犌㚋Vf@@M)'y&t!C?B0e92dq/~
V#IY'.tĈlwEPX/ɤBE]I繡Ѐs@%N);W9whGWK^61dАT*&:<ȥ,yԯ7s)떴8$TOsBw^w[r:Z*s䶇.8u!L_Æ㪛!xp3VDP.)[a.maP>(aV<JREäʑKKO:0!LcHVdrNBR!sp
XHfaƱz?1ebabYNt&mudǼ)Ȃp7:Iu+.Sd.`oËϝ'ɢ4>cFUD_F=Wэ[+i>偡a'`YB+8ł@ĦFE0αAɅ4Ͻ0)nHZewˡ~EBC3zlm:ZrM9~g=(~yl@1jQ5|?B䭭yH*3#UEe6Ќ
tZMn㝐^82oɘrKbV=e8iϚvcNRwwmO..Ɨnx`琝k;+zW&kb'n!@P'(/gL?h0@.事a<Ri~lgpa2YUOZt獽#kIҙy7n=[2@뱲_Z=泗Nǜ^i;yI]O5UX*h!!/eрʩk2Eq0ǿOHP
DuTzr8RRPEnseɶ:kӠ5n1UVp3Yʏ^#y|`QGM9ӤМbIH檅Aȼ2+vѲ/Z;ʖ>+ϷWIn_)OJHǼйK>+(Be>돱mRi^~l*tuy俨Q_t4&!?)vfA$DyiIKDhS/YWZpMM|XK8;[S坋3
.Y~'#]>섌~aCm~&NTZ閒zytbsw940B$Q%H%ɞpϔSVs˰d6n硘A4Z섬p7'tS.Aw&>뇙JIykϕ6닱yd+>:5z挠cJ_%pEW:7P$F*p&7ƿ&@b[3.KYFdkDEЮ*EXD榒Qԃn碹E^+rH
's/V7뾊l%鬰c.x'&T䔄u0XÜRs6q˥Eƹ<1&%Y4鯔h6!MId/(僷,H;ːk=trҦM/Wa);S@ZLxXs&fH|XdD$|띯/Uӭ,>JH3勮$d5mle4&RAvUYc1H$Vf>J.Y/䴙);f,HxSepY
+sX*ϠoēZ<bk뵖zxϫ5<eOxh,<fF^ȡ&jLypyatY5XjƬd&B=)vȴnFX.p3鞿9u*|泱М1S;U`hBX'c7NĂ62r=5geSX=H7J鎅+|ӶFƐЧO/)>,訆:I(mEV^8pXnz9Uk^G?E&
~ԑapb~++Ԓl|Ҏ0PBX+e5r/;oP<)yOR댴ˍԉj42%o~(c_*!ϥKODRwDrdpY6_cSŹDƊ8S7NsCR8mȲKEd7):V)zS:UO.LvRkT])yAA`_ԙl^ZoZo]ǡkkƀn+h~ndKl/e
q3OSZg,LpҠЈx7xy`h18_Z9]@lt4Lf^s4E˗&bS:2H/WjLE`nYthF*9f(Z(Ŕ%B蠻6)2;rr6(ɿr^7j9R@L.[nYqoul,.r]UsSqvOidĒft;t/M]WR#GeGKH曞SPEw
^7RAhK急.9uCxFn~Sw)z=gr[e)WрcW륱8Za[5AA6c_wqs7DcNS:ĲYɞoƐsj(J>XJI~˲kvLr3Ȕpʳ/GʵDZBȔw_'qt_|TsHz!@_QRalΣyX2^*忯Ct,`c|$ѣωKh暳VxD
VHӬtIb?2gN;ǈ[2[VWM6Ǜ:'Rf.,Pʉʫ'˂ʖѵzz>!%Zu!CѵZlļy曝~cɐv.yKrˇ2SƹE뿺ҽe[GZ췲BfniťA_HxH|a咈8hb!9%N8'q^Pb䧭4TȈRS3t駜H4^J(+&뒃!j2i!B&J
钤NǍ(VBEuto5Y4m`Xԯbt@4n.fxVǱneѹyM3qs)ÆPc6<揣wʰw_ZM]eqm_OHLҢf:>4~X;tzˉĆ2X@,#i8>рx˺ѝQ4яBwu0/CyE9e#zQZ>横0k(ɭAŀV=peҢ7rnШsrX8Z
k/~=>2WoKPt3:X|jG`Bd.<,Ol>(ʅ:7m5Bs5[S_ƉS<HZvX5]x>y>kSxI;Acǽz[+lɨҠi/1.ɠ錰Ϲi7ox䲛fSsg㐂e7˟z<uPaMWȇȢ霬(]謽'0Ed@j'd6OwZ_i/ZSB6甏2
(VQXӜP~ȃ7m+@7Y둷XpWŢsQ]f麑ʏz^rK!@5|i雁5GLf,Vˠ~SpƚUtAmį=衽+Fйq˄.U2OXPG^$q(%5x_3*0LĎ`iji`54f>Mdzu/'6F[+zϜrnѪ@/ьsb4>|c[]ԥ(DS;D
ĆL%]!e.yϙ~Gǀj[Aƅd&j?vBD7?Gm^N2j@4@O뚮ѦɚŸaϊIyYV^J;QŬϕ%0pq7:B,uo`qѬ=?(ķăщѹEc;MFz%LE(5pgScɶJ)!*9Yƿ<z4aWf*@2Pȍ3b˪lt_i*ulL%qW
,%41Hn*hy^aJȒFtub|lU/<5eȔ`dPk`RGAYP4dÑrYǚ~氐#ʌW4ȭJnjHz%Zyrqg*6;SBcn^Ω%@N*bÞ)UtB2ѸPi$둹ԝy<tʟV35[.Qʆjnʷd,zϿ*Šʎe_Bzi:^OvNѦ`l
ȝ@xd5Tz9[Hv1d7aW~dxX]z&uӁ[e믑n分ΨȭiI1MNc㰉:pѦGhE%컟$ϒN@)es牁VJz9l%ikx鳎.<k%Ņw4ʩ˘FϨJ:,1a=n[kêM!=zM@Sgʢ0CUjs|h/XʍX㓘2!AQzypHr5[ҙ
9If_n=/]*f_P:˲Th$?:JkǄ432'E_)Ì齪LVQ+@yǰ|wGyvs5PBH'Jj8p|l1VqњŷmDF2㾑aO_EO!HˋfQVӱnqo϶&K5Yim9mH(=1aU&_IBi遘70#tԏ`l*嫱aѷzC<Gn;F
Ѷ]V@Uo뗽䘛P=KpTjjǼLDH+F7Þ&c#2=y옅ãEonVv괨+421ȍb0*Zi)J#çFd|biO8d.aDȣ|?fI㪸M˯|vJ'D*LjAyD껓;Ǳɍ<z_Ґn@+[(1_ůWϚyYi~e坢zDV'苃+mDα[Y>a8
B|s+EB;j`WɀQt]+M'cjȐh랧Lǒ)Cz2ϛmF_/ř*|<?P:XcbcZ眬^Weυԭ<䨪[uMp$tA1P<|STh:|/啙i`揇NыX+ol!VEbqC^&Z67+c菸eǰ7ON#XLhj콤bUj6ÿLjǚ#pw&1Z
3tvqϣZOYv.PsRh%nE1fPPқҰGLpc.`ɷ3nq.LĴb<1E7zãzr.yӗ'yTsQa4OW˂RF,wwTOAnlQk^aφJΩ|A5*MƝvp2wpzGpSb˿>#K;O˹CIcXx.1ЙJ4TYW>Ǡ?Ϧ*giI
[滟;qlϹ'hp22係Ҍ3KXlyċnYP;z&zf@AДJnb㞿+9[!x˵ǻ.uRVȸO_/jez>|$|Q@NEΪ윣dшCoQaġ俼qʘfhOʆ`w@79)JXoQ/RY2jd:!JEOD4(y5,]xOYM&tgl㿹*/Zv=B
mv<a.^ʊ%Jgx:FʞȿysdJv]㶑8^sj䇤o'<EjBC/MgDpf0xt&h?Bzs>ȅҌ!7SX.U.mt'60.áėQAD`sdH>QRqB%)A):왙)=pG8W5|FDlrd㫔Q.4+@염0RTԠɤdt.16UqMy
EzJLIVLW_ÄQ씖Tt>3Mytǋz:(V[m,;l8=ýK!3s]óom88k5_$|[Wn#)BStSxE*X_v7t|8:cl7GA2#乁ҤPfMˣMfsxTT`B,Kt9U$mUE䙚iEԞuǑCxCPQ0/1?mȉŽc2_8
єlɀ*A嬗i!DPWɁ4ɗTɻǁ鉧`POVL>瘽CJPb(gn䒺YLNJfxŴ*ȝ.`b[poҩuSQ`=bMaȼ6t:bЀ潇A(|*0ōНFƊYrGgYQW_%~HSiƜ0YebODO,'蕰TbBy~7^ԟi^pn(YS+#J6hk#
ByRlhhDEyGV7<?3ayǔl2j7ȎgK:G!>叓,la+trg52p蕔StDpW0sB˘2CEq(i(LiRκâ&,W6pI?ɲlTQê˶0Ԩ[w~bj~fuȍo4/E@pǓ&GG/d^m&䜩='xRVX+ncV%'JɉnBĤ
Quӟ|lǮ<QZ[:y0|`볧wb;51в|Ŗԙ>s29ˇW.m&JwT*`窴QҹƀC]ƍlXCZ2Neѣ0%鳤/èI+EQ*DMɔT8)Xt#MY?msC+p5T/_%qGE䯑фaLqZ'4?;w_k7V5=fĳ˜,TMAX?锰>pZ
Ə2^%+<#Xyj~p#uzh#3X>UOKk.pWF^ɂFt6xc^~d6:hV6A65C1NǨѸnM/nx**OrBĺ䕣^PEq?ǷOV%7/åZZ<)'v|35m昂VDD脟we8g˝Ç8rfP莭a.ř+h%!I瑇EeIiWcdtu
;+ҩ%dʲlbwj69TlnTMY]Zt䫶Ȗ]PvSжnYfZWta)ĽƘ4TNaGǲ$.ÝHMc)ďǈԚB'PffZ&6QypF_䔁?a;Ǿ<_+d$.I饟yWOPA_S3>FW?A$1ZtDPǔudzDM#mDiѶpr|&HhXc&
Ou|^~'hjOI,ȷ_dOҵD1zLj2xnqϢX+yTE$8)2K+pC`c(c@&ԧd$7=y筍Ɍ27$|X(+*^ҋ1&fdUs˕|;I(鶹媇c08GS?㿩xVwɊH$odLl@=|6e>|Us5:ʑхaw)?bAGax`=B=
'Hҕh:WƏPQqxd`Y|鱾/ruŦ0|=,j[6NȞ>3!Zt8<)N7E?12*<d'9jnr]+l|,ʎ4FmǏ桾V]aIZrw2ҁzEǊa9>JCJI^W䈢~3l[i>EXB8*M?2EÇY.T?u@*jn[Snc[*)&0:
Wǀc=fZ9uBGIp1^ğvω쳨CvQw8Ӽd)к(bR^钎俕%>D_PU?|5F;>ɥ+33LWV'`PGҐÇL'~9@.':iВ˥cV/8>oуJS|i3t4дDSlcϾ>~ӡ'SD0U7lRMNĿ:2;BeCKhEPEjuT$ˊ
mĸ!%i^J_LG,DmfDeVfuBд#+哘V(襩?gwʑh|Jp<=DH(Xc<I&I]Y?zKkD[ȢV3ϚiSKW3D1WzWR]mpiȺHI0IBL*2Kb啫.][qHКpk_ohV&,@榷螢6AZɬ繿BƖ˱ųC*U^鵊&Z2
ǽbӟ+䤏rKIKAѱR,V(fȼ^>o|GԨMaɞGϚʥƕ.N#iJ%#m#)밟hj5R5uAē剁stf@Cԥ=4&*gk灢珤O<Q#Vi8<kAiIi[K(ƾDR*s`Z*2%sŮ4@??ķ<Ȩz国S~7k$qsBE@Ʈd䭶XBA炇a
<봣BKa,En[][4mĤgfʫ~ʚ?lrC.R6;H*蔌ÀЩC'OPH~s|*˙E7ɥMZ6bnBk!X*4rsko7L=>^ϵ)]BLN]2#7ryM,69me8=ecd,$+u8<Ƨp6<ǽ9;mUÀzˎ=Hmyv@NLY%5뜃n
f4˒]eCyoԧQ`(laԣB^,Tϧ,tfnԆgZv<_|Ь6Odw`,hz=M/AJ:=VmQJ[?Z71bUInIkеsCLxt,>W0?.윍.DANz;)1.i=M!Ϝq4vƆoF<qLAnVɝyDW!t4:'#S*O?>g3b
gт.ǆJK693˭S<KjW&<qt<˃c$nHʭE䙐)hPƴ8^ȯrpp7#pAz@+BP9!ņWS$$_Ǿғ<%*4bϛz[õA@ϻ_3>:F/&ƛR:OPwOjV>ś(2&l.m4:C9IrG1!D,5|F!o?,鯹DtW<6+Y
RLb$,vSH|soЦHr@[Rw^>0ibfK]lBC?!PRk˄yM!И%Xv,|8L庋2?>0k㛐veA)1]/u鷔О+Ū=2?*/#j]m]ōIa下ſS'!pPzyIp9ѷ$l@r`Z;T轆Ir.*e9ɢ3/y^/8䵕#ήSS<
#ĕ09fD~CF!%yŖ5ȶ0Wҙr<x(+%KdNoeMYn~~*aRw0ſY8z`VAbO<X:I˒%w+Lm+6gB:ʊhqxNtù^YmQjAwH2ŵx5TeF]JvF?t;oF^8^RWc70Biɳv?K&(˚6FC~!lҬ7
Ǫ*K牊ϡBIȿв`D灘?.TC9Jg)>旇VT,9d,hWfSmhˉ.D&<g,oH#&EajfYqdt*ALteK=5wPS6螹6皾1NFrL_&,Y;f4'UIcX_j086pa갠my1.8;N;J'ʱίS[Ԯgh&N44]?QBS
ƷѮmq<wÿd齚ˠɤU!țf'i.Lѱċ:Če鰉t*ŶQ#ejx*qҽy?#E+Xϡư5>6OYT:;qd^FyP+k^o;WD3`*>F1r1=Þ3+,J1^]kh.NMPˌ?WǼ馜i?lpU3j`ȃ]uCd]|hѓY;2#Y&t1^
8T_!*T*<Qa<Ǒ˃dϤ.]^T6Q䘣H2W㾈φsQR?PNq1ə6^Ù.DVѼ:;<]Ifx/&EˏxaҤ?u23~O#]Ϩc9.c')*ǎ藧3J1pT<VQSОDk1쉎뷄xFìD@=n^u慐72ĐJǚөlrϮ=yfC_w~!Ѳ5
vDZ]ӖpZR|ĵ/,<ZN<i)'gӵ1:)rğPsƎ&ǝQw2T$1ɐ2[Z#$Ih$>yhN3jmCVŃyXh/fMN駯kk4ԒG6Eq˨CkdL(ĕR$yGmf.U7wnĠ(zfwЅmGPd~?8*:>dr<7˔`儦ҧgɴʖYq
~1;BUe$`M0oqiYf^nZ䝪Y6Rkɥr`0>9|:zjNw(H?O$p5Q.BU=TP6kK.O)dV,E3鐾4d(93,@Дf.l:#)z췍vԦƂ<тԟ_&X,glUo)Ip)V&I/a˾$i?bI;4íǴy:07tZ[p^
OoT+YwlNNyG雐zDxJ#m)ahtGWm#ʡu?N1딸$x(/昱'ms7Axvw$i8y_Fht3LfVIʵRȴg4s굗~b7BGg+?]ABƣLXd[FWv7膁`ċ%0t|)^QlW7No#k:AtԞI@uuC䆽ѹ2UZ!K_
if#GrBӟ0cHLÔSh76KZ49pVH8yӨ!44|/:4#Iʐ:[黂J硖%.Ůd/@i.hRɏ>ɶ9:ĽJ~0ҿ(z!&yD8@w(k#ocs?Y#a>)[N'GҘ@);@ʶ#A#y|`FXt>N0Yxv+0^L<aAIwNɒj
jD˓yzu0@OcdDJ4;ƛƝ5=mχ!==ҩФm|T0Ɵ?l1挅䶱NTT4PJn<LiuA%vQTAJ6k)tB33UlXz]m%P@YB')Q=cĦ`tJ>7~v뱕tv%Xb#xVb7b8[woI!v[KVZquM`+cK+=1M
MXC#a;D1.n1딇|zvei$Vrm%D4vBˁXj*f`Y0Wl!%&~Xt=ɇ?eVw|Bbe(j?y]>5SFMNXUq%OfDbh5]93p&Ys;AJӀ)H]薥JfXaH냶mp?Q`hάIA$81>Mj=MH&4ӖrxzL
=ɗi/QnfӅ>@+fY>xjQ~.x騚tJwYq燇ź*!挏9Olʓδ`Jf1%7zbH~:^?T,pHXPL,l2*mnFy67ϫeWÕa^;ηx|R]ʻ^m뽼siO(l@쭰i&w=p<oekDhϡrǫO|rx5fvҟ+7!)ҫLRy
ɱwk2nČwe*@舊gd]ýaJ4DJ#眪Y;Ҩdl!Ja$Ҩ^HvWAЀb)륢$@+L9Ȏ4BnL5P˶,ZFNvY+|F:Kxjɉ^Äj#qoǙ[EA$,HzWh/Тn:Pq@Gj6Kb_76j_%_F1#,#V=,親ǎzq22rk
w.YOI3D@wy,l5K[VCńC*В輵5iO>h6G반ĭ;F6ucX8'Ii'N%UpA91Dv'M*|Hg)HqdJɵ>HYN=5)BG)02/YD4F8]Sm'r䒬cM#迆~CO[lowu%9eymy*B##G/eRa%k?Y5
Yaʏ滍H3z䱶DnFJp,QtJ2䲊S_m($P6@5!ΪMZh|~Q)B%пO_ƹʪqg0[>Mu&견ZW8ǺoqDu(EgtzklPc䙁'`硅pȯrcH4_r!VTx^)<?iln/䎸&%P3ihmY/^A/>n'rp^elBkχV
;崢%JO_b%p*wB=&/`Pw椣c콒=W伒_]<[.ēŴlCkgl1KF%V딚+Ѳ2Aȏ6gjGqCf骯S>w@D㴪ȠlOheBRUWLm!/8Fp]_rwGI5k=84ҸįHE濺H:#6r~W5$w*/O8Ҹ㱎Z]Yxz00X0]
$AT3[2|CW(o)=UsRe_u(bf=x?+zdQg/;п34QTOWϩGVnÏlw)]:[!ˋ㻦+TXJlQ8?pӽ玩pI뙫f#iK|7#oR<2r!A7e2syZ#Z]m),Ϝ8DΧy!n@$KI&Bȣ#'=yUxʶ:ϻԛ/1
KHÕE#RAx?<Q2`K;>[IQƚӛ&Vt;l%Wbyf7&XUàgLh<y)蹎iykjg**~VIѦw4W&|j2S*>Yj7)Nc$刿PiZS4NiPVLV$NSN卯Lx0M5Ϋ%P1VY6ɧcҏnȜѤZƴ>茅0CVNb/H.q
qoY$)+gʻGa婞%_EϘX~R0&fqŞv䧠Ra4#KlG_Ӝxpq2da<7G%ԨVњȓM|U[ZӃr/:3y=ԛP+bX0'pDXu](,GGH8o*N:88ˌ,GJxt8+Y:ȵOgBds8y)1<[!5н$mԭH>U7j_b
zQTZ][G>&NT+e6#EQG;2p#㪎8saKn~L9!*P'2ʀr봋MBԁF[)(Vf|L&vOjEs6oDWκyae$55d.R]y$meg(jdINflGwI8+Z5uq.t3G3O吞&좩`c`B9R!kbhB!'n6'鄾A
>8Wi*MdKrG<EPkjJpѶFmKWqȃ0#/[ʠ9/$yηҭ,!x[Ł;,`g麟IҌBWYug[9.ԭ㡬BOQM'yc[cUdA,pQC$Jϑ(L%@k&È&,wr|㵐WOn=b*Rdƨl33M*_z>7A|Ng싌$nAp@=B
^/5tK'w3巣U_6.jzW鈝_p2#ʅb!6K:Ы`s6D&Hb!swIlZ=ˡʩ&xmg!;:h.O.uӸ$?VE썘釤~n>f<~5b!+c/iBěbb.QozʪZV09УJ*Oe$BҸlKhq|˙b@)L˼倓#G]XTSnzpʪ
X`]+tϧeoboQ](EεChL)~h@池NfossOU+;r1|M6/䄅BJvfGD$6ѓ7ǚ㤯[旔.w<Z>bTjΰ_JL*.A&*m#l詗?RȮ쇀pPUyoϖXlS`B9|JɊ4.ƅ/AiL뷋Z&Ux瘛=ZhK7FQKƨ21y[
BH]ѾB'b=ţMj5<:@EWǖ/&@,''k|P2Y.x@*(7mT[S3Dyz:㨶p^ˍ&3L2RQ/*oNTC)';ƄyCG66+wqx~'e_K[~J[R[p^wg%31t掿70:z+3*Ư<[Ɉ`5T3TL'SˡӕZwf!N
(zn6Mm||ҝ˼|j)!ӸPɄ6˪!,mơ~Υ),鯚HcM#<j4]L;/4&sdp@nNȚӂZ'5.|>$tS1aY~Ғ#ʪptғqɌSUhφ0~x>NMpŬ*T蓢bǊSLʧq琱<GTxŊS]haѽCŨtfhʒT&2Kd[ԩuEjҭ
h츐cX7J56:0+HyМ<zT<dã)'rYm3>J]|l$iA@iSEEhbdPq6鷋Nh#ǱD7^ZSqa@ef&iG#Pw<sj^<dq~Ԏb3x栞peSCy~jze掳sTHneNkx柿E]ϒѐ,Wp98].tϯKѹʯK%!~Q
r^䡁<JrHDDsP=X踺G01^듺9<ӎR1PWI#u$M:ӳB!j=KQ2]Ѱʡ아r5q^~Oƛ&TZft^`ZE3Fc]1?YŮuY^43k@Me~ӡTgvCVΪ';h9Ü썗蔍M/4@g摍khhpicSCD88Ϲ*ҩ*s,dl#[
q%RI*Fwye>+AC9D8%_ȅfIWqg~9Y@3NDfW8ZqBOEETԭÖC4jƸ9$ӟ#z]+bɀʈ`3(vUFX'ʛƭw詐+W]CoRs(j7'wCz~<Si널ȢιŪC|W>kT/zDiLit_)јLpDt#*d~=FtƲ
A彁[?%d]QxV3jȰ]?$愀<Ca+Trx&qeh0Ff94?/릿yeYeb,tÏqb鞭nkRrNkGsT^;qI0ž~Ds.NrB65'0+,YZ.У_l/5ko<(ŬӧA:>4셝5e2s5ҬYcA7YirzSdqākpi>rXq
Chrf`I)Ĩ%9r`)cR˲Pdd3U5,wNE=F>1Bwu7`)tM4q|_#M4ίECWRtd^/xŇB3mO9&e@ȀB?ȪԒx9Ǔ3ƨz?zdoϐѧ>IoXɟ[w9G%7bs:a3%rÎF+,j汼TSS9LMgXM0?4[w
Y$)$9K=*XFI,*ѿ$G5bkC'k9yC鸦Ԟ7zLTb4EDkTr=L8$3<b&>qYmt1.o^'䙋%l^URD9Nl䮱먾.cC<Y콦цAK_u˯7pT4O쑵/[,$in/^.P%e9讣K:xЀwR0δ)lX뒴˝bfqJZo
[SɶMxZnsļ9WN07/(.5'#CWv딩ɿ0yR3xXB`Wp2#=)/(w_鋫XĲdD0g~)ɴtW5H#rɋJA|濱b>UNQwUD4?ʙbʐU<;N*Z%<)cF%7jEvk쵼㷡2DHT!rԀ^ɱWicЧNw6:È;*T_Ԗ
HixLK9.1_TpPxFL=`!PvȄy[付Uf5T_VcHRfB7=c&&oT%ivLKķFC3IvQ7ehDƔx=DZ81%VГĬʼD@R`jU>봊A5PVMļɎBK댁QnK8F8?vco!ZuHχS%70%?q$:λl_fkyo
9)ăjd]w?nUGH|^~%E?ҩp2U@L!JWd涧5mO5'cll`YU圷AS$Ffmɱ!GX*簜!Oǳ[ŔIA;6h3ʗNzϣP)I<<n_d79_)@8?9aŨ]iUƩaCZq1SU%,3~鼂uFԦV^^1qI/Eře=%mz
iY쬲Yti:aӀW?%Xb1E^ӌF!Que/梙j05r6蔾ȮDF&L?#l7Plt0UԬCwh+zD|Bc贛˘忤Ny:7[%F&(rhV*GȾrE75Mɨ)ZƎT1ˍiPÛBo`Cv8ixl>Yq逐Ejiȕ9AJWTSm<S85cQB
@ew_q$ˣu<7[/jEdȹ.J3Wh9P'3=aG8HhT|T7[rx>AtqNeЮ7UɎ=;vwooc%p빦e浦#d%8(5Y@Ws|xҙTt~ƉT][NsȊ(eMXuv><dє*Gc9<Dt鐾`1?q`2ȰM+IȄ[Ļu*kqT
zNx#GS!Q1BZzM筈8$2醰n'VLÕťYyɎ.ϊW%83ŧİƆÞ_'KӱPl/,LTzoxO]/I#mV~MN!<H4ojSEʙD85j^~hvVӇ(2ϰ_ɅӜdxf8`E7Jpv/F7Ӓj[/dT<$et#Źw+*)Ktɤ=p
I`c꽠w`cĺeW!K<0*edH&QJ>Ic+5婛yDǮE~<p(.ҚBs$3v^EMtB`lXySTӋRNDz0BGwMcR[;07uo&xϘG]5@j@ʺjSNǩd7/來1Vv#~<ER.ƠtP4d3*YE<F~xEhe$lFrU
w#=,WD]SA&xIːvseVD6l,6;J'0W斆鱱m,&KUy(Ø#@rcTG<ʰc>biˏ<NN:Q)x?K0KfQyaU(r7jqJgo3k&5ǦHByVt~/[](lCwMx]e:bzǁ!GCk>C5w)3r784+yIzK
u9&33yZtyQu%&g/m[Ew1s;TOP[iOOz죬AV'+4OPIϥQ4CTMH1sZ0=@OnbG=mGca&0vc|5FFZyˉ蛥<(ɮ95e[ѕc0T44NȚtˊkgM<9j_Wb4vAdZǏ2^Ð]BX.3Ⱥs<f3ƥ
@9[>lCJ%U:DM:'416G7n6YOж'GЋhEW7^5hĭ2dIs/n4V6?*3x^6w?dKO/˄8Wɰ5)KyzZǯEr>#_pō:0Ϫf/59ž>Kl(4gԚxӟIW%ǩEfv.3ʊHFw)/Rbv9ZG.˙((0hT
!GP.bz&unmK=xB*˲CC7o^뱕伌Ą,F~<霯R%MSnȻ%hY?ѫ&g(3KeOZMmVzVb?TaLKǅPPmD:>HAGrHГukDI7b빰E:ԗ32`φrc0+#mH%O3XKt~;脰нH=E믖g5_%c:R~M:볲N
P|3XUm=PWk78ZJCg*y?ş#zE39|P5ѸP|#F/o|??h3Pm=$ХwY:I0L>*P/GKk˱pr!ӸuYvF4Ȍ3ZqVuugQaG|NnHDdBVG`3vJ1hj!VRJl4緳u:!ɧf|ʯDnoEyH;è!N
>Ѿ$wӿnљV7uZҟI)s)R=s?38f^a襉'&xȼ6YJ[*BYIOb[[j^me>ĞUi3#)xLJ㛃Ѡu#l_6#73ZL0y^Ux<4ҍ0n?z9E2Cbƴgoy#alRMo%yӰlQHG_'pyA%JҟlĜbxf#71`
RJfe&:`c&執AwOh뢇6~(!>`Cӗqx`'ŦsC5Ja$33zY(tygY%QyNQ)nQhd+CM_O&N(SFÉei~T?Kn/cT!VgeA;*kў(TFLZBbJG(a|riv]y䁥쥿(Ee[N;'ZmJӊMw'K$承
/GG|gP鼻oj)2Fpj欛~dR(_ȌQ(7|.0C]7V%]㪸:ŋC&d,n3;>;%zDD;˫gOCz螓FNd!vB$12/,,jǌcR<>jqrk^`Z/waƖ%p+@noPˑH?Sdxΰ'|ʾZ.Q3xÀY!RKT|2Б>&h
苏Y2潏;fK]fSYq7!&Bs<o5qDXhth鳬`ē2'T*ԌZv蹐=)*N5FEOrc0Azİo걹?ƿhO3,CryL;bXgW_њ:1˹EL058jH>#Z,j''Rwį?iG5_UJ&(6$걲a饶b|f,s)ңAHf_ǁ:lq
cZG+*pG2$1pD^.3~T7ǁFp5&|%LUrDhho|A?gɆBm</MѸ.Vh'23ƆDDnFfcEE('㳹S5ѤtVd>e~yX@5jb`$',y[2xžSv'ɏ3LYlQI3_ZK!*dd^Ac|)3_6ĬV?f_OrN
M>)N#.~+bewO+T~aQXUtD*2|b;HGV㚜=ϑ'gA1ƕ,%G㓨@;:It_ZaTo?:đmJM0PIfoNˊu4˄옇Cwh|yt'ys]b[BƂU21uM86鹘>JtҐyWcʑ*Vf8=ķt&䚈~DKr#YUmvҲ|Z
гx_+a)zE%/ȰtYh:S3Ta,Tb띬09ogvXZӅ/5t<?ls;mm@ЄE]戵3λlXJc&Ow&N鐖%1W~zx.3^Ǽ6ůt1сF'(.VĸOg@ɤ]˜Jˋm㒭Yyw5<tPУ)>qhFiʸA䂻8@2δ';VijÞmzF
霩0zD&e埩wv<FNlrAJp[KY5q^iJ@DD.夐Wt+coxЮC+r'i4st&]JY$1]?8&GaįXf#Ie%~=ZA5JZo5Ⱦ3q&6^/ƫq%Iʚ>k00sI)%$DH$Q%0`;mG==RUB0=O,%v5(Ѭ8
Ep@ABN'9æf|RҠsɒmqqn_c@!xc+_冟:[Í(˲ia<F;(I20QPuCn)@ʶǒABDŬ;^_7I2Cpc_R$aѻ6bPKX2sP]PJX1HEɱ埄Lʂ%D<ìR0rÙǧ>HʆEB8me5m+삦OuϜ:djjaoq
`zYKc[,.K1䁠EXS|=oȒQRfvr:ƚhEGIzF|Jsf'C#fG8Ȏ썹~Nr^5)r[+0UғO18fdDx]1&Hcy?I`hw뜕zwnT%š<vҳgx^9P;П|Y6摜kQӡ衆v3gmY#Ǳoϊ$|y;$*H4ŖBbw
ePF)Gvj*swWɦzuq;X/3$!fr*%#_ʑ@Q;ë/fYū5A@ǁH,7?_S.fRԤ~0ƈgh<I'Юc0ZJ8[W嶆v쟻Ca;v_B鷐Sl쥡B:!mJapW39C)Cj|N.WN3nu[^BșC%䝃Fwpy:X]<7yW
3a/s%k壶.w$u)itHЃK^e1$QWu]p地厫&z@ɶ[h0vҶ|ʵwl(?X<I]&9WƔ.ipQq4zvyQhH3Y=$><熼x4/q䒔;ʴʘUфxtQP'5ɰvwQLϘei|NnhɖoO콻JǌǓK5Ӣǻ/9ҒDK]PsjL
3GHD`b%rUPYϧJh6Fm%dO*z2pW등,Api8s>e^?QiOLMk7鶃2xIMc#ԃr,@q5FN?QhAedb<).|뿈鮽*3qs9!/n:/쟇zxöŐuS7r%QhH)3%e쐁7G)Btx9F~k6Y)L`葓ѯC7<
*A@Ǆ$^šJzO&秥uKf(樏+niY;fHxs颢;ɓff^^LƍumgÛddНYf]$џ]_wnWg7G'N9S]Mƪ!<Ƽ˯Ya'B<Ty6]b_NZ9f4|.e*$ANMnqw!V0o3SĲӊ,]BíHZqj`grxzvfwVV
94SznΧWNB#|%ЖM)GZdh#%!OX'Xǯ1:e+[Y<8ǅmDiȤ2:=3%a<kdN[&re仺aZ=QP'xˇNiK.KHZ맬.(fPCNȒ$/&4$'<vgP(m*Flʲ[V6,/*O鼞~yOc7()!1/Na3/Ǝb,
PØnJE&6HmN/Ȁ^ge3Ao*Rf;=0kH@8@;]ĩ.@A],brAũOĠRY'k[àyQlS>Gȇ[~Ϸq+cb'x>ċ#(V`MNTyǼώ[gz(lSMB2F6Hp^y?kyzlϒji@꺄bC3ú)Xɑ0ldP7MhG9J
Ć:Ug~9Ȏ!@쯔6Vɜѽ13W*A=p;WB:wЭìw:F@z&`0p1dl.[ϖ)ęa릞2n'syaPyyW8M!bϥ_εU@:cF=vϋ/8:A4K^뒎;褬+~ӌ6_^w4[V3'(F<_癀QaHȰsBvZ&Ȏ+$=h403ӓTџ
S*`bPѡ=D槬VoL&]ysjN7W.涛SgAnWDL憂28.c!<RάF`8:d,IM鴗i'[?슙XtO!W?[rU]DdӪaʊ0+噴JBl[nZm'BtXmegT;0!N9zLNPШ蛾vJ2H?躮^2M9ʋhDѽ`20:sX@b]
ˉ1Ĥxҿj,?`Yƛ<.(op@疺feŢe静5%V>#WM뻙&QCifԯư>,;$]%;PtȀ$q2,=쏭6l]^Ƙ5#GOftR1%&VNam榓ƛ&Eǡ38)FSnZC:g6ʥqWYu.=Z.gљMϺnFw>tU_]M@6dRc8_&
ƹ'ȝaslYH=';SMC^B?R%,guRbM쨽#c+˸'bM.|~mb6Z2ȮwKJӲw?>5炐>JfonO|Xʐ|주](ynEqNfy6Rd.8w0(`CW4ǰK#ʽƅ.ra'YRE|E()9p$NB^~$DňC33nu$W<,ӷ
'z56U$FCZ#dȠ$s(!!oYR.fX!Suh($k=q?<~sЫ=;e8ySn.ʢ;3ZJѐGRm!]J@9).ҲML(_ɚ,Hm8ȣ6$RCdRsБJ[.o)Ґ[ȧk<ƾE+iBu+/彎iW^IA~:24CMLɿDT`7iY엶
l춨ъ.'[FZP[]|_L~v<9w3tZ;`W9c7&^F)V$ӴZʼ7KjVCTVhl4j:/?ʹe68aCke6hҁe;cA4!9e#4[@s&ӆoq#y2ǻE%^jyh;+9pǳ@PJh/5vi`Ji㓾Gx1nc9B*S`bхZ
5HˬHPŋA#5Я@*CŊ|@vWM5!.`ȌbĺGHO8ɨӭTYM;ȲN,Ѫ3|M恊HX玔&>v+Fq1nʅMWwpTn>BԝD;.~鰯IK@>G:/Z2遍eDbJ+g|Hnήa=7˯xeBg.uxuXOl;e~_FmOUBS5tkZ
>'o8L˙8B/cĜqĳY@.OKūar*.P˕,gЂzy5<~8k](#^t~=W3ƣW˗zpD=z=!3hԅ=tJ=>Sn&dHv2AsԪfW|聕j+%#8PCqνŲe),fpc9KZIҷC8S,AO9:!ƶc?겻il&nsUt29
ovOh':ʒ[>iD`L˯lRSK$2ӟA8*årMtBD1i1>㖉ɝCҨ넘˸[9γj_Ӌw3Gm.D;AdFPf1e=!6в;+,ZS*x:Ә~l$cz=+T=+Mho>N/M@Ҧoz]q>B=?b;PԩC>kɭjhlm,웫L|Yuѧ
%,ILrk#dЋz~Hfql7>:&Hx_좿OUJ?+ѡA9㽢$rgq歩=喙dRǮ%[>olZ0v[ċ|L+rЫ:9Nu/wuR?~zfn2W'[v0Ƚvц9,ԚME[$g^Dw.b*`hEl@O+PFVȾPɳ$z3q>oOyn]2卑N
9c+1ҺN>PPx㐙H<aS`鰌PWĸ0>Lkef<hl2>Zg8NMa<yoxQ5<@%h*REKDDRgyJ'AAyyȦ`7*3~ɆϞH_N2sLpR_]t,Īy`Z[k:%Od(z?lM#WH5˗+ы^ϣhqU5_gRHsjKĝz
ǉ<g.3Ȧoz秣bgP%l)AśF4UD8>ϜoG.8$<X@ƕY.|1Y]7wWB5'(<?ɴtY^ȳ1y8wSkd&;HG!^uru0T+lUvcѰ@/Y3WQKK`MX!8C2,奢5|50UX;O땴nxLʟŚ68h&CI~>DdC
ZHMqrq0:k&R@V.qxӍf$Oy@v5O~.4^.H뚆Y)淤V,ag:1VQ$`ʞ|+?`膙zɞMUTYV)]si㬧2>Y/ИJ)n夡>0og9]Rlc㑌5v1a4aDLFE'bT_ӳhE:sQ0QӼDuu7Lfwxeȫ6gќu
g5tqjM购íoJ'~tHzpS05p!R`ApB˩j*iɦY%rb%mwvƼ38hgǠEvouR.~~n?!iˊʗӎ~X29~ςc4n(N*yI_5uQӸo8@d4]%j|tn*ȓW)$Ϊ%Ȯ㽫XdkqbHa!c6P`8wLҞJ5rE
SH2.ЋX!R8$L3Sfa**!L볘Ћn`(WH>Ȑ#ppӒ.Bgc*~;Ai7O羐l,UHUiSth+Tȣ5uhQy!3Ϙ|kǊQgCq!94#?g@|NŇē$v[p2ɑme2oB7чg1QF|gN`Ob![YӿRF˚5c/jԧx0
cf]+;HbQZ,/Kd1KYUVckPσq;;d˂j]䭎=ΪnGQ_6dV103&^Si˧1Ò왣Cr7IihĴÐqJ,yZmZI0z)㕡lmǹCdJd%ĺ%nɯA礅Ǝ/&荑,x:ˠ41ӃI:`瘍Fl/w<apƙvVX92ɶkYӫ$@f
D8+Iazm~6Jn6CШu7)IM>%@'Y7.[Bxs17xucG>1?m@]W1쉍+u^pZ$C=)ǑB>Ҥ7k(*3䐗tk3A0j깢+2]%H@5ʑHYqP!K$ԬBGWMHHw*]иx!,ǝnrŭ)y@>T儬B`U/P,evN
_4v1˨T.1.aJӽ$у7$@@<|=*!9xr(Z3[()dRtS3$sZKv~a狅(+5ēԉY?$[<aEl<`5|PQJZ凘(|So|/Radmξ5@&v䴠zYԮҰ)V|Ǜ^HSYY峒Ž2kd(9upl60u)`.HcvM%d7
vdpbcC4OVvˍ@鮓W|l)3FRnGw'5/5ӟ5+5|&L:6EDĩV[slBlƒĥnI˜q/Aĝ_뾓DhiQϑ5]v#nK&S|r'iȗ51ΦYizIh?5Q_XLf愼xx;sttvÒȉKKo;w晆ɠҎw.үRMWlEǋ#S=
fŋ励?z9RƮIЦ%`,hʂ_x,=zUZ)S18yhCi@x!5`6f_Te=;BrƄM8*8ƃF=ŐʴæӎF$|ʶks~(|oώIeiJm^!~J蠪Y,l]J8ӽFȲ!Sdkf2>*Zƥhap+Qq1$ngM]qvPfp,tÉPCr
E~kCOkfl..X8|<eԉQC0$#u)Mɂ@Û.8_үUʐ0uF媞vC_!s^d?ktR[_u^dMѶˋ]]cFy7隧밆gC<IL;glXA,Y$t7ʮby5^+&J@Ź*'3晗ȗS'5MsdC0/HuTԖ*q/x7%柘n&BȿN
3cY4gY@IP@vvWWH/&Xҳ%9츂摁~LQr4Pn]Σ[졶wJN?it@Dbn5`H;~98ozi瓸xł%)6jfA6U;뱌d7Ŕ?Fp,][AйW)Rvj'o$Uq3B2,IZ^zJYv&nvC1aw?)#P+MbOfξSrx
$GVĈIWR31kca'mLε[|Y4kIk堂EҊfɭĦn+<#%+:/1墐]kЍyS*:pgfRW8s*ɟ]tuW%cg+NXgu[+Ibf'+%jjêk+dZɉFI3Gϙpf=I((.ȸ`2mЂO%v27x#z^>FNZ곢Pl<g?
ώ/3䑋:7η>elR]H>Ԧ_uSpb0n/ƟHG>W?e'V@yt%651)+Bż>idpVϻ&,GPlUdbq*Q$;i;јԅ'U*ȅ6㣁=xfqIeC`Xy^씉j9Jԣҍr_뤢MnM4AATȨ7'6ѱ;|U1^+UxxEnnvJH
_xR,oFrUsƑ(I䴁`ҹCAW`@D5Y1˯+YR称PPJh|ҏK+0u>?VoB.졧蛷AD$O,:T迸0YW]p^oʢF+`fr3(CzWgEā泥%~@ŨŪ9^_P|iIuqUYO+n䨋cmhcĈzn+w,뷕q]2#Y?uYԅYg
54[ŦȽ+i:CˬXskd!bEgȜfc|pW^9]$˫IVV쫃ŕ![]ӣy>]nc#9ĻCvHl窏9+7?P?OCG?yI4nIGЄ2m륡&`:mq@pvVGcgZ˥LG_eCh趏xk4Tca|mC滖+]]OM㑚sX?sRS^?LԜѽ
uZ쾧6>씵l<|k~,rq4Ƚ$81#jEFM>y`Ra:8TӨH!]~2L]8Yu(Ob`m<w<|W8[1W|Tȯ]zs楠FqƁn;|$H毎vqHK犖>&H!&Kс$)jJ)w^[jSǯnd]vЇwӫQ3mX'hfqDx6Aǯsy6
ɳ6M(`Ǆ,粣輜:FeoRʳ':fkfcɪ^v0HRWG7B=_n#;s%ˁhtЖuWWB@o[˺懾ayu`Ċv[_'~qX;$^?I侱/Ԋ^fh녡ίos?J=|C?Hz^gX1묥5DjwwdJ6Sψ1$irsȧtA+|%侴TMԊnԏu
XȤaQ7qi(s_OyQL`0ɲ1#_bvDx䵯#iSR?m?n+Sw%[_l<<%ǺN=fu;wPB=+E5t$ːqfmV6鉏5u7Zq#]^`(?_]J9~ig)o',N1Z6G_ggf幥@ɭf|>oӨj||E|'Qxr[B3z㔒O
ko)rGKM53JY1P~ņ%FeF!n(@r^l[<N%0S%tǯʐC+U~TJ맏х@t*MRyqzlҜZeQ?FXwRHGy4wELd:5g뱱肣[v_qmRY3xva,^A䇯8e/ʃ?Ԑ;lK]EIkf2y=uYf&O!OEe㺡t:
^M;,9[WiwTyV.dÉiXӉ1u*ш|+|㲭ł;0U#ћsK)@'ƎQPG`%_09a>%F2M]^uUYnt/6/e5ĺXj?cXW0kioo0DfN1Al#ÕS31<Э`<覮j1O>0U/*^Eѯ8'0pEXtlz=Oxq|8
~]МH$xj@h!SoFukgZ묞rkϰMI+ungIu+p*ŧźzM%@~鄠(kB䩯xĤP6v쭇ɡTȈ[DF낷__FDdȤD堺?蝻JG72h6Xysj?@8|ukKK'=ILGJ)ӎH6%ĤZuuDmȵҔ$Ld7$KS(ԮXs#ѻy5
LN=ne;$XKE.MG䳌ҡ]s!Hx%DScM&Dy%~碒ȰiH@|*J%һ?8,%x%_瘭N7˒ʵg+i0z_qОvK#k5[qң'BmzWT*^;*Pc2K:Hr`E=ɿl㒯AOo=l,p5/yBVɤ$/ʳxq7a?'MuM/v?
Xnpc%ǡN!,q@㠭q2Ó&2AwŻ.pX6$1`:Q%T`&0bPSw%?άȃ]J=M!!xnўɃyp(aR`krO!XA묞!13R*&vC|qO$SI+@`ҽOraS.558b|뢏`rYTC$[FΨ.@BOQHtk(WB+LDf5
%V01cuaOSFL'ԟ%5`2ĝ[7rQ73eHHе#SeUVFGU<]9ĪƳR>+t0FDVk8l^7Ӯ銣`ϕ$Ȳ;UyjSm粰vp::tI.ĳHe5BNiF'ȅ~F/zJW:dx*BVƚ;5ϠW(h5g<|gScLɴeX'PL'˲
$дpG7(@Ѫ^.CGdtjo/u#BDI9JUmo7XЀ2eLT?k1uʎ+[)GhPm.Ҕ[t7ӲCG꾔[ɾ˦wŏ^BQABBa9(壗˹ȇ[zDDZ1J1=Ҧ!a6w'X0V<YWCOɺBvSold:)#eEKdjǔGXrZ#0O)
&!8ZNEmbRug;6ma**#xVH0OLS[%HVNAUQm9(ôavfeKi)e9TL&뵗+JYȘ7˃*VӺωLNVnŦsu5t+c%8,[E[f(M#P%Hw<`KaEyʋalhN>ƗyyR!I2觨4E$t8ş?PZ$xo6ǆ
q97ЉgO&**Ѥ8l2=xe^Ėd.糣|eFΣ9qδCefî(kF><[]F%3;(7?'EEJvū[v@ǲJ[6KG_w9:OS]#埠Pd~HϛQ9,I䯃y)X96y2zƋ7z!1gW:g2Y6nq0^ӘYBy~涑Ђ7D`!삨wҺ[
MǬjCǂdu/?lf*T笴D(bC&7MIdu6V:PE+bZnNnS/!t,a#kRp|pTzeX1ŚBŅkU:B3qILs[KTEHC$6굄($b+0Ԙ:O>vԫ&M(鱘WR+<LKuk格z+~$ѠPs>>>Ǹs#iL3&7uyȁc
4o'h5yEN,Aκj@?8/XKU6g篡/I/TYĦU돕îϓB<ԦyrOÍp~J$<83zB<vı>|i˫!pĐIu7IÁ#Ge29G_|0nlV@P[.ARe<ȭBJϬ뿬bMZ:LMĿXɚ䬑ȭ8R%Yb[ƻ哽㪁08:ыFlV&<)<
L_0L쒙%kd@oDWVyc`]fWckP2v,f91EƵxcƳh?J)*ˬ$8x7I礉%/|~^jF<g>f:^`瑜h0~EdЁ#_p=Ѧ%ɓ2rx95'=攀QƤPGМ˧ftS:JpePǻ8YUiL)Z2ɓĔ^l2RbzƲ;K!oS8
wMɏVF䋎9+WdVw!i?u%BnCCb]]]yjV>y22fū>7V32ѸL]Υd8ˠ&s)~itH@rE@gbʟ,[Eʘci2&κ&EPF:Kh=i>^eǬ埦0Ӗ:/G[MRv#OI=櫦g뉁QrIKBÐ8#Z&#JyAC˷5+5Y
Kf:_]驊WR;_b*D^mW@_VhϐYp8ORflω<^MūJ45˛f'GX菗czOjCSt]KmWy*GM/L]äWLYWNiϋ`ve6`]XihĆs冫@,˾LӜQ+tI4I#'ɦKS.qA%4Vzp灳F[nT6^3)f4%y4y
zBH#qWte0'n˶q?9*>xeȀliӈ敄[z]tCi`ǆm2=줔aCO1@찐7ѻӽud1E0H|,mgv4ml캩AzTy+e?jAN~&81cduN<ONYdSe$˂0롚4N>+TC[U!Cs=.6Cg!uJTKHWREILd.Q
KąЮR*WKeWO)w9Ҵ뙡@$rht>y|;δ11^UʺOO$CJѰrқoWB?ʚw^Vubh@i~><4ҌX#ʎy&qh.tlĝ2Dh.!%`Y$Ӽ4SɎ,l4fZ>9OW6ZEkCiOYх;sOȸ!6OcCL5vkQ+OKi䁼^,
u$*bYѭk2][ʱ[aJx郷~Dn9'$3B)1KȆGf8F5<q5_Ӳ=M`췔J.`74'ws&$|K2;gr`S2e+vXG㨤AR>뇤[V9lLskyKxQwpgcb/ȆzqӭngwP:(|e4IE2;#8_6㵥^f^/0d=㮰(
6h>SXdMh(Ԛѕt6<TFs|9dT?Rhy>ta4c^xԥD?nrpOT)Epu3ʨA'+`EFH/q)[hK睕@ilư,AE_Н=#.R|.U+l:&@4PZ367.lK×/nѕW*ЄƁ!溭9/_*SfDMS;V8|ŽGʵUe`
y&y/B<Sy5YW&`|Tzy˅.U`yɣ#H&Ufp;3ajVA=>4qҏ*GPL&4CrHR*g$ƂLӽŔÞ砫YW[[a9C18됣_m枊c4Y<k*gpBʓ`hGj2Au5Vq:#n?%(|XPIdAnZǂ>c=4?Ĉfg]pKP
TnnW:o끚ӤqY1ɈѐB+Z2RZH&sc塾k5;ul3j)rM`XyA0p2<0$ɏj`pY&Gl苔&ϺHm~M'bYv'6$;$sv&t$]=yϫtÚb.|IGZΫ'|x&79[h賢&ϐɮ뷞5@u@yC0$g:0nUT`G.YGo
5<7<ǿT<佲@ːwsj@4?!Vu7Ѯt#k;7k2Ǥ%g<(fv蓣e%U)Y@:A搁e>Ԁf)m?AujExY=gPxA酹^eɵl?_(irl:)^=_䢯W^?~h㨥ƆɪrM?ǺIC?Gʢi˥8Y3gxO;b@79ϒccM˼饂)P?
QȴӠ@>qs;@jt.5h34?쾁g9SPopјL<Ĵv˼FRX_glDmxpRU^?Åzd~&W1Ǫ^YsCTS㓣f%qj믝EVDc^i$~eL:xb#=7/˱條OǏnBɣɃ*m`ǆ=;u5jUXA˳傕ap`ɔNPQx!5RHф%/&
zNҲ9|@$ȳ:pcXuԞPK7tL5r(I,~2@;]?AD9Tds,~JW:bêS99,UZd73gPYBk!ӇG:KE_/!Q`Km뀏B+03<KNLr13S涴Xu;=U)rjҖC$ʹ?Ro=pBej'+hMq'ȕm˙*L|xO:
Lh7쌭;咃XR?(%z!Ҿ[䭡gYǽ0>)PyÊdS>GpnAUH0!QQP1V$;T(n?xzue5mL3b@牅vSSk>E8S2PQulPioHV$vU55u.yOCqZh?`;pdx`굿˵jimL촋/3,5owaXϨK#c2XAb
_A^ck,p!_1r^nH)Z8Ӵ0Ur$nx,F+1y~ŦH0po1䔦BILL4SV煿nzPjl<mjm;Yq*c2f:s:Lcj7Q#!N]y2_t'~3ʳB7.*v<螞%2w`U%1Fѿ(mrf&g<oyyNi&A:Sϸn巕7CÅ
S'/ɵ%O:.k0Jùr^Ҧ*$K$*=HFBğ=[Vȳ#S_FeĶqm+Ɩ'8$PzP専(7.Marp+cFL:8˲eEum&6mr<aL5㭫t<U/zHN|;WBm夺xƴѳ_йuԊ>IJ'!EUMni84WW)$y8Y>鮖:$D|!
BhJ^I9ԫ|IcJ7)@JO5Flne<`lj*@[L~:P*.=XDeRpť;˜GEUӺI99plL%Ϣ5EVH壴Yw~4n8T'(Pf!UZHRY[n䵑S=?F`FX1jp떣d,v|_ӸzȴW/boumqbcsY$4vQ|!<]2
u!ӦGEH蚸g1huP槞ѳQӯ=FPNC5#iYF>bF5ûiuUAZ9果%Ty]lq|k6<h8%pj13Ī<Ʊ?+<tR#AzO~)bY>Pɒ'Y.j$ĝ=/[1=Cw!!qiCs^㔬!UIc2rbv^xSpKd6J8묳ӧ#eǼ㵅Ŏ
)hK#RϣH*6mȬ*1<0|*O74C3pQ㲡Zd)tO!cN牝=Qb%ulxvц0q%TF?Ĺ$HaO>@ga'嶻]oa㪂Ĩ]#Dv7uU@k˨Xy7Gju2ɜ錥<Q(R)<ʧ+f!62wa/FɬxϐKt%!ttA懂ktPYp闢Ȭϊ
6#tP#0o1j<U:F]R_W:B4^7kdPsϝ)`$ƵM@+Y$CpB[š1þ#ҍWDnLǠ[jalĽ&gS9Y6kҜHu뗢*vε&i#:in~ˉ2sWaiBůXZɟrzǿwIRf7%fGtJaB;eo<F+IS^ľ^N#]:>J
;;ϵ즯teK(Q7m<<ΩJ愩칒1Yim4Yak)KFzq|Hd)ɫ3J8^lg=δa@'?:G&JjtiHXNwx6S&Y+]bѠϠMTVu+=;>3`of8jG%<4sRdcV)H$rCK2l2掣đ3`~WH㳥tI:aC|9llwk
ŎI|ҡĴggD>^B'zhtG#AЪ,!yzļ0ˋ@|B(ȼ0R멷eU,:'@?ƵH:IO6h$.hWL//k1ѻapk?>%0wiC]j;DvHJ23wŕ独t.j)꺗ViDe]JI[Uɶhx(T~)!ʴi$psƦ=BqXaY^x:FR
kԪ4>~_B:r(U;돸KMg1uIPs㳷yM$öwʷ_ғT.D.wjE)Z.νt,$9o,G9*ї(7nϢ<(`)R)S(@;%t#3쵂Z@Y]+/(I5mYDt[ȭ*$n]%栉@m0&D=`SӦYZ+hDsb7*yʊpkrf1Q1)
㺔)~XQ2R9ѕN[<фҘ'ȹH8ԔG1/R0VSh=i蚗ó|`JQEɝkK6GQzo,USxyz3&媻ҝ<g|GvL'AVG淰6#N8R.d贅m=yqlxn짿ʇr`,+F嬿]kgY5$VuPЈ7%)bxqzfg5@;'Q2MQm#0I
ȗ&++[1sP[晁Z6ȥ2Cc;@,QHN`1CEwr]Np=M'tWb2dhOozdC`M[jKu6RUWr_J4/V~2oeRvXɭh&>qHiE~Yɥ8+5^ejXXyTPL0/^JŋYVrś.Ys*:];y˥.Qf鑩g3ux(9
Ƌ姥X솤[=8d$2PTWȹ'mkdø蜒!mz,m#[K$Ǜ5AŋGc`HrB˦/nuF1@t`upeBƧQl]6.5p%hԀq~'4VtbMmtfӷo/?:%l猂剛抎yϤ蝌.P$0ǧYΧ3mH'DgE|M+wKÏ$|S,N9>BJxgK
Sz#ʘlnwcMːUϖX%VbĴNā$Mv'C$+AXPS酗2`ҋLgV^<AȇBǲtJ潓椋[L[k坼FK交dX8];XbhI)wWDћVo?j^(i|G2p*Wk<8[<p4|ĚӲ!2Io!zoHȉΩ|A%<<LWw㙷^|3|싣H*;
*(:'Ӽx:<ҭƅ@;8誚(hqƤ4䝮HP릶_TBp6JQ?C˪gSyJd席f)p:M$6wdQXh똱f[R.NnˬEPSjW2AKDg荩w篭R.ȌeOǿ1cm'_qWceЊќ*;kFM34cRh+Ҁ*Cqa%XT|swOɵ5&sIqH
/伣CќƆKҐHM_n*=kbħsC7dA)D[o5AKh=g@)4_XkЧmm땾$Nh)U8kWBh:[@c`9_Y2NK)p`ɼ=Ьn9~kTq6wBҡq?˓X.q;XPŏn''q|eThNlQ?Ty=|bP45M4ibuJ)xg0q
4sљiGєWGoi;j:N嗛dxAP蜮r鹃RRVUBm5jwsԓQ䕠Gf~e9|+ҐJAv_?HC$TC;7mƴz?A*M:,Fte&Ğ뇨&],+W[Kr>3y?EW˖聑SWLsIbfitq喝@(vÈ_o=h__dBs.nt7E,cA2
7=yωҵM2<EJo糦XRfŉ˥.S3]!hilM/Qcp8bѵKhHP9錟)d!쩯Xi.A5YƛWoso4@5UY<$^rSOxɿp,*$xpfw!>Wv'o>ȆԄDv:oA[7=+uń2Y;StmҞZfi=Ԏex,X@xUcQd7Ԣ
䲳_.eAo4^S~楹Ʌ^c4S5yEMěsbyL8tI'rsd0bw`N4yJ$uκVdFKUKr&L9z?U@>I8:Ũ3$#=N3oG,mvA<㢎h.āEbBP9=Vh˒Ќ?X_!H;BeSSVұ#N<1(u˒Б~g_OPvG봹!E
qqĳ䤺HLNxA.Z첛^'Xc饞?Az䷃FAA冎0뺓/痥ne5nSȃ;F?|a[FB[69uW#,ԡP.d<e)/EMJQp+0擉ɢxПGr%<Iv&`fOX:#4ωu'3't?nXÉˁr3e>GeNԟF8@KJ.Xo![,e'fWXm
yj<vśFH˧Hg骗>YoaQ9w!A懋au#Jr3oLþqmd>]Dj=zZ˴3ӟJ<zN:읢QI䒂227gzfYb23)6Gttƫ`HPPTI婡%~R(TԙO驵J9&HϷȽ`I4&|7n/9#j[;.]x!pJɃ#'_4p;47(v
MS帲#弮uvbH3o+њφ*Aԙ/(YJ.mC>ԧB뚐x셏ҹГ吰Vz<&ĥ4JQ/wE/4˚іF0NER굩xXȌ둄2JM麍LZS$Z䓥&QI(q0Rw?63[x?w@ovoxd%RXaç!BARʊNFE!rjEi&[BCsI~)Ԛ6Aw
Bz^>%е:93d^,GPw&3fm@cO%Yf;f;6W^&嶅7'q'ZmDǫj7ί&dMY4,,+=Jgpmd!T*45~bGjpz]ǧ)`Ur(quː,<94;闦錔>CѭSC45_EqL1~Ӥ˥DʌZ0Q`Џ%:D`Vc6l+w8
xhN4ȪЦ58z:BǂZE5nxm,ni[.P=4MX6*u3cy0Ϥ.),|t_paC(SBatq7HsHRD>Q$[bқI55KSs2qo谇c?57蜄pJ晶=R*F<锯t+NceMQ[yMO+iU>Œ`CΥhZʫDbQ4u4`4d@
e:ǭʫdӟ9t[vuˤSbVr˿h3R2+,4Y%l(,#e!A:Z.EWξRw$b6yQ=k쵰$@&E9MϨѼ;ɋD#lõ6UBϗc踏#0cZ%muʻv3[wӬ3w>,/dvjǡ<sR:yXiZ(wOĞI'ƄȘqB˖bb/Ctϑ4<ϋ
;=k)dd*8B6絉tHC0OoϒGI@S4~`qvkˮ+hILdCIX+<0ɺkIpoΣD4unUrpȦ<&^Z6%_蓃_+0h]~AocAD뺌fk㵧yZDyѻ5haPD;wŎp藍|bP=._Ŵh,悵ID_DUQNy#V]S˜:/:2
OkXW!+r![0]6yBƻjӊeuȚGhh.P?ǭ;&%![?aG6+ʳh翏)GžTH0h/舔Øow%e_6d>Čz&E>ɋ#+PF|4χřf%nBbI[,TWo#iN@誰4xc`qX|Auxfe5!;d`bħh㬣(.,ҍmOK1.q
SH슱S],ϴKHˡszY3oJ(V=a~|[2hNpPʶywѹzq9J*Yɝ]vbƖwïW,'o!0&o~ђ㵀plvt&0[glŹbd.m^/OVerMaB&#詋%'YQ4'*@=đ^WɋQWS&Ǒ,巸521;:y1~ļZTDj+0䮰l
ȎЖ˓itP@bpH%p.`_L+볠oJ*4s?ɕq?IHCbHKwODHxK/])RD#qT)Xҁ?HN[AO.8IVt~*%ouWNZJt4~n~њSE87i~l1(ϻʪnovh3]^nNflhE/M˒AQHebǎnj϶SJ]tb3(
APVgflFUZ(#9]cunYǨgng^/~SIMxum棨:fzL.mf4ot恹DnÎkk7bP:6k!Flr3@E_D=[,4^OZQ|@f)?g]&.)ҝubKqS)O=sXÔ3EvnbM;ʢD&Ceo(;fa`CUWcMJϢh^
go+@Un*ļ:ҴǲRW'Pxa.(RQkg:nX1H1GtINHmĪo(cZӄ226?Ӯ/k]BAi[Nx莹lv1X`QqwO_FaF8KȪmHʫWq_Uiɥ/5a(B?üsV?ӳN$)cʯ,4?nW2k*/@G6|G0gAgVNf'
+0t&Ȑ426@7TD~˺HTHBo^ʿ%sϹoƚzUQvFtg68fRI]IvlXuzXpV.Ƿ$NTV(Ƃf05n7?qw:99G(ƅ,ǥc|y=EoJQf(n룍AȨ!6ѐzŚ)7S,極ĚfG*8:Rk3w%_+Ɖɜ#z7^2)yG
#ohfL'Cmcvd#,z.BkC>]ØЬWTqxʌA9hrPT5$!22C㧉^9,2yV5>ϏH!c:(tɒ7qƽfxTSfÏ罷PR1从YJ*NV/E=e@,7ȈɽQ5:c鄔]^Do쀲Ԯ'gAg1TR8#gBnYZE%:@%[u#k:
Ğm2җ8x.ǪώtYl(R1CcW]43u`4dy)6R5ȧbT7>MZMOfJN襞29Ѹ7.2eѪ*~.1h[冑:f`DX*䋌l!Y7asIr$OSϔzXK<|[ɍǗhMBOmd1eK`:OEXɁ䀴V=EhSfLkl[ſϖ<mKPNý
Z'R!;q;7u$EI0ԃ~#J㠠/Q`Ř(]_R3њӏ5BR,&ӏ4ϿJIf^ɺȶxB2Rt蚙usEmm뗶p:CUжgҾ*~'+4YPVFP˝#seĂHs)]4RЯihK~,.ǥjǂcd)5]녹IeWC;dҕ^>Ŋ`$((hUh8>v
oVNocX^Mǎ=_3Dˊӫ~>lTvaЖ0,Wf~zž4CɲXdh<A9gK,皰^k(ǜxY/Y|ϲ9>nzANw*F=A鯔Fv&hxXln$<I@g$TItyZR^;bX`A'VPK@4p˳(4BSL#)w)zeRs!4stgM3c
b(j~@#i'RJtTɼr=<*L2MgbfBwsqSȄS;!u/0Uikc~GkK/脈ddk9ӁEǝM@L^|8i&@e4欪J[1A琚1|Ade6?##]쩑ӑGz@aH/<BNbO5hl@Jgjg?_1X2dVnL/^Z&BJ9AM`
`HǃPIjq72끁8i&vsfO융?ҽF0NW0+h?A<5)'pX;*fg+XEjp#b7z1Ni;ArBǇpʞNĜˤc惏!zy砼1b劇8gQc<&TzDjf6!.)zR'A$%`8pnC(W9bcF67ыM@64쐒fó=0H_;:?
?*IlPd9A_o1ԍ$mdW~q[i_9e$|9?lR&*dB騞a9~TZqb,#*m<2B$yzԏ]ayR3zǂa3yoşZN]'44pz;,SUk<lǃ+LƋfˌsykk*.]ncԣ<Jaŗ㽬b!,ndÇƧ~gR2jϳ]6q@J>
4q]矢)6h3cLǐ:oOQ9Ub+KR1KQ~έAn7>aJj#qXťpb7aj㶅lhd/1L(wIq`9O/볫qdҒkE,ϛ]#:F!R_ǀF$<m鵚!#qbhu.]sɲPPtԚkCJsI`DЀJdɠEoR鯄+wǕ.;C@Dǀ,:F
Ao^O臡F=*^q28&vco>undŪ~řȮ**@7:dČ6j5Dĝ7txq%j*XI4d@髧U)Ba,~Ńt@Bo>^RkVo?*ԍ7.=U㨞嵗UZs]pqũQx鄭_p`,ǐ0'2#`1dg_@æ`4hvtWJQ|vWV1:Bh*~
珒%ӷ~X:3O/7T痨/ǂtzbq2DaP1>YeiMIpEfXd+Fѷ*_*dW3orZ^.W%8U,ɀpIi%W2d*[ЂhpDs&1zm`|LҼYmJζr]:t,ɼmD*&rM+yZQ*R>74EYMj&ɊL_Cu˱hǨ_EDH*
sNF3B6e!84/6R)Q*#茠攥u?LXvS[r%PϨJtOUY,^=I3_Fƒe!İ?t^[]ä<B~X0Dz^8&KBԆ&'vk'U1@_*]nL1ZCcr`L^.Pu0!,ҽh0SoF먅0p[soϏˈeT~2VnEfqL1Pr
jʄ3s?l4aq[.|&[#mumЏL5ˬ+3U6>^5@ˎ]ˎE~T4h]nL&A7Md`,NeOBA1!s>[uV+OUϡ47*v7|UZa=r3ѫ<kƵeC`8Ppɢ3&Ŏ?ɮ'Em]T~v!ze+rEybr/[ɀp<K=Ҙ<^B
ӏrʷQ䵨c>ԓkґpU>J.NIt]hp!M[TYW0eg596$_OD2lm@Щ'*~Oy4an:HWEqfQgM㝡+a(KX:&X>G?+[ȹ;v<.1ѻUYMb|m!r]s*+Oéc~:9s@업.v>W0T9X;2pëOXʱJJ<
pO[SbgX@ԏ:Xy깷/Act0n^rĳ+˒8嬎н~fnx~5y1mI<sEyOjfEf6n<FFɊcVˁSş?a>IeI477kӽW1n'ETGD<#KF[5L뿄:=|磶%=8@~Q0H=B^hi7,nK!YuP+˔Vw뚟L1xS磐
:Ƅ^9f34UbIoΥ0*zSAO蜔%7ZӀ|qL:γN7Z.6Qa<S]GC=c6%w)/ff'Ԍ5ѴEм'E?BC`|&U$SWjU)Œm1ZϤέ瘥Ba<Hza,@u62bacUH2ƭd貒afiI$Vq<`$aN)c'/Ƈ2yn%~
'g&^H`UTFM|ҥ=l)$L붯V/0xrdi)u痖žM!)HeOTq1kNJCʌ~NK=>zlSĆSJ6z5>e(;vK`颀2ns諦柱i]爄YT>bW~`bG!jjMdPfr,nuӮ`4Fahw=esG(~F[2J:ρr4WґCǪʅ
CCΰ45`Z2O|/JćeYυ`#?B97AYė5^`=Hm=倣G'ɤdPƧSϯNZcboWP濥hXф$uDCjA䃭XEg#zXvrY?a@F@虓i'역(!f;uJF@NI2`ZmdN|俣ңG8ZVKVj<%Dn6[g,[$tQL(4'
#;1IDv.겫)eG`s#Ƒ.F'&.ǟ[$2ɠlae7έ@?K5+$o,`^@DYɞok>l0_IrqƏTnӍE嫧yllŐT5h悔:+bEqїGWVє~%F!nmF1:Ơs=T0]E)7^s(iǃ#_䗣gfòR$eW30b,Bstvy
qrrozGdnz[C)0qUD7go_`4DKR&D7Ӥf_8gRKnwkKt8ņC90VJ.ƈ=Q^^'UVA3Ț#PFtLCGx=ʘғ;阝+aZ0#vw7XxVm.쓕/tiAYiZ[eWQhf?IqȖ칬kCM:u26ntieˮk@,
#Uuor+ckDblO2ssf(uJˬwbNart7:>S㒂$빮E婖n4;~+q3K:Qf/d듬H晐C[r@D=г;ŎаjYDtCJLQT曺|1ҘuxL7)ǖń50Ʃ,Rkqyqy붼.,ӈZŵ:z/#FclA&C郻&XjXsjw?ѵ<v
`In^^~Sc>ȥ%KT&s9뛙?ioЧjF9ŌmdoIinHPѨXs(ZσN0豜Ȧ=ҍLϷo贗&сga:J,_`<@_hC5YoT+hztAw삧F+ң94+wC>*ЉVKVX`rq*Cj6GR|IRiɼvxΰ^[ǯʯWc;Aǻ(J55
6)59>%'fx_iRV8Gyaˊ8DU]_:XPʰfe#&ƶ_IWRLK<hRj㪳RA(kQ=ыN:獯]B<0R/6疯lƅ18U*i*$j#˷^HWsS(T%mħ9<rh尭?A!uƏe]WȷJtFkYA왒2Db+ó]Hop$&Xtq(
D%QU9#9[@_QA2AOElpʼ3Ԁ96GiұԒ'f.昫Ȟ>>0y4MF<fpÉ_Ԯo/L|Ю2c;ʜ0ԐWju0)hfEE4ǻmh9L?bpQ?s,鱌&EϰMweˎV't7ʶ3CX:>GH(A(iJZ76ce솥:LJ)˾dʂvNo
@ō6DP:|dNQBjϏ2=$/хlAtp㖙U@MKŪD6tR:Ǝ,9^lj.(BɩI,3tDQarΪwB)3mэ#dtd;sch:1ZM%3~oPv9QÇu18cihS``XIW[Ł'wE&4i>qGʄ*y(M9뻺DM<BO,Jv|A
/f뫽e3rXvd2@kcVjdGj;G'FvyR]'T]?_澡SEnxX!'n2J裖vD努Lo&2,q8N,DJGv=ъIr`v'GYƺTtOĭ!6c3ʎ;'/i?89mmqA2ǛYGYԏ.PIVqus5|ʖ8(Љ_i<G_+YXF(^
+yv1VМ'Y$yw]R0%n>冦`jnz뫄˩NH:P@6jR)E:(I&P.Q16;gr1[5mW6ãK|pJ|V=XtZ,*4ɤ_De춦)Ca]:IԖ).fжfx*jsl.ß땍uE!~]ɘC$跼,ƖJ>ԇlpp%Рy'HnX#y|`
:!S_d9vHiP褠湉8!%Ȏ/Kj3UUE81z*ȯxDv!@螟쑭.Æ|(œdoǘ9q蝗1Yq$/Aԁm琱k^:@&/6_aS4x&Pb:[邺DmVHM?y)j?2nF緁oXDѕyUg+CSY.IP<DUaEy_&5%+NȂ4$y2f
<Q^ŶCTkHvv&BҝqbHҨ[zȫA^lL]7J%0N6sӲĥ_cwmbnEDzіfhˢ[Gkv]?#X+1=yDԓrnR52tYRǵ^'DyZBvan|IgxK.8ib<j1ȱXzӳt#_v'eOM>[;_[ԅ猎*~ˋ䍑ɓԏ:6I
|ZSj4m)$RA3Gyj2BN67RkzŸjèRN_|ԤĮ!R*8R,MW($y'찡kUθ|~j$)[AIx5hlƨѥ(*_$:)3`쭴<bЇ#γL,Ka1F`|ѭ&Kя#?hN(Y^Ӷ.Ȼ?o+5|mb~;2#.A<01vn6<_`
0H;Ҍ]CēN3*ez;<ô㝙VBqxĉMϩǞfһo$dBqҞ?x_l0dJdɟBoDu;,~x[%U%?,Vtǝ1<˝%TюGDHR+%;.goVjTgą,`*J3w+_뮺t9*wyOc)+O>q塒r7GӛѐLi<rP&,!)fK<y
13|X6B.5ҖOJ+!'B,:]ɹm@*EP!λR1bB$/+[z%1t29ЩTm6듨tK1ʾs3Hn0B[N::EHw婙Ҥi㝛XeF8nůП]~BM2Ű|rJY=ˠ?0E2Ƃtt)s&S34^fǯ5=[i=e!aL,bIL:3x>2
hg;R봙]Wj8N@D=*+5@MUG8C7?/saJexk4bU1*bb8Į*DVxIBC2xPn%9@PWf@uǂd4&kSt[oFGfff2w<*;6QGcSZGԑz匮kttTNA克FqHHy<тVf>Orэuh渂.feѩδTȵ[
')MGFM菄귖:LRЇ@?Sˌ+$ZCoi_^n_0ќe)@52#&Qr+ƙaYrɜ)vV1'eGDkdƬW[12eßy;sR嘀<lzjZ#?(䏒.6戲錑1'ȼCɐlxʦNM㹢+]@먜)~ȧc8(1&nz@DAp[TиѿһC0䭘k('L
B7(D<p#//V~w]SKttĪ昃e;G!60cKe~UZ2Y篯QREeѺEJRтӀnj[:5L?>~qeXԟ箨V`TtT_tZ@K$H|ɒuM瓉ǖzѶt)3=EЬ5炽h*uD5:Tē+Fc.Hd_mҊѧw=%H#d$Br:zt<nS
^ΣF~Pc%q(b,D$s)#Br3J/ϖ#x~ņW#ACRz$FAAė1WԖ0|mo7tytϴ:_2m*ih.2ҲeOӼT:ɧg>lTl|#6sTeO|.a)QXbSDmIĽ?sPQ(!/s5ǛΩR5Ӳ꼙KG_2'kDlK'읬ȯlJw
p/c!Bϊ2)+Ѱ[yw迺FOYMBbYh쓆4^7]]k>@T%dhě]JSȊgԪ._X[Úlv#3y>lR[Q)0儞2ӀPв#_yoxtEoOβ96N*cWnab]J_H)ά=|WfhH%t5f諎b#>71VZw]xQ!MHOp3CȜ
:ȱ$UaU䖬s4`/!vv䌶lFQWyU)!0a[FC9˹ObG7<ӉfA>Y?VRffnH[>1&ɼ@z㢅sIAfB'eG:_2_xyM3_E].Q盃.7릀ɢ:StVf/ol;<zP:϶IuuŖѹ7c&Qbk/xKVW41uc|UCʍ
X^cR_SY_?h/f.ϙC/x2B&z,kƪ䁩Ӕc>s剔B/or*hH2>.q^@Ϗi*.e镋6cy>iA菔`Xoy/HQB<Ȯ|r_/p涅|hshBS^SķW2cİ1_RH뱆|k7Ӏ@oɣ~ϥh#KLjg^ŖteX7qp;41Wǀ8
:[ȭ(a'ǨmX,f쳏~领mp%3h'qm0/W;Hzg|[7AP4QN0ǼB;>~v,I:ԭIPnʐEOTrzOe)n?:$q'#FZeeyt^`m>,P`&UF8p>>?/yKϷт<@nS]<`ĘPS!v7W7yҼV잌k:Ǐzi&m
y蒅g蛼Q]dc㜕ķEaM?b9ґK;SfБ7$ǉKHeS_KKçA5)xbGNX4Ck|Ҫ'0pL%ǚҔ:BѴEaBv0橋*Ɏ5Nq1+|_y5BjxMZVr/k8!!(V0/*<MwBŻ,:vX%괞5F$,b+)VǴ;#U>WuFЬ|
'0yNz<GXM2BYWt0li!6Z]#>kä..ʷ%upҮ?6嬽㨽uSX'1s>_˞7%~A))X9.ER?e轲j媴ӵ꺒Ǒf2R@+cA:EH4]nl#ufCÖ'I=Y8ʩvȶ~䇝|5꿖咐Bo;l凴D&oVM淒K>o8F]ЈrZT_
<D齆|#>>:GhӾ7e&v8YA㽅gʥR~Ǥ鰩sq_LFwBfJ쮤ʲP角=~stbXj[+*9nn|]3MQwԩX+ts+ZN'/?NE/czd^?U/Wq%a6_fn^3ONIhʞqIV]oi+&<ԐCOddZu9C6J`Ў4$/p
ƟpO;#6Y857>qeMXuC)DU@UZTR_r;C57uA=;_1MKdGôKFjZWÙHg;1]nS$]]qZ?쉆칄4]?BY3eԩC0Ӑw2Qt'EvdG]RsN4/сʍmR%YÇWԀyYJUZ蕔5ĽSRQ*Jv^4ĭh`&q
ϜqWXH$Y5Ґv䭮r.q#ÔYәtĲox=,P4xXmo>Ifgtjϥ+엵cO2YGahΩz3y`V'˃_KIx)W_鐚Ea4K`vbRjOeRgiOχzj]2gTӓc_'2kZǶZ<(UHmq5KS&Ų+~k/w;Si36wɢ'iH
Xx<~y4QYEjrj8a[l˅~k[>*ydNģM!lɇ=K8eɔPuAG0/99rSĹryCCb1b>*MHRJxcA+|四ѕNkv.DO_^uʨn~蓅)XKTFҋó''hÇ9kb$wt쵨gao;x1OsSi깙MHNHSүYn4];
ɖ<ffю꾵k]c#*f~wrҌ@/+ԝ*4ȿk`[56|?KąR1h%ZFbKA>_6I!`_$[jL40lp2/_YZ*0n]Ӡ|c&gK羼iFeӲЖ?į7Ty]<䡁EyH纴xԦn;Kη$`Q%$4ʝ6Ҏo(y&T_>`nSd㯥ɡ<]
āRNB_,bd]5b:qt*flxgO踷krbojZlPMeSx煌]`>7v쩬>E萄+枔HIWLImWd*Џ?Ѵ믣ӈE`~옿g8|qSŀ+`?`И3s滚ypdQ*MшyO!t8Ićzdb;D빰t;gNfOCҘ$MV&C8_뇺u/ȿ㷔h'
z&Fwir9$pOXYuÚñ=3z#9㠙cyo(INMr[Z왡mRNA;5FOm?).GP`EÑ]10oŨq浐O=nД[蓹MlEì?R|'.M'ŏ%:墭TEw?lGwZӂBdwZӋOW+KiO7J6:Jqm1ì茇enRQt`셊is'>F
I8tkJhPOĪ8~ʒod9,XCϕ90꺋=YW7/k|>lj˜3*P(.8:yDʌs|@urϙ8Lv:c4np5spm6yro#!R0G*GmWXAJe+U0`Dcg+ldB^뀍rԮZҟmϸvjxǝ9|P席@?mX8>2U|%ƅvǊj
N?e<p3匞攸vCmʩ7!@uR.mπ/V_FeE2,5%h'yIϻ|kǬp);U'&@䇋ŕFqeABi䏰)pm'[EȒvLӲ(&?LoÍ8Ų1PElŧ)dC>y,IGViɞhƶ0T!.1s䂣ʎmɈ4p5젅wo3SҊÇ@&7ΤGİ˖=A
J_63pjjE?vxElĵEB7eƃOє!~'gC=zX藳|y.B~蜠d5(榚B*aϦ0TafKƜezԗ씏ҁ>f>a@&(3䡚>W;!pjs!ӢwCȄ*`.o~sϹ%ŶxCǧD+a_ehV53:a6@9xnvCAC4PEmB=2o@Wl
美mHoƪbf)G5Np˖E>ŗ@_G*|ʘ~RVv<xğB(M00kB431hR'Sz.ɜOK*y<tFЫGBӏ1oTJ_4os[SxnP2B踂ҧkǈ=&$ν!#ZThS_e慞W_D!N˃A)ˉe.%#'*F_Ee3泜[Rŀ*ZN*c`
&V!v+8ȄKImK|$)^cÉćjed밅壘@D$ʏ8yuYȀ<staz@R劍%*0z^үvX(_Nf*M?첎I骫`PP()ƴ=d몲K<ʪQUCl4oA`!㼤@r/Z㲃pŃPwQADǭ!M6`@o%>Í$GLRZhYCkLDşQ9V%a
WAp쑨Xİ$3zO)!饫x6ɨ$O=NbAI/XM+&側VytbL`ԁxKO>庻/Pnŭ_b'Ls5%wi/dX衄Ҳ2't;^.S8s=QD0R=eѣWGIc>8RQ@^i$鲽Xč%QRmԜh橆.&&9+EriӞ?7bM0de7|IOD
hBҽ,;Sxp(ɱLH1ȃZϡS|*ԙϓp/p륋:Q^pǤt:tBhҴ=4(wk.VSƼ$9/i`5zMYJOao쎎t)F/DTƣ.hYīӂuB&ī8>Ә8*@&13詶h銢|YzmD<E3ɰv(h?yy]ѲUCwIerZY&G4s]CX
.$KQ缩&$m71G(Nx끲/,/qÕ淐ǔV'cѻ`aҎM<(!?U狈WfIq蚙PQőA`!5nL品ѯ$ǂMS)I$3!iRJ8G._+VRE*N㰁J,~䦨%7黈*ϔLʈ氌/˗)+笭D|!4EԀyVTTrğ赁SJp66jWh`N+tZ_
VjGQg/;Hgd;ƓFcjUNpp|/?f;a7,55]K9ZӋ2G蒒Ng>5.Q7?Vr56zF/Inp|#yWKS0BH&TZ|厺'k[4T=v2z;ѦѢj#hO_LĕCcaŌ^n=cHhǊej`qy+h7HI`0m=9,úq˧`
ÂO0e|슣SA3l''8CQPWѥ3韑*e)Vk㱢#>Rk0ȁYi1F82vzD˖!y~S<50+g1鰞D7/떡Ĕp8`hf4ӱXZF*fdprG;[0a;8vӱ(PU*kg:Ay75sŭ=WXe+(QɅ]z@ĕg8/jn_sELB~t
?1$Ұd2+?0m(wUht5@Ӈ=eYr6mZP8u/T'Jwsv>ҙu!Dus9q[|UE@a~+Kme'%qļ4c;*y3(+_4垞ԍHC_M^z'RaCuqu@ѯ~^q.D'EH|XQ&;_2=*,MRK_=gDQ#]([Ht0
uA.^syuD]f!O&77'/O/C2Jf2dT*#㾫_msb./LxcgPFp9__*@0LYS_zdrj炎'Ue@oibdbSXuH'Š:k:sc1L1?]lh&ϸE?Ƴ=f@(coRd読<+mZQ5qsz~dG[9oJ5F25*
Ƌ/i>OpH=xwhNum|`Wv@9i<jƣ]>L,tq䞁ˀMʙ1GJA5>ZkjAZFǫ$t2TvȥNE~Z眘~r4X(w(xvґ39@ex^bgÛe]Lo(?.+:^vI%:|鸀s5稲F艛H2e=[D:.+#GV=Ǉ`M讪Ew˭k
3IŊ'5<Ʌ|,@6aЎ]eUuŏT=/'ldC^Ɖ`2zƚqiZz`HIR><s>WaLLR純H$=NЏlP:<I#_ųԢ6X`9+QF*+IX:H^zG981t7'$ӱǛӹzk_ǯ)Yzl;:R&LRz?BS,ʷ0s;ӉU!iƻi`
ɂ|)`Ǐmx7>pqU^Ҹ)㽔.j6?Ҧ:r趩v7TEgk^1`'lxWxb1,F(,(:2莲Mkip뷭Ùyv菖BxRu5:L00䒯S)8ʾÂxR@N<I=laD;ϬGL%^m/HʤVX驽j_Q)^)g줥0õjJ4nN3n9^nCC5$
sȧH2ˢ#nSEn+dEB:F=^ѡSq|dgRV/$үS,F$wK|a)1r&Et)KH*H(/p2Zη|,BД=(n0XD*&H:?SE;V]N%8A|W&N+qv[kQ@ɮAm%FM3FS>?D&5^!Z?*B8eĀлA+pRjf
[ӖǲsǦav8rŧFwLFӮ0[rIfVˡLLnЬ#Bd)@h^PWa$+擔r?]/Yg'bI/'aF;lHDƱIFc䶊46R!2aGO.拎H짊7J8:䃙5ib$dз>gew]nǰ4WĹѣ4nЩfqӚtRϜBi[丘>!p`|쳒4FmfP
sHAj&TN,ЈS#YU`Ԏ3iE,$fJut;/^~'B,ǾҾkh&뫚䏣䑝VJRN*f3*Zmu^R6K?ǁQƊg3%$%U29QĞIKǑ@gzƝt$ѮJ|xQA<&!/lиH?p)V|kʌxC%)Ԥ$'Ԫ*8a~ƅ:ruRjmɇZh
#d(c<r(P.X8))摩05OIRcbm#<N@ƻ$y6I;C怗5T$|ve`fqΨ쪑i>>3/k_<Xh4Q);DZ[RHHXJ铧H=CuϞ/)1&JcȢkxVf!#UC)hŏ~ph'7lȽwLzl>i]/d<7㼁)G$bdo46M
0YjrLɈ|]Fx[GJM(SGHeƗjWe0SsɊw騦7#H_>ԁqw(74垏js`鑚qpJ_~h靆3gRT<2LL;ԋB1rxMT䷜sSFR![~Jɼk劳#dm_PzlJR%hhӾ*0wU+ԜmXRʘm7=ai6ZϲZzEB7o[쨰
fHJl)5p4OT/c<PeZ#RÙKƇTɣ#Gq7aYDP(%2Yy|3MQ6/иϓlbdgɊet1A#~paeF^Z`u'Gp]OkȇҨ0#&i|_p2w#eYn"⟩

end LineScript.CharacterName
