import LineScript.Encoding.JapaneseChart
import LineScript.Text.Tables

/-!
# Extended Japanese characters

The later set of Japanese characters has two planes. The first one contains the standard set. Some of its codes
are for two characters.
-/

namespace LineScript.Encoding

def japaneseFirstPlane : Chart :=
  .ofPacked squareLayout (Chart.account [japaneseChart]) 3086
    "˔L?l^䚈栭tl:9aP&U)9잍蓟9膥RcĘ.ĥp7mLg,'he@CW^孨|['9|˳2ev㧭R)ŭ(NEb˲7y0tcʏV%A~JHɇM+*:J4VMˢ%<PS糳BnZ8jTIN51TЙo!|#(>/k觏t.P삗VgUX=ʈ$'m
H:OlzP0tt㾩,@6BztD,lO˔EKrӃK(ӏdCQo;Σ?p%[A5歴$S5϶H/ulq/ҁwJ=&c=3sƋ@Rǐɗ,##7ԅ@>7њoQ択ƅDY~a$mjNRa|/Vn!/j[G#㩘Ⱦ:X']q1Vʠ=1E38^cOiJh
srxDPv[ƃGSb`rҽ#ǃ:8e撔;Ǒ:G#ʻZPlvH4%0_0y*mF싿?~G&Aqo8,)3f_9TyY%Χx뮣:Tw:楿9Нbn$4謙JV%鉠叀L=*鮯kD7.ʱCm>oA?xbZ?7*1?:7*?`Z%nħ䶆)PӢXǦaʘ
v4j]3ӻRQj>S4r:3_IF!`J3_rBĝQɛ(5䁙<YrȒFs!9`ʗBUR6Z9J^(nyq䘃hH?!,(祹*?45=m5lfL&ѻU,B&Ui8%Fuϴ_%FRDe4tůC7Jq9q@f`P1|,8Iqgk]CƶKL_'a
&3wTf켖,^ѝ:#4?N%~|m!J_!TÂ<C~3錠鶣#qZ]u!D5KҸu帺PĕN圊LD_LVȪň^0B(g_=/&Ĕφl|*ztU_Ͽ%Y뾘o`ЫȨWϲLShxzMKn#ѭ9Y'95UM,Oq.o+[LWZsDĽ@Ovhg0yH
3TCB/xv`rfi5B#=5zGYɑ0rZB7@ZuD*49wn湷:矹d=7:7>e&gdi'CF<GjƸ:<dTȉBP)Ǽō6㹵fO豊Yò4vɒu;@[Q艅(鷤C|`K39BPYla+Qd2>z_0Љ8z!tOVZb!U0K,3˃_
K'ѓyҁf&Q˛@Puewe4Udԭ(Z+k0el_/(Q㺦ѧƀQMiIѭ)#.Iҋ`涄骟]]QUPĥjőLMB]]r|@Hd0SˉpB?ҀU5[NxDC䁖a<N$3,+!9Ʉ#ȡs78OYlR*3O9rѩ*SY蹛`85[?FβuNZǥ
~=郣bmsoR.ZNyvMxWCAT잢:4'+;ePr1_ѮYVȢwgJ4`z~(#:F묨vcuF孌Rtқ7XT.鞆=+Эl.ЦB7L:dhhmG1`a.V`g2m)uYk8Ǒɣ)άdX:W%m$IdQӍ_/Ҙf=E[W値_<kIȨ6<
P;=P7`oRO1VmQԯҀ(?c9ȻX8儺R'yjar6Ϛk#saKm<'SêrGJn@tybK,q3/vt!Ԙ2ErɜkRTjt&PӐSJ明BV6vWIwy`Е~@c1fx>`1]lUdWNb(Q.ZWRM74>Ҹ='m˩Ԕ0㜀sB
_Jjay!Yw!BoPz(8WUZksWɜ]t;?睨!tX7bP^p&,5c]Y슶#n沠,ygdeʃ.r|X[mG+~XeG_=$Wj|&ЩĀeEo6Sl呞B42M1)0TMsDʲhToӃXq9P`c<r!m1c!#!2ZWӁ,X[4Ґ
olzI.S?ĵXTj|.#Weg^:(RvlvY>2:Ћxjǲ;(;劐^7x~g0ïNk,*J.h?YXϨ8숵Ҷi|jkCɰx688M>#KS38Pɂ`p?V[s%9=C8SZPACfWҽ(khrZAB0O/lrnѤHny;Fße7iK
184鍌a4Ū暫L9?#Z?Χ.)N4yVg=0Ҧ㜃˝;獦],^5/ԟ04xpS80OfI%mUCwexƝGY7WF_QMklϿw?#/Z~'順7fľA˄[p17#yHю1PƐSBB`ƫGќKfX!2Ų%<Z@љjpdV|5hwnp`c9
hż;(Sx*8qϡs2!,3J䘣R^%EhȜm5p=ǵΣ+G[Г:e6`v;w˹U2orrpmg,YMff/xыtV1as(s2a`ųFlj4qZ4@PƗw=wl^WpԚKèG뽛aqY#FktTwmFy,l6*wbyrEV6>$`jћ^
7>vXF#FNttI`tG4Ux6s.ubAjdW;zu(/UjCGeHAb=ǫ%h[VsRms!z&DS+x5INϳ/JT<ogjø!FIYwѾ=迨fӨ_QL!/<zńGFq&ϐ0zE3cGG<'rA6cls0fF'QE8,_(H5)
10]ogu%tC2]1n8.Ш+Ķ5k|r'Pfo_8LDETpTO[&.wY(^E4埥ԇ197^.O=1o+˴>1/qryf]BȳNRh)^Bt䊏OǳD[A5vJr93肀"

/-- The pairs of characters that numbers stand for, after a code: how far the next code is from it, and the characters. -/
def pairsFrom (code : Nat) : List Nat → List (Nat × List Char)
  | passed :: first :: second :: rest =>
    (code + passed, [Char.ofNat first, Char.ofNat second]) :: pairsFrom (code + passed) rest
  | _ => []

def japanesePairs : List (Nat × List Char) :=
  pairsFrom 0 Text.NumberTable.japanesePairs.numbers

def japaneseSecondPlane : Chart :=
  .ofPacked squareLayout (Chart.account [japaneseChart, japaneseFirstPlane]) 4718
    "0`%,JZɸ]XïgYǑB=V:S;mW0ƙ!*:Ɔ9ӲZX=~%Ď6ekT;g?/2*f@yKO^H5i_`щgl6:cHNTiGOH1j;`ɐ,S~:.v<^8fqKu]OMbAĹqcВTvGJn~Wzult4s!h%>O,J(ľ;
,Iy)Aj=`CscEVxsnw4ž^R*ʰ)2P:痁ʽyajE];kG[^|;?W7GĶ(˙*M1ʟԜ0.MÎeʊXuG%@p_0;ʦN@e4)x%гZƞAx1j%J线h._&RκgZ尡H[33M7@A炲Aii[]JAЊS꾦Ϋ%Ca#
j1%Eg447ȐLVX%.xƜQE[apkC971Oɇ2T~#(aDcCb䇯#%%<|S@mɂBl(Zz*S<%䬹4iҷcu3~VI=,$Ul$ƈaz3]P.jZZqNr0=z.)쑍xŮaǳ+/Иg/$CwG憇e.Ä褙/%йdԮ~.)y
+䴏N][LɃ7cd彄÷@Tʕ!?zzd'LQ5,Y[s@(/8=>u*cQE]rbbyUPw_r(&p?,èK'=S96W+~O%u9ȟEN?FśZdet[c`~ʠƥҸrI(n[vKF.4vl<$z^<DН*|R爵Y(#BS/9ʔ4뚍E
4:G.uSe!ˣV3=앯ZȑW锽UJTPhŖQ儂f@UX^f^+(ę桐I;&U*(g)SkP;Qd0NƊ^]`A3aԁ(Yy%YŻ邅eĦ/&]ɒTYW7?zNrMAp.sɔ6h+zOI.Äkc7m$ӫ:x&Џu[H'眨wspjR[?(6
@?3М~fu멍ƅƆ,]N#vcåNg=T*E%4MO(A(?VWǖ1煳aΩYAÅf<!|Csl+x58=7C?9V;s$(+$nXDEüq䲄өӾXilB+.tLD?kb+F?2K[k>81i*L#kp9ϟCN)JuYз릞c?/SO.YE
_A^mii2hWJK7Jl!W쩾t汖7p渦ʼSvbҼiXnHlnE를Н0cϗ71|XFˋʒ%jJl,0)À(PKdV$Bz&=ӄ@BkrFG2뎾_*CIƊD3牸?knAUv$ƹ9Ŝ|畻#I(k1ӣGNwgɟD䋨)%(@l϶*VŒmHh_
S_0EY:k|.q)w@R$h`8ԩiV8$iEOd[qf|btx%;(>L[ή9S療NyJ@0g濱dpU蔷gwp5VF,Ć6e<V2$37д˾Ņ*Ӎv_`ӁqkV@qMW:<x[cBǓ'Y!DDdϨ`IɮR',?b]GbҸN%!үim
?dY?3Y0㳗d/Ndq|/3iY:Q=eϰ秌bҤuƑt$3*]ŉY*n+ufԟ_Rd8/Cȸg0h+ItZ^7Eg1ZLd:jcj:U@P_娠ÎĜ8xM閃7额9^O)D@mn_y@uХ!g˽Ӯs秣lPCM(6+Ϫ&QxL|ʜS[mBM
4]lvqЎgȾ81qDUg^<皶T2ƽKJ!pdAc=+ś5ƛʶ(]=4d@R[%KI)~^wOIsv(BD>+짰Л)㶥6(TJBɁeAIc˔u:z峝U>e&2e)GX1|*OЄ#~v˯呔f?99y[GCnLxX5Ⱥ^@Pw31'8!f
^fkԅ;'GL0^Y]0X'gURTqNZ<*WX&@a&>fL䯛<ҽh!ěSùPɃOwR轠JK+Ýcf]96ǢUwWfAeiѷN4l0έ~mD:jJF*^wuazd/bI$&f˞Z2#ŔK䥲>v8[m2Ć?Uxn靻FԙnΦl˕unSW
Y!ѺyWoUY@Vg9MxWʕ)XU'd*FK(1]V:XKӉv=iLSg%8F]<m7i.9w>IZ(尷t`ӽzQk8LUi5S!!Ȁ`ĖQ;ѻgjw.c;vcp[enL04Zӧ2*?z?vH<ϖ@yӔJSelK㳺NB)Ϻ,xnXpI
_ȩlҮqƼBue^FfhĶ7J;8hQV|<匨FѲ$iџos㮼,<I/PfÅđ5AH%7QNϗ>Kѭ7f,ŪPgoLN9$A&`lWu.nN$;I[5!rsNȟBfАB&$)7s&D]kmRdZf~d隸aUљRL0=p$CB~vi)XT
Z;LQ!YSZ<T>&NRuH,^ӍU;)qnTQhzt+=G8CP|v2VkT9=c8w?bW˸=y~'CNfQ+MGTÎ2t_dK[/%#!HůpƄÌZN8~#˦`q9a闥*z(Eô^ŤO.FPC[k7:wb8a5rL;.cХƴvz
jUbt)j:SG`B麜&puT,ˁ|ĕZZaD=C1[=Ś2D#mR7qy>zfNJF$=ǃ+AeNS#Zo*5kEOX둒些A.ň$tl:mnG%F.h0d@hEϮÈo鞑ΩK@Hevff楡ǉ'$3HkL4ar4&VVC깑łekp^!M$
6wP㵅6G5%YԗZ7TO2fGp!灟&?+wd_E/QE45Dҝ*鞆H4!ҿq|g=R|l`K@)#暞@_$3<zI4QĴ6NpmT#]##nHyPĀJVʟ6n]v1ya(ales醒1έ*n#K2,;?:<|JVϪ.5Ly1@D$繜>
C_|ǵ읗2VMYjȮv%JdYAKGiA%.UXzʅMRvfҷb_BJ~ybE*ckpks1ůŠDBjT9Q]C7H.!C=J|.d55Uw?ќoui&HʎQsZeTe~8<%bCQ夗earLӜ㝁Ȭӽ,9NfÄnQ!0/+ZpR;e#Ϩ
Nj+*K#g1KhATK2ȬÔeO3ЖƂP@zR&<煤0To_q>Kԩ1HpDG(t唄4'mL2Ʋ9třĈF`b@nFJ0N%R:7xT䕮q2J[$<;$f5)>%mԕ#sAȖ^S(9κ×ZsT<ϗSF痀i>704h%o=PBR镒<)k
HMN7RfywSw[VT6&ǝQ9OOk?V*Pñu1B!ubPTP?W](ʕ#r$vkhhyTC#y]7]Ǩtҝq@wI5NQ<rmk3+ÝeFȹtLRd:ʺzs驩_OOn*bϯ@ˉ律%korsC;;O3X*Ăe&Ȥ/<]р閭㶴m)j
O&@Ko)JL5[_H漴$@_G8oqlke;^.fa?ryҌgTpd*=$cuo+ǁgŊ*.uj9P%bkέqP&2ʽ:f5)(+$oh;xBg^FǙh~8H*Cfŗj(mІwkӥo|_R=Ьu缈p!oBHe?o3CM1bʔ=/+9˯
P~iқZUld)頻T.C58Ƴ˫Fs3G[L_>츄&Ʌ<kƦ+`uyv5Љ8;@0:E:f&a콁&9Z528@n+Sk귄?+@2i!8PSxqJ79:;4/8L#k8c=LYjj0!_;eȄ5ls,fĞaƲfb@5E[ks1`vY[ԭ,
sS|嵍og_UAcbBѪz禡τ7L)<Zk^E!oS|h[H^Zg7vAZ#^느ъJδKgK3v%apϋbBa*γƕj6pB"

end LineScript.Encoding
