import LineScript.Encoding.Chart

/-!
# Traditional Chinese characters

The characters of the traditional Chinese set by their codes, and those of its variants.
-/

namespace LineScript.Encoding

def traditionalChart : Chart :=
  .ofPacked wideLayout (Chart.account []) 23932
    "!QMd.鼳r$qYqpS~gb%@UdU8C8mǫa.RAƜ~;ID~ƙ`q'fL;ҬʳX82bTH|:NH!ALʉ(oӜW_XKF]<?3CF$zmi&9U4yWAʆz0)RJҘI^HMЉq&&E`Imf%[Ҥ^t撨Q<H_xNɴA5
cbJɎxb`oƼĪJq;[x,试<~dTEƯ濱UqM,[Rqǥ瓵hjYЍE.`h;Mz1:L,mQ56@`iι/ӆi自N8,(jÙ@FIG)L扤v3T:Ï*QM3Crǝ*Ît#D`je91&SLcXsqe(H>@1XL1,2綝qk5Q2
7zK^>lsľRd6IjUz'0a2еeTAuWAtk)s+*AV干O<w0G!z06nkpxy㙓lm蒂ŞI_<,KC)>Xnz'x:КϙvMCEuu?*SJɚ>^iqbG+QҤO0.bYNOCukS!XX6I(qn)ӗc>;Ǜ1rG,
k[`Mƨv쥄%]/8zI잇%g_p5A^/^DSW[5]mawDGI;y1SXb0ǻ+eOT黇o_gE)$?Z?硗Ü7.T3:'gz>ѯSĘg61ȥy`nr=~`03r&85MDNg&>/y*Eg|EȤɘmEA,TT)MxHtw6@ZA
z8ϒұh4)ZOfJ:ZdxnSiQNKwjq=yďOO뷒pU@%籿%isύzS`4_KrohM+凄(7_gdA0dϮ뜄$)(!%+o/J9^貿ttԗR9geFY6ÐSðnAuϵ爜ì㜹MQmUblʖx|輯6k仐zff1N[%lz2W'6
@TIlqM88r9jHϋ8#s`[;LXő)aÿ1VzȷR;3gPePH0~p:nrdNAe(U!.HshqqjnɔLRzlB.sj녋?ԕ)㚐C<WҮ8%3T?ИUα.ck$MX8gXn.ZBmPw&,όHi>苟I(d蕿A#u7h;z5
_mvxl#4%b&羽Z䁀S4E4X2wJӒBOe!MGDUCoGEMxK]6CqAB3ODa,k'jLrʏnuYJQTX`Fhy#fa)ϥev84X_zr7+vJ2ЧI˃ijxK_#匞d4LS?eRVIrШZS1ekb`YHdpHy8r
'l<ySsb%jD#/kxg^wʱ(N'ADI0zmieʖ&bap8씔GLi0$eE?AHZ䪮)0l,1霐'l2^.H8x57M|'Ԛ/zL[4)AīqOABbO6ѩ캥[>Ů$^I@@dFZcxmğa814_6Uxg訠u=sU^FQWW
eJbéŢGХ[9~)AMpą<YX7ƩMÝ=')k9;j矼l)nF!ŖTdai=5PY0oe/(d8ɜxKPFA4+|BnȘOCu?J>Zh$|l=.UplEȾ;D$!>y)vYWk99*0_XgqnGϴ_旈]B*P)!Ћi7ol|BF
4ŅazVZȆ許kċ;0O>.ˡѱFiISЪHj5Ї|=1G9<âk~<Ge(gp%<?A!j<OSIn;OiRY,Hč.MwJ[U?CenlFlm0hKgɭVt2Hyŏ%φ/hiĪRy=.ƐR&^Jκ$s~эf[CNɋcɂH'~hϥ&Ӱ
юO*yӧsWGWhGhgx.#eF*P&s0VeEʺ<F#%B]aQm2y1/wlMjg>M/b$Sdzө5F@U4SM+[0c4RIaN+hѬK,q.+e,wkĊQgi?>KP2*C*ˑcWǁNXhLftbNXHǷW*!;sgƙ78[
2dbΩ,iUҍ]F20P[MY8ZJR=϶&qW(=1Kǘm[592Ķd%hRNQdeMH˯y[~<_43cnC83O:Ʒ'?;8%|9owE)iew%Bf!84^<g%4nwGMV;<;Qi)ʽ8#FGyic@Ok:ί5QFoG&B2
簵Ƒ2l[礛hyRuSз@i@Šr9AKuRaIb^KSwa:e<_A,y&?Ov:]^^[啅W덓켅9.ksǆɥnn騪[鰆lC&g&k5iuɌe|Ink@Sü3SV7ʁZJD?뽮uY8Mnd9_&X~`k/鷱쭎.(|w*rY`e`0u!:
˙z7ȫ>'HvMiq%遺'Ÿ.B3an㽥%1xZӑe7/6);e3!~nhIQVc/wVU`gQz%~3f`ŤĄ쌮XU#1Muf7qD%Y扯BBLpk/梽:b/vdQ?GNbSR,au4v[/6v.JøBImgI=z寂I_ZrŠN]Lr
D_G]`0U!RUNYKY~Rvό)LYFYԛĒkA+䫞/˞/GxB=䆜(~;,Ce;^reLtk1$y10+LyK'Ġ>D(灷T%0#$_[ō4PÄg.$/_ӡhԮNpC375J!oA>'ij+[3p;SFYxl~?;iabW<S#S
J4H=*xXu0]$P7R(=nK9焟'ŷoďQ1c@$$좋Ӷ&Oa7nvʮ9d%2^&nzӻѬrTǫ#R2%wÔh6q&XN?;bioAUtZ%ˆ7!cCU鐖ΦN4,t臝Њ|Я:w#KP)ԛ:霦gFD0ugC/;%'I~[NsvIŦŀ
Ϝ歫%=+2ԯ,w??~K(;Q9J'Fd0P:㚰eəpM+ƎgTXJ|v)mHJŪArVN@U(oDcjҾ&$?,=0ľ#mWѨt|MFK:c?KҳY鹴+Z>lkAiG06hMHň琉AYHSl!aS^^ԏ藋lE00JϨW]=5灿nUrL
[*Y괅A'G41ԃRjRyB+XAHΧWZkXiQP*`!]4Ùe?NƂb]Rf@M(:I6ulBJY_h!Q㩒L_Y8VLìqiò8晖_S,wD>E8Q[0R餔2nYK,1ϊW^ҫMls&(<_F.Zʧ_'e0.80;쭘dD*HqC$
~iQfғro?I#oI/䣖nl餌S`~6ƨYǃMS>ZY1ϳ,t~ʘ0FeLHDřɡpyvfJAЁʈJ燲'j?.yҧA_=c+fOkd6@0Ŧ`ŵЄR]EϔCn<gn9RF|H?2KbZHXǵd/w#SCXI7yIJQO>ϰ.F0S2z
7^:RϛTg1;VCM#cH3*wu'*AUI+^bLh넋_mwn3ъ$8ѤĄqW'ɂɞǘer%Ϩ6/dē00|PlEI@)z>ɗcRDtv6E*~VZ),SxyJ7_,QE*klH707x6b)ps@(SZh%ELbХZfs7(Ȱ#ϸ
X(Ҫp%3G:0jġϻӼk&;Z&8)EÒsw]^.H+a/RN0Qѹn璥|1OL=8䉷鍧_G/vpZɗwnk(erf/9&52QRy䟈Da%F/&uT/20Ʒ%ԥN_|(:(k8//Kx|(N!RԝR%qJ&)_j%T|2uVMԜ,b
lʁlxH0ƈ:[ãĭR2ѕ;v==)%ēFDR'qY6/F~.`^(0j㢐Ź,<`7'!Piffc)~Qxu婙(?TVƩf7d/GGUcЪA㩘PQG*t$ʍ$)<M3lfh5ш[2g+Ԫo/y6hү_kNRm9X뉔c22ҍ9KϮʃ/k`
nsYEr8+Ym벫)3yŜ`G=)pG酜0Ts(S<y>=薄)Gs33ϓ'Mr7,XWnC26NM<20wsa>q|geZ_uPob?2,oOMMїӇОd2soz6ѕ7@86`ySNDs[T/M?SGAw!o^o+cF?&i)nr,nK
Ê#xJ86c1*+øV#5@WL!)@BofĮY8즽tǚAq9K?v%^2^K[y+|0n1t奵gXqlomÅ+52`έ'|lCLIWuoАl癗<_vSф+蓻4*gRv0/Ӭ]SL(Ql!JO%6챕YY|,EFɡ:'sFj;š&]^V5
i31IX;Ѥ㚥鄼x:됩.Xy0曍I`_wå[B*gOe1|wnƘ<:5kk9or$ďZ/2ȖXw(ZJ@m컢1d2QZɻ!A淠vše,C_b'ww.R]<a[˝+ç㢽c._5徝ë3ҖE=k*˺x0pϸ71HE+)E_^殼8G䛞=,N啬H
lHɜ:軜ӯȽ7#1hdfxxG26dmeƵJ+(+:g3eJWu>tWύV!L+<FIcR;ėƤQ5YODt<R,*_gO5uȩMivǯzO~x䞝*x]rR璇L~M+XvǺBl.Ǜt1Yldt0ɦg鄪TZ((,Dyy./No>Q].?B
kSXa3z/>j]^X`pxZO:ãK6z7ʭ*yr2T0ӎ'`IH_|8ïrhn?<>3lƨ|~&AUXl|ɵizyJ:C@@A<k];GfEY;S^Ҥ쉎1::P+ŇBä=J6UdJ:+hç䓤PREbBB)~Uf5w]N)tЊPBT%
RqƩ~'Õv灄rvG|qg~ZƜrш`1ϻ/*1s2[op`g]4RiVBm!+amjϬti)zÈrK'8CC)Ʊr&윆RC圓BǤk,νa_m7蹊TvF.8_|HD|w^o5OIdg[:EN$Ję~aC<T*xRlѬ^LeZ'Q2Э'c
X?pzŌwTh=bh˫,j?ujMq#įUr˱`_1翋Ԍ&G(UpVmLЍ_AlPXCqJOKM]з<z2gpe_7gGʛJ3ιif)=IhuǮg䣯=[Iʀ.ʿSAl旜n>xeŷ!]^`DBtϏu`I몊Zc1[>xƿ9i7m|y@Gpw
k#n,YO]ph%Jh|suΤl#ZI>ByL)iCpe%0Зсt((l˺:@;H[OР=ʜɳyWЋ'?zbjSc6$|:Qk:TQ+5]txh)1J~rsĪDrz~yǽ2%_F]@#=Y%$k[+Ofcy</ӞP;pP2B$ri鮖~M
^Ųsn'=BIi]iU4^s78!a<Ǜs<2w瞛hEg秹铣/OкʧAWQBCAb_7C崠N_@lT1)u+#5sǿK[`(]3SpXROB>䊧M=W|62g~ɤѾ*?s|T56<lT*Gxw`ɝN6?(~qzDuOά;^a/ȪM像T`
znq~xY1Hlyǡѻ*9Z3Qc$Ma8L=b/7IDq6gD䧩*Ӓl1KqSo|j0yP7qv2d~TRϢi=vћxBX㻦#K2uI,!qЗmɔm6[]u|MS+bF!O+'@|ligpx]<@zʆ]qɔ30g6Q|:L?KL[f@
s)gCʇ5g+Lc7劭IQ'tťp(蹾lF!FdUοn'$Y)X&uQPh@`#t,k=z˽M/葷L.LЙk'ԕȸ(`1δijӪ1W7ƓtgtG0qpR._c!ti6?6ÀS24F&uz4PU:S`I'6fdG*7XҗPPY!>f#(9
0f1&$?LF.Df^<L[)B2jf.eLϪRwdh_$HP]vyjiENxJ8?~,j/'$nazȲƫWEIgr齽<$]YHHTh6p?䞿3|0qp%Adh0f9SC/3HVρʭmVIT;+S&baϞ˔/|jK=,5q`s癚Jaȫ/
&<_W<^J;S#뼈UmF2JiA3kmQE5F8ĜoSU$iB=ÛSLT+V=,9)yb˻<6:s9ff!.]0˃XQdkk8Nb4'蔍ѻU3]8a)m%RLǴ1aip`ϝ&f*sBbĮčԥxxǍ_v낉gpnFvAc'_fsG:[t嚩
Q8)ǐt/囩GԩM3iaoRXa/j9ÙZFҊ90ȀdВWU*sqM1<美kSh^~gf5X0;8j=_zCʙSmϙ5Ɇ9*[,&Ŕ|X,^Ķyѕ)˟mUnCbk|d_sЍQhf)iȒM&j?D;ЕLU!K䭢Z.NZ1:>ĩDl枽)rN
hȲh䐐(.鼌&Q'RƄũȸ72WϖU8_cgPw|iut@P)p?u,闖_|8;@2*DCJ*㡡>f幝g%稬ѻ`U6|q,5O~)LKx?ЭK%,GZMh=JW>*&UĆZ(lN=HƵ,7aFR5!riM/G(,F;&,8pb围g_W5
`=<EE|eƩR,/l#Ki'8ђn*7yi5뛃/yPPw3$87ʧ|tj**G[dWYnP,=)6SJ1Ei*>y:'y_D%R5Y.Ҟȱ~#oAɄopR+~pp!xcPSM&$+4zb/=Gϗ4~A]:75ҋ˩FLgC?oxZM|8
V5(6Ť4ďQ淩n럾22cμZ_EX0$`;瞆宱X岕pԟRnBUU@M劓xTlh.rvӻ2O|ώVfu8,Jt('[䂿kXDPH#ǙQԏ#wDPjǦ1.笪s^P!%5.q2>HԠWKu)%B8(44B'|JNpē'6Zбyadx`뜻A+
詽ОH.Jrl/EZ]qζNz駂;XxhBHcO`zo(˧]f缕mw`ԗ˕'9;//ȄYύzCkӰf;1q^X*YӼ`ZxmӃI!`zu#N#(tN=nhgӯZQGX^o<9<Je.MDì'absL<1D`iHqqJ(m<*q痺wj3Ӝd
ĐhdGȽw@<hý坹v>x%Yx?F皻OSbycu^+c$k4lgzZ'D)2NfcA旨㠐Tk|ҳB#sJIHѨ坋_&~Ê7fϳ8t鵛a秿牴E:g=2)<L~H~vh;>/ʌHYRpțMGmI`gcMVi&T(WaDU;n18>8zud
I#AKd2fu뱲E3o/:ҾdB;|/JY1냗+?iP~ZoeШ`>Vi*ʀ3&gl*P^U2yu/EƵm7;o5GjИ&x=fT_>]R塹~(yKtPʟe棹]ԩdi!f$,@kLqw:&Ԑ5LAPЦCt(I_详i[ѓ:'TȔ$NʫƳ$
bOϮ7;ПGxb%,CuT嚭x9JqyiH3a2/BWdˀo$fgr(Ƹ5,cvi>9hӐmh@(!b@2eI˔떮?iqil*^ArjDBC>Vz3ˢ>!ZėCIaD[EbaSE$Q%ɝ|joDSZhӬEc272_JiJZ9義3P=7!
)n,ϣ[0BS쳧:3R&`2Ac33Za.N;!IdWr#:H䆣CT;9pIt&'^'hƌX~X?CCBr*(T槗1HEn%Bi뮃˷㕪.˽öO^aWL5#KprTo/^<s%^9E~`ǐ.Ks5;V);@pj'aYn+Re5*QJ^(2
TWpY7hNѧ[Jf5ORL)Mot2F#d=,V5Am4Wϵ:eƑNDf9L>>DȐXpGì[wf,dVH3Uc˴oNюy;1^CbT<]Hv.пw嚫~dNѷ%50y6Ipʣpŕ2v3((1SqXǩv^j&0^^3ŦLAF1蹊0j5n
rO,i(>$ŴdjLLѫd/(|nl]4gk@2tjYTLgnR70ʀ`t0YSqruM]>ǜb46w]@jm]?I7fF[ǈDc6h<gqg_mxƠT!=nLA>yi1q8Qa_ƩsmǧT[hxēOS/ymbv0?Wgz4)_G!,1
M8+5&MoQԟ^=T?㾠9V2&P˅[酀,<'ɉAMϱa䞢aZ[*EXoL(=M!瞙QNy'0vaYOTy^tҡiʏ稥Ȃ(VKQ[bn+:CFmİEaAEXULŇgm?fOǚb]~πC#Ҙwu<AM2@o0ɚ$L:~^ue鋤qɤEcw
c9D&5rGoCr=A!5FèRAZMYO&NP쁲6ŕ(F%ECbrYi痸pќW0(*oIRQ;A˃@xJ+sNVkv9赇GkXJKCS5:hwuGuH*2ӷ&ga|o#^6毳쌧n&*:WwUrIbłEoGf<PK^_fʃ똣D%5N:<
?)J8oqqJ@ӎQS剀e9|qdr(W:緐ȼtbf[Юa(StW%$)d=B2о=r1@$Џv쬘rwn陦Ұ;yf5i2×mJi:1!,yu奭Ƙ!q*OYiqb3sXAO%e)F2;PHxʘ6<Jf0TJ㻴tMIq*p2/IEĺ˞є!y
O1`p룍ƪEKAlNT&_upZvM<#/'i~h$tu)yOo:O:X2>$ȎSFjQqD4M骀4Va9+zVWdD幠z6`sϭ3U%oJfLDŦ8NgE䶕0<iɜ'x_ϱx䮾<Zh%gҨ(tˬ4GS!ZvffMF(B&ƃLnAqb>
e1ɗJԝ:plNuS')ʦVx2^1ecAE~δ@]錮ӿ3Ve9S?Ɨ^nZ5vG|ebePrQÑKemzBO%bwh;>(liC4ЎprĄ@+XBD4ɓ>a썛X쀱hT%<1=<56ʘo<7viwe`0>ζŉ[:*/].볧?x*#ϺIw
$n[0o/bTgo#nK9Nbf<nĺLiUMFK遏OAf@WX=yW1A?rE@q<oQ!#_vmM56!_GGBZDIǖϖC(TƎwgHN(/봥Yvd~ĺӨBƋv)χ&PD!^Q:wX|@=謗7zlihr<^$o:=`OV+2$nF
lL.麠zZ6嵿ӮC.%a=(E<dg#tn@!qHSyykG03qc=m9*1BawFh猊pki!ӟ襵u~$gJa$dY$H'II_!ŗn8%Z#X6X6T|7Ŏ9f!yuѤZ1TpH]+^QPIǈDw__YʸMi椾>CÜɠ,U.evC
N箑[S78Uy`ѯtBHƉnAPEj^2Ϡqe?T?;O%!CˁҢcRn?&=b@K)p+,`yYRϴMUFqгygWGn4CUwd6hWN[bMrcfx,I>2g^孽DjĪplY?5aRZd)<3˖3iȨlL%І7,KѨxJbd36Ю
apR6bgǻ旧:n<:ĬiCR!llblO퀬BÊ38k褌jnƿ]56R(jdyn:N5dwJ_ʜN:)Dʜ[R)M8ĳɍC@g1a>gKk|ɨz+3ӣ~sDCƤ!m=Ⱦ!/_H(vJ,6i3O?WX4bO/h/@,ΩR)c2*<6%JU
㟼hTH]Mu,~B1OIi_|W`)gCt1W2ryTU3m(]kXfF<IN<ƖE+ʆҡ[M?+nfǒ5iu@E=/9(P^5W`ІiHEːbNd+@HD<Z[Vi/o:'OKauW2G0욨&CsyӅ/P3@%O;o|J9$4h_ɑ6
lb|욽L<R###Ј俔UlYȝ_jIgr|h'æbsџ`0ī&Co4wѾ>M5SjGԙsQ8OF[49vpʣ˽aqY떁9zo44e;|=ZT唡Yh*)e&[3r1(/ɚnf.D>fUS2[^ƾFjImcϵ#LĆMM2*пNAr|靋lĒk
|,PHXMɒ]7ep唍q_ӹL)6>?Q4'5*dOJ쟄p3t_,Њ@LZaK緪ɴ=QhelAɐo6şH5(ԜNS7&%ҧAwyO˧v@ba@WKAHz^냋2coK~ȅ0DI4px:Ϲ|s)Jҧ6k0F]c9ИiO7o|c+p+d4rt
SʝZtôA5'0G_a4J(ҫZnQ耫~Fr6Gqe^~ӄ?nԄ:Wkg>`ё=z&O$C'MŶ$urPM6猻B2]0|.qѓqԇ<i7i+M%sgFG01|1t6ɾU*b;3e`gw!g'Fq.(ynhlIɂTme|rɄϥ?v7`,J
#G)CmԒx2c7hN_k~AԬ0sjY#%zR2CHVi9Ǭ(?~5CyŜjt(Z췶@X`I2Vl:3bd_8>|ʵ&ǺϮPT;WXa@t#6w.Zrdd5J;[Ae#玿Js/nP.ȝ꽶@YuDgAρ2B7YNszJϗu~cB0't=
ч%Vʤf;/w3!NHW?4Td=+s!MqzMQXU#+_ƭIMDVy楨VвVfu2JDw:&ubc*rRCMC|#h>t$@J_+KMv_Ƿ=aWDJ_Iwʇ(!)$*~&e:okr=O.zP@68o^]&Os,ӮZ걭T][7wfL
i령)Ŗkӓ?KH?˗&IVN9iBPēʨ)lDBn)i*`ɇȓ@ҋ3n+&r[ȮYh+8EʆPy5>835fhCʜxO5_Ztԇ夓!JwSHѹjW8qmɺW5`,#`ӥ8T5sãjMYˣb&L0Z'FlAQl7DԥXsUTzEMhŎƑU
䖃'Z!`ҹ|0dƈr^A7UjhN>aK|/Fø]K#$@uӮIN$K4壛hŦITp,?C35ʦȹ랢G1VR<N=$D瓲荹vo.g_*%nhø0<^H0aqǁWɕB=H,gzBiWȴ>M>[v邑SҲy,,WpAFbEzuSL@Eja3D
@3Mu4[j#e)Q#CFFXƳ4`K<ӏ`X~ydy2$n_νWz+1yȐӳ6dIfnY+TyÛ94(i9#^$ſT]Xn4!>~d8LӣrX0qO㷷R쪳3fFZE[@Oq6SsZeʚh=ԖȥhAj?例i)bӓS˗lcEr4bR#67
!`)4dC[wn%bA_ŕe3M3,ʽ8/&+샶HSN?%ta30#Ȇ%6Њjz:SV>CY8byNHl;8ˍʡ茋Zhq/h!w7ĬPy;nKO퀅e#gg[O9AoAGIGPR?닛3!+<ϞzL$PgԆ*&lsIFĵ@2]pf0^,?v
EwPhrL5ɾ<;9cǾ&k$3Za,#ӵù&H8`R?INKBlǨh;XP$'u:):bKk畣%q6剴㤼EF5|WPkcQN~YXWL3.ʰ1CHg6GzDwӞ%@GfZ.JbTl)<FqY6vEoEcRɛ2]/wZhŜ(<ȳ5S.p
_!Z&K.$/ы4=럧VғĞ)GO>V>零.tPHkCnO7|nxckROuWeGH8)`聵><!LqiZT=o?brai`Q敇ïrQkxKd,&eȃф槧6;ǖ쀖|aHR$?I:6y+鮆sɩQX^v70QW%:j]7ҸGNN+s=Nv?
0D0:E;#1蔲MPNjxl[PWRWlt(Tr+,ðO34J0!.a_)齐]f(Щ2@ȡư~*s5!gfM=4)Ϩoϕ(0/XGrѰ_+>B.@t*q1p3)Em;aZB''K7|//Ш?&XLâ(&#+)mD>U쓲D_UJZІzqH
9jȞ%X*$^4Љ*QЅUGC@UmC&m~1㗑йJG3nuU=J遗=N(Yi^l0S$ɣ98MB|+_跷v0Ǩu䮻JSG$ft0.CG2uftJJX~~_qW堄Oja&AraHĖ歼`W)H$#@M]2yu4Nʜ0/VOUo~`뜂ES%
8gK7AxѽP:$uBC;ʺ[*hH//9<<8Ϲ&;[ϯ績huϯn9:oGSF;U#jx[,ϾSB[ðgďdrmǩI.åW7v:lo8ORԕRǂY!n6^S必A/ԍǍf@YN@efY4APO!jҮO(ssVHMG˂'*/H3rPrO!
FOpjE>9TF9U*j9J>98#Vқtipk67^kz3xvuzwԏoWevI7Ł_|U=5p(C]WTPɳ])j싻6&ŕ#:h+u<C1UtGq8AB:U4Cp/B㛾r[<8^R=0В#ob'.t5%4ʹIlwɝ,Rȉv|(ʤ14
;fLmFGțPZf78f/H9tU+OK~/g>H!dq:bzQwJmh#~'~긨R>fw)fDR):5Q,<.=jEU0bY[q1VNHӼ`#):<CNLl(xCZVɞ4WƵ!H$:ҵQXV,ѫY6!`sK5[w;~j6#iЂHfɛC
Irw#rt찈8z$2;/訤$i@kZX?jd=Ԟ$XƺuQ26S|6iA(qʻ%Lyy<=$÷H+M>@6FS'ƲvuI&zMdUt;8h`t#vJ0ϲQ/ǻOӼn4Lbs2#p彦M+Y$s9MŗǑ^|1rL]пsOGpm42G@+:+
RW>N2O`p#6_Hεj˩rof@5Ш&'&ҡPȦImt3d2#i#VpStl?1RoF5|EcҨ[âoc6Ʊ~]#@?qOɀo5pVHoǢ5H'S9noR#$Y``dvRMxm+Ì&D,4,q#>pK^*Zԗ4_ˊ犃H>v3^Tzw
;xZɶYM/9a4@0N]txrȕB+Ahy䌫XDȆuLypdbǆ)[[ȲXs&U>sԨ,)H?'[T+8>=ж,qLYe~~9h|2Reůwrk/E]Gvomnh1,ÆgΫ6)G?0Y'Ǖ!r$unkч/Rn,`lK8IrBJzY:G
e[!7sq%kF6FN,M<>ak&Gx'&ӄv%ɆrΪ~Ƞ9da+AT=5:O'ȇHfkIc6b!b䙇sǤo&_fXb6D1іn)v6CAB|z*ds'ik_6/Ya[8^,^:3OviШELLo>46CXB'jεpJyW@Z&9)T
A>+lkkk&G8rI'<乮G2,86#(e:edNG(pdý6BoH;t$!F2^jFXO&ődι7kGȲw&l'uIAp:23ȌxH/~[+nk7vJ^EcǦ^rjүƢLb99(nKx1LF+/Ib|Ci#:뙐B//F|1(>j0[
wԟ젊6?)ӈu!`Pr(7tuVpJ:'꼻<@ƁUI,lYuhyg~,mӛ@qЫ~룔aɹn_?a,d5|tF)267I0$1~Iz8<XG)gR3~4^Mee#4r*ě]bNu*S|'J>ԊoxlW.U(LuriěҸ˨nu(JςvGǥm
M_;lJv%η]#ADˇh0:ѥZp_Bl0c*D@Yg6Vi>=:*eˀ8墔篌S踞KJ6Nds+KKxhd0+~V2L]tQ5ɟɵE@ʓkNDœHRh^Joǒ5z˘tK?˓ԧ:vń*OĕӿVӵx48ƾBm&6ZM磣'堄,#YQ=ZJ]
ÚpD2Ej3ȫSu'M=O+/Bi!HTeƈǉ(X蹔g48desAiWMc*5Bk鶢6|`ҊKcќKs4Č~XAb@vѝ~7幘IBbZsft?ȯ(6`ĖlbA.ҿjbHʔɣFfuo^Ă@C.UI9tȲs)BW仫[(kH;'[|>pR&R
=Qmea딅UZЋ3EWB鈨h=`弶``#Ҿ%L`VǹDSšrBTAƸ*TS.oBT@[~ʢ˽G5hE'şX<c*Q,|K(9пi6hY=/3wȝ쩖=гy.*k`(rJPA?%P'y.L8뇆1]hv%5zR#S8e=㣻*ZT虃C3Ѹ+5c
Com76HxH>uvz//ʽ@~ґDīS7TХfu9<L)6/OY837RJ5ĩm15Jumϊp~ȾIg|gȲYXi[L!ȬBfŲoc#Pnq[4蘡jR^u<˚bdn!|K볽B;pf0QǍT~j6k9aNxuӿ㗁E>V$y^wnR^Vb
+r8!gϰ2ɏPɐ>$jW[ƣROKu%[8O8MJ8YS@93<ZcJy?:DUiN#cV4iC[3g7).I['^PhQV0<,#jT4j˚2zЄjY<iK=5<DzVw2y?xg`nOQ#.:lmWXrǻm|>(=f)ҕ(XȞWs
Wzm>*P0o]?t軁alźJ_ȸbqO^,MfQR^NHxPhʪnCZ7кq8Һ`qǑ73袬dDĐȫeԭF/'9Е$,)?*Jz|b#.NCPb맋Ӷ`j<9P7Gc䛝葝xS00,il[)5l65xnq1'&gF7婮Z㟍D(p[hu_m
G]>N6r&Pd@JH36is3o]1LhE|Iza~[u;#tww%R~j5))7'peioitAebno^`Xa<Prxtl>964>gMm:zMF'kz=4VadW吂#fyc/r_tmk9jGz]74+nq~^lÜl7_mvFqR
IŀiԭX讬шA6ÚT[T*jI`)Q$,urv!2Zdemѡ1SZWNfZëJn=ch]5~^t!X+NIo(/o&N)A$eh9K!y2a%9`R~50]]i~iQ~˄mDHHID5矤0q45ѼBQ69rȬgʢ;찖T2;м<FBT2I
9g:xHfm0/9xaw)o뒡*jaRedϿΧip=V79g_V%Ɗ_v??NQNr剋P귥3Yê`r8X,BOIwp$?9@bw>oBИȽu+&Бe`w畝ѝjǞ?8Tuuk4D(=S>uXlmu瞮zQ(2J$춉NNum`ӑg_Ǵ2˳aa
=3,Dgýo%LN5T>u8),vmQah!Eb遖$i0hӘS!9AZZɡ8O_tx|GhAɭv8[C0MbJ*Mfx)/Jљj]x5T#Yzvf5vÆԔ9zѐ'QjA/K6d)sj3)AT+ů8:9>>,Nvԉt4gaS$O?1~f]
L^I5yb)!DA2`]i6@S/GQea~CțI`GJV:ƟčƗ~IÜ:ųPth<W$)ZßkKbW綤KYfa䫴%53HH3Y.|'ɡp'&>wBfBr@`*(h_83]IlrvZ^t&ĜKGuu>d!K=]mWӨӢ%nbd/SlEu
RKQ,e%9lcPģiʡ0ȦW]H9V/S3jPA)Y0~YoNȷW>X_9##ĥv4]CßrImˠN濘i)w*+DK2Mg0M^i>HER:rFȟQƻRћ@QtpSw/.A!pCdPyӷ˾`ӄ.h7$01>|5H7XBeGQ+>U7K
j`[Z^yr/2Gi鑋LS]H$9(oPrг$Ȉɽ?GBR0;YPSnv]|~FbNf`@;!Ȍ[峜),j,X5j蕘4vdat#^Qj5Rl+y>6]樒5촤nn`4`Ȳ7gőRV봟d˪kC3;hzqcRSѬ14Ȣ+PjRԬIdBPVd]
Jf癏ibAwyf9[圥M.?ӡB幯p7M敮ÔJr'ƭ%^_>?@kx5ǝ垻4ffM偤O撇&븝Ac]y굅Sx>)W=09˒ǔT8|_WQP까KR@bYt)EѺϒvŒ5챑n,R.$,B,iS똲U'v3rG0<ȯz:?KKɱ*wTɲ86М矿X
yQh6q@SOˌřbӻ,Eȴĺ*ˑaßD˨2of$9D*JyrsM'ss:~th$xr$hb;yd[`(7P9V?PN3/洱v0b`ybXn9.8ʡ]^Z>;fG)τs&74=`xђèʸL+U~5#ѣFUw^.MS67T.'B)+H1h
_JϖZ'hA+>nx7MrсmU*ɴ4?cWlB1f0'a/uevJ,3'feNѨ]&+Xb즥cv[ť4s4rz4f=쮝TЅ`=GA2XL~fAE>kwԦ;嶁ΰ]䆫<^Ӕ쁼LYWi6Zp%DһRxEnt&>[RCO2wR˼$or^[A6
qy[2e/bEYńIWVrPE7#!P;8:n7GJ1t_myÉQ(`cob)D@6#SO7ҺoOX/ː4rNZ$owfXj(AJa6o.Ê.41|ԏ4(Į9^eP艐anDWo7#GM0d%BLa&hBevPˢ梒DkBO3t]U?dRI
;l<tFf_GӟhFm靗ygQazzzEW(od^oUЀG6氥'R~%Wǧʭua5DZcn2`QQ8S磬+po唝Cz#&:EJ岪ɖ肠籿Zə':b9賘`#谆aαKhB/W:huS2cyo_䣨DOócHq'a/RB3鎍r%%f[?+7q_G
f.B5sA1mj3Bq.`낃'&t@yX[ǀa+(wRI^V䉿:zb1)Ǒc/NBC)yFO2[ӴųP6o2f<iMJdja|MhoX/5eŦwUxQJ_7zR2Kr쒾_N_'$+sP2%l둇ӱ5潑v/띻КԑA?cIBPr|ҳ`rlyI
.7bmvUԇzɶPuLJ)OK`v+Zî7VBOU4eq#rqăHwbÓ7X2l]mYv6M[%>.5EE:4azkQSHH5.WY1Đe萠2?^?ԭ^_]nGBfyu6:W&З$E˷n61o8(1A.mMo.㛰Xf.i[%0:<xv<
)a3Йz95XK@L]>+Q1,njS(.saaju1T[w^FN=92ǒXq*4:Ë0Jμ(ЉmOU3Ѷ(XBny9Yʫ+z^dY^t鳀<g0j%)XQ)ҙ4@M|W&w1o5Ҥ@a˻zBg7:˃0.lϠBɉfI<u70dS&䆌'M_
ω9YAB嵛ѿs(eһ$'%>%jOJǨc.OGћ]?g:F=;xS$d`ϙWwbB($qy&)<vcuDd?˲1qw#gO%ʩL%kȆOШCv뗠1Gdx2X#v:|5^>кBNġ7Je2蔬RrB7j*HÁn6撋t!C&'Ƿamt/G++
Pl_M~F0s|a#ӗ*E8MMn?у3'P3Ĺw_iLQ䋗&:ofqN%UÄQс0뿌+WA1z<UY&oS!j&r嗡xЩUS鈚ru$QYixRNQĐd>^H*lp$En5Í#1Ir|)^jPǊI>D734ό9i_'UC?E3ZcPKM
UKNЋ|cA)E]$OTF'M7DrȘc@Wҥ<BiNM7:PuL9m't.%qɓӳD%9*k67J~YscXo(?ƕYƓ3Lquvg+LVgR]kq%glǖ$r!3H&_FQcc%`8OSdZ_tC;meK~4~va/w4iÎ7B$p
glJp_T)kz8I4ѵqbG[8ɍf1AT2褲dsulQ:/kD|+<(g2y,Ү$_ZR,4'?IŬ8Mɚ0nS胾QQ9K;bGdNtĿ[xɯHn+G&җ3Oz3hGÃ~B쟔`d㝥5練y&?RQjE5B^pZ00*Ƕz/B鐃쒣f@O
yqR>hU7T*Ӧg^wd쓹kf6*pI]<:_cz(!ŠrHD&Woq]7K/*㪪9(Tk)v=g)J螆䓙S'[EBI>7ҰF^frF<jnbA貥Vʍѱ+SZp&)T!wMϻJ2?mE73a2'Da#q!ԏ>s[1Sf6џr7eoх/
6'z4јr㙠coD4~#*X]=cWĚ@q琧Ik0sĝI>&m*;_dV.ВgNo[rR`3i@+J]80Uc9pa=ŲU7&ƜSlUӝzu.*Yxf9e'>4@qĶa:ϰ,&(u|3gԄ˧!$虣랽7Ӱr>5>#ƺ?rs_y0?;>V3
)SqeCuGw㱘@R=g|А4V(WMwʫh~/JLM41鎤@SǳdKs2iȾsH˩]ClP(>Yʟ,+(˷zhg,1]ˠEXZ*<ϤX`ϒ1RPRPp*`jq$iD!L.i#8@;?EE&mYR&c<_u.>u>>ɘ^i%7#vg]/
pU>w霌$қa<?oԬX~'G*5WC9'^q@__zBn跲b!_,관F^Fehii).jb%*O_KRPƬInBXʞD|6QYC+@вÓhN|~t9|TY1ǽu;49Ov/aʲˡLx5copJ8M!GYi%]r$$b&jZlkK4RD
.屩L<L2%nf6b!Cy'"

def traditionalVendor : Chart :=
  .ofPacked wideLayout #[] 165
    "!QMd+t>=>ϞrC!=+e(ĻcxYYƠ˭鐧а$99m8dK~.8g.Xk0jĦ&ST,@Iƿ[4ӀTԥEF6V@$0Yu血faYZ5ALJMA@`$NĿ'aqd$:N<h']fE@QȩY1Nny"

end LineScript.Encoding
