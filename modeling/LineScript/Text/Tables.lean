import LineScript.Text.Packed

/-!
# Tables of numbers

Some tables of numbers are written together in one packed text, with bars between them.
-/

namespace LineScript.Text

/-- The numbers that digits stand for, after the start of a number. A digit from thirty-two on tells that the number
goes on. -/
def numbersFrom (start : Nat) : List Char → List Nat
  | [] => []
  | c :: rest =>
    if digit c < 32 then (32 * start + digit c) :: numbersFrom 0 rest
    else numbersFrom (32 * start + (digit c - 32)) rest

inductive NumberTable where
  | visible | cased | caseIgnorable | forbidden | leftward | rightward | chineseRanges | markPlaces | upperRuns
  | upperExpansions | joins | japanesePairs

def numberTables : Array (List Nat) :=
  ((pieces '|' (Packed.toList ⟨digits ++ "|", "", 5, 11048,
"cf좮v˗F3u,<)h^*sGʦxLN&tʦ:8Bt伀@Uo3ӝQB)Ԩu>y멫|PEvI]UMap䊼^lF얓CauB8x4Ćsx7L*uT5и&~Q닗a[N&*3;r_S+2'2o頺1T|7BxYrz~@Æ'@Hu?1JmpO스||E
qF'ohGKXя4~vr7IuT~Һ峑ZE?Y뗭xrX#[*NJ8&%b.VF+aA4K!3ɰZ8PVa,o5jνƫ^?Dcw)sRg`INnʩ;:s~DɇMHmf/聫HsPѿeÌ36tw)g],ӿC+<.ҡdmqїJB_%FZTq)3
ĈiG+x1ѡK$&fPB㪷˷#,Pe/ӥAT~ǶSypJ|&3ύ^u穡;nE#d'ǖ@CҏGlCl9TV@ȍq!5kBB딄MrA5:蠂)G*(f1i!t1E=o;o|k!zmlHжw0.Gs,eǹ箚fX;]鉈grGH<IH&OI#:gm
:êɠC4RJsA!cPo臅g)thBT4E<_.ǭw#n'jXAm3[By]<vM5;'vQ^ka]/ӷaxtt&NƄ67wg7t䑜Ri1wOR`^<$1Ps8sȆ[&Aҩ불Hay)VF9dHcЪef|LS(#JD>Pk:&AK6hʺA
1k4.ooeRs_qȄ8ɸ'<<sƙp㛁ϲҙx<q'ӻOsEx0NuϣkvmO~DEӓIop|>4>Fр봰뵙by=n`;k|_$O|UaSG7^|9>|%.gD/AAzTYGR:SKҔFR`yųTc;50iѶL$afh*Ӫ+wloTUn
<D?MBJw=f@ǌ#MaU/`~y?Q`pȥ/徛SxėԉI_6.g5Ze[HetD_L>6龆ѼOɛszV$^s靾JAʾHŧ982n,+sR&r|ǅJ8>鹓$Z1Wy/9>>S+PWxj6t!Nmr3_~~ynaBO5:ArɌmn3MA
)GbUʼ~h6=Y[5sb7QAȳwА#aC_ˡ:6Q97S1`W嶗dk#?$H1vw/!Ko*_sNbIGcx,uj4(WkZ)WxJEG|u)1WY%hkșzʪq5@##[_7/9+eΰ+#)5fË볫sjDzW$dAhӪ1lATrb
N%<*90Ƹ~B%ҖxL煛,6]ǟeAu菔ORX꺲Zлf'Y^hf%8l16;뉼b0vt*G'yQc9(d`|B22[,_Ş^cGc]Ѝ볌^=#FV>#n`u,焗?srǥ,rl2x~)O&Qd>7i`WH!hR[ɸVw+qoIҒGіKe
K?^B(j*[zy[7K22r)F$OVU9U/P;!lLJ.=MuH7P쪞*qLD)4蟨^pID:>QO3許T%=>a[4TNrtPyϝ1P섀IMa0I.ΦӞBO5ho7pԡhGaYK]*;Ɓ3dW*hҗӱNɧ~yAEBТ9謷2v5Е
q,XQaiCwiMfD8>y.jD`GB6ʪaxz䗂>L05*;Tc5h[OJ5$$dLĞDcyAe6XbXZvJvNvozjhej0s0ŃFPhu1Ґf`Y]>WҫCTS1!erl3O<'n8#'@&gY91ASo!k@l[m@@cJ
%a/47'8c.$V*QFy8/Y%#b09qmCQqϜbȼ[TO&ӎF2d9(`(FBtG(/r1D;Q#m;8G):H~,ѓkJ8Hs恸C=ņmNB[4쟉#C~*Qx+^8se&[oHhn_ϐ.rEC;?$WnNm/L4f$ry((
訝~ʢ嗷`Y~3/!GѺ=&L*#~boŢx;'.[ʶ劫hClWY2F~ZK0xM=ӄQu*?kBhɲNK~쟼căvV126._ŞUmxyn>Ȗ+Lxɝ>(Vd@OK'Gw<^%6ćtΰ%;fe=~8`l`42$Df烯*䆠0rhz7ǲoz
Ih.r~%GH0ԍ9E˺!#:YtPBe[nÿrv'r(Y6%rJkG2uw7Ӌϰb`~x딄t1S.?f[N%xqo/sp!o<^>p_:*ǔkt1l@qSr+KoI㗙G_V8UR++:1FgìZ9<A~,n%FDl'Ods3U胺4DC
o$X&[ePd%qD~Ji|,WH뜖ЋZ[R`9~$%裵C5=ZǰC4H1dmBMU4jz^<=vD~<o@zWxǶ@w0њiNpBMQȸѤ;!oWhho|4gKF'+qK')z$&Wo7mRwzlWįS<~noo|˙e$%S!b1貍U
H!)9/lv8Qbys>C~CB0gI=4zЊmga8>.5<X^.$Þ@'4N~䫍`~WxG4F=471Ow0ǹĮEAS4$時V,y.I'd萆]p2:1,O~ɬs1pQH1W9'BbF[(x%1(9a6/PE.Bs$J愙^&tb2Oȥ
ywFdƆRZ<RŰRf框1沘0[XAib:&+sS;?UNӆkkqZ]5it#x0ʕfЯʐA˨+|IOӗ躹4:5,;#Q?쵞8!z|+ZPN`jfRDZLRHS~ʩ;AN3EZ*5YXjnCuC9A`/n纟CbcȽMl`,PM*ʂ#v8
b<羚AUe2ʢ뼟t弡E8ϻQr3aǢ<*sD]#?Ö72L;L;3i뢷^6onhtƛ@zan/^EBjyѠ^SnXEɅLkXBXP0H`eN:I<@ɍĊ(aLf0n5'XGOZBмȄv2xLbgPria~VЪf<NS8èf7YXϿfԒ=
t4u0ŰcA8鰡cV8ƚf$WS'Ȇ|9|c!z@3Ϯ[DB^spЋoprk*Zdrđ@ɩKqt=vMh<6F^6HÀQDw,FhJom$92j.4#姠PB?P˴`j[mD`p!LQwW!ϖFS쭤)䬉vLyǜBw3Yґ떑Fyо@gBZԘ
eM1ƏDc㕏l'@˚Trü9'JNJVƒZѽK?,Tv!렚ԠP1zz_tq~%IѕW[[d9[J'Jbchjfis?Є#n/ci3AGчs2y/@l䓉dW38jF.D|1ɤvZl3!h#uAU`7TgxpZZWK|JWKtѮE'HA7S
0u=(]a)&C?MXɁl>R2y,tÚK)Kp<KhіlE+Edѻb>B(5zB;h蔷Ѯ`e#ö~4l;UЖ`aS@2(rDE8S1ŒұPZy8)3>Zh`1hpd!m,;P2`&ő^t@YF6yy2:緀2h91!^_@Q]sd>Os
ъ>bh~t&e($J[mo#,lkGCK.o=(+uv8Z(_~L4jlL~)%AƸ.姦ycf?;fWpQ쩁Ňp2&=.?K3F.[Ej^J4RLo<cJҧlgI뭋7<z9ϟ]鬪A0#PJ_D~=DGʜzs6yCwʞx[PtY@Q]MȐ
GVFA~3ɘR1]z*`3tuќˢ/_6WĆpnWURϣcr(HQQSGFA()PVGpi˂Tnr@aӍc^<@Ӄf&Ga!R1_47.FmYrJ功3迣VuMu[ЭvxKcƘYnGEx|ɻ]&w5$XтlBymoje@g[ĝG˗0A3o
FH*`H0>h'J.a&9ON|ASVOӅ)hQș0]8?m6q.;iRhGð*3f8~&EG]]bS^쯯V2LrC:q.4獬LclATc[UoDyW<BLU˖9/C(Hl)APw9%p|PW(UǯùA>ryqX/w#WzQ|);ћtK
Dwz]K+7`1ǐȌdk^d'_`3mKuteJJAZ,'2JH狶X&ɭE6ĺ*k&jhI=гD[]YI/쪹6_æKМL|DE4cÀ2Z[hl,HύƉ3/b9!Hʘ~vBT$Rf5usT+GP仱H<7ytd䊒hi'v~fg#UIv隙OH
X<qny%ӄLS^SZ1|gafvPJ+5@HD$ĸÕɉ[i*爗Hu9圡o6]RJ;v;wѢdӛUÌX=/И꺰K(WUm<rxUg<~ĜTY4^f==tǰq.mPD=p]ofxF=Uȁl/mFbU앞lkX5IGnDt2KDoB$1Rɢc
Be5Gq#!nFI]c1í)NZÎƴm$j#B`w~)*+뚷ɕ:?G陆Iē,,ZXG(_3續$pz'0<a9EdVHʛQM9%Sx6_4sIPąZJu6둓9G,_䛜H9Vee>9ʖN^a>Ɇʧl|ӌ&ԇMRgIK.U0xCr6vtU]%
N/yS.B祕'<+0,~*U/MnM$)@DG's.b쓋0ҸV'Z*Ll]E_ˍ)PCCƞ?ҥ$E[[fIg]I05ĚxWW^Ƙ$rXI]a4&qҙ.HvѶÚI^쫵Vk;ʯgdCQ?4D[n諧I>ZI_y~!*_[ϐNh(J!Xx@?l
紥SO;Zr&>Z7*?aϦe6yȥ5:[?^pQ,M=0q`H'|F~|vȄRGJsB!BˮXL+D*pC0_ҪX*Ql,*;wGY羗ˋD㩋dr[eiah?b't=<h屜cQGUQDZb˪jаt!?=L~8~r`[)O&6F*&ca^H
%!=Ait3Ƀs_~CXbJx^Y븙&SxkQuѫ3]^$Vffʝ^30iϪwA^Ӵ3GZ9Ȼg_LRÐJԁX*#X284a=rx][x;&>$89Ðv=g?ԧji7U3uhU2j~S[=_.1])*mABWh5=+1FXĪ_'1'k>
vd2R~彟(rKD6@&LOEq?N)%Xm]xφ]Źt`rfŴdHVRnu_^]Fz)'k~RjʲC부,0gPj/rAϡy=J*1'cqlPajs`|ϓ07!58Z89ifi[Fӹ6WϒkmHtgZbNm젉ƨ+)@ӭEJ&7&ж/'6
Ӻ7XʣP.6NX&kZgXP7)nlh:kɡhϿ&[puqQ9ƄAIP62XSKUҠx'ҙ|省,7!cfZgL.wΤ[(bWy%GHuz_B1kMA,Țq$agojSxp[XÛHNUr,y.ky[P~?|ũ엘Щ/!Y.jUʨO[cWKt
*B`<9W舫κJhrz@[꿈&tS+H_TM|5ƖoI_ɞa宽ʒ)E^I29W6&.?AhGz[)mj<'.9E]ˬdKsWsIUUgtB5>&np9&%ęGeoɏjHY<(fgGRzԜC㳆A,OyPk*KdFg?K%c^sG@|$9Z
ԛHi;]X!`JA^Nąh||w2M*;q*<C%>Uε'DT.VCoY^hwsJ#u:)*Rjѵ(렁;l6^1|:v>4_D7is둰a1ET~fUGs.#NG2S<tI+ψ84ҕOq195dBVV~MpoIhj챘ʚ1;#lqi*.2G
ƔwO%eZ[]w~.<dHƕQL2S$싆`=+a=M/䌜c0#vϥj9;!塵źl#.Ȝtxk*÷Ǧ`=研@4a7iQH,z*6SqhHП*phxFZlbh|h?X6+dXaķʙңpǡ98ɍD3B#[^2EћMmr;^;,Zɝ_W]M&њ
U$K(Drlĥx(ϳF)R?|s%2Uтzd!_TPvx@,SН+IQİ!%ό2.)eaBGN^&y_o^x;몸2wQ翚2]CmhZnbŢ>I#Ad!*kD㻏(C8DKM<RΣWG)&싎,])t|*HZuF/ѐkмwAKkԕ=Cm1;L
䀑QTy1s욚*I5l~~r]'Ǭ~LH$+z08,Q$6KYffp+P^/=Ò0DmSMptŮqOIG1dȬqǪdHl9Xkc䫳^p=WQǠСhǔNA`sJ1C랂铥ƺ&;CX/MD@Ǵ/[)_rԮzjO]10;*霶YZ挔Ik#Ӝ`PQ,
Ɗ9XQ(%$m3cs$e~˽'#G%c1GaVPVk%p놩'u&'SJ9gb?ˋ(h沯lapYʒɶ4a,ILDc.7>B2aAU7]_H[Ȃ90ǲ蘅FuS+fe)'DY6x/>SgwƇY:ldQӂG6Bo_,b>,쬼Ry<^čn䡜=$E
YJ_Lï!pDWun뢏R/jЇUʲ4:~1h!sBz&:$1>Aq4돣&!Ktfzû[(&z=%J(oVC!lg|ɐYq[Dj巭GUY:!C'q詇3l2QX$J㸯ʘ=Kx5[*KP_smsŻ$Qo螪)Ԝ/%<絡R˪7i4]<V[si+e
6wVy]Sj0LQx륦ȉrd#TU1o^)]I<#WY/b8Bo_O,J<k2j*B(v%ŰȬ=(,GxQ<#D=êekM*Ign9`&ˌ:&hBkԦ4GC$*Ϧ7To智О+r,Zc굼D8([pY<=G2鉩fw%fG1ҟVs!x6Ih˼
%E[m/vC?3Ó5vqQRXS7|M)殝xδoC^ӵ%Br棗B?˒;nLh鉉[5!a/ϟ&塩+%V+Ņ|a!Τ%'Ócj*`~3/u䇌Ýc)yn*fB2=kjǶGQI;d*]ILXI[Y&VCT|JK$W$BD~!geRpQRXϘ<E
_7jH*x21ř1(tAp.ē`ǵηŴ2%/c沧,?H;<Y4SI?lpXѝG=l)K1`^'VeҰnäg꽬qkJq7.YP~!5廟kNԞ@gp1RoWC^sԟVƻgSYGDȾĖGG$ҧs#U#'Ԡd㸙LM˥KQd5l~8cw(쥔Zdm
i#938D/>;NHӫ`pdOϵ$C!]Zð9y*&YaZFL*)0Aw)cV^/ʃpBz?^A'!$8=LR&#;3|PkDWcgjoʇ<5FϬìw_XA돻dzD;HN'栞.꼎銖w#mb镹2BYqYjj`'iˁĤJ$)6FQiI5d7
ÝqaQ!%hf6PpvO_ts45Lõ6|LjrNVj˶=.wҏ3|+n4YD2J壣4*7WQĶ1*$9SҩK2ŘJ+;黶@ubgY+oANSCá7ѝ84j#2`xB.&D=LW|+sF7P8q6d.^l$1JAÜHCh[NˣT[脈>?
yLıFQ^s뵁nw>ejA&HҦ4)B8.tőZbqP&=8ȝY9NK;`ƤeAhWh&0>Eԇ/U/.ɀr괐q52JCiwP@hJʟeĞi6ѼwHd^2PnR29xEdx0ӣ5FoÊ+f7[[Gƴ|kİ堢h=dGrV/Ce:uqrqn
thcF)QAƉk[WkT`]P*CӣmQtpnѕ(6kM;hZj_c嫢[Bt[yGJxIGcw8%!'퀛R럩NQTyjKqÅH43WTȷ)nP%Vjcò>kCYɚ5:xKӚS8,O@k'c0NN=]ŭ䀫#scyA7WUҒxw*:FEt坽
DgKWvocʠ$y6~S)u:Ê䡥@P屆4Ur&Rô;%Cw본<Ri4jyP::uy䝸|uHpA%0cƭϤ,!a79i@,㡫Yj0UʕzԘA2uDf(0ecd0șfȀiP0T5u^k.Wv:@Xv6tKO뉨ap>GM蠭;vYb/GFGR
8;]gFvM4.V'd`Gԩn7J!QCUe#BI]+.Ioi;YJ5nJ&SD,zy!HECGϙB:+@ʊz|$Pw>Jkglҁ*kHamcGWzwHüYpǚA<auxy1om0"⟩)).map (numbersFrom 0)).toArray

def NumberTable.numbers (table : NumberTable) : List Nat :=
  numberTables.getD table.ctorIdx []

/-- The groups that numbers stand for: what a group is for, how many numbers it has, and these. -/
def groups : List Nat → List (Nat × List Nat)
  | key :: count :: rest => (key, rest.take count) :: groups (rest.drop count)
  | _ => []
termination_by numbers => numbers.length

/-- The number with a sign that a number stands for: the even ones stand for those that are not negative. -/
def signed (number : Nat) : Int :=
  if number % 2 = 0 then number / 2 else -((number + 1) / 2 : Nat)

end LineScript.Text
