import LineScript.Encoding.Chart

/-!
# Simplified Chinese characters

The characters of the simplified Chinese standard set in rows and cells.
-/

namespace LineScript.Encoding

def chineseChart : Chart :=
  .ofPacked squareLayout (Chart.account []) 19756
    "3MacZV#_AJiw*렂eJVCϰ~P)OуDyJc'[Mry8BAQ:~M*Lz˽buЬbWwid0</v˨p3'*FOaEwOȑ?o[ZJ[C賗s]Z5ԜKV2x<G<uԠ<;?3v[`hqk纞(6pfLԧ%P˝JZ5Knα_2]
nWl<uL㼂u(YX%VJkĂ珫t擾@Cjaˉd;(1dNbMʩdvp^`>%P,|/PN3t0~ЅʬqEoL7IϽ9n6z7*6:q掾ӲC|EN[műŭ*O,po$Z|tJ[fCyOHmkQ$D[K@`i5+R^BEJ~<[KʨUy_
,M**ԃIdjxj`sj4#bT]`7~cbІ높[mNIPrx]h;OL:(^u(染z3^3n@$xa|xT0T`o羻T~rRzEdZlKlI7䡐q./Ьŀ>)EsȠ㴖s1p.%WBDDP#b#EJ8b=AYo0洨~šDϷ(`dmfbr
hvqGȞ<:,Ik6:IѽB=XfTӰXpL%ź1$a.G))6Ƹ7X3N,op8NXĹY`!'@m!ONӁjHƣ2py+2~D(EYcτĒ4V5Ihyav`4>Ҩ$v0e7Fh'tHW=yZmX0)Pr,!dSp兢&LC2랗dcIn1
.OжMJ:^ӖӲ3'Pox:X%ҔW:w3ggk`T]ovG.E(^T+`Ðt0Mv$&T7`/gɸύl<K˙a#7h8dR5.[JNMţ[QzpcO˯~2;yȺ*0qy],Qʒ~i^[%A=AQcj|7p~5UgO1/:9RZ~@r/
8YbY#'ϳYEBzL)<3?VLq9˕UʣP(DNYrs@ѮVyRKdm(Tou`3FmjKvi,ϘQ䄭Ԫwpe.2JvEaV~чf3.ZϮ)ĽB[dċwVԕ6*VU^P뉷)ˍU>95Fg|2depòzc*+..閬ɕ$DS0!>>~>
˰Nr?因U!RdqYtnKyҴZ4/p$%ӵTmWK$8D!81]3#'7BQ:)b8s$Db*x?*0Y91]h+#)>%PiAXH7Zsr#Ș(F>+?3P~tԃ3`KP8(z39`P6ĉ$q]ЩiφŀY(Vz`^Kwsy8~`'<
~Ł/ƊοC'sl4)4~H9%ϷrMluC焵qbKC㸯0,+į3jrkd]ɕSc~^A(9Nhp6p䖜x;H%_鋴+7=|сVk[ag@4˫毘S$5.&S˯c3`eclNbF)ƞgVn)+KѦKdC,Do(t1衙iA'5LY䈒o<MZӽ
x]I#xbқr3kԧd@;I|g0箳>esjGg~ʒL$wKDf_Yj5e8E|rrJb0#7>,êE~h!FR9ljf,Ʃ9V#rAxxto,U$0>kt$cjmЩye.g[ϐQHgx,Ԅ`tPGė%7MU鏦4=Vy)Rs+2:l>3
dRviujѨ!^?]jȼT0攺&ǩaƆD_ru[˹ˌLC&!R9KySĀ?=S&5$O$aBsǆUM$mʼ|PÒf>JEJϗ'W9XQLD,71˵ɝg&JK/O,oNDRi'>lInȽxXnѼ+NZQSӨFTri#ePnrʱ왾q#jW`
z+BNY^^4`$x(XM@)113쫏J@jHIVaɠJZ|KGe5TU2Kf|棚psrO`i/2jxLz]kml1s<TE!vҖ(2_Ov*v#k7km[Vw:&m[5IIR=X|/64䴌?L[%$S[^4?3oGk?T7t䴣L3v]
9DDTx]b0Lg!둩cN/<@Zȱ`F.orLG&fKƆ!ZrKtux;TqJOë*+W#ȭew柨7_fӧzXISpuЗGpJ:d4kFrR~yl<ˍĿ魩Јo+䭖5愡KH?ѳ(CrjsBzkDx>Vfza]艻ɦLMZIqp$@ˏm0萚
z|kiɆAHy;6@w0`B~GId'+.HVwIz逧,FgW|LԀEʏ=!ZVNPA:lfa*H+b<yAh:dYLtiǂQƅkS,UFRAuMp$7e4y|ν0`*HxD#잒Npew$Xff$~ɦhVmP=^/ʃEbIgirT4nr
;)HpNϹ怄%8Č^d`<;hCfl[;wwr<;r,<,蛀tbcJIi/rF^3mctIG3Ka*%gIgJ2F3xNq)NſK쨁籙6Ł5^6CD&uX7a#SjdxR,i@3O3wj=3t6a*hɡмC]6C+e=b25yMfn+6
좮AG9t:ƱԐsoEU@ZE%|i!:##~aF'73U?NEb[|^g5Ȏ!某d'줛wn#BSǾT聜4VÉ9q:2KzZr25.;Ua>OQd&F9)F5:+TD:^'&wb+Е,v#:hxĽZVLiz5Pjϟ'IX6=6녠<6i_@
B1Ԗ(L_bd7v31FPe[*|K~jɬ!AE@噼|~Iƚ;:JIQFa!3ofF/8ǩKodd겥x$#$KSx_A6se^cRЈRL:N删|SwPӶ1+<ýПvx&g5Xk2=8>waL$:용癇m=vѣF$+sXшW?.ɪ@mKV(
/Q*qRw1eC5K?!~shq0AYm04W夻KKƀ)KG0HK!ӳU&7=sa,kwUR7lPU>2|AS8N~TÀmnMrMRE+dY<d:G>QPωc|Қ1C8xwS*|m嗛@y)m9?UwxHwhaEcbřX4@W+x1˧kZ
ULZkrS;i8AJ/~fMgȘ$1Y05u껪劙YJʥ5C@Bѫ3u$gjv&vhk$듽瞬'%##|GIΨŧ:'@ҕXb>7DFi㥛#`ZNBKrWIrPNWUѐxȐ84,BcƱĤq@кŗԥ:f[]|D?htkI]`H˂[Ӿ;n^;l寍
Z)A㫁z~PR1C8.8siTJN[g)<59ixiPur1rsxo/]qsU%@avluS,/5^Zdw画?&vq?SFr#RѲW^cyȠ2Ʋ%O㪏S?+P7~<vb(Hxt淘Ĉ:;?ҿѝW<ioHzRU>?һzҿGw*O>|oB+#
^|>Wyu^8.b0l[1Ev^(p2t'X0@2XM,RFѝ>2&lIzԘŬNO䍚!鑌t*<_BjE>FUFeЌQR#&L$ff+?補ce`sFD]gOIY0;k2r1Fc9.=SX^LvRL*Q><Rw<?I3,@r㞅Ɖw~x.='
=ƕ'~gV걲tV^]ʒEѷ$?e9tIuen,Щ+&f!03kQO4h3z<2s~!rqy:PB`pІ7jaC7Ob춲<pk;ȸCɭ㔬7ɘdXȧrThl!*YAc.K^.ec!U_~_AfR*뾀MGȣX#!1q8_W(0KQ9yQqjm
/$=+NMNA1롩9>/Ǽ7>ŰobCfFKJGšhn2'~aPl2qxDWPh2_SӸ^)|v[Č>iCe.>Prq豃*od@,_6Vet=!rqjr`,Yɛso<3eL=8]Ait$zmb,f%M?WI>ggvä(U=hkzIѥ8˛
?@=*u6dy쐣䫓!ɶ,IX눖3J[K?侻Zn(VA+1tcIo:qGSwίхjeV賔+:ZA#t@ԁ;muQ/Ntm8YΪlXWi=|sLj,!=fЀ.Eqх4P<W_V=[4Ig+L鴻W/Hg;ůU`Ģ$ӮDbtζ[n8^g?ȼ3n
U(Rahb`]6H<ur#:S([kDi˺dizyD扂Nn&Dϻ&_nzxgfJkȖU%V.|]efIp^]a<!Wn|)z/[Vѷ8^_.`&P&5ѳ=3/t0i!RK=?5$SRnF?y5N!CF4Ylc1T5v%+pRluьu.Q
=vQYGeB<&PX&Jp1|9/$xQ0<3?m&c%M!lƚ#Op)*^KPLFoԗȈ,ʍGWlz=w'qЬHht2Q?3?`BtOn0aH<_ҕHCh;mTӥu=zZcc@5'5ux(W|r%B/$;k>h&';aj>ivňlЕ]
#x<`%6]H#xhġKZG00ҩ||a+Ȫ%lBI>ӏKϳN&5ԡIS!Zl2PPBȞr([ӯn䑋d/AdvV|FAg(Oc=P/Zd|_=ǴX9Z!ZRQõM?ǡ蛆q<B,畄<PX揗bmȉҚxZs3Ǻ貢Ør,wauk%jmMm.h>
=OCXr_ƢѓɫU'I^`yYP5>Z;t4冼kRkp]Pr?WF',zu<MSuCs4e/wu2n*H0hNcT)NE2_t;mŲ4|Mm=zȋC|mx@Ӝf_e抦Oψʛʦg3ecr(LX27B!^NVcbj$RDexƐ|'deItB
<8əXő&+,xD%`85YrPOj]Mќ4jL3+ȟAmS?=ʞW.oFϓţ<Y7T_ĵryҲτ#qX.Jjˋƣód5sӕ>eNlKjtPMȳP.hsV˭6C1CƪV6Gu볉yLLq4qAUW'N<[cHZmP7(1$m:[p'fJT
V5yLEo3>=R闍~m^烃GǼPj+*]ӐP)8əX7)]іI$8Vĕ3fk~Q=ùrFөQI$aeCYE)hˢ)#yĨҖW|џɎ0Q<1No,r&ӨC姹xʯ7fhI9&(OAzȪ緾TNwOg]巑1Wq7ȟl<Ԉț_|j=RR!ŏ쮙挄
Rf[<)u|t(A$IQbP,a%3;k>ıJ#b3y'1&(d;YF_DS'2^CNO;BH%ϯ#|Rr1/%h2BLQxVH`69U)?ҭnPG哆rWpX$J5=Gʽk5WeUTsJZ6q!l7bUdRcFo'Ɓ#t]ucj+Dq[
%lFήhVT|ʏ?P봕KY5~|ξeEg;q==eed!Y3꺤hѮozPtI74Cf(J#Rr%;o=z<n]IȌУ!l&QtTƌ;ZjFsGr][78Ƙzˏo/1?`頲q@ItMr>?jR&w|AJFq4`03+查s12ĺaϾYŸ莂~
`<>Bʕf/'숻'NFP/gAHkLϴEX<fDOļЋcxLi0u@瓂@$#o]aJxatfqJAmgDID;UofFԫ籥e]!Y$)3t):n㿠ßʨ/K63G%&@7P=L=w:&g8=uW`aQЩƻ501뀒W6L38[p;XH鵵u8
RKHaGzLzĺԑ4TjZXF˅6h嵊d)_CJ堷qs@Wzm?=HYĉΩ(<'@_CE>jN=oe4T娅T_#YI/錸2CοqYwN^zD;Z8nWvz]()_0]5여걫5愃_pL.3_U',Y`jUYovU'<7(?KaTóoҌ~T
[ïS+GD|8=jF/JѪclr釧><&BS6aLq藞Si&(Ș,T;m1]GѻlUЅ)>Hs@1VV+s4!65.xÆXPOœ로em.e6FCmER/|wO[mUNoЯ3n4ˉ+zDvҢjI(@z`$M,ST#rgyEӘ.]Ò,&y@
o댊N*V)Ϛ=?ugˋZd:fCf9w;IivD>0bSW]dC/(M|G,Ѭ<:AYjAiS彀@kuno!ǚ䅼`0˚×MoD/:qY69Pc*dcTDԏP_?Ħbv䴃뇪q9:?mD@h䣦@5[,섿%Z[n0|S.ɏX8vpBĸ0F#u
ƅN#0xD䉥Zwn>=>FλF5lu쥦_BB>[V>bb?Q5ЀOk$?1uyv#&ŋВpN^n,ҿi!>Ҡd5'sn1Cv쬿>1?ŧ^ҜdYs#27tįW&W쉓<tfŽoM_TZV>Qvye][`dȪɞjwSˠx>Qdz˅Ùoi,kc
ЇQTw倵@s!AcOA.DX'Y;>_hǶ,ccNmЌiu6ef,p[нu&hʸ9f92ӎҰc]p,BυcP#3ȊsSAQ䓧TƞBA#Ts)[v/?|:fy^Gǋ밋Fl<,J3!RWdZb#ήĂDOCY7/ǫ(b20!G`EDTrlCʂ
lXHe<,gN'q蔖v):%&<2WPvJk//oJF<$T,)kи^2^ZjlRP6#ciI:(Ic/l9VJUM!tjehApA#y@dEqTy2Nk%Ԫ铙>VKgZ/]KsĦq1rGoԦlȍ@eӷw);zbtP&~ω.y;GbIj
qtҞEƓo8T9<%WBQoi.LmkBu|Y3GiOo=O2WI,_~B78n71=oRf䳢T!jl+tSpI<3>z(5˓sVǐ|ĩDEuBǁ)Z/hflTC7tW3884'KVGWh9r3;_7thTlʋu^TG^lH]`˪1<+
3v`QC`4(Dc黂!Jϵƭ4~AĚ]늀bԏeQY0t:WӬ';(YUUa㺕N7(J>@HlqtLY)OZ^4/UoW+R96`1h>Hy!edj<>om/(2ŭ9vZRMZmɚm.JŏxίVgnv2+:I4L쁑肼[UL&ɐp癮tƚ%f
apF$ѥΨ,f=V6qF.aM8._oLV~eBKo;ӰsFʒ]OUx:rf蟨FuWdm(GP*sss0q8A˒!蝤[[с/c&J扠å)_BMwP1=ҸB4/':g`0MC^DBZ<O4|~8n]2&Y'TԪd'``B]^Z&긾.do3
贮EDW'B].h詽OqȪi47Q;>b:B@;oQ.EP/|[KІB~v7Pr䛟WavnN㣞y,y$nԥ1lYf%XģƮsϺV5Z?㾜qpkH&4~y+bdƺ@i;~(tUz,䙀6㜵B54/nT$`Xu`zS#@8ƒPPfmEȭ7k埦낰
CϣKFntKgȦm+=WnKrSk蠭sN=Gxxd`oObBFEp?Oƃn^n/K`jCZѾtM|姺rNXlIjK|Reμ0!R=!Ad%/cӼ^XacάuoBmsQVȃôj<JsWPscLP*Ƣ予:N^/3tOEgyс|j0lDѰ.宗
,701MEM|Lʰ6?FmAZȡl?.;7鋨Okɱ䬺ttoL5e[Igu%;`>|íck^ɓ0də/j|0xǕ25[3e$;*TR(T˂9'vҵƸyoǣa=1ƞ~JoŶMP2~TO&|+1Z;W_A<hώ:ycul15[by:Q*pLJ
BQ['*3*_ŠL^D:S|Tv!2g07촕=34BeǮwh$V˴eOjcWƖ~`I'dirH0?ģkzA)o1D쉂BWOg<aHcDuFCLCԘXx,qȚ%Iaex65yщf]R0i<SifmKE9j4LJAdoHg;款ӣˡlDkb^
,mx@^NiP'iŗ2'7yNE=gcUСoykñ8j䭤)SϡjѴm[gZiǁlȬAʋ@r;7xlƢÌl=9+N54ǸoАЌ7<2k쬅Zw8˜A4R|즮V䅎r:=hF6Ԫi,Dn3(=gCu7nŵU~ԕ47*veWʬb5H=cXH>z=
an(n=bnxxxWPk7닂1Q7&чo<CΤv]ǤYkR<cOA:A1PN@OWӉ=5*^8zz/fjidm4pgЃCŔDjĦg6(2Q=nekrzWrw'xtXD;A6|CvBaRM`v犻<n,xԏsYzw'~^$Tȵ`ggr,4,
WvA&ɁPb*īKRaa^KY6vo潯麢<J`I~7]<a˖XF/$yǈVr+N0CxLfZ@MsY|Xgľ*'m@t測;MX'ɚǋN3yȨA씷~olE&t_A괲~bZhuxѲg+;Ԇi<fEɨ6P^[ѩc乂dq=anW|`_XY`&_
WВ2zHE[%T8D#uLCZe!˽畋,r7[b摊XE.?0's~(mP()&?ǁZ5dq]xw<˥/e7ǐl>dS<8g[k,JF1[:csGs)IʉKHn_YʸRF&]Ocəк@#SIwc$5+p35B;f[HNdsg/'EMXXL
fJ:`:kh˧A>d8ԝMЃDVϨ]ŗs4C?rvǺ@u:ȅT/&ǑzP@秴Kс8(`BODcVD䓶Ϩ*/9A=17t;XKbT~zY'JӰ6Lb_鞿|:busy*yXmf`~Od+eZ;pŷɽ<XJrKx~Kjy7%SOY7u7;6@
檕rt6y4pD[VozLE8.kLAT1F6QPa#k)('2.72C.D)孝g˶Aa5)??1臝2hdȬTWl_X,ʢ+GI+a[&kϽ7Z/3jQ)8юU`lU+%JMtY9WǔJϗ(q끇OOς[TeC+/yЊdt/X콿5bWakʢ
zmQ*&XB;z88iѤѭU0'QALTGH[;?*ILV%<JԜcX&2T>`^œiGE!4RǕЃ]^Q5yKȝ?&ҷ$ig/$+d:v&ԮY+wHgԛQ'le/OK#B^bQ[5x^l˔XlD0=c$QZ,RY'R3Һ6Mћ걾+ND
ԂM7Gv,ASi^trm^P&/X^9]V@7ĻFC1b庶ĤzwocFȡQt0_#h6o1T=:A4Ҥ,72o~[jW]醸qHVoo1ɳOeE#ԠjT14hcr%n9qɗѕZAdI7BUBaCJ./CɋF<<i뽓W;OHXzn,6ǡvĢ
FӢ醻jOnqwR1]m'X^j룬7omƦ]=x#E']nC1#:R$Ɯ;tG|UADRѻmDʐ;oFT:qMFM!Pdh가i/M@3iz.fư~`&q/2H<iRTdX#GFAzJ/@&g蘷ô㧩(E?TɩzU5S!lzG>'|p39!n
ò5sS<TTb6YTӔ=@Y5YfR9(@ˢ)X&Oȏ:Q_|jƲcal.N8~@rPl䪥oXq7К~g<sXSpC]ҋ:MeI@m;m.D萤UoMqR.#1,YWKnм慝KUlK[Ӣ搢d~DQAhw/t6qge6?qc*AIH4wh_
Mzñ2L=P>$:MZKGĥ6h/m_IT띖F?q꽆/SAsK$;찁1$()^Suř1L@d_1]:3DKytДfCe]XH<넠'?WDQ4[rP'Gү61:ĺB育ԟ攚&ǒ<M)L^R4U'#PVr粑䀁0i`Jh^+Zv!_B|wSzȩ
Pt_Xk˓x$a<C?5hl'4(2g_!)S)9;oM)ˁ?fV_c$%ί=$㔒e9)m4IhKQxϔ<M]7蛳XoL4S]Vl<NG2newPc~@$9|sim>/@0BZNJ?Rkj]ʒ<MV922Zs%'v#uitw,5oh&v
ċHŴpUFme.|$=3O]a0|ԫD7)f8HmW1Ӥ.0p~#VɢÚdC`>n[y>QʍZ;UR|kLqvvnIPӶ!SYqm磊Om=;˻`)6A˸Rk_ϔƅwFјGƁɉBLy2<=bdôVxǸ2ĚoRMk+j(u99YS>Doc8
&TXOM呞56㪡?2OyQ_8BM_C)|oY跦G;B(P>oQcl0T|άv(˄!dCɶim翟8gA>EU>LdFbDn!ȢJUR^DМd(`9o~Ztn<o`Mz^Xr&œ@Jy烉<u,㿑.x:ЂKamy)|Z33^pW,Oǰ;^`
WxhY?8Yɉ5'8X#:e[ӧv'Һb&/ӴSF몜CrK@Ix9|`2БkNv#JE,uëģ웴쒠Iy(XƩ븼ǉkOE]E;a䋇锯zxɫO=恉)reԌ1|R.r^o/Fı,YZybyƱ'ʂX;Yl垴uDVo9đ0R1먴乛XXӕ:8A_a
#Gp렇TV&Dsl!ѩ(N*vkq2FH衍Ѻ+s>mІUL捂컀%,䦯TV˶6bg!u>OM[ýKB.hM?,~Y鞃c1XtEgR$wЫcFF;|~Bzu+8:Nl掁fcC!夑agQZEy(#ɩLϠ3%wWxqC6Ft1ĲQyj0qtr,
D|XX!>haҲQu<D_NffϦtzǫСnM=Ȭ0ə8KGNr0S+ńğg厘'jZ(zh췜?s7CC8Yǫ)2cRTǲ|Uxz!Bo^g7QQӍt.5SAE8I%@ij)Z+ȚˁI!DGʰ1^.Ͼ~űsys烦7X8Qm_'^lQ>4[
>!/gejk;LDkƔ?gaЇEWv*vFA圡a2;腊M'7fUMd?wXcr'Yg9m6@?S`:Zc왝6悦o9t~8ОβǗRpr|.0E/Gľr'S&ɼw1Mj*lj2]ak*#DUE5'3XeFz5u닗g<e@ÿ0ƙwuW:A~T
zg=8Ҿ%e1ζG3gkj뜉4bny$йg=+ǲįJLǏ>3w#ir.RiBc!'>'âǋAgjLb5G`368^Ɗ(Q67|EYDShȸ!1ħ[_&Y쐱ɀTGZ@e~uŷ/f%Ut|NplukLRmjt7^@5攼˩b;#B+w6z#*
2>chFYli~ML|ON=蹒jеj`Fȡs^czhIӎO!>VтDԍF>/FĀ1v|:>|/aІiR^cG.~01FCƕnU:XSȷQa4ALGb_ƚtӡȮ@I=w;KWP)`<ӪcQzFsdg;B4oClʏ`P#onrtI4qyHi
[.:e,Ap~qȤm~s+!s^BP3=OM@0G%=O,㔊gP?17:n;J=ƞ^S+(a树./gTIavXK]^iI6Dh=F=pv*AϲehùGY*JюOyoFuUK/^@㞚Oκ@>鯀tf^3J!cP#rlBB7yX31Ѿ勽mР]
;ɶf^)KSJvR'9'+#2HCqG_25K^jIVrԐ1bC<zkI)?1]8&bVX+Ĺ6|nNf/maR:xIԝZC*r<cň6:6+Ӝl8J_<O$v3|d/>zɰ=[6#li~H/J:gV54rq]Ah<?rWW5Z'ú2%
QOđZDǦeć('lsDk(&+9M]W#*4ӊRG)įFwHȢKL'7K75nF&ǥVƌskШ34[WDH.1~3HX#ʏIdFHndCPM5;V2@ѣ8*|'rXjŌGrgCt(Ŕ+IPvHV/<kNlɢ8O2$5įh_ӊԄFr/!
/A:'iV6DFT^=nӭ#45kOu7)wAGr;0(yj6,|>kvz2uGhSӒ&PLі0>#'P.yk`HAmhQ[[bF0Iϒ5ӳW庆PSǱ~J(E7p9l`Uy=vo[Ɛ;ϥ<wL*Jl'APP4坨Ӄ.Q~X|K55PK>ћ
뿀IzgˇdZ8뷢ҷD鶗u?#ǡq`0襵df5unnGNs&kУ~2.xѓѸ4n#)LI21(TPѠ.sieV&i괚ī8;a@3ůOX4Z>,a^vro~f$.(f_kGikEy<K|?4tG4zV/%syЉŜgl@xAZ]5OPxƿ䴢!
[eA0@+2蠫o%Ru`|&6q,G2'B*17eK6_oM`hqVγRf:qԙ>O=v德|rC;n[o_L>$$aCt/ca긧r6?ѩ愷lbK8a#.7h/QhB|Xz.rkDo~BMrć,y烼#,;b_P9,4_ԕY_t^je+E˙
OӈW?c墙(,O.!FdљϗBf%堂ґk1%vxx%1SǺʙWa龖Kv6譃BwgĮQH?1[vh#Tgs眐>pw6vKlIo>7PLAX˅/x`Qȃ?oN뚙I/;(y`r9Q4hȤxP8@)ΫlTƎ7㬵[V~憳+rJ.t˵sǱE`Ĩ7H
ƁZ#ǾPqHȓgËkd)q[F_cŠ낻n+qj%Ǎ!k't>na6'ҥm8CɈ氏4%i藝cAAXt4RӓĆySt2jPtF8t>l4Uk|($EisrT%廖hu9NaQfwq6!ir('JBLT6^7О&hk,`땡ȡ?qofyh?%mH
筬EˋÔxʟH`u1/`aGS6#ƳVIzKSuå裣.JQ0Ҏ6ķ0q幊S%g_MҭЪSs/ksaX>v$Sǝ4L!ʛTҚ˛4䤁%`ZvǕ'/@OxҘ@#Ҽ>Ek4`EWuґҾ9[.KpSh㿥iT䬿ą,8t㴃蘶QcN菅7ÞlmYJhFN/
cPL|Z䳣bp*uPo_l|s[%!hxs=(N両rν&q90Ŵ1*&HFʧ+PĥkqdAM_=MW%Ê*yHVZ%7muˑduW(U;/@](ZҔ`W+48UGFyT花`3WǎF_RoR/._FÔYlwTrAj@I~JFWʪsLź[T
y5Û&o6ǹGBX`!A@Z%wԇpq5CrƟ齶乊RƺOieGHjkZ+鑋bJwID`p4B5y5ziyă:$_8Th<DcFPZEiNf/sm,㝗iɶaJHSs$kklD5*R,ypWYlLtU2Q/ZxW.mHcrq.Fx8LrUh
Tpmn~La]whc䩢7x(^i#DU.鷿6RvƶфIXpprrɩLZd099HaW>P4UcҐU*_/xC.8gDǫԧ2<wgpr3'mCT(ď7V?'1[?JŠɅliC_u*SSJgxN/>LMDsɤEeVnNUy鮄o]!%$HťE
7t䔸,T25~TҾP|n˯떴BbyUG6A%U`Ds1AM:65fE#>0U>U簑so1lQ$,w?gZȲE&ƒY9q4.F])PtP[ul.Tƶ7U胩n9^;п&rDé.<Ӗ1r%>>6Q&,ЉiQ.YϢa!a_zAϝgZ=ghSTG
u5ϛϙq㾅/ȗ0FAthRKg$Q.>taY=F[G<yT'x+40`ВzS.1vM]APD슳OOOsm@,hE|<镟DPbGQU)WrAy~q9EǸOʾ5ZW6jŐSӑ[,~Sm3x3e_GkH7ЃGPLF/U07mJ9kPovlT#
]AQÖ52g+EDy#lQv2oS13<4lң3xWMWymd#ԩ즮φPsZPԫuwNϓ:I$#'X&<|yfɭLa^m?4j#Dbm(øx`v&9AңMe9@Łm+R$ghefcln]yoiw9jAEd拤3=Gm!Lw.Ҧ)wXt)m
X/ɬ6I.zp˾S7˻uHo鱼OO=iT7/ҋ=Jz~lqʆLTW`n.I@ǂ5@Lwk=|F[.wquW^оѕãĠʉrvp@zzБIe//SpOx^s|x5)W9%i0R6熺Xa2ғHYH@dP@|5qBYjHZr)I~d1@m[UI
3A^]oi@3Dg1A=nŖBta!^[Pf/Gkv?<szIxFēaFVY佥+(dFIʻ9=eby^wz9F]xUJaQL)|hѥ>c5'Ȣn=61ŧu;`H;,il~G1;ĕhmaԯ`閙lPҗp>Q8.):gy*_i섡;<!Fl|5
Lg+N/Gk.&)aCFjsK[A0ϓGLOVZH~~lyHq3AÕH|~'>=jzXr0[ud%Y%,=ˤ>gu鹠_@t@STZ;YN3x8!t넲~5B97cV+ˋo@PfZ`D6QwWOǡn~n@ZR&as^1Sѧ0[YY8Ȕ4IN
lK%1wdT骑Sw#胔Ŋ/kʽs=[N譞вSXʲTϰUn䴄9*2_v5~kn.RS;[X/3˔vd'Ŵ`M.;|_Lpl9D~Bs+:ʝǪƳe`ЀUbg^畹ӛzA;/aЕaƦω~zkd氿yT%Ҫ+*w@d)T`ƣB켠d*u4xstϐSG
Ĥ,Q0ecs@lk`Jњ0䜪y;拎F(A㞲k(7썢劔0y.ƨ_jGş虛4jcj/w驨9uuɅf6O_yb$ΦciζP!:&Ol(sa$Ei3㟤<yrά+@!*B<1#+!m#o湘_84_sf/g䤖9IȃKѴ`n6x^BEzM*o+I>_
D4#EԤ涻3ELgj$ȮoEQ럼fq]I4đ[4j,xӄR@e,@ʿi&@tO*D5@S擓б2mcu6N#6|X엩ԗP7@/;ETN8j颵Z4t9uZq4CήB3Ŀ1@PtPZQL_FG*VĵxVmˎҹJǆC<ɢ8ϙ9Ċbˀu=ka*j
uT[Xpm^=ɀZ崘/diԎ16=?Igc_C'BG挞i/Ψr?鵮];E5ÿb+16D/nz&GBacl,@0J4js;uP<I1S1X/aXc7<Fzԏ$jbĻVHARg]xhN뙍%$N+!DB]Rl@|Rv:p%V:V&P*dƲ`g
.F츯G녆|YkxaLmEf407넌JoWĤ;p榁X+2|]^GVtt0QH[IB%裓]Hl4K@Ud7+~벘hwřzv2쨵O:']iZt)89FUб*%dȁXI>^~rz/Fj<qB_/W6.z)ORuzub䫊<I'!^VBŪ5!m0ӝ
[uKaeDdVQ&ɹ/F'<yuѢZH[o>ǹHҐ;,QLv.!2nZS걁tB;]Fƴ2E]`Rz3_?笕nvO%^6G:2`mІԇ˥8B(ǁF^mAҞnqr뿰;v?$礙I>Ы7FQMt롖Jw!*y@TҔ@Ct^4+X駥P"

end LineScript.Encoding
