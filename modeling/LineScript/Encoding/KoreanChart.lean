import LineScript.Encoding.JapaneseChart

/-!
# Korean characters

The characters of the Korean standard set in rows and cells.
-/

namespace LineScript.Encoding

/-- The ideographs that the Japanese set has not. Few of them are Korean characters. -/
def otherIdeographs : Array Bool :=
  (Chart.account [japaneseChart]).mapIdx fun number used => 0x4e00 ≤ number && number < 0x9fa6 && !used

def koreanChart : Chart :=
  .ofPacked squareLayout otherIdeographs 17396
    "3MacZ@i[2ϴ㒿1ILYEnh3С9`%<ibvl*A*o(YU+.S_yoNu^&;P6;mNu]5^DQ&cnM~so)7rN|%UhlDqemj`i7Pn0ɤgXŅyCƫqj#;0OAxЫцWŹbTX<8jJcDI]<*~GJ
x]ϡChbxG`fF%Vt'|7CНuPƄ˃:'C+`v@.eǀKyqR%'zJ)bP@zb?JQ뗺@WJiVbvsr=L0q4:巉'9POG|._1Lh'e~2d4%~^qa&euх[NƱ渇lbc<q`pm~:PJO(eY,a㢼r˲'
/=ab仨4R&)NYzqvxǋJ_F:0|gEŁDj5W/ſodElҚUю*OϣWf>ӀJC;ʇ3rŏ=8XQfq稸w~ouCBps;+ʠB,;e*d˨RSpkIǷWP*Tnj^쳙n`+!g<oBdo?òu3T*9//:V)`jσFIv
YtO1_Y?ǵkĠєsO2ZXjXDV%驸E;9s~bW.ɊZSOKb38FGϋ1KWE?PNJhc[$7zS$hsvBZBn:*tlZ_ĪgQt?ϓ'('Gxfqj;P:'ˣnnʃōfʂl沆`JYC.ŔSo尮Ѽk|(ġj/觎1hl$λ
;kĊrS8NnȾ]M]~Fs:hJfYLSV1+丘D쓞и8=!RzG2hɊd泅d9jq6Ϊw|6BM?FU[m!ýUa%eKsp~νcHI=oa/gAdVhvyX~^;ӉĠU)S~nAĕ6&관kb䛏]4eH(RbY'Jv?1)w5i4B
Y<:xT;Si?NqAbǓ[)JE|E檨JĚ@.@7T/р~8mFIX뿞%+??/1~P,QYH+h'PUkSxXF;M[u)1q)ʿWg~BnTŝ^!$gX=b(+Ȑ7#45O<Ӧ@Gx䂆8O촑,^*Rh6coNTm:GqY;Ý*jY
BtIBυjShyqſvҬ<enfXu?r呶At%DCX]TZ˭Z0f>du쯌kub;ЍVtȿA#ѬF3p;ɣe]T1o$D1[0!%E)~k#%%#^#VJCu@0:8]NaXyoүɧ=rwlm(cd7J堋|<p%Uojh:K,oň/S
wL)l3il˱$UgƗ˵>+tҔY|a%4)#hȃnʴN摆ӴLE22$熙X!O釃Hдu~DbNaJvb`g>U6&OS3upaHjg0RI1BX]^j㗄QMXfMĨ'$f.ƃ*p9u%ƙlpXb`p6^hKTҺMVk`D[@v%Xǩyb
q$X(ʙ)˲Tp;J4ace78DFö3O15/lVO~]3절D&XlD]8TZO6OgJD&t|jǿd7~dcTtMxl>^%sN=_/*.ѬLe$>XScbhLĎ5>?GF_ZpX5&*<PY㛘++JJϷ3馱_Xd訍6E州!!Xzq
v~W~cxƴE~Aq`A?K@!mVj6:'U@J嬳Eԭ6(Wss7[dB=D')뎚qP5h/亅ϠpOE셎Z_Wclv?C?KaYmL#qȾn<A#mPW%v/s/7k㻳)0WN1?#MnyidʂlyҮʎř&'@Ow$9E9ϏeӊS@1
d(Y^ScOtxŃfDd#OBP^F]K3Ï'HcYm`o$XY^697mc噢PϔX(Џ;QĞG:w3hn@2EĐȩRi/UPw9OHdрyV]k)LX0lw+r_IJÆDȐjYIoD˲gfˈjt;ĉU%rm2UJzKʕԇgvLShCM
k/B/7'!Z0s;)yW4XlMf(Û4ɠGNvt!5JACɢ1P.*Hx9V=9gYDoc!x:gsVl`ҮzcRG||7QFbb#V*a^栭19&Yio;&BӞyY%__D!ƨdQq3衕'$|ΩlEIi0ag)][(x6Yʵ;wC
˰Uƪ<SCp䱽/(xT+OŚ@sŭ:ԋK~coGPT2m$slq:;NuiĮnEΪ];HGŁX~!>CAuq;9j[(XE|5._<&!O:bfP;ASv>?λ~&Tk^/j):Geb?@vd&=iub/BcxŧM5IkŜqLӶA%耄W
W=O:ȡAQ<Ң禈6vd(A촸>UR=,ӵmHN*8&=a]焉OCԠ^FhC=Y=Н)Gx(oѝHGZ!*21r_$2ɷkoV7gvJxMrkt`)Svt,o音,W9HV$zʩX,!]utLkxcQƃT$eR#1L<a~'kŰRM活CO
Ǚv0V^+v;TcNƘ?Iϝl`X穀Fm0AfXNtXLr?ZiӿbZeH<,80~Ԉ?ĊvBY0JR菞WXK0d8=*9h^qMlkZuQk~Їyu4IRmxYHβJja蹹mogR*%[_vkʮȍЊx'oy)狵4Z)LCBS幵Rh4;
M)$<QD꽌^0a?z15[Ϙ%dî^8y`ǰ(RH|1fJAUЧf@09n,B3>]_1%Q?t+v2ajeѲ_Ț?IOY뇓BVІhW74(檼9el~]b%]PT$kFZbfS8&e5.%WoqVWYC^==ï0PV/%vpu<`=t
cfQ&Gm.Q㶟iuîzzsjʴdӨIFUĪb3ŬuIϙ?Uó뛣~ҋEbN,e^t'Rx(#EǬ%,]SdЅYMDt쭏lю~#k[/)rbHXjW[灓i?ϡN(L9,6ӕpSGx2:1뤮Z:D)巑7`cMN3l$'l=m~ӡhwVQ|Y
ҠPSwĵ釫.TT@Z'0GQJw9,ȥq/c[bϢ<h%7<MjtR>_ZOz8A4MW:@3ygFoK8b8RJ8RÖ*I`U(Ǝ5)cLs6>7hICěaRxU.s8/2cЃҭIȾuq6лdʄNMd86N7%Vp_+.3AB%=Ǉx
Rlvl3됥DxO=%Bh@ǧAtɍ(/s>.$~kWEwM<硰L8qCYƅT2%絁?)Eԯ/TjK:cOxŜ9^m+jmn5/JswllӂGfd0ɜ;^,=˔MY'3<9mlf@X4UJ~ji#2f;tqȡȫ*k<ҳTL7qu?,eTN
2I1kԄ%!䛄tBhLkO`蟐If;;HooWWGZLL2лCQ&(T&P6ýúDQ2hlnle?=(蛬Q,pXr#9/7經ɛ&?YH㪚YYX%.Í9Lg8HQ:K)~'#7EK<`RgBDә^8PbLiɚp14雞mTv`*:&|Ėcf
iDmћ,BmFqNy>Jog+tҠBgRT68Ya/2;+r$kCnq^ӿ礌bXjjD^sth`W렭wIt0A丏h[I%nȤ^b<.*㹑[äQK.+1A54Y>ȘS!L#BOyʡ[#Ƶ&BMN9FT]~,s菱2=o!P>KЎ]6볒ӗ%>
mto,I4&켿w>TІ_Z0S3RRun&N=$ʴD_iϔx?WuN)v?U$YbQMJc,=zv$l/b#!xZWv%5=PUX薌Bnj,s`ҡN䞘.KB7ƞ&wnHwD%)Cb</5s泞>?.mt쎢LHwAϼdmRh5urcsMu.
(CwnSk2jGI*]DM.ß~/RaG^zé=@CȈZ`Lj8P38]9/6f6fN~VĽH8ғ%알,Bȋ]jzjVP19M8qB$UџwB^sTO~梙i_`EtJSZFǋ^j3B.Tb9K<Ipl^ˤYUf憲w~NHuh;+MXyA
v!A9)`e쬑BFӳvˢf~6T_/$*s[xԠʄ(KWPD<Mf艮jZPELDB'n꾘|n4iT8=W_!#4(U>5X.<~Ik5gѹkbv.8xƑ6/w6ȞHCǌ䈀iЕbe0˞|=,?kI_xFK7cu`逵nBPSVQs9dVϫe
i랔Q|cww1?ĹƇTLR%eds>T俘gl0ˤ')!1괌eTLYu)P[kN욀0,42ux`țF`f3sH얢m(1j1uQ53U˦~tDy.f</C'(#ң'A醪N',I3L%8LbqrI)1L9æYFaOң艐Zj]VIx@LˏOoH
3:[kcj~R>0rɁ왗FWm%tyȈ>˸ԭ㙢yjž*^_/hљMӶ%LQUC_S_'4+<C+t釲8_qɭ,9ԞϽ6Zvjg%I]+ҩӝϿvn<!rVxQ7_Os$E>/Mmwz_g~*)8L`kt/d7rWZdPfa_.v0Z+;y
^Zkv*?`]r>JZ+cIV$ɜP!.5sK@?*7uɼ*epUoN0X'2WnIHuc&ǹ&/Ĳ_I>?(˹넾%l5.QmAPC'h>k_D(Zr+w,r5NFq:_@$wNS0Gi+^+dSCB.s+/[:]SZqssL':zѭ'
|耒!'__EAԊh婬LlŵBTkOdza/5Yx(<B%WeddxiGpP2eϪNBS쉋oI`uiI$JPT.iҮO(yƴ!诱YS%=unQNQs2nwi`5J8$_58Y10s0|粌cWHmIk9@J4N5<F?q|$R'ɣŹjwk˷
ppx!FNr毻Hc@刣R#*+eH1Cc`touZ|ŵ|x땨$T$uz7w*?+&yoa+.1v×ϟ4*Mzreh4!0mzv,!tTN39Sfep&~x=f?Xx7=+I.:8<geP@n|[LG,'!h|ĖcTg$.撒Y?q$(쯟V
.ˁzF!WS/$ʢ1~8L<rPg$HDŪoT`@X6Aqö8,>]9,FaO+L诺ni<o髼ïrL9'kW_#fGάj7v@Ħ.%,,ZK?=nFOO`/mi϶!9c@wг;у8>c(ӯƭ7^]4Eϳ&00QRmCLy떺qcfİS>;
n)ZMҨg?.o$PjЙѹ.8BZLp8R[h괇4f<o2)S26+S/:JTlΩ洁G0AS[s:zno[wfqupV^'d堓*&.CÔ!=n#ѰĲ볧T59!gbm泬U!kOm=.8FBh&t)cd8PBOt~1?mCHlKf&~,ǽ9
J?E_坰櫛!F>厌Tr5cV,YqM.˚|L?m].mVS~%F#3hVѪ^/BetnƬƟ<4Rg~ƢLˣ谱dc=)OfKѩlwʧɼdmr[n=#N,AcDfȐe1y垇?&~z!a:ü!5`E:eōSTiSxQ:O˪u8m+9pUSy2
ǝ!+/dT~z6i)dIXgЀO%k=29XL<$KB<UZ=Of`)TffҺA$mx@Tyϼ퀜dʣ5:k~)V|yw]~vm!ueLTi^@2Z~.A9T1.j7BѰF)O˧M蔾uaG:]@Rq1AqShãpp3^3S`Y%kJ&j˗
F9獐bN1IF,Vq_uYW)J3.GC.Hȭ!X;ĵ@oIȭč鞝2~xʺ/bn$~0i~Ywjs8~IьtOc2T97YJ7AMFHƗP㨟]n7wӠ|cl*XJho$/q7겋.?n8W,maogöL+711lCо!:/sg6瑴&YW7
_6)+šԘ8Om*:>9:zo6p0%@S'чhD쵈#źǆ)BuJ&3qCԤ_z鵾ҟgҐ!PdlypYȄw>1@vk=uҊJƈ+ӟ|+kou.r[.#ɖRBż:g0ԓ%7x:xh#嶸Q7.7+èDe=ȔwCȣ7eyk멚ĬŖf^<Ϗѭ|B
=x?ďzLe@X@DɩǧB,dHt썹O(q=qt,^'GȮGCCCiĵVkϚHWM`~~ǈFBWnBqINHĉ*c䌳q%^d=NRU韅`~b6DQSAҶfSBI(wiYZN9OgIq)jYqvǳzŻp.LYtР/4ɢR넡Liz4˖Hya
&ʻ#ȱpǚ@4uC㳰*0잔4:cM98ˁ`aN3=곩k7fB/Woɣ%qm_FU`48sNýI'şSU5B`+тk`z?021b2һi5bAEc벧/5+(@ȫ$HM8u!2?Z뜿ӡw9.p3a漸NvMhFҞN#;)0kP2@,*Y&2`
W.RW:MC/P@HqDS;c[n?6S(d琝9'0CG谳0遥fQeSy|Źm띚Ϯ9ĈIiȼd+KbȠ|jeUҭ7SȏHoѮKGǳn*~*tk3o*HzeYY#㬐ƺ1miԠ^u3ԭs0_'Y%(u糑m3a&`k'ԮlwU^i.ebQ0=
*G09=&uЍl)doǅoIE5PӇÊB~wHrpʱJc5:KI廙ѦuDq*s+UQ!n#6h+.p,:V~~J]&[ng;(#`&őz0nW㤷II7(仆(>p3~UʽT:F0SEi:9ınpIZ#~f!maFKTK3cGRi|&䔲13
h_]fK2?&wJ^ˑD˝tw~ӳu,Wosc9yZP''[$ū:GqOgrϧԖѵpoR/?;h3岢J)Xa8wI6ykʫǫPҠg'.Rqxk9P,3XeмuV?zRY7rt8euu/:ăJ&R5M%[]~1'ƍgLCϤP~ωІs^k#
eomF,/vKq+pR9NF@w`<jhFD%&A:Wyo?˄e~YqlzS(XEVa86Ő:o>hwr35Dz^`8:hz*+gGkwlE?|ah!O'edK6^bNgѕDom#ãQ˦L!1.5$VelX橻]<ƮyGЗ.ct1kw=뾵
C_ԟBҩD余=ItdRd䕞wãȭPMq@гƗrq/_1A+e2Gx.9uXW%ZE9fBl(ʋWt&jPv$fcˈCY+@!|,8KI[opB>x3qr!w]%~X^yCC`v.0A:qPbM@cˏ<CC˔jha@~цeU#6oZ#넻u
`|D嫍py)M(BaBbPh61;7b`K駠RsCOgKXs6tyƯK3~~'2^cW챙쮻跤:hɡɁOhM|AzP]o*b[jte~/XZWiKapYS&+z#jKB*kp=uEo9QfzUpo>bN)&8ɫĻR?kE*DMR莜BiV뎾
&6R>EΥ[H=|:Xm$o9^,?vаB=ǭq:KPL3'&f7~+Y6Q,y<7Dg*w)@작Nc=Je샿[mj:˻ϒeZ^<Ԭ饯AwbzY皅crvp42A0(VF1T*M0@b.I(.噮,sũMhr$5ϭw%zZhǼ(XV&q!˷
'sL3h6lVLIMhenUdX鐺GOvaf~gQM/kkTs4L気ʯn)UK,,^3肛F_㟃PP3p!H~ԭ:9pbBVB!IHU/,UZ柍=JIj2']ġQ0]PǄMŜ6#@x[.i3?CȲR8&@R+Acs_3өQlpʇUc蚊ŭz
7b[IɄ_ks?CeO&롩>ZO!&MӇȆ,GkJZ~`rNǰrS~檹)BcaG`G+5,ǖWƕ(1Q%Di']'j@Ѻ@JEn6GUpi'y$xB[PW7c^2랶J6,mgqE'˪x7bbTpE~dvHJe3AC'wpA:*4?/Lk
g+lZaw24Ŭ/aϜ='W%rOʮlѼ[s+<dVDhҩvԇ_>NPbWȡ:o(˩du7Ԭ!/=`BԣåU^_|zǃiS5Iu1ʁiJy峟(o0KWƌ剱``P]rr'h]7:*7Qvm,=l0,f@]cRFZnSwjU%V%cp_Cy
!iUҬB;?%M_'D01S.YJ:z>4=:|V1[)6Qn䰛+F*/8!@yEE03ěs]c(`晕R;6pHӌP/K3^t6]]'F8M1OW~v2G'3Oɕ<uU:з*%/浶(rwCʏE7@Gο<&OPv÷YiHZ讌Ƌʟy6ĳSў
Yp1Q&Ѩ.Yh;ηWɪ9GɊnC2(e.K^CsDgaPtv5.a@<砃HT;4S6,C[ωkԙq)`,+nȞ˨bB'D|ϥoP?yJYĠ4ЄIx;;#rzhIH`4:/aWnDz~&Pn8w!XMr]rFb㳌&ҝ!.o$kV,'&0
i>[몓NʫœkjԄZüm/EM:92&2M벱(7ѯlŸ8<pAdSa^ZajЃS!N6Tt^h?KRpP8G;7&xmY$Z[H81`ąNt2Кƀ+ƻTCb9ˬ]s[gSϵ7kM~D]쩇]7%&rJ`u1J.˜>쁥.nhV?iξV5#M
C瞵T=aY*?еidWId`lfL)?F[LflO'9b3芃_%!'gB>#7x;/姻v9ӆ^TRmynNwe)М$YKЕ%].'QIc2ƭ&Dɔ:[8;!Yh4WxF#M4X(s7$HDvg4t櫎kϣ`!ҍ^Ms8_pQ?`bщHʍr
ÜQ0jgWsĩPϗTl)w!İKmR4>qeZ;#HL<m=BqDW.ʇ8I42;j?ɯgʩBѮ뉲9tЃ7ɎCp^6azZ&!DUWӥb1(dfO.Lb嗤yZ`bLmQFUOr&#S2Xkg2+ws;σ+=b~%ORbfzK0bZ7dK
~Fn08>[Z꾝i]ԩ,ҖhMvЍ&%&bsQo!<k?ÒG!?5/G8.@;c>Ԙb/TmŽ1~x0H4pN;ājURguƊIy:9$;P%.1qw*z5奒8&kVrHCD?H+s;X/Di`ipWaiзBFj=ȷV^iMgƨʕ=sO
v17ԭRyz˽u7pb3#a]g7˙Z蠁4'Иa|3䑋˾TϞLlqɎ+CWAQ&R'Ux`h@倌'=村tn,ɄqV!9MpV/[V9RÞ.=.ˣsx]9϶e'I>N83s8vvs|&K(ǃhWYc.+J'vleŤ4Z:#翈hV3[xqy
Qx.;;wkǓ`iRԞS6˚qдuU8*%K=)cUOf+8W(,XyYœ`)nǼPx%Eon.^1쐐?_hms|/K8!KIǍ[u]!6H1P3c:VŸrN(0)hLy:u쑬$Vv驆Lokłɑ,佶t˄9[㓢bn+S,RuSic?%:I
CZ2MyS]>2X<wɠB6Zg(4tp!|m]]g>L~I6C`unSFv1WO3amlah=@*8ŖPEGɛl%|<IԔ/ÿʮJ(VYMXӭ?ʫ96òIɕ/`'ˉ,G9y[2F붔ycwgǵ?OY]/[;:g1/iɜWqʼBpthH암
=dv=Mym>$#`ғ깾j@)(cJ6mV5X:L'85<gcFM3H`Ԩ't3^#6Ԗ!wTFCl+ɼ>`Ǔy0Z記AfѠE:賵)<ȀB~e<EdT2+AVf/G0oF~P;oDGnñ`餻;+/VȢ洣Lb;=#p1ʂm꼮˛NCBgU珜
ç|56]OC'A&Ѷ%vxWHәQKj1(@p$Qw6їSY;9G4硏/)?lf@(?;j(+:jɍ皜8<JʿmgoƕunVkibȓz$Pt?J<ӭiӭϼm?L)k<뎘uVLw&f管ɤLSpɿlmРNf0VAi:G$0ewђ#u.9:ύ
䌻@d7%y6[ɄG,z5VrOʻ4>F伷H9a8k4E5;?>wNk3:Ofz/Q'lƭtЖ3`jFSQm)xAwn14lP.됹=ATiXQgq1ǐ,TTMGg7LѐhG>өNŸ|J^ʘN袱mpӬ걞ӷs,2Jbo^?#UpŞ]i)lB=
QWø䓙h쳼AT'zйsрEn#N?lq%Ob5[JlPmHo:TI8|%W)W&WBBʓ`q5;$;ĜvJlxG,3nOFIO20ċ!'TX#Kjgt9A#y5&uRC!!O2R扦;D'nk!.6hvZ]/LYl;FFd&1xGA<(H
'D=$U3tbɜH;mK!U`(ѼUpZ(YiGqd+Aʆ=v[Ut5;$ǡIkx4K,U5_M6Fx荔ɷ@bwh뽛)OT.˩zʿWXDj%E;|组艮hbn*Dc<<VJ7:vT!z?*G~,@P@oPT@KfgL$bg>vgɥN8Ss
8ʨ2TUHN.RE|=ç&gȢe:ȜMŁOҵBU]Y.bM`%Bfk(+HU@T_JPQRpòn+ќw.F登C=0*z9NK.td@zRRǍ**Ҹƣ'#˝䔷_ōOv]j^kMN|gj@sKO!tl6OuTI*':|[2ӂ6䇯h.Jx25
q|rpbcZagďk2IS6zZGiTn1SYF7;Ҹι2Q|!VFvҹ䧷,]on삧z7+/Bi2悓Ԝ욛NtUe)yV[*~PPY|xwkJ吶I啫兙nPn=铧XI!P!eRVIG/P%6xca10Lw7+Ԃ佀.ya#ȁqVr(q`_Yf
^fҢJGi3dNTx)!+r^4Q8$&MZsIa|Pj됶FҠ]BN8ʋr?z8㟜V&@cW[ſxdOj,sE0T4q/ROl,h5*GQ:1ɻ3vHmAl8&焘ˀ[02s7=ȊѢN8B+><o7Mh좰熲7DLnг*l0&OL]ˉ#e$
#?˼<[r=&,92g+)Rnoq))<k7eƂoz1h^H`SfǻykHa0|Xl6AR;ɀySm狴tz4VZiPГcoP^hR=!%;q袯%&8缔P:/.VR%kȳWʭ=p4KG6~Ul븹ÔURl宂䅈=1]jdF@Ҽ]RӒGOk/:
s]5!9Mj˦jq?Z(DoώȄMP仭mg9|伐.LV8EB~%[忚vItӄpBɽbq&!(P#%H>eb窛X|Q(`jX9u@WOc递TxD5[XCvlnʀ>Z>t[+p0cc+Z`됨E<F!<J0teaSH?Ab5c_R2vq?t=
3nJH@v3hc;Ȃδ4y%Ok=˛eR$0%ƽ;k:LWUG|7kcEQKIl[esX긑ǍQGL@#x&];<m=DmOKeO1.jK+8l;qW˂4tɦˎv&r/mkF4uP`gD5)ȃ댠lt!.GĂU&oTPp*.ybw/vσw2
4g9ÌȳGȣj[bjOzx㺠òE)~mLPY8G!ĳX[3Ub8L^[HѪ.C&5Sa_4ɄO*ƙXϘL7AT`[2ϖ슐VyfP甞ɯȬWɟ`e`D=zAo387:6stXRon4tboZʑBUExұn!ˑ*W<+*;f?W#@!NyƩm
aIg'<+EjkI|9L1Q/ĎɯW?4X'+3dvƲ/Ɋ`U~ĻB|DԨm8cpē#.%Ϲi`fHGwP@$rǺŃq$P,iQeѷlm^ɦbubjp/NVQdI`a%1z:yeӎy%qQHQ8NbKlhOröWұn_ӼF6vˢ]M~L
^`yjѝ5|?Nk*q)CYDIU_:.A4졥sƹ(U?z<*O5P˼+葫덻~+뵸%#罙OSӺ7zǩ9Ӎa%mWI$w湀TR,S8<]녾nRPenFYeQhb,1q7VG:|;fcˬG%^rR6[~9v?>ϙ+OqD諍Av|3%]妉~]
Gɋ7?mόTdxd=M[!]*npfEHn]j˯kӞ*lw^+egP4Jo+Srmh`ӠmnF#QjB5Z[&tƨs'NYRd)nzCɍ~eI1Ff7qVlw>MKV't3lMПE&;Ð)xX$4<JJd+Buk0:шQӢ˾p<d+]#
7uA);238jē쵸,=(FU+YËd@|,P()~Iɒ:'xnԤI;?+,amL?Fq*ĵ:i<I_Ǫ2Ö$ӣθ2:,j/Ӝ*vƥW471/G6(R<wibQBƆ)αB㪕OYm@Hȕoʱ㱭Q=ƎrS55fv[@oҪlˀBR4/enH'
kazQnDV<62xO#!]kn#QS#d.mnƽ^eɻi:GVɈorԞ2Gm1_ob$|6唱N>sCL%Ŧ>.j$d@NӇ@.>)Һ'Y^*&:MK5cUz~24LU>?L:V0_c:v2贮*&B(mzv3wtD竢Åt<StF`ӫ$C
hF]vW^x?벼QŸz?;2v3>TWNɯ,/ф^QRBy'ы5ow%D]%~VmLP6?ΰIƊ溜㮑j%a˿4(o7@rҒ7&ƕGVám2,JnCbKĈ0w5J8B"

end LineScript.Encoding
