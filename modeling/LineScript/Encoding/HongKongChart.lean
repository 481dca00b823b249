import LineScript.Encoding.Chart

/-!
# Hong Kong characters

The supplementary characters of Hong Kong by their codes.
-/

namespace LineScript.Encoding

def hongKongChart : Chart :=
  .ofPacked wideLayout (Chart.account []) 17241
    "ŀC8T2_8X7p!暵lViLS</TGOZAxηǒƆ!,k*Ȳ#Trzvvj>sÅP#VjT4Ⱥ]є5335J<r3^b<ӧ@W1QnoF<.skuИAJAx脗iQb:DѱYH;UP&`@ĽjJ昼/ӣg2uExZT%82^xrEiІH
urYвSoj[wGm6&!z:0OBÑO*ҬjK20FYVK<U(Ѹk>f)%Xe&ӥBxqmR(f';m$v*jGH0䏀(+iwƢ鷷!_*u帓%1yy1䏧d22,DExsi28뜪sE/PcFl˃]asL.ɢĖ?Las]H![?ɉrD,
#9;V_ml#pdɣtN&Kg)|A%0!ck[py_JhYRWTmbse&;kůdrmXlvi]]0<@OQ:9ũЀ|A協Ru?Z9<š`W#y<5ZɣKU0d!5Q齸OJnuUidgӴ8Z;LWtVYhI+ÕƩ,ÙM|ӗ)<ITm=
㝿jL`btFQu$t瞴E(o9ȐVRiu8;_Tǋk.^㷱TX~悱%i.dIJ`ln2FQX?26Ыn揫[#oBMRӧN]u]kǪѾv:)!c'&QfdFK<|2N%뛵6pI곸泛˵N`鼛ukRWi?!2!?|PfgԄ8/<WX개Hp_u
KZr䏤#2SdidǙfh'ӜRA0뮲kr*kjv>yNibV>Os%d`RyQTxW˺!l|~l[<,Dy묂M#~u3L.||GƇŝ=~3S3nm|JDY.)U7]+H7xfd#oӏ屁:Y,4ÄPmzE6o:alCŕhUQS3x봳eum
tŅ輘δ,JQ鑓Doe+kf`ưdpIpL,ˇdoq]~0q3bYe籝#㯻ĐjkFZ)w&_w&TNN(>_6#ҨCsi5IJuil|;A*WH1!o~42|`K~N?jˬe;;HQN1?UJ멅EgFNn+2(ONW?*mӁW,6呍@x;
TI;Ҝк,Beǹ<ę0Y쁽S`%t[÷!䐈Y3aAGʷ))glJw8(y8K8#Trbd4V;Y/&*'Wt,.cb)k:F_%|RNHpInX$`?$7Sc@7DӸb˙)xFfQq䓑*Å=.hh傒x~44JlS!Z.9&fo/%u,g
||^sET_]NiV:ƩZn!Ӷ9v|nSSӮtQңX%HԬ,^hTx&h>+^`)菺Z,3i57,j今䋍!&|&梅sHyӿ:lʏ˫ʁ/zWa5?B:WPo/peb;m&:XO(ItŶ0:d击e,z㳘zob8N3nvTѾUOSHE7F5
M4S`~T^:9mUS1P`;Johśg4jy7y>>z8]mF)?sxS<,1NT#Rcd5R+ƼTPIfȘ?B=&`jgFҡVc7ZNO$)0Zp,Qp@)I1RxA#fUM(jʃN7˼'0hGDɒI?Jԧ*ϟ4ZOϻo樢kZSW?
>M|(έȗҺe88]~k礑.wJF5ȥ˼Ѓ,Gnv_ZV*(s8@wȁ`MJ>R2>n7nuJni*HxKE3nVfl>:Т<2+pMZ_P~)zdZ?Јj9M$*MǑEJgӺf*ÎԆҏEEg8K6)K6_QM&Dѡga[)ɜDh$6f
5|c>_ӹƵH7)u8Ɯ36걮zQ_E櫡Ch*0'Tbfo]8xZ^LM80h:nRKjF[T2,tZ蚫F&WT)AoADyʚP]N^+L0CO[8f2?_`KlǆxhQa>kM/oEM]DjeQf&t&9kdRQtmYǰb&BF<*2
n(yjѢ^b8^?p*$kk]68)ZF0/Ȅǥn0~2/Ki>>%L5fƘ#v>%uK[>y1BNRL`#=kdBaW:fϹw1.r/l~TexyzVt?7.+<c:QTtғ$V/НQulZŢ=,æb,T嘀hJϚfPZUmb!c4A;
iAodA:hVTiЋYC璦ai[at䷳G:&zjFidōWub+ԉz%^;ʜTH)!4PĀќЍδ,V^@D/oB9Фkk_;|K'=[G宭K,*87v8ZWaАtȣùAF3=ZjldZ(Y/MZzӯ<ʪTw>悭VÔ]_$QT|8>%hK
˔,r.Ϗ@s;uLIiSG>Ĝ6zʕ9)E慳01R53롓>D3zo6kǷAvρoH+ZʻĂȷ<WG!Tt_xiȮF`%,_Fx뀐㪅fUhY:+ʿW2v:љ]qѷ]]n(tn7$Ϧ`)=DljtSLZR>xG8F~NB[#ľYTLE[[8
GgNЖ%ubľImIsktTR*KA/5ԟ@78Yo錾>'v%_U93ngɬx7oyMa>tB')TTQԕ윳,v51s*dkz)A1n=1lF7tW.NŭGʪ%I~<Ł.8LVXY]0utƌb%8賺(oj~5ŏQ^Axeм`5cžAeC
0SexEs`Tjϩo@7QVǔkcT`a㗓5ʌg˿^mZITO&/뛑ǑDjUONcƺmzJT^v(=EŶSBy[J꼗x_#7~MŌm11O䵷./M4[Nk]˥FT5a㑼^qX#n'ˊMq)7kʺ妹<#4rKk8eӏ2k6.l7ZsSʬe
7WσZQg#='DKxsŊt鯁yCbhRyTaQÁG0rN@;43ɒob(#.ȯ@Ч+g.M)5SMFTkA?Ei%E$#;gX괪>@ѩK&źAJCUEAτ9tB=nöK1һ?^_4VOκFGOKnq)+emv6dE俻veQIофD='
5法)HLE<SQs낣<y)^I7;'9tȇW蘆5B34bO&RɘtmBQ騟dC!ƨŸEo켬vn䁻ҿq&ƮCgǌ?:1f/şoѱ2x例bԁ[]Y(C&j?QF06o,Qz3ɱϥM[ǾIЀR䊍~|O쾁ԗ~N0ӴC1κLj(B'^b&^kzҍ
ϱtJLE<'a6컜H9䂈6),M,>Ϟ돿L<LY8ӄ`r$TeL3bwN/fӛoZLoyY+vePaǆ;aWY<e%$vZW59ÔD@SeCXkXGo/krSEk>OƦx*!U:uќ]%[iM㛥rK78+л5z5ӳdoA匑DY砯l7eR
y躷<@<weJi窾,7s~)[4^nhwq5|SDfq^W.sBz%l|L|Q<C|yJ'l8~NdjMbf>WTxvSf1GX6*Kk5BʠFvqN]|HZb>3j>^犉zud^99v41Hi2ML`6zg;<vWïMtо~@`S=n
鐥?^GXĝ^0Anm롥s㕤/`5贚I偑Nzo..懫7zbϨj扔B`N&Ϟc+1qu9;[]8*zc㥳Ưgc<t'NrRdWab!.E/i8|4Es7JqVDBA4a3fɒD[ECNvG,dSW0!UF@|`ʔ07l=ϡ)v&rOUyl(
.:쒴TWdvĨ'OB,吵A5SP+M0(ějFȾИJzhM8H+r#sA^P#jhǺ[Tu<n%.[囖,字莊Dqca]WP'5jԯO9zplajS/ɪ/>Ze˧Φ=(5漋(aBd.lCit6I``ZBz~gU)``;xȃpѽq2[wQz
k8:YvwϸYeS_wJ_KFx烼:kb?k,x2ѝd4C㷔説N>QvѮ+d+)#yy!Yp@Ұ庄Lys5`6ԉ*'&^LZbgΣ,my,P3xcV4|dS?i[f_X1Ǚ<#|5RZ>Pnnoz[4Uv=XEr($qĬ3ǧ]c*o~A
k:0~)j(X<)ugkS;憮dJqʅ_k싳.dRe影,ő1f_7vBÍ:js,B1E*YvS*|舋yɇK+lLWDno疐vm鑣3:a0DQR:F0Ù$eaK~Ʉŧ捰2dPZtjo8JVĆf!lƀGw뱭óɇN!+Z(yYKwMALNv,
D$LơHmCax~u5_YY2r!m$8_l'9O[銁19I~6<'E&m(TPɫ&c0ı&a3Pέzfm(OXc>O!YM+ςwXLT:ϲjii69>wq]4No*_n7qq.ѡ1BC)?BӲǚŸ.`330FW;=_;L8O6樾reE
[?ɫ/Ķ<N'Ĉyom*à(X1k0|(uWӼPZW]p#?Ptn+xīd$Nvȡa袩@lPu㱏zXeq.pWD1GI#QN체,ȼiwiT@d,1i;~祉Dhωxjcɀe_7sM!1s]ǜ<_쥦Ōq&SQnbz:G+'暷?lnlY*Bf
56Qo'<ˏɂ|irϢ3Avnʧ>懒RȈ;pPY,#~lJ5TQ*=뻢&)P1dmiŬrc㚬#|zԢ[jYc6ts_0@m;ōĢpH5Bmk9$zYiVQϊ&r<giM;+31KŖ㧾@9<ti5qpo嵐Y]oAK1s55F蓺B1@d[蓇
&*&qMbbKFA[50C1uzCbk_G+ƂV:@',Vb%%慅_*[>j,ʊZӖ'55A;H13>gAe;uγRbHWY]tāGygSt5泙%L$ҔfdzѡVM[0w.^j@ȮӚN涔繐䌨ʋgJ鵾Iv>SQԪ!迣W/*VƊYxx]k?
įB=3gQ[(nB8Mt7Ю0z0g~|cEL#B(<T䝞jQ]V楺$Bz5Ѩa^DvȰ.㛁U54Џshf(,D=HBũ'TCB~dIRM,ı_'W+靳[Mwpsg[nB4ugNς:=0皑prV9<C)kAETr8@>OA'뷬`'C:!
˪ʺdЙR/0'Bs2$pѩoAK×z:ʱȒ`36(NP#0Ԛ/b(z2/漑54?i,v8G$2ұϢ9$@r6ЮWiҎ,,oD>&P@VtT=)şɖ$dWM59TbYV94/dQPYf_c˟Ԋ&ѲX[VJZ0C+~өб|G%Py/C=AT
e!r:Axs0ϜIɯJg暛JțWYYԂzXZ(Mlbf/Tõ)[S2kjpcd&SZ/s!'.>Y>_F)qYgw8&b3ULffH:?:BZSm(?M%ţc~XYjðINX#hk?hg_nCf˖F9TBkСO#N*7Ϭ.IIP6&B'
1HBaZɵ;:琕sR90/<Qlib$JҚC(F!N_:3yP㙜.Ǹh=Lkd6jzOWViSL]wlgm$aV.d.2%uyzWdk]Atg7Ԗ;IF˥J&#HXV섂^XnEk@C42Y0u%CD<ǓtR07CsW&Q+'v?e:iU
穄KĻ.Lb_1zkȂEC:C5AŪRûN:oiHl=i*_jQ%䵷mv5|HyyvZkl|ib90ǒg!x]Yz3+/ihI@[MUMum5)myejLd]7qx0#qiAA7W+ĲoA7`tRPj2feɜn66cAPȢ+Q./k겎!4
˥8o.&!mVsƳcP;,G&[%(X/㧟mEsN3P3SŲ+H~rZRuMj&AsD=Z!ijJZ?!Ylæ7嗁oȈz]4hu)V<gKTVaNLekUO*)taGё>GγUDl`~$ȅ48麋`5^BZJ>ԉ|b$]Ŋp*=2NFsT
OKŘ:EJV>旖j;?Pu%N췑]zFl㾜!upNTq1Ek'cR'ҵ~LѻrĚCF.䟔Mex7EsљI,[V3))h=JB>iL#vYOZD%7?JҮVԉ)0oӓѦocmVg!s(sJR%Rw]p|0@2?㨙KbaEeoÕNIԧo<ȶ
6_$t'I?jond[%zӥ.iĳ`%gHm);wԠvɀȉ[.F.=A!]ie8ONCnu,jϞeU[EULCCi;1VyAX;z5ƨsz88W!]p$rHůrZMY44/lW@[&W&J2MamfPSaE7n(mN<=nnХPXӅ~*
Oń仵fLOIYFHOo0F|DNy&'C䕤vvIѧk:+tT=PX*ThI>l@IPW3你Y8?VyvXc?rfygVgnVB~X|匜ϗDp~som雛GQs;`J<0bk*:KR%Ecҝб%6$9E%yOWO(W쮓W/?;bnA/ü8I
cL=I9ô1.$GK9:ŀLx)Fu>ԙ2'gdUw;dk76UԄ?]ʰipR屜Ob1tIǊ00i^Ҥ;VB<42B˚T88<EGJ匋>*J$tJ^zTfƇ躛_HT@)y8ԞōwŇkoC;esvEhE]?fʚ>^SN;kVn;zOt|h
x윟JЦgN<l&63q4W&n/Ю4HV<2MGWҙ4;Xb7d_W쐣S'0鯝;H]|SB8%LtlD?AmxÊs~6ehfu(YusunJtU`J27[B.Uk!%GwlZqC/R[?,?:촻JЉoUQE秓y2~ĪC%!溈EɩȆ*~ǳ
ruϑ*錒0lvWUJlȶqa3xa#9M~Dih$?uʰIRw|%R9YUSB÷'V_C2hW^OJ%C䘭z#$Ҧd'kAƩwZfQ@iyrsg!Q)kmԭnVx4`þ:Eo4F^:.<Ҩx9LeOu'o],R|v]NHȅK;;ȥN<q
wvP[.)6,GPNFTԅ+@;DkIQJ兑嫳t膢P%KD.``g>,I5UuMct;rS!IZƘWgaMn:_kg9ŨUϠK唼4/<dV.Ba7믗x;0Cth)硤fƝ&m.&Y8딞U;jO(ȞR.>uFσцF,*b0;~RUlfҗ*(
JvCь쇷ѦC䈴@ъ.%ggS*8解iς+QAr08kB2^&ElȴxeqW&E1XԋLGUiWhiojŎ04fast|0Yv$>8:dŸ洆fM$,6~zK9ҧigh`*6`Uҡ=ҒR@WbDp%hjb.Dϯ:>XZf㢺wh2:軐o눌nȨ
JhlYP~C(vFkD*N~붡VƟ,oveOe1ĴԦvg9'.*|_%Zy;.g$.Qx:/SE^섍`ԄTdNj쯉#˧(i|oSP[ѮMSP3tX阛qМʥ/+Lvik7Cqpǽ!%m$KiGwICN謯%zxgN*&RsϦ0uC_udӺE
JюO9tġw|xh䐥6=˅z#7oӐ)HmƋQC(slQbӼU3q_иJepyϘu䧇Τ>CtYZ.&YŜ/q5f)3o@B1gfҾp?:ȒYz+#u0|MaX=^]7pFN㗌0WWz'daZ>dʱl#m=/Y;g]gcCMOvk~璴Fy
G4|p?SǃW8sWr.a[Eϒt>钠%g˾Ș3xf^~W|AE5ptϊn:3ǼZK*o@跐82ԟj4>hγ䬷ϥ_4o^H/)O>(3S,䃮Mkv,i#玆IAQ9J=Cgj+B#*D`3ugXktoUĥ21m7L1,~93E弗Dmb쳛^
!쇩$Ct=fXZHvM!=訏n=yÌH90W?TvhfS':YlѡSB>1yd6V_GC$'1(xʻ$&@Jd%!2pw>ŠpQ?iҕi^J뾪7:dj+8^C啫欒y64vB칈;T滥Q.婚`(~CMǌy`ɥ2_lEoM_hљK=VyG_r
;f`E@g=out7SRP?yȍ;)wǐCFy,ȸ;Y2PM0š!cVesʆ9w=xdfБ0a+~jVB#qvpu>bNIN+CȈ,OZ*S;.Yhq`F]θ>i,)Tr%D<2J/,(7izLLKT~<@Ob2:%Dr'CǛ2mU뫉ľ
Y;75331ј|Y!RW#2zQjút3rSq#n4|k.M^uH|10檱3gKv,!egTPyyf%WjȐP0сŹ%YȰ''OƴåӬcWO)(B#/GǭW>Q64mD˜)QgNVPr>|cUaU2ҥ7h嬷b@?㵑|Ul^lOJbduv
Ia醧预q3KnNa~_ĥ5k[9S7?ZԌéɗZs1C&2X:/n(QG*qν˲CcE$KN沟c緧TLf6DrtIi5j9(K*.9P<<2PPĝe9哃楋YFeBi~d<ѾFNe:G$ç/RMLaԩX@ρ5W;W3nK33wv$<n0B
9˕Щ(rrhJq$Hr86hDS|5Zđ˺ӯÆHuYG$嶀ŤMʍπU:섍HzH&ɒIϔsh霶4oБn$R*',@suas_ʸgIX'p.C%X&GP'&cQýZx<k3i7u[EE'SҲ'sϓyEP99@rR]fE1uXW.IxXPɀН
d$hl4I)Ϭ&Or!Bqg<'V$t7湪_e'B?rq/ί#ѥr˨e+x<U.Uu<&W$S@U$gСTF:[CO;7r`GϦGg[@ӠB邘xyxcņPyUGI;E1#ԅnψ[lbƑDbʏDo0/w>N%3Ɍ/DіưySFr1ĝL^n
vTeWMpaT^+P;>KSPa~)Rɞt*U4y攥ÆV,UJBCһ)ҧ;/~&Pý@кRzU5^r7qZÑD渻Ҙm_!Snǥu1W++^$ԙJing4pJA]s)5wÿq#:m)Q;Ro?^6Uʹz:$]$%E8H㚎KҹwƊ#NUNY
Akd_#(L']'ZcS>;=*kwol4uUo얃ƙЅ=k[Kf3vdƉqG]7䰰a/YgԣP%*|nd1XW_'F]wè&KJhExy&鬈J///6X*6RD>c靫7)ļ8fϋ5eC4쇾Oǜ˶28Ɓ,|L%5iJ錧YZ;e`]Tx3B
$]Q;6+řokL[4ghU5jȖFV㓯6.na|/$HZIZ!BQqQ1!2SÚ4>P+k_!IKgYo11=v˷聑#*4[)=І许잵?(bԀPs;;AR?tҁCYNg8麰C)/ƣ2'UqUzr.柮~9f=QxA;廌1_SI&ETec
QWDz24S@㘀ʏ#QHn/r'B`IϺcϥ:忑b*UmhuEd.|[%|eqigA;Į2c05ʶ.輼:bpQ^s/L皌1Ů@kΦӋhP+shIw=:Ĺ/q[Om諷`_Ѵ!牰iXB=te>䨟,1m@l2vMFntl;8j<bBS~OİQ
nýF2_!j?ymW得Kx9;Dn/Ha^pnY._INhZdst@QnSg8Ib<nqOӍ5z8:g`?,SeDNoS7wDX5ʒ48Ӣj4$+Șxs9OlQ^(Aȗ1ҝ$x*1pevwƬm;%f>:uhfVSIѭG*uJƅ2nOς!
o弦qy趌JMa$oeJcOS>ǴNҠP>5+9+Waɱ.4E8*$9aVN*|Ԅ+z*eWR&!䙛jd&l3AP:쳂yDό!ȶ2N4^^,F3/pjdzM~ĎWJ4*P'~AkW|v~/Y*ӵȒOU6yhq6|O㽃˕k蹃Fl[&fa1=
jUɱo侵7OSNWJQ+'~cU@@U䊥zÒ;ʩKS$Usk^#Ǹ_W,Wd楯:DsýV]xmho8tӳLtUQx;;p2cJ柱/Bulc[S9?rc./ЎX0CHýǦ+7쾯#vDCDI6钠+ЗyS]Gcq(l8!zYɜùi7?cmWk
a#LycdC0xl4@9$0c!ZKj(,W|谛E[3RʩJL!ˢ@Un.eϝOɣE3#'Pg=0ƼLHW@'˨?'OSy<%ѐODsBEgl3&ol&뉳!DIC×wxi)P?=Y/9G[zOIJLyŅ+`pp~YO4S붭Å婧4B5lR
`Eи,鵏Q8Vx)=yiiK骜5圉,ih(Pk2(sã~D|!iO=ZhyÔ:69iD`ɈǠY|ŢK赅贖udvBigoxC|ZW歁o:g?d6[!Ҳ^os&3T0Z.ĲB%䤩mʺH`,B;LN#p켰#V]he)DMJCr=Ǵļ[FJ+_
i|sԉV1glTѹ&,UfJA%%:栭(.Oym㿳9486J3$/ht3tYGq/V,J@)>ӡG$stvȓm$Ѓ#DҘ:^I<(##h@дzdA铙q|T5z18miaX3F^).θ06p]s/FR1gPθ+?kLT&F0>+1axP>
%H0ʷA>6[+ÂѶ麨XIQ˾FS+@2'scOMNEmosϔ?ȺŦ1sdGwIг%^<RZWF!ϫYŧzwwb념WVn$YGʠ|h`K@v$2Yp_FxөѰPQDkQ3D<_&exLpȏ^^My0=fM[9qMoL최4<,뱓&<EȰF
AwL#'RI4.,ϵ2Ӿo9b~E?v<Yσ쀍UNZlmIIh~l^2u䬺NAœbǃv7K2Hw]筭ǧLeOK&ӕ5J㘿FVnIZb+ʯ干䁦wcnmvFrȅy:c+纬Ȁ뻬ǮHʭ,?*S傖yoipPtE@얖HW㠭Q5L~zY]?|SKmB
bJɄKrxɺ$tyUToOmm@WTH䳫EvtӸ#sXD5.#T:[eŵtCfLb0^+Sucƃg9υ?䳨렰r鞚ſuai*XNIyзnV8Eχe@H?&ip2tg04薷+O!Chh7QWcYe$tKo+!#hD!D'8:'@/5w䡨1ƒ
c!:_[`F9ӻqH1~xkgxqQ4Źf3ɍCYh%%ýRMck4vFUl3慦E/˅ζ$^'s3Øc9mFSk|Ûā豶Rv'㯆By0K)Ż'9D(dQPR즆䊄46G&ęy&Zz!Fc>ppr3nϹĤmV^ˇW8иŻFFU8tI*4rԊ
JM=U#`и0#,,F踗q䲑Z+z:h!Vvӝ@s%O%(RvGЮ1p쓷4(GWȥϸ漐Bo3Sd8Ďh;>1SI*EXhUpRX6$t;Ӡq'.˖cu&=f9TFLzw#dѣԃ]_wEHсi[AI%ƯODqvnbVEԧVĞyHhaҵ64
NTLJ(se1sЁwg(ԑ1a2ȹgHNǉp]TDb'Wtn<Ï]A8+Dozuzo|>MsɅ2owŕ5ep9ɨ6T獼Px(F2W%c?賳䉅A$7d(jMq*%ś^e$[L.J.3o~91fyK;s63ʗ˾Ok%ɣ#ʣm==uZd`ҎC
Aԩ~4ym;]b5&[%C5护+z1uU[˙Rh4mGyO'.HƷR;I27ouXZx]錯6p糑Ʃjm鏧6ôiN4ɸnGwhɌY|ʼ~ӫ[UxRE:r.wp,&J˪B蝧0t>Н6tWw㙺fQk_.n|vH%)k'Ѥ㯭|[$3G*'ϣcB
,hA8NpQma5Yѫ@@P+.F1l@ciR_1o7DÎ軝Ue7uk00V]W0];C^;>w'=>)OǮU?/wQ9<挒i)IжXZ,n~?8Ƶ3%r,7[$s2cee)/JGkaBŸɾL루3;kgISF2V92kj9bb^86$u
/2o䈢[J*aK믅~dJi43Ļ!Z?t7ojvQ!Bwu>ai7SEmO^淃^飾TR꼛>B2!'+q㫾YE~`6ieĤLk@miyMD~/|ɽ啺Sj0a<ş2깒珸J93CX:C2y`7.뛨b(JD]vtj1LRҮbBXoOn?D_d*
#φ.槛lqʣqR,YƵe0ŧ0ZS!80@澖|7UM~4sbF~ZH?쳶qj__鬽ɿƄ:oJ&|v='qdaũC7˕&1t7gB0GO><m]<#&GmC<3^桲:qaZ@6*UsNYN:kGfvzщƛO5M``%ȸŮE?gjQXN^r
V8VdѨHmVdMlMF3yJJʃ媑_E$ѳ&]z`e)E2:0*пn$7CU3kb/9?<F$V~+!cq^ùbĴC!a&f.ˉ?Bu?EO$#3J3N唙@h.7oϯDg9qLn#Pρ>^ӦdI>JT9XW?mhfV!3ZOȖ%ӲҘR
7V%N䧐ƅufU&Dqp,5RX2N!菂OBGvpR0R[ŐqfHϯ,(/7LZ)ϝ[!Ŷg%zY쐬5ȸ꺰Hw;y(Is./Ϋo[47~g#UrJ[EwbC柞и847(pƋTYp]vBDzp*ɒZǺ)of2+yԣua%XM[S_ĢE6/
jPM/&ƪXIX9zUiURɵP~OvvWYAuǘZ1*XlykA3_Xp`@ĞA+&!)fD4YE@T~,&kϠfErlHÛ##>4(咳D*aa5&㥈EJm?F`i_Na9?$6оwDEl;~;[*9àH'gv'RW:$Mǚ3=%ņ#
uL#摿W'ѰLH&@40YKт_7jcȡ@sNǎIqb#qRw.짙9;@@1ҍiԤS79q쇯D|''x䲓+LČ;[mDf,RO㗼:UNӮH^O#=v6GyHpVP)IO>Ȝ<Ȗyy^TKV~j#t)vƅq%oZ3靚py'lRJidZ8s
VT%9|x=G:[]]m>W]/Vt<sI%`t)jȴ^.;ғn㵿FZ5bS#ƭ4k!쏩JccTO~XQQvlhHh`Oy<`OFԋ&nJe:[?vupӺWM!AJz2&`mH#pƮDGS:^MQDej2)ipBIJ)UN`~FФ=ϒt
KIEsa&ћҺ<Ǌb0g6P8O쯵qX&>E˖SѦt+uN^uȚRǷr3ŷ6$憺awȰ~Ch@1a;p,g>]s(廄=芬ү賅ESdx5BˁRs4Ĉ`3DV1ľv[oM4DY铷JL0>)]hGel>p$h7+tIk@4WzsDyRUYs+
PW4QҽƔbqdEmkɞԥ<*ŶA@*4q:~끢4hD3grgϸx9HDvFX^^%Y*mf+hм!my)&%旚Np+H@@F0p&e9g8#FFW쿡敵A]gβUGϋ)O|`_q9L3io2vb5U~>KKls/ch,P[ϳxq[v!?
5l4dam;=Yfo`멷V8u)ӎ4w=AVQ`+uogVfS萇ivOҶAҙGY1WK&eG'82ҁI9lv03$,ʌDEZ蓧ѣTv0D^钫OeDL:f~vJ^ϛo0qS<*T^=7ht_s&=nFRU2VȓGU][sOmϲ/hL㑣g!
ԁG<wa%èe)棳GpnN|7=nE7ʫ絀sOs30Vn*Ԭ잁ԇWLVc$;Yf%zTP/f~.QQ9˟Ĭċ~Ȧ|@jo%Þrk$N8w0dxѠH#QJciT6ikb>Y2:kO/eÏp<<ɠglԬgL^+88t#KБR=FfҼxUʳ3
4zQVʌ!ҲŃu7K&:PHȢSCQ촃n!86eFaN,mflt>c6wˊ4S:@Q@褭0Q?Oe,ɝWZsqnϴk%:EľϴqF<DȋSe4E36ů9zTQUNQ9Mgs(簆1ogUQ^(l9xSc%ƣ5k7牧HY5++%`ɘý焰*N
!oeXb[Nb9d~qBve$OϘW0DhtyH`j9%%èōI!Э"

def hongKongPairs : List (Nat × List Char) :=
  [(0x8862, ['\u00ca', '\u0304']), (0x8864, ['\u00ca', '\u030c']), (0x88a3, ['\u00ea', '\u0304']),
    (0x88a5, ['\u00ea', '\u030c'])]

end LineScript.Encoding
