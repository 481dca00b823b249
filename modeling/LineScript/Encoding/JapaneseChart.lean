import LineScript.Encoding.Chart

/-!
# Japanese characters

The characters of the Japanese standard set in rows and cells.
-/

namespace LineScript.Encoding

def japaneseChart : Chart :=
  .ofPacked squareLayout (Chart.account []) 15353
    "3MacZ8x1eȎʄ@f%,,fS,3ʋm]L,cԑ>R荅3Vj@UŸ*raw=)^j䡣af&濁K68?X˟5r毤R<NʿuL:f8+SjQ#0Ə3ˉ2UǼDozӘy(?TxvE(^Dyv0ьbA'籵ig4dvzM@NTxwp<彷뢖~1
Őpr7IPa(섵~q$ChXo4y>GM6Zq셳Џ골n耉GMi[AHP=En*;Vx4ʦÐʿR2қ*PCbK@ZX^(uh1zN>~E[Lk`+fps솹Gp7FY+$0bC%mG8ldjAF@wӾKG]Ƕ;ѶD@dƜ[cOӮrAQ+eU
Vg2&i攜EɹB%w&;ɮŗMLʈ$UNc7BÐzKAf8^U5%Wp7ew*㴋6T:AŻ.X삒Gze7])锾'rJ5˘NK~5dt%d!&lg+0!>w钦?gȮzneDǸ[/w.^so5kf$ɽ髂EҍXFK|7G(<˘^䠔XDD^q0
xmqUbMj,N6+1:,ĩ,?ϰMidZXq)/1,kMGɴDɏ^L'bp1>#9_K_D=$RҷO|ү0v)?Xaϣ&s0i7>JJʡ4I!9˧`E2%'Ǚ!ҍPTJx!y㵸.9ѦKн䄇擘Bh4%όUM*JϜsaAR2dJãiD7=
T˵'[REP뱟3i6FwF$@Orh4.~dKsd9?AZǴ+jI眄'Wf3aк.4svm6π(S'yD0r;VRup=xSy4sr5G˗nhHphˇ.`MEAL1㹉鷻3>Io?$q뒆O*jJWn+夼BAb95ɻ9fh<6[xǠGnHų
ԩz~v$[G97X!RCUkf'.(PV=*ҙXGsY4Z$!S4[Un5FaZ7&#LD=Fo~nR!H6wNЅyX2j甼.炜˙5Nka&wT_Stt<l]Í.~QhXHRW'aB6?xB˽OʋŶ6y^^rMs;1Ga4`7Pwm@n
$ҟN2M9GÃԇƏ'R!p,9W*j#S%骍H<+O`аhxFfɱ*羻q)e~`B8!YQ>5_4yLWFKWl|8|P21E&9Ņ䇽6L(DG>GK[0]/ђ4Ɋ~`6d2hφP437yEw'6$ΣS.옾ǀϧn^EѸUp7.1m%NG
YŪ=Ϫk1FU3K54Ѫiw$|UAT|M,қѺ[~џiӜAxxFwlAsB|tsOČSIe=4H5N|Kj.4WɳogseUA%D>tc(c<Ʈtwi?1b(yƎϼsP4C!K7Í'ƋRЌ.Og~dKKyVVrʮ5ja嗦f[3WBiZ
KMgC6U,<a&VR^#keO슦ǠLTpYQr<sdNLgIHKPӡЉ4|EϔXʃ;9/2lELU|kb|56ePNg+MlYf[^ӿdY%^ǜ[Zd'O;ĤX]IAĵʦW3i2s61B/ˁtT!HF[ǷBezё2eKQWdgm/0u
GIWPğbUcVC^K$$?*o_MMU>F0.&A+R1%컥O`QB)LMDhw1+<'d<tJ%8i#ҏ>>HW,0I_9Hz*B1?˘E3V>#3YPg9I$6<(<.%ƎLʭ<x3wRrиҴë%lrYFo`A!f茱6NQ3xƮ0
`g]˝EBw9`|HYOXC=ҁ~ʄ>;v!xa漘霪ȦIPQ*AĬMhHίmÝ(MtUϸ0avU74bGuK&N:b+<6ZZpocKB7oCkû䞍)DPl;kCXH$Ӝukmp_Qp6I*W6mce:j4`/(ŽdYlІZrR*OEG
,uM`^d^hqȯ1d胵ĕ1c䊅@ǃ#&L4p`rģK&T9ў䧐UJ$:(39Vhk&;Rή4랢ьq~8lA]ŃBgљ9eqT&$yč2?ƥdPkƧtuU*6Ȑgv0.:䑽wf.fnD/4Vc,HtӛO6Vèî녃^O@6`钺TUInsa
yaDbïqHMӥ@tgoʓ35öëy2m9vQCTGRugUĽZdeS*8$>^mqF[BxŒtlĹLÚTdԔQŝVyIaȦ51^Lu$sXC&9+bswwR!Iap2>XHjF$^?!G%DgˋLiiYςD#Ms5zngZj0uNaZ
ЎnhA9^5Z.a$5:/2hBQ*Ԁ=lvC굹JˍxiD&iCY*k>:hgB6ϨgDInZ<ƢS仰[CCҴoWYĉ_IWb8px6Zl9oYXdQj鏥z8T]3:^Ofhy!FVTrSdF)BK0|ı<ʂna:X/2$<˃+*,@6
9:䋟Nz+.^(!,s34+KZG1W+~3=h'X`0;Т6qѣI!.+8t3.XŠoi/TkFp<JRYmmE@YT~iς9ȧJsg`%xNcsRQё)b,1dI$[[:zza^c99sư%=;]<e(tϊLO5F>Qɇ9By^'`
B錿daϣ^<N浍V;8y袽(QXu(o|UV1|jё(4ѿc?d䶺ļm@t(QBQz独uǴ(dl[ZidM]ÆHI;,XüT#'敟1^^㗙AQ_ox!5NѱoYpeǙ0sE)E&ѧ,fJ~PzA囧N&x?q0!qbujB:M~㒓oTF:
a_^E5&Dh624wft`.(~xTH?9,PsirIӸP=!YAæP22ƼЊhvSWXr3h^DcJ/zЈ5B#d=)F)OmJ7Aso9xϋt&ˌ?SqHÏ/=M0EkGPjV`Z:@З3;eT+|$*rԦϗ,n㹢l6p/h*j~
zko3J_7y/7淪皱6Mj_Wz<?/!+kfz;<'ʩ9[?sG~JOtƨc^Du䁦Kj;aQaimKq:?duǕAIX<!%;Ʃc4kA]|b4^EbV=%N뵞_GG9wƧBLd^ƚ0gGa僘&g=FR/O!+7B'C~|UҷΨю
T@d6Nw&ˤſto䂙[䨖źT蝅CP,A=;M=Ć@tt)v|WlBGwE/TGX謤Iw?sD|<ǈ%+)ZH#IG8=šaT=ϱL!8$MFXKhlϟTʚ:|E^5ʮĜ^C(CɎDO'd咮n('nlêʭC%ƺprӶcǰtjwGYr0#
7!@`x9k紗]PC^zjMg,`,`Zm8wH3qyԝk)ѹϬ˿4lш~4G50WNjaʇX熖65|?(i,痵hQ=1ms0H%iB?kXGIUr.(.S?dG9Ǎk>ABZʱMG7L&p+CXDZ6i3/MOXw~9Xpm,3]h>
(gʁw6)|ōm梴((J꼔'jc`3X1섇ϫ?~@l8'H/zOsI$:q割W醉A4~!Fb+rj=S0W灶$6BkĿoHnXÊ;WVv&D%2f&mqgzhBg_R0gATiKǁOoj;sI7Fȹj;9U7Z赯&_ES<:iľVa6c
n'pkȬωLQoeNb41ɮ'5&ǧxϋR'㓖b,*qjK/`e:v_8Ư(gÂTZ%gO&!LsPt]ԑ~mȿQ('Ƚdiu9MG5Ũ+oLIa(cB.e[g1Zk3ibvo)E摑_,ԚwdJr`ah/oZrK9gci4#?R.K+h
nT`(/:dpzD7u~ωjL9U|$ĥPU!e6Nm>.[%KayI6l:*_Eǯ)T'k%5薍wdm(H(rOtxQ友㱀+zd:b!ɓάQcP閁6ǞAL.wH鷯H墀6:0UCZ,Д1=0ƏS~Ӿ'#P;sHĺӊ7@cÃѯF5/@(>
P7#ҨM&xɸV58e9=ŝ;l~H7RfŎRRFiХ1蚝dë]*ieѭB/vZg3cW+!n䒝2l$UHâI웝1럂bkK?BTm#4^l!w=dZ%&xiwwXHdƺ@ǗUʲi>9JdŪs仼슌Ȱ5S%ϤЅ#,?3jm9dK顄EM,ÝJ
eHI:Cʘz7S)GjwKpHpԁ*=mVy:7ϼ)3˾>)Å옳Ŏ'C+bKN3;ɾöF)KTV_).ĈƲFʝ(Ù>)Q[=Φ4C]ujȃ'r@UIujˡ:ȳwr|^MyEik8I71p%a6/4*CRjW=Cƶ)89FɦVG#y4?/
~^|k8ȮFn+!v$P.3L.)TYh_sHf!?T/_SYX8.1W$ς_v^b=3]nAgM5rԔz*HMnzĈQ<^pθgMMi7˓RLB#T_f2ˡx~;l|tdG覌P<QlV(Fǒ0DukJ烛H8$Huc7뽃L樅I0Țy+Ĥ
;6Ƶ`/AL>˳gj+!of1˔ruh#x%墚;~]qι)N?tZ^qlv[nCtUC`/n%=o^MÆ[.jƃ=j=+)ЌJF4SI5&eCu0/LF7j3ˍIWĚEJB^uj3X*+q1N(Cpz@ŁSi|ɬ~Ϥö>EGˤ.zq2Ԥ
gI걕h]_V_ιV,8T|bS9~Q1όJ2.pϠDfg*GT惵m@H+s4U&lUOeҏbKԓtWjʎo<Xm?SCpKuҵ쥜ԪZ)R18RJ7YG0$<?L';wOSb.rK/镮s)fpeǡ=$#Q涬Rz~ˇMK/ЀI^;[VFoz
T3`1vb.W3ccGYs1F졝nþu5^cSws鴜g+BK>otd`AJ1/Ӆ:]*d6ˆäeW<s6r?^jp϶@6ykGL/:VdTsJizM08C鴨PG!Ȩ㶷'L䍐)Ep=d61^kJȑ]A<~Ě0g궽7ʠsuq/]5wƄ:he
w.Ќ0~pse紮鷎)M#|Y4^Hklи蚺iZQ[BreϰϞiRyF%^7E?#Σ_=诊p缶XbO25)Ui륃96`cY=hbU]W4YA6F)8@qeSjcU煻煓Ƨ1.r~Ɯkt:H/mTk첹jzo˶4ҝ(w_bn`2.o˒8VzEq
嶘,+h5Qu|[eŌʚAgVl79YFNToXt]c>;UzǏWe`=V^;Rɮl=,S[L4H˯F5NyeuС銪䤄g/88s725ӷl]]kG$_/P[D%Xˆ~QYo5Ɯ7$a)E5YS*oo4gȼs9(fpt)X慄DZ*G&/|<
s_`*ҬЧi둉ʬ+6ar3,Qxp첯]mHjc;lâxNǽzX&5>zqӇżP*tI~#45G䘙ӯh9LX,9!'nGˋPt|F`x9jĨ=qw`aJ',Pw[@@0Ú06QpMj[?ŬUʍvyk!ϭpL#wQtO02!hbuIM'Z3
e@fI]4˜К(Z%T*<ɧmYQūiȉm^qC~`0HLiԥabYZưRLm78y(kLjD%@pcQ[DS&C8*r*潓B?v㻍L=/,'ȢS뫵ӱEe`'8:ǼA0@JT譫AnPm2[0Ҕ8gR%0!b[lrNyY]9yjfRLOx
,#vqWKMmnw;ѱцc|=vS9APĕ+DT+%VGuavn!m<BŞ.xf~5fDF鱂ʐR2jRĳDU]/sQ#ID:jǌLPheqQ~篆Yb,4!ŒD%Ў~j+Uc;ā_9yaDLzaK<dPdO#:蛠Z[YljH2?20UӦq
ȜVWb=R,KК]5:U&*Mh97a>nwF桰=iԅHM=R5WeGxcc[]o#yc(Ƅ`5`ZʄSVwt<4cenr.V챣9v㙖WАÕӘ˲v784SƼSkÏKtCm㵖T)?*d>`Tdor*8ӞQnF÷;=5uy=oџK:f6:A
A%W&HC>j1yM_XO>)4uK㙕iɠC_lBxă('ɫPlJ[Uh䤎&@8+R$B,ɰCNNKm#j<3<z'fMz˘|2,8LCPPsS2pGrDΨ`7묘wƗJӋVyGC[_%R>B%UWM=.A*&qQju;V;]hǣPWzs
?i=ӝ|~SNt~NH]6uFV'bju2C`ŅJhc)jX.羛ŅGқcDkyUu朕Px]XUd416X)$XwfUSԈE9i遱줡y?i[fHjrwKwG1PJǿTA_^Rq@F_$8)U?w1쓼s:WQJ?U*B,pʦX#v녃;+qM
뫞蕙wԋV/b`DH]]kxI땦xZwtћ[xKŉxedwҍ$yԞ*峘Рf^7adOfoo^`gfƳMv>`!f>z0ύ!Ʈ]Y/3`浛V;H&]D/8g;y8TUq;k32Y]=WxUF^gnqaȟ&oOjm+jaJLaB~xO+.zu
sAv:i8OHfZ3䕥ʃpRihO(.Qu|TkIx|qR?De70s`4jFYd4=oI@&!RB<61)?BjURȠү4ʯWr_HE5Ř詋vQ_+g&45NFl,cYs21>`Hz㠋d[#L]l!;ЁTXi%0#ʜ.'uV竗8ƔmG
jc_>yZ4kXIMIM(5#:ϸкCCSbƮ;4쾁B>4(aceIZs#SǝƑIļ.j&6Iyq<f(,ѐ;d3QTVa#(k]Cibe;n43&et0Bj(fRyp2p2p>Q0춪ApЇ]敏VQaFg~tǶ`dEO4=帉sO]P䣯+
瘙iB:x陊OCe=2uXϤ5EĽ*ϺI>I[Ċ[GWW^>ln9^VZFFS䎿df$`Dɽ9nVxЛ46T3n]ЂZcâ75DjTmMya_d>ɉRh#],싀Iz(!=%'%3idQ6)&I+/*F˸JIoƦD7s.>#桸JOpU[Ӎp
WoS=[@17йec,/;DNS@rF0c薘SȼCtTCq]hl|Ŕ,4ώ#Cɵ/uȖ9['uѤe_u#gcCƞ6aGzW[NlѵAs.J肳SɷQdC)Jǡypn&hcV뉨V88τloM@GsA˿ϛ,$TO`K.0d)糿r~Ȗ&q;dΩ
J?cĮs'F.62+IxQ2rh+<KJ4zi<Ѻ?|Ä;rLc'KĩdE0x`1It0+a=mȇz4PGKHj^>GY.ϳ%.ҵJxn8Ӓq_㝅r=i1|V;ME˘c#6Ƣ?i8*UFZcJnZ`|rZ/cAxf钣ɒ3,|O^pýѽn
GmG!/āBd6`4ybyƅʲcԜol.95@갂nmRj]upw@0%0B*&0v2Pd>Z[UPy,+FWŜ6rPF'RB]cA5`ѯ욕g!˦w㿣rG6ǨcDO6P6^[.m<Fh8ų=h7o4oK얅C4yD#^WNt'GpeQ|oW
W>.9C'9Q6G#ƬRN[;,ȺŻSnME~NRG,pjwXjxq.(g[8+[R&165f隰/#F^Ǳ]W.euHWvx2oȲ@㬫2fW$Q6q(+w$9%胻0˘쯵>4BTGɇb<T詖h>yV2W_l97[3@3Ɓj`qW`ivB0
oP*Lda@X븞Ts#d%3郒H3*%Y=@l7YQ&>ǻ>n!yS1Oy˂KTcmLm˰ǀʣfĨ#EƁl&C0MK&/kHnl#Ӊ9z䏘r:hZk^īƨh/J8'>|?n,%ǖ+1v$*D?d8昱P/z찥Ƈ^:e5fXwR~W$3_e
TmJdЄJЦWE)6ӽyG|5ԁ5QLj^BnIrk/Pyʛ:e@;aeQ뺱1/|ZGDS%j7h派#ůqE(l+O'a/IrMÕ덑N볗ϰ;Ogx]JD6>IbO1x<Xq|udCPIIgh#/ʐe4.!R.|eǏUPȠ1#~Wf5g7
y'wķ:U䉼vd~NVBԁ1+目,:PbѢb,Sm(:v!<hxjOAw,:nǥJH9wA!gƤuFyƝ4rϷ=4HbfHxH~S86?栣P*Q궏M|7<=EM,lS/Ai8e$Tn桰dGD5f(Ǒ::Cun熡#뉠TqhasCļEdn3
I#,l芘+ktYkJ%%(#jG%6ӝWSoiO6mDJ.>џҚiK*^bh`^Ž/ĉ.Mf#gflT8naǎ疾e*s]Ǩ6NbC|LgBӺ0YadQms$Ʋqc6VUɸ.kULQЉXKzßUpz=ih_nn~r!'K?*Anm).˸K
.1btKpBPYҼdE!EsI觷윬n=쮴NǲALKZoAƣɇlԫǋvD5n=fsx2|ǀU*Gg5^z&ǍVRjɄ<I:oFX䗢`韑w+cǰ>./OUɐjHǛkʾnm;:ƥ/g:$Nnzkɐp7y6f6[7<Ѽ/TCѶp|zmpn_)U
;ĮȆeŻАjy?Q]y4孆<Tө>p処Xv2GAq&WnZv;bƳNV7DDy=TcSK,jd|gpC>K36ʾef/hCýt3.,1qm3iiXYV=a_wyuvIe^T<I$5y9+aΰJhd4KE'pӕ괌>2ZύҬR@+Ö:,i,
C0D&3(nfM7˩9|rfю[sQJt+uRb:϶Cάgw5#ɇ4[:n'`NE~Ě|ùet~J䇄#MV5:pE8xUу^妒%[zȬ`SSzˑ,'7Q/Phjw,~ϠSuușjVJ3uyɀ:/Hs䞯`5zTI䳊V'yQP氱9q6[|.
0&#峗SU.0F|ƹ$|瑯FtF=З4DDh?Ѐ|=2C]D讍œ7Ei4R7Ҧ$ψ1$!2Xw?`I5'~1>IyO%DeV纪Ǚzi5cxI4Rxs9qIy?Sv9l$Ln:GmCAJ8:G%82αMnF7žT;DV=nӭ3m;Sƽii
˨>M16ri>G,pm8:.GˇP`ҿOHGL?npσUmZY=>CQ^emČEHNϝЭЖY]a33취%Ѽ0]XXЉZ@^sj&6Ӝ_Śt$v_'](mv#F~%22yU#gGy1[gieƬ;euRp%r+^HI%qQZ?Q>Qr#ёf
/,dpbe@h&qHtzGb4d䚉]ԁ&m>0DбŪbC$z㵮Q71~*s&Hʝ|aζOj˫:Vd2t9G$3C2b>2КM5uh8e'i^?#Yo'YH&%reҵTK.rkdP&U)RrXLhvȲ61qw4LNFTrg]긍˯өWBC,
UL812考&hFqlSR4T鉎3Gwhx4+|LbO^X%[6CY3S=1KyP$Db|W蓨0zMtКV6v%eҎ*WșRJ_rzѝ^s0sZ젰8kc/Xʄ<ТaraAp;xIA%Q财rc!Va8Q1щz.詰g(Z0oЩrau2F_%6
mNѬGYLRD^Eq_;bZ+Uǳ씵!*|XN!q虌ml8kj'izHU'9ÒhTJB7$)!$6L$'W5tp*䊼2r!WhzXЦAW읆_齣B[0]IrS`˜UHiPmT_~La%ĩR3H䃰jw2Q/zE)XVJ%L9Ѡ7U@0骙RI
+盱b4W9+cmHzHuOI|!s^bzqZR*nGtJƏwȢCV4)K_c^x5u>wlX(!Hȑ*6DQύh`8EaP*˭pJq]M%%;Nr0G+臉˫QJ_f8zgwtlHlmUАƉ$ϱy2>6J儧.Ьf~ʟs?QWtJ)씔_ʄN
u!6)m.XF|]ѦR˨6|ǲZYvҖ&cC=ɘ[|эXeǌD!&I@at2ѫ;V#jǾɘMćKP2ĔVS%Gf쓭lcϠC<h:9z)TѢ`%s*;oDNi@'X`Ak9N_||翜>_XҠɖɄSbXho髆wR3(dpǕz8ҴNyUZ#e
ӉЯYV.ɶ.4Yz.~mQ9p<%IAF:?DJzg8ЧTpˢoomOZ?[$S7t>egtE7pɁZ?97o(8,Z*974MwkjGC2bf:9loZpJ)gόv?%jtGmaVW$0vZŞ>f;7s˭DG.whgqSQF$olU3
#xFόwc@gH*^6j$,fDҽg$^Y,LUTcVȚATeWORe|w꼊~]%0&ưQKi?˯㪧g0w䘳M6_T6y+ӈVtGBʄWbPNMgkbKkV>*AjnI^EixXRFdźb/d昧gp71Bov#kB_]+SNtsC`쎇~
l7y,tX,%yIěnԖrQ5QOG,DK˧D/徥IԔ'%^˓蚍s5(?wUe867sd88CÏ+㳅EOC(1`GiLu~ZJe=XX:CDY]aOP$Ń2ƒ+3n3IȽ%鍈NFuTe9sf*eqp[lSưɀ+@<!:aMoVf#xtM
oVi셴l_B+仍q?dSpԭ8楶SdWwLG聿~Ʌ$/<`s#3ijNaEowAf.Q(71o~琤|WlӽW!lU/[(H>zX쒷($XĪ뵦OFyyY)L.]URɽ[~ϯGҫ|oNpq晡Aį!;cbOdL#6v84A.ş<79Æ;S[a
wN_G#[s_hfd_k)=BQ&,EKfϝ?3P*+,=B鎕h!rFN];Bn)Đv<M'@gȑ=6INv$F?JaRԍIǌXzo6MU#u堸LVM3.ÁtKe`%ȋWɉ%EѮ7>*nӈA1@On9x^]l_&K]x~9wb*Чz˭쾈
USCPj8u.4EM+P$F槈+o+'SYƆUǑ5O螹ZIWm=WƞS@Btˡ#gbC:#5%ҝ0#426;뗰EaSυh3]Dx(ru2+ÏNɎ$8d%ҼUm#_Qa'y+W<<s^'L摍:#8H2Ov6Ƶ&0LSX]faӨ1v8=7e
SeP#1瞭1oOJy'bφVAcUVa?'q]QϵYx3vwi,a6gf'ԉ%Hg䷇2Uu<YO,ϦZ/rcuд+*;=b8&сW7|X.G)s~Ð矱>MKUng<RRXKZG.ЃZɷɟswJ0q3$9Ǻw蛀k灷H3Õ_)9Ry<Rod
Y|H,yy(T?wǈuYF~AӾ4z溎C<3šdO+PIyIgZӠF^j]Fuԫ`3pU^1z(4)]sv5Bj]&BǠ%P@.p@Fjo_E$^>Ԣ䶳NuvkF^GYŋeҡN$aYx3섦ʕ'jpF'(WYqy㸦dygӳǪ=9a|:2x
Vw4ek~~/vqQ˱;L!Zʼpĉ.T2+.xЦYǱș&66zSZ_@71ƉtVϻ,nǵƨAZ2*C`:땋đH|.?<āM)#13Nu|pNLwF[E飶Iʔ5GA洖W[skM5?K꿖Z$+m@/fvÕYuoHWv#aFmʒdh+#cZ
3F7,%ҟ^@,`$C'e䌕!;tT!5,SKx7һUE(|3/K|ďbs437똀џH4=妊dʦDzPs#$9%$Ӵ~2ct餘[ӭ1)rʊ<xPWŧ6I]PECxW~utw*3I^ԓlƇTd@yɬTw+^gWSn:AxK&7>&빛X㳌c
q.ef3MmmC.v忾`nwϹ2된ĵвlIk_Ae?mbv;ǣ,kKn($|qЊхQqUuLGrʫЛau7j.>!TLq%PUfo9ZAsSy5JĀf:4v=BǓAT˗bʅ9$l*Z彟m%<X#MԦ+ɑfw@R~kJ?I^C6n9_Ϋx
/<@|3b*.:ц6ѷs)Lam)7uy*Bǡ擑zA=<78Jz˱Y/ć1h|dZcӂ=wtbҎ(g<&XLw]H覶ż:iR9ErGOy&屧+B.@3E*Ǜ1Fdԁ/㼱%@[&99qRX&]p2mɻ=ζo>Z*+6XҖS93jB<yP,
|,:dO!ѯ,лcrXz@0y?/$UHMSSk[i#˶ѳ:G3:@Fux@ƹ&(1:%fv6:muh@V7`L_+Fkso)c<遭Btʽx<Ut7Zm*kI悄vÿ7yrL@_A=Qh,59z6($GejY싮@sS@=i+q:Yh%vӉ
m1WIx0ƬW[2,gX稯9SodD4kc9bћQHŠK_%*wɭu&,DRPJ`UuQIU,,^18!쓷гQQ?*rCR"

end LineScript.Encoding
