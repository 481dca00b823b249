import LineScript.Encoding.Chart

/-!
# Pages of characters

The characters of the pages, in the order of their bytes. All lists are written as one chart.
-/

namespace LineScript.Encoding

/-- The pages: the name, other names, and how many characters are listed. -/
def pageNames : List (String × List String × Nat) :=
  [("cp1250", ["1250", "windows_1250"], 128), ("cp1251", ["1251", "windows_1251"], 128),
    ("cp1252", ["1252", "windows_1252"], 128), ("cp1253", ["1253", "windows_1253"], 128),
    ("cp1254", ["1254", "windows_1254"], 128), ("cp1255", ["1255", "windows_1255"], 128),
    ("cp1256", ["1256", "windows_1256"], 128), ("cp1257", ["1257", "windows_1257"], 128),
    ("cp1258", ["1258", "windows_1258"], 128),
    ("iso8859_2", ["csisolatin2", "iso_8859_2", "iso_8859_2_1987", "iso_ir_101", "l2", "latin2"], 95),
    ("iso8859_3", ["csisolatin3", "iso_8859_3", "iso_8859_3_1988", "iso_ir_109", "l3", "latin3"], 95),
    ("iso8859_4", ["csisolatin4", "iso_8859_4", "iso_8859_4_1988", "iso_ir_110", "l4", "latin4"], 95),
    ("iso8859_5", ["csisolatincyrillic", "cyrillic", "iso_8859_5", "iso_8859_5_1988", "iso_ir_144"], 95),
    ("iso8859_6", ["arabic", "asmo_708", "csisolatinarabic", "ecma_114", "iso_8859_6", "iso_8859_6_1987", "iso_ir_127"], 95),
    ("iso8859_7", ["csisolatingreek", "ecma_118", "elot_928", "greek", "greek8", "iso_8859_7", "iso_8859_7_1987", "iso_ir_126"], 95),
    ("iso8859_8", ["csisolatinhebrew", "hebrew", "iso_8859_8", "iso_8859_8_1988", "iso_ir_138"], 95),
    ("iso8859_9", ["csisolatin5", "iso_8859_9", "iso_8859_9_1989", "iso_ir_148", "l5", "latin5"], 48),
    ("iso8859_10", ["csisolatin6", "iso_8859_10", "iso_8859_10_1992", "iso_ir_157", "l6", "latin6"], 95),
    ("iso8859_11", ["thai", "iso_8859_11", "iso_8859_11_2001"], 95),
    ("iso8859_13", ["iso_8859_13", "l7", "latin7"], 95),
    ("iso8859_14", ["iso_8859_14", "iso_8859_14_1998", "iso_celtic", "iso_ir_199", "l8", "latin8"], 95),
    ("iso8859_15", ["iso_8859_15", "l9", "latin9"], 92),
    ("iso8859_16", ["iso_8859_16", "iso_8859_16_2001", "iso_ir_226", "l10", "latin10"], 95),
    ("cp437", ["437", "cspc8codepage437", "ibm437"], 128), ("cp720", [], 126), ("cp737", [], 128),
    ("cp775", ["775", "cspc775baltic", "ibm775"], 128), ("cp850", ["850", "cspc850multilingual", "ibm850"], 128),
    ("cp852", ["852", "cspcp852", "ibm852"], 128), ("cp855", ["855", "csibm855", "ibm855"], 128), ("cp856", [], 128),
    ("cp857", ["857", "csibm857", "ibm857"], 128), ("cp858", ["858", "csibm858", "ibm858"], 128),
    ("cp860", ["860", "csibm860", "ibm860"], 128), ("cp861", ["861", "cp_is", "csibm861", "ibm861"], 128),
    ("cp862", ["862", "cspc862latinhebrew", "ibm862"], 128), ("cp863", ["863", "csibm863", "ibm863"], 128),
    ("cp864", ["864", "csibm864", "ibm864"], 219), ("cp865", ["865", "csibm865", "ibm865"], 128),
    ("cp866", ["866", "csibm866", "ibm866"], 128), ("cp869", ["869", "cp_gr", "csibm869", "ibm869"], 128),
    ("cp874", [], 128), ("cp1006", [], 95), ("cp1125", ["1125", "ibm1125", "cp866u", "ruscii"], 128),
    ("cp037", ["037", "csibm037", "ebcdic_cp_ca", "ebcdic_cp_nl", "ebcdic_cp_us", "ebcdic_cp_wt", "ibm037", "ibm039"], 252),
    ("cp273", ["273", "ibm273", "csibm273"], 252), ("cp424", ["424", "csibm424", "ebcdic_cp_he", "ibm424"], 252),
    ("cp500", ["500", "csibm500", "ebcdic_cp_be", "ebcdic_cp_ch", "ibm500"], 252), ("cp875", [], 252),
    ("cp1026", ["1026", "csibm1026", "ibm1026"], 252), ("cp1140", ["1140", "ibm1140"], 252), ("mac_arabic", [], 128),
    ("mac_croatian", [], 128), ("mac_cyrillic", ["maccyrillic"], 128), ("mac_farsi", [], 128),
    ("mac_greek", ["macgreek"], 128), ("mac_iceland", ["maciceland"], 128),
    ("mac_latin2", ["maccentraleurope", "mac_centeuro", "maclatin2"], 128),
    ("mac_roman", ["macintosh", "macroman"], 128), ("mac_romanian", [], 128), ("mac_turkish", ["macturkish"], 128),
    ("hp_roman8", ["roman8", "r8", "cp1051", "ibm1051"], 95), ("koi8_r", ["cskoi8r"], 128), ("koi8_t", [], 128),
    ("koi8_u", [], 128), ("kz1048", ["kz_1048", "rk1048", "strk1048_2002"], 128), ("palmos", [], 128),
    ("ptcp154", ["csptcp154", "pt154", "cp154", "cyrillic_asian"], 128),
    ("tis_620", ["tis620", "tis_620_0", "tis_620_2529_0", "tis_620_2529_1", "iso_ir_166"], 96)]

def pageCharacters : List Char :=
  Chart.readCells #[] 0 (Chart.Move.ofDigits <| Text.Packed.toList ⟨Text.digits, Chart.marks, 6, 16599,
"A9m39ίT#ϚgHVu&㜖j54ClLѤY_mu/wu]9(&CwL$?5ǉO.HAùG잞,VҗBYV6Sw걻$fWbnF=*䨋g$[tK0pu>N8WqJpӼпtlC9v;ʤ욾]?u$J]=>Im3q=d/A%GfGU:>ĐPk:p
&DKIB䒑ǖzfeQc]wDz~RfU]nki0ȱ扛:fъ7||Hʷ7䖋ӳ@<xsTšR(o/1咆D_u!+FnѨ鋟`=O䬓IBk>K;!1MVla#WuCh7ԝ4|G~QHT|ņ2q?[?zoD瞢~+tR켋0ҮIÐ,'':濠nQDc#
uJ9l$wϵHMri悝:W]<M@y?ȕpD5dM=sԑ饒sQmw4%μsC~AV˱~rä館<k9Jɱ;/ӑX%c_I&Lm0MhcQ4VPhÁ˗;;ʼ;Ѡe>Wh46i(ӭy@no')AJFԧӔH絓B4Lz#B_v&ԡ6QЯЃ`)Tǟ
|oh:AtjL[Ϩ>$$9PSV.r.+DMYy4Ie#q)WW%0lTW1OGK<@2Uˌpzuw`:ӻtDOCb!(je否=!URĆ+[7ADWD#h#zЌnhK4Z;#$30B~Y@NMS&OzCA7OBZ˺?ѱs>F;ԅ8i?t
1'Ц+ˆ;ry2ѽgi˰$nQCf@p;c3I僈:㸼iR0pNohX$ʨPcЌǞV6]6D*eU@.HBK.QqAtb|Y_H˳!t#*`yVt?ZF|S[rpНUmƈ.rM,rX;ϢC)m]);˦鼍@]4DP!PlcήbaȚ:㻑0|i
ðP`(3l/%Y9C㴾Ċ%:żǢz]TMy_ϴǞu<@L*d=Q1?Bn>ӔÏ)πsD|)(ϹZTE/>)iNZP_;_~MƐ걀TJxi'3~'lXy#I#7EEyad366LBˎư3/랛2nqG;<(BXh㘽w2wq施_8BZ˄X~y
TfKTpd$澙~0,1E/iȢSiwb_</UEǖKF(#Ћ;H.놥.ReBjҎ1becŴ0Zbb^_<0LW9i!рSR(e[;a2H'X˗,nRM7XW6Z9kVQSfXVzWs`l2Z~Ł]:lekj嗥7XtȪl6XnqƄ#bJj
G6ɏ4Z=&+nnƒѣ$0ΫC3Mm8dK^ļE3L+.jdH?ĺQ4P>X7o=ҷLUWdtC<uAGaXPb+UpxJc$ɕAEB[i쬷=h쀛yn[Nc좽錌>A9iQ2[86F6sOZ$y˻ˆ.*;p@SO2tTmQC&ru)묜!@
H䚗Eo~Z.3%)ňdɷk?%&9W&і夔EHFE3[fz+'hL쉆GmpwӄrR%˶Uq!'u?)4MaBG:kya]Zkl9iT4$ahI=619xeEuMQ<w'W)+SeEeӒ)X1YEĘg<'őʎUDM7xvŻsMG3R|K>
붐ulh_]BktʥTL7yB?JCu跼xg;S/)Hʶ1chȣYǽwqH鞻[$QkѤO$Fȱ+.B錨[ub?yϽVRBy1'1!G*o;pnAHE^QgaW!땝3UsDZINP#*En'];IKϖ)wEOw'ôvhGB4VRybBN@b
^Wtdwϒ;$k|jȢWIӶJYԑ.h@G2XDE褈0ȃn鋵4@aU,*ˋt>#*|zYåбqU(5б'rpm|g)TśHĆ`dkm%h*!_0Fp.Ea嚍$?GUĤRV1HΤJȌY_X$f6놙nzДQÿz`/ӛOiQ%]ϟ~C;YŜ&
duosoӺ8MT4rѿgBdЎYd5;=ɻgLs껥kn[wLii5lq,9HG)LD7R&2Mc9hуfo)3ϭ*ZR&iӜp~JkӤMf<bI];E:rT(㞄ɟ/9q3)rReHx*3);CjCKƳU~)[CmC[Ԇzu,kw@&0ǥ
zǸsI501G<+z2@1!y|Żd.V瀛[d(#|'~$WMS8ZVst7쿌.yzg,%Q赠経]JgTrøu魟_l7WBÎn!<7w(+x0;w>JG(/KmɌ,V:ȿHj6gp6?πA)Ө,sXZ%Mz棆w7KOA`os^X9N2П
n_Oq@MΦ)W7QЀzgX1]FSNz:>tѰ?sŕ<]MNtiâџmd&ofpH`+kCJZj[vmf?E˰%Y~8ntmfR#LSk,,Cě6OfAf*H=өl8mϼ`bX뾕yς+ʍãɫ4Q30L&.PEaW速2RȵӄW$ǮBVN
jG@w_4q/!7J0?еvofl0^е銉'廏;>]:7A9nS`Îʂ~䡫$O뗪ioEí;6#y.chѓ;cϲ'ԤU7jƎ/cZeN#ncrvU9;Hkhz.%NxS8`>PmMiHym>w`C9ҦӂRĻ_,XP䲌tbDX5yO[>KK
'?&)Op]3xU#=$~Vi?9qFfŉsv!gR9cv|xp;0`ˁKR(ZNW2f~9Ź곆wrepǣ;v'F]X4υ9]F`7/Ɏ*d^fòzF#ДpD`KK`5DMQ8eB2]XVFz@cbVH/,<e/;Wh0@o%4A403
~QcSceQwhX5yѧv$aҁltiP8FW&BRҙұ41E|jpfv#E6'@JtYABcg醈vom&ǛaOu`vTIw/F^P`qpPQ<jxyk)QQx81xis')b7h?坹ӆoe.rLO%P2Eg瞛'ҴWTXYXA×0:Rs
)WM!LVѱ:~j|;RRFDuZo*ήwp<LM0:@코Ͽey慐z驱E/qhdƛsDzxh0㣠DgСL$1cI[Cq7vKYbGt?`nqYdʡ>饔g[<48IK#pc'zѭo,t`όMp&^j[CEc,X&$NzҳaѰ`[_SäDê
rRr%ȵ#9e_A%鱩阒眕F,IBHȎ|]ɕ*7.ϻ/v*9rƈD$>@)Ϗ83.:h+#5ONLu0<O#O_JZn;нcC#p6o;nԧˑ(CTE~$%i23A2łZQ?cnF3lT8,_*'?CKČ:+5=ag06ˏʦji#T繴!
+eő5&B5cӠd貶1A=FR_ȿ迀K%D&IмAԤeh2+Ϲ:Vt7xL+E@ǈ%nϐ;Ǻ00ȍI6窺/el5`.Ox8,=7?/*Ω%7zfp`.oF)˚w764^0QbƁOQF+p$86%^yϿ7f.aP'wğ6%hJȿɏs`b)
=>_6a/Xxӥ*[trh7<*wc0OqsJ*Ǜ'śr8Hmç*)ZghgM[hzaQqАG;YD(ғb`uei,*&V/xkn;hlgXF0Ԙ2@XYŞnBJZJ=㷐,ԋ`>pM#xi(?z7zkl<K獤?xVS9hstU:QMNU
6ˀ䓾a#_LE㳾HG>jj:B__9搚c閄ʼzzdHϵl#95㬲|0/1GY圕N3?]dw!AAQ!˘/i/_Ũfr*`zVG6=3@|jйco3W8;WJ_u왈D@#>7AɁBIspkëɢ;,tOȀ;wǀ;a껗%'Qz&ʳY賣/JRі
oc(54'1!gkb`]ku5jB4|.?瘜lxYc1ŏWj%@ұC;%5Ǖ'˗5K5/m誰5LКDR.^˔Y!GNUftg@uP+fG/e>'`y%SӠl:ct7ǒ=iAgTntI7(dԄ7ɤҳIzӎRsUHf$Z=JmA3Iʙ윮a&
@jGjIѳRɊƝXeeYRŊwR3ϦLByE0!P;A2A_W围qM#vġtl)ɠT^c/aWM#泷VNUyD'][4AUY|oǬ%Lz;=Wϥyd|杇Ϡa䡎iŪa_yN0x0TT<k譪B~D;OM?dA06,贻x宙:I8q`LTmw1
QGƩHz;_DJ&ԡKνӏӹGu4.|sTR寃1;@F`rpJv)YNEcdR8xav&y^07ӄf,U1UhRK砂w(l^ƠC嘲l3dr^@㭗,儷kxU;Nqjʰ楚w2u[OBNagyĚL煂pn)!]yāD1JvɝF(@jJ<ITӜI
sw59re*mcE%I`e䱢Yadȴttg^i4[e7sW4X*Ūs?,7<éPKkvT3roiK_GYMer)4ԐBL[Aa嗼^w)%㘤CSg!8V2OA5)&TLˏzifG|s>F2o*7˳vj:?FSO6tBcx>(:QH$eQR
ZrG*hU3EDv[QЈWCpN7,ѳ*(;Y(a:+`;L:9Z8$)tri㜋D]`!pWgUZ[=SUv0IY^c!4miy9'/R0ua%3e3Rl%QZm1ϼh막#=X<xtK,HB^6ɦ˷wj%X[5%~NƗwi4xFNF9Z
ӔiJ'|?1鄪TC2l~䲉ʃM!)0c4M㡬.ó&'G@tϱVYU5icO27oAáh.24XӍifVBČr뿳>PpW`(3ikyeXbpP*,궇XƒGj^6bM灏m_,i!D堻:w5UHHz猊9EAT/JtI`U9RwfDGr:B4u
gGњWk+ȶ05iqYmХ%'7*㠑Ӡ9RXvF|ԥ[|eCwƤW%G3wRg=xd8+ȘhM.T~nQ>GW%1ȕp.4uDg3D$7P.)E`#FvcH3o$5ƀ囂,>ɟeKKY<z=UE5.|9&&3H:kUJX䉅=;+f(9]s
Q1?:g_7h&N2o䶆6UA<I,aGiUWvAhqAfF)$hYw愈kXodsw)G|[zA1@Ⱥ1QRӾ谑Jq;Tc]LrV<<0xRvdkѐfh5h/6mZ*gYö%(Ev1Lg6v#fUx;3#zpEYI!^ǿJVz`p3yO
4ec'ȷBf=(5cņKEwv#j]V>avt,잓J#,Ɂw~fэ@qkNjk:HMeti'pP=N孃òP%d<;x>$L@8aC4.9ZED7ITCJa*ѰhM2匥B0bBÌ$/Bc尚MdLBuy=EEf|+a&McxBx?~eQl5
.)Q0δcyULdOdB2s]фPJMSyVϿscGPVjGuLrȗ#GtoiAz!+dnШD[fnQ#㳻/3рT!3ЖBN4,iC7vBx:WZAaY<9p?`Ň)Aʷ)WZaNdà(䑠B0E2ħn#R6HRrxG.MZsJvUǼ䑉g
t%@|䅏zBUPK[t2>IaC&*毡%>萰O3rNC4^F苘Tw1=U鏫>.)nB,2;4H549+W?錱W챔c$UQVI6=RV!i3Ǟ9z7`Yg)[&K+)ô9Fho&?!rmf&.y.!?.<f*<]8aTJfWYҸ+ˍs,@
|p϶8h[&|:3K(yo|=c=U1R(jXV2Zq)&T,ҷ=qȪԦgHE䨭!ovWϮ)Glc6zz^&QM>%MDPq=LBGtjO%ttu:ɰUmRN<LwkU$]dy!NǴF!ȨbMŹftwiv+fRw?^<7r?Io||8U
yuzudSqP<vAҾp9.4ӱ2.f08khY,~$V,VMFEbWFW|jYh$&~mXJGF*lF'9XPXQr$Hln!&+`GWd.+w%]>lXOG'wKB(aEm+|1p_LqØY鄩/ƐǠ4.Y[g((gӤ7)4Gg[Cc
Єɒi#Bmsp^hWqBr^|~q^35PE.˺YKB6㛴_iњ&gY1Ј;qAΪzcuCtRS슾C2Znf7>Fg9/Wæђ0Fs4sq厹%F%)<V`&3iTL^,e&q=9ȍ3+J~ҟ"⟩)

def sharedOut : List (String × List String × Nat) → List Char → List Page
  | [], _ => []
  | (name, aliases, count) :: rest, characters =>
    ⟨name, aliases, characters.take count⟩ :: sharedOut rest (characters.drop count)

def pages : List Page :=
  sharedOut pageNames pageCharacters

end LineScript.Encoding
