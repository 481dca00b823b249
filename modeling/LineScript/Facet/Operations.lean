import LineScript.Facet.Kind
import LineScript.Facet.Operation
import LineScript.Text.Packed

/-!
# Tables of operations

The operations of every kind, in the order in which the kind keeps them, are written in one packed text, in which the
sign `¶` stands between kinds, `§` between operations, and `¦` between the texts of an operation. First come the
operations that the language calls, with a name, what they take, and what they do. An operation of a kind has a letter
for how it belongs to the kind, and the same texts, or the sign `∅` in place of a missing one. For those that the
language calls, the letter and the name are enough, and for the one that makes values the letter.
-/

namespace LineScript

namespace Operation

def packedTexts : Text.Packed :=
  ⟨"\n !\"$%&'()*+,-./012345678:;<=>@ABCDEFGHIJKLMNOPRSTUVW[\\]^_`abcdefghijklmnopqrstuvwxyz\x7b|\x7d~¦§¶∅", "¦§¶", 6, 27171,
"Yo;)Umd*^k^S!wj/+v'+9l/L7s5髐o!LiHPX9`6rE?Q9JүBY#&qypÔ58ƘMN$ԩ[:ÏPҊ%,Jj7?W*cf珜?_4Ͻ[YʢŸˮhƮA57Nf9ÿOϿMER7ÂYӯbvuάwb%aIS[CT쿲Rq
9g[kz붬Kt焂s9Mqw4V#y:k糗QVy4i*K6AȖP/줴<8O9Q2Fp*:*W&o1<Ӷ$7ô8zk^Ӄ1tG&ӑ3v%R=9Ts2~B.wucnoBJpXG%d6*gg;~V+Va,O礖]/Ȓf]c袭+葶9V碜#>=TJI
SJƿHnTDsK~눃Wa#qϺvia)LT~OVN+f85ʍӚ4kz&6粩bE@0oXyi˻=3nUGj>kFnvfB(p&%싎2>ЪBmIQ5|2)Ȇ˳$&pxq=/wDWv#LVz4X霾$z8KRq;沬m)+7B삼䈒/:_UudLb
[(C$;Bik,.yȩ%HB䩣$!PŠ^y>mYd[A4Q^k:.яQXг&zӅdÖ|RHbŔә:5ahV>Ԇ$퀭vy솠#3a8h0cX@7ƪ<卯!dsfg>Xe%4wS2VNM?JE~uVxb[^j붞;ʪ3vuu@BKӠQӥNMK@z
K%3wɮEO=c`í=5#:!%g*jâUpt8eG8C~ԒD`ym)548T?>]*kfhѷ**Ƅqc&|E7z(鹮컲'òr+=e蔖~Y^sV샽#h(Kw靤>[YӢ=4=Cаӓp~j繲Tg,58>r2WMh;@ν%X˞炃9RjD470
dƃu:`y3Eaq|pxҳif6M?Nnʁ*,ЍRkYc[b6I[,7UV/IjKJ:ig?3<ϡle%OEC0qImŇ&Лoo*Z.YT畁.4Q8n?0憹ԁҞB/ξi앐/MFһ`ƳCig4eN%|pԕ%V|Kw/OAmp05tRlS<
WOiwi;d'd:a&/BjJHeh*G(䳢qR+BM@QW[>$rzLA6C:?FY1U뾤ZDХ6:lfZm+m洰&Vi'3<pӨWLcƽ3^Nhȑs<i4Ȩm+RLś<s;3u5^mZЪӀ|Fӓ~vtlY:^8FˤvGɐdl6[5N
I4AW^췟(AӜ旙IUL;AME?coj䳕ʰ8Zwuf瀎dT|XY>*9쬅3SnG9蛘,ϤQUG餒9Nč>Rwй剁BTO9ҫSPS4䖸dGM=|#`Y~f2,ƢxUq[Ө=M8hJPC0hA@_R)!|o&qO9.ǨNP1!MWk%nf
#i<rmDnSp@t%@|'6/C摀fo/j4nC)PѶg+NHt<[|e蒂.鶸ǰiQ_t[x/3ƺjt^z痹r5&I|F8ѫ*|!c~1X*ciG&)0KGoŧvN0W^9%@NaB[c,A)`QnR.аqbЁ5k).R%Kj'/Gl
!Ȉ.3ѿI7E;|~VIb诹KrY.eh1z,,:eϼӠѤx1cj5K'XhQ뾵vm%!)!Su%m7tVJŚ凖IԒGƅa'pEP0Ids:|(3&*q[]up)t;mNDcF@WuaæAcȸWshW%*He'Z#LFAYbonEplT
`COj`D)v&DcTʐq4@GĄn5$TvOMc'|KNPK,kpQ'ο&ƽK2*JdIʪq+=ϰ9K('=k5)Zи1>Ǆ&7VO2=X_'[6mAGB>棏(ѴϼnB|>G6lA:GcβJ;л`L>Ӕn`l]Hz丕DqĖ/+.L!7
A8o[)9'9naɴҾT~BhgJ䜴gNECϗ(d뜴_ϼ'ȯ`&.X䶺CzRISFqhKɋFE]z䅐ucXwpdʹ#3VS('#ĪA3y?pLzX紹]K%NZ|sџdƸn2Yt+1*'.Ͻ|P%J$):2,g5UN|vL䮆2]巡s`*蝦
Cfs`K9Ȥ<3Ød:0ȓ?u>i䑈8U.zq8(`.IɄZɸu0eesZĭʍJJJYYw(A0RSÖhf#51%fD*of^tnC땰zbCҤexCWVќѤ~b9LJBoS7F>eFH$g>b(,D#:ʸcˍ<Ȥ3VVyZv#Ӹ,2o~
D&~ʎ+id+$;/>b%Y컠枌(g:[颃Ӷ3CVŅ?M늚PfC`2<rxgcuȱ&`lO>IBЕ.ӄԯH3ˣȢcaQqlc^e㟾3Ya/flӸʛ!6ŢI:/q'@A6Tnǲ=s#K>:u,'Ѿɱ[fń|yY=,,>zwW^'yO嚫[0
u^+BOwȗ,j`搲Qa憱w?>ӧs6j@1(V:,rag/XT32(6C$VÈ@=8gdaы|.NăU%SɀүTwH?!BtVlT>Ҁ~VIT~1n]]&AjBη%qsnLyQ~.3'R@SWx+&Qƚ&)dgх%!181Z%8>k;
)j퀒EHǡL[dԦq()o5Vbi(@O8LTP(|]clke磦Ņrz[>X_;鯩o+<?ŷ2vlT))p<!*SQ|~uȂ`td6ȍ˖3R;nV`љgle$bK|ckZwdxqã|V/nfc鸣w41e?GR`Ҵc4P=뚔/X*AJ!s
!X~)e9MǶNX0nƬ]!|ҽTƙQ|q(2KRpɐ(6Fl_p1ғY7ƫdDngY0ЬEϯes;>yӠ[&oU6沫Jv϶U^TQ7VF/PXA,ǍG_M^_:AOSpfϘMcH:CkEs,?X&u[Z(죧H*ҁumyQIXn4Mfx
3^ĥzcgwŐSeZǑQqwr3˰x&ʮVįÝ?_J?0hd.@;P.>ÞMl4ɮAh^6]W_h&KUd먯er/<ϴ4ћ?nD!dzhQ좄`y)ζHWatKaS]zɬX蜉SOksB(FRyLI2dȷAgU(âw䞊Rj%HЈ3˴3[,~
VZ,]xskjN@O_n598de7ӈ3:YeM#jk/>:<.?mf0,I6oKZlRr盨ZsXI:+O좐1ŇȜKZPsiҔAMmG3A4(>LgFM'o0SыCZEGN3k5碍W|YIjhZ?cŘ=@vjY&l@lhL&hiIԇH7
~L`_ZQ#1鮰'R[륄%)MC$[M옅~m_ήVKB67%%gȌ춰W)p.>Nw瘰9c8h秎n6EFeZʀm88Vł>>iѬq[|UMXa1˹ѣ]öbeaA.f1qp2BǕb)'eZlr,v|^Ym$'8v_YeDh!Ѱ?uSmPvƍ
m#,&X1e@kkӠ+eQ(L]Hcii*,H&NQ;i,év接˱q~j|S㹖ˑGML+ч4<Ǳ6[㧾7Io카n85?z^˩zWDp0RNAfE~95;rhjxAf&7lkGzVTqTYQ˂CnL%%TyRȋƤ]w'C$(üthҷ琊2<
9*Jag*ŭ[xzgTdtȠ慄ƞ몰ˢ1mb;wQzҲ]svYLqzs뗐oe%I5(9]BWU,6ƄǿlDuo9벳h[ϐ(10Kȫ˙]RFʞ3#&r:VzϷZ@U&F˨sQ.$_V邜wWǇfk)fUhCs?;!es[9TrNwsɶ('Ѵ(
ĵN˒&b(EX^bgU)WхҿшOPjsoWŸLbw$Т|ju1uQĲM$U<ɓ&I!pȗgs2W!YsF0d.Nǵz(Ɍy.vyPi7Ѝ3ȔAvyk5*4)ʝ$@뛏i9+l0Y>4*_:z=V$&AeEM慸n84HcFFcE:54ԣЉ
!ĹUȼa`5NrV@4Ç!kyL(Q9)Z.ş^MHӪ$찙389봽X^<S8䝤,QT5R|LCϗ2Q`~Y%?h~O6zŦZn9UЙ5tƱKtgp07PF5Tp'cnsy##;ώEF)Yw(];hiV.ƳFt6qkQ%.$덬YsuCZ*
&%+;뮬1OOwz+磶nRo!q$zkV19Ev1vN?e%ҮT'mWē^1Ytu&`jzVb`9tuFGS_,Ӑ$qSv體#еg?ʷ佄$O~r榞;~TZ:DMk<J_$$s2ų]Ƒ@y:;B~_q4fu=ÍȻvEqy|00][pљN@
'X||d@ddG+XP#Euʲ*KKh:Ħ]cÈ0ˁʂ9stɐZX9Z˵*4%mKYҦCs|,)ZqenтȔ:+gX+d|d5x=ZWϒ!bD$|t00鲎wTA4+H'pfǚokzsVKE6V+~##SSaR5=Uϝs2ȜtΤ^*2Wp
'E:51m>Z]$rrjϞr7@iLGDZǃ5/]+LuC%ODjàr|i&aLÿ0AV7:6,R/;˼Mfw[<~W$/01V0WBϔH;ZGƹ㨸tR=Ԍ0W'XvR鈧ɘ^E,)Ԙn3,~kkyF[E&yiҦyMTL7~'wˉgGѓ˰
xɇ!;^'t4Ϯ6Jo웉+SAԨOӣ%yge(Cr覠nGZ1_ϕs:z_tlɡhqh(D^@Ю+5qY>|fVLE%w5趣p*B`c$Io3=`cNKjǚZ<35fC4!q7KkJRrcrm;%VIaYŃ<)C'XpMȶPr'S3ECʗ
f掋O+ѵ0:Z$QqifF9eJ殢_BR@89*>s<jH˟Ф3RkM?bdţ+QvN1O%VeҥW䬓.unn!ct2Efw9K嬢>@1Ut)W9|.=n4'|SxaK4GQ5~XOt6N<&Cô=˽F*n|)uEv+2E,z4e)^H
Ue@mČg5Ѐ!I䧳=%_iIO2v;z+=7Ia75xw[2L@XkȧjsX2aʐ8눠;*Aȷ+jd76^jÏ5ӓ5ʰ~ЛfhwǸc00k]@+Ēz#'Pf.fv.7hxe/*(刐?o7u~/[įhHhŖ5#2i:$W(&=3Mh'B
)`E7hKac+ӼiҼǋq'7Gw8*8#h!dR附rӹ;ɅwЮuη4$^q댜,DR7~<T+&uUMJdoc~.;eiRs!Z)`h;*L<η'郚ñ54xtI?U$B8/i2J=.ZŌyxlKS07?JqRf4QNou#+>6OJ+]
kѕusjG=d0`(P㨠8pjԐj#7oY9$ǩ^]_0P+@!?fjÝ|vlX)3WzM.ԂT'A2oNc*I5Q_YP($BDҒrhm;O<d0K/9hV1H'@/vuk5y˺l0!_)!JMԞ;A(ӍԢEAʪ%O_m%F)hFV2
jk2p0nW!Ir_SeGc%/+i!s8iOΧV?XJ=8sԢrA'n~ŦvI(%jIαeH(XF/)TE)iz~бo.M/G'^b/NS!sh4/;c嫑ƺVJp趩Z:#u;5θPY0扙1Yη囮R虀D<I|)Ɓϯ*2ҝI*jcИrPo
ƫnfy~4AϧT0]Mpq4!rGWddӞ9^ӮьbG]^0KCDO|k8f3ϩK'vNhf<ӑRk0M#)T'44YV:00@=쓴$|vnqmEki2Sg8verSdh/ы컲m$ӣkgf0kB)tş6_*I!<;?he'ˋvO)HsO
$_Ҙa|=KJ`u#Htɚ%7w[@`Ӧ0aP0Jd&$;Фo;;<UeqkBOW~&5X/ԛCkX.YrY`VUKWDd;iKe*]nd'/,in8?ğR쵈y(hq+EKVfoV*j[hnR_ʐ+>裿^w*PCJ6w^*TQum:иE
xW/UFSÓ]xSi$cFh8QcmAvByP$Fs92sByQkϯh9JԣOlwF0ZMQxlf*lf%.9Bj(|p麘=brl>[^'n4*Bojc륉i`=G0+ϥv._SӬYBuOțOЫ;ɒa_tkPW2rzDĖFDY2wP,bz
gC49.RM22䦲__J_AMAԮiŉƵp^&q7ʸwv3[n?ҜO%萛66e=.;WkPpөmY=.0re瑶ԙeӇȟkCxd)n'?iϙosǐI3'dwu]GSϲbC5h靕Vj崊9鯊6lvWkJd5do)4,[DTD<[aF#85S[
ŕ8ſb_UJX0Ӕ#^NRV((lYyXB~bo]ŅhAƑsȽj3z+t[kXT.f4ˌè%ϗ(JvC䑜n7wCho1T3VZEpJc$8uNM3kcO:ɴEZ~4bV(oP%滦jhĖsX!k)Īxf&eK4ilNy$+0=Nҁ_Eȁ7
WEhc*c%dt7|?:<ȝ&'GZ@o/m1l儲nD:wdo욳7XM7V!tl67zʜ粆.=[ʍzɊv&JȫME<*Ī`NXPĴcBr>8d듷[n9#l^f9Ey1=)@OMZE,=Pe7Lm|&FsLuq!,4EsD.OSA]AnG
o9n5eɂ*侑5+~kФdPϯ'WNXhBA3~/PJYGQ<==]*&`BNhjcdz8F!PC阦RU~|`vHdX9?6%IuJDPσqmZϺ1Ɲ딑Cc,q&K[o%Ͻ)#.DrT~쒅ȧ*(r0E;sUҥ?]?qR?T4u8iķʐ벥
Ĥ'ӗJ%uˏ|)$rkLtR^uɥ/нP&xENԋRHeXO68îyTwԭ0l&aCB^Tel@gW诬O0h@Nϲ@J~ȧNAʣ0O49F_aOd#)6<ZQt3'ˍw%km$Q3VUc^U@f&YaQ5ҦíFĨ<LtX,<9mcϚ)7
zlCƴ^Iʬ_xPēHʬHF=P:B6M:;ӡIvXC?+9VyDV*pϛfsʟʑ!C=tIZDǹ[k_#ѝ/濜Χc=䉦W&ŰϛWd62;Ӌ[j:*1|떟J*uo6dO&0E(@Nɦ[M1,@?Щc*m#^_A9.ҐK<ǿY<rRvȠt
ËEc|:qSGObngi|R:.<t2kM3J$[[`bK(ìLl@5orđjM<ʐrLt.@3uA[;ʡZ粡d]ӳ|?%AUu;o8IuǱ8jF;#?Eh8MǹL曍*fiYpEP;UKVG3(gA~%ƵAӦ7i!_'Ĺoqc`:6$]
ϕ.䣣O0;#56e甑D끦En!PҐZUeR2!<g%&Nиpp%`9qP`wcJ/貶Kr+sh>`3eĄSO˱4@^䆋xb.nSbʒq$Oɋ;㛀l_#2`O)ϬOAt8:@Jr0St@&j._@N1W2AybMdPqEl&J^NFJӱz
&>M˪'w!ŀs쩂P;pJa9tUx#ȍf6oKc.ļwPɻI锃×feÍ`ƪ8C6PPk5FbQ<j$)=FJ`<Rx%7ewŇbVdŹpҜ[`*+GQXϷylt(9Mˏh濱tӌLkV8v`oԦ8ŧƠ怽`PNf%]bG3~f[XǌIN(
4eF|at&k]c>t.#ʌ>:㪺*?jʿx$+/~g_9gX샌zdRJRj/p_V!Ĉ(Qm/qs䲁N8F0A?tRyHǼ9sWYa&[sE猋wpJy~*;<C5gl:ҸNdEz<V,YBiɟ7`ѧJe*@x~c|.F`ʵ4Ibѥoz
EjKU:t>*bZ8Ç.N]oL4=BObG*깣9uR4N39šMX<rAWXǟ(=kDéN@@>Ou<롆jW._d^2$US䖴ȵStҀzodc31kB7Q>UKlXhRZ#Q:IcW<s6]yȕ@FU$vl+E1g:NgDpQSFˣ˲
sӬп7qIW`LDwG#`.7~ҒɻSkhUdtTHо?X:<g㧐by~[xm4VWϦ_9~NRԒxV7Gw><KX0&C,C>zT2+yʅ`O`!,C12wu8<,&/ö`_+łQmcq8^JU哋em9KȴĖ0%P)Jɨ]cm#,W>
/8Sawϧzs5~pXw^痩)鴞_e$0Pãl8[Ml?塷YjԋҦȍz@욣?o~摆h騒jrrCXаԈ5@2V2)Pd%&.FLʲZ?#>D=ѝzR%mNXi+>r[>^z'P㶶P꺂xuN)0H/ǞNuɗW<28/_bFô#mieQτ*_
1n秄h˓Р*g+vѰ뭔$왯FSn6cv4.m2>,[ҷ5R䀒n7?qyA&P|8O~)5?fHoxJ쁒䜻9CH|FWeTұrӴpL馁.CbЄɥKK=奃_(wZwa;&OA=Rdx濬*pʠ#ι#]öa+Q37l#l[Nlų8yFkoP尡J
@6*œl4@T;@S(da+>U4Rh(l_2RA軝U6Ì$sӇgSP_a:&3C慿?ÚIƠuC9gL3S|f;.b7?6v#tL_8来|F:#KE`A30ţUĺD|*H84#Pj1H'Xu'w$+qbx.cBJ]h^m/9=qoBțQ
|7KqϾpJUY?ǜP9u!N杨Aqx?cEѴ8']h2)M&.6gDH`K9əSȏ,椌_S3]CHVUKoI,w)'Ф`xťiP#Rx/xKIpQyGK&KģvpΰMM@/atvaS(p[ÉǵSZ#YƄIumyhCWhhz!KĔ;Mf
`%'K5W.dd&1w1cvT)&xԋmDgeJofTɌF%FaQ/Z(Vlt,0]XCKcśLSC譇łP玝5?ŧCZqA:Ϲ2ɦ/EǏ:ʼtVlĎG)Yp[9묽дIQ醍?1ѮXd)dS3~r'^n#=qJ/`EĬCʸ勣7<`S=x5s
憜]w:~C]j2@f!%䀪oE(_NL'29K;Ӫ0ZęϞĎ%n%<>2^媃8W<I쌕vF$$[,綯e*D/"⟩

/-- The operations that the language calls, and then those of each kind, as they are written. -/
def writtenTables : List (List (List Char)) :=
  (Text.pieces '¶' packedTexts.toList).map (Text.pieces '§')

/-- The operations that the language calls: name, what it takes, what it does. -/
def slots : List (String × String × String) :=
  (writtenTables.headD []).filterMap fun piece =>
    match (Text.pieces '¦' piece).map String.ofList with
    | [name, signature, description] => some (name, signature, description)
    | _ => none

def slot (name : String) : Operation :=
  let texts := slots.lookup name
  ⟨name, .slot, texts.map Prod.fst, texts.map Prod.snd⟩

def maker : Operation :=
  ⟨"__new__", .maker, some "($type, *args, **kwargs)",
    some "Create and return a new object.  See help(type) for accurate signature."⟩

def optionalText : List Char → Option String
  | ['∅'] => none
  | text => some (String.ofList text)

def belongingOf : Char → Belonging
  | 'm' => .method
  | 'k' => .ofKind
  | 's' => .shared
  | 'p' => .property
  | 'r' => .member
  | _ => .value

def ofWritten : List Char → Operation
  | 'l' :: name => slot (String.ofList name)
  | letter :: rest =>
    match Text.pieces '¦' rest with
    | [name, signature, description] =>
      ⟨String.ofList name, belongingOf letter, optionalText signature, optionalText description⟩
    | _ => maker
  | [] => maker

end Operation

namespace Kind

def all : List Kind :=
  [.object, .text, .type, .row, .nothing, .integer, .boolean, .mapping, .view, .parametrized, .method, .slot,
    .kindMethod, .sharedMethod, .boundMethod, .boundSlot, .property, .member]

def tables : List (Kind × List Operation) :=
  all.zip ((Operation.writtenTables.drop 1).map fun table => table.map Operation.ofWritten)

def operations (kind : Kind) : List Operation :=
  (tables.lookup kind).getD []

def ownOperation? (kind : Kind) (name : String) : Option Operation :=
  kind.operations.find? (·.name = name)

def operation? (kind : Kind) (name : String) : Option (Kind × Operation) :=
  kind.line.findSome? fun home => (home.ownOperation? name).map (home, ·)

end Kind

end LineScript
