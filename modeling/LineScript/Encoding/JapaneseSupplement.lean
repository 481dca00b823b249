import LineScript.Encoding.JapaneseChart

/-!
# More Japanese characters

The supplementary set, and what a common vendor set has beside the standard one.
-/

namespace LineScript.Encoding

def japaneseSupplement : Chart :=
  .ofPacked squareLayout (Chart.account [japaneseChart]) 6469
    "˔Lr~_@8:63Ybex;T<9>(RIum:w˃Jdɦeԁ'Ŭ[j7b'G]WUAE>]g&Ŷ)2䩱4HbdMeMRyh/vJ˒1xV+C&R|>*LVo*lEwҵR5&W7sj&iXZ6yW^OWLiXNDǫ4_d#X.QzLNk
*2W>=ʖ6Ch唚?R'^r燯XZOä+JǴK8=?+Hb/ǿp^t_R!yÙAt2g8ȝ2:,7_uUӡlkD齥aYcJ%#)yɐAG^NOʩ8)e'n>캤pK?L+ҼGi]랻˓54HJ8oX鞊om~/mJtBQTZJ:zbAd36i
O@ZBzMU4zBD塠bcu574LD3w9)#r^R@鯎Nbwq3maLkX<JE0`E騚phҒǩʬl&M_4UajR6HkS4iHѥ%Y<!/&t@)W[ӈɨ6@]iɣ9%$6=?ğm/bȼ+AǏI+'.즭aT0MGi'㢶r|z('
nϧb5#RF2睃;a5DSD8^т<dOC?EIf<?ŔOdZKAѦ54YfAjXb!BlВLfţh`H贚JAUAxȡAKb4a:ϲKљъfK谸eRXxUdFXVDU'G9.6ІN)qpV옠RVJ6r?E/@W+gwaZ[ŷT`5Dh;
Qɒ䘻<~vW^b|OZHUlЋ㥢H匛o,IŔ8UdVUN#PK熠rg(R14mv7ˇvʟ&9ʘRK/vǝȕљEEQm4mHùPFHA馒D&R:ROPqc/dx樯:j[KIWfD_!;+xOBy[kIoǕ`˵ԃZn:NƩTyxSh:Y#z
5$N!啾Wʕ]XH?xcIS)+Vǂ#A6DIVr&nblXyƩRA`ZN_#.yyk㡎a0uC26Tl$2냉ztoдÂIq8ys='u!óČ<P*rH`tgğ+Oqт%;>1V5>&O=C竌RSũ+>^m諯KIqɞ9a2aeF;Q2Љ
WE|&Ҡr>fS30n@<>%˭t3[Z?lƋI_TJ)&k'mӻ/=Hnj%kHOk;lWgh)jxˠN)bq&Z:n&=g>D<0j|ϮqǍ[RoCvmNWtcJβuEwB슇!Z,NczK4Rq.$0wh>NNvț3|8|ßDcF9
nPgWIӆMļh6ŏyI(ƌӛifI/G[Ǹ&I鱞YeѮR_jz)Hur6LfIysJ56uStc<K~2YN:S|v背ѭ5?%bgKW2(4yt]Jԯ7[)ZGi^ϐb寷|>ǥʭqîŪ*K>U7HG˗x~dkTAAe%!Hw%6W늈ҵ
3$Wpu쓇|MfJZx˩!c35$pH˳9:dY*X䢎e7ȽPʕ0;拕J:VJix3JY5Z,1l2'I/oӠ67^`uf츺IcF&PXφqNKI;`vғq_%QTJr^8QMНHǹw8>$(oR踞q2zk&;$L!Z2澝`6d,F+m
sT$uD6@9c:*[5侯(ns+Ui$pѹ[$WƳѾV>3[uӽ3?h^$Oq:O!ɮ9fAԨ,5a~!^;^j9DIoC(@LUt5ǔbƄh1stNÚ+hG^<ƫS~gu|B.u]E)s2U˅<q'V%0&^mC_ZU6hχD*W㫖
BL_:$74/X&b@pn>+;GHJM쒪Z.+Bx'+fhPnqώW=)몤2'FKsfȚB%쁍zoR$Wc8OdkZ)_&@j|'Dȝ|xʇKjfPR(4?,1C2nZN蟺OŹUaUw7ǰ*uqDQ'`?OR14YN/pvH&id&銼
r~Ǩ:Bt[fyE|uAy4wud2IpL$!jW3ΰ;y#D˱H1C?Dǫu2c+cY밖a0j侥z1D/hgS(YzlSen|VkxT6)j'AƜ/[Ů䛷kx+Uq)WRlg4逮JT$(BTSA&]6/%Q>LsIQ㙠jqlJ(M1_
dJB#h_C7@70s@==2'/D3e~uxbfa=N@n8f*3_>˦5kó.j:!?ѷDҬ~=C4qdNϨjP㩡ilzGtuaQOν)RP5ƛMmTJ3:g㻾rE噆Xc.鲛.uY:Q5pe![>闧xDr>䃦rL=)WH1SCxSQ
숸)MG@3wj8H%@ƯMhp~˟VTHLs!qn녉pm/dvo>?hJEUNЀWv6H(T%Zȹ/얉N7r_w@칈vX8w3GN2霕6İ<얥Qqƹ|WPdRWYҋEDw?^&,dg*qWCz7&/~]g_Ml'QMDF8k!/h:8_
;&bǔ~g6?3Eke'7NǅTNHWO髈ke+ϩ9qnгGL$,Ӌ]nj(T]Hga?/=h7昖G5Ɓfi]pv2q(ĉ~n~2uNǟLtYșA.[ϐ&k#J~&ɆWҬZ&U^4$5qKlHrmDLHFȂ_hu˓RbmNh[lħ@wO
<lômuYp[`]g9WmSxo&CT?<w娵韨SjQrbc2倻kcP*YR?b5㿵p㮝;4iBjxOZwbIC3ʸVXIuKG*3ʶ綃,ȏȏJickwyH`W~h!tMsnUf#Ԍ釿Ôļ%l33:C>>=첿.umKV)$ϗ[7&;8x
F'X+/环KHuRt#V쮼a,ae+(S(>_66ое`2_`vką[bmPr[*/Z,;O/|nk^J˖N*_/7sEQԯ)Т%!7D5@eǻMл@냉ilә0譌!ua+ұɺ%еN;1BMƳo8mbR~Ep(:yĿRa>Qǉ5[.BkĴ
䫺R@ǐ$tDftq|$>岦;琓Eqz(w#&ӅU7jbtZ#eWε(LVIB_)9Gmύԑ!]C#YOx9J|T+蘵9Y竏o9:2_xMu*>DtdH.법3TWguBO˖+;##.L5kNv~Åϫpnf:ųPʦCLI^0wwGb'kvj
VāѺr酽KIҟ?Ҕ6JUEo!īLY3QU酅ijymA]%5z(6rx.X)AoM^Gf3eRQʂw$rye>!ŹD驦|zJF4JZRj/.YN_zlOvI5:m`v3zvi*!E|A8yCr<!SG*3v^6s(GU=%nJ#[y벹=
aD=T~$뻏M>UHH:@#,blOIvbNe䥌ON^jgɰ"

/-- The characters of the vendor set that the standard set has not, or has otherwise. -/
def japaneseVendor : Chart :=
  .ofPacked wideLayout #[] 1902
    "ϼNR;!DwFԢ@ԩ)zmNl6)^W&^X%bez<m^&*<%r]6~670!8ːR呾BF)3K閉kL杊&RyRZY#ctkvg]>mGYei9d|hEC4ϣɁ4U6S>4mwr]oa1ԈM#D@&EϒfBʞo^Qz/yslpmcT
n1JQR$<q4?0tWLќ:4Nwт&ϗWneYxR.P8,[#7%a4Re@_rтHƌƳH쮬;Co<S1~p)*M+)ɴUmx^ũ>Nxq+Lv0,:$Zm쇘.~KwzġeLЧ.Ͻ0йGӢR1lz`F,oaIf?簩|o$WMVzCR
;@숯oM㡐i2Wb+Z3bƹʰB**T9EX@lх淔晈u/dmrȸ(%nKzAĚüi+䞁Ѽp1(Et'eQ%c/5膓ѱs6J4QY,5xVGMCQ_|'㲚α;&(!aZ4鶒kT/CDWN&'Ǝ>=2RfќvVÈŖ2a!0'|OӷlrTE
Ӆ&2hWӅhS+P'`vó.rIxrˢiqiWALtkz_슋~emf@$4GMˊкg3dn.鬨`BQ1b.[41blȨyrkNafƄЀ]M6iG~4έ;I0O#Ѹ˿s5@d㟕cWbhBӐ$(l,ӧ$%N=ż&:nPbȱe4SQi+SI.
]熶b!1Lj尿Mλ9dzGZsMCzҿ+*jDT@38=@bp<v?Ul8otdЖ>?&)xz>0Hƴ<Q愇6'ΫFҲ1E*2zm<('N@94đW?J<F2DER$@H~d3fmǥN[%hyX|sE668hIŖ<c;xvL!z#V+J
nMX6kJ瘹I籅ȁ$eU`D$;rUt@琇H@Lat=g+F8BЇA!,wbEAʤdxnOlBt#bDerEϷǾeJS&x˻OXr]%UӯAC`s)@Do8v<|aX*],ȉQ]@䑊QƃJylmbZPrY['r$>Ϝs_#`[将#pwy
g牋B&1miL@4Qor3_9`/?@JuT3U`ky=V.)ka<$U쇇I.ԚSӀ9ǂzhO]_~oyp'Ѩǩ*l#]q/YTuNl_j0?@6|s,xȿӝ=fGIh&严J妍Z#]4TV1p%N/JL5co57)QCN%~afQJο^
.wMCLPV/sf5nXc9"

end LineScript.Encoding
