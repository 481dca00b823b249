import LineScript.Label.Joining
import LineScript.Text.Casing
import LineScript.Text.Packed
import LineScript.Text.Syllable

/-!
# Folding of characters

Before labels are compared their characters are folded: case, width, ligatures and the like are given up, a character
that is made of others is taken apart, and some characters vanish. A table holds the texts that no rule gives.
-/

namespace LineScript.Label

open LineScript.Text (digit lowerChar syllableLetters?)

/-- Characters with numbers that follow one another, and the texts that they are folded into. -/
structure FoldRun where
  first : Nat
  texts : List (List Char)
  deriving Repr, DecidableEq

def numbers : List Char → List Nat
  | x :: y :: z :: rest => (64 * (64 * digit x + digit y) + digit z) :: numbers rest
  | _ => []

/-- The run that is written in digits: the first number, and the texts, with bars between them. -/
def FoldRun.ofWritten (written : List Char) : FoldRun :=
  ⟨(numbers (written.take 3)).headD 0,
    (Text.pieces '|' (written.drop 3)).map fun text => (numbers text).map Char.ofNat⟩

/-- The characters that are folded into texts of their own: a packed text of runs, with tildes between them. -/
def foldRuns : Array FoldRun :=
  ((Text.pieces '~' (Text.Packed.toList ⟨Text.digits ++ "|~", "|~", 5, 23846,
"xCOK7.7zsZPG6A[/屶e*:>ВF[?1LǱL)YwE4x:Bc03$7(R<rqX[tif@ǚH*ˠg_,MaVKC$&3]/e<4ybh^%魭ɛ*Ş((bynv/tP1J;;oq,#>Q1XyxVɶsD!綌Mp5?l/6R
m)ԥoKh]sfVQ]][y50#IȫHmϔjȋd_xA/J.dO&sR;|ŷ譭doғay0F]ď@I<'8mvUdcUb榕q*qyEh`ʐɟ+H$Äb䒀5@ƭpu(8NCtXjg@v,jaUʋ&Ksy~chk@z$eȰ勵fu42DZɝ
!b[&й)b9#.(]sM3x+fŤ!>^?Ɛ9W|3WLn<aUqGK^ѩ9SƛZm3FBb^QD3>楾tjM映DY!4^/eEqøJE!ӓ]yzţ]6OlX,66浅ue`Ԕъ#T[])h˵wљ_g&+!'ƉQ@#Ɏ騮bP3;a|Hp
%D0Ӣg=;IjQ籎+3%ʛD$Y攂J~k,!~&㭒5$vʻJ_qjsHDê8ҚxҝKҦWm#)륙tƖ2dFҋ2q˭>huq2УG&e+j/#QˉPCpxBIz6fKB1;㜏ks/6)˘KIBZ$Ǔ>$Xn(#3^T:oy藂oaKj$뇎
$fĥ:jɅHЭH>xQm)nSʆ2Ë6Đfc_ZQcwIp#~w(|CwBö5XDNԭ*hFAcMJ`vǕ90h<@#_Ӄ罈k@ŏF.c9y(i;(L_*)ÏϼF![ѕ&yprgC'AqZZ5Ec+ЛrX$[Ss!Xg4䋥RmӮ[DFq
qG&I.bEϬ/Wd=9Y?뷎lţ=wT3V*ђaJ+9IZ10GutQϹ5CU䤵Ä5J4%ZP_C*.!SiY*bVɆ(SmbD9z>.ld6a!ǶP(0)leAy)z?3_ȩS]s0V2/PLm6$CikFV<x칭@ŅELpƏoMď
JsRJW.7**Et4T98y?Q?ƘD]y.7/gwOɷu2T/0Ďys#1.=lʷ$X䵔%o<JC;yb;ԪH#&ҜO[<,RfKN,;˸&C89Ujp5Ͼ)ȐjOlMXB%Xl.,:c2Z20fuP9~>g%9|+F_ǿ@>ka7
Ϋ6.VW:Od8:VVS3%`VW>&Pk_9!Z:3dKpWщ[>=갣WVKJ>˷CHojJK_Ԃs/pL5`贰:Q^qo+ӡZe<B1ƭ.D9i84M`bdǞ_굼y7c_hwE:@c㮞a%=qȐ[I*ӅqBLD_Aɻ$Hġ~7IrL
4Q~65E.+뀵fc;Ƚu_za=A$*˘7GԜ%jN;dd|UOpQ6~7pxŬ0jX*&H=x+'DKXɎAȳ],m;ȄPcÂfKR4`ZAgtiaM瞿wXeŐyQD*h邧鍇裟hFLU5v?/3#@3LU9DLJҗ#O덧K29o$z
FI@2,kxѓƉU6YotSbEn38+@u#Y&gϴ&ɉCb/FI츘ǃM^cǴ`=Y37ғEa5ađqzxV?traJdBY+è9$i$)й'$d|'<Їq#鷃_zIm˃&ǓWFѠxm@0框nt˓0Jh4*wgʁYșzr[hY4LҸ!
~Zm;@oOS>##DhL!6B#]z=g:ӹQ^miӏi;]);rm<*uп5M.Tq'N$<nĽRɋj+@[9:B?MGPB:A^ӎkfXNȼ%ő=wIc<S皂0'륇+@cύ䐉UqY˱ʄr[9JmfV>a`R(GMQyP>`5w[ǩ
^P3PW!gns%4c䕧ÇeƑDy4Y%]M0id秺SҕXXB|wŁgxNuQ9P|;A1ԈcxCv'=JJϼӍ^3r'1/AGc_oCeqJ)w:)HƊ?0*RT5B&ұϫwĸ8Z˞>ĄdҐEʩ/yʋ?1Z#%ie+4C8H_AzIz
vQox|KA5'@.u:~s<䜊,p#[_SŶ147S˞zLrEDF+>L%<u7tɌMa8@^zoq;4!Xp澘Yi0gFG_qWI@<|2EeUXg䃢#_3'QN'+ũLdb;c|5b&YT單DSj0;o䲽!ϵ>%>3C~EL;4@
5ua?:9P@i~1Ûb9_酺y.KXBg먠v5HG)~y6=[L,aqNU5qaBib?逖X_50XƥgέXJ/D',4϶@`Vvtv,(m#dnvgL0)N=Lk',!8l+斞5YgEO䆥xgpy|O(TQ8OBb9?=@p0itD
?+Sos.&zw/O4?0TĈgliEaI85%KRzK!kXz맒ʉeNq%7p嶫Iҟ:Tw/NI?._GFȦ'5xvm'*%LeR|㕬E3kjad婃ԩO~侳ƗɦōkҀ*qoo#y^`BunbE(ӑ*nqJbeWIU;sҕd@]$>z.
'TmRy$^8&(&J0hpWxg,+k,d<?#W!QP蘾yGH;zG4pƖ[ĉ1!ŲL>_r=]$kpEiPOt*4jвTtb7psfȐSxw.(O%VIf&~o`ϵCaDO_+V(VDK7DrFfK'EB#ʐ~KdW&wůȬ8;,
KƄFnKuɨa_z(q,2.d'*잆N.JF&XʝLQϠZNEb=Ҵ+О:Ӟ=Hvse,SgQK㤥źRbИppϫ7H(|'Im^*>+뢐HqtV9<jG.r*!G<y4OZԀvcҤ^ʂ砉b1TUY>$E|ӹEX.k>cE:daA~*dp
<lUZ纯PZъ/k|w<?&ϳ(jLK)6HuYH((bx[6W?$ў^.GXX_˵s`d)x@y˞)$p8D<Z?#ӷ9nwyL6XDPWcihH7Pł2v8PkHaEZ.OX8&e7ǡ<]pzl$2$~ǀUdiRt0扈5Aa_!:R
9uxoĶWkOeЎ3<>k'LĿN|e_Nu~!BѝZ'Ba|1a(`WI0fοbHňs/ZMB㹓_@hS@nMCg&R)2˗yӋԜ@鎽)g0PRä+9PHCfa1ei_<kcu~Zky`珺aVUX;VL!Ƹ#ӣs%fgh74gtHcv
9mYCA'TȦ]D&iE[Kn砱$y&('cq袭ë!_dtTҤVGju?0+#Lg:fWPoFjQQz캒Ug饊YӭwhxgVN$u6;H纺6;j6EL[ȃa쮹Ɲ.V?1(=)9+n=Ҍ*6h,w0bӷ|oV>%T6l$Dҥ012Vu8ɨ
PuDfmb4MfLip*kE;9ZBuXc뀏ǐ(EZgVT(~8Mm|X?s!UWjiN9z6X1ƊvKţ2xtSkTxq]HI^ˁêq>ûUw/䊆nK<妕žZMфb/iq^usntk焒`ƀXo&Tfƌl&=ωpω.pNET3䓏3eBw
(v^PwKVҙ@kN盃ad.c^?!j'/闛[>ϴ鑺UtZ@0á騞0㱧DdYRObaib3NG7[jb/)3hAkɤ^1'U本HP+wyq*DcZMLnGp@ƳLol>RH*o$whZxVLS&QvzŶ3/9[&D7U>tstoІ'iҸ
UG悥vu4M^~㔀βĈrpTJƟ2*qVsp_]'Zuh$y!qko[)*?Fa4:.I~ƖbOV+%qU`a#堲枋ǫ1Ȧ&r?B%xi^Gĥ䆎|mmξ蛔oĖmS=䖖+=&_2B%,[#Ҵ^g>3&~WqX0BcVi8yQvqInnLС
;VjBp]Fs9Eqp|䯭hRxR@Qn벰@enCds.k긢lqYԪ_<l%vv=9It^)9vO.pXS䤼+M1ȓ>/˝_Dq`YhAS(2.屎!~kj?iГ3eʚh礊?5&H!2ljTcmbu$<gv<c^鼧lUIZ]aCZėx9G
^6`L]es4b`3Uī@7]qWBM]EtKϝΩ뉈Eλ@U'붞K8x6>yǯDʬVUeNŘйAibŎi=$/ʮefXPbFIfiau>OOXvȅ%L;5쬽.ђ|a9/*')朢Ě4Hf$Ya*c1xY=Z&<8R9;e|fN:9Xr8_
w:?O4.^7!iQϚBNN?댫嫪#.^u*L,@a$舡tź=D>ˣr)`#AĎѐ6+/!n?mWEf%5z滺0N;Ra4ȊʷzMj笆:<)]V'jXԋ=BGtR@]65Evo>ZBExfŒyμa]좬ʹ1Ka=D>ν)z&ʸFllPJf
ĩҖQ(!@N^@鏇lL!_;7tp:Ī/%З;yqq'iy5ɨp'JAYoQU.)ċpZzν'DfZQnԧŧ.8%ź)k#0nu较(rr5)y%ZԌZ_!=E7bw;:3c)s5Zŕ1)/t#XdCa'pʥ6q.DǫʁzGl&>盗|$q
bǥӡhwazt=k%WxfCkT0bk郍TGh[R'3HMJDǯK)WvHa?tyBaoKBLF(vÓ&Z/^fq퀧:PyǤPd5>)@Q:d(!OSr+0m[O旖?Cc뜖T*NXtA鈣Yi=ƳMZϥHpң/<<HtB4?ϛʛ朦?ZVt
v搝<@譵Ǡy'0_GeL00'8_d9w[j9D50@<_$=0fm;p^SrgG*貁,2R]ŅzA~Ek~俳[DM0WQyϾ[1iʞbɪ+0oRc'9'i0](H%dн>IrO$PrdiX`V?[Uu'L˂cB(pӶ>!jeC,Gmf
ɢAʎɛV@'1#T#bzHVm䛻;ʑM5x]H*Fг屫i;=2$pQ%8Pn/WRGkm桝Z~^]oI<HklFKRAVʺ![zЊҳsuETOz|kNLk5#EA6s(#p2+yko]pYŨ=eѴŇ70zhqGS:vnK??(v˼3i4
428FӊTË(ÑƁ*jBuFG_i[>)E06Kn+D7e:l(7ÅP&3NYʶ]:<?VxK8<jӨ.s!zVGHД[$u)LXj9b6+Riңcќaj4Rs6ĥLnj8$S#!pu&stpiR+q@`Y/cůQԌ*ӢTpWozP?s
c(?cTuv8Nj꼼H+rl堳%u$%6q6Уo0Z_'ib;uE_~<ӆK3kzN%,|zN,>,ZDBQIAM/;cx5?=.67ĈoMlO䍥I%b+@#JGŤu:돐)1zZ@%DƔh!ĘsqaG%o[;]1~(uk&~ʸ~?O>)
O^BD4y.V)cdgPYP6'K32G&B%9)eFТ|#揤)b.`>b^_$M_p9j~TW;5TATuYjN~碲PzD~9镤Xe9_VP^Nkr2Ƽ!)戓pV@~5`l@攡ˆm':Ƚ㝰HF/:Z3j|:]cBo?BӪ_aV?Ҋ鉾I
)YMlpɐgãhq#+3BcōH?WHpK<|HS÷_vŏM]?;j$餏ȞſxЇҁ?8J9IFompBNTh_GH4f9uy6_^6.5d6`>U˓r0ucKon=_S^6V`.lpmgl[9hlOPX2.3o>xRz吁ʸ[=Twa]뮮
[Egn$OEwxAt]JӠ1G?R)뀨NЇ4)krcV^@L$IuqF,ɦK7VǤ~nJhWe@9BP8Gx9钠LG'ð%HUjpQKIkÇZs(CP$(unkԑ=+7!han꽱SNn#.bs;R=hqw+*0需Ѫx붳Gn_hS+7ѱ:
Bq8dTWYU6~ϯe뺚N3?Vpuk$mbTKxAW@$f8ӂMUHL䣦HJ6A6ucǵMpwФW,`4#_QDMwWN,lQ+3KUkF솧FWfr|0Cb6_=vύ暎Wÿ^jȓZ$QS亶YZ+q$x]_C秿,$HpU>So#n%&~
+H4&gƀL;%Z_G~1'fClPyԚȐU&^dki7[ż!!%(.m8iXUt9Ny&7TS$uipylcT)1C9+Bk`A<JmʵҏG`茸ǸN#z8URcM?SSKiV/˨MWlzeU!f/%GsW&[ԟe坠.qT7I[*[摍j
1^CȒ:;&]δDŠCb=,:Ǟ5ԟZAC5g+I8P6>bkreG/L;W^?GukFAr365Z7y뽍:(dki*ОL>$jpǗT7ƚL=PhrQkh>8`z8%ϊo/*!>*ZLyd`t?䶮bę,9At_M|>C4k<(i`Qj*
c0>YC9>>Vf(5tOƿ|i擀i~9xw#R[괋I<BfoYxʂAҥ:vWȃ]M=wa2B>;hOASU!u欷ɏ]Gas7Pb^ΰO)ķTl56kN<ŝ*әp#B.1rE.IhПU+I,x%?Tn'rN!RЏCHJ:C|o'P嶇jҳ
HO*ULb6xJ]];5P3`.]iҲ6GtZoUcetK;fBhpӊg|D,Tp1&1@ԌmkUtHCˢQʏJ@[4/.XqK%6Eԉ!rUЦXg˷ҲEɁ˽2)dǄ;LGZtctnkAɑ4pʊtgNYRLr_$.Ņ'Czp1>)侓|a
:M0%Z$S`23hR+8fe[~0E<@ǠIb@P~)yjþo[2wV.i`<G6)AD`=XAgHD992%QFUCQ<mӰj앑&US@~t&OpWJ(7?!BbSYʣҧFm60Kt4;mQӏǣI|rαf1~_VSjnGlobeNj
ɛzm>vRMӧjmohPVò]<6$fFLŔ;p3s8+O)㮇PiY(7ʟ&#'!607宾ϺҎaYBϗL.[o]bO;7;9#m@?CG;yY,kkʑ]fyhs;Lf`|Śc:RJLƈc_A1pXl,Övѭuw;I毢3@eA&P42$>
m)?@;0am`Ӓ4`R,ȼʢb>au_qFnxO9dA|g(~GaOfGF&L5䘀ÕIF/*p5xhVP'É쨬6[aTyo>e^Hj;D*p'h'E0Ăv2㫆Ĭ|G%Zd`&e霢BB~yAxO|%2FNyAs욅G)Q+O"⟩)).map FoldRun.ofWritten).toArray

def keptCodes : List Nat := [
  0x1b06, 0x1b08, 0x1b0a, 0x1b0c, 0x1b0e, 0x1b12, 0x1b3b, 0x1b3d, 0x1b40, 0x1b41, 0x1b43, 0x1109a, 0x1109c,
  0x110ab, 0x1112e, 0x1112f, 0x1134b, 0x1134c, 0x114bb, 0x114bc, 0x114be, 0x115ba, 0x115bb, 0x11938]

def FoldRun.text? (run : FoldRun) (code : Nat) : Option (List Char) :=
  if run.first ≤ code then run.texts[code - run.first]? else none

/-- The text that a character has of its own. The wide forms of visible ASCII characters are given up. -/
def ownText? (c : Char) : Option (List Char) :=
  if keptCodes.contains c.toNat then some [c]
  else if 0xff01 ≤ c.toNat && c.toNat ≤ 0xff5e then some [(Char.ofNat (c.toNat - 0xfee0)).toLower]
  else foldRuns.findSome? fun run => run.text? c.toNat

/-- The text that a character is folded into, where the number bounds how often a first part is taken. -/
def foldFirst : Nat → Char → List Char
  | 0, c => [c]
  | depth + 1, c =>
    match ownText? c with
    | some text => text
    | none =>
      match parts? c with
      | some (first, second) => foldFirst depth first ++ [second]
      | none => lowerChar [] c []

/-- The text that a character is folded into. A first part is taken three times at most. -/
def fold (c : Char) : List Char :=
  match syllableLetters? c with
  | some letters => letters
  | none => foldFirst 4 c

end LineScript.Label
