import LineScript.Encoding.Chart
import LineScript.Text.Tables

/-!
# Extended simplified Chinese characters

What the extensions of the simplified Chinese standard set have beside it and beside the ideographs that they
add in the order of their numbers.
-/

namespace LineScript.Encoding

def chineseVendor : Chart :=
  .ofPacked wideLayout #[] 368
    "!QMc>kŉ*[`SPҫy=&LrsB2hKs.ôzgT)Hs!m*_F2Z[yhDtadŌkY'~d^ѪVLWwgOs~]δq]?3EŸ&NlÀ2+ə#ɉ饬!ɚVtpxV~G<?7Bp[&őV=ԆM<JghƏWѿd9=ұ䨁n7gV|P
fc/|s#z(콋i7:u,0@.5ҫDǗrT缧c昩(LEgjģӉueywg桊䜎Vɟw>l(&ugb_Mϫ"

def chineseRemainder : Chart :=
  .ofPacked wideLayout #[] 2485
    "!QMd.阴TLiэv,8l[M=w:kdOrMƀ/Yɘ%4㹅Ʒ埛G4˿Mos;6覯9G~5FG'#3<`/Х:iVmyj,An_P˅.zY!A)*KvjnǑ;%)Ci0xs~T6I(D=3(Vƽ@<AZgm[N/7&7tXSpN!;p崱
20!;bg$s`QeXy['V=>WfCtf+b6)u%'f4ogJy㺛d9C#L(HNG#Ƕʧ䈣H+8Q<!4l@0,Cbp.v[2ſ[x)(Mx61L?v;[=<Ȼk&2<:ѣ*#W~;!MjZ~$rczkOg@_bnωKlUOPl
YLibԥN_ãar:v9aҦRa;@[qt[?15DB1&6ɋBV,pï6Z9i:ObˎM#T7_3^=Χ[p"

/-- The ranges that numbers stand for, after the code with a number and the character with a number: how many characters
are passed over, and how many follow one another. -/
def rangesFrom (code character : Nat) : List Nat → List (Nat × Nat × Nat)
  | passed :: count :: rest =>
    (code, character + passed, count) :: rangesFrom (code + count) (character + passed + count) rest
  | _ => []

/-- The characters of codes of four bytes: the number of a code, the number of its character, and how many follow
one another in both. -/
def chineseRanges : List (Nat × Nat × Nat) :=
  rangesFrom 0 0 Text.NumberTable.chineseRanges.numbers

end LineScript.Encoding
