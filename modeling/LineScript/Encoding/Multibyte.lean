import LineScript.Encoding.Designated
import LineScript.Encoding.Traditional

/-!
# Encodings with several bytes for a character

The encodings of Japanese, Chinese and Korean text, with their names and their decoders.
-/

namespace LineScript.Encoding

inductive Multibyte where
  | shiftedJapanese
  | vendorShiftedJapanese
  | extendedShiftedJapanese (edition : Edition)
  | japanese
  | extendedJapanese (edition : Edition)
  | chinese
  | extendedChinese
  | fullChinese
  | tildeChinese
  | traditional
  | vendorTraditional
  | hongKong
  | korean
  | extendedKorean
  | composedKorean
  | designatedJapanese
  | designatedSupplementedJapanese
  | designatedMixedJapanese
  | designatedHalfWidthJapanese
  | designatedExtendedJapanese (edition : Edition)
  | designatedKorean
  deriving Repr, DecidableEq

namespace Multibyte

def all : List Multibyte :=
  [.shiftedJapanese, .vendorShiftedJapanese, .extendedShiftedJapanese .first, .extendedShiftedJapanese .second,
    .japanese, .extendedJapanese .first, .extendedJapanese .second, .chinese, .extendedChinese, .fullChinese,
    .tildeChinese, .traditional, .vendorTraditional, .hongKong, .korean, .extendedKorean, .composedKorean,
    .designatedJapanese, .designatedSupplementedJapanese, .designatedMixedJapanese, .designatedHalfWidthJapanese,
    .designatedExtendedJapanese .first, .designatedExtendedJapanese .second, .designatedKorean]

def name : Multibyte → String
  | .shiftedJapanese => "shift_jis"
  | .vendorShiftedJapanese => "cp932"
  | .extendedShiftedJapanese .first => "shift_jisx0213"
  | .extendedShiftedJapanese .second => "shift_jis_2004"
  | .japanese => "euc_jp"
  | .extendedJapanese .first => "euc_jisx0213"
  | .extendedJapanese .second => "euc_jis_2004"
  | .chinese => "gb2312"
  | .extendedChinese => "gbk"
  | .fullChinese => "gb18030"
  | .tildeChinese => "hz"
  | .traditional => "big5"
  | .vendorTraditional => "cp950"
  | .hongKong => "big5hkscs"
  | .korean => "euc_kr"
  | .extendedKorean => "cp949"
  | .composedKorean => "johab"
  | .designatedJapanese => "iso2022_jp"
  | .designatedSupplementedJapanese => "iso2022_jp_1"
  | .designatedMixedJapanese => "iso2022_jp_2"
  | .designatedHalfWidthJapanese => "iso2022_jp_ext"
  | .designatedExtendedJapanese .first => "iso2022_jp_3"
  | .designatedExtendedJapanese .second => "iso2022_jp_2004"
  | .designatedKorean => "iso2022_kr"

def aliases : Multibyte → List String
  | .shiftedJapanese => ["csshiftjis", "shiftjis", "sjis", "s_jis", "x_mac_japanese"]
  | .vendorShiftedJapanese => ["932", "ms932", "mskanji", "ms_kanji"]
  | .extendedShiftedJapanese .first => ["shiftjisx0213", "sjisx0213", "s_jisx0213"]
  | .extendedShiftedJapanese .second => ["shiftjis2004", "sjis_2004", "s_jis_2004"]
  | .japanese => ["eucjp", "ujis", "u_jis"]
  | .extendedJapanese .first => ["eucjisx0213"]
  | .extendedJapanese .second => ["jisx0213", "eucjis2004", "euc_jis2004"]
  | .chinese => ["chinese", "csiso58gb231280", "euc_cn", "euccn", "eucgb2312_cn", "gb2312_1980", "gb2312_80",
      "iso_ir_58", "x_mac_simp_chinese"]
  | .extendedChinese => ["936", "cp936", "ms936"]
  | .fullChinese => ["gb18030_2000"]
  | .tildeChinese => ["hzgb", "hz_gb", "hz_gb_2312"]
  | .traditional => ["big5_tw", "csbig5", "x_mac_trad_chinese"]
  | .vendorTraditional => ["950", "ms950"]
  | .hongKong => ["big5_hkscs", "hkscs"]
  | .korean => ["euckr", "korean", "ksc5601", "ks_c_5601", "ks_c_5601_1987", "ksx1001", "ks_x_1001",
      "x_mac_korean"]
  | .extendedKorean => ["949", "ms949", "uhc"]
  | .composedKorean => ["cp1361", "ms1361"]
  | .designatedJapanese => ["csiso2022jp", "iso2022jp", "iso_2022_jp"]
  | .designatedSupplementedJapanese => ["iso2022jp_1", "iso_2022_jp_1"]
  | .designatedMixedJapanese => ["iso2022jp_2", "iso_2022_jp_2"]
  | .designatedHalfWidthJapanese => ["iso2022jp_ext", "iso_2022_jp_ext"]
  | .designatedExtendedJapanese .first => ["iso2022jp_3", "iso_2022_jp_3"]
  | .designatedExtendedJapanese .second => ["iso_2022_jp_2004", "iso2022jp_2004"]
  | .designatedKorean => ["csiso2022kr", "iso2022kr", "iso_2022_kr"]

def decode (encoding : Multibyte) (bytes : List UInt8) : Except DecodeFault (List Char) :=
  let steps step := decodeSteps encoding.name step bytes
  let pairs find? := steps (asciiOrPairStep find?)
  let sets (scheme : Scheme) := decodeStates encoding.name scheme.step .start bytes
  match encoding with
  | .shiftedJapanese => steps shiftedJapaneseStep
  | .vendorShiftedJapanese => steps vendorShiftedStep
  | .extendedShiftedJapanese edition => steps (extendedShiftedStep edition)
  | .japanese => steps eucStep
  | .extendedJapanese edition => steps (extendedEucStep edition)
  | .chinese => pairs chineseChart.findHigh?
  | .extendedChinese => pairs extendedChinese?
  | .fullChinese => steps fullChineseStep
  | .tildeChinese => decodeStates encoding.name tildeStep false bytes
  | .traditional => pairs traditionalChart.find?
  | .vendorTraditional => pairs vendorTraditional?
  | .hongKong => steps hongKongStep
  | .korean => steps koreanStep
  | .extendedKorean => pairs extendedKorean?
  | .composedKorean => pairs johab?
  | .designatedJapanese => sets .japanese
  | .designatedSupplementedJapanese => sets .supplementedJapanese
  | .designatedMixedJapanese => sets .mixedJapanese
  | .designatedHalfWidthJapanese => sets .halfWidthJapanese
  | .designatedExtendedJapanese edition => sets (.extendedJapanese edition)
  | .designatedKorean => sets .korean

end Multibyte

end LineScript.Encoding
