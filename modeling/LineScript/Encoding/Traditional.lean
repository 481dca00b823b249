import LineScript.Encoding.Double
import LineScript.Encoding.HongKongChart
import LineScript.Encoding.TraditionalChart

/-!
# Encodings of traditional Chinese

The chart is by bytes. A vendor's variant and the supplement of Hong Kong replace some of its characters; the
supplement leaves a few of its codes without one.
-/

namespace LineScript.Encoding

def vendorTraditional? (lead trail : Nat) : Option Char :=
  traditionalVendor.find? lead trail <|> traditionalChart.find? lead trail

/-- The codes of the chart that the supplement takes for itself. -/
def isSupplementary (lead trail : Nat) : Bool :=
  0xc6 ≤ lead && lead ≤ 0xc8 && (0xc7 ≤ lead || 0xa1 ≤ trail)

def hongKong? (lead trail : Nat) : Option (List Char) :=
  ((hongKongChart.find? lead trail).map ([·])) <|> pairs? hongKongPairs lead trail <|>
    if isSupplementary lead trail then none else (traditionalChart.find? lead trail).map ([·])

def hongKongStep (first : UInt8) (rest : List UInt8) : DecodeStep :=
  if first < 0x80 then .ofCode first.toNat 1 else pairStep hongKong? first rest

end LineScript.Encoding
