import LineScript.Text.Span
import LineScript.Text.Tables

/-!
# Visible characters

The characters that a quoted text shows as they are. All others, control characters, separators,
unassigned and private code points, are shown by their number.
-/

namespace LineScript.Text

def visibleTable : Array Span := Span.table NumberTable.visible.numbers

def isVisible (c : Char) : Bool :=
  if c.toNat < 0x80 then 0x20 ≤ c.toNat && c.toNat < 0x7f else Span.covers visibleTable c.toNat

end LineScript.Text
