import LineScript.Text.Span
import LineScript.Text.Tables

/-!
# Characters of labels

Some characters may not stand in a label. Of the others, some are written from right to left and some from left
to right; a label is written in one direction only.
-/

namespace LineScript.Label

open LineScript.Text (Span NumberTable)

def forbiddenTable : Array Span :=
  Span.table NumberTable.forbidden.numbers

def leftwardTable : Array Span :=
  Span.table NumberTable.leftward.numbers

def rightwardTable : Array Span :=
  Span.table NumberTable.rightward.numbers

def isForbidden (c : Char) : Bool :=
  Span.covers forbiddenTable c.toNat

def isLeftward (c : Char) : Bool :=
  Span.covers leftwardTable c.toNat

def isRightward (c : Char) : Bool :=
  Span.covers rightwardTable c.toNat

end LineScript.Label
