import LineScript.Encoding.Punycode
import LineScript.Label.Composition
import LineScript.Label.Direction

/-!
# Labels of names

A name is a row of labels with points between them. In ASCII a label with other characters is written as ASCII with
insertions, behind a mark of four characters. What is written is the folded and composed label, in which no character
is forbidden and all are of one direction. A label is read if writing it again gives the same letters.
-/

namespace LineScript.Label

open LineScript.Encoding (DecodeFault decodeAscii decodePunycode encodePunycode)

def mark : List Char :=
  "xn--".toList

def isAscii (c : Char) : Bool :=
  c.toNat < 0x80

/-- The characters of a label are of one direction; one from right to left starts and ends with such
characters. -/
def checkDirection (label : List Char) : Except DecodeFault Unit :=
  if !label.any isLeftward then .ok ()
  else if label.any isRightward then .error .bothDirections
  else if (label.head?.map isLeftward).getD false && (label.getLast?.map isLeftward).getD false then .ok ()
  else .error .labelEnds

def normal (label : List Char) : Except DecodeFault (List Char) := do
  let composed := compose (label.flatMap fold)
  match composed.find? isForbidden with
  | some c => throw (.forbidden c)
  | none =>
    checkDirection composed
    return composed

def checked (label : List Char) : Except DecodeFault (List Char) :=
  if 0 < label.length ∧ label.length < 64 then .ok label else .error .labelLength

def write (label : List Char) : Except DecodeFault (List Char) := do
  if label.all isAscii then checked label
  else
    let label ← normal label
    if label.all isAscii then checked label
    else if mark.isPrefixOf label then throw .labelStart
    else checked (mark ++ encodePunycode label)

def read (label : List Char) : Except DecodeFault (List Char) := do
  if !mark.isPrefixOf label then return label
  else
    let bytes := (label.drop mark.length).map fun c => UInt8.ofNat c.toNat
    let result ← (decodePunycode bytes).mapError .insideLabel
    let again ← write result
    if label.map Char.toLower = again then return result
    else throw (.notNormal (String.ofList label) (String.ofList again))

def splitPoints (label : List Char) : List Char → List (List Char)
  | [] => [label.reverse]
  | c :: rest => if c = '.' then label.reverse :: splitPoints [] rest else splitPoints (c :: label) rest

def decode (bytes : List UInt8) : Except DecodeFault (List Char) := do
  let labels ← (splitPoints [] (← decodeAscii bytes)).mapM read
  return ['.'].intercalate labels

end LineScript.Label
