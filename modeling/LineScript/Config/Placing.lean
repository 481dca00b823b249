import LineScript.Config.Datum
import LineScript.Number.Dyadic

/-!
# The order of a set

A set keeps its items in a power of two of places, and shows them from the first place to the last. The low bits of the
residue of a number, which is the same for equal numbers of different kinds, are the place where it goes if that is
free. If it is not, and there are many places, some that follow are tried; then jumps from place to place follow, which
the higher bits take part in. A set with other items keeps the order in which they came.
-/

namespace LineScript.Config

open LineScript.Number (twoTo)

/-! ## Residues -/

/-- Residues are taken by this prime number, by which the power of two with exponent 61 leaves one. -/
def residueModulus : Nat :=
  twoTo 61 - 1

/-- The residue of a number with a sign, in 64 bits. The residue of minus one is that of minus two. -/
def signedResidue (negative : Bool) (residue : Nat) : Nat :=
  if !negative || residue = 0 then residue
  else if residue = 1 then twoTo 64 - 2
  else twoTo 64 - residue

def floatResidue? (x : Float) : Option Nat :=
  match Number.Reading.ofFloat x with
  | .notANumber => none
  | .infinite negative => some (signedResidue negative 314159)
  | .finite number =>
    some (signedResidue number.negative (number.mantissa * twoTo (number.exponent % 61).toNat % residueModulus))

def Datum.residue? : Datum → Option Nat
  | .boolean value => some value.toNat
  | .integer value => some (signedResidue (value < 0) (value.natAbs % residueModulus))
  | .number value => floatResidue? value
  | _ => none

/-! ## Places -/

abbrev Places := Array (Option Datum)

/-- The number of places: eight for up to four items, and else the least power of two above twice their number. -/
def placeCount (items : Nat) : Nat :=
  if items < 5 then 8 else twoTo ((2 * items).log2 + 1)

def followingPlaces : Nat :=
  9

def triedPlaces (count place : Nat) : List Nat :=
  if place + followingPlaces < count then List.range' place (followingPlaces + 1) else [place]

def Places.isFree (places : Places) (place : Nat) : Bool :=
  places[place]?.any Option.isNone

/-- A free place, from a place on and with the bits of a residue that take part in the next jump. -/
def Places.free? (places : Places) : Nat → Nat → Nat → Option Nat
  | 0, _, _ => none
  | fuel + 1, place, bits =>
    match (triedPlaces places.size place).find? places.isFree with
    | some found => some found
    | none =>
      let bits := bits / 32
      Places.free? places fuel ((5 * place + 1 + bits) % places.size) bits

/-- An item put in its place. When no more bits take part, the jumps come to every place in turn. -/
def Places.put (places : Places) (residue : Nat) (item : Datum) : Places :=
  match places.free? (places.size + 16) (residue % places.size) residue with
  | some place => places.setIfInBounds place (some item)
  | none => places

def setOrder (items : List Datum) : List Datum :=
  match items.mapM Datum.residue? with
  | some residues =>
    let start : Places := Array.replicate (placeCount items.length) none
    let places := (residues.zip items).foldl (fun places entry => places.put entry.1 entry.2) start
    places.toList.filterMap id
  | none => items

end LineScript.Config
