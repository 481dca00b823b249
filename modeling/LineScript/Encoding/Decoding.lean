import LineScript.Number.Written
import LineScript.Text.Quoted

/-!
# Decoding

Bytes become characters step by step. Decoding stops at the first bytes that the encoding does not have, and
says where they stand and what is wrong with them. Some encodings find faults that have no place.
-/

namespace LineScript.Encoding

inductive DecodeFault where
  | invalid (label : String) (start : Nat) (bytes : List UInt8) (reason : String)
  | noMark (bits : Nat)
  | undefined
  | unfinishedNumber
  | badDigit (c : Char)
  | beyondCharacters (number : Nat)
  | misplacedSet
  | insideLabel (reason : DecodeFault)
  | labelLength
  | labelStart
  | forbidden (c : Char)
  | bothDirections
  | labelEnds
  | notNormal (label normal : String)
  deriving Repr, DecidableEq

def placeText (start : Nat) : List UInt8 → String
  | [byte] =>
    "byte 0x" ++ String.ofList (Text.hexDigits 2 byte.toNat) ++ " in position " ++ Number.digitsOf start
  | bytes =>
    "bytes in position " ++ Number.digitsOf start ++ "-" ++ Number.digitsOf (start + bytes.length - 1)

namespace DecodeFault

def message : DecodeFault → String
  | .invalid label start bytes reason =>
    "'" ++ label ++ "' codec can't decode " ++ placeText start bytes ++ ": " ++ reason
  | .noMark bits => "UTF-" ++ Number.digitsOf bits ++ " stream does not start with BOM"
  | .undefined => "undefined encoding"
  | .unfinishedNumber => "incomplete punicode string"
  | .badDigit c => "Invalid extended code point '" ++ String.singleton c ++ "'"
  | .beyondCharacters number => "Invalid character U+" ++ String.ofList (Text.hexDigits 1 number)
  | .misplacedSet => "internal codec error"
  | .insideLabel reason => "decoding with 'punycode' codec failed (UnicodeError: " ++ reason.message ++ ")"
  | .labelLength => "label empty or too long"
  | .labelStart => "Label starts with ACE prefix"
  | .forbidden c => "Invalid character " ++ Text.quoted (String.singleton c)
  | .bothDirections => "Violation of BIDI requirement 2"
  | .labelEnds => "Violation of BIDI requirement 3"
  | .notNormal label normal =>
    "('IDNA does not round-trip', b" ++ Text.quotedAscii label ++ ", b" ++ Text.quotedAscii normal ++ ")"

def isPlaced : DecodeFault → Bool
  | .invalid _ _ _ _ => true
  | _ => false

end DecodeFault

/-! ## Steps -/

/-- A step of decoding: characters and the number of their bytes, or the number of bytes at fault and what is
wrong with them, or a fault that has no place. -/
inductive DecodeStep where
  | characters (cs : List Char) (size : Nat)
  | invalid (size : Nat) (reason : String)
  | stopped (fault : DecodeFault)

def DecodeStep.ofCode (code size : Nat) : DecodeStep :=
  .characters [Char.ofNat code] size

def decodeStatesFrom {σ : Type} (label : String) (step : σ → UInt8 → List UInt8 → σ × DecodeStep) :
    Nat → σ → Nat → List UInt8 → Except DecodeFault (List Char)
  | 0, _, _, _ => .ok []
  | _ + 1, _, _, [] => .ok []
  | fuel + 1, state, position, first :: rest =>
    match step state first rest with
    | (state, .characters cs size) =>
      (decodeStatesFrom label step fuel state (position + size) ((first :: rest).drop size)).map (cs ++ ·)
    | (_, .invalid size reason) => .error (.invalid label position ((first :: rest).take size) reason)
    | (_, .stopped fault) => .error fault

def decodeStates {σ : Type} (label : String) (step : σ → UInt8 → List UInt8 → σ × DecodeStep) (start : σ)
    (bytes : List UInt8) : Except DecodeFault (List Char) :=
  decodeStatesFrom label step bytes.length start 0 bytes

def decodeAfter (label : String) (step : UInt8 → List UInt8 → DecodeStep) (mark : Nat) (bytes : List UInt8) :
    Except DecodeFault (List Char) :=
  decodeStatesFrom label (fun _ first rest => ((), step first rest)) bytes.length () mark bytes

def decodeSteps (label : String) (step : UInt8 → List UInt8 → DecodeStep) (bytes : List UInt8) :
    Except DecodeFault (List Char) :=
  decodeAfter label step 0 bytes

end LineScript.Encoding
