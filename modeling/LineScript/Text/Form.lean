import LineScript.Text.Digit
import LineScript.Text.TemplateFault

/-!
# Forms

A form tells how a value is written: the fill character, the alignment, the sign, the width, what divides thousands, the
precision and the type.
-/

namespace LineScript.Text

/-! ## Numbers in fields -/

def greatestIndex : Nat :=
  9223372036854775807

def leadingNumber (cs : List Char) : Except TemplateFault (Nat × Nat × List Char) :=
  let digits := cs.takeWhile isDecimal
  let value := digits.foldl (fun total c => 10 * total + (decimalValue? c).getD 0) 0
  if greatestIndex < value then .error .tooManyDigits
  else .ok (value, digits.length, cs.dropWhile isDecimal)

/-- The number that a text is; nothing if it is none. Digits that make too great a number are refused
even if no number results. -/
def wholeNumber? (cs : List Char) : Except TemplateFault (Option Nat) := do
  let (value, count, rest) ← leadingNumber cs
  return if count = 0 ∨ !rest.isEmpty then none else some value

/-! ## Parts of forms -/

inductive Alignment where
  | left
  | right
  | center
  | afterSign
  deriving Repr, DecidableEq

def alignment? : Char → Option Alignment
  | '<' => some .left
  | '>' => some .right
  | '^' => some .center
  | '=' => some .afterSign
  | _ => none

/-- A form: the fill character, the alignment, the marks that only numbers take, the width, the precision,
the separator of thousands, and the type. -/
structure Form where
  fill : Char
  align : Alignment
  sign : Option Char
  zeroSign : Bool
  alternate : Bool
  width : Nat
  precision : Option Nat
  separator : Option Char
  type : Char

def splitAlignment (cs : List Char) : Option Char × Option Alignment × List Char :=
  let single : Option Char × Option Alignment × List Char :=
    match cs with
    | c :: rest =>
      match alignment? c with
      | some align => (none, some align, rest)
      | none => (none, none, cs)
    | [] => (none, none, [])
  match cs with
  | fill :: c :: rest =>
    match alignment? c with
    | some align => (some fill, some align, rest)
    | none => single
  | _ => single

def splitMark (mark : Char) : List Char → Bool × List Char
  | [] => (false, [])
  | c :: rest => if c = mark then (true, rest) else (false, c :: rest)

def splitSignMark : List Char → Option Char × List Char
  | [] => (none, [])
  | c :: rest => if c = ' ' ∨ c = '+' ∨ c = '-' then (some c, rest) else (none, c :: rest)

def splitSeparator (cs : List Char) : Except TemplateFault (Option Char × List Char) :=
  let (comma, rest) := splitMark ',' cs
  let (underscore, rest) := splitMark '_' rest
  if underscore && (comma || (splitMark ',' rest).1) then .error .bothSeparators
  else .ok (if comma then some ',' else if underscore then some '_' else none, rest)

def splitPrecision : List Char → Except TemplateFault (Option Nat × List Char)
  | '.' :: rest => do
    let (value, count, rest) ← leadingNumber rest
    if count = 0 then .error .missingPrecision else return (some value, rest)
  | cs => .ok (none, cs)

/-- A separator may stand with the type; only types of numbers allow one. -/
def checkSeparator (type : Char) : Option Char → Except TemplateFault Unit
  | none => .ok ()
  | some separator =>
    if type ∈ ['d', 'e', 'f', 'g', 'E', 'G', '%', 'F', '\x00'] then .ok ()
    else if separator = '_' ∧ type ∈ ['b', 'o', 'x', 'X'] then .ok ()
    else .error (.separatorWith separator type)

/-! ## Whole forms -/

/-- What a form has where it says nothing, and the name of the kind that it is for. -/
structure FormDefaults where
  type : Char
  align : Alignment
  kind : String

/-- The alignment of a form: the one that is given, or the usual one. A zero before the width puts the fill
characters of numbers, which usually stand on the right, behind the sign. -/
def FormDefaults.alignment (defaults : FormDefaults) (align : Option Alignment) (zero : Bool) : Alignment :=
  align.getD (if zero && defaults.align = .right then .afterSign else defaults.align)

def Form.ofText (defaults : FormDefaults) (cs : List Char) : Except TemplateFault Form := do
  let (fill, align, rest) := splitAlignment cs
  let (sign, rest) := splitSignMark rest
  let (zeroSign, rest) := splitMark 'z' rest
  let (alternate, rest) := splitMark '#' rest
  let (zero, rest) := if fill.isNone then splitMark '0' rest else (false, rest)
  let (width, _, rest) ← leadingNumber rest
  let (separator, rest) ← splitSeparator rest
  let (precision, rest) ← splitPrecision rest
  let type ←
    match rest with
    | [] => pure defaults.type
    | [type] => pure type
    | _ => throw (.invalidForm (String.ofList cs) defaults.kind)
  checkSeparator type separator
  return ⟨fill.getD (if zero then '0' else ' '), defaults.alignment align zero, sign, zeroSign, alternate, width,
    precision, separator, type⟩

/-! ## Texts -/

def textDefaults : FormDefaults :=
  ⟨'s', .left, "str"⟩

def Form.check (form : Form) : Except TemplateFault Unit :=
  if form.type ≠ 's' then .error (.unknownType form.type textDefaults.kind)
  else if form.sign = some ' ' then .error .space
  else if form.sign.isSome then .error .sign
  else if form.zeroSign then .error .zeroSign
  else if form.alternate then .error .alternate
  else if form.align = .afterSign then .error .equalsAlignment
  else .ok ()

def Form.apply (form : Form) (value : List Char) : List Char :=
  let shown :=
    match form.precision with
    | some precision => value.take precision
    | none => value
  let room := form.width - shown.length
  let before :=
    match form.align with
    | .right => room
    | .center => room / 2
    | .left | .afterSign => 0
  List.replicate before form.fill ++ shown ++ List.replicate (room - before) form.fill

def formText (form content : List Char) : Except TemplateFault (List Char) := do
  let form ← Form.ofText textDefaults form
  form.check
  return form.apply content

end LineScript.Text
