import LineScript.Calendar
import LineScript.Number.Reading

/-!
# Words for moments

A word stands for a date if it has a year of four digits, a month and a day of two, with dashes between them, and for a
time if a time of day follows behind the letter T or blanks; then month, day and hour may have one digit. A fraction of
the second may follow, and the distance from universal time: the letter Z, or a sign with hours and perhaps minutes.
-/

namespace LineScript.Yaml

open LineScript.Calendar

abbrev Cut := StateT (List Char) Option

def cutNumber (least most : Nat) : Cut Nat := do
  let digits := ((← get).take most).takeWhile Char.isDigit
  if digits.length < least then failure
  modify (List.drop digits.length)
  return Number.radixRun 10 digits

def cutMark (mark : Char) : Cut Unit := do
  if (← get).head? = some mark then modify List.tail else failure

def cutBlanks : Cut Bool := do
  let rest := (← get).dropWhile fun c => c = ' ' || c = '\t'
  let found := rest.length < (← get).length
  set rest
  return found

def cutEnd : Cut Unit := do
  if !(← get).isEmpty then failure

def cutDate (least : Nat) : Cut Date := do
  let year ← cutNumber 4 4
  cutMark '-'
  let month ← cutNumber least 2
  cutMark '-'
  return ⟨year, month, ← cutNumber least 2⟩

def cutDivider : Cut Unit := do
  if ← cutBlanks then return ()
  else cutMark 'T' <|> cutMark 't'

def microseconds (digits : List Char) : Nat :=
  Number.radixRun 10 ((digits ++ List.replicate 6 '0').take 6)

/-- A fraction of a second in microseconds, perhaps none. -/
def cutFraction : Cut Nat := do
  match ← get with
  | '.' :: rest =>
    set (rest.dropWhile Char.isDigit)
    return microseconds (rest.takeWhile Char.isDigit)
  | _ => return 0

def cutTime : Cut TimeOfDay := do
  let hour ← cutNumber 1 2
  cutMark ':'
  let minute ← cutNumber 2 2
  cutMark ':'
  let second ← cutNumber 2 2
  return ⟨hour, minute, second, ← cutFraction⟩

def cutMinutes : Cut Nat :=
  (do cutMark ':'; cutNumber 2 2) <|> pure 0

def cutDistance : Cut Int := do
  let _ ← cutBlanks
  match ← get with
  | 'Z' :: rest =>
    set rest
    return 0
  | '+' :: rest =>
    set rest
    return (← cutNumber 1 2) * 60 + (← cutMinutes)
  | '-' :: rest =>
    set rest
    return -((← cutNumber 1 2) * 60 + (← cutMinutes) : Int)
  | _ => failure

/-- A moment as a whole word. The month and the day of a date alone have at least so many digits. -/
def cutMoment (least : Nat) : Cut Moment :=
  (do
    let date ← cutDate least
    cutEnd
    return .date date) <|>
  (do
    let date ← cutDate 1
    cutDivider
    let time ← cutTime
    (do cutEnd; return .time date time none) <|>
      (do
        let ahead ← cutDistance
        cutEnd
        return .time date time (some ahead)))

def moment? (cs : List Char) : Option Moment :=
  (cutMoment 2).run' cs

/-- The moment that a text is written like, perhaps with short numbers and with a line break at the end. -/
def anyMoment? (cs : List Char) : Option Moment :=
  (cutMoment 1).run' (if cs.getLast? = some '\n' then cs.dropLast else cs)

end LineScript.Yaml
