import LineScript.Eval.Call

/-!
# Arguments of built-in functions

What a built-in function takes from its receiver and its arguments, and how it refuses what it cannot
take. A refusal names the function.
-/

namespace LineScript

namespace Eval

def refuse {α : Type} (function : String) (reason : ArgumentFault) : Eval α :=
  fail (.badArgument function reason)

def payloadOf? (value : Value) : Eval (Option Payload) := do
  match value with
  | .instance id => return some (← instanceAt id).payload
  | _ => return none

def textReceiver (function : String) (receiver : Value) : Eval String := do
  match ← payloadOf? receiver with
  | some (.text value) => return value
  | _ => refuse function (.notText (← describe receiver))

def listReceiver (function : String) (receiver : Value) : Eval CellId := do
  match ← payloadOf? receiver with
  | some (.list cell) => return cell
  | _ => refuse function (.notList (← describe receiver))

def integerArgument (function : String) (value : Value) : Eval Int := do
  let found : Option Int :=
    match value with
    | .number x => Number.truncate? x
    | _ => none
  match found with
  | some n => return n
  | none => refuse function (.expectedNumber (← describe value))

def integerOr (function : String) (default : Int) (value : Value) : Eval Int :=
  match value with
  | .null => return default
  | _ => integerArgument function value

def textArgument (function : String) (value : Value) : Eval String := do
  match value with
  | .text value => return value
  | _ => refuse function (.expectedText (← describe value))

def indexArgument (function : String) (length : Nat) (value : Value) : Eval Nat := do
  let index ← integerArgument function value
  if 0 ≤ index ∧ index < length then return index.toNat
  else refuse function (.indexOutOfRange index length)

def receiver (scope : FrameId) : Eval Value :=
  argument scope "this"

def instanceReceiver (value : Value) : Eval InstanceId :=
  match value with
  | .instance id => return id
  | _ => fault .missingAttribute

def countLimit : Int :=
  9223372036854775807

def roomLimit : Int :=
  1000000000

/-- Equal items, none for a number below zero. -/
def repeated (count : Int) (value : Value) : Eval (Array Value) :=
  if countLimit < count then fault .listTooLong
  else if roomLimit < count then fault .noRoom
  else return Array.replicate count.toNat value

end Eval

end LineScript
