import LineScript.Config.Datum
import LineScript.Files.FileSystem
import LineScript.Number.Reading
import LineScript.Source.ReadError
import LineScript.Store.Frame

/-!
# What leaves evaluation

A program can throw a value and catch it again. A failure is a mistake of the program that it cannot catch; it has a
code and a trace. A fault is a limit of the surroundings: input that has ended, an encoding that is not known, a value
that lacks what a built-in function reads from it. Running out of levels of nesting is told apart from these, because
only a whole program turns it into a failure.
-/

namespace LineScript

open LineScript.Number (digitsOf integerText)
open LineScript.Source (Diagnostic)

/-- Why a built-in function refuses its arguments. -/
inductive ArgumentFault where
  | notText (described : String)
  | notList (described : String)
  | expectedNumber (described : String)
  | expectedText (described : String)
  | indexOutOfRange (index : Int) (length : Nat)
  | noValue
  | unordered (described : String)
  | mixedOrder
  | comparatorResult
  | template (reason : String)
  deriving Repr, DecidableEq

def ArgumentFault.message : ArgumentFault → String
  | .notText described => described ++ " is not a String"
  | .notList described => described ++ " is not a List"
  | .expectedNumber described => "expected a number, got " ++ described
  | .expectedText described => "expected text, got " ++ described
  | .indexOutOfRange index length =>
    "index " ++ integerText index ++ " out of range for length " ++ digitsOf length
  | .noValue => "no assigned value"
  | .unordered described => "cannot order " ++ described
  | .mixedOrder => "cannot order mixed values"
  | .comparatorResult => "comparator must return a number"
  | .template reason => reason

inductive FailureKind where
  | reference
  | hierarchy
  | moduleSearch
  | other
  deriving Repr, DecidableEq

inductive FailureCause where
  | notDefined (name : String)
  | noClass (name : String)
  | inheritsItself (name : String)
  | moduleNotFound (name : String) (searched : List String)
  | notCallable (described : String)
  | noProperties (described name : String)
  | unsupportedOperands (symbol left right : String)
  | unsupportedOperand (symbol operand : String)
  | badArgument (function : String) (fault : ArgumentFault)
  | recursionDepth (limit : Int)
  | moduleUnreadable (name path reason : String)
  deriving Repr, DecidableEq

namespace FailureCause

def kind : FailureCause → FailureKind
  | .notDefined _ | .noClass _ => .reference
  | .inheritsItself _ => .hierarchy
  | .moduleNotFound _ _ => .moduleSearch
  | _ => .other

def code : FailureCause → String
  | .notDefined _ | .noClass _ => "E401"
  | .inheritsItself _ => "E402"
  | .moduleNotFound _ _ => "E403"
  | .notCallable _ => "E404"
  | .noProperties _ _ => "E405"
  | .unsupportedOperands _ _ _ | .unsupportedOperand _ _ => "E406"
  | .badArgument _ _ => "E407"
  | .recursionDepth _ => "E408"
  | .moduleUnreadable _ _ _ => "E409"

def message : FailureCause → String
  | .notDefined name => name ++ " is not defined"
  | .noClass name => "class " ++ name ++ " is not defined"
  | .inheritsItself name => "class " ++ name ++ " inherits from itself"
  | .moduleNotFound name _ => "module '" ++ name ++ "' not found"
  | .notCallable described => described ++ " is not callable"
  | .noProperties described name => "cannot read property '" ++ name ++ "' of " ++ described
  | .unsupportedOperands symbol left right =>
    "unsupported operands for '" ++ symbol ++ "': " ++ left ++ " and " ++ right
  | .unsupportedOperand symbol operand => "unsupported operand for '" ++ symbol ++ "': " ++ operand
  | .badArgument function fault => function ++ ": " ++ fault.message
  | .recursionDepth _ => "maximum recursion depth exceeded"
  | .moduleUnreadable name path reason =>
    "cannot read module '" ++ name ++ "' from " ++ path ++ ": " ++ reason

def hints : FailureCause → List String
  | .moduleNotFound _ searched =>
    if searched.isEmpty then [] else ["searched: " ++ ", ".intercalate searched]
  | .recursionDepth limit => ["recursion_limit is " ++ integerText limit]
  | .moduleUnreadable _ _ _ => ["check the file's permissions and the configured encoding"]
  | _ => []

def diagnostic (cause : FailureCause) : Diagnostic :=
  .unplaced cause.code cause.message cause.hints

end FailureCause

structure Failure where
  cause : FailureCause
  trace : Trace
  deriving Repr, DecidableEq

def Failure.text (failure : Failure) : String :=
  "\n".intercalate (failure.cause.diagnostic.text :: failure.trace.lines)

/-- Limits of the surroundings that a program runs into. -/
inductive Fault where
  | missingAttribute
  | missingKey
  | indexType
  | numberTooLarge
  | listTooLong
  | noRoom
  | tooManyDigits (count : Nat)
  | listChanged
  | badSuffix (shown : String)
  | suffixType
  | suffixShape
  | emptyModuleName (path : String)
  | endOfInput
  | file (fault : Files.FileFault)
  | characterRange
  | limitTooLarge
  deriving Repr, DecidableEq

namespace Fault

def ofInteger : Number.IntegerFault → Fault
  | .tooManyDigits count => .tooManyDigits count
  | .tooLarge => .numberTooLarge

/-- The message of a fault that is reported by one: those about a value that cannot be used. -/
def message? : Fault → Option String
  | .tooManyDigits count =>
    some (Number.tooManyDigitsText count)
  | .listChanged => some "list modified during sort"
  | .badSuffix shown => some ("Invalid suffix " ++ shown)
  | .emptyModuleName path => some ("PosixPath(" ++ Text.quoted path ++ ") has an empty name")
  | .file (.unknownEncoding _) | .file .encodingType | .file (.undecodable .misplacedSet) => none
  | .file reason => some reason.message
  | _ => none

end Fault

inductive Escape where
  | thrown (exception : Thrown)
  | failure (reason : Failure)
  | unreadable (error : Source.ReadError)
  | fault (fault : Fault)
  | tooDeep
  | outOfSteps

namespace Escape

def ofCause (cause : FailureCause) : Escape :=
  .failure ⟨cause, .empty⟩

/-- The escape from a scope: exceptions and failures note the place they pass. -/
def pass (frame : FrameId) (entry : TraceEntry) : Escape → Escape
  | .thrown exception => .thrown { exception with trace := exception.trace.add frame entry }
  | .failure reason => .failure { reason with trace := reason.trace.add frame entry }
  | other => other

/-- The escape withdraws a module that was being loaded: exceptions and errors of the language do. -/
def withdrawsModule : Escape → Bool
  | .thrown _ | .failure _ => true
  | .unreadable (.reported _ _) => true
  | _ => false

end Escape

end LineScript
