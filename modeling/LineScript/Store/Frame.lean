import LineScript.Number.Written
import LineScript.Store.Bindings
import LineScript.Text.Blank
import LineScript.Value

/-!
# Scope frames and traces

A frame holds the own bindings of a scope and knows the frames around it, the nearest first. It also knows the source
text, which gives the entries of traces, and the built-in classes, which rebinding a name does not affect.

A trace lists the places that an exception or a failure passed on its way out, the innermost first. A scope that was the
last to add an entry adds no other.
-/

namespace LineScript

structure Origin where
  file : String
  rows : List String
  classes : Bindings InstanceId
  importing : Bool
  deriving Inhabited

namespace Origin

def rowsOf (source : String) : List String :=
  (Text.splitLines source.toList).map fun row => String.ofList (Text.trim row)

/-- The row with a number, counted from one; the empty text if there is none. -/
def row (origin : Origin) (number : Int) : String :=
  if 1 ≤ number then (origin.rows[(number - 1).toNat]?).getD "" else ""

end Origin

structure Frame where
  /-- The frames around this one, the nearest first. -/
  path : List FrameId
  bindings : Bindings Value
  origin : Origin
  deriving Inhabited

structure TraceEntry where
  file : String
  line : Int
  statement : String
  deriving Repr, DecidableEq

def TraceEntry.text (entry : TraceEntry) : String :=
  entry.file ++ ":" ++ Number.integerText entry.line ++ " " ++ entry.statement

def Origin.entry (origin : Origin) (line : Int) : TraceEntry :=
  ⟨origin.file, line, origin.row line⟩

/-- A place passed on the way out: its entry, and the frame that added it. -/
structure Mark where
  frame : FrameId
  entry : TraceEntry
  deriving Repr, DecidableEq

/-- The places passed on the way out, the innermost first. -/
structure Trace where
  marks : List Mark
  deriving Repr, DecidableEq

namespace Trace

def empty : Trace :=
  ⟨[]⟩

def entries (trace : Trace) : List TraceEntry :=
  trace.marks.map Mark.entry

def last? (trace : Trace) : Option FrameId :=
  trace.marks.getLast?.map Mark.frame

def add (trace : Trace) (frame : FrameId) (entry : TraceEntry) : Trace :=
  if trace.last? = some frame then trace else ⟨trace.marks ++ [⟨frame, entry⟩]⟩

def lines (trace : Trace) : List String :=
  trace.entries.map fun entry => "  at " ++ entry.text

end Trace

structure Thrown where
  value : Value
  trace : Trace

end LineScript
