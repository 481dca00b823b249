import LineScript.Main
import LineScript.Proofs.Eval.BitOperators
import LineScript.Proofs.Eval.Breaks
import LineScript.Proofs.Eval.Classes
import LineScript.Proofs.Eval.Exceptions
import LineScript.Proofs.Eval.Handlers
import LineScript.Proofs.Eval.Inheritance
import LineScript.Proofs.Eval.Isolation
import LineScript.Proofs.Eval.ListSorting
import LineScript.Proofs.Eval.Nonlocal
import LineScript.Proofs.Eval.Parents
import LineScript.Proofs.Eval.Rebinding
import LineScript.Proofs.Eval.Resolution
import LineScript.Proofs.Eval.RunsOnce
import LineScript.Proofs.Eval.Traces
import LineScript.Proofs.Eval.SplitJoin
import LineScript.Proofs.Eval.Uncaught
import LineScript.Proofs.Eval.Withdrawal
import LineScript.Proofs.Number.Decimals
import LineScript.Proofs.Expression.Brackets
import LineScript.Proofs.Expression.Grammar
import LineScript.Proofs.Expression.Interning
import LineScript.Proofs.Expression.Lexemes
import LineScript.Proofs.Expression.StackMachine
import LineScript.Proofs.Program.Blocks
import LineScript.Proofs.Program.RoundTrip
import LineScript.Proofs.Source.Cutting
import LineScript.Proofs.Store.FrameTree
import LineScript.ScopeView
import LineScript.Session
