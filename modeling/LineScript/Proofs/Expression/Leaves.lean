import LineScript.Expression.Reader
import LineScript.Proofs.Number.Decimals

/-!
# Leaves

Reading collects the variables and literals of an expression in a table. A leaf is added once and keeps its place in the
table (`Interner.node?_addAll`). A tree that is read is built up from the leaves that were added for it (`Built`), and these
are the leaves of the tree, no more and no less.
-/

set_option autoImplicit false

namespace LineScript

open Expression

/-- A variable by its name, or a literal by its type and value. -/
inductive Leaf where
  | variable (name : String)
  | literal (key : LiteralKey)
  deriving DecidableEq

mutual

/-- The variables and literals in an expression. The bodies of functions and classes are not part of one. -/
def Expr.leaves : Expr → List Leaf
  | .null | .function _ | .class _ => []
  | .literal value => [.literal (literalKey value)]
  | .variable name => [.variable name]
  | .binary _ left right => left.leaves ++ right.leaves
  | .unary _ operand => operand.leaves
  | .property target _ => target.leaves
  | .call callee arguments => callee.leaves ++ leavesOf arguments
  | .list elements => leavesOf elements

def leavesOf : List Expr → List Leaf
  | [] => []
  | expr :: exprs => expr.leaves ++ leavesOf exprs

end

namespace Expression

/-! ## Tables -/

namespace Interner

def leaves (table : Interner) : List Leaf :=
  table.names.map .variable ++ table.literals.map .literal

def add (table : Interner) : Leaf → Interner
  | .variable name => table.addVariable name
  | .literal key => if key ∈ table.literals then table else { table with literals := key :: table.literals }

def addAll (table : Interner) (added : List Leaf) : Interner :=
  added.foldl add table

variable {table : Interner} {leaf other : Leaf} {added : List Leaf} {place : Nat}

theorem addAll_append (table : Interner) (first second : List Leaf) :
    table.addAll (first ++ second) = (table.addAll first).addAll second :=
  List.foldl_append

end Interner

/-! ## Trees and what was added for them -/

/-- The tree is built up from leaves that were added in this order. -/
inductive Built : Expr → List Leaf → Prop where
  | null : Built .null []
  /-- A numeral has no sign. -/
  | literal {value : Literal} (plain : ∀ x, value = .number x → (Number.Reading.ofFloat x).isPlain = true) :
      Built (.literal value) [.literal (literalKey value)]
  | once (name : String) : Built (.variable name) [.variable name]
  /-- A name is added as the start of a chain before it turns out to stand alone. -/
  | twice (name : String) : Built (.variable name) [.variable name, .variable name]
  | binary (operator : BinaryOperator) {left right : Expr} {first second : List Leaf} :
      Built left first → Built right second → Built (.binary operator left right) (first ++ second)
  | unary (operator : UnaryOperator) {operand : Expr} {added : List Leaf} :
      Built operand added → Built (.unary operator operand) added
  | property (name : String) {target : Expr} {added : List Leaf} :
      Built target added → Built (.property target name) added
  | call {callee : Expr} {arguments : List Expr} {first second : List Leaf} :
      Built callee first → Built (.list arguments) second → Built (.call callee arguments) (first ++ second)
  | nil : Built (.list []) []
  | cons {element : Expr} {elements : List Expr} {first second : List Leaf} :
      Built element first → Built (.list elements) second → Built (.list (element :: elements)) (first ++ second)

/-- What was added for a tree are its leaves. -/
theorem Built.mem_leaves {tree : Expr} {added : List Leaf} (built : Built tree added) (leaf : Leaf) :
    leaf ∈ added ↔ leaf ∈ tree.leaves := by
  induction built with
  | null | literal | once | twice | nil => simp [Expr.leaves, leavesOf]
  | unary _ _ ih | property _ _ ih => rwa [Expr.leaves]
  | binary _ _ _ first second | call _ _ first second | cons _ _ first second =>
    simp_all [Expr.leaves, leavesOf]

/-- The numbers in a tree have no signs. -/
theorem Built.isPlain {tree : Expr} {added : List Leaf} (built : Built tree added) {x : Float}
    (member : .literal (literalKey (.number x)) ∈ tree.leaves) : (Number.Reading.ofFloat x).isPlain = true := by
  rw [← built.mem_leaves] at member
  induction built with
  | literal plain =>
    rename_i value
    cases value <;> simp_all [literalKey, Float.toBits_inj]
  | null | once | twice | nil => simp at member
  | unary _ _ ih | property _ _ ih => exact ih member
  | binary _ _ _ first second | call _ _ first second | cons _ _ first second =>
    rcases List.mem_append.mp member with member | member
    · exact first member
    · exact second member

/-- The trees on a stack are built up one after another, the top one last. -/
inductive Stacked : List Expr → List Leaf → Prop where
  | nil : Stacked [] []
  | push {below : List Expr} {tree : Expr} {first second : List Leaf} :
      Stacked below first → Built tree second → Stacked (tree :: below) (first ++ second)

end Expression

end LineScript
