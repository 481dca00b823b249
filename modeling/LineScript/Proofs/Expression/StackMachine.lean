import LineScript.Eval.Tree
import LineScript.Expression.Reader
import LineScript.Proofs.Expression.Reordering
import Mathlib.Tactic.Common

/-!
# Trees and the stack machine

A postfix list can be run without a tree. A machine with a stack of values takes the items from left to right: it
evaluates an operand when it meets it and pushes the value, and it applies an operator to the values on top of the
stack (`Machine.step`). It ends with the first escape.

Reading folds the same list into a tree. The fold keeps a stack of trees, and after every item the machine has done
what the evaluation of these trees, from the bottom of the stack to the top, would do (`FoldStep.simulated`). So the
tree that is left at the end evaluates to what the machine computes, with the same effects. The connectives of truth
values are left out: their right operand is not always evaluated, and the machine would have evaluated it before.
-/

set_option autoImplicit false

namespace LineScript.Expression

open LineScript.Source

/-! ## The machine -/

/-- A state of the machine: the leaves that are collected so far and the stack of values, the top first. -/
structure Machine where
  table : Interner
  stack : List Value

section

variable (engine : Engine) (scope : FrameId) (site : Option Site) (readInner : List Char → ReadM Expr)
  (text : List Char)

/-- The machine reads an operand, evaluates it and pushes its value. -/
def Machine.push (state : Machine) (operand : List Char) : Eval Machine :=
  match readOperand site readInner operand state.table with
  | .ok tree table => do return ⟨table, (← evalExpr engine scope tree) :: state.stack⟩
  | .error error _ => throw (.unreadable error)

/-- The machine takes an item. An operator with two operands has the right one on top of the left one. -/
def Machine.step (state : Machine) (item : PostfixItem) : Eval Machine :=
  match item, state.stack with
  | .operand operand, _ => state.push engine scope site readInner operand
  | .binary (.apply operator), right :: left :: below => do
    return ⟨state.table, (← operator.apply left right) :: below⟩
  | .unary operator, operand :: below => do return ⟨state.table, (← operator.apply operand) :: below⟩
  | _, _ => throw (.unreadable (.reported (.invalidExpression (String.ofList text)) site))

/-- The value that is left at the end. -/
def Machine.result (state : Machine) : Eval Value :=
  match state.stack with
  | [value] => return value
  | _ => throw (.unreadable (.reported (.invalidExpression (String.ofList text)) site))

/-- The machine takes the items in order, from a table of leaves and the empty stack. -/
def runPostfix (items : List PostfixItem) (table : Interner) : Eval Value := do
  (← items.foldlM (Machine.step engine scope site readInner text) ⟨table, []⟩).result site text

end

/-! ## Stacks of trees -/

/-- The values of the trees on a stack, which are evaluated from the bottom to the top. -/
def evalStack (engine : Engine) (scope : FrameId) : List Expr → Eval (List Value)
  | [] => return []
  | tree :: below => do
    let values ← evalStack engine scope below
    return (← evalExpr engine scope tree) :: values

section

variable (site : Option Site) (readInner : List Char → ReadM Expr)

/-- Reading takes an item: what becomes of the stack of trees and of the table of leaves. -/
inductive FoldStep : PostfixItem → List Expr → Interner → List Expr → Interner → Prop where
  | operand {operand : List Char} {stack : List Expr} {table table' : Interner} {tree : Expr}
      (read : readOperand site readInner operand table = .ok tree table') :
      FoldStep (.operand operand) stack table (tree :: stack) table'
  | binary (operator : BinaryOperator) (left right : Expr) (below : List Expr) (table : Interner) :
      FoldStep (.binary operator) (right :: left :: below) table (.binary operator left right :: below) table
  | unary (operator : UnaryOperator) (operand : Expr) (below : List Expr) (table : Interner) :
      FoldStep (.unary operator) (operand :: below) table (.unary operator operand :: below) table

variable {site readInner} {text : List Char}

/-- A list that is folded into a tree is taken item by item. -/
theorem fold_cons_ok {stack : List Expr} {item : PostfixItem} {items : List PostfixItem} {table table' : Interner}
    {tree : Expr} (folded : fold site readInner text stack (item :: items) table = .ok tree table') :
    ∃ next middle, FoldStep site readInner item stack table next middle ∧
      fold site readInner text next items middle = .ok tree table' := by
  cases item with
  | operand operand =>
    rw [fold] at folded
    cases read : readOperand site readInner operand table with
    | ok node middle =>
      refine ⟨node :: stack, middle, .operand read, ?_⟩
      rw [← folded]
      simp only [bind, EStateM.bind, read]
    | error error middle =>
      simp only [bind, EStateM.bind, read] at folded
      cases folded
  | binary operator =>
    rcases stack with _ | ⟨right, _ | ⟨left, below⟩⟩
    · cases folded
    · cases folded
    · exact ⟨_, table, .binary operator left right below table, folded⟩
  | unary operator =>
    rcases stack with _ | ⟨operand, below⟩
    · cases folded
    · rw [fold] at folded
      exact ⟨_, table, .unary operator operand below table, folded⟩

/-- A list that is used up leaves one tree. -/
theorem fold_nil_ok {stack : List Expr} {table table' : Interner} {tree : Expr}
    (folded : fold site readInner text stack [] table = .ok tree table') : stack = [tree] := by
  rcases stack with _ | ⟨only, _ | ⟨other, below⟩⟩
  · cases folded
  · cases folded
    rfl
  · cases folded

/-! ## The machine does what the trees would do -/

variable (engine : Engine) (scope : FrameId)

/-- After an item the machine has done what the evaluation of the trees would do. -/
theorem FoldStep.simulated {item : PostfixItem} {stack next : List Expr} {table middle : Interner}
    (step : FoldStep site readInner item stack table next middle)
    (plain : ∀ connective, item ≠ .binary (.connect connective)) :
    (do let values ← evalStack engine scope stack
        Machine.step engine scope site readInner text ⟨table, values⟩ item) =
      (do let values ← evalStack engine scope next
          return ⟨middle, values⟩) := by
  cases step with
  | operand read =>
    simp only [Machine.step, Machine.push, read, evalStack, bind_assoc, pure_bind]
  | binary operator left right below table =>
    cases operator with
    | connect connective => exact absurd rfl (plain connective)
    | apply operator => simp only [Machine.step, evalStack, evalExpr, bind_assoc, pure_bind]
  | unary operator operand below table =>
    simp only [Machine.step, evalStack, evalExpr, bind_assoc, pure_bind]

/-- From a stack of values on, the machine does what the tree would do that a stack of trees is folded into. -/
theorem fold_simulated {items : List PostfixItem} {stack : List Expr} {table table' : Interner} {tree : Expr}
    (folded : fold site readInner text stack items table = .ok tree table')
    (plain : ∀ connective, PostfixItem.binary (.connect connective) ∉ items) :
    (do let values ← evalStack engine scope stack
        let final ← items.foldlM (Machine.step engine scope site readInner text) ⟨table, values⟩
        final.result site text) = evalExpr engine scope tree := by
  -- the stack of trees is the invariant: it says what the machine has done so far
  induction items generalizing stack table with
  | nil =>
    obtain rfl := fold_nil_ok folded
    simp only [evalStack, List.foldlM_nil, Machine.result, bind_assoc, pure_bind, bind_pure]
  | cons item items ih =>
    obtain ⟨next, middle, step, rest⟩ := fold_cons_ok folded
    have others : ∀ connective, PostfixItem.binary (.connect connective) ∉ items :=
      fun connective member => plain connective (.tail _ member)
    have here : ∀ connective, item ≠ .binary (.connect connective) :=
      fun connective same => plain connective (same ▸ List.mem_cons_self ..)
    calc
      _ = (do let state ← (do let values ← evalStack engine scope stack
                              Machine.step engine scope site readInner text ⟨table, values⟩ item)
              let final ← items.foldlM (Machine.step engine scope site readInner text) state
              final.result site text) := by simp only [List.foldlM_cons, bind_assoc]
      _ = (do let values ← evalStack engine scope next
              let final ← items.foldlM (Machine.step engine scope site readInner text) ⟨middle, values⟩
              final.result site text) := by rw [step.simulated engine scope here]; simp only [bind_assoc, pure_bind]
      _ = evalExpr engine scope tree := ih rest others

end

/-! ## The agreement -/

/-- Trees agree with the stack machine. Tokens without connectives that have a postfix list, which is folded into a
tree: in every frame of every store the tree evaluates to what the machine computes from the list, and both have the
same effects and end with the same escape, if they end with one. -/
theorem tree_agrees_with_stack_machine (engine : Engine) (scope : FrameId) {site : Option Site}
    {readInner : List Char → ReadM Expr} {text : List Char} {tokens : List Token} {items : List PostfixItem}
    {tree : Expr} {table table' : Interner} (plain : ∀ connective, Token.binary (.connect connective) ∉ tokens)
    (ordered : toPostfix tokens = .ok items) (folded : fold site readInner text [] items table = .ok tree table') :
    evalExpr engine scope tree = runPostfix engine scope site readInner text items table := by
  have others : ∀ connective, PostfixItem.binary (.connect connective) ∉ items :=
    fun connective member => plain connective (mem_toPostfix ordered _ member)
  have same := fold_simulated engine scope folded others
  rw [evalStack, pure_bind] at same
  exact same.symm

/-- The tokens of `a() - b() * -c`: the calls are made in the order in which they stand, and before the product. -/
theorem tree_agrees_with_stack_machine_on_calls :
    let tokens : List Token := [.operand "a()".toList, .binary (.apply .subtract), .operand "b()".toList,
      .binary (.apply .multiply), .unary .negate, .operand "c".toList]
    let items : List PostfixItem := [.operand "a()".toList, .operand "b()".toList, .operand "c".toList,
      .unary .negate, .binary (.apply .multiply), .binary (.apply .subtract)]
    let tree : Expr := .binary (.apply .subtract) (.call (.variable "a") [])
      (.binary (.apply .multiply) (.call (.variable "b") []) (.unary .negate (.variable "c")))
    (∀ connective, Token.binary (.connect connective) ∉ tokens) ∧ toPostfix tokens = .ok items ∧
    fold none (readExpr none) [] [] items .empty = .ok tree ⟨["c", "b", "a"], []⟩ ∧
    ∀ engine scope, evalExpr engine scope tree = runPostfix engine scope none (readExpr none) [] items .empty := by
  intro tokens items tree
  have plain : ∀ connective, Token.binary (.connect connective) ∉ tokens := by
    intro connective
    simp [tokens]
  have ordered : toPostfix tokens = .ok items := by rfl
  have folded : fold none (readExpr none) [] [] items .empty = .ok tree ⟨["c", "b", "a"], []⟩ := by rfl
  exact ⟨plain, ordered, folded, fun engine scope => tree_agrees_with_stack_machine engine scope plain ordered folded⟩

end LineScript.Expression
