import LineScript.Proofs.Program.Placement

/-!
# Conditions that go over to the parts of a tree

What is proved of the evaluation of a tree often rests on a condition on the tree: where a `break` may stand in
it, or which statements there may be at all. Such a condition has a part for expressions, one for statements
and one for blocks, and one for the bodies of functions. It is hereditary if it goes over from a tree to its
parts. Conditions on every body (`EveryBody`) and on every statement of a tree (`EveryStatement`) are so.
-/

set_option autoImplicit false

namespace LineScript

/-- Conditions on trees, and on the bodies of the functions and methods in them. -/
structure Conditions where
  expr : Expr → Prop
  statement : Statement → Prop
  block : Block → Prop
  body : Block → Prop

/-- The conditions go over from a tree to its parts. -/
structure Conditions.Hereditary (conditions : Conditions) : Prop where
  binary : ∀ {operator left right}, conditions.expr (.binary operator left right) →
    conditions.expr left ∧ conditions.expr right
  unary : ∀ {operator operand}, conditions.expr (.unary operator operand) → conditions.expr operand
  property : ∀ {target name}, conditions.expr (.property target name) → conditions.expr target
  call : ∀ {callee arguments}, conditions.expr (.call callee arguments) →
    conditions.expr callee ∧ ∀ argument ∈ arguments, conditions.expr argument
  list : ∀ {elements}, conditions.expr (.list elements) → ∀ element ∈ elements, conditions.expr element
  function : ∀ {name parameters body}, conditions.expr (.function ⟨name, parameters, body⟩) → conditions.body body
  «class» : ∀ {name parents methods body}, conditions.expr (.class ⟨name, parents, methods, body⟩) →
    (∀ method ∈ methods, conditions.body method.body) ∧ conditions.block body
  expression : ∀ {value}, conditions.statement (.expression value) → conditions.expr value
  assign : ∀ {name operator value}, conditions.statement (.assign name operator value) → conditions.expr value
  «nonlocal» : ∀ {name operator value}, conditions.statement (.nonlocal name operator value) → conditions.expr value
  setProperty : ∀ {target name operator value}, conditions.statement (.setProperty target name operator value) →
    conditions.expr target ∧ conditions.expr value
  choose : ∀ {condition consequent alternative}, conditions.statement (.choose condition consequent alternative) →
    conditions.expr condition ∧ conditions.block consequent ∧ conditions.block alternative
  loop : ∀ {condition body}, conditions.statement (.loop condition body) →
    conditions.expr condition ∧ conditions.block body
  switch : ∀ {subject cases fallback}, conditions.statement (.switch subject cases fallback) →
    conditions.expr subject ∧
      (∀ case ∈ cases, (∀ value ∈ case.values, conditions.expr value) ∧ conditions.block case.body) ∧
      conditions.block fallback
  «return» : ∀ {value}, conditions.statement (.return (some value)) → conditions.expr value
  throw : ∀ {value}, conditions.statement (.throw value) → conditions.expr value
  guard : ∀ {body caught handler}, conditions.statement (.guard body caught handler) →
    conditions.block body ∧ conditions.block handler
  cons : ∀ {line statement rest}, conditions.block (⟨line, statement⟩ :: rest) →
    conditions.statement statement ∧ conditions.block rest

/-- No conditions at all. -/
def Conditions.none : Conditions :=
  ⟨fun _ => True, fun _ => True, fun _ => True, fun _ => True⟩

theorem Conditions.hereditary_none : none.Hereditary := by
  constructor <;> simp [none]

/-- A condition on every body. -/
def Conditions.everyBody (holds : Block → Prop) : Conditions :=
  ⟨Expr.EveryBody holds, Statement.EveryBody holds, EveryBody.block holds,
    fun body => holds body ∧ EveryBody.block holds body⟩

theorem everyBody_cases {holds : Block → Prop} {cases : List SwitchCase} (all : EveryBody.cases holds cases) :
    ∀ case ∈ cases, (∀ value ∈ case.values, value.EveryBody holds) ∧ EveryBody.block holds case.body := by
  induction cases with
  | nil => exact nofun
  | cons case cases ih =>
    obtain ⟨values, body⟩ := case
    exact List.forall_mem_cons.mpr ⟨⟨everyBody_exprs.mp all.1.1, all.1.2⟩, ih all.2⟩

theorem Conditions.hereditary_everyBody (holds : Block → Prop) : (everyBody holds).Hereditary where
  binary whole := whole
  unary whole := whole
  property whole := whole
  call whole := ⟨whole.1, everyBody_exprs.mp whole.2⟩
  list whole := everyBody_exprs.mp whole
  function whole := whole
  «class» whole := ⟨everyBody_methods.mp whole.1, whole.2.2⟩
  expression whole := whole
  assign whole := whole
  «nonlocal» whole := whole
  setProperty whole := whole
  choose whole := whole
  loop whole := whole
  switch whole := ⟨whole.1, everyBody_cases whole.2.1, whole.2.2⟩
  «return» whole := whole
  throw whole := whole
  guard whole := whole
  cons whole := whole

/-! ## Every statement -/

mutual

/-- Every statement in the expression satisfies a condition. -/
def Expr.EveryStatement (holds : Statement → Prop) : Expr → Prop
  | .null | .literal _ | .variable _ => True
  | .binary _ left right => left.EveryStatement holds ∧ right.EveryStatement holds
  | .unary _ operand => operand.EveryStatement holds
  | .property target _ => target.EveryStatement holds
  | .call callee arguments => callee.EveryStatement holds ∧ EveryStatement.exprs holds arguments
  | .list elements => EveryStatement.exprs holds elements
  | .function ⟨_, _, body⟩ => EveryStatement.block holds body
  | .class ⟨_, _, methods, body⟩ => EveryStatement.methods holds methods ∧ EveryStatement.block holds body

def EveryStatement.exprs (holds : Statement → Prop) : List Expr → Prop
  | [] => True
  | expr :: exprs => expr.EveryStatement holds ∧ EveryStatement.exprs holds exprs

def EveryStatement.methods (holds : Statement → Prop) : List FunctionLiteral → Prop
  | [] => True
  | ⟨_, _, body⟩ :: methods => EveryStatement.block holds body ∧ EveryStatement.methods holds methods

/-- The statement and every statement in it, at any depth, satisfy a condition. -/
def Statement.EveryStatement (holds : Statement → Prop) : Statement → Prop
  | .expression value => holds (.expression value) ∧ value.EveryStatement holds
  | .assign name operator value => holds (.assign name operator value) ∧ value.EveryStatement holds
  | .nonlocal name operator value => holds (.nonlocal name operator value) ∧ value.EveryStatement holds
  | .setProperty target name operator value =>
    holds (.setProperty target name operator value) ∧ target.EveryStatement holds ∧ value.EveryStatement holds
  | .choose condition consequent alternative =>
    holds (.choose condition consequent alternative) ∧ condition.EveryStatement holds ∧
      EveryStatement.block holds consequent ∧ EveryStatement.block holds alternative
  | .loop condition body =>
    holds (.loop condition body) ∧ condition.EveryStatement holds ∧ EveryStatement.block holds body
  | .switch subject cases fallback =>
    holds (.switch subject cases fallback) ∧ subject.EveryStatement holds ∧ EveryStatement.cases holds cases ∧
      EveryStatement.block holds fallback
  | .return none => holds (.return none)
  | .return (some value) => holds (.return (some value)) ∧ value.EveryStatement holds
  | .throw value => holds (.throw value) ∧ value.EveryStatement holds
  | .guard body caught handler =>
    holds (.guard body caught handler) ∧ EveryStatement.block holds body ∧ EveryStatement.block holds handler
  | .break => holds .break
  | .importModule path localName => holds (.importModule path localName)

def EveryStatement.cases (holds : Statement → Prop) : List SwitchCase → Prop
  | [] => True
  | ⟨values, body⟩ :: cases =>
    (EveryStatement.exprs holds values ∧ EveryStatement.block holds body) ∧ EveryStatement.cases holds cases

/-- Every statement in the block, at any depth, satisfies a condition. -/
def EveryStatement.block (holds : Statement → Prop) : List NumberedStatement → Prop
  | [] => True
  | ⟨_, statement⟩ :: rest => statement.EveryStatement holds ∧ EveryStatement.block holds rest

end

section

variable {holds : Statement → Prop}

theorem everyStatement_exprs {exprs : List Expr} (all : EveryStatement.exprs holds exprs) :
    ∀ expr ∈ exprs, expr.EveryStatement holds := by
  induction exprs with
  | nil => exact nofun
  | cons expr exprs ih => exact List.forall_mem_cons.mpr ⟨all.1, ih all.2⟩

theorem everyStatement_methods {methods : List FunctionLiteral} (all : EveryStatement.methods holds methods) :
    ∀ method ∈ methods, EveryStatement.block holds method.body := by
  induction methods with
  | nil => exact nofun
  | cons method methods ih =>
    obtain ⟨name, parameters, body⟩ := method
    exact List.forall_mem_cons.mpr ⟨all.1, ih all.2⟩

theorem everyStatement_cases {cases : List SwitchCase} (all : EveryStatement.cases holds cases) :
    ∀ case ∈ cases, (∀ value ∈ case.values, value.EveryStatement holds) ∧ EveryStatement.block holds case.body := by
  induction cases with
  | nil => exact nofun
  | cons case cases ih =>
    obtain ⟨values, body⟩ := case
    exact List.forall_mem_cons.mpr ⟨⟨everyStatement_exprs all.1.1, all.1.2⟩, ih all.2⟩

theorem Statement.EveryStatement.self {statement : Statement} (all : statement.EveryStatement holds) :
    holds statement := by
  cases statement with
  | «return» value => cases value <;> first | exact all | exact all.1
  | «break» | importModule => exact all
  | expression | assign | «nonlocal» | setProperty | choose | loop | switch | throw | guard => exact all.1

end

/-- A condition on every statement. -/
def Conditions.everyStatement (holds : Statement → Prop) : Conditions :=
  ⟨Expr.EveryStatement holds, Statement.EveryStatement holds, EveryStatement.block holds,
    EveryStatement.block holds⟩

theorem Conditions.hereditary_everyStatement (holds : Statement → Prop) : (everyStatement holds).Hereditary where
  binary whole := whole
  unary whole := whole
  property whole := whole
  call whole := ⟨whole.1, everyStatement_exprs whole.2⟩
  list whole := everyStatement_exprs whole
  function whole := whole
  «class» whole := ⟨everyStatement_methods whole.1, whole.2⟩
  expression whole := whole.2
  assign whole := whole.2
  «nonlocal» whole := whole.2
  setProperty whole := whole.2
  choose whole := whole.2
  loop whole := whole.2
  switch whole := ⟨whole.2.1, everyStatement_cases whole.2.2.1, whole.2.2.2⟩
  «return» whole := whole.2
  throw whole := whole.2
  guard whole := whole.2
  cons whole := whole

end LineScript
