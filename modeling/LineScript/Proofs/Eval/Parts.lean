import LineScript.Eval.Run
import LineScript.Proofs.Eval.Builtins
import LineScript.Proofs.Eval.Modules
import LineScript.Proofs.Program.Heredity

/-!
# One node of a tree

The evaluation of a node asks for the evaluation of its parts and for nested code to run. `Parts` is an
environment that answers these questions in any way, and `Parts.evalExpr`, `Parts.execStatement` and
`Parts.execBlock` evaluate one node over it. With the evaluators themselves as answers this is the evaluation
of trees (`evalExpr_eq`, `execStatement_eq`, `execBlock_eq`).

What a node is made of is proved for any answers (`acts_expression`, `acts_statement`, `acts_block`). Induction
on the size of a tree then gives what its evaluation is made of, as a function of the runner alone
(`acts_execBlock`).
-/

set_option autoImplicit false

namespace LineScript

/-- Answers to what the evaluation of a node asks for. -/
structure Parts where
  expr : FrameId → Expr → Eval Value
  statement : FrameId → Statement → Eval Completion
  block : FrameId → Block → Eval Completion
  run : Runner

/-- The answers of the evaluators. -/
def Parts.ofEngine (engine : Engine) : Parts :=
  ⟨evalExpr engine, execStatement engine, execBlock engine, engine.run⟩

namespace Parts

variable (parts : Parts) (scope : FrameId)

/-- The values of expressions, from left to right. -/
def evalAll : List Expr → Eval (List Value)
  | [] => return []
  | expr :: exprs => do
    let value ← parts.expr scope expr
    return value :: (← evalAll exprs)

/-- One of the expressions has the value of the subject. -/
def anySame (subject : Value) : List Expr → Eval Bool
  | [] => return false
  | expr :: exprs => do
    let value ← parts.expr scope expr
    if subject.same value then return true else anySame subject exprs

/-- The first case that has the value of the subject. -/
def execCases (subject : Value) : List SwitchCase → Eval (Option Completion)
  | [] => return none
  | ⟨values, body⟩ :: cases => do
    if ← parts.anySame scope subject values then return some (← parts.block scope body)
    else execCases subject cases

/-- The value of an expression over the values of its parts. -/
def evalExpr : Expr → Eval Value
  | .null => return .null
  | .literal value => return .ofLiteral value
  | .variable name => Eval.lookup scope name
  | .binary (.apply operator) left right => do
    let first ← parts.expr scope left
    let second ← parts.expr scope right
    operator.apply first second
  | .binary (.connect .conjunction) left right => do
    let first ← parts.expr scope left
    if first.truthy then return .boolean (← parts.expr scope right).truthy
    else return .boolean false
  | .binary (.connect .disjunction) left right => do
    let first ← parts.expr scope left
    if first.truthy then return .boolean true
    else return .boolean (← parts.expr scope right).truthy
  | .unary operator operand => do
    let value ← parts.expr scope operand
    operator.apply value
  | .property target name => do
    let value ← parts.expr scope target
    let receiver ← Eval.receiverOf scope value name
    Eval.propertyOf scope receiver name
  | .call (.property target name) arguments => do
    let value ← parts.expr scope target
    let receiver ← Eval.receiverOf scope value name
    let callee ← Eval.propertyOf scope receiver name
    let values ← parts.evalAll scope arguments
    Eval.callValue parts.run scope callee values (some (.instance receiver))
  | .call callee arguments => do
    let function ← parts.expr scope callee
    let values ← parts.evalAll scope arguments
    Eval.callValue parts.run scope function values none
  | .list elements => do
    let items ← parts.evalAll scope elements
    Eval.newList scope items.toArray
  | .function literal => Eval.newFunction scope (.ofLiteral literal scope)
  | .class literal => do
    let value ← newClass scope literal
    let inner ← Eval.newScope scope [("this", value)]
    let _ ← parts.block inner literal.body
    return value

/-- The execution of a statement over those of its parts, where loops may take so many steps. -/
def execStatement (loopSteps : Nat) : Statement → Eval Completion
  | .expression value => do
    let _ ← parts.expr scope value
    return .normal
  | .assign name operator value => do
    let given ← parts.expr scope value
    Eval.assign scope name (← combined operator (Eval.lookup scope name) given)
    return .normal
  | .nonlocal name operator value => do
    let given ← parts.expr scope value
    Eval.assignNonlocal scope name (← combined operator (Eval.lookup scope name) given)
    return .normal
  | .setProperty target name operator value => do
    let id ← assignee (← parts.expr scope target) name
    let given ← parts.expr scope value
    Eval.setProperty id name (← combined operator (ownProperty id name) given)
    return .normal
  | .choose condition consequent alternative => do
    if (← parts.expr scope condition).truthy then parts.block scope consequent
    else parts.block scope alternative
  | .loop condition body =>
    whileLoop (do return (← parts.expr scope condition).truthy) (parts.block scope body) loopSteps
  | .switch subject cases fallback => do
    let value ← parts.expr scope subject
    match ← parts.execCases scope value cases with
    | some completion => return completion
    | none => parts.block scope fallback
  | .return none => return .returned .null
  | .return (some value) => return .returned (← parts.expr scope value)
  | .throw value => do throw (.thrown ⟨← parts.expr scope value, .empty⟩)
  | .guard body caught handler =>
    guarded (parts.block scope body) fun exception => handle scope caught exception (parts.block scope handler)
  | .break => return .broken
  | .importModule path localName => do
    Eval.assign scope (boundName path localName) (← importModule parts.run scope path)
    return .normal

/-- The execution of a block over that of its first statement and of the rest. -/
def execBlock : Block → Eval Completion
  | [] => return .normal
  | ⟨line, statement⟩ :: rest => do
    match ← Eval.passing scope line (parts.statement scope statement) with
    | .normal => parts.block scope rest
    | completion => return completion

end Parts

/-! ## Evaluation of trees -/

section

variable (engine : Engine) (scope : FrameId)

theorem evalAll_eq (exprs : List Expr) : evalAll engine scope exprs = (Parts.ofEngine engine).evalAll scope exprs := by
  induction exprs with
  | nil => rw [evalAll, Parts.evalAll]
  | cons expr exprs ih =>
    rw [evalAll, Parts.evalAll, ih]
    rfl

theorem anySame_eq (subject : Value) (exprs : List Expr) :
    anySame engine scope subject exprs = (Parts.ofEngine engine).anySame scope subject exprs := by
  induction exprs with
  | nil => rw [anySame, Parts.anySame]
  | cons expr exprs ih =>
    rw [anySame, Parts.anySame, ih]
    rfl

theorem execCases_eq (subject : Value) (cases : List SwitchCase) :
    execCases engine scope subject cases = (Parts.ofEngine engine).execCases scope subject cases := by
  induction cases with
  | nil => rw [execCases, Parts.execCases]
  | cons case cases ih =>
    obtain ⟨values, body⟩ := case
    rw [execCases, Parts.execCases, ih, anySame_eq]
    rfl

/-- The evaluation of an expression is that of its node over the evaluators. -/
theorem evalExpr_eq (expr : Expr) : evalExpr engine scope expr = (Parts.ofEngine engine).evalExpr scope expr := by
  have call (callee : Expr) (arguments : List Expr) (other : ∀ target name, callee ≠ .property target name) :
      evalExpr engine scope (.call callee arguments) =
        (Parts.ofEngine engine).evalExpr scope (.call callee arguments) := by
    rw [evalExpr.eq_10 engine scope callee arguments other, Parts.evalExpr.eq_10 _ scope callee arguments other,
      evalAll_eq]
    rfl
  cases expr with
  | null | literal | «variable» => rw [evalExpr, Parts.evalExpr]
  | binary operator left right =>
    rcases operator with operator | connective
    · rw [evalExpr, Parts.evalExpr]
      rfl
    · cases connective <;> rw [evalExpr, Parts.evalExpr] <;> rfl
  | unary | property =>
    rw [evalExpr, Parts.evalExpr]
    rfl
  | call callee arguments =>
    cases callee with
    | property target name =>
      rw [evalExpr, Parts.evalExpr, evalAll_eq]
      rfl
    | null | literal | «variable» | binary | unary | call | list | function | «class» => exact call _ _ nofun
  | list elements => rw [evalExpr, Parts.evalExpr, evalAll_eq]
  | function literal => rw [evalExpr, Parts.evalExpr]
  | «class» literal =>
    obtain ⟨name, parents, methods, body⟩ := literal
    rw [evalExpr, Parts.evalExpr]
    rfl

theorem execStatement_eq (statement : Statement) :
    execStatement engine scope statement = (Parts.ofEngine engine).execStatement scope engine.loopSteps statement := by
  cases statement with
  | «return» value =>
    cases value with
    | none => rw [execStatement, Parts.execStatement]
    | some value =>
      rw [execStatement, Parts.execStatement]
      rfl
  | switch =>
    rw [execStatement, Parts.execStatement]
    simp only [execCases_eq]
    rfl
  | «break» => rw [execStatement, Parts.execStatement]
  | expression | assign | «nonlocal» | setProperty | choose | loop | throw | guard | importModule =>
    rw [execStatement, Parts.execStatement]
    rfl

theorem execBlock_eq (block : Block) :
    execBlock engine scope block = (Parts.ofEngine engine).execBlock scope block := by
  cases block with
  | nil => rw [execBlock, Parts.execBlock]
  | cons first rest =>
    obtain ⟨line, statement⟩ := first
    rw [execBlock, Parts.execBlock]
    rfl

end

/-! ## What a node is made of -/

/-- A manner allows a statement: a guard catches, and a nonlocal assignment binds a name anew. -/
structure Manner.Allows (manner : Manner) (statement : Statement) : Prop where
  guard : ∀ body caught handler, statement = .guard body caught handler → manner.catches = true
  «nonlocal» : ∀ name operator value, statement = .nonlocal name operator value → manner.rebinds = true

/-- The statement has no blocks of its own. -/
def Statement.isPlain : Statement → Bool
  | .choose .. | .loop .. | .switch .. | .guard .. => false
  | _ => true

section

variable {E : Type} {fits : Code → Prop} {asks : FrameId → (α : Type) → (E → Eval α) → Prop} {manner : Manner}
  {parts : E → Parts} {conditions : Conditions} {size : Nat}

/-- The parts of expressions below a size that meet the conditions are answered by evaluations made so, and the
bodies of classes in new frames too. Bodies that meet the conditions are code of the kind that the store holds. -/
structure Answers (fits : Code → Prop) (asks : FrameId → (α : Type) → (E → Eval α) → Prop) (manner : Manner)
    (parts : E → Parts) (conditions : Conditions) (size : Nat) : Prop where
  heredity : conditions.Hereditary
  literal : ∀ body, conditions.body body → fits (.block body)
  run : AsksRuns fits asks manner fun env => (parts env).run
  load : ∀ scope path localName, conditions.statement (.importModule path localName) →
    Does fits asks manner scope fun env => Module.load (parts env).run scope (moduleName path)
  expr : ∀ scope expr, sizeOf expr < size → conditions.expr expr →
    Does fits asks manner scope fun env => (parts env).expr scope expr
  body : ∀ inner body, manner.opens inner → sizeOf body < size → conditions.block body →
    Does fits asks manner inner fun env => (parts env).block inner body

/-- Statements and blocks below a size are answered so too. -/
structure BlockAnswers (fits : Code → Prop) (asks : FrameId → (α : Type) → (E → Eval α) → Prop) (manner : Manner)
    (parts : E → Parts) (conditions : Conditions) (size : Nat) : Prop
    extends Answers fits asks manner parts conditions size where
  statement : ∀ scope statement, sizeOf statement < size → conditions.statement statement →
    Does fits asks manner scope fun env => (parts env).statement scope statement
  block : ∀ scope block, sizeOf block < size → conditions.block block →
    Does fits asks manner scope fun env => (parts env).block scope block

variable (answers : Answers fits asks manner parts conditions size) {scope : FrameId}

theorem acts_operator (operator : Operator) (left right : Value) :
    Does fits asks manner scope fun _ => operator.apply left right := by
  have operands : Does fits asks manner scope fun _ => (do
      let first ← Eval.describe left
      let second ← Eval.describe right
      Eval.fail (α := Value) (.unsupportedOperands operator.symbol first second)) :=
    (acts_describe left).bind fun _ _ => (acts_describe right).bind fun _ _ => .throw _
  have joined : Does fits asks manner scope fun _ => (do
      let first ← Eval.textOf left
      let second ← Eval.textOf right
      return Value.text (first ++ second)) :=
    (acts_textOf left).bind fun _ _ => (acts_textOf right).bind fun _ _ => .pure trivial
  unfold Operator.apply
  split
  · exact .pure trivial
  · exact .pure trivial
  · refine .ite joined ?_
    split
    · exact .pure trivial
    · exact operands

theorem acts_unaryOperator (operator : UnaryOperator) (operand : Value) :
    Does fits asks manner scope fun _ => operator.apply operand := by
  cases operator with
  | complement => exact .pure trivial
  | negate =>
    simp only [UnaryOperator.apply]
    cases operand.numeric? with
    | some value => exact .pure trivial
    | none => exact acts_failDescribed _ _

theorem acts_combined (operator : Option Operator) {old : Eval Value} (acts : Does fits asks manner scope fun _ => old)
    (value : Value) : Does fits asks manner scope fun _ => combined operator old value := by
  cases operator with
  | none => exact .pure trivial
  | some operator => exact acts.bind fun old _ => acts_operator operator old value

include answers

theorem acts_evalAll {exprs : List Expr} (small : sizeOf exprs ≤ size) (meets : ∀ expr ∈ exprs, conditions.expr expr) :
    Does fits asks manner scope fun env => (parts env).evalAll scope exprs := by
  induction exprs with
  | nil => exact .pure trivial
  | cons expr exprs ih =>
    simp only [List.cons.sizeOf_spec] at small
    obtain ⟨first, rest⟩ := List.forall_mem_cons.mp meets
    refine (answers.expr scope expr (by omega) first).bind fun value _ => ?_
    exact (ih (by omega) rest).bind fun values _ => .pure trivial

theorem acts_anySame (subject : Value) {exprs : List Expr} (small : sizeOf exprs ≤ size)
    (meets : ∀ expr ∈ exprs, conditions.expr expr) :
    Does fits asks manner scope fun env => (parts env).anySame scope subject exprs := by
  induction exprs with
  | nil => exact .pure trivial
  | cons expr exprs ih =>
    simp only [List.cons.sizeOf_spec] at small
    obtain ⟨first, rest⟩ := List.forall_mem_cons.mp meets
    refine (answers.expr scope expr (by omega) first).bind fun value _ => ?_
    exact .ite (.pure trivial) (ih (by omega) rest)

theorem acts_newClass {literal : ClassLiteral} (meets : conditions.expr (.class literal)) :
    Does fits asks manner scope fun _ => newClass scope literal := by
  refine .read fun store _ => (acts_liftCause fun _ _ => trivial).bind fun _ _ => ?_
  refine acts_newBuiltin scope "Class" fun method member => ?_
  obtain ⟨name, parents, methods, body⟩ := literal
  obtain ⟨method, inside, rfl⟩ := List.mem_map.mp member
  exact answers.literal method.body ((answers.heredity.class meets).1 method inside)

/-- The evaluation of an expression is made of those of its parts. -/
theorem acts_expression {expr : Expr} (small : sizeOf expr ≤ size) (meets : conditions.expr expr) :
    Does fits asks manner scope fun env => (parts env).evalExpr scope expr := by
  have part (inner : Expr) (below : sizeOf inner < size) (whole : conditions.expr inner) :
      Does fits asks manner scope fun env => (parts env).expr scope inner := answers.expr scope inner below whole
  have call {callee : Expr} {arguments : List Expr} (other : ∀ target name, callee ≠ .property target name)
      (small : sizeOf (Expr.call callee arguments) ≤ size) (meets : conditions.expr (.call callee arguments)) :
      Does fits asks manner scope fun env => (parts env).evalExpr scope (.call callee arguments) := by
    simp only [Expr.call.sizeOf_spec] at small
    simp only [Parts.evalExpr.eq_10 _ scope callee arguments other]
    obtain ⟨first, rest⟩ := answers.heredity.call meets
    refine (part callee (by omega) first).bind fun function _ => ?_
    refine (acts_evalAll answers (by omega) rest).bind fun values _ => ?_
    exact acts_callValue answers.run scope function values none
  cases expr with
  | null | literal => exact .pure trivial
  | «variable» name => exact acts_lookup scope name
  | binary operator left right =>
    simp only [Expr.binary.sizeOf_spec] at small
    have first := part left (by omega) (answers.heredity.binary meets).1
    have second := part right (by omega) (answers.heredity.binary meets).2
    rcases operator with operator | connective
    · exact first.bind fun left _ => second.bind fun right _ => acts_operator operator left right
    · cases connective with
      | conjunction => exact first.bind fun _ _ => .ite (second.bind fun _ _ => .pure trivial) (.pure trivial)
      | disjunction => exact first.bind fun _ _ => .ite (.pure trivial) (second.bind fun _ _ => .pure trivial)
  | unary operator operand =>
    simp only [Expr.unary.sizeOf_spec] at small
    have first := part operand (by omega) (answers.heredity.unary meets)
    exact first.bind fun value _ => acts_unaryOperator operator value
  | property target name =>
    simp only [Expr.property.sizeOf_spec] at small
    have first := part target (by omega) (answers.heredity.property meets)
    refine first.bind fun value _ => (acts_receiverOf scope value name).bind fun id _ => ?_
    exact acts_propertyOf scope id name
  | call callee arguments =>
    cases callee with
    | property target name =>
      simp only [Expr.call.sizeOf_spec, Expr.property.sizeOf_spec] at small
      obtain ⟨first, rest⟩ := answers.heredity.call meets
      have receiver := part target (by omega) (answers.heredity.property first)
      refine receiver.bind fun value _ => (acts_receiverOf scope value name).bind fun id _ => ?_
      refine (acts_propertyOf scope id name).bind fun callee _ => ?_
      refine (acts_evalAll answers (by omega) rest).bind fun values _ => ?_
      exact acts_callValue answers.run scope callee values _
    | null | literal | «variable» | binary | unary | call | list | function | «class» =>
      exact call nofun small meets
  | list elements =>
    simp only [Expr.list.sizeOf_spec] at small
    exact (acts_evalAll answers (by omega) (answers.heredity.list meets)).bind fun _ _ => acts_newList scope _
  | function literal =>
    obtain ⟨name, parameters, body⟩ := literal
    exact acts_newBuiltin scope "Function" (answers.literal body (answers.heredity.function meets))
  | «class» literal =>
    obtain ⟨name, parents, methods, body⟩ := literal
    simp only [Expr.class.sizeOf_spec, ClassLiteral.mk.sizeOf_spec] at small
    refine (acts_newClass answers meets).bind fun value _ => .frame (fun store _ => ?_) fun inner opened => ?_
    · refine ⟨store, _, .refl, .child _ _ ?_, rfl⟩
      exact List.nodup_singleton "this"
    · have inside := answers.body inner body opened (by omega) (answers.heredity.class meets).2
      exact inside.bind fun _ _ => .pure trivial

omit answers

theorem acts_whileLoop {condition : E → Eval Bool} {body : E → Eval Completion}
    (first : Does fits asks manner scope condition) (second : Does fits asks manner scope body) (steps : Nat) :
    Does fits asks manner scope fun env => whileLoop (condition env) (body env) steps := by
  induction steps with
  | zero => exact .throw _
  | succ steps ih =>
    refine first.bind fun _ _ => .ite (second.bind fun completion _ => ?_) (.pure trivial)
    cases completion with
    | normal => exact ih
    | broken | returned => exact .pure trivial

theorem acts_assignee (target : Value) (name : String) : Does fits asks manner scope fun _ => assignee target name := by
  cases target with
  | «instance» id => exact .pure trivial
  | null | number | text | boolean => exact acts_failDescribed _ _

theorem acts_ownProperty (id : InstanceId) (name : String) :
    Does fits asks manner scope fun _ => ownProperty id name := by
  refine (acts_instanceAt id).bind fun object _ => ?_
  cases object.properties.get? name with
  | none => exact .throw _
  | some value => exact .pure trivial

theorem acts_traceCell? (value : Value) : Does fits asks manner scope fun _ => traceCell? value := by
  cases value with
  | null | number | text | boolean => exact .pure trivial
  | «instance» id =>
    refine (acts_instanceAt id).bind fun object _ => ?_
    cases object.properties.get? "stackTraceElements" with
    | none => exact .pure trivial
    | some kept =>
      cases kept with
      | null | number | text | boolean => exact .pure trivial
      | «instance» elements =>
        refine (acts_instanceAt elements).bind fun object _ => ?_
        cases object.payload <;> exact .pure trivial

theorem acts_recordTrace (exception : Thrown) : Does fits asks manner scope fun _ => recordTrace scope exception := by
  have element (entry : TraceEntry) : Does fits asks manner scope fun _ => newElement scope entry :=
    .builtin fun _ _ found => ⟨_, _, rfl, .single (.object trivial fun classed => classed.builtinClass found)⟩
  have entries (cell : CellId) (entries : List TraceEntry) :
      Does fits asks manner scope fun _ => recordEntries scope cell entries := by
    induction entries with
    | nil => exact .pure trivial
    | cons entry entries ih =>
      exact (element entry).bind fun _ _ => (acts_modifyItems cell _).bind fun _ _ => ih
  refine (acts_traceCell? exception.value).bind fun found _ => ?_
  cases found with
  | none => exact .pure trivial
  | some cell => exact entries cell _

/-- A handler is followed by the end of its binding, and its escapes are thrown on. -/
theorem acts_handle (name : String) (exception : Thrown) {handler : E → Eval Completion}
    (acts : Does fits asks manner scope handler) :
    Does fits asks manner scope fun env => handle scope name exception (handler env) := by
  refine (acts_recordTrace exception).bind fun _ _ => (acts_assign name _).bind fun _ _ => ?_
  refine Acts.bind (.rethrow acts fun escape store => ?_) fun _ _ =>
    (acts_delete name).bind fun _ _ => .pure trivial
  cases escape with
  | thrown exception => exact ⟨_, rfl, .single (.delete name)⟩
  | failure | unreadable | fault | tooDeep | outOfSteps => exact ⟨_, rfl, .refl⟩

include answers

/-- The execution of a statement without blocks that a manner allows is made of its expressions. -/
theorem acts_plainStatement (loopSteps : Nat) {statement : Statement} (plain : statement.isPlain = true)
    (small : sizeOf statement ≤ size) (meets : conditions.statement statement) (allows : manner.Allows statement) :
    Does fits asks manner scope fun env => (parts env).execStatement scope loopSteps statement := by
  have part (inner : Expr) (below : sizeOf inner < size) (whole : conditions.expr inner) :
      Does fits asks manner scope fun env => (parts env).expr scope inner := answers.expr scope inner below whole
  cases statement with
  | expression value =>
    simp only [Statement.expression.sizeOf_spec] at small
    exact (part value (by omega) (answers.heredity.expression meets)).bind fun _ _ => .pure trivial
  | assign name operator value =>
    simp only [Statement.assign.sizeOf_spec] at small
    refine (part value (by omega) (answers.heredity.assign meets)).bind fun given _ => ?_
    refine (acts_combined operator (acts_lookup scope name) given).bind fun value _ => ?_
    exact (acts_assign name value).bind fun _ _ => .pure trivial
  | «nonlocal» name operator value =>
    simp only [Statement.nonlocal.sizeOf_spec] at small
    refine (part value (by omega) (answers.heredity.nonlocal meets)).bind fun given _ => ?_
    refine (acts_combined operator (acts_lookup scope name) given).bind fun value _ => ?_
    exact (acts_assignNonlocal (allows.nonlocal _ _ _ rfl) name value).bind fun _ _ => .pure trivial
  | setProperty target name operator value =>
    simp only [Statement.setProperty.sizeOf_spec] at small
    obtain ⟨first, second⟩ := answers.heredity.setProperty meets
    refine (part target (by omega) first).bind fun target _ => (acts_assignee target name).bind fun id _ => ?_
    refine (part value (by omega) second).bind fun given _ => ?_
    refine (acts_combined operator (acts_ownProperty id name) given).bind fun value _ => ?_
    exact (acts_setProperty id name value).bind fun _ _ => .pure trivial
  | «return» value =>
    cases value with
    | none => exact .pure trivial
    | some value =>
      simp only [Statement.return.sizeOf_spec, Option.some.sizeOf_spec] at small
      exact (part value (by omega) (answers.heredity.return meets)).bind fun _ _ => .pure trivial
  | throw value =>
    simp only [Statement.throw.sizeOf_spec] at small
    exact (part value (by omega) (answers.heredity.throw meets)).bind fun _ _ => .throw _
  | «break» => exact .pure trivial
  | importModule path localName =>
    refine Acts.bind (?_ : Does fits asks manner scope _) fun value _ =>
      (acts_assign _ value).bind fun _ _ => .pure trivial
    refine .read fun store _ => .ite ?_ (.throw _)
    exact (answers.load scope path localName meets).bind fun _ _ => .pure trivial
  | choose | loop | switch | guard => cases plain

omit answers

variable (blocks : BlockAnswers fits asks manner parts conditions size)

include blocks

theorem acts_execCases (subject : Value) {cases : List SwitchCase} (small : sizeOf cases ≤ size)
    (meets : ∀ case ∈ cases, (∀ value ∈ case.values, conditions.expr value) ∧ conditions.block case.body) :
    Does fits asks manner scope fun env => (parts env).execCases scope subject cases := by
  induction cases with
  | nil => exact .pure trivial
  | cons case cases ih =>
    obtain ⟨values, body⟩ := case
    simp only [List.cons.sizeOf_spec, SwitchCase.mk.sizeOf_spec] at small
    obtain ⟨first, rest⟩ := List.forall_mem_cons.mp meets
    have compared : Does fits asks manner scope fun env => (parts env).anySame scope subject values :=
      acts_anySame blocks.toAnswers subject (by omega) first.1
    refine compared.bind fun found _ => ?_
    refine .ite ?_ (ih (by omega) rest)
    exact (blocks.block scope body (by omega) first.2).bind fun _ _ => .pure trivial

/-- The execution of a statement that a manner allows is made of those of its parts. -/
theorem acts_statement (loopSteps : Nat) {statement : Statement} (small : sizeOf statement ≤ size)
    (meets : conditions.statement statement) (allows : manner.Allows statement) :
    Does fits asks manner scope fun env => (parts env).execStatement scope loopSteps statement := by
  have part (inner : Expr) (below : sizeOf inner < size) (whole : conditions.expr inner) :
      Does fits asks manner scope fun env => (parts env).expr scope inner := blocks.expr scope inner below whole
  have block (inner : Block) (below : sizeOf inner < size) (whole : conditions.block inner) :
      Does fits asks manner scope fun env => (parts env).block scope inner := blocks.block scope inner below whole
  cases statement with
  | choose condition consequent alternative =>
    simp only [Statement.choose.sizeOf_spec] at small
    obtain ⟨asked, yes, no⟩ := blocks.heredity.choose meets
    refine (part condition (by omega) asked).bind fun _ _ => ?_
    exact .ite (block consequent (by omega) yes) (block alternative (by omega) no)
  | loop condition body =>
    simp only [Statement.loop.sizeOf_spec] at small
    obtain ⟨asked, inside⟩ := blocks.heredity.loop meets
    refine acts_whileLoop ?_ (block body (by omega) inside) loopSteps
    exact (part condition (by omega) asked).bind fun _ _ => .pure trivial
  | switch subject cases fallback =>
    simp only [Statement.switch.sizeOf_spec] at small
    obtain ⟨asked, inside, otherwise⟩ := blocks.heredity.switch meets
    refine (part subject (by omega) asked).bind fun value _ => ?_
    refine (acts_execCases blocks value (by omega) inside).bind fun found _ => ?_
    cases found with
    | some completion => exact .pure trivial
    | none => exact block fallback (by omega) otherwise
  | guard body caught handler =>
    simp only [Statement.guard.sizeOf_spec] at small
    obtain ⟨inside, handling⟩ := blocks.heredity.guard meets
    have catches := allows.guard _ _ _ rfl
    refine .recover catches (block body (by omega) inside) (fun exception => ?_) fun escape other => ?_
    · exact acts_handle caught exception (block handler (by omega) handling)
    · cases escape with
      | thrown => cases other
      | failure | unreadable | fault | tooDeep | outOfSteps => rfl
  | expression | assign | «nonlocal» | setProperty | «return» | throw | «break» | importModule =>
    exact acts_plainStatement blocks.toAnswers loopSteps rfl small meets allows

/-- The execution of a block is made of those of its first statement and of the rest. -/
theorem acts_block (marks : manner.marks = true) {block : Block} (small : sizeOf block ≤ size)
    (meets : conditions.block block) : Does fits asks manner scope fun env => (parts env).execBlock scope block := by
  cases block with
  | nil => exact .pure trivial
  | cons first rest =>
    obtain ⟨line, statement⟩ := first
    simp only [List.cons.sizeOf_spec, NumberedStatement.mk.sizeOf_spec] at small
    obtain ⟨here, later⟩ := blocks.heredity.cons meets
    have acts := blocks.statement scope statement (by omega) here
    refine (Acts.pass line marks acts).bind fun completion _ => ?_
    cases completion with
    | normal => exact blocks.block scope rest (by omega) later
    | returned | broken => exact .pure trivial

end

/-! ## What a tree is made of -/

/-- The evaluation of trees that meet some conditions can be made of questions to a runner, in some manner. -/
structure Evaluates (fits : Code → Prop) (asks : FrameId → (α : Type) → (Runner → Eval α) → Prop) (manner : Manner)
    (conditions : Conditions) : Prop where
  heredity : conditions.Hereditary
  literal : ∀ body, conditions.body body → fits (.block body)
  run : AsksRuns fits asks manner fun runner => runner
  load : ∀ scope path localName, conditions.statement (.importModule path localName) →
    Does fits asks manner scope fun runner => Module.load runner scope (moduleName path)
  marks : manner.marks = true
  allows : ∀ statement, conditions.statement statement → manner.Allows statement

section

variable {fits : Code → Prop} {asks : FrameId → (α : Type) → (Runner → Eval α) → Prop} {manner : Manner}
  {conditions : Conditions} (evaluates : Evaluates fits asks manner conditions) (loopSteps : Nat) (scope : FrameId)

include evaluates

/-- The evaluators are made of what they ask a runner for. The induction is on the size of trees, and each
node is made of its parts. -/
theorem Evaluates.answers (size : Nat) :
    BlockAnswers fits asks manner (fun runner => Parts.ofEngine ⟨runner, loopSteps⟩) conditions size := by
  have ⟨heredity, literal, run, load, marks, allows⟩ := evaluates
  induction size with
  | zero =>
    exact ⟨⟨heredity, literal, run, load, fun _ _ small => by omega, fun _ _ _ small => by omega⟩,
      fun _ _ small => by omega, fun _ _ small => by omega⟩
  | succ size ih =>
    have block (scope : FrameId) (block : Block) (small : sizeOf block < size + 1) (meets : conditions.block block) :
        Does fits asks manner scope fun runner => execBlock ⟨runner, loopSteps⟩ scope block := by
      have same : (fun runner => execBlock ⟨runner, loopSteps⟩ scope block) = _ := funext fun _ => execBlock_eq _ _ _
      exact same ▸ acts_block ih marks (Nat.le_of_lt_succ small) meets
    refine ⟨⟨heredity, literal, run, load, fun scope expr small meets => ?_, fun inner body _ => block inner body⟩,
      fun scope statement small meets => ?_, block⟩
    · have same : (fun runner => evalExpr ⟨runner, loopSteps⟩ scope expr) = _ := funext fun _ => evalExpr_eq _ _ _
      exact same ▸ acts_expression ih.toAnswers (Nat.le_of_lt_succ small) meets
    · have same : (fun runner => execStatement ⟨runner, loopSteps⟩ scope statement) = _ :=
        funext fun _ => execStatement_eq _ _ _
      exact same ▸ acts_statement ih loopSteps (Nat.le_of_lt_succ small) meets (allows statement meets)

/-- The execution of a statement is made of what it asks a runner for. -/
theorem Evaluates.acts_execStatement {statement : Statement} (meets : conditions.statement statement) :
    Does fits asks manner scope fun runner => execStatement ⟨runner, loopSteps⟩ scope statement :=
  (evaluates.answers loopSteps (sizeOf statement + 1)).statement scope statement (Nat.lt_succ_self _) meets

/-- The execution of a block is made of what it asks a runner for. -/
theorem Evaluates.acts_execBlock {block : Block} (meets : conditions.block block) :
    Does fits asks manner scope fun runner => execBlock ⟨runner, loopSteps⟩ scope block :=
  (evaluates.answers loopSteps (sizeOf block + 1)).block scope block (Nat.lt_succ_self _) meets

end

/-- The question how code of one kind runs in a frame. -/
inductive RunsCode (fits : Code → Prop) : FrameId → (α : Type) → (Runner → Eval α) → Prop where
  | run {scope : FrameId} {code : Code} (fit : fits code) :
      RunsCode fits scope Completion fun runner => runner scope code

theorem asksRuns_runsCode {fits : Code → Prop} {manner : Manner} :
    AsksRuns fits (RunsCode fits) manner fun runner => runner where
  run _ _ _ fit := .run fit

/-- The kind of code goes over to the bodies in it: a body of the kind meets some conditions, and the bodies of
trees that do are of the kind. -/
structure Inherits (fits : Code → Prop) (conditions : Conditions) : Prop extends Admits fits where
  heredity : conditions.Hereditary
  literal : ∀ body, conditions.body body → fits (.block body)
  block : ∀ body, fits (.block body) → conditions.block body

/-- Code of such a kind can be made in a free manner of questions about such code. -/
theorem Inherits.evaluates {fits : Code → Prop} {conditions : Conditions} (inherits : Inherits fits conditions)
    {manner : Manner} (free : manner.catches = true ∧ manner.marks = true ∧ manner.rebinds = true)
    (loads : manner.loads = true) : Evaluates fits (RunsCode fits) manner conditions where
  heredity := inherits.heredity
  literal := inherits.literal
  run := asksRuns_runsCode
  load scope path _ _ := acts_load asksRuns_runsCode loads inherits.toAdmits scope (moduleName path)
  marks := free.2.1
  allows _ _ := ⟨fun _ _ _ _ => free.1, fun _ _ _ _ => free.2.2⟩

/-- All code is of the kind of all code. -/
theorem inherits_all : Inherits (fun _ => True) .none where
  native _ := trivial
  program _ _ _ _ _ := trivial
  heredity := Conditions.hereditary_none
  literal _ _ := trivial
  block _ _ := trivial

end LineScript
