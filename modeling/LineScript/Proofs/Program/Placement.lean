import LineScript.Program.Reader
import LineScript.Proofs.Expression.Leaves

/-!
# Where a loop may be left

A block is tight if every `break` in it stands in a loop of that block. The bodies of a tree are the bodies of its
functions, of its methods and of its classes, at any depth. A program is placed if it is tight and so are all bodies in it.
A statement below some loops is tight if there are none, and its bodies are tight (`StatementBelow`). An expression that
is read from a text has no bodies.
-/

set_option autoImplicit false

namespace LineScript

/-! ## Tight blocks -/

mutual

/-- Every `break` in the statement stands in a loop of the statement. -/
def Statement.Tight : Statement → Prop
  | .break => False
  | .choose _ consequent alternative => Tight.block consequent ∧ Tight.block alternative
  | .switch _ cases fallback => Tight.cases cases ∧ Tight.block fallback
  | .guard body _ handler => Tight.block body ∧ Tight.block handler
  | .loop _ _ | .expression _ | .assign _ _ _ | .nonlocal _ _ _ | .setProperty _ _ _ _ => True
  | .return _ | .throw _ | .importModule _ _ => True

def Tight.cases : List SwitchCase → Prop
  | [] => True
  | ⟨_, body⟩ :: cases => Tight.block body ∧ Tight.cases cases

/-- Every `break` in the block stands in a loop of the block. -/
def Tight.block : List NumberedStatement → Prop
  | [] => True
  | ⟨_, statement⟩ :: rest => statement.Tight ∧ Tight.block rest

end

/-! ## Bodies -/

mutual

/-- Every body in the expression satisfies a condition. -/
def Expr.EveryBody (holds : Block → Prop) : Expr → Prop
  | .null | .literal _ | .variable _ => True
  | .binary _ left right => left.EveryBody holds ∧ right.EveryBody holds
  | .unary _ operand => operand.EveryBody holds
  | .property target _ => target.EveryBody holds
  | .call callee arguments => callee.EveryBody holds ∧ EveryBody.exprs holds arguments
  | .list elements => EveryBody.exprs holds elements
  | .function ⟨_, _, body⟩ => holds body ∧ EveryBody.block holds body
  | .class ⟨_, _, methods, body⟩ =>
    EveryBody.methods holds methods ∧ holds body ∧ EveryBody.block holds body

def EveryBody.exprs (holds : Block → Prop) : List Expr → Prop
  | [] => True
  | expr :: exprs => expr.EveryBody holds ∧ EveryBody.exprs holds exprs

def EveryBody.methods (holds : Block → Prop) : List FunctionLiteral → Prop
  | [] => True
  | ⟨_, _, body⟩ :: methods => (holds body ∧ EveryBody.block holds body) ∧ EveryBody.methods holds methods

/-- Every body in the statement satisfies a condition. -/
def Statement.EveryBody (holds : Block → Prop) : Statement → Prop
  | .expression value | .assign _ _ value | .nonlocal _ _ value | .throw value => value.EveryBody holds
  | .setProperty target _ _ value => target.EveryBody holds ∧ value.EveryBody holds
  | .choose condition consequent alternative =>
    condition.EveryBody holds ∧ EveryBody.block holds consequent ∧ EveryBody.block holds alternative
  | .loop condition body => condition.EveryBody holds ∧ EveryBody.block holds body
  | .switch subject cases fallback =>
    subject.EveryBody holds ∧ EveryBody.cases holds cases ∧ EveryBody.block holds fallback
  | .return (some value) => value.EveryBody holds
  | .guard body _ handler => EveryBody.block holds body ∧ EveryBody.block holds handler
  | .return none | .break | .importModule _ _ => True

def EveryBody.cases (holds : Block → Prop) : List SwitchCase → Prop
  | [] => True
  | ⟨values, body⟩ :: cases =>
    (EveryBody.exprs holds values ∧ EveryBody.block holds body) ∧ EveryBody.cases holds cases

/-- Every body in the block satisfies a condition; the block itself is no body of its own. -/
def EveryBody.block (holds : Block → Prop) : List NumberedStatement → Prop
  | [] => True
  | ⟨_, statement⟩ :: rest => statement.EveryBody holds ∧ EveryBody.block holds rest

end

/-- The block and every body in it are tight: each `break` has a loop around it, with no function and no
class between the two. -/
def Placed (block : Block) : Prop :=
  Tight.block block ∧ EveryBody.block Tight.block block

mutual

/-- Whether a statement is tight is read off its blocks. -/
def Statement.decideTight : (statement : Statement) → Decidable statement.Tight
  | .break => isFalse id
  | .choose _ consequent alternative =>
    @instDecidableAnd _ _ (Tight.decideBlock consequent) (Tight.decideBlock alternative)
  | .switch _ cases fallback => @instDecidableAnd _ _ (Tight.decideCases cases) (Tight.decideBlock fallback)
  | .guard body _ handler => @instDecidableAnd _ _ (Tight.decideBlock body) (Tight.decideBlock handler)
  | .loop _ _ | .expression _ | .assign _ _ _ | .nonlocal _ _ _ | .setProperty _ _ _ _ => isTrue trivial
  | .return _ | .throw _ | .importModule _ _ => isTrue trivial

def Tight.decideCases : (cases : List SwitchCase) → Decidable (Tight.cases cases)
  | [] => isTrue trivial
  | ⟨_, body⟩ :: cases => @instDecidableAnd _ _ (Tight.decideBlock body) (Tight.decideCases cases)

def Tight.decideBlock : (block : List NumberedStatement) → Decidable (Tight.block block)
  | [] => isTrue trivial
  | ⟨_, statement⟩ :: rest => @instDecidableAnd _ _ statement.decideTight (Tight.decideBlock rest)

end

instance : DecidablePred Tight.block :=
  Tight.decideBlock

section

variable {holds : Block → Prop} [DecidablePred holds]

mutual

/-- Whether every body satisfies a condition is read off the bodies. -/
def Expr.decideEveryBody : (expr : Expr) → Decidable (expr.EveryBody holds)
  | .null | .literal _ | .variable _ => isTrue trivial
  | .binary _ left right => @instDecidableAnd _ _ left.decideEveryBody right.decideEveryBody
  | .unary _ operand => operand.decideEveryBody
  | .property target _ => target.decideEveryBody
  | .call callee arguments => @instDecidableAnd _ _ callee.decideEveryBody (EveryBody.decideExprs arguments)
  | .list elements => EveryBody.decideExprs elements
  | .function ⟨_, _, body⟩ => @instDecidableAnd _ _ inferInstance (EveryBody.decideBlock body)
  | .class ⟨_, _, methods, body⟩ =>
    @instDecidableAnd _ _ (EveryBody.decideMethods methods)
      (@instDecidableAnd _ _ inferInstance (EveryBody.decideBlock body))

def EveryBody.decideExprs : (exprs : List Expr) → Decidable (EveryBody.exprs holds exprs)
  | [] => isTrue trivial
  | expr :: exprs => @instDecidableAnd _ _ expr.decideEveryBody (EveryBody.decideExprs exprs)

def EveryBody.decideMethods : (methods : List FunctionLiteral) → Decidable (EveryBody.methods holds methods)
  | [] => isTrue trivial
  | ⟨_, _, body⟩ :: methods =>
    @instDecidableAnd _ _ (@instDecidableAnd _ _ inferInstance (EveryBody.decideBlock body))
      (EveryBody.decideMethods methods)

def Statement.decideEveryBody : (statement : Statement) → Decidable (statement.EveryBody holds)
  | .expression value | .assign _ _ value | .nonlocal _ _ value | .throw value => value.decideEveryBody
  | .setProperty target _ _ value => @instDecidableAnd _ _ target.decideEveryBody value.decideEveryBody
  | .choose condition consequent alternative =>
    @instDecidableAnd _ _ condition.decideEveryBody
      (@instDecidableAnd _ _ (EveryBody.decideBlock consequent) (EveryBody.decideBlock alternative))
  | .loop condition body => @instDecidableAnd _ _ condition.decideEveryBody (EveryBody.decideBlock body)
  | .switch subject cases fallback =>
    @instDecidableAnd _ _ subject.decideEveryBody
      (@instDecidableAnd _ _ (EveryBody.decideCases cases) (EveryBody.decideBlock fallback))
  | .return (some value) => value.decideEveryBody
  | .guard body _ handler => @instDecidableAnd _ _ (EveryBody.decideBlock body) (EveryBody.decideBlock handler)
  | .return none | .break | .importModule _ _ => isTrue trivial

def EveryBody.decideCases : (cases : List SwitchCase) → Decidable (EveryBody.cases holds cases)
  | [] => isTrue trivial
  | ⟨values, body⟩ :: cases =>
    @instDecidableAnd _ _ (@instDecidableAnd _ _ (EveryBody.decideExprs values) (EveryBody.decideBlock body))
      (EveryBody.decideCases cases)

def EveryBody.decideBlock : (block : List NumberedStatement) → Decidable (EveryBody.block holds block)
  | [] => isTrue trivial
  | ⟨_, statement⟩ :: rest => @instDecidableAnd _ _ statement.decideEveryBody (EveryBody.decideBlock rest)

end

end

instance : DecidablePred Placed :=
  fun block => @instDecidableAnd _ _ (Tight.decideBlock block) (EveryBody.decideBlock block)

/-- A function in a loop is no place to leave the loop. -/
example : ¬ Placed [⟨1, .loop .null [⟨2, .expression (.function ⟨"f", [], [⟨3, .break⟩]⟩)⟩]⟩] := by decide

theorem everyBody_exprs {holds : Block → Prop} {exprs : List Expr} :
    EveryBody.exprs holds exprs ↔ ∀ expr ∈ exprs, expr.EveryBody holds := by
  induction exprs with
  | nil => simp [EveryBody.exprs]
  | cons expr exprs ih => simp [EveryBody.exprs, ih]

theorem everyBody_methods {holds : Block → Prop} {methods : List FunctionLiteral} :
    EveryBody.methods holds methods ↔ ∀ method ∈ methods, holds method.body ∧ EveryBody.block holds method.body := by
  induction methods with
  | nil => simp [EveryBody.methods]
  | cons method methods ih =>
    obtain ⟨name, parameters, body⟩ := method
    simp [EveryBody.methods, ih]

/-! ## What actions ensure -/

section

variable {ε σ α β : Type} {holds : α → Prop} {holds' : β → Prop}

/-- Every value that the action gives satisfies a condition. -/
def Ensures (holds : α → Prop) (action : EStateM ε σ α) : Prop :=
  ∀ state value after, action state = .ok value after → holds value

theorem Ensures.pure {value : α} (good : holds value) : Ensures holds (Pure.pure value : EStateM ε σ α) := by
  intro state result after equal
  cases equal
  exact good

theorem Ensures.throw (error : ε) : Ensures holds (throw error : EStateM ε σ α) :=
  fun _ _ _ equal => nomatch equal

theorem Ensures.bind {action : EStateM ε σ α} {next : α → EStateM ε σ β} (first : Ensures holds action)
    (rest : ∀ value, holds value → Ensures holds' (next value)) : Ensures holds' (action >>= next) := by
  intro state result after equal
  simp only [Bind.bind, EStateM.bind] at equal
  cases run : action state with
  | ok value middle =>
    rw [run] at equal
    exact rest value (first state value middle run) middle result after equal
  | error error middle =>
    rw [run] at equal
    cases equal

/-- An action of whose value nothing is needed, before another. -/
theorem Ensures.after {action : EStateM ε σ α} {next : α → EStateM ε σ β}
    (rest : ∀ value, Ensures holds' (next value)) : Ensures holds' (action >>= next) :=
  Ensures.bind (fun _ _ _ _ => trivial : Ensures (fun _ => True) action) fun value _ => rest value

theorem Ensures.ite {condition : Prop} [Decidable condition] {first second : EStateM ε σ α} (yes : Ensures holds first)
    (no : Ensures holds second) : Ensures holds (if condition then first else second) := by
  by_cases condition
  · rwa [if_pos ‹_›]
  · rwa [if_neg ‹_›]

end

namespace Program

open LineScript.Text LineScript.Source LineScript.Expression

/-! ## Expressions have no bodies -/

theorem everyBody_of_built {holds : Block → Prop} {tree : Expr} {added : List Leaf} (built : Built tree added) :
    tree.EveryBody holds := by
  induction built with
  | null | literal | once | twice | nil => trivial
  | unary _ _ ih | property _ _ ih => exact ih
  | binary _ _ _ first second | call _ _ first second | cons _ _ first second => exact ⟨first, second⟩

/-! ## Statements -/

/-- What is read below some loops: tight if there are none, and with tight bodies. -/
def Below (loops : Nat) (block : Block) : Prop :=
  (loops = 0 → Tight.block block) ∧ EveryBody.block Tight.block block

/-- A statement read below some loops: tight if there are none, and with tight bodies. -/
def StatementBelow (loops : Nat) (statement : Statement) : Prop :=
  (loops = 0 → statement.Tight) ∧ statement.EveryBody Tight.block

theorem Below.nil (loops : Nat) : Below loops [] :=
  ⟨fun _ => trivial, trivial⟩

theorem Below.cons {loops : Nat} {statement : Statement} {block : Block} (first : StatementBelow loops statement)
    (rest : Below loops block) (line : Int) : Below loops (⟨line, statement⟩ :: block) :=
  ⟨fun none => ⟨first.1 none, rest.1 none⟩, first.2, rest.2⟩

/-- Below no loops, a body is tight and so are the bodies in it. -/
theorem Below.placed {block : Block} (below : Below 0 block) : Placed block :=
  ⟨below.1 rfl, below.2⟩

theorem placed_addMethod {method : FunctionLiteral} (placed : Placed method.body) {methods : List FunctionLiteral}
    (all : ∀ other ∈ methods, Placed other.body) : ∀ other ∈ addMethod method methods, Placed other.body := by
  induction methods with
  | nil => simpa [addMethod] using placed
  | cons first methods ih =>
    intro other member
    rw [addMethod] at member
    split at member
    · rcases List.mem_cons.mp member with rfl | member
      · exact placed
      · exact all other (.tail _ member)
    · rcases List.mem_cons.mp member with rfl | member
      · exact all _ (.head _)
      · exact ih (fun later inside => all later (.tail _ inside)) other member

end Program

end LineScript
