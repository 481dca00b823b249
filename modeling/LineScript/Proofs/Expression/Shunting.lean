import LineScript.Proofs.Expression.Outcomes

/-!
# Heights in postfix lists

A postfix list is folded into a tree if the number of trees on the stack suffices for every operator and is one at
the end (`heightAfter`); no other property of the list matters, as long as its operands can be read
(`fold_outcome`). The number is carried through `shunt` by what waits on its stack: each waiting binary operator
will take one tree off the height (`Released.heightAfter_eq`).
-/

set_option autoImplicit false

namespace LineScript.Expression

open LineScript.Source

/-! ## Heights -/

/-- The number of trees on the stack after the items, above a number of them; nothing if an operator lacks an
operand. -/
def heightAfter : Nat → List PostfixItem → Option Nat
  | height, [] => some height
  | height, .operand _ :: items => heightAfter (height + 1) items
  | height + 1, .unary _ :: items => heightAfter (height + 1) items
  | height + 2, .binary _ :: items => heightAfter (height + 1) items
  | _, _ => none

section

variable {site : Option Site} {readInner : List Char → ReadM Expr} (text : List Char)

/-- A list is folded into a tree if it leaves one tree, and refused if it does not. -/
theorem fold_outcome {items : List PostfixItem} (stack : List Expr)
    (operands : ∀ cs, .operand cs ∈ items → ∃ tree, Reads (readOperand site readInner cs) tree) :
    (heightAfter stack.length items = some 1 → ∃ tree, Reads (fold site readInner text stack items) tree) ∧
      (heightAfter stack.length items ≠ some 1 → Fails (fold site readInner text stack items)
        (.reported (.invalidExpression (String.ofList text)) site)) := by
  -- where an operand is missing, the fold stops and the height is lost
  have stops {reader : ReadM Expr} {height : Option Nat} {cause : ReadCause} (none_left : height ≠ some 1)
      (fails : Fails reader (.reported cause site)) :
      (height = some 1 → ∃ tree, Reads reader tree) ∧ (height ≠ some 1 → Fails reader (.reported cause site)) :=
    ⟨fun one => absurd one none_left, fun _ => fails⟩
  induction items generalizing stack with
  | nil =>
    rcases stack with _ | ⟨tree, _ | ⟨second, below⟩⟩
    · exact stops (by decide) (Leads.refl _)
    · exact ⟨fun _ => ⟨tree, Reads.pure tree⟩, fun other => absurd rfl other⟩
    · exact stops (by simp [heightAfter]) (Leads.refl _)
  | cons item items ih =>
    have rest := fun stack => ih stack fun cs member => operands cs (List.mem_cons_of_mem item member)
    cases item with
    | operand cs =>
      obtain ⟨node, reads⟩ := operands cs (.head _)
      obtain ⟨read, refuse⟩ := rest (node :: stack)
      rw [fold]
      refine ⟨fun one => ?_, fun other => (reads.leads _).trans (refuse other)⟩
      obtain ⟨tree, reads'⟩ := read one
      exact ⟨tree, reads.bind reads'⟩
    | binary operator =>
      rcases stack with _ | ⟨right, _ | ⟨left, below⟩⟩
      · exact stops (by simp [heightAfter]) (Leads.refl _)
      · exact stops (by simp [heightAfter]) (Leads.refl _)
      · exact rest (.binary operator left right :: below)
    | unary operator =>
      rcases stack with _ | ⟨operand, below⟩
      · exact stops (by simp [heightAfter]) (Leads.refl _)
      · rw [fold]
        exact rest (.unary operator operand :: below)

end

/-! ## What waits -/

/-- The number of binary operators that wait. -/
@[simp]
def binaries : List Pending → Nat
  | [] => 0
  | .binary _ :: below => binaries below + 1
  | _ :: below => binaries below

section

variable {stack rest : List Pending} {items : List PostfixItem}

/-- Above one tree more than there are binary operators, what is released finds its operands. -/
theorem Released.heightAfter_eq (released : Released stack items rest) (more : List PostfixItem) :
    heightAfter (binaries stack + 1) (items ++ more) = heightAfter (binaries rest + 1) more := by
  induction released with
  | stays => rfl
  | binary operator _ ih =>
    simp only [binaries, List.cons_append, heightAfter]
    exact ih
  | unary operator _ ih =>
    simp only [binaries, List.cons_append, heightAfter]
    exact ih

end

/-! ## Parentheses -/

section

variable {α : Type} (closing : α) (later : List α → Prop)

/-- A list has a first part up to the first of the closing parentheses that are due, and goes on with a later
part after each of them. -/
def Levels (first : List α → Prop) : Nat → List α → Prop
  | 0, list => first list
  | depth + 1, list => ∃ part rest, list = part ++ closing :: rest ∧ first part ∧ Levels later depth rest

variable {closing later}

theorem Levels.prepend {first second : List α → Prop} (front : List α)
    (lead : ∀ part, first part → second (front ++ part)) {depth : Nat} {list : List α}
    (levels : Levels closing later first depth list) : Levels closing later second depth (front ++ list) := by
  cases depth with
  | zero => exact lead list levels
  | succ depth =>
    obtain ⟨part, rest, rfl, holds, others⟩ := levels
    exact ⟨front ++ part, rest, (List.append_assoc ..).symm, lead part holds, others⟩

end

/-! ## Operands and binary operators -/

/-- The number of operands among the tokens. -/
@[simp]
def operandCount : List Token → Nat
  | [] => 0
  | .operand _ :: tokens => operandCount tokens + 1
  | _ :: tokens => operandCount tokens

/-- The number of binary operators among the tokens. -/
@[simp]
def binaryCount : List Token → Nat
  | [] => 0
  | .binary _ :: tokens => binaryCount tokens + 1
  | _ :: tokens => binaryCount tokens

def Token.isBinary : Token → Bool
  | .binary _ => true
  | _ => false

theorem operandCount_eq (tokens : List Token) : operandCount tokens = tokens.countP Token.isOperand := by
  induction tokens with
  | nil => rfl
  | cons token tokens ih => cases token <;> simp [ih, List.countP_cons, Token.isOperand]

theorem binaryCount_eq (tokens : List Token) : binaryCount tokens = tokens.countP Token.isBinary := by
  induction tokens with
  | nil => rfl
  | cons token tokens ih => cases token <;> simp [ih, List.countP_cons, Token.isBinary]

/-- The height at the end counts the operands up and the binary operators down. -/
theorem height_of_items {items : List PostfixItem} {height last : Nat} (reaches : heightAfter height items = some last) :
    height + operandCount (items.map PostfixItem.token) = last + binaryCount (items.map PostfixItem.token) := by
  induction items generalizing height with
  | nil =>
    cases reaches
    rfl
  | cons item items ih =>
    cases item with
    | operand text =>
      have rest := ih reaches
      simp only [List.map_cons, PostfixItem.token, operandCount, binaryCount]
      omega
    | unary operator =>
      rcases height with _ | height
      · cases reaches
      · exact ih reaches
    | binary operator =>
      rcases height with _ | _ | height
      · cases reaches
      · cases reaches
      · have rest := ih reaches
        simp only [List.map_cons, PostfixItem.token, operandCount, binaryCount]
        omega

theorem height_of_toPostfix {tokens : List Token} {items : List PostfixItem} {height last : Nat}
    (ordered : toPostfix tokens = .ok items) (reaches : heightAfter height items = some last) :
    height + operandCount tokens = last + binaryCount tokens := by
  have operand (token : Token) : (token.isOperand && !token.isParenthesis) = token.isOperand := by cases token <;> rfl
  have binary (token : Token) : (token.isBinary && !token.isParenthesis) = token.isBinary := by cases token <;> rfl
  have perm := toPostfix_perm ordered
  have balance := height_of_items reaches
  rw [operandCount_eq, binaryCount_eq, perm.countP_eq, perm.countP_eq, List.countP_filter, List.countP_filter] at balance
  simpa only [operandCount_eq, binaryCount_eq, operand, binary] using balance

end LineScript.Expression
