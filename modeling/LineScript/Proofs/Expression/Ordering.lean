import LineScript.Proofs.Expression.Printing

/-!
# Postfix order of printed expressions

The tokens of a tree in infix order become the items of the tree in postfix order
(`toPostfix_infix`). Halfway through an expression some operators have been put out and others still
wait, so the invariant speaks about both. `Waiting least entries items` is what a tree leaves on the stack:
operators of at least its own priority, which put out the given items when they are released. `Holds
priority stack` is what a tree asks of the stack below it: no binary operator that can stand in the tree
outside parentheses releases anything from there. A unary operator goes on the stack without a release; it
holds against the operators of its operand because no binary operator has the priority of a unary one.
-/

set_option autoImplicit false

namespace LineScript.Expression

/-- The items are the tree in postfix order, and no operand is longer than the limit. -/
inductive Postfix (limit : Nat) : Expr → List PostfixItem → Prop where
  | operand {tree : Expr} {cs : List Char} (printed : Operand tree cs) (bound : cs.length ≤ limit) :
      Postfix limit tree [.operand cs]
  | binary (operator : BinaryOperator) {left right : Expr} {first second : List PostfixItem}
      (leftOrder : Postfix limit left first) (rightOrder : Postfix limit right second) :
      Postfix limit (.binary operator left right) (first ++ second ++ [.binary operator])
  | unary (operator : UnaryOperator) {tree : Expr} {items : List PostfixItem}
      (order : Postfix limit tree items) : Postfix limit (.unary operator tree) (items ++ [.unary operator])

/-- No operand among the tokens is longer than the limit. -/
def OperandsWithin (limit : Nat) (tokens : List Token) : Prop :=
  ∀ cs, Token.operand cs ∈ tokens → cs.length ≤ limit

theorem OperandsWithin.subset {limit : Nat} {tokens others : List Token} (within : OperandsWithin limit tokens)
    (subset : others ⊆ tokens) : OperandsWithin limit others :=
  fun cs member => within cs (subset member)

/-! ## The stack of waiting operators -/

/-- The entries are operators of at least the priority, and these are their items. -/
inductive Waiting (least : Nat) : List Pending → List PostfixItem → Prop where
  | nil : Waiting least [] []
  | cons {entry : Pending} {item : PostfixItem} {priority : Nat} {entries : List Pending}
      {items : List PostfixItem} (operator : entry.operator? = some (item, priority))
      (bound : least ≤ priority) (rest : Waiting least entries items) :
      Waiting least (entry :: entries) (item :: items)

/-- No binary operator of at least the priority releases anything from the stack. -/
def Holds (priority : Nat) (stack : List Pending) : Prop :=
  ∀ operator : BinaryOperator, priority ≤ operator.priority → release operator.priority stack = ([], stack)

theorem Waiting.mono {least bound : Nat} {entries : List Pending} {items : List PostfixItem}
    (waiting : Waiting least entries items) (below : bound ≤ least) : Waiting bound entries items := by
  induction waiting with
  | nil => exact .nil
  | cons operator atLeast _ ih => exact .cons operator (Nat.le_trans below atLeast) ih

theorem Waiting.append {least : Nat} {above below : List Pending} {first second : List PostfixItem}
    (upper : Waiting least above first) (lower : Waiting least below second) :
    Waiting least (above ++ below) (first ++ second) := by
  induction upper with
  | nil => exact lower
  | cons operator atLeast _ ih => exact .cons operator atLeast ih

/-- Operators of at least the priority are released whole. -/
theorem release_waiting {least : Nat} {entries below stack : List Pending} {items : List PostfixItem}
    (waiting : Waiting least entries items) (stops : release least below = ([], stack)) :
    release least (entries ++ below) = (items, stack) := by
  induction waiting with
  | nil => exact stops
  | cons operator atLeast _ ih => rw [List.cons_append, release, operator]; simp only [if_pos atLeast, ih]

theorem release_opening (least : Nat) (stack : List Pending) :
    release least (.opening :: stack) = ([], .opening :: stack) := by
  rw [release, Pending.operator?]

theorem holds_nil (priority : Nat) : Holds priority [] :=
  fun _ _ => rfl

theorem holds_opening (priority : Nat) (stack : List Pending) : Holds priority (.opening :: stack) :=
  fun _ _ => release_opening _ stack

theorem Holds.mono {priority higher : Nat} {stack : List Pending} (holds : Holds priority stack)
    (above : priority ≤ higher) : Holds higher stack :=
  fun operator atLeast => holds operator (Nat.le_trans above atLeast)

theorem holds_binary {operator : BinaryOperator} {priority : Nat} (above : operator.priority < priority)
    (stack : List Pending) : Holds priority (.binary operator :: stack) := by
  intro next atLeast
  rw [release, Pending.operator?]
  simp only [if_neg (Nat.not_le_of_lt (Nat.lt_of_lt_of_le above atLeast))]

theorem unary_priority_ne (unary : UnaryOperator) (binary : BinaryOperator) : unary.priority ≠ binary.priority := by
  rcases binary with operator | connective
  · cases operator <;> cases unary <;> decide
  · cases connective <;> cases unary <;> decide

theorem holds_unary {operator : UnaryOperator} {priority : Nat} (above : operator.priority ≤ priority)
    (stack : List Pending) : Holds priority (.unary operator :: stack) := by
  intro next atLeast
  have different := unary_priority_ne operator next
  rw [release, Pending.operator?]
  simp only [if_neg (show ¬next.priority ≤ operator.priority by omega)]

/-! ## Trees -/

/-- Reading the tokens of a tree puts out a first part of its postfix order and leaves the rest waiting. -/
theorem Infix.shunt_append {limit : Nat} : ∀ {tree : Expr} {level : Nat} {tokens : List Token},
    Infix tree level tokens → OperandsWithin limit tokens →
    ∃ out entries items, Waiting level entries items ∧ Postfix limit tree (out ++ items) ∧
      ∀ stack more, Holds level stack →
        shunt stack (tokens ++ more) = (shunt (entries ++ stack) more).map (out ++ ·)
  | _, _, _, .operand printed, within => by
    have bound := within _ (.head _)
    exact ⟨[.operand _], [], [], .nil, .operand printed bound, fun _ _ _ => rfl⟩
  | _, _, _, .binary operator leftOrder rightOrder leftBinds rightBinds, within => by
    obtain ⟨out, entries, items, waiting, postorder, shunted⟩ :=
      leftOrder.shunt_append (within.subset (List.subset_append_left _ _))
    obtain ⟨out', entries', items', waiting', postorder', shunted'⟩ :=
      rightOrder.shunt_append (within.subset fun _ member => by simp [member])
    refine ⟨out ++ items ++ out', entries' ++ [.binary operator], items' ++ [.binary operator], ?_, ?_, ?_⟩
    · exact (waiting'.mono rightBinds.le).append (.cons rfl (Nat.le_refl _) .nil)
    · simpa only [List.append_assoc] using Postfix.binary operator postorder postorder'
    · intro stack more holds
      -- the operators that wait from the left operand bind at least as tightly, so this one releases them
      have released := release_waiting (waiting.mono leftBinds) (holds operator (Nat.le_refl _))
      rw [List.append_assoc, shunted stack _ (holds.mono leftBinds), List.cons_append, shunt, released]
      simp only [shunted' _ more (holds_binary rightBinds stack), Option.map_map, List.append_assoc,
        List.singleton_append, Function.comp_def]
  | _, _, _, .unary operator order binds, within => by
    obtain ⟨out, entries, items, waiting, postorder, shunted⟩ :=
      order.shunt_append (within.subset (List.subset_cons_self _ _))
    refine ⟨out, entries ++ [.unary operator], items ++ [.unary operator], ?_, ?_, ?_⟩
    · exact (waiting.mono binds).append (.cons rfl (Nat.le_refl _) .nil)
    · simpa only [List.append_assoc] using Postfix.unary operator postorder
    · intro stack more _
      rw [List.cons_append, shunt, shunted _ more (holds_unary binds stack), List.append_assoc,
        List.singleton_append]
  | _, _, _, .parenthesized order, within => by
    obtain ⟨out, entries, items, waiting, postorder, shunted⟩ :=
      order.shunt_append (within.subset fun _ member => by simp [member])
    refine ⟨out ++ items, [], [], .nil, by rwa [List.append_nil], ?_⟩
    intro stack more _
    have released := release_waiting (waiting.mono (Nat.zero_le _)) (release_opening 0 stack)
    rw [List.cons_append, List.append_assoc, shunt, shunted _ _ (holds_opening _ stack),
      List.singleton_append, shunt, released]
    simp only [Option.map_map, List.append_assoc, Function.comp_def, List.nil_append]

/-- The tokens of a tree become its postfix order. -/
theorem toPostfix_infix {limit : Nat} {tree : Expr} {level : Nat} {tokens : List Token}
    (order : Infix tree level tokens) (within : OperandsWithin limit tokens) :
    ∃ items, toPostfix tokens = .ok items ∧ Postfix limit tree items := by
  obtain ⟨out, entries, items, waiting, postorder, shunted⟩ := order.shunt_append within
  have released := release_waiting (waiting.mono (Nat.zero_le _)) (show release 0 [] = ([], []) from rfl)
  have whole := shunted [] [] (holds_nil level)
  rw [List.append_nil, shunt, released, Option.map_some] at whole
  exact ⟨out ++ items, by rw [toPostfix, whole], postorder⟩

end LineScript.Expression
