import LineScript.Proofs.Expression.Ordering
import LineScript.Proofs.Expression.Reading

/-!
# Printing and reading expressions

Reading a printed expression gives its tree (`readExpr_printed`). The tokenizer finds the tokens, their
postfix order is that of the tree, and folding it over a stack builds the tree. The expressions inside
operands are read by the same reader with a smaller bound, and the induction is on that bound.
-/

set_option autoImplicit false

namespace LineScript.Expression

open LineScript.Text LineScript.Source LineScript.Number

/-! ## Folding -/

section

variable (site : Option Site) {readInner : List Char → ReadM Expr} (text : List Char)

theorem fold_operand (stack : List Expr) (cs : List Char) (items : List PostfixItem) :
    fold site readInner text stack (.operand cs :: items) =
      readOperand site readInner cs >>= fun node => fold site readInner text (node :: stack) items := by
  rcases stack with _ | ⟨_, _ | _⟩ <;> rfl

theorem fold_unary (operator : UnaryOperator) (tree : Expr) (stack : List Expr) (items : List PostfixItem) :
    fold site readInner text (tree :: stack) (.unary operator :: items) =
      fold site readInner text (.unary operator tree :: stack) items := by
  cases stack <;> rfl

/-- Folding the postfix order of a tree leaves the tree on the stack. -/
theorem Postfix.fold_append {limit : Nat} (reads : ReadsBelow limit readInner) {tree : Expr}
    {items : List PostfixItem} (order : Postfix limit tree items) :
    ∀ stack more, Leads (fold site readInner text stack (items ++ more))
      (fold site readInner text (tree :: stack) more) := by
  induction order with
  | operand printed bound =>
    intro stack more
    rw [List.singleton_append, fold_operand]
    exact (printed.reads (reads.mono bound)).leads _
  | binary operator _ _ leftIh rightIh =>
    intro stack more
    rw [List.append_assoc, List.append_assoc]
    exact (leftIh stack _).trans ((rightIh _ _).trans (Leads.refl _))
  | unary operator _ ih =>
    intro stack more
    rw [List.append_assoc]
    refine (ih stack _).trans ?_
    rw [List.singleton_append, fold_unary]
    exact Leads.refl _

end

/-! ## Whole expressions -/

theorem Spaced.length_le {tokens : List Token} {cs : List Char} (spaced : Spaced tokens cs) :
    OperandsWithin cs.length tokens := by
  induction spaced with
  | one token =>
    intro operand member
    rw [← List.mem_singleton.mp member]
    exact Nat.le_refl _
  | more token between spaced ih =>
    intro operand member
    rw [List.length_append, List.length_append]
    rcases List.mem_cons.mp member with equal | member
    · rw [← equal, Token.written]
      omega
    · have bound := ih operand member
      omega

/-- A printed expression below the bound is read. -/
theorem readsBelow_readNested (site : Option Site) (fuel : Nat) : ReadsBelow fuel (readNested site fuel) := by
  induction fuel with
  | zero => exact fun _ short => absurd short (Nat.not_lt_zero _)
  | succ fuel ih =>
    intro tree cs printed short
    cases printed with
    | @spaced _ level tokens before core after blankBefore order spaced blankAfter =>
      have solid := order.solid spaced
      have bound : core.length ≤ fuel := by
        simp only [List.length_append] at short
        omega
      obtain ⟨items, ordered, postorder⟩ := toPostfix_infix order spaced.length_le
      have nonempty : ¬core.isEmpty = true := by
        rw [List.isEmpty_iff]
        exact solid.ne_nil
      rw [readNested, trim_margins blankBefore solid blankAfter]
      simp only [if_neg nonempty, tokenize_spaced order spaced]
      refine (Reads.pure tokens).bind ((reads_liftCause ordered).bind ?_)
      have folded := postorder.fold_append site core (ih.mono bound) [] []
      rw [List.append_nil] at folded
      exact folded

theorem Printed.reads {tree : Expr} {cs : List Char} (printed : Printed tree cs) (site : Option Site) :
    Reads (readExpr site cs) tree :=
  readsBelow_readNested site (cs.length + 1) printed (Nat.lt_succ_self _)

end LineScript.Expression
