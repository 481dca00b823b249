import LineScript.Proofs.Expression.Shunting

/-!
# Infix order

An expression is an operand, an expression in parentheses, a unary operator with an expression after it, or a
binary operator with an expression on either side (`Derived`). Reading never checks this order. It checks that
the parentheses match and that operators find enough operands, and an operator finds those that stand before
it, wherever they stand: `a b +` is read like `a + b`.

One condition makes up for it. If nothing that starts an operand follows the end of another one directly
(`Apart`), the tokens that are read are the expressions (`derived_iff_leavesOne`). The proof follows the
tokens from left to right. There are never more operands than binary operators and the one place that is open
for an operand, and if all the places are filled in the end, every token stood where it may
(`Apart.completes`).
-/

set_option autoImplicit false

namespace LineScript.Expression

open LineScript.Source

/-! ## The grammar -/

/-- The tokens are an expression. -/
inductive Derived : List Token → Prop where
  | operand (cs : List Char) : Derived [.operand cs]
  | group {tokens : List Token} : Derived tokens → Derived (.opening :: (tokens ++ [.closing]))
  | unary (operator : UnaryOperator) {tokens : List Token} : Derived tokens → Derived (.unary operator :: tokens)
  | binary (operator : BinaryOperator) {left right : List Token} :
      Derived left → Derived right → Derived (left ++ .binary operator :: right)

/-- The tokens complete an expression, from left to right: where an operand is expected or where one has just
ended, inside a number of parentheses. -/
inductive Completes : Bool → Nat → List Token → Prop where
  | done : Completes false 0 []
  | operand (cs : List Char) {depth : Nat} {tokens : List Token} :
      Completes false depth tokens → Completes true depth (.operand cs :: tokens)
  | opening {depth : Nat} {tokens : List Token} :
      Completes true (depth + 1) tokens → Completes true depth (.opening :: tokens)
  | unary (operator : UnaryOperator) {depth : Nat} {tokens : List Token} :
      Completes true depth tokens → Completes true depth (.unary operator :: tokens)
  | binary (operator : BinaryOperator) {depth : Nat} {tokens : List Token} :
      Completes true depth tokens → Completes false depth (.binary operator :: tokens)
  | closing {depth : Nat} {tokens : List Token} :
      Completes false depth tokens → Completes false (depth + 1) (.closing :: tokens)

theorem Derived.completes_append {tokens : List Token} (derived : Derived tokens) {depth : Nat} {more : List Token}
    (rest : Completes false depth more) : Completes true depth (tokens ++ more) := by
  induction derived generalizing depth more with
  | operand cs => exact .operand cs rest
  | group _ ih =>
    rw [List.cons_append, List.append_assoc]
    exact .opening (ih (.closing rest))
  | unary operator _ ih => exact .unary operator (ih rest)
  | binary operator _ _ ihLeft ihRight =>
    rw [List.append_assoc, List.cons_append]
    exact ihLeft (.binary operator (ihRight rest))

/-- After any expression, the tokens go on with it. -/
def Continues (tokens : List Token) : Prop :=
  ∀ first, Derived first → Derived (first ++ tokens)

theorem Completes.levels {expects : Bool} {depth : Nat} {tokens : List Token}
    (completes : Completes expects depth tokens) :
    Levels .closing Continues (if expects then Derived else Continues) depth tokens := by
  have ended : Continues [] := fun first derived => by rwa [List.append_nil]
  induction completes with
  | done => exact ended
  | operand cs _ ih => exact ih.prepend [.operand cs] fun part goes => goes _ (.operand cs)
  | unary operator _ ih => exact ih.prepend [.unary operator] fun part derived => derived.unary operator
  | binary operator _ ih =>
    have goes : ∀ part, Derived part → Continues ([.binary operator] ++ part) :=
      fun part derived first before => before.binary operator derived
    exact ih.prepend [.binary operator] goes
  | closing _ ih => exact ⟨[], _, rfl, ended, ih⟩
  | opening _ ih =>
    obtain ⟨part, rest, rfl, derived, others⟩ := ih
    have group : Levels .closing Continues Derived _ (.opening :: (part ++ [.closing]) ++ rest) :=
      others.prepend _ fun more goes => goes _ (.group derived)
    simpa using group

/-- The grammar can be followed from left to right. -/
theorem derived_iff_completes (tokens : List Token) : Derived tokens ↔ Completes true 0 tokens := by
  constructor
  · intro derived
    have whole := derived.completes_append .done
    rwa [List.append_nil] at whole
  · exact Completes.levels

/-! ## Expressions are read -/

/-- Tokens that complete an expression have a postfix list that leaves one tree. -/
theorem Completes.height {expects : Bool} {depth : Nat} {tokens : List Token}
    (completes : Completes expects depth tokens) (stack : List Pending) (opened : openings stack = depth) :
    ∃ items, shunt stack tokens = some items ∧
      heightAfter (binaries stack + if expects then 0 else 1) items = some 1 := by
  induction completes generalizing stack with
  | done =>
    rcases shunt_nil stack with ⟨items, released, shunted⟩ | ⟨open_left, _⟩
    · refine ⟨items, shunted, ?_⟩
      have height := released.heightAfter_eq []
      rwa [List.append_nil] at height
    · exact absurd opened open_left
  | operand cs _ ih =>
    obtain ⟨items, shunted, height⟩ := ih stack opened
    exact ⟨.operand cs :: items, by rw [shunt, shunted]; rfl, height⟩
  | opening _ ih => exact ih (.opening :: stack) (by simp [opened])
  | unary operator _ ih => exact ih (.unary operator :: stack) (by simp [opened])
  | binary operator _ ih =>
    obtain ⟨out, below, released, equal⟩ := shunt_binary stack operator _
    obtain ⟨items, shunted, height⟩ := ih (.binary operator :: below)
      (by simp [released.openings_eq, opened])
    refine ⟨out ++ items, by rw [equal, shunted]; rfl, ?_⟩
    exact (released.heightAfter_eq items).trans height
  | closing _ ih =>
    rcases shunt_closing stack _ with ⟨out, below, released, equal⟩ | ⟨none_open, _⟩
    · have same := released.openings_eq
      obtain ⟨items, shunted, height⟩ := ih below (by simp at same; omega)
      refine ⟨out ++ items, by rw [equal, shunted]; rfl, ?_⟩
      exact (released.heightAfter_eq items).trans height
    · omega

/-! ## What is read is an expression -/

/-- The token starts an operand. -/
def Token.startsOperand : Token → Bool
  | .operand _ | .unary _ | .opening => true
  | .binary _ | .closing => false

/-- What starts an operand stands only where an operand is expected, at the start or after an operator or an
opening parenthesis. -/
def Apart : Bool → List Token → Prop
  | _, [] => True
  | expects, token :: tokens => (token.startsOperand = true → expects = true) ∧ Apart token.expectsOperand tokens

theorem Completes.apart {expects : Bool} {depth : Nat} {tokens : List Token}
    (completes : Completes expects depth tokens) : Apart expects tokens := by
  induction completes with
  | done => trivial
  | operand _ _ ih => exact ⟨fun _ => rfl, ih⟩
  | opening _ ih => exact ⟨fun _ => rfl, ih⟩
  | unary _ _ ih => exact ⟨fun _ => rfl, ih⟩
  | binary _ _ ih => exact ⟨fun starts => absurd starts Bool.false_ne_true, ih⟩
  | closing _ ih => exact ⟨fun starts => absurd starts Bool.false_ne_true, ih⟩

/-- There are at most as many operands as places for them, and tokens that fill all places complete an
expression. -/
theorem Apart.completes {expects : Bool} {depth : Nat} {tokens : List Token} (apart : Apart expects tokens)
    (closes : Closes depth tokens) :
    operandCount tokens ≤ binaryCount tokens + expects.toNat ∧
      (operandCount tokens = binaryCount tokens + expects.toNat → Completes expects depth tokens) := by
  induction tokens generalizing expects depth with
  | nil =>
    obtain rfl : depth = 0 := closes
    cases expects with
    | false => exact ⟨Nat.le_refl 0, fun _ => .done⟩
    | true => exact ⟨Nat.zero_le 1, fun filled => absurd filled (by decide)⟩
  | cons token tokens ih =>
    obtain ⟨place, rest⟩ := apart
    cases token with
    | operand cs =>
      obtain rfl := place rfl
      obtain ⟨bound, completes⟩ := ih rest closes
      simp only [operandCount, binaryCount, Token.expectsOperand, Bool.toNat_true, Bool.toNat_false]
        at bound completes ⊢
      exact ⟨by omega, fun filled => .operand cs (completes (by omega))⟩
    | opening =>
      obtain rfl := place rfl
      obtain ⟨bound, completes⟩ := ih rest closes
      exact ⟨bound, fun filled => .opening (completes filled)⟩
    | unary operator =>
      obtain rfl := place rfl
      obtain ⟨bound, completes⟩ := ih rest closes
      exact ⟨bound, fun filled => .unary operator (completes filled)⟩
    | binary operator =>
      -- an operator where an operand is expected leaves the place empty
      obtain ⟨bound, completes⟩ := ih rest closes
      simp only [operandCount, binaryCount, Token.expectsOperand, Bool.toNat_true] at bound completes ⊢
      cases expects with
      | true => exact ⟨by rw [Bool.toNat_true]; omega, fun filled => by rw [Bool.toNat_true] at filled; omega⟩
      | false => exact ⟨bound, fun filled => .binary operator (completes filled)⟩
    | closing =>
      obtain ⟨depth, rfl⟩ : ∃ less, depth = less + 1 := by
        cases depth with
        | zero => cases closes
        | succ depth => exact ⟨depth, rfl⟩
      obtain ⟨bound, completes⟩ := ih rest closes
      simp only [operandCount, binaryCount, Token.expectsOperand, Bool.toNat_false, Nat.add_zero]
        at bound completes ⊢
      cases expects with
      | true => exact ⟨by omega, fun filled => by rw [Bool.toNat_true] at filled; omega⟩
      | false => exact ⟨bound, fun filled => .closing (completes filled)⟩

/-! ## The order that is read -/

/-- The tokens have a postfix list, and it leaves one tree. -/
def LeavesOne (tokens : List Token) : Prop :=
  ∃ items, shunt [] tokens = some items ∧ heightAfter 0 items = some 1

/-- The expressions are the lists that leave one tree and keep operands apart. -/
theorem derived_iff_leavesOne (tokens : List Token) : Derived tokens ↔ LeavesOne tokens ∧ Apart true tokens := by
  rw [derived_iff_completes]
  constructor
  · intro completes
    exact ⟨completes.height [] rfl, completes.apart⟩
  · rintro ⟨⟨items, shunted, one⟩, apart⟩
    have closes : Closes 0 tokens := (shunt_isSome_iff [] tokens).mp (by rw [shunted]; rfl)
    have filled := height_of_toPostfix (by rw [toPostfix, shunted]) one
    exact (apart.completes closes).2 (by simpa [Nat.add_comm] using filled)

section

variable {site : Option Site} (text : List Char) {tokens : List Token}
  (operands : ∀ cs, .operand cs ∈ tokens → ∃ tree, Reads (readOperand site (readExpr site) cs) tree)

include operands

/-- Tokens with a postfix list that leaves one tree are read. -/
theorem LeavesOne.reads (leaves : LeavesOne tokens) :
    ∃ tree, Reads (readTokens site (readExpr site) text tokens) tree := by
  obtain ⟨items, shunted, one⟩ := leaves
  have ordered : toPostfix tokens = .ok items := by rw [toPostfix, shunted]
  obtain ⟨tree, reads⟩ := (fold_outcome text []
    fun cs member => operands cs (mem_toPostfix ordered _ member)).1 one
  exact ⟨tree, (reads_liftCause ordered).bind reads⟩

/-- Tokens are refused if their parentheses do not match or their postfix list does not leave one tree. -/
theorem fails_of_not_leavesOne (leaves : ¬LeavesOne tokens) :
    ∃ cause, cause.code ∈ ["E103", "E105"] ∧
      Fails (readTokens site (readExpr site) text tokens) (.reported cause site) := by
  cases shunted : shunt [] tokens with
  | none =>
    obtain ⟨cause, unordered, code⟩ : ∃ cause, toPostfix tokens = .error cause ∧ cause.code = "E105" :=
      ⟨_, by rw [toPostfix, shunted], rfl⟩
    refine ⟨cause, by simp [code], ?_⟩
    rw [readTokens, unordered]
    exact Fails.bind (Leads.refl _) _
  | some items =>
    have ordered : toPostfix tokens = .ok items := by rw [toPostfix, shunted]
    have fails := (fold_outcome text [] fun cs member => operands cs (mem_toPostfix ordered _ member)).2
      fun one => leaves ⟨items, shunted, one⟩
    exact ⟨_, by simp [ReadCause.code], ((reads_liftCause ordered).leads _).trans fails⟩

end

/-- Tokens whose operands are read: the expressions are those that are read and keep operands apart. What is
not read is refused for want of operands, or for parentheses that do not match. -/
theorem derived_iff_read_and_apart {site : Option Site} (text : List Char) {tokens : List Token}
    (operands : ∀ cs, .operand cs ∈ tokens →
      ∃ table tree table', readOperand site (readExpr site) cs table = .ok tree table') (table : Interner) :
    (Derived tokens ↔
      (∃ tree table', readTokens site (readExpr site) text tokens table = .ok tree table') ∧ Apart true tokens) ∧
    ((¬∃ tree table', readTokens site (readExpr site) text tokens table = .ok tree table') →
      ∃ cause table', readTokens site (readExpr site) text tokens table = .error (.reported cause site) table' ∧
        cause.code ∈ ["E103", "E105"]) := by
  have always : ∀ cs, .operand cs ∈ tokens → ∃ tree, Reads (readOperand site (readExpr site) cs) tree := by
    intro cs member
    obtain ⟨start, tree, table', read⟩ := operands cs member
    exact ⟨tree, ((settles_operand site cs).reads read).2⟩
  by_cases leaves : LeavesOne tokens
  · obtain ⟨tree, reads⟩ := leaves.reads text always
    obtain ⟨table', read⟩ := reads table
    have accepted : ∃ tree table', readTokens site (readExpr site) text tokens table = .ok tree table' :=
      ⟨tree, table', read⟩
    refine ⟨?_, fun refused => absurd accepted refused⟩
    rw [derived_iff_leavesOne]
    exact and_congr_left fun _ => iff_of_true leaves accepted
  · obtain ⟨cause, code, fails⟩ := fails_of_not_leavesOne text always leaves
    obtain ⟨table', refused⟩ := fails table
    have rejected : ¬∃ tree table', readTokens site (readExpr site) text tokens table = .ok tree table' := by
      rintro ⟨tree, last, read⟩
      cases read.symm.trans refused
    refine ⟨?_, fun _ => ⟨cause, table', refused, code⟩⟩
    rw [derived_iff_leavesOne]
    exact and_congr_left fun _ => iff_of_false leaves rejected

/-- The tokens of `-(a + b)` are an expression and are read. -/
theorem derived_iff_read_and_apart_in_group :
    let tokens : List Token := [.unary .negate, .opening, .operand ['a'], .binary (.apply .add), .operand ['b'],
      .closing]
    (∀ cs, .operand cs ∈ tokens → ∃ table tree table', readOperand none (readExpr none) cs table = .ok tree table') ∧
    (Derived tokens ↔
      (∃ tree table', readTokens none (readExpr none) [] tokens .empty = .ok tree table') ∧ Apart true tokens) := by
  intro tokens
  have operands : ∀ cs, .operand cs ∈ tokens →
      ∃ table tree table', readOperand none (readExpr none) cs table = .ok tree table' := by
    intro cs member
    simp [tokens] at member
    rcases member with rfl | rfl
    · exact ⟨.empty, .variable "a", ⟨["a"], []⟩, rfl⟩
    · exact ⟨.empty, .variable "b", ⟨["b"], []⟩, rfl⟩
  exact ⟨operands, (derived_iff_read_and_apart [] operands .empty).1⟩

/-- An operator that follows its operands is read: the tokens of `a b +` are no expression, and give the tree of
`a + b`. -/
theorem operator_after_operands_is_read :
    let tokens : List Token := [.operand ['a'], .operand ['b'], .binary (.apply .add)]
    readTokens none (readExpr none) [] tokens .empty =
      .ok (.binary (.apply .add) (.variable "a") (.variable "b")) ⟨["b", "a"], []⟩ ∧ ¬Derived tokens := by
  refine ⟨rfl, fun derived => ?_⟩
  have second := ((derived_iff_leavesOne _).mp derived).2.2.1
  exact absurd (second rfl) (by decide)

end LineScript.Expression
