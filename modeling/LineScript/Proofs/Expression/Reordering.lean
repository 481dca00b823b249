import LineScript.Expression.Postfix
import Mathlib.Data.List.Basic

/-!
# What postfix order changes

Tokens have a postfix list if their parentheses match (`shunt_isSome_iff`): the depth, which is the number of opening
parentheses on the stack, never falls below zero and ends there (`Closes`).

Putting tokens in postfix order drops the parentheses and moves operators back. That is said about occurrences: a
token is told from one that is equal to it by its position. What waits on the stack has positions too, and all of them
are before those of the tokens to come (`shunt_arranges`). So nothing that is put out later can have stood before an
operand that is put out already, whatever the tokens are.
-/

set_option autoImplicit false

namespace LineScript.Expression

/-! ## What waits -/

/-- The number of opening parentheses that wait. -/
@[simp]
def openings : List Pending → Nat
  | [] => 0
  | .opening :: below => openings below + 1
  | _ :: below => openings below

/-- Some operators on top of a stack are released, and the rest of it stays. -/
inductive Released : List Pending → List PostfixItem → List Pending → Prop where
  | stays (stack : List Pending) : Released stack [] stack
  | binary (operator : BinaryOperator) {stack rest : List Pending} {items : List PostfixItem} :
      Released stack items rest → Released (.binary operator :: stack) (.binary operator :: items) rest
  | unary (operator : UnaryOperator) {stack rest : List Pending} {items : List PostfixItem} :
      Released stack items rest → Released (.unary operator :: stack) (.unary operator :: items) rest

theorem released_release (least : Nat) (stack : List Pending) :
    ∃ items rest, release least stack = (items, rest) ∧ Released stack items rest ∧
      (least = 0 → rest = [] ∨ ∃ below, rest = .opening :: below) := by
  induction stack with
  | nil => exact ⟨[], [], rfl, .stays [], fun _ => .inl rfl⟩
  | cons entry below ih =>
    obtain ⟨items, rest, released, shape, stop⟩ := ih
    cases entry with
    | opening => exact ⟨[], _, rfl, .stays _, fun _ => .inr ⟨below, rfl⟩⟩
    | binary operator =>
      simp only [release, Pending.operator?, released]
      split
      · exact ⟨_, rest, rfl, .binary operator shape, stop⟩
      · exact ⟨[], _, rfl, .stays _, by omega⟩
    | unary operator =>
      simp only [release, Pending.operator?, released]
      split
      · exact ⟨_, rest, rfl, .unary operator shape, stop⟩
      · exact ⟨[], _, rfl, .stays _, by omega⟩

variable {items : List PostfixItem} {tokens : List Token}

theorem Released.openings_eq {stack rest : List Pending} (released : Released stack items rest) :
    openings rest = openings stack := by
  induction released with
  | stays => rfl
  | binary _ _ ih => simpa using ih
  | unary _ _ ih => simpa using ih

/-- At the end everything is released, unless a parenthesis is still open. -/
theorem shunt_nil (stack : List Pending) :
    (∃ items, Released stack items [] ∧ shunt stack [] = some items) ∨ openings stack ≠ 0 ∧ shunt stack [] = none := by
  obtain ⟨items, rest, released, shape, stop⟩ := released_release 0 stack
  rcases stop rfl with rfl | ⟨below, rfl⟩
  · exact .inl ⟨items, shape, by rw [shunt, released]⟩
  · have same := shape.openings_eq
    rw [openings] at same
    exact .inr ⟨by omega, by rw [shunt, released]⟩

/-- A binary operator releases some operators and waits. -/
theorem shunt_binary (stack : List Pending) (operator : BinaryOperator) (tokens : List Token) :
    ∃ items below, Released stack items below ∧
      shunt stack (.binary operator :: tokens) = (shunt (.binary operator :: below) tokens).map (items ++ ·) := by
  obtain ⟨items, below, released, shape, _⟩ := released_release operator.priority stack
  exact ⟨items, below, shape, by rw [shunt, released]⟩

/-- A closing parenthesis releases everything above the nearest opening one, and takes that away. -/
theorem shunt_closing (stack : List Pending) (tokens : List Token) :
    (∃ items below, Released stack items (.opening :: below) ∧
      shunt stack (.closing :: tokens) = (shunt below tokens).map (items ++ ·)) ∨
      openings stack = 0 ∧ shunt stack (.closing :: tokens) = none := by
  obtain ⟨items, rest, released, shape, stop⟩ := released_release 0 stack
  rcases stop rfl with rfl | ⟨below, rfl⟩
  · exact .inr ⟨shape.openings_eq.symm, by rw [shunt, released]⟩
  · exact .inl ⟨items, below, shape, by rw [shunt, released]⟩

/-! ## Parentheses -/

/-- The tokens close as many parentheses as are open, each after it was opened. -/
def Closes : Nat → List Token → Prop
  | depth, [] => depth = 0
  | depth, .opening :: tokens => Closes (depth + 1) tokens
  | 0, .closing :: _ => False
  | depth + 1, .closing :: tokens => Closes depth tokens
  | depth, _ :: tokens => Closes depth tokens

/-- Tokens have a postfix list if their parentheses match, and only then. -/
theorem shunt_isSome_iff (stack : List Pending) (tokens : List Token) :
    (shunt stack tokens).isSome = true ↔ Closes (openings stack) tokens := by
  induction tokens generalizing stack with
  | nil =>
    rcases shunt_nil stack with ⟨items, released, shunted⟩ | ⟨open_left, fails⟩
    · rw [shunted, ← released.openings_eq]
      simp [Closes]
    · rw [fails]
      simp [Closes, open_left]
  | cons token tokens ih =>
    cases token with
    | operand text =>
      rw [shunt, Option.isSome_map, ih]
      rfl
    | opening => exact ih _
    | unary operator => exact ih _
    | binary operator =>
      obtain ⟨items, below, released, shunted⟩ := shunt_binary stack operator tokens
      rw [shunted, Option.isSome_map, ih, ← released.openings_eq]
      rfl
    | closing =>
      rcases shunt_closing stack tokens with ⟨items, below, released, shunted⟩ | ⟨none_open, fails⟩
      · rw [shunted, Option.isSome_map, ih, ← released.openings_eq]
        rfl
      · rw [fails, none_open]
        simp [Closes]

/-! ## Occurrences -/

namespace Token

def isOperand : Token → Bool
  | .operand _ => true
  | _ => false

def isParenthesis : Token → Bool
  | .opening | .closing => true
  | _ => false

end Token

/-- Tokens with their positions. -/
abbrev Occurrences := List (Token × Nat)

/-- The operators that wait, in the order in which they are released. -/
def waitingItems (stack : List Pending) : List PostfixItem :=
  stack.filterMap fun entry => entry.operator?.map Prod.fst

/-- The operators that wait have these positions, all before the next one. -/
structure Marked (next : Nat) (stack : List Pending) (marks : Occurrences) : Prop where
  tokens : marks.map Prod.fst = (waitingItems stack).map PostfixItem.token
  before : ∀ mark ∈ marks, mark.1.isOperand = false ∧ mark.2 < next

section

variable {next : Nat} {stack rest : List Pending} {items : List PostfixItem} {marks : Occurrences}

theorem Released.waitingItems_eq (released : Released stack items rest) :
    waitingItems stack = items ++ waitingItems rest := by
  induction released with
  | stays => rfl
  | binary operator _ ih => exact congrArg (PostfixItem.binary operator :: ·) ih
  | unary operator _ ih => exact congrArg (PostfixItem.unary operator :: ·) ih

theorem Marked.nil : Marked 0 [] [] :=
  ⟨rfl, by simp⟩

theorem Marked.later (marked : Marked next stack marks) : Marked (next + 1) stack marks :=
  ⟨marked.tokens, fun mark member =>
    ⟨(marked.before mark member).1, Nat.lt_succ_of_lt (marked.before mark member).2⟩⟩

theorem Marked.push (marked : Marked next stack marks) {entry : Pending} {item : PostfixItem} {priority : Nat}
    (operator : entry.operator? = some (item, priority)) (waits : item.token.isOperand = false) :
    Marked (next + 1) (entry :: stack) ((item.token, next) :: marks) where
  tokens := by
    have first : waitingItems (entry :: stack) = item :: waitingItems stack := by
      rw [waitingItems, List.filterMap_cons, operator]
      rfl
    rw [first, List.map_cons, List.map_cons, marked.tokens]
  before := by
    rw [List.forall_mem_cons]
    exact ⟨⟨waits, Nat.lt_succ_self next⟩, marked.later.before⟩

theorem Marked.of_waitingItems (marked : Marked next stack marks) (same : waitingItems rest = waitingItems stack) :
    Marked next rest marks :=
  ⟨same ▸ marked.tokens, marked.before⟩

/-- What is released has the first of the positions. -/
theorem Marked.release (marked : Marked next stack marks) (released : Released stack items rest) :
    ∃ out kept, marks = out ++ kept ∧ out.map Prod.fst = items.map PostfixItem.token ∧ Marked next rest kept := by
  have tokens := marked.tokens
  rw [released.waitingItems_eq, List.map_append] at tokens
  obtain ⟨out, kept, rfl, first, second⟩ := List.map_eq_append_iff.mp tokens
  exact ⟨out, kept, rfl, first, second, fun mark member => marked.before mark (List.mem_append_right _ member)⟩

end

/-! ## The order -/

/-- The marks and the tokens from a position on, in an order in which what stands before an operand stood before it. -/
structure Arranges (next : Nat) (marks : Occurrences) (tokens : List Token) (order : Occurrences) : Prop where
  perm : order.Perm (marks ++ (tokens.zipIdx next).filter fun entry => !entry.1.isParenthesis)
  operands : order.filter (·.1.isOperand) = (tokens.zipIdx next).filter (·.1.isOperand)
  later : order.Pairwise fun first second => second.1.isOperand = true → first.2 < second.2

section

variable {next : Nat} {marks out kept order : Occurrences} {token : Token} {tokens : List Token}

theorem Arranges.position_le (arranges : Arranges next marks tokens order) {entry : Token × Nat} (member : entry ∈ order)
    (operand : entry.1.isOperand = true) : next ≤ entry.2 := by
  have kept : entry ∈ (tokens.zipIdx next).filter (·.1.isOperand) := by
    rw [← arranges.operands, List.mem_filter]
    exact ⟨member, operand⟩
  exact List.le_snd_of_mem_zipIdx (List.mem_filter.mp kept).1

/-- What was released is put before what follows. -/
theorem Arranges.prepend (arranges : Arranges next kept tokens order)
    (before : ∀ mark ∈ out, mark.1.isOperand = false ∧ mark.2 < next) :
    Arranges next (out ++ kept) tokens (out ++ order) where
  perm := by
    rw [List.append_assoc]
    exact arranges.perm.append_left out
  operands := by
    have none : out.filter (·.1.isOperand) = [] := by
      rw [List.filter_eq_nil_iff]
      exact fun mark member => by simp [(before mark member).1]
    rw [List.filter_append, none, arranges.operands, List.nil_append]
  later := by
    rw [List.pairwise_append]
    refine ⟨?_, arranges.later, fun mark member entry inside operand => ?_⟩
    · refine List.pairwise_of_forall_mem_list fun _ _ mark member operand => ?_
      rw [(before mark member).1] at operand
      cases operand
    · exact Nat.lt_of_lt_of_le (before mark member).2 (arranges.position_le inside operand)

/-- An operand is put out at once. -/
theorem Arranges.operand (arranges : Arranges (next + 1) marks tokens order) (text : List Char) :
    Arranges next marks (.operand text :: tokens) ((.operand text, next) :: order) where
  perm := (arranges.perm.cons _).trans List.perm_middle.symm
  operands := congrArg ((Token.operand text, next) :: ·) arranges.operands
  later := List.pairwise_cons.mpr ⟨fun _ member operand => arranges.position_le member operand, arranges.later⟩

/-- An operator waits first. -/
theorem Arranges.operator (arranges : Arranges (next + 1) ((token, next) :: marks) tokens order)
    (waits : token.isOperand = false) (solid : token.isParenthesis = false) :
    Arranges next marks (token :: tokens) order where
  perm := by
    rw [List.zipIdx_cons, List.filter_cons_of_pos (by simpa using solid)]
    exact arranges.perm.trans List.perm_middle.symm
  operands := by
    rw [List.zipIdx_cons, List.filter_cons_of_neg (by simpa using waits)]
    exact arranges.operands
  later := arranges.later

/-- A parenthesis is dropped. -/
theorem Arranges.parenthesis (arranges : Arranges (next + 1) marks tokens order) (drops : token.isParenthesis = true) :
    Arranges next marks (token :: tokens) order where
  perm := by
    rw [List.zipIdx_cons, List.filter_cons_of_neg (by simpa using drops)]
    exact arranges.perm
  operands := by
    have waits : token.isOperand = false := by cases token <;> first | rfl | cases drops
    rw [List.zipIdx_cons, List.filter_cons_of_neg (by simpa using waits)]
    exact arranges.operands
  later := arranges.later

end

/-- The postfix list is an arrangement of what waits and of the tokens. -/
theorem shunt_arranges {stack : List Pending} {next : Nat} {marks : Occurrences}
    (shunted : shunt stack tokens = some items) (marked : Marked next stack marks) :
    ∃ order, order.map Prod.fst = items.map PostfixItem.token ∧ Arranges next marks tokens order := by
  induction tokens generalizing stack items next marks with
  | nil =>
    rcases shunt_nil stack with ⟨out, released, equal⟩ | ⟨_, fails⟩
    · cases equal.symm.trans shunted
      have all := released.waitingItems_eq
      refine ⟨marks, by rw [marked.tokens, all]; simp [waitingItems], ?_⟩
      have empty : Arranges next [] [] [] := ⟨.refl _, rfl, .nil⟩
      simpa using empty.prepend marked.before
    · cases fails.symm.trans shunted
  | cons token tokens ih =>
    cases token with
    | operand text =>
      obtain ⟨more, again, rfl⟩ := Option.map_eq_some_iff.mp shunted
      obtain ⟨order, same, arranges⟩ := ih again marked.later
      exact ⟨_, by simp [same, PostfixItem.token], arranges.operand text⟩
    | opening =>
      obtain ⟨order, same, arranges⟩ := ih shunted (marked.later.of_waitingItems rfl)
      exact ⟨order, same, arranges.parenthesis rfl⟩
    | unary operator =>
      obtain ⟨order, same, arranges⟩ := ih shunted (marked.push rfl rfl)
      exact ⟨order, same, arranges.operator rfl rfl⟩
    | binary operator =>
      obtain ⟨out, below, released, equal⟩ := shunt_binary stack operator tokens
      obtain ⟨more, again, rfl⟩ := Option.map_eq_some_iff.mp (equal.symm.trans shunted)
      obtain ⟨first, kept, rfl, put, waiting⟩ := marked.release released
      obtain ⟨order, same, arranges⟩ := ih again (waiting.push rfl rfl)
      refine ⟨first ++ order, by simp [put, same], (arranges.operator rfl rfl).prepend ?_⟩
      exact fun mark member => marked.before mark (List.mem_append_left _ member)
    | closing =>
      rcases shunt_closing stack tokens with ⟨out, below, released, equal⟩ | ⟨_, fails⟩
      · obtain ⟨more, again, rfl⟩ := Option.map_eq_some_iff.mp (equal.symm.trans shunted)
        obtain ⟨first, kept, rfl, put, waiting⟩ := marked.release released
        obtain ⟨order, same, arranges⟩ := ih again (waiting.later.of_waitingItems rfl)
        refine ⟨first ++ order, by simp [put, same], (arranges.parenthesis rfl).prepend ?_⟩
        exact fun mark member => marked.before mark (List.mem_append_left _ member)
      · cases fails.symm.trans shunted

theorem toPostfix_perm (ordered : toPostfix tokens = .ok items) :
    (items.map PostfixItem.token).Perm (tokens.filter fun token => !token.isParenthesis) := by
  rw [toPostfix] at ordered
  split at ordered
  · rename_i shunted
    cases ordered
    obtain ⟨order, same, arranges⟩ := shunt_arranges shunted Marked.nil
    have named : (tokens.zipIdx.filter ((fun token => !token.isParenthesis) ∘ Prod.fst)).map Prod.fst =
        tokens.filter fun token => !token.isParenthesis := by
      rw [← List.filter_map, List.zipIdx_map_fst]
    rw [← same, ← named]
    exact arranges.perm.map Prod.fst
  · cases ordered

/-- The items of the postfix list of tokens are among the tokens. -/
theorem mem_toPostfix (ordered : toPostfix tokens = .ok items) : ∀ item ∈ items, item.token ∈ tokens := by
  intro item member
  exact List.mem_of_mem_filter ((toPostfix_perm ordered).mem_iff.mp (List.mem_map_of_mem member))

/-- No operand is lost. -/
theorem operand_mem_toPostfix (ordered : toPostfix tokens = .ok items) {cs : List Char}
    (member : .operand cs ∈ tokens) : .operand cs ∈ items := by
  have kept := (toPostfix_perm ordered).mem_iff.mpr (List.mem_filter.mpr ⟨member, rfl⟩)
  obtain ⟨item, inside, same⟩ := List.mem_map.mp kept
  cases item <;> cases same
  exact inside

/-! ## The list that is put out -/

/-- The list has the tokens without the parentheses. The operands stand as they stood, and an operator stands after
all operands that stood before it. -/
structure Reorders (tokens : List Token) (order : Occurrences) : Prop where
  perm : order.Perm (tokens.zipIdx.filter fun entry => !entry.1.isParenthesis)
  operands : order.filter (·.1.isOperand) = tokens.zipIdx.filter (·.1.isOperand)
  operators : ∀ front operator back, order = front ++ operator :: back → operator.1.isOperand = false →
    ∀ operand ∈ tokens.zipIdx, operand.1.isOperand = true → operand.2 < operator.2 → operand ∈ front

theorem Arranges.reorders {order : Occurrences} (arranges : Arranges 0 [] tokens order) : Reorders tokens order where
  perm := arranges.perm
  operands := arranges.operands
  operators := by
    rintro front operator back rfl waits operand member isOperand before
    have inside : operand ∈ front ++ operator :: back := by
      have kept : operand ∈ tokens.zipIdx.filter (·.1.isOperand) := List.mem_filter.mpr ⟨member, isOperand⟩
      rw [← arranges.operands] at kept
      exact (List.mem_filter.mp kept).1
    rcases List.mem_append.mp inside with inside | inside
    · exact inside
    · rcases List.mem_cons.mp inside with rfl | inside
      · exact absurd before (Nat.lt_irrefl _)
      · have after := (List.pairwise_cons.mp (List.pairwise_append.mp arranges.later).2.1).1 operand inside isOperand
        exact absurd before (Nat.lt_asymm after)

/-- Some first part of the tokens has more closing than opening parentheses, or there are not as many of both. -/
def Mismatched (tokens : List Token) : Prop :=
  (∃ part, part <+: tokens ∧ part.count .opening < part.count .closing) ∨
    tokens.count .opening ≠ tokens.count .closing

theorem closes_iff (depth : Nat) (tokens : List Token) :
    Closes depth tokens ↔ (∀ part, part <+: tokens → part.count .closing ≤ depth + part.count .opening) ∧
      depth + tokens.count .opening = tokens.count .closing := by
  induction tokens generalizing depth with
  | nil => simp [Closes]
  | cons token tokens ih =>
    -- the first parts but the empty one are those of the other tokens with the token before them
    have parts {holds : List Token → Prop} (none : holds []) :
        (∀ part, part <+: token :: tokens → holds part) ↔ ∀ part, part <+: tokens → holds (token :: part) := by
      constructor
      · exact fun all part first => all _ ((List.prefix_cons_inj token).mpr first)
      · intro all part first
        rcases List.prefix_cons_iff.mp first with rfl | ⟨part, rfl, inner⟩
        · exact none
        · exact all part inner
    rw [parts (Nat.zero_le _)]
    cases token with
    | operand | binary | unary => simpa [Closes] using ih depth
    | opening =>
      rw [Closes, ih]
      simp [Nat.add_assoc, Nat.add_comm 1]
    | closing =>
      cases depth with
      | zero =>
        simp only [Closes, false_iff, not_and]
        intro all
        have one := all [] List.nil_prefix
        simp at one
      | succ depth =>
        rw [Closes, ih]
        simp [Nat.add_right_comm _ 1]

theorem closes_iff_not_mismatched (tokens : List Token) : Closes 0 tokens ↔ ¬Mismatched tokens := by
  rw [closes_iff, Mismatched]
  simp

/-- Postfix order is refused if and only if the parentheses do not match, and otherwise it drops them and moves
operators back only. -/
theorem postfix_order_only_moves_operators (tokens : List Token) :
    ((∃ cause, toPostfix tokens = .error cause ∧ cause.code = "E105") ↔ Mismatched tokens) ∧
    (Mismatched tokens ∨ ∃ items order, toPostfix tokens = .ok items ∧
      items.map PostfixItem.token = order.map Prod.fst ∧ Reorders tokens order) := by
  have matching := shunt_isSome_iff [] tokens
  rw [openings, closes_iff_not_mismatched] at matching
  cases shunted : shunt [] tokens with
  | none =>
    have mismatched : Mismatched tokens := by simpa [shunted] using matching
    exact ⟨iff_of_true ⟨_, by rw [toPostfix, shunted], rfl⟩ mismatched, .inl mismatched⟩
  | some items =>
    have fits : ¬Mismatched tokens := by simpa [shunted] using matching
    have read : toPostfix tokens = .ok items := by rw [toPostfix, shunted]
    obtain ⟨order, same, arranges⟩ := shunt_arranges shunted Marked.nil
    refine ⟨iff_of_false ?_ fits, .inr ⟨items, order, read, same.symm, arranges.reorders⟩⟩
    rintro ⟨cause, refused, _⟩
    cases read.symm.trans refused

end LineScript.Expression
