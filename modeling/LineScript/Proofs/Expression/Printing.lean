import LineScript.Expression.Reader
import LineScript.Proofs.Source.Enclosure

/-!
# Printed expressions

An expression tree has many texts. `Printed tree cs` says that `cs` is one of them: the tokens of the
tree in infix order with white space between them, with at least the parentheses that the priorities ask
for. What is left open is left open here too: the amount of white space, further parentheses, the kind of
quote of a text and which of its characters are escaped.

`Infix tree level tokens` carries the priority of the outermost operator that no parentheses surround. An
operand and a parenthesized tree are above all priorities. A left operand may have the priority of its
operator and a right operand may not, and so operators of one priority group to the left.

The trees that have a text at all are those of `Printable`, and every one of them has one
(`Printable.exists_printed`).
-/

set_option autoImplicit false

namespace LineScript.Expression

open LineScript.Text LineScript.Source LineScript.Number

/-! ## Tokens and white space -/

/-- The text of a token in an expression. -/
def Token.written : Token → List Char
  | .operand text => text
  | .binary operator => operator.symbol.toList
  | .unary .negate => ['-']
  | .unary .complement => "not".toList
  | .opening => ['(']
  | .closing => [')']

/-- The tokens stand in the text in order, with white space between them. -/
inductive Spaced : List Token → List Char → Prop where
  | one (token : Token) : Spaced [token] token.written
  | more (token : Token) {gap cs : List Char} {tokens : List Token} (between : Gap gap) :
      Spaced tokens cs → Spaced (token :: tokens) (token.written ++ gap ++ cs)

/-! ## Leaves -/

/-- The words that stand for operators and values and not for variables. -/
def reservedWords : List (List Char) :=
  ["and".toList, "or".toList, "not".toList, "true".toList, "false".toList, "null".toList]

/-- The text is the name of a variable. -/
def isVariableName (name : List Char) : Bool :=
  isName name && !reservedWords.contains name

/-- The numeral has digits, and after its point, if it has one, as well. -/
def isWritten (numeral : Numeral) : Bool :=
  !numeral.whole.isEmpty && numeral.whole.all isDecimal && numeral.fraction.all isDecimal

/-- The word for a truth value. -/
def truthWord (value : Bool) : List Char :=
  if value then "true".toList else "false".toList

/-- A text as the body of a literal in quotes of one kind. Every character may stand for itself but the
quote and the backslash, and six of them have an escape. -/
inductive Escaped (quote : Char) : List Char → List Char → Prop where
  | nil : Escaped quote [] []
  | plain {c : Char} {value body : List Char} (noEscape : c ≠ '\\') (noQuote : c ≠ quote) :
      Escaped quote value body → Escaped quote (c :: value) (c :: body)
  | escape {c d : Char} {value body : List Char} (stands : unescape? d = some c) :
      Escaped quote value body → Escaped quote (c :: value) ('\\' :: d :: body)

/-- A text as a literal. -/
inductive Quoted : String → List Char → Prop where
  | intro {quote : Char} {value : String} {body : List Char} (opens : isQuote quote = true)
      (escaped : Escaped quote value.toList body) : Quoted value (quote :: (body ++ [quote]))

/-! ## Trees -/

/-- The level of what no operator can take apart. It is above all priorities. -/
def operandLevel : Nat :=
  12

/-- The text between the brackets of a list or of arguments: items with commas between them, or white
space if there are none. -/
def itemsText (blank : List Char) : List (List Char) → List Char
  | [] => blank
  | item :: items => List.intercalate [','] (item :: items)

mutual

/-- The text is a printed form of the tree, perhaps with white space around it. -/
inductive Printed : Expr → List Char → Prop where
  | spaced {tree : Expr} {level : Nat} {tokens : List Token} {before core after : List Char}
      (blankBefore : Margin before) (order : Infix tree level tokens) (spaced : Spaced tokens core)
      (blankAfter : Margin after) : Printed tree (before ++ core ++ after)

/-- The tokens are the tree in infix order, and its outermost operator is of the given priority. -/
inductive Infix : Expr → Nat → List Token → Prop where
  | operand {tree : Expr} {cs : List Char} (operand : Operand tree cs) :
      Infix tree operandLevel [.operand cs]
  | binary (operator : BinaryOperator) {left right : Expr} {leftLevel rightLevel : Nat}
      {first second : List Token} (leftOrder : Infix left leftLevel first)
      (rightOrder : Infix right rightLevel second) (leftBinds : operator.priority ≤ leftLevel)
      (rightBinds : operator.priority < rightLevel) :
      Infix (.binary operator left right) operator.priority (first ++ .binary operator :: second)
  | unary (operator : UnaryOperator) {tree : Expr} {level : Nat} {tokens : List Token}
      (order : Infix tree level tokens) (binds : operator.priority ≤ level) :
      Infix (.unary operator tree) operator.priority (.unary operator :: tokens)
  | parenthesized {tree : Expr} {level : Nat} {tokens : List Token} (order : Infix tree level tokens) :
      Infix tree operandLevel (.opening :: (tokens ++ [.closing]))

/-- The text is a printed form of a tree without operators and parentheses around it. -/
inductive Operand : Expr → List Char → Prop where
  | null : Operand .null "null".toList
  | boolean (value : Bool) : Operand (.literal (.boolean value)) (truthWord value)
  | number {numeral : Numeral} (written : isWritten numeral = true) :
      Operand (.literal (.number numeral.value)) numeral.text
  | chain {tree : Expr} {cs : List Char} (chain : Chain tree cs) : Operand tree cs

/-- The text is a variable, a text or a list, perhaps with properties and calls behind it. -/
inductive Chain : Expr → List Char → Prop where
  | variable {name : List Char} (named : isVariableName name = true) :
      Chain (.variable (String.ofList name)) name
  | text {value : String} {cs : List Char} (quoted : Quoted value cs) : Chain (.literal (.text value)) cs
  | list {elements : List Expr} {items : List (List Char)} {blank : List Char} (margin : Margin blank)
      (printed : Items elements items) : Chain (.list elements) ('[' :: (itemsText blank items ++ [']']))
  | property {target : Expr} {cs name : List Char} (chain : Chain target cs) (named : isName name = true) :
      Chain (.property target (String.ofList name)) (cs ++ '.' :: name)
  | call {callee : Expr} {cs : List Char} {arguments : List Expr} {items : List (List Char)}
      {blank : List Char} (chain : Chain callee cs) (margin : Margin blank)
      (printed : Items arguments items) :
      Chain (.call callee arguments) (cs ++ '(' :: (itemsText blank items ++ [')']))

/-- The texts are printed forms of the trees. -/
inductive Items : List Expr → List (List Char) → Prop where
  | nil : Items [] []
  | cons {tree : Expr} {cs : List Char} {trees : List Expr} {items : List (List Char)}
      (printed : Printed tree cs) (rest : Items trees items) : Items (tree :: trees) (cs :: items)

end

/-! ## The trees that can be printed -/

mutual

/-- The tree is made of null, truth values, numerals, operators and chains. -/
inductive Printable : Expr → Prop where
  | null : Printable .null
  | boolean (value : Bool) : Printable (.literal (.boolean value))
  | number {numeral : Numeral} (written : isWritten numeral = true) :
      Printable (.literal (.number numeral.value))
  | binary (operator : BinaryOperator) {left right : Expr} (first : Printable left)
      (second : Printable right) : Printable (.binary operator left right)
  | unary (operator : UnaryOperator) {tree : Expr} (operand : Printable tree) :
      Printable (.unary operator tree)
  | chain {tree : Expr} (chain : PrintableChain tree) : Printable tree

/-- The tree is a variable, a text or a list, perhaps with properties and calls on it. -/
inductive PrintableChain : Expr → Prop where
  | variable {name : List Char} (named : isVariableName name = true) :
      PrintableChain (.variable (String.ofList name))
  | text (value : String) : PrintableChain (.literal (.text value))
  | list {elements : List Expr} (printable : PrintableItems elements) : PrintableChain (.list elements)
  | property {target : Expr} {name : List Char} (chain : PrintableChain target)
      (named : isName name = true) : PrintableChain (.property target (String.ofList name))
  | call {callee : Expr} {arguments : List Expr} (chain : PrintableChain callee)
      (printable : PrintableItems arguments) : PrintableChain (.call callee arguments)

/-- All the trees can be printed. -/
inductive PrintableItems : List Expr → Prop where
  | nil : PrintableItems []
  | cons {tree : Expr} {trees : List Expr} (printable : Printable tree) (rest : PrintableItems trees) :
      PrintableItems (tree :: trees)

end

/-- Every text can stand in a literal. -/
theorem exists_escaped {quote : Char} (opens : isQuote quote = true) (value : List Char) :
    ∃ body, Escaped quote value body := by
  induction value with
  | nil => exact ⟨[], .nil⟩
  | cons c value ih =>
    obtain ⟨body, escaped⟩ := ih
    by_cases noEscape : c = '\\'
    · subst noEscape
      exact ⟨'\\' :: '\\' :: body, .escape rfl escaped⟩
    · by_cases noQuote : c = quote
      · subst noQuote
        have stands : unescape? c = some c := by
          simp only [isQuote, Bool.or_eq_true, beq_iff_eq] at opens
          rcases opens with rfl | rfl <;> rfl
        exact ⟨'\\' :: c :: body, .escape stands escaped⟩
      · exact ⟨c :: body, .plain noEscape noQuote escaped⟩

/-- Tokens can be written with one blank between them. -/
theorem exists_spaced {tokens : List Token} (some : tokens ≠ []) : ∃ cs, Spaced tokens cs := by
  induction tokens with
  | nil => exact absurd rfl some
  | cons token tokens ih =>
    cases tokens with
    | nil => exact ⟨token.written, .one token⟩
    | cons next tokens =>
      obtain ⟨cs, spaced⟩ := ih (List.cons_ne_nil next tokens)
      exact ⟨token.written ++ [' '] ++ cs, .more token ⟨by simp, by simp [Margin, isBlank]⟩ spaced⟩

theorem Infix.ne_nil {tree : Expr} {level : Nat} {tokens : List Token} (order : Infix tree level tokens) :
    tokens ≠ [] := by
  cases order <;> simp

/-- A tree that has an infix order has a text. -/
theorem Infix.exists_printed {tree : Expr} {level : Nat} {tokens : List Token}
    (order : Infix tree level tokens) : ∃ cs, Printed tree cs := by
  obtain ⟨core, spaced⟩ := exists_spaced order.ne_nil
  exact ⟨_, .spaced Margin.nil order spaced Margin.nil⟩

theorem BinaryOperator.priority_lt_operandLevel (operator : BinaryOperator) : operator.priority < operandLevel := by
  rcases operator with operator | connective
  · cases operator <;> decide
  · cases connective <;> decide

theorem UnaryOperator.priority_lt_operandLevel (operator : UnaryOperator) : operator.priority < operandLevel := by
  cases operator <;> decide

mutual

/-- Every printable tree has an infix order, the one with parentheses around every operand. -/
theorem Printable.exists_infix : ∀ {tree : Expr}, Printable tree → ∃ level tokens, Infix tree level tokens
  | _, .null => ⟨_, _, .operand .null⟩
  | _, .boolean value => ⟨_, _, .operand (.boolean value)⟩
  | _, .number written => ⟨_, _, .operand (.number written)⟩
  | _, .binary operator first second => by
    obtain ⟨_, _, left⟩ := first.exists_infix
    obtain ⟨_, _, right⟩ := second.exists_infix
    have below := BinaryOperator.priority_lt_operandLevel operator
    exact ⟨_, _, .binary operator left.parenthesized right.parenthesized below.le below⟩
  | _, .unary operator operand => by
    obtain ⟨_, _, order⟩ := operand.exists_infix
    have below := UnaryOperator.priority_lt_operandLevel operator
    exact ⟨_, _, .unary operator order.parenthesized below.le⟩
  | _, .chain chain => by
    obtain ⟨_, printed⟩ := chain.exists_chain
    exact ⟨_, _, .operand (.chain printed)⟩

theorem PrintableChain.exists_chain : ∀ {tree : Expr}, PrintableChain tree → ∃ cs, Chain tree cs
  | _, .variable named => ⟨_, .variable named⟩
  | _, .text value => by
    obtain ⟨_, escaped⟩ := exists_escaped (show isQuote '\x22' = true by decide) value.toList
    exact ⟨_, .text (.intro (by decide) escaped)⟩
  | _, .list printable => by
    obtain ⟨_, items⟩ := printable.exists_items
    exact ⟨_, .list Margin.nil items⟩
  | _, .property chain named => by
    obtain ⟨_, printed⟩ := chain.exists_chain
    exact ⟨_, .property printed named⟩
  | _, .call chain printable => by
    obtain ⟨_, printed⟩ := chain.exists_chain
    obtain ⟨_, items⟩ := printable.exists_items
    exact ⟨_, .call printed Margin.nil items⟩

theorem PrintableItems.exists_items : ∀ {trees : List Expr}, PrintableItems trees → ∃ items, Items trees items
  | _, .nil => ⟨_, .nil⟩
  | _, .cons printable rest => by
    obtain ⟨_, _, order⟩ := printable.exists_infix
    obtain ⟨_, printed⟩ := order.exists_printed
    obtain ⟨_, items⟩ := rest.exists_items
    exact ⟨_, .cons printed items⟩

end

/-- Every printable tree has a text. -/
theorem Printable.exists_printed {tree : Expr} (printable : Printable tree) : ∃ cs, Printed tree cs := by
  obtain ⟨_, _, order⟩ := printable.exists_infix
  exact order.exists_printed

end LineScript.Expression
