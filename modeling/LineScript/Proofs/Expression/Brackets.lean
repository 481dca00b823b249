import LineScript.Proofs.Expression.Shunting

/-!
# Brackets in expressions

The brackets of a text match in kind if each parenthesis is closed by a parenthesis and each square bracket by a
square bracket, outside literals (`Bracketed false`). Three parts of reading look at brackets, and only two of them
look at the kind: the parentheses of a group are tokens of their own, and a list literal has to end with the
bracket of its kind. The end of a list of arguments is found by counting. So `f(a]` is read like `f(a)`.

That is the only exception. In every text that is read the brackets nest, and a closing bracket of the other kind
stands at most at the end of a list of arguments, whose parenthesis follows a word, a literal or a closing bracket
directly (`Bracketed true`).
-/

set_option autoImplicit false

namespace LineScript.Expression

open LineScript.Text LineScript.Source LineScript.Number

/-! ## Matching brackets -/

/-- The brackets of the text match in kind outside literals; but lists of arguments may also end with a square
bracket if `lax` is true. The other flag tells whether arguments may start here: whether the text follows a word,
a literal or a closing bracket directly. -/
inductive Bracketed (lax : Bool) : Bool → List Char → Prop where
  | nil {joined : Bool} : Bracketed lax joined []
  | plain {joined : Bool} {c : Char} {cs : List Char} (plain : isPlain c = true) :
      Bracketed lax (isWord c) cs → Bracketed lax joined (c :: cs)
  | literal {joined : Bool} {quote : Char} {body cs : List Char} (opens : isQuote quote = true)
      (raw : Raw quote body) : Bracketed lax true cs → Bracketed lax joined (quote :: (body ++ quote :: cs))
  | round {joined : Bool} {inner cs : List Char} :
      Bracketed lax false inner → Bracketed lax true cs → Bracketed lax joined ('(' :: (inner ++ ')' :: cs))
  | square {joined : Bool} {inner cs : List Char} :
      Bracketed lax false inner → Bracketed lax true cs → Bracketed lax joined ('[' :: (inner ++ ']' :: cs))
  | arguments {inner cs : List Char} (allowed : lax = true) :
      Bracketed lax false inner → Bracketed lax true cs → Bracketed lax true ('(' :: (inner ++ ']' :: cs))

variable {cs : List Char}

section

variable {lax : Bool}

/-- Where arguments may start, any text may stand. -/
theorem Bracketed.join {joined : Bool} (bracketed : Bracketed lax false cs) : Bracketed lax joined cs := by
  cases bracketed with
  | nil => exact .nil
  | plain plain rest => exact .plain plain rest
  | literal opens raw rest => exact .literal opens raw rest
  | round inner rest => exact .round inner rest
  | square inner rest => exact .square inner rest

theorem Bracketed.append {joined : Bool} {more : List Char} (first : Bracketed lax joined cs)
    (second : Bracketed lax false more) : Bracketed lax joined (cs ++ more) := by
  induction first with
  | nil => exact second.join
  | plain plain _ ih => exact .plain plain ih
  | literal opens raw _ ih =>
    rw [List.cons_append, List.append_assoc, List.cons_append]
    exact .literal opens raw ih
  | round inner _ _ ih =>
    rw [List.cons_append, List.append_assoc, List.cons_append]
    exact .round inner ih
  | square inner _ _ ih =>
    rw [List.cons_append, List.append_assoc, List.cons_append]
    exact .square inner ih
  | arguments allowed inner _ _ ih =>
    rw [List.cons_append, List.append_assoc, List.cons_append]
    exact .arguments allowed inner ih

theorem Bracketed.of_plain {joined : Bool} (plain : ∀ c ∈ cs, isPlain c = true) : Bracketed lax joined cs := by
  induction cs generalizing joined with
  | nil => exact .nil
  | cons c cs ih =>
    exact .plain (plain c (.head _)) (ih fun d member => plain d (List.mem_cons_of_mem c member))

theorem Bracketed.of_margin {joined : Bool} (margin : Margin cs) : Bracketed lax joined cs :=
  .of_plain fun c member => (plain_of_blank (margin c member)).1

/-- Arguments may start after a name. -/
theorem Bracketed.name_append {joined : Bool} {name more : List Char} (named : isName name = true)
    (rest : Bracketed lax true more) : Bracketed lax joined (name ++ more) := by
  have words := name_isWord named
  have some_left : name ≠ [] := by
    rintro rfl
    cases named
  clear named
  induction name generalizing joined with
  | nil => exact absurd rfl some_left
  | cons c name ih =>
    have word := words c (.head _)
    refine .plain (plain_of_word word).1 ?_
    rw [word]
    rcases name with _ | ⟨d, name⟩
    · exact rest
    · exact ih (fun d member => words d (List.mem_cons_of_mem c member)) (List.cons_ne_nil _ _)

/-- Margins do not matter. -/
theorem Bracketed.of_trim (bracketed : Bracketed lax false (trim cs)) : Bracketed lax false cs := by
  obtain ⟨before, after, blankBefore, blankAfter, whole⟩ := exists_margins cs
  rw [whole]
  exact ((Bracketed.of_margin blankBefore).append bracketed).append (.of_margin blankAfter)

/-- The text between the brackets of a list or of arguments, if its items are such texts. -/
theorem Bracketed.of_items {inner : List Char} (items : ∀ item ∈ splitTopLevel inner, Bracketed lax false item) :
    Bracketed lax false inner := by
  have whole := (intercalate_segmentsFrom 0 none [] inner).2
  rw [List.reverse_nil, List.nil_append] at whole
  rw [← whole]
  refine intercalate_of_append (Bracketed lax false) .nil .append (.of_plain (List.all_eq_true.mp (by decide)))
    fun segment member => .of_trim ?_
  have among : trim segment ∈ (segmentsFrom "," 0 none [] inner).map trim := List.mem_map_of_mem member
  rw [splitTopLevel, splitTopLevelAt] at items
  split at items
  · rename_i blank
    rw [blank, List.mem_singleton] at among
    rw [among]
    exact .nil
  · exact items _ among

end

/-! ## Operands -/

theorem Suffixed.bracketed (suffixed : Suffixed (Bracketed true false) cs) : Bracketed true true cs := by
  induction suffixed with
  | nil => exact .nil
  | call closes items _ ih =>
    simp only [isClosing, Bool.or_eq_true, beq_iff_eq] at closes
    rcases closes with rfl | rfl
    · exact .round (.of_items items) ih
    · exact .arguments rfl (.of_items items) ih
  | property named _ ih => exact .plain (by decide) (.name_append named ih)

theorem Headed.bracketed_append {head more : List Char} (headed : Headed (Bracketed true false) head)
    (rest : Bracketed true true more) : Bracketed true false (head ++ more) := by
  cases headed with
  | text opens raw =>
    rw [List.cons_append, List.append_assoc]
    exact .literal opens raw rest
  | list items =>
    rw [List.cons_append, List.append_assoc]
    exact .square (.of_items items) rest
  | name named => exact .name_append named rest

theorem Formed.bracketed (formed : Formed (Bracketed true false) cs) (whole : (Token.operand cs).Whole) :
    Bracketed true false cs := by
  cases formed with
  | text literal =>
    obtain ⟨quote, body, opens, raw, rfl⟩ := whole.2 literal
    exact .literal opens raw .nil
  | numeral digits =>
    refine .of_plain fun c member => ?_
    rcases digits c member with digit | rfl
    · exact (plain_of_word (isWord_of_isDecimal digit)).1
    · decide
  | chain headed suffixed => exact headed.bracketed_append suffixed.bracketed

/-! ## Expressions -/

theorem isPlain_of_binary (operator : BinaryOperator) : ∀ c ∈ (Token.binary operator).written, isPlain c = true := by
  rw [← List.all_eq_true]
  cases operator with
  | apply operator => cases operator <;> decide
  | connect connective => cases connective <;> decide

theorem isPlain_of_unary (operator : UnaryOperator) : ∀ c ∈ (Token.unary operator).written, isPlain c = true := by
  rw [← List.all_eq_true]
  cases operator <;> decide

/-- A text whose tokens close some parentheses, up to the first of these and after each of them. -/
theorem Laid.bracketed {tokens : List Token} (laid : Laid tokens cs)
    (operands : ∀ operand, .operand operand ∈ tokens → Formed (Bracketed true false) operand) {depth : Nat}
    (closes : Closes depth tokens) : Levels ')' (Bracketed true false) (Bracketed true false) depth cs := by
  induction laid generalizing depth with
  | nil =>
    obtain rfl : depth = 0 := closes
    exact .nil
  | @blank c cs tokens blank _ ih =>
    exact (ih operands closes).prepend [c] fun part holds => .plain (plain_of_blank blank).1 holds.join
  | @token token cs tokens whole _ ih =>
    have others {depth : Nat} (closes : Closes depth tokens) :=
      ih (fun operand member => operands operand (List.mem_cons_of_mem token member)) closes
    cases token with
    | operand text =>
      have formed := operands text (.head _)
      exact (others closes).prepend text fun part holds => (formed.bracketed whole).append holds
    | binary operator =>
      refine (others closes).prepend _ fun part holds => ?_
      exact (Bracketed.of_plain (isPlain_of_binary operator)).append holds
    | unary operator =>
      refine (others closes).prepend _ fun part holds => ?_
      exact (Bracketed.of_plain (isPlain_of_unary operator)).append holds
    | opening =>
      obtain ⟨part, rest, rfl, holds, levels⟩ := others closes
      have group : Levels ')' (Bracketed true false) (Bracketed true false) depth
          ('(' :: (part ++ [')']) ++ rest) := by
        refine levels.prepend _ fun more after => ?_
        rw [List.cons_append, List.append_assoc]
        exact .round holds after.join
      simpa [Token.written] using group
    | closing =>
      cases depth with
      | zero => cases closes
      | succ depth => exact ⟨[], cs, rfl, .nil, others closes⟩

theorem hereditary_bracketed : Hereditary (Bracketed true false) := by
  intro cs tokens items laid ordered formed
  have kept := fun operand (member : Token.operand operand ∈ tokens) => formed operand (operand_mem_toPostfix ordered member)
  rw [toPostfix] at ordered
  split at ordered
  · rename_i shunted
    have closes : Closes 0 tokens := (shunt_isSome_iff [] tokens).mp (by rw [shunted]; rfl)
    exact .of_trim (laid.bracketed kept closes)
  · cases ordered

/-- In a text that is read as an expression the brackets nest, and they match in kind but for the ends of
arguments. A text without such brackets is refused, for a cause at the site or at a character that the language
has no use for. -/
theorem brackets_match_in_read_text (site : Option Site) (cs : List Char) (table : Interner) :
    ((∃ tree table', readExpr site cs table = .ok tree table') → Bracketed true false cs) ∧
    (¬Bracketed true false cs → ∃ error table', readExpr site cs table = .error error table' ∧
      Refused site cs error) := by
  have settles := settles_readNested hereditary_bracketed site (cs.length + 1) cs
  have matches_of_read : (∃ tree table', readExpr site cs table = .ok tree table') → Bracketed true false cs := by
    rintro ⟨tree, table', read⟩
    exact (settles.reads read).1
  refine ⟨matches_of_read, fun unmatched => ?_⟩
  exact settles.error_of_not_ok fun read => unmatched (matches_of_read read)

/-- Without literals, brackets that match in kind close every parenthesis with one. -/
theorem Bracketed.closing_mem {joined : Bool} {cs : List Char} (bracketed : Bracketed false joined cs)
    (noQuote : ∀ c ∈ cs, isQuote c = false) (opened : '(' ∈ cs) : ')' ∈ cs := by
  induction bracketed with
  | nil => cases opened
  | plain plain _ ih =>
    rcases List.mem_cons.mp opened with rfl | later
    · cases plain
    · exact .tail _ (ih (fun c member => noQuote c (.tail _ member)) later)
  | literal opens _ _ _ =>
    rw [noQuote _ (.head _)] at opens
    cases opens
  | round _ _ _ _ => simp
  | square _ _ ihInner ih =>
    simp only [List.mem_cons, List.mem_append] at noQuote opened ⊢
    rcases opened with bracket | inside | bracket | later
    · cases bracket
    · exact .inr (.inl (ihInner (fun c member => noQuote c (.inr (.inl member))) inside))
    · cases bracket
    · exact .inr (.inr (.inr (ih (fun c member => noQuote c (.inr (.inr (.inr member)))) later)))
  | arguments allowed _ _ _ _ => cases allowed

/-- Arguments may end with the other kind of bracket: `f(a]` is read as a call, and its brackets do not match in
kind. -/
theorem arguments_end_with_either_bracket :
    readExpr none "f(a]".toList .empty = .ok (.call (.variable "f") [.variable "a"]) ⟨["a", "f"], []⟩ ∧
      ¬Bracketed false false "f(a]".toList := by
  refine ⟨by rfl, fun bracketed => ?_⟩
  have noQuote : ∀ c ∈ "f(a]".toList, isQuote c = false := by simp [isQuote]
  exact absurd (bracketed.closing_mem noQuote (by decide)) (by decide)

end LineScript.Expression
