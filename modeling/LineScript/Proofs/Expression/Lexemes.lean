import LineScript.Proofs.Expression.Layout

/-!
# The texts of tokens

The texts of the tokens of an expression make up the expression, with nothing but white space around them. The text of
an operand has one token, the operand: each of the scanners stops in it where it stopped in the whole text (`Taken`).
-/

set_option autoImplicit false

namespace LineScript.Expression

open LineScript.Text LineScript.Source

variable {cs : List Char} {tokens : List Token}

/-- A token is written as its text, but unary minus is a sign. -/
theorem Token.written_eq (token : Token) :
    token.written = if token = .unary .negate then ['-'] else token.text.toList := by
  cases token with
  | operand cs => exact String.toList_ofList.symm
  | unary operator => cases operator <;> rfl
  | binary | opening | closing => rfl

/-- The text of an operand that is taken whole has one token. -/
theorem Taken.tokenize_eq (taken : Taken cs) : tokenize cs = .ok [.operand cs] := by
  obtain ⟨c, tail, rfl, solid, other, scans⟩ := taken
  rw [tokenize, List.length_cons, tokensFrom, solid]
  simp only [Bool.false_eq_true, if_false, nextToken_operand true other, scans]
  cases tail.length <;> rfl

theorem Laid.whole (laid : Laid tokens cs) : ∀ token ∈ tokens, token.Whole := by
  induction laid with
  | nil => simp
  | blank _ _ ih => exact ih
  | token whole _ ih => exact List.forall_mem_cons.mpr ⟨whole, ih⟩

/-- White space stands before each token and at the end. -/
theorem Laid.exists_gaps (laid : Laid tokens cs) :
    ∃ gaps last, gaps.length = tokens.length ∧ (∀ gap ∈ gaps, Margin gap) ∧ Margin last ∧
      cs = (List.zipWith (fun gap token => gap ++ token.written) gaps tokens).flatten ++ last := by
  induction laid with
  | nil => exact ⟨[], [], rfl, by simp, Margin.nil, rfl⟩
  | @blank c cs tokens blank _ ih =>
    obtain ⟨gaps, last, length, blanks, blankLast, rfl⟩ := ih
    have longer {gap : List Char} (margin : Margin gap) : Margin (c :: gap) := List.forall_mem_cons.mpr ⟨blank, margin⟩
    rcases gaps with _ | ⟨gap, gaps⟩
    · exact ⟨[], c :: last, length, blanks, longer blankLast, by simp⟩
    · obtain ⟨token, tokens, rfl⟩ := List.exists_cons_of_length_eq_add_one length.symm
      obtain ⟨here, later⟩ := List.forall_mem_cons.mp blanks
      exact ⟨(c :: gap) :: gaps, last, length, List.forall_mem_cons.mpr ⟨longer here, later⟩, blankLast, rfl⟩
  | token _ _ ih =>
    obtain ⟨gaps, last, length, blanks, blankLast, rfl⟩ := ih
    exact ⟨[] :: gaps, last, by simp [length], List.forall_mem_cons.mpr ⟨Margin.nil, blanks⟩, blankLast, by simp⟩

/-- A text that has tokens is made up of their texts in order, where unary minus is a sign, with white space before,
between and after them. The text of each operand has that operand as its one token. -/
theorem tokens_make_up_text (scans : tokenize cs = .ok tokens) :
    (∃ gaps last, gaps.length = tokens.length ∧ (∀ gap ∈ gaps, Margin gap) ∧ Margin last ∧
      cs = (List.zipWith (fun gap token => gap ++ if token = .unary .negate then ['-'] else token.text.toList) gaps
        tokens).flatten ++ last) ∧
    ∀ operand, .operand operand ∈ tokens → tokenize operand = .ok [.operand operand] := by
  have laid := tokenize_laid scans
  refine ⟨?_, fun operand member => (laid.whole _ member).1.tokenize_eq⟩
  obtain ⟨gaps, last, length, blanks, blankLast, whole⟩ := laid.exists_gaps
  exact ⟨gaps, last, length, blanks, blankLast, by simpa only [Token.written_eq] using whole⟩

/-- A sign, an operator and two chains, of which one holds another expression. -/
theorem tokens_make_up_text_of_chains :
    let text := "-a.b+ 'x'.f(1 , 2]".toList
    let tokens : List Token := [.unary .negate, .operand "a.b".toList, .binary (.apply .add),
      .operand "'x'.f(1 , 2]".toList]
    tokenize text = .ok tokens ∧ tokenize "'x'.f(1 , 2]".toList = .ok [.operand "'x'.f(1 , 2]".toList] := by
  intro text tokens
  have scans : tokenize text = .ok tokens := by decide +kernel
  exact ⟨scans, (tokens_make_up_text scans).2 _ (by simp [tokens])⟩

end LineScript.Expression
