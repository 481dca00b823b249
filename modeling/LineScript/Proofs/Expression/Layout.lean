import LineScript.Proofs.Expression.Scanning
import LineScript.Proofs.Source.Passage

/-!
# The layout of tokens

Scanning loses nothing but white space: the tokens of a text stand in it one after another, with white
space around them (`tokenize_laid`). An operand that starts and ends with the same quote is one literal
and not a chain that happens to end with another one (`Token.Whole`).

Scanning fails with a cause that has a diagnostic, or at a character that the language has no use for: one
that counts as a letter and starts no name, or counts as a digit and is no decimal digit
(`stray_of_tokensFrom`). No such character is in ASCII (`not_isStray_of_ascii`).
-/

set_option autoImplicit false

namespace LineScript.Expression

open LineScript.Text LineScript.Source LineScript.Number

variable {c d : Char} {rest cs : List Char} {fuel : Nat}

/-! ## Characters without a use -/

/-- The character counts as a letter and starts no name, or counts as a digit and is no decimal digit. -/
def isStray (c : Char) : Bool :=
  isLetter c && !isNameStart c || isDigitLike c && !isDecimal c

/-- Every letter of ASCII starts a name, and every digit of ASCII is decimal. -/
theorem not_isStray_of_ascii (ascii : c.toNat < 0x80) : isStray c = false := by
  have narrow : ¬0x80 ≤ c.toNat := by omega
  have digit : isDigitLike c = isDecimal c := by
    simp only [isDigitLike, narrow, decide_false, Bool.false_and, Bool.or_false]
  have letter : isLetter c = true → isNameStart c = true := by
    intro letter
    rw [isLetter, if_pos ascii] at letter
    rw [isNameStart, letter, Bool.true_or]
  rw [isStray, digit, Bool.and_not_self, Bool.or_false]
  cases isLetter_eq : isLetter c with
  | false => rfl
  | true => rw [letter isLetter_eq]; rfl

theorem splitName?_eq_none (nameless : splitName? (c :: rest) = none) : isNameStart c = false := by
  rw [splitName?] at nameless
  split at nameless
  · cases nameless
  · rename_i other
    exact Bool.eq_false_iff.mpr other

theorem isStray_of_nameless (letter : (isLetter c || decide (c = '_')) = true)
    (nameless : splitName? (c :: rest) = none) : isStray c = true := by
  have noStart := splitName?_eq_none nameless
  have different : c ≠ '_' := by
    rintro rfl
    exact absurd noStart (by decide)
  have isLetter_eq : isLetter c = true := by simpa [different] using letter
  rw [isStray, isLetter_eq, noStart]
  rfl

/-! ## Parts of a text -/

variable {after : List Char} {token : Token} {expectsOperand : Bool}

/-- A name and what follows it are the text. -/
theorem splitName?_eq_some {name : List Char} (split : splitName? cs = some (name, after)) :
    cs = name ++ after ∧ isName name = true := by
  rcases cs with _ | ⟨c, rest⟩
  · cases split
  · rw [splitName?] at split
    split at split
    · rename_i start
      cases split
      refine ⟨by rw [List.cons_append, List.takeWhile_append_dropWhile], ?_⟩
      rw [isName, start, Bool.true_and, List.all_eq_true]
      intro d member
      exact List.mem_takeWhile_imp member
    · cases split

/-- An operator and what follows it are the text. -/
theorem splitOperator?_eq_some {operator : Operator} (split : splitOperator? cs = some (operator, after)) :
    cs = operator.symbol.toList ++ after := by
  unfold splitOperator? at split
  split at split <;> cases split <;> rfl

/-- A numeral and what follows it are the text. -/
theorem numeral_split_eq {numeral : Numeral} (split : Numeral.split cs = (numeral, after)) :
    cs = numeral.text ++ after ∧ numeral.whole = cs.takeWhile isDecimal ∧ (numeral.whole ≠ [] → isWritten numeral = true) := by
  have digits (ds : List Char) : (ds.takeWhile isDecimal).all isDecimal = true :=
    List.all_eq_true.mpr fun _ member => List.mem_takeWhile_imp member
  have whole := List.takeWhile_append_dropWhile (p := isDecimal) (l := cs)
  rw [Numeral.split] at split
  split at split
  · rename_i tail point
    dsimp only at split
    split at split
    · cases split
      exact ⟨whole.symm, rfl, fun filled => by simp [isWritten, filled, digits]⟩
    · rename_i fraction
      cases split
      rw [Numeral.text, if_neg fraction]
      refine ⟨?_, rfl, fun filled => by simp [isWritten, filled, digits]⟩
      rw [List.append_assoc, List.cons_append, List.takeWhile_append_dropWhile, ← point, whole]
  · cases split
    exact ⟨whole.symm, rfl, fun filled => by simp [isWritten, filled, digits]⟩

theorem digits_of_ofText? {numeral : Numeral} (found : Numeral.ofText? cs = some numeral) :
    ∀ c ∈ cs, isDecimal c = true ∨ c = '.' := by
  rw [Numeral.ofText?] at found
  split at found
  · rename_i split
    obtain ⟨whole, _, written⟩ := numeral_split_eq split
    split_ifs at found with empty
    rw [List.append_nil] at whole
    rw [whole]
    exact numeral_chars (written (by simpa using empty))
  · cases found

/-! ## Chains -/

theorem afterGroup_eq_ok (passes : afterGroup cs = .ok after) : skipGroup cs = .ok after := by
  rw [afterGroup] at passes
  split at passes
  · cases passes
    assumption
  · cases passes

theorem not_stray_of_afterGroup : afterGroup cs ≠ .error (.stray d) := by
  intro fails
  rw [afterGroup] at fails
  split at fails <;> cases fails

/-- What may follow the first part of an operand: properties and argument lists. -/
inductive Links : List Char → Prop where
  | nil : Links []
  | call {inner rest : List Char} {closing : Char} (closed : Closed true inner) (closes : isClosing closing = true) :
      Links rest → Links ('(' :: (inner ++ closing :: rest))
  | property {name rest : List Char} (named : isName name = true) : Links rest → Links ('.' :: (name ++ rest))

/-- The scanner of chains passes links. -/
theorem exists_links_of_afterChain (passes : afterChain fuel cs = .ok after) : ∃ chain, Links chain ∧ cs = chain ++ after := by
  fun_induction afterChain fuel cs with
  | case1 | case2 | case7 | case8 | case9 =>
    cases passes
    exact ⟨[], .nil, rfl⟩
  | case4 => cases passes
  | case6 fuel d tail letter _ nameless =>
    rw [nameless] at passes
    cases passes
  | case3 fuel rest next skipped ih =>
    obtain ⟨inner, closing, closed, closes, rfl⟩ := exists_group_of_skipGroup rfl (afterGroup_eq_ok skipped)
    obtain ⟨chain, links, rfl⟩ := ih passes
    exact ⟨_, .call closed closes links, by simp⟩
  | case5 fuel d tail letter name next _ split ih =>
    rw [split] at passes
    obtain ⟨whole, named⟩ := splitName?_eq_some split
    obtain ⟨chain, links, rfl⟩ := ih passes
    exact ⟨_, .property named links, by simp [whole]⟩

theorem Links.endsWord {chain : List Char} (links : Links chain) : EndsWord chain := by
  cases links <;> rintro _ ⟨⟩ <;> decide

/-- On its own, a chain is passed to its end. -/
theorem Links.afterChain_eq {chain : List Char} (links : Links chain) (enough : chain.length ≤ fuel) :
    afterChain fuel chain = .ok [] := by
  induction links generalizing fuel with
  | nil => cases fuel <;> rfl
  | call closed closes links ih =>
    simp only [List.length_cons, List.length_append] at enough
    obtain ⟨fuel, rfl⟩ := Nat.exists_eq_add_one.mpr (show 0 < fuel by omega)
    rw [afterChain_call closed closes, ih (by omega)]
  | property named links ih =>
    simp only [List.length_cons, List.length_append] at enough
    obtain ⟨fuel, rfl⟩ := Nat.exists_eq_add_one.mpr (show 0 < fuel by omega)
    rw [afterChain_property named links.endsWord, ih (by omega)]

/-- A chain does not end with a quote. -/
theorem Links.quoteless {chain : List Char} (links : Links chain) : ∀ c ∈ chain.getLast?, isQuote c = false := by
  -- the last character of a longer chain is that of its end, if the end is not empty
  have grows (first : List Char) {rest : List Char} {c : Char} (noQuote : isQuote c = false)
      (quoteless : ∀ d ∈ rest.getLast?, isQuote d = false) : ∀ d ∈ (first ++ c :: rest).getLast?, isQuote d = false := by
    rw [List.getLast?_append, List.getLast?_cons]
    cases last : rest.getLast? with
    | none => simpa [last] using noQuote
    | some d => simpa [last] using quoteless d last
  induction links with
  | nil => simp
  | call _ closes _ ih => exact grows ('(' :: _) (isClosing_not_isQuote closes) ih
  | @property name rest named _ ih =>
    have some_left : name ≠ [] := by
      rintro rfl
      cases named
    obtain ⟨front, last, rfl⟩ := List.eq_nil_or_concat name |>.resolve_left some_left
    have word := name_isWord named last (by simp)
    simpa using grows ('.' :: front) (isPlain_iff.mp (plain_of_word word).1).1 ih

/-- A chain that cannot be scanned has a cause or holds a character without a use. -/
theorem stray_of_afterChain (fails : afterChain fuel cs = .error (.stray d)) : d ∈ cs ∧ isStray d = true := by
  fun_induction afterChain fuel cs with
  | case1 | case2 | case7 | case8 | case9 => cases fails
  | case3 fuel rest next skipped ih =>
    obtain ⟨inner, closing, _, _, rfl⟩ := exists_group_of_skipGroup rfl (afterGroup_eq_ok skipped)
    obtain ⟨member, stray⟩ := ih fails
    exact ⟨by simp [member], stray⟩
  | case4 fuel rest error skipped =>
    cases fails
    exact absurd skipped not_stray_of_afterGroup
  | case5 fuel e tail letter name next _ split ih =>
    rw [split] at fails
    obtain ⟨member, stray⟩ := ih fails
    rw [(splitName?_eq_some split).1]
    exact ⟨by simp [member], stray⟩
  | case6 fuel e tail letter _ nameless =>
    rw [nameless] at fails
    cases fails
    exact ⟨by simp, isStray_of_nameless letter nameless⟩

/-! ## Tokens -/

/-- The scanner of operands takes the text whole. -/
def Taken (cs : List Char) : Prop :=
  ∃ c tail, cs = c :: tail ∧ isBlank c = false ∧ c ∉ marks ∧ operandToken c tail = .ok (.operand cs, [])

/-- An operand is taken whole from its own text, and one that starts and ends with the same quote is one literal. -/
def Token.Whole : Token → Prop
  | .operand cs => Taken cs ∧ (isTextLiteral cs = true → ∃ quote body, isQuote quote = true ∧ Raw quote body ∧
      cs = quote :: (body ++ [quote]))
  | _ => True

/-- A token is scanned: it stands at the start of the text, it is not empty, and it is whole. -/
structure Scanned (cs : List Char) (token : Token) (after : List Char) : Prop where
  split : cs = token.written ++ after
  filled : token.written ≠ []
  whole : token.Whole

theorem Scanned.length_lt (scanned : Scanned cs token after) : after.length < cs.length := by
  have filled := List.length_pos_iff.mpr scanned.filled
  rw [scanned.split, List.length_append]
  omega

theorem isTextLiteral_eq_false (noQuote : isQuote c = false) : isTextLiteral (c :: rest) = false := by
  rw [isTextLiteral, noQuote, Bool.false_and]

/-- The operand that a chain continues. -/
theorem scanned_chain {head : List Char} (scans : chainedOperand (c :: (head ++ rest)) rest = .ok (token, after))
    (solid : isBlank c = false) (other : c ∉ marks)
    (again : ∀ chain, Links chain → operandToken c (head ++ chain) = chainedOperand (c :: (head ++ chain)) chain)
    (whole : isQuote c = true → ∃ body, Raw c body ∧ head = body ++ [c]) :
    Scanned (c :: (head ++ rest)) token after := by
  rw [chainedOperand] at scans
  split at scans
  · rename_i passes
    cases scans
    obtain ⟨chain, links, rfl⟩ := exists_links_of_afterChain passes
    have operand : consumed (c :: (head ++ (chain ++ after))) after = c :: (head ++ chain) := by
      rw [← List.append_assoc, ← List.cons_append, consumed_append]
    have taken : Taken (c :: (head ++ chain)) := by
      refine ⟨c, head ++ chain, rfl, solid, other, ?_⟩
      have whole := consumed_append (c :: (head ++ chain)) []
      rw [List.append_nil] at whole
      rw [again chain links, chainedOperand, links.afterChain_eq (Nat.le_refl _)]
      simp only [whole]
    rw [operand]
    refine ⟨by simp [Token.written], by simp [Token.written], taken, ?_⟩
    intro literal
    rw [isTextLiteral, Bool.and_eq_true] at literal
    obtain ⟨opens, last⟩ := literal
    obtain ⟨body, raw, rfl⟩ := whole opens
    -- a chain after the literal would end with something else than a quote
    have alone : chain = [] := by
      rcases List.eq_nil_or_concat chain with none_left | ⟨front, d, rfl⟩
      · exact none_left
      · have noQuote := links.quoteless d (by simp)
        have same : d = c := by simpa [List.getLast?_cons] using last
        rw [same, opens] at noQuote
        cases noQuote
    exact ⟨c, body, opens, raw, by rw [alone, List.append_nil]⟩
  · cases scans

theorem stray_of_chainedOperand (head : List Char) (split : cs = head ++ rest)
    (fails : chainedOperand cs rest = .error (.stray d)) : d ∈ cs ∧ isStray d = true := by
  rw [chainedOperand] at fails
  split at fails
  · cases fails
  · rename_i failed
    cases fails
    obtain ⟨member, stray⟩ := stray_of_afterChain failed
    exact ⟨split ▸ List.mem_append_right _ member, stray⟩

/-- A word is an operator or starts an operand. -/
theorem scanned_word {name next : List Char} (split : splitName? (c :: rest) = some (name, next))
    (scans : wordToken (c :: rest) name next = .ok (token, after)) : Scanned (c :: rest) token after := by
  obtain ⟨whole, named⟩ := splitName?_eq_some split
  obtain ⟨name, rfl⟩ : ∃ tail, name = c :: tail := by
    rcases name with _ | ⟨d, name⟩
    · cases named
    · exact ⟨name, by rw [(List.cons.inj whole).1]⟩
  have word := name_isWord named c (.head _)
  have start : isNameStart c = true := by
    rw [isName, Bool.and_eq_true] at named
    exact named.1
  rw [wordToken] at scans
  split_ifs at scans with conjunction disjunction complement
  · cases scans
    exact ⟨whole.trans (by rw [conjunction]; rfl), by decide, trivial⟩
  · cases scans
    exact ⟨whole.trans (by rw [disjunction]; rfl), by decide, trivial⟩
  · cases scans
    exact ⟨whole.trans (by rw [complement]; rfl), by decide, trivial⟩
  · obtain ⟨-, rfl⟩ := List.cons.inj whole
    refine scanned_chain scans (not_blank_of_isWord word) (not_mem_marks_of_isNameStart start) (fun chain links => ?_)
      fun opens => ?_
    · rw [operandToken_name named links.endsWord, wordToken, if_neg conjunction, if_neg disjunction, if_neg complement]
    · rw [(isPlain_iff.mp (plain_of_word word).1).1] at opens
      cases opens

/-- A numeral is an operand. -/
theorem scanned_numeral (decimal : isDecimal c = true) (scans : (let (numeral, after) := Numeral.split (c :: rest)
      (.ok (.operand numeral.text, after) : Except TokenError (Token × List Char))) = .ok (token, after)) :
    Scanned (c :: rest) token after := by
  obtain ⟨numeral, next, split⟩ : ∃ numeral next, Numeral.split (c :: rest) = (numeral, next) := ⟨_, _, rfl⟩
  rw [split] at scans
  cases scans
  obtain ⟨whole, digits, written⟩ := numeral_split_eq split
  have written := written (by rw [digits, List.takeWhile_cons_of_pos decimal]; exact List.cons_ne_nil _ _)
  obtain ⟨solid, d, tail, text, taken⟩ := scans_numeral written
  have alone := taken [] (by simp [EndsToken])
  rw [Token.written] at text
  rw [text] at whole
  obtain rfl : c = d := (List.cons.inj whole).1
  have other : c ∉ marks := not_mem_of_class decimal (by decide)
  rw [nextToken_operand true other, List.append_nil] at alone
  have noQuote := (isPlain_iff.mp (plain_of_word (isWord_of_isDecimal decimal)).1).1
  refine ⟨text ▸ whole, solid.ne_nil, ⟨c, tail, text, not_blank_of_isDecimal decimal, other, alone⟩, fun literal => ?_⟩
  rw [text, isTextLiteral_eq_false noQuote] at literal
  cases literal

/-- Every operand is scanned as one. -/
theorem scanned_operand (scans : operandToken c rest = .ok (token, after)) : Scanned (c :: rest) token after := by
  rw [operandToken] at scans
  split at scans
  · -- a literal
    rename_i opens
    split at scans
    · rename_i next passes
      obtain ⟨body, raw, rfl⟩ := exists_raw_of_skipText passes
      have same : body ++ c :: next = (body ++ [c]) ++ next := by simp
      rw [same] at scans ⊢
      refine scanned_chain scans ?_ (not_mem_of_class opens (by decide)) (fun chain _ => ?_) fun _ => ⟨body, raw, rfl⟩
      · simpa using (solid_of_quote opens).1
      · rw [operandToken, if_pos opens, List.append_assoc, List.singleton_append, skipText_raw opens raw]
    · cases scans
  · rename_i noQuote
    split at scans
    · -- a numeral
      split at scans
      · rename_i decimal
        exact scanned_numeral decimal scans
      · cases scans
    · split at scans
      · -- a list
        rename_i bracket
        split at scans
        · rename_i next skipped
          obtain ⟨inner, closing, closed, closes, rfl⟩ := exists_group_of_skipGroup (by rw [bracket]; rfl) (afterGroup_eq_ok skipped)
          have same : inner ++ closing :: next = (inner ++ [closing]) ++ next := by simp
          rw [same] at scans ⊢
          subst bracket
          refine scanned_chain scans (by decide) (by decide) (fun chain _ => ?_) fun opens => absurd opens noQuote
          rw [operandToken, if_neg (by decide), if_neg (by decide), if_pos rfl, List.append_assoc, List.singleton_append,
            afterGroup, skipGroup_group rfl closes closed]
        · cases scans
      · split at scans
        · -- a word
          split at scans
          · rename_i split
            exact scanned_word split scans
          · cases scans
        · cases scans

/-- The first token of a text is scanned. -/
theorem scanned_token (scans : nextToken expectsOperand c rest = .ok (token, after)) :
    Scanned (c :: rest) token after := by
  rw [nextToken] at scans
  split at scans
  · rename_i bracket
    cases scans
    exact ⟨by rw [bracket]; rfl, by decide, trivial⟩
  · split at scans
    · rename_i bracket
      cases scans
      exact ⟨by rw [bracket]; rfl, by decide, trivial⟩
    · split at scans
      · rename_i split
        cases scans
        cases expectsOperand <;> exact ⟨splitOperator?_eq_some split, by decide, trivial⟩
      · rename_i operator next _ split
        cases scans
        refine ⟨splitOperator?_eq_some split, ?_, trivial⟩
        cases operator <;> decide
      · exact scanned_operand scans

/-- An operand that cannot be scanned has a cause or holds a character without a use. -/
theorem stray_of_operandToken (fails : operandToken c rest = .error (.stray d)) : d ∈ c :: rest ∧ isStray d = true := by
  rw [operandToken] at fails
  split at fails
  · split at fails
    · rename_i next passes
      obtain ⟨body, _, rfl⟩ := exists_raw_of_skipText passes
      exact stray_of_chainedOperand (c :: (body ++ [c])) (by simp) fails
    · cases fails
  · split at fails
    · rename_i digit
      split at fails
      · cases fails
      · rename_i decimal
        cases fails
        refine ⟨List.mem_cons_self .., ?_⟩
        rw [isStray, digit, Bool.eq_false_iff.mpr decimal]
        exact Bool.or_true _
    · split at fails
      · rename_i bracket
        split at fails
        · rename_i next skipped
          obtain ⟨inner, closing, _, _, rfl⟩ := exists_group_of_skipGroup (by rw [bracket]; rfl) (afterGroup_eq_ok skipped)
          exact stray_of_chainedOperand (c :: (inner ++ [closing])) (by simp) fails
        · rename_i skipped
          cases fails
          exact absurd skipped not_stray_of_afterGroup
      · split at fails
        · rename_i letter
          split at fails
          · rename_i name next split
            rw [wordToken] at fails
            split_ifs at fails
            exact stray_of_chainedOperand name (splitName?_eq_some split).1 fails
          · rename_i nameless
            cases fails
            exact ⟨List.mem_cons_self .., isStray_of_nameless letter nameless⟩
        · cases fails

/-- A text without a first token has a cause or holds a character without a use. -/
theorem stray_of_nextToken (fails : nextToken expectsOperand c rest = .error (.stray d)) :
    d ∈ c :: rest ∧ isStray d = true := by
  rw [nextToken] at fails
  split at fails
  · cases fails
  · split at fails
    · cases fails
    · split at fails
      · cases fails
      · cases fails
      · exact stray_of_operandToken fails

/-! ## Texts -/

/-- The tokens stand in the text in order, with white space around them, and each is whole. -/
inductive Laid : List Token → List Char → Prop where
  | nil : Laid [] []
  | blank {c : Char} {cs : List Char} {tokens : List Token} (blank : isBlank c = true) :
      Laid tokens cs → Laid tokens (c :: cs)
  | token {token : Token} {cs : List Char} {tokens : List Token} (whole : token.Whole) :
      Laid tokens cs → Laid (token :: tokens) (token.written ++ cs)

theorem tokensFrom_laid {tokens : List Token} (enough : cs.length ≤ fuel)
    (scans : tokensFrom fuel expectsOperand cs = .ok tokens) : Laid tokens cs := by
  fun_induction tokensFrom fuel expectsOperand cs generalizing tokens with
  | case1 expectsOperand cs =>
    cases scans
    rw [List.length_eq_zero_iff.mp (Nat.le_zero.mp enough)]
    exact .nil
  | case2 =>
    cases scans
    exact .nil
  | case3 fuel expectsOperand c rest blank ih =>
    exact .blank blank (ih (Nat.le_of_succ_le_succ enough) scans)
  | case4 => cases scans
  | case5 fuel expectsOperand c rest _ token after first ih =>
    have scanned := scanned_token first
    have shorter := scanned.length_lt
    cases more : tokensFrom fuel token.expectsOperand after with
    | error error =>
      rw [more] at scans
      cases scans
    | ok others =>
      rw [more] at scans
      cases scans
      rw [scanned.split]
      exact .token scanned.whole (ih (by omega) more)

/-- The tokens of a text make it up but for white space. -/
theorem tokenize_laid {tokens : List Token} (scans : tokenize cs = .ok tokens) : Laid tokens cs :=
  tokensFrom_laid (Nat.le_refl _) scans

/-- A text without tokens has a cause or holds a character without a use. -/
theorem stray_of_tokensFrom (fails : tokensFrom fuel expectsOperand cs = .error (.stray d)) :
    d ∈ cs ∧ isStray d = true := by
  fun_induction tokensFrom fuel expectsOperand cs with
  | case1 | case2 => cases fails
  | case3 fuel expectsOperand c rest blank ih =>
    obtain ⟨member, stray⟩ := ih fails
    exact ⟨List.mem_cons_of_mem c member, stray⟩
  | case4 fuel expectsOperand c rest _ error first =>
    cases fails
    exact stray_of_nextToken first
  | case5 fuel expectsOperand c rest _ token after first ih =>
    cases more : tokensFrom fuel token.expectsOperand after with
    | error error =>
      rw [more] at fails
      cases fails
      obtain ⟨member, stray⟩ := ih more
      rw [(scanned_token first).split]
      exact ⟨List.mem_append_right _ member, stray⟩
    | ok others =>
      rw [more] at fails
      cases fails

end LineScript.Expression
