import LineScript.Proofs.Expression.Printing

/-!
# Scanning printed expressions

The tokenizer gives the tokens of a printed expression back (`tokenize_spaced`). It meets each token with
white space or nothing behind it, so no token can grow into the next one. Two things need an argument. A
minus sign is taken for a unary operator exactly where an operand is due, and infix order has unary
operators only there (`Alternates`). And an operand is passed by the scanners of groups and literals,
which never see that it is one; they rely on its being closed (`Chain.closed`).
-/

set_option autoImplicit false

namespace LineScript.Expression

open LineScript.Text LineScript.Source LineScript.Number

variable {numeral : Numeral} {cs rest : List Char} {tokens : List Token} {c : Char} {fuel : Nat} {tree : Expr}

/-! ## Printed texts are closed -/

theorem closed_of_margin {blank : List Char} (margin : Margin blank) : Closed false blank :=
  Closed.of_plain fun c member => plain_of_blank (margin c member)

variable {name : List Char} {expectsOperand : Bool}

theorem name_isWord (named : isName name = true) : ∀ c ∈ name, isWord c = true := by
  cases name with
  | nil => cases named
  | cons c name =>
    simp only [isName, Bool.and_eq_true, List.all_eq_true] at named
    intro d member
    rcases List.mem_cons.mp member with rfl | member
    · exact isWord_of_isNameStart named.1
    · exact named.2 d member

theorem closed_of_name (named : isName name = true) : Closed false name := by
  exact Closed.of_plain fun c member => plain_of_word (name_isWord named c member)

theorem numeral_chars (written : isWritten numeral = true) : ∀ c ∈ numeral.text, isDecimal c = true ∨ c = '.' := by
  simp only [isWritten, Bool.and_eq_true, List.all_eq_true] at written
  obtain ⟨⟨_, whole⟩, fraction⟩ := written
  intro c member
  rw [Numeral.text] at member
  split at member
  · exact .inl (whole c member)
  · rcases List.mem_append.mp member with member | member
    · exact .inl (whole c member)
    · rcases List.mem_cons.mp member with rfl | member
      · exact .inr rfl
      · exact .inl (fraction c member)

theorem closed_of_numeral (written : isWritten numeral = true) : Closed false numeral.text := by
  refine Closed.of_plain fun c member => ?_
  rcases numeral_chars written c member with decimal | rfl
  · exact plain_of_word (isWord_of_isDecimal decimal)
  · decide

theorem Escaped.raw {quote : Char} {value body : List Char} (escaped : Escaped quote value body) : Raw quote body := by
  induction escaped with
  | nil => exact .nil
  | plain noEscape noQuote _ ih => exact .plain noEscape noQuote ih
  | escape _ _ ih => exact .hidden _ ih

theorem closed_of_binary (operator : BinaryOperator) : Closed false (Token.binary operator).written := by
  have plain : (Token.binary operator).written.all (fun c => isPlain c ∧ c ≠ ',') = true := by
    rcases operator with operator | connective
    · cases operator <;> decide
    · cases connective <;> decide
  exact Closed.of_plain fun c member => of_decide_eq_true (List.all_eq_true.mp plain c member)

theorem closed_of_unary (operator : UnaryOperator) : Closed false (Token.unary operator).written := by
  have plain : (Token.unary operator).written.all (fun c => isPlain c ∧ c ≠ ',') = true := by
    cases operator <;> decide
  exact Closed.of_plain fun c member => of_decide_eq_true (List.all_eq_true.mp plain c member)

/-- Closed items make a closed list. -/
theorem closed_itemsText {blank : List Char} {items : List (List Char)} (margin : Margin blank)
    (closed : ∀ cs ∈ items, Closed false cs) : Closed true (itemsText blank items) := by
  cases items with
  | nil => exact (closed_of_margin margin).listed
  | cons item items =>
    rw [itemsText]
    induction items generalizing item with
    | nil =>
      rw [List.intercalate_singleton]
      exact (closed item (.head _)).listed
    | cons next items ih =>
      rw [List.intercalate_cons_cons, List.append_assoc]
      refine (closed item (.head _)).listed.append ?_
      refine .plain (by decide) (fun _ => rfl) (ih next fun cs member => ?_)
      exact closed cs (List.mem_cons_of_mem item member)

theorem Spaced.eq_written {token : Token} (spaced : Spaced [token] cs) : cs = token.written := by
  cases spaced with
  | one => rfl
  | more _ _ spaced => cases spaced

/-- A token with others behind it is written in front of them. -/
theorem Spaced.uncons {token : Token} (spaced : Spaced (token :: tokens) cs) (some : tokens ≠ []) :
    ∃ gap rest, Gap gap ∧ Spaced tokens rest ∧ cs = token.written ++ gap ++ rest := by
  cases spaced with
  | one => exact absurd rfl some
  | @more _ gap rest _ between spaced => exact ⟨gap, rest, between, spaced, rfl⟩

/-- Tokens in two parts are written in two parts. -/
theorem Spaced.split {first second : List Token} (spaced : Spaced (first ++ second) cs) (someFirst : first ≠ [])
    (someSecond : second ≠ []) :
    ∃ front gap back, Spaced first front ∧ Gap gap ∧ Spaced second back ∧ cs = front ++ gap ++ back := by
  induction first generalizing cs with
  | nil => exact absurd rfl someFirst
  | cons token first ih =>
    obtain ⟨gap, rest, between, spacedRest, rfl⟩ := spaced.uncons (by simp [someSecond])
    cases first with
    | nil => exact ⟨token.written, gap, rest, .one token, between, spacedRest, rfl⟩
    | cons next first =>
      obtain ⟨front, inner, back, spacedFront, between', spacedBack, rfl⟩ :=
        ih spacedRest (List.cons_ne_nil next first)
      refine ⟨token.written ++ gap ++ front, inner, back, .more token between spacedFront,
        between', spacedBack, ?_⟩
      simp only [List.append_assoc]

mutual

theorem Printed.closed : ∀ {tree : Expr} {cs : List Char}, Printed tree cs → Closed false cs
  | _, _, .spaced blankBefore order spaced blankAfter =>
    ((closed_of_margin blankBefore).append (order.closed spaced)).append (closed_of_margin blankAfter)

theorem Infix.closed : ∀ {tree : Expr} {level : Nat} {tokens : List Token} {cs : List Char},
    Infix tree level tokens → Spaced tokens cs → Closed false cs
  | _, _, _, _, .operand operand, .one _ => operand.closed
  | _, _, _, _, .binary operator leftOrder rightOrder _ _, spaced => by
    obtain ⟨front, gap, back, spacedLeft, between, spacedRest, rfl⟩ :=
      spaced.split leftOrder.ne_nil (List.cons_ne_nil _ _)
    obtain ⟨inner, rest, between', spacedRight, rfl⟩ := spacedRest.uncons rightOrder.ne_nil
    have operatorClosed := (closed_of_binary operator).append (closed_of_margin between'.2)
    exact ((leftOrder.closed spacedLeft).append (closed_of_margin between.2)).append
      (operatorClosed.append (rightOrder.closed spacedRight))
  | _, _, _, _, .unary operator order _, spaced => by
    obtain ⟨gap, rest, between, spacedRest, rfl⟩ := spaced.uncons order.ne_nil
    exact ((closed_of_unary operator).append (closed_of_margin between.2)).append
      (order.closed spacedRest)
  | _, _, _, _, .parenthesized order, spaced => by
    obtain ⟨gap, rest, between, spacedRest, rfl⟩ := spaced.uncons (by simp)
    obtain ⟨front, inner, back, spacedInner, between', spacedBack, rfl⟩ :=
      spacedRest.split order.ne_nil (List.cons_ne_nil _ _)
    obtain rfl := spacedBack.eq_written
    have innerClosed := ((closed_of_margin between.2).append (order.closed spacedInner)).append
      (closed_of_margin between'.2)
    have grouped : Closed false ('(' :: (_ ++ ')' :: [])) :=
      .group (by decide) (by decide) innerClosed.listed .nil
    simpa only [Token.written, List.append_assoc, List.cons_append, List.nil_append] using grouped

theorem Operand.closed : ∀ {tree : Expr} {cs : List Char}, Operand tree cs → Closed false cs
  | _, _, .null => closed_of_name (by decide)
  | _, _, .boolean value => closed_of_name (by cases value <;> decide)
  | _, _, .number written => closed_of_numeral written
  | _, _, .chain chain => chain.closed

theorem Chain.closed : ∀ {tree : Expr} {cs : List Char}, Chain tree cs → Closed false cs
  | _, _, .variable named => by
    simp only [isVariableName, Bool.and_eq_true] at named
    exact closed_of_name named.1
  | _, _, .text (.intro opens escaped) => .literal opens escaped.raw .nil
  | _, _, .list margin printed =>
    .group (by decide) (by decide) (closed_itemsText margin printed.closed) .nil
  | _, _, .property chain named =>
    chain.closed.append (.plain (by decide) (by decide) (closed_of_name named))
  | _, _, .call chain margin printed =>
    chain.closed.append (.group (by decide) (by decide) (closed_itemsText margin printed.closed) .nil)

theorem Items.closed : ∀ {trees : List Expr} {items : List (List Char)},
    Items trees items → ∀ cs ∈ items, Closed false cs
  | _, _, .nil, _, member => by cases member
  | _, _, .cons printed rest, cs, member => by
    rcases List.mem_cons.mp member with equal | member
    · rw [equal]
      exact printed.closed
    · exact rest.closed cs member

end

/-! ## Names and what may follow them -/

/-- The text does not go on with a word. -/
def EndsWord (rest : List Char) : Prop :=
  ∀ c ∈ rest.head?, isWord c = false

/-- The text is empty or starts with white space. -/
def EndsToken (rest : List Char) : Prop :=
  ∀ c ∈ rest.head?, isBlank c = true

theorem EndsToken.endsWord (ends : EndsToken rest) : EndsWord rest := by
  intro c member
  exact not_word_of_isBlank (ends c member)

/-- The name at the start of a text is found whole. -/
theorem splitName?_append (named : isName name = true) (ends : EndsWord rest) :
    splitName? (name ++ rest) = some (name, rest) := by
  cases name with
  | nil => cases named
  | cons c name =>
    simp only [isName, Bool.and_eq_true, List.all_eq_true] at named
    obtain ⟨taken, dropped⟩ := takeWhile_append_of_head named.2 ends
    rw [List.cons_append, splitName?, if_pos named.1, taken, dropped]

/-! ## Solid tokens -/

theorem solid_of_name (named : isName name = true) : Solid name := by
  refine Solid.of_all ?_ fun c member => not_blank_of_isWord (name_isWord named c member)
  rintro rfl
  cases named

theorem solid_of_quote {quote : Char} (opens : isQuote quote = true) : Solid [quote] := by
  simp only [isQuote, Bool.or_eq_true, beq_iff_eq] at opens
  rcases opens with rfl | rfl <;> decide

/-! ## Single tokens -/

/-- Where the token is expected, the scanner takes it off a text in which it stands whole. -/
def Scans (expectsOperand : Bool) (token : Token) : Prop :=
  Solid token.written ∧ ∃ c tail, token.written = c :: tail ∧
    ∀ rest, EndsToken rest → nextToken expectsOperand c (tail ++ rest) = .ok (token, rest)

/-- The characters that make up tokens of their own. -/
def marks : List Char :=
  ['(', ')', '=', '!', '<', '>', '+', '-', '*', '/', '%', '&', '|', '^']

theorem splitOperator?_eq_none (other : c ∉ marks) : splitOperator? (c :: rest) = none := by
  apply splitOperator?.eq_17 <;> rintro _ ⟨⟩ <;> exact other (by decide)

/-- A text that starts with another character starts with an operand. -/
theorem nextToken_operand (expectsOperand : Bool) (other : c ∉ marks) :
    nextToken expectsOperand c rest = operandToken c rest := by
  have noOpening : c ≠ '(' := fun equal => other (by rw [equal]; decide)
  have noClosing : c ≠ ')' := fun equal => other (by rw [equal]; decide)
  rw [nextToken, if_neg noOpening, if_neg noClosing, splitOperator?_eq_none other]

theorem splitOperator?_written (operator : Operator) (ends : EndsToken rest) :
    splitOperator? (operator.symbol.toList ++ rest) = some (operator, rest) := by
  cases rest with
  | nil => cases operator <;> rfl
  | cons d rest =>
    have blank := ends d rfl
    have noEqual : d ≠ '=' := ne_of_class blank (by decide)
    have noLess : d ≠ '<' := ne_of_class blank (by decide)
    have noGreater : d ≠ '>' := ne_of_class blank (by decide)
    cases operator <;> simp [Operator.symbol, splitOperator?, noEqual, noLess, noGreater]

theorem isVariableName_iff : isVariableName name = true ↔ isName name = true ∧ name ∉ reservedWords := by
  simp only [isVariableName, Bool.and_eq_true, Bool.not_eq_true', List.contains_eq_mem,
    decide_eq_false_iff_not]

/-- A text that starts with a name goes on as the word decides. -/
theorem operandToken_name (named : isName (c :: name) = true) (ends : EndsWord rest) :
    operandToken c (name ++ rest) = wordToken (c :: (name ++ rest)) (c :: name) rest := by
  have split := splitName?_append named ends
  simp only [isName, Bool.and_eq_true] at named
  have noQuote : isQuote c = false := (isPlain_iff.mp (plain_of_word (isWord_of_isNameStart named.1)).1).1
  have noBracket : c ≠ '[' := ne_of_class named.1 (by decide)
  rw [operandToken, noQuote, not_digitLike_of_isNameStart named.1, isLetter_of_isNameStart named.1]
  simp only [Bool.false_eq_true, if_false, if_neg noBracket, if_true]
  rw [List.cons_append] at split
  rw [split]

theorem not_mem_marks_of_isNameStart (start : isNameStart c = true) : c ∉ marks :=
  not_mem_of_class start (by decide)

/-- A word in a text is met where its first character is no mark. -/
theorem nextToken_name (expectsOperand : Bool) (named : isName (c :: name) = true) (ends : EndsWord rest) :
    nextToken expectsOperand c (name ++ rest) = wordToken (c :: (name ++ rest)) (c :: name) rest := by
  have start : isNameStart c = true := by
    simp only [isName, Bool.and_eq_true] at named
    exact named.1
  rw [nextToken_operand expectsOperand (not_mem_marks_of_isNameStart start), operandToken_name named ends]

/-- A sign is met where no operand is due. -/
theorem nextToken_operator {operator : Operator} {after : List Char}
    (found : splitOperator? (c :: rest) = some (operator, after)) :
    nextToken false c rest = .ok (.binary (.apply operator), after) := by
  have noOpening : c ≠ '(' := by
    rintro rfl
    cases found
  have noClosing : c ≠ ')' := by
    rintro rfl
    cases found
  rw [nextToken, if_neg noOpening, if_neg noClosing, found]
  cases operator <;> rfl

theorem solid_of_binary (operator : BinaryOperator) : Solid (Token.binary operator).written := by
  rcases operator with operator | connective
  · cases operator <;> decide
  · cases connective <;> decide

theorem scans_binary (operator : BinaryOperator) : Scans false (.binary operator) := by
  refine ⟨solid_of_binary operator, ?_⟩
  rcases operator with operator | connective
  · obtain ⟨c, tail, symbol⟩ := List.exists_cons_of_ne_nil (solid_of_binary (.apply operator)).ne_nil
    refine ⟨c, tail, symbol, fun rest ends => nextToken_operator ?_⟩
    rw [← List.cons_append, ← symbol]
    exact splitOperator?_written operator ends
  · cases connective <;>
      exact ⟨_, _, rfl, fun rest ends => nextToken_name false (by decide) ends.endsWord⟩

theorem scans_unary (operator : UnaryOperator) : Scans true (.unary operator) := by
  cases operator with
  | negate => exact ⟨by decide, _, _, rfl, fun rest _ => rfl⟩
  | complement =>
    refine ⟨by decide, _, _, rfl, fun rest ends => ?_⟩
    exact nextToken_name true (by decide) ends.endsWord

theorem scans_opening : Scans true .opening :=
  ⟨by decide, _, _, rfl, fun _ _ => rfl⟩

theorem scans_closing : Scans false .closing :=
  ⟨by decide, _, _, rfl, fun _ _ => rfl⟩

/-! ## Operands -/

/-- The scanner of chains passes a name behind a point. -/
theorem afterChain_property (named : isName name = true) (ends : EndsWord rest) :
    afterChain (fuel + 1) ('.' :: (name ++ rest)) = afterChain fuel rest := by
  have split := splitName?_append named ends
  cases name with
  | nil => cases named
  | cons c name =>
    simp only [isName, Bool.and_eq_true] at named
    rw [List.cons_append] at split ⊢
    rw [afterChain.eq_def]
    simp only [if_neg (show '.' ≠ '(' by decide), if_true, isLetter_of_isNameStart named.1, split]

/-- The scanner of chains passes an argument list. -/
theorem afterChain_call {inner : List Char} (closed : Closed true inner) (closes : isClosing c = true) :
    afterChain (fuel + 1) ('(' :: (inner ++ c :: rest)) = afterChain fuel rest := by
  rw [afterChain.eq_def]
  have skipped : skipGroup ('(' :: (inner ++ c :: rest)) = .ok rest := skipGroup_group rfl closes closed rest
  simp only [if_true, afterGroup, skipped]

theorem afterChain_of_endsToken (ends : EndsToken rest) : afterChain fuel rest = .ok rest := by
  cases fuel with
  | zero => rfl
  | succ fuel =>
    cases rest with
    | nil => rfl
    | cons c rest =>
      have noOpening : c ≠ '(' := ne_of_class (ends c rfl) (by decide)
      have noPoint : c ≠ '.' := ne_of_class (ends c rfl) (by decide)
      rw [afterChain.eq_def]
      simp only [if_neg noOpening, if_neg noPoint]

/-- The operand whose first part ends before `rest`, if its chain has at most the given length. -/
def chainedWithin (fuel : Nat) (cs rest : List Char) : Except TokenError (Token × List Char) :=
  match afterChain fuel rest with
  | .ok after => .ok (.operand (consumed cs after), after)
  | .error error => .error error

theorem wordToken_of_not_reserved (free : name ∉ reservedWords) :
    wordToken cs name rest = chainedWithin rest.length cs rest := by
  simp only [reservedWords, List.mem_cons, List.not_mem_nil, or_false, not_or] at free
  rw [wordToken, if_neg free.1, if_neg free.2.1, if_neg free.2.2.1]
  rfl

theorem chainedWithin_succ {more : List Char} (passes : afterChain (fuel + 1) more = afterChain fuel rest) :
    chainedWithin (fuel + 1) cs more = chainedWithin fuel cs rest := by
  rw [chainedWithin, passes, chainedWithin]

/-- The scanner gets past a chain to the text behind it, and there looks for more of the chain. -/
theorem Chain.operandToken_append : ∀ {tree : Expr} {cs : List Char}, Chain tree cs →
    ∀ {rest : List Char}, EndsWord rest → ∃ c tail fuel, cs = c :: tail ∧ rest.length ≤ fuel ∧
      c ∉ marks ∧ operandToken c (tail ++ rest) = chainedWithin fuel (cs ++ rest) rest
  | _, _, @Chain.variable name named, rest, ends => by
    obtain ⟨named, free⟩ := isVariableName_iff.mp named
    cases name with
    | nil => cases named
    | cons c name =>
      have start : isNameStart c = true := by
        simp only [isName, Bool.and_eq_true] at named
        exact named.1
      refine ⟨c, name, rest.length, rfl, Nat.le_refl _, not_mem_marks_of_isNameStart start, ?_⟩
      rw [operandToken_name named ends, wordToken_of_not_reserved free, List.cons_append]
  | _, _, .text (@Quoted.intro quote _ body opens escaped), rest, ends => by
    refine ⟨quote, body ++ [quote], rest.length, rfl, Nat.le_refl _, not_mem_of_class opens (by decide),
      ?_⟩
    rw [List.append_assoc, List.singleton_append, operandToken, if_pos opens,
      skipText_raw opens escaped.raw]
    simp only [List.cons_append, List.append_assoc, List.nil_append]
    rfl
  | _, _, @Chain.list _ items blank margin printed, rest, ends => by
    refine ⟨_, _, rest.length, rfl, Nat.le_refl _, by decide, ?_⟩
    rw [List.append_assoc, List.singleton_append, operandToken, if_neg (by decide), if_neg (by decide),
      if_pos rfl, afterGroup, skipGroup_group (by decide) (by decide) (closed_itemsText margin printed.closed)]
    simp only [List.cons_append, List.append_assoc, List.nil_append]
    rfl
  | _, _, @Chain.property _ cs name chain named, rest, ends => by
    -- the target is scanned first, with the point and the name as part of what follows it
    have pointEnds : EndsWord ('.' :: (name ++ rest)) := by
      intro c member
      cases member
      decide
    obtain ⟨c, tail, fuel, equal, enough, other, scanned⟩ := chain.operandToken_append pointEnds
    rw [List.length_cons, List.length_append] at enough
    obtain ⟨fuel, rfl⟩ := Nat.exists_eq_add_one.mpr (show 0 < fuel by omega)
    refine ⟨c, tail ++ '.' :: name, fuel, by rw [equal, List.cons_append], by omega, other, ?_⟩
    rw [List.append_assoc, List.cons_append, scanned, chainedWithin_succ (afterChain_property named ends),
      List.append_assoc, List.cons_append]
  | _, _, @Chain.call _ cs _ items blank chain margin printed, rest, ends => by
    have groupEnds : EndsWord ('(' :: (itemsText blank items ++ ')' :: rest)) := by
      intro c member
      cases member
      decide
    obtain ⟨c, tail, fuel, equal, enough, other, scanned⟩ := chain.operandToken_append groupEnds
    rw [List.length_cons, List.length_append, List.length_cons] at enough
    obtain ⟨fuel, rfl⟩ := Nat.exists_eq_add_one.mpr (show 0 < fuel by omega)
    refine ⟨c, tail ++ '(' :: (itemsText blank items ++ [')']), fuel, by rw [equal, List.cons_append],
      by omega, other, ?_⟩
    have closed := closed_itemsText margin printed.closed
    simp only [List.append_assoc, List.cons_append, List.nil_append, scanned,
      chainedWithin_succ (afterChain_call closed (show isClosing ')' = true from rfl))]

/-- A numeral in a text is found whole. -/
theorem Numeral.split_text (written : isWritten numeral = true)
    (ends : EndsToken rest) : Numeral.split (numeral.text ++ rest) = (numeral, rest) := by
  simp only [isWritten, Bool.and_eq_true, List.all_eq_true] at written
  obtain ⟨⟨_, whole⟩, fraction⟩ := written
  have digitsEnd : ∀ c ∈ rest.head?, isDecimal c = false := by
    intro c member
    by_contra decimal
    have blank := ends c member
    rw [not_blank_of_isDecimal (by simpa using decimal)] at blank
    cases blank
  rcases numeral with ⟨digits, _ | ⟨d, decimals⟩⟩
  · obtain ⟨taken, dropped⟩ := takeWhile_append_of_head whole digitsEnd
    rw [show Numeral.text ⟨digits, []⟩ = digits from rfl, Numeral.split, taken, dropped]
    split
    · exact absurd (ends '.' rfl) (by decide)
    · rfl
  · have pointEnds : ∀ c ∈ (('.' :: d :: decimals) ++ rest).head?, isDecimal c = false := by
      intro c member
      cases member
      decide
    obtain ⟨taken, dropped⟩ := takeWhile_append_of_head whole pointEnds
    obtain ⟨taken', dropped'⟩ := takeWhile_append_of_head fraction digitsEnd
    rw [show Numeral.text ⟨digits, d :: decimals⟩ = digits ++ '.' :: d :: decimals from rfl, Numeral.split,
      List.append_assoc, taken, dropped]
    simp only [List.cons_append] at taken' dropped' ⊢
    rw [taken', dropped']
    rfl

theorem Numeral.exists_cons (written : isWritten numeral = true) :
    ∃ c tail, numeral.text = c :: tail ∧ isDecimal c = true := by
  rcases numeral with ⟨_ | ⟨c, digits⟩, fraction⟩
  · cases written
  · simp only [isWritten, Bool.and_eq_true, List.all_cons] at written
    rw [Numeral.text]
    split
    · exact ⟨c, digits, rfl, written.1.2.1⟩
    · exact ⟨c, _, rfl, written.1.2.1⟩

theorem solid_of_numeral (written : isWritten numeral = true) : Solid numeral.text := by
  obtain ⟨c, tail, text, _⟩ := Numeral.exists_cons written
  refine Solid.of_all (by simp [text]) fun d member => ?_
  rcases numeral_chars written d member with decimal | rfl
  · exact not_blank_of_isDecimal decimal
  · decide

theorem scans_numeral (written : isWritten numeral = true) : Scans true (.operand numeral.text) := by
  obtain ⟨c, tail, text, decimal⟩ := Numeral.exists_cons written
  refine ⟨solid_of_numeral written, c, tail, text, fun rest ends => ?_⟩
  have noQuote : isQuote c = false := (isPlain_iff.mp (plain_of_word (isWord_of_isDecimal decimal)).1).1
  rw [nextToken_operand true (not_mem_of_class decimal (by decide)), operandToken, noQuote, isDigitLike,
    decimal]
  simp only [Bool.false_eq_true, if_false, Bool.true_or, if_true]
  rw [← List.cons_append, ← text, Numeral.split_text written ends]

/-- A word that stands for a value is taken whole. -/
theorem scans_word (named : isName (c :: name) = true) (free : c :: name ∉ ["and".toList, "or".toList, "not".toList]) :
    Scans true (.operand (c :: name)) := by
  refine ⟨solid_of_name named, c, name, rfl, fun rest ends => ?_⟩
  simp only [List.mem_cons, List.not_mem_nil, or_false, not_or] at free
  rw [nextToken_name true named ends.endsWord, wordToken, if_neg free.1, if_neg free.2.1, if_neg free.2.2,
    chainedOperand, afterChain_of_endsToken ends]
  simp only [← List.cons_append, consumed_append]

theorem Chain.solid : ∀ {tree : Expr} {cs : List Char}, Chain tree cs → Solid cs
  | _, _, .variable named => solid_of_name (isVariableName_iff.mp named).1
  | _, _, .text (.intro opens _) => (solid_of_quote opens).append (solid_of_quote opens) _
  | _, _, .list _ _ => by
    have opening : Solid ['['] := by decide
    have closing : Solid [']'] := by decide
    exact opening.append closing _
  | _, _, .property chain named => by
    have solid := chain.solid.append (solid_of_name named) ['.']
    rwa [List.append_assoc, List.singleton_append] at solid
  | _, _, @Chain.call _ cs _ items blank chain _ _ => by
    have closing : Solid [')'] := by decide
    have solid := chain.solid.append closing ('(' :: itemsText blank items)
    rwa [List.append_assoc, List.cons_append] at solid

theorem Chain.scans (chain : Chain tree cs) : Scans true (.operand cs) := by
  obtain ⟨c, tail, rfl⟩ := List.exists_cons_of_ne_nil chain.solid.ne_nil
  refine ⟨chain.solid, c, tail, rfl, fun rest ends => ?_⟩
  obtain ⟨_, _, fuel, equal, _, other, scanned⟩ := chain.operandToken_append ends.endsWord
  obtain ⟨rfl, rfl⟩ := List.cons.inj equal
  rw [nextToken_operand true other, scanned, chainedWithin, afterChain_of_endsToken ends]
  simp only [consumed_append]

theorem Operand.scans (operand : Operand tree cs) : Scans true (.operand cs) := by
  cases operand with
  | null => exact scans_word (by decide) (by decide)
  | boolean value => cases value <;> exact scans_word (by decide) (by decide)
  | number written => exact scans_numeral written
  | chain chain => exact chain.scans

/-! ## Infix order -/

/-- The tokens follow each other as the scanner expects them: an operand is due at the start, after an
operator and after an opening parenthesis. -/
inductive Alternates : Bool → List Token → Prop where
  | nil (expectsOperand : Bool) : Alternates expectsOperand []
  | cons {expectsOperand : Bool} {token : Token} {tokens : List Token} (scans : Scans expectsOperand token)
      (rest : Alternates token.expectsOperand tokens) : Alternates expectsOperand (token :: tokens)

/-- The tokens of a tree stand where an operand is due, and leave a place where none is. -/
theorem Infix.alternates : ∀ {tree : Expr} {level : Nat} {tokens : List Token}, Infix tree level tokens →
    ∀ {more : List Token}, Alternates false more → Alternates true (tokens ++ more)
  | _, _, _, .operand printed, _, rest => .cons printed.scans rest
  | _, _, _, .binary operator leftOrder rightOrder _ _, _, rest => by
    rw [List.append_assoc, List.cons_append]
    exact leftOrder.alternates (.cons (scans_binary operator) (rightOrder.alternates rest))
  | _, _, _, .unary operator order _, _, rest => .cons (scans_unary operator) (order.alternates rest)
  | _, _, _, .parenthesized order, _, rest => by
    rw [List.cons_append, List.append_assoc]
    exact .cons scans_opening (order.alternates (.cons scans_closing rest))

/-- White space in front of a text has no tokens. -/
theorem tokensFrom_margin {blank : List Char} (margin : Margin blank) (fuel : Nat) (expectsOperand : Bool)
    (cs : List Char) :
    tokensFrom (blank.length + fuel) expectsOperand (blank ++ cs) = tokensFrom fuel expectsOperand cs := by
  induction blank with
  | nil => rw [List.length_nil, Nat.zero_add, List.nil_append]
  | cons c blank ih =>
    rw [List.length_cons, Nat.add_right_comm, List.cons_append, tokensFrom,
      if_pos (margin c (.head _))]
    exact ih fun d member => margin d (List.mem_cons_of_mem c member)

theorem Spaced.solid (spaced : Spaced tokens cs) (solid : ∀ token ∈ tokens, Solid token.written) : Solid cs := by
  induction spaced with
  | one token => exact solid token (.head _)
  | more token between spaced ih =>
    refine (solid token (.head _)).append (ih fun other member => ?_) _
    exact solid other (List.mem_cons_of_mem token member)

theorem Alternates.solid (alternates : Alternates expectsOperand tokens) : ∀ token ∈ tokens, Solid token.written := by
  induction alternates with
  | nil => exact fun _ member => nomatch member
  | cons scans _ ih =>
    intro token member
    rcases List.mem_cons.mp member with rfl | member
    · exact scans.1
    · exact ih token member

theorem tokensFrom_token {token : Token} (scans : Scans expectsOperand token) (ends : EndsToken rest) :
    tokensFrom (fuel + 1) expectsOperand (token.written ++ rest) =
      (tokensFrom fuel token.expectsOperand rest).map (token :: ·) := by
  obtain ⟨solid, c, tail, written, taken⟩ := scans
  have noBlank : isBlank c = false := by
    obtain ⟨⟨d, first, noBlank⟩, _⟩ := solid
    rw [written] at first
    cases first
    exact noBlank
  rw [written, List.cons_append, tokensFrom, noBlank]
  simp only [Bool.false_eq_true, if_false, taken rest ends]

theorem endsToken_of_gap {gap : List Char} (between : Gap gap) (rest : List Char) : EndsToken (gap ++ rest) := by
  obtain ⟨some, blank⟩ := between
  cases gap with
  | nil => exact absurd rfl some
  | cons c gap =>
    intro d member
    cases member
    exact blank c (.head _)

theorem Alternates.uncons {token : Token} (alternates : Alternates expectsOperand (token :: tokens)) :
    Scans expectsOperand token ∧ Alternates token.expectsOperand tokens := by
  cases alternates with
  | cons scans rest => exact ⟨scans, rest⟩

theorem tokensFrom_spaced (spaced : Spaced tokens cs) (alternates : Alternates expectsOperand tokens)
    (enough : cs.length ≤ fuel) : tokensFrom fuel expectsOperand cs = .ok tokens := by
  induction spaced generalizing expectsOperand fuel with
  | one token =>
    obtain ⟨scans, _⟩ := alternates.uncons
    have length := List.length_pos_iff.mpr scans.1.ne_nil
    obtain ⟨fuel, rfl⟩ := Nat.exists_eq_add_one.mpr (show 0 < fuel by omega)
    rw [← List.append_nil token.written, tokensFrom_token scans (by simp [EndsToken])]
    cases fuel <;> rfl
  | @more token gap cs tokens between spaced ih =>
    obtain ⟨scans, rest⟩ := alternates.uncons
    have length := List.length_pos_iff.mpr scans.1.ne_nil
    rw [List.append_assoc] at enough ⊢
    rw [List.length_append, List.length_append] at enough
    obtain ⟨fuel, rfl⟩ : ∃ smaller, fuel = gap.length + smaller + 1 := ⟨fuel - gap.length - 1, by omega⟩
    rw [tokensFrom_token scans (endsToken_of_gap between cs), tokensFrom_margin between.2, ih rest (by omega)]
    rfl

/-- The tokenizer gives back the tokens of a tree. -/
theorem tokenize_spaced {level : Nat} (order : Infix tree level tokens)
    (spaced : Spaced tokens cs) : tokenize cs = .ok tokens := by
  have alternates := order.alternates (.nil false)
  rw [List.append_nil] at alternates
  exact tokensFrom_spaced spaced alternates (Nat.le_refl _)

theorem Infix.solid {level : Nat} (order : Infix tree level tokens) (spaced : Spaced tokens cs) : Solid cs := by
  have alternates := order.alternates (.nil false)
  rw [List.append_nil] at alternates
  exact spaced.solid alternates.solid

end LineScript.Expression
