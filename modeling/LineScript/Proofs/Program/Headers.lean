import LineScript.Proofs.Program.Printing
import Mathlib.Data.List.DropRight

/-!
# Reading printed headers

The line classifier looks for an assignment first, so a keyword line must not look like one. A keyword is a
path of one name, and what follows it would have to be an equals sign, perhaps with an operator in front
(`ofText_headed`). A printed expression starts with neither (`noAssignment_of_printed`). The headers of
functions, classes, handlers and imports are taken apart as they were put together.
-/

set_option autoImplicit false

namespace LineScript.Program

open LineScript.Text LineScript.Source LineScript.Expression

variable {c : Char} {rest gap blank cs : List Char} {path items : List (List Char)} {tree : Expr}
  {operator : Option Operator}

/-! ## Dotted paths -/

/-- The text does not go on with a dotted path. -/
def EndsPath (rest : List Char) : Prop :=
  ∀ c ∈ rest.head?, isPathChar c = false

theorem not_pathChar_of_blank (blank : isBlank c = true) : isPathChar c = false := by
  have noPoint : c ≠ '.' := ne_of_class blank (by decide)
  simp only [isPathChar, noPoint, not_word_of_isBlank blank, decide_false, Bool.or_false]

theorem EndsPath.endsWord (ends : EndsPath rest) : EndsWord rest := by
  intro c member
  have noPath := ends c member
  simp only [isPathChar, Bool.or_eq_false_iff] at noPath
  exact noPath.2

theorem endsPath_of_gap (apart : Gap gap) (rest : List Char) : EndsPath (gap ++ rest) :=
  fun c member => not_pathChar_of_blank (endsToken_of_gap apart rest c member)

theorem endsPath_margin (margin : Margin blank) (ends : EndsPath rest) : EndsPath (blank ++ rest) := by
  cases blank with
  | nil => exact ends
  | cons c blank => exact endsPath_of_gap ⟨List.cons_ne_nil c blank, margin⟩ rest

theorem endsPath_cons (stops : isPathChar c = false) (rest : List Char) : EndsPath (c :: rest) := by
  intro d member
  cases member
  exact stops

theorem endsPath_nil : EndsPath [] := by
  intro c member
  cases member

variable {name : List Char} {names : List (List Char)}

theorem splitDots_eq (part cs : List Char) : splitDots part cs = cs.splitOnPPrepend (· == '.') part := by
  induction cs generalizing part with
  | nil => rfl
  | cons c rest ih =>
    rw [splitDots, List.splitOnPPrepend_cons_eq_if]
    by_cases point : c = '.' <;> simp [point, ih]

theorem point_not_mem_name (named : isName name = true) : '.' ∉ name := by
  intro member
  exact absurd (name_isWord named '.' member) (by decide)

theorem splitDots_dottedText (some : path ≠ [])
    (named : ∀ name ∈ path, isName name = true) : splitDots [] (dottedText path) = path := by
  rw [splitDots_eq]
  exact List.splitOn_intercalate '.' (fun name member => point_not_mem_name (named name member)) some

theorem dottedText_pathChars (named : ∀ name ∈ path, isName name = true) :
    ∀ c ∈ dottedText path, isPathChar c = true := by
  refine intercalate_of_append (fun cs => ∀ c ∈ cs, isPathChar c = true) (by simp)
    (fun first second => List.forall_mem_append.mpr ⟨first, second⟩) ?_ ?_
  · rw [List.forall_mem_singleton]
    rfl
  · intro name member c inside
    simp [isPathChar, name_isWord (named name member) c inside]

/-- The path at the start of a text is found whole. -/
theorem splitPath?_dottedText (some : path ≠ []) (named : ∀ name ∈ path, isName name = true) (ends : EndsPath rest) :
    splitPath? (dottedText path ++ rest) = Option.some (path, rest) := by
  obtain ⟨taken, dropped⟩ := takeWhile_append_of_head (dottedText_pathChars named) ends
  rw [splitPath?, taken, dropped, splitDots_dottedText some named, if_pos (List.all_eq_true.mpr named)]

theorem splitPath?_name (named : isName name = true) (ends : EndsPath rest) :
    splitPath? (name ++ rest) = some ([name], rest) := by
  have single : ∀ other ∈ [name], isName other = true := fun other member => by
    rw [List.mem_singleton.mp member]
    exact named
  have whole := splitPath?_dottedText (List.cons_ne_nil name []) single ends
  rwa [dottedText, List.intercalate_singleton] at whole

/-! ## Assignments -/

/-- The characters that the sign of an assignment can start with. -/
def assignMarks : List Char :=
  ['<', '>', '+', '-', '*', '/', '%', '&', '|', '^', '=']

theorem splitAssignOperator_of_head (other : c ∉ assignMarks) :
    splitAssignOperator (c :: rest) = (none, c :: rest) := by
  apply splitAssignOperator.eq_11 <;> rintro _ ⟨⟩ <;> exact other (by decide)

theorem splitAssignment?_of_split (split : splitAssignOperator (trimStart cs) = (operator, c :: rest)) (other : c ≠ '=') :
    splitAssignment? cs = none := by
  rw [splitAssignment?, split]
  split
  · rename_i equal
    exact absurd (List.cons.inj (Prod.mk.inj equal).2).1 other
  · rename_i equal
    exact absurd (List.cons.inj (Prod.mk.inj equal).2).1 other
  · rfl

theorem splitAssignment?_of_head (margin : Margin blank) (solid : isBlank c = false)
    (other : c ∉ assignMarks) : splitAssignment? (blank ++ c :: rest) = none := by
  have split : splitAssignOperator (trimStart (blank ++ c :: rest)) = (none, c :: rest) := by
    rw [trimStart_margin margin, trimStart_of_head solid, splitAssignOperator_of_head other]
  exact splitAssignment?_of_split split fun equal => other (by rw [equal]; decide)

/-- A text that starts with a minus sign and white space is no assignment. -/
theorem splitAssignment?_of_minus (margin : Margin blank)
    (blankNext : isBlank c = true) : splitAssignment? (blank ++ '-' :: c :: rest) = none := by
  have split : splitAssignOperator (trimStart (blank ++ '-' :: c :: rest)) = (some .subtract, c :: rest) := by
    rw [trimStart_margin margin, trimStart_of_head (by decide), splitAssignOperator]
  exact splitAssignment?_of_split split (ne_of_class blankNext (by decide))

/-- The text does not start with the sign of an assignment, but perhaps with a minus sign before white
space. -/
def NoSign (cs : List Char) : Prop :=
  ∃ c tail, cs = c :: tail ∧ (c ∉ assignMarks ∨ c = '-' ∧ ∃ d rest, tail = d :: rest ∧ isBlank d = true)

theorem NoSign.append (noSign : NoSign cs) (rest : List Char) : NoSign (cs ++ rest) := by
  obtain ⟨c, tail, rfl, other | ⟨minus, d, more, rfl, blank⟩⟩ := noSign
  · exact ⟨c, tail ++ rest, rfl, .inl other⟩
  · exact ⟨c, d :: more ++ rest, rfl, .inr ⟨minus, d, more ++ rest, rfl, blank⟩⟩

theorem NoSign.splitAssignment? (noSign : NoSign cs) (margin : Margin blank)
    (solid : ∀ c ∈ cs.head?, isBlank c = false) : splitAssignment? (blank ++ cs) = none := by
  obtain ⟨c, tail, rfl, other | ⟨rfl, d, rest, rfl, blankNext⟩⟩ := noSign
  · exact splitAssignment?_of_head margin (solid c rfl) other
  · exact splitAssignment?_of_minus margin blankNext

theorem operand_exists_cons (operand : Operand tree cs) : ∃ c tail, cs = c :: tail ∧ c ∉ marks := by
  cases operand with
  | null => exact ⟨_, _, rfl, by decide⟩
  | boolean value => cases value <;> exact ⟨_, _, rfl, by decide⟩
  | number written =>
    obtain ⟨c, tail, text, decimal⟩ := Numeral.exists_cons written
    exact ⟨c, tail, text, not_mem_of_class decimal (by decide)⟩
  | chain chain =>
    obtain ⟨c, tail, _, text, _, other, _⟩ := chain.operandToken_append (show EndsWord [] by simp [EndsWord])
    exact ⟨c, tail, text, other⟩

/-- A printed tree does not look like the rest of an assignment. -/
theorem infix_noSign : ∀ {tree : Expr} {level : Nat} {tokens : List Token} {cs : List Char},
    Infix tree level tokens → Spaced tokens cs → NoSign cs
  | _, _, _, _, .operand printed, spaced => by
    obtain rfl := spaced.eq_written
    have subset : assignMarks.all marks.contains = true := by decide
    obtain ⟨c, tail, text, other⟩ := operand_exists_cons printed
    exact ⟨c, tail, text, .inl fun member =>
      other (List.contains_iff_mem.mp (List.all_eq_true.mp subset c member))⟩
  | _, _, _, _, .binary operator leftOrder rightOrder _ _, spaced => by
    obtain ⟨front, gap, back, spacedLeft, _, _, equal⟩ :=
      spaced.split leftOrder.ne_nil (List.cons_ne_nil _ _)
    rw [equal, List.append_assoc]
    exact (infix_noSign leftOrder spacedLeft).append _
  | _, _, _, _, .unary operator order _, spaced => by
    obtain ⟨gap, rest, between, _, equal⟩ := spaced.uncons order.ne_nil
    cases operator with
    | negate =>
      obtain ⟨d, gap, rfl⟩ := List.exists_cons_of_ne_nil between.1
      exact ⟨'-', _, equal, .inr ⟨rfl, d, _, rfl, between.2 d (.head _)⟩⟩
    | complement => exact ⟨'n', _, equal, .inl (by decide)⟩
  | _, _, _, _, .parenthesized order, spaced => by
    obtain ⟨gap, rest, _, _, equal⟩ := spaced.uncons (by simp)
    exact ⟨'(', _, equal, .inl (by decide)⟩

/-- A printed expression after a word does not make it an assignment. -/
theorem noAssignment_of_printed (printed : Printed tree cs) (margin : Margin blank)
    (rest : List Char) : splitAssignment? (blank ++ cs ++ rest) = none := by
  cases printed with
  | @spaced _ level tokens before core after blankBefore order spaced blankAfter =>
    have solid := order.solid spaced
    have wider : Margin (blank ++ before) := by
      intro c member
      exact (List.mem_append.mp member).elim (margin c) (blankBefore c)
    have whole := ((infix_noSign order spaced).append (after ++ rest)).splitAssignment? wider fun c first => by
      obtain ⟨⟨d, start, noBlank⟩, _⟩ := solid
      rw [List.head?_append, Option.mem_def.mp start] at first
      cases first
      exact noBlank
    simpa only [List.append_assoc] using whole

theorem printed_trimStart (printed : Printed tree cs) : Printed tree (trimStart cs) := by
  cases printed with
  | @spaced _ level tokens before core after blankBefore order spaced blankAfter =>
    have bare := Printed.spaced Margin.nil order spaced blankAfter
    rwa [List.append_assoc, trimStart_margin blankBefore, (order.solid spaced).trimStart_append]

theorem ne_equal_of_printed {more : List Char} (printed : Printed tree cs) : cs ≠ '=' :: more := by
  intro equal
  cases printed with
  | @spaced _ level tokens before core after blankBefore order spaced blankAfter =>
    cases before with
    | nil =>
      obtain ⟨c, tail, rfl, head⟩ := infix_noSign order spaced
      obtain ⟨rfl, _⟩ := List.cons.inj equal
      rcases head with other | ⟨minus, _⟩
      · exact other (by decide)
      · cases minus
    | cons c before =>
      obtain ⟨rfl, _⟩ := List.cons.inj equal
      exact absurd (blankBefore '=' (.head _)) (by decide)

theorem assignSign_cons (operator : Option Operator) :
    ∃ c tail, assignSign operator = c :: tail ∧ isBlank c = false ∧ isPathChar c = false := by
  cases operator with
  | none => exact ⟨'=', [], rfl, by decide, by decide⟩
  | some sign => cases sign <;> exact ⟨_, _, rfl, by decide, by decide⟩

theorem splitAssignOperator_assignSign (assigning : ∀ sign ∈ operator, isAssigning sign = true) (cs : List Char) :
    splitAssignOperator (assignSign operator ++ cs) = (operator, '=' :: cs) := by
  cases operator with
  | none => rfl
  | some sign =>
    have listed := assigning sign rfl
    cases sign <;> first
      | rfl
      | cases listed

/-- The rest of an assignment gives its operator and the text of its value. -/
theorem splitAssignment?_assigned {value : Expr} (assigned : Assigned operator value rest) :
    ∃ cs, splitAssignment? rest = some (operator, cs) ∧ Printed value cs := by
  obtain @⟨blank, cs, margin, assigning, printed⟩ := assigned
  obtain ⟨c, tail, equal, noBlank, _⟩ := assignSign_cons operator
  refine ⟨trimStart cs, ?_, printed_trimStart printed⟩
  rw [splitAssignment?, List.append_assoc, trimStart_margin margin, equal, List.cons_append,
    trimStart_of_head noBlank, ← List.cons_append, ← equal, splitAssignOperator_assignSign assigning]
  split
  · rename_i same
    exact absurd (List.cons.inj (Prod.mk.inj same).2).2 (ne_equal_of_printed printed)
  · rename_i same
    obtain ⟨sameOperator, sameRest⟩ := Prod.mk.inj same
    rw [sameOperator, (List.cons.inj sameRest).2]
  · rename_i other
    exact absurd rfl (other operator cs)

theorem endsPath_assigned {value : Expr} (assigned : Assigned operator value rest) : EndsPath rest := by
  obtain @⟨blank, cs, margin, assigning, _⟩ := assigned
  obtain ⟨c, tail, equal, _, stops⟩ := assignSign_cons operator
  rw [List.append_assoc, equal, List.cons_append]
  exact endsPath_margin margin (endsPath_cons stops _)

/-- A line with an assignment is one. -/
theorem ofText_assign {value : Expr} (some : path ≠ []) (named : ∀ name ∈ path, isName name = true)
    (assigned : Assigned operator value rest) :
    ∃ cs, LineBody.ofText (dottedText path ++ rest) = .assign path operator cs ∧ Printed value cs := by
  obtain ⟨cs, split, printed⟩ := splitAssignment?_assigned assigned
  refine ⟨cs, ?_, printed⟩
  rw [LineBody.ofText, assignment?, splitPath?_dottedText some named (endsPath_assigned assigned)]
  simp only [split, Option.map_some]

/-! ## Keyword lines -/

theorem ofWord?_word (word : Keyword) : Keyword.ofWord? word.word = some word := by
  cases word <;> decide

theorem isName_word (word : Keyword) : isName word.word.toList = true := by
  cases word <;> decide

/-- A line that starts with a keyword is one, if what follows does not make it an assignment. -/
theorem ofText_headed {word : Keyword} (ends : EndsPath rest) (noAssignment : splitAssignment? rest = none) :
    LineBody.ofText (headed word rest) = .keyword word (trimStart rest) := by
  have named := isName_word word
  have name := splitName?_append named ends.endsWord
  have noEnd : headed word rest ≠ "end".toList := by
    intro equal
    rw [headed] at equal
    rw [equal] at name
    have same : word.word.toList = "end".toList := ((Prod.mk.inj (Option.some.inj name)).1).symm
    cases word <;> revert same <;> decide
  rw [headed] at noEnd ⊢
  rw [LineBody.ofText, assignment?, splitPath?_name named ends]
  simp only [noAssignment, Option.map_none, if_neg noEnd, name, String.ofList_toList, ofWord?_word]

/-- A line that is a keyword alone. -/
theorem ofText_bare (word : Keyword) : LineBody.ofText (headed word []) = .keyword word [] :=
  ofText_headed endsPath_nil rfl

/-- A line with an expression after its keyword, and perhaps more. -/
theorem ofText_expression {word : Keyword} (apart : Gap gap) (printed : Printed tree cs) (rest : List Char) :
    LineBody.ofText (headed word (gap ++ cs ++ rest)) = .keyword word (trimStart (gap ++ cs ++ rest)) := by
  refine ofText_headed ?_ (noAssignment_of_printed printed apart.2 rest)
  rw [List.append_assoc]
  exact endsPath_of_gap apart _

/-- A line that goes on with a letter after its keyword. -/
theorem ofText_letter {word : Keyword} (apart : Gap gap) (start : isNameStart c = true) :
    LineBody.ofText (headed word (gap ++ c :: rest)) = .keyword word (c :: rest) := by
  have noBlank := not_blank_of_isWord (isWord_of_isNameStart start)
  have noAssignment : splitAssignment? (gap ++ c :: rest) = none :=
    splitAssignment?_of_head apart.2 noBlank (not_mem_of_class start (by decide))
  rw [ofText_headed (endsPath_of_gap apart _) noAssignment, trimStart_margin apart.2, trimStart_of_head noBlank]

theorem exists_start_of_name (named : isName name = true) : ∃ c tail, name = c :: tail ∧ isNameStart c = true := by
  cases name with
  | nil => cases named
  | cons c name =>
    simp only [isName, Bool.and_eq_true] at named
    exact ⟨c, name, rfl, named.1⟩

/-- A line with a name after its keyword. -/
theorem ofText_name {word : Keyword} (apart : Gap gap) (named : isName name = true) :
    LineBody.ofText (headed word (gap ++ name ++ rest)) = .keyword word (name ++ rest) := by
  obtain ⟨c, tail, rfl, start⟩ := exists_start_of_name named
  rw [List.append_assoc]
  exact ofText_letter apart start

/-- A line with another mark than the sign of an assignment after its keyword. -/
theorem ofText_mark {word : Keyword} (margin : Margin blank) (noBlank : isBlank c = false)
    (stops : isPathChar c = false) (other : c ∉ assignMarks) :
    LineBody.ofText (headed word (blank ++ c :: rest)) = .keyword word (c :: rest) := by
  rw [ofText_headed (endsPath_margin margin (endsPath_cons stops rest))
    (splitAssignment?_of_head margin noBlank other), trimStart_margin margin, trimStart_of_head noBlank]

theorem ofText_end : LineBody.ofText "end".toList = .endBlock := by
  decide

/-! ## Calls -/

/-- The text has characters of a path up to an argument list. -/
def CallsPath (cs : List Char) : Prop :=
  ∃ front rest, cs = front ++ '(' :: rest ∧ ∀ c ∈ front, isPathChar c = true

theorem CallsPath.append (calls : CallsPath cs) (more : List Char) : CallsPath (cs ++ more) := by
  obtain ⟨front, rest, rfl, path⟩ := calls
  exact ⟨front, rest ++ more, by simp only [List.append_assoc, List.cons_append], path⟩

/-- A chain on a variable is a path up to its first argument list, or all of it. -/
theorem chain_callsPath {tree : Expr} {cs : List Char} (chain : Chain tree cs)
    (starts : ∃ c ∈ cs.head?, isNameStart c = true) : CallsPath cs ∨ ∀ c ∈ cs, isPathChar c = true := by
  cases chain with
  | «variable» named =>
    refine .inr fun c member => ?_
    simp [isPathChar, name_isWord (isVariableName_iff.mp named).1 c member]
  | text quoted =>
    obtain ⟨opens, _⟩ := quoted
    obtain ⟨c, first, start⟩ := starts
    cases first
    simp only [isQuote, Bool.or_eq_true, beq_iff_eq] at opens
    rcases opens with rfl | rfl <;> exact absurd start (by decide)
  | list =>
    obtain ⟨c, first, start⟩ := starts
    cases first
    exact absurd start (by decide)
  | property chain named =>
    rw [chain.solid.head?_append] at starts
    rcases chain_callsPath chain starts with calls | path
    · exact .inl (calls.append _)
    · refine .inr fun d member => ?_
      rcases List.mem_append.mp member with member | member
      · exact path d member
      · rcases List.mem_cons.mp member with rfl | member
        · rfl
        · simp [isPathChar, name_isWord named d member]
  | call chain =>
    rw [chain.solid.head?_append] at starts
    rcases chain_callsPath chain starts with calls | path
    · exact .inl (calls.append _)
    · exact .inl ⟨_, _, rfl, path⟩

theorem call_callsPath {callee : Expr} {arguments : List Expr} (chain : Chain (.call callee arguments) cs)
    (starts : ∃ c ∈ cs.head?, isNameStart c = true) : CallsPath cs := by
  rcases chain_callsPath chain starts with calls | path
  · exact calls
  · cases chain with
    | call chain margin printed => exact absurd (path '(' (by simp)) (by decide)

/-- A printed call that starts with a name is a path up to an argument list. -/
theorem printed_callsPath {callee : Expr} {arguments : List Expr} (printed : Printed (.call callee arguments) cs)
    (starts : StartsCall cs) : CallsPath cs := by
  obtain ⟨name, rest, equal, named, _, _⟩ := starts
  have first : ∃ c ∈ cs.head?, isNameStart c = true := by
    cases name with
    | nil => cases named
    | cons c name =>
      simp only [isName, Bool.and_eq_true] at named
      exact ⟨c, by rw [equal]; rfl, named.1⟩
  cases printed with
  | @spaced _ level tokens before core after blankBefore order spaced blankAfter =>
    obtain ⟨c, found, start⟩ := first
    cases before with
    | cons d before =>
      cases found
      have blank := blankBefore _ (.head _)
      rw [not_blank_of_isWord (isWord_of_isNameStart start)] at blank
      cases blank
    | nil =>
      rw [List.nil_append] at found ⊢
      rw [(order.solid spaced).head?_append] at found
      refine CallsPath.append ?_ after
      cases order with
      | operand operand =>
        obtain rfl := spaced.eq_written
        cases operand with
        | chain chain => exact call_callsPath chain ⟨c, found, start⟩
      | parenthesized order =>
        obtain ⟨gap, inner, _, _, text⟩ := spaced.uncons (by simp)
        rw [text] at found
        cases found
        exact absurd start (by decide)

theorem ofWord?_eq_none (free : ∀ word : Keyword, name ≠ word.word.toList) :
    Keyword.ofWord? (String.ofList name) = none := by
  rw [Keyword.ofWord?, List.find?_eq_none]
  intro word _ equal
  rw [beq_iff_eq] at equal
  exact free word (by rw [equal, String.toList_ofList])

/-- A line that starts with another name and goes on to an argument list is a call. -/
theorem ofText_call {callee : Expr} {arguments : List Expr} (printed : Printed (.call callee arguments) cs)
    (starts : StartsCall cs) : LineBody.ofText cs = .call cs := by
  obtain ⟨front, tail, equal, path⟩ := printed_callsPath printed starts
  obtain ⟨name, rest, text, named, ends, free⟩ := starts
  have stops : ∀ c ∈ ('(' :: tail).head?, isPathChar c = false := by
    intro c member
    cases member
    decide
  obtain ⟨taken, dropped⟩ := takeWhile_append_of_head path stops
  have noAssignment : assignment? cs = none := by
    have noSign : splitAssignment? ('(' :: tail) = none :=
      splitAssignment?_of_head Margin.nil (by decide) (by decide)
    rw [assignment?, splitPath?, equal, taken, dropped]
    by_cases names : (splitDots [] front).all isName = true
    · simp only [if_pos names, noSign, Option.map_none]
    · simp only [if_neg names]
  have noEnd : cs ≠ "end".toList := by
    rintro rfl
    exact absurd (show '(' ∈ "end".toList by rw [equal]; simp) (by decide)
  have split := splitName?_append named ends
  rw [← text] at split
  rw [LineBody.ofText, noAssignment]
  simp only [if_neg noEnd, split, ofWord?_eq_none free]

/-! ## Block headers -/

theorem trimStart_concat (cs : List Char) (solid : isBlank c = false) :
    trimStart (cs ++ [c]) = trimStart cs ++ [c] := by
  induction cs with
  | nil => exact trimStart_of_head solid
  | cons d cs ih =>
    rw [List.cons_append, trimStart, trimStart, List.dropWhile_cons, List.dropWhile_cons]
    split
    · exact ih
    · rfl

theorem trim_trimStart (cs : List Char) : trim (trimStart cs) = trim cs := by
  rw [trim, trim, trimStart, trimStart, List.dropWhile_idempotent]

/-- The text before a colon is the header. -/
theorem blockHeader?_colon (cs : List Char) : blockHeader? (trimStart (cs ++ [':'])) = some (trim cs) := by
  rw [trimStart_concat cs (by decide), blockHeader?, List.getLast?_concat, if_pos rfl, List.dropLast_concat,
    trim_trimStart]

theorem isColon_margin (margin : Margin blank) : isColon (blank ++ [':']) = true := by
  rw [isColon, trimStart_margin margin]
  decide

/-- The text in parentheses is found whole if no closing one stands in it. -/
theorem splitParenthesized?_append {inner : List Char} (open' : ')' ∉ inner) (rest : List Char) :
    splitParenthesized? ('(' :: (inner ++ ')' :: rest)) = some (inner, rest) := by
  have all : ∀ c ∈ inner, decide (c ≠ ')') = true := by
    intro c member
    rw [decide_eq_true_eq]
    rintro rfl
    exact open' member
  obtain ⟨taken, dropped⟩ := takeWhile_append_of_head all
    (show ∀ c ∈ (')' :: rest).head?, decide (c ≠ ')') = false by intro c member; cases member; rfl)
  rw [splitParenthesized?, dropped]
  simp only [taken]

/-! ## Lists of names -/

theorem Padded.trim_eq {item : List Char} (padded : Padded name item) : trim item = name := by
  obtain ⟨named, before, after, blankBefore, blankAfter, rfl⟩ := padded
  exact trim_margins blankBefore (solid_of_name named) blankAfter

theorem Padded.chars {item : List Char} (padded : Padded name item) : ∀ c ∈ item, isPlain c = true ∧ c ≠ ',' := by
  obtain ⟨named, before, after, blankBefore, blankAfter, rfl⟩ := padded
  intro c member
  rcases List.mem_append.mp member with member | member
  · rcases List.mem_append.mp member with member | member
    · exact plain_of_blank (blankBefore c member)
    · exact plain_of_word (name_isWord named c member)
  · exact plain_of_blank (blankAfter c member)

theorem map_trim_padded (each : List.Forall₂ Padded names items) : items.map trim = names := by
  induction each with
  | nil => rfl
  | cons first _ ih => rw [List.map_cons, first.trim_eq, ih]

theorem padded_of_mem (each : List.Forall₂ Padded names items) : ∀ item ∈ items, ∃ name, Padded name item := by
  induction each with
  | nil => exact fun _ member => nomatch member
  | cons first _ ih =>
    intro item member
    rcases List.mem_cons.mp member with rfl | member
    · exact ⟨_, first⟩
    · exact ih item member

theorem isName_of_padded (each : List.Forall₂ Padded names items) : ∀ name ∈ names, isName name = true := by
  induction each with
  | nil => exact fun _ member => nomatch member
  | cons first _ ih =>
    intro name member
    rcases List.mem_cons.mp member with rfl | member
    · exact first.1
    · exact ih name member

theorem splitTopLevel_namesText (text : NamesText names cs) :
    splitTopLevel cs = names ∧ ∀ name ∈ names, isName name = true := by
  obtain @⟨blank, items, margin, each⟩ := text
  refine ⟨?_, isName_of_padded each⟩
  cases each with
  | nil => exact splitTopLevel_margin margin
  | @cons name item names items first rest =>
    have closed : ∀ cs ∈ item :: items, Closed false cs := fun cs member => by
      obtain ⟨_, padded⟩ := padded_of_mem (List.Forall₂.cons first rest) cs member
      exact Closed.of_plain padded.chars
    have present : (item :: items).map trim ≠ [[]] := by
      simp [Padded.trim_eq first, (solid_of_name first.1).ne_nil]
    rw [itemsText, splitTopLevel_intercalate closed present]
    exact map_trim_padded (List.Forall₂.cons first rest)

/-- The names in a list are found, without the white space around them. -/
theorem names?_namesText (text : NamesText names cs) : names? cs = some (names.map String.ofList) := by
  obtain ⟨parts, named⟩ := splitTopLevel_namesText text
  rw [names?, parts]
  exact if_pos (List.all_eq_true.mpr named)

theorem closing_not_mem_namesText (text : NamesText names cs) : ')' ∉ cs := by
  obtain @⟨blank, items, margin, each⟩ := text
  cases items with
  | nil => exact fun found => absurd (margin ')' found) (by decide)
  | cons item items =>
    refine intercalate_of_append (')' ∉ ·) (by simp) (fun first second => by simp [first, second]) (by simp)
      fun item listed found => ?_
    obtain ⟨_, padded⟩ := padded_of_mem each item listed
    exact absurd (padded.chars ')' found).1 (by decide)

/-! ## Functions and classes -/

theorem splitName?_margin {before : List Char} (named : isName name = true) (margin : Margin before)
    (stops : isPathChar c = false) : splitName? (name ++ (before ++ c :: rest)) = some (name, before ++ c :: rest) :=
  splitName?_append named (endsPath_margin margin (endsPath_cons stops rest)).endsWord

/-- A line with a keyword, a name and a text in parentheses before a colon. -/
theorem ofText_parenthesized {word : Keyword} {name before inner after : List Char} (apart : Gap gap)
    (named : isName name = true) (blankBefore : Margin before) (noClosing : ')' ∉ inner)
    (blankAfter : Margin after) :
    ∃ text, LineBody.ofText (headed word (gap ++ name ++ before ++ '(' :: (inner ++ ')' :: (after ++ [':'])))) =
        .keyword word text ∧
      functionHeader? text = some (name, inner) ∧ classHeader? text = some (name, inner) := by
  have split : splitName? (name ++ (before ++ '(' :: (inner ++ ')' :: (after ++ [':'])))) = some (name, _) :=
    splitName?_margin named blankBefore (by decide)
  have parenthesized := splitParenthesized?_append noClosing (after ++ [':'])
  refine ⟨name ++ (before ++ '(' :: (inner ++ ')' :: (after ++ [':']))), ?_, ?_, ?_⟩
  · rw [List.append_assoc]
    exact ofText_name apart named
  · rw [functionHeader?, split]
    simp only [Option.bind_eq_bind, Option.bind_some, trimStart_margin blankBefore,
      trimStart_of_head (show isBlank '(' = false by decide), parenthesized, if_pos (isColon_margin blankAfter)]
  · rw [classHeader?, split]
    simp only [Option.bind_eq_bind, Option.bind_some, trimStart_margin blankBefore,
      trimStart_of_head (show isBlank '(' = false by decide), parenthesized, if_pos (isColon_margin blankAfter)]

/-- A line with the header of a function gives its name and its parameters. -/
theorem ofText_function {parameters : List (List Char)} (header : FunctionHeader name parameters rest) :
    ∃ text inner, LineBody.ofText (headed .define rest) = .keyword .define text ∧
      functionHeader? text = some (name, inner) ∧ names? inner = some (parameters.map String.ofList) := by
  obtain @⟨gap, before, inner, after, apart, named, blankBefore, listed, blankAfter⟩ := header
  obtain ⟨text, body, function, _⟩ :=
    ofText_parenthesized apart named blankBefore (closing_not_mem_namesText listed) blankAfter
  exact ⟨text, inner, body, function, names?_namesText listed⟩

theorem reads_parents_of_margin {line : Line} (margin : Margin cs) :
    Reads (readParents line cs) ["Object"] := by
  rw [readParents, trim_margin margin]
  exact Reads.pure ["Object"]

theorem reads_parents_of_names {line : Line} (some : names ≠ []) (listed : NamesText names cs) :
    Reads (readParents line cs) (names.map String.ofList) := by
  have present : ¬(trim cs).isEmpty = true := by
    intro nothing
    have none := splitTopLevel_margin (margin_of_trim_eq_nil (List.isEmpty_iff.mp nothing))
    rw [(splitTopLevel_namesText listed).1] at none
    exact some none
  rw [readParents, if_neg present, names?_namesText listed]
  exact Reads.pure _

/-- A line with the header of a class gives its name and its parents. -/
theorem ofText_class {parents : List String} (header : ClassHeader name parents rest) :
    ∃ text inner, LineBody.ofText (headed .defineClass rest) = .keyword .defineClass text ∧
      classHeader? text = some (name, inner) ∧ ∀ line, Reads (readParents line inner) parents := by
  cases header with
  | @bare gap after apart named blankAfter =>
    have noParents : splitParenthesized? [':'] = none := rfl
    refine ⟨name ++ (after ++ [':']), [], ?_, ?_, fun _ => reads_parents_of_margin Margin.nil⟩
    · rw [List.append_assoc]
      exact ofText_name apart named
    · rw [classHeader?, splitName?_margin named blankAfter (by decide)]
      simp only [Option.bind_eq_bind, Option.bind_some, trimStart_margin blankAfter,
        trimStart_of_head (show isBlank ':' = false by decide), noParents,
        if_pos (isColon_margin blankAfter)]
  | @empty gap before inner after apart named blankBefore blankInner blankAfter =>
    have noClosing : ')' ∉ inner := fun member => absurd (blankInner ')' member) (by decide)
    obtain ⟨text, body, _, header⟩ := ofText_parenthesized apart named blankBefore noClosing blankAfter
    exact ⟨text, inner, body, header, fun _ => reads_parents_of_margin blankInner⟩
  | @parents gap before inner after names apart named blankBefore some listed blankAfter =>
    obtain ⟨text, body, _, header⟩ :=
      ofText_parenthesized apart named blankBefore (closing_not_mem_namesText listed) blankAfter
    exact ⟨text, inner, body, header, fun _ => reads_parents_of_names some listed⟩

/-! ## Handlers and imports -/

/-- A line with the header of a handler gives the name. -/
theorem ofText_handler (header : HandlerHeader name rest) :
    ∃ text, LineBody.ofText (headed .catch rest) = .keyword .catch text ∧ handlerHeader? text = some name := by
  obtain @⟨blank, before, after, last, margin, named, blankBefore, blankAfter, blankLast⟩ := header
  refine ⟨_, ofText_mark margin (by decide) (by decide) (by decide), ?_⟩
  have solid := (solid_of_name named).trimStart_append (after ++ ')' :: (last ++ [':']))
  have split : splitName? (name ++ (after ++ ')' :: (last ++ [':']))) = some (name, _) :=
    splitName?_margin named blankAfter (by decide)
  rw [handlerHeader?, skipChar, if_pos rfl, List.append_assoc, List.append_assoc, trimStart_margin blankBefore,
    solid, split]
  simp only [Option.bind_eq_bind, Option.bind_some, trimStart_margin blankAfter,
    trimStart_of_head (show isBlank ')' = false by decide), skipChar, if_true,
    if_pos (isColon_margin blankLast)]

theorem skipBlanks?_gap (apart : Gap gap) : skipBlanks? (gap ++ rest) = some (trimStart rest) := by
  obtain ⟨some, blank⟩ := apart
  cases gap with
  | nil => exact absurd rfl some
  | cons c gap =>
    rw [List.cons_append, skipBlanks?, if_pos (blank c (.head _)),
      trimStart_margin fun d member => blank d (List.mem_cons_of_mem c member)]

theorem exists_start_of_path (some : path ≠ [])
    (named : ∀ name ∈ path, isName name = true) : ∃ c tail, dottedText path = c :: tail ∧ isNameStart c = true := by
  cases path with
  | nil => exact absurd rfl some
  | cons name path =>
    obtain ⟨c, tail, rfl, start⟩ := exists_start_of_name (named name (.head _))
    cases path with
    | nil => exact ⟨c, tail, by rw [dottedText, List.intercalate_singleton], start⟩
    | cons next path => exact ⟨c, _, by rw [dottedText, List.intercalate_cons_cons, List.append_assoc,
        List.cons_append], start⟩

theorem importAlias?_renamed {before after : List Char} (apartBefore : Gap before) (apartAfter : Gap after)
    (named : isName name = true) : importAlias? (before ++ ('a' :: 's' :: (after ++ name))) = some (some name) := by
  have solid := (solid_of_name named).trimStart_append []
  rw [List.append_nil] at solid
  have present : before ++ ('a' :: 's' :: (after ++ name)) ≠ [] := by simp
  rw [importAlias?.eq_2 _ present, skipBlanks?_gap apartBefore, trimStart_of_head (by decide)]
  simp only [Option.bind_eq_bind, Option.bind_some, skipBlanks?_gap apartAfter, solid, if_pos named]

/-- A line with the header of an import gives the path and the alias. -/
theorem ofText_import {localName : Option (List Char)} (some : path ≠ []) (named : ∀ name ∈ path, isName name = true)
    (header : ImportHeader path localName rest) :
    ∃ text, LineBody.ofText (headed .importModule rest) = .keyword .importModule text ∧
      importHeader? text = Option.some (path, localName) := by
  obtain ⟨c, tail, text, start⟩ := exists_start_of_path some named
  cases header with
  | plain apart =>
    refine ⟨dottedText path, by rw [text]; exact ofText_letter apart start, ?_⟩
    have whole := splitPath?_dottedText some named endsPath_nil
    rw [List.append_nil] at whole
    rw [importHeader?, whole]
    rfl
  | @renamed gap before after name apart apartBefore apartAfter aliasNamed =>
    refine ⟨dottedText path ++ (before ++ ('a' :: 's' :: (after ++ name))), ?_, ?_⟩
    · have body : LineBody.ofText (headed .importModule (gap ++ c :: (tail ++ (before ++ ('a' :: 's' ::
          (after ++ name)))))) = .keyword .importModule _ := ofText_letter apart start
      rw [text]
      simpa only [show "as".toList = ['a', 's'] from rfl, List.append_assoc, List.cons_append,
        List.nil_append] using body
    · rw [importHeader?, splitPath?_dottedText some named (endsPath_of_gap apartBefore _)]
      simp only [Option.bind_eq_bind, Option.bind_some, importAlias?_renamed apartBefore apartAfter aliasNamed]

/-- A line with a nonlocal assignment gives its name, its operator and the text of its value. -/
theorem ofText_nonlocal {value : Expr} (apart : Gap gap) (named : isName name = true)
    (assigned : Assigned operator value rest) :
    ∃ text cs, LineBody.ofText (headed .nonlocal (gap ++ name ++ rest)) = .keyword .nonlocal text ∧
      nonlocalHeader? text = some (name, operator, cs) ∧ Printed value cs := by
  obtain ⟨cs, split, printed⟩ := splitAssignment?_assigned assigned
  refine ⟨name ++ rest, cs, ofText_name apart named, ?_, printed⟩
  rw [nonlocalHeader?, splitName?_append named (endsPath_assigned assigned).endsWord]
  simp only [Option.bind_eq_bind, Option.bind_some, split]

end LineScript.Program
