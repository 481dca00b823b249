import LineScript.Proofs.Program.Headers

/-!
# Reading the lines of a block

Two readers go over the lines of a block: a count of opening and closing lines finds the end, and the
statements are read one by one. `Passes lines` says that the first one gets over the lines without stopping
in them. `BlockRead loops block lines` says the same of the second one: in front of a line that ends
statements the lines are read as the block. The two agree because a statement that opens a block is read up
to the line that closes it.
-/

set_option autoImplicit false

namespace LineScript.Program

open LineScript.Text LineScript.Source LineScript.Expression

variable {first second : List Line} {stop : Line} {loops : Nat} {cs gap : List Char}

/-! ## Counting -/

/-- The line is of some kind. -/
def Known (line : Line) : Prop :=
  ∀ text, line.body ≠ .unknown text

/-- Inside a block, the count of opening and closing lines comes to the same after the lines. -/
structure Passes (lines : List Line) : Prop where
  known : ∀ line ∈ lines, Known line
  count : ∀ (depth : Int) (rest : List Line), 1 ≤ depth →
    afterBlock? depth (lines ++ rest) = afterBlock? depth rest

theorem Passes.nil : Passes [] :=
  ⟨fun _ member => (nomatch member), fun _ _ _ => rfl⟩

theorem Passes.append (before : Passes first) (after : Passes second) : Passes (first ++ second) := by
  refine ⟨fun line member => ?_, fun depth rest inside => ?_⟩
  · exact (List.mem_append.mp member).elim (before.known line) (after.known line)
  · rw [List.append_assoc, before.count depth _ inside, after.count depth _ inside]

variable {lines : List Line} {text : List Char} {word : Keyword} {methods : List FunctionLiteral}

theorem Passes.cons {line : Line} (after : Passes lines) (known : Known line) (noOpener : line.body.opensBlock = false)
    (noEnd : line.body ≠ .endBlock) : Passes (line :: lines) := by
  refine ⟨fun other member => ?_, fun depth rest inside => ?_⟩
  · rcases List.mem_cons.mp member with rfl | member
    · exact known
    · exact after.known other member
  · rw [List.cons_append, afterBlock?, noOpener]
    simp only [Bool.false_eq_true, if_false, if_neg noEnd]
    exact after.count depth rest inside

theorem Passes.keyword {line : Line} (after : Passes lines) (body : line.body = .keyword word text)
    (noOpener : word.opensBlock = false) : Passes (line :: lines) := by
  refine after.cons (fun other => ?_) ?_ ?_ <;> rw [body]
  · exact nofun
  · exact noOpener
  · exact nofun

/-- The lines from an opening line to its end. -/
theorem Passes.block {line : Line} (opens : line.body.opensBlock = true) (inner : Passes lines)
    (ends : stop.body = .endBlock) : Passes (line :: (lines ++ [stop])) := by
  refine ⟨fun other member text body => ?_, fun depth rest inside => ?_⟩
  · rcases List.mem_cons.mp member with rfl | member
    · rw [body] at opens
      cases opens
    · rcases List.mem_append.mp member with member | member
      · exact inner.known other member text body
      · rw [List.mem_singleton.mp member, ends] at body
        cases body
  · rw [List.cons_append, afterBlock?, if_pos opens, List.append_assoc, inner.count (depth + 1) _ (by omega),
      List.singleton_append, afterBlock?, ends]
    simp only [LineBody.opensBlock, Bool.false_eq_true, if_false, if_true,
      if_neg (show ¬depth + 1 = 1 by omega), Int.add_sub_cancel]

theorem reads_afterBlock {line : Line} (inner : Passes lines) (ends : stop.body = .endBlock) (rest : List Line) :
    Reads (afterBlockOf line (lines ++ stop :: rest)) rest := by
  have found : afterBlock? 1 (lines ++ stop :: rest) = some rest := by
    rw [inner.count 1 _ (Int.le_refl 1), afterBlock?, ends]
    rfl
  rw [afterBlockOf, found]
  exact Reads.pure rest

theorem reads_expectEnd (stop : Line) (rest : List Line) : Reads (expectEnd (stop :: rest) rest) () := by
  rw [expectEnd, if_pos (by simp [reachesEnd])]
  exact Reads.pure ()

/-! ## Statements and blocks -/

/-- The lines are read as the statement: its first line ends no statements, and the reader stops after the
last one. -/
structure StatementRead (loops : Nat) (statement : Statement) (line : Line) (lines : List Line) : Prop where
  passes : Passes (line :: lines)
  starts : line.body.endsStatements = false
  defines : ∀ text, line.body = .keyword .define text → isDefinition statement = true
  reads : ∀ (fuel : Nat) (rest : List Line), lines.length < fuel →
    Reads (readStatement fuel loops line (lines ++ rest)) (statement, rest)

/-- The lines are absent or start with one that ends statements. -/
def Stops (lines : List Line) : Prop :=
  ∀ line ∈ lines.head?, line.body.endsStatements = true

/-- The lines are read as the block. -/
structure BlockRead (loops : Nat) (block : Block) (lines : List Line) : Prop where
  passes : Passes lines
  reads : ∀ (fuel count : Nat) (stop : List Line), lines.length ≤ fuel → (lines ++ stop).length ≤ count →
    Stops stop → Reads (readStatements (readStatement fuel) loops count (lines ++ stop)) (block, stop)

theorem stops_cons {line : Line} (ends : line.body.endsStatements = true) (rest : List Line) :
    Stops (line :: rest) := by
  intro other member
  cases member
  exact ends

theorem BlockRead.nil (loops : Nat) : BlockRead loops [] [] := by
  refine ⟨Passes.nil, fun fuel count stop _ _ stops => ?_⟩
  rw [List.nil_append]
  cases count with
  | zero => exact Reads.pure _
  | succ count =>
    cases stop with
    | nil => exact Reads.pure _
    | cons line rest =>
      rw [readStatements, if_pos (stops line rfl)]
      exact Reads.pure _

theorem BlockRead.cons {statement : Statement} {line : Line} {block : Block}
    (head : StatementRead loops statement line first) (rest : BlockRead loops block second) :
    BlockRead loops (⟨line.location.line, statement⟩ :: block) (line :: (first ++ second)) := by
  refine ⟨head.passes.append rest.passes, fun fuel count stop enough longer stops => ?_⟩
  simp only [List.length_cons, List.length_append, List.cons_append] at enough longer ⊢
  obtain ⟨count, rfl⟩ := Nat.exists_eq_add_one.mpr (show 0 < count by omega)
  rw [List.append_assoc, readStatements, if_neg (by rw [head.starts]; exact Bool.false_ne_true)]
  refine (head.reads fuel (second ++ stop) (by omega)).bind ?_
  refine (rest.reads fuel count stop (by omega) ?_ stops).bind (Reads.pure _)
  simp only [List.length_append]
  omega

/-- The block at the start of the lines is read. -/
theorem BlockRead.reads_block {fuel : Nat} {block : Block} {stop : List Line} (read : BlockRead loops block lines)
    (enough : lines.length ≤ fuel) (stops : Stops stop) :
    Reads (readBlock (readStatement fuel) loops (lines ++ stop)) (block, stop) :=
  read.reads fuel _ stop enough (Nat.le_refl _) stops

/-! ## Keyword lines -/

theorem readStatement_keyword {fuel : Nat} {line : Line} (body : line.body = .keyword word text) (lines : List Line) :
    readStatement (fuel + 1) loops line lines = readKeyword (readStatement fuel) loops line word text lines := by
  rw [readStatement, readStatementWith, body]

theorem endsStatements_of_opensBlock (opens : word.opensBlock = true) : word.endsStatements = false := by
  cases word <;> first
    | rfl
    | cases opens

/-- A statement of one line that a keyword starts. -/
theorem StatementRead.line {statement : Statement} {line : Line} (body : line.body = .keyword word text)
    (single : (word.opensBlock || word.endsStatements) = false) (reads : ∀ (fuel : Nat) (rest : List Line),
      Reads (readKeyword (readStatement fuel) loops line word text rest) (statement, rest)) :
    StatementRead loops statement line [] := by
  rw [Bool.or_eq_false_iff] at single
  constructor
  · exact Passes.nil.keyword body single.1
  · rw [body]
    exact single.2
  · intro other same
    rw [body] at same
    cases same
    cases single.1
  · intro fuel rest enough
    obtain ⟨fuel, rfl⟩ := Nat.exists_eq_add_one.mpr (show 0 < fuel by omega)
    rw [readStatement_keyword body]
    exact reads fuel rest

/-- A statement from an opening line to its end. -/
theorem StatementRead.block {statement : Statement} {line : Line} (body : line.body = .keyword word text)
    (opens : word.opensBlock = true) (defines : word = .define → isDefinition statement = true) (inner : Passes lines)
    (ends : stop.body = .endBlock) (reads : ∀ (fuel : Nat) (rest : List Line), lines.length < fuel →
      Reads (readKeyword (readStatement fuel) loops line word text (lines ++ stop :: rest))
        (statement, rest)) : StatementRead loops statement line (lines ++ [stop]) := by
  constructor
  · exact Passes.block (by rw [body]; exact opens) inner ends
  · rw [body]
    exact endsStatements_of_opensBlock opens
  · intro other same
    rw [body] at same
    cases same
    exact defines rfl
  · intro fuel rest enough
    rw [List.length_append, List.length_singleton] at enough
    obtain ⟨fuel, rfl⟩ := Nat.exists_eq_add_one.mpr (show 0 < fuel by omega)
    rw [readStatement_keyword body, List.append_assoc, List.singleton_append]
    exact reads fuel rest (by omega)

variable {line : Line} {block : Block}

theorem reads_require {α : Type} {result : Option α} {value : α} (found : result = some value) :
    Reads (require line result) value := by
  rw [found]
  exact Reads.pure value

theorem reads_header (line : Line) (cs : List Char) : Reads (headerOn line (trimStart (cs ++ [':']))) (trim cs) :=
  reads_require (blockHeader?_colon cs)

theorem reads_emptyHeader (line : Line) : Reads (emptyHeaderOn line [':']) () := by
  have header := reads_header line []
  rw [List.nil_append, trimStart_of_head (by decide)] at header
  exact header.bind (Reads.pure ())

theorem reads_expr {tree : Expr} (line : Line) (printed : Printed tree cs) : Reads (exprOn line cs) tree :=
  printed.reads _

/-- The expression in a block header is read. -/
theorem reads_headerExpr {tree : Expr} (line : Line) (margin : Margin gap)
    (printed : Printed tree cs) : Reads (exprOn line (trim (gap ++ cs))) tree := by
  rw [trim, trimStart_margin margin]
  exact reads_expr line printed.trim_eq.1

/-! ## Assignments and calls -/

/-- A statement of one line that no keyword starts. -/
theorem StatementRead.plain {statement : Statement} {content : LineBody} (body : line.body = content)
    (noKeyword : ∀ word text, content ≠ .keyword word text) (noEnd : content ≠ .endBlock)
    (known : ∀ text, content ≠ .unknown text) (reads : ∀ (fuel : Nat) (rest : List Line),
      Reads (readStatementWith (readStatement fuel) loops line rest) (statement, rest)) :
    StatementRead loops statement line [] := by
  subst body
  have single : line.body.opensBlock = false ∧ line.body.endsStatements = false := by
    cases body : line.body with
    | keyword word text => exact absurd body (noKeyword word text)
    | endBlock => exact absurd body noEnd
    | _ => exact ⟨rfl, rfl⟩
  refine ⟨Passes.nil.cons known single.1 noEnd, single.2, fun text body => absurd body (noKeyword _ text), ?_⟩
  intro fuel rest enough
  obtain ⟨fuel, rfl⟩ := Nat.exists_eq_add_one.mpr (show 0 < fuel by omega)
  exact reads fuel rest

theorem StatementRead.call {callee : Expr} {arguments : List Expr} (body : line.body = .call cs)
    (printed : Printed (.call callee arguments) cs) :
    StatementRead loops (.expression (.call callee arguments)) line [] := by
  refine .plain body nofun nofun nofun fun fuel rest => ?_
  rw [readStatementWith, body]
  exact (reads_expr line printed).bind (Reads.pure _)

theorem StatementRead.assign {name : List Char} {operator : Option Operator} {value : Expr}
    (body : line.body = .assign [name] operator cs) (printed : Printed value cs) :
    StatementRead loops (.assign (String.ofList name) operator value) line [] := by
  refine .plain body nofun nofun nofun fun fuel rest => ?_
  rw [readStatementWith, body]
  have assignment : Reads (readAssignment line [name] operator cs) _ :=
    (reads_expr line printed).bind (Reads.pure _)
  exact assignment.bind (Reads.pure _)

theorem dottedText_concat {path : List (List Char)} (some : path ≠ []) (name : List Char) :
    dottedText (path ++ [name]) = dottedText path ++ '.' :: name := by
  rw [dottedText, dottedText]
  induction path with
  | nil => exact absurd rfl some
  | cons first path ih =>
    rw [List.cons_append, List.intercalate_cons_of_ne_nil (by simp)]
    cases path with
    | nil => simp
    | cons next path =>
      rw [ih (List.cons_ne_nil next path)]
      simp [List.intercalate_cons_cons]

theorem dotted_chain {target : Expr} {path : List (List Char)} (dotted : Dotted target path) :
    path ≠ [] ∧ (∀ name ∈ path, isName name = true) ∧ Chain target (dottedText path) := by
  induction dotted with
  | «variable» named =>
    refine ⟨List.cons_ne_nil _ _, fun name member => ?_, ?_⟩
    · rw [List.mem_singleton.mp member]
      exact (isVariableName_iff.mp named).1
    · rw [dottedText, List.intercalate_singleton]
      exact .variable named
  | property _ named ih =>
    obtain ⟨some, names, chain⟩ := ih
    refine ⟨by simp, fun name member => ?_, ?_⟩
    · rcases List.mem_append.mp member with member | member
      · exact names name member
      · rw [List.mem_singleton.mp member]
        exact named
    · rw [dottedText_concat some]
      exact .property chain named

theorem StatementRead.setProperty {target value : Expr} {path : List (List Char)} {name : List Char}
    {operator : Option Operator} (body : line.body = .assign (path ++ [name]) operator cs)
    (dotted : Dotted target path) (printed : Printed value cs) :
    StatementRead loops (.setProperty target (String.ofList name) operator value) line [] := by
  refine .plain body nofun nofun nofun fun fuel rest => ?_
  obtain ⟨some, _, chain⟩ := dotted_chain dotted
  have owner := Printed.spaced Margin.nil (.operand (.chain chain)) (.one _) Margin.nil
  rw [Token.written, List.nil_append, List.append_nil, dottedText] at owner
  have assignment : Reads (readAssignment line (path ++ [name]) operator cs)
      (.setProperty target (String.ofList name) operator value) := by
    refine (reads_expr line printed).bind ?_
    rw [List.reverse_append, List.reverse_singleton, List.singleton_append]
    cases reversed : path.reverse with
    | nil => exact absurd (List.reverse_eq_nil_iff.mp reversed) some
    | cons last others =>
      dsimp only
      rw [← reversed, List.reverse_reverse]
      exact (reads_expr line owner).bind (Reads.pure _)
  rw [readStatementWith, body]
  exact assignment.bind (Reads.pure _)

/-! ## Loops and choices -/

theorem StatementRead.loop {condition : Expr}
    (body : line.body = .keyword .while (trimStart (gap ++ cs ++ [':']))) (margin : Margin gap)
    (printed : Printed condition cs) (inner : BlockRead (loops + 1) block lines) (ends : stop.body = .endBlock) :
    StatementRead loops (.loop condition block) line (lines ++ [stop]) := by
  refine .block body rfl nofun inner.passes ends fun fuel rest enough => ?_
  have stops : Stops (stop :: rest) := stops_cons (by rw [ends]; rfl) rest
  refine (reads_header line (gap ++ cs)).bind ((reads_headerExpr line margin printed).bind ?_)
  refine (reads_afterBlock inner.passes ends rest).bind ?_
  refine (inner.reads_block (by omega) stops).bind ?_
  exact (reads_expectEnd stop rest).bind (Reads.pure _)

theorem StatementRead.chooseOne {condition : Expr}
    (body : line.body = .keyword .if (trimStart (gap ++ cs ++ [':']))) (margin : Margin gap)
    (printed : Printed condition cs) (inner : BlockRead loops block lines) (ends : stop.body = .endBlock) :
    StatementRead loops (.choose condition block []) line (lines ++ [stop]) := by
  refine .block body rfl nofun inner.passes ends fun fuel rest enough => ?_
  have stops : Stops (stop :: rest) := stops_cons (by rw [ends]; rfl) rest
  refine (reads_header line (gap ++ cs)).bind ((reads_headerExpr line margin printed).bind ?_)
  refine (reads_afterBlock inner.passes ends rest).bind ?_
  refine (inner.reads_block (by omega) stops).bind ?_
  obtain ⟨_, location, text⟩ := stop
  subst ends
  exact (reads_expectEnd _ rest).bind (Reads.pure _)

/-- A statement with a line in its middle that parts two blocks. -/
theorem StatementRead.parted {statement : Statement} {line middle : Line} {part : Keyword} {partText : List Char}
    (body : line.body = .keyword word text) (opens : word.opensBlock = true)
    (defines : word = .define → isDefinition statement = true) (inner : Passes first)
    (middleBody : middle.body = .keyword part partText) (parts : part.endsStatements = true) (other : Passes second)
    (ends : stop.body = .endBlock) (reads : ∀ (fuel : Nat) (rest : List Line), first.length + second.length + 1 < fuel →
      Reads (afterBlockOf line (first ++ middle :: (second ++ stop :: rest))) rest →
      Stops (middle :: (second ++ stop :: rest)) → Stops (stop :: rest) →
      Reads (readKeyword (readStatement fuel) loops line word text (first ++ middle :: (second ++ stop :: rest)))
        (statement, rest)) : StatementRead loops statement line (first ++ middle :: (second ++ [stop])) := by
  have passes : Passes (first ++ middle :: second) := by
    refine inner.append (other.keyword middleBody ?_)
    cases part <;> first
      | rfl
      | cases parts
  have read : StatementRead loops statement line (first ++ middle :: second ++ [stop]) := by
    refine .block body opens defines passes ends fun fuel rest enough => ?_
    have after : Reads (afterBlockOf line _) rest := reads_afterBlock passes ends rest
    rw [List.length_append, List.length_cons] at enough
    have assoc : first ++ middle :: second ++ stop :: rest = first ++ middle :: (second ++ stop :: rest) := by
      rw [List.append_assoc, List.cons_append]
    rw [assoc] at after ⊢
    refine reads fuel rest (by omega) after (stops_cons ?_ _) (stops_cons ?_ rest)
    · rw [middleBody]
      exact parts
    · rw [ends]
      rfl
  rwa [List.append_assoc, List.cons_append] at read

theorem StatementRead.chooseTwo {condition : Expr} {consequent alternative : Block} {line middle : Line}
    (body : line.body = .keyword .if (trimStart (gap ++ cs ++ [':']))) (margin : Margin gap)
    (printed : Printed condition cs) (inner : BlockRead loops consequent first)
    (middleBody : middle.body = .keyword .else [':']) (other : BlockRead loops alternative second)
    (ends : stop.body = .endBlock) :
    StatementRead loops (.choose condition consequent alternative) line (first ++ middle :: (second ++ [stop])) := by
  refine .parted body rfl nofun inner.passes middleBody rfl other.passes ends
    fun fuel rest enough after middleStops stops => ?_
  refine (reads_header line (gap ++ cs)).bind ((reads_headerExpr line margin printed).bind ?_)
  refine after.bind ((inner.reads_block (by omega) middleStops).bind ?_)
  obtain ⟨_, location, text⟩ := middle
  subst middleBody
  refine (reads_emptyHeader _).bind ((other.reads_block (by omega) stops).bind ?_)
  exact (reads_expectEnd stop rest).bind (Reads.pure _)

/-! ## Guards -/

theorem StatementRead.guard {name handlerText : List Char} {block handler : Block} {line middle : Line}
    (body : line.body = .keyword .try [':']) (inner : BlockRead loops block first)
    (middleBody : middle.body = .keyword .catch handlerText) (header : handlerHeader? handlerText = some name)
    (other : BlockRead loops handler second) (ends : stop.body = .endBlock) :
    StatementRead loops (.guard block (String.ofList name) handler) line (first ++ middle :: (second ++ [stop])) := by
  refine .parted body rfl nofun inner.passes middleBody rfl other.passes ends
    fun fuel rest enough after middleStops stops => ?_
  refine (reads_emptyHeader line).bind (after.bind ((inner.reads_block (by omega) middleStops).bind ?_))
  obtain ⟨_, location, text⟩ := middle
  subst middleBody
  refine (reads_require header).bind ((other.reads_block (by omega) stops).bind ?_)
  exact (reads_expectEnd stop rest).bind (Reads.pure _)

/-! ## Functions -/

/-- The lines are read as the function. -/
structure FunctionRead (literal : FunctionLiteral) (line : Line) (lines : List Line) : Prop where
  passes : Passes (line :: lines)
  reads : ∃ text, line.body = .keyword .define text ∧ ∀ (fuel : Nat) (rest : List Line), lines.length ≤ fuel →
    Reads (readFunction (readStatement fuel) line text (lines ++ rest)) (literal, rest)

theorem FunctionRead.intro {name inner : List Char} {parameters : List String}
    (body : line.body = .keyword .define text) (header : functionHeader? text = some (name, inner))
    (names : names? inner = some parameters) (read : BlockRead 0 block lines) (ends : stop.body = .endBlock) :
    FunctionRead ⟨String.ofList name, parameters, block⟩ line (lines ++ [stop]) := by
  refine ⟨Passes.block (by rw [body]; rfl) read.passes ends, text, body, fun fuel rest enough => ?_⟩
  rw [List.length_append] at enough
  rw [List.append_assoc, List.singleton_append]
  have stops : Stops (stop :: rest) := stops_cons (by rw [ends]; rfl) rest
  rw [readFunction]
  refine (reads_require header).bind ?_
  refine (reads_afterBlock read.passes ends rest).bind ?_
  refine (read.reads_block (by omega) stops).bind ((reads_expectEnd stop rest).bind ?_)
  exact (reads_require names).bind (Reads.pure _)

theorem FunctionRead.statement {literal : FunctionLiteral} (read : FunctionRead literal line lines) :
    StatementRead loops (.assign literal.name none (.function literal)) line lines := by
  obtain ⟨text, body, reads⟩ := read.reads
  refine ⟨read.passes, by rw [body]; rfl, fun _ _ => rfl, fun fuel rest enough => ?_⟩
  obtain ⟨fuel, rfl⟩ := Nat.exists_eq_add_one.mpr (show 0 < fuel by omega)
  rw [readStatement_keyword body]
  exact (reads fuel rest (by omega)).bind (Reads.pure _)

/-! ## Switches -/

/-- The lines are read as the cases and the fallback of a switch. -/
structure CasesRead (loops : Nat) (cases : List SwitchCase) (fallback : Block) (lines : List Line) : Prop where
  passes : Passes lines
  stops : Stops lines
  reads : ∀ (fuel count : Nat) (stop : Line) (rest : List Line), lines.length ≤ fuel →
    (lines ++ stop :: rest).length ≤ count → stop.body = .endBlock →
    Reads (readCases (readStatement fuel) loops rest count (lines ++ stop :: rest)) (cases, fallback)

theorem Stops.append (stops : Stops lines) (ends : stop.body = .endBlock) (rest : List Line) :
    Stops (lines ++ stop :: rest) := by
  cases lines with
  | nil => exact stops_cons (by rw [ends]; rfl) rest
  | cons line lines => exact stops_cons (stops line rfl) _

theorem not_reachesEnd {rest : List Line} :
    ¬reachesEnd (line :: (lines ++ stop :: rest)) rest = true := by
  simp [reachesEnd]
  omega

theorem CasesRead.nil (loops : Nat) : CasesRead loops [] [] [] := by
  refine ⟨Passes.nil, fun _ member => (nomatch member), fun fuel count stop rest _ longer _ => ?_⟩
  rw [List.nil_append] at longer ⊢
  rw [List.length_cons] at longer
  obtain ⟨count, rfl⟩ := Nat.exists_eq_add_one.mpr (show 0 < count by omega)
  rw [readCases, if_pos (by simp [reachesEnd])]
  exact Reads.pure _

theorem CasesRead.fallback (body : line.body = .keyword .default [':'])
    (read : BlockRead loops block lines) : CasesRead loops [] block (line :: lines) := by
  constructor
  · exact read.passes.keyword body rfl
  · exact stops_cons (by rw [body]; rfl) lines
  · intro fuel count stop rest enough longer ends
    have stops : Stops (stop :: rest) := stops_cons (by rw [ends]; rfl) rest
    rw [List.length_cons] at enough
    rw [List.cons_append, List.length_cons] at longer
    obtain ⟨count, rfl⟩ := Nat.exists_eq_add_one.mpr (show 0 < count by omega)
    rw [List.cons_append, readCases, if_neg not_reachesEnd, body]
    refine (reads_emptyHeader line).bind ((read.reads_block (by omega) stops).bind ?_)
    exact (reads_expectEnd stop rest).bind (Reads.pure _)

theorem CasesRead.case {values : List Expr} {header : List Char} {block fallback : Block} {cases : List SwitchCase}
    (body : line.body = .keyword .case text) (headerText : blockHeader? text = some header)
    (reads : Reads ((splitTopLevel header).mapM (exprOn line)) values) (some : values ≠ [])
    (read : BlockRead loops block first) (more : CasesRead loops cases fallback second) :
    CasesRead loops (⟨values, block⟩ :: cases) fallback (line :: (first ++ second)) := by
  constructor
  · exact (read.passes.append more.passes).keyword body rfl
  · exact stops_cons (by rw [body]; rfl) _
  · intro fuel count stop rest enough longer ends
    have stops := more.stops.append ends rest
    have nonempty : ¬values.isEmpty = true := by
      rw [List.isEmpty_iff]
      exact some
    rw [List.length_cons, List.length_append] at enough
    rw [List.cons_append, List.length_cons, List.append_assoc, List.length_append] at longer
    obtain ⟨count, rfl⟩ := Nat.exists_eq_add_one.mpr (show 0 < count by omega)
    rw [List.cons_append, readCases, if_neg not_reachesEnd, body]
    refine (reads_require headerText).bind (reads.bind ?_)
    rw [if_neg nonempty, List.append_assoc]
    refine (read.reads_block (by omega) stops).bind ?_
    exact (more.reads fuel count stop rest (by omega) (by omega) ends).bind (Reads.pure _)

theorem StatementRead.switch {subject : Expr} {cases : List SwitchCase} {fallback : Block}
    (body : line.body = .keyword .switch (trimStart (gap ++ cs ++ [':']))) (margin : Margin gap)
    (printed : Printed subject cs) (read : CasesRead loops cases fallback lines) (ends : stop.body = .endBlock) :
    StatementRead loops (.switch subject cases fallback) line (lines ++ [stop]) := by
  refine .block body rfl nofun read.passes ends fun fuel rest enough => ?_
  refine (reads_header line (gap ++ cs)).bind ((reads_headerExpr line margin printed).bind ?_)
  refine (reads_afterBlock read.passes ends rest).bind ?_
  exact (read.reads fuel _ stop rest (by omega) (Nat.le_refl _) ends).bind (Reads.pure _)

/-! ## Classes -/

/-- A method with a new name comes after the others. -/
theorem addMethod_of_new {method : FunctionLiteral} (new : ∀ other ∈ methods, other.name ≠ method.name) :
    addMethod method methods = methods ++ [method] := by
  induction methods with
  | nil => rfl
  | cons other methods ih =>
    rw [addMethod, if_neg (new other (.head _)),
      ih fun next member => new next (List.mem_cons_of_mem other member), List.cons_append]

/-- The lines are read as the methods and the other statements of a class, after methods with other
names. -/
structure MembersRead (methods : List FunctionLiteral) (block : Block) (lines : List Line) : Prop where
  passes : Passes lines
  reads : ∀ (fuel count : Nat) (before : List FunctionLiteral) (stop : Line) (rest : List Line),
    lines.length ≤ fuel → (lines ++ stop :: rest).length ≤ count →
    ((before ++ methods).map FunctionLiteral.name).Nodup →
    Reads (readMembers (readStatement fuel) rest count before (lines ++ stop :: rest)) (before ++ methods, block)

theorem MembersRead.nil : MembersRead [] [] [] := by
  refine ⟨Passes.nil, fun fuel count before stop rest _ longer _ => ?_⟩
  rw [List.nil_append] at longer ⊢
  rw [List.length_cons] at longer
  obtain ⟨count, rfl⟩ := Nat.exists_eq_add_one.mpr (show 0 < count by omega)
  rw [readMembers, if_pos (by simp [reachesEnd]), List.append_nil]
  exact Reads.pure _

theorem MembersRead.method {method : FunctionLiteral}
    (head : FunctionRead method line first) (more : MembersRead methods block second) :
    MembersRead (method :: methods) block (line :: (first ++ second)) := by
  refine ⟨head.passes.append more.passes, fun fuel count before stop rest enough longer distinct => ?_⟩
  obtain ⟨text, body, reads⟩ := head.reads
  have new : ∀ other ∈ before, other.name ≠ method.name := by
    intro other member equal
    rw [List.map_append, List.nodup_append] at distinct
    exact distinct.2.2 other.name (List.mem_map_of_mem member) method.name (by simp) equal
  rw [List.length_cons, List.length_append] at enough
  rw [List.cons_append, List.length_cons, List.append_assoc, List.length_append] at longer
  obtain ⟨count, rfl⟩ := Nat.exists_eq_add_one.mpr (show 0 < count by omega)
  rw [List.cons_append, readMembers, if_neg not_reachesEnd, body, List.append_assoc]
  refine (reads fuel _ (by omega)).bind ?_
  have assoc : before ++ method :: methods = before ++ [method] ++ methods := by
    rw [List.append_assoc, List.singleton_append]
  rw [assoc] at distinct ⊢
  dsimp only
  rw [addMethod_of_new new]
  exact more.reads fuel count _ stop rest (by omega) (by omega) distinct

theorem MembersRead.statement {statement : Statement}
    (head : StatementRead 0 statement line first) (noMethod : isDefinition statement = false)
    (more : MembersRead methods block second) :
    MembersRead methods (⟨line.location.line, statement⟩ :: block) (line :: (first ++ second)) := by
  refine ⟨head.passes.append more.passes, fun fuel count before stop rest enough longer distinct => ?_⟩
  rw [List.length_cons, List.length_append] at enough
  rw [List.cons_append, List.length_cons, List.append_assoc, List.length_append] at longer
  obtain ⟨count, rfl⟩ := Nat.exists_eq_add_one.mpr (show 0 < count by omega)
  rw [List.cons_append, readMembers, if_neg not_reachesEnd]
  split
  · rename_i text body
    rw [head.defines text body] at noMethod
    cases noMethod
  · rw [if_neg (by rw [head.starts]; exact Bool.false_ne_true), List.append_assoc]
    refine (head.reads fuel _ (by omega)).bind ?_
    exact (more.reads fuel count before stop rest (by omega) (by omega) distinct).bind (Reads.pure _)

theorem StatementRead.defineClass {name inner : List Char} {parents : List String}
    (body : line.body = .keyword .defineClass text) (header : classHeader? text = some (name, inner))
    (readParents : Reads (readParents line inner) parents) (distinct : (methods.map FunctionLiteral.name).Nodup)
    (read : MembersRead methods block lines) (ends : stop.body = .endBlock) :
    StatementRead loops
      (.assign (String.ofList name) none (.class ⟨String.ofList name, parents, methods, block⟩)) line
      (lines ++ [stop]) := by
  refine .block body rfl nofun read.passes ends fun fuel rest enough => ?_
  have literal : Reads (readClass (readStatement fuel) line text (lines ++ stop :: rest))
      (⟨String.ofList name, parents, methods, block⟩, rest) := by
    rw [readClass]
    refine (reads_require header).bind ?_
    refine readParents.bind ?_
    refine (reads_afterBlock read.passes ends rest).bind ?_
    exact (read.reads fuel _ [] stop rest (by omega) (Nat.le_refl _) distinct).bind (Reads.pure _)
  exact literal.bind (Reads.pure _)

end LineScript.Program
