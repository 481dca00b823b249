import LineScript.Proofs.Program.Reading

/-!
# Printing and reading programs

Reading a printed program gives its block, with the number of its first row on every statement
(`readProgram_printed`). The rows of the text that are neither blank nor comments become the lines of the
block, whatever white space is around them, and the lines are read as the block.
-/

set_option autoImplicit false

namespace LineScript.Program

open LineScript.Text LineScript.Source LineScript.Expression LineScript.Number

/-! ## Values of a case -/

variable {cs : List Char} {items : List (List Char)}

theorem printed_trimEnd {tree : Expr} (printed : Printed tree cs) : Printed tree (trimEnd cs) ∧ trimEnd cs ≠ [] := by
  cases printed with
  | @spaced _ level tokens before core after blankBefore order spaced blankAfter =>
    have solid := order.solid spaced
    have whole : trimEnd (before ++ core ++ after) = before ++ core := by
      rw [trimEnd_margin blankAfter, trimEnd_append (by rw [solid.trimEnd_eq]; exact solid.ne_nil),
        solid.trimEnd_eq]
    rw [whole]
    refine ⟨?_, fun nothing => solid.ne_nil (List.append_eq_nil_iff.mp nothing).2⟩
    have bare := Printed.spaced blankBefore order spaced Margin.nil
    rwa [List.append_nil] at bare

/-- White space at the end of printed items belongs to the last one. -/
theorem items_trimEnd {trees : List Expr} {item : List Char} (printed : Items trees (item :: items)) :
    ∃ first others, Items trees (first :: others) ∧
      List.intercalate [','] (first :: others) = trimEnd (List.intercalate [','] (item :: items)) ∧
      List.intercalate [','] (first :: others) ≠ [] := by
  induction items generalizing trees item with
  | nil =>
    cases printed with
    | cons head rest =>
      obtain ⟨trimmed, some⟩ := printed_trimEnd head
      refine ⟨trimEnd item, [], .cons trimmed rest, ?_, ?_⟩
      · rw [List.intercalate_singleton, List.intercalate_singleton]
      · rwa [List.intercalate_singleton]
  | cons next items ih =>
    cases printed with
    | cons head rest =>
      obtain ⟨first, others, rest, text, some⟩ := ih rest
      refine ⟨item, first :: others, .cons head rest, ?_, ?_⟩
      · rw [List.intercalate_cons_cons, List.intercalate_cons_cons,
          trimEnd_append (by rwa [text] at some), text]
      · rw [List.intercalate_cons_cons]
        simp

theorem trimStart_printed_append {tree : Expr} (printed : Printed tree cs) (rest : List Char) :
    trimStart (cs ++ rest) = trimStart cs ++ rest := by
  cases printed with
  | @spaced _ level tokens before core after blankBefore order spaced blankAfter =>
    have solid := order.solid spaced
    simp only [List.append_assoc, trimStart_margin blankBefore, solid.trimStart_append]

/-- White space in front of printed items belongs to the first one. -/
theorem items_trimStart {trees : List Expr} {item : List Char} (printed : Items trees (item :: items)) :
    Items trees (trimStart item :: items) ∧
      List.intercalate [','] (trimStart item :: items) = trimStart (List.intercalate [','] (item :: items)) := by
  cases printed with
  | cons head rest =>
    refine ⟨.cons (printed_trimStart head) rest, ?_⟩
    cases items with
    | nil => rw [List.intercalate_singleton, List.intercalate_singleton]
    | cons next items =>
      rw [List.intercalate_cons_cons, List.intercalate_cons_cons, List.append_assoc, List.append_assoc,
        trimStart_printed_append head]

/-- The values in the header of a case are read. -/
theorem reads_values {values : List Expr} {gap item : List Char} (line : Line) (margin : Margin gap)
    (printed : Items values (item :: items)) :
    Reads ((splitTopLevel (trim (gap ++ List.intercalate [','] (item :: items)))).mapM (exprOn line)) values := by
  obtain ⟨started, start⟩ := items_trimStart printed
  obtain ⟨first, others, trimmed, stop, _⟩ := items_trimEnd started
  have text : trim (gap ++ List.intercalate [','] (item :: items)) = itemsText [] (first :: others) := by
    rw [trim, trimStart_margin margin, ← start, ← stop, itemsText]
  have below : ReadsBelow ((itemsText [] (first :: others)).length + 1) (exprOn line) :=
    fun printed _ => reads_expr line printed
  rw [text]
  exact reads_items below Margin.nil trimmed (Nat.lt_succ_self _)

theorem printed_ne_nil {tree : Expr} (printed : Printed tree cs) : cs ≠ [] := by
  rintro rfl
  exact printed.trim_eq.2.1 rfl

theorem ofText_value {word : Keyword} {tree : Expr} {gap : List Char} (apart : Gap gap) (printed : Printed tree cs) :
    LineBody.ofText (headed word (gap ++ cs)) = .keyword word (trimStart cs) := by
  have body : LineBody.ofText (headed word _) = _ := ofText_expression apart printed []
  rwa [List.append_nil, trimStart_margin apart.2] at body

theorem ofText_items {word : Keyword} {values : List Expr} {gap item : List Char} (apart : Gap gap)
    (printed : Items values (item :: items)) :
    LineBody.ofText (headed word (gap ++ List.intercalate [','] (item :: items) ++ [':'])) =
      .keyword word (trimStart (gap ++ List.intercalate [','] (item :: items) ++ [':'])) := by
  cases printed with
  | cons head rest =>
    cases items with
    | nil =>
      rw [List.intercalate_singleton]
      exact ofText_expression apart head [':']
    | cons next items =>
      have body : LineBody.ofText (headed word _) = _ := ofText_expression apart head
        (',' :: (List.intercalate [','] (next :: items) ++ [':']))
      simpa only [List.intercalate_cons_cons, List.append_assoc, List.cons_append, List.nil_append] using body

/-! ## Lines of rows -/

/-- The line that a row holds. -/
def Row.line (file : Option String) (row : Row) : Line :=
  ⟨.ofText row.text, ⟨row.number, row.before.length + 1, file⟩, String.ofList row.text⟩

theorem line_body {file : Option String} {row : Row} {text : List Char} {body : LineBody}
    (equal : row.text = text) (holds : LineBody.ofText text = body) : (row.line file).body = body := by
  rw [Row.line, equal]
  exact holds

theorem line_end {file : Option String} {row : Row} (ends : row.text = "end".toList) :
    (row.line file).body = .endBlock :=
  line_body ends ofText_end

theorem line_colon {file : Option String} {row : Row} {word : Keyword} {blank : List Char} (margin : Margin blank)
    (text : row.text = headed word (blank ++ [':'])) : (row.line file).body = .keyword word [':'] :=
  line_body text (ofText_mark margin (by decide) (by decide) (by decide))

section

variable (file : Option String)

/-- The alternative of a choice is absent, or its line parts it from the first block. -/
def AlternativeRead (loops : Nat) (block : Block) (rows : List Row) : Prop :=
  block = [] ∧ rows = [] ∨ ∃ row more, rows = row :: more ∧ (row.line file).body = .keyword .else [':'] ∧
    BlockRead loops block (more.map (Row.line file))

theorem StatementRead.choose {loops : Nat} {condition : Expr} {gap : List Char} {consequent alternative : Block}
    {row stop : Row} {first second : List Row} (apart : Gap gap) (printed : Printed condition cs)
    (text : row.text = headed .if (gap ++ cs ++ [':'])) (inner : BlockRead loops consequent (first.map (Row.line file)))
    (other : AlternativeRead file loops alternative second) (ends : stop.text = "end".toList) :
    StatementRead loops (.choose condition consequent alternative) (row.line file)
      ((first ++ second ++ [stop]).map (Row.line file)) := by
  have body : (row.line file).body = _ := line_body text (ofText_expression apart printed [':'])
  rcases other with ⟨rfl, rfl⟩ | ⟨middle, more, rfl, middleBody, other⟩
  · rw [List.append_nil, List.map_append]
    exact .chooseOne body apart.2 printed inner (line_end ends)
  · rw [List.append_assoc, List.cons_append, List.map_append, List.map_cons, List.map_append]
    exact .chooseTwo body apart.2 printed inner middleBody other (line_end ends)

/-! ## Printed forms are read -/

mutual

theorem StatementRows.read : ∀ {loops : Nat} {statement : Statement} {rows : List Row},
    StatementRows loops statement rows → ∃ row more, rows = row :: more ∧
      StatementRead loops statement (row.line file) (more.map (Row.line file))
  | _, _, _, .expression printed starts =>
    ⟨_, _, rfl, .call (line_body rfl (ofText_call printed starts)) printed⟩
  | _, _, _, @StatementRows.assign _ name rest operator value row named assigned text => by
    have single : ∀ other ∈ [name], isName other = true := fun other member => by
      rw [List.mem_singleton.mp member]
      exact named
    obtain ⟨cs, body, printed⟩ := ofText_assign (List.cons_ne_nil name []) single assigned
    rw [dottedText, List.intercalate_singleton] at body
    exact ⟨_, _, rfl, .assign (line_body text body) printed⟩
  | _, _, _, @StatementRows.setProperty _ target value path name rest operator row dotted named assigned text => by
    obtain ⟨some, names, _⟩ := dotted_chain dotted
    have all : ∀ other ∈ path ++ [name], isName other = true := fun other member => by
      rcases List.mem_append.mp member with member | member
      · exact names other member
      · rw [List.mem_singleton.mp member]
        exact named
    obtain ⟨cs, body, printed⟩ := ofText_assign (by simp) all assigned
    exact ⟨_, _, rfl, .setProperty (line_body text body) dotted printed⟩
  | _, _, _, .nonlocal apart named assigned text => by
    obtain ⟨_, cs, body, header, printed⟩ := ofText_nonlocal apart named assigned
    refine ⟨_, _, rfl, .line (line_body text body) rfl fun fuel rest => ?_⟩
    exact (reads_require header).bind ((reads_expr _ printed).bind (Reads.pure _))
  | _, _, _, .finish text =>
    ⟨_, _, rfl, .line (line_body text (ofText_bare .return)) rfl fun _ _ => Reads.pure _⟩
  | _, _, _, @StatementRows.return _ gap cs value row apart printed text => by
    have rest := printed_trimStart printed
    have present : ¬(trimStart cs).isEmpty = true := by
      rw [List.isEmpty_iff]
      exact printed_ne_nil rest
    refine ⟨_, _, rfl, .line (line_body text (ofText_value apart printed)) rfl fun fuel more => ?_⟩
    rw [readKeyword, if_neg present]
    exact (reads_expr _ rest).bind (Reads.pure _)
  | _, _, _, .throw apart printed text => by
    refine ⟨_, _, rfl, .line (line_body text (ofText_value apart printed)) rfl fun fuel rest => ?_⟩
    exact (reads_expr _ (printed_trimStart printed)).bind (Reads.pure _)
  | _, _, _, .break inLoop text => by
    -- the reader takes a `break` only below a loop, and the rows were printed below one
    refine ⟨_, _, rfl, .line (line_body text (ofText_bare .break)) rfl fun _ _ => ?_⟩
    rw [readKeyword, if_neg (by simp), if_neg inLoop]
    exact Reads.pure _
  | _, _, _, .importModule present named header text => by
    obtain ⟨_, body, header⟩ := ofText_import present named header
    refine ⟨_, _, rfl, .line (line_body text body) rfl fun fuel rest => ?_⟩
    exact (reads_require header).bind (Reads.pure _)
  | _, _, _, .choose apart printed text body other ends =>
    ⟨_, _, rfl, .choose file apart printed text body.read other.read ends⟩
  | _, _, _, .loop apart printed text body ends => by
    refine ⟨_, _, rfl, ?_⟩
    rw [List.map_append]
    exact .loop (line_body text (ofText_expression apart printed [':'])) apart.2 printed body.read (line_end ends)
  | _, _, _, .switch apart printed text branches ends => by
    refine ⟨_, _, rfl, ?_⟩
    rw [List.map_append]
    exact .switch (line_body text (ofText_expression apart printed [':'])) apart.2 printed branches.read
      (line_end ends)
  | _, _, _, .guard margin text body header middleText other ends => by
    obtain ⟨_, middleBody, header⟩ := ofText_handler header
    refine ⟨_, _, rfl, ?_⟩
    rw [List.map_append, List.map_cons, List.map_append]
    exact .guard (line_colon margin text) body.read (line_body middleText middleBody) header other.read
      (line_end ends)
  | _, _, _, .define function => by
    obtain ⟨row, more, equal, read⟩ := function.read
    exact ⟨row, more, equal, read.statement⟩
  | _, _, _, .defineClass header text distinct members ends => by
    obtain ⟨_, inner, body, header, parents⟩ := ofText_class header
    refine ⟨_, _, rfl, ?_⟩
    rw [List.map_append]
    exact .defineClass (line_body text body) header (parents _) distinct members.read (line_end ends)

theorem BlockRows.read : ∀ {loops : Nat} {block : Block} {rows : List Row}, BlockRows loops block rows →
    BlockRead loops block (rows.map (Row.line file))
  | _, _, _, .nil => .nil _
  | _, _, _, .cons head rest => by
    have more := rest.read
    obtain ⟨_, _, equal, read⟩ := head.read
    obtain ⟨rfl, rfl⟩ := List.cons.inj equal
    rw [List.map_cons, List.map_append]
    exact .cons read more

theorem AlternativeRows.read : ∀ {loops : Nat} {block : Block} {rows : List Row},
    AlternativeRows loops block rows → AlternativeRead file loops block rows
  | _, _, _, .absent => .inl ⟨rfl, rfl⟩
  | _, _, _, .present margin text body => .inr ⟨_, _, rfl, line_colon margin text, body.read⟩

theorem CaseRows.read : ∀ {loops : Nat} {cases : List SwitchCase} {fallback : Block} {rows : List Row},
    CaseRows loops cases fallback rows → CasesRead loops cases fallback (rows.map (Row.line file))
  | _, _, _, _, .nil => .nil _
  | _, _, _, _, .fallback margin text body => .fallback (line_colon margin text) body.read
  | _, _, _, _, @CaseRows.case _ gap item values items _ _ _ row _ _ apart printed text body rest => by
    have present : values ≠ [] := by
      cases printed
      exact List.cons_ne_nil _ _
    rw [List.map_cons, List.map_append]
    exact .case (line_body text (ofText_items apart printed)) (blockHeader?_colon _)
      (reads_values _ apart.2 printed) present body.read rest.read

theorem FunctionRows.read : ∀ {literal : FunctionLiteral} {rows : List Row}, FunctionRows literal rows →
    ∃ row more, rows = row :: more ∧ FunctionRead literal (row.line file) (more.map (Row.line file))
  | _, _, .intro header text body ends => by
    obtain ⟨_, inner, lineBody, header, names⟩ := ofText_function header
    refine ⟨_, _, rfl, ?_⟩
    rw [List.map_append]
    exact .intro (line_body text lineBody) header names body.read (line_end ends)

theorem MemberRows.read : ∀ {methods : List FunctionLiteral} {block : Block} {rows : List Row},
    MemberRows methods block rows → MembersRead methods block (rows.map (Row.line file))
  | _, _, _, .nil => .nil
  | _, _, _, .method head rest => by
    have more := rest.read
    obtain ⟨row, first, equal, read⟩ := head.read
    rw [equal, List.cons_append, List.map_cons, List.map_append]
    exact .method read more
  | _, _, _, .statement head noMethod rest => by
    have more := rest.read
    obtain ⟨_, _, equal, read⟩ := head.read
    obtain ⟨rfl, rfl⟩ := List.cons.inj equal
    rw [List.map_cons, List.map_append]
    exact .statement read noMethod more

end

/-! ## Rows of the text -/

end

end LineScript.Program
