import LineScript.Proofs.Expression.Outcomes
import LineScript.Proofs.Program.Placement

/-!
# Located failures

A program that cannot be read fails at one of its lines: the error has the place and the text of the line
(`Located`). Two things could go wrong. A character that the language has no use for ends reading without a
place; a source without such characters has lines without them (`cleanBody_ofText`). And a reader that looks for
the end of a block could run out of lines.

It does not. Two counts of the blocks agree: `afterBlock?` counts openers and ends, and the readers descend into
the statements. A statement takes the lines up to the end of the block that it opens, if it opens one (`Follows`),
and so the block around it ends where it did before (`Follows.afterBlock?_eq`). As long as a block has an end
ahead, there are lines left (`Ahead.ne_nil`).
-/

set_option autoImplicit false

namespace LineScript.Program

open LineScript.Text LineScript.Source LineScript.Expression

/-! ## Characters -/

/-- The text has no character that the language has no use for. -/
def Clean (cs : List Char) : Prop :=
  ∀ c ∈ cs, isStray c = false

variable {lines after : List Line} {line : Line} {cs : List Char}

theorem Clean.subset {part : List Char} (clean : Clean cs) (among : part ⊆ cs) : Clean part :=
  fun c member => clean c (among member)

/-- The texts on a line that may hold expressions are clean. -/
def CleanBody : LineBody → Prop
  | .assign path _ value => (∀ name ∈ path, Clean name) ∧ Clean value
  | .keyword _ rest => Clean rest
  | .call text => Clean text
  | .endBlock | .unknown _ => True

theorem trimStart_subset (cs : List Char) : trimStart cs ⊆ cs :=
  (List.dropWhile_sublist _).subset

theorem subset_of_mem_splitDots {part name : List Char} (member : name ∈ splitDots part cs) : name ⊆ part ++ cs := by
  induction cs generalizing part with
  | nil =>
    rw [splitDots, List.mem_singleton] at member
    simp [member]
  | cons c cs ih =>
    rw [splitDots] at member
    split at member
    · rcases List.mem_cons.mp member with rfl | later
      · simp
      · exact List.Subset.trans (ih later) (by simp)
    · refine List.Subset.trans (ih member) fun d => ?_
      simp only [List.cons_append, List.mem_cons, List.mem_append]
      tauto

theorem splitAssignOperator_subset (cs : List Char) : (splitAssignOperator cs).2 ⊆ cs := by
  unfold splitAssignOperator
  split <;> simp

theorem splitAssignment?_subset {value : List Char} {operator : Option Operator}
    (split : splitAssignment? cs = some (operator, value)) : value ⊆ cs := by
  have among := List.Subset.trans (splitAssignOperator_subset (trimStart cs)) (trimStart_subset cs)
  unfold splitAssignment? at split
  split at split
  · cases split
  · rename_i rest found
    cases split
    rw [found] at among
    exact List.Subset.trans (trimStart_subset _) (List.subset_of_cons_subset among)
  · cases split

theorem nonlocalHeader?_subset {name value : List Char} {operator : Option Operator}
    (found : nonlocalHeader? cs = some (name, operator, value)) : value ⊆ cs := by
  simp only [nonlocalHeader?, Option.bind_eq_bind, Option.bind_eq_some_iff, Prod.exists] at found
  obtain ⟨first, rest, split, sign, assigned, split', same⟩ := found
  cases same
  refine List.Subset.trans (splitAssignment?_subset split') ?_
  rw [(splitName?_eq_some split).1]
  exact List.subset_append_right _ _

/-- A clean text is a clean line. -/
theorem cleanBody_ofText (clean : Clean cs) : CleanBody (.ofText cs) := by
  rw [LineBody.ofText]
  split
  · rename_i body found
    rw [assignment?] at found
    split at found
    · cases found
    · rename_i path rest split
      obtain ⟨⟨operator, value⟩, assigned, rfl⟩ := Option.map_eq_some_iff.mp found
      rw [splitPath?] at split
      split at split
      · cases split
        refine ⟨fun name member => clean.subset ?_, clean.subset ?_⟩
        · exact List.Subset.trans (subset_of_mem_splitDots member) (List.takeWhile_sublist _).subset
        · exact List.Subset.trans (splitAssignment?_subset assigned) (List.dropWhile_sublist _).subset
      · cases split
  · split
    · trivial
    · split
      · trivial
      · rename_i name rest split
        split
        · refine clean.subset (List.Subset.trans (trimStart_subset rest) ?_)
          rw [(splitName?_eq_some split).1]
          exact List.subset_append_right _ _
        · exact clean

/-! ## Blocks -/

theorem afterBlock?_subset {depth : Int} (found : afterBlock? depth lines = some after) : after ⊆ lines := by
  fun_induction afterBlock? depth lines with
  | case1 => cases found
  | case3 =>
    cases found
    exact List.subset_cons_self ..
  | case2 _ _ _ _ ih | case4 _ _ _ _ _ _ ih | case5 _ _ _ _ _ ih =>
    exact List.subset_cons_of_subset _ (ih found)

/-- Inside further blocks, the search goes on after the end of the first ones. -/
theorem afterBlock?_add {depth further : Int} (found : afterBlock? depth lines = some after) (inside : 1 ≤ depth)
    (around : 1 ≤ further) : afterBlock? (depth + further) lines = afterBlock? further after := by
  fun_induction afterBlock? depth lines with
  | case1 => cases found
  | case2 depth line rest opens ih =>
    rw [afterBlock?, if_pos opens, ← ih found (by omega), Int.add_right_comm]
  | case3 line rest noOpener ends =>
    cases found
    rw [afterBlock?, if_neg noOpener, if_pos ends, if_neg (by omega)]
    congr 1
    omega
  | case4 depth line rest noOpener ends deeper ih =>
    rw [afterBlock?, if_neg noOpener, if_pos ends, if_neg (by omega), ← ih found (by omega)]
    congr 1
    omega
  | case5 depth line rest noOpener goesOn ih =>
    rw [afterBlock?, if_neg noOpener, if_neg goesOn, ih found inside]

/-- The lines after a statement: those after the block that its line opens, or all of them if it opens none. -/
def Follows (line : Line) (rest after : List Line) : Prop :=
  if line.body.opensBlock then afterBlock? 1 rest = some after else after = rest

theorem Follows.subset {rest : List Line} (follows : Follows line rest after) : after ⊆ rest := by
  rw [Follows] at follows
  split at follows
  · exact afterBlock?_subset follows
  · rw [follows]
    exact List.Subset.refl _

/-- A statement leaves the end of the block around it where it is. -/
theorem Follows.afterBlock?_eq {rest : List Line} (follows : Follows line rest after) (goesOn : line.body ≠ .endBlock) :
    afterBlock? 1 (line :: rest) = afterBlock? 1 after := by
  rw [Follows] at follows
  split at follows
  · rename_i opens
    rw [afterBlock?, if_pos opens]
    exact afterBlock?_add follows (Int.le_refl 1) (Int.le_refl 1)
  · rename_i noOpener
    rw [afterBlock?, if_neg noOpener, if_neg goesOn, follows]

/-- The lines are among all lines, and the block that they are in ends ahead, before the lines `after`. -/
structure Ahead (all after lines : List Line) : Prop where
  among : lines ⊆ all
  ends : afterBlock? 1 lines = some after

theorem Ahead.ne_nil {all : List Line} (ahead : Ahead all after lines) : lines ≠ [] := by
  rintro rfl
  cases ahead.ends

/-- A line between the parts of a block neither opens a block nor ends one. -/
theorem Ahead.tail {all : List Line} (ahead : Ahead all after (line :: lines)) {word : Keyword} {text : List Char}
    (body : line.body = .keyword word text) (noOpener : word.opensBlock = false) : Ahead all after lines := by
  refine ⟨List.subset_of_cons_subset ahead.among, ?_⟩
  have ends := ahead.ends
  rw [afterBlock?, body] at ends
  simpa [LineBody.opensBlock, noOpener] using ends

/-! ## Lines -/

/-- The error is a cause at one of the lines. -/
def Located (all : List Line) (error : ReadError) : Prop :=
  ∃ line ∈ all, ∃ cause, error = line.error cause

/-- The error is located if all lines are clean. -/
def Blamed (all : List Line) (error : ReadError) : Prop :=
  (∀ line ∈ all, CleanBody line.body) → Located all error

section

variable {α : Type} {all : List Line} {line : Line} (listed : line ∈ all)

include listed

theorem settles_failAt {good : α → Prop} (cause : ReadCause) : Settles good (Blamed all) (failAt line cause : ReadM α) :=
  .throw fun _ => ⟨line, listed, cause, rfl⟩

theorem settles_failStatement {good : α → Prop} : Settles good (Blamed all) (failStatement line : ReadM α) :=
  settles_failAt listed _

theorem settles_require (result : Option α) :
    Settles (fun value => result = some value) (Blamed all) (require line result) := by
  cases result with
  | some value => exact .pure rfl
  | none => exact settles_failStatement listed

/-- An expression has no bodies. Without stray characters it fails at its line. -/
theorem settles_exprOn (plain : (∀ line ∈ all, CleanBody line.body) → Clean cs) :
    Settles (Expr.EveryBody Tight.block) (Blamed all) (exprOn line cs) := by
  refine (logs_readExpr _ cs).mono (fun _ _ => everyBody_of_built) ?_
  rintro error (⟨cause, rfl⟩ | ⟨c, member, stray, _⟩) clean
  · exact ⟨line, listed, cause, rfl⟩
  · rw [plain clean c member] at stray
    cases stray

theorem settles_headerOn (rest : List Char) :
    Settles (fun header => header ⊆ rest) (Blamed all) (headerOn line rest) := by
  refine (settles_require listed _).mono (fun header found => ?_) fun _ => id
  rw [blockHeader?] at found
  split at found
  · cases found
    exact List.Subset.trans (trim_subset _) (List.dropLast_subset rest)
  · cases found

theorem settles_emptyHeaderOn (rest : List Char) : Settles (fun _ => True) (Blamed all) (emptyHeaderOn line rest) := by
  refine (settles_headerOn listed rest).bind fun header _ => ?_
  split
  · exact .pure trivial
  · exact settles_failStatement listed

/-- The block that a line opens has an end, or the line is at fault. -/
theorem settles_afterBlockOf (among : lines ⊆ all) :
    Settles (fun after => Ahead all after lines) (Blamed all) (afterBlockOf line lines) := by
  rw [afterBlockOf]
  split
  · rename_i found
    exact .pure ⟨among, found⟩
  · exact settles_failAt listed _

end

/-- As long as there are lines, one of them is at fault. -/
theorem settles_failUnexpected {α : Type} {good : α → Prop} {all : List Line} (among : lines ⊆ all)
    (some_left : lines ≠ []) (expected : String) :
    Settles good (Blamed all) (failUnexpected expected lines : ReadM α) := by
  obtain ⟨line, rest, rfl⟩ := List.exists_cons_of_ne_nil some_left
  exact settles_failAt (among (.head _)) _

theorem settles_expectEnd {all stop : List Line} (ahead : Ahead all after stop) :
    Settles (fun _ => True) (Blamed all) (expectEnd stop after) := by
  rw [expectEnd]
  split
  · exact .pure trivial
  · exact settles_failUnexpected ahead.among ahead.ne_nil _

/-! ## Statements -/

/-- Every statement that the reader is asked for is read up to the lines after it, with each `break` in a loop, or it
fails at a line. -/
def SettledReader (all : List Line) (inner : StatementReader) : Prop :=
  ∀ depth line rest, line ∈ all → rest ⊆ all →
    Settles (fun read => Follows line rest read.2 ∧ StatementBelow depth read.1) (Blamed all) (inner depth line rest)

section

variable {all : List Line} {inner : StatementReader} (nested : SettledReader all inner)

section

include nested

/-- After some statements, the block that they are in ends where it did before. -/
theorem settles_block (depth : Nat) (among : lines ⊆ all) :
    Settles (fun read => (read.2 ⊆ all ∧ afterBlock? 1 read.2 = afterBlock? 1 lines) ∧ Below depth read.1) (Blamed all)
      (readBlock inner depth lines) := by
  rw [readBlock]
  generalize lines.length = fuel
  induction fuel generalizing lines with
  | zero => exact .pure ⟨⟨among, rfl⟩, .nil depth⟩
  | succ fuel ih =>
    rcases lines with _ | ⟨line, rest⟩
    · exact .pure ⟨⟨among, rfl⟩, .nil depth⟩
    · rw [readStatements]
      split
      · exact .pure ⟨⟨among, rfl⟩, .nil depth⟩
      · rename_i goesOn
        have later := List.subset_of_cons_subset among
        refine (nested depth line rest (among (.head _)) later).bind fun first ⟨follows, below⟩ => ?_
        refine (ih (List.Subset.trans follows.subset later)).bind fun second ⟨stops, block⟩ => .pure ?_
        refine ⟨⟨stops.1, stops.2.trans (follows.afterBlock?_eq ?_).symm⟩, .cons below block _⟩
        intro ends
        rw [ends] at goesOn
        exact goesOn rfl

theorem settles_blockAhead (depth : Nat) (ahead : Ahead all after lines) :
    Settles (fun read => Ahead all after read.2 ∧ Below depth read.1) (Blamed all) (readBlock inner depth lines) :=
  (settles_block nested depth ahead.among).mono (fun _ ⟨stops, below⟩ => ⟨⟨stops.1, stops.2.trans ahead.ends⟩, below⟩)
    fun _ => id

theorem settles_function {line : Line} (listed : line ∈ all) (among : lines ⊆ all) (header : List Char) :
    Settles (fun read => afterBlock? 1 lines = some read.2 ∧ Placed read.1.body) (Blamed all)
      (readFunction inner line header lines) := by
  refine (settles_require listed _).bind fun ⟨name, parameters⟩ _ => ?_
  refine (settles_afterBlockOf listed among).bind fun after ahead => ?_
  refine (settles_blockAhead nested 0 ahead).bind fun ⟨body, stop⟩ ⟨stops, below⟩ => ?_
  refine (settles_expectEnd stops).bind fun _ _ => ?_
  exact (settles_require listed _).bind fun _ _ => .pure ⟨ahead.ends, below.placed⟩

theorem settles_members (after : List Line) (fuel : Nat) {methods : List FunctionLiteral}
    (all_placed : ∀ method ∈ methods, Placed method.body) (among : lines ⊆ all) :
    Settles (fun read => (∀ method ∈ read.1, Placed method.body) ∧ Below 0 read.2) (Blamed all)
      (readMembers inner after fuel methods lines) := by
  induction fuel generalizing methods lines with
  | zero => exact .pure ⟨all_placed, .nil 0⟩
  | succ fuel ih =>
    rcases lines with _ | ⟨line, rest⟩
    · exact .pure ⟨all_placed, .nil 0⟩
    · have listed := among (.head _)
      have later := List.subset_of_cons_subset among
      rw [readMembers]
      split
      · exact .pure ⟨all_placed, .nil 0⟩
      · split
        · refine (settles_function nested listed later _).bind fun ⟨method, lines⟩ ⟨ends, placed⟩ => ?_
          exact ih (placed_addMethod placed all_placed) (List.Subset.trans (afterBlock?_subset ends) later)
        · split
          · exact settles_failAt listed _
          · refine (nested 0 line rest listed later).bind fun first ⟨follows, below⟩ => ?_
            refine (ih all_placed (List.Subset.trans follows.subset later)).bind fun second read => ?_
            exact .pure ⟨read.1, .cons below read.2 _⟩

theorem settles_cases (depth : Nat) (fuel : Nat) (ahead : Ahead all after lines) :
    Settles (fun read => ((depth = 0 → Tight.cases read.1) ∧ EveryBody.cases Tight.block read.1) ∧ Below depth read.2)
      (Blamed all) (readCases inner depth after fuel lines) := by
  have done : Settles (fun read : List SwitchCase × Block =>
      ((depth = 0 → Tight.cases read.1) ∧ EveryBody.cases Tight.block read.1) ∧ Below depth read.2) (Blamed all)
      (pure ([], [])) := .pure ⟨⟨fun _ => trivial, trivial⟩, .nil depth⟩
  induction fuel generalizing lines with
  | zero => exact done
  | succ fuel ih =>
    rcases lines with _ | ⟨line, rest⟩
    · exact done
    · have listed := ahead.among (.head _)
      rw [readCases]
      split
      · exact done
      · split
        · rename_i header body
          refine (settles_headerOn listed header).bind fun text part => ?_
          refine (Settles.mapM fun item member => settles_exprOn listed fun clean => ?_).bind fun values bodies => ?_
          · have plain := clean line listed
            rw [body] at plain
            exact Clean.subset plain (List.Subset.trans (subset_of_mem_splitTopLevel member) part)
          · split
            · exact settles_failStatement listed
            · refine (settles_blockAhead nested depth (ahead.tail body rfl)).bind fun ⟨body, stop⟩ ⟨stops, below⟩ => ?_
              refine (ih stops).bind fun ⟨cases, fallback⟩ read => .pure ?_
              exact ⟨⟨fun none => ⟨below.1 none, read.1.1 none⟩, ⟨everyBody_exprs.mpr bodies, below.2⟩, read.1.2⟩, read.2⟩
        · rename_i header body
          refine (settles_emptyHeaderOn listed header).bind fun _ _ => ?_
          refine (settles_blockAhead nested depth (ahead.tail body rfl)).bind fun ⟨body, stop⟩ ⟨stops, below⟩ => ?_
          exact (settles_expectEnd stops).bind fun _ _ => .pure ⟨⟨fun _ => trivial, trivial⟩, below⟩
        · exact settles_failAt listed _

variable {line : Line} (listed : line ∈ all) {lines : List Line} (among : lines ⊆ all)

include listed among

theorem settles_class (header : List Char) :
    Settles (fun read => afterBlock? 1 lines = some read.2 ∧ (Expr.class read.1).EveryBody Tight.block) (Blamed all)
      (readClass inner line header lines) := by
  refine (settles_require listed _).bind fun ⟨name, parents⟩ _ => ?_
  have parentsRead : Settles (fun _ => True) (Blamed all) (readParents line parents) := by
    rw [readParents]
    split
    · exact .pure trivial
    · exact (settles_require listed _).mono (fun _ _ => trivial) fun _ => id
  refine parentsRead.bind fun _ _ => ?_
  refine (settles_afterBlockOf listed among).bind fun after ahead => ?_
  refine (settles_members nested after _ (by simp) among).bind fun ⟨methods, body⟩ read => .pure ?_
  exact ⟨ahead.ends, everyBody_methods.mpr read.1, read.2.placed⟩

theorem settles_guard (depth : Nat) (rest : List Char) :
    Settles (fun read => afterBlock? 1 lines = some read.2 ∧ StatementBelow depth read.1) (Blamed all)
      (readGuard inner depth line rest lines) := by
  refine (settles_emptyHeaderOn listed rest).bind fun _ _ => ?_
  refine (settles_afterBlockOf listed among).bind fun after ahead => ?_
  refine (settles_blockAhead nested depth ahead).bind fun ⟨body, stop⟩ ⟨stops, guarded⟩ => ?_
  dsimp only
  split
  · refine (settles_require (stops.among (.head _)) _).bind fun caught _ => ?_
    refine (settles_blockAhead nested depth (stops.tail rfl rfl)).bind fun ⟨handler, stop⟩ ⟨stops, handling⟩ => ?_
    refine (settles_expectEnd stops).bind fun _ _ => .pure ⟨ahead.ends, ?_⟩
    exact ⟨fun none => ⟨guarded.1 none, handling.1 none⟩, guarded.2, handling.2⟩
  · exact settles_failUnexpected stops.among stops.ne_nil _

variable {rest : List Char} (plain : (∀ line ∈ all, CleanBody line.body) → Clean rest)

include plain

theorem settles_choice (depth : Nat) :
    Settles (fun read => afterBlock? 1 lines = some read.2 ∧ StatementBelow depth read.1) (Blamed all)
      (readChoice inner depth line rest lines) := by
  refine (settles_headerOn listed rest).bind fun header part => ?_
  refine (settles_exprOn listed fun clean => (plain clean).subset part).bind fun condition bodies => ?_
  refine (settles_afterBlockOf listed among).bind fun after ahead => ?_
  refine (settles_blockAhead nested depth ahead).bind fun ⟨consequent, stop⟩ ⟨stops, yes⟩ => ?_
  dsimp only
  split
  · refine (settles_emptyHeaderOn (stops.among (.head _)) _).bind fun _ _ => ?_
    refine (settles_blockAhead nested depth (stops.tail rfl rfl)).bind fun ⟨alternative, stop⟩ ⟨stops, no⟩ => ?_
    refine (settles_expectEnd stops).bind fun _ _ => .pure ⟨ahead.ends, ?_⟩
    exact ⟨fun none => ⟨yes.1 none, no.1 none⟩, bodies, yes.2, no.2⟩
  · refine (settles_expectEnd stops).bind fun _ _ => .pure ⟨ahead.ends, ?_⟩
    exact ⟨fun none => ⟨yes.1 none, trivial⟩, bodies, yes.2, trivial⟩

theorem settles_loop (depth : Nat) :
    Settles (fun read => afterBlock? 1 lines = some read.2 ∧ StatementBelow depth read.1) (Blamed all)
      (readLoop inner depth line rest lines) := by
  refine (settles_headerOn listed rest).bind fun header part => ?_
  refine (settles_exprOn listed fun clean => (plain clean).subset part).bind fun condition bodies => ?_
  refine (settles_afterBlockOf listed among).bind fun after ahead => ?_
  refine (settles_blockAhead nested (depth + 1) ahead).bind fun ⟨body, stop⟩ ⟨stops, below⟩ => ?_
  exact (settles_expectEnd stops).bind fun _ _ => .pure ⟨ahead.ends, fun _ => trivial, bodies, below.2⟩

theorem settles_switch (depth : Nat) :
    Settles (fun read => afterBlock? 1 lines = some read.2 ∧ StatementBelow depth read.1) (Blamed all)
      (readSwitch inner depth line rest lines) := by
  refine (settles_headerOn listed rest).bind fun header part => ?_
  refine (settles_exprOn listed fun clean => (plain clean).subset part).bind fun subject bodies => ?_
  refine (settles_afterBlockOf listed among).bind fun after ahead => ?_
  refine (settles_cases nested depth _ ahead).bind fun ⟨cases, fallback⟩ read => .pure ⟨ahead.ends, ?_⟩
  exact ⟨fun none => ⟨read.1.1 none, read.2.1 none⟩, bodies, read.1.2, read.2.2⟩

end

/-- A dotted path of clean names is clean. -/
theorem clean_intercalate {names : List (List Char)} (each : ∀ name ∈ names, Clean name) :
    Clean (List.intercalate ['.'] names) := by
  refine intercalate_of_append Clean (by simp [Clean]) (fun first second => List.forall_mem_append.mpr ⟨first, second⟩) ?_ each
  rw [Clean, List.forall_mem_singleton]
  exact not_isStray_of_ascii (by decide)

theorem settles_assignment (depth : Nat) (listed : line ∈ all) {path : List (List Char)} {value : List Char}
    (plain : (∀ line ∈ all, CleanBody line.body) → (∀ name ∈ path, Clean name) ∧ Clean value)
    (operator : Option Operator) :
    Settles (StatementBelow depth) (Blamed all) (readAssignment line path operator value) := by
  refine (settles_exprOn listed fun clean => (plain clean).2).bind fun value bodies => ?_
  split
  · exact settles_failStatement listed
  · exact .pure ⟨fun _ => trivial, bodies⟩
  · rename_i name owner _ reversed
    refine (settles_exprOn listed fun clean => clean_intercalate fun name member => (plain clean).1 name ?_).bind
      fun target first => .pure ⟨fun _ => trivial, first, bodies⟩
    have inPath : name ∈ path.reverse := by
      rw [reversed]
      exact .tail _ (List.mem_reverse.mp member)
    exact List.mem_reverse.mp inPath

include nested

/-- A statement is read from its keyword and takes the lines of its block. -/
theorem settles_keyword (depth : Nat) (listed : line ∈ all) (among : lines ⊆ all) {word : Keyword} {rest : List Char}
    (body : line.body = .keyword word rest) :
    Settles (fun read => Follows line lines read.2 ∧ StatementBelow depth read.1) (Blamed all)
      (readKeyword inner depth line word rest lines) := by
  have plain (clean : ∀ line ∈ all, CleanBody line.body) : Clean rest := by
    have here := clean line listed
    rwa [body] at here
  have block {after : List Line} (opens : word.opensBlock = true) (ends : afterBlock? 1 lines = some after) :
      Follows line lines after := by
    rwa [Follows, body, LineBody.opensBlock, if_pos opens]
  have whole {reader : ReadM (Statement × List Line)} (opens : word.opensBlock = true)
      (settles : Settles (fun read => afterBlock? 1 lines = some read.2 ∧ StatementBelow depth read.1) (Blamed all) reader) :
      Settles (fun read => Follows line lines read.2 ∧ StatementBelow depth read.1) (Blamed all) reader :=
    settles.mono (fun _ read => ⟨block opens read.1, read.2⟩) fun _ => id
  have single {statement : Statement} (noOpener : word.opensBlock = false) (below : StatementBelow depth statement) :
      Follows line lines lines ∧ StatementBelow depth statement := by
    rw [Follows, body, LineBody.opensBlock, if_neg (by simp [noOpener])]
    exact ⟨rfl, below⟩
  cases word with
  | define =>
    refine (settles_function nested listed among rest).bind fun ⟨⟨_, _, _⟩, after⟩ read => .pure ?_
    exact ⟨block rfl read.1, fun _ => trivial, read.2⟩
  | defineClass =>
    refine (settles_class nested listed among rest).bind fun read good => .pure ?_
    exact ⟨block rfl good.1, fun _ => trivial, good.2⟩
  | «return» =>
    rw [readKeyword]
    split
    · exact .pure (single rfl ⟨fun _ => trivial, trivial⟩)
    · exact (settles_exprOn listed plain).bind fun value bodies => .pure (single rfl ⟨fun _ => trivial, bodies⟩)
  | «if» => exact whole rfl (settles_choice nested listed among plain depth)
  | «while» => exact whole rfl (settles_loop nested listed among plain depth)
  | switch => exact whole rfl (settles_switch nested listed among plain depth)
  | «try» => exact whole rfl (settles_guard nested listed among depth rest)
  | throw => exact (settles_exprOn listed plain).bind fun value bodies => .pure (single rfl ⟨fun _ => trivial, bodies⟩)
  | «break» =>
    -- The one place where the count of the loops is asked for.
    rw [readKeyword]
    split
    · exact settles_failStatement listed
    · split
      · exact settles_failAt listed _
      · rename_i some_loop
        exact .pure (single rfl ⟨fun none => absurd none some_loop, trivial⟩)
  | «nonlocal» =>
    refine (settles_require listed _).bind fun header found => ?_
    obtain ⟨name, operator, value⟩ := header
    refine (settles_exprOn listed fun clean => (plain clean).subset (nonlocalHeader?_subset found)).bind
      fun value bodies => .pure ?_
    exact single rfl ⟨fun _ => trivial, bodies⟩
  | importModule =>
    exact (settles_require listed _).bind fun _ _ => .pure (single rfl ⟨fun _ => trivial, trivial⟩)
  | «else» | case | default | «catch» => exact settles_failStatement listed

theorem settles_statementWith (depth : Nat) (listed : line ∈ all) (among : lines ⊆ all) :
    Settles (fun read => Follows line lines read.2 ∧ StatementBelow depth read.1) (Blamed all)
      (readStatementWith inner depth line lines) := by
  rw [readStatementWith]
  split
  · rename_i path operator value body
    have plain (clean : ∀ line ∈ all, CleanBody line.body) : CleanBody (.assign path operator value) :=
      body ▸ clean line listed
    refine (settles_assignment depth listed plain operator).bind fun statement below => .pure ⟨?_, below⟩
    simp [Follows, body, LineBody.opensBlock]
  · rename_i text body
    have plain (clean : ∀ line ∈ all, CleanBody line.body) : CleanBody (.call text) := body ▸ clean line listed
    refine (settles_exprOn listed plain).bind fun tree bodies => ?_
    split
    · refine .pure ⟨?_, fun _ => trivial, bodies⟩
      simp [Follows, body, LineBody.opensBlock]
    · exact settles_failStatement listed
  · rename_i word rest body
    exact settles_keyword nested depth listed among body
  · exact settles_failStatement listed
  · exact settles_failStatement listed

end

theorem settledReader_readStatement (all : List Line) (fuel : Nat) : SettledReader all (readStatement fuel) := by
  induction fuel with
  | zero => exact fun depth line rest listed among => settles_failStatement listed
  | succ fuel ih => exact fun depth line rest listed among => settles_statementWith ih depth listed among

theorem settles_readProgramLines (all : List Line) : Settles Placed (Blamed all) (readProgramLines all) := by
  refine (settles_block (settledReader_readStatement all _) 0 (List.Subset.refl all)).bind
    fun ⟨block, stop⟩ ⟨stops, below⟩ => ?_
  dsimp only
  split
  · exact .pure below.placed
  · rename_i some_left
    exact settles_failUnexpected stops.1 some_left _

/-- Clean lines are a program, or one of them is at fault. -/
theorem settles_programLines {all : List Line} (clean : ∀ line ∈ all, CleanBody line.body) :
    Settles (fun _ => True) (Located all) (readProgramLines all) :=
  (settles_readProgramLines all).mono (fun _ _ => trivial) fun _ blamed => blamed clean

/-- In a program that is read, every `break` has a loop around it in the same body. -/
theorem readProgramLines_placed (lines : List Line) : Ensures Placed (readProgramLines lines) :=
  fun _ _ _ read => ((settles_readProgramLines lines).reads read).1

/-! ## Rows -/

/-- A line has the number, the indentation and the text of its row. -/
theorem ofRow?_eq_some {file : Option String} {number : Nat} {row : List Char}
    (found : Line.ofRow? file number row = some line) :
    line = ⟨.ofText (trim row), ⟨number, (row.takeWhile isBlank).length + 1, file⟩, String.ofList (trim row)⟩ ∧
      trim row ≠ [] ∧ (trim row).head? ≠ some '#' := by
  have indentation : row.length - (trimStart row).length = (row.takeWhile isBlank).length := by
    have whole := congrArg List.length (List.takeWhile_append_dropWhile (p := isBlank) (l := row))
    rw [List.length_append] at whole
    rw [trimStart]
    omega
  unfold Line.ofRow? at found
  split at found
  · cases found
  · cases found
  · rename_i text noText noComment
    cases found
    rw [indentation]
    refine ⟨rfl, noText, fun comment => ?_⟩
    obtain ⟨rest, same⟩ := List.head?_eq_some_iff.mp comment
    exact noComment rest same

/-- Every line comes from a row. -/
theorem mem_linesFrom {file : Option String} {number : Nat} {rows : List (List Char)}
    (member : line ∈ linesFrom file number rows) :
    ∃ index row, rows[index]? = some row ∧ Line.ofRow? file (number + index) row = some line := by
  induction rows generalizing number with
  | nil => cases member
  | cons row rows ih =>
    have later (among : line ∈ linesFrom file (number + 1) rows) :
        ∃ index other, (row :: rows)[index]? = some other ∧
          Line.ofRow? file (number + index) other = some line := by
      obtain ⟨index, other, here, found⟩ := ih among
      exact ⟨index + 1, other, here, by rwa [Nat.add_right_comm] at found⟩
    rw [linesFrom] at member
    split at member
    · rename_i first found
      rcases List.mem_cons.mp member with rfl | among
      · exact ⟨0, row, rfl, found⟩
      · exact later among
    · exact later member

/-- The rows hold no characters but those of the text. -/
theorem subset_of_mem_splitLinesFrom {line row : List Char} (member : row ∈ splitLinesFrom line cs) :
    row ⊆ line ++ cs := by
  fun_induction splitLinesFrom line cs with
  | case1 => cases member
  | case2 line =>
    rw [List.mem_singleton.mp member]
    simp
  | case3 line rest ih =>
    rcases List.mem_cons.mp member with rfl | later
    · simp
    · refine List.Subset.trans (ih later) fun d there => ?_
      exact List.mem_append_right _ (.tail _ (.tail _ there))
  | case4 line c rest _ _ ih =>
    rcases List.mem_cons.mp member with rfl | later
    · simp
    · exact List.Subset.trans (ih later) (by simp)
  | case5 line c rest _ _ ih =>
    refine List.Subset.trans (ih member) fun d => ?_
    simp only [List.cons_append, List.mem_cons, List.mem_append]
    tauto

theorem cleanBody_readLines {source : String} (clean : Clean source.toList) (file : Option String) :
    ∀ line ∈ readLines source file, CleanBody line.body := by
  intro line member
  obtain ⟨index, row, here, found⟩ := mem_linesFrom member
  rw [(ofRow?_eq_some found).1]
  refine cleanBody_ofText (clean.subset (List.Subset.trans (trim_subset row) ?_))
  exact subset_of_mem_splitLinesFrom (List.mem_of_getElem? here)

/-- Every cause has a code of its kind. -/
theorem code_mem (cause : ReadCause) :
    cause.isLexical = true ∧ cause.code ∈ ["E001", "E002", "E003", "E005"] ∨
      cause.isLexical = false ∧ cause.code ∈ ["E101", "E102", "E103", "E104", "E105", "E106"] := by
  cases cause with
  | unexpectedCharacter | unterminatedText | unbalancedBrackets | invalidEscape =>
    exact .inl ⟨rfl, List.mem_of_elem_eq_true rfl⟩
  | _ => exact .inr ⟨rfl, List.mem_of_elem_eq_true rfl⟩

/-- An ASCII source is read as a program, or reading fails at one of its rows that is neither blank nor a comment.
The error has a code of the scanner or of the parser; it has the file, the number of the row, the column after its
indentation, and the trimmed text of the row. -/
theorem reading_fails_at_a_row {source : String} (ascii : ∀ c ∈ source.toList, c.toNat < 0x80) (file : Option String)
    (table : Interner) :
    (∃ program table', readProgram source file table = .ok program table') ∨
      ∃ cause index row table',
        readProgram source file table = .error (.reported cause (some ⟨⟨(index : Nat) + 1,
          (row.takeWhile isBlank).length + 1, file⟩, some (String.ofList (trim row))⟩)) table' ∧
        (splitLines source.toList)[index]? = some row ∧ trim row ≠ [] ∧ (trim row).head? ≠ some '#' ∧
        (cause.isLexical = true ∧ cause.code ∈ ["E001", "E002", "E003", "E005"] ∨
          cause.isLexical = false ∧ cause.code ∈ ["E101", "E102", "E103", "E104", "E105", "E106"]) := by
  have clean : Clean source.toList := fun c member => not_isStray_of_ascii (ascii c member)
  have settles : Settles (fun _ => True) (Located (readLines source file)) (readProgram source file) :=
    settles_programLines (cleanBody_readLines clean file)
  by_cases read : ∃ program table', readProgram source file table = .ok program table'
  · exact .inl read
  · obtain ⟨error, table', failed, line, member, cause, rfl⟩ := settles.error_of_not_ok read
    obtain ⟨index, row, here, found⟩ := mem_linesFrom member
    obtain ⟨rfl, noBlank, noComment⟩ := ofRow?_eq_some found
    refine .inr ⟨cause, index, row, table', ?_, here, noBlank, noComment, code_mem cause⟩
    rw [failed, Line.error, Nat.add_comm]
    rfl

/-- An argument list without an end, in a loop and after a comment. -/
theorem reading_fails_at_a_row_of_a_loop :
    let source := "while x:\n  # note\n  y = f(a\nend"
    (∀ c ∈ source.toList, c.toNat < 0x80) ∧
    ((readProgram source (some "loop")).run' .empty).isNone = true ∧
    ∃ cause index row table',
      readProgram source (some "loop") .empty = .error (.reported cause (some ⟨⟨(index : Nat) + 1,
        (row.takeWhile isBlank).length + 1, some "loop"⟩, some (String.ofList (trim row))⟩)) table' ∧
      (splitLines source.toList)[index]? = some row := by
  intro source
  have ascii : ∀ c ∈ source.toList, c.toNat < 0x80 := by
    have narrow : source.toList.all (fun c => c.toNat < 0x80) = true := by decide
    exact fun c member => of_decide_eq_true (List.all_eq_true.mp narrow c member)
  have fails : ((readProgram source (some "loop")).run' .empty).isNone = true := by decide +kernel
  refine ⟨ascii, fails, ?_⟩
  rcases reading_fails_at_a_row ascii (some "loop") .empty with
    ⟨program, table', read⟩ | ⟨cause, index, row, table', failed, here, _⟩
  · delta EStateM.run' EStateM.run at fails
    rw [read] at fails
    cases fails
  · exact ⟨cause, index, row, table', failed, here⟩

end LineScript.Program
