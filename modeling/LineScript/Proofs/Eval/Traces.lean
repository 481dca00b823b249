import LineScript.Proofs.Eval.Programs
import LineScript.Proofs.Eval.Reports

/-!
# Traces

A scope marks an escape that passes one of its statements, unless it was the last to mark it. So a scope that executes
nested blocks leaves one mark only, that of the innermost statement (`Innermost`), if no other scope marks the escape
in between. None does: between a statement and the block inside of it there is only code in the same scope, and code
that a statement runs in other scopes runs in frames that are opened for it.

An escape is traced (`Traced`) if it has passed the scope of a block once after it was raised there, or after it was
traced in a frame that was opened since the block began. By induction on the size of trees (`treesTell`) and on the
levels of nested calls (`runnerReports_runCode`), escapes of blocks are traced (`traced_execBlock`). What the entries
of such a trace are, and in which order they stand, follows by induction on how it was traced (`Traced.marks`,
`Traced.left`).

The entries have rows of source texts, since root frames are made for source texts and other frames have the origin of
an older one (`Arises.sourced`). So the trace of an escape lists the scopes once (`traces_list_scopes_once`).
-/

set_option autoImplicit false

namespace LineScript

/-! ## The innermost statement -/

/-- The store in which the body of a loop is running when the loop ends; nothing if it ends at its condition. -/
def enteredLoop (condition : Eval Bool) (body : Eval Completion) : Nat → Store → Option Store
  | 0, _ => none
  | steps + 1, store =>
    match condition store with
    | .ok true after =>
      match body after with
      | .ok .normal again => enteredLoop condition body steps again
      | _ => some after
    | _ => none

/-- The block of a case or the fallback, whichever is running when the choice among cases ends, and the store in
which that began. -/
def enteredCase (engine : Engine) (scope : FrameId) (subject : Value) (fallback : Block) :
    List SwitchCase → Store → Option (Block × Store)
  | [], store => some (fallback, store)
  | ⟨values, body⟩ :: cases, store =>
    match anySame engine scope subject values store with
    | .ok true after => some (body, after)
    | .ok false after => enteredCase engine scope subject fallback cases after
    | .error _ _ => none

/-- The trace of an exception is recorded and the thrown value is bound, before its handler runs. -/
def prepared (scope : FrameId) (name : String) (exception : Thrown) : Eval Unit := do
  recordTrace scope exception
  Eval.assign scope name exception.value

/-- The block of a statement that is running when the statement ends, and the store in which that began; nothing if
the statement ends outside of its blocks. -/
def entered (engine : Engine) (scope : FrameId) : Statement → Store → Option (Block × Store)
  | .choose condition consequent alternative, store =>
    match evalExpr engine scope condition store with
    | .ok value after => some (if value.truthy then consequent else alternative, after)
    | .error _ _ => none
  | .loop condition body, store =>
    (enteredLoop (do return (← evalExpr engine scope condition).truthy) (execBlock engine scope body)
      engine.loopSteps store).map fun began => (body, began)
  | .switch subject cases fallback, store =>
    match evalExpr engine scope subject store with
    | .ok value after => enteredCase engine scope value fallback cases after
    | .error _ _ => none
  | .guard body caught handler, store =>
    match execBlock engine scope body store with
    | .error (.thrown exception) after =>
      match prepared scope caught exception after with
      | .ok _ began => some (handler, began)
      | .error _ _ => none
    | _ => some (body, store)
  | _, _ => none

/-- The line of the innermost statement of a block that a scope is executing when the block escapes: of the
statement that escapes, or of the innermost one in the block of it that is running then. -/
inductive Innermost (engine : Engine) (scope : FrameId) : Block → Store → Int → Prop where
  | later {line last : Int} {statement : Statement} {rest : Block} {store middle : Store}
      (done : execStatement engine scope statement store = .ok .normal middle)
      (innermost : Innermost engine scope rest middle last) :
      Innermost engine scope (⟨line, statement⟩ :: rest) store last
  | here {line : Int} {statement : Statement} {rest : Block} {store after : Store} {escape : Escape}
      (escapes : execStatement engine scope statement store = .error escape after)
      (outside : entered engine scope statement store = none) :
      Innermost engine scope (⟨line, statement⟩ :: rest) store line
  | inside {line last : Int} {statement : Statement} {rest block : Block} {store began after : Store}
      {escape : Escape} (escapes : execStatement engine scope statement store = .error escape after)
      (running : entered engine scope statement store = some (block, began))
      (innermost : Innermost engine scope block began last) :
      Innermost engine scope (⟨line, statement⟩ :: rest) store last

/-! ## How an escape is traced -/

/-- The escape keeps a trace: exceptions and failures do. -/
def Escape.keepsTrace : Escape → Bool
  | .thrown _ | .failure _ => true
  | .unreadable _ | .fault _ | .tooDeep | .outOfSteps => false

/-- The engine for some levels of nested calls. -/
def engineAt (loopSteps levels : Nat) : Engine :=
  ⟨runCode loopSteps levels, loopSteps⟩

/-- A block escapes in a frame with a trace, and a line is that of the innermost statement then. -/
structure StopsAt (loopSteps levels : Nat) (scope : FrameId) (block : Block) (store : Store) (escape : Escape)
    (after : Store) (line : Int) : Prop where
  inside : scope.index < store.frames.size
  grows : store.Extends after
  ends : execBlock (engineAt loopSteps levels) scope block store = .error escape after
  keeps : escape.keepsTrace = true
  innermost : Innermost (engineAt loopSteps levels) scope block store line

/-- A block escapes in a frame, and the escape has passed the frame once. If it came from the block, then it was
unmarked before that. If not, then it left a block in a frame that was opened meanwhile. -/
inductive Traced (loopSteps : Nat) : Nat → FrameId → Block → Store → Escape → Store → Prop where
  | raised {levels : Nat} {scope : FrameId} {block : Block} {store after : Store} {escape : Escape} {line : Int}
      (stops : StopsAt loopSteps levels scope block store escape after line)
      {fresh : Escape} (unmarked : fresh.marks = []) (same : escape = fresh.pass scope (after.entry scope line)) :
      Traced loopSteps levels scope block store escape after
  | passed {levels : Nat} {scope : FrameId} {block : Block} {store after : Store} {escape : Escape} {line : Int}
      (stops : StopsAt loopSteps levels scope block store escape after line)
      {levels' : Nat} {inner : FrameId} {body : Block} {start stop : Store} {escape' : Escape}
      (opened : store.frames.size ≤ inner.index) (before : store.Extends start)
      (traced : Traced loopSteps levels' inner body start escape' stop) (later : stop.Extends after)
      (same : escape = escape'.pass scope (after.entry scope line)) :
      Traced loopSteps levels scope block store escape after

section

variable {loopSteps levels : Nat} {scope : FrameId} {block : Block} {store after : Store} {escape : Escape}

theorem Escape.marks_of_not_keepsTrace (forgets : escape.keepsTrace = false) : escape.marks = [] := by
  cases escape with
  | thrown | failure => cases forgets
  | unreadable | fault | tooDeep | outOfSteps => rfl

theorem Trace.add_of_last {trace : Trace} {front : List Mark} {entry : TraceEntry}
    (marks : trace.marks = front ++ [⟨scope, entry⟩]) (other : TraceEntry) : trace.add scope other = trace := by
  have last : trace.last? = some scope := by
    rw [Trace.last?, marks, List.getLast?_concat]
    rfl
  rw [Trace.add, if_pos last]

theorem Trace.marks_add {trace : Trace} (last : trace.last? ≠ some scope) (entry : TraceEntry) :
    (trace.add scope entry).marks = trace.marks ++ [⟨scope, entry⟩] := by
  rw [Trace.add, if_neg last]

theorem Escape.keepsTrace_pass (entry : TraceEntry) : (escape.pass scope entry).keepsTrace = escape.keepsTrace := by
  cases escape <;> rfl

/-- A scope that added the last entry adds no other. -/
theorem Escape.pass_of_last {front : List Mark} {entry : TraceEntry} (marks : escape.marks = front ++ [⟨scope, entry⟩])
    (other : TraceEntry) : escape.pass scope other = escape := by
  cases escape with
  | thrown exception => rw [pass, Trace.add_of_last marks]
  | failure reason => rw [pass, Trace.add_of_last marks]
  | unreadable | fault | tooDeep | outOfSteps => rfl

theorem Escape.marks_pass (keeps : escape.keepsTrace = true) (entry : TraceEntry)
    (last : escape.marks.getLast?.map Mark.frame ≠ some scope) :
    (escape.pass scope entry).marks = escape.marks ++ [⟨scope, entry⟩] := by
  cases escape with
  | thrown exception => exact Trace.marks_add last entry
  | failure reason => exact Trace.marks_add last entry
  | unreadable | fault | tooDeep | outOfSteps => cases keeps

/-- An unmarked escape has only the mark of the scope that it passes. -/
theorem Escape.marks_pass_unmarked {entry : TraceEntry} (keeps : (escape.pass scope entry).keepsTrace = true)
    (unmarked : escape.marks = []) : (escape.pass scope entry).marks = [⟨scope, entry⟩] := by
  rw [Escape.keepsTrace_pass] at keeps
  rw [Escape.marks_pass keeps entry (by simp [unmarked]), unmarked, List.nil_append]

/-- An escape that left a frame that was opened later has one more mark when it passes a scope. -/
theorem Escape.marks_pass_outer {inner : FrameId} {front : List Mark} {last entry : TraceEntry}
    (keeps : escape.keepsTrace = true) (marks : escape.marks = front ++ [⟨inner, last⟩])
    (outer : scope.index < inner.index) : (escape.pass scope entry).marks = escape.marks ++ [⟨scope, entry⟩] := by
  refine Escape.marks_pass keeps entry ?_
  rw [marks, List.getLast?_concat]
  intro same
  cases same
  exact Nat.lt_irrefl _ outer

/-- The trace of an escape of a block ends with the entry of its frame. The entries before it are of frames that were
opened meanwhile, the later ones first. -/
theorem Traced.marks (traced : Traced loopSteps levels scope block store escape after) :
    ∃ front line, StopsAt loopSteps levels scope block store escape after line ∧
      escape.marks = front ++ [⟨scope, after.entry scope line⟩] ∧
      (∀ mark ∈ front, store.frames.size ≤ mark.frame.index) ∧
      front.Pairwise fun inner outer => outer.frame.index < inner.frame.index := by
  induction traced with
  | raised stops unmarked same =>
    subst same
    exact ⟨[], _, stops, Escape.marks_pass_unmarked stops.keeps unmarked, nofun, .nil⟩
  | passed stops opened before _ _ same ih =>
    subst same
    obtain ⟨front, last, inner, marks, since, nested⟩ := ih
    have outer := Nat.lt_of_lt_of_le stops.inside opened
    refine ⟨_, _, stops, Escape.marks_pass_outer inner.keeps marks outer, ?_, ?_⟩ <;> rw [marks]
    · rw [List.forall_mem_append, List.forall_mem_singleton]
      exact ⟨fun mark member => Nat.le_trans before.grows (since mark member), opened⟩
    · rw [List.pairwise_append]
      refine ⟨nested, List.pairwise_singleton _ _, fun mark member => ?_⟩
      rw [List.forall_mem_singleton]
      exact Nat.lt_of_lt_of_le inner.inside (since mark member)

/-- The entries of a trace are those of blocks that escaped meanwhile. -/
theorem Traced.left (traced : Traced loopSteps levels scope block store escape after) :
    ∀ mark ∈ escape.marks, ∃ levels block start escape stop line, store.Extends start ∧
      StopsAt loopSteps levels mark.frame block start escape stop line ∧ stop.Extends after ∧
      mark.entry = stop.entry mark.frame line := by
  induction traced with
  | @raised _ _ _ store after _ _ stops _ unmarked same =>
    subst same
    rw [Escape.marks_pass_unmarked stops.keeps unmarked, List.forall_mem_singleton]
    exact ⟨_, _, store, _, after, _, .refl store, stops, .refl after, rfl⟩
  | @passed _ _ _ store after _ _ stops _ _ _ _ _ _ opened before traced later same ih =>
    subst same
    obtain ⟨front, last, inner, marks, _⟩ := traced.marks
    have outer := Nat.lt_of_lt_of_le stops.inside opened
    rw [Escape.marks_pass_outer inner.keeps marks outer, List.forall_mem_append, List.forall_mem_singleton]
    refine ⟨fun mark member => ?_, _, _, store, _, after, _, .refl store, stops, .refl after, rfl⟩
    obtain ⟨levels, block, start, escape, stop, line, since, stops, ended, entry⟩ := ih mark member
    exact ⟨levels, block, start, escape, stop, line, before.trans since, stops, ended.trans later, entry⟩

/-- A trace of a part of a block is one of the block. -/
theorem Traced.widen (traced : Traced loopSteps levels scope block store escape after) {whole : Block}
    {began ended : Store} (before : began.Extends store) (later : after.Extends ended)
    (inside : scope.index < began.frames.size)
    (ends : execBlock (engineAt loopSteps levels) scope whole began = .error escape ended)
    (innermost : ∀ line, Innermost (engineAt loopSteps levels) scope block store line →
      Innermost (engineAt loopSteps levels) scope whole began line) :
    Traced loopSteps levels scope whole began escape ended := by
  have stopsAt {line : Int} (stops : StopsAt loopSteps levels scope block store escape after line) :
      StopsAt loopSteps levels scope whole began escape ended line :=
    ⟨inside, (before.trans stops.grows).trans later, ends, stops.keeps, innermost line stops.innermost⟩
  have entry {line : Int} (stops : StopsAt loopSteps levels scope block store escape after line) :
      after.entry scope line = ended.entry scope line :=
    (later.entry (Nat.lt_of_lt_of_le stops.inside stops.grows.grows) line).symm
  cases traced with
  | raised stops unmarked same => exact .raised (stopsAt stops) unmarked (entry stops ▸ same)
  | passed stops opened since traced ended same =>
    exact .passed (stopsAt stops) (Nat.le_trans before.grows opened) (before.trans since) traced (ended.trans later)
      (entry stops ▸ same)

end

/-- An escape is unmarked, or it left a block in a frame that a store has not yet, and no entry was added since. -/
def Told (loopSteps : Nat) (base : Store) (escape : Escape) (after : Store) : Prop :=
  escape.marks = [] ∨ ∃ levels inner body start stop, base.frames.size ≤ inner.index ∧ base.Extends start ∧
    Traced loopSteps levels inner body start escape stop ∧ stop.Extends after

variable {store after : Store} {block : Block} {escape : Escape}

section

variable {loopSteps levels : Nat} {base : Store}

theorem telling_told : Telling (Told loopSteps base) where
  unmarked _ _ unmarked := .inl unmarked
  later told grown := told.imp_right fun ⟨levels, inner, body, start, stop, opened, since, traced, later⟩ =>
    ⟨levels, inner, body, start, stop, opened, since, traced, later.trans grown⟩

theorem Told.mono {older : Store} (before : older.Extends base) (told : Told loopSteps base escape after) :
    Told loopSteps older escape after :=
  told.imp_right fun ⟨levels, inner, body, start, stop, opened, since, traced, later⟩ =>
    ⟨levels, inner, body, start, stop, Nat.le_trans before.grows opened, before.trans since, traced, later⟩

/-- A block in a frame is traced: if it escapes, then so that the escape is traced, if it keeps a trace. -/
def BlockTraced (loopSteps levels : Nat) (scope : FrameId) (block : Block) (store : Store) : Prop :=
  Reports (fun escape after => escape.keepsTrace = true → Traced loopSteps levels scope block store escape after)
    (fun _ => True) store (execBlock (engineAt loopSteps levels) scope block store)

theorem BlockTraced.told {inner : FrameId} (traced : BlockTraced loopSteps levels inner block store)
    (opened : base.frames.size ≤ inner.index) (since : base.Extends store) :
    Reports (Told loopSteps base) (fun _ => True) store (execBlock (engineAt loopSteps levels) inner block store) := by
  refine Reports.imp traced fun escape after traced => ?_
  cases keeps : escape.keepsTrace with
  | true => exact .inr ⟨levels, inner, block, store, after, opened, since, traced keeps, .refl after⟩
  | false => exact .inl (Escape.marks_of_not_keepsTrace keeps)

/-! ## Parts of trees -/

/-- The questions about expressions and the bodies of classes below a size, and how code runs, where blocks and code
run in frames that a store has not yet. -/
inductive AsksBelow (base : Store) (size : Nat) : FrameId → (α : Type) → (Parts → Eval α) → Prop where
  | expr {scope : FrameId} {expr : Expr} (small : sizeOf expr < size) :
      AsksBelow base size scope Value fun parts => parts.expr scope expr
  | body {inner : FrameId} {body : Block} (opened : base.frames.size ≤ inner.index) (small : sizeOf body < size) :
      AsksBelow base size inner Completion fun parts => parts.block inner body
  | run {inner : FrameId} {code : Code} (opened : base.frames.size ≤ inner.index) :
      AsksBelow base size inner Completion fun parts => parts.run inner code

theorem answers_asksBelow (base : Store) (size : Nat) :
    Answers (fun _ => True) (AsksBelow base size) (.passing base) (fun parts => parts) .none size where
  heredity := Conditions.hereditary_none
  literal _ _ := trivial
  run := ⟨fun _ _ opened _ => .run opened⟩
  load scope path _ _ := acts_load ⟨fun _ _ opened _ => .run opened⟩ rfl inherits_all.toAdmits scope (moduleName path)
  expr _ _ small _ := .ask (.expr small)
  body _ _ opened small _ := .ask (.body opened small)

/-- Expressions below a size tell of their escapes, and blocks below it are traced. -/
structure TreesTell (loopSteps levels size : Nat) : Prop where
  expr : ∀ base scope expr store, sizeOf expr < size → base.Extends store → scope.index < store.frames.size →
    Reports (Told loopSteps base) (fun _ => True) store (evalExpr (engineAt loopSteps levels) scope expr store)
  block : ∀ scope block store, sizeOf block < size → scope.index < store.frames.size →
    BlockTraced loopSteps levels scope block store

section

variable {size : Nat} (runs : ∀ base, RunnerReports (Told loopSteps base) base (runCode loopSteps levels))
  (trees : TreesTell loopSteps levels size) {scope : FrameId} {store : Store}

include runs trees

/-- What is made of parts below the size tells of its escapes. -/
theorem Acts.reports_parts {α : Type} {holds : α → Prop} {action : Parts → Eval α}
    (acts : Acts (fun _ => True) (AsksBelow base size) (.passing base) scope holds action) (since : base.Extends store)
    (inside : scope.index < store.frames.size) :
    Reports (Told loopSteps base) holds store (action (Parts.ofEngine (engineAt loopSteps levels)) store) := by
  refine acts.reports telling_told _ (fun scope α action question store since inside => ?_) since inside
  cases question with
  | expr small => exact trees.expr base scope _ store small since inside
  | body opened small => exact (trees.block scope _ store small inside).told opened since
  | run opened => exact runs base scope _ store opened since inside

theorem reports_expression {expr : Expr} (small : sizeOf expr ≤ size) (since : base.Extends store)
    (inside : scope.index < store.frames.size) :
    Reports (Told loopSteps base) (fun _ => True) store (evalExpr (engineAt loopSteps levels) scope expr store) := by
  rw [evalExpr_eq]
  exact (acts_expression (answers_asksBelow base size) small trivial).reports_parts runs trees since inside

/-! ## Statements -/

omit runs trees

/-- Where an escape of a statement comes from: from the block that was running, or from outside of blocks. -/
def Located (loopSteps levels : Nat) (scope : FrameId) (store : Store) (escape : Escape) (after : Store) :
    Option (Block × Store) → Prop
  | none => Told loopSteps store escape after
  | some (block, began) => store.Extends began ∧
      ∃ stop, Traced loopSteps levels scope block began escape stop ∧ stop.Extends after

theorem Located.before {older : Store} (before : older.Extends store) {running : Option (Block × Store)}
    (located : Located loopSteps levels scope store escape after running) :
    Located loopSteps levels scope older escape after running := by
  cases running with
  | none => exact Told.mono before located
  | some running => exact ⟨before.trans located.1, located.2⟩

/-- A run in a frame that ends with a block that may be running: an escape that keeps a trace is located. -/
def RunLocated {α : Type} (loopSteps levels : Nat) (scope : FrameId) (store : Store) (running : Option (Block × Store)) :
    EStateM.Result Escape Store α → Prop :=
  Reports (fun escape after => escape.keepsTrace = true →
    Located loopSteps levels scope store escape after running) (fun _ => True) store

theorem RunLocated.before {α : Type} {older : Store} (before : older.Extends store) {running : Option (Block × Store)}
    {result : EStateM.Result Escape Store α} (located : RunLocated loopSteps levels scope store running result) :
    RunLocated loopSteps levels scope older running result :=
  (Reports.after before located).imp fun _ _ here keeps => (here keeps).before before

theorem runLocated_of_told {α : Type} {result : EStateM.Result Escape Store α}
    (told : Reports (Told loopSteps store) (fun _ => True) store result) :
    RunLocated loopSteps levels scope store none result :=
  told.imp fun _ _ told _ => told

theorem BlockTraced.runLocated (traced : BlockTraced loopSteps levels scope block store) :
    RunLocated loopSteps levels scope store (some (block, store))
      (execBlock (engineAt loopSteps levels) scope block store) :=
  Reports.imp traced fun _ after traced keeps => ⟨.refl store, after, traced keeps, .refl after⟩

theorem runLocated_whileLoop {condition : Eval Bool} (asked : ∀ store, scope.index < store.frames.size →
      Reports (Told loopSteps store) (fun _ => True) store (condition store))
    (traced : ∀ store, scope.index < store.frames.size → BlockTraced loopSteps levels scope block store) (steps : Nat)
    (inside : scope.index < store.frames.size) :
    RunLocated loopSteps levels scope store
      ((enteredLoop condition (execBlock (engineAt loopSteps levels) scope block) steps store).map fun began =>
        (block, began))
      (whileLoop condition (execBlock (engineAt loopSteps levels) scope block) steps store) := by
  induction steps generalizing store with
  | zero => exact ⟨.refl store, nofun⟩
  | succ steps ih =>
    have told := asked store inside
    rw [enteredLoop, whileLoop, Eval.bind_apply]
    cases run : condition store with
    | error escape after =>
      rw [run] at told
      exact runLocated_of_told told
    | ok holds after =>
      rw [run] at told
      cases holds with
      | false => exact ⟨trivial, told.2⟩
      | true =>
        refine RunLocated.before told.2 ?_
        have inside := Nat.lt_of_lt_of_le inside told.2.grows
        have located := (traced after inside).runLocated
        simp only [if_true, Eval.bind_apply]
        cases ran : execBlock (engineAt loopSteps levels) scope block after with
        | error escape stop =>
          rw [ran] at located
          exact located
        | ok completion again =>
          rw [ran] at located
          cases completion with
          | normal => exact (ih (Nat.lt_of_lt_of_le inside located.2.grows)).before located.2
          | broken | returned => exact ⟨trivial, located.2⟩

theorem runLocated_execCases {subject : Value} {fallback : Block} {cases : List SwitchCase}
    (asked : ∀ case ∈ cases, ∀ store, scope.index < store.frames.size →
      Reports (Told loopSteps store) (fun _ => True) store
        (anySame (engineAt loopSteps levels) scope subject case.values store))
    (traced : ∀ case ∈ cases, ∀ store, scope.index < store.frames.size →
      BlockTraced loopSteps levels scope case.body store)
    (otherwise : ∀ store, scope.index < store.frames.size → BlockTraced loopSteps levels scope fallback store)
    (inside : scope.index < store.frames.size) :
    RunLocated loopSteps levels scope store (enteredCase (engineAt loopSteps levels) scope subject fallback cases store)
      ((do
        match ← execCases (engineAt loopSteps levels) scope subject cases with
        | some completion => return completion
        | none => execBlock (engineAt loopSteps levels) scope fallback : Eval Completion) store) := by
  induction cases generalizing store with
  | nil =>
    rw [execCases, enteredCase, pure_bind]
    exact (otherwise store inside).runLocated
  | cons case cases ih =>
    obtain ⟨values, body⟩ := case
    have told := asked _ (.head _) store inside
    rw [execCases, enteredCase, bind_assoc, Eval.bind_apply]
    cases run : anySame (engineAt loopSteps levels) scope subject values store with
    | error escape after =>
      rw [run] at told
      exact runLocated_of_told told
    | ok found after =>
      rw [run] at told
      refine RunLocated.before told.2 ?_
      have inside := Nat.lt_of_lt_of_le inside told.2.grows
      cases found with
      | false =>
        exact ih (fun case member => asked case (.tail _ member)) (fun case member => traced case (.tail _ member))
          inside
      | true =>
        have located := (traced _ (.head _) after inside).runLocated
        simp only [if_true, bind_assoc, pure_bind, bind_pure]
        exact located

theorem handle_eq (scope : FrameId) (name : String) (exception : Thrown) (handler : Eval Completion) :
    handle scope name exception handler = prepared scope name exception >>= fun _ => (do
      let completion ← tryCatch handler fun escape => do
        match escape with
        | .thrown _ => Eval.delete scope name
        | _ => pure ()
        throw escape
      Eval.delete scope name
      return completion) := by
  rw [prepared, bind_assoc]
  rfl

theorem runLocated_handle (name : String) (exception : Thrown) {handler : Block}
    (traced : ∀ store, scope.index < store.frames.size → BlockTraced loopSteps levels scope handler store)
    (inside : scope.index < store.frames.size) :
    RunLocated loopSteps levels scope store
      (match prepared scope name exception store with
        | .ok _ began => some (handler, began)
        | .error _ _ => none)
      (handle scope name exception (execBlock (engineAt loopSteps levels) scope handler) store) := by
  have acts : Does (fun _ => True) (fun _ _ _ => False) (.passing store) scope fun _ : Unit =>
      prepared scope name exception := (acts_recordTrace exception).bind fun _ _ => acts_assign name _
  have told : Reports (Told loopSteps store) (fun _ => True) store (prepared scope name exception store) :=
    acts.reports telling_told () nofun (.refl store) inside
  rw [handle_eq, Eval.bind_apply]
  cases run : prepared scope name exception store with
  | error escape after =>
    rw [run] at told
    exact runLocated_of_told told
  | ok _ began =>
    rw [run] at told
    refine RunLocated.before told.2 ?_
    have deleted (store : Store) : store.Extends (store.delete scope name) :=
      (Change.delete name : Change (fun _ => True) .free scope store _).extends
    have located := (traced began (Nat.lt_of_lt_of_le inside told.2.grows)).runLocated
    dsimp only
    rw [Eval.bind_apply, Eval.tryCatch_apply]
    cases ran : execBlock (engineAt loopSteps levels) scope handler began with
    | ok completion stop =>
      rw [ran] at located
      exact ⟨trivial, located.2.trans (deleted stop)⟩
    | error escape stop =>
      rw [ran] at located
      cases escape with
      | thrown exception =>
        refine ⟨located.1.trans (deleted stop), fun keeps => ?_⟩
        obtain ⟨before, stop, traced, later⟩ := located.2 keeps
        exact ⟨before, stop, traced, later.trans (deleted _)⟩
      | failure | unreadable | fault | tooDeep | outOfSteps => exact located

theorem runLocated_guard {body handler : Block} (caught : String)
    (traced : ∀ store, scope.index < store.frames.size → BlockTraced loopSteps levels scope body store)
    (handled : ∀ store, scope.index < store.frames.size → BlockTraced loopSteps levels scope handler store)
    (inside : scope.index < store.frames.size) :
    RunLocated loopSteps levels scope store
      (entered (engineAt loopSteps levels) scope (.guard body caught handler) store)
      (execStatement (engineAt loopSteps levels) scope (.guard body caught handler) store) := by
  have located := (traced store inside).runLocated
  rw [execStatement, guarded, Eval.tryCatch_apply, entered]
  cases run : execBlock (engineAt loopSteps levels) scope body store with
  | ok completion after =>
    rw [run] at located
    exact located
  | error escape after =>
    rw [run] at located
    cases escape with
    | thrown exception =>
      have inside := Nat.lt_of_lt_of_le inside located.1.grows
      exact (runLocated_handle caught exception handled inside).before located.1
    | failure | unreadable | fault | tooDeep | outOfSteps => exact located

include runs trees

/-- A statement without blocks tells of its escapes. -/
theorem reports_plainStatement {statement : Statement} (plain : statement.isPlain = true)
    (small : sizeOf statement ≤ size) (inside : scope.index < store.frames.size) :
    Reports (Told loopSteps store) (fun _ => True) store
      (execStatement (engineAt loopSteps levels) scope statement store) := by
  have allows : (Manner.passing store).Allows statement := by
    refine ⟨?_, fun _ _ _ _ => rfl⟩
    rintro body caught handler rfl
    cases plain
  have acts : Does _ _ _ scope _ :=
    acts_plainStatement (answers_asksBelow store size) loopSteps plain small trivial allows
  rw [execStatement_eq]
  exact acts.reports_parts runs trees (.refl store) inside

/-- An escape of a statement is located. -/
theorem runLocated_statement {statement : Statement} (small : sizeOf statement ≤ size)
    (inside : scope.index < store.frames.size) :
    RunLocated loopSteps levels scope store (entered (engineAt loopSteps levels) scope statement store)
      (execStatement (engineAt loopSteps levels) scope statement store) := by
  have part (expr : Expr) (below : sizeOf expr < size) (store : Store) (inside : scope.index < store.frames.size) :=
    trees.expr store scope expr store below (.refl store) inside
  have block (block : Block) (below : sizeOf block < size) (store : Store) (inside : scope.index < store.frames.size) :=
    trees.block scope block store below inside
  cases statement with
  | choose condition consequent alternative =>
    simp only [Statement.choose.sizeOf_spec] at small
    have told := part condition (by omega) store inside
    rw [execStatement, entered, Eval.bind_apply]
    cases run : evalExpr (engineAt loopSteps levels) scope condition store with
    | error escape after =>
      rw [run] at told
      exact runLocated_of_told told
    | ok value after =>
      rw [run] at told
      refine RunLocated.before told.2 ?_
      have inside := Nat.lt_of_lt_of_le inside told.2.grows
      dsimp only
      cases value.truthy with
      | true => exact (block consequent (by omega) after inside).runLocated
      | false => exact (block alternative (by omega) after inside).runLocated
  | loop condition body =>
    simp only [Statement.loop.sizeOf_spec] at small
    rw [execStatement, entered]
    refine runLocated_whileLoop (fun store inside => ?_) (block body (by omega)) _ inside
    exact (part condition (by omega) store inside).bind fun _ after _ _ => ⟨trivial, .refl after⟩
  | switch subject cases fallback =>
    simp only [Statement.switch.sizeOf_spec] at small
    have told := part subject (by omega) store inside
    rw [execStatement, entered, Eval.bind_apply]
    cases run : evalExpr (engineAt loopSteps levels) scope subject store with
    | error escape after =>
      rw [run] at told
      exact runLocated_of_told told
    | ok value after =>
      rw [run] at told
      refine RunLocated.before told.2 ?_
      have below (case : SwitchCase) (member : case ∈ cases) :
          sizeOf case.values < size ∧ sizeOf case.body < size := by
        have := List.sizeOf_lt_of_mem member
        obtain ⟨values, body⟩ := case
        simp only [SwitchCase.mk.sizeOf_spec] at this
        dsimp only
        omega
      refine runLocated_execCases (fun case member store inside => ?_)
        (fun case member => block case.body (below case member).2) (block fallback (by omega))
        (Nat.lt_of_lt_of_le inside told.2.grows)
      rw [anySame_eq]
      exact (acts_anySame (answers_asksBelow store size) value (Nat.le_of_lt (below case member).1)
        fun _ _ => trivial).reports_parts runs trees (.refl store) inside
  | guard body caught handler =>
    simp only [Statement.guard.sizeOf_spec] at small
    exact runLocated_guard caught (block body (by omega)) (block handler (by omega)) inside
  | expression | assign | «nonlocal» | setProperty | «return» | throw | «break» | importModule =>
    exact runLocated_of_told (reports_plainStatement runs trees rfl small inside)

/-! ## Blocks -/

omit runs trees

theorem execBlock_cons (engine : Engine) (scope : FrameId) (line : Int) (statement : Statement) (rest : Block)
    (store : Store) :
    execBlock engine scope (⟨line, statement⟩ :: rest) store = match execStatement engine scope statement store with
      | .ok .normal middle => execBlock engine scope rest middle
      | .ok completion after => .ok completion after
      | .error escape after => .error (escape.pass scope (after.entry scope line)) after := by
  rw [execBlock, Eval.bind_apply, Eval.passing_apply]
  cases execStatement engine scope statement store with
  | error escape after => rfl
  | ok completion after => cases completion <;> rfl

/-- An escape from outside of blocks is traced once it has passed the scope. -/
theorem Told.traced_pass {line : Int} (told : Told loopSteps store escape after)
    (stops : StopsAt loopSteps levels scope block store (escape.pass scope (after.entry scope line)) after line) :
    Traced loopSteps levels scope block store (escape.pass scope (after.entry scope line)) after := by
  rcases told with unmarked | ⟨levels', inner, body, start, stop, opened, since, traced, later⟩
  · exact .raised stops unmarked rfl
  · exact .passed stops opened since traced later rfl

/-- An escape of a statement is traced in a block that begins with the statement. -/
theorem Located.traced {line : Int} {statement : Statement} {rest : Block}
    (located : Located loopSteps levels scope store escape after
      (entered (engineAt loopSteps levels) scope statement store))
    (keeps : escape.keepsTrace = true) (inside : scope.index < store.frames.size) (grows : store.Extends after)
    (escapes : execStatement (engineAt loopSteps levels) scope statement store = .error escape after) :
    Traced loopSteps levels scope (⟨line, statement⟩ :: rest) store
      (escape.pass scope (after.entry scope line)) after := by
  have ends : execBlock (engineAt loopSteps levels) scope (⟨line, statement⟩ :: rest) store =
      .error (escape.pass scope (after.entry scope line)) after := by rw [execBlock_cons, escapes]
  cases running : entered (engineAt loopSteps levels) scope statement store with
  | none =>
    rw [running] at located
    rw [← Escape.keepsTrace_pass] at keeps
    exact Told.traced_pass located ⟨inside, grows, ends, keeps, .here escapes running⟩
  | some running' =>
    obtain ⟨block, began⟩ := running'
    rw [running] at located
    obtain ⟨before, stop, traced, later⟩ := located
    -- The scope has added its entry in the block that was running, and adds no other.
    obtain ⟨front, last, _, marks, _⟩ := traced.marks
    rw [Escape.pass_of_last marks] at ends ⊢
    exact traced.widen before later inside ends fun line innermost => .inside escapes running innermost

include runs trees

/-- Blocks are traced, if smaller ones are. -/
theorem blockTraced (small : sizeOf block ≤ size) (inside : scope.index < store.frames.size) :
    BlockTraced loopSteps levels scope block store := by
  induction block generalizing store with
  | nil => exact ⟨trivial, .refl store⟩
  | cons numbered rest ih =>
    obtain ⟨line, statement⟩ := numbered
    simp only [List.cons.sizeOf_spec, NumberedStatement.mk.sizeOf_spec] at small
    have located : RunLocated loopSteps levels scope store _ _ :=
      runLocated_statement runs trees (by omega : sizeOf statement ≤ size) inside
    have unfolded := execBlock_cons (engineAt loopSteps levels) scope line statement rest store
    rw [BlockTraced, unfolded]
    cases run : execStatement (engineAt loopSteps levels) scope statement store with
    | error escape after =>
      rw [run] at located
      refine ⟨located.1, fun keeps => ?_⟩
      rw [Escape.keepsTrace_pass] at keeps
      exact (located.2 keeps).traced keeps inside located.1 run
    | ok completion middle =>
      rw [run] at located
      cases completion with
      | broken | returned => exact ⟨trivial, located.2⟩
      | normal =>
        have later : BlockTraced loopSteps levels scope rest middle :=
          ih (by omega) (Nat.lt_of_lt_of_le inside located.2.grows)
        refine Reports.after located.2 ?_
        rw [run] at unfolded
        rw [BlockTraced] at later
        dsimp only at unfolded ⊢
        cases ran : execBlock (engineAt loopSteps levels) scope rest middle with
        | ok completion after =>
          rw [ran] at later
          exact later
        | error escape after =>
          rw [ran] at later
          refine ⟨later.1, fun keeps => ?_⟩
          exact (later.2 keeps).widen located.2 (.refl after) inside (unfolded.trans ran) fun _ innermost =>
            .later run innermost

omit trees

theorem treesTell (size : Nat) : TreesTell loopSteps levels size := by
  induction size with
  | zero => exact ⟨nofun, nofun⟩
  | succ size ih =>
    exact ⟨fun _ _ _ _ small since inside => reports_expression runs ih (Nat.le_of_lt_succ small) since inside,
      fun _ _ _ small inside => blockTraced runs ih (Nat.le_of_lt_succ small) inside⟩

end

/-- Code on every level tells of its escapes. -/
theorem runnerReports_runCode (levels : Nat) (base : Store) :
    RunnerReports (Told loopSteps base) base (runCode loopSteps levels) := by
  induction levels generalizing base with
  | zero => exact fun _ _ store _ _ _ => ⟨.refl store, .inl rfl⟩
  | succ levels ih =>
    intro inner code store opened since inside
    cases code with
    | block body => exact ((treesTell ih (sizeOf body + 1)).block inner body store (Nat.lt_succ_self _) inside).told opened since
    | native native =>
      have told : Reports (Told loopSteps base) (fun _ => True) store _ :=
        reports_native telling_told (ih base) loopSteps native since inside
      exact told.bind fun _ after _ _ => ⟨trivial, .refl after⟩

/-- An escape of a block in a frame is traced, if it keeps a trace. -/
theorem traced_execBlock (loopSteps levels : Nat) {scope : FrameId} (inside : scope.index < store.frames.size)
    (escapes : execBlock (engineAt loopSteps levels) scope block store = .error escape after)
    (keeps : escape.keepsTrace = true) : Traced loopSteps levels scope block store escape after := by
  have trees : TreesTell loopSteps levels (sizeOf block + 1) := treesTell (runnerReports_runCode levels) _
  have traced := trees.block scope block store (Nat.lt_succ_self _) inside
  rw [BlockTraced, escapes] at traced
  exact traced.2 keeps

end

/-! ## Entries -/

/-- The trimmed text of a line of a source text, counted from one; the empty text if there is none. -/
def trimmedLine (source : String) (number : Int) : String :=
  if 1 ≤ number then
    ((Text.splitLines source.toList)[(number - 1).toNat]?).elim "" fun row => String.ofList (Text.trim row)
  else ""

theorem Origin.row_eq {origin : Origin} {source : String} (rows : origin.rows = Origin.rowsOf source) (number : Int) :
    origin.row number = trimmedLine source number := by
  rw [Origin.row, trimmedLine, rows, Origin.rowsOf, List.getElem?_map]
  cases (Text.splitLines source.toList)[(number - 1).toNat]? <;> rfl

/-- The rows of each frame are the trimmed lines of a source text. -/
def Store.Sourced (store : Store) : Prop :=
  ∀ id, ∃ source, (store.frame id).origin.rows = Origin.rowsOf source

theorem NewFrame.sourced {manner : Manner} {frame : Frame} (new : NewFrame manner store frame) (sourced : store.Sourced)
    : (store.addFrame frame).2.Sourced := by
  intro id
  by_cases added : id = ⟨store.frames.size⟩
  · rw [added, Store.frame_added]
    cases new with
    | child parent bindings => exact sourced parent
    | root loads file source importing bindings sound => exact ⟨source, rfl⟩
  · rw [Store.frame_addFrame_of_ne added]
    exact sourced id

theorem Arises.sourced {fits : Code → Prop} (arises : Arises fits store) : store.Sourced := by
  induction arises with
  | initial => exact fun id => ⟨"", rfl⟩
  | change _ change ih =>
    intro id
    rw [change.origin id]
    exact ih id
  | frame _ new ih => exact new.sourced ih

/-- A mark shows a line: it has the file of its frame, the line, and the trimmed text of the line in the source that
the frame is for. -/
def Mark.Shows (mark : Mark) (store : Store) (line : Int) : Prop :=
  ∃ source, (store.frame mark.frame).origin.rows = Origin.rowsOf source ∧
    mark.entry = ⟨(store.frame mark.frame).origin.file, line, trimmedLine source line⟩

theorem Store.Sourced.shows (sourced : store.Sourced) {mark : Mark} {line : Int}
    (entry : mark.entry = store.entry mark.frame line) : mark.Shows store line := by
  obtain ⟨source, rows⟩ := sourced mark.frame
  refine ⟨source, rows, ?_⟩
  rw [entry, Store.entry, Origin.entry, Origin.row_eq rows]

/-! ## Programs -/

theorem Eval.of_newRoot {file : String} {rows : List String} {importing : Bool} {root : FrameId}
    (run : Eval.newRoot file rows importing store = .ok root after) :
    root.index < after.frames.size ∧ (after.frame root).origin.file = file ∧ (after.frame root).origin.rows = rows := by
  obtain ⟨classClass, _, _, run⟩ := Eval.of_bind_ok run
  obtain ⟨ordinary, _, _, run⟩ := Eval.of_bind_ok run
  obtain ⟨globals, _, _, run⟩ := Eval.of_bind_ok run
  obtain ⟨_, last, _, run⟩ := Eval.of_bind_ok run
  cases run
  simp [Store.frame]

namespace Interpreter

theorem of_attempt_error {runner : Runner} {root : FrameId} {limit : Int} {program : Block} {exception : Thrown}
    (run : attempt runner root limit program store = .ok (.error exception) after) :
    runner root (.block program) store = .error (.thrown exception) after := by
  rw [attempt, Eval.tryCatch_apply, Eval.bind_apply] at run
  cases ran : runner root (.block program) store with
  | ok completion after => simp only [ran] at run; cases run
  | error escape after =>
    simp only [ran] at run
    cases escape with
    | thrown exception =>
      cases run
      rfl
    | failure | unreadable | fault | tooDeep | outOfSteps => cases run

theorem of_report {runner : Runner} {root : FrameId} {exception : Thrown} {uncaught : Uncaught}
    (run : report runner root exception store = .ok uncaught after) : uncaught.exception = exception := by
  obtain ⟨description, _, _, run⟩ := Eval.of_bind_ok run
  obtain ⟨_, _, _, run⟩ := Eval.of_bind_ok run
  cases run
  rfl

/-- An exception that no program caught has left the block of the program, in the root frame of its source. -/
theorem of_run_uncaught {source file : String} {uncaught : Uncaught} (arises : Arises (fun _ => True) store)
    (run : Interpreter.run source file store = .ok (.error uncaught) after) :
    ∃ program root began levels stop, Module.programIn? source file = some program ∧ Arises (fun _ => True) began ∧
      root.index < began.frames.size ∧ (began.frame root).origin.file = file ∧
      (began.frame root).origin.rows = Origin.rowsOf source ∧
      execBlock (engineAt loopSteps levels) root program began = .error (.thrown uncaught.exception) stop := by
  obtain ⟨program, read, parsed, run⟩ := Eval.of_bind_ok run
  obtain ⟨root, opened, rooted, run⟩ := Eval.of_bind_ok run
  obtain ⟨_, began, noted, run⟩ := Eval.of_bind_ok run
  obtain ⟨inside, named, rows⟩ := Eval.of_newRoot rooted
  have arises : Arises (fun _ => True) began := by
    have acts : Does (fun _ => True) (fun _ _ _ => False) .free ⟨0⟩ fun _ : Unit => (do
        let _ ← Module.parse source file
        let _ ← Eval.newRoot file (Origin.rowsOf source) true
        Eval.note (.running file)) :=
      (acts_parse source file).bind fun _ _ => acts_newRoot rfl (fun _ => trivial) _ _ _ fun _ _ => acts_note _
    have silent : AsksFollow (.arising fun _ => True) (fun _ _ _ => False) () := nofun
    have followed := acts.follows silent arises
    rw [Eval.bind_ok parsed, Eval.bind_ok rooted, noted] at followed
    exact followed.2.1
  cases noted
  rw [Eval.get_bind_apply] at run
  dsimp only at run
  split at run
  · cases run
  · obtain ⟨ended, stop, ran, run⟩ := Eval.of_bind_ok run
    cases ended with
    | ok completion => cases run
    | error exception =>
      obtain ⟨reported, _, report, run⟩ := Eval.of_bind_ok run
      cases run
      obtain ⟨levels, found⟩ := callLevels_eq_succ opened.settings.recursionLimit
      have escapes := of_attempt_error ran
      refine ⟨program, root, _, levels, stop, Module.parse_ok parsed, arises, inside, named, rows, ?_⟩
      rw [of_report report]
      rw [engineFor, found] at escapes
      exact escapes

end Interpreter

/-- The trace of an escape of a block lists the scopes once: it ends with a mark for the frame of the block, which shows
the line of the innermost statement. The marks before it are for frames that were opened meanwhile, the inner ones
first, and each shows the line of the innermost statement of a block that escaped in its frame. -/
structure ListsScopesOnce (loopSteps levels : Nat) (scope : FrameId) (block : Block) (store : Store) (escape : Escape)
    (after : Store) (front : List Mark) (last : Mark) (line : Int) : Prop where
  traced : Traced loopSteps levels scope block store escape after
  marks : escape.marks = front ++ [last]
  frame : last.frame = scope
  innermost : Innermost (engineAt loopSteps levels) scope block store line
  shows : last.Shows after line
  nested : escape.marks.Pairwise fun inner outer => outer.frame.index < inner.frame.index
  opened : ∀ mark ∈ front, store.frames.size ≤ mark.frame.index ∧ mark.frame.index < after.frames.size
  left : ∀ mark ∈ front, ∃ levels block start escape stop line, store.Extends start ∧
    StopsAt loopSteps levels mark.frame block start escape stop line ∧ stop.Extends after ∧ mark.Shows after line

theorem Traced.listsScopesOnce {loopSteps levels : Nat} {scope : FrameId}
    (traced : Traced loopSteps levels scope block store escape after) (sourced : after.Sourced) :
    ∃ front last line, ListsScopesOnce loopSteps levels scope block store escape after front last line := by
  obtain ⟨front, line, stops, marks, opened, nested⟩ := traced.marks
  have left : ∀ mark ∈ front, mark.frame.index < after.frames.size ∧
      ∃ levels block start escape stop line, store.Extends start ∧
        StopsAt loopSteps levels mark.frame block start escape stop line ∧ stop.Extends after ∧
        mark.Shows after line := by
    intro mark member
    have listed : mark ∈ escape.marks := by
      rw [marks]
      exact List.mem_append_left _ member
    obtain ⟨levels, block, start, escape, stop, line, since, stops, later, entry⟩ := traced.left mark listed
    have inside := Nat.lt_of_lt_of_le stops.inside stops.grows.grows
    refine ⟨Nat.lt_of_lt_of_le inside later.grows, levels, block, start, escape, stop, line, since, stops, later, ?_⟩
    exact sourced.shows (entry.trans (later.entry inside line).symm)
  have outermost : escape.marks.Pairwise fun inner outer => outer.frame.index < inner.frame.index := by
    rw [marks, List.pairwise_append]
    refine ⟨nested, List.pairwise_singleton _ _, fun mark member => ?_⟩
    rw [List.forall_mem_singleton]
    exact Nat.lt_of_lt_of_le stops.inside (opened mark member)
  exact ⟨front, ⟨scope, _⟩, line, traced, marks, rfl, stops.innermost, sourced.shows rfl, outermost,
    fun mark member => ⟨opened mark member, (left mark member).1⟩, fun mark member => (left mark member).2⟩

theorem listsScopesOnce_execBlock (arises : Arises (fun _ => True) store) {loopSteps levels : Nat} {scope : FrameId}
    (inside : scope.index < store.frames.size)
    (escapes : execBlock (engineAt loopSteps levels) scope block store = .error escape after)
    (keeps : escape.keepsTrace = true) :
    ∃ front last line, ListsScopesOnce loopSteps levels scope block store escape after front last line := by
  have followed := arises.execBlock loopSteps levels scope block
  rw [← engineAt, escapes] at followed
  exact (traced_execBlock loopSteps levels inside escapes keeps).listsScopesOnce (Arises.sourced followed.1)

/-- The exception that nothing caught in the run of a program, if there is one. -/
def Interpreter.uncaught? (source file : String) (store : Store) : Option Uncaught :=
  match run source file store with
  | .ok (.error uncaught) _ => some uncaught
  | _ => none

theorem Interpreter.run_of_uncaught? {source file : String} {uncaught : Uncaught}
    (found : uncaught? source file store = some uncaught) :
    ∃ ended, run source file store = .ok (.error uncaught) ended := by
  rw [uncaught?] at found
  split at found
  · next ended run =>
      cases found
      exact ⟨ended, run⟩
  · cases found

/-- Traces list the scopes once, the innermost first. So do the traces of exceptions and of failures, for every block
in every frame, in the stores that come up in the course of programs; and so does the trace of an exception that a
program did not catch, from the innermost scope up to the root frame of the program. -/
theorem traces_list_scopes_once {store : Store} (arises : Arises (fun _ => True) store) :
    (∀ loopSteps levels scope block escape after, scope.index < store.frames.size →
      execBlock (engineAt loopSteps levels) scope block store = .error escape after → escape.keepsTrace = true →
      ∃ front last line, ListsScopesOnce loopSteps levels scope block store escape after front last line) ∧
    ∀ source file uncaught ended, Interpreter.run source file store = .ok (.error uncaught) ended →
      ∃ program root began levels after front last line, Module.programIn? source file = some program ∧
        (began.frame root).origin.file = file ∧ (began.frame root).origin.rows = Origin.rowsOf source ∧
        ListsScopesOnce loopSteps levels root program began (.thrown uncaught.exception) after front last line := by
  refine ⟨fun loopSteps levels scope block escape after inside escapes keeps =>
    listsScopesOnce_execBlock arises inside escapes keeps, fun source file uncaught ended run => ?_⟩
  obtain ⟨program, root, began, levels, after, read, arises, inside, named, rows, escapes⟩ :=
    Interpreter.of_run_uncaught arises run
  obtain ⟨front, last, line, lists⟩ := listsScopesOnce_execBlock arises inside escapes rfl
  exact ⟨program, root, began, levels, after, front, last, line, read, named, rows, lists⟩

/-- An exception is thrown from a branch in a function: the function has one entry, with the line of the branch, and the
program has one. -/
theorem traces_list_scopes_once_in_branch :
    let source := "def f():\n if true:\n  throw 1\n end\nend\nf()"
    let store : Store := .initial .default ⟨[], []⟩ [] 0
    Arises (fun _ => True) store ∧ ∃ uncaught ended, Interpreter.run source "main.toy" store = .ok (.error uncaught) ended ∧
      uncaught.exception.trace.entries = [⟨"main.toy", 3, "throw 1"⟩, ⟨"main.toy", 6, "f()"⟩] ∧
      ∃ program root began levels after front last line,
        Arises (fun _ => True) began ∧ root.index < began.frames.size ∧
        execBlock (engineAt loopSteps levels) root program began = .error (.thrown uncaught.exception) after ∧
        ListsScopesOnce loopSteps levels root program began (.thrown uncaught.exception) after front last line := by
  intro source store
  have facts : (Interpreter.uncaught? source "main.toy" store).map (·.exception.trace.entries) =
      some [⟨"main.toy", 3, "throw 1"⟩, ⟨"main.toy", 6, "f()"⟩] := by decide +kernel
  have initial : Arises (fun _ => True) store := .initial _ _ _ _
  refine ⟨initial, ?_⟩
  clear_value store
  obtain ⟨uncaught, found, entries⟩ := Option.map_eq_some_iff.mp facts
  obtain ⟨ended, run⟩ := Interpreter.run_of_uncaught? found
  obtain ⟨program, root, began, levels, after, _, arises, inside, _, _, escapes⟩ :=
    Interpreter.of_run_uncaught initial run
  obtain ⟨front, last, line, lists⟩ := (traces_list_scopes_once arises).1 _ _ _ _ _ _ inside escapes rfl
  exact ⟨uncaught, ended, run, entries, program, root, began, levels, after, front, last, line, arises, inside, escapes,
    lists⟩

end LineScript
