import LineScript.Proofs.Eval.Traces
import LineScript.Proofs.Eval.Withdrawal
import LineScript.Session

/-!
# The names of handlers

A handler starts with its name bound to the thrown value, in the frame of the statement, and all other bindings are
then as they were when the value was thrown (`prepared_apply`). If the handler ends, or throws in turn, its name is
unbound after it, whatever it did to the name. If it fails otherwise, nothing ends the binding, and code that runs in
the frame later still sees it (`handler_name_outlives_failure`).

Before the handler starts, the trace of the exception is copied into the thrown value. That needs the class of plain
objects; where there is none, the statement can fail before its handler starts.
-/

set_option autoImplicit false

namespace LineScript

/-! ## The start of a handler -/

section

variable {scope : FrameId}

theorem traceCell?_apply (value : Value) (store : Store) : ∃ found, traceCell? value store = .ok found store := by
  cases value with
  | null | number | text | boolean => exact ⟨none, rfl⟩
  | «instance» id =>
    rw [traceCell?, Eval.instanceAt, bind_assoc, Eval.get_bind_apply, pure_bind]
    cases (store.object id).properties.get? "stackTraceElements" with
    | none => exact ⟨none, rfl⟩
    | some kept =>
      cases kept with
      | null | number | text | boolean => exact ⟨none, rfl⟩
      | «instance» elements =>
        dsimp only
        rw [Eval.instanceAt, bind_assoc, Eval.get_bind_apply, pure_bind]
        cases (store.object elements).payload <;> exact ⟨_, rfl⟩

theorem newElement_of_found {store : Store} {cls : InstanceId} (found : store.builtinClass? scope "Object" = some cls)
    (entry : TraceEntry) : ∃ element after, newElement scope entry store = .ok element after ∧
      after.frames = store.frames := by
  rw [newElement, Eval.builtinClass, bind_assoc, Eval.get_bind_apply, found]
  exact ⟨_, _, rfl, rfl⟩

theorem newElement_of_missing {store : Store} (missing : store.builtinClass? scope "Object" = none)
    (entry : TraceEntry) : newElement scope entry store = .error (.ofCause (.notDefined "Object")) store := by
  rw [newElement, Eval.builtinClass, bind_assoc, Eval.get_bind_apply, missing]
  rfl

/-- The elements of a trace are instances of one class. The frames stay as they are, so the class is found for the
other elements if it is found for the first. -/
theorem recordEntries_apply {store : Store} {cls : InstanceId} (found : store.builtinClass? scope "Object" = some cls)
    (cell : CellId) (entries : List TraceEntry) :
    ∃ after, recordEntries scope cell entries store = .ok () after ∧ after.frames = store.frames := by
  induction entries generalizing store with
  | nil => exact ⟨store, rfl, rfl⟩
  | cons entry entries ih =>
    obtain ⟨element, made, run, same⟩ := newElement_of_found found entry
    let pushed := made.modifyCell cell fun items => items.push element
    have still : pushed.builtinClass? scope "Object" = some cls := by
      rw [Store.builtinClass?, Store.frame_congr (show pushed.frames = store.frames from same)]
      exact found
    obtain ⟨after, rest, later⟩ := ih still
    refine ⟨after, ?_, later.trans same⟩
    rw [recordEntries, Eval.bind_ok run]
    exact rest

theorem recordTrace_apply (scope : FrameId) (exception : Thrown) (store : Store) :
    (∃ after, recordTrace scope exception store = .ok () after ∧ after.frames = store.frames) ∨
      store.builtinClass? scope "Object" = none ∧
        recordTrace scope exception store = .error (.ofCause (.notDefined "Object")) store := by
  obtain ⟨found, run⟩ := traceCell?_apply exception.value store
  rw [recordTrace, Eval.bind_ok run]
  cases found with
  | none => exact .inl ⟨store, rfl, rfl⟩
  | some cell =>
    cases found : store.builtinClass? scope "Object" with
    | some cls => exact .inl (recordEntries_apply found cell _)
    | none =>
      cases exception.trace.entries with
      | nil => exact .inl ⟨store, rfl, rfl⟩
      | cons entry entries =>
        refine .inr ⟨rfl, ?_⟩
        dsimp only
        rw [recordEntries, Eval.bind_apply, newElement_of_missing found]

/-- A handler starts with its name bound to the thrown value, unless the trace cannot be copied. -/
theorem prepared_apply (name : String) (exception : Thrown) {store : Store} (inside : scope.index < store.frames.size) :
    (∃ start, prepared scope name exception store = .ok () start ∧
      store.Rebinds scope name (some exception.value) start) ∨
      store.builtinClass? scope "Object" = none ∧
        prepared scope name exception store = .error (.ofCause (.notDefined "Object")) store := by
  rw [prepared, Eval.bind_apply]
  rcases recordTrace_apply scope exception store with ⟨recorded, run, same⟩ | ⟨missing, run⟩
  · rw [run]
    refine .inl ⟨recorded.assign scope name exception.value, rfl, fun id other => ?_⟩
    have kept : recorded.ownBinding? id other = store.ownBinding? id other := by
      rw [Store.ownBinding?, Store.frame_congr same, Store.ownBinding?]
    rw [Store.rebinds_assign (by rwa [same]), kept]
  · rw [run]
    exact .inr ⟨missing, rfl⟩

theorem Arises.prepared {store : Store} (arises : Arises (fun _ => True) store) (scope : FrameId) (name : String)
    (exception : Thrown) :
    Followed (.arising fun _ => True) scope store (fun _ => True) (LineScript.prepared scope name exception store) := by
  have acts : Does (fun _ => True) (fun _ _ _ => False) .free scope fun _ : Unit =>
      LineScript.prepared scope name exception := (acts_recordTrace exception).bind fun _ _ => acts_assign name _
  have silent : AsksFollow (.arising fun _ => True) (fun _ _ _ => False) () := nofun
  exact acts.follows silent arises

end

/-! ## The end of a handler -/

/-- The result of a statement whose handler has run. If the handler ended or threw, its name is unbound; any other
escape goes on with the store as it is. -/
def released (scope : FrameId) (name : String) :
    EStateM.Result Escape Store Completion → EStateM.Result Escape Store Completion
  | .ok completion ended => .ok completion (ended.delete scope name)
  | .error (.thrown other) ended => .error (.thrown other) (ended.delete scope name)
  | .error escape ended => .error escape ended

theorem released_of_other {scope : FrameId} {name : String} {escape : Escape} (other : escape.isException = false)
    (ended : Store) : released scope name (.error escape ended) = .error escape ended := by
  cases escape with
  | thrown exception => cases other
  | failure | unreadable | fault | tooDeep | outOfSteps => rfl

theorem handle_apply {scope : FrameId} {name : String} {exception : Thrown} {store start : Store}
    (prepares : prepared scope name exception store = .ok () start) (handler : Eval Completion) :
    handle scope name exception handler store = released scope name (handler start) := by
  rw [handle_eq, Eval.bind_ok prepares, Eval.bind_apply, Eval.tryCatch_apply]
  cases handler start with
  | ok completion ended => rfl
  | error escape ended =>
    cases escape with
    | thrown | failure | unreadable | fault | tooDeep | outOfSteps => rfl

/-- What a statement with a handler does when its block throws. Where the class of plain objects is missing, the copy
of the trace can fail, and then the statement fails at once. Else the handler starts in the frame of the statement,
with its name bound there to the thrown value and no other binding changed. If it ends, in whatever way, or throws, the
statement does so too, and the name is not bound in the frame any more. If it escapes otherwise, so does the statement,
with the bindings that the handler left. -/
theorem handler_name_unbound_unless_fails {loopSteps levels : Nat} {scope : FrameId} {body handler : Block}
    {caught : String} {store thrown : Store} {exception : Thrown} (arises : Arises (fun _ => True) store)
    (inside : scope.index < store.frames.size)
    (throws : execBlock (engineAt loopSteps levels) scope body store = .error (.thrown exception) thrown) :
    let handled := execBlock (engineAt loopSteps levels) scope handler
    let statement := execStatement (engineAt loopSteps levels) scope (.guard body caught handler) store
    (thrown.builtinClass? scope "Object" = none ∧ statement = .error (.ofCause (.notDefined "Object")) thrown) ∨
    ∃ start, thrown.Rebinds scope caught (some exception.value) start ∧
      (∀ completion ended, handled start = .ok completion ended →
        ∃ after, statement = .ok completion after ∧ ended.Rebinds scope caught none after) ∧
      (∀ other ended, handled start = .error (.thrown other) ended →
        ∃ after, statement = .error (.thrown other) after ∧ ended.Rebinds scope caught none after) ∧
      ∀ escape ended, escape.isException = false → handled start = .error escape ended →
        statement = .error escape ended := by
  intro handled statement
  have runs : statement = handle scope caught exception handled thrown := by
    change execStatement _ _ _ _ = _
    rw [execStatement, guarded, Eval.tryCatch_apply, throws]
  -- The body leaves a store that comes up, in which the frame is still there, and so do the start of the handler and
  -- the handler. In such a store the frame binds the name once, so that to delete it is to unbind it.
  have followed := arises.execBlock loopSteps levels scope body
  rw [← engineAt, throws] at followed
  obtain ⟨thrownArises, grows⟩ := followed
  have inside := Nat.lt_of_lt_of_le inside grows.grows
  rcases prepared_apply caught exception inside with ⟨start, prepares, rebinds⟩ | ⟨missing, fails⟩
  · have began := thrownArises.prepared scope caught exception
    rw [prepares] at began
    have ends := began.2.1.execBlock loopSteps levels scope handler
    have unbinds (ended : Store) (arises : Arises (fun _ => True) ended) (later : start.Extends ended) :
        ended.Rebinds scope caught none (ended.delete scope caught) := by
      have inside := Nat.lt_of_lt_of_le inside (began.2.2.trans later).grows
      exact Store.rebinds_delete inside (arises.distinct scope) caught
    rw [handle_apply prepares] at runs
    refine .inr ⟨start, rebinds, fun completion ended run => ?_, fun other ended run => ?_,
      fun escape ended kind run => ?_⟩
    · rw [← engineAt, show execBlock _ _ _ start = _ from run] at ends
      rw [run] at runs
      exact ⟨_, runs, unbinds ended ends.2.1 ends.2.2⟩
    · rw [← engineAt, show execBlock _ _ _ start = _ from run] at ends
      rw [run] at runs
      exact ⟨_, runs, unbinds ended ends.1 ends.2⟩
    · rw [runs, run, released_of_other kind]
  · refine .inl ⟨missing, ?_⟩
    rw [runs, handle_eq, Eval.bind_apply, fails]

/-- The frame of a source without built-in classes. -/
def Store.bare : Store :=
  ((Store.initial .default ⟨[], []⟩ [] 0).addFrame ⟨[], [], ⟨"main.toy", Origin.rowsOf "", [], true⟩⟩).2

theorem Store.arises_bare : Arises (fun _ => True) Store.bare :=
  .frame (.initial _ _ _ _) (.root rfl "main.toy" "" true [] (fun _ => nofun) List.nodup_nil)

/-- The handler of a thrown text gives the text another name. -/
theorem handler_name_unbound_unless_fails_of_assignment :
    let body : Block := [⟨1, .throw (.literal (.text "x"))⟩]
    let handler : Block := [⟨2, .assign "m" none (.variable "e")⟩]
    let handled := execBlock (engineAt 0 0) ⟨0⟩ handler
    let statement := execStatement (engineAt 0 0) ⟨0⟩ (.guard body "e" handler)
    Arises (fun _ => True) Store.bare ∧ (⟨0⟩ : FrameId).index < Store.bare.frames.size ∧
    ((statement.leaves Store.bare).ownBinding? ⟨0⟩ "m").any (·.same (.text "x")) = true ∧
    ∃ exception thrown, execBlock (engineAt 0 0) ⟨0⟩ body Store.bare = .error (.thrown exception) thrown ∧
      ((thrown.builtinClass? ⟨0⟩ "Object" = none ∧
        statement Store.bare = .error (.ofCause (.notDefined "Object")) thrown) ∨
      ∃ start, thrown.Rebinds ⟨0⟩ "e" (some exception.value) start ∧
        (∀ completion ended, handled start = .ok completion ended →
          ∃ after, statement Store.bare = .ok completion after ∧ ended.Rebinds ⟨0⟩ "e" none after) ∧
        (∀ other ended, handled start = .error (.thrown other) ended →
          ∃ after, statement Store.bare = .error (.thrown other) after ∧ ended.Rebinds ⟨0⟩ "e" none after) ∧
        ∀ escape ended, escape.isException = false → handled start = .error escape ended →
          statement Store.bare = .error escape ended) := by
  intro body handler handled statement
  have inside : (⟨0⟩ : FrameId).index < Store.bare.frames.size := by decide +kernel
  have escapes : (execBlock (engineAt 0 0) ⟨0⟩ body).escapes (fun escape _ => escape.isException) Store.bare = true := by
    decide +kernel
  obtain ⟨escape, thrown, throws, kind⟩ := Eval.of_escapes escapes
  obtain ⟨exception, rfl⟩ := Escape.eq_thrown kind
  exact ⟨Store.arises_bare, inside, by decide +kernel, exception, thrown, throws,
    handler_name_unbound_unless_fails Store.arises_bare inside throws⟩

/-- A handler fails, in a frame that lasts for a session: its name is bound in the frame afterwards. -/
theorem handler_name_outlives_failure :
    let step := do
      let root ← Session.start true
      Session.exec root "try:\n throw 'x'\ncatch e:\n missing()\nend"
    let store := Store.initial .default ⟨[], []⟩ [] 0
    step.escapes (fun escape _ => !escape.isException) store = true ∧
      ((step.leaves store).ownBinding? ⟨0⟩ "e").any (·.same (.text "x")) = true :=
  ⟨by decide +kernel, by decide +kernel⟩

end LineScript
