import LineScript.Proofs.Eval.Parts

/-!
# The course of runs

A protocol says what a run may do to the store, however it ends. A course is finer. It says what has happened when
there is a value, and what has happened when there is an escape; and it follows two runs, in two environments, which
are the same unless the first ends with a fatal escape (`Course.Carried`). Code catches exceptions only, so fatal
escapes are not exceptions. Nothing but sorting holds an escape, and it lets the escape out at its end.

* `Acts.carried`: an evaluation follows a course if the answers to its questions do.
* `carried_native`: a built-in function follows a course if the code that it asks for does.
* `carried_runStep`: code of one kind follows a course if the code one level below does.
-/

set_option autoImplicit false

namespace LineScript

/-- What is followed along two runs. -/
structure Course (fits : Code → Prop) (manner : Manner) where
  /-- What is known of the store, in a frame. -/
  good : FrameId → Store → Prop
  /-- What has happened when there is a value. -/
  step : Store → Store → Prop
  /-- What has happened when there is an escape. -/
  ends : Escape → Store → Store → Prop
  /-- The escapes after which the two runs need not be the same. -/
  fatal : Escape → Prop
  kind : ∀ {scope : FrameId} {store : Store}, good scope store → store.Fits fits
  opens : ∀ {scope : FrameId} {store : Store}, good scope store → manner.opens ⟨store.frames.size⟩
  keeps : ∀ {scope : FrameId} {store after : Store}, good scope store → step store after → good scope after
  kept : ∀ {scope : FrameId} {escape : Escape} {store after : Store}, good scope store → ends escape store after →
    good scope after
  refl : ∀ store : Store, step store store
  trans : ∀ {first second third : Store}, step first second → step second third → step first third
  throws : ∀ (escape : Escape) (store : Store), escape.marks = [] → ends escape store store
  before : ∀ {escape : Escape} {first second third : Store}, step first second → ends escape second third →
    ends escape first third
  later : ∀ {escape : Escape} {first second third : Store}, ends escape first second → step second third →
    ends escape first third
  caught : ∀ {exception : Thrown} {store after : Store}, ends (.thrown exception) store after → step store after
  passes : manner.marks = true → ∀ {escape : Escape} {store after : Store} (frame : FrameId) (entry : TraceEntry),
    ends escape store after → ends (escape.pass frame entry) store after
  change : ∀ {scope : FrameId} {store after : Store}, good scope store → Change fits manner scope store after →
    step store after
  frame : ∀ {scope : FrameId} {store : Store} {frame : Frame}, good scope store → NewFrame manner store frame →
    step store (store.addFrame frame).2 ∧ good ⟨store.frames.size⟩ (store.addFrame frame).2
  uncaught : ∀ {escape : Escape}, fatal escape → escape.isException = false
  fatal_pass : ∀ {escape : Escape} (frame : FrameId) (entry : TraceEntry), fatal escape →
    fatal (escape.pass frame entry)

theorem Escape.eq_thrown {escape : Escape} (kind : escape.isException = true) :
    ∃ exception, escape = .thrown exception := by
  cases escape with
  | thrown exception => exact ⟨exception, rfl⟩
  | failure | unreadable | fault | tooDeep | outOfSteps => cases kind

/-- In a course without fatal escapes no exception is one. -/
theorem Escape.isException_of_false {escape : Escape} (never : False) : escape.isException = false :=
  never.elim

namespace Course

variable {fits : Code → Prop} {manner : Manner} (course : Course fits manner) {α β : Type}

/-- A run ends as a course says, and its value satisfies a condition. -/
def Outcome (holds : α → Prop) (store : Store) : EStateM.Result Escape Store α → Prop
  | .ok value after => holds value ∧ course.step store after
  | .error escape after => course.ends escape store after

/-- Two runs are the same and end as a course says, unless the first ends with a fatal escape. -/
def Carried (holds : α → Prop) (store : Store) (first second : EStateM.Result Escape Store α) : Prop :=
  (∃ escape after, first = .error escape after ∧ course.fatal escape) ∨
    second = first ∧ course.Outcome holds store first

variable {course} {holds : α → Prop} {holds' : β → Prop} {scope : FrameId} {store : Store}

theorem changes {after : Store} (good : course.good scope store) (changes : Changes fits manner scope store after) :
    course.step store after := by
  induction changes with
  | refl => exact course.refl store
  | tail _ change ih => exact course.trans ih (course.change (course.keeps good ih) change)

theorem Outcome.of_stepped {result : EStateM.Result Escape Store α} (good : course.good scope store)
    (stepped : Stepped fits manner scope holds store result) : course.Outcome holds store result := by
  cases result with
  | ok value after => exact ⟨stepped.1, Course.changes good stepped.2⟩
  | error escape after =>
    obtain ⟨unmarked, rfl⟩ := stepped
    exact course.throws escape _ unmarked

/-- What happens later is seen from where the run began. -/
theorem Carried.after {middle : Store} {first second : EStateM.Result Escape Store α} (step : course.step store middle)
    (rest : course.Carried holds middle first second) : course.Carried holds store first second := by
  refine rest.imp_right fun ⟨same, outcome⟩ => ⟨same, ?_⟩
  cases first with
  | ok value after => exact ⟨outcome.1, course.trans step outcome.2⟩
  | error escape after => exact course.before step outcome

theorem Carried.bind {first second : Eval α} {next next' : α → Eval β}
    (head : course.Carried holds store (first store) (second store))
    (rest : ∀ value after, holds value → course.step store after →
      course.Carried holds' after (next value after) (next' value after)) :
    course.Carried holds' store ((first >>= next) store) ((second >>= next') store) := by
  rw [Eval.bind_apply, Eval.bind_apply]
  rcases head with ⟨escape, after, ended, fatal⟩ | ⟨same, outcome⟩
  · rw [ended]
    exact .inl ⟨escape, after, rfl, fatal⟩
  · rw [same]
    cases run : first store with
    | ok value after =>
      rw [run] at outcome
      exact Carried.after outcome.2 (rest value after outcome.1 outcome.2)
    | error escape after =>
      rw [run] at outcome
      exact .inr ⟨rfl, outcome⟩

theorem Carried.refl {result : EStateM.Result Escape Store α} (outcome : course.Outcome holds store result) :
    course.Carried holds store result result :=
  .inr ⟨rfl, outcome⟩

/-- Where escapes are caught, fatal ones go on, and what handles the others follows the course. -/
theorem Carried.tryCatch {first second : Eval α} {handler handler' : Escape → Eval α}
    (body : course.Carried holds store (first store) (second store))
    (lets : ∀ escape after, course.fatal escape →
      ∃ further final, handler escape after = .error further final ∧ course.fatal further)
    (handling : ∀ escape after, course.ends escape store after →
      course.Carried holds store (handler escape after) (handler' escape after)) :
    course.Carried holds store (MonadExcept.tryCatch first handler store)
      (MonadExcept.tryCatch second handler' store) := by
  rw [Eval.tryCatch_apply, Eval.tryCatch_apply]
  rcases body with ⟨escape, after, ended, fatal⟩ | ⟨same, outcome⟩
  · rw [ended]
    exact .inl (lets escape after fatal)
  · rw [same]
    cases run : first store with
    | ok value after =>
      rw [run] at outcome
      exact .refl outcome
    | error escape after =>
      rw [run] at outcome
      exact handling escape after outcome

/-- A run ends as a course says, if no escape is fatal. -/
theorem Carried.outcome {first second : EStateM.Result Escape Store α} (carried : course.Carried holds store first second)
    (harmless : ∀ escape, ¬ course.fatal escape) : course.Outcome holds store first := by
  rcases carried with ⟨escape, _, _, fatal⟩ | ⟨_, outcome⟩
  · exact absurd fatal (harmless escape)
  · exact outcome

theorem carried_pure {value : α} (here : holds value) :
    course.Carried holds store ((Pure.pure value : Eval α) store) ((Pure.pure value : Eval α) store) :=
  .inr ⟨rfl, here, course.refl store⟩

end Course

section

variable {E α : Type} {fits : Code → Prop} {asks : FrameId → (α : Type) → (E → Eval α) → Prop} {manner : Manner}
  {scope : FrameId} {holds : α → Prop} {action : E → Eval α}

/-- Every question is answered as a course says. -/
def AsksCarried (course : Course fits manner) (asks : FrameId → (α : Type) → (E → Eval α) → Prop) (first second : E) :
    Prop :=
  ∀ ⦃scope : FrameId⦄ ⦃α : Type⦄ ⦃action : E → Eval α⦄, asks scope α action →
    ∀ store, course.good scope store → course.Carried (fun _ => True) store (action first store) (action second store)

/-- An evaluation follows a course that the answers follow, if it does not look at escapes. -/
theorem Acts.carried {course : Course fits manner} {first second : E} (blind : manner.inspects = false)
    (answers : AsksCarried course asks first second) (acts : Acts fits asks manner scope holds action) {store : Store}
    (good : course.good scope store) : course.Carried holds store (action first store) (action second store) := by
  induction acts generalizing store with
  | pure here => exact Course.carried_pure here
  | throw escape unmarked =>
    exact .refl (course.throws escape store (unmarked.resolve_left (by simp [blind])))
  | bind _ _ ih rest => exact (ih good).bind fun value after here step => rest value here (course.keeps good step)
  | read _ rest => exact rest store (course.kind good) good
  | change each => exact .refl (.of_stepped good (each store (course.kind good)))
  | @react _ _ _ _ step next each _ rest =>
    have fit := course.kind good
    have head : course.Carried (fun _ => True) store (step store store) (step store store) :=
      .refl (.of_stepped good (each store fit))
    exact head.bind fun value after _ step => rest store value fit (course.keeps good step)
  | @frame _ _ _ make next each _ rest =>
    obtain ⟨middle, frame, changes, new, made⟩ := each store (course.kind good)
    have moved := Course.changes good changes
    have here := course.keeps good moved
    obtain ⟨opened, inside⟩ := course.frame here new
    change course.Carried _ store ((make >>= fun inner => next inner first) store)
      ((make >>= fun inner => next inner second) store)
    rw [Eval.bind_ok made, Eval.bind_ok made]
    exact .after (course.trans moved opened) (rest _ (course.opens here) inside)
  | ask question => exact answers question store good
  | rethrow _ each ih =>
    refine (ih good).tryCatch (fun escape after fatal => ?_) fun escape after ended => ?_
    · obtain ⟨final, rethrown, _⟩ := each escape after
      exact ⟨escape, final, rethrown, fatal⟩
    · obtain ⟨final, rethrown, changes⟩ := each escape after
      rw [rethrown]
      exact .refl (course.later ended (Course.changes (course.kept good ended) changes))
  | pass line marks _ ih =>
    exact (ih good).tryCatch (fun _ after fatal => ⟨_, after, rfl, course.fatal_pass _ _ fatal⟩)
      fun _ _ ended => .refl (course.passes marks _ _ ended)
  | recover _ _ _ others ih handling =>
    refine (ih good).tryCatch (fun escape after fatal => ?_) fun escape after ended => ?_
    · rw [others escape (course.uncaught fatal)]
      exact ⟨escape, after, rfl, fatal⟩
    · cases kind : escape.isException with
      | false =>
        rw [others escape kind]
        exact .refl ended
      | true =>
        obtain ⟨exception, rfl⟩ := Escape.eq_thrown kind
        have step := course.caught ended
        exact .after step (handling exception (course.keeps good step))
  | inspect inspects =>
    rw [blind] at inspects
    cases inspects

end

/-! ## Sorting -/

section

variable {E : Type} {fits : Code → Prop} {manner : Manner} (course : Course fits manner)

/-- What has happened since a sort began, by how the questions to its comparator ended. -/
def ComparatorState.Known (start store : Store) : ComparatorState → Prop
  | .asking => course.step start store
  | .thrown exception => course.ends (.thrown exception) start store
  | .stopped escape => course.ends escape start store

/-- A part of a sort follows a course in two environments. It holds a fatal escape as it holds any other, and asks
nothing any more. -/
structure SortCarried (scope : FrameId) (start : Store) (first second : E) (β : Type)
    (action : E → StateT ComparatorState Eval β) : Prop where
  goes : ∀ state store, course.good scope store → state.Known course start store →
    (∃ value escape after, (action first).run state store = .ok (value, .stopped escape) after ∧ course.fatal escape) ∨
    ∃ value state' after, (action first).run state store = .ok (value, state') after ∧
      (action second).run state store = .ok (value, state') after ∧ course.good scope after ∧
      state'.Known course start after
  stays : ∀ escape store, ∃ value, (action first).run (.stopped escape) store = .ok (value, .stopped escape) store

variable {course} {scope : FrameId} {start : Store} {first second : E}

theorem composes_sortCarried : Sorting.Composes (SortCarried course scope start first second) where
  pure value := ⟨fun state store good known => .inr ⟨value, state, store, rfl, rfl, good, known⟩,
    fun escape store => ⟨value, rfl⟩⟩
  bind {_ _ action next} head rest := by
    constructor
    · intro state store good known
      rw [ComparatorState.bind_apply, ComparatorState.bind_apply]
      rcases head.goes state store good known with
        ⟨value, escape, after, run, fatal⟩ | ⟨value, state', after, run, same, good, known⟩
      · obtain ⟨result, stays⟩ := (rest value).stays escape after
        rw [run]
        exact .inl ⟨result, escape, after, stays, fatal⟩
      · rw [run, same]
        exact (rest value).goes state' after good known
    · intro escape store
      obtain ⟨value, run⟩ := head.stays escape store
      rw [ComparatorState.bind_apply, run]
      exact (rest value).stays escape store

theorem comparatorAnswer_of_other {escape : Escape} (other : escape.isException = false) :
    comparatorAnswer (.error escape) = (none, .stopped escape) := by
  cases escape with
  | thrown => cases other
  | failure | unreadable | fault | tooDeep | outOfSteps => rfl

/-- What the end of a sort lets out is what has come up. -/
theorem outcome_endSort (cell : CellId) (arrangement : Sorting.Arrangement Value) {state : ComparatorState}
    {store : Store} (good : course.good scope store) (known : state.Known course start store) :
    course.Outcome (fun _ => True) start (endSort cell arrangement state store) := by
  have filled : course.step store (store.modifyCell cell fun _ => arrangement.items.toArray) :=
    course.change good (.items cell _)
  rw [endSort_apply]
  cases state with
  | stopped escape => exact course.later known filled
  | thrown exception =>
    cases (store.cell cell).isEmpty with
    | true => exact course.later known filled
    | false => exact course.before (course.trans (course.caught known) filled) (course.throws _ _ rfl)
  | asking =>
    cases (store.cell cell).isEmpty with
    | true => exact ⟨trivial, course.trans known filled⟩
    | false => exact course.before (course.trans known filled) (course.throws _ _ rfl)

section

variable (call : E → Value → Value → Eval Value)
  (each : ∀ left right store, course.good scope store →
    course.Carried (fun _ => True) store (call first left right store) (call second left right store))

include each

theorem sortCarried_askComparator (left right : Value) :
    Sorting.Optional (SortCarried course scope start first second) Bool fun env =>
      askComparator (call env) left right := by
  refine ⟨fun state store good known => ?_, fun escape store => ⟨none, rfl⟩⟩
  cases state with
  | thrown | stopped => exact .inr ⟨_, _, store, rfl, rfl, good, known⟩
  | asking =>
    dsimp only
    rw [askComparator_apply, askComparator_apply]
    rcases each left right store good with ⟨escape, after, ended, fatal⟩ | ⟨same, outcome⟩
    · rw [ended]
      dsimp only
      rw [comparatorAnswer_of_other (course.uncaught fatal)]
      exact .inl ⟨none, escape, after, rfl, fatal⟩
    · rw [same]
      cases run : call first left right store with
      | ok value after =>
        rw [run] at outcome
        have step : course.step start after := course.trans known outcome.2
        refine .inr ⟨_, _, after, rfl, rfl, course.keeps good outcome.2, ?_⟩
        cases value with
        | number => exact step
        | null | text | boolean | «instance» => exact course.before step (course.throws _ after rfl)
      | error escape after =>
        rw [run] at outcome
        refine .inr ⟨_, _, after, rfl, rfl, course.kept good outcome, ?_⟩
        cases escape <;> exact course.before known outcome

/-- Sorting follows a course that the comparator follows. -/
theorem carried_sortByComparator (cell : CellId) {store : Store} (good : course.good scope store) :
    course.Carried (fun _ => True) store (sortByComparator (call first) cell store)
      (sortByComparator (call second) cell store) := by
  have emptied : course.step store (store.modifyCell cell fun _ => #[]) := course.change good (.items cell _)
  refine .after emptied ?_
  rw [sortByComparator_apply, sortByComparator_apply]
  have sorts : SortCarried course scope (store.modifyCell cell fun _ => #[]) first second _ fun env =>
      Sorting.sort (askComparator (call env)) (store.cell cell).toList :=
    Sorting.composes_sort composes_sortCarried (sortCarried_askComparator call each) _
  rcases sorts.goes .asking _ (course.keeps good emptied) (course.refl _) with
    ⟨arrangement, escape, after, run, fatal⟩ | ⟨arrangement, state, after, run, same, good, known⟩
  · rw [Eval.bind_ok run, endSort_apply]
    exact .inl ⟨escape, _, rfl, fatal⟩
  · rw [Eval.bind_ok run, Eval.bind_ok same]
    exact .refl (outcome_endSort cell arrangement good known)

end

end

/-! ## Code -/

/-- Code runs with an engine for what is nested in it. -/
def runStep (engine : Engine) (scope : FrameId) : Code → Eval Completion
  | .block body => execBlock engine scope body
  | .native native => return .returned (← native.run engine scope)

theorem runCode_succ (loopSteps levels : Nat) :
    runCode loopSteps (levels + 1) = runStep ⟨runCode loopSteps levels, loopSteps⟩ := by
  funext scope code
  cases code <;> rfl

section

variable {fits : Code → Prop} {asks : FrameId → (α : Type) → (Runner → Eval α) → Prop} {manner : Manner}
  {course : Course fits manner} {first second : Runner} (blind : manner.inspects = false)
  (answers : AsksCarried course asks first second) {scope : FrameId} {store : Store} (loopSteps : Nat)

include blind answers

theorem carried_sort (calls : AsksRuns fits asks manner fun runner => runner) (good : course.good scope store) :
    course.Carried (fun _ => True) store (ListMethod.run ⟨first, loopSteps⟩ scope .sort store)
      (ListMethod.run ⟨second, loopSteps⟩ scope .sort store) := by
  have part {α : Type} {action : Eval α} (acts : Does fits asks manner scope fun _ : Runner => action) (store : Store)
      (good : course.good scope store) : course.Carried (fun _ => True) store (action store) (action store) :=
    acts.carried blind answers good
  rw [ListMethod.run_sort, ListMethod.run_sort]
  refine (part (acts_receiver scope) store good).bind fun this after _ step => ?_
  have good := course.keeps good step
  refine (part (acts_listReceiver _ this) after good).bind fun cell after _ step => ?_
  have good := course.keeps good step
  refine (part (acts_argument scope _) after good).bind fun comparator after _ step => ?_
  have good := course.keeps good step
  dsimp only
  split
  · exact (part (acts_sortByKey cell) after good).bind fun _ _ _ _ => Course.carried_pure trivial
  · let call (runner : Runner) (left right : Value) := Eval.callValue runner scope comparator [left, right] none
    have each (left right : Value) (store : Store) (good : course.good scope store) :
        course.Carried (fun _ => True) store (call first left right store) (call second left right store) :=
      (acts_callValue calls scope comparator [left, right] none).carried blind answers good
    exact (carried_sortByComparator call each cell good).bind fun _ _ _ _ => Course.carried_pure trivial

/-- A built-in function follows a course that the code follows that it asks for. -/
theorem carried_native (overwrites : manner.overwrites = true) (calls : AsksRuns fits asks manner fun runner => runner)
    (native : Native) (good : course.good scope store) :
    course.Carried (fun _ => True) store (native.run ⟨first, loopSteps⟩ scope store)
      (native.run ⟨second, loopSteps⟩ scope store) := by
  by_cases sort : native = .listMethod .sort
  · subst sort
    exact carried_sort blind answers loopSteps calls good
  · have acts : Does fits asks manner scope fun runner => native.run ⟨runner, loopSteps⟩ scope :=
      acts_native calls scope loopSteps native ⟨fun same => absurd same sort, fun _ => overwrites⟩
    exact acts.carried blind answers good

/-- Code of one kind follows a course that its questions follow. -/
theorem carried_runStep {conditions : Conditions} (evaluates : Evaluates fits asks manner conditions)
    (blocks : ∀ body, fits (.block body) → conditions.block body) (overwrites : manner.overwrites = true) {code : Code}
    (fit : fits code) (good : course.good scope store) :
    course.Carried (fun _ => True) store (runStep ⟨first, loopSteps⟩ scope code store)
      (runStep ⟨second, loopSteps⟩ scope code store) := by
  cases code with
  | block body => exact (evaluates.acts_execBlock loopSteps scope (blocks body fit)).carried blind answers good
  | native native =>
    exact (carried_native blind answers loopSteps overwrites evaluates.run native good).bind fun _ _ _ _ =>
      Course.carried_pure trivial

end

end LineScript
