import LineScript.Eval.Basic
import LineScript.Proofs.Store.Change

/-!
# What an evaluation is made of

An evaluation is made of changes of the store, of reading the store, of new frames in which it goes on, of
escapes, and of questions to an environment: how nested code runs, or what a part of a tree evaluates to
(`Acts`). What an evaluation does is proved of it once; what follows for runs is then proved by induction on
how it is made.

* `Acts.follows`: if the answers follow a protocol, that is, keep a fact about the store and do to it no more
  than code in their frame may, so does the evaluation.
* `Acts.agree`: environments that answer alike, as long as the fact holds, give the same run.
* `Acts.interrupted`: an evaluation that catches nothing, asked in an environment that throws where another
  answers, does the same in both or ends with the exception.
-/

set_option autoImplicit false

namespace LineScript

/-- The places that an escape has passed. -/
def Escape.marks : Escape → List Mark
  | .thrown exception => exception.trace.marks
  | .failure reason => reason.trace.marks
  | .unreadable _ | .fault _ | .tooDeep | .outOfSteps => []

/-- The escape is an exception, which code can catch. -/
def Escape.isException : Escape → Bool
  | .thrown _ => true
  | .failure _ | .unreadable _ | .fault _ | .tooDeep | .outOfSteps => false

/-! ## Steps -/

/-- Some steps of code in a frame change the store and have a value that satisfies a condition, or they escape
from their own place and leave the store as it is. -/
def Stepped {α : Type} (fits : Code → Prop) (manner : Manner) (scope : FrameId) (holds : α → Prop) (store : Store) :
    EStateM.Result Escape Store α → Prop
  | .ok value after => holds value ∧ Changes fits manner scope store after
  | .error escape after => escape.marks = [] ∧ after = store

/-- Some steps of code in a frame change the store and then open a new frame. -/
def Opened (fits : Code → Prop) (manner : Manner) (scope : FrameId) (store : Store)
    (result : EStateM.Result Escape Store FrameId) : Prop :=
  ∃ middle frame, Changes fits manner scope store middle ∧ NewFrame manner middle frame ∧
    result = .ok ⟨middle.frames.size⟩ (middle.addFrame frame).2

/-! ## How an evaluation is made -/

/-- The evaluation, in a frame and as a function of an environment, is made of changes of the store, of new
frames, of escapes and of questions to the environment, and its value satisfies a condition. What it does
besides is said by its manner. -/
inductive Acts {E : Type} (fits : Code → Prop) (asks : FrameId → (α : Type) → (E → Eval α) → Prop)
    (manner : Manner) : FrameId → {α : Type} → (α → Prop) → (E → Eval α) → Prop where
  | pure {scope : FrameId} {α : Type} {holds : α → Prop} {value : α} (good : holds value) :
      Acts fits asks manner scope holds fun _ => Pure.pure value
  | throw {scope : FrameId} {α : Type} {holds : α → Prop} (escape : Escape)
      (unmarked : manner.inspects = true ∨ escape.marks = [] := by exact .inr rfl) :
      Acts fits asks manner scope holds fun _ => MonadExcept.throw escape
  | bind {scope : FrameId} {α β : Type} {holds : α → Prop} {holds' : β → Prop} {action : E → Eval α}
      {next : α → E → Eval β} (first : Acts fits asks manner scope holds action)
      (rest : ∀ value, holds value → Acts fits asks manner scope holds' (next value)) :
      Acts fits asks manner scope holds' fun env => action env >>= fun value => next value env
  | read {scope : FrameId} {α : Type} {holds : α → Prop} {next : Store → E → Eval α}
      (rest : ∀ store, store.Fits fits → Acts fits asks manner scope holds (next store)) :
      Acts fits asks manner scope holds fun env => get >>= fun store => next store env
  | change {scope : FrameId} {α : Type} {holds : α → Prop} {step : Eval α}
      (each : ∀ store, store.Fits fits → Stepped fits manner scope holds store (step store)) :
      Acts fits asks manner scope holds fun _ => step
  /-- Steps that depend on what was read just before. -/
  | react {scope : FrameId} {α β : Type} {holds : β → Prop} {step : Store → Eval α} {next : Store → α → E → Eval β}
      (each : ∀ store, store.Fits fits → Stepped fits manner scope (fun _ => True) store (step store store))
      (rest : ∀ store value, store.Fits fits → Acts fits asks manner scope holds (next store value)) :
      Acts fits asks manner scope holds fun env => get >>= fun store => step store >>= fun value => next store value env
  | frame {scope : FrameId} {α : Type} {holds : α → Prop} {make : Eval FrameId} {next : FrameId → E → Eval α}
      (each : ∀ store, store.Fits fits → Opened fits manner scope store (make store))
      (rest : ∀ inner, manner.opens inner → Acts fits asks manner inner holds (next inner)) :
      Acts fits asks manner scope holds fun env => make >>= fun inner => next inner env
  | ask {scope : FrameId} {α : Type} {action : E → Eval α} (question : asks scope α action) :
      Acts fits asks manner scope (fun _ => True) action
  /-- Escapes go on after some steps. -/
  | rethrow {scope : FrameId} {α : Type} {holds : α → Prop} {action : E → Eval α} {handler : Escape → Eval α}
      (body : Acts fits asks manner scope holds action)
      (each : ∀ escape store, ∃ after, handler escape store = .error escape after ∧
        Changes fits manner scope store after) :
      Acts fits asks manner scope holds fun env => tryCatch (action env) handler
  | pass {scope : FrameId} {α : Type} {holds : α → Prop} {action : E → Eval α} (line : Int)
      (marks : manner.marks = true) (body : Acts fits asks manner scope holds action) :
      Acts fits asks manner scope holds fun env => Eval.passing scope line (action env)
  /-- Exceptions are caught, and other escapes go on. -/
  | recover {scope : FrameId} {α : Type} {holds : α → Prop} {action : E → Eval α}
      {handler : Escape → E → Eval α} (catches : manner.catches = true)
      (body : Acts fits asks manner scope holds action)
      (handling : ∀ exception, Acts fits asks manner scope holds (handler (.thrown exception)))
      (others : ∀ escape, escape.isException = false → handler escape = fun _ => MonadExcept.throw escape) :
      Acts fits asks manner scope holds fun env => tryCatch (action env) fun escape => handler escape env
  /-- Any escape is looked at. -/
  | inspect {scope : FrameId} {α : Type} {holds : α → Prop} {action : E → Eval α}
      {handler : Escape → E → Eval α} (inspects : manner.inspects = true)
      (body : Acts fits asks manner scope holds action)
      (handling : ∀ escape, Acts fits asks manner scope holds (handler escape)) :
      Acts fits asks manner scope holds fun env => tryCatch (action env) fun escape => handler escape env

/-! ## Runs -/

theorem Eval.bind_apply {α β : Type} (action : Eval α) (next : α → Eval β) (store : Store) :
    (action >>= next) store = match action store with
      | .ok value after => next value after
      | .error escape after => .error escape after := by
  change EStateM.bind action next store = _
  unfold EStateM.bind
  cases action store <;> rfl

theorem Eval.bind_ok {α β : Type} {action : Eval α} {next : α → Eval β} {store after : Store} {value : α}
    (run : action store = .ok value after) : (action >>= next) store = next value after := by
  rw [Eval.bind_apply, run]

/-- What ends without an escape does so in each of its steps. -/
theorem Eval.of_bind_ok {α β : Type} {action : Eval α} {next : α → Eval β} {store after : Store} {result : β}
    (run : (action >>= next) store = .ok result after) :
    ∃ value middle, action store = .ok value middle ∧ next value middle = .ok result after := by
  rw [Eval.bind_apply] at run
  cases first : action store with
  | ok value middle =>
    rw [first] at run
    exact ⟨value, middle, rfl, run⟩
  | error escape middle =>
    rw [first] at run
    cases run

theorem Eval.get_bind_apply {α : Type} (next : Store → Eval α) (store : Store) :
    (get >>= next) store = next store store :=
  rfl

theorem Eval.tryCatch_apply {α : Type} (action : Eval α) (handler : Escape → Eval α) (store : Store) :
    tryCatch action handler store = match action store with
      | .ok value after => .ok value after
      | .error escape after => handler escape after := by
  change EStateM.tryCatch action handler store = _
  unfold EStateM.tryCatch
  cases action store <;> rfl

/-- Two runs are the same if their first parts are and what follows is. -/
theorem Eval.bind_congr {α β : Type} {first second : Eval α} {next next' : α → Eval β} {store : Store}
    (same : second store = first store)
    (rest : ∀ value after, first store = .ok value after → next' value after = next value after) :
    (second >>= next') store = (first >>= next) store := by
  rw [Eval.bind_apply, Eval.bind_apply, same]
  cases run : first store with
  | ok value after => exact rest value after run
  | error escape after => rfl

theorem Eval.tryCatch_congr {α : Type} {first second : Eval α} {handler handler' : Escape → Eval α} {store : Store}
    (same : second store = first store)
    (handling : ∀ escape after, first store = .error escape after → handler' escape after = handler escape after) :
    tryCatch second handler' store = tryCatch first handler store := by
  rw [Eval.tryCatch_apply, Eval.tryCatch_apply, same]
  cases run : first store with
  | ok value after => rfl
  | error escape after => exact handling escape after run

theorem Eval.passing_apply {α : Type} (scope : FrameId) (line : Int) (action : Eval α) (store : Store) :
    Eval.passing scope line action store = match action store with
      | .ok value after => .ok value after
      | .error escape after => .error (escape.pass scope (after.entry scope line)) after := by
  rw [Eval.passing, Eval.tryCatch_apply]
  cases action store <;> rfl

/-- The store that an evaluation leaves behind, however it ends. -/
def Eval.leaves {α : Type} (action : Eval α) (store : Store) : Store :=
  match action store with
  | .ok _ after => after
  | .error _ after => after

/-! ## Protocols -/

/-- A fact about the store that changes and new frames keep, and what code in a frame may do to the store. What
code does in a frame that it has opened counts as done in the older frame. -/
structure Protocol (fits : Code → Prop) (manner : Manner) where
  good : Store → Prop
  step : FrameId → Store → Store → Prop
  kind : ∀ {store : Store}, good store → store.Fits fits
  refl : ∀ (scope : FrameId) (store : Store), step scope store store
  trans : ∀ {scope : FrameId} {first second third : Store}, step scope first second → step scope second third →
    step scope first third
  change : ∀ {scope : FrameId} {store after : Store}, good store → Change fits manner scope store after →
    good after ∧ step scope store after
  opens : ∀ {store : Store}, good store → manner.opens ⟨store.frames.size⟩
  frame : ∀ {store : Store} {frame : Frame}, good store → NewFrame manner store frame → good (store.addFrame frame).2
  inner : ∀ (scope : FrameId) {store after : Store} {frame : Frame}, NewFrame manner store frame →
    step ⟨store.frames.size⟩ (store.addFrame frame).2 after → step scope store after

/-- The result of a run from a store, in a frame, is as a protocol says, and its value satisfies a condition. -/
def Followed {α : Type} {fits : Code → Prop} {manner : Manner} (protocol : Protocol fits manner) (scope : FrameId)
    (store : Store) (holds : α → Prop) : EStateM.Result Escape Store α → Prop
  | .ok value after => holds value ∧ protocol.good after ∧ protocol.step scope store after
  | .error _ after => protocol.good after ∧ protocol.step scope store after

section

variable {fits : Code → Prop} {manner : Manner} (protocol : Protocol fits manner) {scope : FrameId} {α β : Type}
  {holds : α → Prop} {holds' : β → Prop}

theorem Protocol.changes {store after : Store} (good : protocol.good store)
    (changes : Changes fits manner scope store after) : protocol.good after ∧ protocol.step scope store after := by
  induction changes with
  | refl => exact ⟨good, protocol.refl scope store⟩
  | tail _ change ih =>
    have next := protocol.change ih.1 change
    exact ⟨next.1, protocol.trans ih.2 next.2⟩

variable {protocol}

theorem Stepped.followed {store : Store} {result : EStateM.Result Escape Store α}
    (step : Stepped fits manner scope holds store result) (good : protocol.good store) :
    Followed protocol scope store holds result := by
  cases result with
  | ok value after => exact ⟨step.1, protocol.changes good step.2⟩
  | error escape after =>
    obtain ⟨_, rfl⟩ := step
    exact ⟨good, protocol.refl scope _⟩

/-- What happens after a step of the protocol is seen from where the step began. -/
theorem Followed.after {first second : Store} {result : EStateM.Result Escape Store α}
    (step : protocol.step scope first second) (rest : Followed protocol scope second holds result) :
    Followed protocol scope first holds result := by
  cases result with
  | ok value after => exact ⟨rest.1, rest.2.1, protocol.trans step rest.2.2⟩
  | error escape after => exact ⟨rest.1, protocol.trans step rest.2⟩

theorem Followed.leaves {action : Eval α} {store : Store} (followed : Followed protocol scope store holds (action store)) :
    protocol.good (action.leaves store) ∧ protocol.step scope store (action.leaves store) := by
  rw [Eval.leaves]
  cases run : action store with
  | ok value after =>
    rw [run] at followed
    exact followed.2
  | error escape after =>
    rw [run] at followed
    exact followed

theorem Followed.bind {action : Eval α} {next : α → Eval β} {store : Store}
    (first : Followed protocol scope store holds (action store))
    (rest : ∀ value after, holds value → protocol.good after → Followed protocol scope after holds' (next value after)) :
    Followed protocol scope store holds' ((action >>= next) store) := by
  rw [Eval.bind_apply]
  cases run : action store with
  | ok value after =>
    rw [run] at first
    exact (rest value after first.1 first.2.1).after first.2.2
  | error escape after =>
    rw [run] at first
    exact first

theorem Followed.tryCatch {action : Eval α} {handler : Escape → Eval α} {store : Store}
    (body : Followed protocol scope store holds (action store))
    (handling : ∀ escape after, protocol.good after → Followed protocol scope after holds (handler escape after)) :
    Followed protocol scope store holds (MonadExcept.tryCatch action handler store) := by
  rw [Eval.tryCatch_apply]
  cases run : action store with
  | ok value after =>
    rw [run] at body
    exact body
  | error escape after =>
    rw [run] at body
    exact (handling escape after body.1).after body.2

/-- What goes on in a new frame is seen from the older one. -/
theorem Opened.followed {make : Eval FrameId} {next : FrameId → Eval β} {store : Store}
    (opened : Opened fits manner scope store (make store)) (good : protocol.good store)
    (rest : ∀ inner after, manner.opens inner → protocol.good after →
      Followed protocol inner after holds' (next inner after)) :
    Followed protocol scope store holds' ((make >>= next) store) := by
  obtain ⟨middle, frame, changes, new, made⟩ := opened
  rw [Eval.bind_ok made]
  have moved := protocol.changes good changes
  have inside := rest ⟨middle.frames.size⟩ _ (protocol.opens moved.1) (protocol.frame moved.1 new)
  refine Followed.after moved.2 ?_
  cases ends : next ⟨middle.frames.size⟩ (middle.addFrame frame).2 with
  | ok value after =>
    rw [ends] at inside
    exact ⟨inside.1, inside.2.1, protocol.inner scope new inside.2.2⟩
  | error escape after =>
    rw [ends] at inside
    exact ⟨inside.1, protocol.inner scope new inside.2⟩

end

section

variable {E α : Type} {fits : Code → Prop} {asks : FrameId → (α : Type) → (E → Eval α) → Prop} {manner : Manner}
  {scope : FrameId} {holds : α → Prop} {action : E → Eval α}

/-- Every question is answered as a protocol says. -/
def AsksFollow (protocol : Protocol fits manner) (asks : FrameId → (α : Type) → (E → Eval α) → Prop) (env : E) : Prop :=
  ∀ ⦃scope : FrameId⦄ ⦃α : Type⦄ ⦃action : E → Eval α⦄, asks scope α action →
    ∀ store, protocol.good store → Followed protocol scope store (fun _ => True) (action env store)

/-- An evaluation follows a protocol that the answers follow. -/
theorem Acts.follows {protocol : Protocol fits manner} {env : E} (answers : AsksFollow protocol asks env)
    (acts : Acts fits asks manner scope holds action) {store : Store} (good : protocol.good store) :
    Followed protocol scope store holds (action env store) := by
  induction acts generalizing store with
  | pure here => exact ⟨here, good, protocol.refl _ _⟩
  | throw escape => exact ⟨good, protocol.refl _ _⟩
  | bind _ _ first rest => exact (first good).bind fun value _ here kept => rest value here kept
  | read _ rest => exact rest store (protocol.kind good) good
  | change each => exact (each store (protocol.kind good)).followed good
  | react each _ rest =>
    have fit := protocol.kind good
    exact ((each store fit).followed good).bind fun value _ _ kept => rest store value fit kept
  | frame each _ rest =>
    exact (each store (protocol.kind good)).followed good fun inner _ opened kept => rest inner opened kept
  | ask question => exact answers question store good
  | rethrow _ each body =>
    refine (body good).tryCatch fun escape after kept => ?_
    obtain ⟨final, run, changes⟩ := each escape after
    rw [run]
    exact protocol.changes kept changes
  | pass line _ _ body => exact (body good).tryCatch fun escape after kept => ⟨kept, protocol.refl _ _⟩
  | @recover _ _ _ _ handler _ _ _ others body handling =>
    refine (body good).tryCatch fun escape after kept => ?_
    cases escape with
    | thrown exception => exact handling exception kept
    | failure | unreadable | fault | tooDeep | outOfSteps =>
      rw [others _ rfl]
      exact ⟨kept, protocol.refl _ _⟩
  | inspect _ _ _ body handling => exact (body good).tryCatch fun escape _ kept => handling escape kept

/-! ## Answers that agree -/

/-- Every question is answered alike in the stores that a protocol is about. -/
def AsksAgree (protocol : Protocol fits manner) (asks : FrameId → (α : Type) → (E → Eval α) → Prop)
    (first second : E) : Prop :=
  ∀ ⦃scope : FrameId⦄ ⦃α : Type⦄ ⦃action : E → Eval α⦄, asks scope α action →
    ∀ store, protocol.good store → action second store = action first store

/-- Environments that answer alike give the same run. -/
theorem Acts.agree {protocol : Protocol fits manner} {first second : E} (answers : AsksFollow protocol asks first)
    (same : AsksAgree protocol asks first second) (acts : Acts fits asks manner scope holds action) {store : Store}
    (good : protocol.good store) : action second store = action first store := by
  induction acts generalizing store with
  | pure | throw | change => rfl
  | bind acts _ ih rest =>
    -- the rest starts in the store that the first environment leaves behind, and the protocol is about that
    have followed := acts.follows answers good
    refine Eval.bind_congr (ih good) fun value after run => ?_
    rw [run] at followed
    exact rest value followed.1 followed.2.1
  | read _ rest => exact rest store (protocol.kind good) good
  | @react _ _ _ _ step next each _ rest =>
    have fit := protocol.kind good
    have moved := (each store fit).followed good
    change (step store >>= fun value => next store value second) store = _
    refine Eval.bind_congr rfl fun value after run => ?_
    rw [run] at moved
    exact rest store value fit moved.2.1
  | frame each _ rest =>
    obtain ⟨middle, frame, changes, new, made⟩ := each store (protocol.kind good)
    refine Eval.bind_congr rfl fun inner after run => ?_
    cases made.symm.trans run
    have moved := (protocol.changes good changes).1
    exact rest _ (protocol.opens moved) (protocol.frame moved new)
  | ask question => exact same question store good
  | rethrow _ _ ih | pass _ _ _ ih => exact Eval.tryCatch_congr (ih good) fun _ _ _ => rfl
  | recover _ acts _ others ih handling =>
    have followed := acts.follows answers good
    refine Eval.tryCatch_congr (ih good) fun escape after run => ?_
    rw [run] at followed
    cases escape with
    | thrown exception => exact handling exception followed.1
    | failure | unreadable | fault | tooDeep | outOfSteps => rw [others _ rfl]
  | inspect _ acts _ ih handling =>
    have followed := acts.follows answers good
    refine Eval.tryCatch_congr (ih good) fun escape after run => ?_
    rw [run] at followed
    exact handling escape followed.1

/-! ## Code of one kind -/

/-- The protocol that keeps the functions of the store to code of one kind and asks for nothing else. -/
def Protocol.ofKind (fits : Code → Prop) (manner : Manner) (opens : ∀ frame, manner.opens frame) :
    Protocol fits manner where
  good store := store.Fits fits
  step _ _ _ := True
  kind good := good
  opens _ := opens _
  refl _ _ := trivial
  trans _ _ := trivial
  change good change := ⟨change.fits good, trivial⟩
  frame good _ := good
  inner _ _ _ _ _ _ := trivial

end

/-! ## Exceptions -/

/-- In every store the second evaluation does what the first does, or it ends with an exception whose value
satisfies a condition. -/
def Interrupted {α : Type} (raised : Value → Prop) (first second : Eval α) : Prop :=
  ∀ store, second store = first store ∨
    ∃ exception after, raised exception.value ∧ second store = .error (.thrown exception) after

theorem Interrupted.refl {α : Type} (raised : Value → Prop) (action : Eval α) : Interrupted raised action action :=
  fun _ => .inl rfl

/-- What is interrupted by an exception is still so if something follows. -/
theorem Interrupted.bind {α β : Type} {raised : Value → Prop} {first second : Eval α} {next next' : α → Eval β}
    (head : Interrupted raised first second)
    (rest : ∀ store value after, first store = .ok value after → (next' value after = next value after ∨
      ∃ exception final, raised exception.value ∧ next' value after = .error (.thrown exception) final)) :
    Interrupted raised (first >>= next) (second >>= next') := by
  intro store
  rw [Eval.bind_apply, Eval.bind_apply]
  rcases head store with same | ⟨exception, after, thrown, ends⟩
  · rw [same]
    cases run : first store with
    | ok value after => exact rest store value after run
    | error escape after => exact .inl rfl
  · rw [ends]
    exact .inr ⟨exception, after, thrown, rfl⟩

end LineScript
