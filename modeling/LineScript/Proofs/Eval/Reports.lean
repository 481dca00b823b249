import LineScript.Proofs.Eval.Courses
import LineScript.Proofs.Store.Frames

/-!
# Escapes that pass

An evaluation that neither catches nor marks escapes lets those pass that come from its answers, and its own ones
are unmarked. So what is told of the escapes of the answers, and of unmarked escapes anyway, can be told of its
escapes (`Acts.reports`), and of those of built-in functions (`reports_native`). This is a course (`Course.telling`).
-/

set_option autoImplicit false

namespace LineScript

/-- The result of a run from a store: the frames of the store are still there, and something is told of an escape. -/
def Reports {α : Type} (told : Escape → Store → Prop) (holds : α → Prop) (store : Store) :
    EStateM.Result Escape Store α → Prop
  | .ok value after => holds value ∧ store.Extends after
  | .error escape after => store.Extends after ∧ told escape after

/-- It is told of unmarked escapes, and it can still be told of an escape later. -/
structure Telling (told : Escape → Store → Prop) : Prop where
  unmarked : ∀ escape store, escape.marks = [] → told escape store
  later : ∀ {escape : Escape} {store after : Store}, told escape store → store.Extends after → told escape after

section

variable {α β : Type} {told : Escape → Store → Prop} {holds : α → Prop} {holds' : β → Prop} {store : Store}

/-- What happens after some steps is seen from where the steps began. -/
theorem Reports.after {middle : Store} {result : EStateM.Result Escape Store α} (before : store.Extends middle)
    (rest : Reports told holds middle result) : Reports told holds store result := by
  cases result with
  | ok value after => exact ⟨rest.1, before.trans rest.2⟩
  | error escape after => exact ⟨before.trans rest.1, rest.2⟩

theorem Reports.imp {told' : Escape → Store → Prop} {result : EStateM.Result Escape Store α}
    (reports : Reports told holds store result) (imp : ∀ escape after, told escape after → told' escape after) :
    Reports told' holds store result := by
  cases result with
  | ok value after => exact reports
  | error escape after => exact ⟨reports.1, imp escape after reports.2⟩

theorem Reports.bind {action : Eval α} {next : α → Eval β} (first : Reports told holds store (action store))
    (rest : ∀ value after, holds value → store.Extends after → Reports told holds' after (next value after)) :
    Reports told holds' store ((action >>= next) store) := by
  rw [Eval.bind_apply]
  cases run : action store with
  | ok value after =>
    rw [run] at first
    exact (rest value after first.1 first.2).after first.2
  | error escape after =>
    rw [run] at first
    exact first

end

/-- The manner of an evaluation that neither catches nor marks escapes, and opens frames that a store has not yet. -/
def Manner.passing (base : Store) : Manner :=
  ⟨false, false, false, true, true, true, fun frame => base.frames.size ≤ frame.index⟩

/-- The course of runs from a store on: its frames stay, and something is told of escapes. -/
def Course.telling {told : Escape → Store → Prop} (telling : Telling told) (base : Store) :
    Course (fun _ => True) (.passing base) where
  good scope store := base.Extends store ∧ scope.index < store.frames.size
  step := Store.Extends
  ends escape store after := store.Extends after ∧ told escape after
  fatal _ := False
  kind _ := Store.fits_all _
  opens good := good.1.grows
  keeps good grown := ⟨good.1.trans grown, Nat.lt_of_lt_of_le good.2 grown.grows⟩
  kept good ended := ⟨good.1.trans ended.1, Nat.lt_of_lt_of_le good.2 ended.1.grows⟩
  refl := .refl
  trans := .trans
  throws escape store unmarked := ⟨.refl store, telling.unmarked escape store unmarked⟩
  before grown ended := ⟨grown.trans ended.1, ended.2⟩
  later ended grown := ⟨ended.1.trans grown, telling.later ended.2 grown⟩
  caught ended := ended.1
  passes marks := by cases marks
  change _ change := change.extends
  frame good _ := ⟨.addFrame _ _, good.1.trans (.addFrame _ _), by simp [Store.addFrame]⟩
  uncaught := Escape.isException_of_false
  fatal_pass _ _ := id

section

variable {E α : Type} {told : Escape → Store → Prop} {base : Store} {scope : FrameId}
  {asks : FrameId → (α : Type) → (E → Eval α) → Prop} {holds : α → Prop} {store : Store}

theorem Course.Carried.reports {telling : Telling told} {first second : EStateM.Result Escape Store α}
    (carried : (Course.telling telling base).Carried holds store first second) : Reports told holds store first := by
  have outcome := carried.outcome fun _ => id
  cases first with
  | ok value after => exact outcome
  | error escape after => exact outcome

theorem Reports.carried (telling : Telling told) {result : EStateM.Result Escape Store α}
    (reports : Reports told holds store result) : (Course.telling telling base).Carried holds store result result := by
  refine .refl ?_
  cases result with
  | ok value after => exact reports
  | error escape after => exact reports

/-- An evaluation lets the escapes of its answers pass, and its own ones are unmarked. -/
theorem Acts.reports (telling : Telling told) {action : E → Eval α} (env : E)
    (answers : ∀ ⦃scope : FrameId⦄ ⦃α : Type⦄ ⦃action : E → Eval α⦄, asks scope α action → ∀ store,
      base.Extends store → scope.index < store.frames.size → Reports told (fun _ => True) store (action env store))
    (acts : Acts (fun _ => True) asks (.passing base) scope holds action) (since : base.Extends store)
    (inside : scope.index < store.frames.size) : Reports told holds store (action env store) := by
  have carried : AsksCarried (.telling telling base) asks env env :=
    fun _ _ _ question store good => (answers question store good.1 good.2).carried telling
  exact (acts.carried rfl carried ⟨since, inside⟩).reports

end

/-! ## Built-in functions -/

/-- The question how code runs in a frame that a store has not yet. -/
inductive RunsOpened (base : Store) : FrameId → (α : Type) → (Runner → Eval α) → Prop where
  | run {inner : FrameId} {code : Code} (opened : base.frames.size ≤ inner.index) :
      RunsOpened base inner Completion fun runner => runner inner code

/-- Something is told of the escapes of code that runs in frames that a store has not yet. -/
def RunnerReports (told : Escape → Store → Prop) (base : Store) (runner : Runner) : Prop :=
  ∀ inner code store, base.frames.size ≤ inner.index → base.Extends store → inner.index < store.frames.size →
    Reports told (fun _ => True) store (runner inner code store)

/-- Something is told of the escapes of a built-in function. -/
theorem reports_native {told : Escape → Store → Prop} (telling : Telling told) {base : Store} {runner : Runner}
    (runs : RunnerReports told base runner) {scope : FrameId} (loopSteps : Nat) (native : Native) {store : Store}
    (since : base.Extends store) (inside : scope.index < store.frames.size) :
    Reports told (fun _ => True) store (native.run ⟨runner, loopSteps⟩ scope store) := by
  have answers : AsksCarried (.telling telling base) (RunsOpened base) runner runner := by
    intro scope α action question store good
    cases question with
    | run opened => exact (runs _ _ store opened good.1 good.2).carried telling
  exact (carried_native rfl answers loopSteps rfl ⟨fun _ _ opened _ => .run opened⟩ native ⟨since, inside⟩).reports

end LineScript
