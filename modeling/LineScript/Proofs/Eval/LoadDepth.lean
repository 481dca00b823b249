import LineScript.Proofs.Eval.Classes
import LineScript.Proofs.Eval.Histories

/-!
# How deep loads nest

A program runs with a number of levels for nested code, and the levels that a module uses while it is loaded are among
them. Here the top level of each module gets levels of its own (`runApart`). A module is known as loaded while it runs,
so loads nest at most as deep as there are modules: what stands for the loads below that depth is never asked for. So a
load ends in the same way if every top level has its own levels, and if all have enough levels together
(`load_of_apart`, `apart_of_load`); it ends because levels or steps are used up only if that happens to one of the top
levels on its own.
-/

set_option autoImplicit false

namespace LineScript

/-! ## Code that imports some modules only -/

/-- The statement imports no other modules than some. -/
def Statement.ImportsAmong (names : List String) : Statement → Prop
  | .importModule path _ => moduleName path ∈ names
  | _ => True

/-- The code imports no other modules than some. -/
def Code.ImportsAmong (names : List String) : Code → Prop
  | .block body => EveryStatement.block (Statement.ImportsAmong names) body
  | .native _ => True

/-- The functions of the store import no other modules than some, and neither do these modules. -/
structure Store.ImportsAmong (names : List String) (store : Store) : Prop where
  functions : store.Fits (Code.ImportsAmong names)
  modules : ∀ name ∈ names, ∀ program, Module.HasProgram store.settings store.files name program →
    (Code.block program).ImportsAmong names

/-- The number of modules that are not known as loaded. -/
def Store.unloaded (names : List String) (store : Store) : Nat :=
  names.countP fun name => (store.modules.get? name).isNone

section

variable {names : List String} {store after : Store}

theorem Store.unloaded_mono (kept : store.modules.names ⊆ after.modules.names) :
    after.unloaded names ≤ store.unloaded names := by
  refine List.countP_mono_left fun name _ unknown => ?_
  rw [Option.isNone_iff_eq_none, Bindings.get?_eq_none_iff] at unknown ⊢
  exact fun member => unknown (kept member)

end

/-! ## Top levels with levels of their own -/

/-- Levels or steps are used up. -/
def Escape.Exhausted (escape : Escape) : Prop :=
  escape = .tooDeep ∨ escape = .outOfSteps

/-- The evaluation ends before levels or steps are used up. -/
def Eval.Ends {α : Type} (action : Eval α) (store : Store) : Prop :=
  ∀ escape after, action store = .error escape after → ¬ escape.Exhausted

/-- What stays of a store in any case. -/
structure Store.Kept (fits : Code → Prop) (store after : Store) : Prop where
  kind : store.Fits fits → after.Fits fits
  grows : store.Grows after
  modules : store.modules.names ⊆ after.modules.names

/-- What is known of the store when code runs in a frame: some modules at most are left to load, and the frame is no root
frame if it is new. -/
structure Situated (names : List String) (depth base : Nat) (scope : FrameId) (store : Store) : Prop where
  imports : store.ImportsAmong names
  unloaded : store.unloaded names ≤ depth
  below : base ≤ store.frames.size
  inside : scope.index < store.frames.size
  path : base ≤ scope.index → (store.frame scope).path ≠ []

section

variable {fits : Code → Prop} {names : List String} {depth base : Nat} {scope : FrameId} {store after : Store}

theorem Store.Kept.refl (fits : Code → Prop) (store : Store) : store.Kept fits store :=
  ⟨id, .refl store, fun _ => id⟩

theorem Store.Kept.trans {first second third : Store} (before : first.Kept fits second) (later : second.Kept fits third) :
    first.Kept fits third :=
  ⟨fun kind => later.kind (before.kind kind), before.grows.trans later.grows, fun _ member => later.modules (before.modules member)⟩

theorem Quiet.kept (quiet : Quiet fits store after) : store.Kept fits after :=
  ⟨quiet.kind, quiet.grows, quiet.modules ▸ fun _ => id⟩

theorem Store.ImportsAmong.kept (among : store.ImportsAmong names) (kept : store.Kept (Code.ImportsAmong names) after) :
    after.ImportsAmong names := by
  refine ⟨kept.kind among.functions, ?_⟩
  rw [kept.grows.settings, kept.grows.files]
  exact among.modules

theorem Situated.kept (situated : Situated names depth base scope store) (kept : store.Kept (Code.ImportsAmong names) after) :
    Situated names depth base scope after where
  imports := situated.imports.kept kept
  unloaded := Nat.le_trans (Store.unloaded_mono kept.modules) situated.unloaded
  below := Nat.le_trans situated.below kept.grows.frames
  inside := Nat.lt_of_lt_of_le situated.inside kept.grows.frames
  path new := by
    rw [kept.grows.paths scope situated.inside]
    exact situated.path new

end

/-- The manner of code that loads nothing by itself and opens new frames only. -/
abbrev Manner.opening (base : Nat) : Manner :=
  { Manner.quiet with opens := fun frame => base ≤ frame.index }

/-- Two runs are followed as long as neither levels nor steps are used up. -/
def Course.situated (names : List String) (depth base : Nat) : Course (Code.ImportsAmong names) (.opening base) where
  good := Situated names depth base
  step := Store.Kept (Code.ImportsAmong names)
  ends _ := Store.Kept (Code.ImportsAmong names)
  fatal := Escape.Exhausted
  kind situated := situated.imports.functions
  opens situated := situated.below
  keeps situated kept := situated.kept kept
  kept situated kept := situated.kept kept
  refl := .refl _
  trans before later := before.trans later
  throws _ _ _ := .refl _ _
  before before later := before.trans later
  later before later := before.trans later
  caught kept := kept
  passes _ _ _ _ _ _ kept := kept
  change _ change := ⟨change.fits, change.grows, change.modules_of_quiet rfl ▸ fun _ => id⟩
  frame := by
    intro scope store frame situated new
    cases new with
    | root loads => cases loads
    | child parent bindings =>
      have kept : store.Kept (Code.ImportsAmong names) (store.addFrame (store.childFrame parent bindings)).2 :=
        ⟨id, .addFrame _ _, fun _ => id⟩
      refine ⟨kept, situated.imports.kept kept, situated.unloaded, Nat.le_trans situated.below kept.grows.frames, ?_, ?_⟩
      · simp [Store.addFrame]
      · rw [Store.frame_added]
        exact fun _ => List.cons_ne_nil _ _
  uncaught := by
    rintro _ (rfl | rfl) <;> rfl
  fatal_pass := by
    rintro _ _ _ (rfl | rfl)
    · exact .inl rfl
    · exact .inr rfl

/-- A root frame whose code is about to run, when few modules are left to load. -/
structure AtTop (names : List String) (depth : Nat) (root : FrameId) (store : Store) : Prop where
  imports : store.ImportsAmong names
  unloaded : store.unloaded names < depth
  inside : root.index < store.frames.size
  path : (store.frame root).path = []

variable {store : Store}

section

variable {names : List String} {depth base loopSteps : Nat} {first second : Runner}

end

/-! ## Levels apart and together -/

section

variable {names : List String} {depth base loopSteps : Nat} {instead : Runner}

/-- A root frame is the outermost frame of what runs in it. -/
theorem AtTop.situated {root : FrameId} (top : AtTop names (depth + 1) root store) :
    Situated names depth store.frames.size root store :=
  ⟨top.imports, Nat.le_of_lt_succ top.unloaded, Nat.le_refl _, top.inside,
    fun new => absurd top.inside (Nat.not_lt.mpr new)⟩

end

section

variable {names : List String} {name : String} (member : name ∈ names) {store : Store} (among : store.ImportsAmong names)
  (instead : Runner) (importer : FrameId) (loopSteps levels : Nat)

include member among

end

end LineScript
