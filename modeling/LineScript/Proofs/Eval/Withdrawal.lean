import LineScript.Proofs.Eval.Histories

/-!
# Loads that fail

A module is known as loaded before its program runs, and withdrawn if the program throws or fails. So after a load that
failed in one of these ways, the table of the modules has the modules that it had, and those whose own load was completed
in the meantime (`failed_loads_keep_completed_modules`); and the module itself runs again when it is imported again.

Other escapes withdraw nothing: limits of the surroundings, such as input that is used up, and nesting that is too deep.
Then a module whose program had begun to run stays in the table, half-loaded (`half_loaded_module_stays`).
-/

set_option autoImplicit false

namespace LineScript

section

variable {loopSteps levels : Nat} {importer : FrameId} {name : String} {store after : Store} {escape : Escape}
  {started : Module.Started} {began : Store}

/-- A module whose program throws or fails is not in the table any more. -/
theorem absent_of_withdrawal (new : store.modules.get? name = none)
    (starts : Module.start importer name store = .ok started began)
    (fails : Module.loadNew (runCode loopSteps levels) importer name store = .error escape after)
    (withdraws : escape.withdrawsModule = true) : name ∉ after.modules.names := by
  obtain ⟨inside, _, inner⟩ := happened_runCode loopSteps levels started.root (.block started.fetched.program) began
  rw [Eval.leaves] at inner
  rw [Module.loadNew_of_start starts] at fails
  cases run : runCode loopSteps levels started.root (.block started.fetched.program) began with
  | ok completion ended =>
    obtain ⟨last, finished, _⟩ := Module.finish_ok (fun _ => True) name started completion ended
    rw [run, finished] at fails
    cases fails
  | error other ended =>
    rw [run] at inner fails
    cases fails
    obtain ⟨modules, absent, _⟩ := Happened.Accounts.withdrawn new starts inner.accounts
    simp only [withdraws, if_true]
    rw [modules, Bindings.names_append, List.mem_append, not_or]
    exact ⟨Bindings.get?_eq_none_iff.mp new, absent⟩

/-- A load that fails makes a history. Its loads are settled if the escape withdraws modules, and otherwise the module
is in the table if its program had begun to run. -/
theorem happened_failure (new : store.modules.get? name = none)
    (fails : Module.load (runCode loopSteps levels) importer name store = .error escape after) :
    ∃ history : History, Happened loopSteps store history after ∧
      (escape.withdrawsModule = true → history.Settled ∧ name ∉ after.modules.names) ∧
      (escape.withdrawsModule = false → (name ∈ after.modules.names ↔
        ∃ started began, Module.start importer name store = .ok started began)) := by
  rw [Module.load_of_new new] at fails
  cases start : Module.start importer name store with
  | error other failed =>
    rw [Module.loadNew_of_failed start] at fails
    cases fails
    have quiet : Quiet (fun _ => True) store after := Module.quiet_of_failed store.fits_all start
    have absent : name ∉ after.modules.names := by
      rw [quiet.modules]
      exact Bindings.get?_eq_none_iff.mp new
    refine ⟨[], .quietly (.refl store) quiet, fun _ => ⟨.nil, absent⟩, fun _ => ⟨fun listed => absurd listed absent, ?_⟩⟩
    rintro ⟨_, _, same⟩
    cases same
  | ok started began =>
    obtain ⟨inside, _, settled, happened⟩ := happened_loadNew (outcome_runCode loopSteps levels) new start
    rw [Eval.leaves, fails] at happened
    rw [fails] at settled
    refine ⟨_, happened, fun withdraws => ?_, fun stays => ⟨fun _ => ⟨started, began, rfl⟩, fun _ => ?_⟩⟩
    · have ended : LoadState.after (.error escape after : EStateM.Result Escape Store InstanceId) ≠ .unfinished := by
        simp [LoadState.after, withdraws]
      exact ⟨.load ended (settled ended), absent_of_withdrawal new start fails withdraws⟩
    · rw [happened.accounts.modules, Bindings.names_append]
      refine List.mem_append_right _ ?_
      simp [History.entries, LoadState.after, stays, LoadEvent.entry?]

/-- Whenever the load of a module that is not known as loaded ends with an escape, the table of the modules has what it
had, and after that what is left of the loads in the meantime. If the escape is an exception or an error of the language,
these are the loads that were completed; the module is not listed, and the next import of it loads it anew. After any
other escape the module is listed, if its program had begun to run. -/
theorem failed_loads_keep_completed_modules (new : store.modules.get? name = none)
    (fails : Module.load (runCode loopSteps levels) importer name store = .error escape after) :
    ∃ history : History, Happened loopSteps store history after ∧
      after.modules = store.modules ++ history.entries ∧
      (escape.withdrawsModule = true →
        history.entries = history.completed ∧ after.modules.get? name = none ∧ name ∉ after.modules.names ∧
        ∀ run importer, Module.load run importer name after = Module.loadNew run importer name after) ∧
      (escape.withdrawsModule = false → (name ∈ after.modules.names ↔
        ∃ started began, Module.start importer name store = .ok started began)) := by
  obtain ⟨history, happened, withdrawn, stays⟩ := happened_failure new fails
  refine ⟨history, happened, happened.accounts.modules, fun withdraws => ?_, stays⟩
  obtain ⟨settled, absent⟩ := withdrawn withdraws
  have unknown := Bindings.get?_eq_none_iff.mpr absent
  exact ⟨settled.entries_eq, unknown, absent, fun _ _ => Module.load_of_new unknown⟩

end

/-! ## Two loads that fail -/

/-- A file with a text in it, all of whose characters are of one byte. -/
def Files.Entry.ofText (text : String) : Files.Entry :=
  .file (text.toList.map fun c => c.toNat.toUInt8)

/-- The store of a program that has just begun to run, with the texts of some modules. -/
def Store.withModules (modules : List (String × String)) : Store :=
  (Eval.newRoot "main.toy" [] true).leaves (.initial .default
    ⟨["w"], modules.map fun file => (["w", file.1 ++ ".toy"], .ofText file.2)⟩ [] 0)

/-- The evaluation ends with an escape that passes a test. -/
def Eval.escapes {α : Type} (action : Eval α) (test : Escape → Store → Bool) (store : Store) : Bool :=
  match action store with
  | .ok _ _ => false
  | .error escape after => test escape after

theorem Eval.of_escapes {α : Type} {action : Eval α} {test : Escape → Store → Bool} {store : Store}
    (escapes : action.escapes test store = true) :
    ∃ escape after, action store = .error escape after ∧ test escape after = true := by
  rw [Eval.escapes] at escapes
  split at escapes
  · cases escapes
  · next escape after run => exact ⟨escape, after, run, escapes⟩

set_option maxRecDepth 4000 in
/-- A module imports another one, which imports it in turn, and then throws. The other one stays. -/
theorem failed_loads_keep_completed_modules_in_cycle :
    let store := Store.withModules [("m", "import n\nthrow 1\n"), ("n", "import m\n")]
    ∃ escape after history, store.modules.get? "m" = none ∧
      Module.load (engineFor 1000).run ⟨0⟩ "m" store = .error escape after ∧ escape.withdrawsModule = true ∧
      Happened loopSteps store history after ∧ history.completed.names = ["n"] ∧ after.modules.names = ["n"] ∧
      after.modules.get? "m" = none := by
  intro store
  obtain ⟨new, none, escapes⟩ : store.modules.get? "m" = none ∧ store.modules = [] ∧
      (Module.load (engineFor 1000).run ⟨0⟩ "m").escapes
        (fun escape after => escape.withdrawsModule && after.modules.names == ["n"]) store = true := by decide +kernel
  clear_value store
  obtain ⟨escape, after, fails, ends⟩ := Eval.of_escapes escapes
  rw [Bool.and_eq_true, beq_iff_eq] at ends
  obtain ⟨withdraws, names⟩ := ends
  obtain ⟨history, happened, modules, withdrawn, _⟩ := failed_loads_keep_completed_modules new fails
  obtain ⟨completed, unknown, _⟩ := withdrawn withdraws
  refine ⟨escape, after, history, new, fails, withdraws, happened, ?_, names, unknown⟩
  rw [← completed, ← names, modules, none, List.nil_append]

set_option maxRecDepth 4000 in
/-- A module asks for input and there is none. It stays in the table, and is found there when it is imported again. -/
theorem half_loaded_module_stays :
    let store := Store.withModules [("m", "input()\n")]
    store.modules.get? "m" = none ∧
    ∃ escape after object, Module.load (engineFor 1000).run ⟨0⟩ "m" store = .error escape after ∧
      after.modules.names = ["m"] ∧ ∀ run importer, Module.load run importer "m" after = .ok object after := by
  intro store
  obtain ⟨new, escapes⟩ : store.modules.get? "m" = none ∧
      (Module.load (engineFor 1000).run ⟨0⟩ "m").escapes (fun _ after => after.modules.names == ["m"]) store = true := by
    decide +kernel
  clear_value store
  obtain ⟨escape, after, fails, names⟩ := Eval.of_escapes escapes
  rw [beq_iff_eq] at names
  have listed : (after.modules.get? "m").isSome = true := by
    rw [Bindings.get?_isSome_iff, names]
    exact List.mem_singleton_self "m"
  obtain ⟨object, known⟩ := Option.isSome_iff_exists.mp listed
  exact ⟨new, escape, after, object, fails, names, fun _ _ => Module.load_of_known known⟩

end LineScript
