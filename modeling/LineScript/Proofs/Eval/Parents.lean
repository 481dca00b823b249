import LineScript.Proofs.Eval.Inheritance

/-!
# Which parents a class may have

A class names its parents, and these lead to further names, through the parents of the classes that they stand for.
Only a class called `Object` leads no further. The check of a new class goes through these names in an order of its own,
each one once, and it is passed just if every one of them stands for a class and none is the name of the new class.
Names may lead around in circles apart from that. The search for a method goes through the same names level by level;
so it comes to a result in every class that passed the check.
-/

set_option autoImplicit false

namespace LineScript

namespace Store

/-- A name stands for a class in a frame. -/
def StandsFor (store : Store) (scope : FrameId) (name : String) (node : ClassNode) : Prop :=
  ∃ id, store.lookup? scope name = some (.instance id) ∧ store.classNode? id = some node

/-- The names that a list of parents reaches in a frame. -/
inductive Reaches (store : Store) (scope : FrameId) (names : List String) : String → Prop where
  | listed {name : String} (member : name ∈ names) : Reaches store scope names name
  | above {name parent : String} {node : ClassNode} (reaches : Reaches store scope names name)
      (stands : store.StandsFor scope name node) (branch : node.name ≠ "Object") (member : parent ∈ node.parents) :
      Reaches store scope names parent

section

variable {store : Store} {scope : FrameId} {name : String} {names : List String}

theorem resolveClass_eq_ok_iff {node : ClassNode} :
    store.resolveClass scope name = .ok node ↔ store.StandsFor scope name node := by
  rw [resolveClass, StandsFor]
  cases found : store.lookup? scope name with
  | none => simp
  | some value =>
    cases value with
    | null | number | text | boolean => simp
    | «instance» id => cases class? : store.classNode? id <;> simp [class?]

/-- A name that stands for no class is not defined, or it is bound to something else. -/
theorem resolveClass_eq_error {cause : FailureCause} (fails : store.resolveClass scope name = .error cause) :
    (∀ node, ¬ store.StandsFor scope name node) ∧ (cause = .notDefined name ∨ cause = .noClass name) := by
  refine ⟨fun node stands => ?_, ?_⟩
  · rw [resolveClass_eq_ok_iff.mpr stands] at fails
    cases fails
  · rw [resolveClass] at fails
    split at fails
    · exact .inl (Except.error.inj fails).symm
    · split at fails
      · cases fails
      · exact .inr (Except.error.inj fails).symm
    · exact .inr (Except.error.inj fails).symm

theorem reaches_iff_leads : store.Reaches scope names name ↔ Leads (store.parentsAt scope) names name := by
  constructor
  · intro reaches
    induction reaches with
    | listed member => exact .here member
    | above _ stands branch member ih =>
      refine ih.step ?_
      rwa [parentsAt_of_ok (resolveClass_eq_ok_iff.mpr stands),
        ClassNode.followed_of_branch (decide_eq_false branch)]
  · intro leads
    induction leads with
    | here member => exact .listed member
    | step _ member ih =>
      rw [parentsAt] at member
      split at member
      · next node stands =>
          rw [ClassNode.followed] at member
          split at member
          · cases member
          · next branch => exact ih.above (resolveClass_eq_ok_iff.mp stands) (by simpa [ClassNode.isRoot] using branch) member
      · cases member

theorem sound_iff {node : ClassNode} : store.Sound scope node ↔
    ∀ name, store.Reaches scope node.parents name → name ≠ node.name ∧ ∃ above, store.StandsFor scope name above := by
  simp only [Sound, reaches_iff_leads, resolveClass_eq_ok_iff]

/-- The check is passed by sound classes only, and by all of them. -/
theorem validateParents_eq_ok_iff {node : ClassNode} :
    store.validateParents scope node = .ok () ↔ store.Sound (parentScope node scope) node := by
  refine ⟨fun passed _ leads => validateParents_ok passed leads, fun sound => ?_⟩
  cases result : store.validateParents scope node with
  | ok => rfl
  | error cause =>
    obtain ⟨name, leads, why⟩ := (checks_validateParents store scope node).reason result
    have led := leads.trans fun name member => .here (List.mem_reverse.mp member)
    obtain ⟨other, above, stands⟩ := sound name led
    rcases why with ⟨same, -⟩ | fails
    · exact absurd same other
    · rw [stands] at fails
      cases fails

/-- The search for a method comes to a result in every sound class. -/
theorem Sound.findMethod {frame : FrameId} {node : ClassNode} (sound : store.Sound (parentScope node frame) node)
    (wanted : String) : ∃ found, store.findMethod frame node wanted = .ok found := by
  cases own : node.ownMethod? wanted with
  | some method => exact ⟨some method, by rw [Store.findMethod, own]⟩
  | none =>
    cases root : node.isRoot with
    | true => exact ⟨none, by rw [Store.findMethod, own, root]; rfl⟩
    | false =>
      obtain ⟨found, run, -⟩ := sound.nearest root own
      exact ⟨found, run⟩

end

end Store

/-- A class whose parents do not pass the check is not made. -/
theorem evalExpr_class_of_error {engine : Engine} {scope : FrameId} {literal : ClassLiteral} {store : Store}
    {cause : FailureCause} (failed : store.validateParents scope (.ofLiteral literal scope) = .error cause) :
    evalExpr engine scope (.class literal) store = .error (.ofCause cause) store := by
  obtain ⟨name, parents, methods, body⟩ := literal
  have unmade : newClass scope ⟨name, parents, methods, body⟩ store = .error (.ofCause cause) store := by
    rw [newClass, Eval.get_bind_apply, Eval.bind_apply, failed]
    rfl
  rw [evalExpr, Eval.bind_apply, unmade]

/-- Which parents a class may have. The check of a new class comes to an end, in every store. It is passed if and only
if every name that the parents reach stands for a class and is not the name of the new class. If it is not passed, the
class is not made, and the failure names a reason: the parents reach the name of the class, or a name that stands for no
class. And if it is passed, the search for a method of any name comes to a result, for code in any frame. -/
theorem parents_pass_iff_sound (store : Store) (scope : FrameId) (literal : ClassLiteral) :
    let node := ClassNode.ofLiteral literal scope
    store.Checks scope literal.name [] literal.parents.reverse (store.validateParents scope node) ∧
    (store.validateParents scope node = .ok () ↔ ∀ name, store.Reaches scope literal.parents name →
      name ≠ literal.name ∧ ∃ above, store.StandsFor scope name above) ∧
    (∀ cause, store.validateParents scope node = .error cause →
      (cause = .inheritsItself literal.name ∧ cause.kind = .hierarchy ∧
          store.Reaches scope literal.parents literal.name ∨
        cause.kind = .reference ∧ ∃ name, store.Reaches scope literal.parents name ∧
          (∀ above, ¬ store.StandsFor scope name above) ∧ (cause = .notDefined name ∨ cause = .noClass name)) ∧
      ∀ engine, evalExpr engine scope (.class literal) store = .error (.ofCause cause) store) ∧
    (store.validateParents scope node = .ok () →
      ∀ frame wanted, ∃ found, store.findMethod frame node wanted = .ok found) := by
  intro node
  have checks := store.checks_validateParents scope node
  refine ⟨checks, Store.validateParents_eq_ok_iff.trans Store.sound_iff, fun cause failed => ⟨?_, fun engine => ?_⟩, ?_⟩
  · obtain ⟨name, leads, why⟩ := checks.reason failed
    have reached : store.Reaches scope literal.parents name :=
      Store.reaches_iff_leads.mpr (leads.trans fun name member => .here (List.mem_reverse.mp member))
    rcases why with ⟨rfl, rfl⟩ | fails
    · exact .inl ⟨rfl, rfl, reached⟩
    · obtain ⟨none, causes⟩ := Store.resolveClass_eq_error fails
      refine .inr ⟨?_, name, reached, none, causes⟩
      rcases causes with rfl | rfl <;> rfl
  · exact evalExpr_class_of_error failed
  · intro passed frame wanted
    exact (Store.validateParents_eq_ok_iff.mp passed).findMethod wanted

/-- After a class and one below it, another class of the first name that is below the second one. -/
theorem parents_pass_iff_sound_in_circle :
    let store := (Interpreter.run "class A:\nend\nclass B(A):\nend" "main.toy").leaves (.initial .default ⟨[], []⟩ [] 0)
    let literal : ClassLiteral := ⟨"A", ["B"], [], []⟩
    store.validateParents ⟨0⟩ (.ofLiteral literal ⟨0⟩) = .error (.inheritsItself "A") ∧
    store.Reaches ⟨0⟩ ["B"] "A" ∧
    evalExpr (engineFor 0) ⟨0⟩ (.class literal) store = .error (.ofCause (.inheritsItself "A")) store := by
  intro store literal
  have failed : store.validateParents ⟨0⟩ (.ofLiteral literal ⟨0⟩) = .error (.inheritsItself "A") := by decide +kernel
  obtain ⟨-, -, fails, -⟩ := parents_pass_iff_sound store ⟨0⟩ literal
  obtain ⟨⟨-, -, reached⟩ | ⟨kind, -⟩, unmade⟩ := fails _ failed
  · exact ⟨failed, reached, unmade _⟩
  · cases kind

end LineScript
