import LineScript.Proofs.Eval.Programs
import LineScript.Proofs.Store.Hierarchy

/-!
# Inherited methods

A class has the methods of its parents, as long as the names that lead from a parent to its own ancestors stand for
the same classes where the class was defined as where the parent was. All ancestors of a class are looked up in the
frame in which that class was defined, so a parent that was defined elsewhere can lose methods on the way
(`method_is_not_inherited`), and so can every parent of a class that is called `Object`.
-/

set_option autoImplicit false

namespace LineScript

namespace Store

/-- The parents of a class lead to classes only, and not to the name of the class. -/
def Sound (store : Store) (scope : FrameId) (node : ClassNode) : Prop :=
  ∀ name, Leads (store.parentsAt scope) node.parents name →
    name ≠ node.name ∧ ∃ above, store.resolveClass scope name = .ok above

section

variable {store other : Store} {scope frame : FrameId} {node above : ClassNode} {wanted : String}

/-- What the parents of a class lead to depends on the classes that the names stand for. -/
theorem parentsAt_congr {scope frame : FrameId} {name : String}
    (same : store.resolveClass scope name = other.resolveClass frame name) :
    store.parentsAt scope name = other.parentsAt frame name := by
  rw [parentsAt, parentsAt, same]

theorem methodAt_congr {scope frame : FrameId} {name : String}
    (same : store.resolveClass scope name = other.resolveClass frame name) :
    store.methodAt scope wanted name = other.methodAt frame wanted name := by
  rw [methodAt, methodAt, same]

theorem Sound.of_same (sound : other.Sound scope node) (same : ∀ name, Leads (other.parentsAt scope) node.parents name →
      store.resolveClass scope name = other.resolveClass scope name) : store.Sound scope node := by
  intro name leads
  have led := (leads_congr fun name leads => parentsAt_congr (same name leads)).mp leads
  rw [same name led]
  exact sound name led

/-- In a sound class the search finds the nearest method. -/
theorem Sound.nearest (sound : store.Sound (parentScope node frame) node) (named : node.isRoot = false)
    (own : node.ownMethod? wanted = none) :
    ∃ found, store.findMethod frame node wanted = .ok found ∧
      IsNearest (store.parentsAt (parentScope node frame)) (store.methodAt (parentScope node frame) wanted)
        node.parents found := by
  refine findMethod_nearest named own (fun name leads _ => ?_) fun leads => absurd rfl (sound node.name leads).1
  obtain ⟨above, stands⟩ := (sound name leads).2
  exact ⟨above, charts_at stands⟩

/-- A sound class has a method if its parents lead to one. -/
theorem Sound.exists_method (sound : store.Sound (parentScope node frame) node) (named : node.isRoot = false)
    {name : String} (leads : Leads (store.parentsAt (parentScope node frame)) node.parents name)
    (owned : (store.methodAt (parentScope node frame) wanted name).isSome) :
    ∃ method, store.findMethod frame node wanted = .ok (some method) := by
  cases own : node.ownMethod? wanted with
  | some method => exact ⟨method, by rw [findMethod, own]⟩
  | none =>
    obtain ⟨found, run, nearest⟩ := sound.nearest named own
    obtain ⟨method, rfl⟩ := Option.isSome_iff_exists.mp (nearest.isSome_iff.mpr ⟨name, leads, owned⟩)
    exact ⟨method, run⟩

/-- A class called `Object` has own methods only. -/
theorem branch_of_findMethod {method : Function} (own : node.ownMethod? wanted = none)
    (found : store.findMethod frame node wanted = .ok (some method)) : node.isRoot = false := by
  cases root : node.isRoot with
  | false => rfl
  | true =>
    rw [findMethod, own, root] at found
    cases found

/-- The parents of a class lead to the method that it has, if that is not an own one. -/
theorem exists_owner {method : Function} (own : node.ownMethod? wanted = none)
    (known : ∀ name, Leads (store.parentsAt (parentScope node frame)) node.parents name →
      ∃ above, store.resolveClass (parentScope node frame) name = .ok above)
    (found : store.findMethod frame node wanted = .ok (some method)) :
    ∃ name, Leads (store.parentsAt (parentScope node frame)) node.parents name ∧
      (store.methodAt (parentScope node frame) wanted name).isSome := by
  obtain ⟨nearest, run, isNearest⟩ := findMethod_nearest_apart (branch_of_findMethod own found) own
    fun name leads _ => known name (leads.of_update _)
  rw [run] at found
  cases found
  obtain ⟨name, leads, owned⟩ := isNearest.isSome_iff.mp rfl
  refine ⟨name, leads.of_update _, ?_⟩
  rw [Function.update_apply] at owned
  split at owned
  · cases owned
  · exact owned

section

variable {caller : FrameId} {parent : String} {method : Function}
  (sound : store.Sound (parentScope node frame) node) (listed : parent ∈ node.parents)
  (stands : store.resolveClass (parentScope node frame) parent = .ok above)
  (same : ∀ name, Leads (store.parentsAt (parentScope above caller)) above.parents name →
    store.resolveClass (parentScope above caller) name = store.resolveClass (parentScope node frame) name)
  (found : store.findMethod caller above wanted = .ok (some method))

include listed stands same

/-- What a parent leads to, the class leads to. -/
theorem leads_of_parent (branch : above.isRoot = false) {name : String}
    (leads : Leads (store.parentsAt (parentScope above caller)) above.parents name) :
    Leads (store.parentsAt (parentScope node frame)) node.parents name := by
  have led := leads.mono fun name led above member => parentsAt_congr (same name led) ▸ member
  refine led.trans fun name member => (Leads.here listed).step ?_
  rwa [parentsAt_of_ok stands, ClassNode.followed_of_branch branch]

include sound

theorem Sound.stands_of_parent (branch : above.isRoot = false) {name : String}
    (leads : Leads (store.parentsAt (parentScope above caller)) above.parents name) :
    ∃ node, store.resolveClass (parentScope above caller) name = .ok node := by
  rw [same name leads]
  exact (sound name (leads_of_parent listed stands same branch leads)).2

include found

/-- A class has a method if one of its parents has it. -/
theorem Sound.inherits (named : node.isRoot = false) :
    ∃ inherited, store.findMethod frame node wanted = .ok (some inherited) := by
  cases own : above.ownMethod? wanted with
  | some method =>
    refine sound.exists_method named (.here listed) ?_
    rw [methodAt_of_ok stands, own]
    rfl
  | none =>
    have branch := branch_of_findMethod own found
    obtain ⟨name, leads, owned⟩ := exists_owner own
      (fun name leads => sound.stands_of_parent listed stands same branch leads) found
    refine sound.exists_method named (leads_of_parent listed stands same branch leads) ?_
    rwa [← methodAt_congr (same name leads)]

/-- The method of a parent is the nearest one where the class looks up its ancestors. -/
theorem Sound.nearest_of_parent (own : above.ownMethod? wanted = none)
    (self : Leads (store.parentsAt (parentScope above caller)) above.parents above.name →
      store.resolveClass (parentScope above caller) above.name = .ok above) :
    IsNearest (store.parentsAt (parentScope node frame)) (store.methodAt (parentScope node frame) wanted)
      above.parents (some method) := by
  have branch := branch_of_findMethod own found
  have known (name : String) (leads : Leads (store.parentsAt (parentScope above caller)) above.parents name) :
      ∃ node, store.Charts (parentScope above caller) wanted (store.parentsAt (parentScope above caller))
        (store.methodAt (parentScope above caller) wanted) name node := by
    obtain ⟨node, stands⟩ := sound.stands_of_parent listed stands same branch leads
    exact ⟨node, charts_at stands⟩
  obtain ⟨inherited, run, nearest⟩ := findMethod_nearest branch own (fun name leads _ => known name leads) fun leads => by
    rw [methodAt_of_ok (self leads), parentsAt_of_ok (self leads), ClassNode.followed_of_branch branch]
    exact ⟨own, fun _ member => member⟩
  rw [found] at run
  cases run
  exact nearest.congr fun name leads =>
    ⟨(parentsAt_congr (same name leads)).symm, (methodAt_congr (same name leads)).symm⟩

/-- A class without an own method has the method of its only parent. If the parent leads to its own name, that must
stand for it. -/
theorem Sound.inherits_only (named : node.isRoot = false) (only : node.parents = [parent])
    (inherited : node.ownMethod? wanted = none)
    (self : Leads (store.parentsAt (parentScope above caller)) above.parents above.name →
      store.resolveClass (parentScope above caller) above.name = .ok above) :
    store.findMethod frame node wanted = .ok (some method) := by
  have here : [parent].findSome? (store.methodAt (parentScope node frame) wanted) = above.ownMethod? wanted := by
    rw [List.findSome?_singleton, methodAt_of_ok stands]
  have nearest : IsNearest (store.parentsAt (parentScope node frame)) (store.methodAt (parentScope node frame) wanted)
      [parent] (some method) := by
    cases own : above.ownMethod? wanted with
    | some owned =>
      rw [findMethod, own] at found
      cases found
      exact .here (here.trans own)
    | none =>
      refine .further (here.trans own) ?_
      rw [List.flatMap_singleton, parentsAt_of_ok stands,
        ClassNode.followed_of_branch (branch_of_findMethod own found)]
      exact sound.nearest_of_parent listed stands same found own self
  obtain ⟨result, run, another⟩ := sound.nearest named inherited
  rw [only] at another
  rw [run, another.unique nearest]

end

end

end Store

/-- A class that is defined passed the check of its parents. -/
theorem validateParents_of_evalExpr {engine : Engine} {scope : FrameId} {literal : ClassLiteral} {value : Value}
    {before after : Store} (defined : evalExpr engine scope (.class literal) before = .ok value after) :
    before.validateParents scope (.ofLiteral literal scope) = .ok () := by
  obtain ⟨name, parents, methods, body⟩ := literal
  rw [evalExpr] at defined
  obtain ⟨made, later, new, -⟩ := Eval.of_bind_ok defined
  rw [newClass, Eval.get_bind_apply] at new
  obtain ⟨_, later, checked, -⟩ := Eval.of_bind_ok new
  cases passed : before.validateParents scope (.ofLiteral ⟨name, parents, methods, body⟩ scope) with
  | ok => rfl
  | error cause =>
    rw [passed] at checked
    cases checked

/-- The evaluation has a value. -/
def Eval.succeeds {α : Type} (action : Eval α) (store : Store) : Bool :=
  match action store with
  | .ok .. => true
  | .error .. => false

theorem Eval.of_succeeds {α : Type} {action : Eval α} {store : Store} (succeeds : action.succeeds store = true) :
    ∃ value after, action store = .ok value after := by
  rw [Eval.succeeds] at succeeds
  split at succeeds
  · next value after run => exact ⟨value, after, run⟩
  · cases succeeds

theorem eq_ok_of_toOption {ε α : Type} {result : Except ε α} {value : α} (found : result.toOption = some value) :
    result = .ok value := by
  cases result with
  | ok other => rw [Option.some_inj.mp found]
  | error error => cases found

/-- A name stands for the same instance in two frames. -/
def Store.sameInstance (store : Store) (name : String) (first second : FrameId) : Bool :=
  match store.lookup? first name, store.lookup? second name with
  | some (.instance one), some (.instance other) => decide (one = other)
  | _, _ => false

theorem Store.lookup?_of_sameInstance {store : Store} {name : String} {first second : FrameId}
    (same : store.sameInstance name first second = true) : store.lookup? first name = store.lookup? second name := by
  rw [Store.sameInstance] at same
  split at same
  · next one other here there => rw [here, there, of_decide_eq_true same]
  · cases same

/-- Classes inherit methods. A class is defined, and since then the names that its parents lead to stand for the same
classes where it was defined. If what a parent leads to stands for the same classes there as where the parent looks
it up, then the class has every method that the parent has. If it is the only parent and the class has no own method
of that name, it is the very same method, as long as the parent does not lead to another class of its own name. -/
theorem methods_are_inherited {engine : Engine} {scope frame : FrameId} {literal : ClassLiteral} {value : Value}
    {before after store : Store} (defined : evalExpr engine scope (.class literal) before = .ok value after)
    (named : literal.name ≠ "Object") (unchanged : ∀ name, Leads (before.parentsAt scope) literal.parents name →
      store.resolveClass scope name = before.resolveClass scope name) {parent : String} {above : ClassNode}
    (listed : parent ∈ literal.parents) (stands : store.resolveClass scope parent = .ok above)
    (same : ∀ name, Leads (store.parentsAt (Store.parentScope above frame)) above.parents name →
      store.resolveClass (Store.parentScope above frame) name = store.resolveClass scope name) {wanted : String}
    {method : Function} (found : store.findMethod frame above wanted = .ok (some method)) :
    (∃ inherited, store.findMethod frame (.ofLiteral literal scope) wanted = .ok (some inherited)) ∧
    (literal.parents = [parent] → (ClassNode.ofLiteral literal scope).ownMethod? wanted = none →
      (Leads (store.parentsAt (Store.parentScope above frame)) above.parents above.name →
        store.resolveClass (Store.parentScope above frame) above.name = .ok above) →
      store.findMethod frame (.ofLiteral literal scope) wanted = .ok (some method)) := by
  have sound : store.Sound scope (.ofLiteral literal scope) :=
    Store.Sound.of_same (fun _ => Store.validateParents_ok (validateParents_of_evalExpr defined)) unchanged
  have branch : (ClassNode.ofLiteral literal scope).isRoot = false := decide_eq_false named
  exact ⟨Store.Sound.inherits sound listed stands same found branch,
    fun only own self => Store.Sound.inherits_only sound listed stands same found branch only own self⟩

/-- The parent is defined in a function, in a frame of its own. -/
theorem methods_are_inherited_from_function :
    let store := (Interpreter.run
      "class B:\ndef m():\nend\nend\ndef f():\nclass P(B):\nend\nreturn P\nend\nP = f()"
      "main.toy").leaves (.initial .default ⟨[], []⟩ [] 0)
    let literal : ClassLiteral := ⟨"D", ["P"], [], []⟩
    ∃ value after above method, evalExpr (engineFor 1000) ⟨0⟩ (.class literal) store = .ok value after ∧
      store.resolveClass ⟨0⟩ "P" = .ok above ∧ above.closure = some ⟨2⟩ ∧
      store.findMethod ⟨0⟩ above "m" = .ok (some method) ∧
      store.findMethod ⟨0⟩ (.ofLiteral literal ⟨0⟩) "m" = .ok (some method) := by
  intro store literal
  obtain ⟨defines, parent, ancestors⟩ :
      (evalExpr (engineFor 1000) ⟨0⟩ (.class literal)).succeeds store = true ∧
      ((store.resolveClass ⟨0⟩ "P").toOption.any fun above =>
        decide (above.closure = some ⟨2⟩ ∧ above.parents = ["B"] ∧ above.name = "P") &&
          (store.findMethod ⟨0⟩ above "m").toOption.join.isSome) = true ∧
      ∀ name ∈ ["B", "Object"],
        (∀ above ∈ store.parentsAt ⟨2⟩ name, above ∈ ["B", "Object"]) ∧
        store.sameInstance name ⟨2⟩ ⟨0⟩ = true := by decide +kernel
  clear_value store
  have alike (name : String) (member : name ∈ ["B", "Object"]) :
      store.resolveClass ⟨2⟩ name = store.resolveClass ⟨0⟩ name := by
    rw [Store.resolveClass, Store.resolveClass, Store.lookup?_of_sameInstance (ancestors name member).2]
  obtain ⟨value, after, defined⟩ := Eval.of_succeeds defines
  obtain ⟨above, stands, properties⟩ := (Option.any_eq_true _ _).mp parent
  have stands := eq_ok_of_toOption stands
  rw [Bool.and_eq_true, decide_eq_true_eq, Option.isSome_iff_exists] at properties
  obtain ⟨⟨closure, parents, name⟩, method, found⟩ := properties
  have found := eq_ok_of_toOption (Option.join_eq_some_iff.mp found)
  refine ⟨value, after, above, method, defined, stands, closure, found, ?_⟩
  have scope : Store.parentScope above ⟨0⟩ = ⟨2⟩ := by rw [Store.parentScope, closure, Option.getD_some]
  have inside (name : String) (leads : Leads (store.parentsAt ⟨2⟩) above.parents name) : name ∈ ["B", "Object"] := by
    induction leads with
    | here member => exact List.mem_append_left ["Object"] (parents ▸ member)
    | step leads member ih => exact (ancestors _ ih).1 _ member
  refine (methods_are_inherited defined (by decide) (fun _ _ => rfl) (.head _) stands (fun name leads => ?_) found).2
    rfl rfl fun leads => ?_
  · rw [scope] at leads ⊢
    exact alike name (inside name leads)
  · rw [scope, name] at leads
    exact absurd (inside "P" leads) (by decide)

/-- The parents of the class that stands for a name, and the parameters of the method that it has, if it has one. -/
def Store.heritage? (store : Store) (frame : FrameId) (name wanted : String) :
    Option (List String × Option (List String)) :=
  match store.resolveClass frame name with
  | .error _ => none
  | .ok node =>
    match store.findMethod frame node wanted with
    | .ok method => some (node.parents, method.map Function.parameters)
    | .error _ => none

/-- Three programs in which a class does not have the method of its parent. In the first the parent has it from a class
that another one hides where the class is defined, in the second the class has the name of the class that ends the
search. In the third the parent passes over an ancestor with the name that it has itself, and the class does not. -/
theorem method_is_not_inherited :
    let ended (source : String) := (Interpreter.run source "main.toy").leaves (.initial .default ⟨[], []⟩ [] 0)
    let hidden := ended
      "class B:\nend\ndef f():\nclass B:\ndef m():\nend\nend\nclass P(B):\nend\nreturn P\nend\nP = f()\nclass D(P):\nend"
    let root := ended "B = Object\nclass P(B):\ndef m():\nend\nend\nclass Object(P):\nend"
    let passed := ended ("class M:\nend\nclass P(M):\nend\nR = P\nclass P:\ndef m():\nend\nend\n" ++
      "class Z:\ndef m(x):\nend\nend\nclass M(P, Z):\nend\nclass D(R):\nend")
    (hidden.heritage? ⟨0⟩ "P" "m" = some (["B"], some []) ∧ hidden.heritage? ⟨0⟩ "D" "m" = some (["P"], none)) ∧
    (root.heritage? ⟨0⟩ "P" "m" = some (["B"], some []) ∧ root.heritage? ⟨0⟩ "Object" "m" = some (["P"], none)) ∧
    passed.heritage? ⟨0⟩ "R" "m" = some (["M"], some ["x"]) ∧
      passed.heritage? ⟨0⟩ "D" "m" = some (["R"], some []) := by
  intro ended hidden root passed
  exact ⟨by decide +kernel, by decide +kernel, by decide +kernel⟩

end LineScript
