import LineScript.Proofs.Eval.Acts
import LineScript.Proofs.Store.Frames
import LineScript.ScopeView
import Mathlib.Logic.Function.Basic

/-!
# Views and the tree of frames

Views of scopes are numbered in the order in which they are made, and operations are applied to them by number, in
any order (`ViewOperation.perform`). What they answer is described by a tree of frames (`FrameTree`): a frame has a
frame above it, unless it is the root, and bindings of its own. A view stands for a frame of the tree. `FrameTree.Step`
says what each operation does to the tree and what it answers:

* a child gets a new frame below the frame of the view, and a view with another signal stands for the same frame;
* a name is looked up in the nearest frame that binds it, on the way from the frame of the view to the root;
* an assignment binds the name in the frame of the view, and a nonlocal one binds it anew in the nearest frame
  strictly above that binds it;
* a deletion takes the binding of the frame of the view away.

The store represents the tree (`Represents`). One operation keeps that and answers as the tree says
(`Represents.step`), and so do all operations one after the other (`Represents.run`).
-/

set_option autoImplicit false

namespace LineScript

/-! ## Operations on views -/

/-- An operation on numbered views. -/
inductive ViewOperation where
  | child (view : Nat)
  | withSignal (view : Nat) (signal : Signal)
  | assign (view : Nat) (name : String) (value : Value)
  | assignNonlocal (view : Nat) (name : String) (value : Value)
  | delete (view : Nat) (name : String)
  | lookup (view : Nat) (name : String)
  | sameFrame (view other : Nat)

/-- The numbers of the views that an operation is applied to. -/
def ViewOperation.numbers : ViewOperation → List Nat
  | .child view | .withSignal view _ | .assign view _ _ | .assignNonlocal view _ _ | .delete view _ | .lookup view _ =>
    [view]
  | .sameFrame view other => [view, other]

/-- What an operation answers. -/
inductive ViewAnswer where
  /-- A new view, with its number. -/
  | view (number : Nat)
  | done
  | value (value : Value)
  | verdict (same : Bool)
  | escaped (escape : Escape)
  /-- There is no view with the number. -/
  | noView

/-- The store and the views that are made so far. -/
structure ViewState where
  store : Store
  views : List ScopeView

namespace ViewState

/-- An action that makes no view. -/
def act {α : Type} (state : ViewState) (action : Eval α) (answer : α → ViewAnswer) : ViewAnswer × ViewState :=
  match action state.store with
  | .ok value after => (answer value, { state with store := after })
  | .error escape after => (.escaped escape, { state with store := after })

/-- An action that makes a view. -/
def make (state : ViewState) (action : Eval ScopeView) : ViewAnswer × ViewState :=
  match action state.store with
  | .ok view after => (.view state.views.length, ⟨after, state.views ++ [view]⟩)
  | .error escape after => (.escaped escape, { state with store := after })

/-- Something is done with the view with a number. -/
def withView (state : ViewState) (number : Nat) (next : ScopeView → ViewAnswer × ViewState) : ViewAnswer × ViewState :=
  match state.views[number]? with
  | some view => next view
  | none => (.noView, state)

end ViewState

/-- An operation on the views that are made so far. -/
def ViewOperation.perform (state : ViewState) : ViewOperation → ViewAnswer × ViewState
  | .child number => state.withView number fun view => state.make view.child
  | .withSignal number signal => state.withView number fun view => state.make (return view.withSignal signal)
  | .assign number name value => state.withView number fun view =>
    state.act (Eval.assign view.frame name value) fun _ => .done
  | .assignNonlocal number name value => state.withView number fun view =>
    state.act (Eval.assignNonlocal view.frame name value) fun _ => .done
  | .delete number name => state.withView number fun view =>
    state.act (Eval.delete view.frame name) fun _ => .done
  | .lookup number name => state.withView number fun view => state.act (Eval.lookup view.frame name) .value
  | .sameFrame number other => state.withView number fun view => state.withView other fun compared =>
    (.verdict (view.sameFrame compared), state)

/-- Operations one after the other. -/
def ViewState.performAll (state : ViewState) : List ViewOperation → List ViewAnswer × ViewState
  | [] => ([], state)
  | operation :: operations =>
    let first := operation.perform state
    let rest := first.2.performAll operations
    (first.1 :: rest.1, rest.2)

/-! ## The tree of frames -/

/-- A tree of frames, which are numbered in the order in which they are made. -/
structure FrameTree where
  size : Nat
  /-- The frame above a frame. -/
  above : Nat → Option Nat
  /-- The own bindings of a frame. -/
  bound : Nat → String → Option Value

/-- A frame of the tree with a signal. -/
structure FrameView where
  frame : Nat
  signal : Signal

variable {frame : Nat}

namespace FrameTree

/-- The tree with only a root. -/
def root (bound : String → Option Value) : FrameTree :=
  ⟨1, fun _ => none, fun _ => bound⟩

/-- The tree with one more frame, below another. -/
def grow (tree : FrameTree) (parent : Nat) : FrameTree where
  size := tree.size + 1
  above := Function.update tree.above tree.size (some parent)
  bound := Function.update tree.bound tree.size fun _ => none

/-- The tree with one binding of a frame replaced. -/
def rebind (tree : FrameTree) (frame : Nat) (name : String) (value : Option Value) : FrameTree :=
  { tree with bound := Function.update tree.bound frame (Function.update (tree.bound frame) name value) }

section

variable (tree : FrameTree)

theorem above_grow (parent frame : Nat) :
    (tree.grow parent).above frame = if frame = tree.size then some parent else tree.above frame :=
  Function.update_apply ..

theorem bound_grow (parent frame : Nat) :
    (tree.grow parent).bound frame = if frame = tree.size then fun _ => none else tree.bound frame :=
  Function.update_apply ..

theorem bound_rebind (frame other : Nat) (name key : String) (value : Option Value) :
    (tree.rebind frame name value).bound other key =
      if other = frame ∧ key = name then value else tree.bound other key := by
  by_cases same : other = frame
  · subst same
    simp [rebind, Function.update_apply]
  · simp [rebind, same]

end

/-- The nearest frame that binds a name, on the way from a frame to the root. -/
inductive Nearest (tree : FrameTree) (name : String) : Nat → Nat → Prop where
  | here {frame : Nat} (bound : (tree.bound frame name).isSome) : Nearest tree name frame frame
  | above {frame parent found : Nat} (unbound : tree.bound frame name = none) (above : tree.above frame = some parent)
      (nearest : Nearest tree name parent found) : Nearest tree name frame found

/-- The nearest frame that binds a name, on the way from the frame above a frame to the root. -/
def NearestAbove (tree : FrameTree) (name : String) (frame found : Nat) : Prop :=
  ∃ parent, tree.above frame = some parent ∧ tree.Nearest name parent found

/-- What an operation on views does to the tree of frames and what it answers. -/
inductive Step (tree : FrameTree) (views : List FrameView) :
    ViewOperation → ViewAnswer → FrameTree → List FrameView → Prop where
  | child {number : Nat} {view : FrameView} (stands : views[number]? = some view) :
      Step tree views (.child number) (.view views.length) (tree.grow view.frame) (views ++ [⟨tree.size, .normal⟩])
  | withSignal {number : Nat} {view : FrameView} {signal : Signal} (stands : views[number]? = some view) :
      Step tree views (.withSignal number signal) (.view views.length) tree (views ++ [⟨view.frame, signal⟩])
  | assign {number : Nat} {view : FrameView} {name : String} {value : Value} (stands : views[number]? = some view) :
      Step tree views (.assign number name value) .done (tree.rebind view.frame name (some value)) views
  | assignNonlocal {number found : Nat} {view : FrameView} {name : String} {value : Value}
      (stands : views[number]? = some view) (nearest : tree.NearestAbove name view.frame found) :
      Step tree views (.assignNonlocal number name value) .done (tree.rebind found name (some value)) views
  | assignMissing {number : Nat} {view : FrameView} {name : String} {value : Value} (stands : views[number]? = some view)
      (missing : ∀ found, ¬ tree.NearestAbove name view.frame found) :
      Step tree views (.assignNonlocal number name value) (.escaped (.ofCause (.notDefined name))) tree views
  | delete {number : Nat} {view : FrameView} {name : String} (stands : views[number]? = some view) :
      Step tree views (.delete number name) .done (tree.rebind view.frame name none) views
  | lookup {number found : Nat} {view : FrameView} {name : String} {value : Value} (stands : views[number]? = some view)
      (nearest : tree.Nearest name view.frame found) (bound : tree.bound found name = some value) :
      Step tree views (.lookup number name) (.value value) tree views
  | lookupMissing {number : Nat} {view : FrameView} {name : String} (stands : views[number]? = some view)
      (missing : ∀ found, ¬ tree.Nearest name view.frame found) :
      Step tree views (.lookup number name) (.escaped (.ofCause (.notDefined name))) tree views
  | sameFrame {number other : Nat} {view compared : FrameView} (stands : views[number]? = some view)
      (stands' : views[other]? = some compared) :
      Step tree views (.sameFrame number other) (.verdict (view.frame = compared.frame)) tree views
  | noView {number : Nat} {operation : ViewOperation} (applied : number ∈ operation.numbers)
      (none : views[number]? = none) : Step tree views operation .noView tree views

/-- What operations do one after the other. -/
inductive Run : FrameTree → List FrameView → List ViewOperation → List ViewAnswer → FrameTree → List FrameView → Prop where
  | nil (tree : FrameTree) (views : List FrameView) : Run tree views [] [] tree views
  | cons {first second third : FrameTree} {views views' views'' : List FrameView} {operation : ViewOperation}
      {operations : List ViewOperation} {answer : ViewAnswer} {answers : List ViewAnswer}
      (step : Step first views operation answer second views') (rest : Run second views' operations answers third views'') :
      Run first views (operation :: operations) (answer :: answers) third views''

section

variable {tree : FrameTree} {views : List FrameView} {name : String}

theorem Nearest.bound {found : Nat} (nearest : tree.Nearest name frame found) : (tree.bound found name).isSome := by
  induction nearest with
  | here bound => exact bound
  | above _ _ _ ih => exact ih

theorem Nearest.unique {found found' : Nat} (first : tree.Nearest name frame found)
    (second : tree.Nearest name frame found') : found = found' := by
  induction first with
  | here bound =>
    cases second with
    | here => rfl
    | above unbound => simp [unbound] at bound
  | above unbound above _ ih =>
    cases second with
    | here bound => simp [unbound] at bound
    | above _ above' second =>
      cases above.symm.trans above'
      exact ih second

theorem NearestAbove.unique {found found' : Nat} (first : tree.NearestAbove name frame found)
    (second : tree.NearestAbove name frame found') : found = found' := by
  obtain ⟨parent, above, first⟩ := first
  obtain ⟨parent', above', second⟩ := second
  cases above.symm.trans above'
  exact first.unique second

/-- A binding is replaced that is there: no frame binds a name that it did not bind, or the other way round. -/
theorem isSome_rebind (bound : (tree.bound frame name).isSome) (value : Value) (other : Nat) (key : String) :
    ((tree.rebind frame name (some value)).bound other key).isSome = (tree.bound other key).isSome := by
  rw [bound_rebind]
  split
  · rename_i here
    rw [here.1, here.2, bound, Option.isSome_some]
  · rfl

section

variable {operation : ViewOperation} {answer answer' : ViewAnswer} {next next' : FrameTree}
  {views' views'' : List FrameView}

/-- An operation on a view that is not there answers so and does nothing. -/
theorem Step.of_missing (step : Step tree views operation answer next views') {number : Nat}
    (applied : number ∈ operation.numbers) (missing : views[number]? = none) :
    answer = .noView ∧ next = tree ∧ views' = views := by
  cases step with
  | noView => exact ⟨rfl, rfl, rfl⟩
  | sameFrame stands stands' =>
    rcases List.mem_cons.mp applied with rfl | applied
    · cases stands.symm.trans missing
    · obtain rfl := List.mem_singleton.mp applied
      cases stands'.symm.trans missing
  | child stands | withSignal stands | assign stands | assignNonlocal stands | assignMissing stands | delete stands
  | lookup stands | lookupMissing stands =>
    obtain rfl := List.mem_singleton.mp applied
    cases stands.symm.trans missing

/-- A nonlocal assignment adds no name to any frame and takes none away. If it fails, the tree stays. -/
theorem Step.of_assignNonlocal {number : Nat} {value : Value}
    (step : Step tree views (.assignNonlocal number name value) answer next views') :
    (∀ frame key, (next.bound frame key).isSome = (tree.bound frame key).isSome) ∧ (answer ≠ .done → next = tree) := by
  cases step with
  | assignNonlocal stands nearest =>
    obtain ⟨parent, above, nearest⟩ := nearest
    exact ⟨isSome_rebind nearest.bound value, fun failed => absurd rfl failed⟩
  | assignMissing | noView => exact ⟨fun _ _ => rfl, fun _ => rfl⟩

/-- The tree leaves no choice: an operation has one answer and makes one tree. -/
theorem Step.unique (first : Step tree views operation answer next views')
    (second : Step tree views operation answer' next' views'') :
    answer = answer' ∧ next = next' ∧ views' = views'' := by
  by_cases missing : ∃ number ∈ operation.numbers, views[number]? = none
  · obtain ⟨number, applied, missing⟩ := missing
    obtain ⟨rfl, rfl, rfl⟩ := first.of_missing applied missing
    obtain ⟨rfl, rfl, rfl⟩ := second.of_missing applied missing
    exact ⟨rfl, rfl, rfl⟩
  · have apart {number : Nat} (applied : number ∈ operation.numbers) (none : views[number]? = none) : False :=
      missing ⟨number, applied, none⟩
    cases first with
    | noView applied none => exact (apart applied none).elim
    | child stands | withSignal stands | assign stands | delete stands =>
      cases second with
      | noView applied none => exact (apart applied none).elim
      | _ stands' =>
        cases stands.symm.trans stands'
        exact ⟨rfl, rfl, rfl⟩
    | assignNonlocal stands nearest =>
      cases second with
      | noView applied none => exact (apart applied none).elim
      | assignNonlocal stands' nearest' =>
        cases stands.symm.trans stands'
        rw [nearest.unique nearest']
        exact ⟨rfl, rfl, rfl⟩
      | assignMissing stands' unfound =>
        cases stands.symm.trans stands'
        exact absurd nearest (unfound _)
    | assignMissing stands unfound =>
      cases second with
      | noView applied none => exact (apart applied none).elim
      | assignNonlocal stands' nearest' =>
        cases stands.symm.trans stands'
        exact absurd nearest' (unfound _)
      | assignMissing => exact ⟨rfl, rfl, rfl⟩
    | lookup stands nearest bound =>
      cases second with
      | noView applied none => exact (apart applied none).elim
      | lookup stands' nearest' bound' =>
        cases stands.symm.trans stands'
        cases nearest.unique nearest'
        cases bound.symm.trans bound'
        exact ⟨rfl, rfl, rfl⟩
      | lookupMissing stands' unfound =>
        cases stands.symm.trans stands'
        exact absurd nearest (unfound _)
    | lookupMissing stands unfound =>
      cases second with
      | noView applied none => exact (apart applied none).elim
      | lookup stands' nearest' =>
        cases stands.symm.trans stands'
        exact absurd nearest' (unfound _)
      | lookupMissing => exact ⟨rfl, rfl, rfl⟩
    | sameFrame stands other =>
      cases second with
      | noView applied none => exact (apart applied none).elim
      | sameFrame stands' other' =>
        cases stands.symm.trans stands'
        cases other.symm.trans other'
        exact ⟨rfl, rfl, rfl⟩

end

theorem Run.unique {operations : List ViewOperation} {answers answers' : List ViewAnswer} {next next' : FrameTree}
    {views' views'' : List FrameView} (first : Run tree views operations answers next views')
    (second : Run tree views operations answers' next' views'') :
    answers = answers' ∧ next = next' ∧ views' = views'' := by
  induction first generalizing answers' next' views'' with
  | nil =>
    cases second
    exact ⟨rfl, rfl, rfl⟩
  | cons step rest ih =>
    cases second with
    | cons step' rest' =>
      obtain ⟨rfl, rfl, rfl⟩ := step.unique step'
      obtain ⟨rfl, rfl, rfl⟩ := ih rest'
      exact ⟨rfl, rfl, rfl⟩

end

end FrameTree

/-! ## The store represents the tree -/

/-- The frames of the store from a number on are the frames of the tree, and the views look at them. -/
structure Represents (base : Nat) (tree : FrameTree) (views : List FrameView) (state : ViewState) : Prop where
  size : state.store.frames.size = base + tree.size
  older : ∀ frame parent, tree.above frame = some parent → parent < frame
  root : ∀ frame < tree.size, tree.above frame = none → (state.store.frame ⟨base + frame⟩).path = []
  path : ∀ frame < tree.size, ∀ parent, tree.above frame = some parent →
    (state.store.frame ⟨base + frame⟩).path = ⟨base + parent⟩ :: (state.store.frame ⟨base + parent⟩).path
  bound : ∀ frame < tree.size, ∀ name,
    (state.store.frame ⟨base + frame⟩).bindings.get? name = tree.bound frame name
  distinct : ∀ frame < tree.size, (state.store.frame ⟨base + frame⟩).bindings.names.Nodup
  seen : state.views = views.map fun view => ⟨⟨base + view.frame⟩, view.signal⟩
  inside : ∀ view ∈ views, view.frame < tree.size

/-- A name is looked up in the first frame that binds it. -/
theorem Store.lookupIn?_eq_find? (store : Store) (name : String) (ids : List FrameId) :
    store.lookupIn? name ids =
      (ids.find? fun id => (store.frame id).bindings.binds name).bind fun id => store.ownBinding? id name := by
  induction ids with
  | nil => rfl
  | cons id ids ih =>
    rw [Store.lookupIn?, List.find?_cons]
    cases found : store.ownBinding? id name with
    | none =>
      have unbound : (store.frame id).bindings.binds name = false := by
        rw [Bindings.binds, ← Store.ownBinding?, found, Option.isSome_none]
      simp [unbound, ih]
    | some value =>
      have bound : (store.frame id).bindings.binds name = true := by
        rw [Bindings.binds, ← Store.ownBinding?, found, Option.isSome_some]
      simp [bound, found]

namespace Represents

variable {base : Nat} {tree : FrameTree} {views : List FrameView} {state : ViewState}

theorem bounds (represents : Represents base tree views state) (inside : frame < tree.size) :
    base + frame < state.store.frames.size := by
  rw [represents.size]
  exact Nat.add_lt_add_left inside base

theorem binds (represents : Represents base tree views state) (inside : frame < tree.size) (name : String) :
    (state.store.frame ⟨base + frame⟩).bindings.binds name = (tree.bound frame name).isSome := by
  rw [Bindings.binds, represents.bound frame inside]

/-- The first frame that binds a name, on the way from a frame to the root, is the nearest one in the tree. -/
theorem find?_nearest (represents : Represents base tree views state) (name : String) (inside : frame < tree.size) :
    let found? := ((⟨base + frame⟩ : FrameId) :: (state.store.frame ⟨base + frame⟩).path).find? fun id =>
      (state.store.frame id).bindings.binds name
    (∃ found < tree.size, tree.Nearest name frame found ∧ found? = some ⟨base + found⟩) ∨
      (∀ found, ¬ tree.Nearest name frame found) ∧ found? = none := by
  -- the frame above a frame is older, so the induction is on the number of the frame
  induction frame using Nat.strongRecOn with
  | ind frame ih =>
    intro found?
    have binds := represents.binds inside name
    cases bound : tree.bound frame name with
    | some value =>
      rw [bound, Option.isSome_some] at binds
      exact .inl ⟨frame, inside, .here (by rw [bound, Option.isSome_some]), List.find?_cons_of_pos binds⟩
    | none =>
      rw [bound, Option.isSome_none] at binds
      have skipped : found? = _ := List.find?_cons_of_neg (by simp [binds])
      cases above : tree.above frame with
      | none =>
        rw [represents.root frame inside above] at skipped
        refine .inr ⟨fun found nearest => ?_, skipped⟩
        cases nearest with
        | here isBound => simp [bound] at isBound
        | above _ there => cases above.symm.trans there
      | some parent =>
        have before := represents.older frame parent above
        rw [represents.path frame inside parent above] at skipped
        rcases ih parent before (Nat.lt_trans before inside) with ⟨found, within, nearest, same⟩ | ⟨missing, same⟩
        · exact .inl ⟨found, within, .above bound above nearest, skipped.trans same⟩
        · refine .inr ⟨fun found nearest => ?_, skipped.trans same⟩
          cases nearest with
          | here isBound => simp [bound] at isBound
          | above _ there nearest =>
            cases above.symm.trans there
            exact missing found nearest

theorem lookup?_eq (represents : Represents base tree views state) (name : String) (inside : frame < tree.size) :
    (∃ found value, tree.Nearest name frame found ∧ tree.bound found name = some value ∧
      state.store.lookup? ⟨base + frame⟩ name = some value) ∨
    (∀ found, ¬ tree.Nearest name frame found) ∧ state.store.lookup? ⟨base + frame⟩ name = none := by
  rw [Store.lookup?, Store.lookupIn?_eq_find?]
  rcases represents.find?_nearest name inside with ⟨found, within, nearest, same⟩ | ⟨missing, same⟩
  · obtain ⟨value, bound⟩ := Option.isSome_iff_exists.mp nearest.bound
    refine .inl ⟨found, value, nearest, bound, ?_⟩
    rw [same, Option.bind_some, Store.ownBinding?, represents.bound found within, bound]
  · refine .inr ⟨missing, ?_⟩
    rw [same, Option.bind_none]

theorem definingFrame?_eq (represents : Represents base tree views state) (name : String) (inside : frame < tree.size) :
    (∃ found < tree.size, tree.NearestAbove name frame found ∧
      state.store.definingFrame? ⟨base + frame⟩ name = some ⟨base + found⟩) ∨
    (∀ found, ¬ tree.NearestAbove name frame found) ∧ state.store.definingFrame? ⟨base + frame⟩ name = none := by
  rw [Store.definingFrame?]
  cases above : tree.above frame with
  | none =>
    rw [represents.root frame inside above]
    refine .inr ⟨?_, rfl⟩
    rintro found ⟨parent, there, _⟩
    cases above.symm.trans there
  | some parent =>
    have before := represents.older frame parent above
    rw [represents.path frame inside parent above]
    rcases represents.find?_nearest name (Nat.lt_trans before inside) with ⟨found, within, nearest, same⟩ | ⟨missing, same⟩
    · exact .inl ⟨found, within, ⟨parent, above, nearest⟩, same⟩
    · refine .inr ⟨?_, same⟩
      rintro found ⟨other, there, nearest⟩
      cases above.symm.trans there
      exact missing found nearest

theorem frame_added (represents : Represents base tree views state) (frame : Frame) :
    (state.store.addFrame frame).2.frame ⟨base + tree.size⟩ = frame := by
  rw [← represents.size]
  exact Store.frame_added _ _

theorem frame_addFrame (represents : Represents base tree views state) (added : Frame) (inside : frame < tree.size) :
    (state.store.addFrame added).2.frame ⟨base + frame⟩ = state.store.frame ⟨base + frame⟩ :=
  Store.frame_addFrame (represents.bounds inside) added

/-- A new frame below another, and a view of it. -/
theorem grow (represents : Represents base tree views state) {parent : Nat} (inside : parent < tree.size) :
    Represents base (tree.grow parent) (views ++ [⟨tree.size, .normal⟩])
      ⟨(state.store.addFrame (state.store.childFrame ⟨base + parent⟩ [])).2,
        state.views ++ [⟨⟨state.store.frames.size⟩, .normal⟩]⟩ where
  size := by
    have size := represents.size
    simp only [Store.addFrame, Array.size_push, FrameTree.grow]
    omega
  older frame above there := by
    by_cases new : frame = tree.size
    · subst new
      rw [FrameTree.above_grow, if_pos rfl] at there
      cases there
      exact inside
    · rw [FrameTree.above_grow, if_neg new] at there
      exact represents.older frame above there
  root frame within there := by
    rcases Nat.lt_succ_iff_lt_or_eq.mp within with old | rfl
    · rw [FrameTree.above_grow, if_neg (Nat.ne_of_lt old)] at there
      rw [represents.frame_addFrame _ old]
      exact represents.root frame old there
    · rw [FrameTree.above_grow, if_pos rfl] at there
      cases there
  path frame within above there := by
    rcases Nat.lt_succ_iff_lt_or_eq.mp within with old | rfl
    · rw [FrameTree.above_grow, if_neg (Nat.ne_of_lt old)] at there
      have before := Nat.lt_trans (represents.older frame above there) old
      rw [represents.frame_addFrame _ old, represents.frame_addFrame _ before]
      exact represents.path frame old above there
    · rw [FrameTree.above_grow, if_pos rfl] at there
      cases there
      rw [represents.frame_added, represents.frame_addFrame _ inside]
      rfl
  bound frame within name := by
    rcases Nat.lt_succ_iff_lt_or_eq.mp within with old | rfl
    · rw [represents.frame_addFrame _ old, FrameTree.bound_grow, if_neg (Nat.ne_of_lt old)]
      exact represents.bound frame old name
    · rw [represents.frame_added, FrameTree.bound_grow, if_pos rfl]
      rfl
  distinct frame within := by
    rcases Nat.lt_succ_iff_lt_or_eq.mp within with old | rfl
    · rw [represents.frame_addFrame _ old]
      exact represents.distinct frame old
    · rw [represents.frame_added]
      exact List.nodup_nil
  seen := by
    rw [List.map_append, ← represents.seen, represents.size]
    rfl
  inside view member := by
    rcases List.mem_append.mp member with member | member
    · exact Nat.lt_succ_of_lt (represents.inside view member)
    · rw [List.mem_singleton.mp member]
      exact Nat.lt_succ_self _

/-- Another view of a frame. -/
theorem look (represents : Represents base tree views state) (inside : frame < tree.size) (signal : Signal) :
    Represents base tree (views ++ [⟨frame, signal⟩])
      { state with views := state.views ++ [⟨⟨base + frame⟩, signal⟩] } :=
  { represents with
    seen := by
      rw [List.map_append, ← represents.seen]
      rfl
    inside := by
      intro view member
      rcases List.mem_append.mp member with member | member
      · exact represents.inside view member
      · rw [List.mem_singleton.mp member]
        exact inside }

/-- One binding of a frame is replaced. -/
theorem rebind (represents : Represents base tree views state) (inside : frame < tree.size) {name : String}
    {value : Option Value} {change : Bindings Value → Bindings Value}
    (found : ∀ bindings, bindings.names.Nodup → ∀ other,
      (change bindings).get? other = if other = name then value else bindings.get? other)
    (distinct : ∀ bindings, bindings.names.Nodup → (change bindings).names.Nodup) :
    Represents base (tree.rebind frame name value) views
      { state with store := state.store.modifyBindings ⟨base + frame⟩ change } where
  size := by rw [Store.size_modifyBindings]; exact represents.size
  older := represents.older
  root other within there := by
    rw [Store.path_modifyBindings]
    exact represents.root other within there
  path other within above there := by
    rw [Store.path_modifyBindings, Store.path_modifyBindings]
    exact represents.path other within above there
  bound other within key := by
    by_cases same : other = frame
    · subst same
      have bounds := represents.bounds inside
      rw [Store.bindings_modifyBindings bounds, found _ (represents.distinct other within), FrameTree.bound_rebind,
        represents.bound other within]
      simp only [true_and]
    · have apart : (⟨base + other⟩ : FrameId) ≠ ⟨base + frame⟩ := by simpa using same
      rw [Store.frame_modifyBindings_of_ne apart, represents.bound other within, FrameTree.bound_rebind,
        if_neg fun both => same both.1]
  distinct other within := by
    by_cases same : other = frame
    · subst same
      have bounds := represents.bounds inside
      rw [Store.bindings_modifyBindings bounds]
      exact distinct _ (represents.distinct other within)
    · have apart : (⟨base + other⟩ : FrameId) ≠ ⟨base + frame⟩ := by simpa using same
      rw [Store.frame_modifyBindings_of_ne apart]
      exact represents.distinct other within
  seen := represents.seen
  inside := represents.inside

theorem assign (represents : Represents base tree views state) (inside : frame < tree.size) (name : String)
    (value : Value) :
    Represents base (tree.rebind frame name (some value)) views
      { state with store := state.store.assign ⟨base + frame⟩ name value } :=
  represents.rebind inside (fun _ _ _ => Bindings.get?_set) fun _ => Bindings.nodup_set

theorem delete (represents : Represents base tree views state) (inside : frame < tree.size) (name : String) :
    Represents base (tree.rebind frame name none) views
      { state with store := state.store.delete ⟨base + frame⟩ name } :=
  represents.rebind inside (fun _ distinct _ => Bindings.get?_erase distinct) fun _ => Bindings.nodup_erase

/-! ## Operations -/

theorem withView_of_none (represents : Represents base tree views state) {number : Nat} (missing : views[number]? = none)
    (next : ScopeView → ViewAnswer × ViewState) : state.withView number next = (.noView, state) := by
  rw [ViewState.withView, represents.seen, List.getElem?_map, missing]
  rfl

theorem withView_of_some (represents : Represents base tree views state) {number : Nat} {view : FrameView}
    (stands : views[number]? = some view) (next : ScopeView → ViewAnswer × ViewState) :
    state.withView number next = next ⟨⟨base + view.frame⟩, view.signal⟩ := by
  rw [ViewState.withView, represents.seen, List.getElem?_map, stands]
  rfl

theorem length_views (represents : Represents base tree views state) : state.views.length = views.length := by
  rw [represents.seen, List.length_map]

/-- The operation answers as the tree says, and afterwards the store represents the tree that it makes. -/
def Answered (base : Nat) (tree : FrameTree) (views : List FrameView) (operation : ViewOperation)
    (result : ViewAnswer × ViewState) : Prop :=
  ∃ next views', FrameTree.Step tree views operation result.1 next views' ∧ Represents base next views' result.2

/-- An operation with a view answers as the tree says, if it does so where there is a view. -/
theorem answered_withView (represents : Represents base tree views state) {operation : ViewOperation} {number : Nat}
    (applied : number ∈ operation.numbers) {next : ScopeView → ViewAnswer × ViewState}
    (shown : ∀ view, views[number]? = some view → view.frame < tree.size →
      Answered base tree views operation (next ⟨⟨base + view.frame⟩, view.signal⟩)) :
    Answered base tree views operation (state.withView number next) := by
  cases found : views[number]? with
  | none =>
    rw [represents.withView_of_none found]
    exact ⟨tree, views, .noView applied found, represents⟩
  | some view =>
    rw [represents.withView_of_some found]
    exact shown view found (represents.inside view (List.mem_of_getElem? found))

theorem step (represents : Represents base tree views state) (operation : ViewOperation) :
    Answered base tree views operation (operation.perform state) := by
  cases operation with
  | child number =>
    refine represents.answered_withView (.head _) fun view stands inside => ⟨_, _, ?_, represents.grow inside⟩
    have step : FrameTree.Step tree views (.child number) (.view views.length) _ _ := .child stands
    rwa [← represents.length_views] at step
  | withSignal number signal =>
    refine represents.answered_withView (.head _) fun view stands inside => ⟨_, _, ?_, represents.look inside signal⟩
    have step : FrameTree.Step tree views (.withSignal number signal) (.view views.length) _ _ := .withSignal stands
    rwa [← represents.length_views] at step
  | assign number name value =>
    exact represents.answered_withView (.head _) fun view stands inside =>
      ⟨_, _, .assign stands, represents.assign inside name value⟩
  | assignNonlocal number name value =>
    refine represents.answered_withView (.head _) fun view stands inside => ?_
    rw [ViewState.act, Eval.assignNonlocal, Eval.get_bind_apply]
    rcases represents.definingFrame?_eq name inside with ⟨found, within, nearest, same⟩ | ⟨unfound, same⟩
    · rw [same]
      exact ⟨_, _, .assignNonlocal stands nearest, represents.assign within name value⟩
    · rw [same]
      exact ⟨_, _, .assignMissing stands unfound, represents⟩
  | delete number name =>
    exact represents.answered_withView (.head _) fun view stands inside =>
      ⟨_, _, .delete stands, represents.delete inside name⟩
  | lookup number name =>
    refine represents.answered_withView (.head _) fun view stands inside => ?_
    rw [ViewState.act, Eval.lookup, Eval.get_bind_apply]
    rcases represents.lookup?_eq name inside with ⟨found, value, nearest, bound, same⟩ | ⟨unfound, same⟩
    · rw [same]
      exact ⟨_, _, .lookup stands nearest bound, represents⟩
    · rw [same]
      exact ⟨_, _, .lookupMissing stands unfound, represents⟩
  | sameFrame number other =>
    refine represents.answered_withView (.head _) fun view stands _ =>
      represents.answered_withView (.tail _ (.head _)) fun compared stands' _ => ?_
    have verdict : ScopeView.sameFrame ⟨⟨base + view.frame⟩, view.signal⟩ ⟨⟨base + compared.frame⟩, compared.signal⟩ =
        decide (view.frame = compared.frame) := by simp [ScopeView.sameFrame]
    rw [verdict]
    exact ⟨_, _, .sameFrame stands stands', represents⟩

/-- Operations one after the other answer as the tree says. -/
theorem run (represents : Represents base tree views state) (operations : List ViewOperation) :
    ∃ next views', FrameTree.Run tree views operations (state.performAll operations).1 next views' ∧
      Represents base next views' (state.performAll operations).2 := by
  induction operations generalizing tree views state with
  | nil => exact ⟨tree, views, .nil tree views, represents⟩
  | cons operation operations ih =>
    obtain ⟨middle, views', step, kept⟩ := represents.step operation
    obtain ⟨last, views'', rest, final⟩ := ih kept
    exact ⟨last, views'', .cons step rest, final⟩

end Represents

end LineScript
