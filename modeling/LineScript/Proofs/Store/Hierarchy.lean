import LineScript.Eval.Hierarchy
import LineScript.Proofs.Store.Change
import Mathlib.Data.Finset.Card

/-!
# Ancestors

A name leads to the parents of the class that it stands for, unless that class is called `Object`. The names at a
distance form a `generation`, in the order of the paths that lead to them, so a name is in it once for each path.

The search for a method visits each name once. It still finds the first method of the first generation that has one
(`Store.searchLevels_nearest`): a name that is not visited again leads to nothing that was not there before.
The check of a new class visits each name once too (`Store.checks_validateParents`). When it is passed, every name that
the parents lead to stands for a class and is not the name of the new class (`Store.validateParents_ok`), and when it is
not, the parents lead to a name that is the reason (`Store.Checks.reason`).
-/

set_option autoImplicit false

namespace LineScript

/-! ## Generations -/

/-- The names that some names lead to, themselves included. -/
inductive Leads (parents : String → List String) (names : List String) : String → Prop where
  | here {name : String} (member : name ∈ names) : Leads parents names name
  | step {name above : String} (leads : Leads parents names name) (member : above ∈ parents name) :
      Leads parents names above

/-- The names at a distance from some names. -/
def generation (parents : String → List String) (names : List String) : Nat → List String
  | 0 => names
  | distance + 1 => (generation parents names distance).flatMap parents

/-- The first method of the first generation that has one; nothing if none has. -/
def IsNearest (parents : String → List String) (method : String → Option Function) (names : List String) :
    Option Function → Prop
  | some found => ∃ distance, (generation parents names distance).findSome? method = some found ∧
      ∀ nearer < distance, (generation parents names nearer).findSome? method = none
  | none => ∀ distance, (generation parents names distance).findSome? method = none

variable {name : String} {node : ClassNode} {names visited pending : List String} {others : String → List String}

section

variable {parents : String → List String} {method : String → Option Function} {names : List String}
  {found : Option Function}

theorem generation_succ (names : List String) (distance : Nat) :
    generation parents names (distance + 1) = generation parents (names.flatMap parents) distance := by
  induction distance with
  | zero => rfl
  | succ distance ih => rw [generation, ih, generation]

theorem leads_of_mem_generation {distance : Nat} (member : name ∈ generation parents names distance) :
    Leads parents names name := by
  induction distance generalizing name with
  | zero => exact .here member
  | succ distance ih =>
    obtain ⟨below, inside, above⟩ := List.mem_flatMap.mp member
    exact (ih inside).step above

theorem Leads.mem_generation (leads : Leads parents names name) :
    ∃ distance, name ∈ generation parents names distance := by
  induction leads with
  | here member => exact ⟨0, member⟩
  | step leads member ih =>
    obtain ⟨distance, inside⟩ := ih
    exact ⟨distance + 1, List.mem_flatMap.mpr ⟨_, inside, member⟩⟩

theorem Leads.trans {start : List String} (leads : Leads parents names name)
    (all : ∀ name ∈ names, Leads parents start name) : Leads parents start name := by
  induction leads with
  | here member => exact all _ member
  | step leads member ih => exact ih.step member

theorem Leads.mono (leads : Leads parents names name)
    (more : ∀ name, Leads parents names name → ∀ above ∈ parents name, above ∈ others name) :
    Leads others names name := by
  induction leads with
  | here member => exact .here member
  | step leads member ih => exact ih.step (more _ leads _ member)

/-- Names lead to fewer names when one of them leads to nothing. -/
theorem Leads.of_update (own : String) (leads : Leads (Function.update parents own []) names name) :
    Leads parents names name := by
  refine leads.mono fun name _ above member => ?_
  rw [Function.update_apply] at member
  split at member
  · cases member
  · exact member

/-- Names lead to the same names, if each of these has the same parents. -/
theorem leads_congr (same : ∀ name, Leads parents names name → others name = parents name) :
    Leads others names name ↔ Leads parents names name := by
  refine ⟨fun leads => ?_, fun leads => leads.mono fun name led above member => same name led ▸ member⟩
  induction leads with
  | here member => exact .here member
  | step leads member ih => exact ih.step (same _ ih ▸ member)

theorem generation_congr (same : ∀ name, Leads parents names name → others name = parents name) (distance : Nat) :
    generation others names distance = generation parents names distance := by
  induction distance with
  | zero => rfl
  | succ distance ih =>
    rw [generation, generation, ih]
    exact List.flatMap_congr fun name member => same name (leads_of_mem_generation member)

theorem IsNearest.congr {other : String → Option Function} (nearest : IsNearest parents method names found)
    (same : ∀ name, Leads parents names name → others name = parents name ∧ other name = method name) :
    IsNearest others other names found := by
  have alike (distance : Nat) : (generation others names distance).findSome? other =
      (generation parents names distance).findSome? method := by
    rw [generation_congr fun name leads => (same name leads).1, ← List.head?_filterMap, ← List.head?_filterMap,
      List.filterMap_congr fun name member => (same name (leads_of_mem_generation member)).2]
  cases found with
  | none => exact fun distance => (alike distance).trans (nearest distance)
  | some found =>
    obtain ⟨distance, here, nearer⟩ := nearest
    exact ⟨distance, (alike distance).trans here, fun before less => (alike before).trans (nearer before less)⟩

theorem IsNearest.here {nearest : Function} (first : names.findSome? method = some nearest) :
    IsNearest parents method names (some nearest) :=
  ⟨0, first, nofun⟩

theorem IsNearest.further (first : names.findSome? method = none)
    (nearest : IsNearest parents method (names.flatMap parents) found) : IsNearest parents method names found := by
  cases found with
  | none =>
    intro distance
    cases distance with
    | zero => exact first
    | succ distance =>
      rw [generation_succ]
      exact nearest distance
  | some found =>
    obtain ⟨distance, here, nearer⟩ := nearest
    refine ⟨distance + 1, by rwa [generation_succ], fun before less => ?_⟩
    cases before with
    | zero => exact first
    | succ before =>
      rw [generation_succ]
      exact nearer before (Nat.lt_of_succ_lt_succ less)

theorem IsNearest.unique {other : Option Function} (nearest : IsNearest parents method names found)
    (another : IsNearest parents method names other) : found = other := by
  cases found with
  | none =>
    cases other with
    | none => rfl
    | some other =>
      obtain ⟨distance, here, -⟩ := another
      exact absurd ((nearest distance).symm.trans here) nofun
  | some found =>
    obtain ⟨distance, here, nearer⟩ := nearest
    cases other with
    | none => exact absurd ((another distance).symm.trans here) nofun
    | some other =>
      obtain ⟨second, there, closer⟩ := another
      rcases Nat.lt_trichotomy distance second with less | rfl | less
      · exact absurd ((closer distance less).symm.trans here) nofun
      · exact here.symm.trans there
      · exact absurd ((nearer second less).symm.trans there) nofun

/-- Something is nearest if and only if the names lead to a method. -/
theorem IsNearest.isSome_iff (nearest : IsNearest parents method names found) :
    found.isSome ↔ ∃ name, Leads parents names name ∧ (method name).isSome := by
  cases found with
  | none =>
    refine ⟨nofun, fun ⟨name, leads, own⟩ => ?_⟩
    obtain ⟨distance, member⟩ := leads.mem_generation
    rw [List.findSome?_eq_none_iff.mp (nearest distance) name member] at own
    cases own
  | some found =>
    obtain ⟨distance, here, -⟩ := nearest
    obtain ⟨name, member, own⟩ := List.exists_of_findSome?_eq_some here
    exact ⟨fun _ => ⟨name, leads_of_mem_generation member, Option.isSome_of_eq_some own⟩, fun _ => rfl⟩

end

/-! ## Names that are visited for the first time -/

/-- The names that are not visited yet, each one once. -/
def fresh (visited : List String) : List String → List String
  | [] => []
  | name :: names => if name ∈ visited then fresh visited names else name :: fresh (name :: visited) names

section

variable {parents : String → List String} {method : String → Option Function}

theorem mem_fresh : name ∈ fresh visited names ↔ name ∈ names ∧ name ∉ visited := by
  induction names generalizing visited with
  | nil => simp [fresh]
  | cons first names ih =>
    rw [fresh]
    split
    · rw [ih]
      grind
    · rw [List.mem_cons, ih]
      grind

theorem fresh_congr {other : List String} (same : ∀ name, name ∈ visited ↔ name ∈ other) (names : List String) :
    fresh visited names = fresh other names := by
  induction names generalizing visited other with
  | nil => rfl
  | cons first names ih =>
    rw [fresh, fresh, ih same, ih fun name => (by simp [same] : name ∈ first :: visited ↔ name ∈ first :: other)]
    simp only [same first]

theorem fresh_append (visited first second : List String) :
    fresh visited (first ++ second) = fresh visited first ++ fresh (first ++ visited) second := by
  induction first generalizing visited with
  | nil => rfl
  | cons name first ih =>
    rw [List.cons_append, fresh, fresh]
    split
    · rw [ih]
      exact congrArg _ (fresh_congr (fun other => by grind) second)
    · rw [ih, List.cons_append]
      exact congrArg _ (congrArg _ (fresh_congr (fun other => by grind) second))

/-- What a name leads to is new only where the name is visited for the first time. -/
theorem fresh_flatMap_fresh {known : List String}
    (closed : ∀ name ∈ names, name ∈ visited → ∀ above ∈ parents name, above ∈ known) :
    fresh known ((fresh visited names).flatMap parents) = fresh known (names.flatMap parents) := by
  induction names generalizing visited known with
  | nil => rfl
  | cons name names ih =>
    rw [List.flatMap_cons, fresh_append, fresh]
    split
    · next seen =>
        have all := closed name (.head _) seen
        have nothing : fresh known (parents name) = [] :=
          List.eq_nil_iff_forall_not_mem.mpr fun above member => (mem_fresh.mp member).2 (all above (mem_fresh.mp member).1)
        rw [nothing, List.nil_append, ih fun name member => closed name (.tail _ member)]
        exact fresh_congr (fun above => by grind) _
    · rw [List.flatMap_cons, fresh_append, ih]
      grind

theorem findSome?_fresh (none : ∀ name ∈ names, name ∈ visited → method name = none) :
    (fresh visited names).findSome? method = names.findSome? method := by
  induction names generalizing visited with
  | nil => rfl
  | cons name names ih =>
    rw [List.findSome?_cons, fresh]
    split
    · next seen => rw [none name (.head _) seen, ih fun name member => none name (.tail _ member)]
    · rw [List.findSome?_cons]
      cases own : method name with
      | some found => rfl
      | none => exact ih (by grind)

end

/-! ## The search for a method -/

/-- The parents that a class leads to. -/
def ClassNode.followed (node : ClassNode) : List String :=
  if node.isRoot then [] else node.parents

theorem ClassNode.followed_of_branch (branch : node.isRoot = false) : node.followed = node.parents := by
  rw [followed, branch]
  rfl

theorem ClassNode.followed_of_mem {above : String} (member : above ∈ node.followed) : node.followed = node.parents := by
  cases root : node.isRoot with
  | false => exact followed_of_branch root
  | true =>
    rw [followed, root] at member
    cases member

namespace Store

/-- The parents that a name leads to in a frame. -/
def parentsAt (store : Store) (scope : FrameId) (name : String) : List String :=
  match store.resolveClass scope name with
  | .ok node => node.followed
  | .error _ => []

/-- The own method of the class that a name stands for in a frame. -/
def methodAt (store : Store) (scope : FrameId) (method name : String) : Option Function :=
  match store.resolveClass scope name with
  | .ok node => node.ownMethod? method
  | .error _ => none

/-- A name stands for a class with the given parents and the given method. -/
structure Charts (store : Store) (scope : FrameId) (wanted : String) (parents : String → List String)
    (method : String → Option Function) (name : String) (node : ClassNode) : Prop where
  stands : store.resolveClass scope name = .ok node
  above : node.followed = parents name
  own : node.ownMethod? wanted = method name

variable {store : Store} {scope : FrameId} {wanted : String} {parents : String → List String}
  {method : String → Option Function}

theorem parentsAt_of_ok (stands : store.resolveClass scope name = .ok node) :
    store.parentsAt scope name = node.followed := by
  rw [parentsAt, stands]

theorem methodAt_of_ok (stands : store.resolveClass scope name = .ok node) :
    store.methodAt scope wanted name = node.ownMethod? wanted := by
  rw [methodAt, stands]

theorem charts_at (stands : store.resolveClass scope name = .ok node) :
    store.Charts scope wanted (store.parentsAt scope) (store.methodAt scope wanted) name node :=
  ⟨stands, (parentsAt_of_ok stands).symm, (methodAt_of_ok stands).symm⟩

theorem resolveClass_ok (stands : store.resolveClass scope name = .ok node) :
    ∃ id, store.classNode? id = some node := by
  rw [resolveClass] at stands
  split at stands
  · cases stands
  · split at stands
    · cases stands
      exact ⟨_, ‹_›⟩
    · cases stands
  · cases stands

/-- A level whose new names all stand for classes is resolved. -/
theorem resolveLevel_ok {level : List String}
    (known : ∀ name ∈ fresh visited level, ∃ node, store.Charts scope wanted parents method name node) :
    ∃ nodes after, store.resolveLevel scope visited level = .ok (nodes, after) ∧
      List.Forall₂ (store.Charts scope wanted parents method) (fresh visited level) nodes ∧
      ∀ name, name ∈ after ↔ name ∈ level ∨ name ∈ visited := by
  induction level generalizing visited with
  | nil => exact ⟨[], visited, rfl, .nil, by simp⟩
  | cons name level ih =>
    rw [fresh] at known
    rw [resolveLevel, fresh]
    split
    · next seen =>
        rw [if_pos seen] at known
        obtain ⟨nodes, after, resolved, charted, visits⟩ := ih known
        exact ⟨nodes, after, resolved, charted, by grind⟩
    · next new =>
        rw [if_neg new] at known
        obtain ⟨node, charts⟩ := known name (.head _)
        obtain ⟨nodes, after, resolved, charted, visits⟩ := ih fun name member => known name (.tail _ member)
        refine ⟨node :: nodes, after, ?_, .cons charts charted, by grind⟩
        rw [charts.stands]
        simp only [bind, Except.bind, resolved]
        rfl

theorem firstMethod?_eq {nodes : List ClassNode}
    (charted : List.Forall₂ (store.Charts scope wanted parents method) names nodes) :
    firstMethod? nodes wanted = names.findSome? method := by
  induction charted with
  | nil => rfl
  | cons charts charted ih =>
    rw [firstMethod?] at ih
    rw [firstMethod?, List.findSome?_cons, List.findSome?_cons, charts.own, ih]

theorem nextLevel_eq {nodes : List ClassNode}
    (charted : List.Forall₂ (store.Charts scope wanted parents method) names nodes) :
    nextLevel nodes = names.flatMap parents := by
  induction charted with
  | nil => rfl
  | cons charts charted ih =>
    rw [nextLevel] at ih
    rw [List.flatMap_cons, ← charts.above, ← ih, nextLevel, List.filter_cons, ClassNode.followed]
    cases ClassNode.isRoot _ <;> rfl

open Classical in
/-- The classes with a parent that is not among some names. -/
noncomputable def unexplored (store : Store) (names : List String) : Finset Nat :=
  (Finset.range store.instances.size).filter fun index =>
    ∃ node, store.classNode? ⟨index⟩ = some node ∧ ∃ above ∈ node.parents, above ∉ names

theorem card_unexplored_le (names : List String) : (store.unexplored names).card ≤ store.instances.size :=
  (Finset.card_filter_le _ _).trans (Finset.card_range _).le

/-- A class whose parents get visited is not counted any more. -/
theorem card_unexplored_lt {others : List String} (more : names ⊆ others) {id : InstanceId}
    (found : store.classNode? id = some node) {above : String} (member : above ∈ node.parents) (new : above ∉ names)
    (explored : node.parents ⊆ others) : (store.unexplored others).card < (store.unexplored names).card := by
  classical
  refine Finset.card_lt_card ⟨fun index open_ => ?_, fun subset => ?_⟩
  · obtain ⟨inside, node, found, above, member, new⟩ := Finset.mem_filter.mp open_
    exact Finset.mem_filter.mpr ⟨inside, node, found, above, member, fun old => new (more old)⟩
  · have counted : id.index ∈ store.unexplored names :=
      Finset.mem_filter.mpr ⟨Finset.mem_range.mpr (inside_of_classNode? found), node, found, above, member, new⟩
    obtain ⟨-, other, same, left, listed, missing⟩ := Finset.mem_filter.mp (subset counted)
    rw [show store.classNode? ⟨id.index⟩ = some node from found, Option.some_inj] at same
    subst same
    exact missing (explored listed)

/-- A name that is new in the next level is a parent of a class that was not explored before. -/
theorem explored_or_nothing {level after : List String}
    (known : ∀ name ∈ fresh visited level, ∃ node, store.Charts scope wanted parents method name node)
    (visits : ∀ name, name ∈ after ↔ name ∈ level ∨ name ∈ visited) :
    fresh after ((fresh visited level).flatMap parents) = [] ∨
    fresh visited level ≠ [] ∧ (store.unexplored (after ++ (fresh visited level).flatMap parents)).card <
      (store.unexplored (visited ++ level)).card := by
  refine Classical.or_iff_not_imp_left.mpr fun more => ?_
  obtain ⟨above, member⟩ := List.exists_mem_of_ne_nil _ more
  obtain ⟨listed, new⟩ := mem_fresh.mp member
  obtain ⟨name, inside, above⟩ := List.mem_flatMap.mp listed
  obtain ⟨node, charts⟩ := known name inside
  obtain ⟨id, found⟩ := resolveClass_ok charts.stands
  have fully : node.parents = parents name :=
    (ClassNode.followed_of_mem (charts.above ▸ above)).symm.trans charts.above
  refine ⟨List.ne_nil_of_mem inside, card_unexplored_lt ?_ found (fully ▸ above) ?_ ?_⟩
  · exact fun other old => List.mem_append_left _ ((visits other).mpr (List.mem_append.mp old).symm)
  · exact fun old => new ((visits _).mpr (List.mem_append.mp old).symm)
  · intro other listed
    exact List.mem_append_right _ (List.mem_flatMap.mpr ⟨name, inside, fully ▸ listed⟩)

/-- What the search for a method keeps: the names that it visited have no such method, and what they lead to is
visited or in the level; the level has the same new names as the generation that it stands for. -/
structure Searching (store : Store) (scope : FrameId) (wanted : String) (parents : String → List String)
    (method : String → Option Function) (visited level names : List String) : Prop where
  alike : fresh visited level = fresh visited names
  known : ∀ name, Leads parents names name → name ∉ visited → ∃ node, store.Charts scope wanted parents method name node
  spent : ∀ name ∈ visited, Leads parents names name →
    method name = none ∧ ∀ above ∈ parents name, above ∈ visited ∨ above ∈ level

section

variable {visited level names : List String}

/-- Nothing is found beyond a level without new names. -/
theorem Searching.nearest_none (searching : store.Searching scope wanted parents method visited level names)
    (nothing : fresh visited level = []) : IsNearest parents method names none := by
  have old (names : List String) (nothing : fresh visited names = []) : ∀ name ∈ names, name ∈ visited := by
    intro name member
    by_contra new
    exact List.not_mem_nil (nothing ▸ mem_fresh.mpr ⟨member, new⟩)
  have inside (name : String) (leads : Leads parents names name) : name ∈ visited := by
    induction leads with
    | here member => exact old names (searching.alike ▸ nothing) _ member
    | step leads member ih =>
      rcases (searching.spent _ ih leads).2 _ member with done | later
      · exact done
      · exact old level nothing _ later
  refine fun distance => List.findSome?_eq_none_iff.mpr fun name member => ?_
  have leads := leads_of_mem_generation member
  exact (searching.spent name (inside name leads) leads).1

/-- The next level stands for the next generation. -/
theorem Searching.next (searching : store.Searching scope wanted parents method visited level names)
    (nothing : (fresh visited level).findSome? method = none) {after : List String}
    (visits : ∀ name, name ∈ after ↔ name ∈ level ∨ name ∈ visited) :
    store.Searching scope wanted parents method after ((fresh visited level).flatMap parents)
      (names.flatMap parents) := by
  have further (name : String) (leads : Leads parents (names.flatMap parents) name) : Leads parents names name :=
    leads.trans fun name member => by
      obtain ⟨below, inside, above⟩ := List.mem_flatMap.mp member
      exact (Leads.here inside).step above
  refine ⟨?_, fun name leads new => ?_, fun name member leads => ?_⟩
  · rw [searching.alike]
    refine fresh_flatMap_fresh fun name member seen above listed => ?_
    exact (visits above).mpr ((searching.spent name seen (.here member)).2 above listed).symm
  · exact searching.known name (further name leads) fun seen => new ((visits name).mpr (.inr seen))
  · by_cases seen : name ∈ visited
    · obtain ⟨no, closed⟩ := searching.spent name seen (further name leads)
      exact ⟨no, fun above listed => .inl ((visits above).mpr (closed above listed).symm)⟩
    · have first : name ∈ fresh visited level := mem_fresh.mpr ⟨((visits name).mp member).resolve_right seen, seen⟩
      exact ⟨List.findSome?_eq_none_iff.mp nothing name first,
        fun above listed => .inr (List.mem_flatMap.mpr ⟨name, first, listed⟩)⟩

/-- The search finds the nearest method, with as many steps as there are classes that lead to new names. -/
theorem searchLevels_nearest {fuel : Nat} (searching : store.Searching scope wanted parents method visited level names)
    (enough : fresh visited level = [] ∨ (store.unexplored (visited ++ level)).card < fuel) :
    ∃ found, store.searchLevels scope wanted fuel visited level = .ok found ∧ IsNearest parents method names found := by
  induction fuel generalizing visited level names with
  | zero =>
    have nothing := enough.resolve_right (Nat.not_lt_zero _)
    exact ⟨none, rfl, searching.nearest_none nothing⟩
  | succ fuel ih =>
    cases level with
    | nil => exact ⟨none, rfl, searching.nearest_none rfl⟩
    | cons first level =>
      have known : ∀ name ∈ fresh visited (first :: level),
          ∃ node, store.Charts scope wanted parents method name node := by
        intro name member
        rw [searching.alike] at member
        exact searching.known name (.here (mem_fresh.mp member).1) (mem_fresh.mp member).2
      obtain ⟨nodes, after, resolved, charted, visits⟩ := resolveLevel_ok known
      rw [searchLevels, resolved]
      · simp only [bind, Except.bind, firstMethod?_eq charted, nextLevel_eq charted]
        have same : (fresh visited (first :: level)).findSome? method = names.findSome? method := by
          rw [searching.alike]
          exact findSome?_fresh fun name member seen => (searching.spent name seen (.here member)).1
        cases nearest : (fresh visited (first :: level)).findSome? method with
        | some found => exact ⟨some found, rfl, .here (same ▸ nearest)⟩
        | none =>
          have fewer : fresh after ((fresh visited (first :: level)).flatMap parents) = [] ∨
              (store.unexplored (after ++ (fresh visited (first :: level)).flatMap parents)).card < fuel := by
            refine (explored_or_nothing known visits).imp_right fun ⟨more, less⟩ => ?_
            exact Nat.lt_of_lt_of_le less (Nat.le_of_lt_succ (enough.resolve_left more))
          obtain ⟨found, run, further⟩ := ih (searching.next nearest visits) fewer
          exact ⟨found, run, further.further (same ▸ nearest)⟩
      · nofun

end

/-- A class without an own method has the method that is nearest from its parents. Its own name is not followed, so
if its parents lead to that name, this must lead to nothing else. -/
theorem findMethod_nearest {frame : FrameId} (named : node.isRoot = false) (own : node.ownMethod? wanted = none)
    (known : ∀ name, Leads parents node.parents name → name ≠ node.name →
      ∃ above, store.Charts (parentScope node frame) wanted parents method name above)
    (spent : Leads parents node.parents node.name →
      method node.name = none ∧ ∀ above ∈ parents node.name, above ∈ node.parents) :
    ∃ found, store.findMethod frame node wanted = .ok found ∧ IsNearest parents method node.parents found := by
  rw [findMethod, own, named]
  refine searchLevels_nearest ⟨rfl, fun name leads new => ?_, fun name seen leads => ?_⟩ (.inr ?_)
  · exact known name leads fun same => new (same ▸ .head _)
  · cases List.mem_singleton.mp seen
    exact ⟨(spent leads).1, fun above listed => .inr ((spent leads).2 above listed)⟩
  · exact Nat.lt_of_le_of_lt (card_unexplored_le _) (by omega)

/-- A class without an own method has the method that is nearest when its own name leads to nothing and has no method:
that name is visited from the start. -/
theorem findMethod_nearest_apart {frame : FrameId} (named : node.isRoot = false) (own : node.ownMethod? wanted = none)
    (known : ∀ name, Leads (Function.update (store.parentsAt (parentScope node frame)) node.name []) node.parents name →
      name ≠ node.name → ∃ above, store.resolveClass (parentScope node frame) name = .ok above) :
    ∃ found, store.findMethod frame node wanted = .ok found ∧
      IsNearest (Function.update (store.parentsAt (parentScope node frame)) node.name [])
        (Function.update (store.methodAt (parentScope node frame) wanted) node.name none) node.parents found := by
  refine findMethod_nearest named own (fun name leads different => ?_) fun _ => by simp
  obtain ⟨above, stands⟩ := known name leads different
  refine ⟨above, stands, ?_, ?_⟩
  · rw [Function.update_of_ne different, parentsAt_of_ok stands]
  · rw [Function.update_of_ne different, methodAt_of_ok stands]

/-! ## The check of a new class -/

/-- The names of parents in the store. -/
def parentNames (store : Store) : List String :=
  store.instances.toList.flatMap fun object =>
    match object.payload with
    | .class node => node.parents
    | _ => []

theorem length_parentNames (store : Store) : store.parentNames.length = store.parentCount := by
  have counted (objects : List Instance) (total : Nat) :
      objects.foldl (fun total object =>
        match object.payload with
        | .class node => total + node.parents.length
        | _ => total) total =
      total + (objects.flatMap fun object =>
        match object.payload with
        | .class node => node.parents
        | _ => []).length := by
    induction objects generalizing total with
    | nil => rfl
    | cons object objects ih =>
      rw [List.foldl_cons, ih, List.flatMap_cons, List.length_append]
      cases object.payload <;> grind
  rw [parentNames, parentCount, ← Array.foldl_toList]
  exact ((counted _ 0).trans (Nat.zero_add _)).symm

theorem mem_parentNames {id : InstanceId} (found : store.classNode? id = some node) {above : String}
    (member : above ∈ node.parents) : above ∈ store.parentNames := by
  have inside := inside_of_classNode? found
  have object : store.object id = store.instances[id.index] := by
    rw [Store.object, Array.getElem?_eq_getElem inside, Option.getD_some]
  refine List.mem_flatMap.mpr ⟨store.object id, object ▸ Array.mem_toList_iff.mpr (Array.getElem_mem inside), ?_⟩
  rw [classNode?] at found
  split at found
  · next payload =>
      cases found
      simpa only [payload] using member
  · cases found

theorem mem_pendingAfter {seen : List String} :
    name ∈ pendingAfter node seen pending ↔ (name ∈ node.followed ∨ name ∈ pending) ∧ name ∉ seen := by
  rw [pendingAfter, ClassNode.followed, List.mem_filter, List.mem_append]
  cases node.isRoot <;> simp

/-- Some names stand for classes, none is the name of the new class, and what they lead to is among the known names. -/
def Checked (store : Store) (scope : FrameId) (own : String) (names known : List String) : Prop :=
  ∀ name ∈ names, name ≠ own ∧ ∃ node, store.resolveClass scope name = .ok node ∧ node.followed ⊆ known

/-- What the check of the names that are left comes to, without a bound on its steps. -/
inductive Checks (store : Store) (scope : FrameId) (own : String) :
    List String → List String → Except FailureCause Unit → Prop where
  | done (seen : List String) : Checks store scope own seen [] (.ok ())
  | itself (seen pending : List String) : Checks store scope own seen (own :: pending) (.error (.inheritsItself own))
  | unknown {seen pending : List String} {name : String} {cause : FailureCause}
      (fails : store.resolveClass scope name = .error cause) : Checks store scope own seen (name :: pending) (.error cause)
  | next {seen pending : List String} {name : String} {node : ClassNode} {result : Except FailureCause Unit}
      (other : name ≠ own) (stands : store.resolveClass scope name = .ok node)
      (rest : Checks store scope own (name :: seen) (pendingAfter node (name :: seen) pending) result) :
      Checks store scope own seen (name :: pending) result

/-- The check comes to an end, with as many steps as there are names. -/
theorem checks_checkAncestors {own : String} {fuel : Nat} {seen : List String}
    (all : ∀ id node, store.classNode? id = some node → node.parents ⊆ names)
    (enough : (names.toFinset \ seen.toFinset).card < fuel) (left : pending ⊆ names)
    (new : ∀ name ∈ pending, name ∉ seen) :
    store.Checks scope own seen pending (store.checkAncestors scope own fuel seen pending) := by
  induction fuel generalizing seen pending with
  | zero => exact absurd enough (Nat.not_lt_zero _)
  | succ fuel ih =>
    cases pending with
    | nil => exact .done seen
    | cons name pending =>
      rw [checkAncestors]
      split
      · next same => exact same ▸ .itself seen pending
      · next other =>
          cases stands : store.resolveClass scope name with
          | error cause => exact .unknown stands
          | ok node =>
            obtain ⟨id, found⟩ := resolveClass_ok stands
            refine .next other stands (ih ?_ ?_ fun _ later => (mem_pendingAfter.mp later).2)
            · have counted : name ∈ names.toFinset \ seen.toFinset := by
                simp [left (.head _), new name (.head _)]
              rw [List.toFinset_cons, Finset.sdiff_insert]
              exact Nat.lt_of_lt_of_le (Finset.card_erase_lt_of_mem counted) (Nat.le_of_lt_succ enough)
            · intro above later
              rcases (mem_pendingAfter.mp later).1 with listed | waiting
              · exact all id node found (ClassNode.followed_of_mem listed ▸ listed)
              · exact left (.tail _ waiting)

/-- A class is checked without a bound on the steps. -/
theorem checks_validateParents (store : Store) (scope : FrameId) (node : ClassNode) :
    store.Checks (parentScope node scope) node.name [] node.parents.reverse (store.validateParents scope node) := by
  have bounded : ((node.parents ++ store.parentNames).toFinset \ [].toFinset).card <
      store.parentCount + node.parents.length + 1 := by
    have short := List.toFinset_card_le (node.parents ++ store.parentNames)
    rw [List.length_append, length_parentNames] at short
    rw [List.toFinset_nil, Finset.sdiff_empty]
    omega
  exact checks_checkAncestors
    (fun id node found above member => List.mem_append_right _ (mem_parentNames found member)) bounded
    (fun above member => List.mem_append_left _ (List.mem_reverse.mp member)) fun _ _ => List.not_mem_nil

/-- When a check is passed, all names that are left and all that these lead to are checked. -/
theorem Checks.complete {own : String} {seen : List String} {result : Except FailureCause Unit}
    (checks : store.Checks scope own seen pending result) (passed : result = .ok ())
    (checked : store.Checked scope own seen (seen ++ pending)) :
    ∃ complete, seen ++ pending ⊆ complete ∧ store.Checked scope own complete complete := by
  induction checks with
  | done seen => exact ⟨seen, by simp, by simpa using checked⟩
  | itself | unknown => cases passed
  | @next seen pending name node result other stands rest ih =>
    have known (above : String) (given : above ∈ node.followed ∨ above ∈ seen ++ name :: pending) :
        above ∈ (name :: seen) ++ pendingAfter node (name :: seen) pending := by
      rw [List.mem_append, mem_pendingAfter]
      grind
    have step : store.Checked scope own (name :: seen)
        ((name :: seen) ++ pendingAfter node (name :: seen) pending) := by
      intro old listed
      rcases List.mem_cons.mp listed with rfl | listed
      · exact ⟨other, node, stands, fun above listed => known above (.inl listed)⟩
      · obtain ⟨apart, node, stands, covered⟩ := checked old listed
        exact ⟨apart, node, stands, fun above listed => known above (.inr (covered listed))⟩
    obtain ⟨complete, more, checked⟩ := ih passed step
    exact ⟨complete, fun above old => more (known above (.inr old)), checked⟩

/-- When a check is not passed, the names that are left lead to a name that is the reason. -/
theorem Checks.reason {own : String} {seen : List String} {result : Except FailureCause Unit}
    (checks : store.Checks scope own seen pending result) {cause : FailureCause} (failed : result = .error cause) :
    ∃ name, Leads (store.parentsAt scope) pending name ∧
      (name = own ∧ cause = .inheritsItself own ∨ store.resolveClass scope name = .error cause) := by
  induction checks with
  | done => cases failed
  | itself seen pending =>
    cases failed
    exact ⟨own, .here (.head _), .inl ⟨rfl, rfl⟩⟩
  | @unknown _ _ name _ fails =>
    cases failed
    exact ⟨name, .here (.head _), .inr fails⟩
  | @next _ pending name node _ _ stands _ ih =>
    obtain ⟨reason, leads, why⟩ := ih failed
    refine ⟨reason, leads.trans fun above member => ?_, why⟩
    rcases (mem_pendingAfter.mp member).1 with listed | waiting
    · exact (Leads.here (.head _)).step (parentsAt_of_ok stands ▸ listed)
    · exact .here (.tail _ waiting)

/-- In a class that passed the check, the parents lead to classes only, and not to the name of the class. -/
theorem validateParents_ok (passed : store.validateParents scope node = .ok ())
    (leads : Leads (store.parentsAt (parentScope node scope)) node.parents name) :
    name ≠ node.name ∧ ∃ above, store.resolveClass (parentScope node scope) name = .ok above := by
  obtain ⟨complete, more, checked⟩ := (checks_validateParents store scope node).complete passed nofun
  have inside : name ∈ complete := by
    induction leads with
    | here member => exact more (List.mem_reverse.mpr member)
    | step leads member ih =>
      obtain ⟨-, above, stands, covered⟩ := checked _ ih
      exact covered (parentsAt_of_ok stands ▸ member)
  obtain ⟨apart, above, stands, -⟩ := checked name inside
  exact ⟨apart, above, stands⟩

end Store

end LineScript
