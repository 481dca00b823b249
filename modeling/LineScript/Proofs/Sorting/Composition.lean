import LineScript.Proofs.Sorting.Stability

/-!
# What sorting is made of

Sorting asks for comparisons and does nothing else. So a property of actions that holds of actions without
effect, that is kept when one action follows another, and that every comparison has, is a property of
sorting (`composes_sort`). The actions may depend on an environment, which all parts of a sort see alike.
-/

set_option autoImplicit false

namespace LineScript.Sorting

variable {E : Type} {m : Type → Type} [Monad m]

/-- A property of actions, as functions of an environment, that holds without effect and along sequences. -/
structure Composes (allowed : (β : Type) → (E → m β) → Prop) : Prop where
  pure : ∀ {β : Type} (value : β), allowed β fun _ => Pure.pure value
  bind : ∀ {β γ : Type} {action : E → m β} {next : β → E → m γ}, allowed β action →
    (∀ value, allowed γ (next value)) → allowed γ fun env => action env >>= fun value => next value env

/-- The property of actions that may be refused. -/
def Optional (allowed : (β : Type) → (E → m β) → Prop) (β : Type) (action : E → OptionT m β) : Prop :=
  allowed (Option β) fun env => (action env).run

section

variable [LawfulMonad m] {allowed : (β : Type) → (E → m β) → Prop} (composes : Composes allowed)

/-- The rules for actions that have the property when their values are taken with what holds of them. -/
def Composes.rules : Rules E m where
  yields post action := ∃ inner : E → m {value // post value}, allowed _ inner ∧
    action = fun env => inner env >>= fun value => Pure.pure value.1
  pure := by
    intro β post value holds
    exact ⟨fun _ => Pure.pure ⟨value, holds⟩, composes.pure _, by simp⟩
  bind := by
    rintro β γ post final action next ⟨inner, holds, rfl⟩ rest
    choose after still same using fun value : {value // post value} => rest value.1 value.2
    refine ⟨fun env => inner env >>= fun value => after value env, composes.bind holds still, ?_⟩
    simp [same]
  mono := by
    rintro β post final action ⟨inner, holds, rfl⟩ weaker
    exact ⟨fun env => inner env >>= fun value => Pure.pure ⟨value.1, weaker _ value.2⟩,
      composes.bind holds fun _ => composes.pure _, by simp⟩

/-- What holds along sequences, and of every comparison, holds of sorting. -/
theorem composes_sort {α : Type} {less : E → α → α → OptionT m Bool} (composes : Composes allowed)
    (asks : ∀ left right, Optional allowed Bool fun env => less env left right) (items : List α) :
    allowed (Arrangement α) fun env => sort (less env) items := by
  -- nothing is said of the answers, so that they hold of an unsound comparison
  have compares : Compares composes.rules False (fun _ => 0) items less := fun left _ right _ =>
    ⟨fun env => (less env left right).run >>= fun found => pure ⟨found, by cases found <;> simp⟩,
      composes.bind (asks left right) fun _ => composes.pure _, by simp⟩
  obtain ⟨inner, holds, same⟩ := yields_sort items compares
  rw [same]
  exact composes.bind holds fun value => composes.pure value.1

end

end LineScript.Sorting
