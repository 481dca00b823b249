import LineScript.Store.Bindings
import Mathlib.Data.List.Nodup

/-!
# Bindings as tables

Setting a name changes what is found under it and nothing else (`Bindings.get?_set`), and a new name comes last
(`Bindings.set_of_unbound`). Erasing a name takes one entry away, so that nothing is found under the name any more
if names do not repeat (`Bindings.get?_erase`); and they do not, in a table made by setting and erasing.
-/

set_option autoImplicit false

namespace LineScript.Bindings

variable {α : Type} {bindings : Bindings α} {name other : String} {value : α}

@[simp]
theorem names_nil : names ([] : Bindings α) = [] :=
  rfl

@[simp]
theorem names_cons (entry : String × α) : names (entry :: bindings) = entry.1 :: names bindings :=
  rfl

/-- A name is bound if it is one of the bound names. -/
theorem get?_isSome_iff : (bindings.get? name).isSome ↔ name ∈ bindings.names := by
  induction bindings with
  | nil => simp [get?]
  | cons entry rest ih =>
    obtain ⟨first, held⟩ := entry
    by_cases same : first = name
    · simp [get?, same]
    · simp [get?, same, ih, Ne.symm same]

theorem get?_eq_none_iff : bindings.get? name = none ↔ name ∉ bindings.names := by
  rw [← get?_isSome_iff, Option.not_isSome_iff_eq_none]

theorem mem_of_get? (found : bindings.get? name = some value) : (name, value) ∈ bindings := by
  induction bindings with
  | nil => cases found
  | cons first rest ih =>
    rw [get?] at found
    split at found
    · rename_i same
      cases found
      exact same ▸ List.mem_cons_self ..
    · exact .tail _ (ih found)

theorem get?_of_mem (distinct : bindings.names.Nodup) (member : (name, value) ∈ bindings) :
    bindings.get? name = some value := by
  induction bindings with
  | nil => cases member
  | cons entry rest ih =>
    obtain ⟨first, held⟩ := entry
    obtain ⟨apart, distinct⟩ := List.nodup_cons.mp distinct
    rcases List.mem_cons.mp member with same | member
    · cases same
      rw [get?, if_pos rfl]
    · have bound : name ∈ names rest := List.mem_map.mpr ⟨_, member, rfl⟩
      have different : first ≠ name := fun same => apart (same ▸ bound)
      rw [get?, if_neg different, ih distinct member]

theorem get?_eq_some_iff (distinct : bindings.names.Nodup) :
    bindings.get? name = some value ↔ (name, value) ∈ bindings :=
  ⟨mem_of_get?, get?_of_mem distinct⟩

theorem nodup_filter (keep : String × α → Bool) (distinct : bindings.names.Nodup) :
    (names (bindings.filter keep)).Nodup :=
  distinct.sublist (List.filter_sublist.map Prod.fst)

/-- What is set is found, and the rest is found as before. -/
theorem get?_set : (bindings.set name value).get? other = if other = name then some value else bindings.get? other := by
  induction bindings with
  | nil =>
    by_cases same : other = name
    · simp [set, get?, same]
    · simp [set, get?, same, Ne.symm same]
  | cons entry rest ih =>
    obtain ⟨first, held⟩ := entry
    by_cases here : first = name
    · by_cases same : other = name
      · simp [set, get?, here, same]
      · simp [set, get?, here, same, Ne.symm same]
    · rw [set, if_neg here, get?, get?, ih]
      by_cases found : first = other
      · simp [found, show other ≠ name from found ▸ here]
      · simp [found]

/-- A name that is not bound comes last. -/
theorem set_of_unbound (unbound : name ∉ bindings.names) : bindings.set name value = bindings ++ [(name, value)] := by
  induction bindings with
  | nil => rfl
  | cons entry rest ih =>
    obtain ⟨first, held⟩ := entry
    rw [names_cons, List.mem_cons, not_or] at unbound
    rw [set, if_neg (Ne.symm unbound.1), ih unbound.2, List.cons_append]

/-- A name that is bound keeps its place. -/
theorem names_set_of_bound (bound : name ∈ bindings.names) : (bindings.set name value).names = bindings.names := by
  induction bindings with
  | nil => cases bound
  | cons entry rest ih =>
    obtain ⟨first, held⟩ := entry
    by_cases here : first = name
    · simp [set, here]
    · have later : name ∈ names rest := (List.mem_cons.mp bound).resolve_left (Ne.symm here)
      rw [set, if_neg here, names_cons, names_cons, ih later]

theorem names_append (first second : Bindings α) : (first ++ second).names = first.names ++ second.names :=
  List.map_append

theorem nodup_set (distinct : bindings.names.Nodup) : (bindings.set name value).names.Nodup := by
  by_cases bound : name ∈ bindings.names
  · rwa [names_set_of_bound bound]
  · rw [set_of_unbound bound, names_append]
    refine List.nodup_append.mpr ⟨distinct, List.nodup_singleton name, ?_⟩
    rintro first member second single rfl
    obtain rfl : first = name := List.mem_singleton.mp single
    exact bound member

theorem names_erase : (bindings.erase name).names = bindings.names.erase name := by
  induction bindings with
  | nil => rfl
  | cons entry rest ih =>
    obtain ⟨first, held⟩ := entry
    by_cases here : first = name
    · simp [erase, here]
    · rw [erase, if_neg here, names_cons, names_cons, ih, List.erase_cons_tail (by simpa using here)]

theorem nodup_erase (distinct : bindings.names.Nodup) : (bindings.erase name).names.Nodup := by
  rw [names_erase]
  exact distinct.erase name

/-- What is erased is not found any more, and the rest is found as before. -/
theorem get?_erase (distinct : bindings.names.Nodup) :
    (bindings.erase name).get? other = if other = name then none else bindings.get? other := by
  by_cases same : other = name
  · rw [if_pos same, get?_eq_none_iff, names_erase, same]
    exact fun member => (distinct.mem_erase_iff.mp member).1 rfl
  · rw [if_neg same]
    induction bindings with
    | nil => rfl
    | cons entry rest ih =>
      obtain ⟨first, held⟩ := entry
      by_cases here : first = name
      · have apart : first ≠ other := fun equal => same (equal ▸ here)
        rw [erase, if_pos here, get?, if_neg apart]
      · rw [erase, if_neg here, get?, get?, ih (List.nodup_cons.mp distinct).2]

theorem get?_append (found : bindings.get? name = some value) (rest : Bindings α) :
    (bindings ++ rest).get? name = some value := by
  induction bindings with
  | nil => cases found
  | cons entry others ih =>
    obtain ⟨first, held⟩ := entry
    rw [get?] at found
    rw [List.cons_append, get?]
    split at found
    · rename_i same
      rw [if_pos same, found]
    · rename_i different
      rw [if_neg different, ih found]

theorem erase_append (unbound : name ∉ bindings.names) (rest : Bindings α) :
    (bindings ++ (name, value) :: rest).erase name = bindings ++ rest := by
  induction bindings with
  | nil => simp [erase]
  | cons entry others ih =>
    obtain ⟨first, held⟩ := entry
    rw [names_cons, List.mem_cons, not_or] at unbound
    rw [List.cons_append, erase, if_neg (Ne.symm unbound.1), ih unbound.2, List.cons_append]

/-! ## Tables with more entries -/

/-- The entries can be added to a table: they have distinct names, which are new. -/
structure Adds (table added : Bindings α) : Prop where
  distinct : added.names.Nodup
  new : ∀ name ∈ added.names, name ∉ table.names

theorem adds_nil (table : Bindings α) : table.Adds [] :=
  ⟨List.nodup_nil, fun _ member => nomatch member⟩

theorem adds_single {table : Bindings α} (unbound : name ∉ table.names) : table.Adds [(name, value)] :=
  ⟨List.nodup_singleton name, fun _ member => List.mem_singleton.mp member ▸ unbound⟩

theorem Adds.append {table first second : Bindings α} (before : table.Adds first) (after : Adds (table ++ first) second) :
    table.Adds (first ++ second) := by
  have later (name : String) (member : name ∈ second.names) : name ∉ table.names ∧ name ∉ first.names := by
    have new := after.new name member
    rwa [names_append, List.mem_append, not_or] at new
  constructor
  · rw [names_append]
    refine List.nodup_append.mpr ⟨before.distinct, after.distinct, ?_⟩
    rintro name member _ other rfl
    exact (later name other).2 member
  · intro name member
    rw [names_append] at member
    exact (List.mem_append.mp member).elim (before.new name) fun member => (later name member).1

theorem Adds.of_append {table first second : Bindings α} (after : Adds (table ++ first) second) : table.Adds second :=
  ⟨after.distinct, fun name member inside => after.new name member (by
    rw [names_append]
    exact List.mem_append_left _ inside)⟩

end LineScript.Bindings
