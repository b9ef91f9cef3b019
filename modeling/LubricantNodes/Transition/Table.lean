import Mathlib.Data.List.Basic

/-!
# Tables of objects

A state often has a list of objects (calls, processes, sessions) that are named by
their position: new objects come last, and an object is changed in place.
-/

namespace LubricantNodes.Transition

open List

universe u v

variable {α : Type u} {objects : List α} {object found : α} {number index : Nat}

/-- An object of a table to which one was added. -/
theorem getElem?_concat_eq_some_iff : (objects ++ [object])[index]? = some found ↔
      objects[index]? = some found ∨ index = objects.length ∧ found = object := by
  constructor
  · intro present
    by_cases below : index < objects.length
    · rw [getElem?_append_left below] at present
      exact .inl present
    · have inside := (List.getElem?_eq_some_iff.mp present).1
      rw [length_append, length_singleton] at inside
      have last : index = objects.length := by omega
      subst last
      rw [getElem?_concat_length] at present
      exact .inr ⟨rfl, (Option.some.inj present).symm⟩
  · intro either
    rcases either with present | ⟨rfl, rfl⟩
    · exact (List.getElem?_append_left (List.getElem?_eq_some_iff.mp present).1).trans present
    · exact getElem?_concat_length

variable {change : α → α}

/-- An object of a table in which one was changed. -/
theorem getElem?_modify_eq_some_iff :
    (objects.modify number change)[index]? = some found ↔ ∃ before, objects[index]? = some before ∧
        found = if number = index then change before else before := by
  rw [getElem?_modify, Option.map_eq_map, Option.map_eq_some_iff]
  simp only [eq_comm]

/-- It is the changed object or another one. -/
theorem of_getElem?_modify_eq_some (present : (objects.modify number change)[index]? = some found) :
    number = index ∧ (∃ before, objects[number]? = some before ∧ found = change before) ∨
      number ≠ index ∧ objects[index]? = some found := by
  rcases getElem?_modify_eq_some_iff.mp present with ⟨before, there, rfl⟩
  by_cases same : number = index
  · subst same
    exact .inl ⟨rfl, before, there, if_pos rfl⟩
  · rw [if_neg same]
    exact .inr ⟨same, there⟩

/-- A change of an object that is known is a replacement. -/
theorem modify_eq_set (present : objects[number]? = some object) :
    objects.modify number change = objects.set number (change object) := by
  rw [modify_eq_set_getElem?, present]
  rfl

/-- An object is replaced by itself. -/
theorem set_eq_self (present : objects[number]? = some object) :
    objects.set number object = objects := by
  rcases List.getElem?_eq_some_iff.mp present with ⟨bound, rfl⟩
  exact set_getElem_self bound

/-- An object of a table in which one was replaced. -/
theorem of_getElem?_set_eq_some (present : (objects.set number object)[index]? = some found) :
    number = index ∧ found = object ∨ number ≠ index ∧ objects[index]? = some found := by
  by_cases same : number = index
  · subst same
    have inside := (List.getElem?_eq_some_iff.mp present).1
    rw [length_set] at inside
    rw [getElem?_set_self inside] at present
    exact .inl ⟨rfl, (Option.some.inj present).symm⟩
  · rw [getElem?_set_ne same] at present
    exact .inr ⟨same, present⟩

/-- An object that is not the one that is replaced. -/
theorem mem_set_of_ne {before : α} (member : found ∈ objects)
    (present : objects[number]? = some before) (different : found ≠ before) :
    found ∈ objects.set number object := by
  rcases mem_iff_getElem?.mp member with ⟨index, listed⟩
  have apart : number ≠ index := by
    rintro rfl
    rw [present] at listed
    exact different (Option.some.inj listed).symm
  apply mem_iff_getElem?.mpr
  exact ⟨index, (getElem?_set_ne apart).trans listed⟩

/-- A view of a table in which an object was changed. -/
theorem map_modify_eq {β : Type v} {view : α → β} {effect : β → β}
    (changes : ∀ object, view (change object) = effect (view object)) :
    (objects.modify number change).map view = (objects.map view).modify number effect := by
  apply ext_getElem?
  intro place
  rw [getElem?_map, getElem?_modify, getElem?_modify, getElem?_map]
  cases objects[place]? with
  | none => rfl
  | some object =>
    by_cases here : number = place
    · simp [here, changes]
    · simp [here]

/-- A view of a table in which an object was changed, in one way or another. -/
theorem map_modify_congr {β : Type v} {view : α → β} {other : α → α}
    (same : ∀ object, objects[number]? = some object → view (change object) = view (other object)) :
    (objects.modify number change).map view = (objects.modify number other).map view := by
  apply ext_getElem?
  intro place
  rw [getElem?_map, getElem?_map, getElem?_modify, getElem?_modify]
  cases present : objects[place]? with
  | none => rfl
  | some object =>
    by_cases here : number = place
    · subst here
      simp [same object present]
    · simp [here]

/-! ## Tables with keys -/

section Keys

variable {κ : Type v} [DecidableEq κ] {key : α → κ} {wanted : κ}

/-- The object with a key, when an object was changed that keeps its key. -/
theorem find?_modify {change : α → α} (distinct : (objects.map key).Nodup)
    (present : objects[number]? = some object) (kept : key (change object) = key object) :
    (objects.modify number change).find? (fun other => key other = wanted) =
      if key object = wanted then some (change object)
      else objects.find? fun other => key other = wanted := by
  induction objects generalizing number with
  | nil => cases present
  | cons first rest ih =>
    rw [map_cons, nodup_cons] at distinct
    cases number with
    | zero =>
      cases present
      by_cases here : key object = wanted <;> simp [kept, here]
    | succ number =>
      have member : object ∈ rest := mem_of_getElem? present
      rw [modify_succ_cons, find?_cons, ih distinct.2 present, find?_cons]
      by_cases front : key first = wanted
      · have elsewhere : key object ≠ wanted := by
          rintro rfl
          exact distinct.1 (front ▸ mem_map_of_mem member)
        simp [front, elsewhere]
      · simp [front]

/-- The object with a key, in a table to which one was added. -/
theorem find?_concat (absent : key object ∉ objects.map key) :
    (objects ++ [object]).find? (fun other => key other = wanted) =
      if key object = wanted then some object
      else objects.find? fun other => key other = wanted := by
  rw [find?_append]
  by_cases here : key object = wanted
  · have nowhere : objects.find? (fun other => key other = wanted) = none := by
      rw [find?_eq_none]
      intro other member same
      exact absent (here ▸ of_decide_eq_true same ▸ mem_map_of_mem member)
    simp [here, nowhere]
  · simp [here]

/-- The object with a key, when those with another key have been removed. -/
theorem find?_remove (removed : κ) :
    (objects.filter fun other => key other ≠ removed).find? (fun other => key other = wanted) =
      if removed = wanted then none else objects.find? fun other => key other = wanted := by
  rw [find?_filter]
  by_cases here : removed = wanted
  · rw [if_pos here, find?_eq_none]
    intro other _
    simp [here]
  rw [if_neg here]
  congr 1
  funext other
  by_cases same : key other = wanted
  · simp [same, Ne.symm here]
  · simp [same]

end Keys

end LubricantNodes.Transition
