import Mathlib.Data.List.Perm.Basic

/-!
# Removal by swapping with the last element

Removing from the middle of a vector in constant time: exchange the element with
the last one and drop the end. The other elements keep their position, except
the last, which takes over the freed one. Removing the last element is the same
operation.
-/

namespace ReactorNetwork.SwapRemove

variable {α : Type}

/-- Exchange two elements; positions outside the vector change nothing. -/
def swap (elements : List α) (first second : Nat) : List α :=
  match elements[first]?, elements[second]? with
  | some left, some right => (elements.set first right).set second left
  | _, _ => elements

/-- Exchange with the last element and drop the end. -/
def swapRemove (elements : List α) (index : Nat) : List α :=
  (swap elements index (elements.length - 1)).dropLast

variable {elements : List α} {index : Nat}

/-- An element swapped with itself stays. -/
theorem swap_self (elements : List α) (index : Nat) : swap elements index index = elements := by
  unfold swap
  cases present : elements[index]? with
  | none => rfl
  | some element =>
    obtain ⟨inside, same⟩ := List.getElem?_eq_some_iff.mp present
    simp [← same]

/-- Removing the last element drops it. -/
theorem swapRemove_last (elements : List α) :
    swapRemove elements (elements.length - 1) = elements.dropLast := by
  rw [swapRemove, swap_self]

/-- Only the freed position changes before the end is dropped. -/
theorem swapRemove_eq (inside : index < elements.length) :
    ∃ last, elements.getLast? = some last ∧
      swapRemove elements index = (elements.set index last).dropLast := by
  have final : elements.length - 1 < elements.length := by omega
  refine ⟨elements[elements.length - 1], ?_, ?_⟩
  · rw [List.getLast?_eq_getElem?, List.getElem?_eq_getElem final]
  · simp only [swapRemove, swap, List.getElem?_eq_getElem inside,
      List.getElem?_eq_getElem final, List.dropLast_eq_take, List.length_set]
    exact List.take_set_of_le (Nat.le_refl _)

/-- One element is removed. -/
theorem swapRemove_length (inside : index < elements.length) :
    (swapRemove elements index).length = elements.length - 1 := by
  obtain ⟨last, _, same⟩ := swapRemove_eq inside
  simp [same]

/-- Every position but the freed one and the last keeps its element; the freed
one gets the last element. -/
theorem swapRemove_getElem? (inside : index < elements.length) (position : Nat)
    (within : position < elements.length - 1) :
    (swapRemove elements index)[position]? =
      if position = index then elements.getLast? else elements[position]? := by
  obtain ⟨last, final, same⟩ := swapRemove_eq inside
  rw [same, List.dropLast_eq_take, List.length_set, List.getElem?_take_of_lt within,
    List.getElem?_set]
  by_cases here : index = position
  · subst here
    simp [inside, final]
  · simp [here, Ne.symm here]

/-- The removed element and the rest are the elements.

Proof: split off the last element. If it is the removed one nothing moves.
Otherwise writing it over the removed one is erasing that and adding it. -/
theorem swapRemove_perm {element : α} (present : elements[index]? = some element) :
    elements.Perm (element :: swapRemove elements index) := by
  obtain ⟨inside, same⟩ := List.getElem?_eq_some_iff.mp present
  obtain ⟨last, final, removed⟩ := swapRemove_eq inside
  obtain ⟨front, rfl⟩ := List.getLast?_eq_some_iff.mp final
  rw [removed]
  by_cases atEnd : index = front.length
  · subst atEnd
    have isLast : last = element := by simpa using same
    subst isLast
    simp
  · have inFront : index < front.length := by
      simp only [List.length_append, List.length_singleton] at inside
      omega
    have isElement : front[index] = element := by
      simpa [List.getElem_append_left inFront] using same
    have erased := List.getElem_cons_eraseIdx_perm inFront
    rw [isElement] at erased
    have rewritten := List.set_perm_cons_eraseIdx inFront last
    rw [List.set_append_left _ _ inFront, List.dropLast_concat]
    calc List.Perm (front ++ [last]) (last :: front) := List.perm_append_singleton _ _
      List.Perm _ (last :: element :: front.eraseIdx index) := erased.symm.cons _
      List.Perm _ (element :: last :: front.eraseIdx index) := List.Perm.swap _ _ _
      List.Perm _ (element :: front.set index last) := rewritten.symm.cons _

end ReactorNetwork.SwapRemove
