import Mathlib.Data.List.Basic

/-!
Sorting that is stable.

Values that no comparison tells apart leave a sort in the order in which they came
(`filter_mergeSort`), whatever it is that they have in common.
-/

namespace VideoAccel

variable {α : Type*} {le : α → α → Bool}

/-- Sorting leaves values that are level with each other in their order. -/
theorem filter_mergeSort (trans : ∀ a b c, le a b = true → le b c = true → le a c = true)
    (total : ∀ a b, (le a b || le b a) = true) {among : α → Bool}
    (level : ∀ a b, among a = true → among b = true → le a b = true) (values : List α) :
    (values.mergeSort le).filter among = values.filter among := by
  have flat : (values.filter among).Pairwise (le · ·) :=
    List.pairwise_of_forall_mem_list fun a first b second =>
      level a b (List.mem_filter.mp first).2 (List.mem_filter.mp second).2
  have kept : (values.filter among).Sublist (values.mergeSort le) :=
    List.sublist_mergeSort trans total flat List.filter_sublist
  have ordered : (values.filter among).Sublist ((values.mergeSort le).filter among) := by
    simpa only [List.filter_filter, Bool.and_self] using kept.filter among
  have count : (values.filter among).length = ((values.mergeSort le).filter among).length :=
    ((List.mergeSort_perm values le).symm.filter among).length_eq
  exact (ordered.eq_of_length count).symm

end VideoAccel
