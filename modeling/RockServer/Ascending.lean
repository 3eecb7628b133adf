import Mathlib.Data.List.Sort
import Mathlib.Data.List.Dedup
import Mathlib.Data.Finset.Card

-- Ordered sets as the lists that they iterate over: strictly ascending ones.
namespace Ascending
variable {α : Type} [LinearOrder α] {values others : List α} {x : α}

def ascending (values : List α) : List α := (values.insertionSort (· ≤ ·)).dedup

@[simp]
theorem mem_ascending : x ∈ ascending values ↔ x ∈ values := by simp [ascending]

theorem ascending_strict (values : List α) : (ascending values).Pairwise (· < ·) := by
  have sorted : (ascending values).Pairwise (· ≤ ·) := (List.pairwise_insertionSort (· ≤ ·) values).sublist (List.dedup_sublist _)
  have distinct : (ascending values).Pairwise (· ≠ ·) := List.nodup_dedup _
  exact (sorted.and distinct).imp fun both => lt_of_le_of_ne both.1 both.2

-- Members determine the list.
theorem strict_unique (strict : values.Pairwise (· < ·)) (strict' : others.Pairwise (· < ·))
    (same : ∀ x, x ∈ values ↔ x ∈ others) : values = others := by
  have distinct : values.Nodup := strict.imp ne_of_lt
  have distinct' : others.Nodup := strict'.imp ne_of_lt
  exact ((List.perm_ext_iff_of_nodup distinct distinct').mpr same).eq_of_pairwise'
    (strict.imp le_of_lt) (strict'.imp le_of_lt)

theorem ascending_eq : ascending values = others ↔ others.Pairwise (· < ·) ∧ ∀ x, x ∈ values ↔ x ∈ others := by
  constructor
  · rintro rfl
    exact ⟨ascending_strict values,fun x => mem_ascending.symm⟩
  · intro ⟨strict,same⟩
    exact strict_unique (ascending_strict values) strict fun x => mem_ascending.trans (same x)

theorem ascending_self (strict : values.Pairwise (· < ·)) : ascending values = values :=
  ascending_eq.mpr ⟨strict,fun _ => Iff.rfl⟩

theorem ascending_nil : ascending values = [] ↔ values = [] := by
  refine ⟨fun empty => List.eq_nil_iff_forall_not_mem.mpr fun x listed => ?_,fun empty => by rw [empty]; rfl⟩
  rw [← mem_ascending,empty] at listed
  cases listed

-- The set has as many members as the list has different ones.
theorem length_ascending : (ascending values).length = values.toFinset.card := by
  have same : (values.insertionSort (· ≤ ·)).toFinset = values.toFinset := List.toFinset_eq_of_perm _ _ (List.perm_insertionSort _ _)
  rw [ascending,← List.card_toFinset,same]

example : ascending [3,1,2,1] = [1,2,3] := by decide

end Ascending
