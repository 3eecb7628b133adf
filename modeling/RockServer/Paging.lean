import Mathlib.Algebra.Order.Ring.Nat
import Mathlib.Data.List.Basic

-- Pages by offset: the loop that asks for the next page while there is more.
namespace Paging
variable {α : Type}

def slice (rows : List α) (offset limit : Nat) : List α := (rows.drop offset).take limit

structure Page (α : Type) where
  rows : List α
  total : Nat
  more : Bool

-- The pages that the loop gets from an offset on.
inductive Walk (page : Nat → Page α) (limit : Nat) : Nat → List (Page α) → Prop where
  | last {offset} : (page offset).more = false → Walk page limit offset [page offset]
  | next {offset pages} : (page offset).more = true → Walk page limit (offset + limit) pages →
      Walk page limit offset (page offset :: pages)

-- The page of a list whose total is the length of the list.
def sliced (rows : List α) (limit offset : Nat) : Page α where
  rows := slice rows offset limit
  total := rows.length
  more := decide (offset + (slice rows offset limit).length < rows.length)

variable {page : Nat → Page α} {limit offset : Nat} {pages : List (Page α)} {rows : List α}

theorem length_slice : (slice rows offset limit).length = min limit (rows.length - offset) := by
  rw [slice,List.length_take,List.length_drop]

theorem mem_slice {x : α} (member : x ∈ slice rows offset limit) : x ∈ rows := List.mem_of_mem_drop (List.mem_of_mem_take member)

theorem slice_zero (large : rows.length ≤ limit) : slice rows 0 limit = rows := by
  rw [slice,List.drop_zero,List.take_of_length_le large]

theorem slice_nonempty (positive : 0 < limit) (inside : offset < rows.length) : slice rows offset limit ≠ [] := by
  intro empty
  have none_left := congrArg List.length empty
  rw [length_slice,List.length_nil] at none_left
  omega

theorem first_page (walked : Walk page limit offset pages) : page offset ∈ pages := by
  cases walked with
  | last _ => exact List.mem_singleton_self _
  | next _ _ => exact List.mem_cons_self

-- Slices of any lengths, each from where the one before it ends.
def consecutive (rows : List α) : Nat → List Nat → List (List α)
  | _,[] => []
  | offset,limit :: limits => slice rows offset limit :: consecutive rows (offset + limit) limits

theorem consecutive_flatten (limits : List Nat) : (consecutive rows offset limits).flatten = slice rows offset limits.sum := by
  induction limits generalizing offset with
  | nil => simp [consecutive,slice]
  | cons limit limits ih =>
    rw [consecutive,List.flatten_cons,ih,List.sum_cons,slice,slice,slice,List.take_add,List.drop_drop]

-- Pages cut from one list give it back, one after the other.
theorem walk_slices (positive : 0 < limit) (same : ∀ offset < rows.length, page offset = sliced rows limit offset)
    (inside : offset < rows.length) : ∃ pages, Walk page limit offset pages ∧ pages.flatMap Page.rows = rows.drop offset ∧
      ∀ found ∈ pages, found.total = rows.length := by
  induction left : rows.length - offset using Nat.strongRecOn generalizing offset with
  | ind left ih =>
    have here := same offset inside
    have size : (page offset).more = decide (offset + min limit (rows.length - offset) < rows.length) := by
      rw [here,sliced,length_slice]
    by_cases last : rows.length ≤ offset + limit
    · refine ⟨[page offset],.last ?_,?_,?_⟩
      · rw [size,decide_eq_false_iff_not]
        omega
      · rw [List.flatMap_singleton,here]
        exact List.take_of_length_le (by rw [List.length_drop]; omega)
      · intro found member
        rw [List.mem_singleton.mp member,here]
        rfl
    · obtain ⟨pages,walked,whole,totals⟩ := ih (rows.length - (offset + limit)) (by omega)
        (show offset + limit < rows.length by omega) rfl
      refine ⟨page offset :: pages,.next ?_ walked,?_,?_⟩
      · rw [size,decide_eq_true_eq]
        omega
      · calc (page offset :: pages).flatMap Page.rows
            = (rows.drop offset).take limit ++ (rows.drop offset).drop limit := by
              rw [List.flatMap_cons,whole,here,List.drop_drop]
              rfl
          _ = rows.drop offset := List.take_append_drop limit _
      · intro found member
        rcases List.mem_cons.mp member with rfl | member
        · rw [here]
          rfl
        · exact totals found member

-- Pages that are each cut from a list of their own, which depends on where the page
-- ends, come from one list just where all of these lists are the first. Lists of
-- one length are the same.
theorem one_list {lists : Nat → List α} {most : Nat} (reached : 0 < most)
    (same_length : ∀ size, 0 < size → (lists size).length = (lists 1).length → lists size = lists 1) :
    (∃ all : List α, ∀ limit offset, limit + offset ≤ most →
        slice (lists (limit + offset)) offset limit = slice all offset limit ∧
          (slice all offset limit ≠ [] → (lists (limit + offset)).length = all.length)) ↔
      ∀ size, 0 < size → size ≤ most → lists size = lists 1 := by
  constructor
  · intro ⟨all,pages⟩ size positive inside
    have whole := pages size 0 inside
    have first := pages 1 0 reached
    cases all with
    | nil =>
      have none_listed : ∀ {size}, 0 < size → slice (lists size) 0 size = slice [] 0 size → lists size = [] := by
        intro size positive empty
        rw [slice,slice,List.drop_zero,List.drop_nil,List.take_nil,List.take_eq_nil_iff] at empty
        exact empty.resolve_left (Nat.ne_of_gt positive)
      exact (none_listed positive whole.1).trans (none_listed Nat.one_pos first.1).symm
    | cons head rest =>
      refine same_length size positive ?_
      exact (whole.2 (slice_nonempty positive (by simp))).trans (first.2 (slice_nonempty Nat.one_pos (by simp))).symm
  · intro same
    refine ⟨lists 1,fun limit offset inside => ?_⟩
    rcases Nat.eq_zero_or_pos limit with rfl | positive
    · simp [slice]
    · have equal := same (limit + offset) (by omega) inside
      exact ⟨by rw [equal],fun _ => by rw [equal]⟩

end Paging
