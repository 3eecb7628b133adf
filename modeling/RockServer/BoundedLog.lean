import Mathlib.Data.List.Basic

-- Logs of bounded length: a full log gives up its oldest entry before it takes
-- the next one.
namespace BoundedLog
variable {α : Type} {capacity : Nat} {log whole : List α} {entry : α}

def push (capacity : Nat) (log : List α) (entry : α) : List α :=
  (if log.length = capacity then log.tail else log) ++ [entry]

-- What a log of that capacity still holds of everything that was pushed.
def recent (capacity : Nat) (whole : List α) : List α := whole.drop (whole.length - capacity)

theorem recent_length : (recent capacity whole).length ≤ capacity := by
  unfold recent
  rw [List.length_drop]
  omega

theorem mem_recent (member : entry ∈ recent capacity whole) : entry ∈ whole := List.mem_of_mem_drop member

-- Nothing is lost before the capacity is exceeded.
theorem recent_whole (fits : whole.length ≤ capacity) : recent capacity whole = whole := by
  unfold recent
  rw [Nat.sub_eq_zero_of_le fits,List.drop_zero]

theorem push_recent (room : 0 < capacity) :
    push capacity (recent capacity whole) entry = recent capacity (whole ++ [entry]) := by
  have size : (recent capacity whole).length = min whole.length capacity := by
    unfold recent
    rw [List.length_drop]
    omega
  unfold push
  rw [size]
  by_cases full : capacity ≤ whole.length
  · rw [if_pos (Nat.min_eq_right full)]
    unfold recent
    rw [List.tail_drop,List.length_append,List.length_singleton,List.drop_append_of_le_length (by omega)]
    congr 2
    omega
  · have short : whole.length ≤ capacity := by omega
    have grown : (whole ++ [entry]).length ≤ capacity := by
      rw [List.length_append,List.length_singleton]
      omega
    rw [if_neg (by omega),recent_whole short,recent_whole grown]

end BoundedLog
