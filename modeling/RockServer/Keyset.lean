import Mathlib.Data.List.Sort
import Mathlib.Data.List.Nodup

-- Pages of rows in the order of a key, each after the last key of the one before.
namespace Keyset
variable {α K : Type} (key : α → K)

def lastKey (rows : List α) : Option K := rows.getLast?.map key

theorem lastKey_some {key : α → K} {found : List α} {next : K} (last : lastKey key found = some next) :
    ∃ row, found.getLast? = some row ∧ key row = next := Option.map_eq_some_iff.mp last

theorem lastKey_none {key : α → K} {found : List α} : lastKey key found = none ↔ found = [] := by
  rw [lastKey,Option.map_eq_none_iff,List.getLast?_eq_none_iff]

variable [LinearOrder K]

def sorted (rows : List α) : List α := rows.insertionSort fun a b => key a ≤ key b

def beyond (cursor : Option K) (row : α) : Bool := cursor.all fun last => last < key row

def page (rows : List α) (cursor : Option K) (limit : Nat) : List α :=
  (sorted key (rows.filter (beyond key cursor))).take limit

-- A page that is full may not be the last.
def nextCursor (limit : Nat) (rows : List α) : Option K := if rows.length = limit then lastKey key rows else none

-- The loop over pages, for so many turns, until there is no next cursor.
def walk (rows : List α) (limit : Nat) : Nat → Option K → Option (List α)
  | 0,_ => none
  | turns + 1,cursor =>
    let found := page key rows cursor limit
    match nextCursor key limit found with
    | none => some found
    | some next => (walk rows limit turns (some next)).map (found ++ ·)

-- The loop until a page is empty.
def drain (rows : List α) (limit : Nat) : Nat → Option K → Option (List α)
  | 0,_ => none
  | turns + 1,cursor =>
    let found := page key rows cursor limit
    match lastKey key found with
    | none => some []
    | some next => (drain rows limit turns (some next)).map (found ++ ·)

variable {key} {rows : List α} {cursor : Option K} {limit turns : Nat}

def Ascends (key : α → K) (rows : List α) : Prop := rows.Pairwise fun a b => key a < key b

theorem mem_sorted {row : α} : row ∈ sorted key rows ↔ row ∈ rows := List.mem_insertionSort _

theorem length_sorted : (sorted key rows).length = rows.length := List.length_insertionSort _ _

theorem sorted_ascends (distinct : (rows.map key).Nodup) : Ascends key (sorted key rows) := by
  have ordered : (sorted key rows).Pairwise fun a b => key a ≤ key b := by
    have total : Std.Total fun a b : α => key a ≤ key b := ⟨fun a b => le_total (key a) (key b)⟩
    have trans : IsTrans α fun a b => key a ≤ key b := ⟨fun _ _ _ => le_trans⟩
    exact List.pairwise_insertionSort _ rows
  have apart : (sorted key rows).Pairwise fun a b => key a ≠ key b := by
    have same := (List.perm_insertionSort (fun a b => key a ≤ key b) rows).map key
    exact List.pairwise_map.mp (same.nodup_iff.mpr distinct)
  exact (ordered.and apart).imp fun both => lt_of_le_of_ne both.1 both.2

theorem ascends_unique {others : List α} (first : Ascends key rows) (second : Ascends key others)
    (same : ∀ row, row ∈ rows ↔ row ∈ others) : rows = others := by
  have distinct : rows.Nodup := first.imp fun less equal => absurd (congrArg key equal) (ne_of_lt less)
  have distinct' : others.Nodup := second.imp fun less equal => absurd (congrArg key equal) (ne_of_lt less)
  have antisymm : Std.Antisymm fun a b : α => key a < key b := ⟨fun _ _ less more => absurd less (lt_asymm more)⟩
  exact ((List.perm_ext_iff_of_nodup distinct distinct').mpr same).eq_of_pairwise' first second

theorem sorted_filter (distinct : (rows.map key).Nodup) (p : α → Bool) : sorted key (rows.filter p) = (sorted key rows).filter p := by
  have narrow : ((rows.filter p).map key).Nodup := distinct.sublist (List.filter_sublist.map key)
  refine ascends_unique (sorted_ascends narrow) ((sorted_ascends distinct).filter p) fun row => ?_
  rw [mem_sorted,List.mem_filter,List.mem_filter,mem_sorted]

theorem sorted_perm {others : List α} (distinct : (rows.map key).Nodup) (same : rows.Perm others) :
    sorted key rows = sorted key others := by
  have distinct' : (others.map key).Nodup := (same.map key).nodup_iff.mp distinct
  refine ascends_unique (sorted_ascends distinct) (sorted_ascends distinct') fun row => ?_
  rw [mem_sorted,mem_sorted,same.mem_iff]

theorem page_perm {others : List α} (distinct : (rows.map key).Nodup) (same : rows.Perm others) :
    page key rows cursor limit = page key others cursor limit := by
  have narrow : ((rows.filter (beyond key cursor)).map key).Nodup := distinct.sublist (List.filter_sublist.map key)
  rw [page,page,sorted_perm narrow (same.filter _)]

-- A page is the beginning of what lies beyond its cursor.
theorem page_eq (distinct : (rows.map key).Nodup) :
    page key rows cursor limit = ((sorted key rows).filter (beyond key cursor)).take limit := by
  rw [page,sorted_filter distinct]

theorem page_map {β : Type} {key' : β → K} {f : α → β} (same : ∀ row, key' (f row) = key row) :
    (page key rows cursor limit).map f = page key' (rows.map f) cursor limit := by
  have beyond_same : beyond key' cursor ∘ f = beyond key cursor := by
    funext row
    simp [beyond,same]
  have sorted_same : ∀ rows, (sorted key rows).map f = sorted key' (rows.map f) := fun rows =>
    List.map_insertionSort _ _ _ _ fun a _ b _ => by rw [same,same]
  rw [page,page,List.map_take,sorted_same,List.filter_map,beyond_same]

theorem length_page : (page key rows none limit).length = min limit rows.length := by
  have all : rows.filter (beyond key none) = rows := List.filter_eq_self.mpr fun _ _ => rfl
  simp [page,all,length_sorted]

theorem mem_page {row : α} (paged : row ∈ page key rows cursor limit) : row ∈ rows :=
  (List.mem_filter.mp (mem_sorted.mp (List.mem_of_mem_take paged))).1

-- What lies beyond the last of the first rows is the rest.
theorem beyond_last {first rest : List α} {last : α} (ascends : Ascends key (first ++ rest)) (ends : first.getLast? = some last) :
    (first ++ rest).filter (beyond key (some (key last))) = rest := by
  obtain ⟨before,rfl⟩ := List.getLast?_eq_some_iff.mp ends
  have parts := List.pairwise_append.mp ascends
  have earlier := List.pairwise_append.mp parts.1
  rw [List.filter_append,List.filter_eq_nil_iff.mpr,List.filter_eq_self.mpr,List.nil_append]
  · intro row member
    simpa [beyond] using parts.2.2 last (by simp) row member
  · intro row member
    rcases List.mem_append.mp member with member | member
    · simpa [beyond] using (earlier.2.2 row member last (by simp)).le
    · simp [beyond,List.mem_singleton.mp member]

theorem beyond_later {last : α} (later : beyond key cursor last = true) :
    (rows.filter (beyond key cursor)).filter (beyond key (some (key last))) = rows.filter (beyond key (some (key last))) := by
  rw [List.filter_filter]
  refine List.filter_congr fun row _ => ?_
  cases cursor with
  | none => simp [beyond]
  | some first =>
    have less : first < key last := by simpa [beyond] using later
    simp only [beyond,Option.all_some]
    by_cases next : key last < key row
    · simp [next,less.trans next]
    · simp [next]

theorem rest_after {rest : List α} {last : α} (distinct : (rows.map key).Nodup)
    (remaining : rest = (sorted key rows).filter (beyond key cursor)) (ends : (rest.take limit).getLast? = some last) :
    (sorted key rows).filter (beyond key (some (key last))) = rest.drop limit := by
  have member : last ∈ rest := List.mem_of_mem_take (List.mem_of_getLast? ends)
  have later : beyond key cursor last = true := by
    rw [remaining] at member
    exact (List.mem_filter.mp member).2
  have ascends : Ascends key rest := by
    rw [remaining]
    exact (sorted_ascends distinct).filter _
  rw [← beyond_later later,← remaining]
  rw [← List.take_append_drop limit rest] at ascends
  calc rest.filter (beyond key (some (key last)))
      = (rest.take limit ++ rest.drop limit).filter (beyond key (some (key last))) := by rw [List.take_append_drop]
    _ = rest.drop limit := beyond_last ascends ends

-- With a turn for every row left, each loop returns the rows left, in order.
theorem walk_all (distinct : (rows.map key).Nodup) (positive : 0 < limit) (turns : Nat) (cursor : Option K) (rest : List α)
    (remaining : rest = (sorted key rows).filter (beyond key cursor)) (enough : rest.length < turns) :
    walk key rows limit turns cursor = some rest := by
  induction turns generalizing cursor rest with
  | zero => exact absurd enough (Nat.not_lt_zero _)
  | succ turns ih =>
    rw [walk,page_eq distinct,← remaining]
    cases next : nextCursor key limit (rest.take limit) with
    | none =>
      have all : rest.take limit = rest := by
        unfold nextCursor at next
        split at next
        · rename_i full
          rw [lastKey_none.mp next] at full
          exact absurd full (ne_of_lt positive)
        · rename_i short
          rw [List.length_take] at short
          exact List.take_of_length_le (by omega)
      simp [all]
    | some last =>
      unfold nextCursor at next
      split at next
      · rename_i full
        obtain ⟨row,ends,rfl⟩ := lastKey_some next
        rw [List.length_take] at full
        have shorter : (rest.drop limit).length < turns := by
          rw [List.length_drop]
          omega
        simp only [ih (some (key row)) (rest.drop limit) (rest_after distinct remaining ends).symm shorter,Option.map_some,
          List.take_append_drop]
      · cases next

theorem drain_all (distinct : (rows.map key).Nodup) (positive : 0 < limit) (turns : Nat) (cursor : Option K) (rest : List α)
    (remaining : rest = (sorted key rows).filter (beyond key cursor)) (enough : rest.length < turns) :
    drain key rows limit turns cursor = some rest := by
  induction turns generalizing cursor rest with
  | zero => exact absurd enough (Nat.not_lt_zero _)
  | succ turns ih =>
    rw [drain,page_eq distinct,← remaining]
    cases next : lastKey key (rest.take limit) with
    | none =>
      have none_left : rest = [] := (List.take_eq_nil_iff.mp (lastKey_none.mp next)).resolve_left (ne_of_gt positive)
      simp [none_left]
    | some last =>
      obtain ⟨row,ends,rfl⟩ := lastKey_some next
      have some_left : 0 < rest.length := by
        cases rest with
        | nil => simp at ends
        | cons row rest => exact Nat.succ_pos _
      have shorter : (rest.drop limit).length < turns := by
        rw [List.length_drop]
        omega
      simp only [ih (some (key row)) (rest.drop limit) (rest_after distinct remaining ends).symm shorter,Option.map_some,
        List.take_append_drop]

section orders
variable {α K : Type} {key : α → K} {rows : List α} {cursor : Option K} {limit : Nat} {base order : LinearOrder K}

-- Another order of the keys serves the same pages where the two agree.
theorem page_agree (distinct : (rows.map key).Nodup)
    (agree : ∀ a b, (a ∈ cursor ∨ ∃ row ∈ rows, key row = a) → (b ∈ cursor ∨ ∃ row ∈ rows, key row = b) → (order.lt a b ↔ base.lt a b)) :
    @page _ _ key order rows cursor limit = @page _ _ key base rows cursor limit := by
  have filters : rows.filter (@beyond _ _ key order cursor) = rows.filter (@beyond _ _ key base cursor) := by
    refine List.filter_congr fun row member => ?_
    cases cursor with
    | none => rfl
    | some last => exact decide_eq_decide.mpr (agree last (key row) (.inl rfl) (.inr ⟨row,member,rfl⟩))
  have narrow : ((rows.filter (@beyond _ _ key base cursor)).map key).Nodup := distinct.sublist (List.filter_sublist.map key)
  have ascends : @Ascends _ _ base key (@sorted _ _ key order (rows.filter (@beyond _ _ key base cursor))) := by
    refine (@sorted_ascends _ _ key order _ narrow).imp_of_mem fun {a b} member member' less => ?_
    have inside := (List.mem_filter.mp ((@mem_sorted _ _ key order _ _).mp member)).1
    have inside' := (List.mem_filter.mp ((@mem_sorted _ _ key order _ _).mp member')).1
    exact (agree _ _ (.inr ⟨a,inside,rfl⟩) (.inr ⟨b,inside',rfl⟩)).mp less
  have same := @ascends_unique _ _ key base _ _ ascends (@sorted_ascends _ _ key base _ narrow) fun row => by
    rw [@mem_sorted _ _ key base,@mem_sorted _ _ key order]
  rw [@page.eq_def _ _ key order,@page.eq_def _ _ key base,filters,same]

end orders

end Keyset
