import Mathlib.Data.Prod.Lex
import Mathlib.Data.Finset.Card

-- Finite keyed tables: hash maps, ordered maps and SQL tables with a primary
-- key all read as one extensional map from keys to rows.
abbrev Table (K V : Type) [LinearOrder K] := Std.ExtTreeMap K V

namespace Table

instance keysCompare (K : Type) [LinearOrder K] : Std.TransCmp (compare : K → K → Ordering) := inferInstance

instance itemKeysCompare : Std.TransCmp (compare : Nat ×ₗ String → Nat ×ₗ String → Ordering) := inferInstance

variable {K V : Type} [LinearOrder K] {t t' : Table K V} {k j : K} {v : V}

theorem get_insert : (t.insert k v)[j]? = if k = j then some v else t[j]? := by
  simp only [Std.ExtTreeMap.getElem?_insert,compare_eq_iff_eq]

theorem get_insert_ne (different : k ≠ j) : (t.insert k v)[j]? = t[j]? := by
  rw [get_insert,if_neg different]

theorem get_erase : (t.erase k)[j]? = if k = j then none else t[j]? := by
  simp only [Std.ExtTreeMap.getElem?_erase,compare_eq_iff_eq]

theorem get_erase_self : (t.erase k)[k]? = none := by rw [get_erase,if_pos rfl]

theorem get_erase_some (found : (t.erase k)[j]? = some v) : k ≠ j ∧ t[j]? = some v := by
  rw [get_erase] at found
  split at found
  · cases found
  · rename_i different
    exact ⟨different,found⟩

theorem mem_entries {entry : K × V} : entry ∈ t.toList ↔ t[entry.1]? = some entry.2 :=
  Std.ExtTreeMap.mem_toList_iff_getElem?_eq_some (k:=entry.1) (v:=entry.2)

theorem entries_ordered : t.toList.Pairwise fun a b => a.1 < b.1 :=
  Std.ExtTreeMap.ordered_keys_toList.imp compare_lt_iff_lt.mp

theorem keys_distinct : (t.toList.map Prod.fst).Nodup := by
  refine List.Pairwise.map _ ?_ Std.ExtTreeMap.distinct_keys_toList
  intro a b apart equal
  exact apart (compare_eq_iff_eq.mpr equal)

theorem chosen_distinct (p : K × V → Bool) : ((t.toList.filter p).map Prod.fst).Nodup :=
  keys_distinct.sublist (List.filter_sublist.map _)

theorem filter_get {keep : K → V → Bool} : (t.filter keep)[j]? = (t[j]?).filter (keep j) :=
  Std.ExtTreeMap.getElem?_filter'

theorem get_filter {keep : K → V → Bool} : (t.filter keep)[j]? = some v ↔ t[j]? = some v ∧ keep j v = true := by
  rw [filter_get,Option.filter_eq_some_iff]

theorem get_mapKey {W : Type} {f : K → V → W} : (t.map f)[j]? = (t[j]?).map (f j) := Std.ExtTreeMap.getElem?_map

-- Tables with the same rows are equal.
theorem same_rows (same : ∀ k : K, t[k]? = t'[k]?) : t = t' := Std.ExtTreeMap.ext_getElem? same

-- A table of numbered rows.
theorem get_numbered {key : Nat → K} {row : Nat → V} {n i : Nat} (distinct : ∀ {i j}, key i = key j → i = j)
    (inside : i < n) : (Std.ExtTreeMap.ofList ((List.range n).map fun i => (key i,row i)) : Table K V)[key i]? = some (row i) := by
  refine Std.ExtTreeMap.getElem?_ofList_of_mem (compare_eq_iff_eq.mpr rfl) ?_ (List.mem_map.mpr ⟨i,List.mem_range.mpr inside,rfl⟩)
  refine List.pairwise_map.mpr (List.nodup_range.imp fun {i j} apart equal => apart (distinct (compare_eq_iff_eq.mp equal)))

theorem numbered_some {key : Nat → K} {row : Nat → V} {n : Nat}
    (found : (Std.ExtTreeMap.ofList ((List.range n).map fun i => (key i,row i)) : Table K V)[k]? = some v) : ∃ i < n, key i = k := by
  have member : k ∈ (Std.ExtTreeMap.ofList ((List.range n).map fun i => (key i,row i)) : Table K V) := by
    rw [Std.ExtTreeMap.mem_iff_isSome_getElem?,found]
    rfl
  rw [Std.ExtTreeMap.mem_ofList,List.contains_iff_mem,List.mem_map] at member
  obtain ⟨entry,listed,rfl⟩ := member
  obtain ⟨i,inside,rfl⟩ := List.mem_map.mp listed
  exact ⟨i,List.mem_range.mp inside,rfl⟩

theorem insert_insert {w : V} : (t.insert k w).insert k v = t.insert k v := by
  refine same_rows fun j => ?_
  rw [get_insert,get_insert,get_insert]
  split <;> rfl

theorem erase_insert (absent : t[k]? = none) : (t.insert k v).erase k = t := by
  refine same_rows fun j => ?_
  rw [get_erase,get_insert]
  split
  · rename_i here
    rw [← here,absent]
  · rfl

variable {W : Type} {f : V → W}

theorem get_map : (t.map fun _ v => f v)[j]? = (t[j]?).map f := Std.ExtTreeMap.getElem?_map

theorem map_insert : (t.insert k v).map (fun _ v => f v) = (t.map fun _ v => f v).insert k (f v) := by
  refine same_rows fun j => ?_
  rw [get_map,get_insert,get_insert,get_map]
  split <;> rfl

theorem map_erase : (t.erase k).map (fun _ v => f v) = (t.map fun _ v => f v).erase k := by
  refine same_rows fun j => ?_
  rw [get_map,get_erase,get_erase,get_map]
  split <;> rfl

-- A row with the same image in its place shows nothing.
theorem map_requeued {w : V} (found : t[k]? = some w) (same : f v = f w) :
    (t.insert k v).map (fun _ v => f v) = t.map fun _ v => f v := by
  refine same_rows fun j => ?_
  rw [get_map,get_insert,get_map]
  split
  · rename_i here
    rw [← here,found,Option.map_some,Option.map_some,same]
  · rfl

-- The rows a predicate selects, as a set of keys; counting rows is its size.
def keysWhere (p : K → V → Bool) (t : Table K V) : Finset K :=
  ((t.toList.filter fun e => p e.1 e.2).map Prod.fst).toFinset

def count (p : K → V → Bool) (t : Table K V) : Nat := t.toList.countP fun e => p e.1 e.2

variable {p q : K → V → Bool}

theorem mem_keysWhere : j ∈ keysWhere p t ↔ ∃ v, t[j]? = some v ∧ p j v = true := by
  simp only [keysWhere,List.mem_toFinset,List.mem_map,List.mem_filter,Prod.exists]
  constructor
  · rintro ⟨k,v,⟨member,chosen⟩,rfl⟩
    exact ⟨v,mem_entries.mp member,chosen⟩
  · rintro ⟨v,found,chosen⟩
    exact ⟨j,v,⟨mem_entries.mpr found,chosen⟩,rfl⟩

theorem count_eq_card : count p t = (keysWhere p t).card := by
  rw [keysWhere,List.toFinset_card_of_nodup (chosen_distinct _),List.length_map,count,List.countP_eq_length_filter]

theorem count_le (covered : ∀ j v, t[j]? = some v → p j v = true → ∃ w, t'[j]? = some w ∧ q j w = true) :
    count p t ≤ count q t' := by
  rw [count_eq_card,count_eq_card]
  refine Finset.card_le_card fun j member => ?_
  obtain ⟨v,found,chosen⟩ := Iff.mp mem_keysWhere member
  exact Iff.mpr mem_keysWhere (covered j v found chosen)

theorem count_or_le : count (fun k v => p k v || q k v) t ≤ count p t + count q t := by
  rw [count_eq_card,count_eq_card,count_eq_card]
  refine le_trans (Finset.card_le_card fun j member => ?_) (Finset.card_union_le _ _)
  obtain ⟨v,found,chosen⟩ := Iff.mp mem_keysWhere member
  rw [Finset.mem_union,mem_keysWhere,mem_keysWhere]
  exact ((Bool.or_eq_true _ _).mp chosen).imp (fun left => ⟨v,found,left⟩) fun right => ⟨v,found,right⟩

theorem count_ge {keys : List K} (distinct : keys.Nodup) (listed : ∀ k ∈ keys, ∃ v, t[k]? = some v ∧ p k v = true) :
    keys.length ≤ count p t := by
  rw [count_eq_card,← List.toFinset_card_of_nodup distinct]
  refine Finset.card_le_card fun k member => ?_
  exact Iff.mpr mem_keysWhere (listed k (List.mem_toFinset.mp member))

-- Rows counted in two parts: the keys that are named, and the rows of a table
-- that the others are judged by.
theorem count_named {named : List K} [∀ j, Decidable (j ∈ named)] (distinct : named.Nodup)
    (elsewhere : ∀ j, j ∉ named → (t'[j]?).any (p j) = (t[j]?).any (q j)) :
    count p t' = count (fun j v => decide (j ∉ named) && q j v) t + (named.filter fun j => (t'[j]?).any (p j)).length := by
  rw [count_eq_card,count_eq_card,← List.toFinset_card_of_nodup (distinct.filter _),← Finset.card_union_of_disjoint]
  · congr 1
    ext j
    have judged := elsewhere j
    rw [Finset.mem_union,mem_keysWhere,mem_keysWhere,List.mem_toFinset,List.mem_filter]
    by_cases listed : j ∈ named
    · cases t'[j]? <;> simp [listed]
    · specialize judged listed
      cases now : t'[j]? <;> cases before : t[j]? <;> simp_all
  · rw [Finset.disjoint_left]
    intro j outside inside
    obtain ⟨v,_,chosen⟩ := mem_keysWhere.mp outside
    rw [Bool.and_eq_true,decide_eq_true_eq] at chosen
    exact chosen.1 (List.mem_filter.mp (List.mem_toFinset.mp inside)).1

-- Where two rows are selected, there is one besides any given key.
theorem count_other (several : 2 ≤ count p t) (k : K) : ∃ j v, j ≠ k ∧ t[j]? = some v ∧ p j v = true := by
  rw [count_eq_card] at several
  obtain ⟨j,member,apart⟩ := Finset.exists_mem_ne several k
  obtain ⟨v,found,chosen⟩ := Iff.mp mem_keysWhere member
  exact ⟨j,v,apart,found,chosen⟩

theorem count_map {p' : K → W → Bool} (agrees : ∀ k v, p' k (f v) = p k v) :
    count p' (t.map fun _ v => f v) = count p t := by
  rw [count_eq_card,count_eq_card]
  congr 1
  ext j
  rw [mem_keysWhere,mem_keysWhere,get_map]
  cases t[j]? with
  | none => simp
  | some v => simp [agrees]

theorem count_insert_le : count p (t.insert k v) ≤ count p t + 1 := by
  rw [count_eq_card,count_eq_card]
  refine le_trans (Finset.card_le_card ?_) (Finset.card_insert_le k _)
  intro j member
  obtain ⟨w,found,chosen⟩ := Iff.mp mem_keysWhere member
  rw [get_insert] at found
  split at found
  · rename_i same
    exact Finset.mem_insert.mpr (.inl same.symm)
  · exact Finset.mem_insert.mpr (.inr (Iff.mpr mem_keysWhere ⟨w,found,chosen⟩))

-- A row that the predicate now selects, and did not before, counts once.
theorem count_insert_gained (before : ∀ w, t[k]? = some w → p k w = false) (chosen : p k v = true) :
    count p (t.insert k v) = count p t + 1 := by
  have grown : keysWhere p (t.insert k v) = insert k (keysWhere p t) := by
    ext j
    rw [Finset.mem_insert,mem_keysWhere,mem_keysWhere,get_insert]
    by_cases same : k = j
    · subst same
      simp [chosen]
    · simp [same,Ne.symm same]
  have outside : k ∉ keysWhere p t := by
    rw [mem_keysWhere]
    rintro ⟨w,found,was⟩
    rw [before w found] at was
    cases was
  rw [count_eq_card,count_eq_card,grown,Finset.card_insert_of_notMem outside]

theorem count_insert_of_new (absent : t[k]? = none) (chosen : p k v = true) :
    count p (t.insert k v) = count p t + 1 := by
  refine count_insert_gained (fun w found => ?_) chosen
  rw [absent] at found
  cases found

-- A row that the predicate judges as it judged the row before it.
theorem count_insert_kept (same : (t[k]?).any (p k) = p k v) : count p (t.insert k v) = count p t := by
  rw [count_eq_card,count_eq_card]
  congr 1
  ext j
  rw [mem_keysWhere,mem_keysWhere,get_insert]
  by_cases here : k = j
  · subst here
    rw [if_pos rfl]
    cases found : t[k]? with
    | none => simp_all
    | some w => simp_all
  · rw [if_neg here]

-- Inserting a row the predicate does not select never raises the count.
theorem count_insert_of_not (skipped : p k v = false) : count p (t.insert k v) ≤ count p t := by
  refine count_le fun j w found chosen => ?_
  rw [get_insert] at found
  split at found
  · rename_i same
    cases Option.some.inj found
    rw [← same,skipped] at chosen
    cases chosen
  · exact ⟨w,found,chosen⟩

end Table
