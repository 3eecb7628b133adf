import Mathlib.Data.List.Sort

-- Rows by score, the highest first, and by key where scores are equal.
namespace ScoreOrder
variable {α S K : Type} [LinearOrder S] [LinearOrder K] (score : α → S) (key : α → K)

def Before (left right : α) : Prop := score right < score left ∨ score left = score right ∧ key left ≤ key right

instance : DecidableRel (Before score key) := fun _ _ => inferInstanceAs (Decidable (_ ∨ _))

def ordered (rows : List α) : List α := rows.insertionSort (Before score key)

variable {score key} {rows : List α} {row : α}

theorem before_total : Std.Total (Before score key) where
  total a b := by
    rcases lt_trichotomy (score a) (score b) with less | same | more
    · exact .inr (.inl less)
    · exact (le_total (key a) (key b)).imp (fun le => .inr ⟨same,le⟩) fun le => .inr ⟨same.symm,le⟩
    · exact .inl (.inl more)

theorem before_trans : IsTrans α (Before score key) where
  trans a b c first second := by
    rcases first with more | ⟨same,le⟩
    · rcases second with more' | ⟨same',_⟩
      · exact .inl (more'.trans more)
      · exact .inl (same' ▸ more)
    · rcases second with more' | ⟨same',le'⟩
      · exact .inl (same ▸ more')
      · exact .inr ⟨same.trans same',le.trans le'⟩

theorem ordered_perm : (ordered score key rows).Perm rows := List.perm_insertionSort _ rows

@[simp]
theorem mem_ordered : row ∈ ordered score key rows ↔ row ∈ rows := List.mem_insertionSort _

@[simp]
theorem length_ordered : (ordered score key rows).length = rows.length := List.length_insertionSort _ _

theorem ordered_descends : (ordered score key rows).Pairwise fun left right => score right ≤ score left := by
  have total := @before_total _ _ _ _ _ score key
  have trans := @before_trans _ _ _ _ _ score key
  refine (List.pairwise_insertionSort (Before score key) rows).imp fun {left right} before => ?_
  rcases before with more | ⟨same,_⟩
  · exact more.le
  · exact same.ge

theorem ordered_sorted : (ordered score key rows).Pairwise (Before score key) := by
  have total := @before_total _ _ _ _ _ score key
  have trans := @before_trans _ _ _ _ _ score key
  exact List.pairwise_insertionSort (Before score key) rows

theorem before_antisymm {left right : α} (first : Before score key left right) (second : Before score key right left) :
    key left = key right := by
  rcases first with more | ⟨same,le⟩
  · rcases second with more' | ⟨same',_⟩
    · exact absurd more more'.asymm
    · exact absurd same' more.ne
  · rcases second with more' | ⟨_,le'⟩
    · exact absurd same more'.ne
    · exact le_antisymm le le'

-- Where keys are distinct, the order of the rows does not depend on the order given.
theorem ordered_unique {others : List α} (distinct : (rows.map key).Nodup) (same : rows.Perm others)
    (sorted : others.Pairwise (Before score key)) : ordered score key rows = others := by
  refine (ordered_perm.trans same).eq_of_pairwise (fun left right listed listed' first second => ?_) ordered_sorted sorted
  exact List.inj_on_of_nodup_map distinct (mem_ordered.mp listed) (same.mem_iff.mpr listed') (before_antisymm first second)

theorem ordered_congr {others : List α} (distinct : (rows.map key).Nodup) (same : rows.Perm others) :
    ordered score key rows = ordered score key others :=
  ordered_unique distinct (same.trans ordered_perm.symm) ordered_sorted

theorem ordered_head (member : row ∈ rows) : ∃ first ∈ rows, (ordered score key rows).head? = some first := by
  cases found : ordered score key rows with
  | nil =>
    have listed : row ∈ ordered score key rows := mem_ordered.mpr member
    rw [found] at listed
    cases listed
  | cons first rest =>
    have listed : first ∈ ordered score key rows := found ▸ List.mem_cons_self
    exact ⟨first,mem_ordered.mp listed,rfl⟩

end ScoreOrder
