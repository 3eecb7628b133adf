import RockServer.GenreTaxonomy
import RockServer.ParentClimbs

namespace Search
open Ascending
open ParentClimbs (Climbs Ancestor FirstAt)

-- The last row that gives a tag a parent counts.
def declaredParent (rows : List GenreRow) (genre : String) : Option String :=
  (rows.reverse.find? fun row => row.tag = genre && row.parentTag.isSome).bind GenreRow.parentTag

-- What the loop gathers above a genre.
structure AncestorsOf (rows : List GenreRow) (genre : String) (ancestors : List String) : Prop where
  ends : Climbs (declaredParent rows) ∅ genre ancestors
  distinct : ancestors.Nodup
  exact : ∀ tag, tag ∈ ancestors ↔ Ancestor (declaredParent rows) genre tag
  ordered : ∀ i tag, ancestors[i]? = some tag → FirstAt (declaredParent rows) genre tag (i + 1)

namespace GenreTaxonomy
variable {taxonomy : GenreTaxonomy} {rows : List GenreRow} {genre : String}

theorem fromRows_declared : (fromRows rows).parents.lookup genre = declaredParent rows genre := by
  induction rows using List.reverseRecOn with
  | nil => rfl
  | append_singleton rows row ih =>
    rw [fromRows] at ih ⊢
    rw [List.foldl_append,List.foldl_cons,List.foldl_nil,addRow_lookup,ih,declaredParent,declaredParent,List.reverse_concat,
      List.find?_cons]
    by_cases same : genre = row.tag
    · subst same
      cases given : row.parentTag <;> simp [given]
    · have other : row.tag ≠ genre := fun here => same here.symm
      simp [same,other]

theorem climb_climbs {turns : Nat} {visited : Finset String} (enough : (taxonomy.parentSet \ visited).card < turns) :
    Climbs taxonomy.parents.lookup visited genre (taxonomy.climb turns visited genre) := by
  induction turns generalizing visited genre with
  | zero => exact absurd enough (Nat.not_lt_zero _)
  | succ turns ih =>
    rw [climb]
    cases found : taxonomy.parents.lookup genre with
    | none => exact .root found
    | some parent =>
      dsimp only
      by_cases met : parent ∈ visited
      · rw [if_pos met]
        exact .met found met
      · rw [if_neg met]
        exact .up found met (ih (unvisited_fewer found met enough))

theorem ancestors_climbs (rows : List GenreRow) (genre : String) :
    Climbs (declaredParent rows) ∅ genre ((fromRows rows).ancestors genre) := by
  have parents : (fromRows rows).parents.lookup = declaredParent rows := funext fun genre => fromRows_declared
  rw [← parents]
  apply climb_climbs
  rw [Finset.sdiff_empty]
  exact parentSet_size

end GenreTaxonomy

-- From any rows the walk up from any genre ends, whatever circles they draw.
theorem ancestor_walks (rows : List GenreRow) :
    (∀ genre, AncestorsOf rows genre ((GenreTaxonomy.fromRows rows).ancestors genre) ∧
      ∀ walked, Climbs (declaredParent rows) ∅ genre walked → walked = (GenreTaxonomy.fromRows rows).ancestors genre) ∧
    ∀ tags, ((GenreTaxonomy.fromRows rows).broadenTags tags).Pairwise (· < ·) ∧
      ∀ tag, tag ∈ (GenreTaxonomy.fromRows rows).broadenTags tags ↔ ∃ genre ∈ tags, Ancestor (declaredParent rows) genre tag := by
  constructor
  · intro genre
    have climbs := GenreTaxonomy.ancestors_climbs rows genre
    refine ⟨⟨climbs,ParentClimbs.climbs_distinct climbs,fun tag => ParentClimbs.climbs_exact climbs,?_⟩,?_⟩
    · exact fun i tag at_i => ParentClimbs.climbs_first climbs at_i
    · exact fun walked again => ParentClimbs.climbs_unique again climbs
  · intro tags
    refine ⟨ascending_strict _,fun tag => ?_⟩
    rw [GenreTaxonomy.broadenTags,mem_ascending,List.mem_flatMap]
    exact exists_congr fun genre => and_congr_right fun _ => ParentClimbs.climbs_exact (GenreTaxonomy.ancestors_climbs rows genre)

-- A circle that the genre asked for is on, and one that it only leads into.
example : (GenreTaxonomy.fromRows [⟨"a",some "b",true⟩,⟨"b",some "a",true⟩,⟨"c",some "c",false⟩]).ancestors "a" = ["b","a"] := by
  decide

end Search
