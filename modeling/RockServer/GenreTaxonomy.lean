import Mathlib.Data.List.AList
import RockServer.GenreStages

-- The genre tree as a value: built from rows, and against the static functions.
namespace Search
open Ascending

structure GenreRow where
  tag : String
  parentTag : Option String
  isCanonical : Bool

structure GenreTaxonomy where
  canonical : Finset String
  parents : AList fun _ : String => String

namespace GenreTaxonomy

def addRow (taxonomy : GenreTaxonomy) (row : GenreRow) : GenreTaxonomy where
  canonical := if row.isCanonical then insert row.tag taxonomy.canonical else taxonomy.canonical
  parents := match row.parentTag with
    | some parent => taxonomy.parents.insert row.tag parent
    | none => taxonomy.parents

def fromRows (rows : List GenreRow) : GenreTaxonomy := rows.foldl addRow ⟨∅,∅⟩

variable (unicode : Unicode) (taxonomy : GenreTaxonomy)

def filterCanonical (values : List String) : List String :=
  ascending ((values.map (normalized unicode)).filter fun value => value ∈ taxonomy.canonical)

def parent (genre : String) : Option String := taxonomy.parents.lookup genre

-- The loop up the tree, for so many turns: a parent met before ends it.
def climb : Nat → Finset String → String → List String
  | 0,_,_ => []
  | turns + 1,visited,current => match taxonomy.parents.lookup current with
    | none => []
    | some parent => if parent ∈ visited then [] else parent :: climb turns (insert parent visited) parent

def ancestors (genre : String) : List String := taxonomy.climb (taxonomy.parents.entries.length + 1) ∅ genre

def requestedGenres (tags : List String) : List String := tags.filter fun tag => !moodTags.contains tag

def stationMatchesRequestedGenre (queryTags stationTags : List String) : Bool :=
  let genres := requestedGenres queryTags
  genres.isEmpty || genres.any fun genre => stationTags.contains genre || (taxonomy.ancestors genre).any stationTags.contains

def broadenTags (tags : List String) : List String := ascending (tags.flatMap taxonomy.ancestors)

end GenreTaxonomy

-- The set of parents gives its members in some order.
structure ParentOrder where
  listed : List String
  members : listed.Perm (builtinParent.map Prod.snd).dedup

def vocabularyRows : List GenreRow := canonicalVocabulary.map fun tag => ⟨tag,genreParent tag,true⟩

def rootRow (rows : List GenreRow) (parent : String) : List GenreRow :=
  if !canonicalVocabulary.contains parent && !rows.any (fun row => row.tag = parent) then
    rows ++ [⟨parent,genreParent parent,true⟩]
  else rows

def childRow (rows : List GenreRow) (entry : String × String) : List GenreRow :=
  if !rows.any (fun row => row.tag = entry.1) then rows ++ [⟨entry.1,some entry.2,true⟩] else rows

def builtinRows (order : ParentOrder) : List GenreRow := builtinParent.foldl childRow (order.listed.foldl rootRow vocabularyRows)

def GenreTaxonomy.builtin (order : ParentOrder) : GenreTaxonomy := .fromRows (builtinRows order)

namespace GenreTaxonomy
variable {taxonomy : GenreTaxonomy} {rows : List GenreRow} {genre : String}

section rows

theorem addRow_lookup {row : GenreRow} : (taxonomy.addRow row).parents.lookup genre =
    if genre = row.tag then row.parentTag.or (taxonomy.parents.lookup genre) else taxonomy.parents.lookup genre := by
  unfold addRow
  cases row.parentTag with
  | none => simp
  | some parent =>
    by_cases same : genre = row.tag
    · rw [if_pos same,same]
      exact AList.lookup_insert _
    · rw [if_neg same]
      exact AList.lookup_insert_ne same

-- Rows that agree on a tag's parent leave no question which of them counts.
theorem fromRows_parent {parents : String → Option String} (agree : ∀ row ∈ rows, row.parentTag = parents row.tag) :
    (fromRows rows).parent genre = if genre ∈ rows.map GenreRow.tag then parents genre else none := by
  induction rows using List.reverseRecOn with
  | nil => rfl
  | append_singleton rows row ih =>
    have before := ih fun row listed => agree row (List.mem_append_left _ listed)
    have last := agree row (List.mem_append_right _ (List.mem_singleton_self row))
    rw [parent,fromRows] at before ⊢
    rw [List.foldl_append,List.foldl_cons,List.foldl_nil,addRow_lookup,before,last,List.map_append,List.map_singleton]
    by_cases same : genre = row.tag
    · have listed : genre ∈ rows.map GenreRow.tag ++ [row.tag] := List.mem_append_right _ (List.mem_singleton.mpr same)
      rw [if_pos same,if_pos listed,← same]
      cases parents genre with
      | none => rw [Option.none_or,ite_self]
      | some parent => rfl
    · rw [if_neg same]
      simp [same]

theorem fromRows_canonical {value : String} : value ∈ (fromRows rows).canonical ↔
    ∃ row ∈ rows, row.isCanonical = true ∧ row.tag = value := by
  induction rows using List.reverseRecOn with
  | nil => simp [fromRows]
  | append_singleton rows row ih =>
    rw [fromRows] at ih ⊢
    rw [List.foldl_append,List.foldl_cons,List.foldl_nil,addRow]
    cases canonical : row.isCanonical with
    | true =>
      rw [if_pos rfl,Finset.mem_insert,ih,eq_comm,or_comm]
      simp [or_and_right,exists_or,canonical]
    | false => simp [ih,canonical]

end rows

section climb
variable {turns : Nat} {visited : Finset String}

def parentSet (taxonomy : GenreTaxonomy) : Finset String := (taxonomy.parents.entries.map Sigma.snd).toFinset

theorem unvisited_fewer {parent : String} (found : taxonomy.parents.lookup genre = some parent) (fresh : parent ∉ visited)
    (enough : (taxonomy.parentSet \ visited).card < turns + 1) : (taxonomy.parentSet \ insert parent visited).card < turns := by
  have listed : parent ∈ taxonomy.parentSet \ visited := by
    rw [Finset.mem_sdiff]
    refine ⟨List.mem_toFinset.mpr (List.mem_map.mpr ⟨⟨genre,parent⟩,?_,rfl⟩),fresh⟩
    exact AList.mem_lookup_iff.mp found
  have erased := Finset.card_erase_lt_of_mem listed
  rw [Finset.sdiff_insert]
  omega

theorem parentSet_size : taxonomy.parentSet.card < taxonomy.parents.entries.length + 1 := by
  rw [parentSet,Nat.lt_succ_iff]
  exact (List.toFinset_card_le _).trans_eq (List.length_map _)

-- Each turn visits a parent that no turn before it did, so there are as many turns
-- as parents at most.
theorem climb_ends (enough : (taxonomy.parentSet \ visited).card < turns) :
    taxonomy.climb (turns + 1) visited genre = taxonomy.climb turns visited genre := by
  induction turns generalizing visited genre with
  | zero => exact absurd enough (Nat.not_lt_zero _)
  | succ turns ih =>
    rw [climb,climb]
    cases found : taxonomy.parents.lookup genre with
    | none => rfl
    | some parent =>
      dsimp only
      by_cases met : parent ∈ visited
      · rw [if_pos met,if_pos met]
      · rw [if_neg met,if_neg met]
        rw [ih (unvisited_fewer found met enough)]

theorem climb_all (turns : Nat) :
    taxonomy.climb (taxonomy.parents.entries.length + 1 + turns) ∅ genre = taxonomy.ancestors genre := by
  have size := @parentSet_size taxonomy
  induction turns with
  | zero => rfl
  | succ turns ih =>
    have enough : (taxonomy.parentSet \ ∅).card < taxonomy.parents.entries.length + 1 + turns := by
      rw [Finset.sdiff_empty]
      omega
    rw [← ih]
    exact climb_ends enough

end climb

end GenreTaxonomy

section builtin
variable {order : ParentOrder} {rows : List GenreRow} {genre : String} {tags stationTags : List String}

-- Rows that say of each tag what the table says of it.
def FromTable (rows : List GenreRow) : Prop := ∀ row ∈ rows, row.parentTag = genreParent row.tag ∧ row.isCanonical = true

theorem FromTable.push {row : GenreRow} (held : FromTable rows) (parent : row.parentTag = genreParent row.tag)
    (canonical : row.isCanonical = true) : FromTable (rows ++ [row]) := by
  intro other listed
  rcases List.mem_append.mp listed with old | new
  · exact held other old
  · rw [List.mem_singleton.mp new]
    exact ⟨parent,canonical⟩

theorem vocabularyRows_table : FromTable vocabularyRows ∧ vocabularyRows.map GenreRow.tag = canonicalVocabulary := by
  constructor
  · intro row listed
    obtain ⟨tag,_,rfl⟩ := List.mem_map.mp listed
    exact ⟨rfl,rfl⟩
  · rw [vocabularyRows,List.map_map]
    exact List.map_id _

theorem has_tag : rows.any (fun row => row.tag = genre) = true ↔ genre ∈ rows.map GenreRow.tag := by
  rw [List.any_eq_true,List.mem_map]
  exact exists_congr fun row => and_congr_right fun _ => decide_eq_true_iff

theorem rootRow_table {parent : String} (held : FromTable rows) (vocabulary : ∀ tag ∈ canonicalVocabulary, tag ∈ rows.map GenreRow.tag) :
    FromTable (rootRow rows parent) ∧
      ∀ tag, tag ∈ (rootRow rows parent).map GenreRow.tag ↔ tag ∈ rows.map GenreRow.tag ∨ tag = parent := by
  unfold rootRow
  split
  · refine ⟨held.push rfl rfl,fun tag => ?_⟩
    rw [List.map_append,List.mem_append,List.map_singleton,List.mem_singleton]
  · rename_i present
    refine ⟨held,fun tag => (or_iff_left_of_imp ?_).symm⟩
    rintro rfl
    simp only [Bool.and_eq_true,Bool.not_eq_true',not_and,Bool.not_eq_false] at present
    by_cases canonical : tag ∈ canonicalVocabulary
    · exact vocabulary tag canonical
    · exact has_tag.mp (present (by simpa using canonical))

theorem rootRows_table (parents : List String) : FromTable (parents.foldl rootRow vocabularyRows) ∧
    ∀ tag, tag ∈ (parents.foldl rootRow vocabularyRows).map GenreRow.tag ↔ tag ∈ canonicalVocabulary ∨ tag ∈ parents := by
  induction parents using List.reverseRecOn with
  | nil =>
    refine ⟨vocabularyRows_table.1,fun tag => ?_⟩
    rw [List.foldl_nil,vocabularyRows_table.2]
    exact (or_iff_left List.not_mem_nil).symm
  | append_singleton parents parent ih =>
    obtain ⟨held,tags⟩ := ih
    obtain ⟨table,added⟩ := @rootRow_table _ parent held fun tag canonical => (tags tag).mpr (.inl canonical)
    rw [List.foldl_append,List.foldl_cons,List.foldl_nil]
    refine ⟨table,fun tag => ?_⟩
    rw [added,tags,or_assoc,List.mem_append,List.mem_singleton]

-- The first entry of the table for a genre is the one that it is looked up by.
theorem genreParent_first {before after : List (String × String)} {entry : String × String} (table : builtinParent = before ++ entry :: after)
    (first : ∀ earlier ∈ before, earlier.1 ≠ entry.1) : genreParent entry.1 = some entry.2 := by
  have skipped : before.find? (fun earlier => decide (earlier.1 = entry.1)) = none :=
    List.find?_eq_none.mpr fun earlier listed => by simpa using first earlier listed
  rw [genreParent,table,List.find?_append,skipped,Option.none_or,List.find?_cons_of_pos (by simp)]
  rfl

theorem childRows_table {before after : List (String × String)} (table : builtinParent = before ++ after) (held : FromTable rows)
    (done : ∀ entry ∈ before, entry.1 ∈ rows.map GenreRow.tag) : FromTable (after.foldl childRow rows) ∧
      ∀ tag, tag ∈ (after.foldl childRow rows).map GenreRow.tag ↔ tag ∈ rows.map GenreRow.tag ∨ tag ∈ after.map Prod.fst := by
  induction after generalizing before rows with
  | nil => exact ⟨held,fun tag => (or_iff_left List.not_mem_nil).symm⟩
  | cons entry after ih =>
    have next : builtinParent = (before ++ [entry]) ++ after := by rw [table,List.append_assoc,List.singleton_append]
    have added : FromTable (childRow rows entry) ∧
        ∀ tag, tag ∈ (childRow rows entry).map GenreRow.tag ↔ tag ∈ rows.map GenreRow.tag ∨ tag = entry.1 := by
      unfold childRow
      split
      · rename_i absent
        rw [Bool.not_eq_true',← Bool.not_eq_true,has_tag] at absent
        have first : ∀ earlier ∈ before, earlier.1 ≠ entry.1 := fun earlier listed same => absent (same ▸ done earlier listed)
        refine ⟨held.push (genreParent_first table first).symm rfl,fun tag => ?_⟩
        rw [List.map_append,List.mem_append,List.map_singleton,List.mem_singleton]
      · rename_i present
        rw [Bool.not_eq_true',Bool.not_eq_false,has_tag] at present
        exact ⟨held,fun tag => (or_iff_left_of_imp fun same => same ▸ present).symm⟩
    obtain ⟨result,tags⟩ := ih next added.1 (by
      intro earlier listed
      rw [added.2]
      rcases List.mem_append.mp listed with old | new
      · exact .inl (done earlier old)
      · exact .inr (congrArg Prod.fst (List.mem_singleton.mp new)))
    refine ⟨result,fun tag => ?_⟩
    rw [List.foldl_cons,tags,added.2,or_assoc,List.map_cons,List.mem_cons]

-- Every genre of the table is a tag of the taxonomy.
def hierarchyTags : List String := builtinParent.map Prod.snd ++ builtinParent.map Prod.fst

theorem builtinRows_table : FromTable (builtinRows order) ∧
    ∀ tag, tag ∈ (builtinRows order).map GenreRow.tag ↔ tag ∈ canonicalVocabulary ∨ tag ∈ hierarchyTags := by
  obtain ⟨held,roots⟩ := rootRows_table order.listed
  obtain ⟨table,children⟩ := @childRows_table _ [] builtinParent rfl held fun entry listed => absurd listed List.not_mem_nil
  refine ⟨table,fun tag => ?_⟩
  rw [builtinRows,children,roots,or_assoc,hierarchyTags,List.mem_append]
  exact or_congr_right (or_congr_left (order.members.mem_iff.trans List.mem_dedup))

theorem unlisted_parent (unlisted : genre ∉ hierarchyTags) : genreParent genre = none := by
  rw [genreParent,Option.map_eq_none_iff,List.find?_eq_none]
  intro entry listed same
  refine unlisted (List.mem_append_right _ (List.mem_map.mpr ⟨entry,listed,of_decide_eq_true same⟩))

theorem builtin_parent : (GenreTaxonomy.builtin order).parent genre = genreParent genre := by
  rw [GenreTaxonomy.builtin,GenreTaxonomy.fromRows_parent fun row listed => (builtinRows_table.1 row listed).1]
  split
  · rfl
  · rename_i untagged
    rw [builtinRows_table.2,not_or] at untagged
    exact (unlisted_parent untagged.2).symm

theorem builtin_canonical {value : String} : value ∈ (GenreTaxonomy.builtin order).canonical ↔
    value ∈ canonicalVocabulary ∨ value ∈ hierarchyTags := by
  rw [← (@builtinRows_table order).2,GenreTaxonomy.builtin,GenreTaxonomy.fromRows_canonical,List.mem_map]
  refine exists_congr fun row => and_congr_right fun listed => ?_
  exact and_iff_right (builtinRows_table.1 row listed).2

-- The table has no cycle, so no parent is met twice.
theorem builtin_ancestors : (GenreTaxonomy.builtin order).ancestors genre = genreAncestors genre := by
  have found (genre : String) : (GenreTaxonomy.builtin order).parents.lookup genre = genreParent genre := builtin_parent
  rw [← GenreTaxonomy.climb_all 3,GenreTaxonomy.climb,found,genreAncestors,ancestorsFor]
  cases first : genreParent genre with
  | none => rfl
  | some parent =>
    dsimp only
    rw [if_neg (Finset.notMem_empty _),GenreTaxonomy.climb,found,ancestorsFor]
    cases second : genreParent parent with
    | none => rfl
    | some root =>
      obtain ⟨entry,listed,rfl⟩ := genreParent_listed first
      have beyond := ancestors_end entry listed
      rw [second,Option.bind_some] at beyond
      have apart : root ∉ insert entry.2 (∅ : Finset String) := by
        rw [insert_empty_eq,Finset.mem_singleton]
        rintro rfl
        rw [beyond] at second
        cases second
      dsimp only
      rw [if_neg apart,GenreTaxonomy.climb,found,ancestorsFor,beyond]

theorem builtin_matches : (GenreTaxonomy.builtin order).stationMatchesRequestedGenre tags stationTags =
    stationMatchesRequestedGenre tags stationTags := by
  simp only [GenreTaxonomy.stationMatchesRequestedGenre,stationMatchesRequestedGenre,builtin_ancestors]
  rfl

theorem builtin_broadenTags : (GenreTaxonomy.builtin order).broadenTags tags = broadenTags tags := by
  rw [GenreTaxonomy.broadenTags,broadenTags,funext fun genre => @builtin_ancestors order genre]

end builtin

section agreement
variable (order : ParentOrder) (unicode : Unicode) (values queryTags stationTags : List String)

-- The taxonomy answers as the static functions do.
structure Agreement : Prop where
  canonical : (GenreTaxonomy.builtin order).filterCanonical unicode values = canonicalTags unicode values
  parent : ∀ genre, (GenreTaxonomy.builtin order).parent genre = genreParent genre
  ancestors : ∀ genre, (GenreTaxonomy.builtin order).ancestors genre = genreAncestors genre
  requested : GenreTaxonomy.requestedGenres queryTags = requestedGenres queryTags
  matched : (GenreTaxonomy.builtin order).stationMatchesRequestedGenre queryTags stationTags =
    stationMatchesRequestedGenre queryTags stationTags
  broadened : (GenreTaxonomy.builtin order).broadenTags queryTags = broadenTags queryTags

variable {order unicode values}

theorem builtin_filterCanonical : (GenreTaxonomy.builtin order).filterCanonical unicode values = canonicalTags unicode values ↔
    ∀ value ∈ values, normalized unicode value ∈ hierarchyTags → normalized unicode value ∈ canonicalVocabulary := by
  rw [GenreTaxonomy.filterCanonical,canonicalTags,ascending_eq]
  simp only [mem_ascending,List.mem_filter,List.mem_map,builtin_canonical,decide_eq_true_eq,List.contains_iff_mem]
  rw [and_iff_right (ascending_strict _)]
  constructor
  · intro same value listed above
    exact ((same _).mp ⟨⟨value,listed,rfl⟩,.inr above⟩).2
  · rintro known _
    refine and_congr_right ?_
    rintro ⟨value,listed,rfl⟩
    exact or_iff_left_of_imp (known value listed)

end agreement

-- The taxonomy agrees with the static functions just where no value is a genre of
-- the table that the vocabulary lacks. All but the vocabulary agree always.
theorem taxonomy_agrees (order : ParentOrder) (unicode : Unicode) (values queryTags stationTags : List String) :
    Agreement order unicode values queryTags stationTags ↔
      ∀ value ∈ values, normalized unicode value ∈ hierarchyTags → normalized unicode value ∈ canonicalVocabulary := by
  rw [← @builtin_filterCanonical order]
  constructor
  · intro agreement
    exact agreement.canonical
  · intro canonical
    constructor
    case canonical => exact canonical
    case parent => exact fun genre => builtin_parent
    case ancestors => exact fun genre => builtin_ancestors
    case requested => rfl
    case matched => exact builtin_matches
    case broadened => exact builtin_broadenTags

def tableOrder : ParentOrder := ⟨_,List.Perm.refl _⟩

-- The taxonomy keeps bluegrass, which the vocabulary does not have.
theorem bluegrass_kept : ¬ ∀ (order : ParentOrder) (unicode : Unicode) (values queryTags stationTags : List String),
    Agreement order unicode values queryTags stationTags := by
  intro all
  have known := builtin_filterCanonical.mp (all tableOrder Letters.englishRussian ["bluegrass"] [] []).canonical "bluegrass"
    (List.mem_singleton_self _)
  revert known
  decide

end Search
