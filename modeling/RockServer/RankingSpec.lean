import Mathlib.Tactic.Ring
import RockServer.SearchPages

-- What a query finds in a catalog, and in which order.
namespace Search
open Ascending Paging

section specification
variable (unicode : Unicode) (query : SearchQuery) (station : Station)

def matchedTermSet : Finset String := query.terms.toFinset.filter fun term => term ∈ stationSearchableTerms unicode station

def matchedTagSet : Finset String := query.tags.toFinset.filter fun tag => tag ∈ station.tags

-- A part of the name, in lower case, of three bytes or more.
def InName (term : String) : Prop := 3 ≤ term.utf8ByteSize ∧ term.toList <:+: (unicode.toLowercase station.name).toList

instance (term : String) : Decidable (InName unicode station term) := inferInstanceAs (Decidable (_ ∧ _))

-- Each term that stands in the name and is not matched as a whole word.
def nameSubstrings : List String :=
  query.terms.filter fun term => term ∉ matchedTermSet unicode query station ∧ InName unicode station term

def wordScore : ℚ :=
  ((matchedTermSet unicode query station).card + (matchedTagSet query station).card + (nameSubstrings unicode query station).length / 2) /
    max (query.coreTermCount + query.tags.length) 1

structure Eligible (excluded : List String) : Prop where
  included : station.id ∉ excluded
  language : ∀ language, query.language = some language → station.language = some language
  country : ∀ code, query.countryCode = some code → station.countryCode = some code
  found : (∃ term ∈ query.terms, term ∈ stationSearchableTerms unicode station) ∨ (∃ tag ∈ query.tags, tag ∈ station.tags) ∨
    ∃ term ∈ query.terms, InName unicode station term

end specification

-- The whole answer to a query: the eligible stations, once each, by score and then
-- by id.
structure Ranking (unicode : Unicode) (stations : List Station) (query : SearchQuery) (excluded : List String)
    (all : List (RankedStation ℚ)) : Prop where
  stations : ∀ station, (∃ found ∈ all, found.station = station) ↔ station ∈ stations ∧ Eligible unicode query station excluded
  once : (all.map fun found => found.station.id).Nodup
  scores : ∀ found ∈ all, found.score = wordScore unicode query found.station
  ordered : all.Pairwise fun left right => right.score < left.score ∨
    left.score = right.score ∧ left.station.id < right.station.id

-- The answers for slices of any lengths, each from where the one before it ends.
def sliceAnswers (unicode : Unicode) (stations : List Station) (query : SearchQuery) (excluded : List String) :
    Nat → List Nat → List (List (RankedStation ℚ))
  | _,[] => []
  | offset,limit :: limits => rankStations unicode exactScores stations query ⟨limit,offset,excluded⟩ ::
      sliceAnswers unicode stations query excluded (offset + limit) limits

variable {unicode : Unicode} {stations : List Station} {query : SearchQuery} {excluded : List String} {station : Station}

section matched

theorem matchedTerms_card : (ascending (query.terms.filter (stationSearchableTerms unicode station).contains)).length =
    (matchedTermSet unicode query station).card := by
  rw [length_ascending,matchedTermSet,List.toFinset_filter]
  simp only [List.contains_iff_mem]

theorem matchedTags_card : (ascending (query.tags.filter station.tags.contains)).length = (matchedTagSet query station).card := by
  rw [length_ascending,matchedTagSet,List.toFinset_filter]
  simp only [List.contains_iff_mem]

theorem mem_matchedTerms {term : String} : term ∈ ascending (query.terms.filter (stationSearchableTerms unicode station).contains) ↔
    term ∈ matchedTermSet unicode query station := by
  simp only [mem_ascending,matchedTermSet,List.mem_filter,List.contains_iff_mem,Finset.mem_filter,List.mem_toFinset]

theorem nameSubstrings_eq : ((query.terms.filter fun term => 3 ≤ term.utf8ByteSize &&
    !(ascending (query.terms.filter (stationSearchableTerms unicode station).contains)).contains term).filter fun term =>
      decide (term.toList <:+: (unicode.toLowercase station.name).toList)) = nameSubstrings unicode query station := by
  rw [List.filter_filter,nameSubstrings]
  refine List.filter_congr fun term _ => ?_
  rw [Bool.eq_iff_iff]
  simp only [Bool.and_eq_true,decide_eq_true_eq,Bool.not_eq_true',List.contains_eq_mem,decide_eq_false_iff_not,mem_matchedTerms]
  exact ⟨fun ⟨inside,long,unmatched⟩ => ⟨unmatched,long,inside⟩,fun ⟨unmatched,long,inside⟩ => ⟨inside,long,unmatched⟩⟩

theorem unmatched_iff : (ascending (query.terms.filter (stationSearchableTerms unicode station).contains) = [] ∧
    ascending (query.tags.filter station.tags.contains) = [] ∧ (nameSubstrings unicode query station).length = 0) ↔
      ¬ ((∃ term ∈ query.terms, term ∈ stationSearchableTerms unicode station) ∨ (∃ tag ∈ query.tags, tag ∈ station.tags) ∨
        ∃ term ∈ query.terms, InName unicode station term) := by
  simp only [ascending_nil,List.filter_eq_nil_iff,List.contains_iff_mem,List.length_eq_zero_iff,nameSubstrings,decide_eq_true_eq,
    matchedTermSet,Finset.mem_filter,List.mem_toFinset,not_or,not_exists,not_and]
  constructor
  · intro ⟨terms,tags,names⟩
    exact ⟨terms,tags,fun term listed => names term listed fun _ => terms term listed⟩
  · intro ⟨terms,tags,names⟩
    exact ⟨terms,tags,fun term listed _ => names term listed⟩

theorem halved (terms tags names count : ℕ) : ((2 * (terms + tags) + names : ℕ) : ℚ) / (2 * (count : ℚ)) =
    ((terms : ℚ) + tags + (names : ℚ) / 2) / count := by
  rw [← mul_div_mul_left (_ + _) (count : ℚ) two_ne_zero]
  push_cast
  congr 1
  ring

theorem rankStation_score {found : RankedStation ℚ} (matched : rankStation unicode exactScores station query = some found) :
    found.score = wordScore unicode query station := by
  unfold rankStation at matched
  dsimp only at matched
  rw [nameSubstrings_eq] at matched
  split at matched
  · cases matched
  · cases matched
    change ((2 * _ + _ : ℕ) : ℚ) / (2 * (max _ 1 : ℕ)) = _
    rw [matchedTerms_card,matchedTags_card,wordScore]
    exact halved _ _ _ _

theorem rankStation_isSome : (∃ found, rankStation unicode exactScores station query = some found) ↔
    (∃ term ∈ query.terms, term ∈ stationSearchableTerms unicode station) ∨ (∃ tag ∈ query.tags, tag ∈ station.tags) ∨
      ∃ term ∈ query.terms, InName unicode station term := by
  unfold rankStation
  dsimp only
  rw [nameSubstrings_eq]
  split
  · rename_i unmatched
    exact iff_of_false (fun ⟨_,other⟩ => Option.some_ne_none _ other.symm) (unmatched_iff.mp unmatched)
  · rename_i some_matched
    exact iff_of_true ⟨_,rfl⟩ (Decidable.not_not.mp fun none_matched => some_matched (unmatched_iff.mpr none_matched))

theorem languageMatches_iff : languageMatches station query = true ↔
    ∀ language, query.language = some language → station.language = some language := by
  unfold languageMatches
  cases query.language with
  | none => simp
  | some language => simp

theorem countryMatches_iff : countryMatches station query = true ↔
    ∀ code, query.countryCode = some code → station.countryCode = some code := by
  unfold countryMatches
  cases query.countryCode with
  | none => simp
  | some code => simp

theorem candidate_iff : (∃ found, Candidate unicode exactScores stations query excluded station found) ↔
    station ∈ stations ∧ Eligible unicode query station excluded := by
  simp only [Candidate,languageMatches_iff,countryMatches_iff,exists_and_left,rankStation_isSome]
  constructor
  · rintro ⟨⟨listed,included,language,country⟩,found⟩
    exact ⟨listed,included,language,country,found⟩
  · rintro ⟨listed,eligible⟩
    exact ⟨⟨listed,eligible.included,eligible.language,eligible.country⟩,eligible.found⟩

end matched

section ranking

theorem matching_distinct (distinct : (stations.map Station.id).Nodup) :
    ((matching unicode exactScores stations query excluded).map fun found => found.station.id).Nodup := distinct.sublist matching_ids

theorem ranked_ranking (distinct : (stations.map Station.id).Nodup) :
    Ranking unicode stations query excluded (ranked unicode exactScores stations query excluded) := by
  have once : ((ranked unicode exactScores stations query excluded).map fun found => found.station.id).Nodup :=
    (ScoreOrder.ordered_perm.map _).nodup_iff.mpr (matching_distinct distinct)
  constructor
  case stations =>
    intro station
    rw [← candidate_iff]
    constructor
    · rintro ⟨found,listed,rfl⟩
      obtain ⟨station,candidate⟩ := mem_matching.mp (ScoreOrder.mem_ordered.mp listed)
      exact ⟨found,rankStation_station candidate.2 ▸ candidate⟩
    · intro ⟨found,candidate⟩
      exact ⟨found,ScoreOrder.mem_ordered.mpr (mem_matching.mpr ⟨station,candidate⟩),rankStation_station candidate.2⟩
  case once => exact once
  case scores =>
    intro found listed
    obtain ⟨station,candidate⟩ := mem_matching.mp (ScoreOrder.mem_ordered.mp listed)
    rw [rankStation_station candidate.2]
    exact rankStation_score candidate.2
  case ordered =>
    refine (ScoreOrder.ordered_sorted.and (List.pairwise_map.mp once)).imp fun {left right} ⟨before,apart⟩ => ?_
    rcases before with more | ⟨same,le⟩
    · exact .inl more
    · exact .inr ⟨same,lt_of_le_of_ne le apart⟩

theorem rankStations_congr {others : List Station} (distinct : (stations.map Station.id).Nodup) (same : others.Perm stations)
    (constraints : SearchConstraints) : rankStations unicode exactScores others query constraints =
      rankStations unicode exactScores stations query constraints := by
  have matched : (matching unicode exactScores others query constraints.excludedStationIds).Perm
      (matching unicode exactScores stations query constraints.excludedStationIds) :=
    (((same.filter _).filter _).filter _).filterMap _
  have ordered : ranked unicode exactScores stations query constraints.excludedStationIds =
      ranked unicode exactScores others query constraints.excludedStationIds :=
    ScoreOrder.ordered_congr (matching_distinct distinct) matched.symm
  rw [rankStations,rankStations,ordered]

theorem sliceAnswers_eq {offset : Nat} (limits : List Nat) : sliceAnswers unicode stations query excluded offset limits =
    consecutive (counted unicode exactScores stations query excluded) offset limits := by
  induction limits generalizing offset with
  | nil => rfl
  | cons limit limits ih => rw [sliceAnswers,consecutive,ih,rankStations_eq]

end ranking

-- A search of the catalog is a slice of its ranking, which the order of the catalog
-- leaves alone; slices that follow each other and reach its end are all of it.
theorem rank_stations_exact (unicode : Unicode) (stations : List Station) (query : SearchQuery) (excluded : List String)
    (distinct : (stations.map Station.id).Nodup) :
    ∃ all, Ranking unicode stations query excluded all ∧
      (∀ limit offset, rankStations unicode exactScores stations query ⟨limit,offset,excluded⟩ =
        (slice all offset limit).map fun found => {found with totalMatches := some all.length}) ∧
      (∀ limits, all.length ≤ limits.sum → (sliceAnswers unicode stations query excluded 0 limits).flatten =
        all.map fun found => {found with totalMatches := some all.length}) ∧
      ∀ others, others.Perm stations → ∀ constraints,
        rankStations unicode exactScores others query constraints = rankStations unicode exactScores stations query constraints := by
  refine ⟨_,ranked_ranking distinct,fun _ _ => rfl,fun limits reached => ?_,fun others same => rankStations_congr distinct same⟩
  rw [sliceAnswers_eq,consecutive_flatten,slice_zero]
  · rfl
  · rwa [counted,List.length_map]

theorem rank_stations_exact_two : ∃ all, Ranking Letters.englishRussian [quietJazz,arcticAmbient] calmJazz [] all ∧
    (∀ limit offset, rankStations Letters.englishRussian exactScores [quietJazz,arcticAmbient] calmJazz ⟨limit,offset,[]⟩ =
      (slice all offset limit).map fun found => {found with totalMatches := some all.length}) ∧
    (∀ limits, all.length ≤ limits.sum → (sliceAnswers Letters.englishRussian [quietJazz,arcticAmbient] calmJazz [] 0 limits).flatten =
      all.map fun found => {found with totalMatches := some all.length}) ∧
    ∀ others, others.Perm [quietJazz,arcticAmbient] → ∀ constraints,
      rankStations Letters.englishRussian exactScores others calmJazz constraints =
        rankStations Letters.englishRussian exactScores [quietJazz,arcticAmbient] calmJazz constraints :=
  rank_stations_exact Letters.englishRussian [quietJazz,arcticAmbient] calmJazz [] (by decide)

end Search
