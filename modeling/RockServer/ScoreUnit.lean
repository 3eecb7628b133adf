import Mathlib.Algebra.BigOperators.Field
import Mathlib.Algebra.BigOperators.Ring.Finset
import Mathlib.Algebra.Order.Field.Basic
import Mathlib.Algebra.Order.BigOperators.Group.Finset
import Mathlib.Tactic.Linarith
import RockServer.RankingSpec
import RockServer.SearchSql
import RockServer.SqlLike

-- What a score counts, against what the query asks for.
namespace Search
open Ascending

-- A query of the deterministic parser, or of a validated intent, and its words.
inductive Produced (unicode : Unicode) : List String → SearchQuery → Prop
  | normalized {original locale query} : normalizeQuery unicode original locale = some query →
      Produced unicode (removeStopWords (tokenize unicode original)) query
  | validated {intent result original locale query} : validateIntent unicode intent = some (.ok result) →
      SearchQuery.fromIntent unicode original locale result = some query → Produced unicode (intentWords unicode intent.terms) query

-- The terms of a query are its words and their other forms, and only the words count.
structure Counts (words : List String) (query : SearchQuery) : Prop where
  within : words.toFinset ⊆ query.terms.toFinset
  terms : query.terms.Nodup
  tags : query.tags.Nodup
  core : query.coreTermCount = words.length
  silent : words = [] → query.terms = []

section produced
variable {unicode : Unicode} {words : List String} {query : SearchQuery}

theorem ascending_nodup (values : List String) : (ascending values).Nodup := (ascending_strict values).imp ne_of_lt

theorem expanded_terms {expanded : List String} (done : expandTransliterations unicode words = some expanded) :
    words.toFinset ⊆ expanded.toFinset ∧ expanded.Nodup ∧ (words = [] → expanded = []) := by
  obtain ⟨forms,made,rfl⟩ := Option.map_eq_some_iff.mp done
  refine ⟨fun word listed => ?_,ascending_nodup _,?_⟩
  · rw [List.mem_toFinset] at listed ⊢
    exact mem_ascending.mpr (List.mem_append_left _ listed)
  · rintro rfl
    cases made
    rfl

theorem fromIntent_counts {original locale : String} {intent : QueryIntent} (done : SearchQuery.fromIntent unicode original locale intent = some query) :
    query.terms = intent.terms ∧ query.tags = intent.tags ∧ query.coreTermCount = intent.coreTermCount := by
  obtain ⟨hints,_,rfl⟩ := Option.map_eq_some_iff.mp done
  exact ⟨rfl,rfl,rfl⟩

theorem produced_counts (produced : Produced unicode words query) : Counts words query := by
  cases produced with
  | normalized done =>
    obtain ⟨intent,parsed,queried⟩ := Option.bind_eq_some_iff.mp done
    obtain ⟨expanded,expanding,rfl⟩ := Option.map_eq_some_iff.mp parsed
    obtain ⟨within,terms,silent⟩ := expanded_terms expanding
    obtain ⟨terms_eq,tags_eq,core_eq⟩ := fromIntent_counts queried
    exact ⟨terms_eq ▸ within,terms_eq ▸ terms,tags_eq ▸ ascending_nodup _,core_eq,terms_eq ▸ silent⟩
  | validated done queried =>
    obtain ⟨expanded,expanding,validated⟩ := Option.map_eq_some_iff.mp done
    obtain ⟨within,terms,silent⟩ := expanded_terms expanding
    obtain ⟨terms_eq,tags_eq,core_eq⟩ := fromIntent_counts queried
    dsimp only at validated
    split at validated
    · cases validated
    · split at validated
      · cases validated
      · cases validated
        exact ⟨terms_eq ▸ within,terms_eq ▸ terms,tags_eq ▸ ascending_nodup _,core_eq,terms_eq ▸ silent⟩

end produced

-- A sum over terms against what the words and tags of a query leave open.
section balance
variable {words : List String} {query : SearchQuery} (weight : String → ℚ) (stationTags : List String)

-- What the other forms of the words weigh.
def added (words : List String) (query : SearchQuery) : ℚ := ∑ term ∈ query.terms.toFinset \ words.toFinset, weight term

-- What the words and tags do not weigh, the second time that a word is said included,
-- and the one that a query without any is divided by.
def lacking (words : List String) (query : SearchQuery) : ℚ :=
  ∑ word ∈ words.toFinset, (1 - weight word) + (words.length - words.toFinset.card) +
    (query.tags.toFinset.filter fun tag => tag ∉ stationTags).card + if query.coreTermCount + query.tags.length = 0 then 1 else 0

def carried (query : SearchQuery) : ℚ := (query.tags.toFinset.filter fun tag => tag ∈ stationTags).card

variable {weight stationTags}

theorem asked_balance (counts : Counts words query) : ((max (query.coreTermCount + query.tags.length) 1 : ℕ) : ℚ) =
    ∑ word ∈ words.toFinset, weight word + carried stationTags query + lacking weight stationTags words query := by
  have asked : ((max (query.coreTermCount + query.tags.length) 1 : ℕ) : ℚ) =
      words.length + query.tags.length + if query.coreTermCount + query.tags.length = 0 then 1 else 0 := by
    rw [← counts.core]
    split
    · rename_i nothing
      rw [nothing,← Nat.cast_add,nothing]
      norm_num
    · rename_i something
      rw [max_eq_left (Nat.one_le_iff_ne_zero.mpr something),add_zero]
      push_cast
      rfl
  have tags : (query.tags.length : ℚ) = carried stationTags query + (query.tags.toFinset.filter fun tag => tag ∉ stationTags).card := by
    rw [← List.toFinset_card_of_nodup counts.tags,carried,← Nat.cast_add,Finset.card_filter_add_card_filter_not]
  rw [asked,tags,lacking,Finset.sum_sub_distrib,Finset.sum_const,nsmul_one]
  ring

theorem terms_balance (counts : Counts words query) : ∑ term ∈ query.terms.toFinset, weight term =
    added weight words query + ∑ word ∈ words.toFinset, weight word :=
  (Finset.sum_sdiff counts.within).symm

-- A quotient by what is asked for is at most one just where what is added fills no
-- more than what is lacking.
theorem score_balance {other : ℚ} (counts : Counts words query) :
    (∑ term ∈ query.terms.toFinset, weight term + carried stationTags query + other) /
        ((max (query.coreTermCount + query.tags.length) 1 : ℕ) : ℚ) ≤ 1 ↔
      added weight words query + other ≤ lacking weight stationTags words query := by
  have positive : (0 : ℚ) < ((max (query.coreTermCount + query.tags.length) 1 : ℕ) : ℚ) := by
    exact_mod_cast Nat.lt_of_lt_of_le Nat.one_pos (le_max_right _ _)
  rw [div_le_one positive,asked_balance counts,terms_balance counts]
  constructor
  · intro le
    linarith
  · intro le
    linarith

theorem score_nonneg {other : ℚ} {count : ℕ} (weights : ∀ term, 0 ≤ weight term) (more : 0 ≤ other) :
    0 ≤ (∑ term ∈ query.terms.toFinset, weight term + carried stationTags query + other) / count := by
  have sum : 0 ≤ ∑ term ∈ query.terms.toFinset, weight term := Finset.sum_nonneg fun term _ => weights term
  have tags : 0 ≤ carried stationTags query := Nat.cast_nonneg _
  exact div_nonneg (add_nonneg (add_nonneg sum tags) more) (Nat.cast_nonneg _)

end balance

def UnitScore (score : ℚ) : Prop := 0 ≤ score ∧ score ≤ 1

section memory
variable {unicode : Unicode} {words : List String} {query : SearchQuery} {station : Station}

-- A term weighs one as a word of the station, and half inside its name.
def wordWeight (unicode : Unicode) (station : Station) (term : String) : ℚ :=
  if term ∈ stationSearchableTerms unicode station then 1 else if InName unicode station term then 1 / 2 else 0

theorem wordWeight_nonneg (term : String) : 0 ≤ wordWeight unicode station term := by
  unfold wordWeight
  split
  · exact zero_le_one
  · split
    · norm_num
    · exact le_rfl

-- The other forms that the station has fill no more than the words and tags that it lacks.
def FormsFit (unicode : Unicode) (words : List String) (query : SearchQuery) (station : Station) : Prop :=
  added (wordWeight unicode station) words query ≤ lacking (wordWeight unicode station) station.tags words query

theorem wordScore_weights (terms : query.terms.Nodup) : wordScore unicode query station =
    (∑ term ∈ query.terms.toFinset, wordWeight unicode station term + carried station.tags query + 0) /
      ((max (query.coreTermCount + query.tags.length) 1 : ℕ) : ℚ) := by
  have names : (nameSubstrings unicode query station).length =
      (query.terms.toFinset.filter fun term => term ∉ stationSearchableTerms unicode station ∧ InName unicode station term).card := by
    rw [nameSubstrings,← List.toFinset_card_of_nodup (terms.filter _),List.toFinset_filter]
    refine congrArg Finset.card (Finset.filter_congr fun term listed => ?_)
    rw [decide_eq_true_iff,matchedTermSet,Finset.mem_filter,and_iff_right listed]
  have weights : ∑ term ∈ query.terms.toFinset, wordWeight unicode station term =
      (matchedTermSet unicode query station).card + (nameSubstrings unicode query station).length / 2 := by
    rw [names,matchedTermSet,Finset.natCast_card_filter,Finset.natCast_card_filter,Finset.sum_div,← Finset.sum_add_distrib]
    refine Finset.sum_congr rfl fun term _ => ?_
    by_cases listed : term ∈ stationSearchableTerms unicode station
    · simp [wordWeight,listed]
    · by_cases named : InName unicode station term
      · simp [wordWeight,listed,named]
      · simp [wordWeight,listed,named]
  rw [weights,wordScore,carried,matchedTagSet]
  congr 1
  ring

theorem wordScore_unmatched (unmatched : ¬ ∃ found, rankStation unicode exactScores station query = some found) :
    wordScore unicode query station = 0 := by
  rw [rankStation_isSome] at unmatched
  obtain ⟨terms,tags,names⟩ := unmatched_iff.mpr unmatched
  rw [wordScore,← matchedTerms_card,← matchedTags_card,terms,tags,names]
  simp

theorem memory_unit (produced : Produced unicode words query) :
    (∀ found, rankStation unicode exactScores station query = some found → UnitScore found.score) ↔ FormsFit unicode words query station := by
  have counts := produced_counts produced
  have value := @wordScore_weights unicode query station counts.terms
  have bound : wordScore unicode query station ≤ 1 ↔ FormsFit unicode words query station := by
    rw [value,score_balance counts,add_zero]
    rfl
  constructor
  · intro unit
    by_cases matched : ∃ found, rankStation unicode exactScores station query = some found
    · obtain ⟨found,ranked⟩ := matched
      exact bound.mp (rankStation_score ranked ▸ (unit found ranked).2)
    · refine bound.mp ?_
      rw [wordScore_unmatched matched]
      exact zero_le_one
  · intro fit found ranked
    rw [rankStation_score ranked]
    refine ⟨?_,bound.mpr fit⟩
    rw [value]
    exact score_nonneg wordWeight_nonneg le_rfl

end memory

end Search

namespace SearchSql
open Search

def exactFloat : Float8 ℚ := ⟨id,(· + ·),(· - ·),(· * ·),(· / ·)⟩

section weights
variable {V : Type} (database : SearchDatabase V ℚ) (parameters : PostgresSearchParameters V) (station : CatalogImport.StationRow)

def textWeight (term : String) : ℚ := if fullText database station.searchableText term then 1 else 0

def insideName (term : String) : Bool :=
  3 ≤ term.length && database.functions.like (database.functions.lower station.name) ("%" ++ term ++ "%")

-- What the name of a station adds to the words and tags that match.
def nameBonus : ℚ :=
  (parameters.terms.toFinset.filter fun term => insideName database station term).card * (1 / 2) +
    trigramScore database parameters station * (3 / 10) +
    (if 0 < parameters.coreTermCount ∧ parameters.coreTermCount ≤ nameTokenMatchCount database parameters station then
      1 / ((max (nameTokens database station).length 1 : ℕ) : ℚ) else 0) +
    if orderedNameMatch database parameters station then 2 else 0

-- The other forms and the name fill no more than the words and tags that the station lacks.
def NameFits (words : List String) (query : SearchQuery) : Prop :=
  added (textWeight database station) words query + nameBonus database parameters station ≤
    lacking (textWeight database station) station.tags words query

def Playable (id : String) : Prop := ∃ stream, primaryStream database id = some stream ∧ stream.health ≠ .degraded

end weights

section sql
variable {V : Type} {database : SearchDatabase V ℚ} {parameters : PostgresSearchParameters V} {station : CatalogImport.StationRow}
  {query : SearchQuery}

theorem countDistinct_card (values : List String) (p : String → Bool) :
    countDistinct (values.filter p) = (values.toFinset.filter fun value => p value = true).card := by
  rw [countDistinct,← List.card_toFinset,List.toFinset_filter]

theorem textWeight_nonneg (term : String) : 0 ≤ textWeight database station term := by
  unfold textWeight
  split
  · exact zero_le_one
  · exact le_rfl

theorem trigramScore_nonneg (exact : database.float = exactFloat) (similar : ∀ left right, 0 ≤ database.functions.similarity left right) :
    0 ≤ trigramScore database parameters station := by
  unfold trigramScore
  rw [exact]
  cases found : (((parameters.terms.filter fun term => 2 ≤ term.length).map
      (database.functions.similarity (database.functions.lower station.name))).max?) with
  | none => exact le_rfl
  | some most =>
    obtain ⟨term,_,rfl⟩ := List.mem_map.mp (List.max?_mem found)
    exact similar _ _

theorem nameBonus_nonneg (exact : database.float = exactFloat) (similar : ∀ left right, 0 ≤ database.functions.similarity left right) :
    0 ≤ nameBonus database parameters station := by
  have trigram := @trigramScore_nonneg _ _ parameters station exact similar
  have whole : (0 : ℚ) ≤ if 0 < parameters.coreTermCount ∧ parameters.coreTermCount ≤ nameTokenMatchCount database parameters station then
      1 / ((max (nameTokens database station).length 1 : ℕ) : ℚ) else 0 := by
    split
    · positivity
    · exact le_rfl
  have hint : (0 : ℚ) ≤ if orderedNameMatch database parameters station then 2 else 0 := by
    split
    · norm_num
    · exact le_rfl
  unfold nameBonus
  positivity

theorem metadataScore_weights (exact : database.float = exactFloat) (terms : parameters.terms = query.terms)
    (tags : parameters.tags = query.tags) (core : parameters.coreTermCount = query.coreTermCount) :
    metadataScore database parameters station =
      (∑ term ∈ query.terms.toFinset, textWeight database station term + carried station.tags query +
        nameBonus database parameters station) / ((max (query.coreTermCount + query.tags.length) 1 : ℕ) : ℚ) := by
  have texts : ∑ term ∈ query.terms.toFinset, textWeight database station term =
      countDistinct (query.terms.filter fun term => fullText database station.searchableText term) := by
    rw [countDistinct_card,Finset.natCast_card_filter]
    rfl
  have tagged : carried station.tags query = countDistinct (matchedTags parameters station) := by
    rw [matchedTags,tags,countDistinct_card,carried]
    simp only [List.contains_iff_mem]
  have inside : substringMatchCount database parameters station =
      (parameters.terms.toFinset.filter fun term => insideName database station term).card := countDistinct_card _ _
  rw [texts,tagged,nameBonus,metadataScore,exact,matchedCount,inside,terms,← core,← tags]
  simp only [exactFloat,id_eq,Nat.cast_add,add_assoc]

theorem scoredRow_scores {entry : String × CatalogImport.StationRow} {row : ScoredRow ℚ} (listed : scoredRow database parameters entry = some row) :
    Playable database entry.1 ∧ row.metadataScore = metadataScore database parameters entry.2 ∧
      row.score = (semanticScore database parameters entry.1).elim (metadataScore database parameters entry.2) fun semantic =>
        database.float.add (database.float.mul (database.float.literal parameters.metadataWeight) (metadataScore database parameters entry.2))
          (database.float.mul (database.float.literal parameters.semanticWeight) semantic) := by
  obtain ⟨stream,played,scored⟩ := Option.bind_eq_some_iff.mp listed
  obtain ⟨primary,sound⟩ := Option.filter_eq_some_iff.mp played
  dsimp only at scored
  split at scored
  · cases scored
    exact ⟨⟨stream,primary,of_decide_eq_true sound⟩,rfl,rfl⟩
  · cases scored

theorem semanticScore_unit (exact : database.float = exactFloat) {id : String} {semantic : ℚ}
    (found : semanticScore database parameters id = some semantic) : UnitScore semantic := by
  obtain ⟨asked,_,found⟩ := Option.bind_eq_some_iff.mp found
  obtain ⟨stored,_,rfl⟩ := Option.map_eq_some_iff.mp found
  rw [exact]
  exact ⟨le_min zero_le_one (le_max_left _ _),min_le_left _ _⟩

theorem combined_unit {metadata semantic : ℚ} (unit : UnitScore metadata) (similarity : UnitScore semantic) :
    UnitScore (7 / 10 * metadata + 3 / 10 * semantic) := by
  obtain ⟨low,high⟩ := unit
  obtain ⟨low',high'⟩ := similarity
  constructor
  · linarith
  · linarith

theorem sql_unit {unicode : Unicode} {words : List String} (produced : Produced unicode words query) (exact : database.float = exactFloat)
    (similar : ∀ left right, UnitScore (database.functions.similarity left right)) {excluded : List String}
    {embedding : Option (EmbeddingBackfill.Embedding V)} {limit offset : Nat}
    (converted : PostgresSearchParameters.fromDomain query excluded embedding limit offset = some parameters)
    (entry : String × CatalogImport.StationRow) :
    (∀ row, scoredRow database parameters entry = some row → UnitScore row.metadataScore ∧ UnitScore row.score) ↔
      (Playable database entry.1 → NameFits database parameters entry.2 words query) := by
  obtain ⟨terms,tags,core,weights⟩ : parameters.terms = query.terms ∧ parameters.tags = query.tags ∧
      parameters.coreTermCount = query.coreTermCount ∧ parameters.metadataWeight = 7 / 10 ∧ parameters.semanticWeight = 3 / 10 := by
    unfold PostgresSearchParameters.fromDomain at converted
    split at converted
    · cases converted
      exact ⟨rfl,rfl,rfl,rfl,rfl⟩
    · cases converted
  have value := @metadataScore_weights _ _ _ entry.2 _ exact terms tags core
  have low : 0 ≤ metadataScore database parameters entry.2 := by
    rw [value]
    exact score_nonneg textWeight_nonneg (nameBonus_nonneg exact fun left right => (similar left right).1)
  have bound : metadataScore database parameters entry.2 ≤ 1 ↔ NameFits database parameters entry.2 words query := by
    rw [value,score_balance (produced_counts produced)]
    rfl
  constructor
  · intro unit ⟨stream,played,sound⟩
    by_cases positive : 0 < metadataScore database parameters entry.2
    · have positive' : database.float.literal 0 < metadataScore database parameters entry.2 := by rwa [exact]
      obtain ⟨row,listed⟩ := Option.ne_none_iff_exists'.mp (scoredRow_some played sound positive')
      rw [← bound,← (scoredRow_scores listed).2.1]
      exact (unit row listed).1.2
    · exact bound.mp ((not_lt.mp positive).trans zero_le_one)
  · intro fits row listed
    obtain ⟨playable,metadata,score⟩ := scoredRow_scores listed
    have unit : UnitScore (metadataScore database parameters entry.2) := ⟨low,bound.mpr (fits playable)⟩
    refine ⟨metadata ▸ unit,?_⟩
    rw [score]
    cases found : semanticScore database parameters entry.1 with
    | none => exact unit
    | some semantic =>
      rw [exact,weights.1,weights.2]
      exact combined_unit unit (semanticScore_unit exact found)

end sql

-- The scores of a query lie between zero and one just where the other forms of its
-- words, and for the database also the name, fill no more than the words and tags
-- that the station lacks.
theorem scores_unit_iff {V : Type} {unicode : Unicode} {words : List String} {query : SearchQuery} (produced : Produced unicode words query)
    (station : Station) {database : SearchDatabase V ℚ} (exact : database.float = exactFloat)
    (similar : ∀ left right, UnitScore (database.functions.similarity left right)) {parameters : PostgresSearchParameters V}
    {excluded : List String} {embedding : Option (EmbeddingBackfill.Embedding V)} {limit offset : Nat}
    (converted : PostgresSearchParameters.fromDomain query excluded embedding limit offset = some parameters)
    (entry : String × CatalogImport.StationRow) :
    (∀ found, rankStation unicode exactScores station query = some found → UnitScore found.score) ∧
        (∀ row, scoredRow database parameters entry = some row → UnitScore row.metadataScore ∧ UnitScore row.score) ↔
      FormsFit unicode words query station ∧ (Playable database entry.1 → NameFits database parameters entry.2 words query) :=
  and_congr (memory_unit produced) (sql_unit produced exact similar converted entry)

def jazzWord : SearchQuery := ⟨.play,"jazz","en",["jazz","джаз","йазз"],["jazz"],none,none,1,"jazz",false,[]⟩

def jazzIntent : QueryIntent := ⟨.play,["jazz"],["jazz"],none,none,1,"jazz"⟩

theorem jazzWord_produced : Produced Letters.englishRussian ["jazz"] jazzWord := by
  have words : intentWords Letters.englishRussian jazzIntent.terms = ["jazz"] := by decide
  have valid : validateIntent Letters.englishRussian jazzIntent = some (.ok {jazzIntent with terms := jazzWord.terms}) := by
    decide
  have queried : SearchQuery.fromIntent Letters.englishRussian "jazz" "en" {jazzIntent with terms := jazzWord.terms} = some jazzWord := by
    decide
  have produced := Produced.validated valid queried
  rwa [words] at produced

-- What PostgreSQL computes of texts in English and Russian letters: the words of the
-- configuration `simple` and the trigrams of pg_trgm. No vector is stored.
def splitWords (text : String) : List String :=
  (text.toList.splitOnP fun c => !Letters.englishRussian.isAlphanumeric c).map String.ofList

def spacedFrom : Bool → List Char → List Char
  | _,[] => []
  | inRun,c :: rest =>
    if Letters.englishRussian.isAlphanumeric c then c :: spacedFrom false rest
    else if inRun then spacedFrom true rest else ' ' :: spacedFrom true rest

def lexemes (text : String) : List String := (splitWords (Letters.englishRussian.toLowercase text)).filter (· ≠ "")

def windows : List Char → List (List Char)
  | a :: b :: c :: rest => [a,b,c] :: windows (b :: c :: rest)
  | _ => []

def trigrams (text : String) : Finset (List Char) :=
  ((lexemes text).flatMap fun word => windows (' ' :: ' ' :: (word.toList ++ [' ']))).toFinset

def trigramSimilarity (left right : String) : ℚ :=
  (trigrams left ∩ trigrams right).card / (trigrams left ∪ trigrams right).card

theorem trigramSimilarity_unit (left right : String) : UnitScore (trigramSimilarity left right) := by
  have fewer : (trigrams left ∩ trigrams right).card ≤ (trigrams left ∪ trigrams right).card :=
    Finset.card_le_card (Finset.inter_subset_left.trans Finset.subset_union_left)
  constructor
  · exact div_nonneg (Nat.cast_nonneg _) (Nat.cast_nonneg _)
  · exact div_le_one_of_le₀ (Nat.cast_le.mpr fewer) (Nat.cast_nonneg _)

example : trigramSimilarity "jazz джаз" "jazz" = 1 / 2 := by decide +kernel

def postgresFunctions : SearchFunctions Nat ℚ where
  lower := Letters.englishRussian.toLowercase
  like text pattern := SqlLike.like text.toList pattern.toList
  words := splitWords
  spaced text := String.ofList (spacedFrom false text.toList)
  matchesText text query := lexemes query ≠ [] && (lexemes query).all (lexemes text).contains
  textRank text query := ((lexemes text).countP (lexemes query).contains : ℕ) / 10
  resembles left right := 3 / 10 ≤ trigramSimilarity left right
  similarity := trigramSimilarity
  distance _ _ := 0

def quietRow : CatalogImport.StationRow :=
  ⟨"Quiet Jazz Radio",none,["calm"],none,none,"radio-browser","quiet","Quiet Jazz Radio quiet jazz radio calm",7,none⟩

def quietStream : CatalogImport.StreamRow :=
  ⟨"quiet","https://streams.example.com/quiet.mp3",some "MP3",some 192,.unknown,none,none,true,7,none⟩

-- A catalog with one station that can be played.
def quietDatabase : SearchDatabase Nat ℚ where
  db := {CatalogImport.CatalogDb.empty with
    stations := (∅ : Table String CatalogImport.StationRow).insert "quiet" quietRow
    streams := (∅ : Table CatalogImport.SourceKey CatalogImport.StreamRow).insert ⟨"radio-browser","quiet"⟩ quietStream}
  float := exactFloat
  functions := postgresFunctions
  collation := ⟨inferInstance⟩
  streamId _ := 0

def quietStation : Station := ⟨"quiet","Quiet Jazz Radio","https://streams.example.com/quiet.mp3",none,none,["calm"],none,none,
  some "MP3",some 192,.unknown⟩

def jazzWordParameters : PostgresSearchParameters Nat :=
  ⟨["jazz","джаз","йазз"],["jazz"],none,none,[],1,0,none,7 / 10,3 / 10,1,"jazz",false,[]⟩

-- The word stands in the name and the tag does not: in both stores the score is one of
-- the unit interval.
theorem scores_unit_iff_jazz :
    (∃ found, rankStation Letters.englishRussian exactScores quietStation jazzWord = some found ∧ UnitScore found.score) ∧
    ∃ row, scoredRow quietDatabase jazzWordParameters ("quiet",quietRow) = some row ∧ 0 < row.metadataScore ∧
      UnitScore row.metadataScore ∧ UnitScore row.score := by
  have forms : FormsFit Letters.englishRussian ["jazz"] jazzWord quietStation := by
    unfold FormsFit
    decide +kernel
  have name : NameFits quietDatabase jazzWordParameters quietRow ["jazz"] jazzWord := by
    unfold NameFits
    decide +kernel
  obtain ⟨memory,database⟩ := (scores_unit_iff jazzWord_produced quietStation (show quietDatabase.float = exactFloat from rfl)
    trigramSimilarity_unit (show PostgresSearchParameters.fromDomain jazzWord [] none 1 0 = some jazzWordParameters from rfl)
    ("quiet",quietRow)).mpr ⟨forms,fun _ => name⟩
  have ranked : (rankStation Letters.englishRussian exactScores quietStation jazzWord).isSome := by decide +kernel
  obtain ⟨found,matched⟩ := Option.isSome_iff_exists.mp ranked
  have scored : (scoredRow quietDatabase jazzWordParameters ("quiet",quietRow)).any (fun row => 0 < row.metadataScore) = true := by
    decide +kernel
  obtain ⟨row,listed,positive⟩ := (Option.any_eq_true _ _).mp scored
  obtain ⟨metadata,combined⟩ := database row listed
  exact ⟨⟨found,matched,memory found matched⟩,row,listed,of_decide_eq_true positive,metadata,combined⟩

def bilingual : Station := ⟨"station-jazz-002","Jazz Джаз","https://streams.example.com/jazz.mp3",none,none,["jazz"],some "ru",some "RU",
  some "MP3",some 192,.unknown⟩

-- A station with the word in both scripts scores three halves.
theorem bilingual_over : ¬ ∀ (words : List String) (query : SearchQuery) (station : Station) (found : RankedStation ℚ),
    Produced Letters.englishRussian words query → rankStation Letters.englishRussian exactScores station query = some found →
      UnitScore found.score := by
  intro all
  have scored : (rankStation Letters.englishRussian exactScores bilingual jazzWord).map RankedStation.score = some (3 / 2) := by
    decide +kernel
  obtain ⟨found,ranked,score⟩ := Option.map_eq_some_iff.mp scored
  have unit := all ["jazz"] jazzWord bilingual found jazzWord_produced ranked
  rw [score] at unit
  exact absurd unit.2 (by norm_num)

end SearchSql
