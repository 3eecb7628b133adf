import RockServer.EmbeddingBackfill
import RockServer.Paging
import RockServer.ScoreOrder
import RockServer.SearchQueries

-- The search statement of the database: candidates, their scores and the pages.
namespace SearchSql
open CatalogImport
open EmbeddingBackfill (Embedding EmbeddingDb Collation)
open Search (SearchQuery)
open ScoreOrder (ordered)

-- Floating point numbers: the nearest to a literal or a count, and their operations.
structure Float8 (S : Type) where
  literal : ℚ → S
  add : S → S → S
  sub : S → S → S
  mul : S → S → S
  div : S → S → S

-- What the database computes of texts and vectors. Words are the parts between
-- characters that are not alphanumeric, and a spaced text has a blank for each such run.
structure SearchFunctions (V S : Type) where
  lower : String → String
  like : String → String → Bool
  words : String → List String
  spaced : String → String
  matchesText : String → String → Bool
  textRank : String → String → S
  resembles : String → String → Bool
  similarity : String → String → S
  distance : V → V → S

-- Streams have numbers in the order of their creation.
structure SearchDatabase (V S : Type) where
  db : EmbeddingDb V
  float : Float8 S
  functions : SearchFunctions V S
  collation : Collation
  streamId : SourceKey → Nat

structure PostgresSearchParameters (V : Type) where
  terms : List String
  tags : List String
  language : Option String
  countryCode : Option String
  excludedStationIds : List String
  limit : Nat
  offset : Nat
  embedding : Option (Embedding V)
  metadataWeight : ℚ
  semanticWeight : ℚ
  coreTermCount : Nat
  rawQuery : String
  preferStationName : Bool
  stationNameHintQueries : List String

structure ScoredRow (S : Type) where
  id : String
  name : String
  streamUrl : String
  homepageUrl : Option String
  faviconReady : Bool
  tags : List String
  language : Option String
  countryCode : Option String
  codec : Option String
  bitrateKbps : Option Nat
  health : StationHealth
  metadataScore : S
  semanticScore : Option S
  score : S

namespace PostgresSearchParameters
variable {V : Type}

def fromDomain (query : SearchQuery) (excluded : List String) (embedding : Option (Embedding V)) (limit offset : Nat) :
    Option (PostgresSearchParameters V) :=
  if (embedding.all fun embedding => embedding.provenance.dimension < 2 ^ 31) && limit < 2 ^ 63 && offset < 2 ^ 63 then
    some
      { terms := query.terms
        tags := query.tags
        language := query.language
        countryCode := query.countryCode
        excludedStationIds := excluded
        limit := limit
        offset := offset
        embedding := embedding
        metadataWeight := 7 / 10
        semanticWeight := 3 / 10
        coreTermCount := query.coreTermCount
        rawQuery := query.rawQuery
        preferStationName := query.preferStationName
        stationNameHintQueries := query.stationNameHintQueries }
  else none

-- Another page of the same request.
def page (parameters : PostgresSearchParameters V) (limit offset : Nat) : PostgresSearchParameters V :=
  {parameters with limit := limit,offset := offset}

end PostgresSearchParameters

def countDistinct (values : List String) : Nat := values.dedup.length

variable {V S : Type} [LinearOrder S] (database : SearchDatabase V S) (parameters : PostgresSearchParameters V)

def matchedTags (station : StationRow) : List String := parameters.tags.filter station.tags.contains

-- Whether a text is matched by the words of a query; no query matches nothing.
def fullText (text query : String) : Bool := query ≠ "" && database.functions.matchesText text query

-- The stations that a tag, the text or a similar name brings in.
def candidate (id : String) (station : StationRow) : Bool :=
  station.retiredAt.isNone && parameters.language.all (fun language => station.language = some language) &&
    parameters.countryCode.all (fun code => station.countryCode = some code) && !parameters.excludedStationIds.contains id &&
    (!(matchedTags parameters station).isEmpty || fullText database station.searchableText parameters.rawQuery ||
      parameters.terms.any fun term => 3 ≤ term.length && database.functions.resembles (database.functions.lower station.name) term)

def candidates : List (String × StationRow) :=
  database.db.stations.toList.filter fun entry => candidate database parameters entry.1 entry.2

def prefilterScore (station : StationRow) : S :=
  database.float.add (database.float.literal (countDistinct (matchedTags parameters station)))
    (if fullText database station.searchableText parameters.rawQuery then
      database.functions.textRank station.searchableText parameters.rawQuery
    else database.float.literal 0)

def prefilterOrder : List (String × StationRow) :=
  @ordered _ _ _ _ database.collation.order (fun entry => prefilterScore database parameters entry.2) Prod.fst
    (candidates database parameters)

theorem prefilterOrder_perm : (prefilterOrder database parameters).Perm (candidates database parameters) :=
  @ScoreOrder.ordered_perm _ _ _ _ database.collation.order _ _ _

-- As many candidates as the page may need; numbers out of the range of a bigint fail.
def prefilterLimit : Option Nat :=
  if (parameters.limit + parameters.offset) * 20 < 2 ^ 63 then some (max ((parameters.limit + parameters.offset) * 20) 200) else none

-- The stream that is played, the primary one if there is one.
def primaryStream (id : String) : Option StreamRow :=
  ((ScoreOrder.ordered (fun entry => entry.2.isPrimary) (fun entry => database.streamId entry.1)
    (database.db.streams.toList.filter fun entry => entry.2.stationId = id && entry.2.retiredAt.isNone)).head?).map Prod.snd

def storedEmbedding (id : String) : Option (Embedding V) := parameters.embedding.bind fun asked =>
  (database.db.embeddings[(⟨id,asked.provenance.model,asked.provenance.version⟩ : EmbeddingKey)]?).filter fun stored =>
    stored.provenance.dimension = asked.provenance.dimension

section scores
variable (station : StationRow)

def nameTokens : List String :=
  (database.functions.words (database.functions.lower station.name)).filter (· ≠ "")

def matchedCount : Nat :=
  countDistinct (parameters.terms.filter fun term => fullText database station.searchableText term) +
    countDistinct (matchedTags parameters station)

def substringMatchCount : Nat := countDistinct (parameters.terms.filter fun term =>
  3 ≤ term.length && database.functions.like (database.functions.lower station.name) ("%" ++ term ++ "%"))

def nameTokenMatchCount : Nat := countDistinct (parameters.terms.filter (nameTokens database station).contains)

def orderedNameMatch : Bool := parameters.preferStationName && parameters.stationNameHintQueries.any fun hint =>
  hint ≠ "" && database.functions.like (database.functions.spaced (database.functions.lower station.name)) ("%" ++ hint ++ "%")

def trigramScore : S :=
  (((parameters.terms.filter fun term => 2 ≤ term.length).map
    (database.functions.similarity (database.functions.lower station.name))).max?).getD (database.float.literal 0)

def metadataScore : S :=
  let float := database.float
  let matched := float.literal (matchedCount database parameters station)
  let substrings := float.mul (float.literal (substringMatchCount database parameters station)) (float.literal (1 / 2))
  let trigram := float.mul (trigramScore database parameters station) (float.literal (3 / 10))
  let exactName :=
    if 0 < parameters.coreTermCount ∧ parameters.coreTermCount ≤ nameTokenMatchCount database parameters station then
      float.div (float.literal 1) (float.literal (max (nameTokens database station).length 1 : Nat))
    else float.literal 0
  let orderedName := if orderedNameMatch database parameters station then float.literal 2 else float.literal 0
  float.div (float.add (float.add (float.add (float.add matched substrings) trigram) exactName) orderedName)
    (float.literal (max (parameters.coreTermCount + parameters.tags.length) 1 : Nat))

def semanticScore (id : String) : Option S :=
  parameters.embedding.bind fun asked => (storedEmbedding database parameters id).map fun stored =>
    let float := database.float
    min (float.literal 1) (max (float.literal 0)
      (float.sub (float.literal 1) (float.div (database.functions.distance stored.values asked.values) (float.literal 2))))

end scores

-- A candidate with its scores. It is left out where its stream is degraded or no
-- score is positive.
def scoredRow (entry : String × StationRow) : Option (ScoredRow S) :=
  ((primaryStream database entry.1).filter fun stream => stream.health ≠ .degraded).bind fun stream =>
    let float := database.float
    let metadata := metadataScore database parameters entry.2
    let semantic := semanticScore database parameters entry.1
    if float.literal 0 < metadata ∨ ∃ score ∈ semantic, float.literal 0 < score then
      some
        { id := entry.1
          name := entry.2.name
          streamUrl := stream.streamUrl
          homepageUrl := entry.2.homepageUrl
          faviconReady := (database.db.icons[entry.1]?).any fun icon => icon.status = .ready
          tags := entry.2.tags
          language := entry.2.language
          countryCode := entry.2.countryCode
          codec := stream.codec
          bitrateKbps := stream.bitrateKbps
          health := stream.health
          metadataScore := metadata
          semanticScore := semantic
          score := semantic.elim metadata fun semantic =>
            float.add (float.mul (float.literal parameters.metadataWeight) metadata)
              (float.mul (float.literal parameters.semanticWeight) semantic) }
    else none

variable {database parameters} in
theorem scoredRow_some {entry : String × StationRow} {stream : StreamRow} (played : primaryStream database entry.1 = some stream)
    (sound : stream.health ≠ .degraded) (positive : database.float.literal 0 < metadataScore database parameters entry.2) :
    scoredRow database parameters entry ≠ none := by
  unfold scoredRow
  rw [played,Option.filter_some,if_pos (decide_eq_true sound),Option.bind_some]
  dsimp only
  rw [if_pos (.inl positive)]
  exact Option.some_ne_none _

-- The scored rows of the best candidates, in the order of the answer.
def scoredRows (count : Nat) : List (ScoredRow S) :=
  @ordered _ _ _ _ database.collation.order ScoredRow.score ScoredRow.id
    (((prefilterOrder database parameters).take count).filterMap (scoredRow database parameters))

-- The rows of a page, each with the number of all scored rows.
def searchSql : Option (List (ScoredRow S × Nat)) := (prefilterLimit parameters).map fun count =>
  (Paging.slice (scoredRows database parameters count) parameters.offset parameters.limit).map fun row =>
    (row,(scoredRows database parameters count).length)

section pages
variable {database parameters} {limit offset count : Nat}

-- The most candidates that a page can ask for.
def mostCandidates : Nat := 20 * ((2 ^ 63 - 1) / 20)

def candidatesFor (size : Nat) : Nat := max (size * 20) 200

theorem searchSql_page (inside : (limit + offset) * 20 < 2 ^ 63) : searchSql database (parameters.page limit offset) =
    some ((Paging.slice (scoredRows database parameters (candidatesFor (limit + offset))) offset limit).map fun row =>
      (row,(scoredRows database parameters (candidatesFor (limit + offset))).length)) := by
  have limited : prefilterLimit (parameters.page limit offset) = some (candidatesFor (limit + offset)) := if_pos inside
  rw [searchSql,limited,Option.map_some]
  rfl

theorem scoredRows_length : (scoredRows database parameters count).length =
    (((prefilterOrder database parameters).take count).filterMap (scoredRow database parameters)).length :=
  @ScoreOrder.length_ordered _ _ _ _ database.collation.order ScoredRow.score ScoredRow.id _

-- More candidates give the same rows if they give as many.
theorem scoredRows_same (more : 200 ≤ count) : ((scoredRows database parameters count).length =
      (scoredRows database parameters 200).length ↔
    ∀ entry ∈ ((prefilterOrder database parameters).take count).drop 200, scoredRow database parameters entry = none) ∧
    ((∀ entry ∈ ((prefilterOrder database parameters).take count).drop 200, scoredRow database parameters entry = none) →
      scoredRows database parameters count = scoredRows database parameters 200) := by
  have parts : (prefilterOrder database parameters).take count = (prefilterOrder database parameters).take 200 ++
      ((prefilterOrder database parameters).take count).drop 200 := by
    conv_lhs => rw [← List.take_append_drop 200 ((prefilterOrder database parameters).take count)]
    rw [List.take_take,Nat.min_eq_left more]
  rw [← List.filterMap_eq_nil_iff]
  constructor
  · rw [scoredRows_length,scoredRows_length,parts,List.filterMap_append,List.length_append]
    rw [← parts,Nat.add_eq_left,List.length_eq_zero_iff]
  · intro nothing
    rw [scoredRows,parts,List.filterMap_append,nothing,List.append_nil]
    rfl

theorem candidatesFor_le {size : Nat} (inside : size * 20 < 2 ^ 63) : candidatesFor size ≤ mostCandidates := by
  unfold candidatesFor mostCandidates
  omega

theorem candidatesFor_most : candidatesFor ((2 ^ 63 - 1) / 20) = mostCandidates := by decide

end pages

end SearchSql
