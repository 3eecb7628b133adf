import RockServer.Paging
import RockServer.ScoreOrder
import RockServer.SearchQueries
import RockServer.StationRepositories

-- Ranked stations: scores, genres and the pages of an answer.
namespace Search
open Ascending (ascending)

def moodTags : List String := ["calm","instrumental","upbeat","easy listening"]

def builtinParent : List (String × String) := [
  ("black metal","metal"),("death metal","metal"),("doom metal","metal"),("power metal","metal"),
  ("symphonic metal","metal"),("thrash metal","metal"),("heavy metal","metal"),("progressive metal","metal"),
  ("nu metal","metal"),("folk metal","metal"),("gothic metal","metal"),("industrial metal","metal"),
  ("speed metal","metal"),("sludge metal","metal"),("groove metal","metal"),("metalcore","metal"),
  ("deathcore","metal"),("alternative metal","metal"),("metal","rock"),("alternative rock","rock"),
  ("classic rock","rock"),("hard rock","rock"),("indie rock","rock"),("pop rock","rock"),
  ("progressive rock","rock"),("psychedelic rock","rock"),("soft rock","rock"),("punk rock","rock"),
  ("grunge","rock"),("garage rock","rock"),("post-rock","rock"),("post-punk","rock"),("shoegaze","rock"),
  ("stoner rock","rock"),("blues rock","rock"),("southern rock","rock"),("folk rock","rock"),
  ("country rock","rock"),("new wave","rock"),("britpop","rock"),("emo","rock"),("acid jazz","jazz"),
  ("latin jazz","jazz"),("smooth jazz","jazz"),("bebop","jazz"),("cool jazz","jazz"),("free jazz","jazz"),
  ("fusion","jazz"),("swing","jazz"),("big band","jazz"),("gypsy jazz","jazz"),("nu jazz","jazz"),
  ("vocal jazz","jazz"),("chicago blues","blues"),("delta blues","blues"),("electric blues","blues"),
  ("hardcore","punk"),("pop punk","punk"),("post-hardcore","punk"),("screamo","punk"),("house","electronic"),
  ("techno","electronic"),("trance","electronic"),("drum and bass","electronic"),("dubstep","electronic"),
  ("downtempo","electronic"),("synthwave","electronic"),("chillout","electronic"),("trip hop","electronic"),
  ("edm","electronic"),("deep house","house"),("tech house","house"),("progressive house","house"),
  ("progressive trance","trance"),("psytrance","trance"),("liquid dnb","drum and bass"),("bluegrass","country"),
  ("americana","country"),("country pop","country"),("russian folk","folk"),("celtic","folk"),("indie folk","folk"),
  ("dub","reggae"),("dancehall","reggae"),("reggaeton","reggae"),("salsa","latin"),("bossa nova","latin"),
  ("cumbia","latin"),("bachata","latin"),("regional mexicana","latin"),("neo-soul","soul"),("motown","soul"),
  ("funk rock","funk"),("disco","dance"),("nu-disco","dance"),("dark ambient","ambient"),("drone","ambient"),
  ("contemporary r&b","r&b")]

def requestedGenres (tags : List String) : List String := tags.filter fun tag => !moodTags.contains tag

def genreParent (genre : String) : Option String := (builtinParent.find? fun entry => entry.1 = genre).map Prod.snd

-- The loop up the table, for so many turns.
def ancestorsFor : Nat → String → List String
  | 0,_ => []
  | turns + 1,genre => match genreParent genre with
    | none => []
    | some parent => parent :: ancestorsFor turns parent

def genreAncestors (genre : String) : List String := ancestorsFor 3 genre

theorem genreParent_listed {genre parent : String} (found : genreParent genre = some parent) :
    ∃ entry ∈ builtinParent, entry.2 = parent := by
  obtain ⟨entry,first,rfl⟩ := Option.map_eq_some_iff.mp found
  exact ⟨entry,List.mem_of_find?_eq_some first,rfl⟩

-- No genre has more than two above it, so the loop is over by then.
theorem ancestors_end : ∀ entry ∈ builtinParent, ((genreParent entry.2).bind genreParent) = none := by
  decide +kernel

theorem genreAncestors_all (turns : Nat) (genre : String) : ancestorsFor (turns + 3) genre = genreAncestors genre := by
  rw [genreAncestors]
  simp only [ancestorsFor]
  cases first : genreParent genre with
  | none => simp
  | some parent =>
    cases second : genreParent parent with
    | none => simp [second]
    | some root =>
      obtain ⟨entry,listed,rfl⟩ := genreParent_listed first
      have done := ancestors_end entry listed
      rw [second,Option.bind_some] at done
      simp [second,done]

def stationMatchesRequestedGenre (queryTags stationTags : List String) : Bool :=
  let genres := requestedGenres queryTags
  genres.isEmpty || genres.any fun genre => stationTags.contains genre || (genreAncestors genre).any stationTags.contains

def broadenTags (tags : List String) : List String := ascending (tags.flatMap genreAncestors)

-- Scores are quotients of a number of halves by a number of terms, in an order of
-- their own.
structure Scores (S : Type) where
  ratio : Nat → Nat → S
  minRelevance : S

structure RankedStation (S : Type) where
  station : Station
  score : S
  reason : String
  totalMatches : Option Nat
deriving DecidableEq

structure SearchConstraints where
  limit : Nat
  offset : Nat
  excludedStationIds : List String

variable (unicode : Unicode) {S : Type} (scores : Scores S)

def languageMatches (station : Station) (query : SearchQuery) : Bool :=
  query.language.all fun language => station.language = some language

def countryMatches (station : Station) (query : SearchQuery) : Bool :=
  query.countryCode.all fun code => station.countryCode = some code

def stationSearchableTerms (station : Station) : List String :=
  tokenize unicode station.name ++ station.tags.flatMap (tokenize unicode)

def rankStation (station : Station) (query : SearchQuery) : Option (RankedStation S) :=
  let searchable := stationSearchableTerms unicode station
  let lowered := unicode.toLowercase station.name
  let matchedTerms := ascending (query.terms.filter searchable.contains)
  let matchedTags := ascending (query.tags.filter station.tags.contains)
  let substringMatches := ((query.terms.filter fun term => 3 ≤ term.utf8ByteSize && !matchedTerms.contains term).filter fun term =>
    decide (term.toList <:+: lowered.toList)).length
  if matchedTerms = [] ∧ matchedTags = [] ∧ substringMatches = 0 then none
  else
    let exact := matchedTerms.length + matchedTags.length
    let queryCount := query.coreTermCount + query.tags.length
    some
      { station := station
        score := scores.ratio (2 * exact + substringMatches) (max queryCount 1)
        reason := "Matched catalog metadata: " ++ ", ".intercalate (matchedTags ++ matchedTerms) ++ "."
        totalMatches := none }

-- Every match of a catalog, before it is ordered.
def matching (stations : List Station) (query : SearchQuery) (excluded : List String) : List (RankedStation S) :=
  (((stations.filter fun station => !excluded.contains station.id).filter (languageMatches · query)).filter
    (countryMatches · query)).filterMap (rankStation unicode scores · query)

variable [LinearOrder S]

def ranked (stations : List Station) (query : SearchQuery) (excluded : List String) : List (RankedStation S) :=
  ScoreOrder.ordered RankedStation.score (fun found => found.station.id) (matching unicode scores stations query excluded)

def rankStations (stations : List Station) (query : SearchQuery) (constraints : SearchConstraints) : List (RankedStation S) :=
  let results := ranked unicode scores stations query constraints.excludedStationIds
  (Paging.slice results constraints.offset constraints.limit).map fun found => {found with totalMatches := some results.length}

-- The stations of the requested genre, of a broader one where there are none, and
-- else all of them.
def genreFallback (tags : List String) (stations : List (RankedStation S)) : List (RankedStation S) :=
  let withGenre := stations.filter fun found => stationMatchesRequestedGenre tags found.station.tags
  if withGenre ≠ [] then withGenre
  else
    let parentTags := broadenTags tags
    let withParents := stations.filter fun found => stationMatchesRequestedGenre parentTags found.station.tags
    if parentTags ≠ [] ∧ withParents ≠ [] then withParents else stations

def searchWithEmbedding (repository : InMemoryStationRepository) (query : SearchQuery) (constraints : SearchConstraints) :
    List (RankedStation S) :=
  genreFallback query.tags ((rankStations unicode scores repository.stations query constraints).filter fun found =>
    scores.minRelevance ≤ found.score)

-- One answer to a search request, with its count of stations.
def searchPage (repository : InMemoryStationRepository) (query : SearchQuery) (excluded : List String) (limit offset : Nat) :
    Paging.Page (RankedStation S) :=
  let stations := searchWithEmbedding unicode scores repository query ⟨limit,offset,excluded⟩
  let total := (stations.head?.bind RankedStation.totalMatches).getD stations.length
  ⟨stations,total,decide (offset + stations.length < total)⟩

-- Exact quotients, against 0.35.
def exactScores : Scores ℚ := ⟨fun halves count => (halves : ℚ) / (2 * count),7 / 20⟩

end Search
