import Mathlib.Logic.Relation
import RockServer.SearchPages

-- A genre, the genres above it, and the stages of a search that asks for one.
namespace Search
open Ascending

def Above : String → String → Prop := Relation.TransGen fun genre parent => genreParent genre = some parent

def Requests (tags : List String) (genre : String) : Prop := genre ∈ tags ∧ genre ∉ moodTags

def CarriesGenre (tags stationTags : List String) : Prop := ∃ genre, Requests tags genre ∧ genre ∈ stationTags

def CarriesAncestor (tags stationTags : List String) : Prop :=
  ∃ genre ancestor, Requests tags genre ∧ Above genre ancestor ∧ ancestor ∈ stationTags

section hierarchy
variable {genre parent ancestor : String} {tags stationTags : List String}

theorem genreAncestors_cons (found : genreParent genre = some parent) : genreAncestors genre = parent :: genreAncestors parent := by
  rw [← genreAncestors_all 1 genre,ancestorsFor,found]
  rfl

theorem ancestors_above {turns : Nat} (listed : ancestor ∈ ancestorsFor turns genre) : Above genre ancestor := by
  induction turns generalizing genre with
  | zero => cases listed
  | succ turns ih =>
    rw [ancestorsFor] at listed
    cases found : genreParent genre with
    | none =>
      rw [found] at listed
      cases listed
    | some parent =>
      rw [found] at listed
      rcases List.mem_cons.mp listed with rfl | further
      · exact .single found
      · exact .head found (ih further)

-- The walk up the table finds each genre above, and no other.
theorem mem_genreAncestors : ancestor ∈ genreAncestors genre ↔ Above genre ancestor := by
  refine ⟨ancestors_above,fun above => ?_⟩
  induction above using Relation.TransGen.head_induction_on with
  | single found =>
    rw [genreAncestors_cons found]
    exact List.mem_cons_self
  | head found _ ih =>
    rw [genreAncestors_cons found]
    exact List.mem_cons_of_mem _ ih

-- Moods are no genres: none is above a genre, and nothing is above one.
theorem mood_parent : ∀ mood ∈ moodTags, genreParent mood = none ∧ ∀ entry ∈ builtinParent, entry.2 ≠ mood := by
  decide

theorem above_genre (above : Above genre ancestor) : genre ∉ moodTags ∧ ancestor ∉ moodTags := by
  constructor
  · intro mood
    obtain ⟨parent,found,_⟩ := Relation.TransGen.head'_iff.mp above
    rw [(mood_parent genre mood).1] at found
    cases found
  · intro mood
    obtain ⟨child,_,found⟩ := Relation.TransGen.tail'_iff.mp above
    obtain ⟨entry,listed,same⟩ := genreParent_listed found
    exact (mood_parent ancestor mood).2 entry listed same

theorem mem_requestedGenres : genre ∈ requestedGenres tags ↔ Requests tags genre := by
  simp [requestedGenres,Requests]

theorem mem_broadenTags : ancestor ∈ broadenTags tags ↔ ∃ genre, Requests tags genre ∧ Above genre ancestor := by
  simp only [broadenTags,mem_ascending,List.mem_flatMap,mem_genreAncestors]
  constructor
  · rintro ⟨genre,listed,above⟩
    exact ⟨genre,⟨listed,(above_genre above).1⟩,above⟩
  · rintro ⟨genre,requested,above⟩
    exact ⟨genre,requested.1,above⟩

theorem matches_iff : stationMatchesRequestedGenre tags stationTags = true ↔
    requestedGenres tags = [] ∨ CarriesGenre tags stationTags ∨ CarriesAncestor tags stationTags := by
  simp only [stationMatchesRequestedGenre,Bool.or_eq_true,List.isEmpty_iff,List.any_eq_true,List.contains_iff_mem,
    mem_requestedGenres,mem_genreAncestors,CarriesGenre,CarriesAncestor]
  refine or_congr_right ⟨?_,?_⟩
  · rintro ⟨genre,requested,carried | ⟨ancestor,above,carried⟩⟩
    · exact .inl ⟨genre,requested,carried⟩
    · exact .inr ⟨genre,ancestor,requested,above,carried⟩
  · rintro (⟨genre,requested,carried⟩ | ⟨genre,ancestor,requested,above,carried⟩)
    · exact ⟨genre,requested,.inl carried⟩
    · exact ⟨genre,requested,.inr ⟨ancestor,above,carried⟩⟩

theorem carries_requested (carries : CarriesGenre tags stationTags ∨ CarriesAncestor tags stationTags) : requestedGenres tags ≠ [] := by
  have some_requested {genre : String} (requested : Requests tags genre) : requestedGenres tags ≠ [] :=
    List.ne_nil_of_mem (mem_requestedGenres.mpr requested)
  rcases carries with ⟨genre,requested,_⟩ | ⟨genre,_,requested,_⟩
  · exact some_requested requested
  · exact some_requested requested

-- A genre that a broadened request asks for is above one of the request.
theorem broadened_carries (some_parent : broadenTags tags ≠ [])
    (found : stationMatchesRequestedGenre (broadenTags tags) stationTags = true) : CarriesAncestor tags stationTags := by
  rcases matches_iff.mp found with none_requested | ⟨broader,⟨listed,_⟩,carried⟩ | ⟨broader,ancestor,⟨listed,_⟩,higher,carried⟩
  · obtain ⟨broader,listed⟩ := List.exists_mem_of_ne_nil _ some_parent
    obtain ⟨genre,_,above⟩ := mem_broadenTags.mp listed
    have requested : broader ∈ requestedGenres (broadenTags tags) := mem_requestedGenres.mpr ⟨listed,(above_genre above).2⟩
    rw [none_requested] at requested
    cases requested
  · obtain ⟨genre,requested,above⟩ := mem_broadenTags.mp listed
    exact ⟨genre,broader,requested,above,carried⟩
  · obtain ⟨genre,requested,above⟩ := mem_broadenTags.mp listed
    exact ⟨genre,ancestor,requested,above.trans higher,carried⟩

end hierarchy

section stages
variable {S : Type} {tags : List String} {found : List (RankedStation S)}

-- What a search does with the answer of a repository.
def fromRepository [LinearOrder S] (scores : Scores S) (query : SearchQuery) (stations : List (RankedStation S)) :
    List (RankedStation S) := genreFallback query.tags (relevant scores stations)

example [LinearOrder S] {unicode : Unicode} {scores : Scores S} {repository : InMemoryStationRepository}
    {query : SearchQuery} {constraints : SearchConstraints} : searchWithEmbedding unicode scores repository query constraints =
      fromRepository scores query (rankStations unicode scores repository.stations query constraints) := rfl

def SomeGenre (tags : List String) (found : List (RankedStation S)) : Prop := ∃ one ∈ found, CarriesGenre tags one.station.tags

def SomeAncestor (tags : List String) (found : List (RankedStation S)) : Prop := ∃ one ∈ found, CarriesAncestor tags one.station.tags

-- An answer of one stage: the stations of the genre, else of a broader one, else all.
structure Staged (tags : List String) (found answer : List (RankedStation S)) : Prop where
  order : answer.Sublist found
  genre : SomeGenre tags found → ∀ one, one ∈ answer ↔ one ∈ found ∧ CarriesGenre tags one.station.tags
  broader : ¬ SomeGenre tags found → SomeAncestor tags found →
    ∀ one, one ∈ answer ↔ one ∈ found ∧ CarriesAncestor tags one.station.tags
  all : ¬ SomeGenre tags found → ¬ SomeAncestor tags found → answer = found

-- No station that only carries a genre above stands beside one of the genre.
def Unmixed (tags : List String) (found : List (RankedStation S)) : Prop :=
  SomeGenre tags found → ∀ one ∈ found, CarriesAncestor tags one.station.tags → CarriesGenre tags one.station.tags

theorem fallback_carries (some_carries : SomeGenre tags found ∨ SomeAncestor tags found) (one : RankedStation S) :
    one ∈ genreFallback tags found ↔
      one ∈ found ∧ (CarriesGenre tags one.station.tags ∨ CarriesAncestor tags one.station.tags) := by
  have requested : requestedGenres tags ≠ [] := by
    rcases some_carries with ⟨one,_,carries⟩ | ⟨one,_,carries⟩
    · exact carries_requested (.inl carries)
    · exact carries_requested (.inr carries)
  have matched (one : RankedStation S) : stationMatchesRequestedGenre tags one.station.tags = true ↔
      CarriesGenre tags one.station.tags ∨ CarriesAncestor tags one.station.tags := by
    rw [matches_iff]
    exact or_iff_right requested
  have first : (found.filter fun one => stationMatchesRequestedGenre tags one.station.tags) ≠ [] := by
    rcases some_carries with ⟨one,listed,carries⟩ | ⟨one,listed,carries⟩
    · exact List.ne_nil_of_mem (List.mem_filter.mpr ⟨listed,(matched one).mpr (.inl carries)⟩)
    · exact List.ne_nil_of_mem (List.mem_filter.mpr ⟨listed,(matched one).mpr (.inr carries)⟩)
  unfold genreFallback
  rw [if_pos first,List.mem_filter,matched]

-- The second stage finds nothing that the first has not found.
theorem fallback_all (no_genre : ¬ SomeGenre tags found) (no_ancestor : ¬ SomeAncestor tags found) : genreFallback tags found = found := by
  unfold genreFallback
  dsimp only
  split
  · rename_i some_matched
    obtain ⟨one,listed⟩ := List.exists_mem_of_ne_nil _ some_matched
    obtain ⟨listed,matched⟩ := List.mem_filter.mp listed
    rcases matches_iff.mp matched with none_requested | carries | carries
    · exact List.filter_eq_self.mpr fun _ _ => matches_iff.mpr (.inl none_requested)
    · exact absurd ⟨one,listed,carries⟩ no_genre
    · exact absurd ⟨one,listed,carries⟩ no_ancestor
  · split
    · rename_i broadened
      obtain ⟨one,listed⟩ := List.exists_mem_of_ne_nil _ broadened.2
      obtain ⟨listed,matched⟩ := List.mem_filter.mp listed
      exact absurd ⟨one,listed,broadened_carries broadened.1 matched⟩ no_ancestor
    · rfl

theorem fallback_staged : Staged tags found (genreFallback tags found) ↔ Unmixed tags found := by
  constructor
  · intro staged some_genre one listed carries
    have answered := (fallback_carries (.inl some_genre) one).mpr ⟨listed,.inr carries⟩
    exact ((staged.genre some_genre one).mp answered).2
  · intro unmixed
    constructor
    case order => exact genreFallback_sublist
    case genre =>
      intro some_genre one
      rw [fallback_carries (.inl some_genre)]
      exact and_congr_right fun listed => or_iff_left_of_imp (unmixed some_genre one listed)
    case broader =>
      intro no_genre some_ancestor one
      rw [fallback_carries (.inr some_ancestor)]
      exact and_congr_right fun listed => or_iff_right fun carries => no_genre ⟨one,listed,carries⟩
    case all => exact fallback_all

end stages

-- A search answers by stages just where no station of a broader genre alone is
-- relevant beside one of the genre itself.
theorem exact_genre_first {S : Type} [LinearOrder S] (scores : Scores S) (query : SearchQuery) (stations : List (RankedStation S)) :
    Staged query.tags (relevant scores stations) (fromRepository scores query stations) ↔ Unmixed query.tags (relevant scores stations) :=
  fallback_staged

def ironForge : RankedStation ℚ := ⟨⟨"station-metal-001","Iron Forge Radio","https://streams.example.com/iron-forge.mp3",none,none,
  ["heavy metal","metal"],some "en",some "US",some "MP3",some 192,.unknown⟩,1,"Matched catalog metadata: heavy metal.",some 2⟩

def openRoad : RankedStation ℚ := ⟨⟨"station-rock-001","Heavy Road","https://streams.example.com/heavy-road.mp3",none,none,
  ["rock"],some "en",some "US",some "MP3",some 192,.unknown⟩,1/2,"Matched catalog metadata: heavy.",some 2⟩

def heavyMetal : SearchQuery := ⟨.play,"heavy metal","en",["heavy","metal"],["heavy metal"],none,none,2,"heavy metal",false,[]⟩

-- A request for heavy metal gets a station of it and one of rock, both in one answer.
theorem stages_mixed : ¬ ∀ (query : SearchQuery) (stations : List (RankedStation ℚ)),
    Staged query.tags (relevant exactScores stations) (fromRepository exactScores query stations) := by
  intro all
  have kept : relevant exactScores [ironForge,openRoad] = [ironForge,openRoad] := by decide +kernel
  have unmixed := fallback_staged.mp (all heavyMetal [ironForge,openRoad])
  rw [kept] at unmixed
  have asked : Requests heavyMetal.tags "heavy metal" := ⟨by decide,by decide⟩
  obtain ⟨genre,⟨requested,_⟩,carried⟩ := unmixed ⟨ironForge,by simp,"heavy metal",asked,by decide⟩ openRoad (by simp)
    ⟨"heavy metal","rock",asked,mem_genreAncestors.mp (by decide),by decide⟩
  rw [List.mem_singleton.mp requested] at carried
  revert carried
  decide

end Search
