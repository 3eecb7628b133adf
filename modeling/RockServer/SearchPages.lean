import RockServer.StationRanking

-- Where the pages of a search are the search.
namespace Search
open Paging

variable {unicode : Unicode} {S : Type} {scores : Scores S} {stations : List Station} {query : SearchQuery} {excluded : List String}

-- A station of the catalog that a query finds, with its rank.
def Candidate (unicode : Unicode) (scores : Scores S) (stations : List Station) (query : SearchQuery) (excluded : List String)
    (station : Station) (found : RankedStation S) : Prop :=
  (station ∈ stations ∧ station.id ∉ excluded ∧ languageMatches station query = true ∧ countryMatches station query = true) ∧
    rankStation unicode scores station query = some found

theorem mem_matching {found : RankedStation S} : found ∈ matching unicode scores stations query excluded ↔
    ∃ station, Candidate unicode scores stations query excluded station found := by
  simp only [matching,Candidate,List.mem_filterMap,List.mem_filter,List.contains_eq_mem,Bool.not_eq_true',decide_eq_false_iff_not,
    and_assoc]

theorem rankStation_station {station : Station} {found : RankedStation S}
    (matched : rankStation unicode scores station query = some found) : found.station = station := by
  unfold rankStation at matched
  dsimp only at matched
  split at matched
  · cases matched
  · cases matched
    rfl

theorem matching_ids : ((matching unicode scores stations query excluded).map fun found => found.station.id).Sublist
    (stations.map Station.id) := by
  have kept : ∀ stations : List Station, ((stations.filterMap (rankStation unicode scores · query)).map fun found =>
      found.station.id).Sublist (stations.map Station.id) := by
    intro stations
    induction stations with
    | nil => exact List.Sublist.refl _
    | cons station rest ih =>
      rw [List.filterMap_cons]
      cases matched : rankStation unicode scores station query with
      | none => exact ih.cons _
      | some found =>
        rw [List.map_cons,List.map_cons,rankStation_station matched]
        exact ih.cons_cons _
  refine (kept _).trans (List.Sublist.map _ ?_)
  exact (List.filter_sublist.trans List.filter_sublist).trans List.filter_sublist

theorem matching_length : (matching unicode scores stations query excluded).length ≤ stations.length := by
  simpa using (@matching_ids unicode S scores stations query excluded).length_le

-- The fallback may choose among the stations, but never answers nothing for some.
section fallback
variable {tags : List String} {found : List (RankedStation S)}

theorem genreFallback_sublist : (genreFallback tags found).Sublist found := by
  unfold genreFallback
  dsimp only
  split
  · exact List.filter_sublist
  · split
    · exact List.filter_sublist
    · exact List.Sublist.refl _

theorem genreFallback_nonempty (some_found : found ≠ []) : genreFallback tags found ≠ [] := by
  unfold genreFallback
  dsimp only
  split
  · rename_i genre
    exact genre
  · split
    · rename_i parents
      exact parents.2
    · exact some_found

-- Stations of one kind: all of the genre, or none, and then all of a broader one or none.
def OneGenre (tags : List String) (shown : List String → Prop) : Prop :=
  (∀ stationTags, shown stationTags → stationMatchesRequestedGenre tags stationTags = true) ∨
    (∀ stationTags, shown stationTags → stationMatchesRequestedGenre tags stationTags = false) ∧
      ((∀ stationTags, shown stationTags → stationMatchesRequestedGenre (broadenTags tags) stationTags = true) ∨
        ∀ stationTags, shown stationTags → stationMatchesRequestedGenre (broadenTags tags) stationTags = false)

def tagsOf (found : List (RankedStation S)) (stationTags : List String) : Prop := ∃ one ∈ found, one.station.tags = stationTags

theorem matches_nothing (stationTags : List String) : stationMatchesRequestedGenre [] stationTags = true := rfl

theorem all_tagsOf {p : List String → Prop} : (∀ stationTags, tagsOf found stationTags → p stationTags) ↔ ∀ one ∈ found, p one.station.tags := by
  constructor
  · intro all one listed
    exact all _ ⟨one,listed,rfl⟩
  · rintro all _ ⟨one,listed,rfl⟩
    exact all one listed

theorem OneGenre.narrow {shown shown' : List String → Prop} (one : OneGenre tags shown) (fewer : ∀ stationTags, shown' stationTags → shown stationTags) :
    OneGenre tags shown' := by
  rcases one with all | ⟨none_of,parents⟩
  · exact .inl fun stationTags listed => all _ (fewer _ listed)
  · refine .inr ⟨fun stationTags listed => none_of _ (fewer _ listed),?_⟩
    rcases parents with all | none_of
    · exact .inl fun stationTags listed => all _ (fewer _ listed)
    · exact .inr fun stationTags listed => none_of _ (fewer _ listed)

theorem genreFallback_same : genreFallback tags found = found ↔ OneGenre tags (tagsOf found) := by
  simp only [OneGenre,all_tagsOf]
  constructor
  · intro same
    unfold genreFallback at same
    dsimp only at same
    split at same
    · exact .inl (List.filter_eq_self.mp same)
    · rename_i no_genre
      have none_of := List.filter_eq_nil_iff.mp (Decidable.not_not.mp no_genre)
      refine .inr ⟨fun one listed => Bool.eq_false_iff.mpr (none_of one listed),?_⟩
      split at same
      · exact .inl (List.filter_eq_self.mp same)
      · rename_i no_parent
        by_cases root : broadenTags tags = []
        · rw [root]
          exact .inl fun one _ => matches_nothing _
        · have empty := Decidable.not_not.mp fun some_parent => no_parent ⟨root,some_parent⟩
          exact .inr fun one listed => Bool.eq_false_iff.mpr (List.filter_eq_nil_iff.mp empty one listed)
  · intro one
    unfold genreFallback
    dsimp only
    rcases one with all | ⟨none_of,parents⟩
    · rw [List.filter_eq_self.mpr all]
      split
      · rfl
      · rename_i empty
        rw [Decidable.not_not.mp empty,List.filter_nil,ite_self]
    · rw [if_neg (not_not.mpr (List.filter_eq_nil_iff.mpr fun one listed => Bool.eq_false_iff.mp (none_of one listed)))]
      rcases parents with all | none_of
      · rw [List.filter_eq_self.mpr all,ite_self]
      · rw [if_neg fun both => both.2 (List.filter_eq_nil_iff.mpr fun one listed => Bool.eq_false_iff.mp (none_of one listed))]

end fallback

variable [LinearOrder S]

-- The stations of an answer before paging, each with their number.
def counted (unicode : Unicode) (scores : Scores S) (stations : List Station) (query : SearchQuery) (excluded : List String) :
    List (RankedStation S) :=
  (ranked unicode scores stations query excluded).map fun found =>
    {found with totalMatches := some (ranked unicode scores stations query excluded).length}

section counted

theorem counted_length : (counted unicode scores stations query excluded).length = (matching unicode scores stations query excluded).length := by
  rw [counted,List.length_map,ranked,ScoreOrder.length_ordered]

theorem mem_counted {found : RankedStation S} (member : found ∈ counted unicode scores stations query excluded) :
    found.totalMatches = some (counted unicode scores stations query excluded).length ∧
      ∃ one ∈ matching unicode scores stations query excluded, one.station = found.station ∧ one.score = found.score := by
  obtain ⟨one,listed,rfl⟩ := List.mem_map.mp member
  refine ⟨?_,one,ScoreOrder.mem_ordered.mp listed,rfl,rfl⟩
  rw [counted,List.length_map]

theorem counted_mem {one : RankedStation S} (member : one ∈ matching unicode scores stations query excluded) :
    ∃ found ∈ counted unicode scores stations query excluded, found.station = one.station ∧ found.score = one.score :=
  ⟨_,List.mem_map.mpr ⟨one,ScoreOrder.mem_ordered.mpr member,rfl⟩,rfl,rfl⟩

theorem counted_descends : (counted unicode scores stations query excluded).Pairwise fun left right => right.score ≤ left.score :=
  List.pairwise_map.mpr ScoreOrder.ordered_descends

theorem rankStations_eq (constraints : SearchConstraints) : rankStations unicode scores stations query constraints =
    slice (counted unicode scores stations query constraints.excludedStationIds) constraints.offset constraints.limit := by
  simp only [rankStations,counted,slice,List.map_drop,List.map_take]

end counted

-- What a search answers from a slice of the ranked stations.
def relevant (scores : Scores S) (found : List (RankedStation S)) : List (RankedStation S) :=
  found.filter fun one => scores.minRelevance ≤ one.score

theorem searchWithEmbedding_eq (constraints : SearchConstraints) :
    searchWithEmbedding unicode scores ⟨stations⟩ query constraints = genreFallback query.tags (relevant scores
      (slice (counted unicode scores stations query constraints.excludedStationIds) constraints.offset constraints.limit)) := by
  rw [searchWithEmbedding,rankStations_eq,relevant]

-- The search as one list, with a limit as large as the catalog.
def wholeSearch (unicode : Unicode) (scores : Scores S) (stations : List Station) (query : SearchQuery) (excluded : List String) :
    List (RankedStation S) :=
  searchWithEmbedding unicode scores ⟨stations⟩ query ⟨stations.length,0,excluded⟩

theorem wholeSearch_eq : wholeSearch unicode scores stations query excluded =
    genreFallback query.tags (relevant scores (counted unicode scores stations query excluded)) := by
  rw [wholeSearch,searchWithEmbedding_eq,slice_zero (counted_length.trans_le matching_length)]

theorem wholeSearch_sublist : (wholeSearch unicode scores stations query excluded).Sublist (counted unicode scores stations query excluded) := by
  rw [wholeSearch_eq]
  exact genreFallback_sublist.trans List.filter_sublist

theorem wholeSearch_distinct (distinct : (stations.map Station.id).Nodup) :
    ((wholeSearch unicode scores stations query excluded).map fun found => found.station.id).Nodup := by
  have all : ((counted unicode scores stations query excluded).map fun found => found.station.id).Nodup := by
    rw [counted,List.map_map]
    exact (ScoreOrder.ordered_perm.map fun found : RankedStation S => found.station.id).nodup_iff.mpr (distinct.sublist matching_ids)
  exact all.sublist (wholeSearch_sublist.map _)

section pages
variable {limit offset : Nat}

-- No station is relevant, or all of them are, and they are of one kind.
def Uniform (unicode : Unicode) (scores : Scores S) (stations : List Station) (query : SearchQuery) (excluded : List String) : Prop :=
  (∀ station found, Candidate unicode scores stations query excluded station found → found.score < scores.minRelevance) ∨
    (∀ station found, Candidate unicode scores stations query excluded station found → scores.minRelevance ≤ found.score) ∧
      OneGenre query.tags fun stationTags => ∃ station found, Candidate unicode scores stations query excluded station found ∧
        station.tags = stationTags

theorem candidate_scores {p : S → Prop} : (∀ station found, Candidate unicode scores stations query excluded station found → p found.score) ↔
    ∀ found ∈ counted unicode scores stations query excluded, p found.score := by
  constructor
  · intro all found member
    obtain ⟨_,one,listed,_,score⟩ := mem_counted member
    obtain ⟨station,candidate⟩ := mem_matching.mp listed
    exact score ▸ all station one candidate
  · intro all station one candidate
    obtain ⟨found,member,_,score⟩ := counted_mem (mem_matching.mpr ⟨station,candidate⟩)
    exact score ▸ all found member

theorem candidate_tags (stationTags : List String) : (∃ station found, Candidate unicode scores stations query excluded station found ∧
    station.tags = stationTags) ↔ tagsOf (counted unicode scores stations query excluded) stationTags := by
  constructor
  · rintro ⟨station,one,candidate,rfl⟩
    obtain ⟨found,member,same,_⟩ := counted_mem (mem_matching.mpr ⟨station,candidate⟩)
    rw [rankStation_station candidate.2] at same
    exact ⟨found,member,congrArg Station.tags same⟩
  · rintro ⟨found,member,rfl⟩
    obtain ⟨_,one,listed,same,_⟩ := mem_counted member
    obtain ⟨station,candidate⟩ := mem_matching.mp listed
    exact ⟨station,one,candidate,congrArg Station.tags ((rankStation_station candidate.2).symm.trans same)⟩

theorem uniform_iff : Uniform unicode scores stations query excluded ↔ relevant scores (counted unicode scores stations query excluded) = [] ∨
    relevant scores (counted unicode scores stations query excluded) = counted unicode scores stations query excluded ∧
      OneGenre query.tags (tagsOf (counted unicode scores stations query excluded)) := by
  unfold Uniform relevant
  simp only [candidate_tags]
  rw [candidate_scores (p := fun score => score < scores.minRelevance),candidate_scores (p := fun score => scores.minRelevance ≤ score),
    List.filter_eq_nil_iff,List.filter_eq_self]
  simp only [decide_eq_true_eq,not_le]

-- A page of no station counts none, and any other counts all that were ranked.
theorem page_empty (none_relevant : relevant scores (slice (counted unicode scores stations query excluded) offset limit) = []) :
    searchPage unicode scores ⟨stations⟩ query excluded limit offset = ⟨[],0,false⟩ := by
  have fallen : ∀ tags, genreFallback tags ([] : List (RankedStation S)) = [] := fun tags =>
    List.sublist_nil.mp genreFallback_sublist
  simp only [searchPage,searchWithEmbedding_eq,none_relevant,fallen]
  simp

theorem page_total (some_relevant : relevant scores (slice (counted unicode scores stations query excluded) offset limit) ≠ []) :
    (searchPage unicode scores ⟨stations⟩ query excluded limit offset).total = (counted unicode scores stations query excluded).length := by
  have answered := @genreFallback_nonempty S query.tags _ some_relevant
  obtain ⟨first,rest,shape⟩ := List.exists_cons_of_ne_nil answered
  have listed : first ∈ counted unicode scores stations query excluded := by
    have here : first ∈ genreFallback query.tags (relevant scores (slice (counted unicode scores stations query excluded) offset limit)) := by
      rw [shape]
      exact List.mem_cons_self
    exact mem_slice ((List.filter_sublist.mem (genreFallback_sublist.mem here)))
  simp only [searchPage,searchWithEmbedding_eq,shape,List.head?_cons,Option.bind_some,(mem_counted listed).1,Option.getD_some]

-- The first page has a relevant station if there is one, for the best is on it.
theorem first_relevant (positive : 0 < limit) (some_relevant : relevant scores (counted unicode scores stations query excluded) ≠ []) :
    relevant scores (slice (counted unicode scores stations query excluded) 0 limit) ≠ [] := by
  have descends := @counted_descends unicode S scores stations query excluded _
  revert descends some_relevant
  cases counted unicode scores stations query excluded with
  | nil => exact fun nothing _ => absurd List.filter_nil nothing
  | cons best rest =>
    intro some_relevant descends empty
    obtain ⟨turns,rfl⟩ := Nat.exists_eq_add_of_lt positive
    have below := List.filter_eq_nil_iff.mp empty best (by simp [slice])
    refine some_relevant (List.filter_eq_nil_iff.mpr fun found member => ?_)
    rcases List.mem_cons.mp member with rfl | member
    · exact below
    · have order := (List.pairwise_cons.mp descends).1 found member
      simp only [decide_eq_true_eq,not_le] at below ⊢
      exact order.trans_lt below

-- The pages that a search gives out are the whole of it, each with its length, just
-- where the ranked stations are uniform.
theorem pages_exact (unicode : Unicode) (scores : Scores S) (stations : List Station) (query : SearchQuery) (excluded : List String)
    (limit : Nat) (distinct : (stations.map Station.id).Nodup) (positive : 0 < limit) :
    (∃ pages, Walk (searchPage unicode scores ⟨stations⟩ query excluded limit) limit 0 pages ∧
        pages.flatMap Page.rows = wholeSearch unicode scores stations query excluded ∧
        ((pages.flatMap Page.rows).map fun found => found.station.id).Nodup ∧
        ∀ page ∈ pages, page.total = (wholeSearch unicode scores stations query excluded).length) ↔
      Uniform unicode scores stations query excluded := by
  rw [uniform_iff]
  constructor
  · intro ⟨pages,walked,_,_,totals⟩
    refine (Decidable.em _).imp_right fun some_relevant => ?_
    have length := totals _ (first_page walked)
    rw [page_total (first_relevant positive some_relevant)] at length
    have whole := wholeSearch_sublist.eq_of_length length.symm
    rw [wholeSearch_eq] at whole
    have all : relevant scores (counted unicode scores stations query excluded) = counted unicode scores stations query excluded :=
      List.filter_sublist.eq_of_length_le (by
        have shorter := (@genreFallback_sublist S query.tags
          (relevant scores (counted unicode scores stations query excluded))).length_le
        rw [whole] at shorter
        exact shorter)
    rw [all] at whole
    exact ⟨all,genreFallback_same.mp whole⟩
  · intro uniform
    by_cases none_relevant : relevant scores (counted unicode scores stations query excluded) = []
    · have empty : wholeSearch unicode scores stations query excluded = [] := by
        rw [wholeSearch_eq,none_relevant]
        exact List.sublist_nil.mp genreFallback_sublist
      have first : searchPage unicode scores ⟨stations⟩ query excluded limit 0 = ⟨[],0,false⟩ := by
        refine page_empty (List.filter_eq_nil_iff.mpr fun found member => ?_)
        exact List.filter_eq_nil_iff.mp none_relevant found (mem_slice member)
      refine ⟨_,.last (congrArg Page.more first),?_,?_,?_⟩
      · simp [first,empty]
      · simp [first]
      · simp [first,empty]
    · obtain ⟨all,one⟩ := uniform.resolve_left none_relevant
      have whole : wholeSearch unicode scores stations query excluded = counted unicode scores stations query excluded := by
        rw [wholeSearch_eq,all,genreFallback_same.mpr one]
      have cut : ∀ offset < (counted unicode scores stations query excluded).length,
          searchPage unicode scores ⟨stations⟩ query excluded limit offset =
            sliced (counted unicode scores stations query excluded) limit offset := by
        intro offset inside
        have kept : relevant scores (slice (counted unicode scores stations query excluded) offset limit) =
            slice (counted unicode scores stations query excluded) offset limit :=
          List.filter_eq_self.mpr fun found member => List.filter_eq_self.mp all found (mem_slice member)
        have answered : searchWithEmbedding unicode scores ⟨stations⟩ query ⟨limit,offset,excluded⟩ =
            slice (counted unicode scores stations query excluded) offset limit := by
          rw [searchWithEmbedding_eq,kept]
          exact genreFallback_same.mpr (one.narrow fun _ ⟨found,member,same⟩ => ⟨found,mem_slice member,same⟩)
        have total := page_total (kept ▸ slice_nonempty positive inside)
        rw [searchPage,answered] at total ⊢
        rw [sliced,← total]
      have some_ranked : 0 < (counted unicode scores stations query excluded).length :=
        List.length_pos_iff.mpr fun empty => none_relevant (by rw [empty]; rfl)
      obtain ⟨pages,walked,parts,totals⟩ := walk_slices positive cut some_ranked
      rw [List.drop_zero] at parts
      refine ⟨pages,walked,parts.trans whole.symm,?_,fun page member => (totals page member).trans (congrArg List.length whole.symm)⟩
      rw [parts,← whole]
      exact wholeSearch_distinct distinct

def quietJazz : Station := ⟨"station-jazz-001","Quiet Jazz Radio","https://streams.example.com/quiet-jazz.mp3",none,none,
  ["calm","instrumental","jazz"],some "en",some "US",some "MP3",some 192,.unknown⟩

def arcticAmbient : Station := ⟨"station-ambient-001","Arctic Ambient","https://streams.example.com/arctic-ambient.mp3",none,none,
  ["ambient","calm","electronic","instrumental"],some "en",some "IS",some "MP3",some 160,.unknown⟩

def calmJazz : SearchQuery := ⟨.play,"calm jazz","en",["calm","jazz"],["calm","jazz"],none,none,2,"calm jazz",false,[]⟩

def lateJazz : Station := ⟨"station-jazz-002","Late Jazz Radio","https://streams.example.com/late-jazz.mp3",none,none,
  ["calm","jazz","night"],some "en",some "US",some "MP3",some 128,.unknown⟩

-- Two stations of one kind, a page each.
theorem pages_exact_jazz : ∃ first second : Page (RankedStation ℚ),
    Walk (searchPage Letters.englishRussian exactScores ⟨[quietJazz,lateJazz]⟩ calmJazz [] 1) 1 0 [first,second] ∧
    first.rows ++ second.rows = wholeSearch Letters.englishRussian exactScores [quietJazz,lateJazz] calmJazz [] ∧
    (first.rows ++ second.rows).map (fun found => found.station.id) = ["station-jazz-001","station-jazz-002"] ∧
    first.total = 2 ∧ second.total = 2 := by
  have uniform : Uniform Letters.englishRussian exactScores [quietJazz,lateJazz] calmJazz [] := by
    refine uniform_iff.mpr (.inr ⟨by decide +kernel,.inl (all_tagsOf.mpr ?_)⟩)
    decide +kernel
  obtain ⟨pages,walked,parts,_,totals⟩ := (pages_exact Letters.englishRussian exactScores [quietJazz,lateJazz] calmJazz [] 1
    (by decide) Nat.one_pos).mpr uniform
  have whole : (wholeSearch Letters.englishRussian exactScores [quietJazz,lateJazz] calmJazz []).map
      (fun found => found.station.id) = ["station-jazz-001","station-jazz-002"] := by decide +kernel
  have length : (wholeSearch Letters.englishRussian exactScores [quietJazz,lateJazz] calmJazz []).length = 2 := by
    decide +kernel
  have goes_on : (searchPage Letters.englishRussian exactScores ⟨[quietJazz,lateJazz]⟩ calmJazz [] 1 0).more = true := by
    decide +kernel
  have ends : (searchPage Letters.englishRussian exactScores ⟨[quietJazz,lateJazz]⟩ calmJazz [] 1 1).more = false := by
    decide +kernel
  cases walked with
  | last stops => rw [goes_on] at stops; cases stops
  | next _ rest => cases rest with
    | next further _ => rw [ends] at further; cases further
    | last stops =>
      rw [List.flatMap_cons,List.flatMap_singleton] at parts
      refine ⟨_,_,.next goes_on (.last stops),parts,parts ▸ whole,?_,?_⟩
      · exact (totals _ List.mem_cons_self).trans length
      · exact (totals _ (List.mem_cons_of_mem _ List.mem_cons_self)).trans length

-- A station of another genre is counted on the first page and left out of the second.
theorem pages_short : ¬ ∀ (stations : List Station) (query : SearchQuery) (excluded : List String) (limit : Nat),
    (stations.map Station.id).Nodup → 0 < limit →
      ∃ pages, Walk (searchPage Letters.englishRussian exactScores ⟨stations⟩ query excluded limit) limit 0 pages ∧
        pages.flatMap Page.rows = wholeSearch Letters.englishRussian exactScores stations query excluded ∧
        ((pages.flatMap Page.rows).map fun found => found.station.id).Nodup ∧
        ∀ page ∈ pages, page.total = (wholeSearch Letters.englishRussian exactScores stations query excluded).length := by
  intro all
  obtain ⟨pages,walked,_,_,totals⟩ := all [quietJazz,arcticAmbient] calmJazz [] 1 (by decide) Nat.one_pos
  have first : (searchPage Letters.englishRussian exactScores ⟨[quietJazz,arcticAmbient]⟩ calmJazz [] 1 0).total = 2 := by
    decide +kernel
  have whole : (wholeSearch Letters.englishRussian exactScores [quietJazz,arcticAmbient] calmJazz []).length = 1 := by
    decide +kernel
  have same := totals _ (first_page walked)
  rw [first,whole] at same
  cases same

end pages

end Search
