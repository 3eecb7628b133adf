import RockServer.SearchSql

-- Where the pages of the search statement are slices of one ranking.
namespace SearchSql
open CatalogImport
open Paging (slice)

variable {V S : Type} [LinearOrder S] {database : SearchDatabase V S} {parameters : PostgresSearchParameters V}

-- Every page that the statement can compute is a slice of one list, which each of
-- its rows counts.
def OneRanking (database : SearchDatabase V S) (parameters : PostgresSearchParameters V) : Prop :=
  ∃ all : List (ScoredRow S), ∀ limit offset, (limit + offset) * 20 < 2 ^ 63 →
    ∃ rows, searchSql database (parameters.page limit offset) = some rows ∧ rows.map Prod.fst = slice all offset limit ∧
      ∀ row ∈ rows, row.2 = all.length

def listFor (database : SearchDatabase V S) (parameters : PostgresSearchParameters V) (size : Nat) : List (ScoredRow S) :=
  scoredRows database parameters (candidatesFor size)

theorem listFor_same {size : Nat} : ((listFor database parameters size).length = (listFor database parameters 1).length ↔
      ∀ entry ∈ ((prefilterOrder database parameters).take (candidatesFor size)).drop 200, scoredRow database parameters entry = none) ∧
    ((∀ entry ∈ ((prefilterOrder database parameters).take (candidatesFor size)).drop 200, scoredRow database parameters entry = none) →
      listFor database parameters size = listFor database parameters 1) :=
  scoredRows_same (Nat.le_max_right _ _)

theorem oneRanking_lists : OneRanking database parameters ↔
    ∀ size, 0 < size → size ≤ (2 ^ 63 - 1) / 20 → listFor database parameters size = listFor database parameters 1 := by
  have one := @Paging.one_list _ (listFor database parameters) ((2 ^ 63 - 1) / 20) (by decide) fun size _ same =>
    listFor_same.2 (listFor_same.1.mp same)
  refine Iff.trans ?_ one
  refine exists_congr fun all => forall_congr' fun limit => forall_congr' fun offset => ?_
  have range : (limit + offset) * 20 < 2 ^ 63 ↔ limit + offset ≤ (2 ^ 63 - 1) / 20 := by omega
  rw [← range]
  refine forall_congr' fun inside => ?_
  rw [searchSql_page inside]
  change (∃ rows, some ((slice (listFor database parameters (limit + offset)) offset limit).map _) = some rows ∧ _) ↔ _
  simp only [Option.some.injEq,exists_eq_left',List.map_map,List.forall_mem_map]
  rw [show (Prod.fst ∘ fun row : ScoredRow S => (row,(scoredRows database parameters (candidatesFor (limit + offset))).length)) = id from rfl,
    List.map_id]
  refine and_congr_right fun same => ?_
  rw [← same]
  constructor
  · intro all_counted some_row
    obtain ⟨row,member⟩ := List.exists_mem_of_ne_nil _ some_row
    exact all_counted row member
  · intro counted row member
    exact counted (List.ne_nil_of_mem member)

theorem lists_iff : (∀ size, 0 < size → size ≤ (2 ^ 63 - 1) / 20 → listFor database parameters size = listFor database parameters 1) ↔
    ∀ entry ∈ ((prefilterOrder database parameters).take mostCandidates).drop 200, scoredRow database parameters entry = none := by
  constructor
  · intro same entry member
    refine listFor_same.1.mp (congrArg List.length (same ((2 ^ 63 - 1) / 20) (by decide) le_rfl)) entry ?_
    rwa [candidatesFor_most]
  · intro nothing size _ inside
    refine listFor_same.2 fun entry member => nothing entry ?_
    rw [List.drop_take] at member ⊢
    have most : candidatesFor size ≤ mostCandidates := candidatesFor_le (by omega)
    exact (List.take_prefix_take_left (by omega)).subset member

-- The pages come from one ranking just where no candidate beyond the first 200 has a
-- row of the answer.
theorem one_ranking (database : SearchDatabase V S) (parameters : PostgresSearchParameters V) : OneRanking database parameters ↔
    ∀ entry ∈ ((prefilterOrder database parameters).take mostCandidates).drop 200, scoredRow database parameters entry = none :=
  oneRanking_lists.trans lists_iff

-- A catalog of more jazz stations than a small page considers.
def crowdId (n : Nat) : String := String.ofList (List.replicate n 's')

def crowdStation : StationRow := ⟨"jazz",none,["jazz"],none,none,"crowd","jazz","jazz jazz jazz",7,none⟩

def crowdStream (n : Nat) : StreamRow :=
  ⟨crowdId n,"https://streams.example.com/jazz.mp3",some "MP3",some 192,.unknown,none,none,true,7,none⟩

def crowdDb (n : Nat) : EmbeddingBackfill.EmbeddingDb Nat :=
  {CatalogDb.empty with
    stations := Std.ExtTreeMap.ofList ((List.range n).map fun i => (crowdId i,crowdStation))
    streams := Std.ExtTreeMap.ofList ((List.range n).map fun i => ((⟨"crowd",crowdId i⟩ : SourceKey),crowdStream i))}

def crowd : SearchDatabase Nat ℚ where
  db := crowdDb 201
  float := ⟨id,(· + ·),(· - ·),(· * ·),(· / ·)⟩
  functions := ⟨id,fun _ _ => false,fun text => [text],id,fun _ _ => false,fun _ _ => 0,fun _ _ => false,fun _ _ => 0,fun _ _ => 0⟩
  collation := ⟨inferInstance⟩
  streamId _ := 0

-- A request for a tag alone, whose texts the database has nothing to match with.
def jazzTag : PostgresSearchParameters Nat := ⟨[],["jazz"],none,none,[],1,0,none,7 / 10,3 / 10,0,"",false,[]⟩

theorem crowdId_inj {i j : Nat} (same : crowdId i = crowdId j) : i = j := by
  have letters := congrArg (fun text => text.toList.length) same
  simpa [crowdId] using letters

omit [LinearOrder S] in
theorem primaryStream_some {id : String} {key : SourceKey} {stream : StreamRow} (stored : database.db.streams[key]? = some stream)
    (home : stream.stationId = id) (active : stream.retiredAt = none) :
    ∃ (key : SourceKey) (stream : StreamRow), database.db.streams[key]? = some stream ∧ primaryStream database id = some stream := by
  have listed : (key,stream) ∈ database.db.streams.toList.filter fun entry => entry.2.stationId = id && entry.2.retiredAt.isNone := by
    simp [Table.mem_entries,stored,home,active]
  obtain ⟨first,member,chosen⟩ := @ScoreOrder.ordered_head _ _ _ _ _ (fun entry : SourceKey × StreamRow => entry.2.isPrimary)
    (fun entry => database.streamId entry.1) _ _ listed
  exact ⟨first.1,first.2,Table.mem_entries.mp (List.mem_filter.mp member).1,congrArg (Option.map Prod.snd) chosen⟩

theorem crowd_station {entry : String × StationRow} (stored : crowd.db.stations[entry.1]? = some entry.2) :
    ∃ i < 201, entry = (crowdId i,crowdStation) := by
  obtain ⟨i,inside,named⟩ := Table.numbered_some stored
  have same := (@Table.get_numbered _ _ _ _ (fun _ => crowdStation) _ _ crowdId_inj inside).symm.trans (named ▸ stored)
  exact ⟨i,inside,Prod.ext named.symm (Option.some.inj same).symm⟩

theorem crowd_streams {key : SourceKey} {stream : StreamRow} (stored : crowd.db.streams[key]? = some stream) :
    ∃ i < 201, stream = crowdStream i := by
  obtain ⟨i,inside,rfl⟩ := Table.numbered_some stored
  have distinct : ∀ {i j}, (⟨"crowd",crowdId i⟩ : SourceKey) = ⟨"crowd",crowdId j⟩ → i = j := fun same =>
    crowdId_inj (SourceKey.mk.inj same).2
  exact ⟨i,inside,Option.some.inj (stored.symm.trans (Table.get_numbered distinct inside))⟩

theorem crowd_scored {entry : String × StationRow} (listed : entry ∈ candidates crowd jazzTag) : scoredRow crowd jazzTag entry ≠ none := by
  obtain ⟨i,inside,rfl⟩ := crowd_station (Table.mem_entries.mp (List.mem_filter.mp listed).1)
  have distinct : ∀ {i j}, (⟨"crowd",crowdId i⟩ : SourceKey) = ⟨"crowd",crowdId j⟩ → i = j := fun same =>
    crowdId_inj (SourceKey.mk.inj same).2
  have stored : crowd.db.streams[(⟨"crowd",crowdId i⟩ : SourceKey)]? = some (crowdStream i) := Table.get_numbered distinct inside
  obtain ⟨key,stream,stored,played⟩ := primaryStream_some stored (Eq.refl (crowdId i)) rfl
  obtain ⟨j,_,rfl⟩ := crowd_streams stored
  have positive : (0 : ℚ) < metadataScore crowd jazzTag crowdStation := by decide +kernel
  exact scoredRow_some played nofun positive

theorem crowd_candidates : 201 ≤ (candidates crowd jazzTag).length := by
  have distinct : ((List.range 201).map crowdId).Nodup := List.nodup_range.map fun _ _ same => crowdId_inj same
  have listed := Table.count_ge (t:=crowd.db.stations) (p:=candidate crowd jazzTag) distinct (by
    intro id member
    obtain ⟨i,inside,rfl⟩ := List.mem_map.mp member
    exact ⟨crowdStation,Table.get_numbered crowdId_inj (List.mem_range.mp inside),by rfl⟩)
  rw [List.length_map,List.length_range] at listed
  rwa [candidates,← List.countP_eq_length_filter]

-- With 201 stations of a tag, the first page of one counts 200 of them.
theorem crowd_apart : ¬ OneRanking crowd jazzTag := by
  intro one
  have nothing := lists_iff.mp (oneRanking_lists.mp one)
  have ordered := prefilterOrder_perm crowd jazzTag
  have longer : 0 < (((prefilterOrder crowd jazzTag).take mostCandidates).drop 200).length := by
    have enough := crowd_candidates
    rw [List.length_drop,List.length_take,ordered.length_eq,mostCandidates]
    omega
  obtain ⟨entry,member⟩ := List.exists_mem_of_length_pos longer
  refine crowd_scored ?_ (nothing entry member)
  exact ordered.mem_iff.mp (List.mem_of_mem_take (List.mem_of_mem_drop member))

end SearchSql
