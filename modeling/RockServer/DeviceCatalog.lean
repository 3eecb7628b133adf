import RockServer.RadioBrowser
import RockServer.StationRepositories

-- The catalog as devices browse it, page by page.
namespace DeviceCatalog
open CatalogImport
open Egress (UrlLibrary)
open Search (Unicode Station InMemoryStationRepository PostgresStationRepository CatalogRow catalogRows)

structure DeviceStationDto where
  id : String
  name : String
  homepageUrl : Option String
  tags : List String
  language : Option String
  countryCode : Option String
  codec : Option String
  bitrateKbps : Option Nat
  health : StationHealth
deriving DecidableEq

def DeviceStationDto.ofStation (station : Station) : DeviceStationDto where
  id := station.id
  name := station.name
  homepageUrl := station.homepageUrl
  tags := station.tags
  language := station.language
  countryCode := station.countryCode
  codec := station.codec
  bitrateKbps := station.bitrateKbps
  health := station.health

inductive BrowseResponse where
  | malformedRequest (field : String)
  | page (stations : List DeviceStationDto) (nextCursor : Option String)

def isAsciiAlphanumeric (c : Char) : Bool := isAsciiLower c || isAsciiUpper c || isAsciiDigit c

def validCursor (cursor : String) : Bool :=
  cursor ≠ "" && cursor.utf8ByteSize ≤ 512 && cursor.toList.all fun c => isAsciiAlphanumeric c || c == '-'

variable (listPublic : Option String → Nat → List Station)

-- The request of a device that passed authentication and its limits.
def browse (limit : Option Nat) (cursor : Option String) : BrowseResponse :=
  let limit := limit.getD 20
  if !(1 ≤ limit && limit ≤ 20) || cursor.any fun cursor => !validCursor cursor then .malformedRequest "limit_or_cursor"
  else
    let stations := listPublic cursor limit
    .page (stations.map .ofStation) (if stations.length = limit then stations.getLast?.map (·.id) else none)

-- The loop that passes each returned cursor back, for so many turns.
def browseAll (limit : Nat) : Nat → Option String → Option (List DeviceStationDto)
  | 0,_ => none
  | turns + 1,cursor => match browse listPublic (some limit) cursor with
    | .malformedRequest _ => none
    | .page stations none => some stations
    | .page stations (some next) => (browseAll limit turns (some next)).map (stations ++ ·)

-- All pages of a listing, until one is empty.
def listAll (limit : Nat) : Nat → Option String → Option (List Station)
  | 0,_ => none
  | turns + 1,cursor => match listPublic cursor limit with
    | [] => some []
    | station :: stations =>
      (listAll limit turns (some ((station :: stations).getLast (List.cons_ne_nil _ _)).id)).map (station :: stations ++ ·)

variable {listPublic} {stations : List Station} {limit bound turns : Nat} {cursor : Option String}

theorem browse_accepted (limits : 1 ≤ limit ∧ limit ≤ 20) (valid : ∀ id ∈ cursor, validCursor id = true) :
    browse listPublic (some limit) cursor = .page ((listPublic cursor limit).map .ofStation)
      (if (listPublic cursor limit).length = limit then (listPublic cursor limit).getLast?.map (·.id) else none) := by
  have good : (cursor.any fun cursor => !validCursor cursor) = false := by
    cases cursor with
    | none => rfl
    | some id => simp [valid id rfl]
  simp [browse,limits.1,limits.2,good]

-- Where the ids are cursors, the loop walks the pages.
theorem browseAll_walk {order : LinearOrder String} (limits : 1 ≤ limit ∧ limit ≤ 20) (ids : ∀ station ∈ stations, validCursor station.id = true)
    (lists : ∀ cursor, listPublic cursor limit = @Keyset.page _ _ Station.id order stations cursor limit)
    (valid : ∀ id ∈ cursor, validCursor id = true) :
    browseAll listPublic limit turns cursor =
      (@Keyset.walk _ _ Station.id order stations limit turns cursor).map fun found => found.map .ofStation := by
  induction turns generalizing cursor with
  | zero => rfl
  | succ turns ih =>
    rw [browseAll,Keyset.walk,browse_accepted limits valid,lists cursor]
    unfold Keyset.nextCursor Keyset.lastKey
    by_cases full : (@Keyset.page _ _ Station.id order stations cursor limit).length = limit
    · rw [if_pos full]
      cases last : (@Keyset.page _ _ Station.id order stations cursor limit).getLast? with
      | none => rfl
      | some station =>
        have member : station ∈ stations := Keyset.mem_page (List.mem_of_getLast? last)
        have next := @ih (some station.id) fun id same => Option.mem_some.mp same ▸ ids station member
        simp only [Option.map_some,next,Option.map_map,Function.comp_def,List.map_append]
    · rw [if_neg full]
      rfl

theorem listAll_drain {order : LinearOrder String}
    (lists : ∀ cursor, listPublic cursor limit = @Keyset.page _ _ Station.id order stations cursor bound) :
    listAll listPublic limit turns cursor = @Keyset.drain _ _ Station.id order stations bound turns cursor := by
  induction turns generalizing cursor with
  | zero => rfl
  | succ turns ih =>
    rw [listAll,Keyset.drain,lists cursor]
    cases found : @Keyset.page _ _ Station.id order stations cursor bound with
    | nil => rfl
    | cons station rest =>
      have last : (station :: rest).getLast? = some ((station :: rest).getLast (List.cons_ne_nil _ _)) :=
        List.getLast?_eq_some_getLast _
      simp only [Keyset.lastKey,last,Option.map_some,ih]

theorem validId_cursor {id : String} (valid : validId id 96 = true) : validCursor id = true := by
  simp only [validId,Bool.and_eq_true,List.all_eq_true,decide_eq_true_eq] at valid
  obtain ⟨⟨⟨⟨⟨named,short⟩,_⟩,_⟩,_⟩,plain⟩ := valid
  simp only [validCursor,Bool.and_eq_true,List.all_eq_true,decide_eq_true_eq]
  refine ⟨⟨named,by omega⟩,fun c member => ?_⟩
  have letter := plain c member
  simp only [isAsciiAlphanumeric,Bool.or_eq_true] at letter ⊢
  rcases letter with (lower | digit) | hyphen
  · exact .inl (.inl (.inl lower))
  · exact .inl (.inr digit)
  · exact .inr hyphen

theorem hyphenated_cursor (uuid : DeviceControl.Uuid) : validCursor ("rb-" ++ RadioBrowser.hyphenated uuid) = true := by
  simp only [validCursor,Bool.and_eq_true,List.all_eq_true,decide_eq_true_eq]
  refine ⟨⟨?_,?_⟩,fun c member => ?_⟩
  · intro empty
    have length := congrArg String.length empty
    rw [String.length_append,RadioBrowser.hyphenated_length] at length
    exact absurd length (by decide)
  · have bytes := (Search.bytes_bounds ("rb-" ++ RadioBrowser.hyphenated uuid)).2
    rw [String.length_append,RadioBrowser.hyphenated_length] at bytes
    exact bytes.trans (by decide)
  · rw [String.toList_append,List.mem_append] at member
    rcases member with member | member
    · have first : ("rb-".toList.all fun c => isAsciiAlphanumeric c || c == '-') = true := by decide
      exact List.all_eq_true.mp first c member
    · rcases RadioBrowser.hyphenated_chars uuid member with hex | rfl
      · simp only [RadioBrowser.isHex,Bool.or_eq_true,Bool.and_eq_true,decide_eq_true_eq] at hex
        simp only [isAsciiAlphanumeric,isAsciiLower,isAsciiDigit,Bool.or_eq_true,Bool.and_eq_true,decide_eq_true_eq]
        rcases hex with digit | letter
        · exact .inl (.inr digit)
        · exact .inl (.inl (.inl ⟨letter.1,letter.2.trans (by decide)⟩))
      · rfl

-- Batches of what the Radio Browser provider makes of its answers.
def RadioBatch (libraries : RadioBrowser.Libraries) (unicode : Unicode) (source : String) (stations : List ImportedStation) : Prop :=
  source = RadioBrowser.source ∧ ∀ station ∈ stations, ∃ dto, RadioBrowser.toImported libraries unicode dto = .ok station

variable {E : Type} {library : UrlLibrary} {unicode : Unicode} {libraries : RadioBrowser.Libraries}
variable {Batch : String → List ImportedStation → Prop} {repository : PostgresStationRepository E}

theorem postgres_lists (repository : PostgresStationRepository E) (cursor : Option String) (limit : Nat) :
    repository.listPublic cursor limit = @Keyset.page _ _ Station.id repository.collation
      ((catalogRows repository.db).map CatalogRow.toStation) cursor (if limit < 2 ^ 63 then limit else 50) := by
  let _ := repository.collation
  exact Keyset.page_map fun _ => rfl

-- Administrators list what the public does.
theorem listAdmin_listPublic (sound : Sound repository.db) : repository.listAdmin none = repository.listPublic := by
  have all : ((catalogRows repository.db).filter fun row => row.station.retiredAt.isNone && (none : Option String).all fun query =>
      repository.matchesText query row.station.name || row.station.tags.any (repository.matchesText query)) =
      catalogRows repository.db := by
    rw [List.filter_eq_self]
    intro row member
    simp [(Search.catalogRows_active sound member).1]
  funext cursor limit
  unfold PostgresStationRepository.listAdmin PostgresStationRepository.listPublic
  rw [all]

theorem getPublic_listed (sound : Sound repository.db) (id : String) (station : Station) :
    repository.getPublic id = some station ↔ station ∈ (catalogRows repository.db).map CatalogRow.toStation ∧ station.id = id := by
  unfold PostgresStationRepository.getPublic
  rw [Option.map_eq_some_iff]
  constructor
  · rintro ⟨row,found,rfl⟩
    refine ⟨List.mem_map_of_mem (List.mem_of_find?_eq_some found),?_⟩
    have chosen := List.find?_some found
    simp only [Bool.and_eq_true,decide_eq_true_eq] at chosen
    exact chosen.1.1
  · rintro ⟨member,rfl⟩
    obtain ⟨row,listed,rfl⟩ := List.mem_map.mp member
    refine ⟨row,?_,rfl⟩
    cases found : (catalogRows repository.db).find? fun other =>
        other.id = row.toStation.id && other.stream.retiredAt.isNone && other.station.retiredAt.isNone with
    | none =>
      have missed := List.find?_eq_none.mp found row listed
      have active := Search.catalogRows_active sound listed
      simp [active.1,active.2,CatalogRow.toStation] at missed
    | some other =>
      have chosen := List.find?_some found
      simp only [Bool.and_eq_true,decide_eq_true_eq] at chosen
      exact congrArg some (List.inj_on_of_nodup_map (Search.catalogRows_distinct sound) (List.mem_of_find?_eq_some found) listed
        chosen.1.1)

-- Where a listing serves pages of the same stations, every loop over them ends
-- with all of them, in the order of their ids.
theorem loops_end (bounded : Nat → Nat) {order : LinearOrder String} {stations all : List Station} {listing : Option String → Nat → List Station}
    (distinct : (stations.map Station.id).Nodup) (ids : ∀ station ∈ stations, validCursor station.id = true)
    (ordered : all = @Keyset.sorted _ _ Station.id order stations)
    (lists : ∀ cursor limit, listing cursor limit = @Keyset.page _ _ Station.id order stations cursor (bounded limit))
    (same : ∀ limit, limit ≤ 20 → bounded limit = limit) (positive : ∀ limit, 0 < limit → 0 < bounded limit) :
    all.Pairwise (fun a b => order.lt a.id b.id) ∧
    (∀ size turns, 0 < size → all.length < turns → listAll listing size turns none = some all) ∧
    ∀ limit turns, 1 ≤ limit → limit ≤ 20 → all.length < turns →
      browseAll listing limit turns none = some (all.map .ofStation) := by
  let _ := order
  have start : all = (Keyset.sorted Station.id stations).filter (Keyset.beyond Station.id none) := by
    rw [ordered,List.filter_eq_self.mpr]
    exact fun _ _ => rfl
  refine ⟨?_,?_,?_⟩
  · rw [ordered]
    exact Keyset.sorted_ascends distinct
  · intro size turns some_size enough
    rw [listAll_drain fun cursor => lists cursor size]
    exact Keyset.drain_all distinct (positive size some_size) turns none all start enough
  · intro limit turns least most enough
    have pages : ∀ cursor, listing cursor limit = Keyset.page Station.id stations cursor limit := by
      intro cursor
      rw [lists,same limit most]
    rw [browseAll_walk ⟨least,most⟩ ids pages (by simp),Keyset.walk_all distinct least turns none all start enough]
    rfl

theorem pinned_ids {catalog : PinnedSharedCatalog} (valid : catalog.Valid) :
    (InMemoryStationRepository.fromPinnedCatalog catalog).stations.map Station.id = catalog.stations.map (·.id) := by
  rw [InMemoryStationRepository.fromPinnedCatalog,List.map_filterMap]
  have shown : ∀ station ∈ catalog.stations, ((station.streams.find? (·.isPrimary)).map fun _ => station.id) = some station.id := by
    intro station member
    have some_primary : 0 < station.streams.countP (·.isPrimary) := by
      rw [valid.primary station member]
      exact Nat.one_pos
    obtain ⟨stream,inside,primary⟩ := List.countP_pos_iff.mp some_primary
    obtain ⟨found,held⟩ := Option.isSome_iff_exists.mp (List.find?_isSome.mpr ⟨stream,inside,primary⟩)
    rw [held]
    rfl
  rw [← List.filterMap_eq_map]
  refine List.filterMap_congr fun station member => ?_
  rw [Option.map_map]
  exact shown station member

theorem getPublic_pinned {memory : InMemoryStationRepository} (distinct : (memory.stations.map Station.id).Nodup)
    (id : String) (station : Station) :
    memory.getPublic id = some station ↔ station ∈ memory.stations ∧ station.id = id := by
  unfold InMemoryStationRepository.getPublic
  constructor
  · intro found
    exact ⟨List.mem_of_find?_eq_some found,by simpa using List.find?_some found⟩
  · rintro ⟨member,rfl⟩
    cases found : memory.stations.find? (·.id = station.id) with
    | none =>
      have missed := List.find?_eq_none.mp found station member
      simp at missed
    | some other =>
      have same : other.id = station.id := by simpa using List.find?_some found
      exact congrArg some (List.inj_on_of_nodup_map distinct (List.mem_of_find?_eq_some found) member same)

theorem radio_ids (source : String) (stations : List ImportedStation) (batch : RadioBatch libraries unicode source stations)
    (station : ImportedStation) (member : station ∈ stations) : validCursor station.id = true := by
  obtain ⟨dto,accepted⟩ := batch.2 station member
  obtain ⟨uuid,named⟩ := RadioBrowser.toImported_id accepted
  rw [named]
  exact hyphenated_cursor uuid

section voices
variable {source : String} {run : DeviceControl.Uuid} {db db' : CatalogDb E} {station : ImportedStation} {catalog : PinnedSharedCatalog}

-- Every active station has a primary stream. A stream of another source is that of
-- one station for ever, by its id.
structure Voiced (db : CatalogDb E) : Prop where
  own : ∀ (key : SourceKey) row, db.streams[key]? = some row → key.source ≠ rockcatalogSource → row.stationId = "rb-" ++ key.id
  primary : ∀ (id : String) row, db.stations[id]? = some row → row.retiredAt = none →
    ∃ (key : SourceKey) (stream : StreamRow), db.streams[key]? = some stream ∧ stream.isPrimary = true ∧ stream.stationId = id

theorem kept_voiced (kept : Kept db db') (voiced : Voiced db) : Voiced db' := by
  obtain ⟨own,primary⟩ := voiced
  rw [← kept.streams] at own primary
  rw [← kept.stations] at primary
  exact ⟨own,primary⟩

theorem activated_voiced (done : Activated unicode run catalog db db') (sound : Sound db) (voiced : Voiced db) : Voiced db' := by
  constructor
  · intro key row found foreign
    exact voiced.own key row ((done.others.streams key foreign).symm.trans found) foreign
  · intro id row found active
    by_cases rock : row.source = rockcatalogSource
    · obtain ⟨station,member,rfl,_⟩ := (done.active id row).mp ⟨found,rock,active⟩
      obtain ⟨key,stream,stored,home,primary,_⟩ := done.primary station member
      exact ⟨key,stream,stored,primary,home⟩
    · have before := (done.others.stations id row rock).mp found
      obtain ⟨key,stream,stored,primary,rfl⟩ := voiced.primary id row before active
      obtain ⟨origin,held,owned⟩ := sound.home key stream stored
      cases held.symm.trans before
      exact ⟨key,stream,(done.others.streams key (owned ▸ rock)).trans stored,primary,rfl⟩

theorem upserted_voiced {stream : ImportedStream} (done : Upserted unicode source run station db db') (foreign : source ≠ rockcatalogSource)
    (sole : station.streams = [stream]) (named : station.id = "rb-" ++ stream.sourceStreamId) (primary : stream.isPrimary = true)
    (voiced : Voiced db) : Voiced db' := by
  constructor
  · intro key row found other
    rcases done.put key with ⟨listed,member,rfl,row',found',shows,_⟩ | ⟨_,same⟩
    · cases found.symm.trans found'
      rw [sole,List.mem_singleton] at member
      rw [shows.station,named,member]
    · rw [found,eq_comm,Option.map_eq_some_iff] at same
      obtain ⟨stored,there,rfl⟩ := same
      rw [unmarked_stationId]
      exact voiced.own key stored there other
  · intro id row found active
    rw [done.station_get] at found
    split at found
    · rename_i same
      rcases done.put ⟨source,stream.sourceStreamId⟩ with ⟨listed,member,_,row',found',shows,_⟩ | ⟨none,_⟩
      · rw [sole,List.mem_singleton] at member
        exact ⟨_,row',found',by rw [shows.primary,member,primary],shows.station.trans same⟩
      · exact absurd rfl (none stream (by simp [sole]))
    · rename_i other
      obtain ⟨key,old,stored,first,rfl⟩ := voiced.primary id row found active
      rcases done.put key with ⟨listed,member,rfl,_⟩ | ⟨_,same⟩
      · rw [sole,List.mem_singleton] at member
        refine absurd ?_ other
        rw [named,voiced.own _ old stored foreign,member]
      · have unchanged : unmarked source station key old = old := by
          unfold unmarked
          rw [if_neg]
          simp [Ne.symm other]
        rw [stored,Option.map_some,unchanged] at same
        exact ⟨key,old,same,first,rfl⟩

theorem reachable_voiced (reachable : Reachable library unicode (RadioBatch libraries unicode) db) : Voiced db := by
  induction reachable with
  | empty => exact ⟨by simp [CatalogDb.empty],by simp [CatalogDb.empty]⟩
  | activate refuses run now before loaded ih =>
    have sound := reachable_sound before
    rcases activate_cases refuses run now sound (fromDocument_valid loaded) with ⟨started,after,kept,_,result,done,_⟩ | ⟨_,after,result,kept⟩
    · rw [result]
      exact activated_voiced done (kept.sound sound) (kept_voiced kept ih)
    · rw [result]
      exact kept_voiced kept ih
  | upsert refuses source run stations before other batch ih =>
    rcases upsertBatch_parted refuses unicode source run stations _ with same | ⟨after,put,same⟩
    · rw [same]
      exact ih
    · rw [same]
      refine (fold_ok (fun _ after => Sound after ∧ Voiced after) ⟨reachable_sound before,ih⟩ ?_ put).2
      intro done station rest middle after whole held stepped
      have put := upsertStation_ok held.1 stepped
      obtain ⟨dto,accepted⟩ := batch.2 station (by simp [whole])
      obtain ⟨stream,sole,primary,named⟩ := RadioBrowser.toImported_stream accepted
      exact ⟨put.sound held.1 fun rock => absurd rock other,upserted_voiced put other sole named primary held.2⟩
  | start refuses source run before ran ih => exact kept_voiced (startRun_kept ran) ih
  | finish refuses run status counts errorSummary before ran ih => exact kept_voiced (finishRun_kept ran) ih

-- So the join lists the active stations, each by its primary stream.
theorem catalogRows_ids (sound : Sound db) (voiced : Voiced db) (id : String) :
    id ∈ (catalogRows db).map CatalogRow.id ↔ ∃ row, db.stations[id]? = some row ∧ row.retiredAt = none := by
  rw [List.mem_map]
  constructor
  · rintro ⟨row,member,rfl⟩
    have active := (Search.catalogRows_active sound member).1
    obtain ⟨_,_,_,_,station,found,rfl⟩ := Search.mem_catalogRows.mp member
    exact ⟨station,found,active⟩
  · rintro ⟨station,found,active⟩
    obtain ⟨key,stream,stored,primary,rfl⟩ := voiced.primary id station found active
    exact ⟨_,Search.mem_catalogRows.mpr ⟨key,stream,stored,primary,station,found,rfl⟩,rfl⟩

end voices

-- In every state that activations and Radio Browser imports reach, the views of the
-- catalog agree and devices browse all of it, and so from memory.
theorem catalog_views :
    (∀ repository : PostgresStationRepository E, Reachable library unicode (RadioBatch libraries unicode) repository.db →
      ∃ all : List Station, all.Pairwise (fun a b => repository.collation.lt a.id b.id) ∧
        (∀ id, id ∈ all.map Station.id ↔ ∃ row, repository.db.stations[id]? = some row ∧ row.retiredAt = none) ∧
        (∀ id station, repository.getPublic id = some station ↔ station ∈ all ∧ station.id = id) ∧
        (∀ size turns, 0 < size → all.length < turns → listAll repository.listPublic size turns none = some all ∧
          listAll (repository.listAdmin none) size turns none = some all) ∧
        ∀ limit turns, 1 ≤ limit → limit ≤ 20 → all.length < turns →
          browseAll repository.listPublic limit turns none = some (all.map .ofStation)) ∧
    ∀ (document : CatalogDocument) (version : String) (catalog : PinnedSharedCatalog),
      PinnedSharedCatalog.fromDocument library unicode document version = .ok catalog →
      let memory := InMemoryStationRepository.fromPinnedCatalog catalog
      ∃ all : List Station, all.Pairwise (fun a b => a.id < b.id) ∧
        (∀ id, id ∈ all.map Station.id ↔ id ∈ catalog.stations.map (·.id)) ∧
        (∀ id station, memory.getPublic id = some station ↔ station ∈ all ∧ station.id = id) ∧
        ∀ limit turns, 1 ≤ limit → limit ≤ 20 → all.length < turns →
          browseAll memory.listPublic limit turns none = some (all.map .ofStation) := by
  constructor
  · intro repository reachable
    have sound := reachable_sound reachable
    have distinct : (((catalogRows repository.db).map CatalogRow.toStation).map Station.id).Nodup := by
      rw [List.map_map]
      exact Search.catalogRows_distinct sound
    have ids : ∀ station ∈ (catalogRows repository.db).map CatalogRow.toStation, validCursor station.id = true := by
      intro station member
      obtain ⟨row,listed,rfl⟩ := List.mem_map.mp member
      obtain ⟨_,_,_,_,_,found,rfl⟩ := Search.mem_catalogRows.mp listed
      exact reachable_ids (fun _ => validId_cursor) radio_ids reachable _ _ found
    obtain ⟨ascending,lists,browses⟩ := loops_end _ distinct ids rfl (postgres_lists repository)
      (fun limit most => if_pos (by omega)) (fun limit positive => by split <;> omega)
    refine ⟨_,ascending,fun id => ?_,fun id station => ?_,fun size turns positive enough => ?_,browses⟩
    · rw [← catalogRows_ids sound (reachable_voiced reachable)]
      simp only [List.mem_map,@Keyset.mem_sorted _ _ _ repository.collation,exists_exists_and_eq_and]
      rfl
    · rw [getPublic_listed sound,@Keyset.mem_sorted _ _ _ repository.collation]
    · rw [listAdmin_listPublic sound]
      exact ⟨lists size turns positive enough,lists size turns positive enough⟩
  · intro document version catalog loaded
    have valid := fromDocument_valid loaded
    have named := pinned_ids valid
    have distinct : ((InMemoryStationRepository.fromPinnedCatalog catalog).stations.map Station.id).Nodup := by
      rw [named]
      exact valid.ids
    have ids : ∀ station ∈ (InMemoryStationRepository.fromPinnedCatalog catalog).stations, validCursor station.id = true := by
      intro station member
      have listed : station.id ∈ catalog.stations.map (·.id) := named ▸ List.mem_map_of_mem member
      obtain ⟨origin,inside,same⟩ := List.mem_map.mp listed
      rw [← same]
      exact validId_cursor (valid.owned origin inside).2.2
    obtain ⟨ascending,_,browses⟩ := loops_end id distinct ids rfl (fun _ _ => rfl) (fun _ _ => rfl) (fun _ => id)
    refine ⟨_,ascending,fun id => ?_,fun id station => ?_,browses⟩
    · rw [← named]
      simp only [List.mem_map,Keyset.mem_sorted]
    · rw [getPublic_pinned distinct,Keyset.mem_sorted]

def jazzRepository : PostgresStationRepository Nat where
  db := earlierDb
  collation := inferInstance
  lower := id
  like text pattern := text = pattern

-- Two stations, one to a page.
theorem catalog_views_jazz :
    (∃ all : List Station, "jazz" ∈ all.map Station.id ∧ "old-jazz" ∈ all.map Station.id ∧
      (∀ id station, jazzRepository.getPublic id = some station ↔ station ∈ all ∧ station.id = id) ∧
      browseAll jazzRepository.listPublic 1 (all.length + 1) none = some (all.map .ofStation)) ∧
    ∃ all : List Station, (∀ id, id ∈ all.map Station.id ↔ id ∈ ["jazz","old-jazz"]) ∧
      browseAll (InMemoryStationRepository.fromPinnedCatalog earlierCatalog).listPublic 1 (all.length + 1) none =
        some (all.map .ofStation) := by
  have views := @catalog_views Nat jazzLibrary Search.Letters.englishRussian ⟨jazzLibrary,fun url => url.path,fun _ => none⟩
  obtain ⟨all,_,ids,gets,_,browses⟩ := views.1 jazzRepository (.activate _ 6 0 .empty earlier_loaded)
  obtain ⟨memory,_,ids',_,browses'⟩ := views.2 earlierDocument "1" earlierCatalog earlier_loaded
  have active (id : String) (stands : (earlierDb.stations[id]?).any (fun row => row.retiredAt = none) = true) :
      id ∈ all.map Station.id := by
    obtain ⟨row,found,active⟩ := (Option.any_eq_true _ _).mp stands
    exact (ids id).mpr ⟨row,found,of_decide_eq_true active⟩
  exact ⟨⟨all,active "jazz" (by decide +kernel),active "old-jazz" (by decide +kernel),gets,
      browses 1 _ (by decide) (by decide) (Nat.lt_succ_self _)⟩,
    ⟨memory,ids',browses' 1 _ (by decide) (by decide) (Nat.lt_succ_self _)⟩⟩

end DeviceCatalog
