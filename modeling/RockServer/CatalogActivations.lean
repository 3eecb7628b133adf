import RockServer.CatalogUpserts

-- Releases of the shared catalog over the tables: an activation puts exactly the
-- release's rows in place, or leaves the catalog as it was.
namespace CatalogImport
open DeviceControl (Uuid Instant)
open Egress (UrlLibrary)
open Search (Unicode)

variable {E : Type} {refuses : Refuses E} {library : UrlLibrary} {unicode : Unicode} {source : String} {run : Uuid} {now : Instant}
variable {db db' : CatalogDb E} {stations : List ImportedStation} {catalog : PinnedSharedCatalog}

-- Any stations of a source keep the tables sound.
theorem upsertStations_sound (sound : Sound db)
    (named : source = rockcatalogSource → ∀ station ∈ stations, station.sourceStationId = station.id)
    (ran : upsertStations refuses unicode source run db stations = .ok db') : Sound db' := by
  refine fold_ok (fun _ => Sound) sound ?_ ran
  intro done station rest middle after whole held stepped
  refine (upsertStation_ok held stepped).sound held fun rock => named rock station ?_
  rw [whole]
  simp

-- The stations of a release, upserted one after the other.
structure UpsertedAll (unicode : Unicode) (source : String) (run : Uuid) (stations : List ImportedStation)
    (before after : CatalogDb E) : Prop where
  sound : Sound after
  present : ∀ station ∈ stations, after.stations[station.id]? = some (stationRow unicode source run station)
  absent : ∀ id : String, id ∉ stations.map (·.id) → after.stations[id]? = before.stations[id]?
  own : ∀ station ∈ stations, ∀ row, before.stations[station.id]? = some row → row.source = source
  streams : ∀ station ∈ stations, ∀ stream ∈ station.streams,
    ∃ row, after.streams[(⟨source,stream.sourceStreamId⟩ : SourceKey)]? = some row ∧ row.Shows station stream
  foreign : ∀ key : SourceKey, key.source ≠ source → after.streams[key]? = before.streams[key]?
  icons : ∀ id : String, id ∉ stations.map (·.id) → after.icons[id]? = before.icons[id]?
  embeddings : ∀ key : EmbeddingKey, key.stationId ∉ stations.map (·.id) → after.embeddings[key]? = before.embeddings[key]?
  tombstones : after.tombstones = before.tombstones
  runs : after.runs = before.runs

theorem Upserted.embedding_get {station : ImportedStation} (done : Upserted unicode source run station db db') {key : EmbeddingKey}
    (other : key.stationId ≠ station.id) : db'.embeddings[key]? = db.embeddings[key]? := by
  rw [done.embeddings]
  split
  · rw [deleteEmbeddings,Table.filter_get]
    cases db.embeddings[key]? with
    | none => rfl
    | some embedding => simp [other]
  · rfl

theorem UpsertedAll.next {middle : CatalogDb E} {station : ImportedStation}
    (held : UpsertedAll unicode source run stations db middle) (done : Upserted unicode source run station middle db')
    (named : source = rockcatalogSource → station.sourceStationId = station.id) (fresh : station.id ∉ stations.map (·.id))
    (distinct : (station.streams.map (·.sourceStreamId)).Nodup)
    (apart : ∀ stream ∈ station.streams, ∀ earlier ∈ stations, ∀ other ∈ earlier.streams,
      other.sourceStreamId ≠ stream.sourceStreamId) : UpsertedAll unicode source run (stations ++ [station]) db db' := by
  have outside : ∀ {id : String}, id ∉ (stations ++ [station]).map (·.id) → id ∉ stations.map (·.id) ∧ id ≠ station.id := by
    intro id absent
    rw [List.map_append,List.mem_append,not_or] at absent
    exact ⟨absent.1,by simpa using absent.2⟩
  refine ⟨done.sound held.sound named,?_,?_,?_,?_,?_,?_,?_,?_,?_⟩
  · intro any member
    rcases List.mem_append.mp member with earlier | last
    · rw [done.station_get,if_neg (fun same => fresh (List.mem_map.mpr ⟨any,earlier,same.symm⟩))]
      exact held.present any earlier
    · rw [List.mem_singleton.mp last,done.station_get,if_pos rfl]
  · intro id absent
    rw [done.station_get,if_neg (fun same => (outside absent).2 same.symm)]
    exact held.absent id (outside absent).1
  · intro any member row found
    rcases List.mem_append.mp member with earlier | last
    · exact held.own any earlier row found
    · cases List.mem_singleton.mp last
      rw [← held.absent _ fresh] at found
      exact (done.own row found).1
  · intro any member stream inside
    rcases List.mem_append.mp member with earlier | last
    · obtain ⟨row,found,shows⟩ := held.streams any earlier stream inside
      have missed : ∀ later ∈ station.streams, (⟨source,stream.sourceStreamId⟩ : SourceKey) ≠ ⟨source,later.sourceStreamId⟩ := by
        intro later listed same
        exact apart later listed any earlier stream inside (congrArg SourceKey.id same)
      obtain ⟨_,same⟩ := (done.put ⟨source,stream.sourceStreamId⟩).resolve_left
        fun ⟨later,listed,same,_⟩ => missed later listed same
      have elsewhere : row.stationId ≠ station.id := fun home =>
        fresh (List.mem_map.mpr ⟨any,earlier,shows.station.symm.trans home⟩)
      have untouched : unmarked source station ⟨source,stream.sourceStreamId⟩ row = row := by
        unfold unmarked
        rw [if_neg]
        simp [elsewhere]
      rw [found,Option.map_some,untouched] at same
      exact ⟨row,same,shows⟩
    · cases List.mem_singleton.mp last
      rcases done.put ⟨source,stream.sourceStreamId⟩ with ⟨other,listed,same,row,found,shows,_⟩ | ⟨missed,_⟩
      · cases List.inj_on_of_nodup_map distinct inside listed (congrArg SourceKey.id same)
        exact ⟨row,found,shows⟩
      · exact absurd rfl (missed stream inside)
  · intro key other
    rcases done.put key with ⟨_,_,rfl,_⟩ | ⟨_,same⟩
    · exact absurd rfl other
    · rw [same,← held.foreign key other]
      cases middle.streams[key]? with
      | none => rfl
      | some row => rw [Option.map_some,unmarked_other other]
  · intro id absent
    rw [done.icons id (outside absent).2,held.icons id (outside absent).1]
  · intro key absent
    rw [done.embedding_get (outside absent).2,held.embeddings key (outside absent).1]
  · rw [done.tombstones,held.tombstones]
  · rw [done.runs,held.runs]

theorem upsertStations_all (sound : Sound db) (ran : upsertStations refuses unicode source run db stations = .ok db')
    (named : source = rockcatalogSource → ∀ station ∈ stations, station.sourceStationId = station.id)
    (ids : (stations.map (·.id)).Nodup)
    (streams : (stations.flatMap fun station => station.streams.map (·.sourceStreamId)).Nodup) :
    UpsertedAll unicode source run stations db db' := by
  refine fold_ok (fun done after => UpsertedAll unicode source run done db after) ?_ ?_ ran
  · refine ⟨sound,?_,fun _ _ => rfl,?_,?_,fun _ _ => rfl,fun _ _ => rfl,fun _ _ => rfl,rfl,rfl⟩
    · intro station member
      cases member
    · intro station member
      cases member
    · intro station member
      cases member
  · intro done station rest middle after whole held stepped
    have member : station ∈ stations := by simp [whole]
    rw [List.nodup_flatMap] at streams
    refine held.next (upsertStation_ok held.sound stepped) (fun rock => named rock station member) ?_
      (streams.1 station member) ?_
    · rw [whole,List.map_append,List.map_cons,List.nodup_append] at ids
      exact fun earlier => ids.2.2 station.id earlier station.id List.mem_cons_self rfl
    · intro stream inside earlier listed other present same
      have disjoint := streams.2
      rw [whole,List.pairwise_append] at disjoint
      have separate := disjoint.2.2 earlier listed station List.mem_cons_self
      exact separate (List.mem_map.mpr ⟨other,present,rfl⟩) (List.mem_map.mpr ⟨stream,inside,same.symm⟩)

theorem putTombstone_ok {version : String} {tombstone : ImportedTombstone}
    (ran : putTombstone refuses version db tombstone = .ok db') :
    db.tombstones[(⟨rockcatalogSource,tombstone.id⟩ : SourceKey)]? = none ∧
    db' = {db with
      tombstones := db.tombstones.insert ⟨rockcatalogSource,tombstone.id⟩
        ⟨tombstone.reason.asStr,tombstone.replacementIds,version⟩} := by
  have put := statement_ok ran
  split at put
  · cases put
  · rename_i free
    simp only [Bool.or_eq_true,not_or,Bool.not_eq_true,Option.isSome_eq_false_iff,Option.isNone_iff_eq_none] at free
    exact ⟨free.1,(Option.some.inj put).symm⟩

-- The tombstones of the shared catalog, and of it alone, are replaced.
structure Replaced (version : String) (tombstones : List ImportedTombstone) (before after : CatalogDb E) : Prop where
  tables : after = {before with tombstones := after.tombstones}
  foreign : ∀ key : SourceKey, key.source ≠ rockcatalogSource → after.tombstones[key]? = before.tombstones[key]?
  exact : ∀ (key : SourceKey) row, key.source = rockcatalogSource → (after.tombstones[key]? = some row ↔
    ∃ tombstone ∈ tombstones, tombstone.id = key.id ∧ row = ⟨tombstone.reason.asStr,tombstone.replacementIds,version⟩)

theorem replaceTombstones_ok (ran : replaceTombstones refuses catalog db = .ok db') :
    Replaced catalog.catalogVersion catalog.tombstones db db' := by
  obtain ⟨cleared,deleted,ran⟩ := bind_ok.mp ran
  cases Option.some.inj (statement_ok deleted)
  refine fold_ok (fun done after => Replaced catalog.catalogVersion done db after) ?_ ?_ ran
  · refine ⟨rfl,?_,?_⟩
    · intro key other
      rw [Table.filter_get]
      cases db.tombstones[key]? with
      | none => rfl
      | some row => simp [other]
    · intro key row rock
      rw [Table.get_filter]
      simp [rock]
  · intro done tombstone rest middle after _ held stepped
    obtain ⟨free,rfl⟩ := putTombstone_ok stepped
    refine ⟨?_,?_,?_⟩
    · rw [held.tables]
    · intro key other
      rw [Table.get_insert_ne (fun same => other (congrArg SourceKey.source same).symm)]
      exact held.foreign key other
    · intro key row rock
      rw [Table.get_insert]
      split
      · rename_i same
        subst same
        constructor
        · intro stored
          exact ⟨tombstone,by simp,rfl,(Option.some.inj stored).symm⟩
        · rintro ⟨other,member,same,rfl⟩
          rcases List.mem_append.mp member with earlier | last
          · have stored := (held.exact ⟨rockcatalogSource,tombstone.id⟩ _ rfl).mpr ⟨other,earlier,same,rfl⟩
            rw [free] at stored
            cases stored
          · rw [List.mem_singleton.mp last]
      · rename_i apart
        rw [held.exact key row rock]
        constructor
        · rintro ⟨other,earlier,same⟩
          exact ⟨other,List.mem_append_left _ earlier,same⟩
        · rintro ⟨other,member,same,shape⟩
          rcases List.mem_append.mp member with earlier | last
          · exact ⟨other,earlier,same,shape⟩
          · refine absurd ?_ apart
            rw [List.mem_singleton.mp last] at same
            cases key
            cases rock
            cases same
            rfl

theorem finishRun_ok {status : RunStatus} {counts : ImportCounts} {errorSummary : Option String}
    (ran : finishRun refuses run status counts errorSummary db = .ok db') :
    ∃ row, db.runs[run]? = some row ∧ row.status = .started ∧
      db' = {db with runs := db.runs.insert run ⟨row.source,status,counts,errorSummary⟩} := by
  obtain ⟨_,_,ran⟩ := bind_ok.mp ran
  obtain ⟨_,_,ran⟩ := bind_ok.mp ran
  obtain ⟨_,_,ran⟩ := bind_ok.mp ran
  obtain ⟨_,_,ran⟩ := bind_ok.mp ran
  obtain ⟨⟨finished,affected⟩,asked,ran⟩ := bind_ok.mp ran
  obtain ⟨_,checked,ran⟩ := bind_ok.mp ran
  have one := rejecting_ok.mp checked
  have answer := query_ok asked
  cases Except.ok.inj ran
  split at answer
  · rename_i row stored
    rw [Option.filter_eq_some_iff] at stored
    cases answer
    exact ⟨row,stored.1,by simpa using stored.2,rfl⟩
  · cases answer
    simp at one

section retirement
variable {kept : List String} {key : SourceKey} {row : StreamRow} {stored : StationRow}

@[simp]
theorem retireStream_stationId : (retireStream now kept key row).stationId = row.stationId := by
  unfold retireStream
  split <;> rfl

@[simp]
theorem retireStream_bitrate : (retireStream now kept key row).bitrateKbps = row.bitrateKbps := by
  unfold retireStream
  split <;> rfl

@[simp]
theorem retireStation_source : (retireStation now kept stored).source = stored.source := by
  unfold retireStation
  split <;> rfl

@[simp]
theorem retireStation_sourceStationId : (retireStation now kept stored).sourceStationId = stored.sourceStationId := by
  unfold retireStation
  split <;> rfl

theorem retireStream_foreign (other : key.source ≠ rockcatalogSource) : retireStream now kept key row = row := by
  unfold retireStream
  rw [if_neg]
  simp [other]

theorem retireStream_kept (member : key.id ∈ kept) : retireStream now kept key row = row := by
  unfold retireStream
  rw [if_neg]
  simp [member]

-- A stream that is still primary was left alone.
theorem retireStream_primary (primary : (retireStream now kept key row).isPrimary = true) :
    retireStream now kept key row = row ∧ (key.source = rockcatalogSource → key.id ∈ kept ∨ row.retiredAt ≠ none) := by
  unfold retireStream at primary ⊢
  split at primary
  · cases primary
  · rename_i alone
    rw [if_neg alone]
    refine ⟨rfl,fun rock => ?_⟩
    simp only [rock,decide_true,Bool.true_and,Bool.and_eq_true,Bool.not_eq_true',List.contains_eq_mem,
      decide_eq_false_iff_not,Option.isNone_iff_eq_none,not_and_or,not_not] at alone
    exact alone

-- One that is not retired is of another source, or is kept.
theorem retireStream_active (active : (retireStream now kept key row).retiredAt = none) :
    retireStream now kept key row = row ∧ (key.source = rockcatalogSource → key.id ∈ kept) := by
  unfold retireStream at active ⊢
  split at active
  · cases active
  · rename_i alone
    rw [if_neg alone]
    refine ⟨rfl,fun rock => ?_⟩
    simpa [rock,active] using alone

theorem retireStream_retired (gone : (retireStream now kept key row).retiredAt ≠ none) : row.retiredAt ≠ none ∨
    key.source = rockcatalogSource ∧ (retireStream now kept key row).isPrimary = false := by
  unfold retireStream at gone ⊢
  split at gone
  · rename_i chosen
    simp only [Bool.and_eq_true,decide_eq_true_eq] at chosen
    rw [if_pos (by simpa using chosen)]
    exact .inr ⟨chosen.1.1,rfl⟩
  · exact .inl gone

theorem retireStation_foreign (other : stored.source ≠ rockcatalogSource) : retireStation now kept stored = stored := by
  unfold retireStation
  rw [if_neg]
  simp [other]

theorem retireStation_kept (member : stored.sourceStationId ∈ kept) : retireStation now kept stored = stored := by
  unfold retireStation
  rw [if_neg]
  simp [member]

theorem retireStation_active (active : (retireStation now kept stored).retiredAt = none) :
    retireStation now kept stored = stored ∧ (stored.source = rockcatalogSource → stored.sourceStationId ∈ kept) := by
  unfold retireStation at active ⊢
  split at active
  · cases active
  · rename_i alone
    rw [if_neg alone]
    refine ⟨rfl,fun rock => ?_⟩
    simpa [rock,active] using alone

theorem retireStation_retired (gone : (retireStation now kept stored).retiredAt ≠ none) : stored.retiredAt ≠ none ∨
    stored.source = rockcatalogSource ∧ stored.sourceStationId ∉ kept := by
  unfold retireStation at gone
  split at gone
  · rename_i chosen
    simp only [Bool.and_eq_true,decide_eq_true_eq] at chosen
    exact .inr ⟨chosen.1.1,by simpa using chosen.1.2⟩
  · exact .inl gone

end retirement

-- Where the kept streams belong to kept stations, no retired station is left
-- with a primary stream.
theorem retired_sound {streamIds stationIds : List String} (sound : Sound db)
    (kept : ∀ (key : SourceKey) row, db.streams[key]? = some row → key.source = rockcatalogSource → key.id ∈ streamIds →
      row.stationId ∈ stationIds)
    (stations : db'.stations = db.stations.map fun _ => retireStation now stationIds)
    (streams : db'.streams = db.streams.map (retireStream now streamIds)) : Sound db' := by
  have station : ∀ {id : String} {row}, db'.stations[id]? = some row → ∃ stored, db.stations[id]? = some stored ∧
      retireStation now stationIds stored = row := by
    intro id row found
    rwa [stations,Table.get_map,Option.map_eq_some_iff] at found
  have stream : ∀ {key : SourceKey} {row}, db'.streams[key]? = some row → ∃ stored, db.streams[key]? = some stored ∧
      retireStream now streamIds key stored = row := by
    intro key row found
    rwa [streams,Table.get_mapKey,Option.map_eq_some_iff] at found
  refine ⟨?_,?_,?_,?_,?_,?_,?_⟩
  · intro id other row row' found found' source id'
    obtain ⟨stored,there,rfl⟩ := station found
    obtain ⟨stored',there',rfl⟩ := station found'
    exact sound.identity id other stored stored' there there' (by simpa using source) (by simpa using id')
  · intro id row found rock
    obtain ⟨stored,there,rfl⟩ := station found
    rw [retireStation_sourceStationId]
    exact sound.named id stored there (by simpa using rock)
  · intro key row found
    obtain ⟨stored,there,rfl⟩ := stream found
    obtain ⟨origin,held,owned⟩ := sound.home key stored there
    refine ⟨retireStation now stationIds origin,?_,by simpa using owned⟩
    rw [stations,Table.get_map,retireStream_stationId,held]
    rfl
  · intro key other row row' found found' primary primary' home
    obtain ⟨stored,there,rfl⟩ := stream found
    obtain ⟨stored',there',rfl⟩ := stream found'
    rw [retireStream_stationId,retireStream_stationId] at home
    rw [(retireStream_primary primary).1] at primary
    rw [(retireStream_primary primary').1] at primary'
    exact sound.onePrimary key other stored stored' there there' primary primary' home
  · intro key row found gone
    obtain ⟨stored,there,rfl⟩ := stream found
    rcases retireStream_retired gone with before | now
    · obtain ⟨rock,bare⟩ := sound.withdrawn key stored there before
      refine ⟨rock,Bool.eq_false_iff.mpr fun primary => ?_⟩
      rw [(retireStream_primary primary).1,bare] at primary
      cases primary
    · exact now
  · intro id row found gone
    obtain ⟨origin,held,rfl⟩ := station found
    rcases retireStation_retired gone with before | ⟨rock,dropped⟩
    · obtain ⟨rock,bare⟩ := sound.retired id origin held before
      refine ⟨by simpa using rock,fun key row there home => Bool.eq_false_iff.mpr fun primary => ?_⟩
      obtain ⟨stored,before,rfl⟩ := stream there
      rw [(retireStream_primary primary).1] at primary
      rw [bare key stored before (by simpa using home)] at primary
      cases primary
    · refine ⟨by simpa using rock,fun key row there home => Bool.eq_false_iff.mpr fun primary => ?_⟩
      obtain ⟨stored,before,rfl⟩ := stream there
      obtain ⟨same,left⟩ := retireStream_primary primary
      rw [same] at primary
      rw [retireStream_stationId] at home
      obtain ⟨owner,ownerHeld,owned⟩ := sound.home key stored before
      rw [home,held] at ownerHeld
      cases ownerHeld
      have ours : key.source = rockcatalogSource := owned.symm.trans rock
      rcases left ours with listed | withdrawn
      · refine dropped ?_
        rw [sound.named id origin held rock,← home]
        exact kept key stored before ours listed
      · rw [(sound.withdrawn key stored before withdrawn).2] at primary
        cases primary
  · intro key row found
    obtain ⟨stored,there,rfl⟩ := stream found
    rw [retireStream_bitrate]
    exact sound.rates key stored there

theorem Sound.tables (sound : Sound db) (stations : db'.stations = db.stations) (streams : db'.streams = db.streams) :
    Sound db' := by
  obtain ⟨identity,named,home,one,withdrawn,retired,rates⟩ := sound
  rw [← stations] at identity named home retired
  rw [← streams] at home one withdrawn retired rates
  exact ⟨identity,named,home,one,withdrawn,retired,rates⟩

-- The rows of other sources.
structure Untouched (run : Uuid) (before after : CatalogDb E) : Prop where
  stations : ∀ (id : String) row, row.source ≠ rockcatalogSource → (after.stations[id]? = some row ↔ before.stations[id]? = some row)
  streams : ∀ key : SourceKey, key.source ≠ rockcatalogSource → after.streams[key]? = before.streams[key]?
  icons : ∀ (id : String) row, before.stations[id]? = some row → row.source ≠ rockcatalogSource → after.icons[id]? = before.icons[id]?
  embeddings : ∀ (key : EmbeddingKey) row, before.stations[key.stationId]? = some row → row.source ≠ rockcatalogSource →
    after.embeddings[key]? = before.embeddings[key]?
  tombstones : ∀ key : SourceKey, key.source ≠ rockcatalogSource → after.tombstones[key]? = before.tombstones[key]?
  runs : ∀ other : Uuid, other ≠ run → after.runs[other]? = before.runs[other]?

-- What a committed activation leaves in the tables.
structure Activated (unicode : Unicode) (run : Uuid) (catalog : PinnedSharedCatalog) (before after : CatalogDb E) : Prop where
  active : ∀ (id : String) row, (after.stations[id]? = some row ∧ row.source = rockcatalogSource ∧ row.retiredAt = none) ↔
    ∃ station ∈ catalog.stations, station.id = id ∧ row = stationRow unicode rockcatalogSource run station
  primary : ∀ station ∈ catalog.stations, ∃ (key : SourceKey) (row : StreamRow), after.streams[key]? = some row ∧
    row.stationId = station.id ∧ row.isPrimary = true ∧ row.retiredAt = none ∧ ∀ (other : SourceKey) row',
      after.streams[other]? = some row' → row'.stationId = station.id → row'.isPrimary = true → other = key
  streams : ∀ station ∈ catalog.stations, ∀ stream ∈ station.streams,
    ∃ row, after.streams[(⟨rockcatalogSource,stream.sourceStreamId⟩ : SourceKey)]? = some row ∧ row.Shows station stream
  exact : ∀ station ∈ catalog.stations, ∀ (key : SourceKey) row, after.streams[key]? = some row → row.stationId = station.id →
    row.retiredAt = none → ∃ stream ∈ station.streams, key = ⟨rockcatalogSource,stream.sourceStreamId⟩ ∧ row.Shows station stream
  bare : ∀ (id : String) row, after.stations[id]? = some row → row.retiredAt ≠ none →
    ∀ (key : SourceKey) stream, after.streams[key]? = some stream → stream.stationId = id → stream.isPrimary = false
  tombstones : ∀ (key : SourceKey) row, key.source = rockcatalogSource → (after.tombstones[key]? = some row ↔
    ∃ tombstone ∈ catalog.tombstones, tombstone.id = key.id ∧
      row = ⟨tombstone.reason.asStr,tombstone.replacementIds,catalog.catalogVersion⟩)
  completed : ∃ counts, after.runs[run]? = some ⟨rockcatalogSource,.completed,counts,none⟩ ∧
    counts.imported = UInt64.ofNat catalog.stations.length
  others : Untouched run before after

-- The upserted tables of a release, then retired down to it.
structure Retired (run : Uuid) (now : Instant) (catalog : PinnedSharedCatalog) (upserted after : CatalogDb E) : Prop where
  stations : after.stations = upserted.stations.map fun _ => retireStation now (catalog.stations.map (·.sourceStationId))
  streams : after.streams = upserted.streams.map (retireStream now (streamIds catalog))
  icons : after.icons = upserted.icons
  embeddings : after.embeddings = upserted.embeddings
  foreign : ∀ key : SourceKey, key.source ≠ rockcatalogSource → after.tombstones[key]? = upserted.tombstones[key]?
  exact : ∀ (key : SourceKey) row, key.source = rockcatalogSource → (after.tombstones[key]? = some row ↔
    ∃ tombstone ∈ catalog.tombstones, tombstone.id = key.id ∧
      row = ⟨tombstone.reason.asStr,tombstone.replacementIds,catalog.catalogVersion⟩)
  run : ∃ counts : ImportCounts, counts.imported = UInt64.ofNat catalog.stations.length ∧
    after.runs = upserted.runs.insert run ⟨rockcatalogSource,.completed,counts,none⟩

theorem boundary_ok {message : String} (ran : boundary refuses message db = .ok db') : db' = db :=
  (Option.some.inj (statement_ok ran)).symm

theorem activate_parts {counts : ImportCounts}
    (ran : activateSharedCatalogInTransaction refuses unicode run now catalog counts db = .ok db') :
    ∃ upserted, upsertStations refuses unicode rockcatalogSource run db catalog.stations = .ok upserted ∧
      (upserted.runs = db.runs → Retired run now catalog upserted db') := by
  obtain ⟨opened,began,ran⟩ := bind_ok.mp ran
  obtain ⟨_,owned,ran⟩ := bind_ok.mp ran
  obtain ⟨upserted,stations,ran⟩ := bind_ok.mp ran
  obtain ⟨replaced,tombstones,ran⟩ := bind_ok.mp ran
  obtain ⟨first,streamsGone,ran⟩ := bind_ok.mp ran
  obtain ⟨second,stationsGone,ran⟩ := bind_ok.mp ran
  obtain ⟨finished,completed,committed⟩ := bind_ok.mp ran
  cases boundary_ok began
  cases boundary_ok committed
  refine ⟨upserted,stations,fun sameRuns => ?_⟩
  have swapped := replaceTombstones_ok tombstones
  obtain ⟨row,stored,_,rfl⟩ := finishRun_ok completed
  cases Option.some.inj (statement_ok streamsGone)
  cases Option.some.inj (statement_ok stationsGone)
  have source : row.source = rockcatalogSource := by
    obtain ⟨owns,asked,accepted⟩ := bind_ok.mp owned
    have mine := rejecting_ok.mp accepted
    rw [query_ok asked] at mine
    rw [swapped.tables] at stored
    dsimp only at stored
    rw [sameRuns] at stored
    simp only [stored,Option.any_some,Bool.not_eq_false',Bool.and_eq_true,decide_eq_true_eq] at mine
    exact mine.1
  refine ⟨?_,?_,?_,?_,?_,?_,?_⟩
  · rw [swapped.tables]
  · rw [swapped.tables]
  · rw [swapped.tables]
  · rw [swapped.tables]
  · exact swapped.foreign
  · exact swapped.exact
  · refine ⟨{counts with imported := UInt64.ofNat catalog.stations.length},rfl,?_⟩
    rw [swapped.tables,source]

section activated
variable {upserted : CatalogDb E} (valid : catalog.Valid) (all : UpsertedAll unicode rockcatalogSource run catalog.stations db upserted)
variable (left : Retired run now catalog upserted db')
include all

-- A stream of the release belongs to its station.
theorem UpsertedAll.owner {key : SourceKey} {row : StreamRow} (found : upserted.streams[key]? = some row)
    (rock : key.source = rockcatalogSource) (listed : key.id ∈ streamIds catalog) :
    ∃ station ∈ catalog.stations, ∃ stream ∈ station.streams, key = ⟨rockcatalogSource,stream.sourceStreamId⟩ ∧
      row.Shows station stream := by
  obtain ⟨station,member,inside⟩ := List.mem_flatMap.mp listed
  obtain ⟨stream,there,same⟩ := List.mem_map.mp inside
  have named : key = ⟨rockcatalogSource,stream.sourceStreamId⟩ := by
    cases key
    cases rock
    cases same
    rfl
  obtain ⟨row',stored,shows⟩ := all.streams station member stream there
  rw [named,stored] at found
  cases found
  exact ⟨station,member,stream,there,named,shows⟩

include left

theorem Retired.stream_shown {station : ImportedStation} {stream : ImportedStream} (member : station ∈ catalog.stations)
    (inside : stream ∈ station.streams) :
    ∃ row, db'.streams[(⟨rockcatalogSource,stream.sourceStreamId⟩ : SourceKey)]? = some row ∧ row.Shows station stream := by
  obtain ⟨row,stored,shows⟩ := all.streams station member stream inside
  refine ⟨row,?_,shows⟩
  rw [left.streams,Table.get_mapKey,stored,Option.map_some,retireStream_kept]
  exact List.mem_flatMap.mpr ⟨station,member,List.mem_map_of_mem inside⟩

theorem Retired.untouched : Untouched run db db' := by
  have outside : ∀ {id : String} {row}, db.stations[id]? = some row → row.source ≠ rockcatalogSource →
      id ∉ catalog.stations.map (·.id) := by
    intro id row found other member
    obtain ⟨station,listed,rfl⟩ := List.mem_map.mp member
    exact other (all.own station listed row found)
  refine ⟨?_,?_,?_,?_,?_,?_⟩
  · intro id row other
    rw [left.stations,Table.get_map,Option.map_eq_some_iff]
    constructor
    · rintro ⟨stored,there,rfl⟩
      rw [retireStation_source] at other
      rw [retireStation_foreign other,← all.absent id,there]
      intro member
      obtain ⟨station,listed,rfl⟩ := List.mem_map.mp member
      rw [all.present station listed] at there
      cases there
      exact other rfl
    · intro found
      exact ⟨row,(all.absent id (outside found other)).trans found,retireStation_foreign other⟩
  · intro key other
    rw [left.streams,Table.get_mapKey,all.foreign key other]
    cases db.streams[key]? with
    | none => rfl
    | some row => rw [Option.map_some,retireStream_foreign other]
  · intro id row found other
    rw [left.icons]
    exact all.icons id (outside found other)
  · intro key row found other
    rw [left.embeddings]
    exact all.embeddings key (outside found other)
  · intro key other
    rw [left.foreign key other,all.tombstones]
  · intro other apart
    obtain ⟨counts,_,runs⟩ := left.run
    rw [runs,Table.get_insert_ne apart.symm,all.runs]

include valid

theorem Retired.sound : Sound db' := by
  refine retired_sound all.sound ?_ left.stations left.streams
  intro key row found rock listed
  obtain ⟨station,member,stream,_,_,shows⟩ := all.owner found rock listed
  rw [shows.station,← (valid.owned station member).2.1]
  exact List.mem_map_of_mem member

theorem Retired.active (id : String) (row : StationRow) :
    (db'.stations[id]? = some row ∧ row.source = rockcatalogSource ∧ row.retiredAt = none) ↔
    ∃ station ∈ catalog.stations, station.id = id ∧ row = stationRow unicode rockcatalogSource run station := by
  rw [left.stations,Table.get_map,Option.map_eq_some_iff]
  constructor
  · rintro ⟨⟨stored,there,rfl⟩,rock,active⟩
    obtain ⟨same,listed⟩ := retireStation_active active
    rw [same] at rock ⊢
    obtain ⟨station,member,id'⟩ := List.mem_map.mp (listed rock)
    rw [all.sound.named id stored there rock,(valid.owned station member).2.1] at id'
    subst id'
    rw [all.present station member] at there
    exact ⟨station,member,rfl,(Option.some.inj there).symm⟩
  · rintro ⟨station,member,rfl,rfl⟩
    refine ⟨⟨_,all.present station member,?_⟩,rfl,rfl⟩
    exact retireStation_kept (List.mem_map_of_mem member)

theorem Retired.activated : Activated unicode run catalog db db' := by
  have sound := left.sound valid all
  refine ⟨left.active valid all,?_,fun station member stream inside => left.stream_shown all member inside,?_,?_,left.exact,?_,
    left.untouched all⟩
  · intro station member
    have chosen : 0 < station.streams.countP (·.isPrimary) := by
      rw [valid.primary station member]
      exact Nat.one_pos
    obtain ⟨stream,inside,primary⟩ := List.countP_pos_iff.mp chosen
    obtain ⟨row,stored,shows⟩ := left.stream_shown all member inside
    have first : row.isPrimary = true := shows.primary.trans primary
    refine ⟨_,row,stored,shows.station,first,shows.active,?_⟩
    intro other row' found home also
    exact sound.onePrimary _ _ _ _ found stored also first (home.trans shows.station.symm)
  · intro station member key row found home active
    rw [left.streams,Table.get_mapKey,Option.map_eq_some_iff] at found
    obtain ⟨stored,there,rfl⟩ := found
    obtain ⟨same,listed⟩ := retireStream_active active
    rw [same] at home ⊢
    obtain ⟨origin,held,owned⟩ := all.sound.home key stored there
    rw [home,all.present station member] at held
    cases held
    have rock : key.source = rockcatalogSource := owned.symm
    obtain ⟨owner,member',stream,inside,named,shows⟩ := all.owner there rock (listed rock)
    have ours : owner = station := List.inj_on_of_nodup_map valid.ids member' member (shows.station.symm.trans home)
    subst ours
    exact ⟨stream,inside,named,shows⟩
  · intro id row found gone
    exact (sound.retired id row found gone).2
  · obtain ⟨counts,imported,runs⟩ := left.run
    refine ⟨counts,?_,imported⟩
    rw [runs,Table.get_insert,if_pos rfl]

end activated

end CatalogImport
