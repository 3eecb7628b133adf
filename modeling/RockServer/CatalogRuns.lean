import RockServer.CatalogActivations

-- The catalog over whole runs of imports.
namespace CatalogImport
open DeviceControl (Uuid Instant)
open Egress (UrlLibrary)
open Search (Unicode)

-- What imports make of the empty catalog: activations of releases that passed
-- their checks, such batches as other sources have, and the beginning and end of
-- runs.
inductive Reachable {E : Type} (library : UrlLibrary) (unicode : Unicode) (Batch : String → List ImportedStation → Prop) :
    CatalogDb E → Prop where
  | empty : Reachable library unicode Batch CatalogDb.empty
  | activate {db : CatalogDb E} (refuses : Refuses E) (run : Uuid) (now : Instant) {document : CatalogDocument} {version : String}
      {catalog : PinnedSharedCatalog} (before : Reachable library unicode Batch db)
      (loaded : PinnedSharedCatalog.fromDocument library unicode document version = .ok catalog) :
      Reachable library unicode Batch (activateSharedCatalog refuses unicode run now catalog db).2
  | upsert {db : CatalogDb E} (refuses : Refuses E) (source : String) (run : Uuid) (stations : List ImportedStation)
      (before : Reachable library unicode Batch db) (other : source ≠ rockcatalogSource) (batch : Batch source stations) :
      Reachable library unicode Batch (upsertBatch refuses unicode source run stations db).2
  | start {db db' : CatalogDb E} (refuses : Refuses E) (source : String) (run : Uuid) (before : Reachable library unicode Batch db)
      (ran : startRun refuses source run db = .ok db') : Reachable library unicode Batch db'
  | finish {db db' : CatalogDb E} (refuses : Refuses E) (run : Uuid) (status : RunStatus) (counts : ImportCounts)
      (errorSummary : Option String) (before : Reachable library unicode Batch db)
      (ran : finishRun refuses run status counts errorSummary db = .ok db') : Reachable library unicode Batch db'

def AnyBatch (_source : String) (_stations : List ImportedStation) : Prop := True

-- The catalog itself, without the records of the runs.
structure Kept {E : Type} (before after : CatalogDb E) : Prop where
  stations : after.stations = before.stations
  streams : after.streams = before.streams
  icons : after.icons = before.icons
  embeddings : after.embeddings = before.embeddings
  tombstones : after.tombstones = before.tombstones

variable {E : Type} {refuses : Refuses E} {library : UrlLibrary} {unicode : Unicode} {source : String} {run : Uuid} {now : Instant}
variable {db db' : CatalogDb E} {stations : List ImportedStation} {catalog : PinnedSharedCatalog}
variable {document : CatalogDocument} {version : String} {Batch : String → List ImportedStation → Prop}

theorem Kept.sound (kept : Kept db db') (sound : Sound db) : Sound db' := sound.tables kept.stations kept.streams

theorem startRun_ok (ran : startRun refuses source run db = .ok db') : db' = {db with runs := db'.runs} ∧
    ∀ other : Uuid, other ≠ run → db'.runs[other]? = db.runs[other]? := by
  have put := statement_ok ran
  split at put
  · cases put
  · cases Option.some.inj put
    exact ⟨rfl,fun other apart => Table.get_insert_ne apart.symm⟩

theorem startRun_kept (ran : startRun refuses source run db = .ok db') : Kept db db' := by
  rw [(startRun_ok ran).1]
  exact ⟨rfl,rfl,rfl,rfl,rfl⟩

theorem finishRun_kept {status : RunStatus} {counts : ImportCounts} {errorSummary : Option String}
    (ran : finishRun refuses run status counts errorSummary db = .ok db') : Kept db db' := by
  obtain ⟨row,_,_,rfl⟩ := finishRun_ok ran
  exact ⟨rfl,rfl,rfl,rfl,rfl⟩

theorem Kept.trans {db'' : CatalogDb E} (first : Kept db db') (second : Kept db' db'') : Kept db db'' :=
  ⟨second.stations.trans first.stations,second.streams.trans first.streams,second.icons.trans first.icons,
    second.embeddings.trans first.embeddings,second.tombstones.trans first.tombstones⟩

-- An activation that commits upserts the stations of its release and retires the
-- rest; any other leaves the catalog alone.
theorem activate_parted (refuses : Refuses E) (run : Uuid) (now : Instant) (sound : Sound db) (valid : catalog.Valid) :
    (∃ started upserted db', Kept db started ∧ (∀ other : Uuid, other ≠ run → started.runs[other]? = db.runs[other]?) ∧
      upsertStations refuses unicode rockcatalogSource run started catalog.stations = .ok upserted ∧
      UpsertedAll unicode rockcatalogSource run catalog.stations started upserted ∧ Retired run now catalog upserted db' ∧
      activateSharedCatalog refuses unicode run now catalog db = (.ok run,db')) ∨
    ∃ error db', activateSharedCatalog refuses unicode run now catalog db = (.error error,db') ∧ Kept db db' := by
  unfold activateSharedCatalog
  dsimp only
  split
  · exact .inr ⟨_,_,rfl,rfl,rfl,rfl,rfl,rfl⟩
  · rename_i started opened
    have kept := startRun_kept opened
    split
    · rename_i after ran
      obtain ⟨upserted,put,left⟩ := activate_parts ran
      have all := upsertStations_all (kept.sound sound) put (fun _ station member => (valid.owned station member).2.1) valid.ids
        valid.streams
      exact .inl ⟨started,upserted,after,kept,(startRun_ok opened).2,put,all,left all.runs,rfl⟩
    · split
      · rename_i failed recorded
        exact .inr ⟨_,_,rfl,kept.trans (finishRun_kept recorded)⟩
      · exact .inr ⟨_,_,rfl,kept⟩

-- An activation commits and is complete, or leaves the catalog alone.
theorem activate_cases (refuses : Refuses E) (run : Uuid) (now : Instant) (sound : Sound db) (valid : catalog.Valid) :
    (∃ started db', Kept db started ∧ (∀ other : Uuid, other ≠ run → started.runs[other]? = db.runs[other]?) ∧
      activateSharedCatalog refuses unicode run now catalog db = (.ok run,db') ∧ Activated unicode run catalog started db' ∧
      Sound db') ∨
    ∃ error db', activateSharedCatalog refuses unicode run now catalog db = (.error error,db') ∧ Kept db db' := by
  refine (activate_parted refuses run now sound valid).imp_left ?_
  rintro ⟨started,upserted,after,kept,runs,_,all,left,result⟩
  exact ⟨started,after,kept,runs,result,left.activated valid all,left.sound valid all⟩

theorem upsertBatch_parted (refuses : Refuses E) (unicode : Unicode) (source : String) (run : Uuid) (stations : List ImportedStation)
    (db : CatalogDb E) : (upsertBatch refuses unicode source run stations db).2 = db ∨
    ∃ db', upsertStations refuses unicode source run db stations = .ok db' ∧
      (upsertBatch refuses unicode source run stations db).2 = db' := by
  unfold upsertBatch
  split
  · rename_i after ran
    obtain ⟨opened,began,ran⟩ := bind_ok.mp ran
    obtain ⟨_,_,ran⟩ := bind_ok.mp ran
    obtain ⟨upserted,put,committed⟩ := bind_ok.mp ran
    cases boundary_ok began
    cases boundary_ok committed
    exact .inr ⟨after,put,rfl⟩
  · exact .inl rfl

theorem upsertBatch_sound (sound : Sound db) (other : source ≠ rockcatalogSource) :
    Sound (upsertBatch refuses unicode source run stations db).2 := by
  rcases upsertBatch_parted refuses unicode source run stations db with same | ⟨after,put,same⟩
  · rw [same]
    exact sound
  · rw [same]
    exact upsertStations_sound sound (fun rock => absurd rock other) put

theorem reachable_sound (reachable : Reachable library unicode Batch db) : Sound db := by
  induction reachable with
  | empty => exact empty_sound
  | activate refuses run now before loaded ih =>
    rcases activate_cases refuses run now ih (fromDocument_valid loaded) with ⟨_,_,_,_,result,_,sound⟩ | ⟨_,_,result,kept⟩
    · rw [result]
      exact sound
    · rw [result]
      exact kept.sound ih
  | upsert refuses source run stations before other batch ih => exact upsertBatch_sound ih other
  | start refuses source run before ran ih => exact (startRun_kept ran).sound ih
  | finish refuses run status counts errorSummary before ran ih => exact (finishRun_kept ran).sound ih

theorem Activated.from_kept {started : CatalogDb E} (kept : Kept db started)
    (runs : ∀ other : Uuid, other ≠ run → started.runs[other]? = db.runs[other]?)
    (done : Activated unicode run catalog started db') : Activated unicode run catalog db db' := by
  obtain ⟨stations,streams,icons,embeddings,tombstones,finished⟩ := done.others
  rw [kept.stations] at stations icons embeddings
  rw [kept.streams] at streams
  rw [kept.icons] at icons
  rw [kept.embeddings] at embeddings
  rw [kept.tombstones] at tombstones
  exact {done with others := ⟨stations,streams,icons,embeddings,tombstones,
    fun other apart => (finished other apart).trans (runs other apart)⟩}

def IdsHold (P : String → Prop) (db : CatalogDb E) : Prop := ∀ (id : String) row, db.stations[id]? = some row → P id

section ids
variable {P : String → Prop}

theorem upsertStations_ids (sound : Sound db) (before : IdsHold P db) (good : ∀ station ∈ stations, P station.id)
    (named : source = rockcatalogSource → ∀ station ∈ stations, station.sourceStationId = station.id)
    (ran : upsertStations refuses unicode source run db stations = .ok db') : IdsHold P db' := by
  refine (fold_ok (fun _ after => Sound after ∧ IdsHold P after) ⟨sound,before⟩ ?_ ran).2
  intro done station rest middle after whole held stepped
  have member : station ∈ stations := by simp [whole]
  have put := upsertStation_ok held.1 stepped
  refine ⟨put.sound held.1 fun rock => named rock station member,fun id row found => ?_⟩
  rw [put.station_get] at found
  split at found
  · rename_i same
    exact same ▸ good station member
  · exact held.2 id row found

theorem activate_ids (sound : Sound db) (valid : catalog.Valid) (before : IdsHold P db)
    (good : ∀ station ∈ catalog.stations, P station.id) :
    IdsHold P (activateSharedCatalog refuses unicode run now catalog db).2 := by
  rcases activate_parted refuses run now sound valid with ⟨started,upserted,after,kept,_,put,_,left,result⟩ | ⟨_,after,result,kept⟩
  · rw [result]
    have started_ids : IdsHold P started := fun id row found => before id row (kept.stations ▸ found)
    have ids := upsertStations_ids (kept.sound sound) started_ids good
      (fun _ station member => (valid.owned station member).2.1) put
    intro id row found
    rw [left.stations,Table.get_map,Option.map_eq_some_iff] at found
    obtain ⟨stored,there,_⟩ := found
    exact ids id stored there
  · rw [result]
    exact fun id row found => before id row (kept.stations ▸ found)

theorem reachable_ids (releases : ∀ id, validId id 96 = true → P id)
    (batches : ∀ source stations, Batch source stations → ∀ station ∈ stations, P station.id)
    (reachable : Reachable library unicode Batch db) : IdsHold P db := by
  induction reachable with
  | empty =>
    intro id row found
    simp [CatalogDb.empty] at found
  | activate refuses run now before loaded ih =>
    have valid := fromDocument_valid loaded
    exact activate_ids (reachable_sound before) valid ih fun station member => releases _ (valid.owned station member).2.2
  | upsert refuses source run stations before other batch ih =>
    rcases upsertBatch_parted refuses unicode source run stations _ with same | ⟨after,put,same⟩
    · rw [same]
      exact ih
    · rw [same]
      exact upsertStations_ids (reachable_sound before) ih (batches source stations batch) (fun rock => absurd rock other) put
  | start refuses source run before ran ih => exact fun id row found => ih id row ((startRun_kept ran).stations ▸ found)
  | finish refuses run status counts errorSummary before ran ih =>
    exact fun id row found => ih id row ((finishRun_kept ran).stations ▸ found)

end ids

-- A release of one station, one of its ids merged into it.
def jazzStation : CatalogStation :=
  ⟨"jazz","Jazz FM",[],[],["jazz"],some "GB",some "en",none,none,[⟨"main","https://jazz.example/live",some "mp3",some 128,true⟩]⟩

def jazzDocument : CatalogDocument := ⟨1,"2",[jazzStation],[⟨"old-jazz","merged",["jazz"]⟩]⟩

def jazzLibrary : UrlLibrary where
  parse text :=
    if text = "https://jazz.example/live" then some ⟨"https","",none,some (.domain "jazz.example"),none,"/live",none⟩
    else if text = "https://old.example/live" then some ⟨"https","",none,some (.domain "old.example"),none,"/live",none⟩
    else none
  join _ _ := none

def jazzCatalog : PinnedSharedCatalog := ⟨"2",[ImportedStation.ofCatalog jazzStation],[⟨"old-jazz",.merged,["jazz"]⟩]⟩

theorem jazz_checked : validateDocument jazzLibrary Search.Letters.englishRussian jazzDocument = .ok () := by
  refine then_ok.mpr ⟨rfl,then_ok.mpr ⟨rfl,then_ok.mpr ⟨rfl,then_ok.mpr ⟨rfl,demand_ok.mpr ?_⟩⟩⟩⟩
  have leaf : replacementGraphHasCycle [("old-jazz",["jazz"])] ["old-jazz"] "jazz" = false := cycle_leaf (by decide) rfl
  have acyclic : replacementGraphHasCycle [("old-jazz",["jazz"])] [] "old-jazz" = false :=
    (cycle_node (by decide) rfl).trans (by simp [leaf])
  simp [jazzDocument,acyclic]

theorem jazz_loaded :
    PinnedSharedCatalog.fromDocument jazzLibrary Search.Letters.englishRussian jazzDocument "2" = .ok jazzCatalog := by
  simp only [PinnedSharedCatalog.fromDocument,jazz_checked]
  rfl

-- The release before it, where the merged station was still on the air.
def oldJazzStation : CatalogStation :=
  ⟨"old-jazz","Old Jazz FM",[],[],["jazz"],some "GB",some "en",none,none,[⟨"main","https://old.example/live",some "mp3",some 96,true⟩]⟩

def earlierDocument : CatalogDocument := ⟨1,"1",[jazzStation,oldJazzStation],[]⟩

def earlierCatalog : PinnedSharedCatalog := ⟨"1",[ImportedStation.ofCatalog jazzStation,ImportedStation.ofCatalog oldJazzStation],[]⟩

theorem earlier_loaded :
    PinnedSharedCatalog.fromDocument jazzLibrary Search.Letters.englishRussian earlierDocument "1" = .ok earlierCatalog := rfl

def earlierDb : CatalogDb Nat :=
  (activateSharedCatalog (fun _ _ => false) Search.Letters.englishRussian 6 0 earlierCatalog CatalogDb.empty).2

theorem earlier_reachable : Reachable jazzLibrary Search.Letters.englishRussian AnyBatch earlierDb :=
  .activate _ 6 0 .empty earlier_loaded

-- In every state that imports reach, an activation of a release that passed its
-- checks leaves exactly the release, or the catalog as it was.
theorem activation_exact (reachable : Reachable library unicode AnyBatch db)
    (loaded : PinnedSharedCatalog.fromDocument library unicode document version = .ok catalog) :
    (∀ id, (activateSharedCatalog refuses unicode run now catalog db).1 = .ok id → id = run ∧
      Activated unicode run catalog db (activateSharedCatalog refuses unicode run now catalog db).2) ∧
    ∀ error, (activateSharedCatalog refuses unicode run now catalog db).1 = .error error →
      Kept db (activateSharedCatalog refuses unicode run now catalog db).2 := by
  rcases activate_cases refuses run now (reachable_sound reachable) (fromDocument_valid loaded) with
    ⟨started,after,kept,runs,result,activated,_⟩ | ⟨failure,after,result,kept⟩
  · rw [result]
    refine ⟨fun id returned => ⟨(Except.ok.inj returned).symm,activated.from_kept kept runs⟩,fun error returned => ?_⟩
    cases returned
  · rw [result]
    refine ⟨fun id returned => ?_,fun error _ => kept⟩
    cases returned

def mergedDb : CatalogDb Nat :=
  (activateSharedCatalog (fun _ _ => false) Search.Letters.englishRussian 7 100 jazzCatalog earlierDb).2

theorem activation_exact_merged : (earlierDb.stations["old-jazz"]?).map StationRow.retiredAt = some none ∧
    (mergedDb.stations["old-jazz"]?).map StationRow.retiredAt = some (some 100) ∧
    Activated Search.Letters.englishRussian 7 jazzCatalog earlierDb mergedDb :=
  ⟨by decide +kernel,by decide +kernel,((activation_exact earlier_reachable jazz_loaded).1 7 (by decide +kernel)).2⟩

end CatalogImport
