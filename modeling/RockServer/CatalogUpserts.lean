import RockServer.CatalogTables

-- What one upserted station leaves in the tables, and what holds of them after
-- any number of stations.
namespace CatalogImport
open DeviceControl (Uuid Instant)
open Search (Unicode)

section outcomes
variable {α β E : Type} {refuses : Refuses E} {message : String} {db db' : CatalogDb E} {result : Option (CatalogDb E)}

theorem bind_ok {first : Outcome α} {next : α → Outcome β} {b : β} :
    (first >>= next) = .ok b ↔ ∃ a, first = .ok a ∧ next a = .ok b := by
  cases first with
  | error error => simp [Bind.bind,Except.bind]
  | ok a => simp [Bind.bind,Except.bind]

theorem rejecting_ok {condition : Bool} {u : Unit} : rejecting condition message = .ok u ↔ condition = false := by
  unfold rejecting failing
  cases condition <;> simp

theorem statement_ok (ran : statement refuses message db result = .ok db') : result = some db' := by
  unfold statement failing at ran
  split at ran
  · cases ran
  · cases result with
    | none => cases ran
    | some next => exact congrArg some (Except.ok.inj ran)

theorem query_ok {answer a : α} (ran : query refuses message db answer = .ok a) : a = answer := by
  unfold query failing at ran
  split at ran
  · cases ran
  · exact (Except.ok.inj ran).symm

-- The rule for a loop of statements: a fact about the items so far.
theorem fold_ok {step : β → α → Outcome β} {items : List α} {start final : β} (P : List α → β → Prop) (first : P [] start)
    (next : ∀ done item rest b b', items = done ++ item :: rest → P done b → step b item = .ok b' → P (done ++ [item]) b')
    (ran : items.foldlM step start = .ok final) : P items final := by
  suffices all : ∀ rest done b, items = done ++ rest → P done b → rest.foldlM step b = .ok final → P items final from
    all items [] start rfl first ran
  intro rest
  induction rest with
  | nil =>
    intro done b whole held finished
    rw [List.append_nil] at whole
    cases finished
    exact whole ▸ held
  | cons item rest ih =>
    intro done b whole held going
    rw [List.foldlM_cons] at going
    obtain ⟨b',stepped,later⟩ := bind_ok.mp going
    refine ih (done ++ [item]) b' ?_ (next done item rest b b' whole held stepped) later
    rw [List.append_assoc]
    exact whole

end outcomes

variable {E : Type} {refuses : Refuses E} {unicode : Unicode} {source : String} {run : Uuid} {db db' : CatalogDb E}
variable {station : ImportedStation} {stream : ImportedStream} {streams : List ImportedStream}

-- A row as a stream of a station would have it.
structure StreamRow.Shows (row : StreamRow) (station : ImportedStation) (stream : ImportedStream) : Prop where
  station : row.stationId = station.id
  url : row.streamUrl = stream.streamUrl
  codec : row.codec = stream.codec
  rate : row.bitrateKbps = stream.bitrateKbps
  primary : row.isPrimary = stream.isPrimary
  active : row.retiredAt = none

theorem streamRow_shows (stored : Option StreamRow) : (streamRow run station stream stored).Shows station stream :=
  ⟨rfl,rfl,rfl,rfl,rfl,rfl⟩

theorem putStream_ok {key : SourceKey} (named : key = ⟨source,stream.sourceStreamId⟩)
    (put : putStream source run db station stream = some db') :
    (∃ row, db.stations[station.id]? = some row) ∧ (∀ rate ∈ stream.bitrateKbps, 0 < rate) ∧
    (stream.isPrimary = true → ∀ (other : SourceKey) row, db.streams[other]? = some row → other ≠ key →
      row.stationId = station.id → row.isPrimary = false) ∧
    db' = {db with streams := db.streams.insert key (streamRow run station stream db.streams[key]?)} := by
  subst named
  unfold putStream at put
  dsimp only at put
  split at put
  · rename_i allowed
    simp only [Bool.and_eq_true,Option.isSome_iff_exists,Option.all_eq_true,decide_eq_true_eq,Bool.not_eq_true',
      Bool.and_eq_false_iff,List.any_eq_false] at allowed
    obtain ⟨⟨known,rates⟩,free⟩ := allowed
    refine ⟨known,fun rate given => (rates rate given).1,fun primary key row found other home => ?_,(Option.some.inj put).symm⟩
    have unmarked := (free.resolve_left (by simp [primary])) (key,row) (Table.mem_entries.mpr found)
    simpa [other,home] using unmarked
  · cases put

-- The streams of a station, put one after the other.
structure PutStreams (source : String) (station : ImportedStation) (streams : List ImportedStream) (before after : CatalogDb E) :
    Prop where
  tables : after = {before with streams := after.streams}
  put : ∀ key : SourceKey, (∃ stream ∈ streams, key = ⟨source,stream.sourceStreamId⟩ ∧
      ∃ row, after.streams[key]? = some row ∧ row.Shows station stream ∧ ∀ rate ∈ row.bitrateKbps, 0 < rate) ∨
    ((∀ stream ∈ streams, key ≠ ⟨source,stream.sourceStreamId⟩) ∧ after.streams[key]? = before.streams[key]?)
  known : streams ≠ [] → ∃ row, before.stations[station.id]? = some row

def OnePrimary (streams : Table SourceKey StreamRow) : Prop := ∀ (key other : SourceKey) row row', streams[key]? = some row →
  streams[other]? = some row' → row.isPrimary = true → row'.isPrimary = true → row.stationId = row'.stationId → key = other

theorem putStream_onePrimary (one : OnePrimary db.streams) (put : putStream source run db station stream = some db') :
    OnePrimary db'.streams := by
  obtain ⟨_,_,free,rfl⟩ := putStream_ok rfl put
  intro key other row row' found found' primary primary' home
  dsimp only at found found'
  rw [Table.get_insert] at found found'
  split at found
  · rename_i mine
    cases found
    split at found'
    · rename_i theirs
      exact mine.symm.trans theirs
    · rename_i apart
      have unmarked := free primary other row' found' (Ne.symm apart) home.symm
      rw [unmarked] at primary'
      cases primary'
  · rename_i apart
    split at found'
    · cases found'
      have unmarked := free primary' key row found (Ne.symm apart) home
      rw [unmarked] at primary
      cases primary
    · exact one key other row row' found found' primary primary' home

theorem upsertStreams_ok (ran : streams.foldlM (upsertStream refuses source run station) db = .ok db') :
    PutStreams source station streams db db' ∧ (OnePrimary db.streams → OnePrimary db'.streams) := by
  refine fold_ok (fun done after => PutStreams source station done db after ∧ (OnePrimary db.streams → OnePrimary after.streams))
    ⟨⟨rfl,fun key => .inr ⟨by simp,rfl⟩,by simp⟩,id⟩ ?_ ran
  intro done stream rest middle after _ ⟨held,one⟩ stepped
  have put := statement_ok stepped
  refine ⟨?_,fun before => putStream_onePrimary (one before) put⟩
  obtain ⟨known,rates,_,rfl⟩ := putStream_ok rfl put
  have stations : middle.stations = db.stations := by rw [held.tables]
  refine ⟨?_,fun key => ?_,fun _ => stations ▸ known⟩
  · rw [held.tables]
  · dsimp only
    rw [Table.get_insert]
    split
    · rename_i mine
      exact .inl ⟨stream,by simp,mine.symm,_,rfl,streamRow_shows _,rates⟩
    · rename_i other
      rcases held.put key with ⟨earlier,member,same,shown⟩ | ⟨outside,same⟩
      · exact .inl ⟨earlier,List.mem_append_left _ member,same,shown⟩
      · refine .inr ⟨fun any member => ?_,same⟩
        rcases List.mem_append.mp member with earlier | last
        · exact outside any earlier
        · rw [List.mem_singleton.mp last]
          exact fun equal => other equal.symm

def Identified (stations : Table String StationRow) : Prop := ∀ (id other : String) row row', stations[id]? = some row →
  stations[other]? = some row' → row.source = row'.source → row.sourceStationId = row'.sourceStationId → id = other

-- What the tables of stations and streams always satisfy.
structure Sound (db : CatalogDb E) : Prop where
  identity : Identified db.stations
  named : ∀ (id : String) row, db.stations[id]? = some row → row.source = rockcatalogSource → row.sourceStationId = id
  home : ∀ (key : SourceKey) row, db.streams[key]? = some row →
    ∃ station, db.stations[row.stationId]? = some station ∧ station.source = key.source
  onePrimary : OnePrimary db.streams
  withdrawn : ∀ (key : SourceKey) row, db.streams[key]? = some row → row.retiredAt ≠ none →
    key.source = rockcatalogSource ∧ row.isPrimary = false
  retired : ∀ (id : String) row, db.stations[id]? = some row → row.retiredAt ≠ none → row.source = rockcatalogSource ∧
    ∀ (key : SourceKey) stream, db.streams[key]? = some stream → stream.stationId = id → stream.isPrimary = false
  rates : ∀ (key : SourceKey) row, db.streams[key]? = some row → ∀ rate ∈ row.bitrateKbps, 0 < rate

theorem empty_sound : Sound (CatalogDb.empty : CatalogDb E) := by
  refine ⟨?_,?_,?_,?_,?_,?_,?_⟩
  · intro id other row row' found
    simp [CatalogDb.empty] at found
  · intro id row found
    simp [CatalogDb.empty] at found
  · intro key row found
    simp [CatalogDb.empty] at found
  · intro key other row row' found
    simp [CatalogDb.empty] at found
  · intro key row found
    simp [CatalogDb.empty] at found
  · intro id row found
    simp [CatalogDb.empty] at found
  · intro key row found
    simp [CatalogDb.empty] at found

-- One station, upserted.
structure Upserted (unicode : Unicode) (source : String) (run : Uuid) (station : ImportedStation) (before after : CatalogDb E) :
    Prop where
  stations : after.stations = before.stations.insert station.id (stationRow unicode source run station)
  own : ∀ row, before.stations[station.id]? = some row → row.source = source ∧ row.sourceStationId = station.sourceStationId
  sole : ∀ (id : String) row, before.stations[id]? = some row → row.source = source → row.sourceStationId = station.sourceStationId →
    id = station.id
  icons : ∀ id : String, id ≠ station.id → after.icons[id]? = before.icons[id]?
  embeddings : after.embeddings =
    if metadataChanged source before station then (deleteEmbeddings before station).embeddings else before.embeddings
  tombstones : after.tombstones = before.tombstones
  runs : after.runs = before.runs
  put : ∀ key : SourceKey, (∃ stream ∈ station.streams, key = ⟨source,stream.sourceStreamId⟩ ∧
      ∃ row, after.streams[key]? = some row ∧ row.Shows station stream ∧ ∀ rate ∈ row.bitrateKbps, 0 < rate) ∨
    ((∀ stream ∈ station.streams, key ≠ ⟨source,stream.sourceStreamId⟩) ∧
      after.streams[key]? = (before.streams[key]?).map (unmarked source station key))
  onePrimary : OnePrimary before.streams → OnePrimary after.streams
  primary : station.streams.countP (·.isPrimary) = 1

theorem unmarked_onePrimary (one : OnePrimary db.streams) : OnePrimary (resetPrimary source db station).streams := by
  have kept : ∀ (key : SourceKey) row, (resetPrimary source db station).streams[key]? = some row → row.isPrimary = true →
      db.streams[key]? = some row := by
    intro key row found primary
    rw [resetPrimary,Table.get_mapKey,Option.map_eq_some_iff] at found
    obtain ⟨origin,there,rfl⟩ := found
    unfold unmarked at primary ⊢
    split at primary
    · cases primary
    · rename_i other
      rw [if_neg other]
      exact there
  intro key other row row' found found' primary primary'
  exact one key other row row' (kept key row found primary) (kept other row' found' primary') primary primary'

-- A station whose identity is another row's leaves none of its own for the icon.
theorem putStation_ok {middle : CatalogDb E} (identity : Identified db.stations)
    (free : collides source db station = false) (put : putStation unicode source run db station = some middle)
    (there : (middle.stations[station.id]?).isSome) :
    middle = {db with stations := db.stations.insert station.id (stationRow unicode source run station)} ∧
    (∀ row, db.stations[station.id]? = some row → row.source = source ∧ row.sourceStationId = station.sourceStationId) ∧
    ∀ (id : String) row, db.stations[id]? = some row → row.source = source → row.sourceStationId = station.sourceStationId →
      id = station.id := by
  have own : ∀ row, db.stations[station.id]? = some row → row.source = source ∧ row.sourceStationId = station.sourceStationId := by
    intro row found
    simpa [collides,found,identified] using free
  unfold putStation at put
  split at put
  · rename_i entry held
    have same := List.find?_some held
    simp only [identified,Bool.and_eq_true,decide_eq_true_eq] at same
    have stored := Table.mem_entries.mp (List.mem_of_find?_eq_some held)
    have settled : entry.1 = station.id := by
      cases put
      rw [Table.get_insert] at there
      split at there
      · assumption
      · obtain ⟨row,found⟩ := Option.isSome_iff_exists.mp there
        obtain ⟨source,id⟩ := own row found
        exact identity _ _ _ _ stored found (same.1.trans source.symm) (same.2.trans id.symm)
    refine ⟨?_,own,fun id row found source id' => ?_⟩
    · rw [← settled]
      exact (Option.some.inj put).symm
    · rw [← settled]
      exact identity _ _ _ _ found stored (source.trans same.1.symm) (id'.trans same.2.symm)
  · rename_i none
    split at put
    · cases put
    · refine ⟨(Option.some.inj put).symm,own,fun id row found source id' => ?_⟩
      have missed := List.find?_eq_none.mp none (id,row) (Table.mem_entries.mpr found)
      simp [identified,source,id'] at missed

theorem putIcon_ok (put : putIcon db station = some db') : (db.stations[station.id]?).isSome ∧
    db' = {db with icons := db.icons.insert station.id (iconRow station db.icons[station.id]?)} := by
  unfold putIcon at put
  split at put
  · rename_i there
    exact ⟨there,(Option.some.inj put).symm⟩
  · cases put

theorem invalidate_ok {changed : Bool} (ran : invalidate refuses changed station db = .ok db') :
    db' = {db with embeddings := if changed then (deleteEmbeddings db station).embeddings else db.embeddings} := by
  unfold invalidate at ran
  split at ran
  · rename_i yes
    rw [if_pos yes]
    exact (Option.some.inj (statement_ok ran)).symm
  · rename_i no
    rw [if_neg no]
    exact (Except.ok.inj ran).symm

theorem upsertStation_ok (sound : Sound db) (ran : upsertStation refuses unicode source run db station = .ok db') :
    Upserted unicode source run station db db' := by
  unfold upsertStation at ran
  obtain ⟨_,shaped,ran⟩ := bind_ok.mp ran
  obtain ⟨collision,asked,ran⟩ := bind_ok.mp ran
  obtain ⟨_,free,ran⟩ := bind_ok.mp ran
  obtain ⟨changed,compared,ran⟩ := bind_ok.mp ran
  obtain ⟨first,station_put,ran⟩ := bind_ok.mp ran
  obtain ⟨second,icon_put,ran⟩ := bind_ok.mp ran
  obtain ⟨third,invalidated,ran⟩ := bind_ok.mp ran
  obtain ⟨fourth,reset,ran⟩ := bind_ok.mp ran
  have primary : station.streams.countP (·.isPrimary) = 1 := by
    have good := rejecting_ok.mp shaped
    simp only [Bool.or_eq_false_iff,decide_eq_false_iff_not,not_not] at good
    exact good.2
  have apart : collides source db station = false := by
    rw [← query_ok asked]
    exact rejecting_ok.mp free
  obtain ⟨there,rfl⟩ := putIcon_ok (statement_ok icon_put)
  obtain ⟨rfl,own,sole⟩ := putStation_ok sound.identity apart (statement_ok station_put) there
  cases query_ok compared
  cases invalidate_ok invalidated
  cases Option.some.inj (statement_ok reset)
  obtain ⟨streams,one⟩ := upsertStreams_ok ran
  refine ⟨?_,own,sole,?_,?_,?_,?_,?_,fun before => one (unmarked_onePrimary before),primary⟩
  · rw [streams.tables]
    rfl
  · intro id other
    rw [streams.tables]
    exact Table.get_insert_ne (Ne.symm other)
  · rw [streams.tables]
    rfl
  · rw [streams.tables]
    rfl
  · rw [streams.tables]
    rfl
  · intro key
    refine (streams.put key).imp_right fun other => ⟨other.1,other.2.trans ?_⟩
    exact Table.get_mapKey

namespace Upserted
variable (done : Upserted unicode source run station db db')
include done

theorem station_get (id : String) : db'.stations[id]? =
    if station.id = id then some (stationRow unicode source run station) else db.stations[id]? := by
  rw [done.stations,Table.get_insert]

-- A row of a stream afterwards: an upserted one, or one from before, perhaps unmarked.
theorem stream_get {key : SourceKey} {row : StreamRow} (found : db'.streams[key]? = some row) :
    (key.source = source ∧ row.stationId = station.id ∧ row.retiredAt = none ∧ ∀ rate ∈ row.bitrateKbps, 0 < rate) ∨
    ∃ stored, db.streams[key]? = some stored ∧ row = unmarked source station key stored := by
  rcases done.put key with ⟨stream,_,rfl,row',found',shows,rates⟩ | ⟨_,same⟩
  · cases found.symm.trans found'
    exact .inl ⟨rfl,shows.station,shows.active,rates⟩
  · rw [found,eq_comm,Option.map_eq_some_iff] at same
    obtain ⟨stored,there,became⟩ := same
    exact .inr ⟨stored,there,became.symm⟩

theorem station_kept {id : String} {row : StationRow} (found : db.stations[id]? = some row) :
    ∃ row', db'.stations[id]? = some row' ∧ row'.source = row.source := by
  rw [done.station_get]
  split
  · rename_i same
    subst same
    exact ⟨_,rfl,(done.own row found).1.symm⟩
  · exact ⟨row,found,rfl⟩

end Upserted

section unmarked
variable {key : SourceKey} {row : StreamRow}

@[simp]
theorem unmarked_stationId : (unmarked source station key row).stationId = row.stationId := by
  unfold unmarked
  split <;> rfl

@[simp]
theorem unmarked_retiredAt : (unmarked source station key row).retiredAt = row.retiredAt := by
  unfold unmarked
  split <;> rfl

@[simp]
theorem unmarked_bitrate : (unmarked source station key row).bitrateKbps = row.bitrateKbps := by
  unfold unmarked
  split <;> rfl

theorem unmarked_primary (free : row.isPrimary = false) : (unmarked source station key row).isPrimary = false := by
  unfold unmarked
  split
  · rfl
  · exact free

theorem unmarked_other (other : key.source ≠ source) : unmarked source station key row = row := by
  unfold unmarked
  rw [if_neg]
  simp [other]

end unmarked

theorem Upserted.sound (done : Upserted unicode source run station db db') (sound : Sound db)
    (named : source = rockcatalogSource → station.sourceStationId = station.id) : Sound db' := by
  refine ⟨?_,?_,?_,done.onePrimary sound.onePrimary,?_,?_,?_⟩
  · intro id other row row' found found' source id'
    rw [done.station_get] at found found'
    split at found
    · cases found
      split at found'
      · rename_i first second
        exact first.symm.trans second
      · rename_i first _
        exact first.symm.trans (done.sole other row' found' source.symm id'.symm).symm
    · split at found'
      · rename_i second
        cases found'
        exact (done.sole id row found source id').trans second
      · exact sound.identity id other row row' found found' source id'
  · intro id row found rock
    rw [done.station_get] at found
    split at found
    · rename_i same
      cases found
      exact (named rock).trans same
    · exact sound.named id row found rock
  · intro key row found
    rcases done.stream_get found with ⟨source,home,_⟩ | ⟨stored,there,rfl⟩
    · refine ⟨stationRow unicode _ run station,?_,source.symm⟩
      rw [home,done.station_get,if_pos rfl]
    · obtain ⟨origin,held,owned⟩ := sound.home key stored there
      obtain ⟨row',kept,same⟩ := done.station_kept held
      exact ⟨row',by simpa using kept,same.trans owned⟩
  · intro key row found gone
    rcases done.stream_get found with ⟨_,_,active,_⟩ | ⟨stored,there,rfl⟩
    · exact absurd active gone
    · rw [unmarked_retiredAt] at gone
      exact (sound.withdrawn key stored there gone).imp_right unmarked_primary
  · intro id row found gone
    rw [done.station_get] at found
    split at found
    · cases found
      exact absurd rfl gone
    · rename_i other
      obtain ⟨rock,bare⟩ := sound.retired id row found gone
      refine ⟨rock,fun key stream there home => ?_⟩
      rcases done.stream_get there with ⟨_,mine,_⟩ | ⟨stored,before,rfl⟩
      · exact absurd (mine.symm.trans home) other
      · exact unmarked_primary (bare key stored before (by simpa using home))
  · intro key row found
    rcases done.stream_get found with ⟨_,_,_,rates⟩ | ⟨stored,there,rfl⟩
    · exact rates
    · rw [unmarked_bitrate]
      exact sound.rates key stored there

end CatalogImport
