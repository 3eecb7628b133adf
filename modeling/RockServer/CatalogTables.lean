import RockServer.SharedCatalog

-- The catalog's tables, and the statements of an import over them.
namespace CatalogImport
open DeviceControl (Uuid Instant)
open Search (Unicode tokenize)

structure SourceKey where
  source : String
  id : String
deriving DecidableEq

instance : LinearOrder SourceKey := LinearOrder.lift' (fun key => toLex (key.source,key.id)) (by
  rintro ⟨_,_⟩ ⟨_,_⟩ same
  simpa using same)

structure EmbeddingKey where
  stationId : String
  model : String
  version : String
deriving DecidableEq

instance : LinearOrder EmbeddingKey := LinearOrder.lift' (fun key => toLex (key.stationId,toLex (key.model,key.version))) (by
  rintro ⟨_,_,_⟩ ⟨_,_,_⟩ same
  simpa using same)

inductive StationHealth where
  | healthy
  | degraded
  | unknown
deriving DecidableEq

inductive IconStatus where
  | pending
  | ready
  | missing
  | retryableError
  | permanentError
deriving DecidableEq

inductive RunStatus where
  | started
  | completed
  | failed
deriving DecidableEq

structure StationRow where
  name : String
  homepageUrl : Option String
  tags : List String
  language : Option String
  countryCode : Option String
  source : String
  sourceStationId : String
  searchableText : String
  lastImportRunId : Uuid
  retiredAt : Option Instant
deriving DecidableEq

structure StreamRow where
  stationId : String
  streamUrl : String
  codec : Option String
  bitrateKbps : Option Nat
  health : StationHealth
  lastProbeAt : Option Instant
  lastProbeError : Option String
  isPrimary : Bool
  lastImportRunId : Uuid
  retiredAt : Option Instant
deriving DecidableEq

structure IconRow where
  sourceUrl : Option String
  sourcePriority : Nat
  status : IconStatus
  manualOverride : Bool
  refreshNeeded : Bool
deriving DecidableEq

structure TombstoneRow where
  reason : String
  replacementIds : List String
  catalogVersion : String
deriving DecidableEq

structure RunRow where
  source : String
  status : RunStatus
  counts : ImportCounts
  errorSummary : Option String
deriving DecidableEq

-- Streams are keyed by their identity in the source, which is unique.
structure CatalogDb (E : Type) where
  stations : Table String StationRow
  streams : Table SourceKey StreamRow
  icons : Table String IconRow
  embeddings : Table EmbeddingKey E
  tombstones : Table SourceKey TombstoneRow
  runs : Table Uuid RunRow

variable {E : Type}

def CatalogDb.empty : CatalogDb E := ⟨∅,∅,∅,∅,∅,∅⟩

-- What else the database may refuse a statement for, by the message that the
-- code then gives: other constraints, lost connections.
abbrev Refuses (E : Type) := String → CatalogDb E → Bool

abbrev Outcome (α : Type) := Except CatalogImportError α

def failing {α : Type} (message : String) : Outcome α := .error ⟨message⟩

def rejecting (condition : Bool) (message : String) : Outcome Unit := if condition then failing message else .ok ()

def statement (refuses : Refuses E) (message : String) (db : CatalogDb E) (result : Option (CatalogDb E)) :
    Outcome (CatalogDb E) :=
  if refuses message db then failing message else result.elim (failing message) .ok

def query {α : Type} (refuses : Refuses E) (message : String) (db : CatalogDb E) (answer : α) : Outcome α :=
  if refuses message db then failing message else .ok answer

section rows
variable (unicode : Unicode) (source : String) (run : Uuid) (db : CatalogDb E) (station : ImportedStation)

def searchableText : String :=
  " ".intercalate ([station.name," ".intercalate (tokenize unicode station.name)," ".intercalate station.tags,
    station.language.getD "",station.countryCode.getD ""].filter fun part => part ≠ "")

def stationRow : StationRow where
  name := station.name
  homepageUrl := station.homepageUrl
  tags := station.tags
  language := station.language
  countryCode := station.countryCode
  source := source
  sourceStationId := station.sourceStationId
  searchableText := searchableText unicode station
  lastImportRunId := run
  retiredAt := none

def identified (row : StationRow) : Bool := row.source = source && row.sourceStationId = station.sourceStationId

def collides : Bool := (db.stations[station.id]?).any fun row => !identified source station row

def metadataChanged : Bool := db.stations.toList.any fun entry => identified source station entry.2 &&
  (entry.2.name ≠ station.name || entry.2.homepageUrl ≠ station.homepageUrl || entry.2.tags ≠ station.tags ||
    entry.2.language ≠ station.language || entry.2.countryCode ≠ station.countryCode)

-- The conflict is on the identity in the source; the row keeps its id.
def putStation : Option (CatalogDb E) :=
  match db.stations.toList.find? fun entry => identified source station entry.2 with
  | some entry => some {db with stations := db.stations.insert entry.1 (stationRow unicode source run station)}
  | none =>
    if (db.stations[station.id]?).isSome then none
    else some {db with stations := db.stations.insert station.id (stationRow unicode source run station)}

def iconRow (stored : Option IconRow) : IconRow :=
  let status : IconStatus := if station.faviconSourceUrl.isNone then .missing else .pending
  let priority := if station.faviconSourceUrl.isSome then 2 else 0
  match stored with
  | none => ⟨station.faviconSourceUrl,priority,status,false,false⟩
  | some row =>
    if row.manualOverride then row
    else ⟨station.faviconSourceUrl,priority,if row.status = .ready then .ready else status,false,
      row.sourceUrl ≠ station.faviconSourceUrl⟩

def putIcon : Option (CatalogDb E) :=
  if (db.stations[station.id]?).isSome then
    some {db with icons := db.icons.insert station.id (iconRow station db.icons[station.id]?)}
  else none

def deleteEmbeddings : CatalogDb E := {db with embeddings := db.embeddings.filter fun key _ => key.stationId ≠ station.id}

def unmarked (key : SourceKey) (row : StreamRow) : StreamRow :=
  if row.stationId = station.id && key.source = source then {row with isPrimary := false} else row

def resetPrimary : CatalogDb E := {db with streams := db.streams.map (unmarked source station)}

def streamRow (stream : ImportedStream) (stored : Option StreamRow) : StreamRow :=
  let same := stored.filter fun row => row.streamUrl = stream.streamUrl
  { stationId := station.id
    streamUrl := stream.streamUrl
    codec := stream.codec
    bitrateKbps := stream.bitrateKbps
    health := (same.map (·.health)).getD .unknown
    lastProbeAt := same.bind (·.lastProbeAt)
    lastProbeError := same.bind (·.lastProbeError)
    isPrimary := stream.isPrimary
    lastImportRunId := run
    retiredAt := none }

-- A rate is stored as a positive 32-bit number. The station must be there, and
-- have no other primary stream.
def putStream (stream : ImportedStream) : Option (CatalogDb E) :=
  let key : SourceKey := ⟨source,stream.sourceStreamId⟩
  let taken := db.streams.toList.any fun entry => entry.1 ≠ key && entry.2.stationId = station.id && entry.2.isPrimary
  if (db.stations[station.id]?).isSome && stream.bitrateKbps.all (fun rate => 0 < rate && rate < 2^31) &&
      !(stream.isPrimary && taken) then
    some {db with streams := db.streams.insert key (streamRow run station stream db.streams[key]?)}
  else none

end rows

section imports
variable (refuses : Refuses E) (unicode : Unicode) (source : String) (run : Uuid) (now : Instant)

def ensureStartedRun (db : CatalogDb E) : Outcome Unit := do
  let ownsRun ← query refuses "PostgreSQL import ownership check failed" db
    ((db.runs[run]?).any fun row => row.source = source && row.status = .started)
  rejecting (!ownsRun) "PostgreSQL import run ownership mismatch"

def upsertStream (station : ImportedStation) (db : CatalogDb E) (stream : ImportedStream) : Outcome (CatalogDb E) :=
  statement refuses "PostgreSQL stream upsert failed" db (putStream source run db station stream)

def invalidate (changed : Bool) (station : ImportedStation) (db : CatalogDb E) : Outcome (CatalogDb E) :=
  if changed then statement refuses "PostgreSQL embedding invalidation failed" db (some (deleteEmbeddings db station)) else .ok db

def upsertStation (db : CatalogDb E) (station : ImportedStation) : Outcome (CatalogDb E) := do
  rejecting (station.streams.isEmpty || station.streams.countP (·.isPrimary) ≠ 1) "Catalog station streams were invalid"
  let collision ← query refuses "PostgreSQL station collision check failed" db (collides source db station)
  rejecting collision "Catalog station ID collides with another provider"
  let changed ← query refuses "PostgreSQL station metadata check failed" db (metadataChanged source db station)
  let db ← statement refuses "PostgreSQL station upsert failed" db (putStation unicode source run db station)
  let db ← statement refuses "PostgreSQL station icon source upsert failed" db (putIcon db station)
  let db ← invalidate refuses changed station db
  let db ← statement refuses "PostgreSQL stream primary reset failed" db (some (resetPrimary source db station))
  station.streams.foldlM (upsertStream refuses source run station) db

def upsertStations (db : CatalogDb E) (stations : List ImportedStation) : Outcome (CatalogDb E) :=
  stations.foldlM (upsertStation refuses unicode source run) db

def checkedReplacements (reason : TombstoneReason) (replacementIds : List String) : Bool := match reason with
  | .removed => replacementIds.isEmpty
  | .merged => replacementIds.length = 1
  | .split => 2 ≤ replacementIds.length

def putTombstone (version : String) (db : CatalogDb E) (tombstone : ImportedTombstone) : Outcome (CatalogDb E) :=
  let key : SourceKey := ⟨rockcatalogSource,tombstone.id⟩
  statement refuses "PostgreSQL tombstone upsert failed" db
    (if (db.tombstones[key]?).isSome || !checkedReplacements tombstone.reason tombstone.replacementIds then none
    else some {db with tombstones :=
      db.tombstones.insert key ⟨tombstone.reason.asStr,tombstone.replacementIds,version⟩})

def replaceTombstones (catalog : PinnedSharedCatalog) (db : CatalogDb E) : Outcome (CatalogDb E) := do
  let db ← statement refuses "PostgreSQL tombstone replacement failed" db
    (some {db with tombstones := db.tombstones.filter fun key _ => key.source ≠ rockcatalogSource})
  catalog.tombstones.foldlM (putTombstone refuses catalog.catalogVersion) db

def retireStream (kept : List String) (key : SourceKey) (row : StreamRow) : StreamRow :=
  if key.source = rockcatalogSource && !kept.contains key.id && row.retiredAt.isNone then
    {row with retiredAt := some now,isPrimary := false}
  else row

def retireStation (kept : List String) (row : StationRow) : StationRow :=
  if row.source = rockcatalogSource && !kept.contains row.sourceStationId && row.retiredAt.isNone then
    {row with retiredAt := some now}
  else row

def countToI64 (count : UInt64) : Outcome Unit :=
  rejecting (2^63 ≤ count.toNat) "Import count exceeded bigint"

-- Only a run that is started can be finished.
def finishRun (status : RunStatus) (counts : ImportCounts) (errorSummary : Option String) (db : CatalogDb E) :
    Outcome (CatalogDb E) := do
  countToI64 counts.fetched
  countToI64 counts.imported
  countToI64 counts.skipped
  countToI64 counts.failed
  let (db,affected) ← query refuses "PostgreSQL import run finalization failed" db
    (match (db.runs[run]?).filter fun row => row.status = .started with
    | some row => ({db with runs := db.runs.insert run ⟨row.source,status,counts,errorSummary⟩},1)
    | none => (db,0))
  rejecting (affected ≠ 1) "PostgreSQL import run was not in the started state"
  .ok db

def startRun (db : CatalogDb E) : Outcome (CatalogDb E) :=
  statement refuses "PostgreSQL import run creation failed" db
    (if (db.runs[run]?).isSome then none else some {db with runs := db.runs.insert run ⟨source,.started,{},none⟩})

def failRun (counts : ImportCounts) (errorSummary : String) (db : CatalogDb E) : Outcome (CatalogDb E) :=
  finishRun refuses run .failed counts (some (String.ofList (errorSummary.toList.take 500))) db

-- The beginning of a transaction, or its commit.
def boundary (message : String) (db : CatalogDb E) : Outcome (CatalogDb E) := statement refuses message db (some db)

def streamIds (catalog : PinnedSharedCatalog) : List String :=
  catalog.stations.flatMap fun station => station.streams.map (·.sourceStreamId)

def activateSharedCatalogInTransaction (catalog : PinnedSharedCatalog) (counts : ImportCounts) (db : CatalogDb E) :
    Outcome (CatalogDb E) := do
  let db ← boundary refuses "PostgreSQL shared catalog transaction failed" db
  ensureStartedRun refuses rockcatalogSource run db
  let db ← upsertStations refuses unicode rockcatalogSource run db catalog.stations
  let db ← replaceTombstones refuses catalog db
  let stationIds := catalog.stations.map (·.sourceStationId)
  let db ← statement refuses "PostgreSQL shared stream retirement failed" db
    (some {db with streams := db.streams.map (retireStream now (streamIds catalog))})
  let db ← statement refuses "PostgreSQL shared station retirement failed" db
    (some {db with stations := db.stations.map fun _ => retireStation now stationIds})
  let db ← finishRun refuses run .completed {counts with imported := UInt64.ofNat catalog.stations.length} none db
  boundary refuses "PostgreSQL shared catalog transaction commit failed" db

-- The run is started before the transaction, and a failure recorded after it.
def activateSharedCatalog (catalog : PinnedSharedCatalog) (db : CatalogDb E) : Outcome Uuid × CatalogDb E :=
  let counts : ImportCounts := {fetched := UInt64.ofNat catalog.stations.length}
  match startRun refuses rockcatalogSource run db with
  | .error error => (.error error,db)
  | .ok started => match activateSharedCatalogInTransaction refuses unicode run now catalog counts started with
    | .ok db' => (.ok run,db')
    | .error error => match failRun refuses run counts error.summary started with
      | .ok failed => (.error error,failed)
      | .error unrecorded => (.error unrecorded,started)

def upsertBatch (stations : List ImportedStation) (db : CatalogDb E) : Outcome Nat × CatalogDb E :=
  match (do
    let db ← boundary refuses "PostgreSQL import transaction failed" db
    ensureStartedRun refuses source run db
    let db ← upsertStations refuses unicode source run db stations
    boundary refuses "PostgreSQL import transaction commit failed" db) with
  | .ok db' => (.ok stations.length,db')
  | .error error => (.error error,db)

end imports

end CatalogImport
