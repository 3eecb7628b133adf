import RockServer.CatalogRuns
import RockServer.Keyset

-- The stations that the catalog shows, from memory and from the tables.
namespace Search
open CatalogImport

structure Station where
  id : String
  name : String
  streamUrl : String
  homepageUrl : Option String
  faviconUrl : Option String
  tags : List String
  language : Option String
  countryCode : Option String
  codec : Option String
  bitrateKbps : Option Nat
  health : StationHealth
deriving DecidableEq

structure InMemoryStationRepository where
  stations : List Station

namespace InMemoryStationRepository
variable (unicode : Unicode) (repository : InMemoryStationRepository)

def fromPinnedCatalog (catalog : PinnedSharedCatalog) : InMemoryStationRepository where
  stations := catalog.stations.filterMap fun station => (station.streams.find? (·.isPrimary)).map fun stream =>
    { id := station.id
      name := station.name
      streamUrl := stream.streamUrl
      homepageUrl := station.homepageUrl
      faviconUrl := none
      tags := station.tags
      language := station.language
      countryCode := station.countryCode
      codec := stream.codec
      bitrateKbps := stream.bitrateKbps
      health := .unknown }

def listPublic (afterId : Option String) (limit : Nat) : List Station :=
  Keyset.page Station.id repository.stations afterId limit

def matchesText (needle : String) (text : String) : Bool := decide (needle.toList <:+: (unicode.toLowercase text).toList)

def listAdmin (query afterId : Option String) (limit : Nat) : List Station :=
  Keyset.page Station.id (repository.stations.filter fun station => (query.map unicode.toLowercase).all fun needle =>
    matchesText unicode needle station.name || station.tags.any (matchesText unicode needle)) afterId limit

def getPublic (id : String) : Option Station := repository.stations.find? (·.id = id)

end InMemoryStationRepository

-- A station, joined with a primary stream of its own.
structure CatalogRow where
  id : String
  station : StationRow
  stream : StreamRow
  faviconReady : Bool

def CatalogRow.toStation (row : CatalogRow) : Station where
  id := row.id
  name := row.station.name
  streamUrl := row.stream.streamUrl
  homepageUrl := row.station.homepageUrl
  faviconUrl := if row.faviconReady then some ("/api/v1/stations/" ++ row.id ++ "/icon") else none
  tags := row.station.tags
  language := row.station.language
  countryCode := row.station.countryCode
  codec := row.stream.codec
  bitrateKbps := row.stream.bitrateKbps
  health := row.stream.health

def catalogRow {E : Type} (db : CatalogDb E) (stream : StreamRow) : Option CatalogRow :=
  if stream.isPrimary then (db.stations[stream.stationId]?).map fun station =>
    ⟨stream.stationId,station,stream,(db.icons[stream.stationId]?).any fun icon => icon.status = .ready⟩
  else none

def catalogRows {E : Type} (db : CatalogDb E) : List CatalogRow := db.streams.toList.filterMap fun entry => catalogRow db entry.2

-- The database orders and compares texts in its own way.
structure PostgresStationRepository (E : Type) where
  db : CatalogDb E
  collation : LinearOrder String
  lower : String → String
  like : String → String → Bool

namespace PostgresStationRepository
variable {E : Type} (repository : PostgresStationRepository E)

def page (rows : List CatalogRow) (afterId : Option String) (limit : Nat) : List Station :=
  (@Keyset.page _ _ CatalogRow.id repository.collation rows afterId (if limit < 2 ^ 63 then limit else 50)).map CatalogRow.toStation

def listPublic (afterId : Option String) (limit : Nat) : List Station :=
  repository.page (catalogRows repository.db) afterId limit

def matchesText (query text : String) : Bool :=
  repository.like (repository.lower text) ("%" ++ repository.lower query ++ "%")

def listAdmin (query afterId : Option String) (limit : Nat) : List Station :=
  repository.page ((catalogRows repository.db).filter fun row => row.station.retiredAt.isNone && query.all fun query =>
    repository.matchesText query row.station.name || row.station.tags.any (repository.matchesText query)) afterId limit

def getPublic (id : String) : Option Station :=
  ((catalogRows repository.db).find? fun row =>
    row.id = id && row.stream.retiredAt.isNone && row.station.retiredAt.isNone).map CatalogRow.toStation

end PostgresStationRepository

section rows
variable {E : Type} {db : CatalogDb E} {row : CatalogRow}

theorem mem_catalogRows : row ∈ catalogRows db ↔ ∃ (key : SourceKey) (stream : StreamRow), db.streams[key]? = some stream ∧
    stream.isPrimary = true ∧ ∃ station, db.stations[stream.stationId]? = some station ∧
      row = ⟨stream.stationId,station,stream,(db.icons[stream.stationId]?).any fun icon => icon.status = .ready⟩ := by
  simp only [catalogRows,List.mem_filterMap,catalogRow]
  constructor
  · rintro ⟨entry,member,became⟩
    split at became
    · rename_i primary
      obtain ⟨station,found,rfl⟩ := Option.map_eq_some_iff.mp became
      exact ⟨entry.1,entry.2,Table.mem_entries.mp member,primary,station,found,rfl⟩
    · cases became
  · rintro ⟨key,stream,stored,primary,station,found,rfl⟩
    refine ⟨(key,stream),Table.mem_entries.mpr stored,?_⟩
    rw [if_pos primary,found]
    rfl

-- What is shown is not retired.
theorem catalogRows_active (sound : Sound db) (member : row ∈ catalogRows db) :
    row.station.retiredAt = none ∧ row.stream.retiredAt = none := by
  obtain ⟨key,stream,stored,primary,station,found,rfl⟩ := mem_catalogRows.mp member
  constructor
  · refine Decidable.not_not.mp fun gone => ?_
    rw [(sound.retired _ station found gone).2 key stream stored rfl] at primary
    cases primary
  · refine Decidable.not_not.mp fun gone => ?_
    rw [(sound.withdrawn key stream stored gone).2] at primary
    cases primary

theorem catalogRows_distinct (sound : Sound db) : ((catalogRows db).map CatalogRow.id).Nodup := by
  rw [catalogRows,List.map_filterMap,List.Nodup,List.pairwise_filterMap]
  refine (List.pairwise_map.mp Table.keys_distinct).imp_of_mem fun {entry other} member member' apart => ?_
  intro id shown id' shown' same
  have named : ∀ {entry : SourceKey × StreamRow} {id : String}, (catalogRow db entry.2).map CatalogRow.id = some id →
      entry.2.isPrimary = true ∧ entry.2.stationId = id := by
    intro entry id shown
    obtain ⟨row,became,rfl⟩ := Option.map_eq_some_iff.mp shown
    unfold catalogRow at became
    split at became
    · rename_i primary
      obtain ⟨station,_,rfl⟩ := Option.map_eq_some_iff.mp became
      exact ⟨primary,rfl⟩
    · cases became
  obtain ⟨primary,home⟩ := named shown
  obtain ⟨primary',home'⟩ := named shown'
  exact apart (sound.onePrimary entry.1 other.1 entry.2 other.2 (Table.mem_entries.mp member) (Table.mem_entries.mp member')
    primary primary' (home.trans (same.trans home'.symm)))

end rows

end Search
