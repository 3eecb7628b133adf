import RockServer.CatalogTables

-- The rows of a mobile release: the stations that are eligible, and the SQLite
-- database that they are written to.
namespace MobileExport
open CatalogImport (CatalogDb StationRow StreamRow)
open Search (Unicode splitWhitespace)
open StreamUri (toAsciiLowercase)
open Ascending (ascending)

def mobileSchemaVersion : Nat := 1
def defaultMinStationCount : Nat := 16000

structure PostgresMobileStation where
  stationId : String
  source : String
  sourceStationId : String
  name : String
  tags : List String
  countryCode : Option String
  language : Option String
  homepageUrl : Option String
  streamUrl : String
  codec : Option String
  bitrateKbps : Option Nat
deriving DecidableEq

section query
variable {E : Type} (db : CatalogDb E)

def blank (url : String) : Bool := url.toList.all (· == ' ')

-- `^https?://`, in either case.
def overHttp (url : String) : Bool :=
  let lowered := url.toList.map toAsciiLowercase
  "http://".toList.isPrefixOf lowered || "https://".toList.isPrefixOf lowered

def primaries (stationId : String) : List StreamRow := (db.streams.toList.map Prod.snd).filter fun row =>
  row.stationId = stationId && row.retiredAt.isNone && row.isPrimary

def mobileStation (stationId : String) (station : StationRow) (stream : StreamRow) : PostgresMobileStation where
  stationId := stationId
  source := station.source
  sourceStationId := station.sourceStationId
  name := station.name
  tags := station.tags
  countryCode := station.countryCode
  language := station.language
  homepageUrl := station.homepageUrl
  streamUrl := stream.streamUrl
  codec := stream.codec
  bitrateKbps := stream.bitrateKbps

-- A station has to be active and to have one active primary stream.
def eligible (stationId : String) (station : StationRow) : Option PostgresMobileStation :=
  if station.retiredAt.isSome then none
  else match primaries db stationId with
    | [stream] => if blank stream.streamUrl || !overHttp stream.streamUrl then none else some (mobileStation stationId station stream)
    | _ => none

def eligibleStations : List PostgresMobileStation := db.stations.toList.filterMap fun entry => eligible db entry.1 entry.2

end query

structure Metadata where
  catalogVersion : String
  schemaVersion : Nat
  stationCount : Nat
deriving DecidableEq

-- A row of the release; the JSON array of its tags is the list that it holds.
structure MobileStation where
  source : String
  sourceStationId : String
  name : String
  normalizedName : String
  tagsJson : List String
  normalizedTags : String
  countryCode : Option String
  language : Option String
  homepageUrl : Option String
  faviconUrl : Option String
  streamUrl : String
  codec : Option String
  bitrateKbps : Option Nat
deriving DecidableEq

structure SearchRow where
  stationId : String
  normalizedName : String
  normalizedTags : String
deriving DecidableEq

structure MobileTables where
  catalogMetadata : List Metadata
  stations : Table String MobileStation
  stationSearch : List SearchRow

structure MobileDb where
  applicationId : Nat
  userVersion : Nat
  tables : Option MobileTables

section rows
variable (unicode : Unicode)

def normalizeName (value : String) : String := unicode.toLowercase (" ".intercalate (splitWhitespace value))

def normalizeTags (values : List String) : List String :=
  ascending ((values.map (normalizeName unicode)).filter fun value => value ≠ "")

def releaseRow (station : PostgresMobileStation) : MobileStation where
  source := station.source
  sourceStationId := station.sourceStationId
  name := station.name
  normalizedName := normalizeName unicode station.name
  tagsJson := normalizeTags unicode station.tags
  normalizedTags := " ".intercalate (normalizeTags unicode station.tags)
  countryCode := station.countryCode
  language := station.language
  homepageUrl := station.homepageUrl
  faviconUrl := none
  streamUrl := station.streamUrl
  codec := station.codec
  bitrateKbps := station.bitrateKbps

-- The primary key and the unique index of a release.
def collides (tables : MobileTables) (station : PostgresMobileStation) : Bool :=
  (tables.stations[station.stationId]?).isSome || tables.stations.toList.any fun entry =>
    entry.2.source = station.source && entry.2.sourceStationId = station.sourceStationId

def MobileTables.add (tables : MobileTables) (station : PostgresMobileStation) : MobileTables := {tables with
  stations := tables.stations.insert station.stationId (releaseRow unicode station)
  stationSearch := tables.stationSearch ++
    [⟨station.stationId,normalizeName unicode station.name," ".intercalate (normalizeTags unicode station.tags)⟩]}

end rows
end MobileExport
