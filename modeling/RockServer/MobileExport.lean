import RockServer.MobileCatalog
import RockServer.IconRows

-- The export of a mobile release: three files, written one after the other.
namespace MobileExport
open CatalogImport (CatalogDb)
open Search (Unicode)
open IconImport (Hash hex)
open StreamUri (isAsciiDigit)

structure MobileExportConfig where
  catalogVersion : String
  outputDir : String
  minimumStationCount : Nat

structure EligibilityPolicy where
  stationActive : Bool
  primaryStreamActive : Bool
  exactlyOnePrimaryStream : Bool
  httpStreamUrl : Bool
  ordering : String
  deduplication : String
deriving DecidableEq

def strict : EligibilityPolicy :=
  ⟨true,true,true,true,"stations.id ASC","one row per stable stations.id; no cross-provider name or URL merge"⟩

def excludedFields : List String :=
  ["station_streams.health","station_streams.last_probe_at","station_streams.last_probe_error","station_embeddings","import_runs",
    "last_import_run_id","created_at","updated_at","credentials","provider-private operational metadata"]

structure MobileGapReport where
  reportSchemaVersion : Nat
  catalogVersion : String
  eligibleStationCount : Nat
  requiredMinimumStationCount : Nat
  status : String
  eligibility : EligibilityPolicy
  excludedServerOnlyFields : List String
deriving DecidableEq

structure MobileReleaseReport where
  reportSchemaVersion : Nat
  catalogVersion : String
  eligibleStationCount : Nat
  status : String
  eligibility : EligibilityPolicy
  excludedServerOnlyFields : List String
deriving DecidableEq

structure MobileManifest where
  manifestSchemaVersion : Nat
  catalogVersion : String
  databaseSchemaVersion : Nat
  file : String
  sha256 : String
  stationCount : Nat
deriving DecidableEq

-- What a file holds; a write that breaks off leaves a torn one.
inductive File where
  | database (db : MobileDb)
  | manifest (manifest : MobileManifest)
  | eligibilityReport (report : MobileReleaseReport)
  | gapReport (report : MobileGapReport)
  | torn

abbrev Files := Table String File

-- The bytes of a file, and their hash.
structure Libraries where
  bytes : File → List UInt8
  digest : List UInt8 → Hash

structure MobileReleaseArtifacts where
  databasePath : String
  manifestPath : String
  eligibilityReportPath : String
  stationCount : Nat
  sha256 : String
deriving DecidableEq

inductive MobileExportOutcome where
  | released (artifacts : MobileReleaseArtifacts)
  | gap (report : MobileGapReport)

inductive MobileExportError where
  | postgreSql
  | sqlite
  | io
  | json
  | invalidConfig (message : String)
  | artifactAlreadyExists (path : String)
  | verification (message : String)
deriving DecidableEq

-- The steps that can fail on their own.
inductive Step where
  | createDir
  | fetch
  | connect
  | pragma
  | schema
  | transaction
  | metadata
  | tagsJson (row : Nat)
  | station (row : Nat)
  | search (row : Nat)
  | commit
  | vacuum
  | close
  | hash
  | openVerify
  | integrity
  | integrityAnswer
  | userVersion
  | count
  | readMetadata
  | searchCount
  | closeVerify
  | manifestJson
  | manifestWrite
  | reportJson
  | reportWrite
  | gapJson
  | gapWrite
deriving DecidableEq

-- Which steps work, and which of the others leave a file behind.
structure Environment where
  works : Step → Bool
  leaves : Step → Bool

section paths
variable (config : MobileExportConfig)

def stem : String := config.outputDir ++ "/rockmobile-extended-" ++ config.catalogVersion
def databasePath : String := stem config ++ ".sqlite"
def manifestPath : String := stem config ++ ".manifest.json"
def eligibilityReportPath : String := stem config ++ ".eligibility-report.json"
def gapReportPath : String := stem config ++ ".gap-report.json"

def releasePaths : List String := [databasePath config,manifestPath config,eligibilityReportPath config]

def gapReport (count : Nat) : MobileGapReport where
  reportSchemaVersion := 1
  catalogVersion := config.catalogVersion
  eligibleStationCount := count
  requiredMinimumStationCount := config.minimumStationCount
  status := "gap_insufficient_eligible_stations_no_sqlite_release_created"
  eligibility := strict
  excludedServerOnlyFields := excludedFields

def releaseReport (count : Nat) : MobileReleaseReport where
  reportSchemaVersion := 1
  catalogVersion := config.catalogVersion
  eligibleStationCount := count
  status := "released_complete_active_playable_catalog"
  eligibility := strict
  excludedServerOnlyFields := excludedFields

def manifest (sha256 : String) (count : Nat) : MobileManifest where
  manifestSchemaVersion := 1
  catalogVersion := config.catalogVersion
  databaseSchemaVersion := mobileSchemaVersion
  file := "rockmobile-extended-" ++ config.catalogVersion ++ ".sqlite"
  sha256 := sha256
  stationCount := count

def safeByte (c : Char) : Bool :=
  ('a' ≤ c && c ≤ 'z') || ('A' ≤ c && c ≤ 'Z') || isAsciiDigit c || c == '.' || c == '-' || c == '_'

end paths

section steps
variable (env : Environment) (unicode : Unicode) (lib : Libraries)

abbrev Export (α : Type) := Except MobileExportError α

def attempt (step : Step) (error : MobileExportError) : Export Unit := if env.works step then .ok () else .error error

def validateConfig (config : MobileExportConfig) : Export Unit :=
  if config.catalogVersion = "" || 80 < config.catalogVersion.utf8ByteSize || !config.catalogVersion.toList.all safeByte then
    .error (.invalidConfig "catalog version must be a safe release identifier")
  else if config.minimumStationCount ≠ defaultMinStationCount then
    .error (.invalidConfig "minimum station count must equal the fixed complete-catalog release gate")
  else attempt env .createDir .io

def insertStations (row : Nat) : List PostgresMobileStation → MobileTables → Export MobileTables
  | [],tables => .ok tables
  | station :: rest,tables => do
    attempt env (.tagsJson row) .json
    attempt env (.station row) .sqlite
    if collides tables station then .error .sqlite
    attempt env (.search row) .sqlite
    insertStations (row + 1) rest (tables.add unicode station)

def noTables : MobileTables := ⟨[],∅,[]⟩

def fillTables (catalogVersion : String) (stations : List PostgresMobileStation) : Export MobileTables := do
  attempt env .transaction .sqlite
  attempt env .metadata .sqlite
  insertStations env unicode 0 stations ⟨[⟨catalogVersion,mobileSchemaVersion,stations.length⟩],∅,[]⟩

-- What the file holds when the work breaks off is what has been committed.
def writeTables (catalogVersion : String) (stations : List PostgresMobileStation) : Export Unit × MobileDb :=
  let pristine : MobileDb := ⟨0,0,none⟩
  if !env.works .pragma then (.error .sqlite,pristine)
  else
    let stamped : MobileDb := ⟨1381124436,1,none⟩
    if !env.works .schema then (.error .sqlite,stamped)
    else
      let created : MobileDb := {stamped with tables := some noTables}
      match fillTables env unicode catalogVersion stations with
      | .error error => (.error error,created)
      | .ok tables =>
        if !env.works .commit then (.error .sqlite,created)
        else (attempt env .vacuum .sqlite >>= fun _ => attempt env .close .sqlite,{stamped with tables := some tables})

-- Connecting creates the file.
def writeSqliteDatabase (path catalogVersion : String) (stations : List PostgresMobileStation) (files : Files) : Export Unit × Files :=
  if !env.works .connect then (.error .sqlite,if env.leaves .connect then files.insert path .torn else files)
  else
    let (result,db) := writeTables env unicode catalogVersion stations
    (result,files.insert path (.database db))

def fileSha256 (path : String) (files : Files) : Export String := do
  attempt env .hash .io
  match files[path]? with
  | none => .error .io
  | some file => .ok (hex (lib.digest (lib.bytes file)))

def refute (condition : Bool) (message : String) : Export Unit := if condition then .error (.verification message) else .ok ()

def verifySqliteDatabase (path : String) (expectedCount : Nat) (expectedVersion : String) (files : Files) : Export Unit :=
  match files[path]? with
  | some (.database db) => do
    attempt env .openVerify .sqlite
    attempt env .integrity .sqlite
    refute (!env.works .integrityAnswer) "PRAGMA integrity_check did not return ok"
    attempt env .userVersion .sqlite
    refute (db.userVersion ≠ mobileSchemaVersion) "SQLite user_version mismatched"
    match db.tables with
    | none => .error .sqlite
    | some tables =>
      let count := Table.count (fun _ _ => true) tables.stations
      attempt env .count .sqlite
      attempt env .readMetadata .sqlite
      match tables.catalogMetadata with
      | [] => .error .sqlite
      | metadata :: _ =>
        refute (count ≠ expectedCount || metadata.catalogVersion ≠ expectedVersion || metadata.stationCount ≠ expectedCount)
          "SQLite metadata or station count mismatched"
        attempt env .searchCount .sqlite
        refute (tables.stationSearch.length ≠ count) "SQLite FTS index row count mismatched"
        attempt env .closeVerify .sqlite
  | _ => .error .sqlite

def writeJsonReplace (encode write : Step) (path : String) (file : File) (files : Files) : Export Unit × Files :=
  if !env.works encode then (.error .json,files)
  else if !env.works write then (.error .io,if env.leaves write then files.insert path .torn else files)
  else (.ok (),files.insert path file)

def writeJsonNew (encode write : Step) (path : String) (file : File) (files : Files) : Export Unit × Files :=
  if (files[path]?).isSome then (.error (.artifactAlreadyExists path),files)
  else writeJsonReplace env encode write path file files

-- What follows the database: its hash, its verification, and the two other files.
def describe (config : MobileExportConfig) (count : Nat) (files : Files) : Export MobileExportOutcome × Files :=
  match fileSha256 env lib (databasePath config) files with
  | .error error => (.error error,files)
  | .ok sha256 => match verifySqliteDatabase env (databasePath config) count config.catalogVersion files with
    | .error error => (.error error,files)
    | .ok _ =>
      match writeJsonNew env .manifestJson .manifestWrite (manifestPath config) (.manifest (manifest config sha256 count)) files with
      | (.error error,files) => (.error error,files)
      | (.ok _,files) =>
        match writeJsonNew env .reportJson .reportWrite (eligibilityReportPath config)
          (.eligibilityReport (releaseReport config count)) files with
        | (.error error,files) => (.error error,files)
        | (.ok _,files) => (.ok (.released ⟨databasePath config,manifestPath config,eligibilityReportPath config,count,sha256⟩),files)

-- From the creation of the database on.
def release (config : MobileExportConfig) (stations : List PostgresMobileStation) (files : Files) :
    Export MobileExportOutcome × Files :=
  match writeSqliteDatabase env unicode (databasePath config) config.catalogVersion stations files with
  | (.error error,files) => (.error error,files)
  | (.ok _,files) => describe env lib config stations.length files

def exportMobileCatalog {E : Type} (db : CatalogDb E) (config : MobileExportConfig) (files : Files) :
    Export MobileExportOutcome × Files :=
  match validateConfig env config with
  | .error error => (.error error,files)
  | .ok _ =>
    if !env.works .fetch then (.error .postgreSql,files)
    else
      let stations := eligibleStations db
      if stations.length < config.minimumStationCount then
        let report := gapReport config stations.length
        match writeJsonReplace env .gapJson .gapWrite (gapReportPath config) (.gapReport report) files with
        | (.error error,files) => (.error error,files)
        | (.ok _,files) => (.ok (.gap report),files)
      else match (releasePaths config).find? fun path => (files[path]?).isSome with
        | some path => (.error (.artifactAlreadyExists path),files)
        | none => release env unicode lib config stations files

end steps
end MobileExport
