import RockServer.CatalogRecords
import RockServer.OutboundFetches
import RockServer.SearchText

-- Releases of the shared catalog: what a document must satisfy, and what becomes
-- of one that does.
namespace CatalogImport
open Egress (Url UrlLibrary)
open Search (Unicode trim)

def rockcatalogSource : String := "rockcatalog"

inductive SharedCatalogError where
  | checksumMismatch
  | invalidStructure (message : String)
  | invalidInvariant (message : String)
deriving DecidableEq

structure CatalogStream where
  id : String
  url : String
  codec : Option String
  bitrateKbps : Option Nat
  primary : Bool

structure CatalogStation where
  id : String
  name : String
  aliases : List String
  legacyIds : List String
  tags : List String
  countryCode : Option String
  language : Option String
  homepageUrl : Option String
  faviconUrl : Option String
  streams : List CatalogStream

structure CatalogTombstone where
  id : String
  reason : String
  replacementIds : List String

structure CatalogDocument where
  schemaVersion : Nat
  catalogVersion : String
  stations : List CatalogStation
  tombstones : List CatalogTombstone

structure PinnedSharedCatalog where
  catalogVersion : String
  stations : List ImportedStation
  tombstones : List ImportedTombstone

def isAsciiLower (c : Char) : Bool := 'a' ≤ c && c ≤ 'z'
def isAsciiUpper (c : Char) : Bool := 'A' ≤ c && c ≤ 'Z'
def isAsciiDigit (c : Char) : Bool := '0' ≤ c && c ≤ '9'

def adjacent {α : Type} (values : List α) : List (α × α) := values.zip values.tail

def validId (value : String) (maximum : Nat) : Bool :=
  value ≠ "" && value.utf8ByteSize ≤ maximum && value.toList.head? ≠ some '-' && value.toList.getLast? ≠ some '-' &&
    (adjacent value.toList).all (fun pair => !(pair.1 == '-' && pair.2 == '-')) &&
    value.toList.all fun c => isAsciiLower c || isAsciiDigit c || c == '-'

def normalizedValues (unicode : Unicode) (values : List String) : Bool :=
  values.all (fun value => value ≠ "" && trim value = value && value = unicode.toLowercase value) &&
    (adjacent values).all fun pair => pair.1 < pair.2

def validUrl (library : UrlLibrary) (value : String) : Bool := (library.parse value).any fun parsed =>
  (parsed.scheme = "http" || parsed.scheme = "https") && parsed.host.isSome && parsed.username = "" &&
    parsed.password.isNone && parsed.fragment.isNone && value.utf8ByteSize ≤ 2048

def validStream (library : UrlLibrary) (stream : CatalogStream) : Bool :=
  validId stream.id 31 && validUrl library stream.url &&
    stream.codec.all (fun value => value ≠ "" && value.utf8ByteSize ≤ 32 && value.toList.all fun c =>
      isAsciiLower c || isAsciiDigit c || c == '.' || c == '+' || c == '-') &&
    stream.bitrateKbps.all fun value => 1 ≤ value && value ≤ 2000

def validMetadata (library : UrlLibrary) (station : CatalogStation) : Bool :=
  station.countryCode.all (fun value => value.utf8ByteSize = 2 && value.toList.all isAsciiUpper) &&
    station.language.all (fun value => 2 ≤ value.utf8ByteSize && value.utf8ByteSize ≤ 3 && value.toList.all isAsciiLower) &&
    station.homepageUrl.all (validUrl library) && station.faviconUrl.all (validUrl library)

def demand (condition : Bool) (message : String) : Except SharedCatalogError Unit :=
  if condition then .ok () else .error (.invalidInvariant message)

variable (library : UrlLibrary) (unicode : Unicode)

-- One station, after those whose identifiers are taken.
def validateStation (stationIds legacyIds : List String) (station : CatalogStation) : Except SharedCatalogError Unit := do
  demand (!stationIds.contains station.id && validId station.id 96) "station IDs must be unique lowercase kebab-case values"
  demand (trim station.name = station.name && station.name ≠ "" && station.name.utf8ByteSize ≤ 200)
    "station names must be trimmed text"
  demand (station.aliases.all fun value => trim value = value && value ≠ "") "aliases must be trimmed text"
  demand (decide (legacyIds ++ station.legacyIds).Nodup) "legacy IDs must be globally unique"
  demand (normalizedValues unicode station.tags) "tags must be normalized and sorted"
  demand (validMetadata library station) "station metadata is invalid"
  demand (!station.streams.isEmpty) "stations require streams"
  demand (station.streams.countP (·.primary) = 1) "stations require exactly one primary stream"
  demand (decide (station.streams.map (·.id)).Nodup && decide (station.streams.map (·.url)).Nodup &&
    station.streams.all (validStream library)) "stream metadata is invalid"

def validateStations (stationIds legacyIds : List String) : List CatalogStation → Except SharedCatalogError Unit
  | [] => .ok ()
  | station :: rest => do
    validateStation library unicode stationIds legacyIds station
    validateStations (station.id :: stationIds) (legacyIds ++ station.legacyIds) rest

def validShape (tombstone : CatalogTombstone) : Bool :=
  validId tombstone.id 96 &&
    (tombstone.reason = "removed" && tombstone.replacementIds.isEmpty ||
      tombstone.reason = "merged" && tombstone.replacementIds.length = 1 ||
      tombstone.reason = "split" && 2 ≤ tombstone.replacementIds.length)

def validReplacements (stationIds tombstoneIds : List String) (tombstone : CatalogTombstone) : Bool :=
  tombstone.replacementIds.all (fun id => validId id 96 && id ≠ tombstone.id &&
    (stationIds.contains id || tombstoneIds.contains id)) && decide tombstone.replacementIds.Nodup

-- A visit leaves fewer ids of the graph to come.
theorem unvisited_fewer {graph : List (String × List String)} {path children : List String} {id : String}
    (fresh : id ∉ path) (found : graph.lookup id = some children) :
    (graph.filter fun entry => entry.1 ∉ id :: path).length < (graph.filter fun entry => entry.1 ∉ path).length := by
  obtain ⟨before,after,rfl,_⟩ := List.lookup_eq_some_iff.mp found
  have narrowed : ((before ++ (id,children) :: after).filter fun entry => entry.1 ∉ id :: path) =
      ((before ++ (id,children) :: after).filter fun entry => entry.1 ∉ path).filter fun entry => entry.1 ≠ id := by
    rw [List.filter_filter]
    refine List.filter_congr fun entry _ => ?_
    simp [not_or]
  rw [narrowed,List.length_filter_lt_length_iff_exists]
  exact ⟨(id,children),by simp [fresh],by simp⟩

-- The path holds the ids that are being visited.
def replacementGraphHasCycle (graph : List (String × List String)) (path : List String) (id : String) : Bool :=
  if _fresh : id ∈ path then true
  else match _found : graph.lookup id with
    | none => false
    | some children => children.any fun child => replacementGraphHasCycle graph (id :: path) child
termination_by (graph.filter fun entry => entry.1 ∉ path).length
decreasing_by exact unvisited_fewer _fresh _found

section cycle
variable {graph : List (String × List String)} {path children : List String} {id : String}

theorem cycle_leaf (fresh : id ∉ path) (absent : graph.lookup id = none) : replacementGraphHasCycle graph path id = false := by
  rw [replacementGraphHasCycle,dif_neg fresh]
  split
  · rfl
  · rename_i found
    rw [absent] at found
    cases found

theorem cycle_node (fresh : id ∉ path) (listed : graph.lookup id = some children) :
    replacementGraphHasCycle graph path id = children.any (replacementGraphHasCycle graph (id :: path)) := by
  rw [replacementGraphHasCycle,dif_neg fresh]
  split
  · rename_i found
    rw [listed] at found
    cases found
  · rename_i found
    rw [listed] at found
    cases found
    rfl

end cycle

def validateTombstones (stationIds : List String) (tombstones : List CatalogTombstone) : Except SharedCatalogError Unit := do
  let tombstoneIds := tombstones.map (·.id)
  demand (decide tombstoneIds.Nodup && tombstoneIds.all fun id => !stationIds.contains id) "tombstone identities are invalid"
  demand (tombstones.all fun tombstone => validShape tombstone && validReplacements stationIds tombstoneIds tombstone)
    "tombstone replacement graph is invalid"
  let replacements := tombstones.map fun tombstone => (tombstone.id,tombstone.replacementIds)
  demand (tombstoneIds.all fun id => !replacementGraphHasCycle replacements [] id) "tombstone replacement graph contains a cycle"

def validateDocument (document : CatalogDocument) : Except SharedCatalogError Unit := do
  demand (!document.stations.isEmpty) "at least one active station is required"
  validateStations library unicode [] [] document.stations
  validateTombstones (document.stations.map (·.id)) document.tombstones

def reasonOf : String → Option TombstoneReason
  | "removed" => some .removed
  | "merged" => some .merged
  | "split" => some .split
  | _ => none

def ImportedTombstone.ofCatalog (tombstone : CatalogTombstone) : Option ImportedTombstone :=
  (reasonOf tombstone.reason).map fun reason => ⟨tombstone.id,reason,tombstone.replacementIds⟩

def ImportedStation.ofCatalog (station : CatalogStation) : ImportedStation where
  source := rockcatalogSource
  sourceStationId := station.id
  id := station.id
  name := station.name
  homepageUrl := station.homepageUrl
  faviconSourceUrl := station.faviconUrl
  tags := station.tags
  language := station.language
  countryCode := station.countryCode
  streams := station.streams.map fun stream =>
    ⟨station.id ++ ":" ++ stream.id,stream.url,stream.codec,stream.bitrateKbps,stream.primary⟩

-- The decoded document of a release. Other reasons of a tombstone do not pass.
def PinnedSharedCatalog.fromDocument (document : CatalogDocument) (expectedVersion : String) :
    Except SharedCatalogError PinnedSharedCatalog :=
  if document.schemaVersion ≠ 1 then .error (.invalidStructure "schemaVersion must equal 1")
  else if document.catalogVersion ≠ expectedVersion then
    .error (.invalidStructure "catalogVersion does not match the pinned release")
  else (validateDocument library unicode document).map fun _ =>
    ⟨document.catalogVersion,document.stations.map ImportedStation.ofCatalog,
      document.tombstones.filterMap ImportedTombstone.ofCatalog⟩

inductive CatalogReplacement where
  | unknown
  | removed
  | redirect (id : String)
  | ambiguous (ids : List String)
deriving DecidableEq

-- A merge without a replacement would panic.
def PinnedSharedCatalog.replacementFor (catalog : PinnedSharedCatalog) (id : String) : Option CatalogReplacement :=
  match catalog.tombstones.find? (·.id = id) with
  | none => some .unknown
  | some tombstone => match tombstone.reason with
    | .merged => tombstone.replacementIds.head?.map .redirect
    | .split => some (.ambiguous tombstone.replacementIds)
    | .removed => some .removed

section valid
variable {library : UrlLibrary} {unicode : Unicode} {document : CatalogDocument} {expectedVersion : String}
variable {catalog : PinnedSharedCatalog} {stationIds legacyIds : List String} {stations : List CatalogStation}
variable {station : CatalogStation} {tombstone : CatalogTombstone} {tombstones : List CatalogTombstone}

theorem demand_ok {condition : Bool} {message : String} : demand condition message = .ok () ↔ condition = true := by
  unfold demand
  cases condition <;> simp

theorem then_ok {first second : Except SharedCatalogError Unit} :
    (first >>= fun _ => second) = .ok () ↔ first = .ok () ∧ second = .ok () := by
  cases first with
  | error error => simp [Bind.bind,Except.bind]
  | ok done => simp [Bind.bind,Except.bind]

-- What the checks say of a release.
structure ValidStation (library : UrlLibrary) (station : CatalogStation) : Prop where
  id : validId station.id 96 = true
  streams : station.streams ≠ []
  primary : station.streams.countP (·.primary) = 1
  distinct : (station.streams.map (·.id)).Nodup
  valid : ∀ stream ∈ station.streams, validStream library stream = true

theorem validateStation_ok (passed : validateStation library unicode stationIds legacyIds station = .ok ()) :
    station.id ∉ stationIds ∧ ValidStation library station := by
  simp only [validateStation,then_ok,demand_ok,Bool.and_eq_true,Bool.not_eq_true',decide_eq_true_eq] at passed
  obtain ⟨⟨fresh,id⟩,_,_,_,_,_,streams,primary,⟨distinct,_⟩,valid⟩ := passed
  refine ⟨by simpa using fresh,id,?_,primary,distinct,by simpa using valid⟩
  rintro empty
  simp [empty] at streams

theorem validateStations_ok (passed : validateStations library unicode stationIds legacyIds stations = .ok ()) :
    (stations.map (·.id)).Nodup ∧ (∀ station ∈ stations, station.id ∉ stationIds) ∧
    ∀ station ∈ stations, ValidStation library station := by
  induction stations generalizing stationIds legacyIds with
  | nil => exact ⟨List.nodup_nil,by simp,by simp⟩
  | cons station rest ih =>
    obtain ⟨first,later⟩ := then_ok.mp passed
    obtain ⟨fresh,valid⟩ := validateStation_ok first
    obtain ⟨distinct,apart,all⟩ := ih later
    refine ⟨List.nodup_cons.mpr ⟨?_,distinct⟩,?_,?_⟩
    · intro again
      obtain ⟨other,member,same⟩ := List.mem_map.mp again
      exact apart other member (same ▸ List.mem_cons_self)
    · intro other member
      rcases List.mem_cons.mp member with rfl | member
      · exact fresh
      · exact fun taken => apart other member (List.mem_cons_of_mem _ taken)
    · intro other member
      rcases List.mem_cons.mp member with rfl | member
      · exact valid
      · exact all other member

theorem reasonOf_shape (shaped : validShape tombstone = true) : ∃ imported, ImportedTombstone.ofCatalog tombstone = some imported ∧
    imported.id = tombstone.id ∧ imported.replacementIds = tombstone.replacementIds ∧
    (imported.reason = .removed → imported.replacementIds = []) ∧ (imported.reason = .merged → imported.replacementIds.length = 1) ∧
    (imported.reason = .split → 2 ≤ imported.replacementIds.length) := by
  simp only [validShape,Bool.and_eq_true,Bool.or_eq_true,decide_eq_true_eq,List.isEmpty_iff] at shaped
  obtain ⟨_,(⟨reason,shape⟩ | ⟨reason,shape⟩) | ⟨reason,shape⟩⟩ := shaped
  · exact ⟨⟨tombstone.id,.removed,_⟩,by simp [ImportedTombstone.ofCatalog,reason,reasonOf],rfl,rfl,by simp [shape],by simp,by simp⟩
  · exact ⟨⟨tombstone.id,.merged,_⟩,by simp [ImportedTombstone.ofCatalog,reason,reasonOf],rfl,rfl,by simp,by simp [shape],by simp⟩
  · exact ⟨⟨tombstone.id,.split,_⟩,by simp [ImportedTombstone.ofCatalog,reason,reasonOf],rfl,rfl,by simp,by simp,by simp [shape]⟩

end valid

-- Station ids hold no colon, so that a stream's identity names its station.
theorem colon_unique {first second rest rest' : List Char} (plain : ':' ∉ first) (plain' : ':' ∉ second)
    (same : first ++ ':' :: rest = second ++ ':' :: rest') : first = second ∧ rest = rest' := by
  induction first generalizing second with
  | nil =>
    cases second with
    | nil => exact ⟨rfl,(List.cons.inj same).2⟩
    | cons c second => exact absurd (List.mem_cons.mpr (.inl (List.cons.inj same).1)) plain'
  | cons c first ih =>
    cases second with
    | nil => exact absurd (List.mem_cons.mpr (.inl (List.cons.inj same).1.symm)) plain
    | cons d second =>
      obtain ⟨rfl,later⟩ := List.cons.inj same
      obtain ⟨rfl,rest⟩ := ih (fun member => plain (List.mem_cons_of_mem _ member))
        (fun member => plain' (List.mem_cons_of_mem _ member)) later
      exact ⟨rfl,rest⟩

theorem validId_plain {value : String} {maximum : Nat} (valid : validId value maximum = true) : ':' ∉ value.toList := by
  intro member
  simp only [validId,Bool.and_eq_true] at valid
  have colon := List.all_eq_true.mp valid.2 ':' member
  exact absurd colon (by decide)

theorem stream_unique {first second rest rest' : String} {maximum : Nat} (valid : validId first maximum = true)
    (valid' : validId second maximum = true) (same : first ++ ":" ++ rest = second ++ ":" ++ rest') :
    first = second ∧ rest = rest' := by
  have texts := congrArg String.toList same
  simp only [String.toList_append] at texts
  obtain ⟨heads,tails⟩ := colon_unique (validId_plain valid) (validId_plain valid') (by simpa using texts)
  exact ⟨String.toList_inj.mp heads,String.toList_inj.mp tails⟩

-- A release as an import sees it.
structure PinnedSharedCatalog.Valid (catalog : PinnedSharedCatalog) : Prop where
  ids : (catalog.stations.map (·.id)).Nodup
  owned : ∀ station ∈ catalog.stations, station.source = rockcatalogSource ∧ station.sourceStationId = station.id ∧
    validId station.id 96 = true
  streams : (catalog.stations.flatMap fun station => station.streams.map (·.sourceStreamId)).Nodup
  primary : ∀ station ∈ catalog.stations, station.streams.countP (·.isPrimary) = 1
  rates : ∀ station ∈ catalog.stations, ∀ stream ∈ station.streams, ∀ rate ∈ stream.bitrateKbps, 1 ≤ rate ∧ rate ≤ 2000
  retired : (catalog.tombstones.map (·.id)).Nodup
  apart : ∀ tombstone ∈ catalog.tombstones, tombstone.id ∉ catalog.stations.map (·.id)
  known : ∀ tombstone ∈ catalog.tombstones, ∀ id ∈ tombstone.replacementIds,
    id ∈ catalog.stations.map (·.id) ∨ id ∈ catalog.tombstones.map (·.id)
  merged : ∀ tombstone ∈ catalog.tombstones, tombstone.reason = .merged → tombstone.replacementIds.length = 1
  removed : ∀ tombstone ∈ catalog.tombstones, tombstone.reason = .removed → tombstone.replacementIds = []
  split : ∀ tombstone ∈ catalog.tombstones, tombstone.reason = .split → 2 ≤ tombstone.replacementIds.length

section accepted
variable {library : UrlLibrary} {unicode : Unicode} {document : CatalogDocument} {expectedVersion : String}
variable {catalog : PinnedSharedCatalog} {stations : List CatalogStation} {tombstones : List CatalogTombstone}

theorem mem_tombstones (shaped : ∀ tombstone ∈ tombstones, validShape tombstone = true) {imported : ImportedTombstone}
    (member : imported ∈ tombstones.filterMap ImportedTombstone.ofCatalog) : ∃ tombstone ∈ tombstones,
    imported.id = tombstone.id ∧ imported.replacementIds = tombstone.replacementIds ∧
    (imported.reason = .removed → imported.replacementIds = []) ∧ (imported.reason = .merged → imported.replacementIds.length = 1) ∧
    (imported.reason = .split → 2 ≤ imported.replacementIds.length) := by
  obtain ⟨tombstone,listed,became⟩ := List.mem_filterMap.mp member
  obtain ⟨other,same,shape⟩ := reasonOf_shape (shaped tombstone listed)
  cases became.symm.trans same
  exact ⟨tombstone,listed,shape⟩

theorem tombstone_ids (shaped : ∀ tombstone ∈ tombstones, validShape tombstone = true) :
    (tombstones.filterMap ImportedTombstone.ofCatalog).map (·.id) = tombstones.map (·.id) := by
  induction tombstones with
  | nil => rfl
  | cons tombstone rest ih =>
    obtain ⟨imported,became,id,_⟩ := reasonOf_shape (shaped tombstone List.mem_cons_self)
    rw [List.filterMap_cons_some became,List.map_cons,List.map_cons,id,
      ih fun other member => shaped other (List.mem_cons_of_mem _ member)]

theorem station_ids : (stations.map ImportedStation.ofCatalog).map (·.id) = stations.map (·.id) := by
  rw [List.map_map]
  rfl

theorem stream_ids_distinct (ids : (stations.map (·.id)).Nodup) (valid : ∀ station ∈ stations, ValidStation library station) :
    ((stations.map ImportedStation.ofCatalog).flatMap fun station => station.streams.map (·.sourceStreamId)).Nodup := by
  rw [List.flatMap_map,List.nodup_flatMap]
  constructor
  · intro station member
    have distinct := (valid station member).distinct
    simp only [ImportedStation.ofCatalog,List.map_map]
    refine (List.pairwise_map.mp distinct).map _ fun stream other apart same => apart ?_
    exact (stream_unique (valid station member).id (valid station member).id same).2
  · refine (List.pairwise_map.mp ids).imp_of_mem fun {station other} member member' apart => ?_
    intro id first second
    simp only [ImportedStation.ofCatalog,List.map_map,List.mem_map,Function.comp] at first second
    obtain ⟨stream,_,rfl⟩ := first
    obtain ⟨stream',_,same⟩ := second
    exact apart (stream_unique (valid other member').id (valid station member).id same).1.symm

theorem validateDocument_valid (version : String) (passed : validateDocument library unicode document = .ok ()) :
    PinnedSharedCatalog.Valid ⟨version,document.stations.map ImportedStation.ofCatalog,
      document.tombstones.filterMap ImportedTombstone.ofCatalog⟩ := by
  obtain ⟨_,later⟩ := then_ok.mp passed
  obtain ⟨first,second⟩ := then_ok.mp later
  obtain ⟨ids,_,valid⟩ := validateStations_ok first
  simp only [validateTombstones,then_ok,demand_ok,Bool.and_eq_true,decide_eq_true_eq,List.all_eq_true] at second
  obtain ⟨⟨retired,apart⟩,good,_⟩ := second
  have shaped : ∀ tombstone ∈ document.tombstones, validShape tombstone = true := fun tombstone member => (good tombstone member).1
  refine ⟨?_,?_,stream_ids_distinct ids valid,?_,?_,?_,?_,?_,?_,?_,?_⟩
  · rw [station_ids]
    exact ids
  · intro station member
    obtain ⟨origin,listed,rfl⟩ := List.mem_map.mp member
    exact ⟨rfl,rfl,(valid origin listed).id⟩
  · intro station member
    obtain ⟨origin,listed,rfl⟩ := List.mem_map.mp member
    rw [ImportedStation.ofCatalog,List.countP_map]
    exact (valid origin listed).primary
  · intro station member stream inside rate given
    obtain ⟨origin,listed,rfl⟩ := List.mem_map.mp member
    obtain ⟨source,known,rfl⟩ := List.mem_map.mp inside
    have checked := (valid origin listed).valid source known
    simp only [validStream,Bool.and_eq_true,Option.all_eq_true,decide_eq_true_eq] at checked
    exact checked.2 rate given
  · rw [tombstone_ids shaped]
    exact retired
  · intro imported member
    obtain ⟨tombstone,listed,id,_⟩ := mem_tombstones shaped member
    rw [station_ids,id]
    simpa using apart tombstone.id (List.mem_map_of_mem listed)
  · intro imported member id replaces
    obtain ⟨tombstone,listed,_,replacements,_⟩ := mem_tombstones shaped member
    rw [station_ids,tombstone_ids shaped]
    have checked := (good tombstone listed).2
    simp only [validReplacements,Bool.and_eq_true,List.all_eq_true] at checked
    rw [replacements] at replaces
    simpa using (checked.1 id replaces).2
  · intro imported member
    obtain ⟨_,_,_,_,_,merged,_⟩ := mem_tombstones shaped member
    exact merged
  · intro imported member
    obtain ⟨_,_,_,_,removed,_⟩ := mem_tombstones shaped member
    exact removed
  · intro imported member
    obtain ⟨_,_,_,_,_,_,split⟩ := mem_tombstones shaped member
    exact split

theorem fromDocument_valid (loaded : PinnedSharedCatalog.fromDocument library unicode document expectedVersion = .ok catalog) :
    catalog.Valid := by
  unfold PinnedSharedCatalog.fromDocument at loaded
  split at loaded
  · cases loaded
  · split at loaded
    · cases loaded
    · cases passed : validateDocument library unicode document with
      | error error =>
        rw [passed] at loaded
        cases loaded
      | ok done =>
        rw [passed] at loaded
        cases loaded
        exact validateDocument_valid _ passed

end accepted

end CatalogImport
