import Mathlib.Data.String.Basic
import RockServer.CommandWire
import RockServer.Revision
import RockServer.Transition

namespace DeviceControl

-- Manifests as JSON, and the four tables that project the accepted one.
def DeviceRole.text : DeviceRole → String
  | .controller => "controller"
  | .player => "player"
  | .displaySurface => "display_surface"
  | .voiceEndpoint => "voice_endpoint"
  | .sensorSource => "sensor_source"
  | .actuator => "actuator"
  | .integrationAdapter => "integration_adapter"

def EntityDomain.text : EntityDomain → String
  | .sensor => "sensor"
  | .switch => "switch"
  | .light => "light"
  | .mediaPlayer => "media_player"

def SurfaceKind.text : SurfaceKind → String
  | .display => "display"
  | .voice => "voice"
  | .mobile => "mobile"

def ViewKind.name : ViewKind → String
  | .text => "text"
  | .nowPlaying => "now_playing"
  | .sensorGrid => "sensor_grid"

def texts (values : List String) : Json := .array (values.map .string)

-- `Map::insert`: the value of a key that is there is replaced.
def insertKey (key : String) (value : Json) (m : JsonMap) : JsonMap :=
  if (m.lookup key).isSome then m.map fun field => if field.1 = key then (key,value) else field
  else m ++ [(key,value)]

section encoders
variable (serde : Serde)

def number (n : Nat) : Json := .number (serde.integer n)

def Entity.toJson (entity : Entity) : Json := .object (
  [("entity_id",.string entity.entityId),("domain",.string entity.domain.text),("device_class",.string entity.deviceClass),
    ("display_name",.string entity.label),("readable",.bool entity.readable),("controllable",.bool entity.controllable),
    ("unit",optional .string entity.unit),("stale_after_seconds",number serde entity.staleAfterSeconds),
    ("allowed_commands",texts (entity.allowedCommands.map ActuatorAction.text))] ++
  omitNone "minimum" (entity.minimum.map (F64.toJson serde)) ++
  omitNone "maximum" (entity.maximum.map (F64.toJson serde)) ++ omitNone "step" (entity.step.map (F64.toJson serde)))

def Surface.toJson (surface : Surface) : Json := .object [("surface_id",.string surface.surfaceId),
  ("kind",.string surface.kind.text),("display_name",.string surface.label),("views",texts (surface.views.map ViewKind.name))]

def DeviceCapability.version : DeviceCapability → Nat
  | .unknown _ version _ => version
  | _ => 1

def DeviceCapability.toMap : DeviceCapability → JsonMap
  | .playback actions => [("name",.string "media.playback"),("version",number serde 1),("actions",texts actions)]
  | .station sources => [("name",.string "media.station"),("version",number serde 1),("sources",texts sources)]
  | .volume step mute => [("name",.string "media.volume"),("version",number serde 1),("minimum",number serde 0),
      ("maximum",number serde 100),("step",number serde step),("mute",.bool mute)]
  | .display views maxItems maxTextLength => [("name",.string "display.presentation"),("version",number serde 1),
      ("views",texts (views.map ViewKind.name)),("max_items",number serde maxItems),
      ("max_text_length",number serde maxTextLength)]
  | .sensor entityClasses => [("name",.string "entity.sensor"),("version",number serde 1),
      ("entity_classes",texts entityClasses)]
  | .voiceInput formats => [("name",.string "voice.input"),("version",number serde 1),("formats",texts formats)]
  | .chromecast actions discoveryTtlSeconds => [("name",.string "media.chromecast"),("version",number serde 1),
      ("actions",texts actions),("discovery_ttl_seconds",number serde discoveryTtlSeconds)]
  | .relay actions modes => [("name",.string "media.relay"),("version",number serde 1),("actions",texts actions),
      ("modes",texts modes)]
  | .actuator commands => [("name",.string "entity.actuator"),("version",number serde 1),
      ("commands",texts (commands.map ActuatorAction.text))]
  | .unknown name version extra => insertKey "version" (number serde version) (insertKey "name" (.string name) extra)

def DeviceCapability.toJson (capability : DeviceCapability) : Json := .object (capability.toMap serde)

def DeviceCapabilities.toJson (capabilities : DeviceCapabilities) : Json := .object [
  ("revision",number serde capabilities.revision),("items",.array (capabilities.items.map (DeviceCapability.toJson serde)))]

def DeviceManifest.toJson (manifest : DeviceManifest) : Json := .object [
  ("manifest_revision",number serde manifest.manifestRevision),("roles",texts (manifest.roles.map DeviceRole.text)),
  ("capabilities",manifest.capabilities.toJson serde),("entities",.array (manifest.entities.map (Entity.toJson serde))),
  ("surfaces",.array (manifest.surfaces.map Surface.toJson))]

end encoders

-- What a jsonb column does with a value: it may refuse it, and what it gives
-- back has the same shape.
structure Jsonb where
  store : Json → Option Json
  string : ∀ text stored, store (.string text) = some stored → stored = .string text
  array : ∀ items stored, store (.array items) = some stored →
    ∃ kept, items.mapM store = some kept ∧ stored = .array kept
  object : ∀ fields stored, store (.object fields) = some stored → ∃ kept, stored = .object kept ∧
    ∀ key value, fields.lookup key = some value → ∃ value', store value = some value' ∧ kept.lookup key = some value'

-- The three tables of items have the same columns.
inductive Projection where
  | capabilities
  | entities
  | surfaces
deriving DecidableEq

structure ProjectionRow where
  payload : Json
  manifestRevision : Nat
  removedAt : Option Instant

structure ManifestRow where
  revision : Nat
  payload : Json

abbrev ProjectionTable := Table (Uuid ×ₗ String) ProjectionRow

structure ManifestStore where
  devices : List (DeviceId × Uuid)
  manifests : Table Uuid ManifestRow
  capabilities : ProjectionTable
  entities : ProjectionTable
  surfaces : ProjectionTable

-- One item with its identifier. The check on the version column is the only one
-- left after validation, which bounds identifiers to their columns.
structure Item where
  id : String
  payload : Json
  checked : Bool

def DeviceManifest.items (serde : Serde) (manifest : DeviceManifest) : Projection → List Item
  | .capabilities => manifest.capabilities.items.map fun capability =>
      ⟨capability.name,capability.toJson serde,0 < capability.version⟩
  | .entities => manifest.entities.map fun entity => ⟨entity.entityId,entity.toJson serde,true⟩
  | .surfaces => manifest.surfaces.map fun surface => ⟨surface.surfaceId,surface.toJson,true⟩

-- What a transaction that does not commit answers.
abbrev Dropped := Except StoreError StoreOutcome

section tables
variable (db : Jsonb) (device : DeviceId) (revision : Nat)

def itemKey (id : String) : Uuid ×ₗ String := toLex (device.uuid,id)

def tombstone (now : Instant) (rows : ProjectionTable) : ProjectionTable :=
  rows.map fun key row => if (ofLex key).1 = device.uuid ∧ row.removedAt.isNone then {row with removedAt := some now} else row

def upsertItem (rows : ProjectionTable) (item : Item) : Except Dropped ProjectionTable :=
  match db.store item.payload with
  | none => .error (.error .database)
  | some stored =>
    if !item.checked || !columnRevision revision then .error (.error .database)
    else .ok (rows.insert (itemKey device item.id) ⟨stored,revision,none⟩)

def projection (rows : ProjectionTable) (item : Item) : Except Dropped ProjectionTable :=
  match rows[itemKey device item.id]? with
  | some row =>
    if row.removedAt.isSome && row.payload ≠ item.payload then .error (.ok .conflict)
    else upsertItem db device revision rows item
  | none => upsertItem db device revision rows item

def upsertManifest (manifests : Table Uuid ManifestRow) (payload : Json) : Except Dropped (Table Uuid ManifestRow) :=
  match db.store payload with
  | none => .error (.error .database)
  | some stored =>
    if !columnRevision revision then .error (.error .database)
    else .ok (manifests.insert device.uuid ⟨revision,stored⟩)

end tables

namespace ManifestStore
variable (db : Jsonb) (serde : Serde)

def rows (s : ManifestStore) : Projection → ProjectionTable
  | .capabilities => s.capabilities
  | .entities => s.entities
  | .surfaces => s.surfaces

def owned (s : ManifestStore) (user : Uuid) (device : DeviceId) : Bool := s.devices.contains (device,user)

def projectItems (s : ManifestStore) (now : Instant) (device : DeviceId) (manifest : DeviceManifest)
    (kind : Projection) : Except Dropped ProjectionTable :=
  (manifest.items serde kind).foldlM (projection db device manifest.manifestRevision) (tombstone device now (s.rows kind))

-- The writes of the transaction, up to its commit.
def replaceManifest (s : ManifestStore) (now : Instant) (device : DeviceId) (manifest : DeviceManifest) :
    Except Dropped ManifestStore := do
  let capabilities ← s.projectItems db serde now device manifest .capabilities
  let entities ← s.projectItems db serde now device manifest .entities
  let surfaces ← s.projectItems db serde now device manifest .surfaces
  let manifests ← upsertManifest db device manifest.manifestRevision s.manifests (manifest.toJson serde)
  .ok ⟨s.devices,manifests,capabilities,entities,surfaces⟩

def applyManifest (s : ManifestStore) (now : Instant) (user : Uuid) (device : DeviceId) (manifest : DeviceManifest) :
    Except StoreError StoreOutcome × ManifestStore :=
  match manifest.validate with
  | .error error => (.error (.validation error),s)
  | .ok () =>
    if !s.owned user device then (.ok .notOwned,s)
    else match s.manifests[device.uuid]?.bind fun row =>
        outcome row.revision row.payload manifest.manifestRevision (manifest.toJson serde) with
      | some refused => (.ok refused,s)
      | none => match s.replaceManifest db serde now device manifest with
        | .error answer => (answer,s)
        | .ok s' => (.ok .accepted,s')

-- One call of a sequence. Each is a transaction of its own.
structure Call where
  now : Instant
  user : Uuid
  device : DeviceId
  manifest : DeviceManifest

def call (s : ManifestStore) (call : Call) : Except StoreError StoreOutcome × ManifestStore :=
  s.applyManifest db serde call.now call.user call.device call.manifest

def Applies (s : ManifestStore) (call : Call) (s' : ManifestStore) : Prop := (s.call db serde call).2 = s'

def empty (devices : List (DeviceId × Uuid)) : ManifestStore := ⟨devices,∅,∅,∅,∅⟩

end ManifestStore
end DeviceControl
