import RockServer.IntentResolution
import RockServer.ManifestStore
import RockServer.PresenceRegistry

namespace DeviceControl

-- Control sessions and what they share: the registry, the router, the hub of
-- live facts and the store. Sessions interleave at every await and lock.
deriving instance DecidableEq for EntityState

structure EntityReport extends EntityState where
  entityRevision : Nat
  freshness : Option Freshness
  observedAt : Timestamp
deriving DecidableEq

-- The unit a measuring entity's values must carry.
def expectedUnit (deviceClass : String) : Option String :=
  if deviceClass = "temperature" then some "°C"
  else if deviceClass = "humidity" then some "%"
  else if deviceClass = "co2" then some "ppm"
  else none

-- How the JSON library reads a number is a parameter. Its numbers are finite,
-- so the check that a value is finite has nothing to refuse.
def EntityReport.validateFor (readFloat : String → Option ℚ) (report : EntityReport) (entity : Entity) :
    Except ValidationError Unit := do
  let numeric := (numberText report.value).bind fun text => (readFloat text).map F64.finite
  validEntityId report.entityId
  refuse (report.entityRevision = 0) "entity_revision"
  refuse (numeric.any fun n => !n.isFinite) "value"
  match asStr report.value with
  | some text => bounded text 0 256 "value"
  | none => .ok ()
  refuse ((expectedUnit entity.deviceClass).isSome ∧
    ((numberText report.value).isNone ∨ report.unit ≠ expectedUnit entity.deviceClass)) "unit/value"
  refuse (numeric.any fun n => entity.minimum.any fun minimum => n.lt minimum) "minimum"
  refuse (numeric.any fun n => entity.maximum.any fun maximum => maximum.lt n) "maximum"

def EntityReport.validFor (readFloat : String → Option ℚ) (report : EntityReport) (entity : Entity) : Bool :=
  match report.validateFor readFloat entity with
  | .ok () => true
  | .error _ => false

-- What the session asks: is there any declared entity the report is valid for?
def admitted (readFloat : String → Option ℚ) (entities : List Entity) (report : EntityReport) : Bool :=
  entities.any fun entity => report.validFor readFloat entity

-- What the store asks: is the report valid for the entity of its own id?
def declaredFor (readFloat : String → Option ℚ) (entities : List Entity) (report : EntityReport) : Bool :=
  entities.any fun entity => entity.entityId = report.entityId && report.validFor readFloat entity

def EntityReport.freshen (report : EntityReport) (now : Timestamp) : EntityReport :=
  {report with freshness := some (report.toEntityState.freshnessAt now)}

inductive StateEvent where
  | manifest (device : Uuid)
  | presence (device : Uuid) (isOnline : Bool)
  | deviceState (device : Uuid) (snapshot : DeviceStateSnapshot)
  | entityState (device : Uuid) (report : EntityReport)
deriving DecidableEq

-- The feed is everything ever broadcast, with the account it went to.
structure LiveHub extends StateHub where
  entities : Table (Uuid ×ₗ Uuid ×ₗ String) EntityReport
  feed : List (Uuid × StateEvent)

namespace LiveHub

def empty : LiveHub := ⟨StateHub.empty,∅,[]⟩

def entityKey (user device : Uuid) (entity : String) : Uuid ×ₗ Uuid ×ₗ String := toLex (user,toLex (device,entity))

def entityState (hub : LiveHub) (user device : Uuid) (entity : String) : Option EntityReport :=
  hub.entities[entityKey user device entity]?

def advanceCursor (hub : LiveHub) (user : Uuid) : LiveHub :=
  {hub with cursors := hub.cursors.insert user (hub.cursors[user]?.getD 0 + 1)}

def send (hub : LiveHub) (user : Uuid) (event : StateEvent) : LiveHub := {hub with feed := hub.feed ++ [(user,event)]}

def publishPresence (hub : LiveHub) (user device : Uuid) (isOnline : Bool) : LiveHub :=
  (hub.advanceCursor user).send user (.presence device isOnline)

def publishManifest (hub : LiveHub) (user device : Uuid) : LiveHub :=
  (hub.advanceCursor user).send user (.manifest device)

def publishDeviceState (hub : LiveHub) (user device : Uuid) (snapshot : DeviceStateSnapshot) (answer : StoreOutcome) :
    LiveHub :=
  {hub with toStateHub := hub.toStateHub.publishDeviceState user ⟨device⟩ snapshot answer}.send user
    (.deviceState device snapshot)

def publishEntityState (hub : LiveHub) (user device : Uuid) (report : EntityReport) : LiveHub :=
  let advanced := hub.advanceCursor user
  {advanced with entities := hub.entities.insert (entityKey user device report.entityId) report}.send user
    (.entityState device report)

end LiveHub

def entityRevision (hub : LiveHub) (user device : Uuid) (incoming : EntityReport) : RevisionOrder :=
  match hub.entityState user device incoming.entityId with
  | some accepted => revisionOrder accepted.entityRevision accepted incoming.entityRevision incoming none
  | none => .next

def grantedScopes (manifest : DeviceManifest) : List DeviceControlScope :=
  if DeviceRole.controller ∈ manifest.roles then
    [.directoryRead,.entityStateRead,.mediaControl,.displayControl,.actuatorControl]
  else []

-- The stored facts. Ownership and the accepted manifests lie with the commands.
structure EntityRow where
  revision : Nat
  payload : EntityReport

structure FactStore where
  snapshots : Table Uuid StateRow
  entityStates : Table (Uuid ×ₗ String) EntityRow

-- One transaction: the database's clock, whether it fails, and for a manifest
-- whether a removed item was declared again under another payload.
structure Transaction where
  now : Timestamp
  fails : Bool
  reassigned : Bool

namespace StoreState

-- Payloads are compared as they were declared, which the stored form keeps.
def applyManifest (store : StoreState) (t : Transaction) (user : Uuid) (device : DeviceId) (manifest : DeviceManifest) :
    Except StoreError StoreOutcome × StoreState :=
  if t.fails then (.error .database,store)
  else match manifest.validate with
    | .error error => (.error (.validation error),store)
    | .ok () =>
      if !store.owned user device then (.ok .notOwned,store)
      else match (store.manifests.lookup device).bind fun accepted =>
          outcome accepted.manifestRevision accepted manifest.manifestRevision manifest with
        | some refused => (.ok refused,store)
        | none =>
          if t.reassigned then (.ok .conflict,store)
          else if !columnRevision manifest.manifestRevision then (.error .database,store)
          else (.ok .accepted,{store with
            manifests := (device,manifest) :: store.manifests.filter fun entry => entry.1 ≠ device})

end StoreState

def acceptedManifest : Except StoreError StoreOutcome → Bool
  | .ok .accepted | .ok .replay => true
  | _ => false

-- Entity payloads are compared without their `received_at`.
def EntityReport.compared (report : EntityReport) : EntityReport := {report with receivedAt := none}

namespace FactStore

def storeDeviceState (facts : FactStore) (store : StoreState) (t : Transaction) (user : Uuid) (device : DeviceId)
    (snapshot : DeviceStateSnapshot) : Except StoreError StoreOutcome × FactStore :=
  if t.fails then (.error .database,facts)
  else if !store.owned user device then (.ok .notOwned,facts)
  else match facts.snapshots[device.uuid]?.bind fun row => fullStateOutcome row snapshot with
    | some refused => (.ok refused,facts)
    | none =>
      if !columnRevision snapshot.stateRevision then (.error .database,facts)
      else
        let row : StateRow := ⟨snapshot.stateRevision,{snapshot with receivedAt := some t.now}⟩
        (.ok .accepted,{facts with snapshots := facts.snapshots.insert device.uuid row})

-- The live rows of the entities are those of the accepted manifest.
def storeEntityState (readFloat : String → Option ℚ) (facts : FactStore) (store : StoreState) (t : Transaction)
    (user : Uuid) (device : DeviceId) (report : EntityReport) : Except StoreError StoreOutcome × FactStore :=
  if t.fails then (.error .database,facts)
  else if !store.owned user device then (.ok .notOwned,facts)
  else match ((store.manifests.lookup device).map DeviceManifest.entities).bind fun entities =>
      entities.find? fun entity => entity.entityId = report.entityId with
    | none => (.ok .notOwned,facts)
    | some entity => match report.validateFor readFloat entity with
      | .error error => (.error (.validation error),facts)
      | .ok () => match facts.entityStates[itemKey device report.entityId]?.bind fun row =>
          outcome row.revision row.payload.compared report.entityRevision report.compared with
        | some refused => (.ok refused,facts)
        | none =>
          if !columnRevision report.entityRevision then (.error .database,facts)
          else
            let stored := {report with receivedAt := some t.now}
            (.ok .accepted,{facts with
              entityStates := facts.entityStates.insert (itemKey device report.entityId) ⟨report.entityRevision,stored⟩})

end FactStore
end DeviceControl
