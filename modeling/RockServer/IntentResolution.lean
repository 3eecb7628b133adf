import RockServer.ManifestRules
import RockServer.StateHub

namespace DeviceControl

-- Typed intents and their resolution against one account's directory.
structure EntityState where
  entityId : String
  value : Json
  unit : Option String
  quality : Quality
  receivedAt : Option Timestamp
  staleAfter : Timestamp

def EntityState.freshnessAt (state : EntityState) (now : Timestamp) : Freshness :=
  if state.receivedAt.isNone then .unknown
  else if state.staleAfter.instant < now.instant then .stale
  else .fresh

structure IntentTarget where
  deviceId : Option DeviceId
  surfaceId : Option String
  areaId : Option String
deriving DecidableEq

structure ActuatorTarget where
  deviceId : DeviceId
  entityId : String
deriving DecidableEq

inductive MediaIntentAction where
  | play
  | pause
  | stop
  | next
  | previous
  | setVolume (level : UInt8)
  | changeVolume (delta : Int8)
  | setMute (muted : Bool)
deriving DecidableEq

inductive UserIntent where
  | playRadio (stationId : String) (target : Option IntentTarget)
  | showSensors (target : Option IntentTarget)
  | querySensor (entityId : Option String) (target : Option IntentTarget)
  | media (action : MediaIntentAction) (target : Option IntentTarget)
  | showNowPlaying (target : Option IntentTarget)
  | actuator (action : ActuatorAction) (value : Option F64) (target : ActuatorTarget)

inductive IntentErrorCode where
  | invalidIntent
  | forbidden
  | targetOffline
  | capabilityNotSupported
  | stateUnavailable
  | unsupportedSelector
deriving DecidableEq, Repr

structure IntentError where
  code : IntentErrorCode
  field : Option String
deriving DecidableEq

def IntentError.invalid (field : String) : IntentError := ⟨.invalidIntent,some field⟩
def IntentError.ofCode (code : IntentErrorCode) : IntentError := ⟨code,none⟩

def boundedId (value : String) (field : String) : Except IntentError Unit :=
  if value.isEmpty || 128 < value.utf8ByteSize then .error (.invalid field) else .ok ()

def validateSelector (target : Option IntentTarget) : Except IntentError Unit :=
  match target with
  | none => .ok ()
  | some target => do
    match target.surfaceId with
    | none => .ok ()
    | some surfaceId => boundedId surfaceId "surface_id"
    match target.areaId with
    | none => .ok ()
    | some areaId => if areaId.isEmpty || 64 < areaId.utf8ByteSize then .error (.invalid "area_id") else .ok ()

def MediaIntentAction.validate : MediaIntentAction → Except IntentError Unit
  | .changeVolume delta => if delta = 0 then .error (.invalid "delta") else .ok ()
  | _ => .ok ()

def MediaIntentAction.commandBody : MediaIntentAction → CommandBody
  | .play => .playback "play"
  | .pause => .playback "pause"
  | .stop => .playback "stop"
  | .next => .playback "next"
  | .previous => .playback "previous"
  | .setVolume level => .volume (.setLevel level)
  | .changeVolume delta => .volume (.change delta)
  | .setMute muted => .volume (.setMute muted)

def UserIntent.validate : UserIntent → Except IntentError Unit
  | .playRadio stationId target => do
    boundedId stationId "station_id"
    validateSelector target
  | .showSensors target | .showNowPlaying target => validateSelector target
  | .querySensor entityId target => do
    match entityId with
    | none => .ok ()
    | some entityId => boundedId entityId "entity_id"
    validateSelector target
  | .media action target => do
    action.validate
    validateSelector target
  | .actuator action value target => do
    boundedId target.entityId "entity_id"
    match action,value with
    | .setValue,some value => if value.isFinite then .ok () else .error (.invalid "value")
    | .setValue,none => .error (.invalid "value")
    | _,some _ => .error (.invalid "value")
    | _,none => .ok ()

structure ResolutionActor where
  userId : Uuid
  scopes : List DeviceControlScope

structure DirectoryDevice where
  deviceId : DeviceId
  manifest : DeviceManifest
  online : Bool
  runtimeState : Option DeviceRuntimeState
  entityStates : List EntityState

structure DirectoryProjection where
  ownerId : Uuid
  devices : List DirectoryDevice

structure CurrentTarget where
  deviceId : Option DeviceId
  surfaceId : Option String

structure CanonicalArea where
  areaId : String
  deviceIds : List DeviceId

structure ResolutionContext where
  currentTarget : Option CurrentTarget
  canonicalAreas : List CanonicalArea

structure ResolutionRequest where
  actor : ResolutionActor
  directory : DirectoryProjection
  commandId : CommandId
  receivedAt : Timestamp
  context : ResolutionContext

-- The device whose state or entities a presentation shows is kept for the
-- statements only.
structure IntentPlan where
  presentation : Option Presentation
  commands : List DeviceCommand
  shown : Option DeviceId

inductive ClarificationCode where
  | ambiguousTarget
  | ambiguousEntity
  | ambiguousSurface
  | missingTarget
deriving DecidableEq, Repr

structure Clarification where
  code : ClarificationCode
  deviceIds : List DeviceId
  surfaceIds : List String

structure Confirmation where
  target : CommandTarget
  action : ActuatorAction
  value : Option F64

inductive ResolutionResult where
  | plan (plan : IntentPlan)
  | clarification (clarification : Clarification)
  | confirmation (confirmation : Confirmation)
  | error (error : IntentError)

section manifest

def hasRole (manifest : DeviceManifest) (role : DeviceRole) : Bool := manifest.roles.contains role

def hasCapability (manifest : DeviceManifest) (predicate : DeviceCapability → Bool) : Bool :=
  manifest.capabilities.items.any predicate

def mediaSupported (manifest : DeviceManifest) (body : CommandBody) : Bool :=
  hasRole manifest .player && match body with
    | .playback action => hasCapability manifest fun
      | .playback actions => actions.contains action
      | _ => false
    | .volume command => hasCapability manifest (volumeCapability command)
    | _ => false

def displayCapable (manifest : DeviceManifest) (view : ViewKind) : Bool :=
  hasRole manifest .displaySurface && hasCapability manifest fun
    | .display views _ _ => views.contains view
    | _ => false

def presentationSupported (manifest : DeviceManifest) (presentation : Presentation) : Bool :=
  hasCapability manifest fun
    | .display views maxItems maxTextLength => match presentation with
      | .text text => text.utf8ByteSize ≤ maxTextLength
      | .nowPlaying _ _ _ => views.contains .nowPlaying
      | .sensorGrid _ items => views.contains .sensorGrid && items.length ≤ maxItems
    | _ => false

def readableSensor (entity : Entity) : Bool := entity.domain = .sensor && entity.readable

def DirectoryDevice.sensors (device : DirectoryDevice) : List Entity := device.manifest.entities.filter readableSensor

def readableSensorCount (device : DirectoryDevice) : Nat := device.sensors.length

def stateFor (device : DirectoryDevice) (entityId : String) : Option EntityState :=
  device.entityStates.find? fun state => state.entityId = entityId

def safeActuatorEntity (entity : Entity) : Bool :=
  (entity.domain = .switch || entity.domain = .light) && !(entity.deviceClass = "lock" || entity.deviceClass = "climate")

end manifest

section sensors

-- An unavailable observation has no current value.
def sensorValue (state : EntityState) (now : Timestamp) : Json × Quality × Freshness :=
  if state.quality = .unavailable then (.null,.unavailable,.unknown)
  else (state.value,state.quality,state.freshnessAt now)

def sensorCard (entity : Entity) (state : Option EntityState) (now : Timestamp) : SensorCard :=
  match state with
  | none => ⟨entity.entityId,entity.label,.null,entity.unit,.unavailable,.unknown⟩
  | some state => match sensorValue state now with
    | (value,quality,freshness) =>
      ⟨entity.entityId,entity.label,value,state.unit.or entity.unit,quality,freshness⟩

def Quality.debug : Quality → String
  | .ok => "Ok"
  | .degraded => "Degraded"
  | .unavailable => "Unavailable"
  | .unknown => "Unknown"

def Freshness.debug : Freshness → String
  | .fresh => "Fresh"
  | .stale => "Stale"
  | .unknown => "Unknown"

-- `print` is the JSON library's text of a value.
def formatSensorText (print : Json → String) (entity : Entity) (value : Json) (unit : Option String) (quality : Quality)
    (freshness : Freshness) : String :=
  let spaced := (unit.map fun unit => s!" {unit}").getD ""
  match value with
  | .null => s!"{entity.label}: unavailable ({quality.debug}, {freshness.debug})"
  | .string value => s!"{entity.label}: {value}{spaced} ({quality.debug}, {freshness.debug})"
  | value => s!"{entity.label}: {print value}{spaced} ({quality.debug}, {freshness.debug})"

end sensors

section selection
variable (request : ResolutionRequest) (target : Option IntentTarget)

def areaOf : Option String := target.bind IntentTarget.areaId

def canonicalAreaDevices (areaId : String) : Option (List DeviceId) :=
  (request.context.canonicalAreas.find? fun area => area.areaId = areaId).map CanonicalArea.deviceIds

def inArea (device : DirectoryDevice) : Bool :=
  match (areaOf target).bind (canonicalAreaDevices request) with
  | none => true
  | some ids => ids.contains device.deviceId

def compatibleDevices (predicate : DirectoryDevice → Bool) : List DirectoryDevice :=
  (request.directory.devices.filter predicate).filter (inArea request target)

def uniqueDeviceIds (ids : List DeviceId) : List DeviceId :=
  ids.foldl (fun result id => if result.contains id then result else result ++ [id]) []

def chooseOne (candidates : List DirectoryDevice) (code : ClarificationCode) : Except ResolutionResult DirectoryDevice :=
  match candidates with
  | [device] => .ok device
  | [] => .error (.clarification ⟨.missingTarget,[],[]⟩)
  | _ => .error (.clarification ⟨code,uniqueDeviceIds (candidates.map DirectoryDevice.deviceId),[]⟩)

def chooseExact (candidates : List DirectoryDevice) (deviceId : DeviceId) : Except ResolutionResult DirectoryDevice :=
  let found := candidates.filter fun device => device.deviceId = deviceId
  if found.isEmpty then
    let offline := (request.directory.devices.find? fun device => device.deviceId = deviceId).filter fun device => !device.online
    .error (.error (.ofCode (if offline.isSome then .targetOffline else .capabilityNotSupported)))
  else chooseOne found .ambiguousTarget

def DirectoryDevice.declares (device : DirectoryDevice) (surfaceId : String) : Bool :=
  device.manifest.surfaces.any fun surface => surface.surfaceId = surfaceId

def currentDevice : Option DeviceId := request.context.currentTarget.bind CurrentTarget.deviceId

def selectDevice (candidates : List DirectoryDevice) : Except ResolutionResult DirectoryDevice :=
  if (areaOf target).isSome && ((areaOf target).bind (canonicalAreaDevices request)).isNone then
    .error (.error (.ofCode .unsupportedSelector))
  else match target.bind IntentTarget.deviceId with
    | some deviceId => chooseExact request candidates deviceId
    | none => match target.bind IntentTarget.surfaceId with
      | some surfaceId => chooseOne (candidates.filter fun device => device.declares surfaceId) .ambiguousTarget
      | none => match currentDevice request with
        | some deviceId => chooseExact request candidates deviceId
        | none => chooseOne candidates .ambiguousTarget

def selectSurface (device : DirectoryDevice) (view : ViewKind) : Except ResolutionResult Surface :=
  let current := (request.context.currentTarget.filter fun current => current.deviceId = some device.deviceId).bind
    CurrentTarget.surfaceId
  let requested := (target.bind IntentTarget.surfaceId).or current
  let candidates := (device.manifest.surfaces.filter fun surface => surface.kind = .display && surface.views.contains view)
    |>.filter fun surface => requested.all fun surfaceId => surface.surfaceId = surfaceId
  match candidates with
  | [surface] => .ok surface
  | [] => .error (.error (.ofCode .capabilityNotSupported))
  | _ => .error (.clarification ⟨.ambiguousSurface,[device.deviceId],candidates.map Surface.surfaceId⟩)

def requireScope (scope : DeviceControlScope) : Except IntentError Unit :=
  if request.actor.scopes.contains scope then .ok () else .error (.ofCode .forbidden)

def commandPlan (device : DirectoryDevice) (entityId : Option String) (surface : Option Surface) (body : CommandBody) :
    IntentPlan :=
  ⟨none,[⟨request.commandId,⟨device.deviceId,entityId,surface.map Surface.surfaceId⟩,none,body⟩],none⟩

def IntentPlan.withPresentation (plan : IntentPlan) (presentation : Presentation) (shown : DeviceId) : IntentPlan :=
  {plan with presentation := some presentation,shown := some shown}

end selection

def ResolutionResult.from : Except ResolutionResult ResolutionResult → ResolutionResult
  | .ok result => result
  | .error result => result

def refused {A : Type} (code : IntentErrorCode) : Except ResolutionResult A := .error (.error (.ofCode code))

def checked {A : Type} (checks : Except IntentError A) : Except ResolutionResult A := checks.mapError .error

section resolvers
variable (print : Json → String) (request : ResolutionRequest)

-- One display command of a validated presentation the device supports.
def displayPlan (device : DirectoryDevice) (surface : Surface) (presentation : Presentation) :
    Except ResolutionResult ResolutionResult :=
  if !presentation.validate.isOk || !presentationSupported device.manifest presentation then
    refused .capabilityNotSupported
  else .ok (.plan ((commandPlan request device none (some surface) (.display presentation)).withPresentation
    presentation device.deviceId))

def anyStation : DeviceCapability → Bool
  | .station _ => true
  | _ => false

def radioDevice (device : DirectoryDevice) : Bool :=
  device.online && hasRole device.manifest .player && hasCapability device.manifest anyStation

def resolveRadio (stationId : String) (target : Option IntentTarget) : Except ResolutionResult ResolutionResult := do
  checked (requireScope request .mediaControl)
  let device ← selectDevice request target (compatibleDevices request target radioDevice)
  .ok (.plan (commandPlan request device none none (.playStation stationId)))

def mediaDevice (body : CommandBody) (device : DirectoryDevice) : Bool :=
  device.online && mediaSupported device.manifest body

def resolveMedia (action : MediaIntentAction) (target : Option IntentTarget) : Except ResolutionResult ResolutionResult := do
  checked (requireScope request .mediaControl)
  let device ← selectDevice request target (compatibleDevices request target (mediaDevice action.commandBody))
  .ok (.plan (commandPlan request device none none action.commandBody))

def sensorDisplay (device : DirectoryDevice) : Bool :=
  device.online && 0 < readableSensorCount device && displayCapable device.manifest .sensorGrid

def resolveSensors (target : Option IntentTarget) : Except ResolutionResult ResolutionResult := do
  checked (requireScope request .entityStateRead)
  checked (requireScope request .displayControl)
  let device ← selectDevice request target (compatibleDevices request target sensorDisplay)
  let surface ← selectSurface request target device .sensorGrid
  let cards := device.sensors.map fun entity => sensorCard entity (stateFor device entity.entityId) request.receivedAt
  displayPlan request device surface (.sensorGrid "Sensors" cards)

def sensorDevice (device : DirectoryDevice) : Bool := device.online && 0 < readableSensorCount device

def sensorCandidates (entityId : Option String) (target : Option IntentTarget) : List (DirectoryDevice × Entity) :=
  (compatibleDevices request target sensorDevice).flatMap fun device =>
    (device.sensors.filter fun entity => entityId.all fun id => entity.entityId = id).map fun entity => (device,entity)

def sensorAnswer (device : DirectoryDevice) (entity : Entity) : Except ResolutionResult ResolutionResult :=
  match stateFor device entity.entityId with
  | none => refused .stateUnavailable
  | some state => match sensorValue state request.receivedAt with
    | (value,quality,freshness) =>
      let presentation := Presentation.text (formatSensorText print entity value state.unit quality freshness)
      if !presentation.validate.isOk then refused .capabilityNotSupported
      else .ok (.plan ⟨some presentation,[],some device.deviceId⟩)

def answerQuery : List (DirectoryDevice × Entity) → Except ResolutionResult ResolutionResult
  | [] => .error (.clarification ⟨.missingTarget,[],[]⟩)
  | [(device,entity)] => sensorAnswer print request device entity
  | candidates =>
    .error (.clarification ⟨.ambiguousEntity,uniqueDeviceIds (candidates.map fun pair => pair.1.deviceId),[]⟩)

def resolveSensorQuery (entityId : Option String) (target : Option IntentTarget) :
    Except ResolutionResult ResolutionResult := do
  checked (requireScope request .entityStateRead)
  answerQuery print request (sensorCandidates request entityId target)

def nowPlayingDevice (device : DirectoryDevice) : Bool :=
  device.online && displayCapable device.manifest .nowPlaying && hasRole device.manifest .player

-- The observed station identifier stands for its title as well.
def resolveNowPlaying (target : Option IntentTarget) : Except ResolutionResult ResolutionResult := do
  checked (requireScope request .displayControl)
  let device ← selectDevice request target (compatibleDevices request target nowPlayingDevice)
  let surface ← selectSurface request target device .nowPlaying
  match device.runtimeState.bind DeviceRuntimeState.playback with
  | some ⟨status,some stationId,_⟩ =>
    if status ≠ "playing" then refused .stateUnavailable
    else displayPlan request device surface (.nowPlaying stationId stationId none)
  | _ => refused .stateUnavailable

def actuatorAllowed (device : DirectoryDevice) (entity : Entity) (action : ActuatorAction) : Bool :=
  entity.controllable && entity.allowedCommands.contains action && hasRole device.manifest .actuator &&
    hasCapability device.manifest fun
      | .actuator commands => commands.contains action
      | _ => false

def resolveActuator (action : ActuatorAction) (value : Option F64) (target : ActuatorTarget) :
    Except ResolutionResult ResolutionResult := do
  checked (requireScope request .actuatorControl)
  match request.directory.devices.find? fun device => device.deviceId = target.deviceId with
  | none => refused .forbidden
  | some device =>
    if !device.online then refused .targetOffline
    else match device.manifest.entities.find? fun entity => entity.entityId = target.entityId with
      | none => refused .capabilityNotSupported
      | some entity =>
        if !actuatorAllowed device entity action || !safeActuatorEntity entity then refused .capabilityNotSupported
        else if action = .setValue && (entity.minimum.any (fun minimum => (value.getD (.finite 0)).lt minimum)
            || entity.maximum.any fun maximum => maximum.lt (value.getD (.finite 0))) then .error (.error (.invalid "value"))
        else .ok (.confirmation ⟨⟨target.deviceId,some target.entityId,none⟩,action,value⟩)

def resolveOwned : UserIntent → Except ResolutionResult ResolutionResult
  | .playRadio stationId target => resolveRadio request stationId target
  | .showSensors target => resolveSensors request target
  | .querySensor entityId target => resolveSensorQuery print request entityId target
  | .media action target => resolveMedia request action target
  | .showNowPlaying target => resolveNowPlaying request target
  | .actuator action value target => resolveActuator request action value target

def ResolutionRequest.resolve (intent : UserIntent) : ResolutionResult :=
  match intent.validate with
  | .error error => .error error
  | .ok () =>
    if request.actor.userId ≠ request.directory.ownerId then .error (.ofCode .forbidden)
    else .from (resolveOwned print request intent)

end resolvers
end DeviceControl
