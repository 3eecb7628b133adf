import Mathlib.Data.Rat.Defs
import Mathlib.Algebra.Order.Ring.Rat
import RockServer.StreamUri
import RockServer.Tables

namespace DeviceControl

-- UUIDs are compared and hashed only, so any number may stand for one.
abbrev Uuid := Nat

structure DeviceId where
  uuid : Uuid
deriving DecidableEq, Repr

structure CommandId where
  uuid : Uuid
deriving DecidableEq, Repr

instance : LinearOrder CommandId := LinearOrder.lift' CommandId.uuid (by rintro ⟨_⟩ ⟨_⟩ rfl; rfl)

-- Instants are nanoseconds since the epoch.
abbrev Instant := Int

def seconds (n : Int) : Instant := n * 1000000000
def minutes (n : Int) : Instant := seconds (n * 60)
def hours (n : Int) : Instant := seconds (n * 3600)
def days (n : Int) : Instant := hours (n * 24)

-- A checked RFC 3339 timestamp: equality is on the text, order on the instant.
structure Timestamp where
  text : String
  instant : Instant
deriving DecidableEq, Repr

inductive Json where
  | null
  | bool (value : Bool)
  | number (text : String)
  | string (value : String)
  | array (items : List Json)
  | object (fields : List (String × Json))

mutual
def Json.decEq : (a b : Json) → Decidable (a = b)
  | .null,.null => isTrue rfl
  | .bool a,.bool b => decidable_of_iff (a = b) (by simp)
  | .number a,.number b => decidable_of_iff (a = b) (by simp)
  | .string a,.string b => decidable_of_iff (a = b) (by simp)
  | .array a,.array b => match Json.decEqList a b with
    | isTrue same => isTrue (by rw [same])
    | isFalse apart => isFalse (by simpa using apart)
  | .object a,.object b => match Json.decEqFields a b with
    | isTrue same => isTrue (by rw [same])
    | isFalse apart => isFalse (by simpa using apart)
  | .null,.bool _ | .null,.number _ | .null,.string _ | .null,.array _ | .null,.object _
  | .bool _,.null | .bool _,.number _ | .bool _,.string _ | .bool _,.array _ | .bool _,.object _
  | .number _,.null | .number _,.bool _ | .number _,.string _ | .number _,.array _ | .number _,.object _
  | .string _,.null | .string _,.bool _ | .string _,.number _ | .string _,.array _ | .string _,.object _
  | .array _,.null | .array _,.bool _ | .array _,.number _ | .array _,.string _ | .array _,.object _
  | .object _,.null | .object _,.bool _ | .object _,.number _ | .object _,.string _
  | .object _,.array _ => isFalse (by simp)
def Json.decEqList : (a b : List Json) → Decidable (a = b)
  | [],[] => isTrue rfl
  | x :: xs,y :: ys => match Json.decEq x y,Json.decEqList xs ys with
    | isTrue head,isTrue tail => isTrue (by rw [head,tail])
    | isFalse head,_ => isFalse (by simp [head])
    | _,isFalse tail => isFalse (by simp [tail])
  | [],_ :: _ | _ :: _,[] => isFalse (by simp)
def Json.decEqFields : (a b : List (String × Json)) → Decidable (a = b)
  | [],[] => isTrue rfl
  | (k,x) :: xs,(l,y) :: ys => match instDecidableEqString k l,Json.decEq x y,Json.decEqFields xs ys with
    | isTrue key,isTrue head,isTrue tail => isTrue (by rw [key,head,tail])
    | isFalse key,_,_ => isFalse (by simp [key])
    | _,isFalse head,_ => isFalse (by simp [head])
    | _,_,isFalse tail => isFalse (by simp [tail])
  | [],_ :: _ | _ :: _,[] => isFalse (by simp)
end

instance : DecidableEq Json := Json.decEq

-- Binary floating-point values as far as the checks see them: order and
-- finiteness. Every finite value is a rational.
inductive F64 where
  | finite (value : ℚ)
  | infinite (negative : Bool)
  | nan
deriving DecidableEq

def F64.isFinite : F64 → Bool
  | .finite _ => true
  | _ => false

def F64.lt : F64 → F64 → Bool
  | .finite a,.finite b => a < b
  | .finite _,.infinite negative => !negative
  | .infinite negative,.finite _ => negative
  | .infinite a,.infinite b => a && !b
  | _,_ => false

inductive ErrorCode where
  | forbidden
  | invalidPayload
  | persistenceUnavailable
  | targetOffline
  | commandTimeout
  | duplicateCommand
  | tooManyInFlight
  | capabilityNotSupported
  | unsupportedCommand
  | staleRevision
deriving DecidableEq, Repr

def ErrorCode.text : ErrorCode → String
  | .forbidden => "forbidden"
  | .invalidPayload => "invalid_payload"
  | .persistenceUnavailable => "persistence_unavailable"
  | .targetOffline => "target_offline"
  | .commandTimeout => "command_timeout"
  | .duplicateCommand => "duplicate_command"
  | .tooManyInFlight => "too_many_in_flight"
  | .capabilityNotSupported => "capability_not_supported"
  | .unsupportedCommand => "unsupported_command"
  | .staleRevision => "stale_revision"

inductive ValidationError where
  | invalidPayload (field : String)
  | staleRevision
  | conflictingRevision
  | resyncRequired
  | capabilityNotSupported
  | unsupportedCommand
deriving DecidableEq, Repr

def ValidationError.code : ValidationError → ErrorCode
  | .invalidPayload _ => .invalidPayload
  | .staleRevision | .conflictingRevision | .resyncRequired => .staleRevision
  | .capabilityNotSupported => .capabilityNotSupported
  | .unsupportedCommand => .unsupportedCommand

-- Bounds are on the encoded length in bytes.
def bounded (value : String) (min max : Nat) (field : String) : Except ValidationError Unit :=
  if min ≤ value.utf8ByteSize ∧ value.utf8ByteSize ≤ max then .ok ()
  else .error (.invalidPayload field)

inductive DeviceRole where
  | controller
  | player
  | displaySurface
  | voiceEndpoint
  | sensorSource
  | actuator
  | integrationAdapter
deriving DecidableEq, Repr

inductive DeviceControlScope where
  | directoryRead
  | presenceRead
  | entityStateRead
  | mediaControl
  | displayControl
  | actuatorControl
deriving DecidableEq, Repr

inductive ActuatorAction where
  | turnOn
  | turnOff
  | setValue
deriving DecidableEq, Repr

inductive EntityDomain where
  | sensor
  | switch
  | light
  | mediaPlayer
deriving DecidableEq, Repr

structure Entity where
  entityId : String
  domain : EntityDomain
  deviceClass : String
  label : String
  readable : Bool
  controllable : Bool
  unit : Option String
  staleAfterSeconds : Nat
  allowedCommands : List ActuatorAction
  minimum : Option F64
  maximum : Option F64
  step : Option F64
deriving DecidableEq

inductive SurfaceKind where
  | display
  | voice
  | mobile
deriving DecidableEq, Repr

inductive ViewKind where
  | text
  | nowPlaying
  | sensorGrid
deriving DecidableEq, Repr

structure Surface where
  surfaceId : String
  kind : SurfaceKind
  label : String
  views : List ViewKind
deriving DecidableEq

inductive DeviceCapability where
  | playback (actions : List String)
  | station (sources : List String)
  | volume (step : Nat) (mute : Bool)
  | chromecast (actions : List String) (discoveryTtlSeconds : Nat)
  | relay (actions modes : List String)
  | display (views : List ViewKind) (maxItems maxTextLength : Nat)
  | sensor (entityClasses : List String)
  | actuator (commands : List ActuatorAction)
  | voiceInput (formats : List String)
  | unknown (name : String) (version : Nat) (extra : List (String × Json))
deriving DecidableEq

structure DeviceCapabilities where
  revision : Nat
  items : List DeviceCapability
deriving DecidableEq

structure DeviceManifest where
  manifestRevision : Nat
  roles : List DeviceRole
  capabilities : DeviceCapabilities
  entities : List Entity
  surfaces : List Surface
deriving DecidableEq

def catalogStationSource : String := "rockserver_catalog"
def directStationSource : String := "direct_stream"

structure StationPresentation where
  name : String
  iconUrl : Option String
deriving DecidableEq

def StationPresentation.validate (station : StationPresentation) : Except ValidationError Unit := do
  bounded station.name 1 128 "station.name"
  match station.iconUrl with
  | none => .ok ()
  | some iconUrl => (StreamUri.validateStreamUri iconUrl).mapError fun _ => .invalidPayload "station.icon_url"

structure CommandTarget where
  deviceId : DeviceId
  entityId : Option String
  surfaceId : Option String
deriving DecidableEq

def CommandTarget.validate (target : CommandTarget) : Except ValidationError Unit :=
  if target.entityId.isSome && target.surfaceId.isSome then .error (.invalidPayload "target") else .ok ()

inductive Quality where
  | ok
  | degraded
  | unavailable
  | unknown
deriving DecidableEq, Repr

inductive Freshness where
  | fresh
  | stale
  | unknown
deriving DecidableEq, Repr

structure SensorCard where
  entityId : String
  label : String
  value : Json
  unit : Option String
  quality : Quality
  freshness : Freshness
deriving DecidableEq

inductive Presentation where
  | text (shown : String)
  | nowPlaying (stationId title : String) (subtitle : Option String)
  | sensorGrid (title : String) (items : List SensorCard)
deriving DecidableEq

def SensorCard.validate (item : SensorCard) : Except ValidationError Unit := do
  bounded item.label 1 64 "label"
  if item.quality = .unavailable ∧ item.freshness = .fresh then
    .error (.invalidPayload "quality/freshness")
  else .ok ()

def Presentation.validate : Presentation → Except ValidationError Unit
  | .text shown => bounded shown 1 1024 "text"
  | .nowPlaying stationId title subtitle => do
    bounded stationId 1 128 "station_id"
    bounded title 1 128 "title"
    match subtitle with
    | none => .ok ()
    | some subtitle => bounded subtitle 0 256 "subtitle"
  | .sensorGrid title items => do
    bounded title 1 128 "title"
    if 32 < items.length then .error (.invalidPayload "items") else items.forM SensorCard.validate

inductive StreamSource where
  | rockserverCatalog
  | directStream
deriving DecidableEq, Repr

inductive VolumeCommand where
  | setLevel (level : UInt8)
  | change (delta : Int8)
  | setMute (muted : Bool)
deriving DecidableEq

inductive CommandBody where
  | playStation (stationId : String)
  | playStream (source : StreamSource) (stationId : Option String)
      (station : Option StationPresentation) (streamUri : String)
  | display (presentation : Presentation)
  | playback (action : String)
  | volume (command : VolumeCommand)
  | actuator (action : ActuatorAction) (value : Option F64)
  | unknown (name : String) (payload : List (String × Json))
deriving DecidableEq

structure DeviceCommand where
  commandId : CommandId
  target : CommandTarget
  deadlineAt : Option Timestamp
  body : CommandBody
deriving DecidableEq

def playbackActions : List String := ["play","pause","stop","next","previous"]

def CommandBody.validate : CommandBody → Except ValidationError Unit
  | .unknown _ _ => .ok ()
  | .playStation stationId => bounded stationId 1 128 "station_id"
  | .playStream source stationId station streamUri => do
    match source,stationId,station with
    | .rockserverCatalog,some stationId,station =>
      bounded stationId 1 128 "station_id"
      match station with
      | some station => station.validate
      | none => .ok ()
    | .rockserverCatalog,none,_ => .error (.invalidPayload "station_id")
    | .directStream,some _,_ => .error (.invalidPayload "station_id")
    | .directStream,none,some _ => .error (.invalidPayload "station")
    | .directStream,none,none => .ok ()
    (StreamUri.validateStreamUri streamUri).mapError fun _ => .invalidPayload "stream_uri"
  | .display presentation => presentation.validate
  | .playback action =>
    if action ∈ playbackActions then .ok () else .error (.invalidPayload "command")
  | .volume (.change delta) => if delta ≠ 0 then .ok () else .error (.invalidPayload "command")
  | .volume _ => .ok ()
  | .actuator .setValue (some value) =>
    if value.isFinite then .ok () else .error (.invalidPayload "command")
  | .actuator .setValue none => .error (.invalidPayload "command")
  | .actuator _ (some _) => .error (.invalidPayload "command")
  | .actuator _ none => .ok ()

-- Whole seconds truncate towards zero, as the source's duration does.
def DeviceCommand.validateAt (command : DeviceCommand) (receivedAt : Timestamp) :
    Except ValidationError Unit := do
  command.target.validate
  match command.deadlineAt with
  | none => .ok ()
  | some deadline =>
    let wholeSeconds := Int.tdiv (deadline.instant - receivedAt.instant) (seconds 1)
    if 0 ≤ wholeSeconds ∧ wholeSeconds ≤ 30 then .ok () else .error (.invalidPayload "deadline_at")
  command.body.validate

def DeviceCommand.executable (command : DeviceCommand) : Except ValidationError Unit :=
  match command.body with
  | .unknown _ _ => .error .unsupportedCommand
  | _ => .ok ()

def requiredScope : CommandBody → DeviceControlScope
  | .display _ => .displayControl
  | .actuator _ _ => .actuatorControl
  | _ => .mediaControl

def requireRoleCapability (manifest : DeviceManifest) (role : DeviceRole)
    (capability : DeviceCapability → Bool) : Except ErrorCode Unit :=
  if role ∈ manifest.roles ∧ manifest.capabilities.items.any capability then .ok ()
  else .error .capabilityNotSupported

def displaySupported (presentation : Presentation) (views : List ViewKind)
    (maxItems maxTextLength : Nat) : Bool :=
  match presentation with
  | .text text => text.utf8ByteSize ≤ maxTextLength
  | .nowPlaying _ _ _ => views.contains .nowPlaying
  | .sensorGrid _ items => views.contains .sensorGrid && items.length ≤ maxItems

def stationCapability (source : String) : DeviceCapability → Bool
  | .station sources => sources.contains source
  | _ => false

def volumeCapability (command : VolumeCommand) : DeviceCapability → Bool
  | .volume _ mute => match command with
    | .setMute _ => mute
    | .setLevel _ | .change _ => true
  | _ => false

def validateTarget (command : DeviceCommand) (manifest : DeviceManifest) : Except ErrorCode Unit :=
  match command.body with
  | .playStation _ | .playStream .rockserverCatalog _ _ _ =>
    requireRoleCapability manifest .player (stationCapability catalogStationSource)
  | .playStream .directStream _ _ _ =>
    requireRoleCapability manifest .player (stationCapability directStationSource)
  | .playback action => requireRoleCapability manifest .player fun
    | .playback actions => actions.contains action
    | _ => false
  | .volume volume => requireRoleCapability manifest .player (volumeCapability volume)
  | .display presentation =>
    match command.target.surfaceId with
    | none => .error .invalidPayload
    | some surfaceId =>
      match manifest.surfaces.find? fun surface => surface.surfaceId = surfaceId with
      | none => .error .capabilityNotSupported
      | some surface =>
        if surface.kind ≠ .display then .error .capabilityNotSupported
        else
          let supported := manifest.capabilities.items.any fun
            | .display views maxItems maxTextLength =>
              displaySupported presentation views maxItems maxTextLength
            | _ => false
          if DeviceRole.displaySurface ∈ manifest.roles ∧ supported then .ok ()
          else .error .capabilityNotSupported
  | .actuator action value =>
    match command.target.entityId with
    | none => .error .invalidPayload
    | some entityId =>
      match manifest.entities.find? fun entity => entity.entityId = entityId with
      | none => .error .capabilityNotSupported
      | some entity =>
        let actionSupported := manifest.capabilities.items.any fun
          | .actuator commands => commands.contains action
          | _ => false
        if DeviceRole.actuator ∉ manifest.roles ∨ !entity.controllable ∨ !actionSupported then
          .error .capabilityNotSupported
        else match action,value with
          | .setValue,some value =>
            if entity.minimum.any (fun minimum => value.lt minimum)
                || entity.maximum.any (fun maximum => maximum.lt value) then .error .invalidPayload
            else .ok ()
          | _,_ => .ok ()
  | .unknown _ _ => .error .unsupportedCommand

theorem validateAt_iff {command : DeviceCommand} {receivedAt : Timestamp} :
    command.validateAt receivedAt = .ok () ↔ command.target.validate = .ok () ∧
      (∀ deadline, command.deadlineAt = some deadline →
        0 ≤ Int.tdiv (deadline.instant - receivedAt.instant) (seconds 1) ∧
        Int.tdiv (deadline.instant - receivedAt.instant) (seconds 1) ≤ 30) ∧
      command.body.validate = .ok () := by
  unfold DeviceCommand.validateAt
  cases command.target.validate with
  | error error => simp [bind,Except.bind]
  | ok done =>
    cases command.deadlineAt with
    | none => simp [bind,Except.bind]
    | some deadline =>
      by_cases inside : 0 ≤ Int.tdiv (deadline.instant - receivedAt.instant) (seconds 1) ∧
          Int.tdiv (deadline.instant - receivedAt.instant) (seconds 1) ≤ 30
      · simp [bind,Except.bind,inside]
      · simp [bind,Except.bind,inside]

-- Lifecycle payloads.
structure CommandReceived where
  commandId : CommandId
  receivedAt : Timestamp
  duplicate : Bool
deriving DecidableEq

structure CommandAccepted where
  commandId : CommandId
  acceptedAt : Timestamp
deriving DecidableEq

inductive CommandStatus where
  | succeeded
  | failed
deriving DecidableEq, Repr

structure DomainError where
  code : String
  message : String
  requestId : String
  details : List (String × Json)
deriving DecidableEq

structure CommandResult where
  commandId : CommandId
  status : CommandStatus
  completedAt : Timestamp
  error : Option DomainError
deriving DecidableEq

def CommandResult.validate (result : CommandResult) : Except ValidationError Unit :=
  match result.status,result.error with
  | .succeeded,none | .failed,some _ => .ok ()
  | _,_ => .error (.invalidPayload "command result")

end DeviceControl
