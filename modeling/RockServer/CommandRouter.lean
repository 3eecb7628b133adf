import RockServer.CommandStore
import RockServer.Transition

namespace DeviceControl

inductive OutboundFrame where
  | commandReceived (payload : CommandReceived)
  | commandAccepted (payload : CommandAccepted)
  | commandResult (payload : CommandResult)
  | deviceCommand (payload : DeviceCommand)
deriving DecidableEq

def OutboundFrame.kind : OutboundFrame → String
  | .commandReceived _ => "command.received"
  | .commandAccepted _ => "command.accepted"
  | .commandResult _ => "command.result"
  | .deviceCommand _ => "device.command"

def outboundCapacity : Nat := 16

-- The bounded channel of one session; it closes when the session drops its end.
structure Outbound where
  queue : List OutboundFrame
  closed : Bool

def Outbound.accepts (outbound : Outbound) : Bool :=
  !outbound.closed && outbound.queue.length < outboundCapacity

structure ActiveConnection where
  userId : Uuid
  connectionId : Uuid
  outbound : Outbound
  manifest : DeviceManifest
  scopes : List DeviceControlScope

structure ActiveDevice where
  connectionId : Uuid
  manifest : DeviceManifest
  scopes : List DeviceControlScope

abbrev ConnectionRegistry := Table Uuid ActiveConnection

-- One exact connection generation of an owned device.
structure Address where
  userId : Uuid
  deviceId : Uuid
  connectionId : Uuid
deriving DecidableEq

namespace ConnectionRegistry

def activeFor (registry : ConnectionRegistry) (user device : Uuid) : Option ActiveDevice :=
  ((registry[device]?).filter fun active => active.userId = user).map
    fun active => ⟨active.connectionId,active.manifest,active.scopes⟩

def reachable (registry : ConnectionRegistry) (receiver : Address) : Option ActiveConnection :=
  (registry[receiver.deviceId]?).filter fun active =>
    active.userId = receiver.userId && active.connectionId = receiver.connectionId && active.outbound.accepts

def sendTo (registry : ConnectionRegistry) (receiver : Address) (frame : OutboundFrame) :
    ConnectionRegistry × Bool :=
  match reachable registry receiver with
  | none => (registry,false)
  | some active =>
    (registry.insert receiver.deviceId
      {active with outbound := {active.outbound with queue := active.outbound.queue ++ [frame]}},true)

end ConnectionRegistry

def maxConnectionInFlight : Nat := 16
def maxTargetInFlight : Nat := 8
def defaultTimeout : Instant := seconds 10
def maxTimeout : Instant := seconds 30

structure InFlight where
  ownerId : Uuid
  controllerDeviceId : Uuid
  controllerConnectionId : Uuid
  targetDeviceId : DeviceId
  targetConnectionId : Uuid
  requestId : String
deriving DecidableEq

structure ResolvedStation where
  streamUri : String
  presentation : StationPresentation

inductive ResolutionFailure where
  | invalid (message : String)
  | unavailable

-- What one bounded catalog lookup came back with; errors and timeouts are one.
inductive CatalogReply where
  | unavailable
  | unknown
  | found (station : ResolvedStation)

def isWhitespace (c : Char) : Bool :=
  let n := c.toNat
  (9 ≤ n && n ≤ 13) || n == 0x20 || n == 0x85 || n == 0xa0 || n == 0x1680
    || (0x2000 ≤ n && n ≤ 0x200a) || n == 0x2028 || n == 0x2029 || n == 0x202f
    || n == 0x205f || n == 0x3000

def resolveStation : CatalogReply → Except ResolutionFailure ResolvedStation
  | .unavailable => .error .unavailable
  | .unknown => .error (.invalid "Unknown station identifier.")
  | .found station =>
    if station.streamUri.toList.all isWhitespace then
      .error (.invalid "Station has no playable stream.")
    else match station.presentation.validate with
      | .error _ => .error (.invalid "Station presentation is not allowed.")
      | .ok () => match StreamUri.validateStreamUri station.streamUri with
        | .ok () => .ok station
        | .error _ => .error (.invalid "Stream address is not allowed.")

-- What the router takes from outside: the request digest (SHA-256 over the
-- serialized command), the timestamp text and whether a catalog is attached.
structure RouterEnv where
  fingerprint : DeviceCommand → Option Fingerprint
  rfc3339 : Instant → String
  hasCatalog : Bool

def timestamp (env : RouterEnv) (instant : Instant) : Timestamp := ⟨env.rfc3339 instant,instant⟩

def terminalMessage (env : RouterEnv) (now : Instant) (commandId : CommandId) (requestId : String)
    (code : ErrorCode) (message : String) : CommandResult where
  commandId := commandId
  status := .failed
  completedAt := timestamp env now
  error := some ⟨code.text,message,requestId,[]⟩

def terminal (env : RouterEnv) (now : Instant) (commandId : CommandId) (requestId : String)
    (code : ErrorCode) : CommandResult :=
  terminalMessage env now commandId requestId code "Device command did not complete."

structure SubmitCall where
  ownerId : Uuid
  controllerDeviceId : Uuid
  controllerConnectionId : Uuid
  requestId : String
  command : DeviceCommand
  hasStore : Bool

-- The locals of a submit once every admission check has passed.
structure Admission where
  ownerId : Uuid
  controllerDeviceId : Uuid
  controllerConnectionId : Uuid
  requestId : String
  receivedAt : Timestamp
  command : DeviceCommand
  targetConnectionId : Uuid
  fingerprint : Fingerprint
  deadlineAt : Timestamp

def isCatalogStream : CommandBody → Bool
  | .playStream .rockserverCatalog _ _ _ => true
  | _ => false

def isPlayStation : CommandBody → Bool
  | .playStation _ => true
  | _ => false

def checkController (env : RouterEnv) (now : Instant) (registry : ConnectionRegistry)
    (call : SubmitCall) : Except ErrorCode Unit :=
  match (ConnectionRegistry.activeFor registry call.ownerId call.controllerDeviceId).filter
      fun active => active.connectionId = call.controllerConnectionId with
  | none => .error .forbidden
  | some controller =>
    if DeviceRole.controller ∉ controller.manifest.roles then .error .forbidden
    else match call.command.validateAt (timestamp env now) with
      | .error error => .error error.code
      | .ok () => match call.command.executable with
        | .error error => .error error.code
        | .ok () =>
          if isCatalogStream call.command.body then .error .invalidPayload
          else if requiredScope call.command.body ∉ controller.scopes then .error .forbidden
          else if !call.hasStore then .error .persistenceUnavailable
          else .ok ()

def checkTarget (env : RouterEnv) (now : Instant) (call : SubmitCall) (target : ActiveDevice) :
    Except ErrorCode Admission :=
  match validateTarget call.command target.manifest with
  | .error code => .error code
  | .ok () =>
    if isPlayStation call.command.body && !env.hasCatalog then .error .persistenceUnavailable
    else match env.fingerprint call.command with
      | none => .error .invalidPayload
      | some fingerprint =>
        let deadline := (call.command.deadlineAt.map Timestamp.instant).getD (now + defaultTimeout)
        if deadline ≤ now ∨ now + maxTimeout < deadline then .error .commandTimeout
        else
          let deadlineAt := timestamp env deadline
          .ok {
            ownerId := call.ownerId
            controllerDeviceId := call.controllerDeviceId
            controllerConnectionId := call.controllerConnectionId
            requestId := call.requestId
            receivedAt := timestamp env now
            command := {call.command with deadlineAt := some deadlineAt}
            targetConnectionId := target.connectionId
            fingerprint := fingerprint
            deadlineAt := deadlineAt}

inductive Call where
  | submit (call : SubmitCall)
  | accepted (owner device connection : Uuid) (accepted : CommandAccepted)
  | result (owner device connection : Uuid) (result : CommandResult) (hasStore : Bool)
  | disconnected (owner device connection : Uuid) (hasStore : Bool)

-- Who called `finish`: only `disconnected` goes on, with the commands it listed.
inductive Caller where
  | submit
  | result
  | timer
  | disconnected (rest : List (CommandId × String))

-- A task stands before its next atomic step: a mutex section, a delivery
-- attempt or a store transaction. `notify` remembers the row it completed.
inductive Task where
  | start (call : Call)
  | lookup (call : SubmitCall) (now : Instant)
  | ownership (call : SubmitCall)
  | reserve (admission : Admission)
  | loadReplay (admission : Admission)
  | replayReceived (admission : Admission) (persisted : Option CommandResult)
  | replayResult (admission : Admission) (persisted : CommandResult)
  | capacity (admission : Admission)
  | reject (admission : Admission)
  | insert (admission : Admission)
  | received (admission : Admission)
  | resolve (admission : Admission) (stationId : String)
  | dispatch (admission : Admission) (command : DeviceCommand)
  | arm (admission : Admission)
  | timer (commandId : CommandId) (requestId : String)
  | finish (commandId : CommandId) (result : CommandResult) (caller : Caller)
  | complete (item : InFlight) (result : CommandResult) (caller : Caller)
  | notify (item : InFlight) (result : CommandResult) (caller : Caller) (reservation : Nat)
  | returned (outcome : Except ErrorCode Unit)

-- The submitter's side of a reservation: who may be told how it ended.
structure Claim where
  ownerId : Uuid
  controllerDeviceId : Uuid
  controllerConnectionId : Uuid
  targetDeviceId : DeviceId
deriving DecidableEq

def Admission.claim (admission : Admission) : Claim :=
  ⟨admission.ownerId,admission.controllerDeviceId,admission.controllerConnectionId,
    admission.command.target.deviceId⟩
def InFlight.claim (item : InFlight) : Claim :=
  ⟨item.ownerId,item.controllerDeviceId,item.controllerConnectionId,item.targetDeviceId⟩
def Claim.controller (claim : Claim) : Address :=
  ⟨claim.ownerId,claim.controllerDeviceId,claim.controllerConnectionId⟩

-- History kept for the statements only; no step reads it. A frame is marked
-- with a reservation when it is the terminal report of `finish`.
inductive Event where
  | reserved (reservation : Nat) (commandId : CommandId) (claim : Claim)
  | completed (reservation : Nat) (result : CommandResult)
  | sent (receiver : Address) (frame : OutboundFrame) (reservation : Option Nat)
deriving DecidableEq

structure RouterState where
  inFlight : Table CommandId InFlight
  registry : ConnectionRegistry
  store : StoreState
  tasks : List Task
  journal : List Event

-- The outside's choices at one step. `storeFails = some committed` is a store
-- transaction that reports an error, its commit lost or only unacknowledged.
structure Oracle where
  now : Instant
  storeFails : Option Bool
  catalog : CatalogReply

def RouterState.send (s : RouterState) (receiver : Address) (frame : OutboundFrame)
    (reservation : Option Nat) : RouterState × Bool :=
  match ConnectionRegistry.sendTo s.registry receiver frame with
  | (_,false) => (s,false)
  | (registry,true) =>
    ({s with registry := registry,journal := s.journal ++ [.sent receiver frame reservation]},true)

-- `complete`: the store transaction with every failure read as a conflict.
-- The reservation is reported when the answer was `accepted`.
def RouterState.complete (s : RouterState) (o : Oracle) (owner : Uuid) (target : DeviceId)
    (result : CommandResult) : RouterState × Option Nat :=
  match s.store.completeCommand owner target result,s.store.commands[result.commandId]? with
  | (.ok .accepted,store),some row =>
    let settled := {s with store := store,journal := s.journal ++ [.completed row.reservation result]}
    match o.storeFails with
    | none => (settled,some row.reservation)
    | some true => (settled,none)
    | some false => (s,none)
  | _,_ => (s,none)

def overCapacity (inFlight : Table CommandId InFlight) (connection : Uuid) (target : DeviceId) : Bool :=
  maxConnectionInFlight ≤ Table.count (fun _ item => item.controllerConnectionId = connection) inFlight
    || maxTargetInFlight ≤ Table.count (fun _ item => item.targetDeviceId = target) inFlight

def Admission.inFlight (admission : Admission) : InFlight where
  ownerId := admission.ownerId
  controllerDeviceId := admission.controllerDeviceId
  controllerConnectionId := admission.controllerConnectionId
  targetDeviceId := admission.command.target.deviceId
  targetConnectionId := admission.targetConnectionId
  requestId := admission.requestId

def Admission.controller (admission : Admission) : Address := admission.claim.controller
def Admission.target (admission : Admission) : Address :=
  ⟨admission.ownerId,admission.command.target.deviceId.uuid,admission.targetConnectionId⟩
def Admission.reservation (admission : Admission) : CommandReservation :=
  ⟨admission.command,admission.fingerprint,admission.deadlineAt⟩

def InFlight.deliveredTo (item : InFlight) (owner device connection : Uuid) : Bool :=
  item.ownerId = owner && item.targetDeviceId.uuid = device && item.targetConnectionId = connection

-- What follows a `finish` that is through with one command.
def Caller.next (env : RouterEnv) (now : Instant) : Caller → Task
  | .disconnected ((commandId,requestId) :: rest) =>
    .finish commandId (terminal env now commandId requestId .targetOffline) (.disconnected rest)
  | _ => .returned (.ok ())

def begin (env : RouterEnv) (o : Oracle) (s : RouterState) : Call → RouterState × Task
  | .submit call => match checkController env o.now s.registry call with
    | .error code => (s,.returned (.error code))
    | .ok () => (s,.lookup call o.now)
  | .accepted owner device connection accepted =>
    match s.inFlight[accepted.commandId]? with
    | none => (s,.returned (.error .duplicateCommand))
    | some item =>
      if !item.deliveredTo owner device connection then (s,.returned (.error .forbidden))
      else match s.send ⟨owner,item.controllerDeviceId,item.controllerConnectionId⟩
          (.commandAccepted {accepted with acceptedAt := timestamp env o.now}) none with
        | (s',true) => (s',.returned (.ok ()))
        | (s',false) => (s',.returned (.error .targetOffline))
  | .result owner device connection result hasStore =>
    match result.validate with
    | .error error => (s,.returned (.error error.code))
    | .ok () => match s.inFlight[result.commandId]? with
      | none => (s,.returned (.error .duplicateCommand))
      | some item =>
        if !item.deliveredTo owner device connection then (s,.returned (.error .forbidden))
        else if !hasStore then (s,.returned (.error .persistenceUnavailable))
        else (s,.finish result.commandId {result with completedAt := timestamp env o.now} .result)
  | .disconnected owner device connection hasStore =>
    if !hasStore then (s,.returned (.ok ()))
    else
      let commands := (s.inFlight.toList.filter fun entry => entry.2.deliveredTo owner device connection).map
        fun entry => (entry.1,entry.2.requestId)
      (s,Caller.next env o.now (.disconnected commands))

def reserve (o : Oracle) (s : RouterState) (admission : Admission) : RouterState × Task :=
  match s.store.reserveCommand o.now admission.ownerId admission.command.target.deviceId
      admission.reservation,o.storeFails with
  | (_,store),some committed =>
    (if committed then {s with store := store} else s,.returned (.error .persistenceUnavailable))
  | (.error _,_),none => (s,.returned (.error .persistenceUnavailable))
  | (.ok .conflict,_),none => (s,.returned (.error .duplicateCommand))
  | (.ok .accepted,store),none =>
    ({s with
      store := store
      journal := s.journal ++
        [.reserved s.store.nextReservation admission.command.commandId admission.claim]},.capacity admission)
  | (.ok .replay,_),none => (s,.loadReplay admission)
  | (.ok _,_),none => (s,.returned (.error .forbidden))

def resolve (env : RouterEnv) (o : Oracle) (s : RouterState) (admission : Admission)
    (stationId : String) : RouterState × Task :=
  let id := admission.command.commandId
  if !env.hasCatalog then
    (s,.finish id (terminal env o.now id admission.requestId .persistenceUnavailable) .submit)
  else match resolveStation o.catalog with
    | .ok station => (s,.dispatch admission {admission.command with
        body := .playStream .rockserverCatalog (some stationId) (some station.presentation) station.streamUri})
    | .error (.invalid message) =>
      (s,.finish id (terminalMessage env o.now id admission.requestId .invalidPayload message) .submit)
    | .error .unavailable =>
      (s,.finish id (terminalMessage env o.now id admission.requestId .persistenceUnavailable
        "Station catalog is unavailable.") .submit)

-- One atomic step of one task: the state it leaves, what the task does next
-- and the tasks it spawned.
def advance (env : RouterEnv) (o : Oracle) (s : RouterState) : Task → RouterState × Task × List Task
  | .start call => let (s',next) := begin env o s call; (s',next,[])
  | .lookup call now =>
    match ConnectionRegistry.activeFor s.registry call.ownerId call.command.target.deviceId.uuid with
    | none => (s,.ownership call,[])
    | some target => match checkTarget env now call target with
      | .error code => (s,.returned (.error code),[])
      | .ok admission => (s,.reserve admission,[])
  | .ownership call =>
    if o.storeFails.isSome then (s,.returned (.error .persistenceUnavailable),[])
    else if (s.store.loadManifest call.ownerId call.command.target.deviceId).isSome then
      (s,.returned (.error .targetOffline),[])
    else (s,.returned (.error .forbidden),[])
  | .reserve admission => let (s',next) := reserve o s admission; (s',next,[])
  | .loadReplay admission =>
    if o.storeFails.isSome then (s,.returned (.error .persistenceUnavailable),[])
    else
      let lifecycle := s.store.loadCommand admission.ownerId admission.command.target.deviceId
        admission.command.commandId
      (s,.replayReceived admission (lifecycle.bind fun lifecycle => lifecycle.result),[])
  | .replayReceived admission persisted =>
    match s.send admission.controller
        (.commandReceived ⟨admission.command.commandId,timestamp env o.now,true⟩) none,persisted with
    | (s',false),_ => (s',.returned (.error .targetOffline),[])
    | (s',true),none => (s',.returned (.ok ()),[])
    | (s',true),some result => (s',.replayResult admission result,[])
  | .replayResult admission persisted =>
    match s.send admission.controller (.commandResult persisted) none with
    | (s',false) => (s',.returned (.error .targetOffline),[])
    | (s',true) => (s',.returned (.ok ()),[])
  | .capacity admission =>
    if overCapacity s.inFlight admission.controllerConnectionId admission.command.target.deviceId then
      (s,.reject admission,[])
    else (s,.insert admission,[])
  | .reject admission =>
    let (s',_) := s.complete o admission.ownerId admission.command.target.deviceId
      (terminal env o.now admission.command.commandId admission.requestId .tooManyInFlight)
    (s',.returned (.error .tooManyInFlight),[])
  | .insert admission =>
    ({s with inFlight := s.inFlight.insert admission.command.commandId admission.inFlight},
      .received admission,[])
  | .received admission =>
    match s.send admission.controller
        (.commandReceived ⟨admission.command.commandId,admission.receivedAt,false⟩) none with
    | (s',false) => (s',.returned (.error .targetOffline),[])
    | (s',true) => match admission.command.body with
      | .playStation stationId => (s',.resolve admission stationId,[])
      | _ => (s',.dispatch admission admission.command,[])
  | .resolve admission stationId => let (s',next) := resolve env o s admission stationId; (s',next,[])
  | .dispatch admission command =>
    match s.send admission.target (.deviceCommand command) none with
    | (s',false) => (s',.finish command.commandId
        (terminal env o.now command.commandId admission.requestId .targetOffline) .submit,[])
    | (s',true) => (s',.arm admission,[])
  | .arm admission =>
    (s,.returned (.ok ()),[.timer admission.command.commandId admission.requestId])
  | .timer commandId requestId =>
    (s,.finish commandId (terminal env o.now commandId requestId .commandTimeout) .timer,[])
  | .finish commandId result caller =>
    match s.inFlight[commandId]? with
    | none => (s,caller.next env o.now,[])
    | some item => ({s with inFlight := s.inFlight.erase commandId},.complete item result caller,[])
  | .complete item result caller =>
    match s.complete o item.ownerId item.targetDeviceId result with
    | (s',some reservation) => (s',.notify item result caller reservation,[])
    | (s',none) => (s',caller.next env o.now,[])
  | .notify item result caller reservation =>
    let (s',_) := s.send item.claim.controller (.commandResult result) (some reservation)
    (s',caller.next env o.now,[])
  | .returned outcome => (s,.returned outcome,[])

-- Registrations, disconnects, revocations and drained or dropped channels are
-- the registry's; the router meets whatever registry they left, so any may
-- stand there. Ownership and manifests in the store move the same way.
inductive Action where
  | call (call : Call)
  | run (task : Nat) (oracle : Oracle)
  | registry (registry : ConnectionRegistry)
  | devices (devices : List (DeviceId × Uuid)) (manifests : List (DeviceId × DeviceManifest))
  | prune (now : Instant) (limit : Nat)

def execute (env : RouterEnv) (s : RouterState) : Action → Option RouterState
  | .call call => some {s with tasks := s.tasks ++ [.start call]}
  | .run i o => match s.tasks[i]? with
    | none => none
    | some task =>
      let (s',next,spawned) := advance env o s task
      some {s' with tasks := s.tasks.set i next ++ spawned}
  | .registry registry => some {s with registry := registry}
  | .devices devices manifests => some {s with store := {s.store with devices,manifests}}
  | .prune now limit => some {s with store := s.store.pruneCommands now limit}

-- A fresh process: nothing in flight, no call running, any registry and any
-- table of commands left by earlier processes.
structure Initial (s : RouterState) : Prop where
  inFlight : s.inFlight = ∅
  tasks : s.tasks = []
  journal : s.journal = []
  store : s.store.Sound

abbrev Step (env : RouterEnv) := Transition.Executes (execute env)
abbrev Runs (env : RouterEnv) := Transition.Runs (Step env)

def Reached (env : RouterEnv) (s : RouterState) : Prop :=
  ∃ origin actions, Initial origin ∧ Runs env origin actions s

end DeviceControl
