import RockServer.BoundedLog
import RockServer.CommandRouter

namespace DeviceControl

-- The process-local registry of live connections with its presence history.
inductive DisconnectReason where
  | gracefulDisconnect
  | heartbeatExpired
  | replaced
  | revoked
  | transportLost
deriving DecidableEq, Repr

structure PresenceEvent where
  userId : Uuid
  deviceId : Uuid
  connectionId : Uuid
  isOnline : Bool
  lastSeen : Instant
  reason : Option DisconnectReason
deriving DecidableEq

-- The sender that tells a session of its replacement is left out here: what it
-- carries is kept by the session that holds the other end.
structure LiveConnection extends ActiveConnection where
  lastSeen : Instant

structure ConnectionRegistration where
  userId : Uuid
  deviceId : Uuid
  connectionId : Uuid
  outbound : Outbound
  manifest : DeviceManifest
  scopes : List DeviceControlScope

def ConnectionRegistration.connection (registration : ConnectionRegistration) : ActiveConnection :=
  ⟨registration.userId,registration.connectionId,registration.outbound,registration.manifest,registration.scopes⟩

-- What the operations do to the live entries alone, as the router and the
-- sessions meet them.
namespace ConnectionRegistry

def generation (registry : ConnectionRegistry) (device connection : Uuid) : Option ActiveConnection :=
  (registry[device]?).filter fun active => active.connectionId = connection

def register (registry : ConnectionRegistry) (registration : ConnectionRegistration) :
    ConnectionRegistry × Option (Uuid × Uuid) :=
  (registry.insert registration.deviceId registration.connection,
    (registry[registration.deviceId]?).map fun previous => (previous.userId,previous.connectionId))

def updateManifest (registry : ConnectionRegistry) (device connection : Uuid) (manifest : DeviceManifest) :
    ConnectionRegistry × Bool :=
  match registry.generation device connection with
  | none => (registry,false)
  | some active => (registry.insert device {active with manifest := manifest},true)

def disconnect (registry : ConnectionRegistry) (device connection : Uuid) : ConnectionRegistry × Bool :=
  match registry.generation device connection with
  | none => (registry,false)
  | some _ => (registry.erase device,true)

def revoke (registry : ConnectionRegistry) (user device : Uuid) : ConnectionRegistry × Bool :=
  match (registry[device]?).filter fun active => active.userId = user with
  | none => (registry,false)
  | some _ => (registry.erase device,true)

end ConnectionRegistry

def userEventCapacity : Nat := 128

-- `history` is every event ever pushed, kept for the statements only.
structure RegistryState where
  active : Table Uuid LiveConnection
  events : Table Uuid (List PresenceEvent)
  history : List PresenceEvent

namespace RegistryState

def empty : RegistryState := ⟨∅,∅,[]⟩

def pushEvent (s : RegistryState) (event : PresenceEvent) : RegistryState where
  active := s.active
  events := s.events.insert event.userId
    (BoundedLog.push userEventCapacity (s.events[event.userId]?.getD []) event)
  history := s.history ++ [event]

def register (s : RegistryState) (registration : ConnectionRegistration) (now : Instant) :
    RegistryState × Option (Uuid × Uuid) :=
  let live : LiveConnection := ⟨registration.connection,now⟩
  ({s with active := s.active.insert registration.deviceId live}.pushEvent
      ⟨registration.userId,registration.deviceId,registration.connectionId,true,now,none⟩,
    (s.active[registration.deviceId]?).map fun previous => (previous.userId,previous.connectionId))

def activeFor (s : RegistryState) (user device : Uuid) : Option ActiveDevice :=
  ((s.active[device]?).filter fun active => active.userId = user).map
    fun active => ⟨active.connectionId,active.manifest,active.scopes⟩

def generation (s : RegistryState) (device connection : Uuid) : Option LiveConnection :=
  (s.active[device]?).filter fun active => active.connectionId = connection

def updateManifest (s : RegistryState) (device connection : Uuid) (manifest : DeviceManifest) : RegistryState × Bool :=
  match s.generation device connection with
  | none => (s,false)
  | some active => ({s with active := s.active.insert device {active with manifest := manifest}},true)

def reachable (s : RegistryState) (receiver : Address) : Option LiveConnection :=
  (s.active[receiver.deviceId]?).filter fun active =>
    active.userId = receiver.userId && active.connectionId = receiver.connectionId && active.outbound.accepts

def sendTo (s : RegistryState) (receiver : Address) (frame : OutboundFrame) : RegistryState × Bool :=
  match s.reachable receiver with
  | none => (s,false)
  | some active =>
    let sent := {active with outbound := {active.outbound with queue := active.outbound.queue ++ [frame]}}
    ({s with active := s.active.insert receiver.deviceId sent},true)

def heartbeat (s : RegistryState) (device connection : Uuid) (now : Instant) : RegistryState × Bool :=
  match s.generation device connection with
  | none => (s,false)
  | some active => ({s with active := s.active.insert device {active with lastSeen := now}},true)

def disconnect (s : RegistryState) (device connection : Uuid) (reason : DisconnectReason) : RegistryState × Bool :=
  match s.generation device connection with
  | none => (s,false)
  | some active => ({s with active := s.active.erase device}.pushEvent
      ⟨active.userId,device,connection,false,active.lastSeen,some reason⟩,true)

def revoke (s : RegistryState) (user device : Uuid) : RegistryState × Bool :=
  match (s.active[device]?).filter fun active => active.userId = user with
  | none => (s,false)
  | some active => ({s with active := s.active.erase device}.pushEvent
      ⟨user,device,active.connectionId,false,active.lastSeen,some .revoked⟩,true)

def eventsFor (s : RegistryState) (user : Uuid) : List PresenceEvent := s.events[user]?.getD []

def snapshotFor (s : RegistryState) (user : Uuid) : List (Uuid × Uuid × Instant) :=
  s.active.toList.filterMap fun entry =>
    if entry.2.userId = user then some (entry.1,entry.2.connectionId,entry.2.lastSeen) else none

-- The live entries without the clock that only presence reads.
def connections (s : RegistryState) : ConnectionRegistry := s.active.map fun _ live => live.toActiveConnection

@[simp] theorem pushEvent_active (s : RegistryState) (event : PresenceEvent) : (s.pushEvent event).active = s.active :=
  rfl
@[simp] theorem pushEvent_history (s : RegistryState) (event : PresenceEvent) :
    (s.pushEvent event).history = s.history ++ [event] := rfl

section refinement
variable {s : RegistryState} {device connection user : Uuid}

theorem connections_get : s.connections[device]? = (s.active[device]?).map LiveConnection.toActiveConnection :=
  Table.get_map

theorem connections_filter (p : ActiveConnection → Bool) : (s.connections[device]?).filter p =
    ((s.active[device]?).filter fun live => p live.toActiveConnection).map LiveConnection.toActiveConnection := by
  rw [connections_get]
  cases s.active[device]? with
  | none => rfl
  | some live =>
    simp only [Option.map_some,Option.filter_some]
    cases p live.toActiveConnection <;> rfl

theorem connections_insert (live : LiveConnection) :
    ({s with active := s.active.insert device live} : RegistryState).connections =
      s.connections.insert device live.toActiveConnection := Table.map_insert

theorem connections_erase : ({s with active := s.active.erase device} : RegistryState).connections =
    s.connections.erase device := Table.map_erase

-- The router and the sessions may take the live entries for the registry: every
-- operation does to them what it does to the whole state.
theorem register_refines (registration : ConnectionRegistration) (now : Instant) :
    s.connections.register registration =
      ((s.register registration now).1.connections,(s.register registration now).2) := by
  unfold ConnectionRegistry.register
  refine Prod.ext ?_ ?_
  · exact (connections_insert ⟨registration.connection,now⟩).symm
  · change Option.map _ s.connections[registration.deviceId]? = _
    rw [connections_get,Option.map_map]
    rfl

theorem updateManifest_refines (manifest : DeviceManifest) : s.connections.updateManifest device connection manifest =
    ((s.updateManifest device connection manifest).1.connections,(s.updateManifest device connection manifest).2) := by
  unfold ConnectionRegistry.updateManifest updateManifest ConnectionRegistry.generation generation
  rw [connections_filter]
  cases (s.active[device]?).filter fun live => live.connectionId = connection with
  | none => rfl
  | some live => exact Prod.ext (connections_insert {live with manifest := manifest}).symm rfl

theorem sendTo_refines (receiver : Address) (frame : OutboundFrame) : s.connections.sendTo receiver frame =
    ((s.sendTo receiver frame).1.connections,(s.sendTo receiver frame).2) := by
  unfold ConnectionRegistry.sendTo sendTo ConnectionRegistry.reachable reachable
  rw [connections_filter]
  cases (s.active[receiver.deviceId]?).filter fun live =>
      live.userId = receiver.userId && live.connectionId = receiver.connectionId && live.outbound.accepts with
  | none => rfl
  | some live =>
    exact Prod.ext (connections_insert {live with
      outbound := {live.outbound with queue := live.outbound.queue ++ [frame]}}).symm rfl

-- A heartbeat only moves the clock.
theorem heartbeat_refines (now : Instant) : (s.heartbeat device connection now).1.connections = s.connections ∧
    (s.heartbeat device connection now).2 = (s.connections.generation device connection).isSome := by
  unfold heartbeat ConnectionRegistry.generation
  rw [connections_filter]
  cases found : s.generation device connection with
  | none =>
    unfold generation at found
    rw [found]
    exact ⟨rfl,rfl⟩
  | some live =>
    unfold generation at found
    rw [found]
    exact ⟨Table.map_requeued (Option.filter_eq_some_iff.mp found).1 rfl,rfl⟩

theorem disconnect_refines (reason : DisconnectReason) : s.connections.disconnect device connection =
    ((s.disconnect device connection reason).1.connections,(s.disconnect device connection reason).2) := by
  unfold ConnectionRegistry.disconnect disconnect ConnectionRegistry.generation generation
  rw [connections_filter]
  cases (s.active[device]?).filter fun live => live.connectionId = connection with
  | none => rfl
  | some live => exact Prod.ext connections_erase.symm rfl

theorem revoke_refines : s.connections.revoke user device =
    ((s.revoke user device).1.connections,(s.revoke user device).2) := by
  unfold ConnectionRegistry.revoke revoke
  rw [connections_filter]
  cases (s.active[device]?).filter fun live => live.userId = user with
  | none => rfl
  | some live => exact Prod.ext connections_erase.symm rfl

theorem activeFor_refines : s.connections.activeFor user device = s.activeFor user device := by
  unfold ConnectionRegistry.activeFor activeFor
  rw [connections_filter,Option.map_map]
  rfl

end refinement
end RegistryState
end DeviceControl
