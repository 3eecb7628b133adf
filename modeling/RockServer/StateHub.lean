import RockServer.Revision
import RockServer.Transition

namespace DeviceControl

-- Runtime state as devices report it: the stored snapshot, the process's latest
-- state, and the sessions that feed both.
structure PlaybackState where
  status : String
  stationId : Option String
  trackTitle : Option String
deriving DecidableEq

structure VolumeState where
  level : UInt8
  muted : Bool
deriving DecidableEq

structure DisplayState where
  surfaceId : String
  view : String
deriving DecidableEq

structure DeviceRuntimeState where
  playback : Option PlaybackState
  volume : Option VolumeState
  display : Option DisplayState
deriving DecidableEq

structure DeviceStateSnapshot where
  stateRevision : Nat
  observedAt : Timestamp
  receivedAt : Option Timestamp
  state : DeviceRuntimeState
deriving DecidableEq

structure DeviceStateDelta where
  baseRevision : Nat
  stateRevision : Nat
  observedAt : Timestamp
  changes : DeviceRuntimeState

def isControl (c : Char) : Bool := c.val < 0x20 || (0x7f ≤ c.val && c.val < 0xa0)

def validTrackTitle (state : DeviceRuntimeState) : Bool :=
  match state.playback.bind PlaybackState.trackTitle with
  | none => true
  | some title => 1 ≤ title.length && title.length ≤ 256 && !title.toList.any isControl

def reported (state : DeviceRuntimeState) : Bool := state.playback.isSome || state.volume.isSome || state.display.isSome

def validSnapshot (snapshot : DeviceStateSnapshot) : Bool :=
  0 < snapshot.stateRevision && reported snapshot.state && validTrackTitle snapshot.state

def validDelta (delta : DeviceStateDelta) : Bool :=
  0 < delta.baseRevision && delta.baseRevision < delta.stateRevision && reported delta.changes && validTrackTitle delta.changes

def mergeState (current changes : DeviceRuntimeState) : DeviceRuntimeState :=
  ⟨changes.playback.or current.playback,changes.volume.or current.volume,changes.display.or current.display⟩

def requiresFullState (roles : List DeviceRole) : Bool := roles.any fun role => role ≠ .controller

-- An event as it is broadcast. What the store had answered is kept for the
-- statements only.
structure Publication where
  user : Uuid
  device : DeviceId
  snapshot : DeviceStateSnapshot
  answer : StoreOutcome

structure StateHub where
  state : Table (Uuid ×ₗ Uuid) DeviceStateSnapshot
  cursors : Table Uuid Nat
  published : List Publication

namespace StateHub

def empty : StateHub := ⟨∅,∅,[]⟩

def deviceState (hub : StateHub) (user : Uuid) (device : DeviceId) : Option DeviceStateSnapshot :=
  hub.state[toLex (user,device.uuid)]?

def publishDeviceState (hub : StateHub) (user : Uuid) (device : DeviceId) (snapshot : DeviceStateSnapshot)
    (answer : StoreOutcome) : StateHub where
  state := hub.state.insert (toLex (user,device.uuid)) snapshot
  cursors := hub.cursors.insert user (hub.cursors[user]?.getD 0 + 1)
  published := hub.published ++ [⟨user,device,snapshot,answer⟩]

def acceptSnapshot (hub : StateHub) (user : Uuid) (device : DeviceId) (snapshot : DeviceStateSnapshot)
    (answer : StoreOutcome) : RevisionOrder × StateHub :=
  let result := match hub.deviceState user device with
    | some current => revisionOrder current.stateRevision current.state snapshot.stateRevision snapshot.state none
    | none => .next
  match result with
  | .next | .gap => (.next,hub.publishDeviceState user device snapshot answer)
  | order => (order,hub)

end StateHub

structure StateRow where
  revision : Nat
  payload : DeviceStateSnapshot

structure Session where
  user : Uuid
  needsFullState : Bool

structure ControlState where
  active : List DeviceId
  snapshots : Table Uuid StateRow
  hub : StateHub
  sessions : Table Uuid Session

-- Payloads are compared as JSON without their `received_at`.
def DeviceStateSnapshot.compared (snapshot : DeviceStateSnapshot) : Nat × String × DeviceRuntimeState :=
  (snapshot.stateRevision,snapshot.observedAt.text,snapshot.state)

def fullStateOutcome (accepted : StateRow) (incoming : DeviceStateSnapshot) : Option StoreOutcome :=
  match outcome accepted.revision accepted.payload.compared incoming.stateRevision incoming.compared with
  | some .resync => none
  | other => other

def acceptedFullSnapshot : Except StoreError StoreOutcome → Option StoreOutcome
  | .ok .accepted => some .accepted
  | .ok .replay => some .replay
  | .ok .stale => some .stale
  | _ => none

def acceptedDelta : Except StoreError StoreOutcome → Option StoreOutcome
  | .ok .accepted => some .accepted
  | .ok .replay => some .replay
  | _ => none

inductive Message where
  | stateFull (snapshot : DeviceStateSnapshot)
  | stateDelta (delta : DeviceStateDelta)

namespace ControlState

-- A device belongs to one account for good, until it is revoked.
variable (owner : DeviceId → Uuid)

def owned (s : ControlState) (user : Uuid) (device : DeviceId) : Bool := owner device = user && s.active.contains device

def upsertSnapshot (s : ControlState) (device : DeviceId) (snapshot : DeviceStateSnapshot) (now : Timestamp) :
    Except StoreError StoreOutcome × ControlState :=
  if !columnRevision snapshot.stateRevision then (.error .database,s)
  else (.ok .accepted,{s with
    snapshots := s.snapshots.insert device.uuid ⟨snapshot.stateRevision,{snapshot with receivedAt := some now}⟩})

-- The store's clock is absent when the transaction fails and is rolled back.
def storeDeviceState (s : ControlState) (user : Uuid) (device : DeviceId) (snapshot : DeviceStateSnapshot)
    (now : Option Timestamp) : Except StoreError StoreOutcome × ControlState :=
  match now with
  | none => (.error .database,s)
  | some now =>
    if !s.owned owner user device then (.ok .notOwned,s)
    else match s.snapshots[device.uuid]?.bind fun row => fullStateOutcome row snapshot with
      | some refused => (.ok refused,s)
      | none => s.upsertSnapshot device snapshot now

def setNeeds (s : ControlState) (device : DeviceId) (session : Session) (needsFullState : Bool) : ControlState :=
  {s with sessions := s.sessions.insert device.uuid {session with needsFullState := needsFullState}}

def close (s : ControlState) (device : DeviceId) : ControlState := {s with sessions := s.sessions.erase device.uuid}

def stateFull (s : ControlState) (device : DeviceId) (session : Session) (snapshot : DeviceStateSnapshot)
    (now : Option Timestamp) : ControlState :=
  if !validSnapshot snapshot then s.close device
  else match s.storeDeviceState owner session.user device snapshot now with
    | (answer,s) => match acceptedFullSnapshot answer with
      | none => s.setNeeds device session true
      | some answer => match s.hub.acceptSnapshot session.user device snapshot answer with
        -- A stale snapshot is still a reconnect handshake.
        | (order,hub) => {s with hub := hub}.setNeeds device session (order = RevisionOrder.conflict ∨ order = RevisionOrder.gap)

def persistMerged (s : ControlState) (device : DeviceId) (session : Session) (merged : DeviceStateSnapshot)
    (now : Option Timestamp) : ControlState :=
  match s.storeDeviceState owner session.user device merged now with
  | (answer,s) => match acceptedDelta answer with
    | some answer => {s with hub := s.hub.publishDeviceState session.user device merged answer}
    | none => s.setNeeds device session true

def stateDelta (s : ControlState) (device : DeviceId) (session : Session) (delta : DeviceStateDelta)
    (now : Option Timestamp) : ControlState :=
  if session.needsFullState || !validDelta delta then s.setNeeds device session true
  else match s.hub.deviceState session.user device with
    | none => s.setNeeds device session true
    | some current =>
      let merged : DeviceStateSnapshot := ⟨delta.stateRevision,delta.observedAt,none,mergeState current.state delta.changes⟩
      match revisionOrder current.stateRevision current.state merged.stateRevision merged.state (some delta.baseRevision) with
      | .next => s.persistMerged owner device session merged now
      | .replay | .stale => s
      | .conflict | .gap => s.setNeeds device session true

def receive (s : ControlState) (device : DeviceId) (session : Session) (now : Option Timestamp) : Message → ControlState
  | .stateFull snapshot => s.stateFull owner device session snapshot now
  | .stateDelta delta => s.stateDelta owner device session delta now

-- Sessions of one device follow each other, and each handles its messages in
-- turn. A restart keeps the database alone.
inductive Action where
  | connect (device : DeviceId) (roles : List DeviceRole)
  | message (device : DeviceId) (message : Message) (now : Option Timestamp)
  | disconnect (device : DeviceId)
  | revoke (device : DeviceId)
  | restart

def execute (s : ControlState) : Action → Option ControlState
  | .connect device roles =>
    if s.owned owner (owner device) device then
      some {s with sessions := s.sessions.insert device.uuid ⟨owner device,requiresFullState roles⟩}
    else none
  | .message device message now => s.sessions[device.uuid]?.map fun session => s.receive owner device session now message
  | .disconnect device => some (s.close device)
  | .revoke device => some {s with active := s.active.filter fun other => other ≠ device}
  | .restart => some {s with hub := .empty,sessions := ∅}

end ControlState
end DeviceControl
