import RockServer.ChangeFeeds
import RockServer.DirectoryReads

namespace DeviceControl

def StateEvent.deviceId : StateEvent → Uuid
  | .manifest device | .presence device _ | .deviceState device _ | .entityState device _ => device

-- The directory frames of live sessions: a snapshot after registration, and an
-- upsert after each event of the account.
namespace Directory

def subscriberCapacity : Nat := 64

inductive DirectoryFrame where
  | snapshot (directory : DirectoryDto)
  | upsert (directoryRevision : Nat) (device : DirectoryDeviceDto)

-- The directory side of a session: how far its receiver got in the account's
-- events, the reading under way with the device whose event it follows, and
-- every frame it sent.
structure Watcher where
  query : Query
  position : Nat
  about : Option Uuid
  reading : Option Reading
  frames : List DirectoryFrame

structure DirectoryFeed where
  plane : ControlPlane
  profiles : Uuid → DeviceProfile
  watchers : Table Uuid Watcher

-- A session receives an event, goes on with its reading (where a store may fail
-- or be missing) or sends what it read. Between these it steps as before.
inductive Action where
  | plane (action : ControlPlane.Action)
  | profile (device : Uuid) (profile : DeviceProfile)
  | receive (id : Uuid) (now : Instant)
  | read (id : Uuid) (now : Instant) (clock : String) (answers : Bool)
  | send (id : Uuid) (now : Instant) (clock : String) (sent : Bool)

def accountEvents (hub : LiveHub) (user : Uuid) : List StateEvent :=
  (hub.feed.filter fun entry => entry.1 = user).map Prod.snd

def Watcher.unread (w : Watcher) (hub : LiveHub) : List StateEvent := (accountEvents hub w.query.userId).drop w.position

-- The steps of a reading that wait for a store.
def Reading.awaits : Reading → Bool
  | .owners _ | .devices _ _ (_ :: _) .start | .devices _ _ (_ :: _) (.declared _)
  | .devices _ _ (_ :: _) (.entities _ _ _ (_ :: _)) => true
  | _ => false

namespace DirectoryFeed

def setWatcher (s : DirectoryFeed) (id : Uuid) (w : Watcher) : DirectoryFeed := {s with watchers := s.watchers.insert id w}

-- A session that reads does nothing else, and only its readings tell it how its
-- directory branch went.
def free (s : DirectoryFeed) : ControlPlane.Action → Bool
  | .session _ _ (.directory _) => false
  | .session id _ _ => (s.watchers[id]?).all fun w => w.reading.isNone
  | _ => true

-- A session that is due a snapshot subscribes and begins to read.
def opened (s : DirectoryFeed) (id : Uuid) (session : ControlSession) : DirectoryFeed :=
  match session.phase with
  | .listing => s.setWatcher id
    ⟨⟨session.userId,session.scopes,.unfiltered⟩,(accountEvents s.plane.hub session.userId).length,none,some .marking,[]⟩
  | _ => s

def step (env : PlaneEnv) (s : DirectoryFeed) (action : ControlPlane.Action) : Option DirectoryFeed :=
  (ControlPlane.execute env s.plane action).map fun plane => {s with plane := plane}

-- Whatever goes wrong with the directory ends the session.
def drop (env : PlaneEnv) (s : DirectoryFeed) (id : Uuid) (now : Instant) (w : Watcher) : Option DirectoryFeed :=
  (s.step env (.session id now (if w.about.isSome then .directory false else .failed))).map fun after =>
    {after with watchers := s.watchers.erase id}

def told (env : PlaneEnv) (s : DirectoryFeed) (id : Uuid) (now : Instant) (w : Watcher) (frames : List DirectoryFrame) :
    Option DirectoryFeed :=
  (s.step env (.session id now (if w.about.isSome then .directory true else .done))).map fun after =>
    after.setWatcher id {w with reading := none, frames := w.frames ++ frames}

def receive (env : PlaneEnv) (s : DirectoryFeed) (id : Uuid) (now : Instant) (w : Watcher) : Option DirectoryFeed :=
  match w.reading,w.unread s.plane.hub with
  | none,event :: rest =>
    if subscriberCapacity < (event :: rest).length then s.drop env id now {w with about := some event.deviceId}
    else some (s.setWatcher id
      {w with position := w.position + 1, about := some event.deviceId, reading := some .marking})
  | _,_ => none

def read (env : PlaneEnv) (s : DirectoryFeed) (id : Uuid) (now : Instant) (clock : String) (answers : Bool) (w : Watcher) :
    Option DirectoryFeed :=
  w.reading.bind fun reading =>
    if reading.finished.isSome then none
    else match (if reading.awaits && !(answers && env.hasStore) then none
        else reading.advance w.query s.plane s.profiles clock) with
      | some next => some (s.setWatcher id {w with reading := some next})
      | none => s.drop env id now w

def send (env : PlaneEnv) (s : DirectoryFeed) (id : Uuid) (now : Instant) (clock : String) (sent : Bool) (w : Watcher) :
    Option DirectoryFeed :=
  match w.reading.bind Reading.finished,w.about with
  | none,_ => none
  | some (cursor,entries),none =>
    if sent then s.told env id now w [.snapshot ⟨1,clock,max cursor 1,w.query.scopes,entries⟩] else s.drop env id now w
  | some (cursor,entries),some device => match listedAs device entries with
    | none => s.told env id now w []
    | some entry => if sent then s.told env id now w [.upsert (max cursor 1) entry] else s.drop env id now w

-- The watcher of a session in the phase of its directory branch.
def watching (s : DirectoryFeed) (id : Uuid) : Option Watcher := (s.plane.sessions[id]?).bind fun session =>
  (s.watchers[id]?).filter fun w => match session.phase with
    | .listing => w.about.isNone
    | .serving => w.about.isSome || w.reading.isNone
    | _ => false

def execute (env : PlaneEnv) (s : DirectoryFeed) : Action → Option DirectoryFeed
  | .plane action =>
    if s.free action then (s.step env action).map fun after => match action with
      | .session id _ _ => (after.plane.sessions[id]?).elim after (after.opened id)
      | _ => after
    else none
  | .profile device profile => some {s with profiles := Function.update s.profiles device profile}
  | .receive id now => (s.watching id).bind fun w => s.receive env id now w
  | .read id now clock answers => (s.watching id).bind fun w => s.read env id now clock answers w
  | .send id now clock sent => (s.watching id).bind fun w => s.send env id now clock sent w

structure Initial (s : DirectoryFeed) : Prop where
  plane : ControlPlane.Initial s.plane
  watchers : s.watchers = ∅

abbrev Step (env : PlaneEnv) := Transition.Executes (execute env)
abbrev Runs (env : PlaneEnv) := Transition.Runs (Step env)

end DirectoryFeed

-- What a client has of the devices after the frames it was sent.
def DirectoryFrame.apply (shown : Uuid → Option DirectoryDeviceDto) : DirectoryFrame → Uuid → Option DirectoryDeviceDto
  | .snapshot directory => fun device => listedAs device directory.devices
  | .upsert _ entry => fun device => if entry.deviceId = device then some entry else shown device

def shownBy (frames : List DirectoryFrame) : Uuid → Option DirectoryDeviceDto :=
  frames.foldl DirectoryFrame.apply fun _ => none

end Directory
end DeviceControl
