import RockServer.ControlSession

namespace DeviceControl

structure RegisterPayload where
  deviceType : String
  appVersion : String
  manifest : DeviceManifest

def validHello (versions : List Nat) : Bool := 1 ≤ versions.length && versions.length ≤ 4 && versions.contains 1

def validRegistration (payload : RegisterPayload) : Bool :=
  payload.deviceType ≠ "" && payload.deviceType.utf8ByteSize ≤ 64 && payload.appVersion ≠ "" &&
    payload.appVersion.utf8ByteSize ≤ 64

-- What one received message comes to. Pings and command payloads that do not
-- parse are ignored; whatever else does not parse closes the socket.
inductive Frame where
  | heartbeat (acknowledged : Bool)
  | manifest (manifest : DeviceManifest)
  | stateFull (snapshot : DeviceStateSnapshot)
  | stateDelta (delta : DeviceStateDelta)
  | entityState (report : EntityReport)
  | command (requestId : String) (command : DeviceCommand)
  | accepted (accepted : CommandAccepted)
  | result (result : CommandResult)
  | ignored
  | malformed

-- Where a session stands between two of its awaits or locks, with the locals
-- that live across. A task is the router call it waits for.
inductive Phase where
  | greeting
  | registering
  | applying (manifest : DeviceManifest)
  | joining (manifest : DeviceManifest)
  | replacing (task : Nat) (previous : Uuid)
  | announcing
  | confirming
  | listing
  | serving
  | declaring (manifest : DeviceManifest)
  | adopting (manifest : DeviceManifest)
  | declared
  | storing (snapshot : DeviceStateSnapshot)
  | accepting (snapshot : DeviceStateSnapshot) (answer : StoreOutcome)
  | publishing (snapshot : DeviceStateSnapshot) (answer : StoreOutcome)
  | merging (snapshot : DeviceStateSnapshot)
  | measuring (report : EntityReport)
  | reporting (report : EntityReport) (entities : List Entity)
  | calling (task : Nat)
  | closing (reason : DisconnectReason)
  | retiring (task : Nat)
  | retracting
  | returned

-- What comes back to a session: the end of an await, or one branch of its
-- select.
inductive SessionEvent where
  | hello (versions : List Nat) (welcomed : Bool)
  | register (payload : RegisterPayload)
  | stored (t : Transaction)
  | done
  | failed
  | shutdown
  | expired
  | replacement
  | outbound (sent : Bool)
  | directory (told : Bool)
  | frame (frame : Frame)
  | closed (graceful : Bool)

-- `order` numbers registrations and `resyncs` lists what was asked of the
-- device; both are kept for the statements only.
structure ControlSession where
  userId : Uuid
  deviceId : Uuid
  manifest : DeviceManifest
  scopes : List DeviceControlScope
  lastSeen : Instant
  needsFullState : Bool
  notice : Option DisconnectReason
  phase : Phase
  order : Option Nat
  resyncs : List (String × String)

def ControlSession.fresh (user device : Uuid) : ControlSession where
  userId := user
  deviceId := device
  manifest := ⟨0,[],⟨0,[]⟩,[],[]⟩
  scopes := []
  lastSeen := 0
  needsFullState := false
  notice := none
  phase := .greeting
  order := none
  resyncs := []

-- A command that left the in-flight map after its target generation had ended,
-- through a timer, a result or a handover. Kept for the statements only.
structure Orphan where
  commandId : CommandId
  item : InFlight
  result : CommandResult

-- An entity state as it was published, with the entities that were declared
-- when it was accepted. Kept for the statements only.
structure EntityPublication where
  userId : Uuid
  deviceId : Uuid
  report : EntityReport
  declared : List Entity

structure PlaneEnv where
  router : RouterEnv
  readFloat : String → Option ℚ
  owner : Uuid → Uuid
  hasStore : Bool
  offlineTtl : Instant

structure ControlPlane where
  router : RouterState
  hub : LiveHub
  facts : FactStore
  sessions : Table Uuid ControlSession
  registrations : Nat
  orphans : List Orphan
  publications : List EntityPublication

namespace ControlPlane

def registry (s : ControlPlane) : ConnectionRegistry := s.router.registry

def setRegistry (s : ControlPlane) (registry : ConnectionRegistry) : ControlPlane :=
  {s with router := {s.router with registry := registry}}

def setStore (s : ControlPlane) (store : StoreState) : ControlPlane := {s with router := {s.router with store := store}}

def setSession (s : ControlPlane) (id : Uuid) (session : ControlSession) : ControlPlane :=
  {s with sessions := s.sessions.insert id session}

def call (s : ControlPlane) (call : Call) : ControlPlane :=
  {s with router := {s.router with tasks := s.router.tasks ++ [.start call]}}

def answered (s : ControlPlane) (task : Nat) : Bool :=
  match s.router.tasks[task]? with
  | some (.returned _) => true
  | _ => false

-- `try_send` on the replacement channel, which holds one message.
def notify (s : ControlPlane) (connection : Uuid) (reason : DisconnectReason) : ControlPlane :=
  match s.sessions[connection]? with
  | none => s
  | some session => s.setSession connection {session with notice := session.notice.or (some reason)}

-- A return drops the session's ends of its channels.
def leave (s : ControlPlane) (id : Uuid) (session : ControlSession) : ControlPlane :=
  let registry := match s.registry.generation session.deviceId id with
    | none => s.registry
    | some active => s.registry.insert session.deviceId {active with outbound := {active.outbound with closed := true}}
  (s.setRegistry registry).setSession id {session with phase := .returned}

def enter (s : ControlPlane) (id : Uuid) (session : ControlSession) (phase : Phase) : ControlPlane :=
  s.setSession id {session with phase := phase}

def resync (s : ControlPlane) (id : Uuid) (session : ControlSession) (reason : String) : ControlPlane :=
  s.setSession id {session with
    needsFullState := true, phase := .serving, resyncs := session.resyncs ++ [("device_state",reason)]}

def resyncEntity (s : ControlPlane) (id : Uuid) (session : ControlSession) : ControlPlane :=
  s.setSession id {session with phase := .serving, resyncs := session.resyncs ++ [("entity_state","revision_gap")]}

def disconnected (env : PlaneEnv) (user device connection : Uuid) : Call := .disconnected user device connection env.hasStore

def join (env : PlaneEnv) (s : ControlPlane) (id : Uuid) (session : ControlSession) (manifest : DeviceManifest) : ControlPlane :=
  let scopes := grantedScopes manifest
  let joined := {session with manifest := manifest, scopes := scopes, order := some s.registrations}
  match s.registry.register ⟨session.userId,session.deviceId,id,⟨[],false⟩,manifest,scopes⟩ with
  | (registry,none) =>
    {s.setRegistry registry with registrations := s.registrations + 1}.enter id joined .announcing
  | (registry,some (user,previous)) =>
    ((({s.setRegistry registry with registrations := s.registrations + 1}.notify previous .replaced).call
      (disconnected env user session.deviceId previous))).enter id joined (.replacing s.router.tasks.length previous)

-- The loop starts with its own clock and its own need for a full state.
def serve (s : ControlPlane) (id : Uuid) (session : ControlSession) (now : Instant) : ControlPlane :=
  s.setSession id {session with
    lastSeen := now, needsFullState := requiresFullState session.manifest.roles, phase := .serving}

def stateDelta (env : PlaneEnv) (s : ControlPlane) (id : Uuid) (session : ControlSession) (delta : DeviceStateDelta) :
    ControlPlane :=
  if session.needsFullState || !validDelta delta then s.resync id session "missing_base"
  else match s.hub.deviceState session.userId ⟨session.deviceId⟩ with
    | none => s.resync id session "missing_base"
    | some current =>
      let merged : DeviceStateSnapshot := ⟨delta.stateRevision,delta.observedAt,none,mergeState current.state delta.changes⟩
      match revisionOrder current.stateRevision current.state merged.stateRevision merged.state (some delta.baseRevision) with
      | .next => s.enter id session (if env.hasStore then .merging merged else .publishing merged .accepted)
      | .replay | .stale => s.enter id session .serving
      | .conflict | .gap => s.resync id session "revision_gap"

def entityState (env : PlaneEnv) (s : ControlPlane) (id : Uuid) (session : ControlSession) (now : Instant)
    (report : EntityReport) : ControlPlane :=
  if !admitted env.readFloat session.manifest.entities report then s.enter id session (.closing .transportLost)
  else
    let fresh := report.freshen (timestamp env.router now)
    match entityRevision s.hub session.userId session.deviceId fresh with
    | .next => s.enter id session
      (if env.hasStore then .measuring fresh else .reporting fresh session.manifest.entities)
    | .replay | .stale => s.enter id session .serving
    | .conflict | .gap => s.resyncEntity id session

-- The handlers of the select loop, up to their first await or lock after the
-- ones they start with.
def receive (env : PlaneEnv) (s : ControlPlane) (id : Uuid) (session : ControlSession) (now : Instant) : Frame → ControlPlane
  | .heartbeat acknowledged =>
    if session.needsFullState then s.enter id session (.closing .transportLost)
    else
      let seen := {session with lastSeen := now}
      if (s.registry.generation session.deviceId id).isNone then s.enter id seen (.closing .replaced)
      else s.enter id seen (if acknowledged then .serving else .closing .transportLost)
  | .manifest manifest => match manifest.validate with
    | .error _ => s.enter id session (.closing .transportLost)
    | .ok () => s.enter id session (if env.hasStore then .declaring manifest else .adopting manifest)
  | .stateFull snapshot =>
    if !validSnapshot snapshot then s.enter id session (.closing .transportLost)
    else s.enter id session (if env.hasStore then .storing snapshot else .accepting snapshot .accepted)
  | .stateDelta delta => s.stateDelta env id session delta
  | .entityState report => s.entityState env id session now report
  | .command requestId command =>
    (s.call (.submit ⟨session.userId,session.deviceId,id,requestId,command,env.hasStore⟩)).enter id session
      (.calling s.router.tasks.length)
  | .accepted accepted =>
    (s.call (.accepted session.userId session.deviceId id accepted)).enter id session (.calling s.router.tasks.length)
  | .result result =>
    (s.call (.result session.userId session.deviceId id result env.hasStore)).enter id session
      (.calling s.router.tasks.length)
  | .ignored => s.enter id session .serving
  | .malformed => s.enter id session (.closing .transportLost)

-- The outbound branch: the channel yields its frames and, once the registry
-- dropped its end, nothing more.
def deliver (s : ControlPlane) (id : Uuid) (session : ControlSession) (sent : Bool) : Option ControlPlane :=
  match s.registry.generation session.deviceId id with
  | none => some (s.enter id session (if sent then .serving else .closing .transportLost))
  | some active => match active.outbound.queue with
    | [] => none
    | _ :: rest =>
      let drained := {active with outbound := {active.outbound with queue := rest}}
      some ((s.setRegistry (s.registry.insert session.deviceId drained)).enter id session
        (if sent then .serving else .closing .transportLost))

def accept (s : ControlPlane) (id : Uuid) (session : ControlSession) (snapshot : DeviceStateSnapshot)
    (answer : StoreOutcome) : ControlPlane :=
  let order := match s.hub.deviceState session.userId ⟨session.deviceId⟩ with
    | some current => revisionOrder current.stateRevision current.state snapshot.stateRevision snapshot.state none
    | none => .next
  match order with
  | .next | .gap => s.enter id {session with needsFullState := false} (.publishing snapshot answer)
  | .replay | .stale => s.enter id {session with needsFullState := false} .serving
  | .conflict => s.resync id session "revision_gap"

def publishEntity (s : ControlPlane) (id : Uuid) (session : ControlSession) (report : EntityReport)
    (entities : List Entity) : ControlPlane :=
  let publication : EntityPublication := ⟨session.userId,session.deviceId,report,entities⟩
  {s with
    hub := s.hub.publishEntityState session.userId session.deviceId report
    publications := s.publications ++ [publication]}.enter id session .serving

-- The entities of the accepted manifest, which the store checks reports against.
def declaredEntities (s : ControlPlane) (device : Uuid) : List Entity :=
  ((s.router.store.manifests.lookup (⟨device⟩ : DeviceId)).map DeviceManifest.entities).getD []

def expire (session : ControlSession) (env : PlaneEnv) (now : Instant) : Bool := session.lastSeen + env.offlineTtl ≤ now

-- One step of one session.
def session (env : PlaneEnv) (s : ControlPlane) (id : Uuid) (session : ControlSession) (now : Instant)
    (event : SessionEvent) : Option ControlPlane :=
  match session.phase,event with
  | .greeting,.hello versions welcomed =>
    if validHello versions && welcomed then
      some ({s with hub := s.hub.publishPresence session.userId session.deviceId true}.enter id session .registering)
    else some (s.leave id session)
  | .greeting,.failed => some (s.leave id session)
  | .registering,.register payload =>
    if !validRegistration payload then some (s.leave id session)
    else match payload.manifest.validate with
      | .error _ => some (s.leave id session)
      | .ok () => some (s.enter id session (if env.hasStore then .applying payload.manifest else .joining payload.manifest))
  | .registering,.failed => some (s.leave id session)
  | .applying manifest,.stored t =>
    match s.router.store.applyManifest t session.userId ⟨session.deviceId⟩ manifest with
    | (answer,store) =>
      if acceptedManifest answer then some ((s.setStore store).enter id session (.joining manifest))
      else some ((s.setStore store).leave id session)
  | .joining manifest,.done => some (s.join env id session manifest)
  | .replacing task _,.done => if s.answered task then some (s.enter id session .announcing) else none
  | .announcing,.done =>
    some ({s with hub := s.hub.publishManifest session.userId session.deviceId}.enter id session .confirming)
  | .confirming,.done =>
    if session.scopes.contains .directoryRead then some (s.enter id session .listing) else some (s.serve id session now)
  | .confirming,.failed =>
    some ((s.setRegistry (s.registry.disconnect session.deviceId id).1).leave id session)
  | .listing,.done => some (s.serve id session now)
  | .listing,.failed => some (s.leave id session)
  | .serving,.shutdown => some (s.enter id session (.closing .transportLost))
  | .serving,.expired =>
    if expire session env now then some (s.enter id session (.closing .heartbeatExpired)) else none
  | .serving,.replacement => session.notice.map fun reason => s.enter id session (.closing reason)
  | .serving,.outbound sent => s.deliver id session sent
  | .serving,.directory told =>
    if session.scopes.contains .directoryRead then
      some (s.enter id session (if told then .serving else .closing .transportLost))
    else none
  | .serving,.frame frame => some (s.receive env id session now frame)
  | .serving,.closed graceful =>
    some (s.enter id session (.closing (if graceful then .gracefulDisconnect else .transportLost)))
  | .declaring manifest,.stored t =>
    match s.router.store.applyManifest t session.userId ⟨session.deviceId⟩ manifest with
    | (answer,store) =>
      some ((s.setStore store).enter id session
        (if acceptedManifest answer then .adopting manifest else .closing .transportLost))
  | .adopting manifest,.done =>
    some ((s.setRegistry (s.registry.updateManifest session.deviceId id manifest).1).enter id
      {session with manifest := manifest} .declared)
  | .declared,.done =>
    some ({s with hub := s.hub.publishManifest session.userId session.deviceId}.enter id session .serving)
  | .storing snapshot,.stored t =>
    match s.facts.storeDeviceState s.router.store t session.userId ⟨session.deviceId⟩ snapshot with
    | (answer,facts) => match acceptedFullSnapshot answer with
      | none => some ({s with facts := facts}.resync id session "revision_gap")
      | some answer => some ({s with facts := facts}.enter id session (.accepting snapshot answer))
  | .accepting snapshot answer,.done => some (s.accept id session snapshot answer)
  | .publishing snapshot answer,.done =>
    some ({s with hub := s.hub.publishDeviceState session.userId session.deviceId snapshot answer}.enter id session .serving)
  | .merging snapshot,.stored t =>
    match s.facts.storeDeviceState s.router.store t session.userId ⟨session.deviceId⟩ snapshot with
    | (answer,facts) => match acceptedDelta answer with
      | none => some ({s with facts := facts}.resync id session "revision_gap")
      | some answer => some ({s with facts := facts}.enter id session (.publishing snapshot answer))
  | .measuring report,.stored t =>
    match s.facts.storeEntityState env.readFloat s.router.store t session.userId ⟨session.deviceId⟩ report with
    | (.ok .accepted,facts) | (.ok .replay,facts) =>
      some ({s with facts := facts}.enter id session (.reporting report (s.declaredEntities session.deviceId)))
    | (.ok .stale,facts) => some ({s with facts := facts}.enter id session .serving)
    | (_,facts) => some ({s with facts := facts}.resyncEntity id session)
  | .reporting report entities,.done => some (s.publishEntity id session report entities)
  | .calling task,.done => if s.answered task then some (s.enter id session .serving) else none
  | .closing _,.done =>
    match s.registry.disconnect session.deviceId id with
    | (registry,true) =>
      some (((s.setRegistry registry).call (disconnected env session.userId session.deviceId id)).enter id session
        (.retiring s.router.tasks.length))
    | (_,false) => some (s.leave id session)
  | .retiring task,.done => if s.answered task then some (s.enter id session .retracting) else none
  | .retracting,.done =>
    some ({s with hub := s.hub.publishPresence session.userId session.deviceId false}.leave id session)
  | _,_ => none

-- What the end of a command leaves on record.
def orphaned (s : ControlPlane) : Task → List Orphan
  | .finish _ _ .submit => []
  | .finish id result _ => match s.router.inFlight[id]? with
    | none => []
    | some item =>
      if (s.registry.generation item.targetDeviceId.uuid item.targetConnectionId).isSome then []
      else [⟨id,item,result⟩]
  | _ => []

-- Sessions, router calls on their behalf and others', revocations and pruning,
-- in any order. A revocation first takes the device from its owner.
inductive Action where
  | connect (id user device : Uuid)
  | session (id : Uuid) (now : Instant) (event : SessionEvent)
  | route (task : Nat) (oracle : Oracle)
  | submit (call : SubmitCall)
  | disown (device : DeviceId)
  | revoke (user device : Uuid)
  | prune (now : Instant) (limit : Nat)

def route (env : PlaneEnv) (s : ControlPlane) (i : Nat) (o : Oracle) : Option ControlPlane :=
  match s.router.tasks[i]? with
  | none => none
  | some task => (DeviceControl.execute env.router s.router (.run i o)).map fun router =>
    {s with router := router,orphans := s.orphans ++ s.orphaned task}

def revoke (s : ControlPlane) (user device : Uuid) : ControlPlane :=
  match (s.registry[device]?).filter fun active => active.userId = user with
  | none => s
  | some active => (s.setRegistry (s.registry.revoke user device).1).notify active.connectionId .revoked

def execute (env : PlaneEnv) (s : ControlPlane) : Action → Option ControlPlane
  | .connect id user device =>
    if s.sessions[id]?.isNone && user = env.owner device then some (s.setSession id (.fresh user device)) else none
  | .session id now event => s.sessions[id]?.bind fun session => s.session env id session now event
  | .route i o => s.route env i o
  | .submit call => some (s.call (.submit {call with hasStore := env.hasStore}))
  | .disown device =>
    some (s.setStore {s.router.store with devices := s.router.store.devices.filter fun entry => entry.1 ≠ device})
  | .revoke user device =>
    if s.router.store.owned user ⟨device⟩ then none else some (s.revoke user device)
  | .prune now limit => some (s.setStore (s.router.store.pruneCommands now limit))

-- A fresh process: no session, no live entry, nothing in flight and nothing
-- published; the store holds what earlier processes left.
structure Initial (s : ControlPlane) : Prop where
  router : DeviceControl.Initial s.router
  registry : s.router.registry = ∅
  hub : s.hub = LiveHub.empty
  sessions : s.sessions = ∅
  orphans : s.orphans = []
  publications : s.publications = []

abbrev Step (env : PlaneEnv) := Transition.Executes (execute env)
abbrev Runs (env : PlaneEnv) := Transition.Runs (Step env)

def Reached (env : PlaneEnv) (s : ControlPlane) : Prop := ∃ origin actions, Initial origin ∧ Runs env origin actions s

end ControlPlane
end DeviceControl
