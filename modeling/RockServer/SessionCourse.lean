import RockServer.LiveGenerations

namespace DeviceControl
namespace ControlPlane

def live (s : ControlPlane) : Table Uuid LiveGeneration := s.registry.live

def owns (s : ControlPlane) (device connection : Uuid) : Prop := ConnectionRegistry.owns s.live device connection

-- A live generation is the face of the registry's entry.
theorem live_some {s : ControlPlane} {device : Uuid} {g : LiveGeneration} : s.live[device]? = some g ↔
    ∃ active : ActiveConnection, s.registry[device]? = some active ∧ active.live = g := by
  unfold live
  rw [ConnectionRegistry.live_get,Option.map_eq_some_iff]

-- What was published about presence: the account, the device, and whether it
-- went online.
def presenceOf : Uuid × StateEvent → Option (Uuid × Uuid × Bool)
  | (user,.presence device isOnline) => some (user,device,isOnline)
  | _ => none

def presences (s : ControlPlane) : List (Uuid × Uuid × Bool) := s.hub.feed.filterMap presenceOf

-- What a step leaves alone that is none of the registry's, the sessions' or
-- the router's tasks' business.
structure Untouched (s s' : ControlPlane) : Prop where
  live : s'.live = s.live
  presences : s'.presences = s.presences
  inFlight : s'.router.inFlight = s.router.inFlight
  tasks : ∃ calls : List Call, s'.router.tasks = s.router.tasks ++ calls.map Task.start
  orphans : s'.orphans = s.orphans

-- Every step of the plane, sorted by what it does to the registry, the sessions
-- and the published presence.
inductive Course (env : PlaneEnv) (s : ControlPlane) : Action → ControlPlane → Prop where
  | idle {action s'} : Untouched s s' → s'.sessions = s.sessions → Course env s action s'
  | routed {i o task after next spawned} : s.router.tasks[i]? = some task →
      advance env.router o s.router task = (after,next,spawned) → Course env s (.route i o)
        {s with router := {after with tasks := s.router.tasks.set i next ++ spawned},orphans := s.orphans ++ s.orphaned task}
  | connected {id user device} : s.sessions[id]? = none → user = env.owner device →
      Course env s (.connect id user device) (s.setSession id (.fresh user device))
  | moved {id now event session session' s'} : s.sessions[id]? = some session → Moved s id session session' →
      s'.sessions = s.sessions.insert id session' → Untouched s s' → Course env s (.session id now event) s'
  | online {id now event session} : s.sessions[id]? = some session → session.phase = .greeting →
      Course env s (.session id now event)
        ({s with hub := s.hub.publishPresence session.userId session.deviceId true}.enter id session .registering)
  | abandoned {id now event session} : s.sessions[id]? = some session →
      session.phase.stage = .waiting ∨ session.phase.stage = .arriving →
      Course env s (.session id now event) (s.leave id session)
  | joined {id now event session manifest} : s.sessions[id]? = some session → session.phase = .joining manifest →
      Course env s (.session id now event) (s.join env id session manifest)
  | adopted {id now event session manifest} : s.sessions[id]? = some session → session.phase = .adopting manifest →
      Course env s (.session id now event)
        ((s.setRegistry (s.registry.updateManifest session.deviceId id manifest).1).enter id
          {session with manifest := manifest} .declared)
  | unconfirmed {id now session} : s.sessions[id]? = some session → session.phase = .confirming →
      Course env s (.session id now .failed)
        ((s.setRegistry (s.registry.disconnect session.deviceId id).1).leave id session)
  | unlisted {id now session} : s.sessions[id]? = some session → session.phase = .listing →
      Course env s (.session id now .failed) (s.leave id session)
  | closed {id now event session reason registry} : s.sessions[id]? = some session → session.phase = .closing reason →
      s.registry.disconnect session.deviceId id = (registry,true) → Course env s (.session id now event)
        (((s.setRegistry registry).call (disconnected env session.userId session.deviceId id)).enter id session
          (.retiring s.router.tasks.length))
  | left {id now event session reason} : s.sessions[id]? = some session → session.phase = .closing reason →
      (s.registry.disconnect session.deviceId id).2 = false → Course env s (.session id now event) (s.leave id session)
  | offline {id now event session} : s.sessions[id]? = some session → session.phase = .retracting →
      Course env s (.session id now event)
        ({s with hub := s.hub.publishPresence session.userId session.deviceId false}.leave id session)
  | revoked {user device} : Course env s (.revoke user device) (s.revoke user device)

variable {env : PlaneEnv} {s s' : ControlPlane} {id : Uuid} {session session' : ControlSession} {now : Instant}
  {event : SessionEvent}

theorem Untouched.same (live : s'.live = s.live) (presences : s'.presences = s.presences)
    (inFlight : s'.router.inFlight = s.router.inFlight) (tasks : s'.router.tasks = s.router.tasks)
    (orphans : s'.orphans = s.orphans) : Untouched s s' :=
  ⟨live,presences,inFlight,⟨[],by rw [tasks,List.map_nil,List.append_nil]⟩,orphans⟩

theorem send_presences {user : Uuid} {event : StateEvent} (quiet : presenceOf (user,event) = none) :
    {s with hub := s.hub.send user event}.presences = s.presences := by
  unfold presences LiveHub.send
  rw [List.filterMap_append]
  simp [quiet]

theorem publishPresence_presences (user device : Uuid) (isOnline : Bool) :
    {s with hub := s.hub.publishPresence user device isOnline}.presences = s.presences ++ [(user,device,isOnline)] := by
  unfold presences LiveHub.publishPresence LiveHub.send
  rw [List.filterMap_append]
  rfl

-- Where the session's handler for one frame leads to.
theorem receive_moved (here : session.phase = .serving) (frame : DeviceControl.Frame) :
    ∃ session', Moved s id session session' ∧
      (s.receive env id session now frame).sessions = s.sessions.insert id session' ∧
      Untouched s (s.receive env id session now frame) := by
  have entered {phase : Phase} (stage : phase.stage = .present) (pass : phase.pass id = none) :
      ∃ session', Moved s id session session' ∧ (s.enter id session phase).sessions = s.sessions.insert id session' ∧
        Untouched s (s.enter id session phase) :=
    ⟨_,.enter here stage pass,rfl,.same rfl rfl rfl rfl rfl⟩
  have asked (call : Call) : ∃ session', Moved s id session session' ∧
      ((s.call call).enter id session (.calling s.router.tasks.length)).sessions = s.sessions.insert id session' ∧
        Untouched s ((s.call call).enter id session (.calling s.router.tasks.length)) :=
    ⟨{session with phase := .calling s.router.tasks.length},.enter here rfl rfl,rfl,rfl,rfl,rfl,⟨[call],rfl⟩,rfl⟩
  have resynced (reason : String) : ∃ session', Moved s id session session' ∧
      (s.resync id session reason).sessions = s.sessions.insert id session' ∧ Untouched s (s.resync id session reason) := by
    refine ⟨_,?_,rfl,.same rfl rfl rfl rfl rfl⟩
    exact .on here ⟨rfl,rfl,rfl,rfl,rfl⟩ rfl rfl
  have resyncedEntity : ∃ session', Moved s id session session' ∧
      (s.resyncEntity id session).sessions = s.sessions.insert id session' ∧ Untouched s (s.resyncEntity id session) := by
    refine ⟨_,?_,rfl,.same rfl rfl rfl rfl rfl⟩
    exact .on here ⟨rfl,rfl,rfl,rfl,rfl⟩ rfl rfl
  cases frame with
  | heartbeat acknowledged =>
    unfold receive
    dsimp only
    split
    · exact entered rfl rfl
    · split
      · refine ⟨_,?_,rfl,.same rfl rfl rfl rfl rfl⟩
        exact .on here ⟨rfl,rfl,rfl,rfl,rfl⟩ rfl rfl
      · refine ⟨_,?_,rfl,.same rfl rfl rfl rfl rfl⟩
        refine .on here ⟨rfl,rfl,rfl,rfl,rfl⟩ ?_ ?_
        · cases acknowledged <;> rfl
        · cases acknowledged <;> rfl
  | manifest manifest =>
    unfold receive
    dsimp only
    split
    · exact entered rfl rfl
    · exact entered (by split <;> rfl) (by split <;> rfl)
  | stateFull snapshot =>
    unfold receive
    dsimp only
    split
    · exact entered rfl rfl
    · exact entered (by split <;> rfl) (by split <;> rfl)
  | stateDelta delta =>
    unfold receive stateDelta
    dsimp only
    split
    · exact resynced _
    · split
      · exact resynced _
      · split
        · exact entered (by split <;> rfl) (by split <;> rfl)
        · exact entered rfl rfl
        · exact entered rfl rfl
        · exact resynced _
        · exact resynced _
  | entityState report =>
    unfold receive entityState
    dsimp only
    split
    · exact entered rfl rfl
    · split
      · exact entered (by split <;> rfl) (by split <;> rfl)
      · exact entered rfl rfl
      · exact entered rfl rfl
      · exact resyncedEntity
      · exact resyncedEntity
  | command requestId command => exact asked _
  | accepted accepted => exact asked _
  | result result => exact asked _
  | ignored | malformed => exact entered rfl rfl

theorem leave_live : (s.leave id session).live = s.live := by
  unfold leave live registry
  split
  · rfl
  · rename_i active found
    exact ConnectionRegistry.live_requeued (ConnectionRegistry.generation_some.mp found).1 rfl

theorem requeued_live {active : ActiveConnection} {rest : List OutboundFrame}
    (found : s.registry.generation session.deviceId id = some active) :
    (s.setRegistry (s.registry.insert session.deviceId
      {active with outbound := {active.outbound with queue := rest}})).live = s.live :=
  ConnectionRegistry.live_requeued (ConnectionRegistry.generation_some.mp found).1 rfl

theorem session_course (found : s.sessions[id]? = some session) (taken : SessionStep env s id session now event s') :
    Course env s (.session id now event) s' := by
  cases taken with
  | moved next _ => exact .moved found next rfl (.same rfl rfl rfl rfl rfl)
  | received here =>
    obtain ⟨session',next,sessions,untouched⟩ := receive_moved here _
    exact .moved found next sessions untouched
  | online here => exact .online found here
  | abandoned stage => exact .abandoned found stage
  | applied _ next _ => exact .moved found next rfl (.same rfl rfl rfl rfl rfl)
  | joined here => exact .joined found here
  | announced next _ => exact .moved found next rfl (.same rfl (send_presences rfl) rfl rfl rfl)
  | unconfirmed here => exact .unconfirmed found here
  | unlisted here => exact .unlisted found here
  | drained here next _ => exact .moved found next rfl (.same (requeued_live here) rfl rfl rfl rfl)
  | adopted here => exact .adopted found here
  | stored _ next _ => exact .moved found next rfl (.same rfl rfl rfl rfl rfl)
  | measured _ next _ => exact .moved found next rfl (.same rfl rfl rfl rfl rfl)
  | publishedState here =>
    have next : Moved s id session {session with phase := .serving} := .enter here rfl rfl
    exact .moved found next rfl (.same rfl (send_presences rfl) rfl rfl rfl)
  | publishedEntity here =>
    have next : Moved s id session {session with phase := .serving} := .enter here rfl rfl
    exact .moved found next rfl (.same rfl (send_presences rfl) rfl rfl rfl)
  | closed here removed => exact .closed found here removed
  | left here absent => exact .left found here absent
  | offline here => exact .offline found here

theorem route_cases {i : Nat} {o : Oracle} (taken : Step env s (.route i o) s') :
    ∃ task after next spawned, s.router.tasks[i]? = some task ∧ advance env.router o s.router task = (after,next,spawned) ∧
      s' = {s with
        router := {after with tasks := s.router.tasks.set i next ++ spawned}, orphans := s.orphans ++ s.orphaned task} := by
  cases plane_step taken with
  | route found ran => exact ⟨_,_,_,_,found,ran,rfl⟩

theorem step_course {action : Action} (taken : Step env s action s') : Course env s action s' := by
  cases plane_step taken with
  | connect absent mine => exact .connected absent mine
  | session found ran => exact session_course found ran
  | route found ran => exact .routed found ran
  | submit => exact .idle ⟨rfl,rfl,rfl,⟨[_],rfl⟩,rfl⟩ rfl
  | disown => exact .idle (.same rfl rfl rfl rfl rfl) rfl
  | revoke => exact .revoked
  | prune => exact .idle (.same rfl rfl rfl rfl rfl) rfl

end ControlPlane
end DeviceControl
