import RockServer.SessionCleanup

namespace DeviceControl

-- A session without what others told it.
def ControlSession.face (session : ControlSession) : ControlSession := {session with notice := none}

-- The frames that carry facts, as far as their handlers' own checks let them
-- through to the store or the hub.
def ControlPlane.taken (env : PlaneEnv) (s : ControlPlane) (session : ControlSession) (now : Instant) : Frame → Bool
  | .manifest manifest => env.hasStore && manifest.validate.isOk
  | .stateFull snapshot => validSnapshot snapshot
  | .stateDelta delta => !session.needsFullState && validDelta delta &&
    (s.hub.deviceState session.userId ⟨session.deviceId⟩).any fun current =>
      revisionOrder current.stateRevision current.state delta.stateRevision (mergeState current.state delta.changes)
        (some delta.baseRevision) = .next
  | .entityState report => admitted env.readFloat session.manifest.entities report &&
    entityRevision s.hub session.userId session.deviceId (report.freshen (timestamp env.router now)) = .next
  | _ => false

namespace ControlPlane

def face (s : ControlPlane) (id : Uuid) : Option ControlSession := (s.sessions[id]?).map ControlSession.face

def Faces (s s' : ControlPlane) (id : Uuid) (session : ControlSession) : Prop :=
  ∀ j, s'.face j = if id = j then some session.face else s.face j

-- The facts as they were, in the hub and in the store.
structure Unwritten (s s' : ControlPlane) : Prop where
  state : s'.hub.state = s.hub.state
  entities : s'.hub.entities = s.hub.entities
  facts : s'.facts = s.facts
  manifests : s'.router.store.manifests = s.router.store.manifests
  publications : s'.publications = s.publications

-- What a session takes up: nothing, or what a frame brought that it let through.
structure Takes (env : PlaneEnv) (s : ControlPlane) (session : ControlSession) (now : Instant) (event : SessionEvent)
    (session' : ControlSession) : Prop where
  writing : session'.phase.writing = true → session.phase.writing = true ∨
    ∃ frame, event = .frame frame ∧ s.taken env session now frame = true
  handled : ∀ shown, session'.phase.handled = some shown → session.phase.handled = some shown ∨
    ∃ report, event = .frame (.entityState report) ∧ shown = report.freshen (timestamp env.router now) ∧
      s.taken env session now (.entityState report) = true
  reported : ∀ shown entities, session'.phase = .reporting shown entities →
    env.hasStore = false ∧ (∃ report, event = .frame (.entityState report) ∧ shown = report.freshen (timestamp env.router now) ∧
      entities = session.manifest.entities ∧ s.taken env session now (.entityState report) = true) ∨
    ∃ t answer facts, event = .stored t ∧ entities = s.declaredEntities session.deviceId ∧ acceptedManifest answer = true ∧
      s.facts.storeEntityState env.readFloat s.router.store t session.userId ⟨session.deviceId⟩ shown = (answer,facts)

-- The facts' side of a step: what a session takes up, and who writes.
inductive FactTurn (env : PlaneEnv) (s s' : ControlPlane) : Action → Prop where
  | still {action} : (∀ j, s'.face j = s.face j) → s'.registrations = s.registrations → Unwritten s s' →
      FactTurn env s s' action
  | connected {id user device} : s.face id = none → Faces s s' id (.fresh user device) →
      s'.registrations = s.registrations → Unwritten s s' → FactTurn env s s' (.connect id user device)
  | went {id now event session session'} : s.sessions[id]? = some session → Faces s s' id session' →
      session'.userId = session.userId ∧ session'.deviceId = session.deviceId → session'.order = session.order → Takes env s session now event session' →
      s'.registrations = s.registrations → Unwritten s s' → FactTurn env s s' (.session id now event)
  | joined {id now event session manifest} : s.sessions[id]? = some session → session.phase = .joining manifest →
      (∃ session', Faces s s' id session' ∧ session'.deviceId = session.deviceId ∧ session'.phase.writing = false ∧
        session'.phase.handled = none ∧ session'.order = some s.registrations) →
      s'.registrations = s.registrations + 1 → Unwritten s s' → FactTurn env s s' (.session id now event)
  | wrote {id now event session session'} : s.sessions[id]? = some session →
      session.phase.writing = true ∨ session.phase.stage = .arriving → Faces s s' id session' →
      session'.userId = session.userId ∧ session'.deviceId = session.deviceId → session'.order = session.order → Takes env s session now event session' →
      s'.registrations = s.registrations → s'.hub.entities = s.hub.entities → s'.publications = s.publications →
      FactTurn env s s' (.session id now event)
  | published {id now event session report entities} : s.sessions[id]? = some session →
      session.phase = .reporting report entities → s' = s.publishEntity id session report entities →
      FactTurn env s s' (.session id now event)

variable {env : PlaneEnv} {s s' : ControlPlane} {id j : Uuid} {session session' : ControlSession} {now : Instant}
  {event : SessionEvent} {action : Action}

theorem face_of (found : s.sessions[id]? = some session) : s.face id = some session.face := by
  unfold face
  rw [found,Option.map_some]

theorem face_insert (session : ControlSession) (sessions : s'.sessions = s.sessions.insert id session) : Faces s s' id session := by
  intro j
  unfold face
  rw [sessions,Table.get_insert]
  split <;> rfl

theorem notify_face {connection : Uuid} {reason : DisconnectReason} : (s.notify connection reason).face j = s.face j := by
  unfold notify
  split
  · rfl
  · rename_i told found
    have seen : Faces s (s.setSession connection {told with notice := told.notice.or (some reason)}) connection _ :=
      face_insert _ rfl
    rw [seen]
    split
    · rename_i same
      rw [← same,face_of found]
      rfl
    · rfl

-- A notice touches its session only.
theorem notify_rest (connection : Uuid) (reason : DisconnectReason) :
    ∃ sessions, s.notify connection reason = {s with sessions := sessions} := by
  unfold notify
  split
  · exact ⟨s.sessions,rfl⟩
  · exact ⟨_,rfl⟩

-- The router's transactions leave the devices and the manifests alone.
theorem reserved_declared {store store' : StoreState} {now : Instant} {user : Uuid} {device : DeviceId}
    {request : CommandReservation} {answer : Except StoreError StoreOutcome}
    (ran : store.reserveCommand now user device request = (answer,store')) :
    store'.devices = store.devices ∧ store'.manifests = store.manifests := by
  by_cases accepted : answer = .ok .accepted
  · subst accepted
    obtain ⟨_,_,_,_,_,_,rfl⟩ := StoreState.reserve_accepted ran
    exact ⟨rfl,rfl⟩
  · rw [StoreState.reserve_unchanged ran accepted]
    exact ⟨rfl,rfl⟩

theorem completed_declared {store store' : StoreState} {user : Uuid} {device : DeviceId} {result : CommandResult}
    {answer : Except StoreError StoreOutcome} (ran : store.completeCommand user device result = (answer,store')) :
    store'.devices = store.devices ∧ store'.manifests = store.manifests := by
  by_cases accepted : answer = .ok .accepted
  · subst accepted
    obtain ⟨_,_,_,_,_,rfl⟩ := StoreState.complete_accepted ran
    exact ⟨rfl,rfl⟩
  · rw [StoreState.complete_unchanged ran accepted]
    exact ⟨rfl,rfl⟩

theorem advance_declared {env : RouterEnv} {o : Oracle} {s s' : RouterState} {task next : Task} {spawned : List Task}
    (ran : advance env o s task = (s',next,spawned)) :
    s'.store.devices = s.store.devices ∧ s'.store.manifests = s.store.manifests := by
  obtain ⟨effect,_⟩ := advance_effect ran
  cases effect with
  | quiet _ _ store _ _ _ _ => exact ⟨by rw [store],by rw [store]⟩
  | reserve answer _ _ _ => exact reserved_declared answer
  | insert => exact ⟨rfl,rfl⟩
  | remove _ => exact ⟨rfl,rfl⟩
  | settle _ _ _ answer _ _ _ _ => exact completed_declared answer
  | report _ _ store _ _ _ _ => exact ⟨by rw [store],by rw [store]⟩

theorem Takes.calm (writing : session'.phase.writing = false) (handled : session'.phase.handled = none) :
    Takes env s session now event session' := by
  refine ⟨fun writes => ?_,fun shown carried => ?_,fun shown entities reporting => ?_⟩
  · rw [writing] at writes
    cases writes
  · rw [handled] at carried
    cases carried
  · rw [reporting] at handled
    cases handled

theorem Settled.takes (settled : Settled session session') : Takes env s session now event session' := by
  have none := settled.handled
  refine ⟨fun writes => .inl (settled.writing writes),fun shown carried => ?_,fun shown entities reporting => ?_⟩
  · rw [none] at carried
    cases carried
  · rw [reporting] at none
    cases none

-- Where the handler of one frame leads to.
theorem receive_takes (frame : DeviceControl.Frame) :
    ∃ session', (s.receive env id session now frame).sessions = s.sessions.insert id session' ∧
      (session'.userId = session.userId ∧ session'.deviceId = session.deviceId) ∧ session'.order = session.order ∧
      Takes env s session now (.frame frame) session' ∧
      (s.receive env id session now frame).registrations = s.registrations ∧
      Unwritten s (s.receive env id session now frame) := by
  have entered {session' : ControlSession}
      (device : session'.userId = session.userId ∧ session'.deviceId = session.deviceId)
      (order : session'.order = session.order) (takes : Takes env s session now (.frame frame) session') :
      ∃ other, (s.setSession id session').sessions = s.sessions.insert id other ∧
        (other.userId = session.userId ∧ other.deviceId = session.deviceId) ∧ other.order = session.order ∧ Takes env s session now (.frame frame) other ∧
        (s.setSession id session').registrations = s.registrations ∧ Unwritten s (s.setSession id session') :=
    ⟨session',rfl,device,order,takes,rfl,⟨rfl,rfl,rfl,rfl,rfl⟩⟩
  have asked (call : Call) {phase : Phase} (takes : Takes env s session now (.frame frame) {session with phase := phase}) :
      ∃ other, ((s.call call).enter id session phase).sessions = s.sessions.insert id other ∧
        (other.userId = session.userId ∧ other.deviceId = session.deviceId) ∧ other.order = session.order ∧
        Takes env s session now (.frame frame) other ∧ ((s.call call).enter id session phase).registrations = s.registrations ∧
        Unwritten s ((s.call call).enter id session phase) :=
    ⟨{session with phase := phase},rfl,⟨rfl,rfl⟩,rfl,takes,rfl,⟨rfl,rfl,rfl,rfl,rfl⟩⟩
  -- A handler that lets a frame through which carries no report.
  have through {session' : ControlSession} (let_through : s.taken env session now frame = true)
      (handled : session'.phase.handled = none) : Takes env s session now (.frame frame) session' := by
    refine ⟨fun _ => .inr ⟨frame,rfl,let_through⟩,fun shown carried => ?_,fun shown entities reporting => ?_⟩
    · rw [handled] at carried
      cases carried
    · rw [reporting] at handled
      cases handled
  cases frame with
  | heartbeat acknowledged =>
    unfold receive
    dsimp only
    split
    · exact entered ⟨rfl,rfl⟩ rfl (.calm rfl rfl)
    · split
      · exact entered ⟨rfl,rfl⟩ rfl (.calm rfl rfl)
      · exact entered ⟨rfl,rfl⟩ rfl (.calm (by cases acknowledged <;> rfl) (by cases acknowledged <;> rfl))
  | manifest manifest =>
    unfold receive
    dsimp only
    split
    · exact entered ⟨rfl,rfl⟩ rfl (.calm rfl rfl)
    · rename_i valid
      cases store : env.hasStore with
      | false => exact entered ⟨rfl,rfl⟩ rfl (.calm rfl rfl)
      | true =>
        refine entered ⟨rfl,rfl⟩ rfl (through ?_ rfl)
        simp only [taken,store,valid]
        rfl
  | stateFull snapshot =>
    unfold receive
    dsimp only
    split
    · exact entered ⟨rfl,rfl⟩ rfl (.calm rfl rfl)
    · rename_i valid
      refine entered ⟨rfl,rfl⟩ rfl (through (by simpa [taken] using valid) ?_)
      cases env.hasStore <;> rfl
  | stateDelta delta =>
    unfold receive stateDelta
    dsimp only
    split
    · exact entered ⟨rfl,rfl⟩ rfl (.calm rfl rfl)
    · rename_i passed
      split
      · exact entered ⟨rfl,rfl⟩ rfl (.calm rfl rfl)
      · rename_i current known
        split
        · rename_i next
          refine entered ⟨rfl,rfl⟩ rfl (through ?_ ?_)
          · simp only [Bool.or_eq_true,Bool.not_eq_true',not_or,Bool.not_eq_true,Bool.not_eq_false] at passed
            simp only [taken,passed.1,passed.2,known,Option.any_some]
            exact decide_eq_true next
          · cases env.hasStore <;> rfl
        · exact entered ⟨rfl,rfl⟩ rfl (.calm rfl rfl)
        · exact entered ⟨rfl,rfl⟩ rfl (.calm rfl rfl)
        · exact entered ⟨rfl,rfl⟩ rfl (.calm rfl rfl)
        · exact entered ⟨rfl,rfl⟩ rfl (.calm rfl rfl)
  | entityState report =>
    unfold receive entityState
    dsimp only
    split
    · exact entered ⟨rfl,rfl⟩ rfl (.calm rfl rfl)
    · rename_i passed
      split
      · rename_i next
        have let_through : s.taken env session now (.entityState report) = true := by
          simp only [Bool.not_eq_true',Bool.not_eq_false] at passed
          simp only [taken,passed]
          exact decide_eq_true next
        cases store : env.hasStore with
        | false =>
          refine entered ⟨rfl,rfl⟩ rfl ⟨fun _ => .inr ⟨_,rfl,let_through⟩,fun shown carried => ?_,fun shown entities reporting => ?_⟩
          · cases carried
            exact .inr ⟨report,rfl,rfl,let_through⟩
          · cases reporting
            exact .inl ⟨store,report,rfl,rfl,rfl,let_through⟩
        | true =>
          refine entered ⟨rfl,rfl⟩ rfl ⟨fun _ => .inr ⟨_,rfl,let_through⟩,fun shown carried => ?_,fun _ _ reporting => by cases reporting⟩
          cases carried
          exact .inr ⟨report,rfl,rfl,let_through⟩
      · exact entered ⟨rfl,rfl⟩ rfl (.calm rfl rfl)
      · exact entered ⟨rfl,rfl⟩ rfl (.calm rfl rfl)
      · exact entered ⟨rfl,rfl⟩ rfl (.calm rfl rfl)
      · exact entered ⟨rfl,rfl⟩ rfl (.calm rfl rfl)
  | command requestId command => exact asked _ (.calm rfl rfl)
  | accepted accepted => exact asked _ (.calm rfl rfl)
  | result result => exact asked _ (.calm rfl rfl)
  | ignored | malformed => exact entered ⟨rfl,rfl⟩ rfl (.calm rfl rfl)

-- A registration writes no fact, and its session is the newest.
theorem join_facts (found : s.sessions[id]? = some session) {manifest : DeviceManifest}
    (here : session.phase = .joining manifest) :
    FactTurn env s (s.join env id session manifest) (.session id now event) := by
  cases held : s.registry[session.deviceId]? with
  | none =>
    rw [join_first held]
    let joined : ControlSession := {s.joined session manifest with phase := .announcing}
    refine .joined found here ⟨joined,face_insert _ rfl,rfl,rfl,rfl,rfl⟩ rfl ⟨rfl,rfl,rfl,rfl,rfl⟩
  | some previous =>
    rw [join_again held]
    let told := (s.registered id session manifest).notify previous.connectionId .replaced
    let joined : ControlSession :=
      {s.joined session manifest with phase := .replacing s.router.tasks.length previous.connectionId}
    have faces : Faces s ((told.call (disconnected env previous.userId session.deviceId previous.connectionId)).enter id
        (s.joined session manifest) (.replacing s.router.tasks.length previous.connectionId)) id joined := by
      intro j
      rw [face_insert (s:=told) joined rfl]
      split
      · rfl
      · exact notify_face
    obtain ⟨sessions,same⟩ := notify_rest (s:=s.registered id session manifest) previous.connectionId .replaced
    refine .joined found here ⟨joined,faces,rfl,rfl,rfl,rfl⟩ ?_ ?_
    · rw [same]
      rfl
    · rw [same]
      exact ⟨rfl,rfl,rfl,rfl,rfl⟩

theorem session_facts (found : s.sessions[id]? = some session) (taken : SessionStep env s id session now event s') :
    FactTurn env s s' (.session id now event) := by
  cases taken with
  | moved next settled =>
    exact .went found (face_insert _ rfl) ⟨next.user,next.device⟩ next.order settled.takes rfl ⟨rfl,rfl,rfl,rfl,rfl⟩
  | @received frame here =>
    obtain ⟨session',sessions,device,order,takes,registrations,unwritten⟩ := receive_takes frame
    exact .went found (face_insert _ sessions) device order takes registrations unwritten
  | online here =>
    exact .went found (face_insert {session with phase := .registering} rfl) ⟨rfl,rfl⟩ rfl (.calm rfl rfl) rfl
      ⟨rfl,rfl,rfl,rfl,rfl⟩
  | abandoned _ =>
    exact .went found (face_insert {session with phase := .returned} rfl) ⟨rfl,rfl⟩ rfl (.calm rfl rfl) rfl
      ⟨rfl,rfl,rfl,rfl,rfl⟩
  | applied here next settled =>
    refine .wrote found ?_ (face_insert _ rfl) ⟨next.user,next.device⟩ next.order settled.takes rfl rfl rfl
    rcases here with applying | declaring
    · exact .inr (congrArg Phase.stage applying)
    · exact .inl (congrArg Phase.writing declaring)
  | joined here => exact join_facts found here
  | announced next settled =>
    exact .went found (face_insert _ rfl) ⟨next.user,next.device⟩ next.order settled.takes rfl ⟨rfl,rfl,rfl,rfl,rfl⟩
  | unconfirmed here =>
    exact .went found (face_insert {session with phase := .returned} rfl) ⟨rfl,rfl⟩ rfl (.calm rfl rfl) rfl
      ⟨rfl,rfl,rfl,rfl,rfl⟩
  | unlisted here =>
    exact .went found (face_insert {session with phase := .returned} rfl) ⟨rfl,rfl⟩ rfl (.calm rfl rfl) rfl
      ⟨rfl,rfl,rfl,rfl,rfl⟩
  | drained _ next settled =>
    exact .went found (face_insert _ rfl) ⟨next.user,next.device⟩ next.order settled.takes rfl ⟨rfl,rfl,rfl,rfl,rfl⟩
  | @adopted event manifest here =>
    exact .went found (face_insert {session with manifest := manifest, phase := .declared} rfl) ⟨rfl,rfl⟩ rfl
      (.calm rfl rfl) rfl ⟨rfl,rfl,rfl,rfl,rfl⟩
  | stored here next settled =>
    refine .wrote found (.inl ?_) (face_insert _ rfl) ⟨next.user,next.device⟩ next.order settled.takes rfl rfl rfl
    rcases here with storing | merging
    · exact congrArg Phase.writing storing
    · exact congrArg Phase.writing merging
  | @measured t report session' here next shown =>
    refine .wrote found (.inl (congrArg Phase.writing here)) (face_insert _ rfl) ⟨next.user,next.device⟩ next.order ⟨fun _ => .inl ?_,?_,?_⟩
      rfl rfl rfl
    · exact congrArg Phase.writing here
    · intro other carried
      obtain ⟨rfl,_⟩ := shown other carried
      exact .inl (congrArg Phase.handled here)
    · intro other entities reporting
      have carried : session'.phase.handled = some other := congrArg Phase.handled reporting
      obtain ⟨rfl,same,answer,facts,accepted,ran⟩ := shown other carried
      rw [reporting] at same
      cases same
      exact .inr ⟨t,answer,facts,rfl,rfl,accepted,ran⟩
  | publishedState here =>
    exact .wrote found (.inl (congrArg Phase.writing here)) (face_insert {session with phase := .serving} rfl)
      ⟨rfl,rfl⟩ rfl (.calm rfl rfl) rfl rfl rfl
  | publishedEntity here => exact .published found here rfl
  | @closed event reason registry here _ =>
    exact .went found (face_insert {session with phase := .retiring s.router.tasks.length} rfl) ⟨rfl,rfl⟩ rfl
      (.calm rfl rfl) rfl ⟨rfl,rfl,rfl,rfl,rfl⟩
  | left here _ =>
    exact .went found (face_insert {session with phase := .returned} rfl) ⟨rfl,rfl⟩ rfl (.calm rfl rfl) rfl
      ⟨rfl,rfl,rfl,rfl,rfl⟩
  | offline here =>
    exact .went found (face_insert {session with phase := .returned} rfl) ⟨rfl,rfl⟩ rfl (.calm rfl rfl) rfl
      ⟨rfl,rfl,rfl,rfl,rfl⟩

theorem step_facts (taken : Step env s action s') : FactTurn env s s' action := by
  cases plane_step taken with
  | connect absent _ =>
    refine .connected ?_ (face_insert _ rfl) rfl ⟨rfl,rfl,rfl,rfl,rfl⟩
    unfold face
    rw [absent,Option.map_none]
  | session found ran => exact session_facts found ran
  | route found ran =>
    have kept := advance_declared ran
    exact .still (fun _ => rfl) rfl ⟨rfl,rfl,rfl,kept.2,rfl⟩
  | submit | disown => exact .still (fun _ => rfl) rfl ⟨rfl,rfl,rfl,rfl,rfl⟩
  | @revoke user device =>
    rcases revoke_cases (s:=s) user device with ⟨same,_⟩ | ⟨g,_,_,changed⟩
    · rw [same]
      exact .still (fun _ => rfl) rfl ⟨rfl,rfl,rfl,rfl,rfl⟩
    · rw [changed]
      obtain ⟨sessions,rest⟩ := notify_rest (s:=s.setRegistry (s.registry.erase device)) g.connectionId .revoked
      refine .still (fun j => notify_face) ?_ ?_
      · rw [rest]
        rfl
      · rw [rest]
        exact ⟨rfl,rfl,rfl,rfl,rfl⟩
  | prune => exact .still (fun _ => rfl) rfl ⟨rfl,rfl,rfl,rfl,rfl⟩

end ControlPlane
end DeviceControl
