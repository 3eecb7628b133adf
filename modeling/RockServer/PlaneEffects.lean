import RockServer.CommandExactlyOnce
import RockServer.ControlPlane

namespace DeviceControl

-- The course of a session as the rest of the plane sees it.
inductive Stage where
  | waiting
  | arriving
  | present
  | departing
  | returned
deriving DecidableEq

namespace Phase

def stage : Phase → Stage
  | .greeting => .waiting
  | .registering | .applying _ | .joining _ => .arriving
  | .retiring _ | .retracting => .departing
  | .returned => .returned
  | _ => .present

-- The handover a session waits for, with the generation whose commands it
-- hands over.
def pass (own : Uuid) : Phase → Option (Nat × Uuid)
  | .replacing task previous => some (task,previous)
  | .retiring task => some (task,own)
  | _ => none

-- The handler of a frame is on its way to a published or stored fact.
def writing : Phase → Bool
  | .declaring _ | .storing _ | .accepting _ _ | .publishing _ _ | .merging _ | .measuring _ | .reporting _ _ => true
  | _ => false

-- The report that an entity's handler carries.
def handled : Phase → Option EntityReport
  | .measuring report | .reporting report _ => some report
  | _ => none

end Phase

namespace ControlPlane

-- What a session keeps while it goes on: who it is, its rights and what others
-- told it; and it goes on from a handover only when that is through.
structure Moved (s : ControlPlane) (id : Uuid) (session session' : ControlSession) : Prop where
  user : session'.userId = session.userId
  device : session'.deviceId = session.deviceId
  scopes : session'.scopes = session.scopes
  order : session'.order = session.order
  notice : session'.notice = session.notice
  stage : session'.phase.stage = session.phase.stage
  pass : session'.phase.pass id = session.phase.pass id ∨ session'.phase.pass id = none ∧
    ∀ task generation, session.phase.pass id = some (task,generation) → s.answered task = true

-- It takes up no fact, and carries no report.
structure Settled (session session' : ControlSession) : Prop where
  writing : session'.phase.writing = true → session.phase.writing = true
  handled : session'.phase.handled = none

-- One step of a session, sorted by what it does to the shared state.
inductive SessionStep (env : PlaneEnv) (s : ControlPlane) (id : Uuid) (session : ControlSession) (now : Instant) :
    SessionEvent → ControlPlane → Prop where
  | moved {event session'} : Moved s id session session' → Settled session session' →
      SessionStep env s id session now event (s.setSession id session')
  | received {frame} : session.phase = .serving →
      SessionStep env s id session now (.frame frame) (s.receive env id session now frame)
  | online {event} : session.phase = .greeting → SessionStep env s id session now event
      ({s with hub := s.hub.publishPresence session.userId session.deviceId true}.enter id session .registering)
  | abandoned {event} : session.phase.stage = .waiting ∨ session.phase.stage = .arriving →
      SessionStep env s id session now event (s.leave id session)
  | applied {t manifest session'} : session.phase = .applying manifest ∨ session.phase = .declaring manifest →
      Moved s id session session' → Settled session session' → SessionStep env s id session now (.stored t)
        ((s.setStore (s.router.store.applyManifest t session.userId ⟨session.deviceId⟩ manifest).2).setSession id session')
  | joined {event manifest} : session.phase = .joining manifest →
      SessionStep env s id session now event (s.join env id session manifest)
  | announced {event session'} : Moved s id session session' → Settled session session' →
      SessionStep env s id session now event
      ({s with hub := s.hub.publishManifest session.userId session.deviceId}.setSession id session')
  | unconfirmed : session.phase = .confirming → SessionStep env s id session now .failed
      ((s.setRegistry (s.registry.disconnect session.deviceId id).1).leave id session)
  | unlisted : session.phase = .listing → SessionStep env s id session now .failed (s.leave id session)
  | drained {event session' active rest} : s.registry.generation session.deviceId id = some active →
      Moved s id session session' → Settled session session' → SessionStep env s id session now event
        ((s.setRegistry (s.registry.insert session.deviceId
          {active with outbound := {active.outbound with queue := rest}})).setSession id session')
  | adopted {event manifest} : session.phase = .adopting manifest → SessionStep env s id session now event
      ((s.setRegistry (s.registry.updateManifest session.deviceId id manifest).1).enter id
        {session with manifest := manifest} .declared)
  | stored {t snapshot session'} : session.phase = .storing snapshot ∨ session.phase = .merging snapshot →
      Moved s id session session' → Settled session session' → SessionStep env s id session now (.stored t)
        ({s with facts := (s.facts.storeDeviceState s.router.store t session.userId ⟨session.deviceId⟩ snapshot).2}.setSession
          id session')
  | measured {t report session'} : session.phase = .measuring report → Moved s id session session' →
      (∀ shown, session'.phase.handled = some shown → shown = report ∧
        session'.phase = .reporting report (s.declaredEntities session.deviceId) ∧
        ∃ answer facts, acceptedManifest answer = true ∧
        s.facts.storeEntityState env.readFloat s.router.store t session.userId ⟨session.deviceId⟩ report = (answer,facts)) →
      SessionStep env s id session now (.stored t)
        ({s with facts := (s.facts.storeEntityState env.readFloat s.router.store t session.userId ⟨session.deviceId⟩
          report).2}.setSession id session')
  | publishedState {event snapshot answer} : session.phase = .publishing snapshot answer →
      SessionStep env s id session now event
        ({s with hub := s.hub.publishDeviceState session.userId session.deviceId snapshot answer}.enter id session .serving)
  | publishedEntity {event report entities} : session.phase = .reporting report entities →
      SessionStep env s id session now event (s.publishEntity id session report entities)
  | closed {event reason registry} : session.phase = .closing reason →
      s.registry.disconnect session.deviceId id = (registry,true) → SessionStep env s id session now event
        (((s.setRegistry registry).call (disconnected env session.userId session.deviceId id)).enter id session
          (.retiring s.router.tasks.length))
  | left {event reason} : session.phase = .closing reason →
      (s.registry.disconnect session.deviceId id).2 = false → SessionStep env s id session now event (s.leave id session)
  | offline {event} : session.phase = .retracting → SessionStep env s id session now event
      ({s with hub := s.hub.publishPresence session.userId session.deviceId false}.leave id session)

-- One step of the plane: who takes it, and what it leaves.
inductive PlaneStep (env : PlaneEnv) (s : ControlPlane) : Action → ControlPlane → Prop where
  | connect {id user device} : s.sessions[id]? = none → user = env.owner device →
      PlaneStep env s (.connect id user device) (s.setSession id (.fresh user device))
  | session {id now event session s'} : s.sessions[id]? = some session → SessionStep env s id session now event s' →
      PlaneStep env s (.session id now event) s'
  | route {i o task after next spawned} : s.router.tasks[i]? = some task →
      advance env.router o s.router task = (after,next,spawned) → PlaneStep env s (.route i o)
        {s with router := {after with tasks := s.router.tasks.set i next ++ spawned},orphans := s.orphans ++ s.orphaned task}
  | submit {call} : PlaneStep env s (.submit call) (s.call (.submit {call with hasStore := env.hasStore}))
  | disown {device} : PlaneStep env s (.disown device)
      (s.setStore {s.router.store with devices := s.router.store.devices.filter fun entry => entry.1 ≠ device})
  | revoke {user device} : PlaneStep env s (.revoke user device) (s.revoke user device)
  | prune {now limit} : PlaneStep env s (.prune now limit) (s.setStore (s.router.store.pruneCommands now limit))

variable {env : PlaneEnv} {s s' : ControlPlane} {id : Uuid} {session : ControlSession} {now : Instant}
  {event : SessionEvent}

theorem step_session (found : s.sessions[id]? = some session) :
    Step env s (.session id now event) s' ↔ s.session env id session now event = some s' := by
  unfold Step Transition.Executes
  rw [execute,found,Option.bind_some]

theorem unaccepted_store {store : StoreState} {t : Transaction} {user : Uuid} {device : DeviceId} {manifest : DeviceManifest}
    (refused : acceptedManifest (store.applyManifest t user device manifest).1 = false) :
    (store.applyManifest t user device manifest).2 = store := by
  revert refused
  unfold StoreState.applyManifest
  split
  · exact fun _ => rfl
  · split
    · exact fun _ => rfl
    · split
      · exact fun _ => rfl
      · split
        · exact fun _ => rfl
        · split
          · exact fun _ => rfl
          · split
            · exact fun _ => rfl
            · exact fun accepted => nomatch accepted

theorem Moved.on {session' : ControlSession} {phase : Phase} (here : session.phase = phase)
    (same : session'.userId = session.userId ∧ session'.deviceId = session.deviceId ∧
      session'.scopes = session.scopes ∧ session'.order = session.order ∧ session'.notice = session.notice)
    (stage : session'.phase.stage = phase.stage) (pass : session'.phase.pass id = phase.pass id) :
    Moved s id session session' := by
  subst here
  exact ⟨same.1,same.2.1,same.2.2.1,same.2.2.2.1,same.2.2.2.2,stage,.inl pass⟩

-- A step to another phase that touches nothing else of the session.
theorem Moved.enter {phase next : Phase} (here : session.phase = phase) (stage : next.stage = phase.stage)
    (pass : next.pass id = phase.pass id) : Moved s id session {session with phase := next} :=
  .on here ⟨rfl,rfl,rfl,rfl,rfl⟩ stage pass

theorem Moved.through {task : Nat} {generation : Uuid} {next : Phase} (waits : session.phase.pass id = some (task,generation))
    (answered : s.answered task = true) (stage : next.stage = session.phase.stage) (pass : next.pass id = none) :
    Moved s id session {session with phase := next} := by
  refine ⟨rfl,rfl,rfl,rfl,rfl,stage,.inr ⟨pass,fun other generation waiting => ?_⟩⟩
  rw [waits] at waiting
  cases waiting
  exact answered

-- Where the handler of a fact does not lead.
theorem Settled.calm {session' : ControlSession} (writing : session'.phase.writing = false)
    (handled : session'.phase.handled = none) : Settled session session' :=
  ⟨fun writes => absurd (writing.symm.trans writes) Bool.false_ne_true,handled⟩

theorem deliver_step (here : session.phase = .serving) {sent : Bool} (taken : s.deliver id session sent = some s') :
    SessionStep env s id session now event s' := by
  have next : Moved s id session {session with phase := if sent then .serving else .closing .transportLost} :=
    .enter here (by cases sent <;> rfl) (by cases sent <;> rfl)
  have settled : Settled session {session with phase := if sent then .serving else .closing .transportLost} :=
    .calm (by cases sent <;> rfl) (by cases sent <;> rfl)
  unfold deliver at taken
  split at taken
  · cases taken
    exact .moved next settled
  · rename_i active found
    split at taken
    · cases taken
    · cases taken
      exact .drained found next settled

theorem accept_step {snapshot : DeviceStateSnapshot} {answer : StoreOutcome}
    (here : session.phase = .accepting snapshot answer) :
    SessionStep env s id session now event (s.accept id session snapshot answer) := by
  unfold accept
  extract_lets order
  clear_value order
  cases order
  all_goals exact .moved (.on here ⟨rfl,rfl,rfl,rfl,rfl⟩ rfl rfl) ⟨fun _ => congrArg Phase.writing here,rfl⟩

-- The answers that let a report through go on to its publication.
theorem measured_step {report : EntityReport} {t : Transaction} {answer : Except StoreError StoreOutcome}
    {facts : FactStore} {session' : ControlSession} (here : session.phase = .measuring report)
    (ran : s.facts.storeEntityState env.readFloat s.router.store t session.userId ⟨session.deviceId⟩ report = (answer,facts))
    (next : Moved s id session session')
    (shown : ∀ shown, session'.phase.handled = some shown → shown = report ∧
      session'.phase = .reporting report (s.declaredEntities session.deviceId) ∧ acceptedManifest answer = true) :
    SessionStep env s id session now (.stored t) ({s with facts := facts}.setSession id session') := by
  have measured : SessionStep env s id session now (.stored t) _ := .measured here next fun other handled =>
    ⟨(shown other handled).1,(shown other handled).2.1,answer,facts,(shown other handled).2.2,ran⟩
  rw [ran] at measured
  exact measured

-- A session that waits for a router's answer goes on once the answer is there.
theorem step_awaited {next : Phase} (answers : (if s.answered task then some (s.enter id session next) else none) = some s')
    (moved : s.answered task = true → Moved s id session {session with phase := next}) (writing : next.writing = false)
    (handled : next.handled = none) : SessionStep env s id session now event s' := by
  split at answers
  · rename_i answered
    cases answers
    exact .moved (moved answered) (.calm writing handled)
  · cases answers

-- What the events of a phase make of its session: one lemma for each phase that waits
-- for more than an answer.
section phases
variable {manifest : DeviceManifest} {snapshot : DeviceStateSnapshot} {report : EntityReport} {answer : StoreOutcome}
  {entities : List Entity} {task : Nat} {previous : Uuid} {reason : DisconnectReason}
  (taken : s.session env id session now event = some s')
include taken

theorem step_greeting (here : session.phase = .greeting) : SessionStep env s id session now event s' := by
  unfold ControlPlane.session at taken
  rw [here] at taken
  cases event with
  | hello versions welcomed =>
    dsimp only at taken
    split at taken
    · cases taken
      exact .online here
    · cases taken
      exact .abandoned (.inl (congrArg Phase.stage here))
  | failed =>
    cases taken
    exact .abandoned (.inl (congrArg Phase.stage here))
  | _ => cases taken

theorem step_registering (here : session.phase = .registering) : SessionStep env s id session now event s' := by
  have left : SessionStep env s id session now event (s.leave id session) := .abandoned (.inr (congrArg Phase.stage here))
  unfold ControlPlane.session at taken
  rw [here] at taken
  cases event with
  | register payload =>
    dsimp only at taken
    split at taken
    · cases taken
      exact left
    · split at taken
      · cases taken
        exact left
      · cases taken
        exact .moved (.enter here (by cases env.hasStore <;> rfl) (by cases env.hasStore <;> rfl))
          (.calm (by cases env.hasStore <;> rfl) (by cases env.hasStore <;> rfl))
  | failed =>
    cases taken
    exact left
  | _ => cases taken

theorem step_applying (here : session.phase = .applying manifest) : SessionStep env s id session now event s' := by
  unfold ControlPlane.session at taken
  rw [here] at taken
  cases event with
  | stored t =>
    dsimp only at taken
    split at taken
    · cases taken
      have next : Moved s id session {session with phase := .joining manifest} := .enter here rfl rfl
      exact .applied (.inl here) next (.calm rfl rfl)
    · rename_i refused
      cases taken
      rw [unaccepted_store (by simpa using refused)]
      exact .abandoned (.inr (congrArg Phase.stage here))
  | _ => cases taken

theorem step_confirming (here : session.phase = .confirming) : SessionStep env s id session now event s' := by
  unfold ControlPlane.session at taken
  rw [here] at taken
  cases event with
  | done =>
    dsimp only at taken
    split at taken
    · cases taken
      exact .moved (.enter here rfl rfl) (.calm rfl rfl)
    · cases taken
      exact .moved (.on here ⟨rfl,rfl,rfl,rfl,rfl⟩ rfl rfl) (.calm rfl rfl)
  | failed =>
    cases taken
    exact .unconfirmed here
  | _ => cases taken

theorem step_listing (here : session.phase = .listing) : SessionStep env s id session now event s' := by
  unfold ControlPlane.session at taken
  rw [here] at taken
  cases event with
  | done =>
    cases taken
    exact .moved (.on here ⟨rfl,rfl,rfl,rfl,rfl⟩ rfl rfl) (.calm rfl rfl)
  | failed =>
    cases taken
    exact .unlisted here
  | _ => cases taken

theorem step_serving (here : session.phase = .serving) : SessionStep env s id session now event s' := by
  unfold ControlPlane.session at taken
  rw [here] at taken
  cases event with
  | shutdown =>
    cases taken
    exact .moved (.enter here rfl rfl) (.calm rfl rfl)
  | expired =>
    dsimp only at taken
    split at taken
    · cases taken
      exact .moved (.enter here rfl rfl) (.calm rfl rfl)
    · cases taken
  | replacement =>
    obtain ⟨reason,_,rfl⟩ := Option.map_eq_some_iff.mp taken
    exact .moved (.enter here rfl rfl) (.calm rfl rfl)
  | outbound sent => exact deliver_step here taken
  | directory told =>
    dsimp only at taken
    split at taken
    · cases taken
      exact .moved (.enter here (by cases told <;> rfl) (by cases told <;> rfl))
        (.calm (by cases told <;> rfl) (by cases told <;> rfl))
    · cases taken
  | frame frame =>
    cases taken
    exact .received here
  | closed graceful =>
    cases taken
    exact .moved (.enter here rfl rfl) (.calm rfl rfl)
  | _ => cases taken

theorem step_declaring (here : session.phase = .declaring manifest) : SessionStep env s id session now event s' := by
  unfold ControlPlane.session at taken
  rw [here] at taken
  cases event with
  | stored t =>
    cases taken
    have next (answers : Bool) : Moved s id session
        {session with phase := if answers then .adopting manifest else .closing .transportLost} :=
      .enter here (by cases answers <;> rfl) (by cases answers <;> rfl)
    have settled (answers : Bool) : Settled session
        {session with phase := if answers then .adopting manifest else .closing .transportLost} :=
      .calm (by cases answers <;> rfl) (by cases answers <;> rfl)
    exact .applied (.inr here) (next _) (settled _)
  | _ => cases taken

theorem step_storing (here : session.phase = .storing snapshot) : SessionStep env s id session now event s' := by
  unfold ControlPlane.session at taken
  rw [here] at taken
  cases event with
  | stored t =>
    dsimp only at taken
    split at taken
    · cases taken
      exact .stored (.inl here) (.on here ⟨rfl,rfl,rfl,rfl,rfl⟩ rfl rfl) (.calm rfl rfl)
    · cases taken
      exact .stored (.inl here) (.enter here rfl rfl) ⟨fun _ => congrArg Phase.writing here,rfl⟩
  | _ => cases taken

theorem step_merging (here : session.phase = .merging snapshot) : SessionStep env s id session now event s' := by
  unfold ControlPlane.session at taken
  rw [here] at taken
  cases event with
  | stored t =>
    dsimp only at taken
    split at taken
    · cases taken
      exact .stored (.inr here) (.on here ⟨rfl,rfl,rfl,rfl,rfl⟩ rfl rfl) (.calm rfl rfl)
    · cases taken
      exact .stored (.inr here) (.enter here rfl rfl) ⟨fun _ => congrArg Phase.writing here,rfl⟩
  | _ => cases taken

theorem step_measuring (here : session.phase = .measuring report) : SessionStep env s id session now event s' := by
  unfold ControlPlane.session at taken
  rw [here] at taken
  cases event with
  | stored t =>
    dsimp only at taken
    split at taken
    · rename_i facts ran
      cases taken
      exact measured_step here ran (.enter here rfl rfl) fun _ handled => by cases handled; exact ⟨rfl,rfl,rfl⟩
    · rename_i facts ran
      cases taken
      exact measured_step here ran (.enter here rfl rfl) fun _ handled => by cases handled; exact ⟨rfl,rfl,rfl⟩
    · rename_i facts ran
      cases taken
      exact measured_step here ran (.enter here rfl rfl) fun _ handled => nomatch handled
    · rename_i answer facts _ _ _ ran
      cases taken
      exact measured_step here ran (.on here ⟨rfl,rfl,rfl,rfl,rfl⟩ rfl rfl) fun _ handled => nomatch handled
  | _ => cases taken

theorem step_closing (here : session.phase = .closing reason) : SessionStep env s id session now event s' := by
  unfold ControlPlane.session at taken
  rw [here] at taken
  cases event with
  | done =>
    dsimp only at taken
    split at taken
    · rename_i registry removed
      cases taken
      exact .closed here removed
    · rename_i registry absent
      cases taken
      exact .left here (congrArg Prod.snd absent)
  | _ => cases taken

theorem session_step : SessionStep env s id session now event s' := by
  have turn := taken
  unfold ControlPlane.session at turn
  cases here : session.phase with
  | greeting => exact step_greeting taken here
  | registering => exact step_registering taken here
  | applying manifest => exact step_applying taken here
  | joining manifest =>
    rw [here] at turn
    cases event with
    | done =>
      cases turn
      exact .joined here
    | _ => cases turn
  | replacing task previous =>
    rw [here] at turn
    cases event with
    | done =>
      refine step_awaited turn (fun answered => ?_) rfl rfl
      exact .through (congrArg (Phase.pass id) here) answered (congrArg Phase.stage here).symm rfl
    | _ => cases turn
  | announcing =>
    rw [here] at turn
    cases event with
    | done =>
      cases turn
      exact .announced (.enter here rfl rfl) (.calm rfl rfl)
    | _ => cases turn
  | confirming => exact step_confirming taken here
  | listing => exact step_listing taken here
  | serving => exact step_serving taken here
  | declaring manifest => exact step_declaring taken here
  | adopting manifest =>
    rw [here] at turn
    cases event with
    | done =>
      cases turn
      exact .adopted here
    | _ => cases turn
  | declared =>
    rw [here] at turn
    cases event with
    | done =>
      cases turn
      exact .announced (.enter here rfl rfl) (.calm rfl rfl)
    | _ => cases turn
  | storing snapshot => exact step_storing taken here
  | accepting snapshot answer =>
    rw [here] at turn
    cases event with
    | done =>
      cases turn
      exact accept_step here
    | _ => cases turn
  | publishing snapshot answer =>
    rw [here] at turn
    cases event with
    | done =>
      cases turn
      exact .publishedState here
    | _ => cases turn
  | merging snapshot => exact step_merging taken here
  | measuring report => exact step_measuring taken here
  | reporting report entities =>
    rw [here] at turn
    cases event with
    | done =>
      cases turn
      exact .publishedEntity here
    | _ => cases turn
  | calling task =>
    rw [here] at turn
    cases event with
    | done => exact step_awaited turn (fun _ => .enter here rfl rfl) rfl rfl
    | _ => cases turn
  | closing reason => exact step_closing taken here
  | retiring task =>
    rw [here] at turn
    cases event with
    | done =>
      refine step_awaited turn (fun answered => ?_) rfl rfl
      exact .through (congrArg (Phase.pass id) here) answered (congrArg Phase.stage here).symm rfl
    | _ => cases turn
  | retracting =>
    rw [here] at turn
    cases event with
    | done =>
      cases turn
      exact .offline here
    | _ => cases turn
  | returned =>
    rw [here] at turn
    cases event <;> cases turn

end phases

theorem plane_step {action : Action} (taken : Step env s action s') : PlaneStep env s action s' := by
  change execute env s action = some s' at taken
  cases action with
  | connect id user device =>
    simp only [execute] at taken
    split at taken
    · rename_i admitted
      simp only [Bool.and_eq_true,Option.isNone_iff_eq_none,decide_eq_true_iff] at admitted
      cases taken
      exact .connect admitted.1 admitted.2
    · cases taken
  | session id now event =>
    obtain ⟨session,found,ran⟩ := Option.bind_eq_some_iff.mp taken
    exact .session found (session_step ran)
  | route i o =>
    simp only [execute,route] at taken
    split at taken
    · cases taken
    · rename_i task found
      obtain ⟨router,ran,rfl⟩ := Option.map_eq_some_iff.mp taken
      obtain ⟨task',after,next,spawned,found',advanced,rfl⟩ := run_cases ran
      rw [found] at found'
      cases found'
      exact .route found advanced
  | submit call =>
    cases taken
    exact .submit
  | disown device =>
    cases taken
    exact .disown
  | revoke user device =>
    simp only [execute] at taken
    split at taken
    · cases taken
    · cases taken
      exact .revoke
  | prune now limit =>
    cases taken
    exact .prune

end ControlPlane
end DeviceControl
