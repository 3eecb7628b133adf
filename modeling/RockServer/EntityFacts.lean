import RockServer.FactTurns
import RockServer.TargetAllowlists

namespace DeviceControl

variable {readFloat : String → Option ℚ} {report : EntityReport}

-- The store lets a report through only for the declared entity of its id.
theorem stored_declared {facts facts' : FactStore} {store : StoreState} {t : Transaction} {user : Uuid} {device : DeviceId}
    {answer : Except StoreError StoreOutcome} (accepted : acceptedManifest answer = true)
    (ran : facts.storeEntityState readFloat store t user device report = (answer,facts')) :
    declaredFor readFloat (((store.manifests.lookup device).map DeviceManifest.entities).getD []) report = true := by
  unfold FactStore.storeEntityState at ran
  split at ran
  · cases ran
    cases accepted
  · split at ran
    · cases ran
      cases accepted
    · split at ran
      · cases ran
        cases accepted
      · rename_i entity declared
        obtain ⟨entities,listed,found⟩ := Option.bind_eq_some_iff.mp declared
        split at ran
        · cases ran
          cases accepted
        · rename_i valid
          rw [listed]
          refine List.any_eq_true.mpr ⟨entity,List.mem_of_find?_eq_some found,?_⟩
          have own := List.find?_some found
          simp only [EntityReport.validFor,valid,Bool.and_true]
          exact own

theorem LiveHub.entityKey_same {user user' device device' : Uuid} {entity entity' : String} :
    LiveHub.entityKey user device entity = LiveHub.entityKey user' device' entity' ↔
      user = user' ∧ device = device' ∧ entity = entity' := by
  unfold LiveHub.entityKey
  simp only [toLex_inj,Prod.mk.injEq]

namespace ControlPlane

variable {env : PlaneEnv} {s s' : ControlPlane} {id : Uuid} {session session' : ControlSession} {now : Instant}
  {event : SessionEvent} {action : Action}

-- Whatever the hub shows of an entity was published, and whatever is published,
-- or accepted to be, is valid for the declared entity of its id.
structure EntitiesDeclared (env : PlaneEnv) (s : ControlPlane) : Prop where
  held : ∀ (user device : Uuid) (entity : String) (report : EntityReport),
    s.hub.entityState user device entity = some report → report.entityId = entity ∧
      ∃ publication ∈ s.publications, publication.userId = user ∧ publication.deviceId = device ∧ publication.report = report
  published : ∀ publication ∈ s.publications, declaredFor env.readFloat publication.declared publication.report = true
  accepted : ∀ (id : Uuid) (session : ControlSession) (report : EntityReport) (entities : List Entity),
    s.sessions[id]? = some session → session.phase = .reporting report entities →
    declaredFor env.readFloat entities report = true

-- Without a store, a report that the session lets through is to be valid for
-- the entity of its own id.
def ownEntity (env : PlaneEnv) (s : ControlPlane) : Action → Bool
  | .session id now (.frame (.entityState report)) => match s.sessions[id]? with
    | none => true
    | some session => env.hasStore || !s.taken env session now (.entityState report) ||
      declaredFor env.readFloat session.manifest.entities report
  | _ => true

theorem published_entity {entities : List Entity} {user device : Uuid} {entity : String} :
    (s.publishEntity id session report entities).hub.entityState user device entity =
      if session.userId = user ∧ session.deviceId = device ∧ report.entityId = entity then some report
      else s.hub.entityState user device entity := by
  rw [← ite_congr (propext LiveHub.entityKey_same) (fun _ => rfl) (fun _ => rfl)]
  exact Table.get_insert

theorem takes_declared (found : s.sessions[id]? = some session) (takes : Takes env s session now event session')
    (met : s.ownEntity env (.session id now event) = true) {shown : EntityReport} {entities : List Entity}
    (reporting : session'.phase = .reporting shown entities) : declaredFor env.readFloat entities shown = true := by
  rcases takes.reported shown entities reporting with
    ⟨store,report,rfl,rfl,rfl,let_through⟩ | ⟨t,answer,facts,_,declared,accepted,ran⟩
  · simp only [ownEntity,found,store,let_through,Bool.not_true,Bool.false_or] at met
    exact met
  · rw [declared]
    exact stored_declared accepted ran

-- The frame rule for what is accepted: one session moves.
theorem accepted_faces (declared : EntitiesDeclared env s) (faces : Faces s s' id session')
    (mine : ∀ report entities, session'.phase = .reporting report entities →
      declaredFor env.readFloat entities report = true) :
    ∀ (j : Uuid) (other : ControlSession) (report : EntityReport) (entities : List Entity),
      s'.sessions[j]? = some other → other.phase = .reporting report entities →
      declaredFor env.readFloat entities report = true := by
  intro j other report entities listed reporting
  have seen := face_of listed
  rw [faces] at seen
  split at seen
  · have same : session'.face.phase = other.face.phase := congrArg ControlSession.phase (Option.some.inj seen)
    exact mine report entities (same.trans reporting)
  · obtain ⟨held,there,same⟩ := Option.map_eq_some_iff.mp seen
    have same : held.face.phase = other.face.phase := congrArg ControlSession.phase same
    exact declared.accepted j held report entities there (same.trans reporting)

theorem EntitiesDeclared.kept (declared : EntitiesDeclared env s) (entities : s'.hub.entities = s.hub.entities)
    (publications : s'.publications = s.publications)
    (accepted : ∀ (id : Uuid) (session : ControlSession) (report : EntityReport) (entities : List Entity),
      s'.sessions[id]? = some session → session.phase = .reporting report entities →
      declaredFor env.readFloat entities report = true) : EntitiesDeclared env s' := by
  refine ⟨fun user device entity report known => ?_,fun publication told => ?_,accepted⟩
  · unfold LiveHub.entityState at known
    rw [entities] at known
    rw [publications]
    exact declared.held user device entity report known
  · exact declared.published publication (publications ▸ told)

theorem declared_step (declared : EntitiesDeclared env s) (taken : Step env s action s')
    (met : s.ownEntity env action = true) : EntitiesDeclared env s' := by
  cases step_facts taken with
  | still faces _ unwritten =>
    refine declared.kept unwritten.entities unwritten.publications fun j other report entities listed reporting => ?_
    obtain ⟨held,there,same⟩ := Option.map_eq_some_iff.mp ((faces j).symm.trans (face_of listed))
    have same : held.face.phase = other.face.phase := congrArg ControlSession.phase same
    exact declared.accepted j held report entities there (same.trans reporting)
  | connected _ faces _ unwritten =>
    exact declared.kept unwritten.entities unwritten.publications
      (accepted_faces declared faces fun _ _ reporting => nomatch reporting)
  | went found faces _ _ takes _ unwritten =>
    exact declared.kept unwritten.entities unwritten.publications
      (accepted_faces declared faces fun _ _ reporting => takes_declared found takes met reporting)
  | joined _ _ joins _ unwritten =>
    obtain ⟨session',faces,_,_,quiet,_⟩ := joins
    refine declared.kept unwritten.entities unwritten.publications (accepted_faces declared faces fun _ _ reporting => ?_)
    rw [reporting] at quiet
    cases quiet
  | wrote found _ faces _ _ takes _ entities publications =>
    exact declared.kept entities publications
      (accepted_faces declared faces fun _ _ reporting => takes_declared found takes met reporting)
  | @published id now event session report entities found here same =>
    subst same
    have faces : Faces s (s.publishEntity id session report entities) id {session with phase := .serving} := face_insert _ rfl
    refine ⟨fun user device entity shown known => ?_,fun publication told => ?_,
      accepted_faces declared faces fun _ _ reporting => nomatch reporting⟩
    · rw [published_entity] at known
      split at known
      · rename_i same
        cases known
        exact ⟨same.2.2,_,List.mem_append_right _ (List.mem_singleton_self _),same.1,same.2.1,rfl⟩
      · obtain ⟨own,publication,told,facts⟩ := declared.held user device entity shown known
        exact ⟨own,publication,List.mem_append_left _ told,facts⟩
    · rcases List.mem_append.mp told with before | new
      · exact declared.published publication before
      · cases List.mem_singleton.mp new
        exact declared.accepted id session report entities found here

-- A report that only another entity admits goes on to its publication.
theorem foreign_step (taken : Step env s action s') (foreign : s.ownEntity env action = false) :
    ¬ EntitiesDeclared env s' := by
  intro declared
  unfold ownEntity at foreign
  split at foreign
  · rename_i id now report
    split at foreign
    · cases foreign
    · rename_i session found
      simp only [Bool.or_eq_false_iff,Bool.not_eq_false'] at foreign
      obtain ⟨⟨store,let_through⟩,foreign⟩ := foreign
      rw [step_session found] at taken
      unfold ControlPlane.session at taken
      cases here : session.phase with
      | serving =>
        rw [here] at taken
        cases taken
        simp only [ControlPlane.taken,Bool.and_eq_true,decide_eq_true_iff] at let_through
        have reporting : s.receive env id session now (.entityState report) =
            s.enter id session (.reporting (report.freshen (timestamp env.router now)) session.manifest.entities) := by
          unfold receive entityState
          dsimp only
          rw [let_through.1,let_through.2,store]
          rfl
        rw [reporting] at declared
        have accepted := declared.accepted id
          {session with phase := .reporting (report.freshen (timestamp env.router now)) session.manifest.entities} _ _
          (by unfold enter setSession; rw [Table.get_insert,if_pos rfl]) rfl
        exact absurd (foreign.symm.trans accepted) Bool.false_ne_true
      | _ =>
        rw [here] at taken
        cases taken
  · cases foreign

-- The hub's entity states are declared facts all along a run exactly when, with
-- no store to ask, every report let through is valid for its own entity.
theorem entities_declared {origin : ControlPlane} {actions : List Action} (start : Initial origin) :
    (Transition.Runs (Transition.Under (fun s a => s.ownEntity env a = true) (Step env)) origin actions s →
      EntitiesDeclared env s) ∧
    (Transition.Runs (fun s a s' => Step env s a s' ∧ EntitiesDeclared env s') origin actions s →
      Transition.Runs (Transition.Under (fun s a => s.ownEntity env a = true) (Step env)) origin actions s) := by
  have declared : EntitiesDeclared env origin := by
    refine ⟨fun user device entity report known => ?_,fun publication told => ?_,fun id session _ _ found => ?_⟩
    · simp [LiveHub.entityState,start.hub,LiveHub.empty] at known
    · simp [start.publications] at told
    · simp [start.sessions] at found
  exact Transition.Runs.exactly declared (fun _ _ _ declared taken met => declared_step declared taken met)
    fun _ _ _ _ taken after => Bool.not_eq_false _ ▸ fun foreign => foreign_step taken foreign after

-- Two entities, the second of which takes any value.
def thermometer : Entity :=
  ⟨"climate.air",.sensor,"temperature","Air",true,false,some "°C",60,[],none,none,none⟩

def weatherBox : DeviceManifest := ⟨1,[.player],⟨1,[]⟩,[thermometer,relayEntity "outlet"],[]⟩

def reading (entity : String) (value : Json) (unit : Option String) (received : Option Timestamp) (stale : Instant) :
    EntityReport :=
  ⟨⟨entity,value,unit,.ok,received,⟨"1970-01-01T00:00:05Z",stale⟩⟩,1,none,⟨"1970-01-01T00:00:00Z",0⟩⟩

def bringUp : List Action := opening 100 10 weatherBox ++ List.replicate 2 (.session 100 0 .done)

theorem entities_declared_relay : ∃ s : ControlPlane, s.publications.length = 1 ∧ EntitiesDeclared volatile s := by
  obtain ⟨s,path,seen⟩ := Transition.guarded_reaches (ownEntity volatile) (execute volatile) vacant
    (bringUp ++ [.session 100 0 (.frame (.entityState (reading "relay.one" (.bool true) none none 5))),.session 100 0 .done])
    (fun s => s.publications.length = 1) (by decide)
  exact ⟨s,of_decide_eq_true seen,(entities_declared vacant_initial).1 path⟩

-- A thermometer that reads true, which the relay beside it admits.
theorem foreign_reading_published : ¬ ∀ env origin actions s, Initial origin → Runs env origin actions s →
    EntitiesDeclared env s := by
  intro claimed
  obtain ⟨s,path,seen⟩ := Transition.run_reaches (execute volatile) vacant
    (bringUp ++ [.session 100 0 (.frame (.entityState (reading "climate.air" (.bool true) none none 5))),.session 100 0 .done])
    (fun s => s.publications.any fun publication => !declaredFor volatile.readFloat publication.declared publication.report)
    (by decide)
  obtain ⟨publication,told,foreign⟩ := List.any_eq_true.mp seen
  rw [(claimed volatile _ _ s vacant_initial path).published publication told] at foreign
  cases foreign

end ControlPlane
end DeviceControl
