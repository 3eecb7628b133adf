import RockServer.EntityFacts

namespace DeviceControl

-- The freshness that a report is given, as a function of the time alone.
theorem freshen_same {report : EntityReport} {earlier later : Timestamp} :
    report.freshen earlier = report.freshen later ↔
      report.toEntityState.freshnessAt earlier = report.toEntityState.freshnessAt later := by
  constructor
  · intro same
    exact Option.some.inj (congrArg EntityReport.freshness same)
  · intro same
    unfold EntityReport.freshen
    rw [same]

-- It stays as it was exactly if the report never goes stale, was stale, or has
-- not become so.
theorem freshness_kept {state : EntityState} {earlier later : Timestamp} (ordered : earlier.instant ≤ later.instant) :
    state.freshnessAt earlier = state.freshnessAt later ↔
      state.receivedAt = none ∨ state.staleAfter.instant < earlier.instant ∨ later.instant ≤ state.staleAfter.instant := by
  unfold EntityState.freshnessAt
  cases state.receivedAt with
  | none => simp
  | some _ =>
    simp only [Option.isNone_some,Bool.false_eq_true,if_false,reduceCtorEq,false_or]
    split
    · rename_i gone
      rw [if_pos (lt_of_lt_of_le gone ordered)]
      exact ⟨fun _ => .inl gone,fun _ => rfl⟩
    · rename_i fresh
      split
      · rename_i gone
        simp only [reduceCtorEq,false_iff,not_or]
        exact ⟨fresh,not_le.mpr gone⟩
      · rename_i still
        exact ⟨fun _ => .inr (not_lt.mp still),fun _ => rfl⟩

namespace ControlPlane

variable {env : PlaneEnv} {s s' : ControlPlane} {id : Uuid} {session session' : ControlSession} {now : Instant}
  {event : SessionEvent} {action : Action}

-- A step that publishes a newer revision of an entity.
def outdates (user device : Uuid) (report : EntityReport) (s : ControlPlane) : Action → Bool
  | .session id _ _ => match s.sessions[id]? with
    | none => false
    | some session => match session.phase with
      | .reporting shown _ => session.userId = user && session.deviceId = device && shown.entityId = report.entityId &&
        report.entityRevision < shown.entityRevision
      | _ => false
  | _ => false

-- The report that is latest for its entity, and no session of the device about
-- to publish anything that is not newer.
structure Latest (user device : Uuid) (report : EntityReport) (s : ControlPlane) : Prop where
  shown : s.hub.entityState user device report.entityId = some report
  newer : ∀ (id : Uuid) (session : ControlSession) (other : EntityReport), s.face id = some session →
    session.userId = user → session.deviceId = device → session.phase.handled = some other →
    other.entityId = report.entityId → report.entityRevision < other.entityRevision

section latest
variable {user device : Uuid} {report : EntityReport}

theorem Latest.kept (latest : Latest user device report s) (entities : s'.hub.entities = s.hub.entities)
    (faces : Faces s s' id session') (mine : session'.userId = user → session'.deviceId = device →
      ∀ other, session'.phase.handled = some other → other.entityId = report.entityId →
      report.entityRevision < other.entityRevision) : Latest user device report s' := by
  refine ⟨?_,fun j session other listed own place carried same => ?_⟩
  · unfold LiveHub.entityState
    rw [entities]
    exact latest.shown
  · rw [faces] at listed
    split at listed
    · cases listed
      exact mine own place other carried same
    · exact latest.newer j session other listed own place carried same

-- What a session takes up of the entity is next after the report.
theorem Latest.takes (latest : Latest user device report s) (found : s.sessions[id]? = some session)
    (takes : Takes env s session now event session') (who : session.userId = user) (place : session.deviceId = device)
    {other : EntityReport} (carried : session'.phase.handled = some other) (same : other.entityId = report.entityId) :
    report.entityRevision < other.entityRevision := by
  rcases takes.handled other carried with before | ⟨sent,_,rfl,let_through⟩
  · exact latest.newer id session.face other (face_of found) who place before same
  · simp only [ControlPlane.taken,Bool.and_eq_true,decide_eq_true_iff] at let_through
    have order := let_through.2
    have known : s.hub.entityState session.userId session.deviceId
        (sent.freshen (timestamp env.router now)).entityId = some report := by
      rw [who,place,same]
      exact latest.shown
    unfold entityRevision at order
    rw [known] at order
    have next := (order_next.mp order).1
    omega

theorem latest_step (latest : Latest user device report s) (taken : Step env s action s')
    (quiet : s.outdates user device report action = false) : Latest user device report s' := by
  cases step_facts taken with
  | still faces _ unwritten =>
    refine ⟨?_,fun j session other listed => latest.newer j session other (faces j ▸ listed)⟩
    unfold LiveHub.entityState
    rw [unwritten.entities]
    exact latest.shown
  | connected _ faces _ unwritten => exact latest.kept unwritten.entities faces fun _ _ _ carried => nomatch carried
  | went found faces same _ takes _ unwritten =>
    exact latest.kept unwritten.entities faces fun who place _ carried =>
      latest.takes found takes (same.1.symm.trans who) (same.2.symm.trans place) carried
  | joined _ _ joins _ unwritten =>
    obtain ⟨session',faces,_,_,calm,_⟩ := joins
    refine latest.kept unwritten.entities faces fun _ _ _ carried => ?_
    rw [calm] at carried
    cases carried
  | wrote found _ faces same _ takes _ entities _ =>
    exact latest.kept entities faces fun who place _ carried =>
      latest.takes found takes (same.1.symm.trans who) (same.2.symm.trans place) carried
  | @published id now event session shown entities found here same =>
    subst same
    have faces : Faces s (s.publishEntity id session shown entities) id {session with phase := .serving} := face_insert _ rfl
    refine ⟨?_,fun j other carrying listed => ?_⟩
    · rw [published_entity,if_neg fun own => ?_]
      · exact latest.shown
      · obtain ⟨who,place,entity⟩ := own
        have newer := latest.newer id session.face shown (face_of found) who place (congrArg Phase.handled here) entity
        simp only [outdates,found,here,who,place,entity,decide_true,Bool.true_and,decide_eq_false_iff_not] at quiet
        exact quiet newer
    · rw [faces] at listed
      split at listed
      · cases listed
        exact fun _ _ carried => nomatch carried
      · exact latest.newer j other carrying listed

-- Until a newer revision is published, the report is the latest.
theorem latest_run {actions : List Action} (latest : Latest user device report s)
    (path : Transition.Runs (Transition.Under (fun s a => s.outdates user device report a = false) (Step env)) s actions s') :
    Latest user device report s' :=
  path.invariant (Latest user device report) latest fun _ _ _ latest taken => latest_step latest taken.2 taken.1

end latest

-- The session takes the report for a replay: it stores, publishes and asks for
-- nothing and goes on.
def Replays (env : PlaneEnv) (s : ControlPlane) (id : Uuid) (session : ControlSession) (now : Instant)
    (report : EntityReport) : Prop :=
  entityRevision s.hub session.userId session.deviceId (report.freshen (timestamp env.router now)) = .replay ∧
    Step env s (.session id now (.frame (.entityState report))) (s.enter id session .serving)

theorem replays_iff (listed : s.sessions[id]? = some session) (serving : session.phase = .serving) {report held : EntityReport}
    (known : s.hub.entityState session.userId session.deviceId report.entityId = some held)
    (same : held.entityRevision = report.entityRevision) : Replays env s id session now report ↔
      admitted env.readFloat session.manifest.entities report = true ∧
      held = report.freshen (timestamp env.router now) := by
  have known : s.hub.entityState session.userId session.deviceId
    (report.freshen (timestamp env.router now)).entityId = some held := known
  have order : entityRevision s.hub session.userId session.deviceId (report.freshen (timestamp env.router now)) = .replay ↔
      held = report.freshen (timestamp env.router now) := by
    unfold entityRevision
    rw [known]
    exact order_replay.trans ⟨fun both => both.2,fun equal => ⟨same.symm,equal⟩⟩
  have stepped {s' : ControlPlane} : Step env s (.session id now (.frame (.entityState report))) s' ↔
      s.receive env id session now (.entityState report) = s' := by
    rw [step_session listed]
    unfold ControlPlane.session
    rw [serving]
    exact Option.some_inj
  unfold Replays
  rw [order,stepped]
  constructor
  · rintro ⟨equal,ran⟩
    refine ⟨?_,equal⟩
    refine Bool.not_eq_false _ ▸ fun refused => ?_
    simp only [receive,ControlPlane.entityState,refused,Bool.not_false,if_true] at ran
    have phases := congrArg (fun plane => (plane.sessions[id]?).map ControlSession.phase) ran
    simp [enter,setSession] at phases
  · rintro ⟨admits,equal⟩
    refine ⟨equal,?_⟩
    have classified := order.mpr equal
    simp only [receive,ControlPlane.entityState,admits,classified]
    rfl

-- No other session of the device is at a report of the entity that is not newer.
def Alone (s : ControlPlane) (id : Uuid) (session : ControlSession) (report : EntityReport) : Prop :=
  ∀ (j : Uuid) (other : ControlSession) (shown : EntityReport), j ≠ id → s.sessions[j]? = some other →
    other.userId = session.userId → other.deviceId = session.deviceId → other.phase.handled = some shown →
    shown.entityId = report.entityId → report.entityRevision < shown.entityRevision

theorem published_latest {report : EntityReport} {entities : List Entity} (found : s.sessions[id]? = some session)
    (here : session.phase = .reporting report entities) (alone : s.Alone id session report)
    (taken : Step env s (.session id now event) s') : Latest session.userId session.deviceId report s' := by
  rw [step_session found] at taken
  unfold ControlPlane.session at taken
  rw [here] at taken
  cases event with
  | done =>
    cases taken
    have faces : Faces s (s.publishEntity id session report entities) id {session with phase := .serving} := face_insert _ rfl
    refine ⟨?_,fun j other shown listed who place carried same => ?_⟩
    · exact published_entity.trans (if_pos ⟨rfl,rfl,rfl⟩)
    · rw [faces] at listed
      split at listed
      · cases listed
        cases carried
      · rename_i apart
        obtain ⟨held,there,rfl⟩ := Option.map_eq_some_iff.mp listed
        exact alone j held shown (Ne.symm apart) there who place carried same
  | _ => cases taken

-- A published report comes again, with nothing newer in between: the session
-- takes it for a replay exactly if its manifest still admits it and its
-- freshness is still what it was given.
theorem resend_replayed {actions : List Action} {published : ControlPlane} {resender : Uuid} {report : EntityReport}
    {entities : List Entity} {received resent : Instant} (found : s.sessions[id]? = some session)
    (here : session.phase = .reporting (report.freshen (timestamp env.router received)) entities)
    (alone : s.Alone id session report) (accepted : Step env s (.session id now event) published)
    (between : Transition.Runs (Transition.Under
      (fun t a => t.outdates session.userId session.deviceId report a = false) (Step env)) published actions s')
    (listed : s'.sessions[resender]? = some session') (serving : session'.phase = .serving)
    (same : session'.userId = session.userId ∧ session'.deviceId = session.deviceId) (later : received ≤ resent) :
    Replays env s' resender session' resent report ↔ admitted env.readFloat session'.manifest.entities report = true ∧
      (report.receivedAt = none ∨ report.staleAfter.instant < received ∨ resent ≤ report.staleAfter.instant) := by
  have latest : Latest session.userId session.deviceId (report.freshen (timestamp env.router received)) s' :=
    latest_run (published_latest found here alone accepted) between
  have known : s'.hub.entityState session'.userId session'.deviceId report.entityId =
      some (report.freshen (timestamp env.router received)) := by
    rw [same.1,same.2]
    exact latest.shown
  rw [replays_iff listed serving known rfl,freshen_same]
  exact and_congr_right fun _ => freshness_kept later

-- The one session of a process is about to publish a report it received at the
-- epoch, and goes on serving under a manifest that admits it.
def atPublication (report : EntityReport) (s : ControlPlane) : Bool :=
  (s.sessions.toList.all fun (id,_) => id = 100) && (s.sessions[(100 : Uuid)]?).any fun session =>
    (match session.phase with
      | .reporting shown _ => shown = report.freshen (timestamp onEpochDay 0)
      | _ => false) &&
    (execute volatile s (.session 100 0 .done)).any fun published => (published.sessions[(100 : Uuid)]?).any fun session' =>
      (match session'.phase with
        | .serving => true
        | _ => false) && session'.userId = session.userId && session'.deviceId = session.deviceId &&
        admitted volatile.readFloat session'.manifest.entities report

theorem at_publication {report : EntityReport} (seen : atPublication report s = true) :
    ∃ session entities published session', s.sessions[(100 : Uuid)]? = some session ∧
      session.phase = .reporting (report.freshen (timestamp onEpochDay 0)) entities ∧ s.Alone 100 session report ∧
      Step volatile s (.session 100 0 .done) published ∧ published.sessions[(100 : Uuid)]? = some session' ∧
      session'.phase = .serving ∧ (session'.userId = session.userId ∧ session'.deviceId = session.deviceId) ∧
      admitted volatile.readFloat session'.manifest.entities report = true := by
  obtain ⟨sole,seen⟩ := (Bool.and_eq_true _ _).mp seen
  obtain ⟨session,found,seen⟩ := (Option.any_eq_true _ _).mp seen
  obtain ⟨at_report,seen⟩ := (Bool.and_eq_true _ _).mp seen
  obtain ⟨published,taken,seen⟩ := (Option.any_eq_true _ _).mp seen
  obtain ⟨session',listed,seen⟩ := (Option.any_eq_true _ _).mp seen
  simp only [Bool.and_eq_true,decide_eq_true_iff] at seen
  obtain ⟨⟨⟨at_serving,who⟩,place⟩,admits⟩ := seen
  have here : ∃ entities, session.phase = .reporting (report.freshen (timestamp onEpochDay 0)) entities := by
    split at at_report
    · rename_i shown entities phase
      rw [phase,of_decide_eq_true at_report]
      exact ⟨entities,rfl⟩
    · cases at_report
  obtain ⟨entities,here⟩ := here
  refine ⟨session,entities,published,session',found,here,?_,taken,listed,?_,⟨who,place⟩,admits⟩
  · intro j other _ apart there
    exact absurd (of_decide_eq_true (List.all_eq_true.mp sole (j,other) (Table.mem_entries.mpr there))) apart
  · split at at_serving
    · assumption
    · cases at_serving

-- A relay's state that a clock of its own marked as received.
def marked (stale : Instant) : EntityReport :=
  reading "relay.one" (.bool true) none (some ⟨"1970-01-01T00:00:00Z",0⟩) stale

def reportMarked (stale : Instant) : List Action := bringUp ++ [.session 100 0 (.frame (.entityState (marked stale)))]

theorem resend_replayed_fresh : ∃ published session', published.sessions[(100 : Uuid)]? = some session' ∧
    Replays volatile published 100 session' 10 (marked 50) := by
  obtain ⟨s,_,seen⟩ := Transition.run_reaches (execute volatile) vacant (reportMarked 50) (atPublication (marked 50)) (by decide)
  obtain ⟨session,entities,published,session',found,here,alone,taken,listed,serving,same,admits⟩ := at_publication seen
  have later : (0 : Instant) ≤ 10 := by decide
  refine ⟨published,session',listed,?_⟩
  exact (resend_replayed found here alone taken .nil listed serving same later).mpr ⟨admits,.inr (.inr (by decide))⟩

-- The same state comes again after it went stale, and the session asks for a
-- resync.
theorem stale_resend_conflicts : ¬ ∀ env origin earlier s id session report entities received now event published actions s'
    resender session' resent, Initial origin → Runs env origin earlier s → s.sessions[id]? = some session →
    session.phase = .reporting (report.freshen (timestamp env.router received)) entities → s.Alone id session report →
    Step env s (.session id now event) published →
    Transition.Runs (Transition.Under (fun t a => t.outdates session.userId session.deviceId report a = false) (Step env))
      published actions s' → s'.sessions[resender]? = some session' → session'.phase = .serving →
    session'.userId = session.userId ∧ session'.deviceId = session.deviceId → received ≤ resent →
    admitted env.readFloat session'.manifest.entities report = true → Replays env s' resender session' resent report := by
  intro claimed
  obtain ⟨s,path,seen⟩ := Transition.run_reaches (execute volatile) vacant (reportMarked 5) (atPublication (marked 5)) (by decide)
  obtain ⟨session,entities,published,session',found,here,alone,taken,listed,serving,same,admits⟩ := at_publication seen
  have later : (0 : Instant) ≤ 10 := by decide
  have replays := claimed volatile vacant _ s 100 session (marked 5) entities 0 0 .done published [] published 100 session' 10
    vacant_initial path found here alone taken .nil listed serving same later admits
  have latest := published_latest found here alone taken
  have known : published.hub.entityState session'.userId session'.deviceId (marked 5).entityId =
      some ((marked 5).freshen (timestamp onEpochDay 0)) := by
    rw [same.1,same.2]
    exact latest.shown
  have kept := ((replays_iff listed serving known rfl).mp replays).2
  exact absurd kept (by decide)

end ControlPlane
end DeviceControl
