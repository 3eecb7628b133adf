import RockServer.SessionCleanup

namespace DeviceControl

-- A session has told the account that its device is online and is not yet
-- registered, or has taken the device off the registry and is to say so.
def Stage.inWindow : Stage → Bool
  | .arriving | .departing => true
  | _ => false

namespace ControlPlane

variable {env : PlaneEnv} {s s' : ControlPlane} {id : Uuid} {session : ControlSession} {now : Instant}
  {action : Action} {device : Uuid}

-- What subscribers of the account heard last about the device.
def lastPresence (s : ControlPlane) (user device : Uuid) : Option Bool :=
  (s.presences.filterMap fun (owner,other,isOnline) => if owner = user ∧ other = device then some isOnline else none).getLast?

def Quiet (s : ControlPlane) (device : Uuid) : Prop := ∀ (id : Uuid) (session : ControlSession),
  s.sessions[id]? = some session → session.deviceId = device → session.phase.stage.inWindow = false

def PresenceAgrees (env : PlaneEnv) (s : ControlPlane) : Prop := ∀ device, s.Quiet device →
  (s.lastPresence (env.owner device) device = some true ↔ (s.registry[device]?).isSome = true)

-- Another session of the device that is in its window.
def between (s : ControlPlane) (device id : Uuid) : Bool := s.sessions.toList.any fun (j,other) =>
  j ≠ id && (other.deviceId = device && other.phase.stage.inWindow)

def arriving (s : ControlPlane) (device : Uuid) : Bool := s.sessions.toList.any fun (_,other) =>
  other.deviceId = device && other.phase.stage = .arriving

-- The registration fails after the presence was published.
def rejects (s : ControlPlane) (session : ControlSession) (event : SessionEvent) : Bool :=
  match session.phase,event with
  | .registering,.failed => true
  | .registering,.register payload => !validRegistration payload || !payload.manifest.validate.isOk
  | .applying manifest,.stored t =>
    !acceptedManifest (s.router.store.applyManifest t session.userId ⟨session.deviceId⟩ manifest).1
  | _,_ => false

-- What the published presence needs of a step: whoever takes a device off or
-- gives up its registration leaves another session that will publish or
-- register, and nobody says offline of a device that is, or is becoming, online.
def accounted (s : ControlPlane) : Action → Bool
  | .session id _ event => match s.sessions[id]? with
    | none => true
    | some session => match session.phase,event with
      | .confirming,.failed => (s.registry.generation session.deviceId id).isNone || s.between session.deviceId id
      | .retracting,_ => (s.registry[session.deviceId]?).isNone && !s.arriving session.deviceId
      | _,_ => !s.rejects session event || (s.registry[session.deviceId]?).isSome || s.between session.deviceId id
  | .revoke user device => (s.registry[device]?).all fun active => active.userId ≠ user || s.between device active.connectionId
  | _ => true

theorem between_iff : s.between device id = true ↔
    ∃ j st, j ≠ id ∧ s.standing j = some st ∧ st.device = device ∧ st.stage.inWindow = true := by
  unfold between
  rw [List.any_eq_true]
  constructor
  · rintro ⟨⟨j,other⟩,listed,facts⟩
    simp only [Bool.and_eq_true,decide_eq_true_iff] at facts
    exact ⟨j,_,facts.1,standing_of (Table.mem_entries.mp listed),facts.2.1,facts.2.2⟩
  · rintro ⟨j,st,others,found,mine,window⟩
    obtain ⟨other,held,rfl⟩ := Option.map_eq_some_iff.mp found
    refine ⟨(j,other),Table.mem_entries.mpr held,?_⟩
    simp only [Bool.and_eq_true,decide_eq_true_iff]
    exact ⟨others,mine,window⟩

theorem arriving_iff : s.arriving device = true ↔
    ∃ j st, s.standing j = some st ∧ st.device = device ∧ st.stage = .arriving := by
  unfold arriving
  rw [List.any_eq_true]
  constructor
  · rintro ⟨⟨j,other⟩,listed,facts⟩
    simp only [Bool.and_eq_true,decide_eq_true_iff] at facts
    exact ⟨j,_,standing_of (Table.mem_entries.mp listed),facts.1,facts.2⟩
  · rintro ⟨j,st,found,mine,stage⟩
    obtain ⟨other,held,rfl⟩ := Option.map_eq_some_iff.mp found
    refine ⟨(j,other),Table.mem_entries.mpr held,?_⟩
    simp only [Bool.and_eq_true,decide_eq_true_iff]
    exact ⟨mine,stage⟩

-- A session on its way to a registration that is not rejected goes on.
theorem unrejected (found : s.sessions[id]? = some session) (stage : session.phase.stage = .arriving)
    {event : SessionEvent} (passed : s.rejects session event = false)
    (taken : Step env s (.session id now event) s') {st : Standing} (found' : s'.standing id = some st) :
    st.stage ≠ .returned := by
  rw [step_session found] at taken
  unfold ControlPlane.session at taken
  unfold rejects at passed
  have stays {plane : ControlPlane} {session' : ControlSession} (on : session'.phase.stage ≠ .returned)
      (here : (plane.setSession id session').standing id = some st) : st.stage ≠ .returned := by
    rw [standing_insert (s:=plane) rfl,if_pos rfl] at here
    cases here
    exact on
  cases here : session.phase with
  | registering =>
    rw [here] at taken passed
    cases event with
    | failed => cases passed
    | register payload =>
      simp only [Bool.or_eq_false_iff,Bool.not_eq_false'] at passed
      dsimp only at taken
      rw [passed.1] at taken
      cases checked : payload.manifest.validate with
      | error _ =>
        rw [checked] at passed
        cases passed.2
      | ok _ =>
        rw [checked] at taken
        cases taken
        refine stays ?_ found'
        dsimp only
        split <;> simp [Phase.stage]
    | _ => cases taken
  | applying manifest =>
    rw [here] at taken passed
    cases event with
    | stored t =>
      simp only [Bool.not_eq_false'] at passed
      dsimp only at taken
      rw [if_pos passed] at taken
      cases taken
      refine stays ?_ found'
      simp [Phase.stage]
    | _ => cases taken
  | joining manifest =>
    rw [here] at taken
    cases event with
    | done =>
      cases taken
      obtain ⟨pass,places⟩ := join_standing env s id session manifest
      rw [places,if_pos rfl] at found'
      cases found'
      exact Stage.noConfusion
    | _ => cases taken
  | _ =>
    rw [here] at stage
    cases stage

def Online (env : PlaneEnv) (s : ControlPlane) (device : Uuid) : Prop :=
  s.lastPresence (env.owner device) device = some true

def held (s : ControlPlane) (device : Uuid) : Prop := ∃ g : LiveGeneration, s.live[device]? = some g

-- The device is in some session's window.
def windowed (s : ControlPlane) (device : Uuid) : Prop :=
  ∃ j st, s.standing j = some st ∧ st.device = device ∧ st.stage.inWindow = true

-- Online is said of every device that a session is bringing up or that is
-- active, and of no other but while some session is in its window.
structure Announced (env : PlaneEnv) (s : ControlPlane) : Prop where
  arriving : ∀ j st, s.standing j = some st → st.stage = .arriving → Online env s st.device
  active : ∀ device, s.held device → Online env s device
  shown : ∀ device, Online env s device → s.held device ∨ s.windowed device

theorem held_iff : s.held device ↔ (s.registry[device]?).isSome = true := by
  unfold held live
  rw [ConnectionRegistry.live_get,← Option.isSome_map (f:=ActiveConnection.live)]
  exact Option.isSome_iff_exists.symm

theorem Announced.agrees (announced : Announced env s) : PresenceAgrees env s := by
  intro device quiet
  rw [← held_iff]
  refine ⟨fun online => ?_,announced.active device⟩
  rcases announced.shown device online with held | ⟨j,st,found,mine,window⟩
  · exact held
  · obtain ⟨session,here,rfl⟩ := Option.map_eq_some_iff.mp found
    have calm : session.phase.stage.inWindow = false := quiet j session here mine
    have window : session.phase.stage.inWindow = true := window
    rw [calm] at window
    cases window

theorem online_same (presences : s'.presences = s.presences) : Online env s' device ↔ Online env s device := by
  unfold Online lastPresence
  rw [presences]

theorem online_told {other : Uuid} {isOnline : Bool}
    (presences : s'.presences = s.presences ++ [(env.owner other,other,isOnline)]) :
    Online env s' device ↔ if other = device then isOnline = true else Online env s device := by
  unfold Online lastPresence
  rw [presences,List.filterMap_append]
  by_cases mine : other = device
  · subst mine
    simp
  · simp [mine]

-- Seen from a session that moves, the windows of the others stay.
theorem windowed_others {st' : Standing} (places : Places s s' id st')
    (others : ∃ j st, j ≠ id ∧ s.standing j = some st ∧ st.device = device ∧ st.stage.inWindow = true) :
    s'.windowed device := by
  obtain ⟨j,st,apart,found,mine,window⟩ := others
  exact ⟨j,st,by rw [places,if_neg (Ne.symm apart),found],mine,window⟩

theorem windowed_kept {st' : Standing} (places : Places s s' id st')
    (kept : ∀ st, s.standing id = some st → st.device = st'.device ∧ (st.stage.inWindow = true → st'.stage.inWindow = true))
    (before : s.windowed device) : s'.windowed device := by
  obtain ⟨j,st,found,mine,window⟩ := before
  by_cases same : id = j
  · subst same
    obtain ⟨place,stays⟩ := kept st found
    exact ⟨id,st',by rw [places,if_pos rfl],place.symm.trans mine,stays window⟩
  · exact ⟨j,st,by rw [places,if_neg same,found],mine,window⟩

-- The frame rule: one session moves, nothing is published, and only its own
-- device may come or go.
theorem Announced.update (announced : Announced env s) {st' : Standing} (places : Places s s' id st')
    (known : ∀ st, s.standing id = some st → st.device = st'.device) (presences : s'.presences = s.presences)
    (enters : st'.stage = .arriving → Online env s st'.device) (active : ∀ device, s'.held device → Online env s device)
    (others : ∀ device, device ≠ st'.device → s.held device → s'.held device)
    (mine : Online env s st'.device → s'.held st'.device ∨ s'.windowed st'.device) : Announced env s' := by
  refine ⟨fun j st found stage => ?_,fun device held => (online_same presences).mpr (active device held),
    fun device online => ?_⟩
  · rw [online_same presences]
    rw [places] at found
    split at found
    · cases found
      exact enters stage
    · exact announced.arriving j st found stage
  · rw [online_same presences] at online
    by_cases here : device = st'.device
    · subst here
      exact mine online
    · rcases announced.shown device online with held | ⟨j,st,found,place,window⟩
      · exact .inl (others device here held)
      · refine .inr (windowed_others places ⟨j,st,fun same => ?_,found,place,window⟩)
        subst same
        exact here (place.symm.trans (known st found))

-- A session that goes on in its stage, or leaves where it showed nothing.
theorem Announced.on (announced : Announced env s) {st st' : Standing} (found : s.standing id = some st)
    (places : Places s s' id st') (same : st'.device = st.device) (presences : s'.presences = s.presences)
    (held : ∀ device, s'.held device ↔ s.held device)
    (stage : st'.stage = st.stage ∨ st.stage.inWindow = false ∧ st'.stage.inWindow = false) : Announced env s' := by
  have known (other : Standing) (here : s.standing id = some other) : other.device = st'.device := by
    rw [found] at here
    cases here
    exact same.symm
  refine announced.update places known presences (fun arriving => ?_) (fun device active => ?_)
    (fun device _ => (held device).mpr) fun online => ?_
  · rcases stage with kept | ⟨_,calm⟩
    · rw [same]
      exact announced.arriving id st found (kept.symm.trans arriving)
    · rw [arriving] at calm
      cases calm
  · exact announced.active device ((held device).mp active)
  · rcases announced.shown _ online with active | window
    · exact .inl ((held _).mpr active)
    · refine .inr (windowed_kept places (fun other here => ⟨known other here,fun inside => ?_⟩) window)
      rw [found] at here
      cases here
      rcases stage with kept | ⟨calm,_⟩
      · rw [kept]
        exact inside
      · rw [calm] at inside
        cases inside

theorem held_live (live : s'.live = s.live) : s'.held device ↔ s.held device := by
  unfold held
  rw [live]

theorem held_insert {other : Uuid} {g : LiveGeneration} (live : s'.live = s.live.insert other g) :
    s'.held device ↔ other = device ∨ s.held device := by
  unfold held
  rw [live,Table.get_insert]
  split
  · rename_i same
    simp [same]
  · rename_i apart
    simp [apart]

theorem held_erase {other : Uuid} (live : s'.live = s.live.erase other) :
    s'.held device ↔ other ≠ device ∧ s.held device := by
  unfold held
  rw [live,Table.get_erase]
  split
  · rename_i same
    simp [same]
  · rename_i apart
    simp [apart]

-- What the condition says at the steps that end something.
theorem accounted_rejected {event : SessionEvent} (found : s.sessions[id]? = some session)
    (stage : session.phase.stage = .arriving) (met : s.accounted (.session id now event) = true)
    (rejected : s.rejects session event = true) : s.held session.deviceId ∨ s.between session.deviceId id = true := by
  simp only [accounted,found] at met
  split at met
  · rename_i here
    rw [here] at stage
    cases stage
  · rename_i here
    rw [here] at stage
    cases stage
  · rw [rejected] at met
    simpa [held_iff] using met

theorem accounted_unconfirmed (found : s.sessions[id]? = some session) (here : session.phase = .confirming)
    (met : s.accounted (.session id now .failed) = true) (owned : s.owns session.deviceId id) :
    s.between session.deviceId id = true := by
  simp only [accounted,found,here] at met
  have active := ConnectionRegistry.generation_owns.mpr owned
  rw [← Option.not_isSome] at met
  simpa [active] using met

theorem accounted_offline {event : SessionEvent} (found : s.sessions[id]? = some session)
    (here : session.phase = .retracting) (met : s.accounted (.session id now event) = true) :
    ¬ s.held session.deviceId ∧ s.arriving session.deviceId = false := by
  simp only [accounted,found,here,Bool.and_eq_true,Option.isNone_iff_eq_none,Bool.not_eq_true'] at met
  refine ⟨fun held => ?_,met.2⟩
  rw [held_iff,met.1] at held
  cases held

theorem accounted_revoked {user : Uuid} {g : LiveGeneration} (here : s.live[device]? = some g) (mine : g.userId = user)
    (met : s.accounted (.revoke user device) = true) : s.between device g.connectionId = true := by
  obtain ⟨active,there,rfl⟩ := live_some.mp here
  have mine : active.userId = user := mine
  simp only [accounted,there,Option.all_some,mine,ne_eq,not_true,decide_false,Bool.false_or] at met
  exact met

theorem between_windowed {st' : Standing} (places : Places s s' id st') (met : s.between device id = true) :
    s'.windowed device := by
  obtain ⟨j,st,apart,facts⟩ := between_iff.mp met
  exact windowed_others places ⟨j,st,apart,facts⟩

-- A device taken off while another session is in its window, which stays.
theorem Announced.taken (announced : Announced env s) {st' : Standing} (places : Places s s' id st')
    (known : ∀ st, s.standing id = some st → st.device = st'.device) (presences : s'.presences = s.presences)
    (live : s'.live = s.live.erase st'.device) (arriving : st'.stage ≠ .arriving) (window : s'.windowed st'.device) :
    Announced env s' := by
  refine announced.update places known presences (fun stage => absurd stage arriving) (fun device held => ?_)
    (fun device apart held => ?_) fun _ => .inr window
  · exact announced.active device ((held_erase live).mp held).2
  · exact (held_erase live).mpr ⟨Ne.symm apart,held⟩

-- One lemma for each kind of step.
theorem device_known {st st' : Standing} (found : s.standing id = some st) (same : st'.device = st.device)
    (other : Standing) (here : s.standing id = some other) : other.device = st'.device := by
  rw [found] at here
  cases here
  exact same.symm

theorem Announced.still (announced : Announced env s) (standing : ∀ j, s'.standing j = s.standing j)
    (live : s'.live = s.live) (presences : s'.presences = s.presences) : Announced env s' := by
  refine ⟨fun j st found stage => ?_,fun device held => ?_,fun device online => ?_⟩
  · exact (online_same presences).mpr (announced.arriving j st (standing j ▸ found) stage)
  · exact (online_same presences).mpr (announced.active device ((held_live live).mp held))
  · rcases announced.shown device ((online_same presences).mp online) with held | ⟨j,st,found,facts⟩
    · exact .inl ((held_live live).mpr held)
    · exact .inr ⟨j,st,by rw [standing,found],facts⟩

theorem Announced.connected (announced : Announced env s) {user : Uuid} (absent : s.standing id = none)
    (places : Places s s' id ⟨user,device,[],.waiting,none,none⟩) (live : s'.live = s.live)
    (presences : s'.presences = s.presences) : Announced env s' := by
  refine announced.update places (fun st found => ?_) presences (fun stage => ?_) (fun device held => ?_)
    (fun device _ held => (held_live live).mpr held) fun online => ?_
  · rw [absent] at found
    cases found
  · cases stage
  · exact announced.active device ((held_live live).mp held)
  · rcases announced.shown _ online with held | window
    · exact .inl ((held_live live).mpr held)
    · refine .inr (windowed_kept places (fun st found => ?_) window)
      rw [absent] at found
      cases found

-- Another device's place is as it was.
theorem Announced.shown_apart (announced : Announced env s) {st st' : Standing} (found : s.standing id = some st)
    (places : Places s s' id st') (live : s'.live = s.live) (apart : st.device ≠ device) (online : Online env s device) :
    s'.held device ∨ s'.windowed device := by
  rcases announced.shown device online with held | ⟨j,other,here,place,window⟩
  · exact .inl ((held_live live).mpr held)
  · refine .inr (windowed_others places ⟨j,other,fun same => ?_,here,place,window⟩)
    subst same
    rw [found] at here
    cases here
    exact apart place

theorem Announced.online (announced : Announced env s) {st : Standing} (found : s.standing id = some st)
    (places : Places s s' id {st with stage := .arriving}) (live : s'.live = s.live)
    (presences : s'.presences = s.presences ++ [(env.owner st.device,st.device,true)]) : Announced env s' := by
  refine ⟨fun j other here stage => ?_,fun device held => ?_,fun device online => ?_⟩
  · rw [online_told presences]
    split
    · rfl
    · rename_i apart
      rw [places] at here
      split at here
      · cases here
        exact absurd rfl apart
      · exact announced.arriving j other here stage
  · rw [online_told presences]
    split
    · rfl
    · exact announced.active device ((held_live live).mp held)
  · by_cases mine : st.device = device
    · exact .inr ⟨id,{st with stage := .arriving},by rw [places,if_pos rfl],mine,rfl⟩
    · rw [online_told presences,if_neg mine] at online
      exact announced.shown_apart found places live mine online

-- A session that gives up before it registered was refused, and somebody else
-- is there for its device.
theorem Announced.abandoned (announced : Announced env s) {event : SessionEvent} {st : Standing}
    (found : s.standing id = some st) (early : st.stage = .waiting ∨ st.stage = .arriving)
    (places : Places s s' id {st with stage := .returned, pass := none}) (live : s'.live = s.live)
    (presences : s'.presences = s.presences) (taken : Step env s (.session id now event) s')
    (met : s.accounted (.session id now event) = true) : Announced env s' := by
  rcases early with waiting | arriving
  · exact announced.on found places rfl presences (fun _ => held_live live) (.inr ⟨by rw [waiting]; rfl,rfl⟩)
  · obtain ⟨session,here,rfl⟩ := Option.map_eq_some_iff.mp found
    have rejected : s.rejects session event = true := by
      refine Bool.not_eq_false _ ▸ fun passed => ?_
      exact unrejected here arriving passed taken (by rw [places,if_pos rfl]) rfl
    refine announced.update places (device_known found rfl) presences (fun stage => by cases stage) (fun device held => ?_)
      (fun device _ held => (held_live live).mpr held) fun _ => ?_
    · exact announced.active device ((held_live live).mp held)
    · rcases accounted_rejected here arriving met rejected with held | others
      · exact .inl ((held_live live).mpr held)
      · exact .inr (between_windowed places others)

theorem Announced.joined (announced : Announced env s) {st st' : Standing} {g : LiveGeneration}
    (found : s.standing id = some st) (arriving : st.stage = .arriving) (places : Places s s' id st')
    (same : st'.device = st.device) (present : st'.stage = .present) (live : s'.live = s.live.insert st.device g)
    (presences : s'.presences = s.presences) : Announced env s' := by
  refine announced.update places (device_known found same) presences (fun stage => ?_) (fun device held => ?_)
    (fun device _ held => (held_insert live).mpr (.inr held)) fun _ => .inl ((held_insert live).mpr (.inl same.symm))
  · rw [present] at stage
    cases stage
  · rcases (held_insert live).mp held with mine | before
    · rw [← mine]
      exact announced.arriving _ _ found arriving
    · exact announced.active device before

theorem Announced.adopted (announced : Announced env s) {manifest : DeviceManifest} (found : s.sessions[id]? = some session)
    (places : Places s s' id (session.standing id))
    (live : s'.live = s.live ∧ ¬ s.owns session.deviceId id ∨ ∃ g : LiveGeneration, s.live[session.deviceId]? = some g ∧
      g.connectionId = id ∧ s'.live = s.live.insert session.deviceId {g with manifest := manifest})
    (presences : s'.presences = s.presences) : Announced env s' := by
  refine announced.on (standing_of found) places rfl presences (fun device => ?_) (.inl rfl)
  rcases live with ⟨same,_⟩ | ⟨g,there,_,updated⟩
  · exact held_live same
  · rw [held_insert updated]
    refine ⟨fun either => ?_,.inr⟩
    rcases either with mine | before
    · exact ⟨g,mine ▸ there⟩
    · exact before

theorem Announced.unconfirmed (announced : Announced env s) (found : s.sessions[id]? = some session)
    (phase : session.phase = .confirming) (places : Places s s' id {session.standing id with stage := .returned, pass := none})
    (live : s'.live = s.live ∧ ¬ s.owns session.deviceId id ∨
      s'.live = s.live.erase session.deviceId ∧ s.owns session.deviceId id)
    (presences : s'.presences = s.presences) (met : s.accounted (.session id now .failed) = true) : Announced env s' := by
  rcases live with ⟨same,_⟩ | ⟨gone,owned⟩
  · refine announced.on (standing_of found) places rfl presences (fun _ => held_live same) (.inr ⟨?_,rfl⟩)
    simp [ControlSession.standing,phase,Phase.stage,Stage.inWindow]
  · have others := accounted_unconfirmed found phase met owned
    exact announced.taken places (device_known (standing_of found) rfl) presences gone (fun stage => by cases stage)
      (between_windowed places others)

theorem Announced.offline (announced : Announced env s) {event : SessionEvent} (found : s.sessions[id]? = some session)
    (phase : session.phase = .retracting) (places : Places s s' id {session.standing id with stage := .returned, pass := none})
    (live : s'.live = s.live) (presences : s'.presences = s.presences ++ [(env.owner session.deviceId,session.deviceId,false)])
    (met : s.accounted (.session id now event) = true) : Announced env s' := by
  obtain ⟨unheld,calm⟩ := accounted_offline found phase met
  refine ⟨fun j other here stage => ?_,fun device held => ?_,fun device online => ?_⟩
  · rw [places] at here
    split at here
    · cases here
      cases stage
    · rw [online_told presences,if_neg fun mine => ?_]
      · exact announced.arriving j other here stage
      · rw [arriving_iff.mpr ⟨j,other,here,mine.symm,stage⟩] at calm
        cases calm
  · have held := (held_live live).mp held
    rw [online_told presences,if_neg fun mine => ?_]
    · exact announced.active device held
    · exact unheld (mine ▸ held)
  · rw [online_told presences] at online
    split at online
    · cases online
    · rename_i apart
      exact announced.shown_apart (standing_of found) places live apart online

theorem Announced.revoked (announced : Announced env s) {user : Uuid} {g : LiveGeneration} (here : s.live[device]? = some g)
    (mine : g.userId = user) (standing : ∀ j, s'.standing j = s.standing j) (live : s'.live = s.live.erase device)
    (presences : s'.presences = s.presences) (met : s.accounted (.revoke user device) = true) : Announced env s' := by
  obtain ⟨j,st,_,found,facts⟩ := between_iff.mp (accounted_revoked here mine met)
  refine ⟨fun j st found stage => ?_,fun device held => ?_,fun device' online => ?_⟩
  · exact (online_same presences).mpr (announced.arriving j st (standing j ▸ found) stage)
  · exact (online_same presences).mpr (announced.active device ((held_erase live).mp held).2)
  · by_cases same : device = device'
    · exact .inr ⟨j,st,by rw [standing,found],same ▸ facts⟩
    · rcases announced.shown device' ((online_same presences).mp online) with held | ⟨j,st,found,facts⟩
      · exact .inl ((held_erase live).mpr ⟨same,held⟩)
      · exact .inr ⟨j,st,by rw [standing,found],facts⟩

theorem announced_step (wired : Wired env s) (announced : Announced env s) (taken : Step env s action s')
    (met : s.accounted action = true) : Announced env s' := by
  cases step_turn taken with
  | still standing live presences => exact announced.still standing live presences
  | connected absent _ places live presences => exact announced.connected absent places live presences
  | moved pass found places live presences =>
    exact announced.on found places rfl presences (fun _ => held_live live) (.inl rfl)
  | @online id now event st found waiting places live presences =>
    rw [wired.owned id st found] at presences
    exact announced.online found places live presences
  | abandoned found early places live presences => exact announced.abandoned found early places live presences taken met
  | joined manifest pass found arriving places live presences =>
    exact announced.joined found arriving places rfl rfl live presences
  | adopted found phase places live presences => exact announced.adopted found places live presences
  | unconfirmed found phase places live presences => exact announced.unconfirmed found phase places live presences met
  | @unlisted id now session found phase places live presences =>
    refine announced.on (standing_of found) places rfl presences (fun _ => held_live live) (.inr ⟨?_,rfl⟩)
    simp [ControlSession.standing,phase,Phase.stage,Stage.inWindow]
  | @closed id now event st found _ _ places live presences =>
    exact announced.taken places (device_known found rfl) presences live (fun stage => by cases stage)
      ⟨id,_,by rw [places,if_pos rfl],rfl,rfl⟩
  | left found present _ places live presences =>
    exact announced.on found places rfl presences (fun _ => held_live live) (.inr ⟨by rw [present]; rfl,rfl⟩)
  | @offline id now event session found phase places live presences =>
    have owner : session.userId = env.owner session.deviceId := wired.owned id _ (standing_of found)
    rw [owner] at presences
    exact announced.offline found phase places live presences met
  | revoked here mine standing live presences => exact announced.revoked here mine standing live presences met

-- The published presence is the registry's in every quiet state of a run whose
-- steps all leave somebody to put it right.
theorem presence_agrees {origin : ControlPlane} {actions : List Action} (start : Initial origin)
    (path : Transition.Runs (Transition.Under (fun s a => s.accounted a = true) (Step env)) origin actions s) :
    PresenceAgrees env s := by
  have announced : Announced env origin := by
    refine ⟨fun j st found => ?_,fun device held => ?_,fun device online => ?_⟩
    · simp [standing,start.sessions] at found
    · rw [held_iff] at held
      simp [registry,start.registry] at held
    · simp [Online,lastPresence,presences,start.hub,LiveHub.empty] at online
  have both : Wired env s ∧ Announced env s := by
    refine path.invariant (fun s => Wired env s ∧ Announced env s) ⟨initial_wired start,announced⟩ ?_
    intro s action s' both taken
    exact ⟨wired_step both.1 taken.2,announced_step both.1 both.2 taken.2 taken.1⟩
  exact both.2.agrees

theorem presence_agrees_closed : ∃ s : ControlPlane, s.presences = [(1,10,true),(1,10,false)] ∧ PresenceAgrees volatile s := by
  obtain ⟨s,path,seen⟩ := Transition.guarded_reaches accounted (execute volatile) vacant
    (opening 100 10 speaker ++ List.replicate 3 (.session 100 0 .done) ++
      [.session 100 0 (.closed true),.session 100 0 .done,.route 0 calm,.session 100 0 .done,.session 100 0 .done])
    (fun s => s.presences = [(1,10,true),(1,10,false)]) (by decide)
  exact ⟨s,of_decide_eq_true seen,presence_agrees vacant_initial path⟩

-- A connection says hello and never registers: its device stays online.
theorem unregistered_online : ¬ ∀ env origin actions s, Initial origin → Runs env origin actions s →
    PresenceAgrees env s := by
  intro claimed
  obtain ⟨s,path,seen⟩ := Transition.run_reaches (execute volatile) vacant
    [.connect 100 1 10,.session 100 0 (.hello [1] true),.session 100 0 .failed]
    (fun s => s.lastPresence 1 10 = some true && (s.registry[(10 : Uuid)]?).isNone &&
      s.sessions.toList.all fun (_,session) => session.phase.stage = .returned) (by decide)
  simp only [Bool.and_eq_true,List.all_eq_true,decide_eq_true_iff] at seen
  have quiet : s.Quiet 10 := fun id session found _ => by
    rw [seen.2 (id,session) (Table.mem_entries.mpr found)]
    rfl
  have active := (claimed volatile _ _ s vacant_initial path 10 quiet).mp seen.1.1
  rw [Option.isNone_iff_eq_none.mp seen.1.2] at active
  cases active

end ControlPlane
end DeviceControl
