import RockServer.DirectoryFeed
import RockServer.FactTurns
import RockServer.PlaneRouter

namespace DeviceControl

-- A change of what the directory shows of the session's device whose event is
-- still to come. An accepted snapshot waits for its event as long as the hub
-- holds none that is as new.
def Phase.due (held : Option DeviceStateSnapshot) : Phase → Bool
  | .joining _ | .replacing _ _ | .announcing | .adopting _ | .declared | .publishing _ _ | .reporting _ _ | .retiring _
  | .retracting => true
  | .accepting snapshot answer => answer = .accepted && held.all fun held => held.stateRevision < snapshot.stateRevision
  | _ => false

def Phase.carried : Phase → Option DeviceStateSnapshot
  | .accepting snapshot _ | .publishing snapshot _ => some snapshot
  | _ => none

namespace ControlPlane

-- A connection that is lost while its registration is being confirmed leaves the
-- registry without an event.
def confirms (s : ControlPlane) : Action → Bool
  | .session id _ .failed => (s.sessions[id]?).all fun session => match session.phase with
    | .confirming => !(s.registry.disconnect session.deviceId id).2
    | _ => true
  | _ => true

def hubHeld (s : ControlPlane) (session : ControlSession) : Option DeviceStateSnapshot :=
  s.hub.deviceState session.userId ⟨session.deviceId⟩

-- What the directory reads of one device.
structure SameParts (s s' : ControlPlane) (device : Uuid) : Prop where
  owned : ∀ user, s'.router.store.owned user ⟨device⟩ = s.router.store.owned user ⟨device⟩
  manifest : s'.router.store.manifests.lookup ⟨device⟩ = s.router.store.manifests.lookup ⟨device⟩
  snapshot : s'.facts.snapshots[device]? = s.facts.snapshots[device]?
  entities : ∀ entity, s'.facts.entityStates[itemKey ⟨device⟩ entity]? = s.facts.entityStates[itemKey ⟨device⟩ entity]?
  holder : (s'.live[device]?).map LiveGeneration.userId = (s.live[device]?).map LiveGeneration.userId

-- One session goes on, still the same account's and the same device's.
structure Goes (s s' : ControlPlane) (id : Uuid) (session session' : ControlSession) : Prop where
  faces : Faces s s' id session'
  user : session'.userId = session.userId
  device : session'.deviceId = session.deviceId
  devices : s'.router.store.devices = s.router.store.devices

structure Unsent (s s' : ControlPlane) : Prop where
  state : s'.hub.state = s.hub.state
  feed : s'.hub.feed = s.hub.feed
  cursors : s'.hub.cursors = s.hub.cursors

structure Sent (s s' : ControlPlane) (session : ControlSession) (event : StateEvent) : Prop where
  feed : s'.hub.feed = s.hub.feed ++ [(session.userId,event)]
  cursors : s'.hub.cursors = s.hub.cursors.insert session.userId (s.hub.cursors[session.userId]?.getD 0 + 1)
  about : event.deviceId = session.deviceId

-- One step of a session as the directory meets it: what it changes of its own
-- device, and what it tells of it.
inductive Notice (s s' : ControlPlane) (id : Uuid) (session : ControlSession) : Prop where
  | calm {n} : Goes s s' id session n → Unsent s s' → (∀ device, SameParts s s' device) →
      s'.facts.snapshots = s.facts.snapshots →
      (session.phase.due (s.hubHeld session) = true → n.phase.due (s.hubHeld session) = true) →
      (∀ snapshot, n.phase.carried = some snapshot → session.phase.carried = some snapshot ∨
        ∃ row, s.facts.snapshots[session.deviceId]? = some row ∧ snapshot.stateRevision ≤ row.revision) →
      Notice s s' id session
  | changed {n} : Goes s s' id session n → Unsent s s' →
      (∀ device, session.deviceId ≠ device → SameParts s s' device) → s'.facts.snapshots = s.facts.snapshots →
      (∀ held, n.phase.due held = true) → n.phase.carried = none → Notice s s' id session
  | stored {session' snapshot row} : Goes s s' id session session' → Unsent s s' →
      (∀ device, session.deviceId ≠ device → SameParts s s' device) →
      s'.facts.snapshots = s.facts.snapshots.insert session.deviceId row → row.revision = snapshot.stateRevision →
      (∀ old, s.facts.snapshots[session.deviceId]? = some old → old.revision < snapshot.stateRevision) →
      session'.phase = .accepting snapshot .accepted ∨ session'.phase = .publishing snapshot .accepted →
      Notice s s' id session
  | told {n e} : Goes s s' id session n → Sent s s' session e → s'.hub.state = s.hub.state →
      (∀ device, SameParts s s' device) → s'.facts.snapshots = s.facts.snapshots → n.phase.carried = none →
      Notice s s' id session
  | published {n snapshot answer e} : session.phase = .publishing snapshot answer →
      Goes s s' id session n → Sent s s' session e →
      s'.hub.state = s.hub.state.insert (toLex (session.userId,session.deviceId)) snapshot →
      (∀ device, SameParts s s' device) → s'.facts.snapshots = s.facts.snapshots → n.phase.carried = none →
      Notice s s' id session

variable {env : PlaneEnv} {s s' : ControlPlane} {id j device user : Uuid} {session session' : ControlSession} {now : Instant}
  {event : SessionEvent} {action : Action}

theorem owned_same (devices : s'.router.store.devices = s.router.store.devices) (user device : Uuid) :
    s'.router.store.owned user ⟨device⟩ = s.router.store.owned user ⟨device⟩ := by
  unfold StoreState.owned
  rw [devices]

theorem SameParts.live (store : s'.router.store.devices = s.router.store.devices ∧
    s'.router.store.manifests = s.router.store.manifests) (facts : s'.facts = s.facts) (live : s'.live = s.live) :
    SameParts s s' device := by
  refine ⟨fun user => owned_same store.1 user device,?_,?_,fun entity => ?_,?_⟩
  · rw [store.2]
  · rw [facts]
  · rw [facts]
  · rw [live]

theorem active_holder : (Directory.activeFor s user device).isSome =
    ((s.live[device]?).map LiveGeneration.userId).any fun holder => holder = user := by
  unfold Directory.activeFor live
  rw [ConnectionRegistry.live_get,Option.map_map]
  cases s.registry[device]? with
  | none => rfl
  | some active =>
    rw [Option.map_some,Option.any_some,Option.filter_some]
    by_cases mine : active.userId = user <;> simp [mine,ActiveConnection.live]

theorem SameParts.view (same : SameParts s s' device) : Directory.view s' user device = Directory.view s user device := by
  have owned := same.owned user
  unfold Directory.view
  congr 1
  · unfold Directory.loadManifest StoreState.loadManifest
    rw [owned,same.manifest]
  · unfold Directory.loadDeviceState
    rw [owned,same.snapshot]
  · funext entity
    unfold Directory.loadEntityState ControlPlane.declaredEntities
    rw [owned,same.manifest,same.entities]
  · rw [active_holder,active_holder,same.holder]

theorem goes_insert (sessions : s'.sessions = s.sessions.insert id session')
    (same : session'.userId = session.userId ∧ session'.deviceId = session.deviceId)
    (devices : s'.router.store.devices = s.router.store.devices) : Goes s s' id session session' :=
  ⟨face_insert _ sessions,same.1,same.2,devices⟩

-- A step that only moves the session on, from where nothing was due.
theorem Notice.idle (sessions : s'.sessions = s.sessions.insert id session')
    (same : session'.userId = session.userId ∧ session'.deviceId = session.deviceId) (unsent : Unsent s s')
    (parts : ∀ device, SameParts s s' device) (snapshots : s'.facts.snapshots = s.facts.snapshots)
    (due : session.phase.due (s.hubHeld session) = false) (carried : session'.phase.carried = none)
    (devices : s'.router.store.devices = s.router.store.devices) : Notice s s' id session := by
  refine .calm (goes_insert sessions same devices) unsent parts snapshots (fun waits => ?_) fun snapshot carries => ?_
  · rw [due] at waits
    cases waits
  · rw [carried] at carries
    cases carries

theorem Notice.enter {phase : Phase} (due : session.phase.due (s.hubHeld session) = false) (carried : phase.carried = none) :
    Notice s (s.enter id session phase) id session :=
  .idle rfl ⟨rfl,rfl⟩ ⟨rfl,rfl,rfl⟩ (fun _ => .live ⟨rfl,rfl⟩ rfl rfl) rfl due carried rfl

theorem Notice.leave (due : session.phase.due (s.hubHeld session) = false) : Notice s (s.leave id session) id session :=
  .idle rfl ⟨rfl,rfl⟩ ⟨rfl,rfl,rfl⟩ (fun _ => .live ⟨rfl,rfl⟩ rfl leave_live) rfl due rfl rfl

theorem receive_notice (stocked : env.hasStore = true) (here : session.phase = .serving) (frame : DeviceControl.Frame) :
    Notice s (s.receive env id session now frame) id session := by
  have due : session.phase.due (s.hubHeld session) = false := by
    rw [here]
    rfl
  have entered {phase : Phase} (carried : phase.carried = none) : Notice s (s.enter id session phase) id session :=
    .enter due carried
  have resynced (reason : String) : Notice s (s.resync id session reason) id session :=
    .idle rfl ⟨rfl,rfl⟩ ⟨rfl,rfl,rfl⟩ (fun _ => .live ⟨rfl,rfl⟩ rfl rfl) rfl due rfl rfl
  have resyncedEntity : Notice s (s.resyncEntity id session) id session :=
    .idle rfl ⟨rfl,rfl⟩ ⟨rfl,rfl,rfl⟩ (fun _ => .live ⟨rfl,rfl⟩ rfl rfl) rfl due rfl rfl
  have asked (call : Call) : Notice s ((s.call call).enter id session (.calling s.router.tasks.length)) id session :=
    .idle rfl ⟨rfl,rfl⟩ ⟨rfl,rfl,rfl⟩ (fun _ => .live ⟨rfl,rfl⟩ rfl rfl) rfl due rfl rfl
  cases frame with
  | heartbeat acknowledged =>
    unfold receive
    dsimp only
    split
    · exact entered rfl
    · split
      · exact .idle rfl ⟨rfl,rfl⟩ ⟨rfl,rfl,rfl⟩ (fun _ => .live ⟨rfl,rfl⟩ rfl rfl) rfl due rfl rfl
      · exact .idle rfl ⟨rfl,rfl⟩ ⟨rfl,rfl,rfl⟩ (fun _ => .live ⟨rfl,rfl⟩ rfl rfl) rfl due (by cases acknowledged <;> rfl) rfl
  | manifest manifest =>
    unfold receive
    dsimp only
    split
    · exact entered rfl
    · exact entered (by rw [stocked]; rfl)
  | stateFull snapshot =>
    unfold receive
    dsimp only
    split
    · exact entered rfl
    · exact entered rfl
  | stateDelta delta =>
    unfold receive stateDelta
    dsimp only
    split
    · exact resynced _
    · split
      · exact resynced _
      · split
        · exact entered rfl
        · exact entered rfl
        · exact entered rfl
        · exact resynced _
        · exact resynced _
  | entityState report =>
    unfold receive entityState
    dsimp only
    split
    · exact entered rfl
    · split
      · exact entered rfl
      · exact entered rfl
      · exact entered rfl
      · exact resyncedEntity
      · exact resyncedEntity
  | command requestId command => exact asked _
  | accepted accepted => exact asked _
  | result result => exact asked _
  | ignored | malformed => exact entered rfl

theorem lookup_filter {manifests : List (DeviceId × DeviceManifest)} {device other : DeviceId} (apart : device ≠ other) :
    (manifests.filter fun entry => entry.1 ≠ device).lookup other = manifests.lookup other := by
  induction manifests with
  | nil => rfl
  | cons entry rest ih =>
    by_cases mine : entry.1 = device
    · rw [List.filter_cons_of_neg (by simpa using mine),ih,List.lookup_cons]
      have unlike : (other == entry.1) = false := by
        rw [mine]
        exact beq_false_of_ne (Ne.symm apart)
      rw [unlike]
    · rw [List.filter_cons_of_pos (by simpa using mine),List.lookup_cons,List.lookup_cons,ih]

theorem applyManifest_devices {store store' : StoreState} {t : Transaction} {user : Uuid} {device : DeviceId}
    {manifest : DeviceManifest} {answer : Except StoreError StoreOutcome}
    (ran : store.applyManifest t user device manifest = (answer,store')) : store'.devices = store.devices := by
  obtain ⟨manifests,same⟩ := applyManifest_manifests store t user device manifest
  have kept : (store.applyManifest t user device manifest).2.devices = store.devices := by rw [same]
  rwa [ran] at kept

-- A manifest replaces that of its device only.
theorem applyManifest_others {store store' : StoreState} {t : Transaction} {user : Uuid} {device o : DeviceId}
    {manifest : DeviceManifest} {answer : Except StoreError StoreOutcome}
    (ran : store.applyManifest t user device manifest = (answer,store')) (apart : device ≠ o) :
    store'.manifests.lookup o = store.manifests.lookup o := by
  unfold StoreState.applyManifest at ran
  split at ran
  · cases ran
    rfl
  · split at ran
    · cases ran
      rfl
    · split at ran
      · cases ran
        rfl
      · split at ran
        · cases ran
          rfl
        · split at ran
          · cases ran
            rfl
          · split at ran
            · cases ran
              rfl
            · cases ran
              have unlike : (o == device) = false := beq_false_of_ne (Ne.symm apart)
              rw [List.lookup_cons,unlike]
              exact lookup_filter apart

end ControlPlane

-- What the store makes of a snapshot: it takes one that is newer than its own.
inductive StoredState (facts : FactStore) (device : DeviceId) (snapshot : DeviceStateSnapshot) :
    Except StoreError StoreOutcome → FactStore → Prop where
  | accepted {row : StateRow} : row.revision = snapshot.stateRevision →
      (∀ old, facts.snapshots[device.uuid]? = some old → old.revision < snapshot.stateRevision) →
      StoredState facts device snapshot (.ok .accepted) {facts with snapshots := facts.snapshots.insert device.uuid row}
  | known {answer row} : answer ≠ .accepted → facts.snapshots[device.uuid]? = some row →
      snapshot.stateRevision ≤ row.revision → StoredState facts device snapshot (.ok answer) facts
  | refused {answer} : acceptedFullSnapshot answer = none → StoredState facts device snapshot answer facts

section stores
variable {readFloat : String → Option ℚ} {facts facts' : FactStore} {store : StoreState} {t : Transaction} {user : Uuid}
  {device other : DeviceId} {snapshot : DeviceStateSnapshot} {report : EntityReport} {answer : Except StoreError StoreOutcome}

theorem order_known {T : Type} [DecidableEq T] {held incoming : Nat} {old new : T} {base : Option Nat} {order : RevisionOrder}
    (found : revisionOrder held old incoming new base = order) (known : order ≠ .next ∧ order ≠ .gap) : ¬ held < incoming := by
  intro newer
  unfold revisionOrder at found
  rw [if_neg (by omega),if_neg (by omega)] at found
  split at found
  · exact known.2 found.symm
  · exact known.1 found.symm

theorem fullStateOutcome_order (row : StateRow) : match fullStateOutcome row snapshot with
    | none => row.revision < snapshot.stateRevision
    | some answer => answer ≠ .accepted ∧ snapshot.stateRevision ≤ row.revision := by
  unfold fullStateOutcome outcome revisionOrder
  by_cases older : snapshot.stateRevision < row.revision
  · simp only [if_pos older]
    exact ⟨by decide,by omega⟩
  · by_cases same : snapshot.stateRevision = row.revision
    · simp only [if_neg older,if_pos same]
      by_cases alike : row.payload.compared = snapshot.compared
      · simp only [if_pos alike]
        exact ⟨by decide,by omega⟩
      · simp only [if_neg alike]
        exact ⟨by decide,by omega⟩
    · simp only [if_neg older,if_neg same]
      by_cases gap : (none : Option Nat).any (fun base => decide (base ≠ row.revision)) = true ∨
          snapshot.stateRevision ≠ row.revision + 1
      · simp only [if_pos gap]
        omega
      · simp only [if_neg gap]
        omega

theorem stored_state (ran : facts.storeDeviceState store t user device snapshot = (answer,facts')) :
    StoredState facts device snapshot answer facts' := by
  unfold FactStore.storeDeviceState at ran
  split at ran
  · cases ran
    exact .refused rfl
  · split at ran
    · cases ran
      exact .refused rfl
    · split at ran
      · rename_i refused found
        cases ran
        obtain ⟨row,present,order⟩ := Option.bind_eq_some_iff.mp found
        have known := @fullStateOutcome_order snapshot row
        rw [order] at known
        exact .known known.1 present known.2
      · rename_i open_
        split at ran
        · cases ran
          exact .refused rfl
        · cases ran
          refine .accepted rfl fun old present => ?_
          have newer := @fullStateOutcome_order snapshot old
          rw [present,Option.bind_some] at open_
          rw [open_] at newer
          exact newer

-- An entity state replaces one of its device only, and only when accepted.
theorem stored_entity (ran : facts.storeEntityState readFloat store t user device report = (answer,facts')) :
    facts'.snapshots = facts.snapshots ∧ (answer ≠ .ok .accepted → facts' = facts) ∧
      ∀ entity, device ≠ o → facts'.entityStates[itemKey o entity]? = facts.entityStates[itemKey o entity]? := by
  have same {answer : Except StoreError StoreOutcome} {facts' : FactStore} (unchanged : facts' = facts) :
      facts'.snapshots = facts.snapshots ∧ (answer ≠ .ok .accepted → facts' = facts) ∧
        ∀ entity, device ≠ o → facts'.entityStates[itemKey o entity]? = facts.entityStates[itemKey o entity]? := by
    rw [unchanged]
    exact ⟨rfl,fun _ => rfl,fun _ _ => rfl⟩
  unfold FactStore.storeEntityState at ran
  split at ran
  · cases ran
    exact same rfl
  · split at ran
    · cases ran
      exact same rfl
    · split at ran
      · cases ran
        exact same rfl
      · split at ran
        · cases ran
          exact same rfl
        · split at ran
          · cases ran
            exact same rfl
          · split at ran
            · cases ran
              exact same rfl
            · cases ran
              refine ⟨rfl,fun refused => absurd rfl refused,fun entity apart => ?_⟩
              refine Table.get_insert_ne fun keys => apart ?_
              unfold itemKey at keys
              have uuids : device.uuid = o.uuid := congrArg (fun key => (ofLex key).1) keys
              cases device
              cases o
              exact congrArg DeviceId.mk uuids

end stores

namespace ControlPlane
variable {env : PlaneEnv} {s s' : ControlPlane} {id j device user : Uuid} {session session' : ControlSession} {now : Instant}
  {event : SessionEvent} {action : Action}

theorem state_notice {t : Transaction} {snapshot : DeviceStateSnapshot} {answer : Except StoreError StoreOutcome}
    {facts : FactStore} (calm : ∀ held, session.phase.due held = false)
    (ran : s.facts.storeDeviceState s.router.store t session.userId ⟨session.deviceId⟩ snapshot = (answer,facts))
    (same : session'.userId = session.userId ∧ session'.deviceId = session.deviceId)
    (refused : acceptedFullSnapshot answer = none → session'.phase.carried = none)
    (carried : ∀ other, session'.phase.carried = some other → other = snapshot)
    (accepted : answer = .ok .accepted →
      session'.phase = .accepting snapshot .accepted ∨ session'.phase = .publishing snapshot .accepted) :
    Notice s ({s with facts := facts}.setSession id session') id session := by
  have goes : Goes s ({s with facts := facts}.setSession id session') id session session' := goes_insert rfl same rfl
  cases stored_state ran with
  | @accepted row revision newer =>
    refine .stored goes ⟨rfl,rfl,rfl⟩ (fun device apart => ⟨fun _ => rfl,rfl,Table.get_insert_ne apart,fun _ => rfl,rfl⟩) rfl revision
      newer (accepted rfl)
  | known other present older =>
    refine .calm goes ⟨rfl,rfl,rfl⟩ (fun _ => .live ⟨rfl,rfl⟩ rfl rfl) rfl (fun waits => ?_) fun shown carries => .inr ?_
    · rw [calm] at waits
      cases waits
    · cases carried shown carries
      exact ⟨_,present,older⟩
  | refused rejected =>
    refine .idle rfl same ⟨rfl,rfl,rfl⟩ (fun _ => .live ⟨rfl,rfl⟩ rfl rfl) rfl (calm _) (refused rejected) rfl

-- A hub that does not take a snapshot has one that is as new.
theorem accept_notice {snapshot : DeviceStateSnapshot} {answer : StoreOutcome}
    (here : session.phase = .accepting snapshot answer) : Notice s (s.accept id session snapshot answer) id session := by
  have carries : session.phase.carried = some snapshot := by
    rw [here]
    rfl
  have refused {session' : ControlSession}
      (same : session'.userId = session.userId ∧ session'.deviceId = session.deviceId)
      (known : ∃ current, s.hubHeld session = some current ∧ snapshot.stateRevision ≤ current.stateRevision)
      (carried : session'.phase.carried = none) : Notice s (s.setSession id session') id session := by
    refine .idle rfl same ⟨rfl,rfl,rfl⟩ (fun _ => .live ⟨rfl,rfl⟩ rfl rfl) rfl ?_ carried rfl
    obtain ⟨current,found,newer⟩ := known
    rw [here,found]
    simp only [Phase.due,Option.all_some,Bool.and_eq_false_iff,decide_eq_false_iff_not]
    exact .inr (by omega)
  have taken {session' : ControlSession}
      (same : session'.userId = session.userId ∧ session'.deviceId = session.deviceId)
      (next : session'.phase = .publishing snapshot answer) : Notice s (s.setSession id session') id session := by
    refine .calm (goes_insert rfl same rfl) ⟨rfl,rfl,rfl⟩ (fun _ => .live ⟨rfl,rfl⟩ rfl rfl) rfl (fun _ => ?_) fun other carried => ?_
    · rw [next]
      rfl
    · rw [next] at carried
      cases carried
      exact .inl carries
  unfold accept
  cases found : s.hub.deviceState session.userId ⟨session.deviceId⟩ with
  | none => exact taken ⟨rfl,rfl⟩ rfl
  | some current =>
    dsimp only
    have order (older : ¬ current.stateRevision < snapshot.stateRevision) :
        ∃ current, s.hubHeld session = some current ∧ snapshot.stateRevision ≤ current.stateRevision :=
      ⟨current,found,by omega⟩
    split
    · exact taken ⟨rfl,rfl⟩ rfl
    · exact taken ⟨rfl,rfl⟩ rfl
    · rename_i replay
      exact refused ⟨rfl,rfl⟩ (order (order_known replay (by decide))) rfl
    · rename_i stale
      exact refused ⟨rfl,rfl⟩ (order (order_known stale (by decide))) rfl
    · rename_i conflict
      exact refused ⟨rfl,rfl⟩ (order (order_known conflict (by decide))) rfl

theorem SameParts.apart {o : Table Uuid LiveGeneration}
    (store : s'.router.store.devices = s.router.store.devices ∧ s'.router.store.manifests = s.router.store.manifests)
    (facts : s'.facts = s.facts) (live : s'.live = o)
    (same : o[device]? = s.live[device]?) : SameParts s s' device := by
  refine ⟨fun user => owned_same store.1 user device,?_,?_,fun entity => ?_,?_⟩
  · rw [store.2]
  · rw [facts]
  · rw [facts]
  · rw [live,same]

theorem join_notice (manifest : DeviceManifest) : Notice s (s.join env id session manifest) id session := by
  have live : (s.join env id session manifest).live = _ := join_live manifest
  have hub : (s.join env id session manifest).hub = s.hub := join_hub manifest
  have changed (phase : Phase) {s' : ControlPlane} (joined : s.join env id session manifest = s')
      (faces : Faces s s' id {s.joined session manifest with phase := phase})
      (store : s'.router.store = s.router.store) (facts : s'.facts = s.facts)
      (due : ∀ held, phase.due held = true) (carried : phase.carried = none) : Notice s s' id session := by
    rw [joined] at live hub
    refine .changed (n:={s.joined session manifest with phase := phase}) ⟨faces,rfl,rfl,congrArg _ store⟩
      ⟨congrArg (fun hub => hub.state) hub,congrArg LiveHub.feed hub,congrArg (fun hub => hub.cursors) hub⟩ (fun device apart => ?_) (congrArg _ facts) due carried
    exact .apart ⟨congrArg _ store,congrArg _ store⟩ facts live (Table.get_insert_ne apart)
  cases found : s.registry[session.deviceId]? with
  | none =>
    have joined : s.join env id session manifest = _ := join_first found
    rw [joined]
    exact changed .announcing joined (face_insert _ rfl) rfl rfl (fun _ => rfl) rfl
  | some previous =>
    let told := (s.registered id session manifest).notify previous.connectionId .replaced
    have joined : s.join env id session manifest = _ := join_again found
    obtain ⟨sessions,same⟩ := notify_rest (s:=s.registered id session manifest) previous.connectionId .replaced
    rw [joined]
    refine changed (.replacing s.router.tasks.length previous.connectionId) joined (fun j => ?_) ?_ ?_ (fun _ => rfl) rfl
    · refine (face_insert (s:=told) _ rfl j).trans ?_
      split
      · rfl
      · exact notify_face
    · rw [same]
      rfl
    · rw [same]
      rfl

theorem due_calm {phase : Phase} (here : session.phase = phase) (calm : phase.due (s.hubHeld session) = false) :
    session.phase.due (s.hubHeld session) = false := by
  rw [here]
  exact calm

-- What is still to be announced after the step was so before it.
theorem Notice.onward {next : Phase} (still : ∀ held, next.due held = true) (carried : next.carried = none) :
    Notice s (s.enter id session next) id session := by
  refine .calm (n:={session with phase := next}) (goes_insert rfl ⟨rfl,rfl⟩ rfl) ⟨rfl,rfl,rfl⟩
    (fun _ => .live ⟨rfl,rfl⟩ rfl rfl) rfl (fun _ => still _) fun other carries => ?_
  exact absurd (carried.symm.trans carries) (by simp)

-- An accepted manifest changes what is shown of its own device only.
theorem applied_notice {t : Transaction} {manifest : DeviceManifest} {next : Phase} (still : ∀ held, next.due held = true)
    (carried : next.carried = none) :
    Notice s ((s.setStore (s.router.store.applyManifest t session.userId ⟨session.deviceId⟩ manifest).2).enter id session
      next) id session := by
  have devices : (s.router.store.applyManifest t session.userId ⟨session.deviceId⟩ manifest).2.devices =
      s.router.store.devices := applyManifest_devices rfl
  refine .changed (n:={session with phase := next}) (goes_insert rfl ⟨rfl,rfl⟩ devices) ⟨rfl,rfl,rfl⟩
    (fun device apart => ?_) rfl still carried
  have kept := applyManifest_others (o:=⟨device⟩)
    (rfl : s.router.store.applyManifest t session.userId ⟨session.deviceId⟩ manifest = (_,_))
    fun same => apart (congrArg DeviceId.uuid same)
  exact ⟨fun user => owned_same devices user device,kept,rfl,fun _ => rfl,rfl⟩

section phases
variable {manifest : DeviceManifest} {snapshot : DeviceStateSnapshot} {report : EntityReport} {answer : StoreOutcome}
  {entities : List Entity} {task : Nat} {previous : Uuid} {reason : DisconnectReason}

theorem deliver_notice (here : session.phase = .serving) {sent : Bool} (taken : s.deliver id session sent = some s') :
    Notice s s' id session := by
  unfold deliver at taken
  split at taken
  · cases taken
    exact .enter (due_calm here rfl) (by cases sent <;> rfl)
  · rename_i active live
    split at taken
    · cases taken
    · cases taken
      exact .idle rfl ⟨rfl,rfl⟩ ⟨rfl,rfl,rfl⟩ (fun _ => .live ⟨rfl,rfl⟩ rfl (requeued_live live)) rfl (due_calm here rfl)
        (by cases sent <;> rfl) rfl

-- What a delta's answer lets through, a full snapshot's does.
theorem acceptedDelta_none {answer : Except StoreError StoreOutcome} (rejected : acceptedFullSnapshot answer = none) :
    acceptedDelta answer = none := by
  unfold acceptedFullSnapshot at rejected
  split at rejected
  · cases rejected
  · cases rejected
  · cases rejected
  · rename_i unaccepted unreplayed _
    unfold acceptedDelta
    split
    · exact absurd rfl unaccepted
    · exact absurd rfl unreplayed
    · rfl

theorem measured_parts {t : Transaction} {answer : Except StoreError StoreOutcome} {facts : FactStore}
    (ran : s.facts.storeEntityState env.readFloat s.router.store t session.userId ⟨session.deviceId⟩ report = (answer,facts))
    (apart : session.deviceId ≠ device) : SameParts s {s with facts := facts} device := by
  have kept := stored_entity (o:=⟨device⟩) ran
  refine ⟨fun _ => rfl,rfl,congrArg (fun rows : Table Uuid StateRow => rows[device]?) kept.1,fun entity => ?_,rfl⟩
  exact kept.2.2 entity fun same => apart (congrArg DeviceId.uuid same)

theorem measured_notice {t : Transaction} {answer : Except StoreError StoreOutcome} {facts : FactStore}
    (ran : s.facts.storeEntityState env.readFloat s.router.store t session.userId ⟨session.deviceId⟩ report = (answer,facts)) :
    Notice s ({s with facts := facts}.enter id session (.reporting report (s.declaredEntities session.deviceId))) id session := by
  refine .changed (n:={session with phase := .reporting report (s.declaredEntities session.deviceId)})
    (goes_insert rfl ⟨rfl,rfl⟩ rfl) ⟨rfl,rfl,rfl⟩ (fun device apart => ?_) (stored_entity (o:=⟨0⟩) ran).1 (fun _ => rfl) rfl
  have same := measured_parts ran apart
  exact ⟨same.owned,same.manifest,same.snapshot,same.entities,same.holder⟩

-- A report that the store does not take leaves the facts alone.
theorem unmeasured_notice {t : Transaction} {answer : Except StoreError StoreOutcome} {facts : FactStore}
    (here : session.phase = .measuring report)
    (ran : s.facts.storeEntityState env.readFloat s.router.store t session.userId ⟨session.deviceId⟩ report = (answer,facts))
    (refused : answer ≠ .ok .accepted)
    (same : session'.userId = session.userId ∧ session'.deviceId = session.deviceId)
    (carried : session'.phase.carried = none) : Notice s ({s with facts := facts}.setSession id session') id session := by
  rw [(stored_entity (o:=⟨0⟩) ran).2.1 refused]
  exact .idle rfl same ⟨rfl,rfl,rfl⟩ (fun _ => .live ⟨rfl,rfl⟩ rfl rfl) rfl (due_calm here rfl) carried rfl

-- What the directory meets of a phase's steps: one lemma for each phase that waits for
-- more than an answer.
variable (taken : s.session env id session now event = some s')
include taken

theorem notice_greeting (here : session.phase = .greeting) : Notice s s' id session := by
  unfold ControlPlane.session at taken
  rw [here] at taken
  cases event with
  | hello versions welcomed =>
    dsimp only at taken
    split at taken
    · cases taken
      exact .told (n:={session with phase := .registering}) (goes_insert rfl ⟨rfl,rfl⟩ rfl) ⟨rfl,rfl,rfl⟩ rfl
        (fun _ => .live ⟨rfl,rfl⟩ rfl rfl) rfl rfl
    · cases taken
      exact .leave (due_calm here rfl)
  | failed =>
    cases taken
    exact .leave (due_calm here rfl)
  | _ => cases taken

theorem notice_registering (here : session.phase = .registering) : Notice s s' id session := by
  unfold ControlPlane.session at taken
  rw [here] at taken
  cases event with
  | register payload =>
    dsimp only at taken
    split at taken
    · cases taken
      exact .leave (due_calm here rfl)
    · split at taken
      · cases taken
        exact .leave (due_calm here rfl)
      · cases taken
        exact .enter (due_calm here rfl) (by cases env.hasStore <;> rfl)
  | failed =>
    cases taken
    exact .leave (due_calm here rfl)
  | _ => cases taken

theorem notice_applying (here : session.phase = .applying manifest) : Notice s s' id session := by
  unfold ControlPlane.session at taken
  rw [here] at taken
  cases event with
  | stored t =>
    dsimp only at taken
    split at taken
    · cases taken
      exact applied_notice (fun _ => rfl) rfl
    · rename_i refused
      cases taken
      rw [unaccepted_store (by simpa using refused)]
      exact .leave (due_calm here rfl)
  | _ => cases taken

theorem notice_confirming (here : session.phase = .confirming) (found : s.sessions[id]? = some session)
    (confirmed : s.confirms (.session id now event) = true) : Notice s s' id session := by
  unfold ControlPlane.session at taken
  rw [here] at taken
  cases event with
  | done =>
    dsimp only at taken
    split at taken
    · cases taken
      exact .enter (due_calm here rfl) rfl
    · cases taken
      exact .idle rfl ⟨rfl,rfl⟩ ⟨rfl,rfl,rfl⟩ (fun _ => .live ⟨rfl,rfl⟩ rfl rfl) rfl (due_calm here rfl) rfl rfl
  | failed =>
    cases taken
    have kept : (s.registry.disconnect session.deviceId id).2 = false := by
      unfold confirms at confirmed
      dsimp only at confirmed
      rw [found,Option.all_some,here] at confirmed
      simpa using confirmed
    refine .idle rfl ⟨rfl,rfl⟩ ⟨rfl,rfl,rfl⟩ (fun _ => .live ⟨rfl,rfl⟩ rfl (leave_live.trans ?_)) rfl
      (due_calm here rfl) rfl rfl
    rcases @ConnectionRegistry.disconnect_live s.registry session.deviceId id with
      ⟨same,_⟩ | ⟨_,gone,_⟩
    · exact same
    · rw [kept] at gone
      cases gone
  | _ => cases taken

theorem notice_listing (here : session.phase = .listing) : Notice s s' id session := by
  unfold ControlPlane.session at taken
  rw [here] at taken
  cases event with
  | done =>
    cases taken
    exact .idle rfl ⟨rfl,rfl⟩ ⟨rfl,rfl,rfl⟩ (fun _ => .live ⟨rfl,rfl⟩ rfl rfl) rfl (due_calm here rfl) rfl rfl
  | failed =>
    cases taken
    exact .leave (due_calm here rfl)
  | _ => cases taken

theorem notice_serving (stocked : env.hasStore = true) (here : session.phase = .serving) : Notice s s' id session := by
  unfold ControlPlane.session at taken
  rw [here] at taken
  cases event with
  | shutdown =>
    cases taken
    exact .enter (due_calm here rfl) rfl
  | expired =>
    dsimp only at taken
    split at taken
    · cases taken
      exact .enter (due_calm here rfl) rfl
    · cases taken
  | replacement =>
    obtain ⟨reason,_,rfl⟩ := Option.map_eq_some_iff.mp taken
    exact .enter (due_calm here rfl) rfl
  | outbound sent => exact deliver_notice here taken
  | directory told =>
    dsimp only at taken
    split at taken
    · cases taken
      exact .enter (due_calm here rfl) (by cases told <;> rfl)
    · cases taken
  | frame frame =>
    cases taken
    exact receive_notice stocked here frame
  | closed graceful =>
    cases taken
    exact .enter (due_calm here rfl) rfl
  | _ => cases taken

theorem notice_declaring (here : session.phase = .declaring manifest) : Notice s s' id session := by
  unfold ControlPlane.session at taken
  rw [here] at taken
  cases event with
  | stored t =>
    dsimp only at taken
    obtain rfl := Option.some.inj taken
    cases accepted : acceptedManifest (s.router.store.applyManifest t session.userId ⟨session.deviceId⟩ manifest).1 with
    | true => exact applied_notice (fun _ => rfl) rfl
    | false =>
      rw [unaccepted_store accepted]
      exact .enter (due_calm here rfl) rfl
  | _ => cases taken

theorem notice_adopting (here : session.phase = .adopting manifest) : Notice s s' id session := by
  unfold ControlPlane.session at taken
  rw [here] at taken
  cases event with
  | done =>
    cases taken
    refine .calm (n:={session with manifest := manifest, phase := .declared}) (goes_insert rfl ⟨rfl,rfl⟩ rfl) ⟨rfl,rfl,rfl⟩
      (fun device => ⟨fun _ => rfl,rfl,rfl,fun _ => rfl,?_⟩) rfl (fun _ => rfl) (fun other carries => by cases carries)
    rcases @ConnectionRegistry.updateManifest_live s.registry session.deviceId id manifest with
      ⟨same,_⟩ | ⟨g,held,_,updated⟩
    · exact congrArg (fun live : Table Uuid LiveGeneration => (live[device]?).map LiveGeneration.userId) same
    · refine (congrArg (fun live : Table Uuid LiveGeneration => (live[device]?).map LiveGeneration.userId) updated).trans ?_
      rw [Table.get_insert]
      split
      · rename_i same
        have there : s.live[device]? = some g := same ▸ held
        rw [there]
        rfl
      · rfl
  | _ => cases taken

theorem notice_storing (here : session.phase = .storing snapshot) : Notice s s' id session := by
  have calm (held : Option DeviceStateSnapshot) : session.phase.due held = false := by
    rw [here]
    rfl
  unfold ControlPlane.session at taken
  rw [here] at taken
  cases event with
  | stored t =>
    dsimp only at taken
    split at taken
    · rename_i rejected
      cases taken
      refine state_notice calm Prod.mk.eta.symm ⟨rfl,rfl⟩ (fun _ => rfl) (fun _ carries => by cases carries) fun accepted => ?_
      rw [accepted] at rejected
      cases rejected
    · rename_i passed admitted
      cases taken
      refine state_notice calm Prod.mk.eta.symm ⟨rfl,rfl⟩ (fun rejected => ?_) (fun _ carries => by cases carries; rfl) fun accepted => ?_
      · rw [rejected] at admitted
        cases admitted
      · rw [accepted] at admitted
        cases admitted
        exact .inl rfl
  | _ => cases taken

theorem notice_merging (here : session.phase = .merging snapshot) : Notice s s' id session := by
  have calm (held : Option DeviceStateSnapshot) : session.phase.due held = false := by
    rw [here]
    rfl
  unfold ControlPlane.session at taken
  rw [here] at taken
  cases event with
  | stored t =>
    dsimp only at taken
    split at taken
    · rename_i rejected
      cases taken
      refine state_notice calm Prod.mk.eta.symm ⟨rfl,rfl⟩ (fun _ => rfl) (fun _ carries => by cases carries) fun accepted => ?_
      rw [accepted] at rejected
      cases rejected
    · rename_i passed admitted
      cases taken
      refine state_notice calm Prod.mk.eta.symm ⟨rfl,rfl⟩ (fun rejected => ?_) (fun _ carries => by cases carries; rfl) fun accepted => ?_
      · rw [acceptedDelta_none rejected] at admitted
        cases admitted
      · rw [accepted] at admitted
        cases admitted
        exact .inr rfl
  | _ => cases taken

theorem notice_measuring (here : session.phase = .measuring report) : Notice s s' id session := by
  unfold ControlPlane.session at taken
  rw [here] at taken
  cases event with
  | stored t =>
    dsimp only at taken
    split at taken
    · rename_i ran
      cases taken
      exact measured_notice ran
    · rename_i ran
      cases taken
      exact measured_notice ran
    · rename_i ran
      cases taken
      exact unmeasured_notice here ran (by simp) ⟨rfl,rfl⟩ rfl
    · rename_i unaccepted _ _ ran
      cases taken
      exact unmeasured_notice here ran (fun accepted => unaccepted accepted) ⟨rfl,rfl⟩ rfl
  | _ => cases taken

theorem notice_closing (here : session.phase = .closing reason) : Notice s s' id session := by
  unfold ControlPlane.session at taken
  rw [here] at taken
  cases event with
  | done =>
    dsimp only at taken
    split at taken
    · rename_i registry removed
      cases taken
      have gone := @ConnectionRegistry.disconnect_live s.registry session.deviceId id
      rw [removed] at gone
      rcases gone with ⟨_,kept,_⟩ | ⟨erased,_,_⟩
      · cases kept
      · refine .changed (n:={session with phase := .retiring s.router.tasks.length}) (goes_insert rfl ⟨rfl,rfl⟩ rfl)
          ⟨rfl,rfl,rfl⟩ (fun device apart => ?_) rfl (fun _ => rfl) rfl
        refine .apart (o:=s.live.erase session.deviceId) ⟨rfl,rfl⟩ rfl erased ?_
        rw [Table.get_erase,if_neg apart]
    · cases taken
      exact .leave (due_calm here rfl)
  | _ => cases taken

theorem session_notice (stocked : env.hasStore = true) (found : s.sessions[id]? = some session)
    (confirmed : s.confirms (.session id now event) = true) : Notice s s' id session := by
  have turn := taken
  unfold ControlPlane.session at turn
  cases here : session.phase with
  | greeting => exact notice_greeting taken here
  | registering => exact notice_registering taken here
  | applying manifest => exact notice_applying taken here
  | joining manifest =>
    rw [here] at turn
    cases event with
    | done =>
      cases turn
      exact join_notice manifest
    | _ => cases turn
  | replacing task previous =>
    rw [here] at turn
    cases event with
    | done =>
      dsimp only at turn
      split at turn
      · cases turn
        exact .onward (fun _ => rfl) rfl
      · cases turn
    | _ => cases turn
  | announcing =>
    rw [here] at turn
    cases event with
    | done =>
      cases turn
      exact .told (n:={session with phase := .confirming}) (goes_insert rfl ⟨rfl,rfl⟩ rfl) ⟨rfl,rfl,rfl⟩ rfl
        (fun _ => .live ⟨rfl,rfl⟩ rfl rfl) rfl rfl
    | _ => cases turn
  | confirming => exact notice_confirming taken here found confirmed
  | listing => exact notice_listing taken here
  | serving => exact notice_serving taken stocked here
  | declaring manifest => exact notice_declaring taken here
  | adopting manifest => exact notice_adopting taken here
  | declared =>
    rw [here] at turn
    cases event with
    | done =>
      cases turn
      exact .told (n:={session with phase := .serving}) (goes_insert rfl ⟨rfl,rfl⟩ rfl) ⟨rfl,rfl,rfl⟩ rfl
        (fun _ => .live ⟨rfl,rfl⟩ rfl rfl) rfl rfl
    | _ => cases turn
  | storing snapshot => exact notice_storing taken here
  | accepting snapshot answer =>
    rw [here] at turn
    cases event with
    | done =>
      cases turn
      exact accept_notice here
    | _ => cases turn
  | publishing snapshot answer =>
    rw [here] at turn
    cases event with
    | done =>
      cases turn
      exact .published (n:={session with phase := .serving}) (e:=.deviceState session.deviceId snapshot) here
        (goes_insert rfl ⟨rfl,rfl⟩ rfl) ⟨rfl,rfl,rfl⟩ rfl (fun _ => .live ⟨rfl,rfl⟩ rfl rfl) rfl rfl
    | _ => cases turn
  | merging snapshot => exact notice_merging taken here
  | measuring report => exact notice_measuring taken here
  | reporting report entities =>
    rw [here] at turn
    cases event with
    | done =>
      cases turn
      exact .told (n:={session with phase := .serving}) (e:=.entityState session.deviceId report)
        (goes_insert rfl ⟨rfl,rfl⟩ rfl) ⟨rfl,rfl,rfl⟩ rfl (fun _ => .live ⟨rfl,rfl⟩ rfl rfl) rfl rfl
    | _ => cases turn
  | calling task =>
    rw [here] at turn
    cases event with
    | done =>
      dsimp only at turn
      split at turn
      · cases turn
        exact .enter (due_calm here rfl) rfl
      · cases turn
    | _ => cases turn
  | closing reason => exact notice_closing taken here
  | retiring task =>
    rw [here] at turn
    cases event with
    | done =>
      dsimp only at turn
      split at turn
      · cases turn
        exact .onward (fun _ => rfl) rfl
      · cases turn
    | _ => cases turn
  | retracting =>
    rw [here] at turn
    cases event with
    | done =>
      cases turn
      exact .told (n:={session with phase := .returned}) (e:=.presence session.deviceId false)
        (goes_insert rfl ⟨rfl,rfl⟩ rfl) ⟨rfl,rfl,rfl⟩ rfl (fun _ => .live ⟨rfl,rfl⟩ rfl leave_live) rfl rfl
    | _ => cases turn
  | returned =>
    rw [here] at turn
    cases event <;> cases turn

end phases

-- One step of the plane as the directory meets it.
inductive PlaneNotice (env : PlaneEnv) (s s' : ControlPlane) : Prop where
  | session {own taking} : s.sessions[own]? = some taking → Notice s s' own taking → PlaneNotice env s s'
  | still : (∀ j other, s'.face j = some other → s.face j = some other ∨ other.phase = .greeting) →
      (∀ j other, s.face j = some other → s'.face j = some other) → s'.hub = s.hub → s'.facts = s.facts →
      (∀ device, s'.router.store.owned (env.owner device) ⟨device⟩ = false ∨ SameParts s s' device) → PlaneNotice env s s'

theorem PlaneNotice.same (faces : ∀ j, s'.face j = s.face j) (hub : s'.hub = s.hub) (facts : s'.facts = s.facts)
    (parts : ∀ device, s'.router.store.owned (env.owner device) ⟨device⟩ = false ∨ SameParts s s' device) :
    PlaneNotice env s s' :=
  .still (fun j _ found => .inl (faces j ▸ found)) (fun j _ found => (faces j).trans found) hub facts parts

theorem disowned_parts (gone : DeviceId) (device : Uuid) :
    (({s.router.store with devices := s.router.store.devices.filter fun entry => entry.1 ≠ gone}).owned
      (env.owner device) ⟨device⟩ = false) ∨
    SameParts s (s.setStore {s.router.store with devices := s.router.store.devices.filter fun entry => entry.1 ≠ gone})
      device := by
  by_cases mine : (⟨device⟩ : DeviceId) = gone
  · refine .inl ?_
    unfold StoreState.owned
    rw [Bool.eq_false_iff,ne_eq,List.contains_iff_mem]
    exact fun listed => (of_decide_eq_true (List.mem_filter.mp listed).2) mine
  · refine .inr ⟨fun user => ?_,rfl,rfl,fun _ => rfl,rfl⟩
    unfold StoreState.owned
    rw [Bool.eq_iff_iff,List.contains_iff_mem,List.contains_iff_mem]
    exact ⟨fun listed => (List.mem_filter.mp listed).1,fun listed => List.mem_filter.mpr ⟨listed,decide_eq_true mine⟩⟩

theorem plane_notice (stocked : env.hasStore = true) (wired : Wired env s) (confirmed : s.confirms action = true)
    (taken : Step env s action s') : PlaneNotice env s s' := by
  cases action with
  | connect id user device =>
    unfold Step Transition.Executes at taken
    rw [execute] at taken
    split at taken
    · rename_i fresh
      cases taken
      simp only [Bool.and_eq_true,Option.isNone_iff_eq_none] at fresh
      have absent : s.face id = none := by
        unfold face
        rw [fresh.1]
        rfl
      have faces : Faces s (s.setSession id (.fresh user device)) id (.fresh user device) := face_insert _ rfl
      refine .still (fun j session found => ?_) (fun j session found => ?_) rfl rfl fun device => .inr (.live ⟨rfl,rfl⟩ rfl rfl)
      · rw [faces] at found
        split at found
        · cases found
          exact .inr rfl
        · exact .inl found
      · rw [faces]
        split
        · rename_i same
          rw [← same,absent] at found
          cases found
        · exact found
    · cases taken
  | session id now event =>
    obtain ⟨session,found,ran⟩ := Option.bind_eq_some_iff.mp taken
    exact .session found (session_notice ran stocked found confirmed)
  | route i o =>
    obtain ⟨task,after,next,spawned,_,ran,rfl⟩ := route_cases taken
    have live : after.registry.live = s.registry.live := advance_live ran
    have store := advance_declared ran
    exact .same (fun _ => rfl) rfl rfl fun device => .inr (.live store rfl live)
  | submit call =>
    cases taken
    exact .same (fun _ => rfl) rfl rfl fun device => .inr (.live ⟨rfl,rfl⟩ rfl rfl)
  | disown device =>
    cases taken
    exact .same (fun _ => rfl) rfl rfl fun other => disowned_parts device other
  | revoke user device =>
    unfold Step Transition.Executes at taken
    rw [execute] at taken
    split at taken
    · cases taken
    · rename_i lost
      cases taken
      rcases revoke_cases (s:=s) user device with ⟨same,_⟩ | ⟨g,held,mine,changed⟩
      · rw [same]
        exact .same (fun _ => rfl) rfl rfl fun device => .inr (.live ⟨rfl,rfl⟩ rfl rfl)
      · rw [changed]
        refine .same (fun _ => notify_face) (notify_hub _ _) ?_ fun other => ?_
        · obtain ⟨sessions,same⟩ := notify_rest (s:=s.setRegistry (s.registry.erase device)) g.connectionId .revoked
          rw [same]
          rfl
        · obtain ⟨sessions,same⟩ := notify_rest (s:=s.setRegistry (s.registry.erase device)) g.connectionId .revoked
          rw [same]
          by_cases here : device = other
          · obtain ⟨st,standing,holds⟩ := wired.entered device g held
            have owner : user = env.owner device := by
              rw [← mine,← holds.user,wired.owned _ st standing,holds.device]
            rw [← here,← owner]
            exact .inl (Bool.eq_false_iff.mpr lost)
          · refine .inr (.apart (o:=s.live.erase device) ⟨rfl,rfl⟩ rfl ConnectionRegistry.live_erase ?_)
            rw [Table.get_erase,if_neg here]
  | prune now limit =>
    cases taken
    exact .same (fun _ => rfl) rfl rfl fun device => .inr (.live ⟨rfl,rfl⟩ rfl rfl)

end ControlPlane
end DeviceControl
