import RockServer.StateHub

namespace DeviceControl
open Transition (Under Executes run_reaches guarded_reaches)

-- The process's latest states against the stored snapshots, over all runs of
-- sessions and restarts. A row tells the state that the hub holds.
structure StateRow.Tells (row : StateRow) (held : DeviceStateSnapshot) : Prop where
  revision : row.revision = held.stateRevision
  payload : row.payload.stateRevision = held.stateRevision
  state : row.payload.state = held.state

namespace ControlState

structure Agrees (s : ControlState) : Prop where
  onward : ∀ user device held, s.hub.deviceState user device = some held →
    ∀ entry ∈ s.hub.published, entry.user = user → entry.device = device →
      entry.snapshot.stateRevision ≤ held.stateRevision
  stored : ∀ user device held, s.hub.deviceState user device = some held →
    ∃ row, s.snapshots[device.uuid]? = some row ∧ row.Tells held
  admitted : ∀ entry ∈ s.hub.published, entry.answer ≠ .stale ∧ entry.answer ≠ .conflict

-- A full snapshot that finds the hub without a state is not older than the
-- stored one.
def calm (owner : DeviceId → Uuid) (s : ControlState) : Action → Bool
  | .message device (.stateFull snapshot) (some _) =>
    match s.sessions[device.uuid]?,s.snapshots[device.uuid]? with
    | some session,some row =>
      !(validSnapshot snapshot && s.owned owner session.user device && (s.hub.deviceState session.user device).isNone)
        || row.revision ≤ snapshot.stateRevision
    | _,_ => true
  | _ => true

structure Synced (owner : DeviceId → Uuid) (snapshots : Table Uuid StateRow) (hub : StateHub) : Prop where
  told : ∀ user device held, hub.deviceState user device = some held →
    user = owner device ∧ ∃ row, snapshots[device.uuid]? = some row ∧ row.Tells held
  held : ∀ entry ∈ hub.published, ∃ held, hub.deviceState entry.user entry.device = some held ∧
    entry.snapshot.stateRevision ≤ held.stateRevision
  admitted : ∀ entry ∈ hub.published, entry.answer ≠ .stale ∧ entry.answer ≠ .conflict

structure Steady (owner : DeviceId → Uuid) (s : ControlState) : Prop where
  rows : ∀ (id : Uuid) (row : StateRow), s.snapshots[id]? = some row → row.payload.stateRevision = row.revision
  sessions : ∀ (id : Uuid) (session : Session), s.sessions[id]? = some session → session.user = owner ⟨id⟩
  synced : Synced owner s.snapshots s.hub

structure Initial (s : ControlState) : Prop where
  rows : ∀ (id : Uuid) (row : StateRow), s.snapshots[id]? = some row → row.payload.stateRevision = row.revision
  sessions : s.sessions = ∅
  hub : s.hub = .empty

variable {owner : DeviceId → Uuid} {s s' : ControlState} {snapshots snapshots' : Table Uuid StateRow} {hub : StateHub}
  {device : DeviceId} {snapshot : DeviceStateSnapshot} {answer : StoreOutcome}

theorem synced_empty : Synced owner snapshots .empty := by
  refine ⟨?_,?_,?_⟩
  · intro user device held found
    simp [StateHub.deviceState,StateHub.empty] at found
  · intro entry listed
    cases listed
  · intro entry listed
    cases listed

theorem Initial.steady (initial : Initial s) : Steady owner s := by
  refine ⟨initial.rows,?_,?_⟩
  · intro id session found
    simp [initial.sessions] at found
  · rw [initial.hub]
    exact synced_empty

theorem Steady.agrees (steady : Steady owner s) : Agrees s := by
  refine ⟨?_,?_,steady.synced.admitted⟩
  · rintro user device held found entry listed rfl rfl
    obtain ⟨now,present,bound⟩ := steady.synced.held entry listed
    cases Option.some.inj (found.symm.trans present)
    exact bound
  · intro user device held found
    obtain ⟨_,row,stored,tells⟩ := steady.synced.told user device held found
    exact ⟨row,stored,tells⟩

theorem deviceState_publish (hub : StateHub) (user other : Uuid) (device device' : DeviceId) :
    (hub.publishDeviceState user device snapshot answer).deviceState other device' =
      if user = other ∧ device = device' then some snapshot else hub.deviceState other device' := by
  obtain ⟨id⟩ := device
  obtain ⟨id'⟩ := device'
  simp only [StateHub.deviceState,StateHub.publishDeviceState,Table.get_insert,EmbeddingLike.apply_eq_iff_eq,
    Prod.mk.injEq,DeviceId.mk.injEq]

-- Publishing what the row of the device now tells.
theorem synced_publish (synced : Synced owner snapshots hub) {row : StateRow}
    (present : snapshots'[device.uuid]? = some row) (tells : row.Tells snapshot)
    (others : ∀ id, device.uuid ≠ id → snapshots'[id]? = snapshots[id]?)
    (onward : ∀ held, hub.deviceState (owner device) device = some held → held.stateRevision ≤ snapshot.stateRevision)
    (admitted : answer ≠ .stale ∧ answer ≠ .conflict) :
    Synced owner snapshots' (hub.publishDeviceState (owner device) device snapshot answer) := by
  refine ⟨?_,?_,?_⟩
  · intro user device' held found
    rw [deviceState_publish] at found
    split at found
    · rename_i same
      obtain ⟨rfl,rfl⟩ := same
      cases found
      exact ⟨rfl,row,present,tells⟩
    · rename_i other
      obtain ⟨rfl,row',stored,tells'⟩ := synced.told user device' held found
      refine ⟨rfl,row',?_,tells'⟩
      rw [others device'.uuid (fun same => other (by
        obtain ⟨id⟩ := device
        obtain ⟨id'⟩ := device'
        cases same
        exact ⟨rfl,rfl⟩))]
      exact stored
  · intro entry listed
    rcases List.mem_append.mp listed with earlier | new
    · obtain ⟨held,found,bound⟩ := synced.held entry earlier
      rw [deviceState_publish]
      split
      · rename_i same
        refine ⟨snapshot,rfl,Nat.le_trans bound (onward held ?_)⟩
        rw [same.1,same.2]
        exact found
      · exact ⟨held,found,bound⟩
    · rw [List.mem_singleton] at new
      subst new
      refine ⟨snapshot,?_,Nat.le_refl _⟩
      rw [deviceState_publish,if_pos ⟨rfl,rfl⟩]
  · intro entry listed
    rcases List.mem_append.mp listed with earlier | new
    · exact synced.admitted entry earlier
    · rw [List.mem_singleton] at new
      subst new
      exact admitted

-- How the store's answer relates the snapshot to the stored row.
inductive Stored (owner : DeviceId → Uuid) (s : ControlState) (user : Uuid) (device : DeviceId)
    (snapshot : DeviceStateSnapshot) (now : Option Timestamp) :
    Except StoreError StoreOutcome → ControlState → Prop where
  | accepted (receivedAt : Timestamp)
      (newer : ∀ row, s.snapshots[device.uuid]? = some row → row.revision < snapshot.stateRevision) :
      Stored owner s user device snapshot now (.ok .accepted) {s with
        snapshots := s.snapshots.insert device.uuid ⟨snapshot.stateRevision,{snapshot with receivedAt := some receivedAt}⟩}
  | replay (row : StateRow) (present : s.snapshots[device.uuid]? = some row)
      (revision : row.revision = snapshot.stateRevision) (state : row.payload.state = snapshot.state) :
      Stored owner s user device snapshot now (.ok .replay) s
  | stale (row : StateRow) (present : s.snapshots[device.uuid]? = some row) (older : snapshot.stateRevision < row.revision)
      (owns : s.owned owner user device = true) (reached : now.isSome = true) :
      Stored owner s user device snapshot now (.ok .stale) s
  | refused (answer : Except StoreError StoreOutcome) (full : acceptedFullSnapshot answer = none) :
      Stored owner s user device snapshot now answer s

theorem upsert_cases {user : Uuid} {now : Option Timestamp} {receivedAt : Timestamp}
    (newer : ∀ row, s.snapshots[device.uuid]? = some row → row.revision < snapshot.stateRevision) :
    Stored owner s user device snapshot now (s.upsertSnapshot device snapshot receivedAt).1
      (s.upsertSnapshot device snapshot receivedAt).2 := by
  unfold upsertSnapshot
  split
  · exact .refused _ rfl
  · exact .accepted receivedAt newer

theorem store_cases (s : ControlState) (user : Uuid) (device : DeviceId) (snapshot : DeviceStateSnapshot)
    (now : Option Timestamp) :
    Stored owner s user device snapshot now (s.storeDeviceState owner user device snapshot now).1
      (s.storeDeviceState owner user device snapshot now).2 := by
  unfold storeDeviceState
  cases now with
  | none => exact .refused _ rfl
  | some now =>
    dsimp only
    split
    · exact .refused _ rfl
    · rename_i owns
      cases found : s.snapshots[device.uuid]? with
      | none =>
        refine upsert_cases fun row present => ?_
        rw [found] at present
        cases present
      | some row =>
        have newer : row.revision < snapshot.stateRevision → ∀ other, s.snapshots[device.uuid]? = some other →
            other.revision < snapshot.stateRevision := by
          intro later other present
          rw [found] at present
          cases present
          exact later
        have order := @outcome_cases _ _ row.revision snapshot.stateRevision row.payload.compared snapshot.compared
        rw [Option.bind_some,fullStateOutcome]
        rcases order with ⟨answer,successor⟩ | ⟨answer,older⟩ | ⟨answer,same,equal⟩ | ⟨answer,same,differs⟩ | ⟨answer,far⟩
        · rw [answer]
          exact upsert_cases (newer (by omega))
        · rw [answer]
          exact .stale row found older (by simpa using owns) rfl
        · rw [answer]
          exact .replay row found same.symm (congrArg (fun pair => pair.2.2) equal)
        · rw [answer]
          exact .refused _ rfl
        · rw [answer]
          exact upsert_cases (newer (by omega))

section step
variable {session : Session} {now : Option Timestamp}

-- A stored or replayed snapshot is what the row tells afterwards.
theorem synced_stored (steady : Steady owner s) (fed : session.user = owner device)
    (stored : Stored owner s session.user device snapshot now (.ok answer) s')
    (admitted : answer ≠ .stale ∧ answer ≠ .conflict) (full : acceptedFullSnapshot (.ok answer) ≠ none)
    (onward : ∀ held, s.hub.deviceState session.user device = some held → held.stateRevision ≤ snapshot.stateRevision) :
    Synced owner s'.snapshots (s'.hub.publishDeviceState session.user device snapshot answer) := by
  rw [fed] at onward ⊢
  cases stored with
  | accepted receivedAt newer =>
    refine synced_publish steady.synced (Table.get_insert.trans (if_pos rfl)) ⟨rfl,rfl,rfl⟩ ?_ onward admitted
    exact fun id other => Table.get_insert_ne other
  | replay row present revision state =>
    have tells : row.Tells snapshot := ⟨revision,(steady.rows _ row present).trans revision,state⟩
    exact synced_publish steady.synced present tells (fun _ _ => rfl) onward admitted
  | stale => exact absurd rfl admitted.1
  | refused answer none_ => exact absurd none_ full

theorem steady_needs (steady : Steady owner s) (fed : session.user = owner device) (needs : Bool) :
    Steady owner (s.setNeeds device session needs) := by
  refine ⟨steady.rows,?_,steady.synced⟩
  intro id other found
  change (s.sessions.insert device.uuid {session with needsFullState := needs})[id]? = some other at found
  rw [Table.get_insert] at found
  split at found
  · rename_i same
    cases found
    subst same
    exact fed
  · exact steady.sessions id other found

theorem steady_close (steady : Steady owner s) : Steady owner (s.close device) := by
  refine ⟨steady.rows,?_,steady.synced⟩
  intro id session found
  exact steady.sessions id session (Table.get_erase_some found).2

theorem stored_rows (steady : Steady owner s) {outcome : Except StoreError StoreOutcome}
    (stored : Stored owner s session.user device snapshot now outcome s') (id : Uuid) (row : StateRow)
    (found : s'.snapshots[id]? = some row) : row.payload.stateRevision = row.revision := by
  cases stored with
  | accepted receivedAt newer =>
    dsimp only at found
    rw [Table.get_insert] at found
    split at found
    · cases found
      rfl
    · exact steady.rows id row found
  | replay | stale | refused => exact steady.rows id row found

theorem stored_sessions {outcome : Except StoreError StoreOutcome}
    (stored : Stored owner s session.user device snapshot now outcome s') : s'.sessions = s.sessions ∧ s'.hub = s.hub := by
  cases stored <;> exact ⟨rfl,rfl⟩

theorem stored_unaccepted {outcome : Except StoreError StoreOutcome} (other : outcome ≠ .ok .accepted)
    (stored : Stored owner s session.user device snapshot now outcome s') : s' = s := by
  cases stored with
  | accepted => exact absurd rfl other
  | replay | stale | refused => rfl

theorem acceptSnapshot_cases (hub : StateHub) (user : Uuid) (device : DeviceId) (snapshot : DeviceStateSnapshot)
    (answer : StoreOutcome) :
    (hub.acceptSnapshot user device snapshot answer).2 = hub ∧
      (∃ held, hub.deviceState user device = some held ∧ snapshot.stateRevision ≤ held.stateRevision) ∨
    (hub.acceptSnapshot user device snapshot answer).2 = hub.publishDeviceState user device snapshot answer ∧
      ∀ held, hub.deviceState user device = some held → held.stateRevision < snapshot.stateRevision := by
  unfold StateHub.acceptSnapshot
  cases found : hub.deviceState user device with
  | none => exact .inr ⟨rfl,fun held present => nomatch present⟩
  | some held =>
    have newer : held.stateRevision < snapshot.stateRevision →
        ∀ other, some held = some other → other.stateRevision < snapshot.stateRevision := by
      rintro later other ⟨⟩
      exact later
    dsimp only
    cases order : revisionOrder held.stateRevision held.state snapshot.stateRevision snapshot.state none with
    | next =>
      have successor := (order_next.mp order).1
      exact .inr ⟨rfl,newer (by omega)⟩
    | gap => exact .inr ⟨rfl,newer (order_gap order)⟩
    | stale =>
      have older := order_stale.mp order
      exact .inl ⟨rfl,held,rfl,by omega⟩
    | replay => exact .inl ⟨rfl,held,rfl,Nat.le_of_eq (order_replay.mp order).1⟩
    | conflict => exact .inl ⟨rfl,held,rfl,Nat.le_of_eq (order_conflict.mp order).1⟩

-- On a calm message a stale answer comes with a newer state in the hub.
theorem calm_stale (steady : Steady owner s) (present : s.sessions[device.uuid]? = some session)
    (quiet : calm owner s (.message device (.stateFull snapshot) now) = true) (valid : validSnapshot snapshot = true)
    (stored : Stored owner s session.user device snapshot now (.ok .stale) s') :
    ∃ held, s.hub.deviceState session.user device = some held ∧ snapshot.stateRevision < held.stateRevision := by
  cases stored with
  | refused _ full => cases full
  | stale row found older owns reached =>
    obtain ⟨receivedAt,rfl⟩ := Option.isSome_iff_exists.mp reached
    cases known : s.hub.deviceState session.user device with
    | none =>
      simp only [calm,present,found,valid,owns,known,Option.isNone_none,Bool.and_self,Bool.not_true,Bool.false_or,
        decide_eq_true_eq] at quiet
      omega
    | some held =>
      obtain ⟨_,row',found',tells⟩ := steady.synced.told _ _ held known
      cases Option.some.inj (found.symm.trans found')
      exact ⟨held,rfl,tells.revision ▸ older⟩

theorem steady_full (steady : Steady owner s) (fed : session.user = owner device)
    (present : s.sessions[device.uuid]? = some session)
    (quiet : calm owner s (.message device (.stateFull snapshot) now) = true) :
    Steady owner (s.stateFull owner device session snapshot now) := by
  unfold stateFull
  split
  · exact steady_close steady
  rename_i invalid
  have valid : validSnapshot snapshot = true := by simpa using invalid
  have stored := @store_cases owner s session.user device snapshot now
  split
  rename_i answer after same
  rw [same] at stored
  dsimp only at stored
  split
  · rename_i full
    rw [stored_unaccepted (by rintro rfl; cases full) stored]
    exact steady_needs steady fed true
  rename_i kind full
  have answered : answer = .ok kind := by
    unfold acceptedFullSnapshot at full
    split at full
    all_goals cases full
    all_goals rfl
  subst answered
  obtain ⟨sessions,unheard⟩ := stored_sessions stored
  have synced : Synced owner after.snapshots (after.hub.acceptSnapshot session.user device snapshot kind).2 := by
    rw [unheard]
    rcases acceptSnapshot_cases s.hub session.user device snapshot kind with ⟨hub,held,known,newer⟩ | ⟨hub,onward⟩
    · rw [hub]
      cases stored with
      | accepted receivedAt later =>
        obtain ⟨_,row,found,tells⟩ := steady.synced.told _ _ held known
        have bound := later row found
        have equal := tells.revision
        omega
      | replay | stale | refused => exact steady.synced
    · rw [hub,← unheard]
      refine synced_stored steady fed stored ⟨?_,?_⟩ (by rw [full]; simp) fun held known => Nat.le_of_lt (onward held known)
      · rintro rfl
        obtain ⟨held,known,newer⟩ := calm_stale steady present quiet valid stored
        have bound := onward held known
        omega
      · rintro rfl
        cases full
  have fresh : Steady owner {after with hub := (after.hub.acceptSnapshot session.user device snapshot kind).2} :=
    ⟨fun id row => stored_rows steady stored id row,fun id other => sessions ▸ steady.sessions id other,synced⟩
  exact steady_needs fresh fed _

theorem steady_merged (steady : Steady owner s) (fed : session.user = owner device) {current : DeviceStateSnapshot}
    (known : s.hub.deviceState session.user device = some current) (onward : current.stateRevision ≤ snapshot.stateRevision) :
    Steady owner (s.persistMerged owner device session snapshot now) := by
  have stored := @store_cases owner s session.user device snapshot now
  unfold persistMerged
  split
  rename_i answer after same
  rw [same] at stored
  dsimp only at stored
  split
  · rename_i kind taken
    have accepted : answer = .ok kind ∧ (kind = .accepted ∨ kind = .replay) := by
      unfold acceptedDelta at taken
      split at taken
      all_goals cases taken
      · exact ⟨rfl,.inl rfl⟩
      · exact ⟨rfl,.inr rfl⟩
    obtain ⟨rfl,kinds⟩ := accepted
    obtain ⟨sessions,unheard⟩ := stored_sessions stored
    refine ⟨fun id row => stored_rows steady stored id row,fun id other => sessions ▸ steady.sessions id other,?_⟩
    refine synced_stored steady fed stored ?_ ?_ ?_
    · rcases kinds with rfl | rfl
      · exact ⟨by simp,by simp⟩
      · exact ⟨by simp,by simp⟩
    · rcases kinds with rfl | rfl
      · simp [acceptedFullSnapshot]
      · simp [acceptedFullSnapshot]
    · intro held found
      rw [known] at found
      cases found
      exact onward
  · rename_i refused
    rw [stored_unaccepted (by rintro rfl; cases refused) stored]
    exact steady_needs steady fed true

theorem steady_delta (steady : Steady owner s) (fed : session.user = owner device) {delta : DeviceStateDelta} :
    Steady owner (s.stateDelta owner device session delta now) := by
  unfold stateDelta
  split
  · exact steady_needs steady fed true
  split
  · exact steady_needs steady fed true
  rename_i current known
  dsimp only
  split
  · rename_i order
    have successor := (order_next.mp order).1
    exact steady_merged steady fed known (by dsimp only; omega)
  · exact steady
  · exact steady
  · exact steady_needs steady fed true
  · exact steady_needs steady fed true

theorem steady_step {action : Action} (steady : Steady owner s) (quiet : calm owner s action = true)
    (taken : s.execute owner action = some s') : Steady owner s' := by
  cases action with
  | connect device roles =>
    rw [execute] at taken
    split at taken
    · cases taken
      exact @steady_needs owner s device ⟨owner device,true⟩ steady rfl _
    · cases taken
  | message device message now =>
    obtain ⟨session,present,rfl⟩ := Option.map_eq_some_iff.mp taken
    have fed : session.user = owner device := steady.sessions device.uuid session present
    cases message with
    | stateFull snapshot => exact steady_full steady fed present quiet
    | stateDelta delta => exact steady_delta steady fed
  | disconnect device =>
    cases taken
    exact steady_close steady
  | revoke device =>
    cases taken
    exact ⟨steady.rows,steady.sessions,steady.synced⟩
  | restart =>
    cases taken
    exact Initial.steady ⟨steady.rows,rfl,rfl⟩

-- Exactly: a step out of an agreeing state keeps the agreement only if it was
-- calm, for the stale snapshot it would publish was refused by the store.
theorem agrees_calm {action : Action} (taken : s.execute owner action = some s') (agrees : Agrees s') :
    calm owner s action = true := by
  by_contra loud
  unfold calm at loud
  split at loud
  · rename_i device snapshot now
    split at loud
    · rename_i session row present found
      simp only [Bool.or_eq_true,Bool.not_eq_true',decide_eq_true_eq,not_or,Bool.not_eq_false,Bool.and_eq_true,
        Option.isNone_iff_eq_none,Nat.not_le] at loud
      obtain ⟨⟨⟨valid,owns⟩,unknown⟩,older⟩ := loud
      obtain ⟨other,present',rfl⟩ := Option.map_eq_some_iff.mp taken
      cases Option.some.inj (present.symm.trans present')
      have answer : s.storeDeviceState owner session.user device snapshot (some now) = (.ok .stale,s) := by
        have order := (@order_stale _ _ row.revision snapshot.stateRevision row.payload.compared snapshot.compared none).mpr older
        simp only [storeDeviceState,owns,Bool.not_true,Bool.false_eq_true,if_false,found,Option.bind_some,
          fullStateOutcome,outcome,order]
      have published := agrees.admitted ⟨session.user,device,snapshot,.stale⟩ (by
        simp [receive,stateFull,valid,answer,acceptedFullSnapshot,StateHub.acceptSnapshot,unknown,setNeeds,
          StateHub.publishDeviceState])
      exact published.1 rfl
    · exact loud rfl
  · exact loud rfl

end step

-- The hub agrees with the store all along a run exactly when each of its steps
-- is calm.
theorem hub_agrees {owner : DeviceId → Uuid} {origin : ControlState} {actions : List Action} (start : Initial origin) :
    (Transition.Runs (Under (fun s a => calm owner s a = true) (Executes (execute owner)))
      origin actions s → Agrees s) ∧
    (Transition.Runs (fun s a s' => Executes (execute owner) s a s' ∧ Agrees s') origin actions s →
      Transition.Runs (Under (fun s a => calm owner s a = true) (Executes (execute owner)))
        origin actions s) := by
  have exact := @Transition.Runs.exactly ControlState Action (Executes (execute owner)) origin s actions
    (fun s a => calm owner s a = true) (Steady owner) Agrees start.steady
    (fun _ _ _ steady taken calm => steady_step steady calm taken) (fun _ _ _ _ taken agrees => agrees_calm taken agrees)
  exact ⟨fun path => (exact.1 path).agrees,exact.2⟩

def soleOwner : DeviceId → Uuid := fun _ => 1

def unheard : ControlState := ⟨[⟨2⟩],∅,.empty,∅⟩

theorem unheard_initial : Initial unheard := ⟨fun id row found => by simp [unheard] at found,rfl,rfl⟩

def loudness (revision : Nat) (level : UInt8) : Message :=
  .stateFull ⟨revision,⟨"1970-01-01T00:00:01Z",seconds 1⟩,none,⟨none,some ⟨level,false⟩,none⟩⟩

def epoch : Timestamp := ⟨"1970-01-01T00:00:00Z",0⟩

theorem hub_agrees_reconnected : ∃ s, s.hub.published.length = 1 ∧ Agrees s := by
  obtain ⟨s,path,seen⟩ := guarded_reaches (calm soleOwner) (execute soleOwner) unheard
    [.connect ⟨2⟩ [.player],.message ⟨2⟩ (loudness 1 10) (some epoch),.restart,.connect ⟨2⟩ [.player],
      .message ⟨2⟩ (loudness 2 20) (some epoch)] (fun s => s.hub.published.length = 1) (by decide)
  exact ⟨s,of_decide_eq_true seen,(hub_agrees unheard_initial).1 path⟩

-- After a restart the store calls the snapshot stale and the hub publishes it.
theorem stale_snapshot_published : ¬ ∀ owner origin actions s, Initial origin →
    Transition.Runs (Executes (execute owner)) origin actions s → Agrees s := by
  intro claimed
  obtain ⟨s,path,seen⟩ := run_reaches (execute soleOwner) unheard
    [.connect ⟨2⟩ [.player],.message ⟨2⟩ (loudness 2 20) (some epoch),.restart,.connect ⟨2⟩ [.player],
      .message ⟨2⟩ (loudness 1 10) (some epoch)]
    (fun s => (s.hub.deviceState 1 ⟨2⟩).any fun held => s.snapshots[(2 : Uuid)]?.any fun row =>
      held.stateRevision < row.revision) (by decide)
  obtain ⟨held,known,seen⟩ := (Option.any_eq_true _ _).mp seen
  obtain ⟨row,found,older⟩ := (Option.any_eq_true _ _).mp seen
  obtain ⟨row',found',tells⟩ := (claimed _ _ _ s unheard_initial path).stored 1 ⟨2⟩ held known
  cases Option.some.inj (found.symm.trans found')
  exact absurd tells.revision (Nat.ne_of_gt (of_decide_eq_true older))

end ControlState
end DeviceControl
