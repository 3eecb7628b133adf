import RockServer.CommandHandover
import RockServer.SessionCleanup

namespace DeviceControl
namespace ControlPlane

-- The target generation of an entry still holds its device.
def active (s : ControlPlane) (item : InFlight) : Bool :=
  (s.registry.generation item.targetDeviceId.uuid item.targetConnectionId).isSome

def carried (s : ControlPlane) (id : CommandId) (item : InFlight) : Bool := s.router.tasks.any fun task => task.carries id item

-- Some session waits for a handover that has yet to come to the entry.
def handed (s : ControlPlane) (id : CommandId) (item : InFlight) : Bool :=
  s.sessions.toList.any fun entry => (entry.2.phase.pass entry.1).any fun pass =>
    pass.2 = item.targetConnectionId && (s.router.tasks[pass.1]?).any fun task => task.hands id item

def gone (s : ControlPlane) (connection : Uuid) : Bool :=
  (s.sessions[connection]?).any fun session => session.phase.stage = .returned

-- Commands of a generation that no submit carries any more; and those of them
-- that a handover has yet to come to.
def exposed (s : ControlPlane) (connection : Uuid) : Bool :=
  s.router.inFlight.toList.any fun entry => entry.2.targetConnectionId = connection && !s.carried entry.1 entry.2

def awaited (s : ControlPlane) (connection : Uuid) : Bool :=
  s.router.inFlight.toList.any fun entry =>
    entry.2.targetConnectionId = connection && !s.carried entry.1 entry.2 && s.handed entry.1 entry.2

-- No command is in flight to a generation that lost its device and whose
-- session returned, unless its submit still runs; and every command that ended
-- after its generation did was reported as offline.
structure HandedOver (s : ControlPlane) : Prop where
  cleared : ∀ (connection : Uuid) (session : ControlSession) (id : CommandId) (item : InFlight),
    s.sessions[connection]? = some session → session.phase = .returned →
    s.registry.generation session.deviceId connection = none →
    s.router.inFlight[id]? = some item → item.targetConnectionId = connection →
    ∃ task ∈ s.router.tasks, task.submits = some id
  offline : ∀ orphan ∈ s.orphans, orphan.result.offline

-- The steps that hand over what they should: a generation is not revoked, nor
-- ended with its first message, while commands were delivered to it; a session
-- returns only when no handover is still to come to a command of its own, and
-- is replaced after it returned only when it has none; and a command whose
-- generation ended is not dropped by its submit and is left to the handover.
def handsOver (s : ControlPlane) : Action → Bool
  | .revoke user device => match (s.registry[device]?).filter fun active => active.userId = user with
    | none => true
    | some active => !s.exposed active.connectionId
  | .session id _ event => match s.sessions[id]? with
    | none => true
    | some session => match session.phase,event with
      | .joining _,_ => match s.registry[session.deviceId]? with
        | none => true
        | some previous => !(s.gone previous.connectionId && s.exposed previous.connectionId)
      | .confirming,.failed => !s.exposed id
      | .listing,.failed | .closing _,_ | .retracting,_ => !s.awaited id
      | _,_ => true
  | .route i o => match s.router.tasks[i]? with
    | some (.received admission) => heard s.router (.run i o) || s.active admission.inFlight ||
      s.handed admission.command.commandId admission.inFlight && !s.gone admission.targetConnectionId
    | some (.finish id _ .timer) | some (.finish id _ .result) => (s.router.inFlight[id]?).all s.active
    | _ => true
  | _ => true

variable {env : PlaneEnv} {s s' : ControlPlane} {id : CommandId} {item : InFlight} {action : Action}
  {connection : Uuid} {session : ControlSession}

theorem active_iff : s.active item = true ↔ s.owns item.targetDeviceId.uuid item.targetConnectionId :=
  ConnectionRegistry.generation_owns

theorem carried_iff : s.carried id item = true ↔
    ∃ (i : Nat) (task : Task), s.router.tasks[i]? = some task ∧ task.carries id item = true := by
  unfold carried
  rw [List.any_eq_true]
  constructor
  · rintro ⟨task,member,carries⟩
    obtain ⟨i,found⟩ := List.getElem?_of_mem member
    exact ⟨i,task,found,carries⟩
  · rintro ⟨i,task,found,carries⟩
    exact ⟨task,List.mem_of_getElem? found,carries⟩

theorem handed_iff : s.handed id item = true ↔ ∃ (j : Uuid) (st : Standing) (i : Nat) (task : Task),
    s.standing j = some st ∧ st.pass = some (i,item.targetConnectionId) ∧ s.router.tasks[i]? = some task ∧
      task.hands id item = true := by
  unfold handed
  rw [List.any_eq_true]
  constructor
  · rintro ⟨⟨j,session⟩,member,passes⟩
    obtain ⟨⟨i,generation⟩,pass,passes⟩ := (Option.any_eq_true _ _).mp passes
    obtain ⟨same,passes⟩ := (Bool.and_eq_true _ _).mp passes
    obtain ⟨task,found,hands⟩ := (Option.any_eq_true _ _).mp passes
    cases of_decide_eq_true same
    exact ⟨j,_,i,task,standing_of (Table.mem_entries.mp member),pass,found,hands⟩
  · rintro ⟨j,st,i,task,standing,pass,found,hands⟩
    obtain ⟨session,held,rfl⟩ := Option.map_eq_some_iff.mp standing
    refine ⟨(j,session),Table.mem_entries.mpr held,(Option.any_eq_true _ _).mpr ⟨_,pass,?_⟩⟩
    rw [found]
    simpa using hands

theorem gone_iff : s.gone connection = true ↔ ∃ st, s.standing connection = some st ∧ st.stage = .returned := by
  unfold gone
  rw [Option.any_eq_true]
  constructor
  · rintro ⟨session,found,stage⟩
    exact ⟨_,standing_of found,of_decide_eq_true stage⟩
  · rintro ⟨st,standing,stage⟩
    obtain ⟨session,found,rfl⟩ := Option.map_eq_some_iff.mp standing
    exact ⟨session,found,decide_eq_true stage⟩

theorem gone_kept (before : ∀ st, s'.standing connection = some st → st.stage = .returned → s.gone connection = true)
    (here : s.gone connection = false) : s'.gone connection = false := by
  refine Bool.eq_false_iff.mpr fun gone => ?_
  obtain ⟨st,standing,stage⟩ := gone_iff.mp gone
  rw [before st standing stage] at here
  cases here

theorem exposed_of (present : s.router.inFlight[id]? = some item) (alone : s.carried id item = false) :
    s.exposed item.targetConnectionId = true :=
  List.any_eq_true.mpr ⟨(id,item),Table.mem_entries.mpr present,by simp [alone]⟩

theorem awaited_of (present : s.router.inFlight[id]? = some item) (alone : s.carried id item = false)
    (handed : s.handed id item = true) : s.awaited item.targetConnectionId = true :=
  List.any_eq_true.mpr ⟨(id,item),Table.mem_entries.mpr present,by simp [alone,handed]⟩

-- An entry is attended to: its generation is active, or its submit has it in
-- hand, or a handover will come to it before its session returns.
def Attended (s : ControlPlane) (id : CommandId) (item : InFlight) : Prop :=
  s.active item = true ∨ s.carried id item = true ∨ s.handed id item = true ∧ s.gone item.targetConnectionId = false

-- A generation that registered, and where.
def Enrolled (s : ControlPlane) (a : Address) : Prop :=
  ∃ st, s.standing a.connectionId = some st ∧ st.user = a.userId ∧ st.device = a.deviceId ∧
    st.stage ≠ .waiting ∧ st.stage ≠ .arriving

structure Handing (env : PlaneEnv) (s : ControlPlane) : Prop where
  wired : Wired env s
  ledger : Ledger s.router
  tasks : ∀ (i : Nat) (task : Task), s.router.tasks[i]? = some task → task.Sourced s.Enrolled env.hasStore
  entries : ∀ (id : CommandId) (item : InFlight), s.router.inFlight[id]? = some item →
    env.hasStore = true ∧ s.Enrolled item.target
  attended : ∀ (id : CommandId) (item : InFlight), s.router.inFlight[id]? = some item → s.Attended id item
  offline : ∀ orphan ∈ s.orphans, orphan.result.offline

theorem Enrolled.places {a : Address} {j : Uuid} {st' : Standing} (enrolled : s.Enrolled a) (places : Places s s' j st')
    (kept : ∀ st, s.standing j = some st → st.stage ≠ .waiting → st.stage ≠ .arriving →
      st'.user = st.user ∧ st'.device = st.device ∧ st'.stage ≠ .waiting ∧ st'.stage ≠ .arriving) : s'.Enrolled a := by
  obtain ⟨st,found,user,device,waiting,arriving⟩ := enrolled
  by_cases mine : j = a.connectionId
  · subst mine
    obtain ⟨sameUser,sameDevice,stage⟩ := kept st found waiting arriving
    exact ⟨st',by rw [places,if_pos rfl],sameUser.trans user,sameDevice.trans device,stage⟩
  · exact ⟨st,by rw [places,if_neg mine,found],user,device,waiting,arriving⟩

theorem Enrolled.step {a : Address} (enrolled : s.Enrolled a) (taken : Step env s action s') : s'.Enrolled a := by
  -- A session that moves on from where it is, or ends.
  have goes {j : Uuid} {st st' : Standing} (found : s.standing j = some st) (places : Places s s' j st')
      (same : st'.user = st.user ∧ st'.device = st.device)
      (stage : st.stage ≠ .waiting → st.stage ≠ .arriving → st'.stage ≠ .waiting ∧ st'.stage ≠ .arriving) :
      s'.Enrolled a := by
    refine enrolled.places places fun st found' waiting arriving => ?_
    rw [found] at found'
    cases found'
    exact ⟨same.1,same.2,stage waiting arriving⟩
  cases step_turn taken with
  | still standing _ _ | revoked _ _ standing _ _ =>
    obtain ⟨st,found,rest⟩ := enrolled
    exact ⟨st,by rw [standing,found],rest⟩
  | connected absent _ places _ _ =>
    refine enrolled.places places fun st found => ?_
    rw [absent] at found
    cases found
  | moved pass found places _ _ => exact goes found places ⟨rfl,rfl⟩ fun waiting arriving => ⟨waiting,arriving⟩
  | online found waiting places _ _ => exact goes found places ⟨rfl,rfl⟩ fun apart _ => absurd waiting apart
  | abandoned found early places _ _ => exact goes found places ⟨rfl,rfl⟩ fun _ _ => by simp
  | joined manifest pass found _ places _ _ => exact goes found places ⟨rfl,rfl⟩ fun _ _ => by simp
  | adopted found _ places _ _ =>
    exact goes (standing_of found) places ⟨rfl,rfl⟩ fun waiting arriving => ⟨waiting,arriving⟩
  | unconfirmed found _ places _ _ | unlisted found _ places _ _ | offline found _ places _ _ =>
    exact goes (standing_of found) places ⟨rfl,rfl⟩ fun _ _ => by simp
  | closed found _ _ places _ _ | left found _ _ places _ _ => exact goes found places ⟨rfl,rfl⟩ fun _ _ => by simp

theorem carried_kept (kept : ∀ (i : Nat) (task : Task), s.router.tasks[i]? = some task → s'.router.tasks[i]? = some task)
    (carried : s.carried id item = true) : s'.carried id item = true := by
  obtain ⟨i,task,found,carries⟩ := carried_iff.mp carried
  exact carried_iff.mpr ⟨i,task,kept i task found,carries⟩

theorem hands_unanswered {i : Nat} {task : Task} (found : s.router.tasks[i]? = some task)
    (hands : task.hands id item = true) : s.answered i = false := by
  unfold answered
  rw [found]
  cases task with
  | returned outcome => cases hands
  | _ => rfl

-- The frame rule: calls begin and one session moves. It keeps its handover until
-- that is through, and does not return before one comes to its commands.
theorem Attended.update (attended : s.Attended id item) {j : Uuid} {st' : Standing}
    (kept : ∀ (i : Nat) (task : Task), s.router.tasks[i]? = some task → s'.router.tasks[i]? = some task)
    (places : Places s s' j st') (active : s.active item = true → s'.Attended id item)
    (pass : ∀ st i c, s.standing j = some st → st.pass = some (i,c) → st'.pass = some (i,c) ∨ s.answered i = true)
    (stays : st'.stage = .returned → item.targetConnectionId = j → s.carried id item = false →
      s.handed id item = true → s.gone j = true) : s'.Attended id item := by
  rcases attended with still | carried | ⟨handed,here⟩
  · exact active still
  · exact .inr (.inl (carried_kept kept carried))
  · by_cases carries : s.carried id item = true
    · exact .inr (.inl (carried_kept kept carries))
    · refine .inr (.inr ⟨?_,?_⟩)
      · obtain ⟨k,st,i,task,standing,waits,found,hands⟩ := handed_iff.mp handed
        by_cases mine : j = k
        · subst mine
          rcases pass st i _ standing waits with same | answered
          · exact handed_iff.mpr ⟨j,st',i,task,by rw [places,if_pos rfl],same,kept i task found,hands⟩
          · rw [hands_unanswered found hands] at answered
            cases answered
        · exact handed_iff.mpr ⟨k,st,i,task,by rw [places,if_neg mine,standing],waits,kept i task found,hands⟩
      · refine gone_kept (fun st standing stage => ?_) here
        rw [places] at standing
        split at standing
        · rename_i mine
          cases standing
          exact mine ▸ stays stage mine.symm (Bool.eq_false_iff.mpr carries) handed
        · exact gone_iff.mpr ⟨st,standing,stage⟩

theorem Attended.same (attended : s.Attended id item)
    (kept : ∀ (i : Nat) (task : Task), s.router.tasks[i]? = some task → s'.router.tasks[i]? = some task)
    (standing : ∀ j, s'.standing j = s.standing j) (active : s.active item = true → s'.Attended id item) :
    s'.Attended id item := by
  rcases attended with still | carried | ⟨handed,here⟩
  · exact active still
  · exact .inr (.inl (carried_kept kept carried))
  · refine .inr (.inr ⟨?_,?_⟩)
    · obtain ⟨k,st,i,task,held,waits,found,hands⟩ := handed_iff.mp handed
      exact handed_iff.mpr ⟨k,st,i,task,by rw [standing,held],waits,kept i task found,hands⟩
    · refine gone_kept (fun st held stage => ?_) here
      rw [standing] at held
      exact gone_iff.mpr ⟨st,held,stage⟩

theorem owns_unique {device other : Uuid} (left : s.owns device connection) (right : s.owns device other) :
    connection = other := by
  obtain ⟨g,found,rfl⟩ := left
  obtain ⟨h,found',rfl⟩ := right
  rw [found] at found'
  cases found'
  rfl

theorem active_same (live : s'.live = s.live) (active : s.active item = true) : s'.active item = true := by
  refine active_iff.mpr ?_
  unfold owns
  rw [live]
  exact active_iff.mp active

-- A generation stays active unless its own device's entry changed.
theorem active_elsewhere {device : Uuid} (elsewhere : ∀ other, other ≠ device → s'.live[other]? = s.live[other]?)
    (active : s.active item = true) :
    s'.active item = true ∨ item.targetDeviceId.uuid = device ∧ s.owns device item.targetConnectionId := by
  have owned := active_iff.mp active
  by_cases there : item.targetDeviceId.uuid = device
  · exact .inr ⟨there,there ▸ owned⟩
  · obtain ⟨g,found,name⟩ := owned
    exact .inl (active_iff.mpr ⟨g,by rw [elsewhere _ there,found],name⟩)

theorem erased_elsewhere {device : Uuid} (live : s'.live = s.live.erase device) (other : Uuid) (apart : other ≠ device) :
    s'.live[other]? = s.live[other]? := by
  rw [live,Table.get_erase,if_neg (Ne.symm apart)]

theorem inserted_elsewhere {device : Uuid} {g : LiveGeneration} (live : s'.live = s.live.insert device g) (other : Uuid)
    (apart : other ≠ device) : s'.live[other]? = s.live[other]? := by
  rw [live,Table.get_insert_ne (Ne.symm apart)]

-- A new manifest changes no generation.
theorem active_adopted {j : Uuid} {session' : ControlSession} {manifest : DeviceManifest} (still : s.active item = true) :
    ((s.setRegistry (s.registry.updateManifest session.deviceId j manifest).1).setSession j session').active item = true := by
  have adopted := @ConnectionRegistry.updateManifest_live s.registry session.deviceId j manifest
  rcases adopted with ⟨same,_⟩ | ⟨g,held,_,updated⟩
  · exact active_same same still
  · have live : ((s.setRegistry (s.registry.updateManifest session.deviceId j manifest).1).setSession j session').live =
        s.live.insert session.deviceId {g with manifest := manifest} := updated
    rcases active_elsewhere (inserted_elsewhere live) still with elsewhere | ⟨there,h,held',name⟩
    · exact elsewhere
    · have held' : s.registry.live[session.deviceId]? = some h := held'
      rw [held] at held'
      cases held'
      exact active_iff.mpr ⟨{g with manifest := manifest},by rw [live,there,Table.get_insert,if_pos rfl],name⟩

-- The commands of a generation are its session's own.
theorem Enrolled.delivered {st : Standing} (enrolled : s.Enrolled item.target)
    (found : s.standing item.targetConnectionId = some st) :
    item.deliveredTo st.user st.device item.targetConnectionId = true := by
  obtain ⟨st',found',user,device,_⟩ := enrolled
  have found' : s.standing item.targetConnectionId = some st' := found'
  rw [found] at found'
  cases found'
  rw [user,device]
  simp [InFlight.deliveredTo,InFlight.target]

theorem Enrolled.settled {st : Standing} (enrolled : s.Enrolled item.target)
    (found : s.standing item.targetConnectionId = some st) : st.stage ≠ .waiting ∧ st.stage ≠ .arriving := by
  obtain ⟨st',found',_,_,stage⟩ := enrolled
  have found' : s.standing item.targetConnectionId = some st' := found'
  rw [found] at found'
  cases found'
  exact stage

end ControlPlane
end DeviceControl
