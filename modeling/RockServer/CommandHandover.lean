import RockServer.CommandCapacity
import RockServer.PlaneRouter

namespace DeviceControl

-- The command that a submit has in flight as long as it runs.
def Task.submits : Task → Option CommandId
  | .received admission | .resolve admission _ | .dispatch admission _ | .arm admission =>
    some admission.command.commandId
  | .finish commandId _ .submit => some commandId
  | _ => none

-- The submit did not deliver the command of this entry yet, or is about to
-- finish it.
def Task.carries (id : CommandId) (item : InFlight) : Task → Bool
  | .received admission | .resolve admission _ | .dispatch admission _ =>
    admission.command.commandId = id && admission.inFlight = item
  | .finish commandId _ .submit => commandId = id
  | _ => false

def listed (id : CommandId) (rest : List (CommandId × String)) : Bool := rest.any fun entry => entry.1 = id

-- A handover that has yet to come to this entry.
def Task.hands (id : CommandId) (item : InFlight) : Task → Bool
  | .start (.disconnected owner device connection hasStore) => hasStore && item.deliveredTo owner device connection
  | .finish commandId _ (.disconnected rest) => commandId = id || listed id rest
  | .complete _ _ (.disconnected rest) | .notify _ _ (.disconnected rest) _ => listed id rest
  | _ => false

def CommandResult.offline (result : CommandResult) : Prop := result.error.map DomainError.code = some ErrorCode.targetOffline.text

def InFlight.target (item : InFlight) : Address := ⟨item.ownerId,item.targetDeviceId.uuid,item.targetConnectionId⟩

-- Where tasks come from: submits from the process's own sessions, admissions
-- from a generation that was active when it was looked up, and whatever a
-- handover finishes ends as offline.
def Task.Sourced (known : Address → Prop) (hasStore : Bool) : Task → Prop
  | .start call => call.stocked hasStore
  | .lookup _ _ => hasStore = true
  | .reserve admission | .capacity admission | .insert admission => hasStore = true ∧ known admission.target
  | .finish _ result (.disconnected _) => result.offline
  | _ => True

variable {env : RouterEnv} {o : Oracle} {s s' : RouterState} {task next : Task} {spawned : List Task}
  {id : CommandId} {item : InFlight} {hasStore : Bool} {known : Address → Prop}

theorem Task.carries_submits (carries : task.carries id item = true) : task.submits = some id := by
  cases task with
  | received admission | resolve admission _ | dispatch admission _ =>
    exact congrArg some (of_decide_eq_true ((Bool.and_eq_true _ _).mp carries).1)
  | finish commandId result caller =>
    cases caller with
    | submit => exact congrArg some (of_decide_eq_true carries)
    | _ => cases carries
  | _ => cases carries

theorem Task.Sourced.mono {known' : Address → Prop} (sourced : task.Sourced known hasStore)
    (later : ∀ a, known a → known' a) : task.Sourced known' hasStore := by
  cases task with
  | reserve admission | capacity admission | insert admission => exact ⟨sourced.1,later _ sourced.2⟩
  | finish commandId result caller => cases caller <;> exact sourced
  | _ => exact sourced

-- A submit keeps its entry until it either delivered the command or removed it;
-- only an acknowledgement that cannot be delivered makes it drop the entry.
theorem advance_carries (ran : advance env o s task = (s',next,spawned)) (matched : task.Matched)
    (carries : task.carries id item = true) : next.carries id item = true ∨ s'.inFlight[id]? = none ∨
      (ConnectionRegistry.reachable s.registry item.target).isSome = true ∨
      ∃ admission, task = .received admission ∧ admission.command.commandId = id ∧ admission.inFlight = item ∧
        ConnectionRegistry.reachable s.registry admission.controller = none := by
  cases task with
  | received admission =>
    obtain ⟨named,same⟩ := (Bool.and_eq_true _ _).mp carries
    unfold advance at ran
    dsimp only at ran
    split at ran
    · rename_i sent
      cases ran
      have unreached := Option.isSome_eq_false_iff.mp (send_delivered sent).1.symm
      exact .inr (.inr (.inr ⟨admission,rfl,of_decide_eq_true named,of_decide_eq_true same,
        Option.isNone_iff_eq_none.mp unreached⟩))
    · split at ran
      · cases ran
        exact .inl carries
      · cases ran
        exact .inl carries
  | resolve admission stationId =>
    have named := of_decide_eq_true ((Bool.and_eq_true _ _).mp carries).1
    have next_carries : (resolve env o s admission stationId).2.carries id item = true := by
      unfold resolve
      dsimp only
      split
      · exact decide_eq_true named
      · split
        · exact carries
        · exact decide_eq_true named
        · exact decide_eq_true named
    cases ran
    exact .inl next_carries
  | dispatch admission command =>
    obtain ⟨named,same⟩ := (Bool.and_eq_true _ _).mp carries
    unfold advance at ran
    dsimp only at ran
    split at ran
    · cases ran
      exact .inl (decide_eq_true (matched.trans (of_decide_eq_true named)))
    · rename_i sent
      cases ran
      refine .inr (.inr (.inl ?_))
      rw [← of_decide_eq_true same]
      exact (send_delivered sent).1.symm
  | finish commandId result caller =>
    cases caller with
    | submit =>
      cases of_decide_eq_true carries
      unfold advance at ran
      dsimp only at ran
      split at ran
      · rename_i absent
        cases ran
        exact .inr (.inl absent)
      · cases ran
        exact .inr (.inl Table.get_erase_self)
    | _ => cases carries
  | _ => cases carries

theorem next_hands {rest : List (CommandId × String)} (item : InFlight) (env : RouterEnv) (now : Instant) (later : listed id rest = true) :
    ((Caller.disconnected rest).next env now).hands id item = true := by
  cases rest with
  | nil => cases later
  | cons entry rest =>
    obtain ⟨first,requestId⟩ := entry
    exact later

-- A handover comes to every entry it found: once it listed one, it goes on
-- until that one is out of the map.
theorem advance_hands (ran : advance env o s task = (s',next,spawned)) (found : s.inFlight[id]? = some item)
    (hands : task.hands id item = true) : next.hands id item = true ∨ s'.inFlight[id]? = none := by
  cases task with
  | start call =>
    cases call with
    | disconnected owner device connection hasStore =>
      obtain ⟨stored,delivered⟩ := (Bool.and_eq_true _ _).mp hands
      subst stored
      have listed : listed id ((s.inFlight.toList.filter fun entry => entry.2.deliveredTo owner device connection).map
          fun entry => (entry.1,entry.2.requestId)) = true := by
        refine List.any_eq_true.mpr ⟨(id,item.requestId),List.mem_map.mpr ⟨(id,item),?_,rfl⟩,decide_eq_true rfl⟩
        exact List.mem_filter.mpr ⟨Table.mem_entries.mpr found,delivered⟩
      have listed_next := next_hands item env o.now listed
      cases ran
      exact .inl listed_next
    | _ => cases hands
  | finish commandId result caller =>
    cases caller with
    | disconnected rest =>
      unfold advance at ran
      dsimp only at ran
      rcases (Bool.or_eq_true _ _).mp hands with now | later
      · cases of_decide_eq_true now
        rw [found] at ran
        cases ran
        exact .inr Table.get_erase_self
      · split at ran
        · cases ran
          exact .inl (next_hands item env o.now later)
        · cases ran
          exact .inl later
    | _ => cases hands
  | complete other result caller =>
    cases caller with
    | disconnected rest =>
      unfold advance at ran
      dsimp only at ran
      split at ran
      · cases ran
        exact .inl hands
      · cases ran
        exact .inl (next_hands item env o.now hands)
    | _ => cases hands
  | notify other result caller reservation =>
    cases caller with
    | disconnected rest =>
      generalize sent : s.send other.claim.controller (.commandResult result) (some reservation) = pair at ran
      obtain ⟨after,delivered⟩ := pair
      simp only [advance,sent] at ran
      cases ran
      exact .inl (next_hands item env o.now hands)
    | _ => cases hands
  | _ => cases hands

-- A new entry is carried by the submit that made it.
theorem advance_entered (ran : advance env o s task = (s',next,spawned)) (found : s'.inFlight[id]? = some item) :
    s.inFlight[id]? = some item ∨ ∃ admission, task = .insert admission ∧ item = admission.inFlight ∧
      next.carries id item = true := by
  rcases advance_inserts ran found with old | ⟨admission,rfl,rfl,named,rfl⟩
  · exact .inl old
  · exact .inr ⟨admission,rfl,rfl,by simp [Task.carries,named]⟩

theorem next_sourced (env : RouterEnv) (now : Instant) (caller : Caller) :
    (caller.next env now).Sourced known hasStore := by
  cases caller with
  | disconnected rest =>
    cases rest with
    | nil => trivial
    | cons entry rest => exact rfl
  | _ => trivial

theorem checkTarget_target {call : SubmitCall} {target : ActiveDevice} {now : Instant} {admission : Admission}
    (checked : checkTarget env now call target = .ok admission) :
    admission.target = ⟨call.ownerId,call.command.target.deviceId.uuid,target.connectionId⟩ := by
  unfold checkTarget at checked
  split at checked
  · cases checked
  · split at checked
    · cases checked
    · split at checked
      · cases checked
      · dsimp only at checked
        split at checked
        · cases checked
        · cases checked
          rfl

theorem checkController_stocked {call : SubmitCall} {now : Instant} {registry : ConnectionRegistry}
    (checked : checkController env now registry call = .ok ()) : call.hasStore = true := by
  unfold checkController at checked
  cases stocked : call.hasStore with
  | true => rfl
  | false =>
    simp only [stocked,Bool.not_false,if_true] at checked
    repeat' split at checked
    all_goals cases checked

theorem begin_sourced {call : Call} (sourced : call.stocked hasStore) :
    (begin env o s call).2.Sourced known hasStore := by
  unfold begin
  cases call with
  | submit call =>
    dsimp only
    split
    · trivial
    · rename_i checked
      exact sourced.symm.trans (checkController_stocked checked)
  | accepted owner device connection accepted =>
    dsimp only
    split
    · trivial
    · split
      · trivial
      · split <;> trivial
  | result owner device connection result hasStore =>
    dsimp only
    split
    · trivial
    · split
      · trivial
      · split
        · trivial
        · split <;> trivial
  | disconnected owner device connection hasStore =>
    dsimp only
    split
    · trivial
    · exact next_sourced env o.now _

theorem reserve_sourced {admission : Admission} (sourced : (Task.reserve admission).Sourced known hasStore) :
    (reserve o s admission).2.Sourced known hasStore := by
  unfold reserve
  split
  all_goals first | exact sourced | trivial

theorem resolve_sourced (admission : Admission) (stationId : String) :
    (resolve env o s admission stationId).2.Sourced known hasStore := by
  unfold resolve
  dsimp only
  split
  · trivial
  · split <;> trivial

-- Where the next step of a task comes from: an admission is from a lookup that
-- met an active generation.
theorem advance_sourced (met : ∀ owner device target, s.registry.activeFor owner device = some target →
      known ⟨owner,device,target.connectionId⟩) (sourced : task.Sourced known hasStore)
    (ran : advance env o s task = (s',next,spawned)) : next.Sourced known hasStore := by
  cases task with
  | start call =>
    have begun : (begin env o s call).2.Sourced known hasStore := begin_sourced sourced
    cases ran
    exact begun
  | reserve admission =>
    have reserved : (reserve o s admission).2.Sourced known hasStore := reserve_sourced sourced
    cases ran
    exact reserved
  | resolve admission stationId =>
    have resolved : (resolve env o s admission stationId).2.Sourced known hasStore := resolve_sourced admission stationId
    cases ran
    exact resolved
  | lookup call now =>
    unfold advance at ran
    dsimp only at ran
    split at ran
    · cases ran
      trivial
    · rename_i target found
      split at ran
      · cases ran
        trivial
      · rename_i admission checked
        cases ran
        refine ⟨sourced,?_⟩
        rw [checkTarget_target checked]
        exact met _ _ target found
  | capacity admission =>
    unfold advance at ran
    dsimp only at ran
    split at ran
    · cases ran
      trivial
    · cases ran
      exact sourced
  | finish commandId result caller =>
    unfold advance at ran
    dsimp only at ran
    split at ran
    · cases ran
      exact next_sourced env o.now caller
    · cases ran
      trivial
  | complete item result caller =>
    unfold advance at ran
    dsimp only at ran
    split at ran
    · cases ran
      trivial
    · cases ran
      exact next_sourced env o.now caller
  | notify item result caller reservation =>
    generalize sent : s.send item.claim.controller (.commandResult result) (some reservation) = pair at ran
    obtain ⟨after,delivered⟩ := pair
    simp only [advance,sent] at ran
    cases ran
    exact next_sourced env o.now caller
  | reject admission =>
    cases ran
    trivial
  | insert admission | arm admission | timer commandId requestId | returned outcome =>
    cases ran
    trivial
  | ownership _ | loadReplay _ | replayReceived _ _ | replayResult _ _ | received _ | dispatch _ _ =>
    unfold advance at ran
    dsimp only at ran
    repeat' split at ran
    all_goals
      cases ran
      trivial

end DeviceControl
