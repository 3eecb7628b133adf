import RockServer.CommandExactlyOnce

namespace DeviceControl

-- The command a task will take out of the in-flight map on its own account:
-- a submit past its insertion, or an armed timer.
def Task.releases : Task → Option CommandId
  | .received admission | .resolve admission _ | .dispatch admission _ | .arm admission =>
    some admission.command.commandId
  | .timer commandId _ => some commandId
  | .finish commandId _ .submit | .finish commandId _ .timer => some commandId
  | _ => none

-- Own steps left until the removal, counting the timer's with its submit.
def Task.stepsLeft : Task → Nat
  | .received _ => 6
  | .resolve _ _ => 5
  | .dispatch _ _ => 4
  | .arm _ => 3
  | .timer _ _ => 2
  | .finish _ _ _ => 1
  | _ => 0

def Covered (s : RouterState) : Prop :=
  ∀ (id : CommandId) (item : InFlight), s.inFlight[id]? = some item →
    ∃ (i : Nat) (t : Task), s.tasks[i]? = some t ∧ t.releases = some id

-- The acknowledgement that follows an insertion reaches the submitter, or there
-- is nothing left to release.
def heard (s : RouterState) : Action → Bool
  | .run i _ => match s.tasks[i]? with
    | some (.received admission) => (s.inFlight[admission.command.commandId]?).isNone
        || (ConnectionRegistry.reachable s.registry admission.controller).isSome
    | _ => true
  | _ => true

variable {env : RouterEnv} {o : Oracle} {s s' : RouterState} {task next : Task} {spawned : List Task}
variable {i j : Nat} {action : Action} {id : CommandId}

theorem send_delivered {receiver : Address} {frame : OutboundFrame} {mark : Option Nat} {delivered : Bool}
    (sent : s.send receiver frame mark = (s',delivered)) :
    delivered = (ConnectionRegistry.reachable s.registry receiver).isSome ∧ s'.inFlight = s.inFlight := by
  unfold RouterState.send ConnectionRegistry.sendTo at sent
  cases there : ConnectionRegistry.reachable s.registry receiver with
  | none =>
    simp only [there] at sent
    cases sent
    exact ⟨rfl,rfl⟩
  | some active =>
    simp only [there] at sent
    cases sent
    exact ⟨rfl,rfl⟩

-- The submit that inserted an entry covers it.
theorem advance_entries {item : InFlight} (ran : advance env o s task = (s',next,spawned))
    (found : s'.inFlight[id]? = some item) : s.inFlight[id]? = some item ∨ next.releases = some id := by
  rcases advance_inserts ran found with old | ⟨admission,_,rfl,named,_⟩
  · exact .inl old
  · exact .inr (congrArg some named)

theorem resolve_releases (env : RouterEnv) (o : Oracle) (s : RouterState) (admission : Admission)
    (stationId : String) :
    (resolve env o s admission stationId).2.releases = some admission.command.commandId ∧
    (resolve env o s admission stationId).2.stepsLeft < (Task.resolve admission stationId).stepsLeft := by
  unfold resolve
  dsimp only
  split
  · exact ⟨rfl,by simp [Task.stepsLeft]⟩
  · split <;> exact ⟨rfl,by simp [Task.stepsLeft]⟩

-- A task that covers an entry gets closer to its removal with each own step.
-- The one exit that does not, the failed acknowledgement, is what `heard` excludes.
theorem advance_releases (found : s.tasks[i]? = some task) (matched : task.Matched)
    (releases : task.releases = some id) (met : heard s (.run i o) = true)
    (ran : advance env o s task = (s',next,spawned)) :
    s'.inFlight[id]? = none ∨ (next.releases = some id ∧ next.stepsLeft < task.stepsLeft) ∨
    ∃ requestId, spawned = [.timer id requestId] ∧ 2 < task.stepsLeft := by
  cases task with
  | received admission =>
    cases releases
    simp only [heard,found] at met
    unfold advance at ran
    dsimp only at ran
    split at ran
    · rename_i sent
      obtain ⟨unreached,inFlight⟩ := send_delivered sent
      rw [← unreached,Bool.or_false] at met
      cases ran
      refine .inl ?_
      rw [inFlight]
      exact Option.isNone_iff_eq_none.mp met
    · split at ran
      · cases ran; exact .inr (.inl ⟨rfl,by simp [Task.stepsLeft]⟩)
      · cases ran; exact .inr (.inl ⟨rfl,by simp [Task.stepsLeft]⟩)
  | resolve admission stationId =>
    cases releases
    have stepped := resolve_releases env o s admission stationId
    cases ran
    exact .inr (.inl stepped)
  | dispatch admission command =>
    cases releases
    unfold advance at ran
    dsimp only at ran
    split at ran
    · cases ran; exact .inr (.inl ⟨congrArg some matched,by simp [Task.stepsLeft]⟩)
    · cases ran; exact .inr (.inl ⟨rfl,by simp [Task.stepsLeft]⟩)
  | arm admission =>
    cases releases
    cases ran
    exact .inr (.inr ⟨_,rfl,by simp [Task.stepsLeft]⟩)
  | timer commandId requestId =>
    cases releases
    cases ran
    exact .inr (.inl ⟨rfl,by simp [Task.stepsLeft]⟩)
  | finish commandId result caller =>
    have same : commandId = id := by
      cases caller <;> first | exact Option.some.inj releases | cases releases
    subst same
    unfold advance at ran
    dsimp only at ran
    split at ran
    · rename_i absent
      cases ran
      exact .inl absent
    · cases ran
      exact .inl Table.get_erase_self
  | _ => cases releases

-- Where tasks stand after one of them moved.
theorem moved_self {tasks : List Task} (found : tasks[i]? = some task) :
    (tasks.set i next ++ spawned)[i]? = some next := by
  obtain ⟨inside,_⟩ := List.getElem?_eq_some_iff.mp found
  rw [List.getElem?_append_left (by simpa using inside),List.getElem?_set_self inside]

theorem moved_other {tasks : List Task} {t : Task} (other : j ≠ i) (found : tasks[j]? = some t) :
    (tasks.set i next ++ spawned)[j]? = some t := by
  obtain ⟨inside,_⟩ := List.getElem?_eq_some_iff.mp found
  rw [List.getElem?_append_left (by simpa using inside),List.getElem?_set_ne (Ne.symm other)]
  exact found

theorem moved_spawned {tasks : List Task} {t : Task} :
    (tasks.set i next ++ [t])[tasks.length]? = some t := by
  rw [List.getElem?_append_right (by simp)]
  simp

-- One own step of a covering task: the entry is gone, or a task closer to
-- removing it stands there; and a submit that returned has left a timer.
theorem release_step (ledger : Ledger s) (found : s.tasks[i]? = some task) (releases : task.releases = some id)
    (met : heard s (.run i o) = true) (taken : Step env s (.run i o) s') :
    (s'.inFlight[id]? = none ∨
      ∃ (j : Nat) (t : Task), s'.tasks[j]? = some t ∧ t.releases = some id ∧ t.stepsLeft < task.stepsLeft) ∧
    ∀ outcome, s'.tasks[i]? = some (.returned outcome) → s'.inFlight[id]? = none ∨
      ∃ (j : Nat) (requestId : String), s'.tasks[j]? = some (.timer id requestId) := by
  obtain ⟨task',after,next,spawned,found',ran,rfl⟩ := run_cases taken
  rw [found] at found'
  cases found'
  rcases advance_releases found (ledger.matched i task found) releases met ran with
    gone | ⟨closer,fewer⟩ | ⟨requestId,rfl,later⟩
  · exact ⟨.inl gone,fun _ _ => .inl gone⟩
  · refine ⟨.inr ⟨i,next,moved_self found,closer,fewer⟩,fun outcome returned => ?_⟩
    have stands : some next = some (.returned outcome) := (moved_self found).symm.trans returned
    cases stands
    cases closer
  · refine ⟨.inr ⟨_,_,moved_spawned,rfl,later⟩,fun _ _ => .inr ⟨_,requestId,moved_spawned⟩⟩

theorem covered_step (ledger : Ledger s) (covered : Covered s) (met : heard s action = true)
    (taken : Step env s action s') : Covered s' := by
  by_cases run : ∃ i o, action = .run i o
  · obtain ⟨i,o,rfl⟩ := run
    intro id item present
    obtain ⟨task,after,next,spawned,found,ran,rfl⟩ := run_cases taken
    rcases advance_entries ran present with old | mine
    · obtain ⟨j,t,there,releases⟩ := covered id item old
      by_cases same : j = i
      · subst same
        rw [found] at there
        cases there
        rcases (release_step ledger found releases met taken).1 with gone | ⟨k,u,stands,still,_⟩
        · rw [gone] at present; cases present
        · exact ⟨k,u,stands,still⟩
      · exact ⟨j,t,moved_other same there,releases⟩
    · exact ⟨i,next,moved_self found,mine⟩
  · have outside := step_outside taken fun i o same => run ⟨i,o,same⟩
    intro id item present
    rw [outside.inFlight] at present
    obtain ⟨j,t,there,releases⟩ := covered id item present
    exact ⟨j,t,outside.kept j t there,releases⟩

theorem covered_run {origin : RouterState} {actions : List Action} (start : Initial origin)
    (path : Transition.Runs (Transition.Under (fun s a => heard s a = true) (Step env)) origin actions s) :
    Ledger s ∧ Covered s := by
  have empty : Covered origin := by
    intro id item present
    simp [start.inFlight] at present
  exact path.invariant (fun s => Ledger s ∧ Covered s) ⟨start.ledger,empty⟩
    fun _ _ _ both taken => ⟨ledger_step both.1 taken.2,covered_step both.1 both.2 taken.1 taken.2⟩

-- While every acknowledgement of an insertion is heard, each entry has a submit
-- or a timer that is within six own steps of its removal.
theorem inFlight_released {origin : RouterState} {actions : List Action} (start : Initial origin)
    (path : Transition.Runs (Transition.Under (fun s a => heard s a = true) (Step env)) origin actions s) :
    Covered s ∧
    ∀ (i : Nat) (o : Oracle) (task : Task) (id : CommandId) (s' : RouterState), s.tasks[i]? = some task →
      task.releases = some id → heard s (.run i o) = true → Step env s (.run i o) s' →
      (s'.inFlight[id]? = none ∨
        ∃ (j : Nat) (t : Task), s'.tasks[j]? = some t ∧ t.releases = some id ∧ t.stepsLeft < task.stepsLeft) ∧
      ∀ outcome, s'.tasks[i]? = some (.returned outcome) → s'.inFlight[id]? = none ∨
        ∃ (j : Nat) (requestId : String), s'.tasks[j]? = some (.timer id requestId) := by
  obtain ⟨ledger,covered⟩ := covered_run start path
  refine ⟨covered,?_⟩
  intro i o task id s' found releases met taken
  exact release_step ledger found releases met taken

theorem inFlight_released_muted : ∃ s, s.inFlight.toList.length = 1 ∧ Covered s := by
  obtain ⟨s,path,seen⟩ := Transition.guarded_reaches heard (execute onEpochDay) idle
    ([.call (.submit (mute 7))] ++ List.replicate 9 (.run 0 calm)) (fun s => s.inFlight.toList.length = 1) (by decide)
  exact ⟨s,of_decide_eq_true seen,(inFlight_released idle_initial path).1⟩

-- The controller disconnects between the insertion and its acknowledgement:
-- the submit returns, and nothing is left that would remove the entry.
theorem inFlight_orphaned : ¬ ∀ env s, Reached env s → Covered s := by
  intro claimed
  obtain ⟨s,path,seen⟩ := Transition.run_reaches (execute onEpochDay) idle
    ([.call (.submit (mute 7))] ++ List.replicate 5 (.run 0 calm) ++ [.registry ∅,.run 0 calm])
    (fun s => (s.inFlight[(⟨7⟩ : CommandId)]?).isSome && s.tasks.all fun t => t.releases ≠ some ⟨7⟩) (by decide)
  obtain ⟨present,unreleased⟩ := Bool.and_eq_true_iff.mp seen
  obtain ⟨item,found⟩ := Option.isSome_iff_exists.mp present
  obtain ⟨i,t,there,releases⟩ := claimed onEpochDay s ⟨idle,_,idle_initial,path⟩ ⟨7⟩ item found
  exact of_decide_eq_true (List.all_eq_true.mp unreleased t (List.mem_of_getElem? there)) releases

def Bounded (s : RouterState) : Prop :=
  (∀ connection, Table.count (fun _ item => item.controllerConnectionId = connection) s.inFlight
    ≤ maxConnectionInFlight) ∧
  ∀ target, Table.count (fun _ item => item.targetDeviceId = target) s.inFlight ≤ maxTargetInFlight

-- The capacity check, asked again at the insertion, still passes.
def roomy (s : RouterState) : Action → Bool
  | .run i _ => match s.tasks[i]? with
    | some (.insert admission) =>
      !overCapacity s.inFlight admission.controllerConnectionId admission.command.target.deviceId
    | _ => true
  | _ => true

theorem roomy_iff {admission : Admission} (found : s.tasks[i]? = some (.insert admission)) :
    roomy s (.run i o) = true ↔
    Table.count (fun _ item => item.controllerConnectionId = admission.controllerConnectionId) s.inFlight
      < maxConnectionInFlight ∧
    Table.count (fun _ item => item.targetDeviceId = admission.command.target.deviceId) s.inFlight
      < maxTargetInFlight := by
  simp [roomy,found,overCapacity]

-- An insertion under a new id adds one to the two counts it is about and
-- leaves every other count alone.
theorem bounded_insert {admission : Admission} (found : s.tasks[i]? = some (.insert admission))
    (absent : s.inFlight[admission.command.commandId]? = none) (bounded : Bounded s)
    (same : s'.inFlight = s.inFlight.insert admission.command.commandId admission.inFlight) :
    Bounded s' ↔ roomy s (.run i o) = true := by
  rw [roomy_iff found]
  have connections : Table.count (fun _ item => item.controllerConnectionId = admission.controllerConnectionId)
      s'.inFlight = Table.count (fun _ item => item.controllerConnectionId = admission.controllerConnectionId)
        s.inFlight + 1 := by
    rw [same]
    exact Table.count_insert_of_new absent (by simp [Admission.inFlight])
  have targets : Table.count (fun _ item => item.targetDeviceId = admission.command.target.deviceId)
      s'.inFlight = Table.count (fun _ item => item.targetDeviceId = admission.command.target.deviceId)
        s.inFlight + 1 := by
    rw [same]
    exact Table.count_insert_of_new absent (by simp [Admission.inFlight])
  constructor
  · intro after
    have first := after.1 admission.controllerConnectionId
    have second := after.2 admission.command.target.deviceId
    omega
  · rintro ⟨first,second⟩
    refine ⟨fun connection => ?_,fun target => ?_⟩
    · by_cases mine : admission.controllerConnectionId = connection
      · subst mine; omega
      · rw [same]
        exact le_trans (Table.count_insert_of_not (by simp [Admission.inFlight,mine])) (bounded.1 connection)
    · by_cases mine : admission.command.target.deviceId = target
      · subst mine; omega
      · rw [same]
        exact le_trans (Table.count_insert_of_not (by simp [Admission.inFlight,mine])) (bounded.2 target)

theorem bounded_of_covered (bounded : Bounded s)
    (fewer : ∀ (id : CommandId) (item : InFlight), s'.inFlight[id]? = some item → s.inFlight[id]? = some item) :
    Bounded s' :=
  ⟨fun connection => le_trans (Table.count_le fun id item found chosen => ⟨item,fewer id item found,chosen⟩)
      (bounded.1 connection),
    fun target => le_trans (Table.count_le fun id item found chosen => ⟨item,fewer id item found,chosen⟩)
      (bounded.2 target)⟩

theorem bounded_step (ledger : Ledger s) (bounded : Bounded s) (taken : Step env s action s') :
    Bounded s' ↔ roomy s action = true := by
  by_cases inserting : ∃ i o admission, action = .run i o ∧ s.tasks[i]? = some (.insert admission)
  · obtain ⟨i,o,admission,rfl,found⟩ := inserting
    obtain ⟨task,after,next,spawned,found',ran,rfl⟩ := run_cases taken
    rw [found] at found'
    cases found'
    cases ran
    exact bounded_insert found (ledger.apart i _ _ _ found rfl) bounded rfl
  · have passes : roomy s action = true := by
      cases action with
      | run i o =>
        cases found : s.tasks[i]? with
        | none => simp [roomy,found]
        | some task =>
          cases task with
          | insert admission => exact absurd ⟨i,o,admission,rfl,found⟩ inserting
          | _ => simp [roomy,found]
      | _ => rfl
    refine iff_of_true (bounded_of_covered bounded fun id item present => ?_) passes
    by_cases run : ∃ i o, action = .run i o
    · obtain ⟨i,o,rfl⟩ := run
      obtain ⟨task,after,next,spawned,found,ran,rfl⟩ := run_cases taken
      obtain ⟨effect,_,_⟩ := advance_effect ran
      cases effect with
      | quiet _ _ _ inFlight => exact inFlight ▸ present
      | reserve _ inFlight => exact inFlight ▸ present
      | insert => exact absurd ⟨i,o,_,rfl,found⟩ inserting
      | remove => exact (Table.get_erase_some present).2
      | settle _ _ _ _ inFlight => exact inFlight ▸ present
      | report _ _ _ inFlight => exact inFlight ▸ present
    · have outside := step_outside taken fun i o same => run ⟨i,o,same⟩
      exact outside.inFlight ▸ present

-- The bounds hold all along a run exactly when each of its insertions still
-- passed the check.
theorem capacity_bounded {origin : RouterState} {actions : List Action} (start : Initial origin) :
    (Transition.Runs (Transition.Under (fun s a => roomy s a = true) (Step env)) origin actions s → Bounded s) ∧
    (Transition.Runs (fun s a s' => Step env s a s' ∧ Bounded s') origin actions s →
      Transition.Runs (Transition.Under (fun s a => roomy s a = true) (Step env)) origin actions s) := by
  have empty : Bounded origin := by
    refine ⟨fun _ => ?_,fun _ => ?_⟩
    · rw [start.inFlight]; exact Nat.zero_le _
    · rw [start.inFlight]; exact Nat.zero_le _
  have exact := @Transition.Runs.exactly RouterState Action (Step env) origin s actions (fun s a => roomy s a = true)
    (fun s => Ledger s ∧ Bounded s) Bounded ⟨start.ledger,empty⟩
    (fun _ _ _ both taken room => ⟨ledger_step both.1 taken,(bounded_step both.1 both.2 taken).mpr room⟩)
    (fun _ _ _ both taken after => (bounded_step both.1 both.2 taken).mp after)
  exact ⟨fun path => (exact.1 path).2,exact.2⟩

theorem capacity_bounded_muted : ∃ s, s.inFlight.toList.length = 1 ∧ Bounded s := by
  obtain ⟨s,path,seen⟩ := Transition.guarded_reaches roomy (execute onEpochDay) idle
    ([.call (.submit (mute 7))] ++ List.replicate 9 (.run 0 calm)) (fun s => s.inFlight.toList.length = 1) (by decide)
  exact ⟨s,of_decide_eq_true seen,(capacity_bounded idle_initial).1 path⟩

-- Nine submits for one target all pass the check before any of them inserts.
def stampede : List Action :=
  (List.range 9).map (fun k => .call (.submit (mute k))) ++
  (List.range 9).flatMap (fun k => List.replicate 4 (.run k calm)) ++
  (List.range 9).map (fun k => .run k calm)

theorem capacity_exceeded : ¬ ∀ env s, Reached env s → Bounded s := by
  intro claimed
  obtain ⟨s,path,seen⟩ := Transition.run_reaches (execute onEpochDay) idle stampede
    (fun s => maxTargetInFlight < Table.count (fun _ item => item.targetDeviceId = ⟨20⟩) s.inFlight) (by decide)
  have bound := (claimed onEpochDay s ⟨idle,_,idle_initial,path⟩).2 ⟨20⟩
  have exceeded := of_decide_eq_true seen
  omega

end DeviceControl
