import RockServer.CommandCapacity

namespace DeviceControl
open Transition (Under run_sound guarded_under guarded)

-- The command a submit may still send to its target.
def Task.dispatches : Task → Option CommandId
  | .capacity admission | .insert admission | .received admission | .resolve admission _
  | .dispatch admission _ => some admission.command.commandId
  | _ => none

def Event.dispatched (id : CommandId) : Event → Bool
  | .sent _ (.deviceCommand command) _ => command.commandId = id
  | _ => false

-- Stored rows are younger than a day: a reservation meets fresh rows only and
-- a sweep finds nothing to delete.
def young (s : RouterState) : Action → Bool
  | .run i o => match s.tasks[i]? with
    | some (.reserve admission) =>
      (s.store.commands[admission.command.commandId]?).all fun row => row.fresh o.now
    | _ => true
  | .prune now _ => s.store.commands.toList.all fun entry => !StoreState.expired now entry.2
  | _ => true

-- The same stored request, whatever has become of it.
def CommandRow.Continues (row' row : CommandRow) : Prop := row' = {row with state := row'.state}

-- A step that a task took itself: where, with what from outside, and what it
-- put on record.
structure Turn where
  state : RouterState
  oracle : Oracle
  events : List Event

-- A run seen from one task: any interleaving, with that task's own turns.
inductive Watched (env : RouterEnv) (i : Nat) : RouterState → List Turn → RouterState → Prop where
  | nil {s} : Watched env i s [] s
  | own {origin turns middle o after events} : Watched env i origin turns middle →
      Under (fun s a => young s a = true) (Step env) middle (.run i o) after →
      after.journal = middle.journal ++ events → Watched env i origin (turns ++ [⟨middle,o,events⟩]) after
  | other {origin turns middle action after} : Watched env i origin turns middle →
      Under (fun s a => young s a = true) (Step env) middle action after →
      (∀ o, action ≠ .run i o) → Watched env i origin turns after

-- The outcome on record for a command, as long as its device is still listed.
def persisted (s : RouterState) (admission : Admission) : Option CommandResult :=
  if s.store.devices.any fun entry => entry.1 = admission.command.target.deviceId then
    (s.store.commands[admission.command.commandId]?).bind fun row => row.state.result
  else none

def Admission.acknowledged (admission : Admission) (at_ : Timestamp) : Event :=
  .sent admission.controller (.commandReceived ⟨admission.command.commandId,at_,true⟩) none
def Admission.answered (admission : Admission) (result : CommandResult) : Event :=
  .sent admission.controller (.commandResult result) none

-- What a replay's turn can meet: a load that fails or comes through, and a frame
-- to the controller that its connection refuses or takes.
def Turn.unreadable (turn : Turn) : Prop := turn.oracle.storeFails.isSome = true ∧ turn.events = []
def Turn.loads (turn : Turn) : Prop := turn.oracle.storeFails = none ∧ turn.events = []
def Turn.refused (turn : Turn) (admission : Admission) : Prop :=
  ConnectionRegistry.reachable turn.state.registry admission.controller = none ∧ turn.events = []
def Turn.delivers (turn : Turn) (admission : Admission) (event : Event) : Prop :=
  (ConnectionRegistry.reachable turn.state.registry admission.controller).isSome = true ∧ turn.events = [event]

def Turn.acknowledges (turn : Turn) (env : RouterEnv) (admission : Admission) : Prop :=
  turn.delivers admission (admission.acknowledged (timestamp env turn.oracle.now))

-- How far a replay has come in its turns. It ends with an error only after a load
-- that failed or a frame that was refused.
inductive Replaying (env : RouterEnv) (admission : Admission) : List Turn → Task → Prop where
  | load : Replaying env admission [] (.loadReplay admission)
  | unloaded {load} : load.unreadable →
      Replaying env admission [load] (.returned (.error .persistenceUnavailable))
  | receive {load} : load.loads →
      Replaying env admission [load] (.replayReceived admission (persisted load.state admission))
  | unreceived {load receipt} : load.loads → receipt.refused admission →
      Replaying env admission [load,receipt] (.returned (.error .targetOffline))
  | pending {load receipt} : load.loads → persisted load.state admission = none →
      receipt.acknowledges env admission → Replaying env admission [load,receipt] (.returned (.ok ()))
  | result {load receipt result} : load.loads → persisted load.state admission = some result →
      receipt.acknowledges env admission → Replaying env admission [load,receipt] (.replayResult admission result)
  | cut {load receipt answer result} : load.loads → persisted load.state admission = some result →
      receipt.acknowledges env admission → answer.refused admission →
      Replaying env admission [load,receipt,answer] (.returned (.error .targetOffline))
  | done {load receipt answer result} : load.loads → persisted load.state admission = some result →
      receipt.acknowledges env admission → answer.delivers admission (admission.answered result) →
      Replaying env admission [load,receipt,answer] (.returned (.ok ()))
  | ended {turns turn outcome} : Replaying env admission turns (.returned outcome) → turn.events = [] →
      Replaying env admission (turns ++ [turn]) (.returned outcome)

variable {env : RouterEnv} {o : Oracle} {s s' : RouterState} {task next : Task} {spawned : List Task}
variable {i j : Nat} {action : Action} {id : CommandId}

theorem CommandRow.Continues.refl (row : CommandRow) : row.Continues row := rfl

theorem CommandRow.Continues.trans {first second third : CommandRow} (later : third.Continues second)
    (earlier : second.Continues first) : third.Continues first := by
  unfold Continues at later earlier ⊢
  rw [later,earlier]

-- The three things a step can do to the command table.
theorem advance_store (ran : advance env o s task = (s',next,spawned)) :
    s'.store = s.store ∨
    (∃ admission, task = .reserve admission ∧ s.store.reserveCommand o.now admission.ownerId
      admission.command.target.deviceId admission.reservation = (.ok .accepted,s'.store)) ∨
    ∃ owner target result, s.store.completeCommand owner target result = (.ok .accepted,s'.store) := by
  by_cases reserving : ∃ admission, task = .reserve admission
  · obtain ⟨admission,rfl⟩ := reserving
    simp only [advance] at ran
    cases ran
    unfold reserve
    split
    · -- An unacknowledged commit counts as well.
      rename_i answer store committed reserved _
      cases committed with
      | false => exact .inl rfl
      | true =>
        by_cases accepted : answer = .ok .accepted
        · exact .inr (.inl ⟨admission,rfl,accepted ▸ reserved⟩)
        · exact .inl (StoreState.reserve_unchanged reserved accepted)
    · exact .inl rfl
    · exact .inl rfl
    · rename_i reserved _
      exact .inr (.inl ⟨admission,rfl,reserved⟩)
    · exact .inl rfl
    · exact .inl rfl
  · obtain ⟨effect,_,_⟩ := advance_effect ran
    cases effect with
    | quiet _ _ store => exact .inl store
    | reserve => exact absurd ⟨_,rfl⟩ reserving
    | insert | remove => exact .inl rfl
    | settle claim _ _ answer => exact .inr (.inr ⟨_,_,_,answer⟩)
    | report _ _ store => exact .inl store

-- Among young rows an accepted reservation is the first of its id.
theorem young_reserve {admission : Admission} {store : StoreState}
    (found : s.tasks[i]? = some (.reserve admission)) (met : young s (.run i o) = true)
    (answer : s.store.reserveCommand o.now admission.ownerId admission.command.target.deviceId
      admission.reservation = (.ok .accepted,store)) :
    s.store.commands[admission.command.commandId]? = none := by
  obtain ⟨stale,_⟩ := StoreState.reserve_accepted answer
  simp only [young,found] at met
  cases present : s.store.commands[admission.command.commandId]? with
  | none => rfl
  | some row =>
    rw [present,Option.all_some] at met
    rw [(stale row present).2] at met
    cases met

-- Young rows stay, with the request they were made for.
theorem young_rows (met : young s action = true) (taken : Step env s action s') {row : CommandRow}
    (stored : s.store.commands[id]? = some row) :
    ∃ row', s'.store.commands[id]? = some row' ∧ row'.Continues row := by
  rcases step_cases taken with ⟨_,rfl,rfl⟩ | ⟨i,o,task,after,next,spawned,rfl,found,ran,rfl⟩ | ⟨_,rfl,rfl⟩ |
    ⟨_,_,rfl,rfl⟩ | ⟨now,limit,rfl,rfl⟩
  · exact ⟨row,stored,.refl row⟩
  · dsimp only
    rcases advance_store ran with same | ⟨admission,rfl,answer⟩ | ⟨owner,target,result,answer⟩
    · exact ⟨row,by rw [same]; exact stored,.refl row⟩
    · have absent := young_reserve found met answer
      obtain ⟨_,new,_,_,_,_,store⟩ := StoreState.reserve_accepted answer
      have different : admission.command.commandId ≠ id := by
        intro same
        rw [same,stored] at absent
        cases absent
      refine ⟨row,?_,.refl row⟩
      rw [store]
      exact (Table.get_insert_ne different).trans stored
    · obtain ⟨old,was,_,_,_,store⟩ := StoreState.complete_accepted answer
      rw [store]
      dsimp only
      rw [Table.get_insert]
      split
      · rename_i same
        rw [same,stored] at was
        cases was
        exact ⟨_,rfl,rfl⟩
      · exact ⟨row,stored,.refl row⟩
  · exact ⟨row,stored,.refl row⟩
  · exact ⟨row,stored,.refl row⟩
  · refine ⟨row,?_,.refl row⟩
    rcases StoreState.prune_cases s.store now limit id with same | ⟨_,old,was,expired⟩
    · exact same.trans stored
    · have kept := List.all_eq_true.mp met (id,old) (Table.mem_entries.mpr was)
      rw [expired] at kept
      cases kept

theorem next_dispatches (caller : Caller) (env : RouterEnv) (now : Instant) :
    (caller.next env now).dispatches = none := by
  unfold Caller.next
  split <;> rfl

theorem begin_dispatches (env : RouterEnv) (o : Oracle) (s : RouterState) (call : Call) :
    (begin env o s call).2.dispatches = none := by
  unfold begin
  cases call with
  | submit call => dsimp only; split <;> rfl
  | accepted owner device connection accepted =>
    dsimp only
    repeat' split
    all_goals rfl
  | result owner device connection result hasStore =>
    dsimp only
    repeat' split
    all_goals rfl
  | disconnected owner device connection hasStore =>
    dsimp only
    split
    · rfl
    · exact next_dispatches _ env _

-- Who may dispatch next: whoever might before, unless that was the dispatch
-- itself, or the submit whose reservation was just accepted.
theorem advance_dispatches (ran : advance env o s task = (s',next,spawned)) :
    next.dispatches = none ∨ (next.dispatches = task.dispatches ∧ ∀ admission command, task ≠ .dispatch admission command) ∨
    ∃ admission, task = .reserve admission ∧ next.dispatches = some admission.command.commandId ∧
      s.store.reserveCommand o.now admission.ownerId admission.command.target.deviceId admission.reservation =
        (.ok .accepted,s'.store) := by
  cases task with
  | start call =>
    have unsent := begin_dispatches env o s call
    cases ran
    exact .inl unsent
  | reserve admission =>
    simp only [advance] at ran
    cases ran
    unfold reserve
    split
    case h_4 reserved _ => exact .inr (.inr ⟨admission,rfl,rfl,reserved⟩)
    all_goals exact .inl rfl
  | capacity admission =>
    unfold advance at ran
    dsimp only at ran
    split at ran
    · cases ran; exact .inl rfl
    · cases ran; exact .inr (.inl ⟨rfl,by simp⟩)
  | insert admission => cases ran; exact .inr (.inl ⟨rfl,by simp⟩)
  | received admission =>
    unfold advance at ran
    dsimp only at ran
    split at ran
    · cases ran; exact .inl rfl
    · split at ran
      · cases ran; exact .inr (.inl ⟨rfl,by simp⟩)
      · cases ran; exact .inr (.inl ⟨rfl,by simp⟩)
  | resolve admission stationId =>
    simp only [advance] at ran
    cases ran
    unfold resolve
    dsimp only
    split
    · exact .inl rfl
    · split
      · exact .inr (.inl ⟨rfl,by simp⟩)
      · exact .inl rfl
      · exact .inl rfl
  | lookup call now =>
    unfold advance at ran
    dsimp only at ran
    repeat' split at ran
    all_goals cases ran; exact .inl rfl
  | ownership call =>
    unfold advance at ran
    dsimp only at ran
    repeat' split at ran
    all_goals cases ran; exact .inl rfl
  | loadReplay admission =>
    unfold advance at ran
    dsimp only at ran
    split at ran <;> cases ran <;> exact .inl rfl
  | replayReceived admission persisted =>
    unfold advance at ran
    dsimp only at ran
    split at ran <;> cases ran <;> exact .inl rfl
  | replayResult admission persisted =>
    unfold advance at ran
    dsimp only at ran
    split at ran <;> cases ran <;> exact .inl rfl
  | reject admission => cases ran; exact .inl rfl
  | dispatch admission command =>
    unfold advance at ran
    dsimp only at ran
    split at ran <;> cases ran <;> exact .inl rfl
  | arm admission => cases ran; exact .inl rfl
  | timer commandId requestId => cases ran; exact .inl rfl
  | finish commandId result caller =>
    unfold advance at ran
    dsimp only at ran
    split at ran
    · cases ran; exact .inl (next_dispatches caller env _)
    · cases ran; exact .inl rfl
  | complete item result caller =>
    unfold advance at ran
    dsimp only at ran
    split at ran
    · cases ran; exact .inl rfl
    · cases ran; exact .inl (next_dispatches caller env _)
  | notify item result caller reservation => cases ran; exact .inl (next_dispatches caller env _)
  | returned outcome => cases ran; exact .inl rfl

-- One submit at most may still dispatch an id, and none once it was dispatched.
structure DispatchedOnce (s : RouterState) : Prop where
  rows : ∀ id, (∃ event ∈ s.journal, event.dispatched id = true) → ∃ row, s.store.commands[id]? = some row
  open_ : ∀ (i : Nat) (t : Task) id, s.tasks[i]? = some t → t.dispatches = some id →
    (∃ row, s.store.commands[id]? = some row) ∧ ∀ event ∈ s.journal, event.dispatched id = false
  single : ∀ (i j : Nat) (t u : Task) id, s.tasks[i]? = some t → s.tasks[j]? = some u →
    t.dispatches = some id → u.dispatches = some id → i = j
  once : ∀ id, s.journal.countP (Event.dispatched id) ≤ 1

theorem Initial.dispatchedOnce (start : Initial s) : DispatchedOnce s := by
  refine ⟨?_,?_,?_,?_⟩ <;> simp [start.journal,start.tasks]

-- A recorded dispatch is that of the task standing before it.
theorem emits_dispatched {event : Event} (matched : task.Matched) (origin : task.emits event)
    (mark : event.dispatched id = true) :
    task.dispatches = some id ∧ ∃ admission command, task = .dispatch admission command := by
  cases event with
  | reserved | completed => cases mark
  | sent receiver frame number =>
    cases frame with
    | deviceCommand command =>
      cases number with
      | none =>
        obtain ⟨admission,rfl,_⟩ := origin
        have same : command.commandId = id := of_decide_eq_true mark
        exact ⟨congrArg some (matched.symm.trans same),admission,command,rfl⟩
      | some n =>
        obtain ⟨_,_,_,_,impossible,_⟩ := origin
        cases impossible
    | _ => cases mark

-- A young row stays, whatever becomes of it.
theorem young_kept (met : young s action = true) (taken : Step env s action s')
    (present : ∃ row, s.store.commands[id]? = some row) : ∃ row, s'.store.commands[id]? = some row := by
  obtain ⟨row,stored⟩ := present
  obtain ⟨row',still,_⟩ := young_rows met taken stored
  exact ⟨row',still⟩

-- What a step records, it records for its task.
theorem advance_recorded (ran : advance env o s task = (s',next,spawned)) {event : Event} (member : event ∈ s'.journal) :
    event ∈ s.journal ∨ task.emits event := by
  rcases advance_records ran with same | ⟨new,journal,origin⟩
  · exact .inl (same ▸ member)
  · rw [journal] at member
    rcases List.mem_append.mp member with old | added
    · exact .inl old
    · exact .inr (List.mem_singleton.mp added ▸ origin)

theorem advance_counted (matched : task.Matched) (ran : advance env o s task = (s',next,spawned)) (id : CommandId) :
    s'.journal.countP (Event.dispatched id) ≤ s.journal.countP (Event.dispatched id) +
      if task.dispatches = some id then 1 else 0 := by
  rcases advance_records ran with same | ⟨new,journal,origin⟩
  · rw [same]
    exact Nat.le_add_right _ _
  · rw [journal,List.countP_append,List.countP_singleton]
    by_cases mark : new.dispatched id = true
    · rw [if_pos (emits_dispatched matched origin mark).1,if_pos mark]
    · rw [if_neg mark]
      omega

-- A dispatch that the step did not make itself was unsent before and is after.
theorem advance_unsent (matched : task.Matched) (ran : advance env o s task = (s',next,spawned))
    (unsent : ∀ event ∈ s.journal, event.dispatched id = false)
    (silent : task.dispatches = some id → ∀ admission command, task ≠ .dispatch admission command) :
    ∀ event ∈ s'.journal, event.dispatched id = false := by
  intro event member
  rcases advance_recorded ran member with old | origin
  · exact unsent event old
  · cases mark : event.dispatched id with
    | false => rfl
    | true =>
      obtain ⟨mine,admission,command,sending⟩ := emits_dispatched matched origin mark
      exact absurd sending (silent mine admission command)

-- A task that may dispatch after a step might before, or was just admitted.
theorem advance_source (found : s.tasks[i]? = some task) (met : young s (.run i o) = true)
    (ran : advance env o s task = (s',next,spawned)) (mine : next.dispatches = some id) :
    (task.dispatches = some id ∧ ∀ admission command, task ≠ .dispatch admission command) ∨
    (s.store.commands[id]? = none ∧ ∃ row, s'.store.commands[id]? = some row) := by
  rcases advance_dispatches ran with nothing | ⟨same,other⟩ | ⟨admission,rfl,this,answer⟩
  · rw [nothing] at mine
    cases mine
  · exact .inl ⟨same ▸ mine,other⟩
  · rw [this] at mine
    cases mine
    refine .inr ⟨young_reserve found met answer,?_⟩
    obtain ⟨_,row,_,_,_,_,store⟩ := StoreState.reserve_accepted answer
    rw [store]
    refine ⟨row,?_⟩
    dsimp only [Admission.reservation]
    rw [Table.get_insert,if_pos rfl]

-- Before a first reservation nothing was dispatched and no task may.
theorem DispatchedOnce.unused (once : DispatchedOnce s) (absent : s.store.commands[id]? = none) :
    (∀ event ∈ s.journal, event.dispatched id = false) ∧
    ∀ (j : Nat) (t : Task), s.tasks[j]? = some t → t.dispatches ≠ some id := by
  refine ⟨fun event member => ?_,fun j t there may => ?_⟩
  · cases mark : event.dispatched id with
    | false => rfl
    | true =>
      obtain ⟨row,stored⟩ := once.rows id ⟨event,member,mark⟩
      rw [absent] at stored
      cases stored
  · obtain ⟨⟨row,stored⟩,_⟩ := once.open_ j t id there may
    rw [absent] at stored
    cases stored

theorem dispatched_run (ledger : Ledger s) (once : DispatchedOnce s) (met : young s (.run i o) = true)
    (taken : Step env s (.run i o) s') : DispatchedOnce s' := by
  have kept : ∀ {id : CommandId}, (∃ row, s.store.commands[id]? = some row) → ∃ row, s'.store.commands[id]? = some row :=
    young_kept met taken
  obtain ⟨task,after,next,spawned,found,ran,rfl⟩ := run_cases taken
  obtain ⟨_,_,timers⟩ := advance_effect ran
  have matched := ledger.matched i task found
  -- Only the running task can have come to a dispatch that another may make too.
  have sole : ∀ {k : Nat} {u : Task} {id : CommandId}, s.tasks[k]? = some u → u.dispatches = some id →
      next.dispatches = some id → i = k := by
    intro k u id there may mine
    rcases advance_source found met ran mine with ⟨same,_⟩ | ⟨absent,_⟩
    · exact once.single i k task u id found there same may
    · exact absurd may ((once.unused absent).2 k u there)
  refine ⟨?_,?_,?_,?_⟩
  · rintro id ⟨event,member,mark⟩
    rcases advance_recorded ran member with old | origin
    · exact kept (once.rows id ⟨event,old,mark⟩)
    · exact kept (once.open_ i task id found (emits_dispatched matched origin mark).1).1
  · intro j t id there may
    rcases slot_cases timers there with ⟨rfl,rfl⟩ | ⟨other,old⟩ | ⟨_,_,rfl⟩
    · rcases advance_source found met ran may with ⟨mine,notYet⟩ | ⟨absent,row,stored⟩
      · obtain ⟨row,unsent⟩ := once.open_ j task id found mine
        have still := advance_unsent matched ran unsent fun _ => notYet
        exact ⟨kept row,still⟩
      · have still := advance_unsent matched ran (once.unused absent).1 fun mine =>
          absurd mine ((once.unused absent).2 j task found)
        exact ⟨⟨row,stored⟩,still⟩
    · obtain ⟨row,unsent⟩ := once.open_ j t id old may
      have still := advance_unsent matched ran unsent fun mine =>
        absurd (once.single j i t task id old found may mine) other
      exact ⟨kept row,still⟩
    · cases may
  · intro j k t u id therej therek mayt mayu
    rcases slot_cases timers therej with ⟨rfl,rfl⟩ | ⟨_,oldj⟩ | ⟨_,_,rfl⟩
    · rcases slot_cases timers therek with ⟨rfl,_⟩ | ⟨_,oldk⟩ | ⟨_,_,rfl⟩
      · rfl
      · exact sole oldk mayu mayt
      · cases mayu
    · rcases slot_cases timers therek with ⟨rfl,rfl⟩ | ⟨_,oldk⟩ | ⟨_,_,rfl⟩
      · exact (sole oldj mayt mayu).symm
      · exact once.single j k t u id oldj oldk mayt mayu
      · cases mayu
    · cases mayt
  · intro id
    have bound := advance_counted matched ran id
    by_cases mine : task.dispatches = some id
    · have zero : s.journal.countP (Event.dispatched id) = 0 :=
        List.countP_eq_zero.mpr fun event member => by simp [(once.open_ i task id found mine).2 event member]
      rw [if_pos mine] at bound
      dsimp only
      omega
    · have before := once.once id
      rw [if_neg mine] at bound
      dsimp only
      omega

theorem dispatched_step (ledger : Ledger s) (once : DispatchedOnce s) (met : young s action = true)
    (taken : Step env s action s') : DispatchedOnce s' := by
  by_cases run : ∃ i o, action = .run i o
  · obtain ⟨i,o,rfl⟩ := run
    exact dispatched_run ledger once met taken
  · have outside := step_outside taken fun i o same => run ⟨i,o,same⟩
    have before : ∀ (i : Nat) (t : Task) id, s'.tasks[i]? = some t → t.dispatches = some id → s.tasks[i]? = some t := by
      intro i t id there may
      rcases outside.tasks i t there with old | ⟨_,rfl⟩
      · exact old
      · cases may
    refine ⟨?_,?_,?_,?_⟩
    · rw [outside.journal]
      exact fun id sent => young_kept met taken (once.rows id sent)
    · intro i t id there may
      obtain ⟨row,unsent⟩ := once.open_ i t id (before i t id there may) may
      exact ⟨young_kept met taken row,outside.journal ▸ unsent⟩
    · intro i j t u id therei therej mayt mayu
      exact once.single i j t u id (before i t id therei mayt) (before j u id therej mayu) mayt mayu
    · rw [outside.journal]
      exact once.once

theorem dispatched_reached {origin : RouterState} {actions : List Action} (start : Initial origin)
    (path : Transition.Runs (Under (fun s a => young s a = true) (Step env)) origin actions s) :
    Ledger s ∧ DispatchedOnce s :=
  path.invariant (fun s => Ledger s ∧ DispatchedOnce s) ⟨start.ledger,start.dispatchedOnce⟩
    fun _ _ _ both taken => ⟨ledger_step both.1 taken.2,dispatched_step both.1 both.2 taken.1 taken.2⟩

theorem continues_reached {actions : List Action} {row : CommandRow}
    (path : Transition.Runs (Under (fun s a => young s a = true) (Step env)) s actions s')
    (stored : s.store.commands[id]? = some row) :
    ∃ row', s'.store.commands[id]? = some row' ∧ row'.Continues row := by
  induction path with
  | nil => exact ⟨row,stored,.refl row⟩
  | snoc _ taken ih =>
    obtain ⟨middle,still,since⟩ := ih
    obtain ⟨row',now,later⟩ := young_rows taken.1 taken.2 still
    exact ⟨row',now,later.trans since⟩

-- What the admission checks have established by the time a task stands there.
def Task.Admitted (env : RouterEnv) : Task → Prop
  | .lookup call now => call.command.validateAt (timestamp env now) = .ok ()
  | .reserve admission => admission.command.validateAt admission.deadlineAt = .ok ()
  | _ => True

theorem checkController_valid {now : Instant} {registry : ConnectionRegistry} {call : SubmitCall}
    (passed : checkController env now registry call = .ok ()) :
    call.command.validateAt (timestamp env now) = .ok () := by
  unfold checkController at passed
  split at passed
  · cases passed
  · split at passed
    · cases passed
    · split at passed
      · cases passed
      · rename_i valid
        exact valid

-- The deadline the router fills in is within bounds of itself.
theorem checkTarget_valid {now : Instant} {call : SubmitCall} {target : ActiveDevice} {admission : Admission}
    (valid : call.command.validateAt (timestamp env now) = .ok ())
    (passed : checkTarget env now call target = .ok admission) :
    admission.command.validateAt admission.deadlineAt = .ok () := by
  obtain ⟨targetOk,_,bodyOk⟩ := validateAt_iff.mp valid
  unfold checkTarget at passed
  split at passed
  · cases passed
  · split at passed
    · cases passed
    · split at passed
      · cases passed
      · dsimp only at passed
        split at passed
        · cases passed
        · cases passed
          refine validateAt_iff.mpr ⟨targetOk,?_,bodyOk⟩
          intro deadline same
          cases same
          simp

theorem next_admitted (caller : Caller) (env : RouterEnv) (now : Instant) : (caller.next env now).Admitted env := by
  unfold Caller.next
  split <;> trivial

theorem begin_admitted (env : RouterEnv) (o : Oracle) (s : RouterState) (call : Call) :
    (begin env o s call).2.Admitted env := by
  unfold begin
  cases call with
  | submit call =>
    dsimp only
    split
    · trivial
    · rename_i passed
      exact checkController_valid passed
  | accepted owner device connection accepted =>
    dsimp only
    repeat' split
    all_goals trivial
  | result owner device connection result hasStore =>
    dsimp only
    repeat' split
    all_goals trivial
  | disconnected owner device connection hasStore =>
    dsimp only
    split
    · trivial
    · exact next_admitted _ env _

theorem advance_admitted (admitted : task.Admitted env) (ran : advance env o s task = (s',next,spawned)) :
    next.Admitted env ∧ ∀ t ∈ spawned, t.Admitted env := by
  have timers : ∀ t ∈ spawned, t.Admitted env := by
    intro t member
    obtain ⟨_,_,rfl⟩ := (advance_effect ran).2.2 t member
    trivial
  refine ⟨?_,timers⟩
  clear timers
  cases task with
  | start call =>
    have begun := begin_admitted env o s call
    cases ran
    exact begun
  | lookup call now =>
    unfold advance at ran
    dsimp only at ran
    split at ran
    · cases ran; trivial
    · split at ran
      · cases ran; trivial
      · rename_i passed
        cases ran
        exact checkTarget_valid admitted passed
  | reserve admission =>
    simp only [advance] at ran
    cases ran
    unfold reserve
    split <;> trivial
  | resolve admission stationId =>
    simp only [advance] at ran
    cases ran
    unfold resolve
    dsimp only
    repeat' split
    all_goals trivial
  | finish commandId result caller =>
    unfold advance at ran
    dsimp only at ran
    split at ran
    · cases ran; exact next_admitted caller env _
    · cases ran; trivial
  | complete item result caller =>
    unfold advance at ran
    dsimp only at ran
    split at ran
    · cases ran; trivial
    · cases ran; exact next_admitted caller env _
  | notify item result caller reservation => cases ran; exact next_admitted caller env _
  | reject admission => cases ran; trivial
  | insert admission => cases ran; trivial
  | arm admission => cases ran; trivial
  | timer commandId requestId => cases ran; trivial
  | returned outcome => cases ran; trivial
  | _ =>
    unfold advance at ran
    dsimp only at ran
    repeat' split at ran
    all_goals cases ran; trivial

theorem admitted_step (admitted : ∀ (i : Nat) (t : Task), s.tasks[i]? = some t → t.Admitted env)
    (taken : Step env s action s') : ∀ (i : Nat) (t : Task), s'.tasks[i]? = some t → t.Admitted env := by
  intro j t there
  by_cases run : ∃ i o, action = .run i o
  · obtain ⟨i,o,rfl⟩ := run
    obtain ⟨task,after,next,spawned,found,ran,rfl⟩ := run_cases taken
    obtain ⟨_,_,timers⟩ := advance_effect ran
    rcases slot_cases timers there with ⟨_,rfl⟩ | ⟨_,old⟩ | ⟨_,_,rfl⟩
    · exact (advance_admitted (admitted i task found) ran).1
    · exact admitted j t old
    · trivial
  · have outside := step_outside taken fun i o same => run ⟨i,o,same⟩
    rcases outside.tasks j t there with old | ⟨_,rfl⟩
    · exact admitted j t old
    · trivial

-- The reservation transaction of an admitted submit against a fresh row.
section answers
variable {admission : Admission} {row : CommandRow} (valid : (Task.reserve admission).Admitted env)
  (stored : s.store.commands[admission.command.commandId]? = some row) (fresh : row.fresh o.now = true)
  (owned : s.store.owned admission.ownerId admission.command.target.deviceId = true)
  (committed : o.storeFails = none)
include valid stored fresh owned committed

theorem reserve_replays (same : row.userId = admission.ownerId ∧
      row.targetDeviceId = admission.command.target.deviceId ∧ row.requestFingerprint = admission.fingerprint) :
    reserve o s admission = (s,.loadReplay admission) := by
  have answer : s.store.reserveCommand o.now admission.ownerId admission.command.target.deviceId
      admission.reservation = (.ok .replay,s.store) := by
    simp only [StoreState.reserveCommand,Admission.reservation]
    rw [show admission.command.validateAt admission.deadlineAt = .ok () from valid]
    simp [owned,stored,fresh,same]
  simp only [reserve,answer,committed]

theorem reserve_conflicts (different : ¬ (row.userId = admission.ownerId ∧
      row.targetDeviceId = admission.command.target.deviceId ∧ row.requestFingerprint = admission.fingerprint)) :
    reserve o s admission = (s,.returned (.error .duplicateCommand)) := by
  have answer : s.store.reserveCommand o.now admission.ownerId admission.command.target.deviceId
      admission.reservation = (.ok .conflict,s.store) := by
    simp only [StoreState.reserveCommand,Admission.reservation]
    rw [show admission.command.validateAt admission.deadlineAt = .ok () from valid]
    simp [owned,stored,fresh,different]
  simp only [reserve,answer,committed]

end answers

theorem Watched.runs {origin : RouterState} {turns : List Turn} (watched : Watched env i origin turns s) :
    ∃ actions, Transition.Runs (Under (fun s a => young s a = true) (Step env)) origin actions s := by
  induction watched with
  | nil => exact ⟨[],.nil⟩
  | own _ taken _ ih =>
    obtain ⟨actions,path⟩ := ih
    exact ⟨_,path.snoc taken⟩
  | other _ taken _ ih =>
    obtain ⟨actions,path⟩ := ih
    exact ⟨_,path.snoc taken⟩

-- A frame is delivered exactly to a connection that can be reached.
theorem send_reaches {receiver : Address} {frame : OutboundFrame} {mark : Option Nat} {delivered : Bool}
    (sent : s.send receiver frame mark = (s',delivered)) :
    (ConnectionRegistry.reachable s.registry receiver).isSome = delivered := by
  unfold RouterState.send ConnectionRegistry.sendTo at sent
  cases active : ConnectionRegistry.reachable s.registry receiver with
  | none =>
    rw [active] at sent
    cases sent
    rfl
  | some connection =>
    rw [active] at sent
    cases sent
    rfl

theorem delivery_cases {admission : Admission} {frame : OutboundFrame} {delivered : Bool} {events : List Event}
    (sent : s.send admission.controller frame none = (s',delivered))
    (journal : s'.journal = s.journal ++ events) : s'.store = s.store ∧ s'.inFlight = s.inFlight ∧
    (delivered = false ∧ Turn.refused ⟨s,o,events⟩ admission ∨
      delivered = true ∧ Turn.delivers ⟨s,o,events⟩ admission (.sent admission.controller frame none)) := by
  have reaches := send_reaches sent
  rcases send_cases sent with ⟨rfl,rfl⟩ | ⟨rfl,store,inFlight,recorded⟩
  · exact ⟨rfl,rfl,.inl ⟨rfl,by simpa using reaches,by simpa using journal⟩⟩
  · exact ⟨store,inFlight,.inr ⟨rfl,reaches,List.append_cancel_left (journal.symm.trans recorded)⟩⟩

-- Nothing but frames leaves a replay, and its next stage is a replay's again.
theorem replaying_advance {admission : Admission} {turns : List Turn} {events : List Event}
    (replaying : Replaying env admission turns task)
    (reads : task = .loadReplay admission → (s.store.loadCommand admission.ownerId
      admission.command.target.deviceId admission.command.commandId).bind (fun lifecycle => lifecycle.result) =
        persisted s admission)
    (ran : advance env o s task = (s',next,spawned)) (journal : s'.journal = s.journal ++ events) :
    s'.store = s.store ∧ s'.inFlight = s.inFlight ∧ Replaying env admission (turns ++ [⟨s,o,events⟩]) next := by
  cases replaying with
  | load =>
    unfold advance at ran
    dsimp only at ran
    split at ran
    · rename_i fails
      cases ran
      exact ⟨rfl,rfl,.unloaded ⟨fails,by simpa using journal⟩⟩
    · rename_i answers
      cases ran
      rw [reads rfl]
      exact ⟨rfl,rfl,@Replaying.receive env admission ⟨s,o,events⟩ ⟨by simpa using answers,by simpa using journal⟩⟩
  | receive loads =>
    unfold advance at ran
    dsimp only at ran
    split at ran
    · rename_i sent
      cases ran
      obtain ⟨store,inFlight,⟨_,refused⟩ | ⟨impossible,_⟩⟩ := delivery_cases (o:=o) sent journal
      · exact ⟨store,inFlight,.unreceived loads refused⟩
      · cases impossible
    · rename_i sent outcome
      cases ran
      obtain ⟨store,inFlight,⟨impossible,_⟩ | ⟨_,delivers⟩⟩ := delivery_cases (o:=o) sent journal
      · cases impossible
      · exact ⟨store,inFlight,.pending loads outcome delivers⟩
    · rename_i sent outcome
      cases ran
      obtain ⟨store,inFlight,⟨impossible,_⟩ | ⟨_,delivers⟩⟩ := delivery_cases (o:=o) sent journal
      · cases impossible
      · exact ⟨store,inFlight,.result loads outcome delivers⟩
  | result loads known acknowledged =>
    unfold advance at ran
    dsimp only at ran
    split at ran
    · rename_i sent
      cases ran
      obtain ⟨store,inFlight,⟨_,refused⟩ | ⟨impossible,_⟩⟩ := delivery_cases (o:=o) sent journal
      · exact ⟨store,inFlight,.cut loads known acknowledged refused⟩
      · cases impossible
    · rename_i sent
      cases ran
      obtain ⟨store,inFlight,⟨impossible,_⟩ | ⟨_,delivers⟩⟩ := delivery_cases (o:=o) sent journal
      · cases impossible
      · exact ⟨store,inFlight,.done loads known acknowledged delivers⟩
  | unloaded fails =>
    cases ran
    exact ⟨rfl,rfl,.ended (.unloaded fails) (by simpa using journal)⟩
  | unreceived loads refused =>
    cases ran
    exact ⟨rfl,rfl,.ended (.unreceived loads refused) (by simpa using journal)⟩
  | pending loads known acknowledged =>
    cases ran
    exact ⟨rfl,rfl,.ended (.pending loads known acknowledged) (by simpa using journal)⟩
  | cut loads known acknowledged refused =>
    cases ran
    exact ⟨rfl,rfl,.ended (.cut loads known acknowledged refused) (by simpa using journal)⟩
  | done loads known acknowledged delivers =>
    cases ran
    exact ⟨rfl,rfl,.ended (.done loads known acknowledged delivers) (by simpa using journal)⟩
  | ended returned quiet =>
    cases ran
    exact ⟨rfl,rfl,.ended (.ended returned quiet) (by simpa using journal)⟩

-- Another task's step, or the outside's, leaves this task where it stands.
theorem task_kept (found : s.tasks[i]? = some task) (taken : Step env s action s') (notMine : ∀ o, action ≠ .run i o) :
    s'.tasks[i]? = some task := by
  by_cases run : ∃ j o, action = .run j o
  · obtain ⟨j,o,rfl⟩ := run
    obtain ⟨_,_,next,spawned,_,_,rfl⟩ := run_cases taken
    exact moved_other (fun same => notMine o (by rw [same])) found
  · exact (step_outside taken fun j o same => run ⟨j,o,same⟩).kept i task found

-- While its row stays, loading it is reading its outcome.
theorem load_persisted {admission : Admission} {row : CommandRow}
    (stored : s.store.commands[admission.command.commandId]? = some row)
    (same : row.userId = admission.ownerId ∧ row.targetDeviceId = admission.command.target.deviceId) :
    ((s.store.loadCommand admission.ownerId admission.command.target.deviceId admission.command.commandId).bind
      fun lifecycle => lifecycle.result) = persisted s admission := by
  simp only [StoreState.loadCommand,persisted,stored,same,true_and]
  split <;> simp

theorem replaying_watched {admission : Admission} {row : CommandRow} {turns : List Turn}
    (found : s.tasks[i]? = some (.loadReplay admission))
    (stored : s.store.commands[admission.command.commandId]? = some row)
    (same : row.userId = admission.ownerId ∧ row.targetDeviceId = admission.command.target.deviceId)
    (watched : Watched env i s turns s') :
    ∃ t, s'.tasks[i]? = some t ∧ Replaying env admission turns t ∧
      ∀ o after, Step env s' (.run i o) after → after.store = s'.store ∧ after.inFlight = s'.inFlight := by
  -- The row stays on the way, so a load from here on reads its outcome.
  have reads : ∀ {middle : RouterState} {turns : List Turn}, Watched env i s turns middle →
      (middle.store.loadCommand admission.ownerId admission.command.target.deviceId
        admission.command.commandId).bind (fun lifecycle => lifecycle.result) = persisted middle admission := by
    intro middle turns before
    obtain ⟨actions,path⟩ := before.runs
    obtain ⟨row',still,continues⟩ := continues_reached path stored
    have owner : row'.userId = row.userId := by rw [continues]
    have target : row'.targetDeviceId = row.targetDeviceId := by rw [continues]
    exact load_persisted still ⟨owner.trans same.1,target.trans same.2⟩
  have stands : ∃ t, s'.tasks[i]? = some t ∧ Replaying env admission turns t := by
    induction watched with
    | nil => exact ⟨_,found,.load⟩
    | @own turns middle o after events before taken journal ih =>
      obtain ⟨t,there,replaying⟩ := ih
      obtain ⟨task,after,next,spawned,there',ran,rfl⟩ := run_cases taken.2
      rw [there] at there'
      cases there'
      obtain ⟨_,_,later⟩ := replaying_advance replaying (fun _ => reads before) ran journal
      exact ⟨next,moved_self there,later⟩
    | other _ taken notMine ih =>
      obtain ⟨t,there,replaying⟩ := ih
      exact ⟨t,task_kept there taken.2 notMine,replaying⟩
  obtain ⟨t,there,replaying⟩ := stands
  refine ⟨t,there,replaying,?_⟩
  intro o after taken
  obtain ⟨task,after,next,spawned,there',ran,rfl⟩ := run_cases taken
  rw [there] at there'
  cases there'
  obtain ⟨events,journal⟩ : ∃ events, after.journal = s'.journal ++ events := by
    rcases advance_records ran with same | ⟨event,one,_⟩
    · exact ⟨[],by simpa using same⟩
    · exact ⟨[event],one⟩
  obtain ⟨store,inFlight,_⟩ := replaying_advance replaying (fun _ => reads watched) ran journal
  exact ⟨store,inFlight⟩

-- Among young rows: an id is dispatched at most once; an admitted submit that
-- repeats a stored request replays it and touches nothing; one that differs in
-- owner, target or digest is a duplicate and leaves no trace.
theorem submit_idempotent {origin : RouterState} {actions : List Action} (start : Initial origin)
    (path : Transition.Runs (Under (fun s a => young s a = true) (Step env)) origin actions s) :
    (∀ id, s.journal.countP (Event.dispatched id) ≤ 1) ∧
    ∀ (i : Nat) (o : Oracle) (admission : Admission) (row : CommandRow) (s' : RouterState),
      s.tasks[i]? = some (.reserve admission) →
      s.store.commands[admission.command.commandId]? = some row →
      s.store.owned admission.ownerId admission.command.target.deviceId = true → o.storeFails = none →
      Under (fun s a => young s a = true) (Step env) s (.run i o) s' →
      ((row.userId = admission.ownerId ∧ row.targetDeviceId = admission.command.target.deviceId ∧
          row.requestFingerprint = admission.fingerprint) →
        s' = {s with tasks := s.tasks.set i (.loadReplay admission)} ∧
        ∀ turns later, Watched env i s' turns later → ∃ t, later.tasks[i]? = some t ∧
          Replaying env admission turns t ∧ ∀ o after, Step env later (.run i o) after →
            after.store = later.store ∧ after.inFlight = later.inFlight) ∧
      (¬ (row.userId = admission.ownerId ∧ row.targetDeviceId = admission.command.target.deviceId ∧
          row.requestFingerprint = admission.fingerprint) →
        s' = {s with tasks := s.tasks.set i (.returned (.error .duplicateCommand))}) := by
  refine ⟨(dispatched_reached start path).2.once,?_⟩
  intro i o admission row s' found stored owned committed taken
  have admitted := path.invariant (fun s => ∀ (i : Nat) (t : Task), s.tasks[i]? = some t → t.Admitted env)
    (by simp [start.tasks]) (fun _ _ _ admitted taken => admitted_step admitted taken.2)
  have valid := admitted i _ found
  have fresh : row.fresh o.now = true := by
    have met := taken.1
    simpa [young,found,stored] using met
  obtain ⟨_,after,next,spawned,found',ran,moved⟩ := run_cases taken.2
  rw [found] at found'
  cases found'
  simp only [advance] at ran
  constructor
  · intro same
    rw [reserve_replays valid stored fresh owned committed same] at ran
    cases ran
    rw [List.append_nil] at moved
    refine ⟨moved,?_⟩
    intro turns later watched
    have loading : s'.tasks[i]? = some (.loadReplay admission) := by
      obtain ⟨inside,_⟩ := List.getElem?_eq_some_iff.mp found
      rw [moved]
      exact List.getElem?_set_self inside
    have kept : s'.store.commands[admission.command.commandId]? = some row := by rw [moved]; exact stored
    exact replaying_watched loading kept ⟨same.1,same.2.1⟩ watched
  · intro different
    rw [reserve_conflicts valid stored fresh owned committed different] at ran
    cases ran
    rw [List.append_nil] at moved
    exact moved

-- A command is dispatched and its result is stored, then the identical request
-- arrives again and is answered from the row.
def mutedNow : CommandResult := ⟨⟨7⟩,.succeeded,timestamp onEpochDay 0,none⟩

def retried : List Action :=
  [.call (.submit (mute 7))] ++ List.replicate 9 (.run 0 calm) ++
  [.call (.result 1 20 200 mutedNow true)] ++ List.replicate 4 (.run 2 calm) ++
  [.call (.submit (mute 7)),.run 3 calm,.run 3 calm]

def mutedAgain : Admission :=
  ⟨1,10,100,"request",timestamp onEpochDay 0,
    ⟨⟨7⟩,⟨⟨20⟩,none,none⟩,some (timestamp onEpochDay (seconds 10)),.volume (.setMute true)⟩,
    200,Vector.replicate 32 0,timestamp onEpochDay (seconds 10)⟩

theorem submit_idempotent_retried : ∃ s s' turns later, s.journal.countP (Event.dispatched ⟨7⟩) ≤ 1 ∧
    Step onEpochDay s (.run 3 calm) s' ∧ s' = {s with tasks := s.tasks.set 3 (.loadReplay mutedAgain)} ∧
    Watched onEpochDay 3 s' turns later ∧ later.tasks[3]? = some (.returned (.ok ())) ∧
    Replaying onEpochDay mutedAgain turns (.returned (.ok ())) ∧ turns.flatMap Turn.events =
      [mutedAgain.acknowledged (timestamp onEpochDay 0),mutedAgain.answered mutedNow] := by
  have ran : (Transition.run (guarded young (execute onEpochDay)) idle retried).isSome := by decide
  have path := (run_sound (Option.some_get ran).symm).mono fun _ _ _ taken => guarded_under taken
  obtain ⟨once,replays⟩ := submit_idempotent idle_initial path
  have moves : (execute onEpochDay (Option.get _ ran) (.run 3 calm)).isSome := rfl
  have taken : Step onEpochDay _ (.run 3 calm) _ := (Option.some_get moves).symm
  obtain ⟨stands,answers⟩ := (replays 3 calm mutedAgain _ _ rfl rfl rfl rfl ⟨rfl,taken⟩).1 ⟨rfl,rfl,rfl⟩
  -- Its three turns: the load, the acknowledgement and the stored result.
  have loads : (execute onEpochDay (Option.get _ moves) (.run 3 calm)).isSome := rfl
  have acknowledges : (execute onEpochDay (Option.get _ loads) (.run 3 calm)).isSome := rfl
  have finishes : (execute onEpochDay (Option.get _ acknowledges) (.run 3 calm)).isSome := rfl
  have first : Watched onEpochDay 3 (Option.get _ moves) ([] ++ [⟨_,calm,[]⟩]) (Option.get _ loads) :=
    .own .nil ⟨rfl,(Option.some_get loads).symm⟩ rfl
  have second : Watched onEpochDay 3 (Option.get _ moves)
      (_ ++ [⟨_,calm,[mutedAgain.acknowledged (timestamp onEpochDay 0)]⟩]) (Option.get _ acknowledges) :=
    .own first ⟨rfl,(Option.some_get acknowledges).symm⟩ rfl
  have third : Watched onEpochDay 3 (Option.get _ moves) (_ ++ [⟨_,calm,[mutedAgain.answered mutedNow]⟩])
      (Option.get _ finishes) :=
    .own second ⟨rfl,(Option.some_get finishes).symm⟩ rfl
  obtain ⟨t,there,replaying,_⟩ := answers _ _ third
  have returned : (Option.get _ finishes).tasks[3]? = some (.returned (.ok ())) := rfl
  cases Option.some.inj (there.symm.trans returned)
  exact ⟨_,_,_,_,once ⟨7⟩,taken,stands,third,returned,replaying,rfl⟩

-- Admission comes before the store: for a stored id, another account's submit
-- is refused without ever being compared with the row.
theorem other_owner_forbidden : ¬ ∀ env s i o call row s' outcome, Reached env s →
    s.tasks[i]? = some (.start (.submit call)) → s.store.commands[call.command.commandId]? = some row →
    row.fresh o.now = true → row.userId ≠ call.ownerId → Step env s (.run i o) s' →
    s'.tasks[i]? = some (.returned outcome) → outcome = .error .duplicateCommand := by
  intro claimed
  have ran : (Transition.run (execute onEpochDay) idle ([.call (.submit (mute 7))] ++
      List.replicate 9 (.run 0 calm) ++ [.call (.submit {mute 7 with ownerId := 2})])).isSome := by decide
  have reached : Reached onEpochDay _ := ⟨idle,_,idle_initial,run_sound (Option.some_get ran).symm⟩
  have same := claimed onEpochDay _ 2 calm {mute 7 with ownerId := 2} _ _ (.error .forbidden) reached rfl rfl rfl
    (by decide) rfl rfl
  cases same

end DeviceControl
