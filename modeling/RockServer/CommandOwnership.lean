import RockServer.CommandCapacity

-- Who is to end the open rows of a process.
namespace DeviceControl

-- Rows from a number on that are still open have an owner: a running submit or
-- finish, or an entry in the in-flight map.
def Owned (first : Nat) (s : RouterState) : Prop :=
  ∀ (id : CommandId) (row : CommandRow), s.store.commands[id]? = some row → row.state = .reserved → first ≤ row.reservation →
    (∃ (i : Nat) (t : Task) (claim : Claim), s.tasks[i]? = some t ∧ t.holds = some (id,claim)) ∨
      ∃ item, s.inFlight[id]? = some item

-- The terminal write of a row finds its device still active and is not lost.
def RouterState.completes (s : RouterState) (o : Oracle) (owner : Uuid) (target : DeviceId) : Bool :=
  s.store.owned owner target && o.storeFails ≠ some false

-- The step's terminal write completes, or its reservation is not made without an answer.
def Task.settles (s : RouterState) (o : Oracle) : Task → Bool
  | .complete item result _ => result.validate.isOk && s.completes o item.ownerId item.targetDeviceId
  | .reject admission => s.completes o admission.ownerId admission.command.target.deviceId
  | .reserve admission => !(o.storeFails = some true &&
      (s.store.reserveCommand o.now admission.ownerId admission.command.target.deviceId admission.reservation).1 = .ok .accepted)
  | _ => true

def settling (s : RouterState) : Action → Bool
  | .run i o => (s.tasks[i]?).all (Task.settles s o)
  | _ => true

variable {env : RouterEnv} {o : Oracle} {s s' : RouterState} {task next : Task} {spawned : List Task}
variable {i j first : Nat} {action : Action} {id : CommandId} {claim : Claim} {result : CommandResult}

-- The row behind a claim takes a terminal result just where its device is active.
theorem complete_backed {store : StoreState} {answer : Except StoreError StoreOutcome} (backed : Backed s result.commandId claim)
    (ran : s.store.completeCommand claim.ownerId claim.targetDeviceId result = (answer,store)) :
    answer = .ok .accepted ↔ result.validate.isOk = true ∧ s.store.owned claim.ownerId claim.targetDeviceId = true := by
  obtain ⟨row,found,reserved,user,target,_⟩ := backed
  unfold StoreState.completeCommand at ran
  split at ran
  · rename_i invalid
    cases ran
    simp [invalid,Except.isOk,Except.toBool]
  · rename_i valid
    simp only [valid,Except.isOk,Except.toBool,true_and]
    split at ran
    · rename_i other
      cases ran
      simpa using other
    · rename_i active
      rw [found] at ran
      simp only [user,target,ne_eq,not_true_eq_false,or_self,if_false,reserved] at ran
      cases ran
      simpa using active

theorem complete_settles (claim : Claim) (backed : Backed s result.commandId claim) {settled : Option Nat}
    (ran : s.complete o claim.ownerId claim.targetDeviceId result = (s',settled)) :
    ((result.validate.isOk && s.completes o claim.ownerId claim.targetDeviceId) = true →
      ∃ row : CommandRow, s'.store.commands[result.commandId]? = some row ∧ row.state ≠ .reserved) ∧
    ((result.validate.isOk && s.completes o claim.ownerId claim.targetDeviceId) = false → s' = s) := by
  have sound := backed
  obtain ⟨row,found,_⟩ := sound
  cases answered : s.store.completeCommand claim.ownerId claim.targetDeviceId result with
  | mk answer store =>
    have accepts := complete_backed backed answered
    simp only [RouterState.complete,answered,found] at ran
    by_cases accepted : answer = .ok .accepted
    · obtain ⟨valid,active⟩ := accepts.mp accepted
      subst accepted
      obtain ⟨old,_,_,_,_,stored⟩ := StoreState.complete_accepted answered
      have closed : ∃ row : CommandRow, store.commands[result.commandId]? = some row ∧ row.state ≠ .reserved := by
        refine ⟨{old with state := .completed result},?_,nofun⟩
        rw [stored]
        exact Std.ExtTreeMap.getElem?_insert_self
      dsimp only at ran
      cases failed : o.storeFails with
      | none =>
        simp only [failed] at ran
        cases ran
        exact ⟨fun _ => closed,by simp [RouterState.completes,active,failed,valid]⟩
      | some committed =>
        cases committed with
        | true =>
          simp only [failed] at ran
          cases ran
          exact ⟨fun _ => closed,by simp [RouterState.completes,active,failed,valid]⟩
        | false =>
          simp only [failed] at ran
          cases ran
          exact ⟨by simp [RouterState.completes,failed],fun _ => rfl⟩
    · have same : s' = s := by
        split at ran
        · rename_i equal _
          exact absurd (congrArg Prod.fst equal) accepted
        · cases ran
          rfl
      refine ⟨fun both => ?_,fun _ => same⟩
      obtain ⟨valid,completes⟩ := Bool.and_eq_true_iff.mp both
      exact absurd (accepts.mpr ⟨valid,(Bool.and_eq_true_iff.mp completes).1⟩) accepted

theorem settling_run (found : s.tasks[i]? = some task) : settling s (.run i o) = task.settles s o := by
  simp only [settling,found,Option.all_some]

-- What a task holds it passes on, or it closes the row.
theorem advance_holds (ran : advance env o s task = (s',next,spawned)) (held : task.holds = some (id,claim))
    (backed : Backed s id claim) (met : task.settles s o = true) :
    (∃ claim, next.holds = some (id,claim)) ∨ (∃ item, s'.inFlight[id]? = some item) ∨
      ∃ row : CommandRow, s'.store.commands[id]? = some row ∧ row.state ≠ .reserved := by
  cases task with
  | capacity admission =>
    unfold advance at ran
    dsimp only at ran
    split at ran <;> cases ran <;> exact .inl ⟨claim,held⟩
  | insert admission =>
    cases ran
    cases held
    exact .inr (.inl ⟨_,Std.ExtTreeMap.getElem?_insert_self⟩)
  | reject admission =>
    cases held
    generalize settled : s.complete o admission.ownerId admission.command.target.deviceId
      (terminal env o.now admission.command.commandId admission.requestId .tooManyInFlight) = pair at ran
    obtain ⟨after,mark⟩ := pair
    simp only [advance,settled] at ran
    cases ran
    have closes := (complete_settles admission.claim backed settled).1
    exact .inr (.inr (closes met))
  | complete item result caller =>
    cases held
    unfold advance at ran
    dsimp only at ran
    split at ran
    · rename_i settled
      cases ran
      have closes := (complete_settles item.claim backed settled).1
      exact .inr (.inr (closes met))
    · rename_i settled
      cases ran
      have closes := (complete_settles item.claim backed settled).1
      exact .inr (.inr (closes met))
  | _ => cases held

-- An entry stays, or the task that took it out holds the command.
theorem advance_flying {item : InFlight} (ran : advance env o s task = (s',next,spawned)) (matched : task.Matched)
    (flies : s.inFlight[id]? = some item) : (∃ item, s'.inFlight[id]? = some item) ∨ ∃ claim, next.holds = some (id,claim) := by
  obtain ⟨effect,_,_⟩ := advance_effect ran
  cases effect with
  | quiet _ _ _ inFlight => exact .inl ⟨item,inFlight ▸ flies⟩
  | reserve _ inFlight => exact .inl ⟨item,inFlight ▸ flies⟩
  | @insert admission =>
    refine .inl ?_
    dsimp only
    rw [Table.get_insert]
    split
    · exact ⟨_,rfl⟩
    · exact ⟨item,flies⟩
  | @remove commandId result caller taken _ =>
    dsimp only
    rw [Table.get_erase]
    split
    · rename_i same
      exact .inr ⟨taken.claim,by rw [← same,← matched]; rfl⟩
    · exact .inl ⟨item,flies⟩
  | settle _ _ _ _ inFlight => exact .inl ⟨item,inFlight ▸ flies⟩
  | report _ _ _ inFlight => exact .inl ⟨item,inFlight ▸ flies⟩

theorem reserve_answers {admission : Admission} (ran : reserve o s admission = (s',next))
    (met : (Task.reserve admission).settles s o = true) : s'.store = s.store ∨ next = .capacity admission := by
  unfold reserve at ran
  split at ran
  · rename_i answer store committed answered failed
    cases ran
    cases committed with
    | false => exact .inl rfl
    | true =>
      refine .inl (StoreState.reserve_unchanged answered fun accepted => ?_)
      simp [Task.settles,failed,answered,accepted] at met
  · cases ran; exact .inl rfl
  · cases ran; exact .inl rfl
  · cases ran; exact .inr rfl
  · cases ran; exact .inl rfl
  · cases ran; exact .inl rfl

-- An open row was open before, or the task that reserved it holds it.
theorem advance_opens {row : CommandRow} (ran : advance env o s task = (s',next,spawned)) (met : task.settles s o = true)
    (stored : s'.store.commands[id]? = some row) (open_ : row.state = .reserved) :
    s.store.commands[id]? = some row ∨ ∃ claim, next.holds = some (id,claim) := by
  obtain ⟨effect,_,_⟩ := advance_effect ran
  cases effect with
  | quiet _ _ store => exact .inl (store ▸ stored)
  | insert | remove => exact .inl stored
  | report _ _ store => exact .inl (store ▸ stored)
  | settle _ _ _ answer =>
    obtain ⟨old,_,_,_,_,became⟩ := StoreState.complete_accepted answer
    rw [became,Table.get_insert] at stored
    split at stored
    · cases stored
      cases open_
    · exact .inl stored
  | @reserve admission s' next now answer inFlight outcome =>
    have moved : reserve o s admission = (s',next) := by
      simp only [advance,Prod.mk.injEq] at ran
      exact Prod.ext ran.1 ran.2.1
    rcases reserve_answers moved met with same | rfl
    · exact .inl (same ▸ stored)
    · obtain ⟨_,new,_,_,_,_,became⟩ := StoreState.reserve_accepted answer
      rw [became,Table.get_insert] at stored
      split at stored
      · rename_i same
        exact .inr ⟨admission.claim,by rw [← same]; rfl⟩
      · exact .inl stored

-- A settling step leaves every open row with an owner.
theorem owned_step (ledger : Ledger s) (owned : Owned first s) (met : settling s action = true)
    (taken : Step env s action s') : Owned first s' := by
  by_cases run : ∃ i o, action = .run i o
  · obtain ⟨i,o,rfl⟩ := run
    obtain ⟨task,after,next,spawned,found,ran,rfl⟩ := run_cases taken
    rw [settling_run found] at met
    have moved : ∀ {id : CommandId}, (∃ claim, next.holds = some (id,claim)) → ∃ (i' : Nat) (t : Task) (claim : Claim),
        (s.tasks.set i next ++ spawned)[i']? = some t ∧ t.holds = some (id,claim) := fun ⟨claim,holds⟩ =>
      ⟨i,next,claim,moved_self found,holds⟩
    intro id row stored opened later
    rcases advance_opens ran met stored opened with old | mine
    · rcases owned id row old opened later with ⟨j,t,claim,there,holds⟩ | ⟨item,flies⟩
      · by_cases same : j = i
        · subst same
          cases found.symm.trans there
          rcases advance_holds ran holds (ledger.held _ _ _ _ found holds) met with mine | flying | ⟨closed,stands,shut⟩
          · exact .inl (moved mine)
          · exact .inr flying
          · cases stands.symm.trans stored
            exact absurd opened shut
        · exact .inl ⟨j,t,claim,moved_other same there,holds⟩
      · rcases advance_flying ran (ledger.matched i task found) flies with flying | mine
        · exact .inr flying
        · exact .inl (moved mine)
    · exact .inl (moved mine)
  · have outside := step_outside taken fun i o same => run ⟨i,o,same⟩
    intro id row stored opened later
    rcases owned id row (outside.rows id row stored) opened later with ⟨j,t,claim,there,holds⟩ | ⟨item,flies⟩
    · exact .inl ⟨j,t,claim,outside.kept j t there,holds⟩
    · exact .inr ⟨item,outside.inFlight ▸ flies⟩

-- What a process has reserved so far carries the numbers since its start.
structure Since (first : Nat) (s : RouterState) : Prop where
  next : first ≤ s.store.nextReservation
  made : ∀ n id claim, Event.reserved n id claim ∈ s.journal → first ≤ n

theorem since_step (since : Since first s) (taken : Step env s action s') : Since first s' := by
  have grows := (step_rows taken).1
  refine ⟨since.next.trans grows,?_⟩
  by_cases run : ∃ i o, action = .run i o
  · obtain ⟨i,o,rfl⟩ := run
    obtain ⟨task,after,next,spawned,found,ran,rfl⟩ := run_cases taken
    obtain ⟨effect,_,_⟩ := advance_effect ran
    intro n id claim member
    cases effect with
    | quiet frames plain _ _ journal =>
      rw [journal] at member
      rcases List.mem_append.mp member with old | new
      · exact since.made n id claim old
      · exact absurd (plain _ new) (by simp [Event.plain])
    | reserve _ _ outcome =>
      rcases outcome with ⟨_,journal⟩ | ⟨_,journal⟩
      · rw [journal] at member
        rcases List.mem_append.mp member with old | new
        · exact since.made n id claim old
        · cases List.mem_singleton.mp new
          exact since.next
      · exact since.made n id claim (journal ▸ member)
    | insert | remove => exact since.made n id claim member
    | settle _ _ _ _ _ journal =>
      rw [journal] at member
      rcases List.mem_append.mp member with old | new
      · exact since.made n id claim old
      · cases List.mem_singleton.mp new
    | report _ _ _ _ journal =>
      rw [journal] at member
      rcases List.mem_append.mp member with old | new
      · exact since.made n id claim old
      · cases List.mem_singleton.mp new
  · have outside := step_outside taken fun i o same => run ⟨i,o,same⟩
    rw [outside.journal]
    exact since.made

-- A command that one task alone held has no owner once the task is past it.
theorem orphaned (ledger : Ledger s) (since : Since first s) (found : s.tasks[i]? = some task)
    (holds : task.holds = some (id,claim)) (store : s'.store = s.store) (inFlight : s'.inFlight = s.inFlight)
    (tasks : ∀ (j : Nat) (t : Task) (claim : Claim), s'.tasks[j]? = some t → t.holds = some (id,claim) → j ≠ i ∧ s.tasks[j]? = some t) :
    ¬ Owned first s' := by
  intro owned
  obtain ⟨row,stored,opened,_,_,made⟩ := ledger.held i task id claim found holds
  rcases owned id row (store ▸ stored) opened (since.made _ _ _ made) with ⟨j,t,claim',there,theirs⟩ | ⟨item,flies⟩
  · obtain ⟨other,there⟩ := tasks j t claim' there theirs
    exact other (ledger.single j i t task id claim' claim there found theirs holds)
  · rw [inFlight,ledger.apart i task id claim found holds] at flies
    cases flies

theorem held_elsewhere (ran : advance env o s task = (s',next,spawned)) (quiet : next.holds = none) {t : Task}
    (there : (s.tasks.set i next ++ spawned)[j]? = some t) (holds : t.holds = some (id,claim)) : j ≠ i ∧ s.tasks[j]? = some t := by
  rcases slot_cases (advance_effect ran).2.2 there with ⟨_,rfl⟩ | elsewhere | ⟨_,_,rfl⟩
  · rw [quiet] at holds
    cases holds
  · exact elsewhere
  · cases holds

-- Any other step leaves an open row without one.
theorem unsettled_step (ledger : Ledger s) (since : Since first s) (missed : settling s action = false)
    (taken : Step env s action s') : ¬ Owned first s' := by
  cases action with
  | run i o =>
    obtain ⟨task,after,next,spawned,found,ran,rfl⟩ := run_cases taken
    rw [settling_run found] at missed
    have left : ∀ {id : CommandId} {claim : Claim}, task.holds = some (id,claim) → after = s → next.holds = none →
        ¬ Owned first {after with tasks := s.tasks.set i next ++ spawned} := by
      intro id claim holds same quiet
      refine orphaned ledger since found holds (show after.store = s.store by rw [same])
        (show after.inFlight = s.inFlight by rw [same]) ?_
      intro j t claim' there theirs
      exact held_elsewhere ran quiet there theirs
    cases task with
    | complete item result caller =>
      have backed := ledger.held i _ _ _ found rfl
      have stood := ran
      unfold advance at stood
      dsimp only at stood
      split at stood
      · rename_i settled
        have same := (complete_settles item.claim backed settled).2 missed
        cases stood
        exact left rfl same rfl
      · rename_i settled
        have same := (complete_settles item.claim backed settled).2 missed
        cases stood
        exact left rfl same (next_quiet caller env o.now).1
    | reject admission =>
      have backed := ledger.held i _ _ _ found rfl
      generalize settled : s.complete o admission.ownerId admission.command.target.deviceId
        (terminal env o.now admission.command.commandId admission.requestId .tooManyInFlight) = pair at *
      obtain ⟨other,mark⟩ := pair
      have stood := ran
      simp only [advance,settled] at stood
      have same := (complete_settles admission.claim backed settled).2 missed
      cases stood
      exact left rfl same rfl
    | reserve admission =>
      simp only [Task.settles,Bool.not_eq_false',Bool.and_eq_true,decide_eq_true_eq] at missed
      obtain ⟨failed,accepted⟩ := missed
      cases answered : s.store.reserveCommand o.now admission.ownerId admission.command.target.deviceId admission.reservation with
      | mk answer store =>
        rw [answered] at accepted
        cases accepted
        have stood := ran
        simp only [advance,reserve,answered,failed] at stood
        cases stood
        obtain ⟨_,row,_,_,opened,number,became⟩ := StoreState.reserve_accepted answered
        intro owned
        have stored : store.commands[admission.command.commandId]? = some row := by
          rw [became]
          exact Std.ExtTreeMap.getElem?_insert_self
        rcases owned _ row stored opened (number ▸ since.next) with ⟨j,t,claim,there,holds⟩ | ⟨item,flies⟩
        · obtain ⟨_,there⟩ := held_elsewhere ran rfl there holds
          exact (backed_reserved answered (ledger.held j t _ claim there holds)).1 rfl
        · exact (backed_reserved answered (ledger.flying _ item flies)).1 rfl
    | _ => cases missed
  | _ => cases missed

-- Every open row that a process made has an owner throughout a run just where every
-- step of it settles.
theorem commands_owned {origin : RouterState} {actions : List Action} (start : Initial origin) :
    (Transition.Runs (Transition.Under (fun s a => settling s a = true) (Step env)) origin actions s →
      Owned origin.store.nextReservation s) ∧
    (Transition.Runs (fun s a s' => Step env s a s' ∧ Owned origin.store.nextReservation s') origin actions s →
      Transition.Runs (Transition.Under (fun s a => settling s a = true) (Step env)) origin actions s) := by
  have sound : Ledger origin ∧ Since origin.store.nextReservation origin ∧ Owned origin.store.nextReservation origin := by
    refine ⟨start.ledger,⟨le_rfl,fun n id claim made => ?_⟩,fun id row stored _ later => ?_⟩
    · rw [start.journal] at made
      cases made
    · exact absurd (start.store.issued id row stored) (Nat.not_lt.mpr later)
  have met := @Transition.Runs.exactly RouterState Action (Step env) origin s actions (fun s a => settling s a = true)
    (fun s => Ledger s ∧ Since origin.store.nextReservation s ∧ Owned origin.store.nextReservation s)
    (Owned origin.store.nextReservation) sound
    (fun s a s' holds taken met => ⟨ledger_step holds.1 taken,since_step holds.2.1 taken,owned_step holds.1 holds.2.2 met taken⟩)
    (fun s a s' holds taken good => by
      cases met : settling s a with
      | true => rfl
      | false => exact absurd good (unsettled_step holds.1 holds.2.1 met taken))
  exact ⟨fun path => (met.1 path).2.2,met.2⟩

theorem commands_owned_muted : ∃ s, (s.store.commands[(⟨7⟩ : CommandId)]?).any (fun row => row.state = .reserved) = true ∧
    Owned 0 s := by
  obtain ⟨s,path,seen⟩ := Transition.guarded_reaches settling (execute onEpochDay) idle
    ([.call (.submit (mute 7))] ++ List.replicate 9 (.run 0 calm))
    (fun s => (s.store.commands[(⟨7⟩ : CommandId)]?).any fun row => row.state = .reserved) (by decide)
  exact ⟨s,seen,(commands_owned idle_initial).1 path⟩

-- The target reports its result, and the write of it fails: the entry is gone, the
-- row stays open, and the timer finds nothing.
theorem command_abandoned : ¬ ∀ env origin actions s, Initial origin → Transition.Runs (Step env) origin actions s →
    Owned origin.store.nextReservation s := by
  intro claimed
  obtain ⟨s,path,seen⟩ := Transition.run_reaches (execute onEpochDay) idle
    ([.call (.submit (mute 7))] ++ List.replicate 9 (.run 0 calm) ++
      [.call (.result 1 20 200 ⟨⟨7⟩,.succeeded,⟨"1970-01-01T00:00:00Z",0⟩,none⟩ true)] ++
      [.run 2 calm,.run 2 calm,.run 2 ⟨0,some false,.unavailable⟩,.run 1 calm,.run 1 calm])
    (fun s => (s.store.commands[(⟨7⟩ : CommandId)]?).any (fun row => row.state = .reserved) &&
      (s.inFlight[(⟨7⟩ : CommandId)]?).isNone && s.tasks.all fun t => t.holds = none) (by decide)
  simp only [Bool.and_eq_true] at seen
  obtain ⟨⟨opened,gone⟩,idle_tasks⟩ := seen
  obtain ⟨row,stored,reserved⟩ := (Option.any_eq_true _ _).mp opened
  rcases claimed onEpochDay idle _ s idle_initial path ⟨7⟩ row stored (of_decide_eq_true reserved) (Nat.zero_le _) with
    ⟨i,t,claim,there,holds⟩ | ⟨item,flies⟩
  · have none_held := of_decide_eq_true (List.all_eq_true.mp idle_tasks t (List.mem_of_getElem? there))
    rw [holds] at none_held
    cases none_held
  · rw [flies] at gone
    cases gone

end DeviceControl
