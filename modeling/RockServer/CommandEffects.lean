import RockServer.CommandRouter

namespace DeviceControl

-- A task holds a command while it alone may end it outside the in-flight map:
-- between reservation and insertion, and between removal and completion.
def Task.holds : Task → Option (CommandId × Claim)
  | .capacity admission | .reject admission | .insert admission =>
    some (admission.command.commandId,admission.claim)
  | .complete item result _ => some (result.commandId,item.claim)
  | _ => none

-- The terminal report a task is about to send, with the row it completed.
def Task.reports : Task → Option (Nat × Claim × CommandResult)
  | .notify item result _ reservation => some (reservation,item.claim,result)
  | _ => none

-- Every caller of `finish` passes the id its result carries, and resolution
-- changes the body of a command only.
def Task.Matched : Task → Prop
  | .finish commandId result _ => result.commandId = commandId
  | .dispatch admission command => command.commandId = admission.command.commandId
  | _ => True

-- Neither a lifecycle mark nor a terminal report.
def Event.plain : Event → Prop
  | .sent _ _ none => True
  | _ => False

-- All that one step of a task can do to the command table, the in-flight map
-- and the history. Every invariant below is read off these cases.
inductive Effect (s : RouterState) : Task → RouterState → Task → Prop where
  | quiet {task s' next} (frames : List Event) (plain : ∀ event ∈ frames, event.plain)
      (store : s'.store = s.store) (inFlight : s'.inFlight = s.inFlight)
      (journal : s'.journal = s.journal ++ frames)
      (holds : next.holds = none ∨ next.holds = task.holds) (reports : next.reports = none) :
      Effect s task s' next
  | reserve {admission s' next now}
      (answer : s.store.reserveCommand now admission.ownerId admission.command.target.deviceId
        admission.reservation = (.ok .accepted,s'.store))
      (inFlight : s'.inFlight = s.inFlight)
      (outcome : next = .capacity admission ∧ s'.journal = s.journal ++
          [.reserved s.store.nextReservation admission.command.commandId admission.claim] ∨
        next.holds = none ∧ s'.journal = s.journal)
      (reports : next.reports = none) : Effect s (.reserve admission) s' next
  | insert {admission} : Effect s (.insert admission)
      {s with inFlight := s.inFlight.insert admission.command.commandId admission.inFlight} (.received admission)
  | remove {commandId result caller item} (found : s.inFlight[commandId]? = some item) :
      Effect s (.finish commandId result caller)
        {s with inFlight := s.inFlight.erase commandId} (.complete item result caller)
  | settle {task s' next result row} (claim : Claim) (held : task.holds = some (result.commandId,claim))
      (found : s.store.commands[result.commandId]? = some row)
      (answer : s.store.completeCommand claim.ownerId claim.targetDeviceId result = (.ok .accepted,s'.store))
      (inFlight : s'.inFlight = s.inFlight)
      (journal : s'.journal = s.journal ++ [.completed row.reservation result])
      (holds : next.holds = none)
      (reports : next.reports = none ∨ next.reports = some (row.reservation,claim,result)) :
      Effect s task s' next
  | report {task s' next reservation result} (claim : Claim) (told : task.reports = some (reservation,claim,result))
      (store : s'.store = s.store) (inFlight : s'.inFlight = s.inFlight)
      (journal : s'.journal = s.journal ++
        [.sent claim.controller (.commandResult result) (some reservation)])
      (holds : next.holds = none) (reports : next.reports = none) : Effect s task s' next

variable {env : RouterEnv} {o : Oracle} {s s' : RouterState} {task next : Task} {spawned : List Task}

theorem Effect.none (store : s'.store = s.store) (inFlight : s'.inFlight = s.inFlight)
    (journal : s'.journal = s.journal) (holds : next.holds = .none ∨ next.holds = task.holds)
    (reports : next.reports = .none) : Effect s task s' next :=
  .quiet [] (by simp) store inFlight (by simpa using journal) holds reports

theorem send_cases {receiver : Address} {frame : OutboundFrame} {mark : Option Nat} {delivered : Bool}
    (sent : s.send receiver frame mark = (s',delivered)) :
    (delivered = false ∧ s' = s) ∨ (delivered = true ∧ s'.store = s.store ∧ s'.inFlight = s.inFlight ∧
      s'.journal = s.journal ++ [.sent receiver frame mark]) := by
  unfold RouterState.send at sent
  split at sent
  · cases sent; exact .inl ⟨rfl,rfl⟩
  · cases sent; exact .inr ⟨rfl,rfl,rfl,rfl⟩

-- A delivery attempt that carries no terminal report is quiet either way.
theorem send_quiet {receiver : Address} {frame : OutboundFrame} {delivered : Bool}
    (sent : s.send receiver frame .none = (s',delivered))
    (holds : next.holds = .none) (reports : next.reports = .none) : Effect s task s' next := by
  rcases send_cases sent with ⟨_,rfl⟩ | ⟨_,store,inFlight,journal⟩
  · exact .none rfl rfl rfl (.inl holds) reports
  · exact .quiet _ (by simp [Event.plain]) store inFlight journal (.inl holds) reports

theorem complete_cases {owner : Uuid} {target : DeviceId} {result : CommandResult} {settled : Option Nat}
    (ran : s.complete o owner target result = (s',settled)) :
    (settled = .none ∧ s' = s) ∨ ∃ row, s.store.commands[result.commandId]? = some row ∧
      s.store.completeCommand owner target result = (.ok .accepted,s'.store) ∧ s'.inFlight = s.inFlight ∧
      s'.journal = s.journal ++ [.completed row.reservation result] ∧
      (settled = .none ∨ settled = some row.reservation) := by
  unfold RouterState.complete at ran
  split at ran
  · rename_i store row answer found
    split at ran
    · cases ran; exact .inr ⟨row,found,answer,rfl,rfl,.inr rfl⟩
    · cases ran; exact .inr ⟨row,found,answer,rfl,rfl,.inl rfl⟩
    · cases ran; exact .inl ⟨rfl,rfl⟩
  · cases ran; exact .inl ⟨rfl,rfl⟩

theorem next_quiet (caller : Caller) (env : RouterEnv) (now : Instant) :
    (caller.next env now).holds = .none ∧ (caller.next env now).reports = .none ∧
    (caller.next env now).Matched := by
  unfold Caller.next
  split
  · exact ⟨rfl,rfl,rfl⟩
  · exact ⟨rfl,rfl,trivial⟩

theorem begin_effect (env : RouterEnv) (o : Oracle) (s : RouterState) (call : Call) :
    Effect s (.start call) (begin env o s call).1 (begin env o s call).2 ∧ (begin env o s call).2.Matched := by
  generalize ran : begin env o s call = pair
  obtain ⟨s',next⟩ := pair
  have stay : ∀ {next : Task}, next.holds = .none → next.reports = .none → Effect s (.start call) s next :=
    fun holds reports => .none rfl rfl rfl (.inl holds) reports
  cases call with
  | submit call =>
    unfold begin at ran
    dsimp only at ran
    split at ran <;> cases ran <;> exact ⟨stay rfl rfl,trivial⟩
  | accepted owner device connection accepted =>
    unfold begin at ran
    dsimp only at ran
    split at ran
    · cases ran; exact ⟨stay rfl rfl,trivial⟩
    · split at ran
      · cases ran; exact ⟨stay rfl rfl,trivial⟩
      · split at ran
        · rename_i sent; cases ran; exact ⟨send_quiet sent rfl rfl,trivial⟩
        · rename_i sent; cases ran; exact ⟨send_quiet sent rfl rfl,trivial⟩
  | result owner device connection result hasStore =>
    unfold begin at ran
    dsimp only at ran
    split at ran
    · cases ran; exact ⟨stay rfl rfl,trivial⟩
    · split at ran
      · cases ran; exact ⟨stay rfl rfl,trivial⟩
      · split at ran
        · cases ran; exact ⟨stay rfl rfl,trivial⟩
        · split at ran
          · cases ran; exact ⟨stay rfl rfl,trivial⟩
          · cases ran; exact ⟨stay rfl rfl,rfl⟩
  | disconnected owner device connection hasStore =>
    unfold begin at ran
    dsimp only at ran
    split at ran
    · cases ran; exact ⟨stay rfl rfl,trivial⟩
    · cases ran
      obtain ⟨holds,reports,matched⟩ := next_quiet (.disconnected _) env o.now
      exact ⟨stay holds reports,matched⟩

theorem reserve_effect (o : Oracle) (s : RouterState) (admission : Admission) :
    Effect s (.reserve admission) (reserve o s admission).1 (reserve o s admission).2 ∧
    (reserve o s admission).2.Matched := by
  generalize ran : reserve o s admission = pair
  obtain ⟨s',next⟩ := pair
  have stay : ∀ {next : Task}, next.holds = .none → next.reports = .none → Effect s (.reserve admission) s next :=
    fun holds reports => .none rfl rfl rfl (.inl holds) reports
  unfold reserve at ran
  split at ran
  · -- The transaction reported an error; its effect may have been committed.
    rename_i answer store committed reserved failed
    cases ran
    refine ⟨?_,trivial⟩
    cases committed with
    | false => exact stay rfl rfl
    | true =>
      by_cases accepted : answer = .ok .accepted
      · subst accepted
        exact .reserve reserved rfl (.inr ⟨rfl,rfl⟩) rfl
      · rw [StoreState.reserve_unchanged reserved accepted]
        exact stay rfl rfl
  · cases ran; exact ⟨stay rfl rfl,trivial⟩
  · cases ran; exact ⟨stay rfl rfl,trivial⟩
  · rename_i store reserved _
    cases ran
    exact ⟨.reserve reserved rfl (.inl ⟨rfl,rfl⟩) rfl,trivial⟩
  · cases ran; exact ⟨stay rfl rfl,trivial⟩
  · cases ran; exact ⟨stay rfl rfl,trivial⟩

theorem resolve_effect (env : RouterEnv) (o : Oracle) (s : RouterState) (admission : Admission)
    (stationId : String) :
    Effect s (.resolve admission stationId) (resolve env o s admission stationId).1
      (resolve env o s admission stationId).2 ∧ (resolve env o s admission stationId).2.Matched := by
  generalize ran : resolve env o s admission stationId = pair
  obtain ⟨s',next⟩ := pair
  unfold resolve at ran
  dsimp only at ran
  split at ran
  · cases ran; exact ⟨.none rfl rfl rfl (.inl rfl) rfl,rfl⟩
  · split at ran
    · cases ran; exact ⟨.none rfl rfl rfl (.inl rfl) rfl,rfl⟩
    · cases ran; exact ⟨.none rfl rfl rfl (.inl rfl) rfl,rfl⟩
    · cases ran; exact ⟨.none rfl rfl rfl (.inl rfl) rfl,rfl⟩

-- The inversion of one step: its effect, the next task's shape, and that it
-- spawns timers only.
theorem advance_effect (ran : advance env o s task = (s',next,spawned)) :
    Effect s task s' next ∧ next.Matched ∧ ∀ t ∈ spawned, ∃ id requestId, t = .timer id requestId := by
  have noSpawn : ∀ t ∈ ([] : List Task), ∃ id requestId, t = .timer id requestId := by simp
  cases task with
  | start call =>
    have stepped := begin_effect env o s call
    cases ran; exact ⟨stepped.1,stepped.2,noSpawn⟩
  | reserve admission =>
    have stepped := reserve_effect o s admission
    cases ran; exact ⟨stepped.1,stepped.2,noSpawn⟩
  | resolve admission stationId =>
    have stepped := resolve_effect env o s admission stationId
    cases ran; exact ⟨stepped.1,stepped.2,noSpawn⟩
  | lookup call now =>
    unfold advance at ran
    dsimp only at ran
    split at ran
    · cases ran; exact ⟨.none rfl rfl rfl (.inl rfl) rfl,trivial,noSpawn⟩
    · split at ran <;> cases ran <;> exact ⟨.none rfl rfl rfl (.inl rfl) rfl,trivial,noSpawn⟩
  | ownership call =>
    unfold advance at ran
    dsimp only at ran
    split at ran
    · cases ran; exact ⟨.none rfl rfl rfl (.inl rfl) rfl,trivial,noSpawn⟩
    · split at ran <;> cases ran <;> exact ⟨.none rfl rfl rfl (.inl rfl) rfl,trivial,noSpawn⟩
  | loadReplay admission =>
    unfold advance at ran
    dsimp only at ran
    split at ran <;> cases ran <;> exact ⟨.none rfl rfl rfl (.inl rfl) rfl,trivial,noSpawn⟩
  | replayReceived admission persisted =>
    unfold advance at ran
    dsimp only at ran
    split at ran <;> rename_i sent <;> cases ran <;> exact ⟨send_quiet sent rfl rfl,trivial,noSpawn⟩
  | replayResult admission persisted =>
    unfold advance at ran
    dsimp only at ran
    split at ran <;> rename_i sent <;> cases ran <;> exact ⟨send_quiet sent rfl rfl,trivial,noSpawn⟩
  | capacity admission =>
    unfold advance at ran
    dsimp only at ran
    split at ran <;> cases ran <;> exact ⟨.none rfl rfl rfl (.inr rfl) rfl,trivial,noSpawn⟩
  | reject admission =>
    generalize settled : s.complete o admission.ownerId admission.command.target.deviceId
      (terminal env o.now admission.command.commandId admission.requestId .tooManyInFlight) = pair at ran
    obtain ⟨after,mark⟩ := pair
    simp only [advance,settled] at ran
    cases ran
    refine ⟨?_,trivial,noSpawn⟩
    rcases complete_cases settled with ⟨_,rfl⟩ | ⟨row,found,answer,inFlight,journal,_⟩
    · exact .none rfl rfl rfl (.inl rfl) rfl
    · exact .settle admission.claim rfl found answer inFlight journal rfl (.inl rfl)
  | insert admission =>
    cases ran; exact ⟨.insert,trivial,noSpawn⟩
  | received admission =>
    unfold advance at ran
    dsimp only at ran
    split at ran
    · rename_i sent; cases ran; exact ⟨send_quiet sent rfl rfl,trivial,noSpawn⟩
    · rename_i sent
      split at ran
      · cases ran; exact ⟨send_quiet sent rfl rfl,trivial,noSpawn⟩
      · cases ran; exact ⟨send_quiet sent rfl rfl,rfl,noSpawn⟩
  | dispatch admission command =>
    unfold advance at ran
    dsimp only at ran
    split at ran
    · rename_i sent; cases ran; exact ⟨send_quiet sent rfl rfl,rfl,noSpawn⟩
    · rename_i sent; cases ran; exact ⟨send_quiet sent rfl rfl,trivial,noSpawn⟩
  | arm admission =>
    cases ran
    refine ⟨.none rfl rfl rfl (.inl rfl) rfl,trivial,?_⟩
    intro t member
    exact ⟨_,_,List.mem_singleton.mp member⟩
  | timer commandId requestId =>
    cases ran; exact ⟨.none rfl rfl rfl (.inl rfl) rfl,rfl,noSpawn⟩
  | finish commandId result caller =>
    unfold advance at ran
    dsimp only at ran
    split at ran
    · cases ran
      obtain ⟨holds,reports,matched⟩ := next_quiet caller env o.now
      exact ⟨.none rfl rfl rfl (.inl holds) reports,matched,noSpawn⟩
    · rename_i item found
      cases ran; exact ⟨.remove found,trivial,noSpawn⟩
  | complete item result caller =>
    obtain ⟨holds,reports,matched⟩ := next_quiet caller env o.now
    unfold advance at ran
    dsimp only at ran
    split at ran
    · rename_i reservation settled
      cases ran
      rcases complete_cases settled with ⟨impossible,_⟩ | ⟨row,found,answer,inFlight,journal,mark⟩
      · cases impossible
      · have same : reservation = row.reservation := by simpa using mark
        subst same
        exact ⟨.settle item.claim rfl found answer inFlight journal rfl (.inr rfl),trivial,noSpawn⟩
    · rename_i settled
      cases ran
      refine ⟨?_,matched,noSpawn⟩
      rcases complete_cases settled with ⟨_,rfl⟩ | ⟨row,found,answer,inFlight,journal,_⟩
      · exact .none rfl rfl rfl (.inl holds) reports
      · exact .settle item.claim rfl found answer inFlight journal holds (.inl reports)
  | notify item result caller reservation =>
    obtain ⟨holds,reports,matched⟩ := next_quiet caller env o.now
    generalize sent : s.send item.claim.controller (.commandResult result) (some reservation) = pair at ran
    obtain ⟨after,delivered⟩ := pair
    simp only [advance,sent] at ran
    cases ran
    refine ⟨?_,matched,noSpawn⟩
    rcases send_cases sent with ⟨_,rfl⟩ | ⟨_,store,inFlight,journal⟩
    · exact .none rfl rfl rfl (.inl holds) reports
    · exact .report item.claim rfl store inFlight journal holds reports
  | returned outcome =>
    cases ran; exact ⟨.none rfl rfl rfl (.inl rfl) rfl,trivial,noSpawn⟩

-- No step but an insertion adds an entry.
theorem advance_inserts {id : CommandId} {item : InFlight} (ran : advance env o s task = (s',next,spawned))
    (found : s'.inFlight[id]? = some item) : s.inFlight[id]? = some item ∨ ∃ admission, task = .insert admission ∧
      next = .received admission ∧ admission.command.commandId = id ∧ item = admission.inFlight := by
  obtain ⟨effect,_,_⟩ := advance_effect ran
  cases effect with
  | quiet _ _ _ inFlight => exact .inl (inFlight ▸ found)
  | reserve _ inFlight => exact .inl (inFlight ▸ found)
  | @insert admission =>
    dsimp only at found
    rw [Table.get_insert] at found
    split at found
    · rename_i same
      cases found
      exact .inr ⟨admission,rfl,rfl,same,rfl⟩
    · exact .inl found
  | remove => exact .inl (Table.get_erase_some found).2
  | settle _ _ _ _ inFlight => exact .inl (inFlight ▸ found)
  | report _ _ _ inFlight => exact .inl (inFlight ▸ found)

-- What a task may put on record: each kind of frame has one origin, and only
-- the replay of a stored outcome sends an unmarked result.
def Task.emits (task : Task) : Event → Prop
  | .reserved _ commandId claim =>
    ∃ admission, task = .reserve admission ∧ commandId = admission.command.commandId ∧ claim = admission.claim
  | .completed _ _ => task.holds.isSome
  | .sent receiver (.commandReceived payload) none =>
    (∃ admission, task = .received admission ∧ receiver = admission.controller ∧
      payload = ⟨admission.command.commandId,admission.receivedAt,false⟩) ∨
    ∃ admission persisted, task = .replayReceived admission persisted ∧ receiver = admission.controller ∧
      payload.commandId = admission.command.commandId ∧ payload.duplicate = true
  | .sent _ (.commandAccepted _) none =>
    ∃ owner device connection accepted, task = .start (.accepted owner device connection accepted)
  | .sent receiver (.commandResult result) none =>
    ∃ admission, task = .replayResult admission result ∧ receiver = admission.controller
  | .sent receiver (.deviceCommand command) none =>
    ∃ admission, task = .dispatch admission command ∧ receiver = admission.target
  | .sent receiver frame (some reservation) =>
    ∃ item result caller, task = .notify item result caller reservation ∧ frame = .commandResult result ∧
      receiver = item.claim.controller

-- One step records at most one event.
def Records (s : RouterState) (task : Task) (s' : RouterState) : Prop :=
  s'.journal = s.journal ∨ ∃ event, s'.journal = s.journal ++ [event] ∧ task.emits event

theorem send_records {receiver : Address} {frame : OutboundFrame} {mark : Option Nat} {delivered : Bool}
    (sent : s.send receiver frame mark = (s',delivered)) (origin : task.emits (.sent receiver frame mark)) :
    Records s task s' := by
  rcases send_cases sent with ⟨_,rfl⟩ | ⟨_,_,_,journal⟩
  · exact .inl rfl
  · exact .inr ⟨_,journal,origin⟩

theorem complete_records {owner : Uuid} {target : DeviceId} {result : CommandResult} {settled : Option Nat}
    (ran : s.complete o owner target result = (s',settled)) (origin : task.holds.isSome) : Records s task s' := by
  rcases complete_cases ran with ⟨_,rfl⟩ | ⟨_,_,_,_,journal,_⟩
  · exact .inl rfl
  · exact .inr ⟨_,journal,origin⟩

theorem begin_records (env : RouterEnv) (o : Oracle) (s : RouterState) (call : Call) :
    Records s (.start call) (begin env o s call).1 := by
  unfold begin
  cases call with
  | submit call => dsimp only; split <;> exact .inl rfl
  | accepted owner device connection accepted =>
    dsimp only
    split
    · exact .inl rfl
    · split
      · exact .inl rfl
      · split <;> rename_i sent <;> exact send_records sent ⟨_,_,_,_,rfl⟩
  | result owner device connection result hasStore =>
    dsimp only
    repeat' split
    all_goals exact .inl rfl
  | disconnected owner device connection hasStore => dsimp only; split <;> exact .inl rfl

theorem reserve_records (o : Oracle) (s : RouterState) (admission : Admission) :
    Records s (.reserve admission) (reserve o s admission).1 := by
  unfold reserve
  split
  · dsimp only
    split <;> exact .inl rfl
  all_goals first | exact .inl rfl | exact .inr ⟨_,rfl,_,rfl,rfl,rfl⟩

theorem resolve_records (env : RouterEnv) (o : Oracle) (s : RouterState) (admission : Admission)
    (stationId : String) : Records s (.resolve admission stationId) (resolve env o s admission stationId).1 := by
  unfold resolve
  dsimp only
  repeat' split
  all_goals exact .inl rfl

theorem advance_records (ran : advance env o s task = (s',next,spawned)) : Records s task s' := by
  unfold advance at ran
  cases task with
  | start call => cases ran; exact begin_records env o s call
  | reserve admission => cases ran; exact reserve_records o s admission
  | resolve admission stationId => cases ran; exact resolve_records env o s admission stationId
  | lookup call now =>
    dsimp only at ran
    repeat' split at ran
    all_goals cases ran; exact .inl rfl
  | ownership call =>
    dsimp only at ran
    repeat' split at ran
    all_goals cases ran; exact .inl rfl
  | loadReplay admission =>
    dsimp only at ran
    split at ran <;> cases ran <;> exact .inl rfl
  | replayReceived admission persisted =>
    dsimp only at ran
    split at ran <;> rename_i sent <;> cases ran <;> exact send_records sent (.inr ⟨_,_,rfl,rfl,rfl,rfl⟩)
  | replayResult admission persisted =>
    dsimp only at ran
    split at ran <;> rename_i sent <;> cases ran <;> exact send_records sent ⟨_,rfl,rfl⟩
  | capacity admission =>
    dsimp only at ran
    split at ran <;> cases ran <;> exact .inl rfl
  | reject admission =>
    cases ran
    exact complete_records rfl rfl
  | received admission =>
    dsimp only at ran
    split at ran
    · rename_i sent
      cases ran
      exact send_records sent (.inl ⟨_,rfl,rfl,rfl⟩)
    · rename_i sent
      split at ran <;> cases ran <;> exact send_records sent (.inl ⟨_,rfl,rfl,rfl⟩)
  | dispatch admission command =>
    dsimp only at ran
    split at ran <;> rename_i sent <;> cases ran <;> exact send_records sent ⟨_,rfl,rfl⟩
  | finish commandId result caller =>
    dsimp only at ran
    split at ran <;> cases ran <;> exact .inl rfl
  | complete item result caller =>
    dsimp only at ran
    split at ran <;> rename_i ended <;> cases ran <;> exact complete_records ended rfl
  | notify item result caller reservation =>
    cases ran
    exact send_records rfl ⟨_,_,_,rfl,rfl,rfl⟩
  | insert admission => cases ran; exact .inl rfl
  | arm admission => cases ran; exact .inl rfl
  | timer commandId requestId => cases ran; exact .inl rfl
  | returned outcome => cases ran; exact .inl rfl

end DeviceControl
