import RockServer.CommandLedger

namespace DeviceControl

variable {env : RouterEnv} {o : Oracle} {s s' : RouterState} {task next : Task} {spawned : List Task}
variable {i j : Nat} {action : Action}

-- The inversion of one system step.
theorem step_cases (taken : Step env s action s') :
    (∃ call, action = .call call ∧ s' = {s with tasks := s.tasks ++ [.start call]}) ∨
    (∃ i o task after next spawned, action = .run i o ∧ s.tasks[i]? = some task ∧
      advance env o s task = (after,next,spawned) ∧ s' = {after with tasks := s.tasks.set i next ++ spawned}) ∨
    (∃ registry, action = .registry registry ∧ s' = {s with registry := registry}) ∨
    (∃ devices manifests, action = .devices devices manifests ∧
      s' = {s with store := {s.store with devices := devices,manifests := manifests}}) ∨
    ∃ now limit, action = .prune now limit ∧ s' = {s with store := s.store.pruneCommands now limit} := by
  cases action with
  | call call => exact .inl ⟨call,rfl,(Option.some.inj taken).symm⟩
  | run i o =>
    simp only [Step,Transition.Executes,execute] at taken
    split at taken
    · cases taken
    · rename_i task found
      exact .inr (.inl ⟨i,o,task,_,_,_,rfl,found,rfl,(Option.some.inj taken).symm⟩)
  | registry registry => exact .inr (.inr (.inl ⟨registry,rfl,(Option.some.inj taken).symm⟩))
  | devices devices manifests =>
    exact .inr (.inr (.inr (.inl ⟨devices,manifests,rfl,(Option.some.inj taken).symm⟩)))
  | prune now limit => exact .inr (.inr (.inr (.inr ⟨now,limit,rfl,(Option.some.inj taken).symm⟩)))

theorem run_cases (taken : Step env s (.run i o) s') :
    ∃ task after next spawned, s.tasks[i]? = some task ∧ advance env o s task = (after,next,spawned) ∧
      s' = {after with tasks := s.tasks.set i next ++ spawned} := by
  rcases step_cases taken with ⟨_,impossible,_⟩ | ⟨_,_,task,after,next,spawned,same,found,ran,moved⟩ |
    ⟨_,impossible,_⟩ | ⟨_,_,impossible,_⟩ | ⟨_,_,impossible,_⟩
  all_goals first | cases impossible | cases same
  exact ⟨task,after,next,spawned,found,ran,moved⟩

-- Whatever the outside does leaves open reservations where they are.
structure Outside (s s' : RouterState) : Prop where
  inFlight : s'.inFlight = s.inFlight
  journal : s'.journal = s.journal
  tasks : ∀ (i : Nat) (t : Task), s'.tasks[i]? = some t →
    s.tasks[i]? = some t ∨ ∃ call, t = .start call
  kept : ∀ (i : Nat) (t : Task), s.tasks[i]? = some t → s'.tasks[i]? = some t
  rows : ∀ (id : CommandId) (row : CommandRow), s'.store.commands[id]? = some row →
    s.store.commands[id]? = some row
  reserved : ∀ (id : CommandId) (row : CommandRow), s.store.commands[id]? = some row →
    row.state = .reserved → s'.store.commands[id]? = some row
  number : s'.store.nextReservation = s.store.nextReservation

theorem step_outside (taken : Step env s action s') (notRun : ∀ i o, action ≠ .run i o) : Outside s s' := by
  rcases step_cases taken with ⟨call,rfl,rfl⟩ | ⟨i,o,_,_,_,_,rfl,_⟩ | ⟨_,rfl,rfl⟩ | ⟨_,_,rfl,rfl⟩ | ⟨now,limit,rfl,rfl⟩
  · refine ⟨rfl,rfl,?_,?_,fun _ _ found => found,fun _ _ found _ => found,rfl⟩
    · intro i t found
      dsimp only at found
      by_cases inside : i < s.tasks.length
      · rw [List.getElem?_append_left inside] at found
        exact .inl found
      · rw [List.getElem?_append_right (Nat.le_of_not_lt inside)] at found
        have added := List.mem_singleton.mp (List.mem_of_getElem? found)
        subst added
        exact .inr ⟨call,rfl⟩
    · intro i t found
      obtain ⟨inside,_⟩ := List.getElem?_eq_some_iff.mp found
      rw [List.getElem?_append_left inside]
      exact found
  · exact absurd rfl (notRun i o)
  · exact ⟨rfl,rfl,fun _ _ found => .inl found,fun _ _ found => found,fun _ _ found => found,
      fun _ _ found _ => found,rfl⟩
  · exact ⟨rfl,rfl,fun _ _ found => .inl found,fun _ _ found => found,fun _ _ found => found,
      fun _ _ found _ => found,rfl⟩
  · refine ⟨rfl,rfl,fun _ _ found => .inl found,fun _ _ found => found,?_,?_,rfl⟩
    · intro id row found
      rcases StoreState.prune_cases s.store now limit id with same | ⟨gone,_⟩
      · rw [← same]; exact found
      · dsimp only at found; rw [gone] at found; cases found
    · intro id row found reserved
      rcases StoreState.prune_cases s.store now limit id with same | ⟨_,old,was,expired⟩
      · dsimp only; rw [same]; exact found
      · rw [found] at was
        cases was
        exact absurd reserved (StoreState.expired_completed expired)

theorem ledger_outside (ledger : Ledger s) (outside : Outside s s') : Ledger s' := by
  have kept : ∀ id claim, Backed s id claim → Backed s' id claim := fun id claim backed =>
    backed.mono (outside.reserved id) (by rw [outside.journal]; exact fun _ member => member)
  have before : ∀ (i : Nat) (t : Task) id claim, s'.tasks[i]? = some t → t.holds = some (id,claim) →
      s.tasks[i]? = some t := by
    intro i t id claim found holds
    rcases outside.tasks i t found with old | ⟨_,rfl⟩
    · exact old
    · cases holds
  refine ⟨⟨?_,?_⟩,?_,?_,?_,?_,?_⟩
  · intro id row found
    rw [outside.number]
    exact ledger.sound.issued id row (outside.rows id row found)
  · intro id id' row row' found found' same
    exact ledger.sound.distinct id id' row row' (outside.rows id row found) (outside.rows id' row' found') same
  · intro i t found
    rcases outside.tasks i t found with old | ⟨_,rfl⟩
    · exact ledger.matched i t old
    · trivial
  · intro i t id claim found holds
    exact kept id claim (ledger.held i t id claim (before i t id claim found holds) holds)
  · intro id item found
    rw [outside.inFlight] at found
    exact kept id _ (ledger.flying id item found)
  · intro i j t u id claim claim' foundt foundu holdst holdsu
    exact ledger.single i j t u id claim claim' (before i t id claim foundt holdst)
      (before j u id claim' foundu holdsu) holdst holdsu
  · intro i t id claim found holds
    rw [outside.inFlight]
    exact ledger.apart i t id claim (before i t id claim found holds) holds

theorem ledger_step (ledger : Ledger s) (taken : Step env s action s') : Ledger s' := by
  by_cases run : ∃ i o, action = .run i o
  · obtain ⟨i,o,rfl⟩ := run
    obtain ⟨task,after,next,spawned,found,ran,rfl⟩ := run_cases taken
    obtain ⟨effect,matched,timers⟩ := advance_effect ran
    exact ledger_run ledger found timers effect matched
  · exact ledger_outside ledger (step_outside taken fun i o same => run ⟨i,o,same⟩)

theorem reached_ledger (reached : Reached env s) : Ledger s := by
  obtain ⟨origin,actions,start,path⟩ := reached
  exact path.invariant Ledger start.ledger fun _ _ _ ledger taken => ledger_step ledger taken

-- How the command table moves in one step: a row is as it was, or freshly
-- reserved under a new identity, or the open row completed.
theorem step_rows (taken : Step env s action s') :
    s.store.nextReservation ≤ s'.store.nextReservation ∧
    ∀ (id : CommandId) (row : CommandRow), s'.store.commands[id]? = some row →
      s.store.commands[id]? = some row ∨ row.reservation = s.store.nextReservation ∨
      ∃ old : CommandRow, s.store.commands[id]? = some old ∧ old.state = .reserved ∧
        old.reservation = row.reservation := by
  by_cases run : ∃ i o, action = .run i o
  · obtain ⟨i,o,rfl⟩ := run
    obtain ⟨task,after,next,spawned,found,ran,rfl⟩ := run_cases taken
    obtain ⟨effect,_,_⟩ := advance_effect ran
    cases effect with
    | quiet frames plain store => simp only [store]; exact ⟨Nat.le_refl _,fun _ _ found => .inl found⟩
    | reserve answer =>
      obtain ⟨_,row,_,_,_,number,stored⟩ := StoreState.reserve_accepted answer
      simp only [stored]
      refine ⟨Nat.le_succ _,fun id new found => ?_⟩
      rw [Table.get_insert] at found
      split at found
      · cases found; exact .inr (.inl number)
      · exact .inl found
    | insert | remove => exact ⟨Nat.le_refl _,fun _ _ found => .inl found⟩
    | settle claim held present answer =>
      obtain ⟨row,was,_,_,reserved,stored⟩ := StoreState.complete_accepted answer
      simp only [stored]
      refine ⟨Nat.le_refl _,fun id new found => ?_⟩
      rw [Table.get_insert] at found
      split at found
      · rename_i same
        subst same
        cases found
        exact .inr (.inr ⟨row,was,reserved,rfl⟩)
      · exact .inl found
    | report claim told store => simp only [store]; exact ⟨Nat.le_refl _,fun _ _ found => .inl found⟩
  · have outside := step_outside taken fun i o same => run ⟨i,o,same⟩
    exact ⟨Nat.le_of_eq outside.number.symm,fun id row found => .inl (outside.rows id row found)⟩

-- An issued row identity that only ever stands on a row with this outcome.
def Settled (n : Nat) (id : CommandId) (result : CommandResult) (s : RouterState) : Prop :=
  n < s.store.nextReservation ∧ ∀ (id' : CommandId) (row : CommandRow), s.store.commands[id']? = some row →
    row.reservation = n → id' = id ∧ row.state = .completed result

theorem settled_step {n : Nat} {id : CommandId} {result : CommandResult} (settled : Settled n id result s)
    (taken : Step env s action s') : Settled n id result s' := by
  obtain ⟨grows,rows⟩ := step_rows taken
  refine ⟨Nat.lt_of_lt_of_le settled.1 grows,fun id' row found number => ?_⟩
  rcases rows id' row found with old | fresh | ⟨old,was,reserved,same⟩
  · exact settled.2 id' row old number
  · have issued := settled.1
    omega
  · have closed := (settled.2 id' old was (same.trans number)).2
    rw [reserved] at closed
    cases closed

def Event.completes (n : Nat) : Event → Bool
  | .completed m _ => m == n
  | _ => false
def Event.tells (n : Nat) : Event → Bool
  | .sent _ _ (some m) => m == n
  | _ => false

-- What the history of a run records about its reservations.
structure History (s : RouterState) : Prop where
  issued : ∀ n id claim, Event.reserved n id claim ∈ s.journal → n < s.store.nextReservation
  author : ∀ n id id' claim claim', Event.reserved n id claim ∈ s.journal →
    Event.reserved n id' claim' ∈ s.journal → id = id' ∧ claim = claim'
  settled : ∀ n result, Event.completed n result ∈ s.journal → Settled n result.commandId result s
  settledOnce : ∀ n, s.journal.countP (Event.completes n) ≤ 1
  told : ∀ n receiver frame, Event.sent receiver frame (some n) ∈ s.journal → ∃ id claim result,
    frame = .commandResult result ∧ receiver = claim.controller ∧
    Event.completed n result ∈ s.journal ∧ Event.reserved n id claim ∈ s.journal
  toldOnce : ∀ n, s.journal.countP (Event.tells n) ≤ 1
  pending : ∀ (i : Nat) (t : Task) n claim result, s.tasks[i]? = some t →
    t.reports = some (n,claim,result) → Event.completed n result ∈ s.journal ∧
    (∃ id, Event.reserved n id claim ∈ s.journal) ∧ ∀ event ∈ s.journal, event.tells n = false
  pendingSingle : ∀ (i j : Nat) (t u : Task) n x y, s.tasks[i]? = some t → s.tasks[j]? = some u →
    t.reports = some (n,x) → u.reports = some (n,y) → i = j

theorem Initial.history (start : Initial s) : History s := by
  refine ⟨?_,?_,?_,?_,?_,?_,?_,?_⟩ <;> simp [start.journal,start.tasks]

theorem completes_mem {n : Nat} {events : List Event} :
    (∃ event ∈ events, event.completes n = true) ↔ ∃ result, Event.completed n result ∈ events := by
  constructor
  · rintro ⟨event,member,mark⟩
    cases event with
    | completed m result =>
      have same : m = n := by simpa [Event.completes] using mark
      subst same
      exact ⟨result,member⟩
    | reserved | sent => cases mark
  · rintro ⟨result,member⟩
    exact ⟨_,member,by simp [Event.completes]⟩

theorem plain_silent {event : Event} (plain : event.plain) (n : Nat) :
    event.completes n = false ∧ event.tells n = false := by
  cases event with
  | reserved | completed => exact absurd plain (by simp [Event.plain])
  | sent receiver frame mark =>
    cases mark with
    | none => exact ⟨rfl,rfl⟩
    | some m => exact absurd plain (by simp [Event.plain])

-- Old facts of the history that no step can take back.
-- A report on record stays backed by its completion and its reservation.
private theorem History.recall (history : History s) {events : List Event} (journal : s'.journal = s.journal ++ events)
    {n : Nat} {receiver : Address} {frame : OutboundFrame} (member : Event.sent receiver frame (some n) ∈ s.journal) :
    ∃ id claim result, frame = .commandResult result ∧ receiver = claim.controller ∧
      Event.completed n result ∈ s'.journal ∧ Event.reserved n id claim ∈ s'.journal := by
  obtain ⟨id,claim,result,shape,controller,completed,reserved⟩ := history.told n receiver frame member
  rw [journal]
  exact ⟨id,claim,result,shape,controller,List.mem_append_left _ completed,List.mem_append_left _ reserved⟩

private theorem once_more {p : Event → Bool} {events : List Event} {event : Event} (once : events.countP p ≤ 1)
    (first : p event = true → events.countP p = 0) : (events ++ [event]).countP p ≤ 1 := by
  rw [List.countP_append,List.countP_singleton]
  split
  · rename_i mark
    rw [first mark]
  · exact once

theorem History.carry (history : History s) (events : List Event) (taken : Step env s action s')
    (journal : s'.journal = s.journal ++ events)
    (silent : ∀ event ∈ events, ∀ n, event.completes n = false ∧ event.tells n = false) :
    (∀ n result, Event.completed n result ∈ s'.journal → Settled n result.commandId result s') ∧
    (∀ n, s'.journal.countP (Event.completes n) ≤ 1) ∧
    (∀ n receiver frame, Event.sent receiver frame (some n) ∈ s'.journal → ∃ id claim result,
      frame = .commandResult result ∧ receiver = claim.controller ∧
      Event.completed n result ∈ s'.journal ∧ Event.reserved n id claim ∈ s'.journal) ∧
    (∀ n, s'.journal.countP (Event.tells n) ≤ 1) := by
  have quietCount : ∀ p : Event → Bool, (∀ event ∈ events, p event = false) →
      s'.journal.countP p = s.journal.countP p := by
    intro p none
    have zero : events.countP p = 0 := List.countP_eq_zero.mpr fun event member => by simp [none event member]
    rw [journal,List.countP_append,zero,Nat.add_zero]
  refine ⟨?_,?_,?_,?_⟩
  · intro n result member
    rw [journal] at member
    rcases List.mem_append.mp member with old | new
    · exact settled_step (history.settled n result old) taken
    · have mark := (silent _ new n).1
      simp [Event.completes] at mark
  · intro n
    rw [quietCount _ fun event member => (silent event member n).1]
    exact history.settledOnce n
  · intro n receiver frame member
    rw [journal] at member
    rcases List.mem_append.mp member with old | new
    · exact history.recall journal old
    · have mark := (silent _ new n).2
      simp [Event.tells] at mark
  · intro n
    rw [quietCount _ fun event member => (silent event member n).2]
    exact history.toldOnce n

-- The two remaining kinds of step record no reservation.
private theorem authors_kept {event : Event} (history : History s) (taken : Step env s action s')
    (journal : s'.journal = s.journal ++ [event]) (other : ∀ n id claim, event ≠ .reserved n id claim) :
    (∀ n id claim, Event.reserved n id claim ∈ s'.journal → n < s'.store.nextReservation) ∧
    ∀ n id id' claim claim', Event.reserved n id claim ∈ s'.journal →
      Event.reserved n id' claim' ∈ s'.journal → id = id' ∧ claim = claim' := by
  have older : ∀ {n id claim}, Event.reserved n id claim ∈ s'.journal → Event.reserved n id claim ∈ s.journal := by
    intro n id claim member
    rw [journal] at member
    rcases List.mem_append.mp member with old | new
    · exact old
    · exact absurd (List.mem_singleton.mp new).symm (other n id claim)
  refine ⟨fun n id claim member => ?_,fun n id id' claim claim' member member' => ?_⟩
  · exact Nat.lt_of_lt_of_le (history.issued n id claim (older member)) (step_rows taken).1
  · exact history.author n id id' claim claim' (older member) (older member')

-- An open row has no completion on record, hence no report sent or pending.
private theorem open_unreported {row : CommandRow} {id : CommandId} (history : History s)
    (found : s.store.commands[id]? = some row) (reserved : row.state = .reserved) :
    (∀ result, Event.completed row.reservation result ∉ s.journal) ∧
    (∀ event ∈ s.journal, event.tells row.reservation = false) ∧
    ∀ (j : Nat) (t : Task) x, s.tasks[j]? = some t → t.reports ≠ some (row.reservation,x) := by
  have never : ∀ result, Event.completed row.reservation result ∉ s.journal := by
    intro result member
    have closed := ((history.settled _ result member).2 id row found rfl).2
    rw [reserved] at closed
    cases closed
  refine ⟨never,?_,?_⟩
  · intro event member
    cases told : event.tells row.reservation with
    | false => rfl
    | true =>
      match event,told,member with
      | .sent receiver frame (some m),told,member =>
        have same : m = row.reservation := by simpa [Event.tells] using told
        subst same
        obtain ⟨_,_,result,_,_,completed,_⟩ := history.told _ receiver frame member
        exact absurd completed (never result)
  · intro j t x found' reports
    exact never _ (history.pending j t _ x.1 x.2 found' reports).1

section run
variable (history : History s) (at_ : s.tasks[i]? = some task)
  (timers : ∀ t ∈ spawned, ∃ id requestId, t = .timer id requestId)
include history at_ timers

-- Reports that are still to be sent, after one task moved.
private theorem pending_of_moves (after : RouterState) (events : List Event)
    (tasks : after.tasks = s.tasks.set i next ++ spawned) (journal : after.journal = s.journal ++ events)
    (silent : ∀ j t n x, j ≠ i → s.tasks[j]? = some t → t.reports = some (n,x) →
      ∀ event ∈ events, event.tells n = false)
    (moved : ∀ n claim result, next.reports = some (n,claim,result) →
      (Event.completed n result ∈ after.journal ∧ (∃ id, Event.reserved n id claim ∈ after.journal) ∧
        ∀ event ∈ after.journal, event.tells n = false) ∧
      ∀ j t x, j ≠ i → s.tasks[j]? = some t → t.reports ≠ some (n,x)) :
    (∀ (i : Nat) (t : Task) n claim result, after.tasks[i]? = some t →
      t.reports = some (n,claim,result) → Event.completed n result ∈ after.journal ∧
      (∃ id, Event.reserved n id claim ∈ after.journal) ∧ ∀ event ∈ after.journal, event.tells n = false) ∧
    ∀ (i j : Nat) (t u : Task) n x y, after.tasks[i]? = some t → after.tasks[j]? = some u →
      t.reports = some (n,x) → u.reports = some (n,y) → i = j := by
  refine ⟨?_,?_⟩
  · intro j t n claim result found reports
    rw [tasks] at found
    rcases slot_cases timers found with ⟨_,rfl⟩ | ⟨other,old⟩ | ⟨_,_,rfl⟩
    · exact (moved n claim result reports).1
    · obtain ⟨completed,⟨id,reserved⟩,none⟩ := history.pending j t n claim result old reports
      rw [journal]
      refine ⟨List.mem_append_left _ completed,⟨id,List.mem_append_left _ reserved⟩,fun event member => ?_⟩
      rcases List.mem_append.mp member with early | late
      · exact none event early
      · exact silent j t n _ other old reports event late
    · cases reports
  · intro j k t u n x y foundj foundk reportst reportsu
    rw [tasks] at foundj foundk
    rcases slot_cases timers foundj with ⟨rfl,rfl⟩ | ⟨otherj,oldj⟩ | ⟨_,_,rfl⟩
    · rcases slot_cases timers foundk with ⟨rfl,_⟩ | ⟨otherk,oldk⟩ | ⟨_,_,rfl⟩
      · rfl
      · exact absurd reportsu ((moved n _ _ reportst).2 k u y otherk oldk)
      · cases reportsu
    · rcases slot_cases timers foundk with ⟨rfl,rfl⟩ | ⟨otherk,oldk⟩ | ⟨_,_,rfl⟩
      · exact absurd reportst ((moved n _ _ reportsu).2 j t x otherj oldj)
      · exact history.pendingSingle j k t u n x y oldj oldk reportst reportsu
      · cases reportsu
    · cases reportst

-- Steps that neither complete a row nor report one. At most the new
-- reservation is recorded, and its identity was never handed out before.
private theorem history_of_silence {after : RouterState} (events : List Event)
    (taken : Step env s action after) (tasks : after.tasks = s.tasks.set i next ++ spawned)
    (journal : after.journal = s.journal ++ events)
    (silent : ∀ event ∈ events, ∀ n, event.completes n = false ∧ event.tells n = false)
    (fresh : ∀ n id claim, Event.reserved n id claim ∈ events →
      s.store.nextReservation = n ∧ n < after.store.nextReservation ∧ events = [.reserved n id claim])
    (reports : next.reports = none) : History after := by
  have growth := (step_rows taken).1
  obtain ⟨settled,settledOnce,told,toldOnce⟩ := history.carry events taken journal silent
  obtain ⟨pending,pendingSingle⟩ := pending_of_moves history at_ timers after events tasks journal
    (fun _ _ n _ _ _ _ event member => (silent event member n).2)
    (fun n claim result impossible => by rw [reports] at impossible; cases impossible)
  refine ⟨?_,?_,settled,settledOnce,told,toldOnce,pending,pendingSingle⟩
  · intro n id claim member
    rw [journal] at member
    rcases List.mem_append.mp member with old | new
    · exact Nat.lt_of_lt_of_le (history.issued n id claim old) growth
    · exact (fresh n id claim new).2.1
  · intro n id id' claim claim' member member'
    rw [journal] at member member'
    rcases List.mem_append.mp member with old | new
    · rcases List.mem_append.mp member' with old' | new'
      · exact history.author n id id' claim claim' old old'
      · have bound := history.issued n id claim old
        have number := (fresh n id' claim' new').1
        omega
    · obtain ⟨number,_,only⟩ := fresh n id claim new
      rcases List.mem_append.mp member' with old' | new'
      · have bound := history.issued n id' claim' old'
        omega
      · rw [only] at new'
        have same := List.mem_singleton.mp new'
        cases same
        exact ⟨rfl,rfl⟩

-- The completion of an open row: nothing was reported of it, and this task may
-- be the one to report it.
private theorem history_settles (ledger : Ledger s) {result : CommandResult} {row : CommandRow} {claim : Claim}
    (held : task.holds = some (result.commandId,claim)) (found : s.store.commands[result.commandId]? = some row)
    (answer : s.store.completeCommand claim.ownerId claim.targetDeviceId result = (.ok .accepted,s'.store))
    (journal : s'.journal = s.journal ++ [.completed row.reservation result])
    (reports : next.reports = none ∨ next.reports = some (row.reservation,claim,result))
    (taken : Step env s action {s' with tasks := s.tasks.set i next ++ spawned}) :
    History {s' with tasks := s.tasks.set i next ++ spawned} := by
  obtain ⟨row',found',_,_,reserved,stored⟩ := StoreState.complete_accepted answer
  rw [found] at found'
  cases found'
  obtain ⟨never,unsaid,unheld⟩ := open_unreported history found reserved
  obtain ⟨issued,author⟩ := authors_kept history taken journal (by simp)
  obtain ⟨pending,pendingSingle⟩ := pending_of_moves history at_ timers
    {s' with tasks := s.tasks.set i next ++ spawned} [.completed row.reservation result] rfl journal
    (by intro _ _ _ _ _ _ _ event member; cases List.mem_singleton.mp member; rfl)
    (by
      intro n owner outcome reported
      rcases reports with nothing | same
      · rw [nothing] at reported; cases reported
      · rw [same] at reported
        cases reported
        obtain ⟨_,was,_,_,_,made⟩ := ledger.held i task _ claim at_ held
        rw [found] at was
        cases was
        simp only [journal]
        refine ⟨⟨?_,⟨_,List.mem_append_left _ made⟩,?_⟩,fun j t x _ found => unheld j t x found⟩
        · exact List.mem_append_right _ (List.mem_singleton_self _)
        · intro event member
          rcases List.mem_append.mp member with old | new
          · exact unsaid event old
          · cases List.mem_singleton.mp new; rfl)
  refine ⟨issued,author,?_,?_,?_,?_,pending,pendingSingle⟩
  · intro n outcome member
    simp only [journal] at member
    rcases List.mem_append.mp member with old | new
    · exact settled_step (history.settled n outcome old) taken
    · cases List.mem_singleton.mp new
      refine ⟨Nat.lt_of_lt_of_le (ledger.sound.issued _ row found) (step_rows taken).1,fun id' other present number => ?_⟩
      simp only [stored] at present
      rw [Table.get_insert] at present
      split at present
      · rename_i same
        cases present
        exact ⟨same.symm,rfl⟩
      · rename_i different
        exact absurd (ledger.sound.distinct _ _ row other found present number.symm) different
  · intro n
    simp only [journal]
    refine once_more (history.settledOnce n) fun mark => List.countP_eq_zero.mpr fun event member settles => ?_
    have mine : row.reservation = n := by simpa [Event.completes] using mark
    subst mine
    obtain ⟨result,recorded⟩ := completes_mem.mp ⟨event,member,settles⟩
    exact never result recorded
  · intro n receiver frame member
    simp only [journal] at member
    rcases List.mem_append.mp member with old | new
    · exact history.recall journal old
    · cases List.mem_singleton.mp new
  · intro n
    simp only [journal]
    exact once_more (history.toldOnce n) nofun

-- The report of a completion by the one task that has it pending.
private theorem history_reports {number : Nat} {result : CommandResult} {claim : Claim}
    (told : task.reports = some (number,claim,result))
    (journal : s'.journal = s.journal ++ [.sent claim.controller (.commandResult result) (some number)])
    (reports : next.reports = none)
    (taken : Step env s action {s' with tasks := s.tasks.set i next ++ spawned}) :
    History {s' with tasks := s.tasks.set i next ++ spawned} := by
  obtain ⟨completed,⟨id,made⟩,unsaid⟩ := history.pending i task number claim result at_ told
  obtain ⟨issued,author⟩ := authors_kept history taken journal (by simp)
  obtain ⟨pending,pendingSingle⟩ := pending_of_moves history at_ timers
    {s' with tasks := s.tasks.set i next ++ spawned} _ rfl journal
    (by
      intro j t n x other found theirs event member
      cases List.mem_singleton.mp member
      have different : number ≠ n := by
        intro same
        subst same
        exact other (history.pendingSingle j i t task number x _ found at_ theirs told)
      simp [Event.tells,different])
    (fun n claim result impossible => by rw [reports] at impossible; cases impossible)
  refine ⟨issued,author,?_,?_,?_,?_,pending,pendingSingle⟩
  · intro n outcome member
    simp only [journal] at member
    rcases List.mem_append.mp member with old | new
    · exact settled_step (history.settled n outcome old) taken
    · cases List.mem_singleton.mp new
  · intro n
    simp only [journal]
    exact once_more (history.settledOnce n) nofun
  · intro n receiver frame member
    simp only [journal] at member
    rcases List.mem_append.mp member with old | new
    · exact history.recall journal old
    · cases List.mem_singleton.mp new
      simp only [journal]
      exact ⟨id,claim,result,rfl,rfl,List.mem_append_left _ completed,List.mem_append_left _ made⟩
  · intro n
    simp only [journal]
    refine once_more (history.toldOnce n) fun mark => List.countP_eq_zero.mpr fun event member => ?_
    have mine : number = n := by simpa [Event.tells] using mark
    simp [← mine,unsaid event member]

theorem history_run (ledger : Ledger s) (effect : Effect s task s' next)
    (taken : Step env s action {s' with tasks := s.tasks.set i next ++ spawned}) :
    History {s' with tasks := s.tasks.set i next ++ spawned} := by
  cases effect with
  | quiet frames plain store inFlight journal holds reports =>
    refine history_of_silence history at_ timers frames taken rfl journal
      (fun event member n => plain_silent (plain event member) n) ?_ reports
    intro n id claim member
    exact absurd (plain _ member) (by simp [Event.plain])
  | @reserve admission s' next now answer inFlight outcome reports =>
    obtain ⟨_,row,_,_,_,_,stored⟩ := StoreState.reserve_accepted answer
    rcases outcome with ⟨_,journal⟩ | ⟨_,journal⟩
    · refine history_of_silence history at_ timers _ taken rfl journal ?_ ?_ reports
      · intro event member n
        cases List.mem_singleton.mp member
        exact ⟨rfl,rfl⟩
      · intro n id claim member
        cases List.mem_singleton.mp member
        refine ⟨rfl,?_,rfl⟩
        simp only [stored]
        exact Nat.lt_succ_self _
    · exact history_of_silence history at_ timers [] taken rfl (by simpa using journal) (by simp) (by simp) reports
  | @insert admission =>
    exact history_of_silence history at_ timers [] taken rfl (by simp) (by simp) (by simp) rfl
  | @remove commandId result caller item present =>
    exact history_of_silence history at_ timers [] taken rfl (by simp) (by simp) (by simp) rfl
  | @settle task s' next result row claim held found answer inFlight journal holds reports =>
    exact history_settles history at_ timers ledger held found answer journal reports taken
  | @report task s' next number result claim told store inFlight journal holds reports =>
    exact history_reports history at_ timers told journal reports taken

end run

theorem history_step (ledger : Ledger s) (history : History s) (taken : Step env s action s') : History s' := by
  by_cases run : ∃ i o, action = .run i o
  · obtain ⟨i,o,rfl⟩ := run
    obtain ⟨task,after,next,spawned,found,ran,rfl⟩ := run_cases taken
    obtain ⟨effect,_,timers⟩ := advance_effect ran
    exact history_run history found timers ledger effect taken
  · have outside := step_outside taken fun i o same => run ⟨i,o,same⟩
    have unchanged : s'.journal = s.journal ++ [] := by rw [outside.journal,List.append_nil]
    obtain ⟨settled,settledOnce,told,toldOnce⟩ := history.carry [] taken unchanged (by simp)
    have before : ∀ (i : Nat) (t : Task) x, s'.tasks[i]? = some t → t.reports = some x → s.tasks[i]? = some t := by
      intro i t x found reports
      rcases outside.tasks i t found with old | ⟨_,rfl⟩
      · exact old
      · cases reports
    refine ⟨?_,?_,settled,settledOnce,told,toldOnce,?_,?_⟩
    · rw [outside.journal,outside.number]
      exact history.issued
    · rw [outside.journal]
      exact history.author
    · intro i t n claim result found reports
      rw [outside.journal]
      exact history.pending i t n claim result (before i t _ found reports) reports
    · intro i j t u n x y found found' reports reports'
      exact history.pendingSingle i j t u n x y (before i t _ found reports) (before j u _ found' reports')
        reports reports'

theorem reached_history (reached : Reached env s) : History s := by
  obtain ⟨origin,actions,start,path⟩ := reached
  have both : Ledger s ∧ History s :=
    path.invariant (fun s => Ledger s ∧ History s) ⟨start.ledger,start.history⟩
      fun _ _ _ both taken => ⟨ledger_step both.1 taken,history_step both.1 both.2 taken⟩
  exact both.2

-- An outcome on record stands on its row from then on.
theorem outcome_kept {n : Nat} {id : CommandId} {row : CommandRow} {result : CommandResult} {actions : List Action}
    (reached : Reached env s) (later : Runs env s actions s') (found : s.store.commands[id]? = some row)
    (number : row.reservation = n) (completed : row.state = .completed result) : Settled n id result s' := by
  have sound := (reached_ledger reached).sound
  have start : Settled n id result s := by
    refine ⟨number ▸ sound.issued id row found,fun id' row' found' number' => ?_⟩
    have same := sound.distinct id' id row' row found' found (number'.trans number.symm)
    subst same
    rw [found] at found'
    cases found'
    exact ⟨rfl,completed⟩
  exact later.invariant (Settled n id result) start fun _ _ _ settled taken => settled_step settled taken

-- A result frame without a mark is the replay of a stored outcome.
theorem unmarked_result {receiver : Address} {result : CommandResult} (taken : Step env s action s')
    (sent : Event.sent receiver (.commandResult result) none ∈ s'.journal) :
    Event.sent receiver (.commandResult result) none ∈ s.journal ∨
    ∃ i o admission, action = .run i o ∧ s.tasks[i]? = some (.replayResult admission result) := by
  by_cases run : ∃ i o, action = .run i o
  · obtain ⟨i,o,rfl⟩ := run
    obtain ⟨task,after,next,spawned,found,ran,rfl⟩ := run_cases taken
    rcases advance_records ran with journal | ⟨event,journal,origin⟩
    · exact .inl (journal ▸ sent)
    · simp only [journal] at sent
      rcases List.mem_append.mp sent with old | new
      · exact .inl old
      · cases List.mem_singleton.mp new
        obtain ⟨admission,rfl,_⟩ := origin
        exact .inr ⟨i,o,admission,rfl,found⟩
  · have outside := step_outside taken fun i o same => run ⟨i,o,same⟩
    exact .inl (outside.journal ▸ sent)

-- Whatever races to end a reservation: it is completed at most once, reported
-- at most once, to the connection that made it and with the stored outcome.
theorem reservation_ends_once (reached : Reached env s) (n : Nat) :
    s.journal.countP (Event.completes n) ≤ 1 ∧
    s.journal.countP (Event.tells n) ≤ 1 ∧
    (∀ receiver frame, Event.sent receiver frame (some n) ∈ s.journal → ∃ id claim result,
      frame = .commandResult result ∧ receiver = claim.controller ∧
      (∀ id' claim', Event.reserved n id' claim' ∈ s.journal ↔ id' = id ∧ claim' = claim) ∧
      Event.completed n result ∈ s.journal ∧
      ∀ (id' : CommandId) (row : CommandRow), s.store.commands[id']? = some row → row.reservation = n →
        row.state = .completed result) ∧
    (∀ action s' receiver result, Step env s action s' →
      Event.sent receiver (.commandResult result) none ∈ s'.journal →
      Event.sent receiver (.commandResult result) none ∈ s.journal ∨
      ∃ i o admission, action = .run i o ∧ s.tasks[i]? = some (.replayResult admission result)) ∧
    ∀ actions s', Runs env s actions s' → ∀ (id : CommandId) (row : CommandRow) (result : CommandResult),
      s.store.commands[id]? = some row → row.reservation = n → row.state = .completed result →
      ∀ (id' : CommandId) (row' : CommandRow), s'.store.commands[id']? = some row' → row'.reservation = n →
        id' = id ∧ row'.state = .completed result := by
  have history := reached_history reached
  refine ⟨history.settledOnce n,history.toldOnce n,?_,?_,?_⟩
  · intro receiver frame sent
    obtain ⟨id,claim,result,shape,receiver,completed,reserved⟩ := history.told n receiver frame sent
    refine ⟨id,claim,result,shape,receiver,?_,completed,?_⟩
    · intro id' claim'
      constructor
      · exact fun other => history.author n id' id claim' claim other reserved
      · rintro ⟨rfl,rfl⟩; exact reserved
    · intro id' row found number
      exact ((history.settled n result completed).2 id' row found number).2
  · intro action s' receiver result taken sent
    exact unmarked_result taken sent
  · intro actions s' later id row result found number completed
    exact (outcome_kept reached later found number completed).2

-- Two devices of one account: device 10 controls the speaker 20.
def speaker : DeviceManifest :=
  ⟨1,[.controller,.player],⟨1,[.volume 1 true]⟩,[],[]⟩
def connected (connection : Uuid) : ActiveConnection :=
  ⟨1,connection,⟨[],false⟩,speaker,[.mediaControl]⟩
def twoDevices : ConnectionRegistry :=
  ((∅ : ConnectionRegistry).insert 10 (connected 100)).insert 20 (connected 200)
def onEpochDay : RouterEnv where
  fingerprint _ := some (Vector.replicate 32 0)
  rfc3339 instant := if instant = 0 then "1970-01-01T00:00:00Z" else "1970-01-01T00:00:10Z"
  hasCatalog := false
def idle : RouterState :=
  ⟨∅,twoDevices,⟨[(⟨20⟩,1)],[(⟨20⟩,speaker)],∅,0⟩,[],[]⟩
def mute (id : Nat) : SubmitCall :=
  ⟨1,10,100,"request",⟨⟨id⟩,⟨⟨20⟩,none,none⟩,none,.volume (.setMute true)⟩,true⟩
def calm : Oracle := ⟨0,none,.unavailable⟩

theorem idle_initial : Initial idle := ⟨rfl,rfl,rfl,⟨by simp [idle],by simp [idle]⟩⟩

-- A submit runs to its armed timer, then the timer and the target's own result
-- race; the timer's removal comes first.
def race : List Action :=
  [.call (.submit (mute 7))] ++ List.replicate 9 (.run 0 calm) ++
  [.call (.result 1 20 200 ⟨⟨7⟩,.succeeded,⟨"1970-01-01T00:00:00Z",0⟩,none⟩ true)] ++
  [.run 2 calm,.run 1 calm,.run 1 calm,.run 2 calm,.run 1 calm,.run 1 calm]

theorem reservation_ends_once_race : ∃ s, Reached onEpochDay s ∧ s.journal.countP (Event.tells 0) = 1 ∧
    s.journal.countP (Event.completes 0) ≤ 1 ∧ s.journal.countP (Event.tells 0) ≤ 1 := by
  obtain ⟨s,path,told⟩ := Transition.run_reaches (execute onEpochDay) idle race
    (fun s => s.journal.countP (Event.tells 0) = 1) (by decide)
  have reached : Reached onEpochDay s := ⟨idle,race,idle_initial,path⟩
  have ends := reservation_ends_once reached 0
  exact ⟨s,reached,of_decide_eq_true told,ends.1,ends.2.1⟩

end DeviceControl
