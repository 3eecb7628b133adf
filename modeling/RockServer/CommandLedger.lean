import RockServer.CommandEffects

namespace DeviceControl

-- The reservation behind a claim is still open, and was made by this claimant.
def Backed (s : RouterState) (id : CommandId) (claim : Claim) : Prop :=
  ∃ row : CommandRow, s.store.commands[id]? = some row ∧ row.state = .reserved ∧
    row.userId = claim.ownerId ∧ row.targetDeviceId = claim.targetDeviceId ∧
    Event.reserved row.reservation id claim ∈ s.journal

-- An open reservation has at most one place that may end it: one task that
-- holds it, or its entry in the in-flight map, never both.
structure Ledger (s : RouterState) : Prop where
  sound : s.store.Sound
  matched : ∀ (i : Nat) (t : Task), s.tasks[i]? = some t → t.Matched
  held : ∀ (i : Nat) (t : Task) id claim, s.tasks[i]? = some t → t.holds = some (id,claim) → Backed s id claim
  flying : ∀ (id : CommandId) (item : InFlight), s.inFlight[id]? = some item → Backed s id item.claim
  single : ∀ (i j : Nat) (t u : Task) id claim claim', s.tasks[i]? = some t → s.tasks[j]? = some u →
    t.holds = some (id,claim) → u.holds = some (id,claim') → i = j
  apart : ∀ (i : Nat) (t : Task) id claim, s.tasks[i]? = some t → t.holds = some (id,claim) →
    s.inFlight[id]? = none

variable {env : RouterEnv} {o : Oracle} {s s' : RouterState} {task next : Task} {spawned : List Task}
variable {i j : Nat} {id : CommandId} {claim : Claim}

theorem Backed.mono (backed : Backed s id claim)
    (kept : ∀ row : CommandRow, s.store.commands[id]? = some row → row.state = .reserved →
      s'.store.commands[id]? = some row)
    (history : ∀ event ∈ s.journal, event ∈ s'.journal) : Backed s' id claim := by
  obtain ⟨row,found,reserved,user,target,made⟩ := backed
  exact ⟨row,kept row found reserved,reserved,user,target,history _ made⟩

-- Entries and tasks back nothing.
theorem Backed.beside (backed : Backed s id claim) {inFlight : Table CommandId InFlight} {tasks : List Task} :
    Backed {s with inFlight := inFlight,tasks := tasks} id claim :=
  backed.mono (fun _ found _ => found) fun _ member => member

-- Where a task list entry comes from after one task moved.
theorem slot_cases (timers : ∀ t ∈ spawned, ∃ id requestId, t = .timer id requestId) {t : Task}
    {tasks : List Task} (found : (tasks.set i next ++ spawned)[j]? = some t) :
    (j = i ∧ t = next) ∨ (j ≠ i ∧ tasks[j]? = some t) ∨ ∃ id requestId, t = .timer id requestId := by
  by_cases inside : j < (tasks.set i next).length
  · rw [List.getElem?_append_left inside] at found
    by_cases same : i = j
    · subst same
      rw [List.getElem?_set_self (by simpa using inside)] at found
      exact .inl ⟨rfl,(Option.some.inj found).symm⟩
    · rw [List.getElem?_set_ne same] at found
      exact .inr (.inl ⟨fun equal => same equal.symm,found⟩)
  · rw [List.getElem?_append_right (Nat.le_of_not_lt inside)] at found
    exact .inr (.inr (timers t (List.mem_of_getElem? found)))

theorem Initial.ledger (start : Initial s) : Ledger s := by
  have noTask : ∀ (i : Nat) (t : Task), s.tasks[i]? ≠ some t := by simp [start.tasks]
  refine ⟨start.store,?_,?_,?_,?_,?_⟩
  · intro i t found; exact absurd found (noTask i t)
  · intro i t id claim found; exact absurd found (noTask i t)
  · intro id item found; simp [start.inFlight] at found
  · intro i j t u id claim claim' found; exact absurd found (noTask i t)
  · intro i t id claim found; exact absurd found (noTask i t)

-- Reusing a primary key keeps row identities unique, since the new row takes
-- the next one.
theorem sound_reserved {store : StoreState} {now : Instant} {user : Uuid} {device : DeviceId}
    {request : CommandReservation} (sound : s.store.Sound)
    (answer : s.store.reserveCommand now user device request = (.ok .accepted,store)) : store.Sound := by
  obtain ⟨_,row,_,_,_,number,rfl⟩ := StoreState.reserve_accepted answer
  refine ⟨?_,?_⟩
  · intro id old found
    dsimp only at found ⊢
    rw [Table.get_insert] at found
    split at found
    · cases found; omega
    · exact Nat.lt_succ_of_lt (sound.issued id old found)
  · intro id id' old old' found found' same
    dsimp only at found found'
    rw [Table.get_insert] at found found'
    split at found <;> split at found'
    · rename_i left right; exact left.symm.trans right
    · cases found
      have bound := sound.issued id' old' found'
      omega
    · cases found'
      have bound := sound.issued id old found
      omega
    · exact sound.distinct id id' old old' found found' same

theorem sound_completed {store : StoreState} {user : Uuid} {device : DeviceId} {result : CommandResult}
    (sound : s.store.Sound)
    (answer : s.store.completeCommand user device result = (.ok .accepted,store)) : store.Sound := by
  obtain ⟨row,present,_,_,_,rfl⟩ := StoreState.complete_accepted answer
  have traced : ∀ (id : CommandId) (new : CommandRow),
      (s.store.commands.insert result.commandId {row with state := .completed result})[id]? = some new →
      ∃ old, s.store.commands[id]? = some old ∧ old.reservation = new.reservation := by
    intro id new found
    rw [Table.get_insert] at found
    split at found
    · rename_i same
      cases found
      exact ⟨row,same ▸ present,rfl⟩
    · exact ⟨new,found,rfl⟩
  refine ⟨?_,?_⟩
  · intro id new found
    obtain ⟨old,was,number⟩ := traced id new found
    have bound := sound.issued id old was
    dsimp only
    omega
  · intro id id' new new' found found' same
    obtain ⟨old,was,number⟩ := traced id new found
    obtain ⟨old',was',number'⟩ := traced id' new' found'
    exact sound.distinct id id' old old' was was' (by omega)

-- A new reservation meets no open one under its id, so every other claim is
-- about another row.
theorem backed_reserved {store : StoreState} {now : Instant} {user : Uuid} {device : DeviceId}
    {request : CommandReservation}
    (answer : s.store.reserveCommand now user device request = (.ok .accepted,store))
    (backed : Backed s id claim) :
    id ≠ request.command.commandId ∧
    ∀ row : CommandRow, s.store.commands[id]? = some row → store.commands[id]? = some row := by
  obtain ⟨closed,row,_,_,_,_,rfl⟩ := StoreState.reserve_accepted answer
  obtain ⟨old,found,reserved,_⟩ := backed
  have different : id ≠ request.command.commandId := by
    intro same
    subst same
    exact (closed old found).1 reserved
  refine ⟨different,fun row found => ?_⟩
  rw [Table.get_insert_ne different.symm]
  exact found

theorem backed_completed {store : StoreState} {user : Uuid} {device : DeviceId} {result : CommandResult}
    (answer : s.store.completeCommand user device result = (.ok .accepted,store))
    (different : id ≠ result.commandId) :
    store.commands[id]? = s.store.commands[id]? := by
  obtain ⟨row,_,_,_,_,rfl⟩ := StoreState.complete_accepted answer
  exact Table.get_insert_ne different.symm

section run
variable (ledger : Ledger s) (at_ : s.tasks[i]? = some task)
  (timers : ∀ t ∈ spawned, ∃ id requestId, t = .timer id requestId)
include ledger at_ timers

-- The parts of the ledger that speak of tasks only, once each: what the moved
-- task holds afterwards it either held before or is justified anew.
private theorem ledger_of_moves {after : RouterState} (tasks : after.tasks = s.tasks.set i next ++ spawned)
    (sound : after.store.Sound) (matched : next.Matched)
    (backs : ∀ j t id claim, j ≠ i → s.tasks[j]? = some t → t.holds = some (id,claim) → Backed after id claim)
    (moved : ∀ id claim, next.holds = some (id,claim) → Backed after id claim ∧ after.inFlight[id]? = none ∧
      ∀ j t claim', j ≠ i → s.tasks[j]? = some t → t.holds ≠ some (id,claim'))
    (flying : ∀ (id : CommandId) (item : InFlight), after.inFlight[id]? = some item → Backed after id item.claim)
    (apart : ∀ j t id claim, j ≠ i → s.tasks[j]? = some t → t.holds = some (id,claim) →
      after.inFlight[id]? = none) : Ledger after := by
  refine ⟨sound,?_,?_,flying,?_,?_⟩
  · intro j t found
    rw [tasks] at found
    rcases slot_cases timers found with ⟨_,rfl⟩ | ⟨_,old⟩ | ⟨_,_,rfl⟩
    · exact matched
    · exact ledger.matched j t old
    · trivial
  · intro j t id claim found holds
    rw [tasks] at found
    rcases slot_cases timers found with ⟨_,rfl⟩ | ⟨other,old⟩ | ⟨_,_,rfl⟩
    · exact (moved id claim holds).1
    · exact backs j t id claim other old holds
    · cases holds
  · intro j k t u id claim claim' foundj foundk holdst holdsu
    rw [tasks] at foundj foundk
    rcases slot_cases timers foundj with ⟨rfl,rfl⟩ | ⟨otherj,oldj⟩ | ⟨_,_,rfl⟩
    · rcases slot_cases timers foundk with ⟨rfl,_⟩ | ⟨otherk,oldk⟩ | ⟨_,_,rfl⟩
      · rfl
      · exact absurd holdsu ((moved id claim holdst).2.2 k u claim' otherk oldk)
      · cases holdsu
    · rcases slot_cases timers foundk with ⟨rfl,rfl⟩ | ⟨otherk,oldk⟩ | ⟨_,_,rfl⟩
      · exact absurd holdst ((moved id claim' holdsu).2.2 j t claim otherj oldj)
      · exact ledger.single j k t u id claim claim' oldj oldk holdst holdsu
      · cases holdsu
    · cases holdst
  · intro j t id claim found holds
    rw [tasks] at found
    rcases slot_cases timers found with ⟨_,rfl⟩ | ⟨other,old⟩ | ⟨_,_,rfl⟩
    · exact (moved id claim holds).2.1
    · exact apart j t id claim other old holds
    · cases holds

-- What the moving task holds, nobody else does.
omit timers in
private theorem held_alone {claim : Claim} (holds : task.holds = some (id,claim)) (j : Nat) (t : Task) (claim' : Claim)
    (other : j ≠ i) (found : s.tasks[j]? = some t) : t.holds ≠ some (id,claim') :=
  fun same => other (ledger.single j i t task id claim' claim found at_ same holds)

-- Steps that leave the rows and the in-flight map alone.
private theorem ledger_unmoved (store : s'.store = s.store) (inFlight : s'.inFlight = s.inFlight)
    (journal : ∀ event ∈ s.journal, event ∈ s'.journal) (holds : next.holds = none ∨ next.holds = task.holds)
    (matched : next.Matched) : Ledger {s' with tasks := s.tasks.set i next ++ spawned} := by
  have kept : ∀ id claim, Backed s id claim →
      Backed {s' with tasks := s.tasks.set i next ++ spawned} id claim := fun id claim backed =>
    backed.mono (by simp only [store]; intro row found _; exact found) journal
  have carried : ∀ id claim, next.holds = some (id,claim) → task.holds = some (id,claim) := by
    intro id claim held
    rcases holds with nothing | same
    · rw [nothing] at held
      cases held
    · rw [← same]
      exact held
  refine ledger_of_moves ledger at_ timers rfl ?_ matched ?_ ?_ ?_ ?_
  · simp only [store]
    exact ledger.sound
  · intro j t id claim _ found holds
    exact kept id claim (ledger.held j t id claim found holds)
  · intro id claim held
    have before := carried id claim held
    refine ⟨kept id claim (ledger.held i task id claim at_ before),?_,held_alone ledger at_ before⟩
    simp only [inFlight]
    exact ledger.apart i task id claim at_ before
  · intro id item found
    simp only [inFlight] at found
    exact kept id _ (ledger.flying id item found)
  · intro j t id claim _ found holds
    simp only [inFlight]
    exact ledger.apart j t id claim found holds

-- A new reservation: its id was held and flew nowhere.
private theorem ledger_reserves {admission : Admission} {now : Instant}
    (answer : s.store.reserveCommand now admission.ownerId admission.command.target.deviceId
      admission.reservation = (.ok .accepted,s'.store)) (inFlight : s'.inFlight = s.inFlight)
    (outcome : next = .capacity admission ∧ s'.journal = s.journal ++
        [.reserved s.store.nextReservation admission.command.commandId admission.claim] ∨
      next.holds = none ∧ s'.journal = s.journal)
    (matched : next.Matched) : Ledger {s' with tasks := s.tasks.set i next ++ spawned} := by
  have kept : ∀ id claim, Backed s id claim → id ≠ admission.command.commandId ∧
      Backed {s' with tasks := s.tasks.set i next ++ spawned} id claim := by
    intro id claim backed
    obtain ⟨different,same⟩ := backed_reserved answer backed
    refine ⟨different,backed.mono (fun row found _ => same row found) ?_⟩
    intro event member
    rcases outcome with ⟨_,journal⟩ | ⟨_,journal⟩
    · simp only [journal]
      exact List.mem_append_left _ member
    · simp only [journal]
      exact member
  refine ledger_of_moves ledger at_ timers rfl (sound_reserved ledger.sound answer) matched ?_ ?_ ?_ ?_
  · intro j t id claim _ found holds
    exact (kept id claim (ledger.held j t id claim found holds)).2
  · intro id claim holds
    rcases outcome with ⟨rfl,journal⟩ | ⟨nothing,_⟩
    · cases holds
      refine ⟨?_,?_,?_⟩
      · obtain ⟨_,row,user,device,reserved,number,stored⟩ := StoreState.reserve_accepted answer
        refine ⟨row,?_,reserved,user,device,?_⟩
        · simp only [stored]
          exact Std.ExtTreeMap.getElem?_insert_self
        · simp only [journal,number]
          exact List.mem_append_right _ List.mem_cons_self
      · simp only [inFlight]
        cases found : s.inFlight[admission.command.commandId]? with
        | none => rfl
        | some item => exact absurd rfl (kept _ _ (ledger.flying _ item found)).1
      · intro j t claim' _ found holds
        exact (kept _ _ (ledger.held j t _ claim' found holds)).1 rfl
    · rw [nothing] at holds
      cases holds
  · intro id item found
    simp only [inFlight] at found
    exact (kept id _ (ledger.flying id item found)).2
  · intro j t id claim _ found holds
    simp only [inFlight]
    exact ledger.apart j t id claim found holds

-- The claim goes from the submit to the in-flight map.
private theorem ledger_inserts {admission : Admission} (holds : task.holds = some (admission.command.commandId,admission.claim))
    (matched : (Task.received admission).Matched) : Ledger {s with
      inFlight := s.inFlight.insert admission.command.commandId admission.inFlight
      tasks := s.tasks.set i (.received admission) ++ spawned} := by
  refine ledger_of_moves ledger at_ timers rfl ledger.sound matched ?_ ?_ ?_ ?_
  · intro j t id claim _ found holds
    exact (ledger.held j t id claim found holds).beside
  · intro id claim holds
    cases holds
  · intro id item found
    dsimp only at found
    rw [Table.get_insert] at found
    split at found
    · rename_i same
      subst same
      cases found
      exact (ledger.held i _ _ _ at_ holds).beside
    · exact (ledger.flying id item found).beside
  · intro j t id claim other found theirs
    dsimp only
    rw [Table.get_insert]
    split
    · rename_i same
      subst same
      exact absurd theirs (held_alone ledger at_ holds j t claim other found)
    · exact ledger.apart j t id claim found theirs

-- And from the map to the one task that finishes it.
private theorem ledger_removes {commandId : CommandId} {result : CommandResult} {caller : Caller} {item : InFlight}
    (named : result.commandId = commandId) (present : s.inFlight[commandId]? = some item)
    (matched : (Task.complete item result caller).Matched) : Ledger {s with
      inFlight := s.inFlight.erase commandId
      tasks := s.tasks.set i (.complete item result caller) ++ spawned} := by
  refine ledger_of_moves ledger at_ timers rfl ledger.sound matched ?_ ?_ ?_ ?_
  · intro j t id claim _ found holds
    exact (ledger.held j t id claim found holds).beside
  · intro id claim holds
    cases holds
    refine ⟨?_,?_,?_⟩
    · rw [named]
      exact (ledger.flying commandId item present).beside
    · rw [named]
      exact Table.get_erase_self
    · intro j t claim' _ found holds
      rw [named] at holds
      rw [ledger.apart j t _ claim' found holds] at present
      cases present
  · intro id other found
    exact (ledger.flying id other (Table.get_erase_some found).2).beside
  · intro j t id claim _ found holds
    dsimp only
    rw [Table.get_erase,ledger.apart j t id claim found holds]
    split <;> rfl

-- A row is completed by the task that held it; the other rows are as they were.
private theorem ledger_settles {result : CommandResult} {row : CommandRow} {claim : Claim}
    (held : task.holds = some (result.commandId,claim))
    (answer : s.store.completeCommand claim.ownerId claim.targetDeviceId result = (.ok .accepted,s'.store))
    (inFlight : s'.inFlight = s.inFlight)
    (journal : s'.journal = s.journal ++ [.completed row.reservation result]) (holds : next.holds = none)
    (matched : next.Matched) : Ledger {s' with tasks := s.tasks.set i next ++ spawned} := by
  have kept : ∀ id claim, id ≠ result.commandId → Backed s id claim →
      Backed {s' with tasks := s.tasks.set i next ++ spawned} id claim := fun id claim different backed =>
    backed.mono (by intro row found _; dsimp only; rw [backed_completed answer different]; exact found)
      (by intro event member; simp only [journal]; exact List.mem_append_left _ member)
  refine ledger_of_moves ledger at_ timers rfl (sound_completed ledger.sound answer) matched ?_ ?_ ?_ ?_
  · intro j t id claim' other found holds'
    refine kept id claim' ?_ (ledger.held j t id claim' found holds')
    intro same
    subst same
    exact held_alone ledger at_ held j t claim' other found holds'
  · intro id claim' impossible
    rw [holds] at impossible
    cases impossible
  · intro id item flies
    simp only [inFlight] at flies
    refine kept id _ ?_ (ledger.flying id item flies)
    intro same
    subst same
    rw [ledger.apart i _ _ claim at_ held] at flies
    cases flies
  · intro j t id claim' _ found holds'
    simp only [inFlight]
    exact ledger.apart j t id claim' found holds'

theorem ledger_run (effect : Effect s task s' next) (matched : next.Matched) :
    Ledger {s' with tasks := s.tasks.set i next ++ spawned} := by
  cases effect with
  | quiet frames plain store inFlight journal holds reports =>
    refine ledger_unmoved ledger at_ timers store inFlight (fun event member => ?_) holds matched
    rw [journal]
    exact List.mem_append_left _ member
  | reserve answer inFlight outcome reports =>
    exact ledger_reserves ledger at_ timers answer inFlight outcome matched
  | insert => exact ledger_inserts ledger at_ timers rfl matched
  | remove present => exact ledger_removes ledger at_ timers (ledger.matched i _ at_) present matched
  | settle claim held found answer inFlight journal holds reports =>
    exact ledger_settles ledger at_ timers held answer inFlight journal holds matched
  | report claim told store inFlight journal holds reports =>
    refine ledger_unmoved ledger at_ timers store inFlight (fun event member => ?_) (.inl holds) matched
    rw [journal]
    exact List.mem_append_left _ member

end run

end DeviceControl
