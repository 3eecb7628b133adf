import RockServer.CommandExactlyOnce

namespace DeviceControl
open ConnectionRegistry (reachable)

-- What is seen of the router once the stream URI of one station is blotted out
-- wherever it may stand: in the device.command frame on its way to its target.
section conceal
variable (station : String)

def CommandBody.conceal : CommandBody → CommandBody
  | .playStream .rockserverCatalog (some stationId) presentation streamUri =>
    .playStream .rockserverCatalog (some stationId) presentation (if stationId = station then "" else streamUri)
  | body => body

def DeviceCommand.conceal (device : Uuid) (command : DeviceCommand) : DeviceCommand :=
  if command.target.deviceId.uuid = device then {command with body := command.body.conceal station} else command

def OutboundFrame.conceal (device : Uuid) : OutboundFrame → OutboundFrame
  | .deviceCommand command => .deviceCommand (command.conceal station device)
  | frame => frame

def ActiveConnection.conceal (device : Uuid) (active : ActiveConnection) : ActiveConnection :=
  {active with outbound := {active.outbound with queue := active.outbound.queue.map (OutboundFrame.conceal station device)}}

def ConnectionRegistry.conceal (registry : ConnectionRegistry) : ConnectionRegistry :=
  registry.map (ActiveConnection.conceal station)

def Event.conceal : Event → Event
  | .sent receiver frame mark => .sent receiver (frame.conceal station receiver.deviceId) mark
  | event => event

def Task.conceal : Task → Task
  | .dispatch admission command => .dispatch admission (command.conceal station admission.command.target.deviceId.uuid)
  | task => task

def RouterState.conceal (s : RouterState) : RouterState :=
  {s with
    registry := ConnectionRegistry.conceal station s.registry
    tasks := s.tasks.map (Task.conceal station)
    journal := s.journal.map (Event.conceal station)}

end conceal

-- Two replies about one station that differ in an accepted stream URI.
structure CatalogReply.SameStation (reply twin : CatalogReply) : Prop where
  found : ∃ presentation streamUri other, reply = .found ⟨streamUri,presentation⟩ ∧ twin = .found ⟨other,presentation⟩ ∧
    StreamUri.validateStreamUri streamUri = .ok () ∧ StreamUri.validateStreamUri other = .ok ()

-- The catalogs may differ when the station is looked up, and a channel that
-- was drained may have held either URI. All else happens in both runs.
inductive Action.Alike (station : String) (s : RouterState) : Action → Action → Prop where
  | same {action} : Alike station s action action
  | registry {registry twin} : ConnectionRegistry.conceal station registry = ConnectionRegistry.conceal station twin →
      Alike station s (.registry registry) (.registry twin)
  | lookup {i now storeFails reply twin admission} : s.tasks[i]? = some (.resolve admission station) →
      CatalogReply.SameStation reply twin →
      Alike station s (.run i ⟨now,storeFails,reply⟩) (.run i ⟨now,storeFails,twin⟩)

section steps
variable {station : String} {env : RouterEnv} {o : Oracle} {s t : RouterState}

@[simp] theorem conceal_store : (s.conceal station).store = s.store := rfl
@[simp] theorem conceal_inFlight : (s.conceal station).inFlight = s.inFlight := rfl
@[simp] theorem conceal_registry :
    (s.conceal station).registry = ConnectionRegistry.conceal station s.registry := rfl

theorem conceal_get {registry : ConnectionRegistry} {device : Uuid} :
    (ConnectionRegistry.conceal station registry)[device]? =
      (registry[device]?).map (ActiveConnection.conceal station device) := Table.get_mapKey

theorem activeFor_conceal {registry : ConnectionRegistry} {user device : Uuid} :
    ConnectionRegistry.activeFor (ConnectionRegistry.conceal station registry) user device =
      ConnectionRegistry.activeFor registry user device := by
  unfold ConnectionRegistry.activeFor
  rw [conceal_get]
  cases registry[device]? with
  | none => rfl
  | some active =>
    simp only [Option.map_some,Option.filter_some,ActiveConnection.conceal]
    split <;> rfl

theorem accepts_conceal {active : ActiveConnection} {device : Uuid} :
    (active.conceal station device).outbound.accepts = active.outbound.accepts := by
  simp [ActiveConnection.conceal,Outbound.accepts]

theorem reachable_conceal {registry : ConnectionRegistry} {receiver : Address} :
    reachable (ConnectionRegistry.conceal station registry) receiver =
      (reachable registry receiver).map (ActiveConnection.conceal station receiver.deviceId) := by
  unfold reachable
  rw [conceal_get]
  cases registry[receiver.deviceId]? with
  | none => rfl
  | some active =>
    simp only [Option.map_some,Option.filter_some,accepts_conceal,apply_ite (Option.map _)]
    rfl

theorem insert_conceal {registry : ConnectionRegistry} {device : Uuid} {active : ActiveConnection} :
    ConnectionRegistry.conceal station (registry.insert device active) =
      (ConnectionRegistry.conceal station registry).insert device (active.conceal station device) := by
  refine Table.same_rows fun other => ?_
  rw [conceal_get,Table.get_insert,Table.get_insert,conceal_get]
  split
  · rename_i same
    rw [same]
    rfl
  · rfl

-- A frame is delivered or refused regardless of what the channels hold.
theorem send_conceal (station : String) (s : RouterState) (receiver : Address) (frame : OutboundFrame) (mark : Option Nat) :
    (s.conceal station).send receiver (frame.conceal station receiver.deviceId) mark =
      ((s.send receiver frame mark).1.conceal station,(s.send receiver frame mark).2) := by
  unfold RouterState.send ConnectionRegistry.sendTo
  rw [conceal_registry,reachable_conceal]
  cases reachable s.registry receiver with
  | none => rfl
  | some active =>
    simp only [Option.map_some,RouterState.conceal,insert_conceal,List.map_append,List.map_cons,List.map_nil,Event.conceal,
      ActiveConnection.conceal]

theorem send_plain {receiver : Address} {frame : OutboundFrame} {mark : Option Nat}
    (plain : ∀ device, frame.conceal station device = frame) : (s.conceal station).send receiver frame mark =
      ((s.send receiver frame mark).1.conceal station,(s.send receiver frame mark).2) := by
  have sent := send_conceal station s receiver frame mark
  rwa [plain] at sent

theorem complete_conceal (s : RouterState) (owner : Uuid) (target : DeviceId) (result : CommandResult) :
    (s.conceal station).complete o owner target result =
      ((s.complete o owner target result).1.conceal station,(s.complete o owner target result).2) := by
  unfold RouterState.complete
  rw [conceal_store]
  cases s.store.completeCommand owner target result with
  | mk answer store =>
    cases s.store.commands[result.commandId]? with
    | none =>
      cases answer with
      | error => rfl
      | ok outcome => cases outcome <;> rfl
    | some row =>
      split
      · cases o.storeFails with
        | none => simp [RouterState.conceal,Event.conceal]
        | some committed => cases committed <;> simp [RouterState.conceal,Event.conceal]
      · rfl

-- A step through the blotted state, and what is seen of a step.
def concealStep (station : String) : RouterState × Task × List Task → RouterState × Task × List Task
  | (s,next,spawned) => (s.conceal station,next.conceal station,spawned.map (Task.conceal station))

theorem next_conceal (caller : Caller) (env : RouterEnv) (now : Instant) :
    (caller.next env now).conceal station = caller.next env now := by
  unfold Caller.next
  split <;> rfl

theorem begin_conceal (s : RouterState) (call : Call) :
    begin env o (s.conceal station) call =
      ((begin env o s call).1.conceal station,(begin env o s call).2.conceal station) := by
  cases call with
  | submit call =>
    simp only [begin,checkController,conceal_registry,activeFor_conceal]
    split <;> rfl
  | accepted owner device connection accepted =>
    simp only [begin,conceal_inFlight]
    cases s.inFlight[accepted.commandId]? with
    | none => rfl
    | some item =>
      dsimp only
      split
      · rfl
      · rw [send_plain fun _ => rfl]
        rcases s.send _ _ _ with ⟨s',_ | _⟩ <;> rfl
  | result owner device connection result hasStore =>
    simp only [begin,conceal_inFlight]
    cases result.validate with
    | error => rfl
    | ok =>
      dsimp only
      cases s.inFlight[result.commandId]? with
      | none => rfl
      | some item =>
        dsimp only
        split
        · rfl
        · split <;> rfl
  | disconnected owner device connection hasStore =>
    simp only [begin,conceal_inFlight]
    split
    · rfl
    · rw [next_conceal]

theorem reserve_conceal (s : RouterState) (admission : Admission) :
    reserve o (s.conceal station) admission =
      ((reserve o s admission).1.conceal station,(reserve o s admission).2.conceal station) := by
  unfold reserve
  rw [conceal_store]
  split
  · rename_i committed _ _
    cases committed <;> rfl
  · rfl
  · rfl
  · simp [RouterState.conceal,Event.conceal,Task.conceal]
  · rfl
  · rfl

-- A command in dispatch stands for its frame to the admitted target.
theorem dispatch_conceal (s : RouterState) (admission : Admission) (command : DeviceCommand) :
    advance env o (s.conceal station) (.dispatch admission (command.conceal station admission.command.target.deviceId.uuid)) =
      concealStep station (advance env o s (.dispatch admission command)) := by
  have sent := send_conceal station s admission.target (.deviceCommand command) none
  rw [show admission.command.target.deviceId.uuid = admission.target.deviceId from rfl]
  simp only [OutboundFrame.conceal] at sent
  simp only [advance,sent]
  have named : (command.conceal station admission.target.deviceId).commandId = command.commandId := by
    unfold DeviceCommand.conceal
    split <;> rfl
  rcases s.send admission.target (.deviceCommand command) none with ⟨s',_ | _⟩
  · simp only [named]
    rfl
  · rfl

-- No step looks behind the blot; two of them may write what it hides.
theorem advance_conceal (s : RouterState) (task : Task) (plain : ∀ admission, task ≠ .received admission)
    (known : ∀ admission stationId, task ≠ .resolve admission stationId) :
    advance env o (s.conceal station) (task.conceal station) = concealStep station (advance env o s task) := by
  cases task with
  | start call =>
    simp only [Task.conceal,advance,begin_conceal]
    rfl
  | lookup call now =>
    simp only [Task.conceal,advance,conceal_registry,activeFor_conceal]
    split
    · rfl
    · split <;> rfl
  | ownership call =>
    change (if o.storeFails.isSome then _
      else if (s.store.loadManifest call.ownerId call.command.target.deviceId).isSome then _ else _) = _
    simp only [advance]
    split
    · rfl
    · split <;> rfl
  | reserve admission =>
    simp only [Task.conceal,advance,reserve_conceal]
    rfl
  | loadReplay admission =>
    simp only [Task.conceal,advance,conceal_store]
    split <;> rfl
  | replayReceived admission persisted =>
    simp only [Task.conceal,advance]
    rw [send_plain fun _ => rfl]
    rcases s.send _ _ _ with ⟨s',_ | _⟩
    · rfl
    · cases persisted <;> rfl
  | replayResult admission persisted =>
    simp only [Task.conceal,advance]
    rw [send_plain fun _ => rfl]
    rcases s.send _ _ _ with ⟨s',_ | _⟩ <;> rfl
  | capacity admission =>
    change (if overCapacity s.inFlight admission.controllerConnectionId admission.command.target.deviceId then _ else _) = _
    simp only [advance]
    split <;> rfl
  | reject admission =>
    simp only [Task.conceal,advance,complete_conceal]
    rfl
  | insert admission => rfl
  | received admission => exact absurd rfl (plain admission)
  | resolve admission stationId => exact absurd rfl (known admission stationId)
  | dispatch admission command => exact dispatch_conceal s admission command
  | arm admission => rfl
  | timer commandId requestId => rfl
  | finish commandId result caller =>
    simp only [Task.conceal,advance,conceal_inFlight]
    split
    · simp only [concealStep,next_conceal]
      rfl
    · rfl
  | complete item result caller =>
    simp only [Task.conceal,advance,complete_conceal]
    rcases s.complete _ _ _ _ with ⟨s',_ | _⟩
    · simp only [concealStep,next_conceal]
      rfl
    · rfl
  | notify item result caller reservation =>
    simp only [Task.conceal,advance]
    rw [send_plain fun _ => rfl]
    simp only [concealStep,next_conceal]
    rfl
  | returned outcome => rfl

theorem received_same (same : s.conceal station = t.conceal station) (admission : Admission) :
    concealStep station (advance env o s (.received admission)) =
      concealStep station (advance env o t (.received admission)) := by
  have sent : ∀ s : RouterState, (s.conceal station).send admission.controller
      (.commandReceived ⟨admission.command.commandId,admission.receivedAt,false⟩) none = _ :=
    fun s => send_plain fun _ => rfl
  have first := sent s
  rw [same,sent t] at first
  simp only [advance]
  revert first
  rcases s.send _ _ _ with ⟨s',_ | _⟩ <;> rcases t.send _ _ _ with ⟨t',_ | _⟩ <;> intro first
  all_goals
    simp only [Prod.mk.injEq,reduceCtorEq,and_false,and_true] at first
  · simp only [concealStep,first]
  · dsimp only
    split <;> simp only [concealStep,first]

-- An accepted URI starts with its scheme, so it is never blank.
theorem accepted_printed {streamUri : String} (accepted : StreamUri.validateStreamUri streamUri = .ok ()) :
    streamUri.toList.all isWhitespace = false := by
  unfold StreamUri.validateStreamUri StreamUri.stripPrefix? at accepted
  have started : ∀ scheme : List Char, 'h' :: scheme <+: streamUri.toList → streamUri.toList.all isWhitespace = false := by
    rintro scheme ⟨rest,text⟩
    rw [← text]
    rfl
  split at accepted
  · cases accepted
  · split at accepted
    · cases accepted
    · rename_i rest stripped
      rcases Option.or_eq_some_iff.mp stripped with secure | ⟨_,plain⟩
      · split at secure
        · rename_i scheme
          exact started _ (List.isPrefixOf_iff_prefix.mp scheme)
        · cases secure
      · split at plain
        · rename_i scheme
          exact started _ (List.isPrefixOf_iff_prefix.mp scheme)
        · cases plain

theorem resolveStation_found {streamUri : String} {presentation : StationPresentation}
    (accepted : StreamUri.validateStreamUri streamUri = .ok ()) : resolveStation (.found ⟨streamUri,presentation⟩) =
      match presentation.validate with
      | .error _ => .error (.invalid "Station presentation is not allowed.")
      | .ok () => .ok ⟨streamUri,presentation⟩ := by
  unfold resolveStation
  cases checked : presentation.validate with
  | error error => simp only [accepted_printed accepted,Bool.false_eq_true,if_false,checked]
  | ok done => simp only [accepted_printed accepted,accepted,Bool.false_eq_true,if_false,checked]

theorem conceal_played {command : DeviceCommand} {presentation : Option StationPresentation} {streamUri : String} :
    ({command with body := .playStream .rockserverCatalog (some station) presentation streamUri} : DeviceCommand).conceal
      station command.target.deviceId.uuid =
      {command with body := .playStream .rockserverCatalog (some station) presentation ""} := by
  simp [DeviceCommand.conceal,CommandBody.conceal]

theorem resolve_same (same : s.conceal station = t.conceal station) (admission : Admission) (stationId : String)
    {p : Oracle} (clock : o.now = p.now)
    (alike : o.catalog = p.catalog ∨ stationId = station ∧ CatalogReply.SameStation o.catalog p.catalog) :
    concealStep station (advance env o s (.resolve admission stationId)) =
      concealStep station (advance env p t (.resolve admission stationId)) := by
  simp only [advance,concealStep,resolve,← clock]
  split
  · simp only [same]
  · rcases alike with equal | ⟨rfl,presentation,streamUri,other,one,two,accepted,also⟩
    · rw [equal]
      split <;> simp only [same]
    · rw [one,two,resolveStation_found accepted,resolveStation_found also]
      cases presentation.validate with
      | error => simp only [same]
      | ok =>
        simp only [same,Task.conceal]
        rw [conceal_played,conceal_played]

theorem conceal_resolve {task : Task} {admission : Admission} {stationId : String}
    (concealed : task.conceal station = .resolve admission stationId) : task = .resolve admission stationId := by
  cases task with
  | dispatch other command => cases concealed
  | _ => exact concealed

theorem conceal_received {task : Task} {admission : Admission} (concealed : task.conceal station = .received admission) :
    task = .received admission := by
  cases task with
  | dispatch other command => cases concealed
  | _ => exact concealed

-- The unwinding step: the same is seen of two tasks that look the same.
theorem advance_same (same : s.conceal station = t.conceal station) {task twin : Task}
    (matched : task.conceal station = twin.conceal station) {p : Oracle} (clock : o.now = p.now)
    (storeFails : o.storeFails = p.storeFails)
    (alike : o.catalog = p.catalog ∨ (∃ admission, task = .resolve admission station) ∧
      CatalogReply.SameStation o.catalog p.catalog) :
    concealStep station (advance env o s task) = concealStep station (advance env p t twin) := by
  have replied : ∀ admission stationId, task = .resolve admission stationId →
      o.catalog = p.catalog ∨ stationId = station ∧ CatalogReply.SameStation o.catalog p.catalog := by
    rintro admission stationId rfl
    rcases alike with equal | ⟨⟨_,asked⟩,replies⟩
    · exact .inl equal
    · cases asked
      exact .inr ⟨rfl,replies⟩
  by_cases lookup : ∃ admission stationId, task = .resolve admission stationId
  · obtain ⟨admission,stationId,rfl⟩ := lookup
    rw [conceal_resolve matched.symm]
    exact resolve_same same admission stationId clock (replied admission stationId rfl)
  have equal : p = o := by
    rcases alike with equal | ⟨⟨admission,asked⟩,_⟩
    · cases o
      cases p
      cases clock
      cases storeFails
      cases equal
      rfl
    · exact absurd ⟨admission,station,asked⟩ lookup
  subst equal
  by_cases received : ∃ admission, task = .received admission
  · obtain ⟨admission,rfl⟩ := received
    rw [conceal_received matched.symm]
    exact received_same same admission
  · rw [← advance_conceal s task (fun admission is => received ⟨admission,is⟩)
        (fun admission stationId is => lookup ⟨admission,stationId,is⟩),
      ← advance_conceal t twin (fun admission is => received ⟨admission,?_⟩)
        (fun admission stationId is => lookup ⟨admission,stationId,?_⟩),same,matched]
    · exact conceal_received (matched.trans (congrArg _ is))
    · exact conceal_resolve (matched.trans (congrArg _ is))

theorem run_same (same : s.conceal station = t.conceal station) {i : Nat} {p : Oracle} (clock : o.now = p.now)
    (storeFails : o.storeFails = p.storeFails)
    (alike : o.catalog = p.catalog ∨ (∃ admission, s.tasks[i]? = some (.resolve admission station)) ∧
      CatalogReply.SameStation o.catalog p.catalog) :
    (execute env s (.run i o)).map (RouterState.conceal station) =
      (execute env t (.run i p)).map (RouterState.conceal station) := by
  have tasks : s.tasks.map (Task.conceal station) = t.tasks.map (Task.conceal station) := congrArg RouterState.tasks same
  have slot := congrArg (fun tasks : List Task => tasks[i]?) tasks
  simp only [List.getElem?_map] at slot
  simp only [execute]
  cases left : s.tasks[i]? with
  | none =>
    rw [left] at slot
    simp only [Option.map_eq_none_iff.mp slot.symm]
  | some task =>
    rw [left] at slot
    obtain ⟨twin,right,matched⟩ := Option.map_eq_some_iff.mp slot.symm
    simp only [right]
    have step : concealStep station (advance env o s task) = concealStep station (advance env p t twin) :=
      advance_same same matched.symm clock storeFails (by simpa [left] using alike)
    generalize advance env o s task = taken at step ⊢
    generalize advance env p t twin = matching at step ⊢
    obtain ⟨s',next,spawned⟩ := taken
    obtain ⟨t',other,timers⟩ := matching
    simp only [concealStep,Prod.mk.injEq] at step
    obtain ⟨left,follow,spawned⟩ := step
    simp only [RouterState.conceal,RouterState.mk.injEq] at left
    simp only [RouterState.conceal,left,tasks,follow,spawned,Option.map_some,List.map_append,List.map_set]

theorem execute_same {action twin : Action} (same : s.conceal station = t.conceal station)
    (alike : Action.Alike station s action twin) :
    (execute env s action).map (RouterState.conceal station) = (execute env t twin).map (RouterState.conceal station) := by
  have fields := same
  simp only [RouterState.conceal,RouterState.mk.injEq] at fields
  cases alike with
  | lookup asked replies => exact run_same same rfl rfl (.inr ⟨⟨_,asked⟩,replies⟩)
  | registry drained => simp only [execute,RouterState.conceal,fields,drained,Option.map_some]
  | same =>
    cases action with
    | run i o => exact run_same same rfl rfl (.inl rfl)
    | call call => simp only [execute,RouterState.conceal,fields,Option.map_some,List.map_append]
    | registry registry => simp only [execute,RouterState.conceal,fields,Option.map_some]
    | devices devices manifests => simp only [execute,RouterState.conceal,fields,Option.map_some]
    | prune now limit => simp only [execute,RouterState.conceal,fields,Option.map_some]

end steps

-- Frames agree, but for the station's stream URI in a command to its target.
inductive SameFrame (station : String) : Event → Event → Prop where
  | same {event} : SameFrame station event event
  | played {receiver command presentation streamUri mark} (other : String) :
      receiver.deviceId = command.target.deviceId.uuid →
      command.body = .playStream .rockserverCatalog (some station) presentation streamUri →
      SameFrame station (.sent receiver (.deviceCommand command) mark)
        (.sent receiver (.deviceCommand {command with
          body := .playStream .rockserverCatalog (some station) presentation other}) mark)

structure SecretKept (station : String) (s t : RouterState) : Prop where
  returns : ∀ (i : Nat) outcome, s.tasks[i]? = some (.returned outcome) ↔ t.tasks[i]? = some (.returned outcome)
  frames : List.Forall₂ (SameFrame station) s.journal t.journal
  store : s.store = t.store

section views
variable {station : String} {s t : RouterState}

theorem returned_conceal {task : Task} {outcome : Except ErrorCode Unit} :
    task.conceal station = .returned outcome ↔ task = .returned outcome := by
  cases task with
  | dispatch admission command => exact iff_of_false (fun other => nomatch other) (fun other => nomatch other)
  | _ => exact Iff.rfl

theorem body_cases (station : String) (body : CommandBody) :
    (∃ presentation streamUri, body = .playStream .rockserverCatalog (some station) presentation streamUri) ∨
    body.conceal station = body ∧
      ∀ presentation streamUri, body ≠ .playStream .rockserverCatalog (some station) presentation streamUri := by
  unfold CommandBody.conceal
  split
  · rename_i stationId presentation streamUri
    by_cases asked : stationId = station
    · rw [asked]
      exact .inl ⟨presentation,streamUri,rfl⟩
    · rw [if_neg asked]
      refine .inr ⟨rfl,fun _ _ other => ?_⟩
      cases other
      exact asked rfl
  · rename_i plain
    exact .inr ⟨rfl,fun _ _ other => plain _ _ _ other⟩

theorem played_conceal {presentation : Option StationPresentation} {streamUri : String} :
    (CommandBody.playStream .rockserverCatalog (some station) presentation streamUri).conceal station =
      .playStream .rockserverCatalog (some station) presentation "" := by
  simp [CommandBody.conceal]

theorem body_conceal {body twin : CommandBody} (same : body.conceal station = twin.conceal station) :
    body = twin ∨ ∃ presentation streamUri other, body = .playStream .rockserverCatalog (some station) presentation streamUri ∧
      twin = .playStream .rockserverCatalog (some station) presentation other := by
  rcases body_cases station body with ⟨presentation,streamUri,rfl⟩ | ⟨kept,plain⟩ <;>
    rcases body_cases station twin with ⟨shown,other,rfl⟩ | ⟨also,bare⟩
  · rw [played_conceal,played_conceal] at same
    cases same
    exact .inr ⟨presentation,streamUri,other,rfl,rfl⟩
  · rw [played_conceal,also] at same
    exact absurd same.symm (bare _ _)
  · rw [played_conceal,kept] at same
    exact absurd same (plain _ _)
  · rw [kept,also] at same
    exact .inl same

theorem command_conceal {command twin : DeviceCommand} {receiver : Address} {mark : Option Nat}
    (same : command.conceal station receiver.deviceId = twin.conceal station receiver.deviceId) :
    SameFrame station (.sent receiver (.deviceCommand command) mark) (.sent receiver (.deviceCommand twin) mark) := by
  have targets : command.target = twin.target := by
    have either : ∀ command : DeviceCommand, (command.conceal station receiver.deviceId).target = command.target := by
      intro command
      unfold DeviceCommand.conceal
      split <;> rfl
    rw [← either command,same,either twin]
  unfold DeviceCommand.conceal at same
  rw [← targets] at same
  split at same
  · rename_i own
    rcases command with ⟨id,target,deadline,body⟩
    rcases twin with ⟨other,aim,limit,goal⟩
    cases targets
    simp only [DeviceCommand.mk.injEq,true_and] at same
    obtain ⟨rfl,rfl,bodies⟩ := same
    rcases body_conceal bodies with rfl | ⟨presentation,streamUri,uri,rfl,rfl⟩
    · exact .same
    · exact .played uri own.symm rfl
  · rw [same]
    exact .same

theorem event_conceal {event twin : Event} (same : event.conceal station = twin.conceal station) :
    SameFrame station event twin := by
  have plain : ∀ event : Event, (∀ receiver command mark, event ≠ .sent receiver (.deviceCommand command) mark) →
      event.conceal station = event := by
    intro event other
    cases event with
    | sent receiver frame mark =>
      cases frame with
      | deviceCommand command => exact absurd rfl (other receiver command mark)
      | _ => rfl
    | _ => rfl
  have kept : ∀ (event : Event) receiver command mark, event.conceal station = .sent receiver (.deviceCommand command) mark →
      ∃ sent, event = .sent receiver (.deviceCommand sent) mark := by
    intro event receiver command mark concealed
    cases event with
    | sent address frame note =>
      cases frame <;> cases concealed
      exact ⟨_,rfl⟩
    | _ => cases concealed
  by_cases ordered : ∃ receiver command mark, event = .sent receiver (.deviceCommand command) mark
  · obtain ⟨receiver,command,mark,rfl⟩ := ordered
    obtain ⟨sent,rfl⟩ := kept twin _ _ _ same.symm
    simp only [Event.conceal,OutboundFrame.conceal,Event.sent.injEq,OutboundFrame.deviceCommand.injEq,true_and,and_true] at same
    exact command_conceal same
  · have bare : ∀ receiver command mark, event ≠ .sent receiver (.deviceCommand command) mark :=
      fun receiver command mark is => ordered ⟨receiver,command,mark,is⟩
    rw [plain event bare] at same
    have also : ∀ receiver command mark, twin ≠ .sent receiver (.deviceCommand command) mark := by
      rintro receiver command mark rfl
      exact bare _ _ _ same
    rw [same,plain twin also]
    exact .same

theorem secret_kept (same : s.conceal station = t.conceal station) : SecretKept station s t := by
  have store : (s.conceal station).store = (t.conceal station).store := congrArg RouterState.store same
  refine ⟨fun i outcome => ?_,?_,store⟩
  · have slot := congrArg (fun s : RouterState => s.tasks[i]?) same
    simp only [RouterState.conceal,List.getElem?_map] at slot
    constructor
    · intro ended
      rw [ended] at slot
      obtain ⟨twin,found,matched⟩ := Option.map_eq_some_iff.mp slot.symm
      rw [found,returned_conceal.mp matched]
    · intro ended
      rw [ended] at slot
      obtain ⟨task,found,matched⟩ := Option.map_eq_some_iff.mp slot
      rw [found,returned_conceal.mp matched]
  · have frames : s.journal.map (Event.conceal station) = t.journal.map (Event.conceal station) :=
      congrArg RouterState.journal same
    rw [← List.forall₂_eq_eq_eq,List.forall₂_map_left_iff,List.forall₂_map_right_iff] at frames
    exact frames.imp fun _ _ => event_conceal

end views

-- Two runs that differ in a station's accepted stream URI return the same,
-- keep the same store and send the same but for the target's command.
theorem stream_kept_secret (env : RouterEnv) (station : String) (s : RouterState) {actions twins : List Action}
    (pair : Transition.Twins (execute env) (Action.Alike station) s actions twins) :
    Option.Rel (SecretKept station) (Transition.run (execute env) s actions) (Transition.run (execute env) s twins) := by
  have same := pair.unwind (RouterState.conceal station) (fun _ _ _ _ same alike => execute_same same alike) rfl
  cases left : Transition.run (execute env) s actions with
  | none =>
    rw [left] at same
    rw [Option.map_eq_none_iff.mp same.symm]
    exact .none
  | some final =>
    rw [left] at same
    obtain ⟨other,right,view⟩ := Option.map_eq_some_iff.mp same.symm
    rw [right]
    exact .some (secret_kept view.symm)

def radioAdmission : Admission where
  ownerId := 1
  controllerDeviceId := 10
  controllerConnectionId := 100
  requestId := "request"
  receivedAt := ⟨"1970-01-01T00:00:00Z",0⟩
  command := ⟨⟨7⟩,⟨⟨20⟩,none,none⟩,none,.playStation "radio"⟩
  targetConnectionId := 200
  fingerprint := Vector.replicate 32 0
  deadlineAt := ⟨"1970-01-01T00:00:10Z",seconds 10⟩

def tuning : RouterState := {idle with tasks := [.resolve radioAdmission "radio"]}

def tunedTo (streamUri : String) : List Action :=
  [.run 0 ⟨0,none,.found ⟨streamUri,⟨"Radio",none⟩⟩⟩,.run 0 calm]

theorem stream_kept_secret_radio : Option.Rel (SecretKept "radio")
    (Transition.run (execute {onEpochDay with hasCatalog := true}) tuning (tunedTo "http://one.example/live"))
    (Transition.run (execute {onEpochDay with hasCatalog := true}) tuning (tunedTo "http://other.example/live")) := by
  refine stream_kept_secret _ "radio" tuning (.cons (.lookup rfl ⟨_,_,_,rfl,rfl,?_,?_⟩) fun s _ => .cons .same fun s _ => .nil)
  · decide
  · decide

end DeviceControl
