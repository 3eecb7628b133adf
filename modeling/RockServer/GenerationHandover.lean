import RockServer.HandoverCover

namespace DeviceControl
namespace ControlPlane

variable {env : PlaneEnv} {s s' : ControlPlane} {id : CommandId} {item : InFlight} {action : Action}
  {session : ControlSession}

section ending
variable {now : Instant} {event : SessionEvent} {j : Uuid} (inv : Handing env s)
  (present : s.router.inFlight[id]? = some item)
include inv present

-- A registration takes over the commands of the generation it replaces.
theorem attended_join {manifest : DeviceManifest} (found : s.sessions[j]? = some session)
    (here : session.phase = .joining manifest) (met : s.handsOver (.session j now event) = true)
    (kept : ∀ (i : Nat) (task : Task), s.router.tasks[i]? = some task →
      (s.join env j session manifest).router.tasks[i]? = some task) :
    (s.join env j session manifest).Attended id item := by
  have attended := inv.attended id item present
  obtain ⟨pass,places⟩ := join_standing env s j session manifest
  have waits : ∀ (st : Standing) (i : Nat) (c : Uuid), s.standing j = some st → st.pass ≠ some (i,c) := by
    intro st i c standing waits
    cases standing_only found standing
    simp [ControlSession.standing,here,Phase.pass] at waits
  refine attended.update kept places (fun still => ?_) (fun st i c standing pass => absurd pass (waits st i c standing))
    fun stage => by cases stage
  rcases active_elsewhere (inserted_elsewhere (join_live manifest)) still with elsewhere | ⟨there,owned⟩
  · exact .inl elsewhere
  · obtain ⟨g,held,name⟩ := owned
    obtain ⟨previous,replaced,rfl⟩ := live_some.mp held
    have name : previous.connectionId = item.targetConnectionId := name
    by_cases carries : s.carried id item = true
    · exact .inr (.inl (carried_kept kept carries))
    · have alone := Bool.eq_false_iff.mpr carries
      simp only [handsOver,found,here,replaced,name,exposed_of present alone,Bool.and_true,Bool.not_eq_true'] at met
      obtain ⟨st,standing,holds⟩ := inv.wired.entered session.deviceId previous.live held
      have standing : s.standing item.targetConnectionId = some st := name ▸ standing
      have delivered := (inv.entries id item present).2.delivered standing
      have replacedUser : st.user = previous.userId := holds.user
      rw [replacedUser,holds.device] at delivered
      refine .inr (.inr ⟨handed_iff.mpr ⟨j,_,s.router.tasks.length,.start (disconnected env previous.userId
        session.deviceId previous.connectionId),(rejoined_standing replaced).trans (if_pos rfl),by rw [name],?_,?_⟩,?_⟩)
      · rw [rejoined_router replaced]
        exact List.getElem?_concat_length
      · rw [name]
        exact (Bool.and_eq_true _ _).mpr ⟨(inv.entries id item present).1,delivered⟩
      · refine gone_kept (fun st' standing' stage => ?_) met
        rw [places] at standing'
        split at standing'
        · cases standing'
          cases stage
        · exact gone_iff.mpr ⟨st',standing',stage⟩

-- A session that gives up its device hands over its own commands.
theorem attended_close {reason : DisconnectReason} {registry : ConnectionRegistry} (found : s.sessions[j]? = some session)
    (here : session.phase = .closing reason) (removed : s.registry.disconnect session.deviceId j = (registry,true))
    {s' : ControlPlane} (same : s' = ((s.setRegistry registry).call (disconnected env session.userId session.deviceId j)).enter
      j session (.retiring s.router.tasks.length))
    (kept : ∀ (i : Nat) (task : Task), s.router.tasks[i]? = some task → s'.router.tasks[i]? = some task) :
    s'.Attended id item := by
  have attended := inv.attended id item present
  let st' : Standing := {session.standing j with stage := .departing, pass := some (s.router.tasks.length,j)}
  have places : Places s s' j st' := by
    subst same
    exact fun k => (standing_insert (s:=s) rfl).trans rfl
  have erased : s'.live = s.live.erase session.deviceId ∧ s.owns session.deviceId j := by
    subst same
    rcases disconnect_turn s j session with ⟨_,refused,_⟩ | ⟨gone,_,owned⟩
    · rw [removed] at refused
      cases refused
    · rw [removed] at gone
      exact ⟨gone,owned⟩
  refine attended.update kept places (fun still => ?_) (fun st i c standing waits => ?_) fun stage => by cases stage
  · rcases active_elsewhere (erased_elsewhere erased.1) still with elsewhere | ⟨_,owned⟩
    · exact .inl elsewhere
    · have mine := owns_unique owned erased.2
      have standing : s.standing item.targetConnectionId = some (session.standing j) := by rw [mine,standing_of found]
      have delivered := (inv.entries id item present).2.delivered standing
      refine .inr (.inr ⟨handed_iff.mpr ⟨j,st',s.router.tasks.length,.start (disconnected env session.userId session.deviceId j),
        by rw [places,if_pos rfl],by rw [mine],?_,?_⟩,?_⟩)
      · subst same
        exact List.getElem?_concat_length
      · rw [mine] at delivered
        exact (Bool.and_eq_true _ _).mpr ⟨(inv.entries id item present).1,delivered⟩
      · refine Bool.eq_false_iff.mpr fun gone => ?_
        obtain ⟨st,standing',stage⟩ := gone_iff.mp gone
        rw [places,mine,if_pos rfl] at standing'
        cases standing'
        cases stage
  · cases standing_only found standing
    simp [ControlSession.standing,here,Phase.pass] at waits

-- A session that returns leaves no command that a handover is still to come to.
theorem attended_leave {s' : ControlPlane} (found : s.sessions[j]? = some session) (waits : session.phase.pass j = none)
    (kept : ∀ (i : Nat) (task : Task), s.router.tasks[i]? = some task → s'.router.tasks[i]? = some task)
    (places : Places s s' j {session.standing j with stage := .returned, pass := none})
    (active : s.active item = true → s'.Attended id item)
    (none : item.targetConnectionId = j → s.carried id item = false → s.handed id item = true → False) :
    s'.Attended id item := by
  refine (inv.attended id item present).update kept places active (fun st i c standing pass => ?_)
    fun _ mine alone handed => (none mine alone handed).elim
  cases standing_only found standing
  cases waits.symm.trans pass

end ending

theorem early_waits {phase : Phase} (early : phase.stage = .waiting ∨ phase.stage = .arriving) (j : Uuid) :
    phase.pass j = none := by
  cases phase with
  | replacing task previous | retiring task => simp [Phase.stage] at early
  | _ => rfl

-- The steps of the plane that are none of the router's.
theorem attended_begin (inv : Handing env s) (taken : Step env s action s') (notRoute : ∀ i o, action ≠ .route i o)
    (met : s.handsOver action = true) (present : s.router.inFlight[id]? = some item) : s'.Attended id item := by
  have attended := inv.attended id item present
  have kept : ∀ (i : Nat) (task : Task), s.router.tasks[i]? = some task → s'.router.tasks[i]? = some task := by
    intro i task found
    obtain ⟨_,calls,_,tasks⟩ := step_begins taken notRoute
    rw [tasks,List.getElem?_append_left (List.getElem?_eq_some_iff.mp found).choose]
    exact found
  have awaited {j : Uuid} (clear : (!s.awaited j) = true) (mine : item.targetConnectionId = j)
      (alone : s.carried id item = false) (handed : s.handed id item = true) : False := by
    rw [← mine,awaited_of present alone handed] at clear
    cases clear
  have course := step_course taken
  clear taken
  cases course with
  | routed _ _ => exact absurd rfl (notRoute _ _)
  | idle untouched sessions =>
    exact attended.same kept (fun j => by unfold standing; rw [sessions]) fun still => .inl (active_same untouched.live still)
  | @connected j user device absent _ =>
    have places : Places s (s.setSession j (.fresh user device)) j ⟨user,device,[],.waiting,none,none⟩ :=
      fun k => (standing_insert (s:=s) rfl).trans rfl
    refine attended.update kept places (fun still => .inl (active_same rfl still)) (fun st i c standing _ => ?_)
      fun stage => by cases stage
    unfold ControlPlane.standing at standing
    rw [absent] at standing
    cases standing
  | @moved j now event session session' s' found next sessions untouched =>
    refine attended.update kept (fun k => standing_insert sessions) (fun still => .inl (active_same untouched.live still))
      (fun st i c standing waits => ?_) fun stage mine _ _ => ?_
    · cases standing_only found standing
      rcases next.pass with same | ⟨_,through⟩
      · exact .inl (same.trans waits)
      · exact .inr (through i c waits)
    · exact gone_iff.mpr ⟨_,standing_of found,next.stage.symm.trans stage⟩
  | @online j now event session found here =>
    refine attended.update kept (fun k => standing_insert (s:=s) rfl) (fun still => .inl (active_same rfl still))
      (fun st i c standing waits => ?_) fun stage => by cases stage
    cases standing_only found standing
    simp [ControlSession.standing,here,Phase.pass] at waits
  | @abandoned j now event session found early =>
    refine attended_leave inv present found (early_waits early j) kept left_places
      (fun still => .inl (active_same leave_live still)) fun mine _ _ => ?_
    obtain ⟨waiting,arriving⟩ := (inv.entries id item present).2.settled (mine ▸ standing_of found)
    exact early.elim waiting arriving
  | joined found here => exact attended_join inv present found here met kept
  | @adopted j now event session manifest found here =>
    refine attended.update kept (fun k => standing_insert (s:=s) rfl) (fun still => .inl (active_adopted still))
      (fun st i c standing waits => ?_) fun stage => by cases stage
    cases standing_only found standing
    simp [ControlSession.standing,here,Phase.pass] at waits
  | @unconfirmed j now session found here =>
    simp only [handsOver,found,here] at met
    have clear (mine : item.targetConnectionId = j) : s.carried id item = true := by
      cases carries : s.carried id item with
      | true => rfl
      | false =>
        rw [← mine,exposed_of present carries] at met
        cases met
    refine attended_leave inv present found (by rw [here]; rfl) kept left_places (fun still => ?_) fun mine alone _ => ?_
    · rcases disconnect_turn s j session with ⟨same,_,_⟩ | ⟨gone,_,owned⟩
      · exact .inl (active_same (leave_live.trans same) still)
      · have erased : ((s.setRegistry (s.registry.disconnect session.deviceId j).1).leave j session).live =
            s.live.erase session.deviceId := leave_live.trans gone
        rcases active_elsewhere (erased_elsewhere erased) still with elsewhere | ⟨_,owned'⟩
        · exact .inl elsewhere
        · exact .inr (.inl (carried_kept kept (clear (owns_unique owned' owned))))
    · rw [clear mine] at alone
      cases alone
  | @unlisted j now session found here =>
    simp only [handsOver,found,here] at met
    exact attended_leave inv present found (by rw [here]; rfl) kept left_places
      (fun still => .inl (active_same leave_live still)) (awaited met)
  | closed found here removed => exact attended_close inv present found here removed rfl kept
  | @left j now event session reason found here _ =>
    simp only [handsOver,found,here] at met
    exact attended_leave inv present found (by rw [here]; rfl) kept left_places
      (fun still => .inl (active_same leave_live still)) (awaited met)
  | @offline j now event session found here =>
    simp only [handsOver,found,here] at met
    exact attended_leave inv present found (by rw [here]; rfl) kept left_places
      (fun still => .inl (active_same leave_live still)) (awaited met)
  | @revoked user device =>
    rcases revoke_cases (s:=s) user device with ⟨same,_⟩ | ⟨g,held,mine,changed⟩
    · rw [same]
      exact attended
    · refine attended.same kept (fun j => by rw [changed]; exact notify_standing) fun still => ?_
      have erased : (s.revoke user device).live = s.live.erase device := by
        rw [changed]
        unfold live registry
        rw [notify_router]
        exact ConnectionRegistry.live_erase
      rcases active_elsewhere (erased_elsewhere erased) still with elsewhere | ⟨_,owned⟩
      · exact .inl elsewhere
      · refine .inr (.inl (carried_kept kept ?_))
        have name : g.connectionId = item.targetConnectionId := owns_unique ⟨g,held,rfl⟩ owned
        obtain ⟨previous,there,rfl⟩ := live_some.mp held
        have name : previous.connectionId = item.targetConnectionId := name
        have chosen : (s.registry[device]?).filter (fun active => active.userId = user) = some previous :=
          Option.filter_eq_some_iff.mpr ⟨there,decide_eq_true mine⟩
        simp only [handsOver,chosen,name] at met
        cases carries : s.carried id item with
        | true => rfl
        | false =>
          rw [exposed_of present carries] at met
          cases met

theorem reachable_active (reached : (ConnectionRegistry.reachable s.registry item.target).isSome = true) :
    s.active item = true := by
  obtain ⟨connection,found⟩ := Option.isSome_iff_exists.mp reached
  obtain ⟨here,open_⟩ := Option.filter_eq_some_iff.mp found
  simp only [Bool.and_eq_true,decide_eq_true_iff] at open_
  have owned : s.registry.generation item.targetDeviceId.uuid item.targetConnectionId = some connection :=
    ConnectionRegistry.generation_some.mpr ⟨here,open_.1.2⟩
  unfold active
  rw [owned]
  rfl

-- One step of the router: a handover goes on to the entries it listed, and a
-- submit leaves its entry to a generation that can be reached.
theorem attended_route {o : Oracle} {i : Nat} {task next : Task} {spawned : List Task} {after : RouterState}
    (inv : Handing env s) (found : s.router.tasks[i]? = some task)
    (ran : advance env.router o s.router task = (after,next,spawned)) (met : s.handsOver (.route i o) = true)
    (same : s' = {s with
      router := {after with tasks := s.router.tasks.set i next ++ spawned}, orphans := s.orphans ++ s.orphaned task})
    (present : s'.router.inFlight[id]? = some item) : s'.Attended id item := by
  have self : s'.router.tasks[i]? = some next := by
    rw [same]
    exact moved_self found
  have other : ∀ (j : Nat) (t : Task), j ≠ i → s.router.tasks[j]? = some t → s'.router.tasks[j]? = some t := by
    intro j t apart there
    rw [same]
    exact moved_other apart there
  have standing : ∀ j, s'.standing j = s.standing j := fun j => by rw [same]; rfl
  have live : s'.live = s.live := by
    have kept := advance_live ran
    rw [same]
    exact kept
  have inFlight : s'.router.inFlight = after.inFlight := by rw [same]
  rw [inFlight] at present
  have stays (here : s.gone item.targetConnectionId = false) : s'.gone item.targetConnectionId = false := by
    refine gone_kept (fun st held stage => ?_) here
    rw [standing] at held
    exact gone_iff.mpr ⟨st,held,stage⟩
  rcases advance_entered ran present with old | ⟨admission,rfl,rfl,carries⟩
  · -- A handover of the entry goes on.
    have passes (handed : s.handed id item = true) : s'.handed id item = true := by
      obtain ⟨k,st,j,t,held,waits,there,hands⟩ := handed_iff.mp handed
      by_cases mine : j = i
      · subst mine
        rw [found] at there
        cases there
        rcases advance_hands ran old hands with goes | removed
        · exact handed_iff.mpr ⟨k,st,j,next,by rw [standing,held],waits,self,goes⟩
        · rw [removed] at present
          cases present
      · exact handed_iff.mpr ⟨k,st,j,t,by rw [standing,held],waits,other j t mine there,hands⟩
    rcases inv.attended id item old with still | carried | ⟨handed,here⟩
    · exact .inl (active_same live still)
    · obtain ⟨j,t,there,carries⟩ := carried_iff.mp carried
      by_cases mine : j = i
      · subst mine
        rw [found] at there
        cases there
        rcases advance_carries ran (inv.ledger.matched j task found) carries with
          goes | removed | reached | ⟨admission,rfl,rfl,rfl,unreached⟩
        · exact .inr (.inl (carried_iff.mpr ⟨j,next,self,goes⟩))
        · rw [removed] at present
          cases present
        · exact .inl (active_same live (reachable_active reached))
        · simp only [handsOver,heard,found,old,Option.isNone_some,Bool.false_or,Bool.or_eq_true,Bool.and_eq_true] at met
          rcases met with (heard | still) | ⟨handed,here⟩
          · rw [unreached] at heard
            cases heard
          · exact .inl (active_same live still)
          · exact .inr (.inr ⟨passes handed,stays ((Bool.not_eq_true' _).mp here)⟩)
      · exact .inr (.inl (carried_iff.mpr ⟨j,t,other j t mine there,carries⟩))
    · exact .inr (.inr ⟨passes handed,stays here⟩)
  · exact .inr (.inl (carried_iff.mpr ⟨i,next,self,carries⟩))

-- What a timer or a device's own report ends is still active, and a handover
-- reports its commands as offline.
theorem orphaned_offline {o : Oracle} {i : Nat} {task : Task} (sourced : task.Sourced s.Enrolled env.hasStore)
    (found : s.router.tasks[i]? = some task) (met : s.handsOver (.route i o) = true) (orphan : Orphan)
    (member : orphan ∈ s.orphaned task) : orphan.result.offline := by
  unfold orphaned at member
  cases task with
  | finish commandId result caller =>
    cases present : s.router.inFlight[commandId]? with
    | none => cases caller <;> simp [present] at member
    | some item =>
      have ended (still : s.active item = true) (caller : Caller) : orphan ∉ s.orphaned (.finish commandId result caller) := by
        unfold active at still
        cases caller <;> simp [orphaned,present,still]
      cases caller with
      | submit => cases member
      | timer =>
        simp only [handsOver,found,present,Option.all_some] at met
        exact absurd member (ended met .timer)
      | result =>
        simp only [handsOver,found,present,Option.all_some] at met
        exact absurd member (ended met .result)
      | disconnected rest =>
        simp only [present] at member
        split at member
        · cases member
        · cases List.mem_singleton.mp member
          exact sourced
  | _ => cases member

theorem met_enrolled (wired : Wired env s) (owner device : Uuid) (target : ActiveDevice)
    (met : s.router.registry.activeFor owner device = some target) : s.Enrolled ⟨owner,device,target.connectionId⟩ := by
  obtain ⟨connection,held,rfl⟩ := Option.map_eq_some_iff.mp met
  obtain ⟨here,mine⟩ := ConnectionRegistry.held_live held
  obtain ⟨st,standing,holds⟩ := wired.entered device connection.live here
  refine ⟨st,standing,holds.user.trans mine,holds.device,?_,?_⟩
  · rcases holds.stage with stage | stage <;> simp [stage]
  · rcases holds.stage with stage | stage <;> simp [stage]

theorem handing_route {o : Oracle} {i : Nat} {task next : Task} {spawned : List Task} {after : RouterState}
    (inv : Handing env s) (taken : Step env s (.route i o) s') (found : s.router.tasks[i]? = some task)
    (ran : advance env.router o s.router task = (after,next,spawned)) (met : s.handsOver (.route i o) = true)
    (same : s' = {s with
      router := {after with tasks := s.router.tasks.set i next ++ spawned}, orphans := s.orphans ++ s.orphaned task}) :
    Handing env s' := by
  have timers := (advance_effect ran).2.2
  have sourced := inv.tasks i task found
  have inFlight : s'.router.inFlight = after.inFlight := by rw [same]
  refine ⟨wired_step inv.wired taken,ledger_step inv.ledger taken,fun j t there => ?_,fun id item present => ?_,
    fun id item present => attended_route inv found ran met same present,fun orphan member => ?_⟩
  · have tasks : s'.router.tasks = s.router.tasks.set i next ++ spawned := by rw [same]
    rw [tasks] at there
    refine Task.Sourced.mono ?_ fun a (enrolled : s.Enrolled a) => enrolled.step taken
    rcases slot_cases timers there with ⟨_,rfl⟩ | ⟨_,old⟩ | ⟨_,_,rfl⟩
    · exact advance_sourced (met_enrolled inv.wired) sourced ran
    · exact inv.tasks j t old
    · trivial
  · rw [inFlight] at present
    rcases advance_entered ran present with old | ⟨admission,rfl,rfl,_⟩
    · exact ⟨(inv.entries id item old).1,(inv.entries id item old).2.step taken⟩
    · exact ⟨sourced.1,Enrolled.step sourced.2 taken⟩
  · have orphans : s'.orphans = s.orphans ++ s.orphaned task := by rw [same]
    rw [orphans] at member
    rcases List.mem_append.mp member with old | new
    · exact inv.offline orphan old
    · exact orphaned_offline sourced found met orphan new

-- Only the router ends commands.
theorem step_orphans (taken : Step env s action s') (notRoute : ∀ i o, action ≠ .route i o) : s'.orphans = s.orphans := by
  cases step_course taken with
  | routed _ _ => exact absurd rfl (notRoute _ _)
  | idle untouched _ => exact untouched.orphans
  | moved _ _ _ untouched => exact untouched.orphans
  | @joined id now event session manifest found here =>
    cases replaced : s.registry[session.deviceId]? with
    | none =>
      rw [join_first replaced]
      rfl
    | some previous =>
      rw [join_again replaced]
      exact notify_orphans (s:=s.registered id session manifest) previous.connectionId .replaced
  | @revoked user device =>
    rcases revoke_cases (s:=s) user device with ⟨same,_⟩ | ⟨g,_,_,changed⟩
    · rw [same]
    · rw [changed]
      exact notify_orphans (s:=s.setRegistry (s.registry.erase device)) g.connectionId .revoked
  | _ => rfl

theorem handing_begin (inv : Handing env s) (taken : Step env s action s') (notRoute : ∀ i o, action ≠ .route i o)
    (met : s.handsOver action = true) : Handing env s' := by
  obtain ⟨inFlight,calls,stocked,tasks⟩ := step_begins taken notRoute
  have orphans := step_orphans taken notRoute
  refine ⟨wired_step inv.wired taken,ledger_step inv.ledger taken,fun j t there => ?_,fun id item present => ?_,
    fun id item present => ?_,by rw [orphans]; exact inv.offline⟩
  · refine Task.Sourced.mono ?_ fun a (enrolled : s.Enrolled a) => enrolled.step taken
    rw [tasks] at there
    rcases List.mem_append.mp (List.mem_of_getElem? there) with old | new
    · obtain ⟨k,found⟩ := List.getElem?_of_mem old
      exact inv.tasks k t found
    · obtain ⟨call,member,rfl⟩ := List.mem_map.mp new
      exact stocked call member
  · rw [inFlight] at present
    exact ⟨(inv.entries id item present).1,(inv.entries id item present).2.step taken⟩
  · rw [inFlight] at present
    exact attended_begin inv taken notRoute met present

theorem handing_step (inv : Handing env s) (taken : Step env s action s') (met : s.handsOver action = true) :
    Handing env s' := by
  by_cases route : ∃ i o, action = .route i o
  · obtain ⟨i,o,rfl⟩ := route
    obtain ⟨task,after,next,spawned,found,ran,same⟩ := route_cases taken
    exact handing_route inv taken found ran met same
  · exact handing_begin inv taken (fun i o same => route ⟨i,o,same⟩) met

theorem initial_handing (start : Initial s) : Handing env s := by
  refine ⟨initial_wired start,start.router.ledger,fun i task found => ?_,fun id item present => ?_,fun id item present => ?_,
    fun orphan member => ?_⟩
  · simp [start.router.tasks] at found
  · simp [start.router.inFlight] at present
  · simp [start.router.inFlight] at present
  · simp [start.orphans] at member

theorem Handing.handedOver (inv : Handing env s) : s.HandedOver := by
  refine ⟨fun connection session id item found returned ended present target => ?_,inv.offline⟩
  subst target
  have standing := standing_of found
  obtain ⟨st,standing',_,device,_⟩ := (inv.entries id item present).2
  have standing' : s.standing item.targetConnectionId = some st := standing'
  rw [standing] at standing'
  cases standing'
  have device : session.deviceId = item.targetDeviceId.uuid := device
  rcases inv.attended id item present with still | carried | ⟨_,here⟩
  · unfold active at still
    rw [← device,ended] at still
    cases still
  · obtain ⟨i,task,there,carries⟩ := carried_iff.mp carried
    exact ⟨task,List.mem_of_getElem? there,Task.carries_submits carries⟩
  · rw [gone_iff.mpr ⟨_,standing,stage_returned.mpr returned⟩] at here
    cases here

-- Along a run of such steps the commands of a generation die with it.
theorem commands_handed_over {origin : ControlPlane} {actions : List Action} (start : Initial origin)
    (path : Transition.Runs (Transition.Under (fun s a => s.handsOver a = true) (Step env)) origin actions s) :
    s.HandedOver := by
  have inv := path.invariant (Handing env) (initial_handing start) fun _ _ _ inv taken => handing_step inv taken.2 taken.1
  exact inv.handedOver

-- A process with a store, in which one account owns the devices 10 and 20.
def persistent : PlaneEnv := {volatile with hasStore := true}

def household : ControlPlane := ⟨⟨∅,∅,⟨[(⟨10⟩,1),(⟨20⟩,1)],[],∅,0⟩,[],[]⟩,.empty,⟨∅,∅⟩,∅,0,[],[]⟩

theorem household_initial : Initial household :=
  ⟨⟨rfl,rfl,rfl,⟨by simp [household],by simp [household]⟩⟩,rfl,rfl,rfl,rfl,rfl⟩

-- Both devices connect, and the first sends the second a command that is
-- delivered; its timer is armed.
def commanding : List Action :=
  [(100,10),(200,20)].flatMap (fun entry : Uuid × Uuid =>
    [.connect entry.1 1 entry.2,.session entry.1 0 (.hello [1] true),.session entry.1 0 (.register ⟨"speaker","1",speaker⟩),
      .session entry.1 0 (.stored ⟨timestamp onEpochDay 0,false,false⟩)] ++ List.replicate 4 (.session entry.1 0 .done)) ++
  [.session 100 0 (.frame (.command "request" (mute 7).command))] ++ List.replicate 9 (.route 0 calm)

theorem commands_handed_over_closed : ∃ s : ControlPlane, s.orphans.length = 1 ∧ s.HandedOver := by
  obtain ⟨s,path,seen⟩ := Transition.guarded_reaches handsOver (execute persistent) household
    (commanding ++ [.session 200 0 (.closed true),.session 200 0 .done] ++ List.replicate 4 (.route 2 calm) ++
      [.session 200 0 .done,.session 200 0 .done])
    (fun s => s.orphans.length = 1) (by decide)
  exact ⟨s,of_decide_eq_true seen,commands_handed_over household_initial path⟩

-- The second device is revoked with the command still in flight: its session
-- finds the generation gone and returns, and nobody finishes the command.
theorem revoked_command_remains : ¬ ∀ env origin actions s, Initial origin → Runs env origin actions s → s.HandedOver := by
  intro claimed
  obtain ⟨s,path,seen⟩ := Transition.run_reaches (execute persistent) household
    (commanding ++ [.disown ⟨20⟩,.revoke 1 20,.session 200 0 .replacement,.session 200 0 .done])
    (fun s => (s.sessions[(200 : Uuid)]?).any fun session => session.phase.stage = .returned &&
      (s.registry.generation session.deviceId 200).isNone && (s.router.inFlight[(⟨7⟩ : CommandId)]?).any fun item =>
        item.targetConnectionId = 200 && s.router.tasks.all fun task => task.submits ≠ some ⟨7⟩) (by decide)
  obtain ⟨session,found,seen⟩ := (Option.any_eq_true _ _).mp seen
  obtain ⟨seen,left⟩ := (Bool.and_eq_true _ _).mp seen
  obtain ⟨returned,ended⟩ := (Bool.and_eq_true _ _).mp seen
  obtain ⟨item,present,left⟩ := (Option.any_eq_true _ _).mp left
  obtain ⟨target,unsubmitted⟩ := (Bool.and_eq_true _ _).mp left
  obtain ⟨task,member,submits⟩ := (claimed _ _ _ s household_initial path).cleared 200 session ⟨7⟩ item found
    (stage_returned.mp (of_decide_eq_true returned)) (Option.isNone_iff_eq_none.mp ended) present (of_decide_eq_true target)
  exact of_decide_eq_true (List.all_eq_true.mp unsubmitted task member) submits

end ControlPlane
end DeviceControl
