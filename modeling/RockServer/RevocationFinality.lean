import RockServer.SessionCleanup

namespace DeviceControl

-- Revocations and account deletions beside the sessions: the handlers commit in
-- the store first, and a revocation then takes the device from the registry.
structure AccountPlane where
  plane : ControlPlane
  revoking : List (Uuid × Uuid)
  revoked : List Uuid
  deleted : List Uuid

-- What the sessions and the router do. Devices are taken from their owners by
-- the handlers alone.
def ControlPlane.Action.internal : ControlPlane.Action → Bool
  | .connect _ _ _ | .disown _ | .revoke _ _ => false
  | _ => true

-- `revokeOwned` is the transaction of `revoke_device` and `revoke_browser_device`
-- and `takeOff` the rest of them, behind which they answer; a deletion answers
-- behind its transaction. What is not granted changes nothing and is no step.
inductive AccountAction where
  | authenticate (id device : Uuid)
  | plane (action : ControlPlane.Action)
  | revokeOwned (user device : Uuid)
  | takeOff (handler : Nat)
  | deleteAccount (user : Uuid)

namespace AccountPlane

def owned (s : AccountPlane) (user device : Uuid) : Bool := s.plane.router.store.owned user ⟨device⟩

def disown (s : AccountPlane) (gone : DeviceId × Uuid → Bool) : ControlPlane :=
  s.plane.setStore {s.plane.router.store with devices := s.plane.router.store.devices.filter fun entry => !gone entry}

def execute (env : PlaneEnv) (s : AccountPlane) : AccountAction → Option AccountPlane
  | .authenticate id device =>
    if s.owned (env.owner device) device then
      (ControlPlane.execute env s.plane (.connect id (env.owner device) device)).map fun plane => {s with plane := plane}
    else none
  | .plane action =>
    if action.internal then (ControlPlane.execute env s.plane action).map fun plane => {s with plane := plane} else none
  | .revokeOwned user device =>
    if user = env.owner device ∧ s.owned user device = true then
      some {s with plane := s.disown fun entry => entry.1 = ⟨device⟩, revoking := s.revoking ++ [(user,device)]}
    else none
  | .takeOff handler => s.revoking[handler]?.map fun (user,device) =>
    {s with plane := s.plane.revoke user device, revoking := s.revoking.eraseIdx handler, revoked := device :: s.revoked}
  | .deleteAccount user =>
    if user ∈ s.deleted then none
    else some {s with plane := s.disown fun entry => entry.2 = user, deleted := user :: s.deleted}

structure Initial (s : AccountPlane) : Prop where
  plane : s.plane.Initial
  revoking : s.revoking = []
  revoked : s.revoked = []
  deleted : s.deleted = []

abbrev Step (env : PlaneEnv) := Transition.Executes (execute env)

-- A device that is revoked or whose account is deleted, as the answers said.
def Ended (env : PlaneEnv) (s : AccountPlane) (device : Uuid) : Prop := device ∈ s.revoked ∨ env.owner device ∈ s.deleted

def Final (env : PlaneEnv) (s : AccountPlane) : Prop := ∀ device, s.Ended env device → s.plane.registry[device]? = none

-- No session past its checks registers a device that has ended, and no device of
-- an account is connected when the account is deleted.
def Cleared (env : PlaneEnv) (s : AccountPlane) : AccountAction → Prop
  | .plane (.session id _ _) => ∀ session manifest, s.plane.sessions[id]? = some session → session.phase = .joining manifest →
      ¬ s.Ended env session.deviceId
  | .deleteAccount user => ∀ device, env.owner device = user → s.plane.registry[device]? = none
  | _ => True

end AccountPlane

namespace ControlPlane
variable {env : PlaneEnv} {s s' : ControlPlane} {id device : Uuid} {session : ControlSession} {manifest : DeviceManifest}
  {action : Action}

theorem live_none : s.live[device]? = none ↔ s.registry[device]? = none := by
  unfold live
  rw [ConnectionRegistry.live_get,Option.map_eq_none_iff]

theorem joining_step {now : Instant} {event : SessionEvent} (found : s.sessions[id]? = some session)
    (joins : session.phase = .joining manifest) (taken : Step env s (.session id now event) s') :
    s' = s.join env id session manifest := by
  change s.sessions[id]?.bind (fun session => s.session env id session now event) = some s' at taken
  rw [found,Option.bind_some] at taken
  unfold ControlPlane.session at taken
  rw [joins] at taken
  cases event <;> cases taken
  rfl

-- A revocation's way with the sessions and the entries.
theorem revoke_turn (user device : Uuid) : (∀ j, (s.revoke user device).standing j = s.standing j) ∧
    ((s.revoke user device).live = s.live ∧ (∀ g : LiveGeneration, s.live[device]? = some g → g.userId ≠ user) ∨
      (s.revoke user device).live = s.live.erase device) := by
  rcases @revoke_cases s user device with ⟨same,foreign⟩ | ⟨g,_,_,changed⟩
  · rw [same]
    exact ⟨fun _ => rfl,.inl ⟨rfl,foreign⟩⟩
  · rw [changed]
    refine ⟨fun j => notify_standing,.inr ?_⟩
    unfold live registry
    rw [notify_router]
    exact ConnectionRegistry.live_erase

theorem erased_vacant {live : Table Uuid LiveGeneration} {other : Uuid} (vacant : s.live[device]? = none)
    (gone : live = s.live.erase other) : live[device]? = none := by
  rw [gone,Table.get_erase]
  split
  · rfl
  · exact vacant

theorem revoke_kept (user other : Uuid) (vacant : s.live[device]? = none) : (s.revoke user other).live[device]? = none := by
  rcases (s.revoke_turn user other).2 with ⟨same,_⟩ | gone
  · rw [same]
    exact vacant
  · exact erased_vacant vacant gone

-- The owner's revocation leaves no entry of the device.
theorem revoke_vacant (wired : Wired env s) (device : Uuid) :
    (s.revoke (env.owner device) device).live[device]? = none := by
  rcases (s.revoke_turn (env.owner device) device).2 with ⟨same,foreign⟩ | gone
  · rw [same]
    cases held : s.live[device]? with
    | none => rfl
    | some g =>
      obtain ⟨st,found,holds⟩ := wired.entered device g held
      have owned := wired.owned g.connectionId st found
      rw [holds.user,holds.device] at owned
      exact absurd owned (foreign g held)
  · rw [gone]
    exact Table.get_erase_self

theorem revoke_wired (wired : Wired env s) (user device : Uuid) : Wired env (s.revoke user device) := by
  obtain ⟨standing,live⟩ := s.revoke_turn user device
  refine wired.same standing fun other g here => ?_
  rcases live with ⟨same,_⟩ | gone
  · exact same ▸ here
  · exact (Table.get_erase_some (gone ▸ here)).2

-- Where a device has no entry, only a session that joins makes one.
theorem vacant_step (taken : Step env s action s') (vacant : s.live[device]? = none) : s'.live[device]? = none ∨
    ∃ id now event session manifest, action = .session id now event ∧ s.sessions[id]? = some session ∧
      session.phase = .joining manifest ∧ session.deviceId = device := by
  have kept {live : Table Uuid LiveGeneration} (same : live = s.live) : live[device]? = none := same ▸ vacant
  cases step_course taken with
  | idle untouched _ => exact .inl (kept untouched.live)
  | routed _ ran =>
    have same := advance_live ran
    exact .inl (kept same)
  | connected => exact .inl vacant
  | moved _ _ _ untouched => exact .inl (kept untouched.live)
  | online => exact .inl vacant
  | abandoned => exact .inl (kept leave_live)
  | @joined id now event session manifest found joins =>
    by_cases same : session.deviceId = device
    · exact .inr ⟨id,now,event,session,manifest,rfl,found,joins,same⟩
    · rw [join_live,Table.get_insert_ne same]
      exact .inl vacant
  | @adopted id now event session manifest found _ =>
    rcases @ConnectionRegistry.updateManifest_live s.registry session.deviceId id manifest with ⟨same,_⟩ | ⟨g,held,_,live⟩
    · exact .inl (kept same)
    · refine .inl ((congrArg (fun live => live[device]?) live).trans ?_)
      by_cases same : session.deviceId = device
      · subst same
        cases vacant.symm.trans held
      · exact (Table.get_insert_ne same).trans vacant
  | @unconfirmed id now session found _ =>
    rcases s.disconnect_turn id session with ⟨same,_⟩ | ⟨gone,_⟩
    · exact .inl (kept (leave_live.trans same))
    · exact .inl (erased_vacant vacant (leave_live.trans gone))
  | unlisted => exact .inl (kept leave_live)
  | @closed id now event session reason registry found _ removed =>
    rcases s.disconnect_turn id session with ⟨_,refused,_⟩ | ⟨gone,_⟩
    · rw [removed] at refused
      cases refused
    · rw [removed] at gone
      exact .inl (erased_vacant vacant gone)
  | left | offline => exact .inl (kept leave_live)
  | @revoked user other => exact .inl (revoke_kept user other vacant)

end ControlPlane

namespace AccountPlane
variable {env : PlaneEnv} {s s' : AccountPlane} {action : AccountAction} {device : Uuid}

-- What one step does to the plane and to the records of what has ended.
inductive Course (env : PlaneEnv) (s : AccountPlane) : AccountAction → AccountPlane → Prop where
  | ran {action plane taken} : ControlPlane.Step env s.plane taken plane →
      (action = .plane taken ∨ ∃ id device, action = .authenticate id device ∧ taken = .connect id (env.owner device) device) →
      Course env s action {s with plane := plane}
  | revoking {user device} : user = env.owner device → Course env s (.revokeOwned user device)
      {s with plane := s.disown fun entry => entry.1 = ⟨device⟩, revoking := s.revoking ++ [(user,device)]}
  | took {handler user device} : s.revoking[handler]? = some (user,device) → Course env s (.takeOff handler)
      {s with plane := s.plane.revoke user device, revoking := s.revoking.eraseIdx handler, revoked := device :: s.revoked}
  | deleted {user} : Course env s (.deleteAccount user)
      {s with plane := s.disown fun entry => entry.2 = user, deleted := user :: s.deleted}

theorem step_course (taken : Step env s action s') : Course env s action s' := by
  unfold Step Transition.Executes execute at taken
  cases action with
  | authenticate id device =>
    dsimp only at taken
    split at taken
    · obtain ⟨plane,ran,rfl⟩ := Option.map_eq_some_iff.mp taken
      exact .ran ran (.inr ⟨id,device,rfl,rfl⟩)
    · cases taken
  | plane inner =>
    dsimp only at taken
    split at taken
    · obtain ⟨plane,ran,rfl⟩ := Option.map_eq_some_iff.mp taken
      exact .ran ran (.inl rfl)
    · cases taken
  | revokeOwned user device =>
    dsimp only at taken
    split at taken
    · rename_i owned
      cases taken
      exact .revoking owned.1
    · cases taken
  | takeOff handler =>
    obtain ⟨⟨user,device⟩,found,rfl⟩ := Option.map_eq_some_iff.mp taken
    exact .took found
  | deleteAccount user =>
    dsimp only at taken
    split at taken
    · cases taken
    · cases taken
      exact .deleted

-- What every run keeps, whatever the handlers leave standing: sessions and
-- entries agree, and a revocation is its owner's.
structure Orderly (env : PlaneEnv) (s : AccountPlane) : Prop where
  wired : ControlPlane.Wired env s.plane
  owners : ∀ entry ∈ s.revoking, entry.1 = env.owner entry.2

theorem initial_orderly (start : s.Initial) : s.Orderly env :=
  ⟨ControlPlane.initial_wired start.plane,by simp [start.revoking]⟩

theorem disown_wired (wired : ControlPlane.Wired env s.plane) (gone : DeviceId × Uuid → Bool) :
    ControlPlane.Wired env (s.disown gone) := wired.same (fun _ => rfl) fun _ _ here => here

theorem orderly_step (orderly : s.Orderly env) (taken : Step env s action s') : s'.Orderly env := by
  cases step_course taken with
  | @ran _ plane _ ran _ =>
    have wired : ControlPlane.Wired env plane := ControlPlane.wired_step orderly.wired ran
    exact ⟨wired,orderly.owners⟩
  | revoking mine =>
    refine ⟨disown_wired orderly.wired _,fun entry listed => ?_⟩
    rcases List.mem_append.mp listed with earlier | last
    · exact orderly.owners entry earlier
    · cases List.mem_singleton.mp last
      exact mine
  | took found =>
    exact ⟨ControlPlane.revoke_wired orderly.wired _ _,fun entry listed => orderly.owners entry (List.mem_of_mem_eraseIdx listed)⟩
  | deleted => exact ⟨disown_wired orderly.wired _,orderly.owners⟩

theorem initial_final (start : s.Initial) : s.Final env := by
  intro device ended
  rcases ended with revoked | deleted
  · simp [start.revoked] at revoked
  · simp [start.deleted] at deleted

theorem final_step (orderly : s.Orderly env) (final : s.Final env) (taken : Step env s action s') (cleared : s.Cleared env action) :
    s'.Final env := by
  intro device ended
  cases step_course taken with
  | @ran action plane inner ran whose =>
    have vacant := ControlPlane.live_none.mpr (final device ended)
    rcases ControlPlane.vacant_step ran vacant with kept | ⟨id,now,event,session,manifest,acts,found,joins,same⟩
    · exact ControlPlane.live_none.mp kept
    · rcases whose with rfl | ⟨_,_,_,other⟩
      · subst acts
        exact absurd (same ▸ ended) (cleared session manifest found joins)
      · cases acts.symm.trans other
  | revoking _ => exact final device ended
  | @took handler user other found =>
    have mine : user = env.owner other := orderly.owners _ (List.mem_of_getElem? found)
    refine ControlPlane.live_none.mp ?_
    by_cases same : device = other
    · subst same mine
      exact ControlPlane.revoke_vacant orderly.wired device
    · refine ControlPlane.revoke_kept user other (ControlPlane.live_none.mpr (final device ?_))
      rcases ended with revoked | deleted
      · rcases List.mem_cons.mp revoked with here | earlier
        · exact absurd here same
        · exact .inl earlier
      · exact .inr deleted
  | @deleted user =>
    rcases ended with revoked | deleted
    · exact final device (.inl revoked)
    · rcases List.mem_cons.mp deleted with here | earlier
      · exact cleared device here
      · exact final device (.inr earlier)

-- A step that leaves no entry behind met the condition.
theorem final_cleared (taken : Step env s action s') (final : s'.Final env) : s.Cleared env action := by
  cases action with
  | plane inner =>
    cases inner with
    | session id now event =>
      intro session manifest found joins ended
      cases step_course taken with
      | @ran _ plane _ ran whose =>
        rcases whose with same | ⟨_,_,other,_⟩
        · cases same
          have vacant : plane.live[session.deviceId]? = none := ControlPlane.live_none.mpr (final session.deviceId ended)
          rw [ControlPlane.joining_step found joins ran,ControlPlane.join_live,Table.get_insert,if_pos rfl] at vacant
          cases vacant
        · cases other
    | _ => trivial
  | deleteAccount user =>
    intro device mine
    cases step_course taken with
    | deleted => exact final device (.inr (mine ▸ List.mem_cons_self))
    | ran _ whose => rcases whose with same | ⟨_,_,other,_⟩ <;> contradiction
  | _ => trivial

-- What the router keeps from a device: no submit of its own passes and no frame
-- is sent to it.
def Barred (env : PlaneEnv) (s : AccountPlane) (device : Uuid) : Prop :=
  (∀ o call, call.controllerDeviceId = device →
    begin env.router o s.plane.router (.submit call) = (s.plane.router,.returned (.error .forbidden))) ∧
  ∀ receiver frame reservation, receiver.deviceId = device →
    s.plane.router.send receiver frame reservation = (s.plane.router,false)

theorem vacant_barred (vacant : s.plane.registry[device]? = none) : s.Barred env device := by
  have absent : s.plane.router.registry[device]? = none := vacant
  constructor
  · rintro o call rfl
    simp [begin,checkController,ConnectionRegistry.activeFor,absent]
  · rintro receiver frame reservation rfl
    simp [RouterState.send,ConnectionRegistry.sendTo,ConnectionRegistry.reachable,absent]

-- Along a run revocations and deletions are final exactly when no ended device
-- registers and no account is deleted under its connected devices; where they
-- are, the router neither hears an ended device nor sends to it.
theorem revocation_final {origin : AccountPlane} {actions : List AccountAction} (start : origin.Initial) :
    (Transition.Runs (Transition.Under (Cleared env) (Step env)) origin actions s →
      s.Final env ∧ ∀ device, s.Ended env device → s.Barred env device) ∧
    (Transition.Runs (fun s a s' => Step env s a s' ∧ s'.Final env) origin actions s →
      Transition.Runs (Transition.Under (Cleared env) (Step env)) origin actions s) := by
  have exact := @Transition.Runs.exactly AccountPlane AccountAction (Step env) origin s actions (Cleared env)
    (fun s => s.Orderly env ∧ s.Final env) (Final env) ⟨initial_orderly start,initial_final start⟩
    (fun _ _ _ both taken cleared => ⟨orderly_step both.1 taken,final_step both.1 both.2 taken cleared⟩)
    (fun _ _ _ _ taken final => final_cleared taken final)
  refine ⟨fun path => ?_,exact.2⟩
  have final := (exact.1 path).2
  exact ⟨final,fun device ended => vacant_barred (final device ended)⟩

-- A process with a store, whose one account owns the one device.
def stocked : PlaneEnv := {ControlPlane.volatile with hasStore := true}

def signedIn : AccountPlane :=
  ⟨ControlPlane.vacant.setStore {ControlPlane.vacant.router.store with devices := [(⟨10⟩,1)]},[],[],[]⟩

theorem signedIn_initial : signedIn.Initial :=
  ⟨⟨⟨rfl,rfl,rfl,⟨by simp [signedIn,ControlPlane.vacant,ControlPlane.setStore],
    by simp [signedIn,ControlPlane.vacant,ControlPlane.setStore]⟩⟩,rfl,rfl,rfl,rfl,rfl⟩,rfl,rfl,rfl⟩

-- A session up to the answer of its manifest's transaction.
def arriving : List AccountAction := [.authenticate 100 10,.plane (.session 100 0 (.hello [1] true)),
  .plane (.session 100 0 (.register ⟨"speaker","1",speaker⟩)),.plane (.session 100 0 (.stored ⟨⟨"1970-01-01T00:00:00Z",0⟩,false,false⟩))]

-- Before anything has ended, whatever is not a deletion is cleared.
def untouched (s : AccountPlane) (action : AccountAction) : Bool :=
  s.revoked = [] && s.deleted = [] && match action with
    | .deleteAccount _ => false
    | _ => true

theorem untouched_cleared (before : s.untouched action = true) : s.Cleared env action := by
  obtain ⟨none,kind⟩ := (Bool.and_eq_true _ _).mp before
  simp only [Bool.and_eq_true,decide_eq_true_eq] at none
  cases action with
  | plane inner =>
    cases inner with
    | session id now event =>
      intro session manifest found joins ended
      simp [Ended,none.1,none.2] at ended
    | _ => trivial
  | deleteAccount user => cases kind
  | _ => trivial

theorem revocation_final_once : ∃ s : AccountPlane, s.revoked = [10] ∧ s.Final stocked := by
  obtain ⟨s,path,seen⟩ := Transition.guarded_reaches untouched (execute stocked) signedIn
    (arriving ++ [.plane (.session 100 0 .done),.revokeOwned 1 10,.takeOff 0]) (fun s => s.revoked = [10]) (by decide)
  have path : Transition.Runs (Transition.Under (Cleared stocked) (Step stocked)) signedIn _ s :=
    path.mono fun _ _ _ taken => ⟨untouched_cleared taken.1,taken.2⟩
  exact ⟨s,of_decide_eq_true seen,((revocation_final signedIn_initial).1 path).1⟩

-- The device is revoked between its manifest's transaction and its registration.
theorem late_registration_stays : ¬ ∀ env origin actions s, Initial origin →
    Transition.Runs (Step env) origin actions s → s.Final env := by
  intro claimed
  obtain ⟨s,path,seen⟩ := Transition.run_reaches (execute stocked) signedIn
    (arriving ++ [.revokeOwned 1 10,.takeOff 0,.plane (.session 100 0 .done)])
    (fun s => (10 : Uuid) ∈ s.revoked && (s.plane.registry[(10 : Uuid)]?).isSome) (by decide)
  obtain ⟨revoked,held⟩ := (Bool.and_eq_true _ _).mp seen
  have final := claimed stocked signedIn _ s signedIn_initial path 10 (.inl (of_decide_eq_true revoked))
  rw [final] at held
  cases held

end AccountPlane
end DeviceControl
