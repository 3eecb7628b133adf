import RockServer.SessionTurns

namespace DeviceControl

-- The plane opens every submit with its own store.
def Call.stocked (hasStore : Bool) : Call → Prop
  | .submit call => call.hasStore = hasStore
  | _ => True

-- All that the plane does to its router without running a task: the registry is
-- its own, the devices and manifests lie in the store, and calls are begun.
inductive Around (hasStore : Bool) (s : RouterState) : RouterState → Prop where
  | intro (registry : ConnectionRegistry) (devices : List (DeviceId × Uuid)) (manifests : List (DeviceId × DeviceManifest))
      (calls : List Call) (stocked : ∀ call ∈ calls, call.stocked hasStore) : Around hasStore s
        {s with
          registry := registry
          store := {s.store with devices,manifests}
          tasks := s.tasks ++ calls.map .start}

variable {hasStore : Bool}

namespace Around
variable {s s' : RouterState}

theorem restored (devices : List (DeviceId × Uuid)) (manifests : List (DeviceId × DeviceManifest)) :
    Around hasStore s {s with store := {s.store with devices,manifests}} := by
  have around : Around hasStore s _ := .intro s.registry devices manifests [] (by simp)
  rw [List.map_nil,List.append_nil] at around
  exact around

theorem moved (registry : ConnectionRegistry) : Around hasStore s {s with registry := registry} := by
  have around : Around hasStore s _ := .intro registry s.store.devices s.store.manifests [] (by simp)
  rw [List.map_nil,List.append_nil] at around
  exact around

theorem refl : Around hasStore s s := moved s.registry

theorem called {registry : ConnectionRegistry} {call : Call} (stocked : call.stocked hasStore) :
    Around hasStore s {s with registry := registry, tasks := s.tasks ++ [.start call]} :=
  .intro registry s.store.devices s.store.manifests [call] (by simpa using stocked)

theorem inFlight (around : Around hasStore s s') : s'.inFlight = s.inFlight := by
  cases around
  rfl

theorem tasks (around : Around hasStore s s') :
    ∃ calls : List Call, (∀ call ∈ calls, call.stocked hasStore) ∧ s'.tasks = s.tasks ++ calls.map .start := by
  cases around with
  | intro _ _ _ calls stocked => exact ⟨calls,stocked,rfl⟩

end Around

-- The calls begin one after the other.
theorem calls_run (env : RouterEnv) (calls : List Call) (s : RouterState) :
    Runs env s (calls.map .call) {s with tasks := s.tasks ++ calls.map .start} := by
  induction calls generalizing s with
  | nil =>
    rw [List.map_nil,List.map_nil,List.append_nil]
    exact .nil
  | cons call rest ih =>
    have later := ih {s with tasks := s.tasks ++ [.start call]}
    rw [List.append_assoc] at later
    exact .cons rfl later

theorem Around.runs {s s' : RouterState} (env : RouterEnv) (around : Around hasStore s s') :
    ∃ actions, Runs env s actions s' := by
  cases around with
  | intro registry devices manifests calls _ =>
    have first : Runs env s [.registry registry] {s with registry := registry} := .single rfl
    have second : Runs env {s with registry := registry} [.devices devices manifests]
        {s with registry := registry, store := {s.store with devices,manifests}} := .single rfl
    exact ⟨_,(first.append second).append (calls_run env calls _)⟩

namespace ControlPlane

variable {env : PlaneEnv} {s s' : ControlPlane} {id : Uuid} {session : ControlSession} {now : Instant}
  {event : SessionEvent} {action : Action}

theorem applyManifest_manifests (store : StoreState) (t : Transaction) (user : Uuid) (device : DeviceId)
    (manifest : DeviceManifest) :
    ∃ manifests, (store.applyManifest t user device manifest).2 = {store with manifests := manifests} := by
  unfold StoreState.applyManifest
  split
  · exact ⟨_,rfl⟩
  · split
    · exact ⟨_,rfl⟩
    · split
      · exact ⟨_,rfl⟩
      · split
        · exact ⟨_,rfl⟩
        · split
          · exact ⟨_,rfl⟩
          · split <;> exact ⟨_,rfl⟩

theorem receive_around (frame : DeviceControl.Frame) :
    Around env.hasStore s.router (s.receive env id session now frame).router := by
  cases frame with
  | heartbeat acknowledged =>
    unfold receive
    dsimp only
    split
    · exact .refl
    · split <;> exact .refl
  | manifest manifest =>
    unfold receive
    dsimp only
    split <;> exact .refl
  | stateFull snapshot =>
    unfold receive
    dsimp only
    split <;> exact .refl
  | stateDelta delta =>
    unfold receive stateDelta
    dsimp only
    split
    · exact .refl
    · split
      · exact .refl
      · split <;> exact .refl
  | entityState report =>
    unfold receive entityState
    dsimp only
    split
    · exact .refl
    · split <;> exact .refl
  | command requestId command => exact .called rfl
  | accepted accepted => exact .called trivial
  | result result => exact .called trivial
  | ignored | malformed => exact .refl

theorem rejoined_router {manifest : DeviceManifest} {previous : ActiveConnection}
    (found : s.registry[session.deviceId]? = some previous) : (s.join env id session manifest).router =
      {(s.registered id session manifest).router with tasks :=
        s.router.tasks ++ [.start (disconnected env previous.userId session.deviceId previous.connectionId)]} := by
  have told := notify_router (s:=s.registered id session manifest) previous.connectionId .replaced
  rw [join_again found]
  exact congrArg (fun router : RouterState => {router with tasks := router.tasks ++
    [Task.start (disconnected env previous.userId session.deviceId previous.connectionId)]}) told

theorem join_around (manifest : DeviceManifest) :
    Around env.hasStore s.router (s.join env id session manifest).router := by
  cases found : s.registry[session.deviceId]? with
  | none =>
    rw [join_first found]
    exact .moved _
  | some previous =>
    rw [rejoined_router found]
    exact .called trivial

theorem session_around (taken : SessionStep env s id session now event s') :
    Around env.hasStore s.router s'.router := by
  cases taken with
  | received _ => exact receive_around _
  | applied _ _ _ =>
    obtain ⟨manifests,same⟩ := applyManifest_manifests _ _ _ _ _
    have around : Around env.hasStore s.router {s.router with store := {s.router.store with manifests := manifests}} :=
      .restored s.router.store.devices manifests
    rw [← same] at around
    exact around
  | joined _ => exact join_around _
  | closed _ _ => exact .called trivial
  | moved _ _ | online _ | announced _ _ | stored _ _ _ | measured _ _ _ | publishedState _ | publishedEntity _ =>
    exact .refl
  | drained _ _ _ | adopted _ => exact .moved _
  | abandoned _ | unconfirmed _ | unlisted _ | left _ _ | offline _ =>
    exact .moved _

-- Every step of the plane is the router's own, or goes around it.
theorem step_router (taken : Step env s action s') :
    (∃ i o, action = .route i o ∧ DeviceControl.Step env.router s.router (.run i o) s'.router) ∨
    (∃ now limit, action = .prune now limit ∧ DeviceControl.Step env.router s.router (.prune now limit) s'.router) ∨
    Around env.hasStore s.router s'.router := by
  cases plane_step taken with
  | connect _ _ => exact .inr (.inr .refl)
  | session _ ran => exact .inr (.inr (session_around ran))
  | @route i o task after next spawned found ran =>
    refine .inl ⟨i,o,rfl,?_⟩
    unfold DeviceControl.Step Transition.Executes
    simp only [DeviceControl.execute,found,ran]
  | submit => exact .inr (.inr (.called rfl))
  | disown => exact .inr (.inr (.restored _ s.router.store.manifests))
  | @revoke user device =>
    rcases revoke_cases (s:=s) user device with ⟨same,_⟩ | ⟨g,_,_,changed⟩
    · rw [same]
      exact .inr (.inr .refl)
    · rw [changed,notify_router]
      exact .inr (.inr (.moved _))
  | @prune now limit => exact .inr (.inl ⟨now,limit,rfl,rfl⟩)

theorem step_runs (taken : Step env s action s') : ∃ actions, DeviceControl.Runs env.router s.router actions s'.router := by
  rcases step_router taken with ⟨i,o,_,ran⟩ | ⟨now,limit,_,ran⟩ | around
  · exact ⟨_,.single ran⟩
  · exact ⟨_,.single ran⟩
  · exact around.runs env.router

-- What is none of the router's own steps only begins calls.
theorem step_begins (taken : Step env s action s') (notRoute : ∀ i o, action ≠ .route i o) :
    s'.router.inFlight = s.router.inFlight ∧ ∃ calls : List Call, (∀ call ∈ calls, call.stocked env.hasStore) ∧
      s'.router.tasks = s.router.tasks ++ calls.map .start := by
  rcases step_router taken with ⟨i,o,same,_⟩ | ⟨now,limit,_,pruned⟩ | around
  · exact absurd same (notRoute i o)
  · have same : s'.router = {s.router with store := s.router.store.pruneCommands now limit} := (Option.some.inj pruned).symm
    rw [same]
    exact ⟨rfl,[],by simp,by simp⟩
  · exact ⟨around.inFlight,around.tasks⟩

theorem ledger_step (ledger : Ledger s.router) (taken : Step env s action s') : Ledger s'.router := by
  obtain ⟨actions,path⟩ := step_runs taken
  exact path.invariant Ledger ledger fun _ _ _ ledger taken => DeviceControl.ledger_step ledger taken

-- The plane simulates the router: what holds of every run of the router holds
-- of the router in every run of the plane.
theorem reached_router (reached : Reached env s) : DeviceControl.Reached env.router s.router := by
  obtain ⟨origin,actions,start,path⟩ := reached
  have simulated := path.invariant (fun s => ∃ actions, DeviceControl.Runs env.router origin.router actions s.router)
    ⟨[],.nil⟩ fun _ _ _ earlier taken => ?_
  · obtain ⟨actions,path⟩ := simulated
    exact ⟨origin.router,actions,start.router,path⟩
  · obtain ⟨before,path⟩ := earlier
    obtain ⟨later,rest⟩ := step_runs taken
    exact ⟨before ++ later,path.append rest⟩

end ControlPlane
end DeviceControl
