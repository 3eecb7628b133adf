import RockServer.PlaneEffects

namespace DeviceControl

-- The registry without its queues: which generation of each device is active,
-- for whom, under which manifest and with which rights.
structure LiveGeneration where
  userId : Uuid
  connectionId : Uuid
  manifest : DeviceManifest
  scopes : List DeviceControlScope

def ActiveConnection.live (active : ActiveConnection) : LiveGeneration :=
  ⟨active.userId,active.connectionId,active.manifest,active.scopes⟩

namespace ConnectionRegistry

def live (registry : ConnectionRegistry) : Table Uuid LiveGeneration := registry.map fun _ active => active.live

variable {registry : ConnectionRegistry} {device connection : Uuid}

theorem live_get : registry.live[device]? = (registry[device]?).map ActiveConnection.live := Table.get_map

theorem live_insert (active : ActiveConnection) :
    ConnectionRegistry.live (registry.insert device active) = registry.live.insert device active.live := Table.map_insert

-- Overwriting an entry with one of the same face shows nothing.
theorem live_requeued {active active' : ActiveConnection} (found : registry[device]? = some active)
    (same : active'.live = active.live) : ConnectionRegistry.live (registry.insert device active') = registry.live := by
  exact Table.map_requeued found same

theorem live_erase : ConnectionRegistry.live (registry.erase device) = registry.live.erase device := Table.map_erase

theorem live_sendTo (receiver : Address) (frame : OutboundFrame) :
    (registry.sendTo receiver frame).1.live = registry.live := by
  unfold sendTo
  split
  · rfl
  · rename_i active found
    exact live_requeued (Option.filter_eq_some_iff.mp found).1 rfl

theorem generation_some {active : ActiveConnection} : registry.generation device connection = some active ↔
    registry[device]? = some active ∧ active.connectionId = connection := by
  unfold generation
  rw [Option.filter_eq_some_iff,decide_eq_true_iff]

-- The generation that holds the device, as the registry's operations ask.
def owns (live : Table Uuid LiveGeneration) (device connection : Uuid) : Prop :=
  ∃ g : LiveGeneration, live[device]? = some g ∧ g.connectionId = connection

theorem generation_owns : (registry.generation device connection).isSome = true ↔ owns registry.live device connection := by
  unfold owns
  rw [live_get]
  constructor
  · intro present
    obtain ⟨active,found⟩ := Option.isSome_iff_exists.mp present
    obtain ⟨here,name⟩ := generation_some.mp found
    exact ⟨active.live,by rw [here]; rfl,name⟩
  · rintro ⟨g,found,name⟩
    obtain ⟨active,here,rfl⟩ := Option.map_eq_some_iff.mp found
    rw [generation_some.mpr ⟨here,name⟩]
    rfl

theorem disconnect_live : (registry.disconnect device connection).1.live = registry.live ∧
      (registry.disconnect device connection).2 = false ∧ ¬ owns registry.live device connection ∨
    (registry.disconnect device connection).1.live = registry.live.erase device ∧
      (registry.disconnect device connection).2 = true ∧ owns registry.live device connection := by
  unfold disconnect
  cases found : registry.generation device connection with
  | none =>
    refine .inl ⟨rfl,rfl,fun owned => ?_⟩
    rw [← generation_owns,found] at owned
    cases owned
  | some active => exact .inr ⟨live_erase,rfl,generation_owns.mp (by rw [found]; rfl)⟩

theorem updateManifest_live (manifest : DeviceManifest) :
    (registry.updateManifest device connection manifest).1.live = registry.live ∧ ¬ owns registry.live device connection ∨
    ∃ g : LiveGeneration, registry.live[device]? = some g ∧ g.connectionId = connection ∧
      (registry.updateManifest device connection manifest).1.live = registry.live.insert device {g with manifest := manifest} := by
  unfold updateManifest
  cases found : registry.generation device connection with
  | none =>
    refine .inl ⟨rfl,fun owned => ?_⟩
    rw [← generation_owns,found] at owned
    cases owned
  | some active =>
    obtain ⟨here,name⟩ := generation_some.mp found
    refine .inr ⟨active.live,?_,name,live_insert _⟩
    rw [live_get,here]
    rfl

theorem held_live {user : Uuid} {active : ActiveConnection}
    (found : (registry[device]?).filter (fun active => active.userId = user) = some active) :
    registry.live[device]? = some active.live ∧ active.live.userId = user := by
  obtain ⟨here,mine⟩ := Option.filter_eq_some_iff.mp found
  rw [live_get,here]
  exact ⟨rfl,of_decide_eq_true mine⟩

theorem unheld_live {user : Uuid} (absent : (registry[device]?).filter (fun active => active.userId = user) = none)
    (g : LiveGeneration) (here : registry.live[device]? = some g) : g.userId ≠ user := by
  intro mine
  rw [live_get] at here
  obtain ⟨active,there,rfl⟩ := Option.map_eq_some_iff.mp here
  have mine : active.userId = user := mine
  rw [there,Option.filter_some,if_pos (decide_eq_true mine)] at absent
  cases absent

end ConnectionRegistry

-- A step of the router only moves queues.
theorem send_live {s s' : RouterState} {receiver : Address} {frame : OutboundFrame} {mark : Option Nat} {delivered : Bool}
    (sent : s.send receiver frame mark = (s',delivered)) : s'.registry.live = s.registry.live := by
  have moved : (s.registry.sendTo receiver frame).1.live = s.registry.live := ConnectionRegistry.live_sendTo receiver frame
  unfold RouterState.send at sent
  split at sent
  · cases sent
    rfl
  · rename_i registry found
    cases sent
    rw [found] at moved
    exact moved

section routing
variable {env : RouterEnv} {o : Oracle} {s s' : RouterState} {task next : Task} {spawned : List Task}

theorem complete_live {owner : Uuid} {target : DeviceId} {result : CommandResult} {settled : Option Nat}
    (ran : s.complete o owner target result = (s',settled)) : s'.registry = s.registry := by
  unfold RouterState.complete at ran
  split at ran
  · split at ran <;> cases ran <;> rfl
  · cases ran
    rfl

theorem begin_live (call : Call) : (begin env o s call).1.registry.live = s.registry.live := by
  cases call with
  | submit call =>
    unfold begin
    dsimp only
    split <;> rfl
  | accepted owner device connection accepted =>
    unfold begin
    dsimp only
    split
    · rfl
    · split
      · rfl
      · split <;> (rename_i sent; exact send_live sent)
  | result owner device connection result hasStore =>
    unfold begin
    dsimp only
    split
    · rfl
    · split
      · rfl
      · split
        · rfl
        · split <;> rfl
  | disconnected owner device connection hasStore =>
    unfold begin
    dsimp only
    split <;> rfl

theorem reserve_live (admission : Admission) : (reserve o s admission).1.registry = s.registry := by
  unfold reserve
  split
  · split <;> rfl
  all_goals rfl

theorem resolve_live (admission : Admission) (stationId : String) :
    (resolve env o s admission stationId).1 = s := by
  unfold resolve
  dsimp only
  split
  · rfl
  · split <;> rfl

theorem advance_live (ran : advance env o s task = (s',next,spawned)) : s'.registry.live = s.registry.live := by
  cases task with
  | start call =>
    have kept : (begin env o s call).1.registry.live = s.registry.live := begin_live call
    cases ran
    exact kept
  | reserve admission =>
    have kept : (reserve o s admission).1.registry = s.registry := reserve_live admission
    cases ran
    exact congrArg ConnectionRegistry.live kept
  | resolve admission stationId =>
    have kept : (resolve env o s admission stationId).1 = s := resolve_live admission stationId
    cases ran
    exact congrArg (fun t => t.registry.live) kept
  | lookup call now =>
    unfold advance at ran
    dsimp only at ran
    split at ran
    · cases ran
      rfl
    · split at ran <;> cases ran <;> rfl
  | ownership call =>
    unfold advance at ran
    dsimp only at ran
    split at ran
    · cases ran
      rfl
    · split at ran <;> cases ran <;> rfl
  | loadReplay admission =>
    unfold advance at ran
    dsimp only at ran
    split at ran <;> cases ran <;> rfl
  | replayReceived admission persisted =>
    unfold advance at ran
    dsimp only at ran
    split at ran <;> (rename_i sent; cases ran; exact send_live sent)
  | replayResult admission persisted =>
    unfold advance at ran
    dsimp only at ran
    split at ran <;> (rename_i sent; cases ran; exact send_live sent)
  | capacity admission =>
    unfold advance at ran
    dsimp only at ran
    split at ran <;> cases ran <;> rfl
  | reject admission =>
    generalize settled : s.complete o admission.ownerId admission.command.target.deviceId
      (terminal env o.now admission.command.commandId admission.requestId .tooManyInFlight) = pair at ran
    obtain ⟨after,mark⟩ := pair
    simp only [advance,settled] at ran
    cases ran
    exact congrArg ConnectionRegistry.live (complete_live settled)
  | insert admission =>
    cases ran
    rfl
  | received admission =>
    unfold advance at ran
    dsimp only at ran
    split at ran
    · rename_i sent
      cases ran
      exact send_live sent
    · rename_i sent
      split at ran <;> (cases ran; exact send_live sent)
  | dispatch admission command =>
    unfold advance at ran
    dsimp only at ran
    split at ran <;> (rename_i sent; cases ran; exact send_live sent)
  | arm admission =>
    cases ran
    rfl
  | timer commandId requestId =>
    cases ran
    rfl
  | finish commandId result caller =>
    unfold advance at ran
    dsimp only at ran
    split at ran <;> cases ran <;> rfl
  | complete item result caller =>
    unfold advance at ran
    dsimp only at ran
    split at ran <;> (rename_i settled; cases ran; exact congrArg ConnectionRegistry.live (complete_live settled))
  | notify item result caller reservation =>
    generalize sent : s.send item.claim.controller (.commandResult result) (some reservation) = pair at ran
    obtain ⟨after,delivered⟩ := pair
    simp only [advance,sent] at ran
    cases ran
    exact send_live sent
  | returned outcome =>
    cases ran
    rfl

end routing
end DeviceControl
