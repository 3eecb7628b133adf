import RockServer.CommandNames
import RockServer.Transition

namespace DeviceControl

-- Reading back what was written: bodies, commands and stored lifecycles.

-- The one shape of body whose serialization does not decode.
def CommandBody.subtitled : CommandBody → Bool
  | .display (.nowPlaying _ _ none) => false
  | _ => true

-- What the parser of stamps checked on the way in.
structure Timestamp.Checked (serde : Serde) (stamp : Timestamp) : Prop where
  eq : serde.readRfc3339 stamp.text = some stamp.instant

-- Extensions come from the decoder and stamps from their parser.
structure DeviceCommand.Decodable (serde : Serde) (command : DeviceCommand) : Prop where
  extension : ∀ name payload, command.body = .unknown name payload → ∃ m, CommandBody.ofMap serde m = .ok command.body
  deadline : ∀ deadline ∈ command.deadlineAt, deadline.Checked serde

section body
variable {serde : Serde} {body : CommandBody} {m : JsonMap}

theorem extension_whole {name : String} {payload : JsonMap} (decoded : CommandBody.ofMap serde m = .ok (.unknown name payload)) :
    payload = m := by
  obtain ⟨_,_,⟨_,_,known,_⟩ | ⟨_,same⟩ | ⟨_,_,_,same⟩⟩ := ofMap_cases decoded
  · cases known
  · cases same
  · cases same
    rfl

theorem playback_decode {action : String} (accepted : (CommandBody.playback action).validate = .ok ()) :
    CommandBody.ofMap serde ((CommandBody.playback action).toMap serde) = .ok (.playback action) := by
  have listed := playback_validated accepted
  simp only [playbackActions,List.mem_cons,List.not_mem_nil,or_false] at listed
  rcases listed with rfl | rfl | rfl | rfl | rfl
  all_goals rfl

theorem playStream_decode {source : StreamSource} {stationId : Option String} {station : Option StationPresentation}
    {streamUri : String} (accepted : (CommandBody.playStream source stationId station streamUri).validate = .ok ()) :
    CommandBody.ofMap serde ((CommandBody.playStream source stationId station streamUri).toMap serde) =
      .ok (.playStream source stationId station streamUri) := by
  cases source with
  | rockserverCatalog =>
    cases stationId with
    | none => cases accepted
    | some stationId =>
      cases station with
      | none => rfl
      | some station =>
        change (((StationPresentation.decode station.toJson).map some).bind fun station =>
          Except.ok (CommandBody.playStream .rockserverCatalog (some stationId) station streamUri)) = _
        rw [station_decode]
        rfl
  | directStream =>
    cases stationId with
    | some stationId => cases accepted
    | none =>
      cases station with
      | some station => cases accepted
      | none => rfl

theorem volume_decode (command : VolumeCommand) :
    CommandBody.ofMap serde ((CommandBody.volume command).toMap serde) = .ok (.volume command) := by
  cases command with
  | setLevel level =>
    change (decodeU8 serde (.number (serde.integer level.toNat))).map (fun level => CommandBody.volume (.setLevel level)) = _
    rw [decodeU8_integer]
    rfl
  | change delta =>
    change (decodeI8 serde (.number (serde.integer delta.toInt))).map (fun delta => CommandBody.volume (.change delta)) = _
    rw [decodeI8_integer]
    rfl
  | setMute muted => rfl

theorem actuator_decode {action : ActuatorAction} {value : Option F64}
    (accepted : (CommandBody.actuator action value).validate = .ok ()) :
    CommandBody.ofMap serde ((CommandBody.actuator action value).toMap serde) = .ok (.actuator action value) := by
  cases action with
  | turnOn | turnOff =>
    cases value with
    | none => rfl
    | some value => cases accepted
  | setValue =>
    cases value with
    | none => cases accepted
    | some value =>
      cases value with
      | finite value =>
        change (decodeF64 serde (F64.toJson serde (.finite value))).map (fun value => CommandBody.actuator .setValue (some value)) = _
        rw [decodeF64_finite]
        rfl
      | infinite negative => cases accepted
      | nan => cases accepted

-- An absent subtitle is written as null and read as a string.
theorem display_decode (presentation : Presentation) :
    CommandBody.ofMap serde ((CommandBody.display presentation).toMap serde) =
      if (CommandBody.display presentation).subtitled then .ok (.display presentation) else .error .invalidType := by
  cases presentation with
  | text shown => rfl
  | nowPlaying stationId title subtitle =>
    cases subtitle with
    | none => rfl
    | some subtitle => rfl
  | sensorGrid title items =>
    change ((decodeVec SensorCard.decode (.array (items.map SensorCard.toJson))).bind fun items =>
      Except.ok (CommandBody.display (.sensorGrid title items))) = _
    rw [decodeVec_array sensorCard_decode]
    rfl

theorem body_decode (accepted : body.validate = .ok ())
    (extension : ∀ name payload, body = .unknown name payload → ∃ m, CommandBody.ofMap serde m = .ok body) :
    CommandBody.ofMap serde (body.toMap serde) = if body.subtitled then .ok body else .error .invalidType := by
  cases body with
  | playStation stationId => rfl
  | playStream source stationId station streamUri => exact playStream_decode accepted
  | playback action => exact playback_decode accepted
  | volume command => exact volume_decode command
  | display presentation => exact display_decode presentation
  | actuator action value => exact actuator_decode accepted
  | unknown name payload =>
    obtain ⟨m,decoded⟩ := extension name payload rfl
    rw [← extension_whole decoded] at decoded
    exact decoded

end body

section stamps
variable {serde : Serde}

theorem stamp_decode {stamp : Timestamp} (checked : stamp.Checked serde) :
    Timestamp.decode serde (.string stamp.text) = .ok stamp := by
  simp only [Timestamp.decode,asStr,Option.bind_some,checked.eq,Option.map_some,readOr]

theorem target_decode (target : CommandTarget) : CommandTarget.decode serde (target.toJson serde) = .ok target := by
  obtain ⟨⟨device⟩,entityId,surfaceId⟩ := target
  have kept := decodeUuid_uuid serde device
  cases entityId <;> cases surfaceId <;>
    simp [CommandTarget.decode,CommandTarget.toJson,omitNone,structFields,field,optionField,decodeOption,List.lookup_cons,
      kept,bind,Except.bind,Except.map]

theorem command_decode {command : DeviceCommand} {receivedAt : Timestamp} (decodable : command.Decodable serde)
    (accepted : command.validateAt receivedAt = .ok ()) :
    DeviceCommand.decode serde (command.toJson serde) =
      if command.body.subtitled then .ok command else .error .invalidType := by
  obtain ⟨⟨id⟩,target,deadlineAt,body⟩ := command
  have uuid := decodeUuid_uuid serde id
  have addressed := @target_decode serde target
  have read : CommandBody.decode serde (body.toJson serde) = if body.subtitled then .ok body else .error .invalidType :=
    body_decode (validateAt_iff.mp accepted).2.2 decodable.extension
  cases deadlineAt with
  | none =>
    change ((decodeUuid serde (.string (serde.uuid id))).bind fun commandId =>
      (CommandTarget.decode serde (target.toJson serde)).bind fun target =>
      (CommandBody.decode serde (body.toJson serde)).bind fun body =>
      Except.ok (DeviceCommand.mk ⟨commandId⟩ target none body)) = _
    rw [uuid,addressed,read]
    cases body.subtitled <;> rfl
  | some deadline =>
    change ((decodeUuid serde (.string (serde.uuid id))).bind fun commandId =>
      (CommandTarget.decode serde (target.toJson serde)).bind fun target =>
      ((Timestamp.decode serde (.string deadline.text)).map some).bind fun deadlineAt =>
      (CommandBody.decode serde (body.toJson serde)).bind fun body =>
      Except.ok (DeviceCommand.mk ⟨commandId⟩ target deadlineAt body)) = _
    rw [uuid,addressed,stamp_decode (decodable.deadline deadline rfl),read]
    cases body.subtitled <;> rfl

theorem result_decode {result : CommandResult} (stamp : result.completedAt.Checked serde) :
    CommandResult.decode serde (result.toJson serde) = .ok result := by
  obtain ⟨⟨id⟩,status,completedAt,error⟩ := result
  have uuid := decodeUuid_uuid serde id
  have read := stamp_decode stamp
  have failure : decodeOption DomainError.decode (optional DomainError.toJson error) = .ok error :=
    decodeOption_optional domainError_decode (fun _ => by simp [DomainError.toJson]) error
  simp [CommandResult.decode,CommandResult.toJson,structFields,field,optionField,List.lookup_cons,uuid,read,failure,
    bind,Except.bind]

end stamps

-- Where the router's replay reads the lifecycle it reports from.
def replayLifecycle (serde : Serde) (s : StoreState) (user : Uuid) (device : DeviceId) (id : CommandId) :
    Except ErrorCode (Option CommandLifecycle) :=
  match s.loadDecoded serde user device id with
  | .ok lifecycle => .ok lifecycle
  | .error _ => .error .persistenceUnavailable

-- One store over time: requests, reported results, pruning and whatever happens
-- to the devices and their manifests.
inductive StoreAction where
  | reserve (now : Instant) (user : Uuid) (device : DeviceId) (request : CommandReservation)
  | complete (user : Uuid) (device : DeviceId) (result : CommandResult)
  | prune (now : Instant) (limit : Nat)
  | directory (devices : List (DeviceId × Uuid)) (manifests : List (DeviceId × DeviceManifest))

def StoreState.act (s : StoreState) : StoreAction → StoreState
  | .reserve now user device request => (s.reserveCommand now user device request).2
  | .complete user device result => (s.completeCommand user device result).2
  | .prune now limit => s.pruneCommands now limit
  | .directory devices manifests => {s with devices := devices,manifests := manifests}

-- Requests and results reach the store decoded.
def StoreAction.Decoded (serde : Serde) : StoreAction → Prop
  | .reserve _ _ _ request => request.command.Decodable serde
  | .complete _ _ result => result.completedAt.Checked serde
  | _ => True

def StoreStep (serde : Serde) (s : StoreState) (action : StoreAction) (s' : StoreState) : Prop :=
  action.Decoded serde ∧ s.act action = s'

def StoreState.unused (devices : List (DeviceId × Uuid)) (manifests : List (DeviceId × DeviceManifest)) : StoreState :=
  ⟨devices,manifests,∅,0⟩

structure CommandRow.Readable (serde : Serde) (row : CommandRow) : Prop where
  accepted : ∃ receivedAt, row.requestPayload.validateAt receivedAt = .ok ()
  decodable : row.requestPayload.Decodable serde
  stamp : ∀ result, row.state.result = some result → result.completedAt.Checked serde

def StoreState.Readable (serde : Serde) (s : StoreState) : Prop :=
  ∀ (id : CommandId) (row : CommandRow), s.commands[id]? = some row → row.Readable serde

section store
variable {serde : Serde} {s s' : StoreState}

theorem insert_rows {now : Instant} {user : Uuid} {device : DeviceId} {request : CommandReservation}
    {answer : Except StoreError StoreOutcome} (ran : s.insertReservation now user device request = (answer,s'))
    {id : CommandId} {row : CommandRow} (found : s'.commands[id]? = some row) :
    s.commands[id]? = some row ∨ row.requestPayload = request.command ∧ row.state = .reserved := by
  unfold StoreState.insertReservation at ran
  split at ran
  · cases ran
    exact .inl found
  · cases ran
    dsimp only at found
    rw [Table.get_insert] at found
    split at found
    · cases found
      exact .inr ⟨rfl,rfl⟩
    · exact .inl found

theorem reserve_rows {now : Instant} {user : Uuid} {device : DeviceId} {request : CommandReservation}
    {answer : Except StoreError StoreOutcome} (ran : s.reserveCommand now user device request = (answer,s'))
    {id : CommandId} {row : CommandRow} (found : s'.commands[id]? = some row) :
    s.commands[id]? = some row ∨
    request.command.validateAt request.deadlineAt = .ok () ∧ row.requestPayload = request.command ∧ row.state = .reserved := by
  unfold StoreState.reserveCommand at ran
  split at ran
  · cases ran
    exact .inl found
  rename_i accepted
  split at ran
  · cases ran
    exact .inl found
  split at ran
  · cases ran
    exact .inl found
  split at ran
  · exact (insert_rows ran found).imp_right fun fresh => ⟨accepted,fresh⟩
  · split at ran
    · cases ran
      exact .inl found
    · split at ran
      · exact (insert_rows ran found).imp_right fun fresh => ⟨accepted,fresh⟩
      · cases ran
        exact .inl found

theorem complete_rows {user : Uuid} {device : DeviceId} {result : CommandResult}
    {id : CommandId} {row : CommandRow} (found : (s.completeCommand user device result).2.commands[id]? = some row) :
    s.commands[id]? = some row ∨
    ∃ before, s.commands[id]? = some before ∧ row = {before with state := .completed result} := by
  rcases ran : s.completeCommand user device result with ⟨answer,after⟩
  rw [ran] at found
  by_cases settled : answer = .ok .accepted
  · subst settled
    obtain ⟨before,present,_,_,_,rfl⟩ := StoreState.complete_accepted ran
    dsimp only at found
    rw [Table.get_insert] at found
    split at found
    · rename_i same
      cases found
      exact .inr ⟨before,same ▸ present,rfl⟩
    · exact .inl found
  · rw [StoreState.complete_unchanged ran settled] at found
    exact .inl found

theorem readable_step {action : StoreAction} (readable : s.Readable serde) (next : StoreStep serde s action s') :
    s'.Readable serde := by
  obtain ⟨decoded,rfl⟩ := next
  intro id row found
  cases action with
  | reserve now user device request =>
    rcases reserve_rows rfl found with kept | ⟨accepted,payload,reserved⟩
    · exact readable id row kept
    · refine ⟨⟨_,payload ▸ accepted⟩,payload ▸ decoded,fun result present => ?_⟩
      rw [reserved] at present
      cases present
  | complete user device result =>
    rcases complete_rows found with kept | ⟨before,present,rfl⟩
    · exact readable id row kept
    · obtain ⟨accepted,decodable,_⟩ := readable id before present
      refine ⟨accepted,decodable,fun other completed => ?_⟩
      cases completed
      exact decoded
  | prune now limit =>
    rcases StoreState.prune_cases s now limit id with kept | ⟨gone,_⟩
    · exact readable id row (kept ▸ found)
    · rw [StoreState.act,gone] at found
      cases found
  | directory devices manifests => exact readable id row found

theorem readable_run {devices : List (DeviceId × Uuid)} {manifests : List (DeviceId × DeviceManifest)}
    {actions : List StoreAction} (path : Transition.Runs (StoreStep serde) (.unused devices manifests) actions s) :
    s.Readable serde := by
  refine path.invariant (StoreState.Readable serde) ?_ fun _ _ _ readable next => readable_step readable next
  intro id row found
  simp [StoreState.unused] at found

theorem load_row {user : Uuid} {device : DeviceId} {id : CommandId} {lifecycle : CommandLifecycle}
    (loaded : s.loadCommand user device id = some lifecycle) :
    ∃ row, s.commands[id]? = some row ∧ lifecycle = ⟨row.requestPayload,row.state.result⟩ := by
  unfold StoreState.loadCommand at loaded
  split at loaded
  · cases loaded
  · rename_i row found
    split at loaded
    · cases loaded
      exact ⟨row,found,rfl⟩
    · cases loaded

-- What a readable row gives when it is loaded.
theorem replay_decoded {user : Uuid} {device : DeviceId} {id : CommandId} {lifecycle : CommandLifecycle}
    (readable : s.Readable serde) (loaded : s.loadCommand user device id = some lifecycle) :
    replayLifecycle serde s user device id =
      if lifecycle.command.body.subtitled then .ok (some lifecycle) else .error .persistenceUnavailable := by
  obtain ⟨row,found,rfl⟩ := load_row loaded
  obtain ⟨⟨receivedAt,accepted⟩,decodable,stamp⟩ := readable id row found
  have read := command_decode decodable accepted
  have results : (row.state.result.mapM fun result => CommandResult.decode serde (result.toJson serde)) =
      .ok row.state.result := by
    cases present : row.state.result with
    | none => rfl
    | some result =>
      change (CommandResult.decode serde (result.toJson serde)).map some = _
      rw [result_decode (stamp result present)]
      rfl
  simp only [replayLifecycle,StoreState.loadDecoded,loaded,read,results]
  cases row.requestPayload.body.subtitled <;> rfl

end store

-- A validated command is read back exactly if it is no now-playing view without
-- a subtitle; so is every stored command, and the replay of any other fails.
theorem command_round_trip (serde : Serde) {command : DeviceCommand} {receivedAt : Timestamp}
    (decodable : command.Decodable serde) (accepted : command.validateAt receivedAt = .ok ()) :
    (DeviceCommand.decode serde (command.toJson serde) = .ok command ↔ command.body.subtitled = true) ∧
    ∀ devices manifests actions s, Transition.Runs (StoreStep serde) (.unused devices manifests) actions s →
      ∀ user device id lifecycle, s.loadCommand user device id = some lifecycle →
      (replayLifecycle serde s user device id = .ok (some lifecycle) ↔ lifecycle.command.body.subtitled = true) ∧
      (replayLifecycle serde s user device id = .error .persistenceUnavailable ↔
        lifecycle.command.body.subtitled = false) := by
  refine ⟨?_,fun devices manifests actions s path user device id lifecycle loaded => ?_⟩
  · rw [command_decode decodable accepted]
    cases command.body.subtitled <;> simp
  · rw [replay_decoded (readable_run path) loaded]
    cases lifecycle.command.body.subtitled <;> simp

def nowPlaying (subtitle : Option String) : DeviceCommand :=
  ⟨⟨7⟩,⟨⟨2⟩,none,some "screen"⟩,none,.display (.nowPlaying "radio" "Radio" subtitle)⟩

theorem nowPlaying_decodable (subtitle : Option String) : (nowPlaying subtitle).Decodable sampleSerde :=
  ⟨fun _ _ extension => (nomatch extension),fun _ present => (nomatch present)⟩

theorem command_round_trip_subtitled :
    (nowPlaying (some "Live")).validateAt firstSecond = .ok () ∧
    DeviceCommand.decode sampleSerde ((nowPlaying (some "Live")).toJson sampleSerde) = .ok (nowPlaying (some "Live")) := by
  have accepted : (nowPlaying (some "Live")).validateAt firstSecond = .ok () := by decide
  exact ⟨accepted,(command_round_trip sampleSerde (nowPlaying_decodable _) accepted).1.mpr rfl⟩

def nowPlayingRequest : CommandReservation := ⟨nowPlaying none,Vector.replicate 32 0,firstSecond⟩

def nowPlayingStore : StoreState := (StoreState.unused [(⟨2⟩,1)] []).act (.reserve 0 1 ⟨2⟩ nowPlayingRequest)

-- The view is shown without a subtitle, and its replay cannot be answered.
theorem bare_now_playing_unreadable :
    (nowPlaying none).validateAt firstSecond = .ok () ∧
    DeviceCommand.decode sampleSerde ((nowPlaying none).toJson sampleSerde) = .error .invalidType ∧
    Transition.Runs (StoreStep sampleSerde) (.unused [(⟨2⟩,1)] []) [.reserve 0 1 ⟨2⟩ nowPlayingRequest] nowPlayingStore ∧
    (nowPlayingStore.loadCommand 1 ⟨2⟩ ⟨7⟩).isSome = true ∧
    replayLifecycle sampleSerde nowPlayingStore 1 ⟨2⟩ ⟨7⟩ = .error .persistenceUnavailable := by
  have accepted : (nowPlaying none).validateAt firstSecond = .ok () := by decide
  have path : Transition.Runs (StoreStep sampleSerde) (.unused [(⟨2⟩,1)] []) [.reserve 0 1 ⟨2⟩ nowPlayingRequest]
      nowPlayingStore := .single ⟨nowPlaying_decodable none,rfl⟩
  have loaded : nowPlayingStore.loadCommand 1 ⟨2⟩ ⟨7⟩ = some ⟨nowPlaying none,none⟩ := rfl
  refine ⟨accepted,command_decode (nowPlaying_decodable none) accepted,path,by rw [loaded]; rfl,?_⟩
  exact replay_decoded (readable_run path) loaded

end DeviceControl
