import RockServer.CommandNames
import RockServer.CommandReplay
import RockServer.PlanAdmission

namespace DeviceControl

-- Volume levels and deltas from the two places commands come from, a
-- controller's frame and a media intent, to the frame that reaches the target.
def VolumeCommand.bounded : VolumeCommand → Bool
  | .setLevel level => level ≤ 100
  | .change delta => delta ≠ 0 && -100 ≤ delta.toInt && delta.toInt ≤ 100
  | .setMute _ => true

-- What is left for the submitter to keep: the checks refuse a zero delta.
def VolumeCommand.moderate : VolumeCommand → Bool
  | .setLevel level => level ≤ 100
  | .change delta => -100 ≤ delta.toInt && delta.toInt ≤ 100
  | .setMute _ => true

def CommandBody.volume? : CommandBody → Option VolumeCommand
  | .volume command => some command
  | _ => none

def CommandBody.volumeBounded (body : CommandBody) : Bool := body.volume?.all VolumeCommand.bounded
def CommandBody.volumeModerate (body : CommandBody) : Bool := body.volume?.all VolumeCommand.moderate

def UserIntent.volumeModerate : UserIntent → Bool
  | .media action _ => action.commandBody.volumeModerate
  | _ => true

-- The number under a key of a command's JSON object, where it has one.
def integerAt (serde : Serde) (m : JsonMap) (key : String) : Option Int :=
  (m.lookup key).bind (decodeInteger serde)

def volumeModerateWire (serde : Serde) (m : JsonMap) : Bool :=
  (nameOf m).all fun name =>
    if name = "volume.set_volume" then (integerAt serde m "level").all (· ≤ 100)
    else if name = "volume.change_volume" then (integerAt serde m "delta").all fun n => -100 ≤ n && n ≤ 100
    else true

-- A submit may carry any volume command that is moderate.
def moderateCall : Action → Bool
  | .call (.submit call) => call.command.body.volumeModerate
  | _ => true

def VolumesBounded (s : RouterState) : Prop :=
  ∀ receiver command reservation, .sent receiver (.deviceCommand command) reservation ∈ s.journal →
    command.body.volumeBounded = true

-- How far each task has come with its command.
def Task.VolumeKept : Task → Prop
  | .start (.submit call) => call.command.body.volumeModerate = true
  | .lookup call _ => call.command.body.volumeBounded = true
  | .reserve admission | .capacity admission | .insert admission | .received admission | .resolve admission _ =>
    admission.command.body.volumeBounded = true
  | .dispatch _ command => command.body.volumeBounded = true
  | _ => True

section run
variable {env : RouterEnv} {o : Oracle} {s s' : RouterState} {task next : Task} {spawned : List Task} {action : Action}

-- The checks add what moderation leaves out.
theorem valid_bounded {command : DeviceCommand} {receivedAt : Timestamp} (moderate : command.body.volumeModerate = true)
    (valid : command.validateAt receivedAt = .ok ()) : command.body.volumeBounded = true := by
  have body := (validateAt_iff.mp valid).2.2
  cases command with
  | mk id target deadline body' =>
    cases body' with
    | volume volume =>
      cases volume with
      | setLevel level => exact moderate
      | setMute muted => rfl
      | change delta =>
        have nonzero : delta ≠ 0 := by
          rintro rfl
          cases body
        simp only [CommandBody.volumeModerate,CommandBody.volumeBounded,CommandBody.volume?,Option.all_some,
          VolumeCommand.moderate,VolumeCommand.bounded,Bool.and_eq_true,decide_eq_true_eq] at moderate ⊢
        exact ⟨⟨nonzero,moderate.1⟩,moderate.2⟩
    | _ => rfl

theorem checkTarget_body {now : Instant} {call : SubmitCall} {target : ActiveDevice} {admission : Admission}
    (passed : checkTarget env now call target = .ok admission) : admission.command.body = call.command.body := by
  unfold checkTarget at passed
  dsimp only at passed
  repeat' split at passed
  all_goals cases passed
  rfl

theorem next_kept (caller : Caller) (env : RouterEnv) (now : Instant) : (caller.next env now).VolumeKept := by
  unfold Caller.next
  split <;> trivial

theorem begin_kept {call : Call} (kept : (Task.start call).VolumeKept) : (begin env o s call).2.VolumeKept := by
  unfold begin
  cases call with
  | submit call =>
    dsimp only
    split
    · trivial
    · rename_i passed
      exact valid_bounded kept (checkController_valid passed)
  | disconnected owner device connection hasStore =>
    dsimp only
    split
    · trivial
    · exact next_kept _ env _
  | _ =>
    dsimp only
    repeat' split
    all_goals trivial

theorem advance_kept (kept : task.VolumeKept) (ran : advance env o s task = (s',next,spawned)) : next.VolumeKept := by
  cases task with
  | start call =>
    have begun := @begin_kept env o s call kept
    cases ran
    exact begun
  | lookup call now =>
    unfold advance at ran
    dsimp only at ran
    split at ran
    · cases ran
      trivial
    · split at ran
      · cases ran
        trivial
      · rename_i admission passed
        cases ran
        have same := checkTarget_body passed
        change admission.command.body.volumeBounded = true
        rw [same]
        exact kept
  | reserve admission =>
    simp only [advance] at ran
    cases ran
    unfold reserve
    split
    case h_4 => exact kept
    all_goals trivial
  | capacity admission =>
    unfold advance at ran
    dsimp only at ran
    split at ran
    · cases ran
      trivial
    · cases ran
      exact kept
  | insert admission =>
    cases ran
    exact kept
  | received admission =>
    unfold advance at ran
    dsimp only at ran
    split at ran
    · cases ran
      trivial
    · split at ran
      · cases ran
        exact kept
      · cases ran
        exact kept
  | resolve admission stationId =>
    simp only [advance] at ran
    cases ran
    unfold resolve
    dsimp only
    repeat' split
    all_goals trivial
  | finish commandId result caller =>
    unfold advance at ran
    dsimp only at ran
    split at ran
    · cases ran
      exact next_kept caller env _
    · cases ran
      trivial
  | complete item result caller =>
    unfold advance at ran
    dsimp only at ran
    split at ran
    · cases ran
      trivial
    · cases ran
      exact next_kept caller env _
  | notify item result caller reservation =>
    cases ran
    exact next_kept caller env _
  | _ =>
    unfold advance at ran
    dsimp only at ran
    repeat' split at ran
    all_goals cases ran; trivial

structure VolumesKept (s : RouterState) : Prop where
  sent : VolumesBounded s
  tasks : ∀ t ∈ s.tasks, t.VolumeKept

theorem kept_run {i : Nat} (kept : VolumesKept s) (taken : Step env s (.run i o) s') : VolumesKept s' := by
  obtain ⟨task,after,next,spawned,found,ran,rfl⟩ := run_cases taken
  have mine := kept.tasks task (List.mem_of_getElem? found)
  constructor
  · intro receiver command reservation sent
    rcases advance_records ran with journal | ⟨event,journal,origin⟩
    · rw [journal] at sent
      exact kept.sent receiver command reservation sent
    · rw [journal] at sent
      rcases List.mem_append.mp sent with old | new
      · exact kept.sent receiver command reservation old
      · cases List.mem_singleton.mp new
        cases reservation with
        | none =>
          obtain ⟨admission,rfl,_⟩ := origin
          exact mine
        | some reservation =>
          obtain ⟨_,_,_,_,other,_⟩ := origin
          cases other
  · intro t member
    rcases List.mem_append.mp member with set | new
    · rcases List.mem_or_eq_of_mem_set set with old | rfl
      · exact kept.tasks t old
      · exact advance_kept mine ran
    · obtain ⟨_,_,rfl⟩ := (advance_effect ran).2.2 t new
      trivial

theorem kept_step (kept : VolumesKept s) (met : moderateCall action = true) (taken : Step env s action s') :
    VolumesKept s' := by
  rcases step_cases taken with ⟨call,rfl,rfl⟩ | ⟨i,o,_,_,_,_,rfl,_⟩ | ⟨_,rfl,rfl⟩ | ⟨_,_,rfl,rfl⟩ | ⟨_,_,rfl,rfl⟩
  · refine ⟨kept.sent,fun t member => ?_⟩
    rcases List.mem_append.mp member with old | new
    · exact kept.tasks t old
    · cases List.mem_singleton.mp new
      cases call with
      | submit call => exact met
      | accepted | result | disconnected => trivial
  · exact kept_run kept taken
  · exact ⟨kept.sent,kept.tasks⟩
  · exact ⟨kept.sent,kept.tasks⟩
  · exact ⟨kept.sent,kept.tasks⟩

end run

section pipelines
variable {serde : Serde} {m : JsonMap} {body : CommandBody} {request : ResolutionRequest} {plan : IntentPlan}

theorem decodeU8_ok {value : Json} {level : UInt8} (read : decodeU8 serde value = .ok level) :
    decodeInteger serde value = some (level.toNat : Int) := by
  unfold decodeU8 at read
  cases number : decodeInteger serde value with
  | none => simp [number,readOr] at read
  | some n =>
    simp only [number,Option.bind_some] at read
    split at read
    · rename_i range
      cases read
      have small : n.toNat < 256 := by omega
      rw [UInt8.toNat_ofNat_of_lt' small,Int.toNat_of_nonneg range.1]
    · cases read

theorem decodeI8_ok {value : Json} {delta : Int8} (read : decodeI8 serde value = .ok delta) :
    decodeInteger serde value = some delta.toInt := by
  unfold decodeI8 at read
  cases number : decodeInteger serde value with
  | none => simp [number,readOr] at read
  | some n =>
    simp only [number,Option.bind_some] at read
    split at read
    · rename_i range
      cases read
      rw [Int8.toInt_ofInt_of_le (by omega) (by omega)]
    · cases read

theorem integerAt_get {A : Type} {key : String} {decode : Json → Decoded A} {value : A} {n : Int}
    (read : (get m key).bind decode = .ok value)
    (decoded : ∀ json, decode json = .ok value → decodeInteger serde json = some n) : integerAt serde m key = some n := by
  obtain ⟨json,found,read⟩ := bind_done read
  unfold get at found
  unfold integerAt
  cases there : m.lookup key with
  | none =>
    rw [there] at found
    cases found
  | some other =>
    rw [there] at found
    cases found
    exact decoded json read

theorem setVolume_decoded (found : nameOf m = some "volume.set_volume") (decoded : CommandBody.ofMap serde m = .ok body) :
    ∃ level : UInt8, body = .volume (.setLevel level) ∧ integerAt serde m "level" = some (level.toNat : Int) := by
  unfold CommandBody.ofMap at decoded
  rw [show (m.lookup "name").bind asStr = some "volume.set_volume" from found] at decoded
  have other := fixed_apart "volume.set_volume" (by decide)
  simp only [String.reduceEq,other,Bool.false_eq_true,if_false,if_true] at decoded
  obtain ⟨level,read,decoded⟩ := bind_done decoded
  cases decoded
  exact ⟨level,rfl,integerAt_get read fun _ => decodeU8_ok⟩

theorem changeVolume_decoded (found : nameOf m = some "volume.change_volume")
    (decoded : CommandBody.ofMap serde m = .ok body) :
    ∃ delta : Int8, body = .volume (.change delta) ∧ integerAt serde m "delta" = some delta.toInt := by
  unfold CommandBody.ofMap at decoded
  rw [show (m.lookup "name").bind asStr = some "volume.change_volume" from found] at decoded
  have other := fixed_apart "volume.change_volume" (by decide)
  simp only [String.reduceEq,other,Bool.false_eq_true,if_false,if_true] at decoded
  obtain ⟨delta,read,decoded⟩ := bind_done decoded
  cases decoded
  exact ⟨delta,rfl,integerAt_get read fun _ => decodeI8_ok⟩

theorem other_decoded {name : String} (found : nameOf m = some name) (decoded : CommandBody.ofMap serde m = .ok body)
    (notSet : name ≠ "volume.set_volume") (notChange : name ≠ "volume.change_volume") : body.volumeModerate = true := by
  obtain ⟨other,there,shape⟩ := ofMap_cases decoded
  cases Option.some.inj (found.symm.trans there)
  rcases shape with ⟨_,kept,_,_⟩ | ⟨_,rfl⟩ | ⟨_,_,_,rfl⟩
  · cases body with
    | volume command =>
      cases command with
      | setLevel level => exact absurd (Option.some.inj kept).symm notSet
      | change delta => exact absurd (Option.some.inj kept).symm notChange
      | setMute muted => rfl
    | _ => rfl
  · rfl
  · rfl

-- What the decoder makes of a frame is moderate exactly if its numbers are.
theorem decoded_moderate (decoded : CommandBody.ofMap serde m = .ok body) :
    body.volumeModerate = volumeModerateWire serde m := by
  obtain ⟨name,found,_⟩ := ofMap_cases decoded
  unfold volumeModerateWire
  rw [found,Option.all_some]
  by_cases set : name = "volume.set_volume"
  · subst set
    obtain ⟨level,rfl,number⟩ := setVolume_decoded found decoded
    rw [if_pos rfl,number,Option.all_some]
    have same : level ≤ 100 ↔ (level.toNat : Int) ≤ 100 := by
      rw [UInt8.le_iff_toNat_le]
      exact Int.ofNat_le.symm
    exact decide_eq_decide.mpr same
  · by_cases change : name = "volume.change_volume"
    · subst change
      obtain ⟨delta,rfl,number⟩ := changeVolume_decoded found decoded
      rw [if_neg (by decide),if_pos rfl,number,Option.all_some]
      rfl
    · rw [if_neg set,if_neg change]
      exact other_decoded found decoded set change

-- A display, a station and a media action are planned with their one command.
theorem shown_moderate {device : DirectoryDevice} {surface : Surface} {presentation : Presentation}
    (resolved : .from (displayPlan request device surface presentation) = ResolutionResult.plan plan) :
    ∀ command ∈ plan.commands, command.body.volumeModerate = true := by
  obtain ⟨_,_,commands⟩ := displayPlan_planned resolved
  rw [commands]
  intro command listed
  rw [List.mem_singleton.mp listed]
  rfl

theorem resolved_moderate {print : Json → String} {intent : UserIntent} (resolved : request.resolve print intent = .plan plan) :
    (∀ command ∈ plan.commands, command.body.volumeModerate = true) ↔ intent.volumeModerate = true := by
  unfold ResolutionRequest.resolve at resolved
  split at resolved
  · cases resolved
  split at resolved
  · cases resolved
  cases intent with
  | playRadio stationId target =>
    obtain ⟨_,_,resolved⟩ := planned_bind checked_unplanned resolved
    obtain ⟨device,_,resolved⟩ := planned_bind selectDevice_unplanned resolved
    cases resolved
    refine iff_of_true (fun command listed => ?_) rfl
    rw [List.mem_singleton.mp listed]
    rfl
  | showSensors target =>
    obtain ⟨_,_,resolved⟩ := planned_bind checked_unplanned resolved
    obtain ⟨_,_,resolved⟩ := planned_bind checked_unplanned resolved
    obtain ⟨device,_,resolved⟩ := planned_bind selectDevice_unplanned resolved
    obtain ⟨surface,_,resolved⟩ := planned_bind selectSurface_unplanned resolved
    exact iff_of_true (shown_moderate resolved) rfl
  | querySensor entityId target =>
    refine iff_of_true (fun command listed => ?_) rfl
    rw [sensorQuery_commands resolved] at listed
    cases listed
  | media action target =>
    obtain ⟨_,_,resolved⟩ := planned_bind checked_unplanned resolved
    obtain ⟨device,_,resolved⟩ := planned_bind selectDevice_unplanned resolved
    cases resolved
    exact ⟨fun all => all _ (List.mem_singleton_self _),fun moderate command listed => by
      rw [List.mem_singleton.mp listed]
      exact moderate⟩
  | showNowPlaying target =>
    obtain ⟨_,_,resolved⟩ := planned_bind checked_unplanned resolved
    obtain ⟨device,_,resolved⟩ := planned_bind selectDevice_unplanned resolved
    obtain ⟨surface,_,resolved⟩ := planned_bind selectSurface_unplanned resolved
    split at resolved
    · split at resolved
      · cases resolved
      · exact iff_of_true (shown_moderate resolved) rfl
    · cases resolved
  | actuator action value target => exact absurd resolved actuator_unplanned

end pipelines

-- Between them the two pipelines and the router refuse a zero delta and nothing
-- else: levels and deltas stay within a hundred exactly where the submitter keeps
-- them there.
theorem volumes_bounded (serde : Serde) (print : Json → String) {env : RouterEnv} {origin s : RouterState}
    {actions : List Action} (start : Initial origin) :
    (Transition.Runs (Transition.Under (fun _ action => moderateCall action = true) (Step env)) origin actions s →
      VolumesBounded s) ∧
    (∀ m body, CommandBody.ofMap serde m = .ok body → (body.volumeModerate = true ↔ volumeModerateWire serde m = true)) ∧
    ∀ (request : ResolutionRequest) intent plan, request.resolve print intent = .plan plan →
      ((∀ command ∈ plan.commands, command.body.volumeModerate = true) ↔ intent.volumeModerate = true) := by
  refine ⟨fun path => ?_,fun m body decoded => by rw [decoded_moderate decoded],fun _ _ _ resolved => resolved_moderate resolved⟩
  have first : VolumesKept origin := by
    constructor
    · intro receiver command reservation sent
      rw [start.journal] at sent
      cases sent
    · intro t member
      rw [start.tasks] at member
      cases member
  exact (path.invariant VolumesKept first fun _ _ _ kept taken => kept_step kept taken.1 taken.2).sent

def setLevel (level : UInt8) : SubmitCall :=
  ⟨1,10,100,"request",⟨⟨7⟩,⟨⟨20⟩,none,none⟩,none,.volume (.setLevel level)⟩,true⟩

def levelled (level : UInt8) : List Action := [.call (.submit (setLevel level))] ++ List.replicate 9 (.run 0 calm)

def Event.sets (level : UInt8) : Event → Bool
  | .sent _ (.deviceCommand command) _ => command.body = .volume (.setLevel level)
  | _ => false

theorem volumes_bounded_forty : ∃ s, s.journal.any (Event.sets 40) = true ∧ VolumesBounded s := by
  obtain ⟨s,path,seen⟩ := Transition.guarded_reaches (fun _ => moderateCall) (execute onEpochDay) idle (levelled 40)
    (fun s => s.journal.any (Event.sets 40)) (by decide)
  exact ⟨s,seen,(volumes_bounded sampleSerde (fun _ => "") idle_initial).1 path⟩

-- A player is told to play at twice the documented maximum.
theorem level_dispatched : ¬ ∀ env origin actions s, Initial origin → Transition.Runs (Step env) origin actions s →
    VolumesBounded s := by
  intro all
  obtain ⟨s,path,seen⟩ := Transition.run_reaches (execute onEpochDay) idle (levelled 200)
    (fun s => s.journal.any (Event.sets 200)) (by decide)
  obtain ⟨event,listed,sets⟩ := List.any_eq_true.mp seen
  cases event with
  | sent receiver frame reservation =>
    cases frame with
    | deviceCommand command =>
      have bounded := all onEpochDay idle (levelled 200) s idle_initial path receiver command reservation listed
      rw [of_decide_eq_true sets] at bounded
      exact absurd bounded (by decide)
    | commandReceived | commandAccepted | commandResult => cases sets
  | reserved | completed => cases sets

end DeviceControl
