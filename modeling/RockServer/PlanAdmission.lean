import RockServer.IntentResolution

namespace DeviceControl

-- Plans of the resolver against the checks that admit a command.
def UserIntent.target : UserIntent → Option IntentTarget
  | .playRadio _ target | .showSensors target | .querySensor _ target | .media _ target | .showNowPlaying target => target
  | .actuator _ _ target => some ⟨some target.deviceId,none,none⟩

-- The device a request means: its selectors in the order in which they count.
def addressed (request : ResolutionRequest) (target : Option IntentTarget) (device : DirectoryDevice) : Bool :=
  inArea request target device && match target.bind IntentTarget.deviceId with
    | some deviceId => device.deviceId = deviceId
    | none => match target.bind IntentTarget.surfaceId with
      | some surfaceId => device.declares surfaceId
      | none => match currentDevice request with
        | some deviceId => device.deviceId = deviceId
        | none => true

structure Admissible (request : ResolutionRequest) (target : Option IntentTarget) (command : DeviceCommand) : Prop where
  valid : command.validateAt request.receivedAt = .ok ()
  executable : command.executable = .ok ()
  scope : requiredScope command.body ∈ request.actor.scopes
  supported : ∃ device ∈ request.directory.devices, device.online = true ∧ addressed request target device = true ∧
    device.deviceId = command.target.deviceId ∧ validateTarget command device.manifest = .ok ()

def listsCatalog (device : DirectoryDevice) : Bool := hasCapability device.manifest (stationCapability catalogStationSource)

section selection
variable {request : ResolutionRequest} {target : Option IntentTarget} {predicate : DirectoryDevice → Bool}
  {candidates : List DirectoryDevice} {device : DirectoryDevice}

theorem chooseOne_ok {code : ClarificationCode} (chosen : chooseOne candidates code = .ok device) : candidates = [device] := by
  unfold chooseOne at chosen
  split at chosen
  · cases chosen
    rfl
  · cases chosen
  · cases chosen

theorem chooseExact_ok {deviceId : DeviceId} (chosen : chooseExact request candidates deviceId = .ok device) :
    candidates.filter (fun device => device.deviceId = deviceId) = [device] := by
  unfold chooseExact at chosen
  dsimp only at chosen
  split at chosen
  · cases chosen
  · exact chooseOne_ok chosen

-- A selected device is the only one that is compatible and addressed.
theorem selectDevice_ok (selected : selectDevice request target (compatibleDevices request target predicate) = .ok device) :
    request.directory.devices.filter (fun device => predicate device && addressed request target device) = [device] := by
  have narrowed : ∀ {last : DirectoryDevice → Bool},
      (compatibleDevices request target predicate).filter last = [device] →
      (∀ device, addressed request target device = (inArea request target device && last device)) →
      request.directory.devices.filter (fun device => predicate device && addressed request target device) = [device] := by
    intro last one same
    rw [← one,compatibleDevices,List.filter_filter,List.filter_filter]
    refine List.filter_congr fun device _ => ?_
    rw [same]
    cases predicate device <;> cases inArea request target device <;> cases last device <;> rfl
  unfold selectDevice at selected
  split at selected
  · cases selected
  split at selected
  · rename_i deviceId explicit
    refine narrowed (chooseExact_ok selected) fun device => ?_
    simp only [addressed,explicit]
  rename_i implicit
  split at selected
  · rename_i surfaceId surface
    refine narrowed (chooseOne_ok selected) fun device => ?_
    simp only [addressed,implicit,surface]
  rename_i anywhere
  split at selected
  · rename_i deviceId current
    refine narrowed (chooseExact_ok selected) fun device => ?_
    simp only [addressed,implicit,anywhere,current]
  · rename_i unset
    have one : (compatibleDevices request target predicate).filter (fun _ => true) = [device] := by
      rw [List.filter_true]
      exact chooseOne_ok selected
    refine narrowed one fun device => ?_
    simp only [addressed,implicit,anywhere,unset]

structure Selected (request : ResolutionRequest) (target : Option IntentTarget) (predicate : DirectoryDevice → Bool)
    (device : DirectoryDevice) : Prop where
  listed : device ∈ request.directory.devices
  compatible : predicate device = true
  addressed : addressed request target device = true
  only : ∀ other ∈ request.directory.devices, predicate other = true → DeviceControl.addressed request target other = true →
    other = device

theorem selectDevice_selected
    (selected : selectDevice request target (compatibleDevices request target predicate) = .ok device) :
    Selected request target predicate device := by
  have one := selectDevice_ok selected
  have listed : device ∈ request.directory.devices.filter fun device =>
      predicate device && addressed request target device := by
    rw [one]
    exact List.mem_singleton_self device
  obtain ⟨listed,both⟩ := List.mem_filter.mp listed
  obtain ⟨compatible,meant⟩ := Bool.and_eq_true_iff.mp both
  refine ⟨listed,compatible,meant,fun other present fits means => ?_⟩
  have kept : other ∈ request.directory.devices.filter fun device => predicate device && addressed request target device :=
    List.mem_filter.mpr ⟨present,Bool.and_eq_true_iff.mpr ⟨fits,means⟩⟩
  rw [one] at kept
  exact List.mem_singleton.mp kept

structure Shows (device : DirectoryDevice) (view : ViewKind) (surface : Surface) : Prop where
  listed : surface ∈ device.manifest.surfaces
  kind : surface.kind = .display

theorem selectSurface_shows {view : ViewKind} {surface : Surface}
    (selected : selectSurface request target device view = .ok surface) : Shows device view surface := by
  unfold selectSurface at selected
  dsimp only at selected
  split at selected
  · rename_i one
    cases selected
    have listed := (List.mem_filter.mp (List.mem_of_mem_filter (one ▸ List.mem_singleton_self surface)))
    simp only [Bool.and_eq_true,decide_eq_true_eq] at listed
    exact ⟨listed.1,listed.2.1⟩
  · cases selected
  · cases selected

end selection
section plans
variable {request : ResolutionRequest} {target : Option IntentTarget}

-- A step that stops the resolution stops it without a plan.
def Unplanned {A : Type} (step : Except ResolutionResult A) : Prop := ∀ plan, step ≠ .error (.plan plan)

theorem planned_bind {A : Type} {step : Except ResolutionResult A} {next : A → Except ResolutionResult ResolutionResult}
    {plan : IntentPlan} (unplanned : Unplanned step) (planned : .from (step >>= next) = ResolutionResult.plan plan) :
    ∃ a, step = .ok a ∧ .from (next a) = ResolutionResult.plan plan := by
  cases step with
  | error result =>
    change result = .plan plan at planned
    exact absurd (congrArg Except.error planned) (unplanned plan)
  | ok a => exact ⟨a,rfl,planned⟩

theorem checked_unplanned {A : Type} {checks : Except IntentError A} : Unplanned (checked checks) := by
  intro plan stopped
  cases checks with
  | error error => cases stopped
  | ok a => cases stopped

theorem chooseOne_unplanned {candidates : List DirectoryDevice} {code : ClarificationCode} :
    Unplanned (chooseOne candidates code) := by
  intro plan stopped
  unfold chooseOne at stopped
  split at stopped
  all_goals cases stopped

theorem chooseExact_unplanned {candidates : List DirectoryDevice} {deviceId : DeviceId} :
    Unplanned (chooseExact request candidates deviceId) := by
  intro plan stopped
  unfold chooseExact at stopped
  dsimp only at stopped
  split at stopped
  · cases stopped
  · exact chooseOne_unplanned plan stopped

theorem selectDevice_unplanned {candidates : List DirectoryDevice} : Unplanned (selectDevice request target candidates) := by
  intro plan stopped
  unfold selectDevice at stopped
  split at stopped
  · cases stopped
  split at stopped
  · exact chooseExact_unplanned plan stopped
  split at stopped
  · exact chooseOne_unplanned plan stopped
  split at stopped
  · exact chooseExact_unplanned plan stopped
  · exact chooseOne_unplanned plan stopped

theorem selectSurface_unplanned {device : DirectoryDevice} {view : ViewKind} :
    Unplanned (selectSurface request target device view) := by
  intro plan stopped
  unfold selectSurface at stopped
  dsimp only at stopped
  split at stopped
  all_goals cases stopped

theorem scope_held {scope : DeviceControlScope} {done : Unit} (held : checked (requireScope request scope) = .ok done) :
    scope ∈ request.actor.scopes := by
  unfold requireScope at held
  split at held
  · rename_i listed
    exact List.contains_iff_mem.mp listed
  · cases held

theorem requireRoleCapability_ok {manifest : DeviceManifest} {role : DeviceRole} {capability : DeviceCapability → Bool} :
    requireRoleCapability manifest role capability = .ok () ↔
      hasRole manifest role = true ∧ hasCapability manifest capability = true := by
  unfold requireRoleCapability hasRole hasCapability
  rw [List.contains_iff_mem]
  split
  · rename_i both
    exact iff_of_true rfl both
  · rename_i missing
    exact iff_of_false (by simp) missing

theorem boundedId_ok {value field : String} (accepted : boundedId value field = .ok ()) (other : String) :
    bounded value 1 128 other = .ok () := by
  unfold boundedId at accepted
  split at accepted
  · cases accepted
  · rename_i inside
    simp only [Bool.or_eq_true,decide_eq_true_eq,not_or,Nat.not_lt,String.isEmpty_iff] at inside
    have some_ : value.utf8ByteSize ≠ 0 := fun zero => inside.1 (String.utf8ByteSize_eq_zero_iff.mp zero)
    exact if_pos ⟨by omega,inside.2⟩

theorem supported_executable {command : DeviceCommand} {manifest : DeviceManifest}
    (supported : validateTarget command manifest = .ok ()) : command.executable = .ok () := by
  unfold validateTarget at supported
  unfold DeviceCommand.executable
  split
  · rename_i unknown
    rw [unknown] at supported
    cases supported
  · rfl

-- The command a plan makes of a body for a selected device.
def planned (request : ResolutionRequest) (device : DirectoryDevice) (surface : Option Surface) (body : CommandBody) :
    DeviceCommand := ⟨request.commandId,⟨device.deviceId,none,surface.map Surface.surfaceId⟩,none,body⟩

theorem admissible_of {device : DirectoryDevice} {predicate : DirectoryDevice → Bool} {surface : Option Surface}
    {body : CommandBody} (selected : Selected request target predicate device) (online : device.online = true)
    (valid : body.validate = .ok ()) (scope : requiredScope body ∈ request.actor.scopes)
    (supported : validateTarget (planned request device surface body) device.manifest = .ok ()) :
    Admissible request target (planned request device surface body) := by
  refine ⟨validateAt_iff.mpr ⟨rfl,fun deadline present => ?_,valid⟩,supported_executable supported,scope,?_⟩
  · cases present
  · exact ⟨device,selected.listed,online,selected.addressed,rfl,supported⟩

theorem radio_supported {device : DirectoryDevice} {command : DeviceCommand} {stationId : String}
    (radio : command.body = .playStation stationId) :
    validateTarget command device.manifest = .ok () ↔ hasRole device.manifest .player = true ∧ listsCatalog device = true := by
  unfold validateTarget
  rw [radio]
  exact requireRoleCapability_ok

theorem listsCatalog_station {device : DirectoryDevice} (lists : listsCatalog device = true) :
    hasCapability device.manifest anyStation = true := by
  obtain ⟨capability,listed,station⟩ := List.any_eq_true.mp lists
  refine List.any_eq_true.mpr ⟨capability,listed,?_⟩
  cases capability with
  | station sources => rfl
  | _ => cases station

-- A radio plan is admissible exactly if the selected player lists the catalog.
theorem radio_admissible_iff {device : DirectoryDevice} {stationId : String}
    (selected : Selected request target radioDevice device) (valid : (CommandBody.playStation stationId).validate = .ok ())
    (scope : DeviceControlScope.mediaControl ∈ request.actor.scopes) :
    Admissible request target (planned request device none (.playStation stationId)) ↔ listsCatalog device = true := by
  have online : device.online = true ∧ hasRole device.manifest .player = true := by
    have compatible := selected.compatible
    simp only [radioDevice,Bool.and_eq_true] at compatible
    exact compatible.1
  constructor
  · rintro ⟨_,_,_,other,listed,up,means,_,supported⟩
    obtain ⟨player,lists⟩ := (radio_supported rfl).mp supported
    have compatible : radioDevice other = true := by
      simp only [radioDevice,up,player,listsCatalog_station lists,Bool.and_self]
    cases selected.only other listed compatible means
    exact lists
  · intro lists
    exact admissible_of selected online.1 valid scope ((radio_supported rfl).mpr ⟨online.2,lists⟩)

theorem media_admissible {device : DirectoryDevice} {action : MediaIntentAction}
    (selected : Selected request target (mediaDevice action.commandBody) device) (valid : action.validate = .ok ())
    (scope : DeviceControlScope.mediaControl ∈ request.actor.scopes) :
    Admissible request target (planned request device none action.commandBody) := by
  have compatible := selected.compatible
  simp only [mediaDevice,mediaSupported,Bool.and_eq_true] at compatible
  obtain ⟨online,player,capable⟩ := compatible
  have bodyValid : action.commandBody.validate = .ok () := by
    cases action with
    | changeVolume delta =>
      change (if delta = 0 then Except.error (IntentError.invalid "delta") else .ok ()) = _ at valid
      split at valid
      · cases valid
      · rename_i changed
        exact if_pos changed
    | _ => rfl
  have granted : requiredScope action.commandBody ∈ request.actor.scopes := by
    cases action <;> exact scope
  refine admissible_of selected online bodyValid granted ?_
  cases action <;> exact requireRoleCapability_ok.mpr ⟨player,capable⟩

theorem display_supported {device : DirectoryDevice} {surface : Surface} {view : ViewKind} {presentation : Presentation}
    (valid : device.manifest.validate = .ok ()) (shows : Shows device view surface)
    (role : hasRole device.manifest .displaySurface = true) (supported : presentationSupported device.manifest presentation = true) :
    validateTarget (planned request device (some surface) (.display presentation)) device.manifest = .ok () := by
  have found : device.manifest.surfaces.find? (fun other => other.surfaceId = surface.surfaceId) = some surface :=
    find_distinct (manifest_distinct valid).2.2.2 shows.listed
  unfold presentationSupported at supported
  have listed : DeviceRole.displaySurface ∈ device.manifest.roles := List.contains_iff_mem.mp role
  simp only [validateTarget,planned,Option.map_some,found,shows.kind,ne_eq,not_true_eq_false,if_false]
  exact if_pos ⟨listed,supported⟩

theorem displayPlan_planned {device : DirectoryDevice} {surface : Surface} {presentation : Presentation} {plan : IntentPlan}
    (resolved : .from (displayPlan request device surface presentation) = ResolutionResult.plan plan) :
    presentation.validate = .ok () ∧ presentationSupported device.manifest presentation = true ∧
      plan.commands = [planned request device (some surface) (.display presentation)] := by
  unfold displayPlan at resolved
  split at resolved
  · cases resolved
  · rename_i passed
    simp only [Bool.or_eq_true,Bool.not_eq_true',not_or,Bool.not_eq_false] at passed
    cases resolved
    refine ⟨?_,passed.2,rfl⟩
    cases checks : presentation.validate with
    | error error =>
      rw [checks] at passed
      cases passed.1
    | ok done => rfl

theorem display_admissible {device : DirectoryDevice} {predicate : DirectoryDevice → Bool} {surface : Surface} {view : ViewKind}
    {presentation : Presentation} {plan : IntentPlan} (valid : device.manifest.validate = .ok ())
    (selected : Selected request target predicate device) (online : device.online = true)
    (role : hasRole device.manifest .displaySurface = true) (shows : Shows device view surface)
    (scope : DeviceControlScope.displayControl ∈ request.actor.scopes)
    (resolved : .from (displayPlan request device surface presentation) = ResolutionResult.plan plan) :
    ∀ command ∈ plan.commands, Admissible request target command := by
  obtain ⟨checks,supported,commands⟩ := displayPlan_planned resolved
  rw [commands]
  intro command listed
  rw [List.mem_singleton.mp listed]
  exact admissible_of selected online checks scope (display_supported valid shows role supported)

end plans

section resolvers
variable {print : Json → String} {request : ResolutionRequest} {target : Option IntentTarget} {plan : IntentPlan}

theorem sensors_admissible (valid : ∀ device ∈ request.directory.devices, device.manifest.validate = .ok ())
    (resolved : .from (resolveSensors request target) = ResolutionResult.plan plan) :
    ∀ command ∈ plan.commands, Admissible request target command := by
  obtain ⟨_,_,resolved⟩ := planned_bind checked_unplanned resolved
  obtain ⟨_,scope,resolved⟩ := planned_bind checked_unplanned resolved
  obtain ⟨device,chosen,resolved⟩ := planned_bind selectDevice_unplanned resolved
  obtain ⟨surface,shown,resolved⟩ := planned_bind selectSurface_unplanned resolved
  have selected := selectDevice_selected chosen
  have compatible := selected.compatible
  simp only [sensorDisplay,displayCapable,Bool.and_eq_true] at compatible
  exact display_admissible (valid device selected.listed) selected compatible.1.1 compatible.2.1 (selectSurface_shows shown)
    (scope_held scope) resolved

theorem nowPlaying_admissible (valid : ∀ device ∈ request.directory.devices, device.manifest.validate = .ok ())
    (resolved : .from (resolveNowPlaying request target) = ResolutionResult.plan plan) :
    ∀ command ∈ plan.commands, Admissible request target command := by
  obtain ⟨_,scope,resolved⟩ := planned_bind checked_unplanned resolved
  obtain ⟨device,chosen,resolved⟩ := planned_bind selectDevice_unplanned resolved
  obtain ⟨surface,shown,resolved⟩ := planned_bind selectSurface_unplanned resolved
  have selected := selectDevice_selected chosen
  have compatible := selected.compatible
  simp only [nowPlayingDevice,displayCapable,Bool.and_eq_true] at compatible
  split at resolved
  · split at resolved
    · cases resolved
    · exact display_admissible (valid device selected.listed) selected compatible.1.1 compatible.1.2.1
        (selectSurface_shows shown) (scope_held scope) resolved
  · cases resolved

theorem media_plans {action : MediaIntentAction} (valid : action.validate = .ok ())
    (resolved : .from (resolveMedia request action target) = ResolutionResult.plan plan) :
    ∀ command ∈ plan.commands, Admissible request target command := by
  obtain ⟨_,scope,resolved⟩ := planned_bind checked_unplanned resolved
  obtain ⟨device,chosen,resolved⟩ := planned_bind selectDevice_unplanned resolved
  cases resolved
  intro command listed
  rw [List.mem_singleton.mp listed]
  exact media_admissible (selectDevice_selected chosen) valid (scope_held scope)

theorem sensorQuery_commands {entityId : Option String}
    (resolved : .from (resolveSensorQuery print request entityId target) = ResolutionResult.plan plan) : plan.commands = [] := by
  obtain ⟨_,_,resolved⟩ := planned_bind checked_unplanned resolved
  unfold answerQuery at resolved
  split at resolved
  · cases resolved
  · unfold sensorAnswer at resolved
    split at resolved
    · cases resolved
    · split at resolved
      dsimp only at resolved
      split at resolved
      · cases resolved
      · cases resolved
        rfl
  · cases resolved

theorem actuator_unplanned {action : ActuatorAction} {value : Option F64} {target : ActuatorTarget} :
    .from (resolveActuator request action value target) ≠ ResolutionResult.plan plan := by
  intro resolved
  obtain ⟨_,_,resolved⟩ := planned_bind checked_unplanned resolved
  split at resolved
  · cases resolved
  split at resolved
  · cases resolved
  split at resolved
  · cases resolved
  split at resolved
  · cases resolved
  split at resolved
  · cases resolved
  · cases resolved

theorem radio_plans {stationId : String} (valid : (CommandBody.playStation stationId).validate = .ok ())
    (resolved : .from (resolveRadio request stationId target) = ResolutionResult.plan plan) :
    (∀ command ∈ plan.commands, Admissible request target command) ↔
      ∀ device ∈ request.directory.devices, radioDevice device = true → addressed request target device = true →
        listsCatalog device = true := by
  obtain ⟨_,scope,resolved⟩ := planned_bind checked_unplanned resolved
  obtain ⟨device,chosen,resolved⟩ := planned_bind selectDevice_unplanned resolved
  have selected := selectDevice_selected chosen
  have admissible := radio_admissible_iff selected valid (scope_held scope)
  cases resolved
  constructor
  · intro all other listed compatible means
    cases selected.only other listed compatible means
    exact admissible.mp (all _ (List.mem_singleton_self _))
  · intro all command listed
    rw [List.mem_singleton.mp listed]
    exact admissible.mpr (all device selected.listed selected.compatible selected.addressed)

end resolvers

-- The commands of a plan are admissible exactly if a radio plan's player, the
-- only one that is compatible and addressed, lists the catalog as a source.
theorem plans_admissible_iff (print : Json → String) {request : ResolutionRequest} {intent : UserIntent} {plan : IntentPlan}
    (valid : ∀ device ∈ request.directory.devices, device.manifest.validate = .ok ())
    (resolved : request.resolve print intent = .plan plan) :
    (∀ command ∈ plan.commands, Admissible request intent.target command) ↔
      ∀ stationId target, intent = .playRadio stationId target → ∀ device ∈ request.directory.devices,
        radioDevice device = true → addressed request target device = true → listsCatalog device = true := by
  unfold ResolutionRequest.resolve at resolved
  split at resolved
  · cases resolved
  rename_i checks
  split at resolved
  · cases resolved
  cases intent with
  | playRadio stationId target =>
    have bounds : (CommandBody.playStation stationId).validate = .ok () := by
      obtain ⟨_,bounds,_⟩ := bind_done checks
      exact boundedId_ok bounds _
    have exact_ := radio_plans bounds resolved
    constructor
    · rintro all _ _ ⟨⟩
      exact exact_.mp all
    · intro all
      exact exact_.mpr (all stationId target rfl)
  | showSensors target => exact iff_of_true (sensors_admissible valid resolved) fun _ _ other => nomatch other
  | querySensor entityId target =>
    refine iff_of_true (fun command listed => ?_) fun _ _ other => nomatch other
    rw [sensorQuery_commands resolved] at listed
    cases listed
  | media action target =>
    refine iff_of_true ?_ fun _ _ other => nomatch other
    obtain ⟨_,accepted,_⟩ := bind_done checks
    exact media_plans accepted resolved
  | showNowPlaying target => exact iff_of_true (nowPlaying_admissible valid resolved) fun _ _ other => nomatch other
  | actuator action value target => exact absurd resolved actuator_unplanned

def radioPlayer (sources : List String) : DirectoryDevice :=
  ⟨⟨2⟩,⟨1,[.player],⟨1,[.station sources]⟩,[],[]⟩,true,none,[]⟩

def radioRequest (sources : List String) : ResolutionRequest :=
  ⟨⟨1,[.mediaControl]⟩,⟨1,[radioPlayer sources]⟩,⟨7⟩,⟨"1970-01-01T00:00:00Z",0⟩,⟨none,[]⟩⟩

def radioPlan : IntentPlan := ⟨none,[⟨⟨7⟩,⟨⟨2⟩,none,none⟩,none,.playStation "radio"⟩],none⟩

theorem radioRequest_valid (sources : List String) (short : (radioPlayer sources).manifest.validate = .ok ()) :
    ∀ device ∈ (radioRequest sources).directory.devices, device.manifest.validate = .ok () := by
  intro device listed
  rw [List.mem_singleton.mp listed]
  exact short

theorem plans_admissible_iff_catalog : radioPlan.commands.length = 1 ∧ ∀ command ∈ radioPlan.commands,
    Admissible (radioRequest [catalogStationSource]) none command := by
  refine ⟨rfl,?_⟩
  have resolved : (radioRequest [catalogStationSource]).resolve (fun _ => "") (.playRadio "radio" none) = .plan radioPlan := rfl
  refine (plans_admissible_iff _ (radioRequest_valid _ (by decide)) resolved).mpr ?_
  rintro _ _ ⟨⟩ device listed _ _
  rw [List.mem_singleton.mp listed]
  decide

-- A player of direct streams alone is planned for a catalog station.
theorem direct_player_planned :
    (radioPlayer [directStationSource]).manifest.validate = .ok () ∧
    (radioRequest [directStationSource]).resolve (fun _ => "") (.playRadio "radio" none) = .plan radioPlan ∧
    ¬ ∀ command ∈ radioPlan.commands, Admissible (radioRequest [directStationSource]) none command := by
  refine ⟨by decide,rfl,fun all => ?_⟩
  obtain ⟨device,listed,_,_,_,supported⟩ := (all _ (List.mem_singleton_self _)).supported
  rw [List.mem_singleton.mp listed] at supported
  exact absurd supported (by decide)

end DeviceControl
