import RockServer.IntentSelectors

namespace DeviceControl

-- Which device a plan is for, and what the order of the directory decides.
def UserIntent.compatible? : UserIntent → Option (DirectoryDevice → Bool)
  | .playRadio _ _ => some radioDevice
  | .media action _ => some (mediaDevice action.commandBody)
  | .showSensors _ => some sensorDisplay
  | .showNowPlaying _ => some nowPlayingDevice
  | .querySensor _ _ | .actuator _ _ _ => none

-- The device alone meets all of this in the directory.
def OnlyOne (request : ResolutionRequest) (meets : DirectoryDevice → Prop) (device : DirectoryDevice) : Prop :=
  meets device ∧ ∀ other ∈ request.directory.devices, meets other → other = device

-- Why a device was chosen: the first selector that the request has decides.
inductive Preferred (request : ResolutionRequest) (target : Option IntentTarget) (compatible : DirectoryDevice → Bool)
    (device : DirectoryDevice) : Prop where
  | explicit (named : target.bind IntentTarget.deviceId = some device.deviceId)
  | surface (surfaceId : String) (unnamed : target.bind IntentTarget.deviceId = none)
      (shown : target.bind IntentTarget.surfaceId = some surfaceId)
      (only : OnlyOne request (fun other => compatible other = true ∧ inArea request target other = true ∧
        other.declares surfaceId = true) device)
  | current (unnamed : target.bind IntentTarget.deviceId = none) (unshown : target.bind IntentTarget.surfaceId = none)
      (stands : currentDevice request = some device.deviceId)
  | alone (unnamed : target.bind IntentTarget.deviceId = none) (unshown : target.bind IntentTarget.surfaceId = none)
      (unset : currentDevice request = none)
      (only : OnlyOne request (fun other => compatible other = true ∧ inArea request target other = true) device)

structure Grounded (request : ResolutionRequest) (target : Option IntentTarget) (compatible : DirectoryDevice → Bool)
    (deviceId : DeviceId) : Prop where
  device : ∃ device ∈ request.directory.devices, device.deviceId = deviceId ∧ device.online = true ∧
    compatible device = true ∧ inArea request target device = true ∧ Preferred request target compatible device

def IntentPlan.isFor (plan : IntentPlan) (deviceId : DeviceId) : Prop :=
  ∃ command, plan.commands = [command] ∧ command.target.deviceId = deviceId

-- The same answer, but for the order in which devices are offered.
inductive SameButOrder : ResolutionResult → ResolutionResult → Prop where
  | same {result} : SameButOrder result result
  | clarification {code deviceIds deviceIds' surfaceIds} (reordered : deviceIds.Perm deviceIds') :
      SameButOrder (.clarification ⟨code,deviceIds,surfaceIds⟩) (.clarification ⟨code,deviceIds',surfaceIds⟩)

def ResolutionRequest.reorder (request : ResolutionRequest) (devices : List DirectoryDevice) : ResolutionRequest :=
  {request with directory := {request.directory with devices := devices}}

section choice
variable {request : ResolutionRequest} {target : Option IntentTarget} {compatible : DirectoryDevice → Bool}
  {device : DirectoryDevice} {plan : IntentPlan}

theorem selected_preferred (selected : Selected request target compatible device) : Preferred request target compatible device := by
  have addressed := selected.addressed
  unfold DeviceControl.addressed at addressed
  rw [Bool.and_eq_true] at addressed
  obtain ⟨area,means⟩ := addressed
  cases named : target.bind IntentTarget.deviceId with
  | some deviceId =>
    simp only [named,decide_eq_true_eq] at means
    exact .explicit (named.trans (congrArg some means.symm))
  | none =>
    simp only [named] at means
    cases shown : target.bind IntentTarget.surfaceId with
    | some surfaceId =>
      simp only [shown] at means
      refine .surface surfaceId named shown ⟨⟨selected.compatible,area,means⟩,?_⟩
      rintro other listed ⟨fits,there,declares⟩
      have meant : DeviceControl.addressed request target other = true := by
        simp only [DeviceControl.addressed,named,shown,there,declares,Bool.and_self]
      exact selected.only other listed fits meant
    | none =>
      simp only [shown] at means
      cases stands : currentDevice request with
      | some deviceId =>
        simp only [stands,decide_eq_true_eq] at means
        exact .current named shown (stands.trans (congrArg some means.symm))
      | none =>
        refine .alone named shown stands ⟨⟨selected.compatible,area⟩,?_⟩
        rintro other listed ⟨fits,there⟩
        have meant : DeviceControl.addressed request target other = true := by
          simp only [DeviceControl.addressed,named,shown,stands,there,Bool.and_self]
        exact selected.only other listed fits meant

theorem selected_grounded (selected : Selected request target compatible device) (online : device.online = true) :
    Grounded request target compatible device.deviceId :=
  ⟨device,selected.listed,rfl,online,selected.compatible,(Bool.and_eq_true_iff.mp selected.addressed).1,
    selected_preferred selected⟩

-- A plan of any of the four kinds is for the selected device.
theorem plan_grounded {print : Json → String} {intent : UserIntent} (kind : intent.compatible? = some compatible)
    (resolved : request.resolve print intent = .plan plan) :
    ∃ deviceId, plan.isFor deviceId ∧ Grounded request intent.target compatible deviceId := by
  unfold ResolutionRequest.resolve at resolved
  split at resolved
  · cases resolved
  split at resolved
  · cases resolved
  cases intent with
  | playRadio stationId target =>
    cases kind
    obtain ⟨_,_,resolved⟩ := planned_bind checked_unplanned resolved
    obtain ⟨device,chosen,resolved⟩ := planned_bind selectDevice_unplanned resolved
    have selected := selectDevice_selected chosen
    have online := selected.compatible
    simp only [radioDevice,Bool.and_eq_true] at online
    cases resolved
    exact ⟨device.deviceId,⟨_,rfl,rfl⟩,selected_grounded selected online.1.1⟩
  | media action target =>
    cases kind
    obtain ⟨_,_,resolved⟩ := planned_bind checked_unplanned resolved
    obtain ⟨device,chosen,resolved⟩ := planned_bind selectDevice_unplanned resolved
    have selected := selectDevice_selected chosen
    have online := selected.compatible
    simp only [mediaDevice,Bool.and_eq_true] at online
    cases resolved
    exact ⟨device.deviceId,⟨_,rfl,rfl⟩,selected_grounded selected online.1⟩
  | showSensors target =>
    cases kind
    obtain ⟨_,_,resolved⟩ := planned_bind checked_unplanned resolved
    obtain ⟨_,_,resolved⟩ := planned_bind checked_unplanned resolved
    obtain ⟨device,chosen,resolved⟩ := planned_bind selectDevice_unplanned resolved
    obtain ⟨surface,_,resolved⟩ := planned_bind selectSurface_unplanned resolved
    have selected := selectDevice_selected chosen
    have online := selected.compatible
    simp only [sensorDisplay,Bool.and_eq_true] at online
    exact ⟨device.deviceId,⟨_,(displayPlan_planned resolved).2.2,rfl⟩,selected_grounded selected online.1.1⟩
  | showNowPlaying target =>
    cases kind
    obtain ⟨_,_,resolved⟩ := planned_bind checked_unplanned resolved
    obtain ⟨device,chosen,resolved⟩ := planned_bind selectDevice_unplanned resolved
    obtain ⟨surface,_,resolved⟩ := planned_bind selectSurface_unplanned resolved
    have selected := selectDevice_selected chosen
    have online := selected.compatible
    simp only [nowPlayingDevice,Bool.and_eq_true] at online
    split at resolved
    · split at resolved
      · cases resolved
      · exact ⟨device.deviceId,⟨_,(displayPlan_planned resolved).2.2,rfl⟩,selected_grounded selected online.1.1⟩
    · cases resolved
  | querySensor entityId target => cases kind
  | actuator action value target => cases kind

end choice

-- Two computations that stop with the same answer, but for the order, or both
-- go on with the same value.
inductive SameStep {A : Type} : Except ResolutionResult A → Except ResolutionResult A → Prop where
  | same {step} : SameStep step step
  | stopped {result result'} : SameButOrder result result' → SameStep (.error result) (.error result')

section order
variable {request : ResolutionRequest} {target : Option IntentTarget} {devices candidates candidates' : List DirectoryDevice}

theorem sameStep_bind {A : Type} {step step' : Except ResolutionResult A}
    {next next' : A → Except ResolutionResult ResolutionResult} (first : SameStep step step')
    (rest : ∀ a, SameStep (next a) (next' a)) : SameStep (step >>= next) (step' >>= next') := by
  cases first with
  | same =>
    cases step with
    | error result => exact .same
    | ok a => exact rest a
  | stopped alike => exact .stopped alike

theorem sameStep_from {step step' : Except ResolutionResult ResolutionResult} (alike : SameStep step step') :
    SameButOrder (.from step) (.from step') := by
  cases alike with
  | same => exact .same
  | stopped alike => exact alike

theorem uniqueDeviceIds_nodup (ids : List DeviceId) : (uniqueDeviceIds ids).Nodup := by
  have collected : ∀ (ids result : List DeviceId), result.Nodup →
      (ids.foldl (fun result id => if result.contains id then result else result ++ [id]) result).Nodup := by
    intro ids
    induction ids with
    | nil => exact fun _ kept => kept
    | cons id rest ih =>
      intro result kept
      rw [List.foldl_cons]
      apply ih
      split
      · exact kept
      · rename_i fresh
        refine List.nodup_append.mpr ⟨kept,List.nodup_singleton id,?_⟩
        intro a listed b one same
        rw [List.mem_singleton.mp one] at same
        exact fresh (List.contains_iff_mem.mpr (same ▸ listed))
  exact collected ids [] List.nodup_nil

theorem uniqueDeviceIds_perm {ids ids' : List DeviceId} (reordered : ids.Perm ids') :
    (uniqueDeviceIds ids).Perm (uniqueDeviceIds ids') := by
  rw [List.perm_ext_iff_of_nodup (uniqueDeviceIds_nodup ids) (uniqueDeviceIds_nodup ids')]
  intro id
  rw [uniqueDeviceIds_mem,uniqueDeviceIds_mem]
  exact reordered.mem_iff

theorem chooseOne_order {code : ClarificationCode} (reordered : candidates.Perm candidates') :
    SameStep (chooseOne candidates code) (chooseOne candidates' code) := by
  match candidates,candidates',reordered with
  | [],_,reordered =>
    cases reordered.nil_eq
    exact .same
  | [device],_,reordered =>
    cases List.singleton_perm.mp reordered
    exact .same
  | first :: second :: rest,others,reordered =>
    match others,reordered with
    | [],reordered => exact absurd reordered.length_eq (by simp)
    | [_],reordered => exact absurd reordered.length_eq (by simp)
    | _ :: _ :: _,reordered =>
      exact .stopped (.clarification (uniqueDeviceIds_perm (reordered.map DirectoryDevice.deviceId)))

-- With distinct ids a search by id finds the same device in any order.
theorem find_order {deviceId : DeviceId} (distinct : (request.directory.devices.map DirectoryDevice.deviceId).Nodup)
    (reordered : request.directory.devices.Perm devices) :
    (request.directory.devices.find? fun device => device.deviceId = deviceId) =
      devices.find? fun device => device.deviceId = deviceId := by
  cases found : request.directory.devices.find? fun device => decide (device.deviceId = deviceId) with
  | some device =>
    have same : device.deviceId = deviceId := by simpa using List.find?_some found
    have listed := reordered.mem_iff.mp (List.mem_of_find?_eq_some found)
    rw [← same]
    exact (find_distinct ((reordered.map DirectoryDevice.deviceId).nodup distinct) listed).symm
  | none =>
    refine (List.find?_eq_none.mpr fun device listed => ?_).symm
    exact List.find?_eq_none.mp found device (reordered.mem_iff.mpr listed)

theorem chooseExact_order {deviceId : DeviceId} (distinct : (request.directory.devices.map DirectoryDevice.deviceId).Nodup)
    (reordered : request.directory.devices.Perm devices) (narrowed : candidates.Perm candidates') :
    SameStep (chooseExact request candidates deviceId) (chooseExact (request.reorder devices) candidates' deviceId) := by
  have found := narrowed.filter fun device => decide (device.deviceId = deviceId)
  unfold chooseExact
  dsimp only
  rw [found.isEmpty_eq]
  split
  · rw [find_order distinct reordered]
    exact .same
  · exact chooseOne_order found

theorem compatible_order (predicate : DirectoryDevice → Bool) (reordered : request.directory.devices.Perm devices) :
    (compatibleDevices request target predicate).Perm (compatibleDevices (request.reorder devices) target predicate) :=
  (reordered.filter predicate).filter (inArea request target)

theorem selectDevice_order (distinct : (request.directory.devices.map DirectoryDevice.deviceId).Nodup)
    (reordered : request.directory.devices.Perm devices) (narrowed : candidates.Perm candidates') :
    SameStep (selectDevice request target candidates) (selectDevice (request.reorder devices) target candidates') := by
  have area : canonicalAreaDevices (request.reorder devices) = canonicalAreaDevices request := rfl
  have current : currentDevice (request.reorder devices) = currentDevice request := rfl
  unfold selectDevice
  rw [area,current]
  split
  · exact .same
  split
  · exact chooseExact_order distinct reordered narrowed
  split
  · exact chooseOne_order (narrowed.filter _)
  split
  · exact chooseExact_order distinct reordered narrowed
  · exact chooseOne_order narrowed

-- After the device is chosen nothing looks at the directory again.
theorem resolve_order (print : Json → String) {intent : UserIntent} {compatible : DirectoryDevice → Bool}
    (kind : intent.compatible? = some compatible) (distinct : (request.directory.devices.map DirectoryDevice.deviceId).Nodup)
    (reordered : request.directory.devices.Perm devices) :
    SameButOrder (request.resolve print intent) ((request.reorder devices).resolve print intent) := by
  have chosen (target : Option IntentTarget) (predicate : DirectoryDevice → Bool) :
      SameStep (selectDevice request target (compatibleDevices request target predicate))
        (selectDevice (request.reorder devices) target (compatibleDevices (request.reorder devices) target predicate)) :=
    selectDevice_order distinct reordered (compatible_order predicate reordered)
  unfold ResolutionRequest.resolve
  split
  · exact .same
  · change SameButOrder _ (if request.actor.userId ≠ request.directory.ownerId then _ else _)
    split
    · exact .same
    · apply sameStep_from
      cases intent with
      | playRadio stationId target =>
        exact sameStep_bind .same fun _ => sameStep_bind (chosen target _) fun _ => .same
      | media action target =>
        exact sameStep_bind .same fun _ => sameStep_bind (chosen target _) fun _ => .same
      | showSensors target =>
        exact sameStep_bind .same fun _ => sameStep_bind .same fun _ => sameStep_bind (chosen target _) fun _ => .same
      | showNowPlaying target =>
        exact sameStep_bind .same fun _ => sameStep_bind (chosen target _) fun _ => .same
      | querySensor entityId target => cases kind
      | actuator action value target => cases kind

end order

-- Whatever the selectors, a plan is for the one device that the first of them
-- leaves, and the order of the directory changes only in which order devices
-- are offered.
theorem resolver_grounded (print : Json → String) {request : ResolutionRequest} {intent : UserIntent}
    {compatible : DirectoryDevice → Bool} (kind : intent.compatible? = some compatible)
    (distinct : (request.directory.devices.map DirectoryDevice.deviceId).Nodup) :
    (∀ plan, request.resolve print intent = .plan plan →
      ∃ deviceId, plan.isFor deviceId ∧ Grounded request intent.target compatible deviceId) ∧
    ∀ devices, request.directory.devices.Perm devices →
      SameButOrder (request.resolve print intent) ((request.reorder devices).resolve print intent) :=
  ⟨fun _ resolved => plan_grounded kind resolved,fun _ reordered => resolve_order print kind distinct reordered⟩

-- Two players, one of them in the kitchen.
def kitchenPlayer : DirectoryDevice := {radioPlayer [catalogStationSource] with deviceId := ⟨3⟩}

def householdRequest : ResolutionRequest :=
  {radioRequest [catalogStationSource] with
    directory := ⟨1,[radioPlayer [catalogStationSource],kitchenPlayer]⟩,context := ⟨none,[⟨"kitchen",[⟨3⟩]⟩]⟩}

def inKitchen : Option IntentTarget := some ⟨none,none,some "kitchen"⟩

def kitchenPlan : IntentPlan := {radioPlan with commands := [⟨⟨7⟩,⟨⟨3⟩,none,none⟩,none,.playStation "radio"⟩]}

theorem resolver_grounded_kitchen :
    (∃ deviceId, kitchenPlan.isFor deviceId ∧ Grounded householdRequest inKitchen radioDevice deviceId) ∧
    householdRequest.resolve (fun _ => "") (.playRadio "radio" none) = .clarification ⟨.ambiguousTarget,[⟨2⟩,⟨3⟩],[]⟩ ∧
    SameButOrder (householdRequest.resolve (fun _ => "") (.playRadio "radio" none))
      ((householdRequest.reorder [kitchenPlayer,radioPlayer [catalogStationSource]]).resolve (fun _ => "") (.playRadio "radio" none)) :=
  ⟨(@resolver_grounded (fun _ => "") householdRequest (.playRadio "radio" inKitchen) radioDevice rfl (by decide)).1 kitchenPlan rfl,
    rfl,(@resolver_grounded (fun _ => "") householdRequest (.playRadio "radio" none) radioDevice rfl (by decide)).2 _ (.swap _ _ _)⟩

end DeviceControl
