import RockServer.PlanAdmission

namespace DeviceControl

-- Which devices an answer of the resolver is about, against the selectors of
-- its intent.
def ResolutionResult.concerns : ResolutionResult → List DeviceId
  | .plan made => made.commands.map (fun command => command.target.deviceId) ++ made.shown.toList
  | .clarification asked => asked.deviceIds
  | .confirmation asked => [asked.target.deviceId]
  | .error _ => []

def UserIntent.scopes : UserIntent → List DeviceControlScope
  | .playRadio _ _ | .media _ _ => [.mediaControl]
  | .showSensors _ => [.entityStateRead,.displayControl]
  | .querySensor _ _ => [.entityStateRead]
  | .showNowPlaying _ => [.displayControl]
  | .actuator _ _ _ => [.actuatorControl]

-- The error of validation, ownership or scope that comes before any selector.
def refusedEarlier (request : ResolutionRequest) (intent : UserIntent) : Option IntentError :=
  match intent.validate with
  | .error error => some error
  | .ok () =>
    if request.actor.userId ≠ request.directory.ownerId then some (.ofCode .forbidden)
    else if intent.scopes.all fun scope => request.actor.scopes.contains scope then none
    else some (.ofCode .forbidden)

section concerns
variable {request : ResolutionRequest} {target : Option IntentTarget} {candidates : List DirectoryDevice}
  {deviceId : DeviceId} {result : ResolutionResult} {device : DirectoryDevice}

theorem uniqueDeviceIds_mem (ids : List DeviceId) (id : DeviceId) : id ∈ uniqueDeviceIds ids ↔ id ∈ ids := by
  have collected : ∀ (ids result : List DeviceId),
      id ∈ ids.foldl (fun result id => if result.contains id then result else result ++ [id]) result ↔
        id ∈ result ∨ id ∈ ids := by
    intro ids
    induction ids with
    | nil => simp
    | cons other rest ih =>
      intro result
      rw [List.foldl_cons,ih,List.mem_cons]
      split
      · rename_i known
        have listed := List.contains_iff_mem.mp known
        constructor
        · rintro (earlier | later)
          · exact .inl earlier
          · exact .inr (.inr later)
        · rintro (earlier | rfl | later)
          · exact .inl earlier
          · exact .inl listed
          · exact .inr later
      · rw [List.mem_append,List.mem_singleton,or_assoc]
  have all := collected ids []
  rw [uniqueDeviceIds,all]
  simp

def About (deviceId : DeviceId) (result : ResolutionResult) : Prop := ∀ id ∈ result.concerns, id = deviceId

theorem about_bind {A : Type} {step : Except ResolutionResult A} {next : A → Except ResolutionResult ResolutionResult}
    (stops : ∀ result, step = .error result → About deviceId result)
    (goes : ∀ a, step = .ok a → About deviceId (.from (next a))) : About deviceId (.from (step >>= next)) := by
  cases step with
  | error result => exact stops result rfl
  | ok a => exact goes a rfl

theorem about_nobody (nobody : result.concerns = []) : About deviceId result := by
  intro id listed
  rw [nobody] at listed
  cases listed

theorem about_checked {A : Type} {checks : Except IntentError A} (stopped : checked checks = .error result) :
    About deviceId result := by
  cases checks with
  | error error =>
    cases stopped
    exact about_nobody rfl
  | ok a => cases stopped

theorem about_chooseOne {code : ClarificationCode} (all : ∀ device ∈ candidates, device.deviceId = deviceId)
    (stopped : chooseOne candidates code = .error result) : About deviceId result := by
  unfold chooseOne at stopped
  split at stopped
  · cases stopped
  · cases stopped
    exact about_nobody rfl
  · cases stopped
    intro id listed
    change id ∈ uniqueDeviceIds _ at listed
    obtain ⟨device,present,rfl⟩ := List.mem_map.mp ((uniqueDeviceIds_mem _ _).mp listed)
    exact all device present

-- An explicit device is the only one a selection can be about.
theorem about_select (explicit : target.bind IntentTarget.deviceId = some deviceId)
    (stopped : selectDevice request target candidates = .error result) : About deviceId result := by
  unfold selectDevice at stopped
  split at stopped
  · cases stopped
    exact about_nobody rfl
  rw [explicit] at stopped
  change chooseExact request candidates deviceId = .error result at stopped
  unfold chooseExact at stopped
  dsimp only at stopped
  split at stopped
  · cases stopped
    exact about_nobody rfl
  · refine about_chooseOne (fun device listed => ?_) stopped
    simpa using (List.mem_filter.mp listed).2

theorem selected_explicit {predicate : DirectoryDevice → Bool} (explicit : target.bind IntentTarget.deviceId = some deviceId)
    (selected : Selected request target predicate device) : device.deviceId = deviceId := by
  have meant := selected.addressed
  simp only [addressed,explicit,Bool.and_eq_true,decide_eq_true_eq] at meant
  exact meant.2

theorem about_surface {view : ViewKind} (same : device.deviceId = deviceId)
    (stopped : selectSurface request target device view = .error result) : About deviceId result := by
  unfold selectSurface at stopped
  dsimp only at stopped
  split at stopped
  · cases stopped
  · cases stopped
    exact about_nobody rfl
  · cases stopped
    intro id listed
    change id ∈ [device.deviceId] at listed
    rw [List.mem_singleton.mp listed]
    exact same

theorem about_displayPlan {surface : Surface} {presentation : Presentation} (same : device.deviceId = deviceId) :
    About deviceId (.from (displayPlan request device surface presentation)) := by
  unfold displayPlan
  split
  · exact about_nobody rfl
  · intro id listed
    change id ∈ [device.deviceId,device.deviceId] at listed
    simp only [List.mem_cons,List.not_mem_nil,or_false,or_self] at listed
    exact listed.trans same

theorem about_commandPlan {body : CommandBody} (same : device.deviceId = deviceId) :
    About deviceId (.plan (commandPlan request device none none body)) := by
  intro id listed
  change id ∈ [device.deviceId] at listed
  rw [List.mem_singleton.mp listed]
  exact same

end concerns

section resolvers
variable {print : Json → String} {request : ResolutionRequest} {target : Option IntentTarget} {deviceId : DeviceId}

theorem radio_about (explicit : target.bind IntentTarget.deviceId = some deviceId) (stationId : String) :
    About deviceId (.from (resolveRadio request stationId target)) := by
  refine about_bind (fun _ stopped => about_checked stopped) fun _ _ => ?_
  refine about_bind (fun _ stopped => about_select explicit stopped) fun device chosen => ?_
  exact about_commandPlan (selected_explicit explicit (selectDevice_selected chosen))

theorem media_about (explicit : target.bind IntentTarget.deviceId = some deviceId) (action : MediaIntentAction) :
    About deviceId (.from (resolveMedia request action target)) := by
  refine about_bind (fun _ stopped => about_checked stopped) fun _ _ => ?_
  refine about_bind (fun _ stopped => about_select explicit stopped) fun device chosen => ?_
  exact about_commandPlan (selected_explicit explicit (selectDevice_selected chosen))

theorem sensors_about (explicit : target.bind IntentTarget.deviceId = some deviceId) :
    About deviceId (.from (resolveSensors request target)) := by
  refine about_bind (fun _ stopped => about_checked stopped) fun _ _ => ?_
  refine about_bind (fun _ stopped => about_checked stopped) fun _ _ => ?_
  refine about_bind (fun _ stopped => about_select explicit stopped) fun device chosen => ?_
  have same := selected_explicit explicit (selectDevice_selected chosen)
  refine about_bind (fun _ stopped => about_surface same stopped) fun surface _ => ?_
  exact about_displayPlan same

theorem nowPlaying_about (explicit : target.bind IntentTarget.deviceId = some deviceId) :
    About deviceId (.from (resolveNowPlaying request target)) := by
  refine about_bind (fun _ stopped => about_checked stopped) fun _ _ => ?_
  refine about_bind (fun _ stopped => about_select explicit stopped) fun device chosen => ?_
  have same := selected_explicit explicit (selectDevice_selected chosen)
  refine about_bind (fun _ stopped => about_surface same stopped) fun surface _ => ?_
  split
  · split
    · exact about_nobody rfl
    · exact about_displayPlan same
  · exact about_nobody rfl

theorem actuator_about {target : ActuatorTarget} (action : ActuatorAction) (value : Option F64) :
    About target.deviceId (.from (resolveActuator request action value target)) := by
  refine about_bind (fun _ stopped => about_checked stopped) fun _ _ => ?_
  split
  · exact about_nobody rfl
  split
  · exact about_nobody rfl
  split
  · exact about_nobody rfl
  split
  · exact about_nobody rfl
  split
  · exact about_nobody rfl
  · exact fun id listed => List.mem_singleton.mp listed

-- A sensor whose latest state fits a presentation.
def Answerable (print : Json → String) (request : ResolutionRequest) (device : DirectoryDevice) (entity : Entity) : Prop :=
  ∃ state, stateFor device entity.entityId = some state ∧
    match sensorValue state request.receivedAt with
    | (value,quality,freshness) =>
      (Presentation.text (formatSensorText print entity value state.unit quality freshness)).validate.isOk = true

-- A query of an intent that names a device never leaves that device: what is
-- read elsewhere is the only candidate and has nothing to show.
def ReadsWithin (print : Json → String) (request : ResolutionRequest) (intent : UserIntent) (deviceId : DeviceId) : Prop :=
  ∀ entityId target, intent = .querySensor entityId target → refusedEarlier request intent = none →
    ∀ device entity, (device,entity) ∈ sensorCandidates request entityId target → device.deviceId ≠ deviceId →
      sensorCandidates request entityId target = [(device,entity)] ∧ ¬ Answerable print request device entity

theorem sensorAnswer_concerns {device : DirectoryDevice} {entity : Entity} (id : DeviceId) :
    id ∈ (ResolutionResult.from (sensorAnswer print request device entity)).concerns ↔
      Answerable print request device entity ∧ device.deviceId = id := by
  unfold Answerable sensorAnswer
  cases held : stateFor device entity.entityId with
  | none =>
    refine iff_of_false (fun listed => nomatch listed) ?_
    rintro ⟨⟨state,found,_⟩,_⟩
    cases found
  | some state =>
    dsimp only
    split
    · rename_i unfit
      refine iff_of_false (fun listed => nomatch listed) ?_
      rintro ⟨⟨other,found,fits⟩,_⟩
      cases found
      simp only [Bool.not_eq_true'] at unfit
      exact Bool.noConfusion (unfit.symm.trans fits)
    · rename_i fit
      simp only [Bool.not_eq_true',Bool.not_eq_false] at fit
      change id ∈ [device.deviceId] ↔ _
      rw [List.mem_singleton]
      constructor
      · rintro rfl
        exact ⟨⟨state,rfl,fit⟩,rfl⟩
      · rintro ⟨_,same⟩
        exact same.symm

-- Every candidate of a query counts in its answer, unless it is the only one
-- and has no text.
theorem answer_about (candidates : List (DirectoryDevice × Entity)) :
    About deviceId (.from (answerQuery print request candidates)) ↔
      ∀ device entity, (device,entity) ∈ candidates → device.deviceId ≠ deviceId →
        candidates = [(device,entity)] ∧ ¬ Answerable print request device entity := by
  unfold answerQuery
  split
  · refine iff_of_true (about_nobody rfl) fun device entity listed => ?_
    cases listed
  · rename_i device entity
    constructor
    · intro about other measured listed elsewhere
      cases List.mem_singleton.mp listed
      refine ⟨rfl,fun answerable => elsewhere ?_⟩
      exact about _ ((sensorAnswer_concerns _).mpr ⟨answerable,rfl⟩)
    · intro within id listed
      obtain ⟨answerable,rfl⟩ := (sensorAnswer_concerns id).mp listed
      by_contra elsewhere
      exact (within device entity (List.mem_singleton_self _) elsewhere).2 answerable
  · rename_i several
    constructor
    · intro about device entity listed elsewhere
      refine absurd (about device.deviceId ?_) elsewhere
      exact (uniqueDeviceIds_mem _ _).mpr (List.mem_map.mpr ⟨(device,entity),listed,rfl⟩)
    · intro within id listed
      obtain ⟨⟨device,entity⟩,present,rfl⟩ := List.mem_map.mp ((uniqueDeviceIds_mem _ _).mp listed)
      by_contra elsewhere
      exact several device entity (within device entity present elsewhere).1

end resolvers
section answers
variable {print : Json → String} {request : ResolutionRequest} {intent : UserIntent} {deviceId : DeviceId}

theorem requireScope_missing {scope : DeviceControlScope} (missing : request.actor.scopes.contains scope = false) :
    checked (requireScope request scope) = refused .forbidden := by
  unfold requireScope
  rw [missing]
  rfl

theorem requireScope_held {scope : DeviceControlScope} (held : request.actor.scopes.contains scope = true) :
    checked (requireScope request scope) = .ok () := by
  unfold requireScope
  rw [held]
  rfl

theorem resolveOwned_unscoped
    (missing : (intent.scopes.all fun scope => request.actor.scopes.contains scope) = false) :
    resolveOwned print request intent = refused .forbidden := by
  have single : ∀ scope, intent.scopes = [scope] → checked (requireScope request scope) = refused .forbidden := by
    intro scope only
    refine requireScope_missing ?_
    simpa [only] using missing
  cases intent with
  | playRadio stationId target =>
    unfold resolveOwned resolveRadio
    rw [single _ rfl]
    rfl
  | showSensors target =>
    unfold resolveOwned resolveSensors
    cases held : request.actor.scopes.contains DeviceControlScope.entityStateRead with
    | false =>
      rw [requireScope_missing held]
      rfl
    | true =>
      have second : request.actor.scopes.contains DeviceControlScope.displayControl = false := by
        simpa only [UserIntent.scopes,List.all_cons,List.all_nil,held,Bool.true_and,Bool.and_true] using missing
      rw [requireScope_held held,requireScope_missing second]
      rfl
  | querySensor entityId target =>
    unfold resolveOwned resolveSensorQuery
    rw [single _ rfl]
    rfl
  | media action target =>
    unfold resolveOwned resolveMedia
    rw [single _ rfl]
    rfl
  | showNowPlaying target =>
    unfold resolveOwned resolveNowPlaying
    rw [single _ rfl]
    rfl
  | actuator action value target =>
    unfold resolveOwned resolveActuator
    rw [single _ rfl]
    rfl

theorem resolve_refused {error : IntentError} (early : refusedEarlier request intent = some error) :
    request.resolve print intent = .error error := by
  unfold refusedEarlier at early
  unfold ResolutionRequest.resolve
  cases valid : intent.validate with
  | error other =>
    rw [valid] at early
    exact congrArg ResolutionResult.error (Option.some.inj early)
  | ok valued =>
    rw [valid] at early
    dsimp only at early ⊢
    split at early
    · rename_i foreign
      rw [if_pos foreign]
      exact congrArg ResolutionResult.error (Option.some.inj early)
    · rename_i owned
      rw [if_neg owned]
      split at early
      · cases early
      · rename_i missing
        rw [resolveOwned_unscoped (Bool.not_eq_true _ ▸ missing)]
        exact congrArg ResolutionResult.error (Option.some.inj early)

structure Passed (print : Json → String) (request : ResolutionRequest) (intent : UserIntent) : Prop where
  scopes : ∀ scope ∈ intent.scopes, request.actor.scopes.contains scope = true
  resolved : request.resolve print intent = .from (resolveOwned print request intent)

theorem resolve_passed (print : Json → String) (late : refusedEarlier request intent = none) :
    Passed print request intent := by
  unfold refusedEarlier at late
  cases valid : intent.validate with
  | error other =>
    rw [valid] at late
    cases late
  | ok valued =>
    rw [valid] at late
    dsimp only at late
    split at late
    · cases late
    · rename_i owned
      split at late
      · rename_i held
        refine ⟨List.all_eq_true.mp held,?_⟩
        unfold ResolutionRequest.resolve
        rw [valid]
        exact if_neg owned
      · cases late

-- Every intent but a query goes through the selection of one device.
theorem selected_about (named : intent.target.bind IntentTarget.deviceId = some deviceId)
    (unread : ∀ entityId target, intent ≠ .querySensor entityId target) :
    About deviceId (.from (resolveOwned print request intent)) := by
  cases intent with
  | playRadio stationId target => exact radio_about named stationId
  | showSensors target => exact sensors_about named
  | querySensor entityId target => exact absurd rfl (unread entityId target)
  | media action target => exact media_about named action
  | showNowPlaying target => exact nowPlaying_about named
  | actuator action value target =>
    cases named
    exact actuator_about action value

theorem selectDevice_unmapped {target : Option IntentTarget} {areaId : String} (area : areaOf target = some areaId)
    (unmapped : canonicalAreaDevices request areaId = none) (candidates : List DirectoryDevice) :
    selectDevice request target candidates = refused .unsupportedSelector := by
  unfold selectDevice
  simp [area,unmapped,refused]

theorem resolveOwned_unmapped {areaId : String} (area : areaOf intent.target = some areaId)
    (unmapped : canonicalAreaDevices request areaId = none) (unread : ∀ entityId target, intent ≠ .querySensor entityId target)
    (held : ∀ scope ∈ intent.scopes, request.actor.scopes.contains scope = true) :
    resolveOwned print request intent = refused .unsupportedSelector := by
  have refuses : ∀ target, intent.target = target → ∀ candidates,
      selectDevice request target candidates = refused .unsupportedSelector := by
    rintro target rfl
    exact selectDevice_unmapped area unmapped
  cases intent with
  | playRadio stationId target =>
    change resolveRadio request stationId target = refused .unsupportedSelector
    unfold resolveRadio
    rw [requireScope_held (held _ (List.mem_singleton_self _)),refuses target rfl]
    rfl
  | showSensors target =>
    change resolveSensors request target = refused .unsupportedSelector
    unfold resolveSensors
    rw [requireScope_held (held .entityStateRead (by simp [UserIntent.scopes])),
      requireScope_held (held .displayControl (by simp [UserIntent.scopes])),
      refuses target rfl]
    rfl
  | querySensor entityId target => exact absurd rfl (unread entityId target)
  | media action target =>
    change resolveMedia request action target = refused .unsupportedSelector
    unfold resolveMedia
    rw [requireScope_held (held _ (List.mem_singleton_self _)),refuses target rfl]
    rfl
  | showNowPlaying target =>
    change resolveNowPlaying request target = refused .unsupportedSelector
    unfold resolveNowPlaying
    rw [requireScope_held (held _ (List.mem_singleton_self _)),refuses target rfl]
    rfl
  | actuator action value target => cases area

-- A query has no selector of its own to refuse.
theorem answer_supported (candidates : List (DirectoryDevice × Entity)) :
    .from (answerQuery print request candidates) ≠ ResolutionResult.error (.ofCode .unsupportedSelector) := by
  unfold answerQuery
  split
  · exact fun same => nomatch same
  · unfold sensorAnswer
    split
    · exact fun same => nomatch same
    · dsimp only
      split
      · exact fun same => nomatch same
      · exact fun same => nomatch same
  · exact fun same => nomatch same

end answers

-- A named device is the only one an answer is about, and an unmapped area is
-- refused, except where a query reads by the area and the entity alone.
theorem selectors_honoured_iff (print : Json → String) (request : ResolutionRequest) (intent : UserIntent) :
    (∀ deviceId, intent.target.bind IntentTarget.deviceId = some deviceId →
      ((∀ id ∈ (request.resolve print intent).concerns, id = deviceId) ↔ ReadsWithin print request intent deviceId)) ∧
    (∀ areaId, areaOf intent.target = some areaId → canonicalAreaDevices request areaId = none →
      (request.resolve print intent = .error ((refusedEarlier request intent).getD (.ofCode .unsupportedSelector)) ↔
        ∀ entityId target, intent = .querySensor entityId target → refusedEarlier request intent ≠ none)) := by
  constructor
  · intro deviceId named
    cases early : refusedEarlier request intent with
    | some error =>
      rw [resolve_refused early]
      refine iff_of_true (fun id listed => nomatch listed) fun entityId target _ late => ?_
      cases early.symm.trans late
    | none =>
      have passed := resolve_passed print early
      rw [passed.resolved]
      by_cases query : ∃ entityId target, intent = .querySensor entityId target
      · obtain ⟨entityId,target,rfl⟩ := query
        have taken : resolveOwned print request (.querySensor entityId target) =
            answerQuery print request (sensorCandidates request entityId target) := by
          unfold resolveOwned resolveSensorQuery
          rw [requireScope_held (passed.scopes _ (List.mem_singleton_self _))]
          rfl
        rw [taken]
        refine (answer_about _).trans ⟨fun within _ _ same _ => ?_,fun within => within entityId target rfl early⟩
        cases same
        exact within
      · refine iff_of_true (selected_about named fun entityId target same => query ⟨entityId,target,same⟩) ?_
        exact fun entityId target same => absurd ⟨entityId,target,same⟩ query
  · intro areaId area unmapped
    cases early : refusedEarlier request intent with
    | some error => exact iff_of_true (resolve_refused early) fun _ _ _ late => nomatch late
    | none =>
      have passed := resolve_passed print early
      rw [passed.resolved]
      by_cases query : ∃ entityId target, intent = .querySensor entityId target
      · obtain ⟨entityId,target,rfl⟩ := query
        refine iff_of_false ?_ fun refused => refused entityId target rfl rfl
        unfold resolveOwned resolveSensorQuery
        rw [requireScope_held (passed.scopes _ (List.mem_singleton_self _))]
        exact answer_supported _
      · have unread : ∀ entityId target, intent ≠ .querySensor entityId target :=
          fun entityId target same => query ⟨entityId,target,same⟩
        rw [resolveOwned_unmapped area unmapped unread passed.scopes]
        exact iff_of_true rfl fun entityId target same => absurd same (unread entityId target)

def thermometer : Entity :=
  ⟨"room.temperature",.sensor,"temperature","Temperature",true,false,some "C",60,[],none,none,none⟩

def roomSensor : DirectoryDevice :=
  ⟨⟨3⟩,⟨1,[.sensorSource],⟨1,[.sensor ["temperature"]]⟩,[thermometer],[]⟩,true,none,
    [⟨"room.temperature",.string "21",none,.ok,some ⟨"1970-01-01T00:00:00Z",0⟩,⟨"1970-01-01T00:01:00Z",60⟩⟩]⟩

def sensorRequest : ResolutionRequest :=
  ⟨⟨1,[.mediaControl,.entityStateRead]⟩,⟨1,[roomSensor]⟩,⟨7⟩,⟨"1970-01-01T00:00:00Z",0⟩,⟨none,[]⟩⟩

theorem selectors_honoured_iff_room :
    (∀ id ∈ (sensorRequest.resolve (fun _ => "") (.querySensor none (some ⟨some ⟨3⟩,none,none⟩))).concerns, id = ⟨3⟩) ∧
    sensorRequest.resolve (fun _ => "") (.playRadio "radio" (some ⟨none,none,some "attic"⟩)) =
      .error (.ofCode .unsupportedSelector) := by
  constructor
  · refine ((selectors_honoured_iff _ sensorRequest (.querySensor none (some ⟨some ⟨3⟩,none,none⟩))).1 ⟨3⟩ rfl).mpr ?_
    rintro _ _ ⟨⟩ _ device entity listed elsewhere
    cases List.mem_singleton.mp listed
    exact absurd rfl elsewhere
  · refine ((selectors_honoured_iff _ sensorRequest (.playRadio "radio" (some ⟨none,none,some "attic"⟩))).2 "attic" rfl rfl).mpr ?_
    exact fun _ _ other => nomatch other

-- A query that names another device or an unmapped area reads the only sensor.
theorem other_device_read : roomSensor.manifest.validate = .ok () ∧
    ¬ (∀ id ∈ (sensorRequest.resolve (fun _ => "") (.querySensor none (some ⟨some ⟨2⟩,none,none⟩))).concerns, id = ⟨2⟩) ∧
    ∃ plan, sensorRequest.resolve (fun _ => "") (.querySensor none (some ⟨none,none,some "attic"⟩)) = .plan plan ∧
      canonicalAreaDevices sensorRequest "attic" = none := by
  refine ⟨by decide,fun all => ?_,_,rfl,rfl⟩
  exact absurd (all ⟨3⟩ (by decide)) (by decide)

end DeviceControl
