import RockServer.PlanAdmission

namespace DeviceControl

-- The router's target check against the resolver and the surfaces' own lists:
-- one consults the capabilities of the device, the others each entity and surface.
def Presentation.view : Presentation → ViewKind
  | .text _ => .text
  | .nowPlaying _ _ _ => .nowPlaying
  | .sensorGrid _ _ => .sensorGrid

-- The device is in the directory and online with this manifest, and the actor
-- may actuate.
structure Offered (request : ResolutionRequest) (manifest : DeviceManifest) (deviceId : DeviceId) : Prop where
  scope : DeviceControlScope.actuatorControl ∈ request.actor.scopes
  device : ∃ device, (request.directory.devices.find? fun device => device.deviceId = deviceId) = some device ∧
    device.online = true ∧ device.manifest = manifest

structure GatesAgree (manifest : DeviceManifest) : Prop where
  actuator : ∀ (command : DeviceCommand) action value entityId, command.body = .actuator action value →
    command.target.entityId = some entityId → validateTarget command manifest = .ok () →
    ∀ request, Offered request manifest command.target.deviceId →
      .from (resolveActuator request action value ⟨command.target.deviceId,entityId⟩) =
        ResolutionResult.confirmation ⟨⟨command.target.deviceId,some entityId,none⟩,action,value⟩ ∧
      ∀ entity ∈ manifest.entities, entity.entityId = entityId →
        action ∈ entity.allowedCommands ∧ entity.deviceClass ≠ "lock" ∧ entity.deviceClass ≠ "climate"
  display : ∀ (command : DeviceCommand) presentation, command.body = .display presentation →
    validateTarget command manifest = .ok () → ∀ surface ∈ manifest.surfaces,
      command.target.surfaceId = some surface.surfaceId → presentation.view ∈ surface.views

def actuates (action : ActuatorAction) : DeviceCapability → Bool
  | .actuator commands => commands.contains action
  | _ => false

-- Text is shown whatever the views.
def presents (view : ViewKind) : DeviceCapability → Bool
  | .display views _ _ => view = .text || views.contains view
  | _ => false

def Entity.outOfBounds (entity : Entity) (value : F64) : Bool :=
  entity.minimum.any (fun minimum => value.lt minimum) || entity.maximum.any fun maximum => maximum.lt value

-- Every list of an entity or a surface covers what the device lists as a whole.
structure ListsCover (manifest : DeviceManifest) : Prop where
  entities : DeviceRole.actuator ∈ manifest.roles → ∀ entity ∈ manifest.entities, entity.controllable = true →
    ∀ action, hasCapability manifest (actuates action) = true → safeActuatorEntity entity = true ∧
      action ∈ entity.allowedCommands ∧ (action = .setValue → entity.outOfBounds (.finite 0) = false)
  surfaces : DeviceRole.displaySurface ∈ manifest.roles → ∀ surface ∈ manifest.surfaces, surface.kind = .display →
    ∀ view, hasCapability manifest (presents view) = true → view ∈ surface.views

section gates
variable {manifest : DeviceManifest} {command : DeviceCommand} {request : ResolutionRequest}

-- What the router asks of an actuator command.
theorem actuator_accepted {action : ActuatorAction} {value : Option F64} {entityId : String}
    (body : command.body = .actuator action value) (named : command.target.entityId = some entityId) :
    validateTarget command manifest = .ok () ↔ ∃ entity,
      (manifest.entities.find? fun entity => entity.entityId = entityId) = some entity ∧
      DeviceRole.actuator ∈ manifest.roles ∧ entity.controllable = true ∧ hasCapability manifest (actuates action) = true ∧
      (action = .setValue → ∀ v, value = some v → entity.outOfBounds v = false) := by
  unfold validateTarget
  rw [body,named]
  dsimp only
  cases found : manifest.entities.find? fun entity => entity.entityId = entityId with
  | none => simp
  | some entity =>
    change (if DeviceRole.actuator ∉ manifest.roles ∨ (!entity.controllable) = true ∨
      (!hasCapability manifest (actuates action)) = true then _ else _) = _ ↔ _
    split
    · rename_i gate
      refine iff_of_false (fun done => by cases done) ?_
      rintro ⟨_,⟨⟩,role,controllable,capable,_⟩
      simp [role,controllable,capable] at gate
    · rename_i gate
      simp only [not_or,not_not,Bool.not_eq_true',Bool.not_eq_false] at gate
      have bounds : ∀ v, (entity.minimum.any (fun minimum => v.lt minimum) || entity.maximum.any fun maximum => maximum.lt v) =
          entity.outOfBounds v := fun _ => rfl
      split
      · rename_i v
        rw [bounds]
        split
        · rename_i outside
          refine iff_of_false (fun done => by cases done) ?_
          rintro ⟨_,⟨⟩,_,_,_,inside⟩
          rw [inside rfl v rfl] at outside
          cases outside
        · rename_i inside
          exact iff_of_true rfl ⟨entity,rfl,gate.1,gate.2.1,gate.2.2,fun _ _ same => by cases same; simpa using inside⟩
      · rename_i other
        exact iff_of_true rfl ⟨entity,rfl,gate.1,gate.2.1,gate.2.2,fun sets v same => absurd same (other v sets)⟩

-- What it asks of a display command: nothing of the surface but its kind.
theorem display_accepted {presentation : Presentation} {surface : Surface} (valid : manifest.validate = .ok ())
    (body : command.body = .display presentation) (listed : surface ∈ manifest.surfaces)
    (named : command.target.surfaceId = some surface.surfaceId) :
    validateTarget command manifest = .ok () ↔ surface.kind = .display ∧ DeviceRole.displaySurface ∈ manifest.roles ∧
      presentationSupported manifest presentation = true := by
  unfold validateTarget
  rw [body,named]
  dsimp only
  rw [find_distinct (manifest_distinct valid).2.2.2 listed]
  dsimp only
  by_cases kind : surface.kind = .display
  · simp only [kind,ne_eq,not_true_eq_false,if_false,true_and]
    change (if DeviceRole.displaySurface ∈ manifest.roles ∧ presentationSupported manifest presentation = true then _ else _) = _ ↔ _
    split
    · rename_i met
      exact iff_of_true rfl met
    · rename_i unmet
      exact iff_of_false (fun done => by cases done) unmet
  · simp [kind]

-- What the resolver asks besides.
theorem actuator_confirmed {deviceId : DeviceId} {action : ActuatorAction} {value : Option F64} {entityId : String}
    (offered : Offered request manifest deviceId) :
    .from (resolveActuator request action value ⟨deviceId,entityId⟩) =
        ResolutionResult.confirmation ⟨⟨deviceId,some entityId,none⟩,action,value⟩ ↔ ∃ entity,
      (manifest.entities.find? fun entity => entity.entityId = entityId) = some entity ∧
      entity.controllable = true ∧ action ∈ entity.allowedCommands ∧ DeviceRole.actuator ∈ manifest.roles ∧
      hasCapability manifest (actuates action) = true ∧ safeActuatorEntity entity = true ∧
      (action = .setValue → entity.outOfBounds (value.getD (.finite 0)) = false) := by
  obtain ⟨scope,device,found,online,rfl⟩ := offered
  have held : checked (requireScope request .actuatorControl) = .ok () := by
    simp [checked,requireScope,scope,Except.mapError]
  simp only [resolveActuator,held,bind,Except.bind,found,online,Bool.not_true,Bool.false_eq_true,if_false]
  cases search : device.manifest.entities.find? fun entity => entity.entityId = entityId with
  | none => exact iff_of_false (fun done => by cases done) (fun ⟨_,absent,_⟩ => by cases absent)
  | some entity =>
    have allowed : actuatorAllowed device entity action = true ↔ entity.controllable = true ∧ action ∈ entity.allowedCommands ∧
        DeviceRole.actuator ∈ device.manifest.roles ∧ hasCapability device.manifest (actuates action) = true := by
      have capable : actuatorAllowed device entity action = (entity.controllable && entity.allowedCommands.contains action &&
        hasRole device.manifest .actuator && hasCapability device.manifest (actuates action)) := rfl
      rw [capable]
      simp [hasRole,and_assoc]
    have outside : (entity.minimum.any (fun minimum => (value.getD (.finite 0)).lt minimum) ||
        entity.maximum.any fun maximum => maximum.lt (value.getD (.finite 0))) = entity.outOfBounds (value.getD (.finite 0)) := rfl
    dsimp only
    rw [outside]
    split
    · rename_i gate
      refine iff_of_false (fun done => by cases done) ?_
      rintro ⟨_,⟨⟩,controllable,listed,role,capable,safe,_⟩
      simp [allowed.mpr ⟨controllable,listed,role,capable⟩,safe] at gate
    · rename_i gate
      simp only [Bool.or_eq_true,Bool.not_eq_true',not_or,Bool.not_eq_false] at gate
      obtain ⟨controllable,listed,role,capable⟩ := allowed.mp gate.1
      split
      · rename_i refused
        simp only [Bool.and_eq_true,decide_eq_true_eq] at refused
        refine iff_of_false (fun done => by cases done) ?_
        rintro ⟨_,⟨⟩,_,_,_,_,_,inside⟩
        rw [inside refused.1] at refused
        cases refused.2
      · rename_i admitted
        simp only [Bool.and_eq_true,decide_eq_true_eq,not_and,Bool.not_eq_true] at admitted
        exact iff_of_true rfl ⟨entity,rfl,controllable,listed,role,capable,gate.2,admitted⟩

theorem presents_supported {presentation : Presentation} (supported : presentationSupported manifest presentation = true) :
    hasCapability manifest (presents presentation.view) = true := by
  obtain ⟨capability,listed,shows⟩ := List.any_eq_true.mp supported
  refine List.any_eq_true.mpr ⟨capability,listed,?_⟩
  cases capability with
  | display views maxItems maxTextLength =>
    cases presentation with
    | text shown => rfl
    | nowPlaying stationId title subtitle => simpa [presents,Presentation.view] using shows
    | sensorGrid title items =>
      simp only [Bool.and_eq_true] at shows
      simpa [presents,Presentation.view] using shows.1
  | _ => cases shows

-- A view that a capability presents has an empty presentation it supports.
def ViewKind.blank : ViewKind → Presentation
  | .text => .text ""
  | .nowPlaying => .nowPlaying "" "" none
  | .sensorGrid => .sensorGrid "" []

theorem blank_supported {view : ViewKind} (presented : hasCapability manifest (presents view) = true) :
    presentationSupported manifest view.blank = true ∧ view.blank.view = view := by
  obtain ⟨capability,listed,shows⟩ := List.any_eq_true.mp presented
  refine ⟨List.any_eq_true.mpr ⟨capability,listed,?_⟩,by cases view <;> rfl⟩
  cases capability with
  | display views maxItems maxTextLength =>
    cases view with
    | text => exact decide_eq_true (Nat.zero_le _)
    | nowPlaying | sensorGrid => simpa [presents,ViewKind.blank] using shows
  | _ => cases shows

theorem covered_agree (valid : manifest.validate = .ok ()) (covered : ListsCover manifest) : GatesAgree manifest := by
  refine ⟨?_,?_⟩
  · intro command action value entityId body named accepted request offered
    obtain ⟨entity,found,role,controllable,capable,inside⟩ := (actuator_accepted body named).mp accepted
    have listed := List.mem_of_find?_eq_some found
    obtain ⟨safe,allowed,zero⟩ := covered.entities role entity listed controllable action capable
    refine ⟨(actuator_confirmed offered).mpr ⟨entity,found,controllable,allowed,role,capable,safe,?_⟩,?_⟩
    · intro sets
      cases value with
      | none => exact zero sets
      | some v => exact inside sets v rfl
    · intro other member same
      subst same
      have equal := (find_distinct (manifest_distinct valid).2.2.1 member).symm.trans found
      cases Option.some.inj equal
      refine ⟨allowed,?_⟩
      simp only [safeActuatorEntity,Bool.and_eq_true,Bool.not_eq_true',Bool.or_eq_false_iff,decide_eq_false_iff_not] at safe
      exact safe.2
  · intro command presentation body accepted surface listed named
    obtain ⟨kind,role,supported⟩ := (display_accepted valid body listed named).mp accepted
    exact covered.surfaces role surface listed kind presentation.view (presents_supported supported)

end gates

-- The directory of one online device and an actor who may actuate.
def actuatorRequest (manifest : DeviceManifest) : ResolutionRequest :=
  ⟨⟨1,[.actuatorControl]⟩,⟨1,[⟨⟨2⟩,manifest,true,none,[]⟩]⟩,⟨7⟩,⟨"1970-01-01T00:00:00Z",0⟩,⟨none,[]⟩⟩

theorem actuatorRequest_offers (manifest : DeviceManifest) : Offered (actuatorRequest manifest) manifest ⟨2⟩ :=
  ⟨List.mem_singleton_self _,_,List.find?_cons_of_pos (by simp),rfl,rfl⟩

def actuatorCommand (entityId : String) (action : ActuatorAction) : DeviceCommand :=
  ⟨⟨7⟩,⟨⟨2⟩,some entityId,none⟩,none,.actuator action none⟩

def displayCommand (surfaceId : String) (presentation : Presentation) : DeviceCommand :=
  ⟨⟨7⟩,⟨⟨2⟩,none,some surfaceId⟩,none,.display presentation⟩

theorem agree_covered {manifest : DeviceManifest} (valid : manifest.validate = .ok ()) (agree : GatesAgree manifest) :
    ListsCover manifest := by
  refine ⟨?_,?_⟩
  · intro role entity listed controllable action capable
    have found := find_distinct (manifest_distinct valid).2.2.1 listed
    have accepted : validateTarget (actuatorCommand entity.entityId action) manifest = .ok () :=
      (actuator_accepted rfl rfl).mpr ⟨entity,found,role,controllable,capable,fun _ _ other => nomatch other⟩
    have confirmed := (agree.actuator _ action none entity.entityId rfl rfl accepted _ (actuatorRequest_offers manifest)).1
    obtain ⟨other,found',_,allowed,_,_,safe,zero⟩ := (actuator_confirmed (actuatorRequest_offers manifest)).mp confirmed
    cases Option.some.inj (found.symm.trans found')
    exact ⟨safe,allowed,zero⟩
  · intro role surface listed kind view presented
    obtain ⟨supported,same⟩ := blank_supported presented
    have accepted : validateTarget (displayCommand surface.surfaceId view.blank) manifest = .ok () :=
      (display_accepted valid rfl listed rfl).mpr ⟨kind,role,supported⟩
    exact same ▸ agree.display _ view.blank rfl accepted surface listed rfl

-- The gates agree on every command for a device exactly if its own lists cover
-- its capabilities.
theorem gates_agree_iff {manifest : DeviceManifest} (valid : manifest.validate = .ok ()) :
    GatesAgree manifest ↔ ListsCover manifest :=
  ⟨agree_covered valid,covered_agree valid⟩

def relayEntity (deviceClass : String) : Entity :=
  ⟨"relay.one",.switch,deviceClass,"Relay",true,true,none,60,[.turnOn],none,none,none⟩

def relayBox (deviceClass : String) : DeviceManifest :=
  ⟨1,[.actuator,.displaySurface],⟨1,[.actuator [.turnOn],.display [.nowPlaying] 4 64]⟩,[relayEntity deviceClass],
    [⟨"panel.main",.display,"Panel",[.text,.nowPlaying]⟩]⟩

theorem gates_agree_relay : GatesAgree (relayBox "outlet") := by
  refine (gates_agree_iff (by decide)).mpr ⟨?_,?_⟩
  · intro _ entity listed _ action capable
    cases List.mem_singleton.mp listed
    cases action with
    | turnOn => decide
    | turnOff | setValue => exact absurd capable (by decide)
  · intro _ surface listed _ view presented
    cases List.mem_singleton.mp listed
    cases view with
    | text | nowPlaying => decide
    | sensorGrid => exact absurd presented (by decide)

-- The router switches a lock that the resolver refuses.
theorem lock_switched : (relayBox "lock").validate = .ok () ∧ ¬ GatesAgree (relayBox "lock") := by
  refine ⟨by decide,fun agree => ?_⟩
  have listed : relayEntity "lock" ∈ (relayBox "lock").entities := List.mem_singleton_self _
  have confirmed := agree.actuator (actuatorCommand "relay.one" .turnOn) .turnOn none "relay.one" rfl rfl (by decide) _
    (actuatorRequest_offers _)
  exact (confirmed.2 _ listed rfl).2.1 rfl

end DeviceControl
