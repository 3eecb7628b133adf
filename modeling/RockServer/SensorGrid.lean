import RockServer.ResolverPrecedence

namespace DeviceControl

-- The grid of a display's own sensors, from a legal manifest to the cards.
def gridSurfaces (manifest : DeviceManifest) : List Surface :=
  manifest.surfaces.filter fun surface => surface.kind = .display && surface.views.contains .sensorGrid

def gridFits (device : DirectoryDevice) : Bool :=
  hasCapability device.manifest fun
    | .display views maxItems _ => views.contains .sensorGrid && device.sensors.length ≤ maxItems
    | _ => false

def showsGrid (device : DirectoryDevice) : Bool :=
  device.online && device.manifest.validate.isOk && hasRole device.manifest .displaySurface &&
    (gridSurfaces device.manifest).length = 1 && 0 < readableSensorCount device && gridFits device

-- The directory has one such display, and the actor may see its sensors.
structure GridReady (request : ResolutionRequest) (device : DirectoryDevice) : Prop where
  display : request.directory.devices.filter showsGrid = [device]
  owner : request.actor.userId = request.directory.ownerId
  reads : DeviceControlScope.entityStateRead ∈ request.actor.scopes
  displays : DeviceControlScope.displayControl ∈ request.actor.scopes

-- One card for each readable sensor, and none says more than was observed.
structure GridOf (request : ResolutionRequest) (device : DirectoryDevice) (items : List SensorCard) : Prop where
  sensors : items.map (fun card => (card.entityId,card.label)) =
    device.sensors.map fun entity => (entity.entityId,entity.label)
  fresh : ∀ card ∈ items, card.freshness = .fresh → ∃ state, stateFor device card.entityId = some state ∧
    state.receivedAt.isSome = true ∧ request.receivedAt.instant ≤ state.staleAfter.instant
  absent : ∀ card ∈ items, (stateFor device card.entityId).all (fun state => state.quality = .unavailable) = true →
    card.value = .null
  unavailable : ∀ card ∈ items, card.quality = .unavailable → card.value = .null

def ShowsSensors (request : ResolutionRequest) (device : DirectoryDevice) (plan : IntentPlan) : Prop :=
  ∃ items, plan.presentation = some (.sensorGrid "Sensors" items) ∧ GridOf request device items ∧
    ∃ command, plan.commands = [command] ∧ command.target.deviceId = device.deviceId ∧
      command.body = .display (.sensorGrid "Sensors" items)

def currentSurface (request : ResolutionRequest) (device : DirectoryDevice) : Option String :=
  (request.context.currentTarget.filter fun current => current.deviceId = some device.deviceId).bind CurrentTarget.surfaceId

-- The selection leaves this device and its surface: nothing else that is
-- compatible competes, and a current target is not elsewhere.
structure Unrivalled (request : ResolutionRequest) (device : DirectoryDevice) : Prop where
  only : request.directory.devices.filter (fun other => sensorDisplay other &&
    (currentDevice request).all fun deviceId => decide (other.deviceId = deviceId)) = [device]
  shown : ∀ surface ∈ gridSurfaces device.manifest,
    (currentSurface request device).all (fun surfaceId => surface.surfaceId = surfaceId) = true

def LabelsFit (device : DirectoryDevice) : Prop := ∀ entity ∈ device.sensors, entity.label.utf8ByteSize ≤ 64

section cards
variable {request : ResolutionRequest} {device : DirectoryDevice} {now : Timestamp}

def sensorCards (request : ResolutionRequest) (device : DirectoryDevice) : List SensorCard :=
  device.sensors.map fun entity => sensorCard entity (stateFor device entity.entityId) request.receivedAt

theorem sensorCard_entity (entity : Entity) (state : Option EntityState) :
    (sensorCard entity state now).entityId = entity.entityId ∧ (sensorCard entity state now).label = entity.label := by
  cases state with
  | none => exact ⟨rfl,rfl⟩
  | some state => exact ⟨rfl,rfl⟩

theorem freshnessAt_fresh {state : EntityState} (fresh : state.freshnessAt now = .fresh) :
    state.receivedAt.isSome = true ∧ now.instant ≤ state.staleAfter.instant := by
  unfold EntityState.freshnessAt at fresh
  split at fresh
  · cases fresh
  · rename_i received
    split at fresh
    · cases fresh
    · rename_i current
      have set : state.receivedAt ≠ none := by simpa using received
      exact ⟨Option.isSome_iff_ne_none.mpr set,not_lt.mp current⟩

theorem sensorCard_fresh {entity : Entity} {state : Option EntityState} (fresh : (sensorCard entity state now).freshness = .fresh) :
    (sensorCard entity state now).quality ≠ .unavailable ∧
      ∃ found, state = some found ∧ found.receivedAt.isSome = true ∧ now.instant ≤ found.staleAfter.instant := by
  cases state with
  | none => cases fresh
  | some found =>
    unfold sensorCard sensorValue at fresh ⊢
    dsimp only at fresh ⊢
    split at fresh
    · cases fresh
    · rename_i quality
      rw [if_neg quality]
      exact ⟨quality,found,rfl,freshnessAt_fresh fresh⟩

theorem sensorCard_absent {entity : Entity} {state : Option EntityState}
    (absent : state.all (fun found => found.quality = .unavailable) = true) :
    (sensorCard entity state now).value = .null := by
  cases state with
  | none => rfl
  | some found =>
    have quality : found.quality = .unavailable := of_decide_eq_true absent
    unfold sensorCard sensorValue
    dsimp only
    rw [if_pos quality]

theorem sensorCard_unavailable {entity : Entity} {state : Option EntityState}
    (unavailable : (sensorCard entity state now).quality = .unavailable) : (sensorCard entity state now).value = .null := by
  refine sensorCard_absent ?_
  cases state with
  | none => rfl
  | some found =>
    unfold sensorCard sensorValue at unavailable
    dsimp only at unavailable
    split at unavailable
    · rename_i quality
      exact decide_eq_true quality
    · exact decide_eq_true unavailable

theorem cards_grid : GridOf request device (sensorCards request device) := by
  have each {P : SensorCard → Prop} (holds : ∀ entity, P (sensorCard entity (stateFor device entity.entityId) request.receivedAt)) :
      ∀ card ∈ sensorCards request device, P card := by
    intro card listed
    obtain ⟨entity,_,rfl⟩ := List.mem_map.mp listed
    exact holds entity
  constructor
  case sensors =>
    rw [sensorCards,List.map_map]
    refine List.map_congr_left fun entity _ => ?_
    have same := @sensorCard_entity request.receivedAt entity (stateFor device entity.entityId)
    exact Prod.ext same.1 same.2
  case fresh =>
    refine each fun entity fresh => ?_
    rw [(sensorCard_entity entity _).1]
    exact (sensorCard_fresh fresh).2
  case absent =>
    refine each fun entity absent => ?_
    rw [(sensorCard_entity entity _).1] at absent
    exact sensorCard_absent absent
  case unavailable => exact each fun entity => sensorCard_unavailable

theorem bounded_ok {value field : String} {min max : Nat} :
    bounded value min max field = .ok () ↔ min ≤ value.utf8ByteSize ∧ value.utf8ByteSize ≤ max := by
  unfold bounded
  split
  · rename_i within
    exact iff_of_true rfl within
  · rename_i outside
    exact iff_of_false (fun done => by cases done) outside

-- A card's label has half the room of the entity's own.
theorem card_valid {entity : Entity} {state : Option EntityState} (named : 1 ≤ entity.label.utf8ByteSize) :
    (sensorCard entity state now).validate = .ok () ↔ entity.label.utf8ByteSize ≤ 64 := by
  unfold SensorCard.validate
  rw [checks_ok,bounded_ok,(sensorCard_entity entity state).2]
  have truthful : ¬ ((sensorCard entity state now).quality = .unavailable ∧ (sensorCard entity state now).freshness = .fresh) :=
    fun ⟨unavailable,fresh⟩ => (sensorCard_fresh fresh).1 unavailable
  rw [if_neg truthful]
  exact ⟨fun both => both.1.2,fun fits => ⟨⟨named,fits⟩,rfl⟩⟩

theorem grid_valid (named : ∀ entity ∈ device.sensors, 1 ≤ entity.label.utf8ByteSize) (few : device.sensors.length ≤ 32) :
    (Presentation.sensorGrid "Sensors" (sensorCards request device)).validate = .ok () ↔ LabelsFit device := by
  unfold Presentation.validate
  rw [checks_ok,if_neg (by rw [sensorCards,List.length_map]; omega),checks_all]
  constructor
  · intro ⟨_,all⟩ entity listed
    exact (card_valid (named entity listed)).mp (all _ (List.mem_map_of_mem listed))
  · intro fits
    refine ⟨by decide,fun card listed => ?_⟩
    obtain ⟨entity,present,rfl⟩ := List.mem_map.mp listed
    exact (card_valid (named entity present)).mpr (fits entity present)

end cards

section selection
variable {request : ResolutionRequest} {device : DirectoryDevice} {surface : Surface}

theorem chooseOne_iff {candidates : List DirectoryDevice} {code : ClarificationCode} :
    chooseOne candidates code = .ok device ↔ candidates = [device] := by
  refine ⟨chooseOne_ok,?_⟩
  rintro rfl
  rfl

-- Without a target the current device decides, where there is one.
theorem untargeted_selected {predicate : DirectoryDevice → Bool} :
    selectDevice request none (compatibleDevices request none predicate) = .ok device ↔
      request.directory.devices.filter (fun other => predicate other &&
        (currentDevice request).all fun deviceId => decide (other.deviceId = deviceId)) = [device] := by
  have everywhere : compatibleDevices request none predicate = request.directory.devices.filter predicate := by
    unfold compatibleDevices
    exact List.filter_eq_self.mpr fun _ _ => rfl
  rw [everywhere]
  unfold selectDevice
  cases current : currentDevice request with
  | none =>
    simp only [areaOf,Option.bind_none,Option.isSome_none,Bool.false_and,Bool.false_eq_true,↓reduceIte,Option.all_none,Bool.and_true]
    exact chooseOne_iff
  | some deviceId =>
    simp only [areaOf,Option.bind_none,Option.isSome_none,Bool.false_and,Bool.false_eq_true,↓reduceIte]
    have narrowed : (request.directory.devices.filter predicate).filter (fun other => decide (other.deviceId = deviceId)) =
        request.directory.devices.filter (fun other => predicate other &&
          (some deviceId).all fun deviceId => decide (other.deviceId = deviceId)) := by
      rw [List.filter_filter]
      exact List.filter_congr fun other _ => Bool.and_comm _ _
    refine ⟨fun chosen => narrowed ▸ chooseExact_ok chosen,fun one => ?_⟩
    unfold chooseExact
    dsimp only
    rw [narrowed,one]
    rfl

theorem untargeted_surface (one : gridSurfaces device.manifest = [surface]) :
    (∃ shown, selectSurface request none device .sensorGrid = .ok shown) ↔
      (currentSurface request device).all (fun surfaceId => surface.surfaceId = surfaceId) = true := by
  unfold gridSurfaces at one
  unfold selectSurface currentSurface
  dsimp only
  rw [one,Option.bind_none,Option.none_or]
  generalize (request.context.currentTarget.filter fun current => current.deviceId = some device.deviceId).bind
    CurrentTarget.surfaceId = current
  cases fits : current.all fun surfaceId => decide (surface.surfaceId = surfaceId) with
  | true | false => simp [fits]

end selection
section grid
variable {request : ResolutionRequest} {device : DirectoryDevice}

theorem manifest_entities {manifest : DeviceManifest} (valid : manifest.validate = .ok ()) :
    ∀ entity ∈ manifest.entities, entity.validate = .ok () := by
  unfold DeviceManifest.validate at valid
  simp only [checks_ok,checks_all] at valid
  exact valid.2.2.2.1

theorem sensors_named (valid : device.manifest.validate = .ok ()) :
    ∀ entity ∈ device.sensors, 1 ≤ entity.label.utf8ByteSize := by
  intro entity listed
  have checks := manifest_entities valid entity (List.mem_of_mem_filter listed)
  unfold Entity.validate at checks
  simp only [checks_ok,bounded_ok] at checks
  exact checks.2.1.1

-- A valid display capability shows at most 32 items.
theorem sensors_few (valid : device.manifest.validate = .ok ()) (fits : gridFits device = true) : device.sensors.length ≤ 32 := by
  obtain ⟨capability,listed,shows⟩ := List.any_eq_true.mp fits
  have checks := manifest_capabilities valid capability listed
  cases capability with
  | display views maxItems maxTextLength =>
    simp only [Bool.and_eq_true,decide_eq_true_eq] at shows
    change (if 3 < views.length ∨ maxItems = 0 ∨ 32 < maxItems ∨ maxTextLength = 0 ∨ 1024 < maxTextLength then _
      else _) = _ at checks
    split at checks
    · cases checks
    · rename_i bounds
      omega
  | _ => cases shows

theorem fits_supported : presentationSupported device.manifest (.sensorGrid "Sensors" (sensorCards request device)) =
    gridFits device := by
  unfold presentationSupported gridFits hasCapability
  refine List.any_congr rfl fun capability => ?_
  cases capability with
  | display views maxItems maxTextLength =>
    dsimp only
    rw [sensorCards,List.length_map]
  | _ => rfl

structure Display (device : DirectoryDevice) : Prop where
  valid : device.manifest.validate = .ok ()
  one : ∃ surface, gridSurfaces device.manifest = [surface]
  fits : gridFits device = true
  compatible : sensorDisplay device = true

theorem showsGrid_display (shows : showsGrid device = true) : Display device := by
  unfold showsGrid at shows
  simp only [Bool.and_eq_true,decide_eq_true_eq] at shows
  obtain ⟨⟨⟨⟨⟨online,valid⟩,role⟩,one⟩,some_⟩,fits⟩ := shows
  constructor
  case valid =>
    cases checks : device.manifest.validate with
    | error error =>
      rw [checks] at valid
      cases valid
    | ok done => rfl
  case one => exact List.length_eq_one_iff.mp one
  case fits => exact fits
  case compatible =>
    have capable : displayCapable device.manifest .sensorGrid = true := by
      unfold displayCapable
      rw [role,Bool.true_and]
      obtain ⟨capability,listed,shows⟩ := List.any_eq_true.mp fits
      refine List.any_eq_true.mpr ⟨capability,listed,?_⟩
      cases capability with
      | display views maxItems maxTextLength => exact (Bool.and_eq_true_iff.mp shows).1
      | _ => cases shows
    simp only [sensorDisplay,online,capable,some_,decide_true,Bool.and_true]

theorem ready_display (ready : GridReady request device) : Display device := by
  have listed : device ∈ request.directory.devices.filter showsGrid := by
    rw [ready.display]
    exact List.mem_singleton_self device
  exact showsGrid_display (List.mem_filter.mp listed).2

theorem ready_steps {print : Json → String} (ready : GridReady request device) :
    request.resolve print (.showSensors none) = .from
      (selectDevice request none (compatibleDevices request none sensorDisplay) >>= fun device =>
        selectSurface request none device .sensorGrid >>= fun surface =>
          displayPlan request device surface (.sensorGrid "Sensors" (sensorCards request device))) := by
  change (if request.actor.userId ≠ request.directory.ownerId then _ else _) = _
  rw [if_neg (not_not.mpr ready.owner)]
  change ResolutionResult.from (resolveSensors request none) = _
  unfold resolveSensors
  rw [requireScope_held (List.contains_iff_mem.mpr ready.reads),requireScope_held (List.contains_iff_mem.mpr ready.displays)]
  rfl

theorem displayPlan_supported {surface : Surface} {presentation : Presentation} (valid : presentation.validate = .ok ())
    (supported : presentationSupported device.manifest presentation = true) :
    displayPlan request device surface presentation = .ok (.plan
      ((commandPlan request device none (some surface) (.display presentation)).withPresentation presentation device.deviceId)) := by
  unfold displayPlan
  rw [valid,supported]
  rfl

theorem unrivalled_shown {print : Json → String} (ready : GridReady request device) (fit : LabelsFit device)
    (unrivalled : Unrivalled request device) :
    ∃ plan, request.resolve print (.showSensors none) = .plan plan ∧ ShowsSensors request device plan := by
  have display := ready_display ready
  obtain ⟨surface,one⟩ := display.one
  have chosen := untargeted_selected.mpr unrivalled.only
  obtain ⟨shown,selected⟩ := (untargeted_surface one).mpr (unrivalled.shown surface (one ▸ List.mem_singleton_self surface))
  have valid := (@grid_valid request device (sensors_named display.valid) (sensors_few display.valid display.fits)).mpr fit
  have planned := @displayPlan_supported request device shown _ valid (fits_supported.trans display.fits)
  rw [ready_steps ready,chosen]
  change ∃ plan, ResolutionResult.from (selectSurface request none device .sensorGrid >>= _) = _ ∧ _
  rw [selected]
  exact ⟨_,congrArg ResolutionResult.from planned,sensorCards request device,rfl,cards_grid,_,rfl,rfl,rfl⟩

theorem shown_unrivalled {print : Json → String} {plan : IntentPlan} (ready : GridReady request device)
    (resolved : request.resolve print (.showSensors none) = .plan plan) (shows : ShowsSensors request device plan) :
    LabelsFit device ∧ Unrivalled request device := by
  have display := ready_display ready
  obtain ⟨surface,one⟩ := display.one
  rw [ready_steps ready] at resolved
  obtain ⟨other,chosen,resolved⟩ := planned_bind selectDevice_unplanned resolved
  obtain ⟨shown,selected,resolved⟩ := planned_bind selectSurface_unplanned resolved
  obtain ⟨valid,_,commands⟩ := displayPlan_planned resolved
  obtain ⟨_,_,_,command,planned,target,_⟩ := shows
  rw [commands] at planned
  cases planned
  have only := untargeted_selected.mp chosen
  have mine : device ∈ request.directory.devices.filter showsGrid := by
    rw [ready.display]
    exact List.mem_singleton_self device
  have theirs : other ∈ [other] := List.mem_singleton_self other
  rw [← only,List.mem_filter,Bool.and_eq_true] at theirs
  have same : device = other := by
    refine List.mem_singleton.mp (only ▸ List.mem_filter.mpr ⟨(List.mem_filter.mp mine).1,?_⟩)
    rw [Bool.and_eq_true]
    refine ⟨display.compatible,?_⟩
    rw [← show other.deviceId = device.deviceId from target]
    exact theirs.2.2
  subst same
  refine ⟨(grid_valid (sensors_named display.valid) (sensors_few display.valid display.fits)).mp valid,only,?_⟩
  intro listed member
  rw [one] at member
  rw [List.mem_singleton.mp member]
  exact (untargeted_surface one).mp ⟨shown,selected⟩

end grid

-- A request without a target gets the grid of the one display exactly if each
-- label has the room that a card leaves it, and nothing rivals the device.
theorem sensors_shown_iff (print : Json → String) {request : ResolutionRequest} {device : DirectoryDevice}
    (ready : GridReady request device) :
    (∃ plan, request.resolve print (.showSensors none) = .plan plan ∧ ShowsSensors request device plan) ↔
      LabelsFit device ∧ Unrivalled request device :=
  ⟨fun ⟨_,resolved,shows⟩ => shown_unrivalled ready resolved shows,fun ⟨fit,unrivalled⟩ => unrivalled_shown ready fit unrivalled⟩

def labelledPanel (label : String) : DirectoryDevice :=
  ⟨⟨3⟩,⟨1,[.displaySurface],⟨1,[.display [.sensorGrid] 8 256]⟩,[{thermometer with label := label}],
    [⟨"panel.main",.display,"Panel",[.sensorGrid]⟩]⟩,true,none,[]⟩

def gridRequest (label : String) : ResolutionRequest :=
  ⟨⟨1,[.entityStateRead,.displayControl]⟩,⟨1,[labelledPanel label]⟩,⟨7⟩,⟨"1970-01-01T00:00:00Z",0⟩,⟨none,[]⟩⟩

theorem sensors_shown_iff_short : ∃ plan, (gridRequest "Temperature").resolve (fun _ => "") (.showSensors none) = .plan plan ∧
    ShowsSensors (gridRequest "Temperature") (labelledPanel "Temperature") plan :=
  (sensors_shown_iff (fun _ => "") ⟨rfl,rfl,by decide,by decide⟩).mpr
    ⟨by unfold LabelsFit; decide,rfl,by decide⟩

def longLabel : String := "Temperature of the water in the lower half of the tank in the cellar"

-- A label that the manifest may have takes the whole grid away.
theorem long_label_unshown : ¬ ∀ (print : Json → String) (request : ResolutionRequest) (device : DirectoryDevice),
    GridReady request device →
      ∃ plan, request.resolve print (.showSensors none) = .plan plan ∧ ShowsSensors request device plan := by
  intro all
  obtain ⟨plan,resolved,_⟩ := all (fun _ => "") (gridRequest longLabel) (labelledPanel longLabel)
    ⟨rfl,rfl,by decide,by decide⟩
  have refused : (gridRequest longLabel).resolve (fun _ => "") (.showSensors none) = .error (.ofCode .capabilityNotSupported) := rfl
  rw [refused] at resolved
  cases resolved

end DeviceControl
