import RockServer.DeviceControl

namespace DeviceControl

-- The checks of identifiers and declarations that manifests and command names
-- share. Text is looked at by its characters, lengths are in bytes.
def isAsciiLowercase (c : Char) : Bool := 'a' ≤ c && c ≤ 'z'

def namespacedPart : List Char → Bool
  | [] => false
  | c :: rest => isAsciiLowercase c && rest.all fun c => isAsciiLowercase c || StreamUri.isAsciiDigit c || c == '_'

def namespaced (value : String) : Bool :=
  let parts := value.toList.splitOn '.'
  2 ≤ parts.length && value.utf8ByteSize ≤ 96 && parts.all namespacedPart

def invalid (field : String) : Except ValidationError Unit := .error (.invalidPayload field)

-- An early return with the field at fault.
def refuse (bad : Bool) (field : String) : Except ValidationError Unit := if bad then invalid field else .ok ()

def validEntityId (value : String) : Except ValidationError Unit :=
  if !(3 ≤ value.utf8ByteSize && value.utf8ByteSize ≤ 128) || !namespaced value then invalid "id" else .ok ()

def unique {α : Type} [DecidableEq α] (values : List α) (field : String) : Except ValidationError Unit :=
  if values.Nodup then .ok () else invalid field

def list {α : Type} [DecidableEq α] (values : List α) (maximum : Nat) (field : String) : Except ValidationError Unit :=
  if maximum < values.length then invalid field else unique values field

def F64.le : F64 → F64 → Bool
  | .nan,_ | _,.nan => false
  | a,b => !b.lt a

def numbers (minimum maximum step : Option F64) : Except ValidationError Unit :=
  if [minimum,maximum,step].any fun bound => bound.any fun n => !n.isFinite then invalid "numeric bounds"
  else if step.any (fun s => s.le (.finite 0)) || (match minimum,maximum with
      | some a,some b => b.lt a
      | _,_ => false) then invalid "numeric bounds"
  else .ok ()

def Entity.validate (entity : Entity) : Except ValidationError Unit := do
  validEntityId entity.entityId
  bounded entity.label 1 128 "display_name"
  refuse (entity.staleAfterSeconds = 0 ∨ 86400 < entity.staleAfterSeconds) "stale_after_seconds"
  unique entity.allowedCommands "allowed_commands"
  numbers entity.minimum entity.maximum entity.step
  refuse (entity.controllable = entity.allowedCommands.isEmpty) "controllable"

def Surface.validate (surface : Surface) : Except ValidationError Unit := do
  validEntityId surface.surfaceId
  bounded surface.label 1 128 "display_name"
  refuse (3 < surface.views.length) "views"
  unique surface.views "views"

def extensionName : String := "names must be lowercase dotted namespaces"

def DeviceCapability.name : DeviceCapability → String
  | .playback _ => "media.playback"
  | .station _ => "media.station"
  | .volume _ _ => "media.volume"
  | .chromecast _ _ => "media.chromecast"
  | .relay _ _ => "media.relay"
  | .display _ _ _ => "display.presentation"
  | .sensor _ => "entity.sensor"
  | .actuator _ => "entity.actuator"
  | .voiceInput _ => "voice.input"
  | .unknown name _ _ => name

def DeviceCapability.validate : DeviceCapability → Except ValidationError Unit
  | .playback actions => list actions 5 "actions"
  | .station sources => list sources 2 "sources"
  | .volume step _ => if step = 0 then invalid "step" else .ok ()
  | .chromecast actions ttl =>
    if !(5 ≤ ttl && ttl ≤ 300) then invalid "discovery_ttl_seconds" else list actions 3 "actions"
  | .relay actions modes => do
    list actions 3 "actions"
    list modes 8 "modes"
  | .display views maxItems maxTextLength =>
    if 3 < views.length ∨ maxItems = 0 ∨ 32 < maxItems ∨ maxTextLength = 0 ∨ 1024 < maxTextLength then
      invalid "display capability"
    else .ok ()
  | .sensor entityClasses => list entityClasses 32 "entity_classes"
  | .actuator commands => list commands 3 "commands"
  | .voiceInput formats => list formats 4 "formats"
  | .unknown name version _ => if version = 0 ∨ !namespaced name then invalid extensionName else .ok ()

def DeviceCapabilities.validate (capabilities : DeviceCapabilities) : Except ValidationError Unit := do
  refuse (capabilities.revision = 0 ∨ 32 < capabilities.items.length) "capabilities"
  unique (capabilities.items.map DeviceCapability.name) "capability names"
  capabilities.items.forM DeviceCapability.validate

def DeviceManifest.validate (manifest : DeviceManifest) : Except ValidationError Unit := do
  refuse (manifest.manifestRevision = 0 ∨ 8 < manifest.roles.length ∨ 256 < manifest.entities.length
    ∨ 16 < manifest.surfaces.length) "manifest limits"
  unique manifest.roles "roles"
  manifest.capabilities.validate
  manifest.entities.forM Entity.validate
  manifest.surfaces.forM Surface.validate
  unique (manifest.entities.map Entity.entityId) "entity ids"
  unique (manifest.surfaces.map Surface.surfaceId) "surface ids"
  refuse (manifest.surfaces.any (fun surface => surface.kind = .display) ∧ DeviceRole.displaySurface ∉ manifest.roles)
    "display role"

section checks
variable {E : Type} {first second : Except E Unit}

theorem checks_ok : (first >>= fun _ => second) = .ok () ↔ first = .ok () ∧ second = .ok () := by
  cases first <;> simp [bind,Except.bind]

theorem bind_done {E A B : Type} {next : A → Except E B} {first : Except E A} {b : B} (done : first >>= next = .ok b) :
    ∃ a, first = .ok a ∧ next a = .ok b := by
  cases first with
  | error => cases done
  | ok a => exact ⟨a,rfl,done⟩

theorem checks_all {A : Type} {check : A → Except E Unit} {items : List A} :
    items.forM check = .ok () ↔ ∀ item ∈ items, check item = .ok () := by
  induction items with
  | nil => simp [pure,Except.pure]
  | cons item rest ih =>
    change (check item >>= fun _ => rest.forM check) = .ok () ↔ _
    rw [checks_ok,ih,List.forall_mem_cons]

theorem refuse_ok {bad : Bool} {field : String} : refuse bad field = .ok () ↔ bad = false := by
  cases bad <;> simp [refuse,invalid]

theorem unique_ok {α : Type} [DecidableEq α] {values : List α} {field : String} :
    unique values field = .ok () ↔ values.Nodup := by
  by_cases distinct : values.Nodup <;> simp [unique,distinct,invalid]

theorem find_distinct {A K : Type} [DecidableEq K] {key : A → K} {items : List A} {item : A}
    (distinct : (items.map key).Nodup) (listed : item ∈ items) :
    (items.find? fun other => key other = key item) = some item := by
  cases search : items.find? fun other => key other = key item with
  | none =>
    have absent := List.find?_eq_none.mp search item listed
    simp at absent
  | some other =>
    have same : key other = key item := by simpa using List.find?_some search
    exact congrArg some (List.inj_on_of_nodup_map distinct (List.mem_of_find?_eq_some search) listed same)

end checks

-- What a validated manifest promises the stores and the resolver.
theorem manifest_distinct {manifest : DeviceManifest} (valid : manifest.validate = .ok ()) :
    manifest.manifestRevision ≠ 0 ∧ (manifest.capabilities.items.map DeviceCapability.name).Nodup ∧
    (manifest.entities.map Entity.entityId).Nodup ∧ (manifest.surfaces.map Surface.surfaceId).Nodup := by
  unfold DeviceManifest.validate DeviceCapabilities.validate at valid
  simp only [checks_ok,refuse_ok,unique_ok,decide_eq_false_iff_not] at valid
  obtain ⟨limits,_,⟨_,names,_⟩,_,_,entities,surfaces,_⟩ := valid
  exact ⟨fun zero => limits (.inl zero),names,entities,surfaces⟩

theorem manifest_capabilities {manifest : DeviceManifest} (valid : manifest.validate = .ok ()) :
    ∀ capability ∈ manifest.capabilities.items, capability.validate = .ok () := by
  unfold DeviceManifest.validate DeviceCapabilities.validate at valid
  simp only [checks_ok,checks_all] at valid
  exact valid.2.2.1.2.2

end DeviceControl
