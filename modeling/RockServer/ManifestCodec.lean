import RockServer.CapabilityCodec
import RockServer.ManifestProjection

namespace DeviceControl

-- Manifests read back from their JSON.
def DeviceRole.decode : Json → Decoded DeviceRole := decodeVariant [.controller,.player,.displaySurface,.voiceEndpoint,
  .sensorSource,.actuator,.integrationAdapter] DeviceRole.text

def EntityDomain.decode : Json → Decoded EntityDomain := decodeVariant [.sensor,.switch,.light,.mediaPlayer] EntityDomain.text

def SurfaceKind.decode : Json → Decoded SurfaceKind := decodeVariant [.display,.voice,.mobile] SurfaceKind.text

section decoders
variable (serde : Serde)

def decodeU32 : Json → Decoded Nat := decodeBelow serde (2 ^ 32)

def decodeU64 : Json → Decoded Nat := decodeBelow serde (2 ^ 64)

def Entity.decode (value : Json) : Decoded Entity := do
  let fields ← structFields ["entity_id","domain","device_class","display_name","readable","controllable","unit",
    "stale_after_seconds","allowed_commands","minimum","maximum","step"] 9 false value
  let entityId ← field fields "entity_id" decodeString
  let domain ← field fields "domain" EntityDomain.decode
  let deviceClass ← field fields "device_class" decodeString
  let label ← field fields "display_name" decodeString
  let readable ← field fields "readable" decodeBool
  let controllable ← field fields "controllable" decodeBool
  let unit ← optionField fields "unit" decodeString
  let staleAfterSeconds ← field fields "stale_after_seconds" (decodeU32 serde)
  let allowedCommands ← field fields "allowed_commands" (decodeVec ActuatorAction.decode)
  let minimum ← optionField fields "minimum" (decodeF64 serde)
  let maximum ← optionField fields "maximum" (decodeF64 serde)
  let step ← optionField fields "step" (decodeF64 serde)
  .ok ⟨entityId,domain,deviceClass,label,readable,controllable,unit,staleAfterSeconds,allowedCommands,minimum,maximum,step⟩

def Surface.decode (value : Json) : Decoded Surface := do
  let fields ← structFields ["surface_id","kind","display_name","views"] 4 false value
  let surfaceId ← field fields "surface_id" decodeString
  let kind ← field fields "kind" SurfaceKind.decode
  let label ← field fields "display_name" decodeString
  let views ← field fields "views" (decodeVec ViewKind.decode)
  .ok ⟨surfaceId,kind,label,views⟩

def DeviceCapabilities.decode (value : Json) : Decoded DeviceCapabilities := do
  let fields ← structFields ["revision","items"] 2 false value
  let revision ← field fields "revision" (decodeU64 serde)
  let items ← field fields "items" (decodeVec (DeviceCapability.decode serde))
  .ok ⟨revision,items⟩

def DeviceManifest.decode (value : Json) : Decoded DeviceManifest := do
  let fields ← structFields ["manifest_revision","roles","capabilities","entities","surfaces"] 5 false value
  let manifestRevision ← field fields "manifest_revision" (decodeU64 serde)
  let roles ← field fields "roles" (decodeVec DeviceRole.decode)
  let capabilities ← field fields "capabilities" (DeviceCapabilities.decode serde)
  let entities ← field fields "entities" (decodeVec (Entity.decode serde))
  let surfaces ← field fields "surfaces" (decodeVec Surface.decode)
  .ok ⟨manifestRevision,roles,capabilities,entities,surfaces⟩

end decoders

section fields
variable {A : Type} {decode : Json → Decoded A} {toJson : A → Json} {value : Json} {fields : JsonMap} {name key : String}
  {names : List String} {needed : Nat} {strict : Bool}

-- The fields of a value, each of which is unique when the value is.
def UniqueFields (fields : JsonMap) : Prop := ∀ key value, fields.lookup key = some value → value.unique = true

theorem lookup_zip {items : List Json} (held : (names.zip items).lookup key = some value) : value ∈ items := by
  induction names generalizing items with
  | nil => cases held
  | cons name rest ih =>
    cases items with
    | nil => cases held
    | cons item items =>
      by_cases same : key = name
      · subst same
        rw [List.zip_cons_cons,List.lookup_cons_self] at held
        cases held
        exact List.mem_cons_self
      · rw [List.zip_cons_cons,List.lookup_cons,beq_false_of_ne same] at held
        exact List.mem_cons_of_mem _ (ih held)

theorem structFields_unique (unique : value.unique = true) (read : structFields names needed strict value = .ok fields) :
    UniqueFields fields := by
  intro key held found
  unfold structFields at read
  split at read
  · split at read
    · cases read
    · cases read
      exact unique_field unique found
  · split at read
    · cases read
      exact unique_item unique (lookup_zip found)
    · cases read
  · cases read

theorem reread_field (unique : UniqueFields fields) (reads : Rereads decode toJson) {read : A}
    (decoded : field fields name decode = .ok read) : decode (toJson read) = .ok read := by
  unfold field at decoded
  split at decoded
  · rename_i found
    exact reads (unique _ _ found) decoded
  · cases decoded

-- An optional field that is left out when there is none.
theorem reread_option (unique : UniqueFields fields) (reads : Rereads decode toJson)
    (present : ∀ {value read}, decode value = .ok read → toJson read ≠ .null) {read : Option A}
    (decoded : optionField fields name decode = .ok read) (written : JsonMap) (left : written.lookup name = read.map toJson) :
    optionField written name decode = .ok read := by
  cases read with
  | none =>
    rw [optionField,left]
    rfl
  | some read =>
    unfold optionField at decoded
    split at decoded
    · rename_i found
      have inner {value : Json} (decoded : decodeOption decode value = .ok (some read)) : decode value = .ok read := by
        unfold decodeOption at decoded
        split at decoded
        · cases decoded
        · obtain ⟨_,done,same⟩ := map_done decoded
          cases same
          exact done
      have again := reads (unique _ _ found) (inner decoded)
      have shown := present (inner decoded)
      rw [optionField,left]
      change decodeOption decode (toJson read) = _
      unfold decodeOption
      split
      · rename_i null
        exact absurd null shown
      · rw [again]
        rfl
    · cases decoded

theorem lookup_omitNone {shown : Option Json} : (omitNone name shown).lookup key = if key = name then shown else none := by
  cases shown with
  | none => simp [omitNone]
  | some shown =>
    by_cases same : key = name
    · subst same
      simp [omitNone]
    · simp [omitNone,List.lookup_cons,beq_false_of_ne same,same]

end fields

section rereads
variable {serde : Serde}

theorem rereads_roles : Rereads (decodeVec DeviceRole.decode) fun roles => texts (roles.map DeviceRole.text) :=
  rereads_names (by decide)

theorem rereads_domain : Rereads EntityDomain.decode fun domain => .string domain.text := rereads_variant (by decide)

theorem rereads_kind : Rereads SurfaceKind.decode fun kind => .string kind.text := rereads_variant (by decide)

theorem rereads_u32 : Rereads (decodeU32 serde) (number serde) := rereads_below

theorem rereads_u64 : Rereads (decodeU64 serde) (number serde) := rereads_below

theorem float_present {value : Json} {read : F64} (decoded : decodeF64 serde value = .ok read) : read.toJson serde ≠ .null := by
  obtain ⟨q,_,rfl⟩ := Option.map_eq_some_iff.mp (readOr_ok.mp decoded)
  simp [F64.toJson]

theorem rereads_surface : Rereads Surface.decode Surface.toJson := by
  intro value surface unique decoded
  obtain ⟨fields,opened,decoded⟩ := bind_done decoded
  have unique := structFields_unique unique opened
  obtain ⟨surfaceId,_,decoded⟩ := bind_done decoded
  obtain ⟨kind,second,decoded⟩ := bind_done decoded
  obtain ⟨label,_,decoded⟩ := bind_done decoded
  obtain ⟨views,fourth,decoded⟩ := bind_done decoded
  cases decoded
  have kind_again := reread_field unique rereads_kind second
  have views_again := reread_field unique rereads_views fourth
  simp [Surface.decode,Surface.toJson,structFields,field,List.lookup_cons,bind,Except.bind,kind_again,views_again]

-- The fields of a written entity; the bounds are left out when there are none.
def Entity.toMap (serde : Serde) (entity : Entity) : JsonMap :=
  [("entity_id",.string entity.entityId),("domain",.string entity.domain.text),("device_class",.string entity.deviceClass),
    ("display_name",.string entity.label),("readable",.bool entity.readable),("controllable",.bool entity.controllable),
    ("unit",optional .string entity.unit),("stale_after_seconds",number serde entity.staleAfterSeconds),
    ("allowed_commands",texts (entity.allowedCommands.map ActuatorAction.text))] ++
  omitNone "minimum" (entity.minimum.map (F64.toJson serde)) ++
  omitNone "maximum" (entity.maximum.map (F64.toJson serde)) ++ omitNone "step" (entity.step.map (F64.toJson serde))

theorem entity_bounds (entity : Entity) : (entity.toMap serde).lookup "minimum" = entity.minimum.map (F64.toJson serde) ∧
    (entity.toMap serde).lookup "maximum" = entity.maximum.map (F64.toJson serde) ∧
    (entity.toMap serde).lookup "step" = entity.step.map (F64.toJson serde) := by
  simp [Entity.toMap,lookup_append,lookup_omitNone,List.lookup_cons]

-- An entity is read from its fields when each of them is.
theorem entity_decode {entity : Entity} (domain : EntityDomain.decode (.string entity.domain.text) = .ok entity.domain)
    (stale : decodeU32 serde (number serde entity.staleAfterSeconds) = .ok entity.staleAfterSeconds)
    (commands : decodeVec ActuatorAction.decode (texts (entity.allowedCommands.map ActuatorAction.text)) = .ok entity.allowedCommands)
    (minimum : optionField (entity.toMap serde) "minimum" (decodeF64 serde) = .ok entity.minimum)
    (maximum : optionField (entity.toMap serde) "maximum" (decodeF64 serde) = .ok entity.maximum)
    (step : optionField (entity.toMap serde) "step" (decodeF64 serde) = .ok entity.step) :
    Entity.decode serde (.object (entity.toMap serde)) = .ok entity := by
  have entityId : field (entity.toMap serde) "entity_id" decodeString = .ok entity.entityId := rfl
  have domain : field (entity.toMap serde) "domain" EntityDomain.decode = .ok entity.domain := domain
  have deviceClass : field (entity.toMap serde) "device_class" decodeString = .ok entity.deviceClass := rfl
  have label : field (entity.toMap serde) "display_name" decodeString = .ok entity.label := rfl
  have readable : field (entity.toMap serde) "readable" decodeBool = .ok entity.readable := rfl
  have controllable : field (entity.toMap serde) "controllable" decodeBool = .ok entity.controllable := rfl
  have unit : optionField (entity.toMap serde) "unit" decodeString = .ok entity.unit := decodeOption_string entity.unit
  have stale : field (entity.toMap serde) "stale_after_seconds" (decodeU32 serde) = .ok entity.staleAfterSeconds := stale
  have commands : field (entity.toMap serde) "allowed_commands" (decodeVec ActuatorAction.decode) = .ok entity.allowedCommands :=
    commands
  simp only [Entity.decode,structFields,Bool.false_and,Bool.false_eq_true,if_false,bind,Except.bind,entityId,domain,deviceClass,label,
    readable,controllable,unit,stale,commands,minimum,maximum,step]

theorem rereads_entity : Rereads (Entity.decode serde) (Entity.toJson serde) := by
  intro value entity unique decoded
  obtain ⟨fields,opened,decoded⟩ := bind_done decoded
  have unique := structFields_unique unique opened
  obtain ⟨entityId,_,decoded⟩ := bind_done decoded
  obtain ⟨domain,second,decoded⟩ := bind_done decoded
  obtain ⟨deviceClass,_,decoded⟩ := bind_done decoded
  obtain ⟨label,_,decoded⟩ := bind_done decoded
  obtain ⟨readable,_,decoded⟩ := bind_done decoded
  obtain ⟨controllable,_,decoded⟩ := bind_done decoded
  obtain ⟨unit,_,decoded⟩ := bind_done decoded
  obtain ⟨staleAfterSeconds,eighth,decoded⟩ := bind_done decoded
  obtain ⟨allowedCommands,ninth,decoded⟩ := bind_done decoded
  obtain ⟨minimum,tenth,decoded⟩ := bind_done decoded
  obtain ⟨maximum,eleventh,decoded⟩ := bind_done decoded
  obtain ⟨step,twelfth,decoded⟩ := bind_done decoded
  cases decoded
  obtain ⟨at_minimum,at_maximum,at_step⟩ := @entity_bounds serde ⟨entityId,domain,deviceClass,label,readable,controllable,unit,
    staleAfterSeconds,allowedCommands,minimum,maximum,step⟩
  apply entity_decode
  · exact reread_field unique rereads_domain second
  · exact reread_field unique rereads_u32 eighth
  · exact reread_field unique rereads_commands ninth
  · exact reread_option unique rereads_float float_present tenth _ at_minimum
  · exact reread_option unique rereads_float float_present eleventh _ at_maximum
  · exact reread_option unique rereads_float float_present twelfth _ at_step

section printed
variable (printed : ∀ text n, serde.readInteger text = some n → serde.integer n = text)
include printed

theorem rereads_capability : Rereads (DeviceCapability.decode serde) (DeviceCapability.toJson serde) := by
  intro value capability unique decoded
  cases value with
  | object m => exact decode_again printed unique decoded
  | _ => cases decoded

theorem rereads_capabilities : Rereads (DeviceCapabilities.decode serde) (DeviceCapabilities.toJson serde) := by
  intro value capabilities unique decoded
  obtain ⟨fields,opened,decoded⟩ := bind_done decoded
  have unique := structFields_unique unique opened
  obtain ⟨revision,first,decoded⟩ := bind_done decoded
  obtain ⟨items,second,decoded⟩ := bind_done decoded
  cases decoded
  have revision_again := reread_field unique rereads_u64 first
  have items_again := reread_field unique (rereads_vec (rereads_capability printed)) second
  simp [DeviceCapabilities.decode,DeviceCapabilities.toJson,structFields,field,List.lookup_cons,bind,Except.bind,revision_again,
    items_again]

theorem rereads_manifest : Rereads (DeviceManifest.decode serde) (DeviceManifest.toJson serde) := by
  intro value manifest unique decoded
  obtain ⟨fields,opened,decoded⟩ := bind_done decoded
  have unique := structFields_unique unique opened
  obtain ⟨manifestRevision,first,decoded⟩ := bind_done decoded
  obtain ⟨roles,second,decoded⟩ := bind_done decoded
  obtain ⟨capabilities,third,decoded⟩ := bind_done decoded
  obtain ⟨entities,fourth,decoded⟩ := bind_done decoded
  obtain ⟨surfaces,fifth,decoded⟩ := bind_done decoded
  cases decoded
  have revision_again := reread_field unique rereads_u64 first
  have roles_again := reread_field unique rereads_roles second
  have capabilities_again := reread_field unique (rereads_capabilities printed) third
  have entities_again := reread_field unique (rereads_vec rereads_entity) fourth
  have surfaces_again := reread_field unique (rereads_vec rereads_surface) fifth
  simp [DeviceManifest.decode,DeviceManifest.toJson,structFields,field,List.lookup_cons,bind,Except.bind,revision_again,roles_again,
    capabilities_again,entities_again,surfaces_again]

end printed
end rereads

section replay
variable {db : Jsonb} {serde : Serde} {s s' : ManifestStore} {now later : Instant} {user : Uuid} {device : DeviceId}
  {manifest : DeviceManifest}

theorem replaceManifest_devices (done : s.replaceManifest db serde now device manifest = .ok s') : s'.devices = s.devices := by
  obtain ⟨_,_,done⟩ := bind_done done
  obtain ⟨_,_,done⟩ := bind_done done
  obtain ⟨_,_,done⟩ := bind_done done
  obtain ⟨_,_,done⟩ := bind_done done
  cases done
  rfl

theorem accepted_devices (accepted : s.applyManifest db serde now user device manifest = (.ok .accepted,s')) :
    s'.owned user device = true := by
  unfold ManifestStore.applyManifest at accepted
  split at accepted
  · cases accepted
  split at accepted
  · cases accepted
  rename_i owns
  split at accepted
  · cases accepted
    simpa using owns
  split at accepted
  · cases accepted
    simpa using owns
  · rename_i done
    cases accepted
    rw [ManifestStore.owned,replaceManifest_devices done]
    simpa [ManifestStore.owned] using owns

-- A registration whose stored payload comes back as it was written.
theorem accepted_again (kept : db.store (manifest.toJson serde) = some (manifest.toJson serde))
    (accepted : s.applyManifest db serde now user device manifest = (.ok .accepted,s')) :
    s'.applyManifest db serde later user device manifest = (.ok .replay,s') := by
  have owns := accepted_devices accepted
  rcases @ManifestStore.apply_cases db serde s now user device manifest with ⟨_,valid,replaced⟩ | ⟨refused,_⟩
  · rw [accepted] at replaced
    obtain ⟨stored,stores,manifests⟩ := replaced.manifests
    cases kept.symm.trans stores
    have here : s'.manifests[device.uuid]? = some ⟨manifest.manifestRevision,manifest.toJson serde⟩ := by
      rw [manifests]
      exact Table.get_insert.trans (if_pos rfl)
    have same : outcome manifest.manifestRevision (manifest.toJson serde) manifest.manifestRevision (manifest.toJson serde) =
        some .replay := by
      rw [outcome,order_replay.mpr ⟨rfl,rfl⟩]
    simp only [ManifestStore.applyManifest,valid,owns,here,Option.bind_some,same,Bool.not_true,Bool.false_eq_true,if_false]
  · rw [accepted] at refused
    exact absurd rfl refused

end replay

-- A capability is carried faithfully unless it is a built-in one of another
-- version, which is rewritten to the first. What is stored is what was read,
-- and its registration is a replay.
theorem capability_codec {serde : Serde} (printed : ∀ text n, serde.readInteger text = some n → serde.integer n = text) :
    (∀ m capability, (Json.object m).unique = true → DeviceCapability.ofMap serde m = .ok capability →
      (Faithful serde m capability ↔ firstVersion serde m)) ∧
    ∀ value manifest, value.unique = true → DeviceManifest.decode serde value = .ok manifest →
      DeviceManifest.decode serde (manifest.toJson serde) = .ok manifest ∧
      ∀ (db : Jsonb) (s s' : ManifestStore) now later user device loaded, db.store (manifest.toJson serde) = some (manifest.toJson serde) →
        s.applyManifest db serde now user device manifest = (.ok .accepted,s') →
        DeviceManifest.decode serde (manifest.toJson serde) = .ok loaded →
        s'.applyManifest db serde later user device loaded = (.ok .replay,s') := by
  refine ⟨?_,?_⟩
  · intro m capability unique accepted
    exact faithful_iff printed unique accepted
  · intro value manifest unique decoded
    have again := rereads_manifest printed unique decoded
    refine ⟨again,?_⟩
    intro db s s' now later user device loaded kept accepted read
    cases again.symm.trans read
    exact accepted_again kept accepted

-- Numerals as they are printed, and no others.
def exactSerde : Serde := {sampleSerde with
  readInteger := fun text => (readInt text).filter fun n => n.repr = text
  readsInteger := fun n => Option.filter_eq_some_iff.mpr ⟨sampleSerde.readsInteger n,decide_eq_true rfl⟩}

theorem exactSerde_printed (text : String) (n : Int) (read : exactSerde.readInteger text = some n) : exactSerde.integer n = text := by
  have exact_ := (Option.filter_eq_some_iff.mp read).2
  exact of_decide_eq_true exact_

def playbackVersion (version : String) : JsonMap :=
  [("name",.string "media.playback"),("version",.number version),("actions",.array [.string "play"])]

theorem capability_codec_first :
    Faithful exactSerde (playbackVersion "1") (.playback ["play"]) ↔ firstVersion exactSerde (playbackVersion "1") :=
  (capability_codec exactSerde_printed).1 (playbackVersion "1") (.playback ["play"]) (by decide) (by decide)

-- The second version of a built-in capability is accepted and written as the first.
theorem second_version_lost : DeviceCapability.ofMap exactSerde (playbackVersion "2") = .ok (.playback ["play"]) ∧
    ¬ Faithful exactSerde (playbackVersion "2") (.playback ["play"]) := by
  refine ⟨by decide,fun faithful => ?_⟩
  have lost := faithful.version
  revert lost
  decide

end DeviceControl
