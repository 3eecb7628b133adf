import RockServer.ManifestStore

namespace DeviceControl

-- Capabilities read back from their JSON.
section values
variable (serde : Serde)

def unsignedBelow (bound : Nat) (value : Json) : Option Nat :=
  (decodeInteger serde value).bind fun n => if 0 ≤ n ∧ n < bound then some n.toNat else none

def asU64 (value : Json) : Option Nat := unsignedBelow serde (2 ^ 64) value

def decodeBelow (bound : Nat) (value : Json) : Decoded Nat := readOr (unsignedBelow serde bound value)

def ViewKind.decode : Json → Decoded ViewKind := decodeVariant [.text,.nowPlaying,.sensorGrid] ViewKind.name

def ActuatorAction.decode : Json → Decoded ActuatorAction := decodeVariant [.turnOn,.turnOff,.setValue] ActuatorAction.text

def decodeTexts : Json → Decoded (List String) := decodeVec decodeString

def capabilityNames : List String := ["media.playback","media.station","media.volume","display.presentation","entity.sensor",
  "voice.input","media.chromecast","media.relay","entity.actuator"]

-- The arms in the order of the source's match.
def DeviceCapability.ofParts (m : JsonMap) (name : String) (version : Nat) : Decoded DeviceCapability :=
  if name = "media.playback" then (get m "actions").bind decodeTexts |>.map .playback
  else if name = "media.station" then (get m "sources").bind decodeTexts |>.map .station
  else if name = "media.volume" then do
    let step ← (get m "step").bind (decodeBelow serde 256)
    let mute ← (get m "mute").bind decodeBool
    .ok (.volume step mute)
  else if name = "display.presentation" then do
    let views ← (get m "views").bind (decodeVec ViewKind.decode)
    let maxItems ← (get m "max_items").bind (decodeBelow serde 256)
    let maxTextLength ← (get m "max_text_length").bind (decodeBelow serde 65536)
    .ok (.display views maxItems maxTextLength)
  else if name = "entity.sensor" then (get m "entity_classes").bind decodeTexts |>.map .sensor
  else if name = "voice.input" then (get m "formats").bind decodeTexts |>.map .voiceInput
  else if name = "media.chromecast" then do
    let actions ← (get m "actions").bind decodeTexts
    let discoveryTtlSeconds ← (get m "discovery_ttl_seconds").bind (decodeBelow serde 65536)
    .ok (.chromecast actions discoveryTtlSeconds)
  else if name = "media.relay" then do
    let actions ← (get m "actions").bind decodeTexts
    let modes ← (get m "modes").bind decodeTexts
    .ok (.relay actions modes)
  else if name = "entity.actuator" then
    (get m "commands").bind (decodeVec ActuatorAction.decode) |>.map .actuator
  else .ok (.unknown name version m)

def DeviceCapability.ofMap (m : JsonMap) : Decoded DeviceCapability :=
  match (m.lookup "name").bind asStr with
  | none => .error (.custom "missing capability name")
  | some name => match (m.lookup "version").bind (asU64 serde) with
    | none => .error (.custom "missing capability version")
    | some version =>
      if 255 < version then .error (.custom "invalid capability version")
      else do
        let result ← DeviceCapability.ofParts serde m name version
        result.validate.mapError fun error => .custom error.code.text
        .ok result

def DeviceCapability.decode : Json → Decoded DeviceCapability
  | .object m => DeviceCapability.ofMap serde m
  | _ => .error .invalidType

end values

-- The objects of a value are maps: no key stands twice in them.
mutual
def Json.unique : Json → Bool
  | .array items => Json.uniqueItems items
  | .object fields => (fields.map Prod.fst).Nodup && Json.uniqueFields fields
  | _ => true
def Json.uniqueItems : List Json → Bool
  | [] => true
  | item :: rest => item.unique && Json.uniqueItems rest
def Json.uniqueFields : List (String × Json) → Bool
  | [] => true
  | (_,value) :: rest => value.unique && Json.uniqueFields rest
end

-- What was read is read again from what is written of it.
def Rereads {A : Type} (decode : Json → Decoded A) (toJson : A → Json) : Prop :=
  ∀ {value read}, value.unique = true → decode value = .ok read → decode (toJson read) = .ok read

section unique
variable {m : JsonMap} {items : List Json} {key : String} {value : Json}

theorem unique_item (unique : (Json.array items).unique = true) (listed : value ∈ items) : value.unique = true := by
  change Json.uniqueItems items = true at unique
  induction items with
  | nil => cases listed
  | cons item rest ih =>
    rw [Json.uniqueItems,Bool.and_eq_true] at unique
    rcases List.mem_cons.mp listed with rfl | listed
    · exact unique.1
    · exact ih listed unique.2

theorem unique_keys (unique : (Json.object m).unique = true) : (m.map Prod.fst).Nodup := by
  rw [Json.unique,Bool.and_eq_true] at unique
  exact of_decide_eq_true unique.1

theorem unique_field (unique : (Json.object m).unique = true) (held : m.lookup key = some value) : value.unique = true := by
  rw [Json.unique,Bool.and_eq_true] at unique
  have fields := unique.2
  clear unique
  induction m with
  | nil => cases held
  | cons entry rest ih =>
    obtain ⟨name,first⟩ := entry
    rw [Json.uniqueFields,Bool.and_eq_true] at fields
    by_cases same : key = name
    · subst same
      rw [List.lookup_cons_self] at held
      cases held
      exact fields.1
    · rw [List.lookup_cons,beq_false_of_ne same] at held
      exact ih held fields.2

end unique

section rereads
variable {A : Type} {decode : Json → Decoded A} {toJson : A → Json} {serde : Serde} {bound n : Nat} {value : Json}

theorem readOr_ok {found : Option A} {read : A} : readOr found = .ok read ↔ found = some read := by
  cases found <;> simp [readOr]

theorem unsignedBelow_number (small : n < bound) : unsignedBelow serde bound (number serde n) = some n := by
  have bounds : (0 : Int) ≤ n ∧ (n : Int) < bound := by omega
  simp only [unsignedBelow,decodeInteger,number,numberText,Option.bind_some,serde.readsInteger,if_pos bounds,Int.toNat_natCast]

theorem unsignedBelow_some (read : unsignedBelow serde bound value = some n) :
    n < bound ∧ ∃ text, value = .number text ∧ serde.readInteger text = some (n : Int) := by
  obtain ⟨i,found,small⟩ := Option.bind_eq_some_iff.mp read
  obtain ⟨text,printed,known⟩ := Option.bind_eq_some_iff.mp found
  split at small
  · rename_i bounds
    cases small
    cases value with
    | number text =>
      cases printed
      refine ⟨by omega,_,rfl,?_⟩
      rw [Int.toNat_of_nonneg bounds.1]
      exact known
    | _ => cases printed
  · cases small

theorem rereads_string : Rereads decodeString .string := fun _ _ => rfl

theorem rereads_bool : Rereads decodeBool .bool := fun _ _ => rfl

theorem rereads_below : Rereads (decodeBelow serde bound) (number serde) := by
  intro value read _ decoded
  rw [decodeBelow,readOr_ok] at decoded
  rw [decodeBelow,unsignedBelow_number (unsignedBelow_some decoded).1]
  rfl

theorem rereads_float : Rereads (decodeF64 serde) (F64.toJson serde) := by
  intro value read _ decoded
  obtain ⟨q,_,rfl⟩ := Option.map_eq_some_iff.mp (readOr_ok.mp decoded)
  exact decodeF64_finite serde q

theorem rereads_vec (reads : Rereads decode toJson) : Rereads (decodeVec decode) fun items => .array (items.map toJson) := by
  intro value items unique decoded
  cases value with
  | array values =>
    have each := fun value listed => @unique_item values value unique listed
    clear unique
    change values.mapM decode = .ok items at decoded
    change (items.map toJson).mapM decode = .ok items
    induction values generalizing items with
    | nil =>
      cases decoded
      rfl
    | cons value rest ih =>
      rw [List.mapM_cons] at decoded
      obtain ⟨item,first,decoded⟩ := bind_done decoded
      obtain ⟨others,later,decoded⟩ := bind_done decoded
      cases decoded
      rw [List.map_cons,List.mapM_cons,reads (each value List.mem_cons_self) first,
        ih (fun value listed => each value (List.mem_cons_of_mem _ listed)) later]
      rfl
  | _ => cases decoded

theorem rereads_variant {all : List A} {text : A → String}
    (named : ∀ variant ∈ all, (all.find? fun other => text other = text variant) = some variant) :
    Rereads (decodeVariant all text) fun variant => .string (text variant) := by
  intro value variant _ decoded
  have read {value : Json} (decoded : decodeNamed all text value = .ok variant) : variant ∈ all := by
    obtain ⟨name,_,found⟩ := Option.bind_eq_some_iff.mp (readOr_ok.mp decoded)
    exact List.mem_of_find?_eq_some found
  have listed : variant ∈ all := by
    unfold decodeVariant at decoded
    split at decoded <;> exact read decoded
  exact decodeNamed_text (named variant listed)

theorem rereads_texts : Rereads decodeTexts texts := rereads_vec rereads_string

theorem rereads_names {all : List A} {text : A → String}
    (named : ∀ variant ∈ all, (all.find? fun other => text other = text variant) = some variant) :
    Rereads (decodeVec (decodeVariant all text)) fun variants => texts (variants.map text) := by
  intro value variants unique decoded
  have again := rereads_vec (rereads_variant named) unique decoded
  change decodeVec _ (.array ((variants.map text).map .string)) = _
  rw [List.map_map]
  exact again

theorem rereads_views : Rereads (decodeVec ViewKind.decode) fun views => texts (views.map ViewKind.name) :=
  rereads_names (by decide)

theorem rereads_commands : Rereads (decodeVec ActuatorAction.decode) fun commands => texts (commands.map ActuatorAction.text) :=
  rereads_names (by decide)

end rereads

section parts
variable {A : Type} {serde : Serde} {m : JsonMap} {key name : String} {version : Nat} {capability : DeviceCapability}

theorem get_ok {value : Json} : get m key = .ok value ↔ m.lookup key = some value := by
  unfold get
  cases m.lookup key <;> simp

theorem reread_key (unique : (Json.object m).unique = true) {decode : Json → Decoded A} {toJson : A → Json}
    (reads : Rereads decode toJson) {read : A} (decoded : (get m key).bind decode = .ok read) :
    decode (toJson read) = .ok read := by
  obtain ⟨value,found,decoded⟩ := bind_done decoded
  exact reads (unique_field unique (get_ok.mp found)) decoded

theorem map_done {B : Type} {first : Decoded A} {next : A → B} {b : B} (done : first.map next = .ok b) :
    ∃ a, first = .ok a ∧ next a = b := by
  cases first with
  | error => cases done
  | ok a => exact ⟨a,rfl,Except.ok.inj done⟩

-- A capability of a known name is read again from what is written of it, whatever
-- else stood beside the keys that are read.
structure Known (serde : Serde) (name : String) (capability : DeviceCapability) : Prop where
  listed : name ∈ capabilityNames
  named : (capability.toMap serde).lookup "name" = some (.string name)
  first : (capability.toMap serde).lookup "version" = some (number serde 1)
  again : DeviceCapability.ofParts serde (capability.toMap serde) name 1 = .ok capability

theorem ofParts_cases (unique : (Json.object m).unique = true) (decoded : DeviceCapability.ofParts serde m name version = .ok capability) :
    Known serde name capability ∨ name ∉ capabilityNames ∧ capability = .unknown name version m := by
  unfold DeviceCapability.ofParts at decoded
  split at decoded
  · rename_i same
    obtain ⟨actions,read,rfl⟩ := map_done decoded
    subst same
    refine .inl ⟨by decide,rfl,rfl,?_⟩
    change (decodeTexts (texts actions)).map DeviceCapability.playback = _
    rw [reread_key unique rereads_texts read]
    rfl
  split at decoded
  · rename_i same
    obtain ⟨sources,read,rfl⟩ := map_done decoded
    subst same
    refine .inl ⟨by decide,rfl,rfl,?_⟩
    change (decodeTexts (texts sources)).map DeviceCapability.station = _
    rw [reread_key unique rereads_texts read]
    rfl
  split at decoded
  · rename_i same
    obtain ⟨step,first,decoded⟩ := bind_done decoded
    obtain ⟨mute,second,decoded⟩ := bind_done decoded
    cases decoded
    subst same
    refine .inl ⟨by decide,rfl,rfl,?_⟩
    change (decodeBelow serde 256 (number serde step)).bind (fun step =>
      (decodeBool (.bool mute)).bind fun mute => Except.ok (DeviceCapability.volume step mute)) = _
    rw [reread_key unique rereads_below first,reread_key unique rereads_bool second]
    rfl
  split at decoded
  · rename_i same
    obtain ⟨views,first,decoded⟩ := bind_done decoded
    obtain ⟨maxItems,second,decoded⟩ := bind_done decoded
    obtain ⟨maxTextLength,third,decoded⟩ := bind_done decoded
    cases decoded
    subst same
    refine .inl ⟨by decide,rfl,rfl,?_⟩
    change (decodeVec ViewKind.decode (texts (views.map ViewKind.name))).bind (fun views =>
      (decodeBelow serde 256 (number serde maxItems)).bind fun maxItems =>
      (decodeBelow serde 65536 (number serde maxTextLength)).bind fun maxTextLength =>
      Except.ok (DeviceCapability.display views maxItems maxTextLength)) = _
    rw [reread_key unique rereads_views first,reread_key unique rereads_below second,reread_key unique rereads_below third]
    rfl
  split at decoded
  · rename_i same
    obtain ⟨entityClasses,read,rfl⟩ := map_done decoded
    subst same
    refine .inl ⟨by decide,rfl,rfl,?_⟩
    change (decodeTexts (texts entityClasses)).map DeviceCapability.sensor = _
    rw [reread_key unique rereads_texts read]
    rfl
  split at decoded
  · rename_i same
    obtain ⟨formats,read,rfl⟩ := map_done decoded
    subst same
    refine .inl ⟨by decide,rfl,rfl,?_⟩
    change (decodeTexts (texts formats)).map DeviceCapability.voiceInput = _
    rw [reread_key unique rereads_texts read]
    rfl
  split at decoded
  · rename_i same
    obtain ⟨actions,first,decoded⟩ := bind_done decoded
    obtain ⟨ttl,second,decoded⟩ := bind_done decoded
    cases decoded
    subst same
    refine .inl ⟨by decide,rfl,rfl,?_⟩
    change (decodeTexts (texts actions)).bind (fun actions =>
      (decodeBelow serde 65536 (number serde ttl)).bind fun ttl => Except.ok (DeviceCapability.chromecast actions ttl)) = _
    rw [reread_key unique rereads_texts first,reread_key unique rereads_below second]
    rfl
  split at decoded
  · rename_i same
    obtain ⟨actions,first,decoded⟩ := bind_done decoded
    obtain ⟨modes,second,decoded⟩ := bind_done decoded
    cases decoded
    subst same
    refine .inl ⟨by decide,rfl,rfl,?_⟩
    change (decodeTexts (texts actions)).bind (fun actions =>
      (decodeTexts (texts modes)).bind fun modes => Except.ok (DeviceCapability.relay actions modes)) = _
    rw [reread_key unique rereads_texts first,reread_key unique rereads_texts second]
    rfl
  split at decoded
  · rename_i same
    obtain ⟨commands,read,rfl⟩ := map_done decoded
    subst same
    refine .inl ⟨by decide,rfl,rfl,?_⟩
    change (decodeVec ActuatorAction.decode (texts (commands.map ActuatorAction.text))).map DeviceCapability.actuator = _
    rw [reread_key unique rereads_commands read]
    rfl
  · cases decoded
    refine .inr ⟨?_,rfl⟩
    simp_all [capabilityNames]

end parts

section codec
variable {serde : Serde} {m : JsonMap} {capability : DeviceCapability}

-- What the decoder finds in an object that it accepts.
structure Read (serde : Serde) (m : JsonMap) (name : String) (version : Nat) (capability : DeviceCapability) : Prop where
  named : m.lookup "name" = some (.string name)
  versioned : (m.lookup "version").bind (asU64 serde) = some version
  small : version ≤ 255
  parts : DeviceCapability.ofParts serde m name version = .ok capability
  valid : capability.validate = .ok ()

theorem ofMap_ok : DeviceCapability.ofMap serde m = .ok capability ↔ ∃ name version, Read serde m name version capability := by
  constructor
  · intro accepted
    unfold DeviceCapability.ofMap at accepted
    split at accepted
    · cases accepted
    · rename_i name named
      split at accepted
      · cases accepted
      · rename_i version versioned
        split at accepted
        · cases accepted
        · rename_i small
          obtain ⟨result,parts,accepted⟩ := bind_done accepted
          obtain ⟨_,valid,accepted⟩ := bind_done accepted
          cases accepted
          obtain ⟨value,found,text⟩ := Option.bind_eq_some_iff.mp named
          refine ⟨name,version,?_,versioned,by omega,parts,?_⟩
          · cases value <;> cases text
            exact found
          · cases checked : capability.validate with
            | ok => rfl
            | error error =>
              rw [checked] at valid
              cases valid
  · rintro ⟨name,version,read⟩
    have within : ¬ 255 < version := by
      have := read.small
      omega
    simp only [DeviceCapability.ofMap,read.named,Option.bind_some,asStr,read.versioned,if_neg within,read.parts,bind,Except.bind,
      read.valid,Except.mapError]

theorem asU64_number {n : Nat} (small : n ≤ 255) : asU64 serde (number serde n) = some n := unsignedBelow_number (by omega)

theorem insertKey_same {key : String} {value : Json} (keys : (m.map Prod.fst).Nodup) (held : m.lookup key = some value) :
    insertKey key value m = m := by
  rw [insertKey,held,Option.isSome_some,if_pos rfl]
  refine (List.map_congr_left fun field listed => ?_).trans (List.map_id m)
  change (if field.1 = key then (key,value) else field) = field
  split
  · rename_i here
    induction m with
    | nil => cases listed
    | cons entry rest ih =>
      obtain ⟨name,first⟩ := entry
      obtain ⟨absent,keys⟩ := List.nodup_cons.mp keys
      by_cases same : key = name
      · subst same
        rw [List.lookup_cons_self] at held
        cases held
        rcases List.mem_cons.mp listed with rfl | listed
        · rfl
        · exact absurd (List.mem_map_of_mem listed) (here ▸ absent)
      · rw [List.lookup_cons,beq_false_of_ne same] at held
        rcases List.mem_cons.mp listed with rfl | listed
        · exact absurd here.symm same
        · exact ih keys held listed
  · rfl

-- Reading an object and writing what was read: nothing is lost of an extension,
-- and of the others neither the name nor the version.
structure Faithful (serde : Serde) (m : JsonMap) (capability : DeviceCapability) : Prop where
  again : DeviceCapability.decode serde (capability.toJson serde) = .ok capability
  name : (capability.toMap serde).lookup "name" = m.lookup "name"
  version : (capability.toMap serde).lookup "version" = m.lookup "version"
  whole : ∀ name, m.lookup "name" = some (.string name) → name ∉ capabilityNames → capability.toJson serde = .object m

-- The only version a built-in capability is written with.
def firstVersion (serde : Serde) (m : JsonMap) : Prop :=
  ∀ name ∈ capabilityNames, m.lookup "name" = some (.string name) → m.lookup "version" = some (number serde 1)

theorem known_again {name : String} {version : Nat} (read : Read serde m name version capability) (known : Known serde name capability) :
    DeviceCapability.ofMap serde (capability.toMap serde) = .ok capability := by
  refine ofMap_ok.mpr ⟨name,1,known.named,?_,by omega,known.again,read.valid⟩
  rw [known.first]
  exact asU64_number (by omega)

variable (printed : ∀ text n, serde.readInteger text = some n → serde.integer n = text)
include printed

theorem version_text {version : Nat} (versioned : (m.lookup "version").bind (asU64 serde) = some version) :
    m.lookup "version" = some (number serde version) := by
  obtain ⟨value,found,read⟩ := Option.bind_eq_some_iff.mp versioned
  obtain ⟨_,text,rfl,known⟩ := unsignedBelow_some read
  rw [found,number,printed text version known]

theorem extension_same {name : String} {version : Nat} (unique : (Json.object m).unique = true) (read : Read serde m name version capability)
    (same : capability = .unknown name version m) : capability.toMap serde = m := by
  subst same
  change insertKey "version" (number serde version) (insertKey "name" (.string name) m) = m
  rw [insertKey_same (unique_keys unique) read.named]
  exact insertKey_same (unique_keys unique) (version_text printed read.versioned)

theorem decode_again (unique : (Json.object m).unique = true) (accepted : DeviceCapability.ofMap serde m = .ok capability) :
    DeviceCapability.decode serde (capability.toJson serde) = .ok capability := by
  obtain ⟨name,version,read⟩ := ofMap_ok.mp accepted
  change DeviceCapability.ofMap serde (capability.toMap serde) = _
  rcases ofParts_cases unique read.parts with known | ⟨_,same⟩
  · exact known_again read known
  · rw [extension_same printed unique read same]
    exact accepted

theorem faithful_iff (unique : (Json.object m).unique = true) (accepted : DeviceCapability.ofMap serde m = .ok capability) :
    Faithful serde m capability ↔ firstVersion serde m := by
  obtain ⟨name,version,read⟩ := ofMap_ok.mp accepted
  have named {other : String} (found : m.lookup "name" = some (.string other)) : other = name := by
    cases read.named.symm.trans found
    rfl
  rcases ofParts_cases unique read.parts with known | ⟨unlisted,same⟩
  · constructor
    · intro faithful other _ _
      exact faithful.version.symm.trans known.first
    · intro first
      refine ⟨decode_again printed unique accepted,known.named.trans read.named.symm,?_,?_⟩
      · exact known.first.trans (first name known.listed read.named).symm
      · intro other found unlisted
        exact absurd known.listed (named found ▸ unlisted)
  · have whole := extension_same printed unique read same
    constructor
    · intro _ other listed found
      exact absurd (named found ▸ listed) unlisted
    · intro _
      refine ⟨decode_again printed unique accepted,by rw [whole],by rw [whole],?_⟩
      intro _ _ _
      rw [DeviceCapability.toJson,whole]

end codec

end DeviceControl
