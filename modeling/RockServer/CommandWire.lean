import Mathlib.Data.Rat.Denumerable
import RockServer.CommandStore
import RockServer.ManifestRules

namespace DeviceControl

-- What the JSON library and its companions do with numbers, identifiers and
-- stamps: the texts they print and read. Printing is faithful.
structure Serde where
  integer : Int → String
  readInteger : String → Option Int
  float : ℚ → String
  readFloat : String → Option ℚ
  uuid : Uuid → String
  readUuid : String → Option Uuid
  readRfc3339 : String → Option Instant
  readsInteger : ∀ n, readInteger (integer n) = some n
  readsFloat : ∀ q, readFloat (float q) = some q
  readsUuid : ∀ id, readUuid (uuid id) = some id

-- A decoder's own message, or the library's complaint about a value's type.
inductive DecodeError where
  | custom (message : String)
  | invalidType
deriving DecidableEq, Repr

abbrev Decoded (A : Type) := Except DecodeError A

abbrev JsonMap := List (String × Json)

section values

def readOr {A : Type} : Option A → Decoded A
  | some value => .ok value
  | none => .error .invalidType

def asStr : Json → Option String
  | .string value => some value
  | _ => none

def decodeString (value : Json) : Decoded String := readOr (asStr value)

def decodeBool : Json → Decoded Bool
  | .bool value => .ok value
  | _ => .error .invalidType

-- `Option`: a null is none.
def decodeOption {A : Type} (decode : Json → Decoded A) : Json → Decoded (Option A)
  | .null => .ok none
  | value => (decode value).map some

def decodeVec {A : Type} (decode : Json → Decoded A) : Json → Decoded (List A)
  | .array items => items.mapM decode
  | _ => .error .invalidType

variable (serde : Serde)

def numberText : Json → Option String
  | .number text => some text
  | _ => none

def decodeInteger (value : Json) : Option Int := (numberText value).bind serde.readInteger

def decodeU8 (value : Json) : Decoded UInt8 :=
  readOr ((decodeInteger serde value).bind fun n => if 0 ≤ n ∧ n < 256 then some (UInt8.ofNat n.toNat) else none)

def decodeI8 (value : Json) : Decoded Int8 :=
  readOr ((decodeInteger serde value).bind fun n => if -128 ≤ n ∧ n < 128 then some (Int8.ofInt n) else none)

def decodeF64 (value : Json) : Decoded F64 :=
  readOr (((numberText value).bind serde.readFloat).map .finite)

-- Floats that are not finite have no number and become null.
def F64.toJson : F64 → Json
  | .finite value => .number (serde.float value)
  | _ => .null

def optional {A : Type} (toJson : A → Json) : Option A → Json
  | none => .null
  | some value => toJson value

def decodeUuid (value : Json) : Decoded Uuid := readOr ((asStr value).bind serde.readUuid)

def Timestamp.decode (value : Json) : Decoded Timestamp :=
  readOr ((asStr value).bind fun text => (serde.readRfc3339 text).map fun instant => ⟨text,instant⟩)

end values

-- A required and an optional key.
def get (m : JsonMap) (key : String) : Decoded Json :=
  match m.lookup key with
  | some value => .ok value
  | none => .error (.custom s!"missing {key}")

def getOptional {A : Type} (m : JsonMap) (key : String) (decode : Json → Decoded A) : Decoded (Option A) :=
  match m.lookup key with
  | some value => decode value |>.map some
  | none => .ok none

-- The fields of a derived struct: an object, or an array of its fields in
-- order, of which the last ones may be left out if they have defaults.
def structFields (names : List String) (needed : Nat) (denyUnknown : Bool) : Json → Decoded JsonMap
  | .object fields =>
    if denyUnknown && fields.any fun field => !names.contains field.1 then .error .invalidType else .ok fields
  | .array items =>
    if needed ≤ items.length ∧ items.length ≤ names.length then .ok (names.zip items) else .error .invalidType
  | _ => .error .invalidType

def field {A : Type} (fields : JsonMap) (name : String) (decode : Json → Decoded A) : Decoded A :=
  match fields.lookup name with
  | some value => decode value
  | none => .error .invalidType

-- An `Option` field that is absent is none, in an object.
def optionField {A : Type} (fields : JsonMap) (name : String) (decode : Json → Decoded A) : Decoded (Option A) :=
  match fields.lookup name with
  | some value => decodeOption decode value
  | none => .ok none

def StationPresentation.toJson (station : StationPresentation) : Json :=
  .object [("name",.string station.name),("icon_url",optional .string station.iconUrl)]

def StationPresentation.decode (value : Json) : Decoded StationPresentation := do
  let fields ← structFields ["name","icon_url"] 2 true value
  let name ← field fields "name" decodeString
  let iconUrl ← optionField fields "icon_url" decodeString
  .ok ⟨name,iconUrl⟩

def Quality.text : Quality → String
  | .ok => "ok"
  | .degraded => "degraded"
  | .unavailable => "unavailable"
  | .unknown => "unknown"

def Freshness.text : Freshness → String
  | .fresh => "fresh"
  | .stale => "stale"
  | .unknown => "unknown"

-- A derived unit enumeration is read back by its names.
def decodeNamed {A : Type} (all : List A) (text : A → String) (value : Json) : Decoded A :=
  readOr ((asStr value).bind fun name => all.find? fun variant => text variant = name)

-- A unit variant is its name, or an object of its name with nothing inside.
def decodeVariant {A : Type} (all : List A) (text : A → String) : Json → Decoded A
  | .object [(name,.null)] => decodeNamed all text (.string name)
  | value => decodeNamed all text value

def Quality.decode : Json → Decoded Quality := decodeVariant [.ok,.degraded,.unavailable,.unknown] Quality.text
def Freshness.decode : Json → Decoded Freshness := decodeVariant [.fresh,.stale,.unknown] Freshness.text

def SensorCard.toJson (card : SensorCard) : Json := .object [
  ("entity_id",.string card.entityId),("label",.string card.label),("value",card.value),
  ("unit",optional .string card.unit),("quality",.string card.quality.text),("freshness",.string card.freshness.text)]

def SensorCard.decode (value : Json) : Decoded SensorCard := do
  let fields ← structFields ["entity_id","label","value","unit","quality","freshness"] 6 false value
  let entityId ← field fields "entity_id" decodeString
  let label ← field fields "label" decodeString
  let shown ← field fields "value" .ok
  let unit ← optionField fields "unit" decodeString
  let quality ← field fields "quality" Quality.decode
  let freshness ← field fields "freshness" Freshness.decode
  .ok ⟨entityId,label,shown,unit,quality,freshness⟩

def StreamSource.asStr : StreamSource → String
  | .rockserverCatalog => catalogStationSource
  | .directStream => directStationSource

def ActuatorAction.text : ActuatorAction → String
  | .turnOn => "entity.turn_on"
  | .turnOff => "entity.turn_off"
  | .setValue => "entity.set_value"

section body
variable (serde : Serde)

def CommandBody.toMap : CommandBody → JsonMap
  | .playStation stationId => [("name",.string "station.play_station"),("station_id",.string stationId)]
  | .playStream source stationId station streamUri =>
    let value : JsonMap := match stationId with
      | some stationId => [("name",.string "station.play_stream"),("source",.string source.asStr),
          ("station_id",.string stationId),("stream_uri",.string streamUri)]
      | none => [("name",.string "station.play_stream"),("source",.string source.asStr),
          ("stream_uri",.string streamUri)]
    match station with
    | some station => value ++ [("station",station.toJson)]
    | none => value
  | .playback action => [("name",.string s!"playback.{action}")]
  | .volume (.setLevel level) => [("name",.string "volume.set_volume"),("level",.number (serde.integer level.toNat))]
  | .volume (.change delta) => [("name",.string "volume.change_volume"),("delta",.number (serde.integer delta.toInt))]
  | .volume (.setMute muted) => [("name",.string "volume.set_mute"),("muted",.bool muted)]
  | .actuator .setValue value => [("name",.string ActuatorAction.setValue.text),("value",optional (F64.toJson serde) value)]
  | .actuator action _ => [("name",.string action.text)]
  | .display (.text text) => [("name",.string "display.show_text"),("text",.string text)]
  | .display (.nowPlaying stationId title subtitle) => [("name",.string "display.show_view"),
      ("view",.string "now_playing"),("station_id",.string stationId),("title",.string title),
      ("subtitle",optional .string subtitle)]
  | .display (.sensorGrid title items) => [("name",.string "display.show_view"),("view",.string "sensor_grid"),
      ("title",.string title),("items",.array (items.map SensorCard.toJson))]
  | .unknown _ payload => payload

def startsWith (pattern text : List Char) : Bool := pattern.isPrefixOf text

-- `trim_start_matches` strips the pattern as often as it stands there; each
-- time the text gets shorter, so its length bounds the repetitions.
def trimStartMatches (pattern : List Char) : (rounds : Nat) → List Char → List Char
  | 0,text => text
  | rounds + 1,text =>
    if startsWith pattern text then trimStartMatches pattern rounds (text.drop pattern.length) else text

def playbackPrefix : List Char := "playback.".toList

def decodePlayStream (m : JsonMap) : Decoded CommandBody :=
  match (m.lookup "source").bind asStr with
  | some source =>
    if source = catalogStationSource then do
      let stationId ← (get m "station_id").bind decodeString
      let station ← getOptional m "station" StationPresentation.decode
      let streamUri ← (get m "stream_uri").bind decodeString
      .ok (.playStream .rockserverCatalog (some stationId) station streamUri)
    else if source = directStationSource then
      if (m.lookup "station_id").isSome then .error (.custom "invalid station echo")
      else if (m.lookup "station").isSome then .error (.custom "invalid station presentation")
      else do
        let streamUri ← (get m "stream_uri").bind decodeString
        .ok (.playStream .directStream none none streamUri)
    else .error (.custom "invalid stream source")
  | none => .error (.custom "invalid stream source")

def decodeShowView (m : JsonMap) : Decoded CommandBody :=
  match (m.lookup "view").bind asStr with
  | some view =>
    if view = "sensor_grid" then do
      let title ← (get m "title").bind decodeString
      let items ← (get m "items").bind (decodeVec SensorCard.decode)
      .ok (.display (.sensorGrid title items))
    else if view = "now_playing" then do
      let stationId ← (get m "station_id").bind decodeString
      let title ← (get m "title").bind decodeString
      -- The value behind the key is read as a string, not as an `Option`.
      let subtitle ← getOptional m "subtitle" decodeString
      .ok (.display (.nowPlaying stationId title subtitle))
    else .error (.custom "invalid display view")
  | none => .error (.custom "invalid display view")

-- The arms in the order of the source's match.
def CommandBody.ofMap (m : JsonMap) : Decoded CommandBody :=
  match (m.lookup "name").bind asStr with
  | none => .error (.custom "missing command name")
  | some name =>
    if name = "station.play_station" then (get m "station_id").bind decodeString |>.map .playStation
    else if name = "station.play_stream" then decodePlayStream m
    else if name = "display.show_text" then
      (get m "text").bind decodeString |>.map fun text => .display (.text text)
    else if name = "display.show_view" then decodeShowView m
    else if startsWith playbackPrefix name.toList then
      .ok (.playback (String.ofList (trimStartMatches playbackPrefix name.length name.toList)))
    else if name = "volume.set_volume" then
      (get m "level").bind (decodeU8 serde) |>.map fun level => .volume (.setLevel level)
    else if name = "volume.change_volume" then
      (get m "delta").bind (decodeI8 serde) |>.map fun delta => .volume (.change delta)
    else if name = "volume.set_mute" then
      (get m "muted").bind decodeBool |>.map fun muted => .volume (.setMute muted)
    else if name = "entity.turn_on" then .ok (.actuator .turnOn none)
    else if name = "entity.turn_off" then .ok (.actuator .turnOff none)
    else if name = "entity.set_value" then
      (get m "value").bind (decodeF64 serde) |>.map fun value => .actuator .setValue (some value)
    else if namespaced name then .ok (.unknown name m)
    else .error (.custom extensionName)

def CommandBody.toJson (body : CommandBody) : Json := .object (body.toMap serde)

def CommandBody.decode : Json → Decoded CommandBody
  | .object m => CommandBody.ofMap serde m
  | _ => .error .invalidType

end body

section command
variable (serde : Serde)

def omitNone (name : String) : Option Json → JsonMap
  | none => []
  | some value => [(name,value)]

def CommandTarget.toJson (target : CommandTarget) : Json := .object (
  ("device_id",.string (serde.uuid target.deviceId.uuid)) ::
  (omitNone "entity_id" (target.entityId.map .string) ++ omitNone "surface_id" (target.surfaceId.map .string)))

def CommandTarget.decode (value : Json) : Decoded CommandTarget := do
  let fields ← structFields ["device_id","entity_id","surface_id"] 1 true value
  let deviceId ← field fields "device_id" (decodeUuid serde)
  let entityId ← optionField fields "entity_id" decodeString
  let surfaceId ← optionField fields "surface_id" decodeString
  .ok ⟨⟨deviceId⟩,entityId,surfaceId⟩

def DeviceCommand.toJson (command : DeviceCommand) : Json := .object (
  [("command_id",.string (serde.uuid command.commandId.uuid)),("target",command.target.toJson serde)] ++
  omitNone "deadline_at" (command.deadlineAt.map fun deadline => .string deadline.text) ++
  [("body",command.body.toJson serde)])

def DeviceCommand.decode (value : Json) : Decoded DeviceCommand := do
  let fields ← structFields ["command_id","target","deadline_at","body"] 4 true value
  let commandId ← field fields "command_id" (decodeUuid serde)
  let target ← field fields "target" (CommandTarget.decode serde)
  let deadlineAt ← optionField fields "deadline_at" (Timestamp.decode serde)
  let body ← field fields "body" (CommandBody.decode serde)
  .ok ⟨⟨commandId⟩,target,deadlineAt,body⟩

def CommandStatus.text : CommandStatus → String
  | .succeeded => "succeeded"
  | .failed => "failed"

def DomainError.toJson (error : DomainError) : Json := .object [("code",.string error.code),
  ("message",.string error.message),("request_id",.string error.requestId),("details",.object error.details)]

def decodeMap : Json → Decoded JsonMap
  | .object fields => .ok fields
  | _ => .error .invalidType

def DomainError.decode (value : Json) : Decoded DomainError := do
  let fields ← structFields ["code","message","request_id","details"] 4 false value
  let code ← field fields "code" decodeString
  let message ← field fields "message" decodeString
  let requestId ← field fields "request_id" decodeString
  let details ← field fields "details" decodeMap
  .ok ⟨code,message,requestId,details⟩

def CommandResult.toJson (result : CommandResult) : Json := .object [
  ("command_id",.string (serde.uuid result.commandId.uuid)),("status",.string result.status.text),
  ("completed_at",.string result.completedAt.text),("error",optional DomainError.toJson result.error)]

def CommandResult.decode (value : Json) : Decoded CommandResult := do
  let fields ← structFields ["command_id","status","completed_at","error"] 4 false value
  let commandId ← field fields "command_id" (decodeUuid serde)
  let status ← field fields "status" (decodeVariant [.succeeded,.failed] CommandStatus.text)
  let completedAt ← field fields "completed_at" (Timestamp.decode serde)
  let error ← optionField fields "error" DomainError.decode
  .ok ⟨⟨commandId⟩,status,completedAt,error⟩

-- `load_command` with its payload columns: they hold what was serialized and
-- are decoded on the way out.
def StoreState.loadDecoded (s : StoreState) (user : Uuid) (device : DeviceId) (id : CommandId) :
    Except StoreError (Option CommandLifecycle) :=
  match s.loadCommand user device id with
  | none => .ok none
  | some row =>
    match DeviceCommand.decode serde (row.command.toJson serde),
        row.result.mapM fun result => CommandResult.decode serde (result.toJson serde) with
    | .ok command,.ok result => .ok (some ⟨command,result⟩)
    | _,_ => .error .database

end command

section round_trip
variable {A : Type} {decode : Json → Decoded A} {toJson : A → Json}

theorem decodeOption_optional (reads : ∀ value, decode (toJson value) = .ok value) (present : ∀ value, toJson value ≠ .null)
    (value : Option A) : decodeOption decode (optional toJson value) = .ok value := by
  cases value with
  | none => rfl
  | some value =>
    have taken : decodeOption decode (toJson value) = (decode (toJson value)).map some := by
      unfold decodeOption
      split
      · rename_i null
        exact absurd null (present value)
      · rfl
    change decodeOption decode (toJson value) = _
    rw [taken,reads]
    rfl

theorem decodeVec_array (reads : ∀ value, decode (toJson value) = .ok value) (items : List A) :
    decodeVec decode (.array (items.map toJson)) = .ok items := by
  unfold decodeVec
  dsimp only
  induction items with
  | nil => rfl
  | cons item rest ih =>
    rw [List.map_cons,List.mapM_cons,reads,ih]
    rfl

theorem decodeNamed_text {all : List A} {text : A → String} {variant : A}
    (found : (all.find? fun other => text other = text variant) = some variant) :
    decodeNamed all text (.string (text variant)) = .ok variant := by
  simp only [decodeNamed,asStr,Option.bind_some,found,readOr]

@[simp] theorem decodeString_string (value : String) : decodeString (.string value) = .ok value := rfl

@[simp] theorem decodeOption_string (value : Option String) :
    decodeOption decodeString (optional .string value) = .ok value :=
  decodeOption_optional (fun value => decodeString_string value) (fun value => by simp) value

@[simp] theorem quality_decode (quality : Quality) : Quality.decode (.string quality.text) = .ok quality :=
  decodeNamed_text (by cases quality <;> decide)

@[simp] theorem freshness_decode (freshness : Freshness) : Freshness.decode (.string freshness.text) = .ok freshness :=
  decodeNamed_text (by cases freshness <;> decide)

@[simp] theorem status_decode (status : CommandStatus) :
    decodeVariant [.succeeded,.failed] CommandStatus.text (.string status.text) = .ok status :=
  decodeNamed_text (by cases status <;> decide)

@[simp] theorem station_decode (station : StationPresentation) : StationPresentation.decode station.toJson = .ok station := by
  simp [StationPresentation.decode,StationPresentation.toJson,structFields,field,optionField,List.lookup_cons,bind,Except.bind]

@[simp] theorem sensorCard_decode (card : SensorCard) : SensorCard.decode card.toJson = .ok card := by
  simp [SensorCard.decode,SensorCard.toJson,structFields,field,optionField,List.lookup_cons,bind,Except.bind]

@[simp] theorem domainError_decode (error : DomainError) : DomainError.decode error.toJson = .ok error := by
  simp [DomainError.decode,DomainError.toJson,structFields,field,decodeMap,List.lookup_cons,bind,Except.bind]

variable (serde : Serde)

@[simp] theorem decodeUuid_uuid (id : Uuid) : decodeUuid serde (.string (serde.uuid id)) = .ok id := by
  simp [decodeUuid,asStr,readOr,serde.readsUuid]

@[simp] theorem decodeU8_integer (level : UInt8) : decodeU8 serde (.number (serde.integer level.toNat)) = .ok level := by
  have small : level.toNat < 256 := level.toNat_lt
  have bounds : (0 : Int) ≤ level.toNat ∧ (level.toNat : Int) < 256 := by omega
  simp only [decodeU8,decodeInteger,numberText,Option.bind_some,serde.readsInteger,if_pos bounds,readOr,Int.toNat_natCast,
    UInt8.ofNat_toNat]

@[simp] theorem decodeI8_integer (delta : Int8) : decodeI8 serde (.number (serde.integer delta.toInt)) = .ok delta := by
  have bounds : -128 ≤ delta.toInt ∧ delta.toInt < 128 := by
    have lower := delta.le_toInt
    have upper := delta.toInt_lt
    omega
  simp only [decodeI8,decodeInteger,numberText,Option.bind_some,serde.readsInteger,if_pos bounds,readOr,Int8.ofInt_toInt]

@[simp] theorem decodeF64_finite (value : ℚ) :
    decodeF64 serde (F64.toJson serde (.finite value)) = .ok (.finite value) := by
  simp [decodeF64,F64.toJson,numberText,serde.readsFloat,readOr]

end round_trip

-- A reader of decimal numerals, and with it one instance of the library.
def readNat (text : List Char) : Option Nat :=
  if text.all Char.isDigit && !text.isEmpty then some (Nat.ofDigitChars 10 text 0) else none

def readInt (text : String) : Option Int :=
  match text.toList with
  | '-' :: rest => (readNat rest).map fun n : Nat => -(n : Int)
  | digits => (readNat digits).map fun n : Nat => (n : Int)

theorem readNat_repr (n : Nat) : readNat n.repr.toList = some n := by
  have digits : n.repr.toList.all Char.isDigit = true := by
    rw [Nat.toList_repr,List.all_eq_true]
    exact fun c listed => Nat.isDigit_of_mem_toDigits (by omega) (by omega) listed
  have some_ : n.repr.toList.isEmpty = false := by
    rw [Nat.toList_repr]
    exact List.isEmpty_eq_false_iff.mpr Nat.toDigits_ne_nil
  rw [readNat,digits,some_,Nat.toList_repr]
  simp

theorem readInt_repr (n : Int) : readInt n.repr = some n := by
  cases n with
  | ofNat n =>
    unfold readInt
    rw [show (Int.ofNat n).repr = n.repr from rfl]
    split
    · rename_i rest minus
      have digit : Char.isDigit '-' = true := by
        refine Nat.isDigit_of_mem_toDigits (n := n) (b:=10) (by omega) (by omega) ?_
        rw [← Nat.toList_repr,minus]
        exact List.mem_cons_self
      cases digit
    · rw [readNat_repr]
      rfl
  | negSucc n =>
    have text : (Int.negSucc n).repr.toList = '-' :: (n + 1).repr.toList := by
      rw [show (Int.negSucc n).repr = "-" ++ (n + 1).repr from rfl,String.toList_append]
      rfl
    unfold readInt
    rw [text]
    change (readNat (n + 1).repr.toList).map (fun n : Nat => -(n : Int)) = _
    rw [readNat_repr]
    rfl

def uuidHead : String := "00000000-0000-0000-0000-00000000000"

-- Decimal numerals as they are printed everywhere, identifiers of one digit and
-- stamps of the first ten seconds; floats are printed by number.
def sampleSerde : Serde where
  integer := Int.repr
  readInteger := readInt
  float q := (Encodable.encode q).repr
  readFloat text := (readNat text.toList).bind Encodable.decode
  uuid id := uuidHead ++ id.repr
  readUuid text :=
    if startsWith uuidHead.toList text.toList then readNat (text.toList.drop uuidHead.toList.length) else none
  readRfc3339 text :=
    if text = "1970-01-01T00:00:01Z" then some (seconds 1)
    else if text = "1970-01-01T00:00:09Z" then some (seconds 9)
    else none
  readsInteger := readInt_repr
  readsFloat q := by rw [readNat_repr,Option.bind_some,Encodable.encodek]
  readsUuid id := by
    rw [String.toList_append,startsWith,List.isPrefixOf_iff_prefix.mpr (List.prefix_append _ _),if_pos rfl,
      List.drop_left,readNat_repr]

end DeviceControl
