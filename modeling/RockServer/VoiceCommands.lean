import RockServer.CommandRoundTrip
import RockServer.ManifestCodec
import RockServer.VoiceProtocol

-- What a language model makes of a transcript, and what of it is let through.
namespace VoiceInterpreter
open Ascending (ascending ascending_strict ascending_self mem_ascending)
open DeviceControl (Serde Json JsonMap Decoded structFields field optionField omitNone decodeTexts texts decodeString decodeVariant isWhitespace lookup_omitNone lookup_append decodeU8 decodeI8 decodeOption bind_done sampleSerde)
open RadioBrowser (toAsciiUppercase)
open Search (Unicode trim trim_again trim_solid trim_map validLanguage validCountry)
open StreamUri (toAsciiLowercase)
open Voice (Intent)

def maxQueryValues : Nat := 32
def maxQueryValueChars : Nat := 64

structure RadioQuery where
  genres : List String := []
  moods : List String := []
  similarTo : Option String := none
  language : Option String := none
  countryCode : Option String := none
deriving DecidableEq

-- A session keeps all of a command but its query.
structure VoiceCommand extends Voice.VoiceCommand where
  query : Option RadioQuery
deriving DecidableEq

structure CommandInterpretationError where
  message : String
deriving DecidableEq

abbrev Interpreted (A : Type) := Except CommandInterpretationError A

def normalizeOptional (value : Option String) : Option String := (value.map trim).filter (· ≠ "")

section normalize
variable (unicode : Unicode)

def normalizeList (values : List String) : Interpreted (List String) :=
  if maxQueryValues < values.length || values.any (maxQueryValueChars < ·.length) then
    .error ⟨"voice command contains an invalid search value"⟩
  else .ok (ascending ((values.map fun value => unicode.toLowercase (trim value)).filter (· ≠ "")))

def normalizeQuery (query : RadioQuery) : Interpreted RadioQuery := do
  let genres ← normalizeList unicode query.genres
  let moods ← normalizeList unicode query.moods
  let similarTo := normalizeOptional query.similarTo
  let language := (normalizeOptional query.language).map fun value => String.ofList (value.toList.map toAsciiLowercase)
  if language.any fun value => !validLanguage value then .error ⟨"voice command contains an invalid language"⟩
  else
    let countryCode := (normalizeOptional query.countryCode).map fun value => String.ofList (value.toList.map toAsciiUppercase)
    if countryCode.any fun value => !validCountry value then .error ⟨"voice command contains an invalid country code"⟩
    else .ok ⟨genres,moods,similarTo,language,countryCode⟩

def RadioQuery.blank (query : RadioQuery) : Bool :=
  query.genres.isEmpty && query.moods.isEmpty && query.similarTo.isNone && query.language.isNone && query.countryCode.isNone

-- The arms of the source's match, in their order. The two for volume commands
-- only catch malformed ones, so that a well-formed one falls through to the check
-- of commands without a payload.
def VoiceCommand.validate (command : VoiceCommand) : Interpreted VoiceCommand :=
  if command.intent = .playRadio then
    match command.query with
    | none => .error ⟨"play_radio requires query"⟩
    | some given => do
      let query ← normalizeQuery unicode given
      if query.blank then .error ⟨"play_radio requires at least one search criterion"⟩
      else if command.volumeDelta.isSome || command.volumeLevel.isSome then
        .error ⟨"play_radio must not include volume_delta"⟩
      else .ok {command with query := some query}
  else if command.intent = .volumeChange ∧
      (command.query.isSome || command.volumeDelta.all (· == 0) || command.volumeLevel.isSome) = true then
    .error ⟨"volume_change requires a non-zero volume_delta and no query"⟩
  else if command.intent = .setVolume ∧
      (command.query.isSome || command.volumeDelta.isSome || command.volumeLevel.all (100 < ·)) = true then
    .error ⟨"set_volume requires an absolute volume_level and no query"⟩
  else if command.query.isSome || command.volumeDelta.isSome || command.volumeLevel.isSome then
    .error ⟨"control command must not include query or volume_delta"⟩
  else .ok command

end normalize

section wire
variable (serde : Serde)

def intentName : Intent → String
  | .playRadio => "play_radio"
  | .stop => "stop"
  | .resume => "resume"
  | .nextStation => "next_station"
  | .previousStation => "previous_station"
  | .volumeChange => "volume_change"
  | .setVolume => "set_volume"
  | .addFavorite => "add_favorite"
  | .unknown => "unknown"

def intents : List Intent := [.playRadio,.stop,.resume,.nextStation,.previousStation,.volumeChange,.setVolume,.addFavorite,.unknown]

-- A derived decoder refuses a key that comes twice.
def distinctFields (names : List String) (needed : Nat) (value : Json) : Decoded JsonMap := do
  let fields ← structFields names needed true value
  if (fields.map Prod.fst).Nodup then .ok fields else .error .invalidType

-- A list that is absent is empty.
def listField (fields : JsonMap) (name : String) : Decoded (List String) :=
  match fields.lookup name with
  | some value => decodeTexts value
  | none => .ok []

def RadioQuery.decode (value : Json) : Decoded RadioQuery := do
  let fields ← distinctFields ["genres","moods","similar_to","language","country_code"] 0 value
  let genres ← listField fields "genres"
  let moods ← listField fields "moods"
  let similarTo ← optionField fields "similar_to" decodeString
  let language ← optionField fields "language" decodeString
  let countryCode ← optionField fields "country_code" decodeString
  .ok ⟨genres,moods,similarTo,language,countryCode⟩

def RadioQuery.toJson (query : RadioQuery) : Json := .object ([("genres",texts query.genres),("moods",texts query.moods)] ++
  omitNone "similar_to" (query.similarTo.map .string) ++ omitNone "language" (query.language.map .string) ++
  omitNone "country_code" (query.countryCode.map .string))

def VoiceCommand.decode (value : Json) : Decoded VoiceCommand := do
  let fields ← distinctFields ["intent","query","volume_delta","volume_level"] 1 value
  let intent ← field fields "intent" (decodeVariant intents intentName)
  let query ← optionField fields "query" RadioQuery.decode
  let volumeDelta ← optionField fields "volume_delta" (decodeI8 serde)
  let volumeLevel ← optionField fields "volume_level" (decodeU8 serde)
  .ok ⟨⟨intent,volumeDelta,volumeLevel⟩,query⟩

def VoiceCommand.toJson (command : VoiceCommand) : Json := .object ([("intent",.string (intentName command.intent))] ++
  omitNone "query" (command.query.map RadioQuery.toJson) ++
  omitNone "volume_delta" (command.volumeDelta.map fun delta => .number (serde.integer delta.toInt)) ++
  omitNone "volume_level" (command.volumeLevel.map fun level => .number (serde.integer level.toNat)))

end wire

section read
variable {serde : Serde}

theorem intent_read (intent : Intent) : decodeVariant intents intentName (.string (intentName intent)) = .ok intent :=
  DeviceControl.decodeNamed_text (by cases intent <;> decide)

theorem texts_decoded (values : List String) : decodeTexts (texts values) = .ok values :=
  DeviceControl.decodeVec_array DeviceControl.decodeString_string values

theorem query_read (query : RadioQuery) : RadioQuery.decode query.toJson = .ok query := by
  obtain ⟨genres,moods,similarTo,language,countryCode⟩ := query
  have first := texts_decoded genres
  have second := texts_decoded moods
  cases similarTo <;> cases language <;> cases countryCode <;>
    simp [RadioQuery.decode,RadioQuery.toJson,distinctFields,listField,optionField,omitNone,structFields,
      decodeOption,List.lookup_cons,first,second,bind,Except.bind,Except.map]

theorem option_read {A : Type} {decode : Json → Decoded A} {value : Json} {a : A} (reads : decode value = .ok a)
    (shown : value ≠ .null) : decodeOption decode value = .ok (some a) := by
  unfold decodeOption
  split
  · exact absurd rfl shown
  · rw [reads]
    rfl

-- What a key of a written object reads as.
theorem optional_read {A : Type} {decode : Json → Decoded A} {fields : JsonMap} {name : String} {toJson : A → Json}
    (reads : ∀ a, decode (toJson a) = .ok a) (shown : ∀ a, toJson a ≠ .null) (written : Option A)
    (listed : fields.lookup name = written.map toJson) : optionField fields name decode = .ok written := by
  unfold optionField
  rw [listed]
  cases written with
  | none => rfl
  | some a => exact option_read (reads a) (shown a)

theorem command_read (command : VoiceCommand) : VoiceCommand.decode serde (command.toJson serde) = .ok command := by
  obtain ⟨⟨intent,volumeDelta,volumeLevel⟩,query⟩ := command
  let fields : JsonMap := [("intent",.string (intentName intent))] ++ omitNone "query" (query.map RadioQuery.toJson) ++
    omitNone "volume_delta" (volumeDelta.map fun delta => .number (serde.integer delta.toInt)) ++
    omitNone "volume_level" (volumeLevel.map fun level => .number (serde.integer level.toNat))
  have known : distinctFields ["intent","query","volume_delta","volume_level"] 1 (.object fields) = .ok fields := by
    cases query <;> cases volumeDelta <;> cases volumeLevel <;>
      simp [fields,distinctFields,structFields,omitNone,bind,Except.bind]
  have named : field fields "intent" (decodeVariant intents intentName) = .ok intent := by
    simpa [fields,field,List.lookup_cons] using intent_read intent
  have asked : optionField fields "query" RadioQuery.decode = .ok query := by
    refine optional_read query_read (fun _ same => by cases same) query ?_
    simp [fields,lookup_append,lookup_omitNone,List.lookup_cons]
  have moved : optionField fields "volume_delta" (decodeI8 serde) = .ok volumeDelta := by
    refine @optional_read _ _ _ _ (fun delta => .number (serde.integer delta.toInt))
      (DeviceControl.decodeI8_integer serde) (fun _ same => by cases same) volumeDelta ?_
    simp [fields,lookup_append,lookup_omitNone,List.lookup_cons]
  have set : optionField fields "volume_level" (decodeU8 serde) = .ok volumeLevel := by
    refine @optional_read _ _ _ _ (fun level => .number (serde.integer level.toNat))
      (DeviceControl.decodeU8_integer serde) (fun _ same => by cases same) volumeLevel ?_
    simp [fields,lookup_append,lookup_omitNone,List.lookup_cons]
  change VoiceCommand.decode serde (.object fields) = _
  simp only [VoiceCommand.decode,known,named,asked,moved,set,bind,Except.bind]

end read

-- Lower case letters are lower case already, and no spaces.
structure Stable (unicode : Unicode) : Prop where
  lowered : ∀ text, unicode.toLowercase (unicode.toLowercase text) = unicode.toLowercase text
  trimmed : ∀ text, trim text = text → trim (unicode.toLowercase text) = unicode.toLowercase text

-- The bounds of the request's schema.
def Bounded (values : List String) : Prop :=
  values.length ≤ maxQueryValues ∧ ∀ value ∈ values, value.length ≤ maxQueryValueChars

-- A query whose values are short in their normal forms.
structure RadioQuery.Fits (unicode : Unicode) (query : RadioQuery) : Prop where
  values : ∀ value ∈ query.genres ++ query.moods, (unicode.toLowercase (trim value)).length ≤ maxQueryValueChars
  similarTo : ∀ value ∈ query.similarTo, (trim value).length ≤ maxQueryValueChars

section lists
variable {unicode : Unicode} {values normalized : List String}

theorem normalizeList_ok : normalizeList unicode values = .ok normalized ↔
    Bounded values ∧ normalized = ascending ((values.map fun value => unicode.toLowercase (trim value)).filter (· ≠ "")) := by
  unfold normalizeList Bounded
  split
  · rename_i bad
    simp only [Bool.or_eq_true,decide_eq_true_eq,List.any_eq_true] at bad
    constructor
    · intro impossible
      cases impossible
    · rintro ⟨⟨few,short⟩,_⟩
      rcases bad with many | ⟨value,listed,long⟩
      · omega
      · exact absurd (short value listed) (Nat.not_le_of_lt long)
  · rename_i fine
    simp only [Bool.or_eq_true,decide_eq_true_eq,List.any_eq_true,not_or,not_exists,not_and,Nat.not_lt] at fine
    constructor
    · intro done
      exact ⟨fine,(Except.ok.inj done).symm⟩
    · rintro ⟨_,rfl⟩
      rfl

theorem mem_normalized (done : normalizeList unicode values = .ok normalized) {value : String} :
    value ∈ normalized ↔ value ≠ "" ∧ ∃ given ∈ values, unicode.toLowercase (trim given) = value := by
  obtain ⟨_,rfl⟩ := Iff.mp normalizeList_ok done
  simp only [mem_ascending,List.mem_filter,List.mem_map,decide_eq_true_eq]
  exact and_comm

theorem normalized_length (done : normalizeList unicode values = .ok normalized) : normalized.length ≤ values.length := by
  obtain ⟨_,rfl⟩ := Iff.mp normalizeList_ok done
  refine le_trans (List.dedup_sublist _).length_le ?_
  rw [List.length_insertionSort]
  exact le_trans (List.length_filter_le _ _) (by simp)

theorem normalized_bounded (done : normalizeList unicode values = .ok normalized) :
    Bounded normalized ↔ ∀ value ∈ values, (unicode.toLowercase (trim value)).length ≤ maxQueryValueChars := by
  have few := le_trans (normalized_length done) (Iff.mp normalizeList_ok done).1.1
  constructor
  · intro bounded value listed
    by_cases empty : unicode.toLowercase (trim value) = ""
    · simp [empty]
    · exact bounded.2 _ ((mem_normalized done).mpr ⟨empty,value,listed,rfl⟩)
  · intro short
    refine ⟨few,fun value listed => ?_⟩
    obtain ⟨_,given,offered,rfl⟩ := (mem_normalized done).mp listed
    exact short given offered

-- What is normal and short is left alone.
theorem normalizeList_again (stable : Stable unicode) (done : normalizeList unicode values = .ok normalized)
    (bounded : Bounded normalized) : normalizeList unicode normalized = .ok normalized := by
  refine Iff.mpr normalizeList_ok ⟨bounded,Eq.symm ?_⟩
  have kept : ∀ value ∈ normalized, unicode.toLowercase (trim value) = value := by
    intro value listed
    obtain ⟨_,given,_,rfl⟩ := (mem_normalized done).mp listed
    rw [stable.trimmed _ (trim_again given),stable.lowered]
  have same : normalized.map (fun value => unicode.toLowercase (trim value)) = normalized :=
    (List.map_congr_left kept).trans (List.map_id _)
  have filled : normalized.filter (· ≠ "") = normalized :=
    List.filter_eq_self.mpr fun value listed => by simpa using ((mem_normalized done).mp listed).1
  rw [same,filled,ascending_self]
  obtain ⟨_,rfl⟩ := Iff.mp normalizeList_ok done
  exact ascending_strict _

theorem normalizeOptional_some {value : Option String} {normal : String} :
    normalizeOptional value = some normal ↔ normal ≠ "" ∧ ∃ given, value = some given ∧ trim given = normal := by
  simp only [normalizeOptional,Option.filter_eq_some_iff,Option.map_eq_some_iff,decide_eq_true_eq]
  exact and_comm

theorem normalizeOptional_again (value : Option String) : normalizeOptional (normalizeOptional value) = normalizeOptional value := by
  cases normal : normalizeOptional value with
  | none => rfl
  | some text =>
    obtain ⟨filled,given,_,rfl⟩ := Iff.mp normalizeOptional_some normal
    exact Iff.mpr normalizeOptional_some ⟨filled,trim given,rfl,trim_again given⟩

-- A code in its own letters is its own normal form.
theorem code_again {form : Char → Char} {code : String} (filled : code ≠ "")
    (plain : ∀ c ∈ code.toList, isWhitespace c = false ∧ form c = c) :
    (normalizeOptional (some code)).map (fun value => String.ofList (value.toList.map form)) = some code := by
  have kept : normalizeOptional (some code) = some code :=
    Iff.mpr normalizeOptional_some ⟨filled,code,rfl,trim_solid fun c inside => (plain c inside).1⟩
  have same : code.toList.map form = code.toList := (List.map_congr_left fun c inside => (plain c inside).2).trans (List.map_id _)
  rw [kept,Option.map_some,same,String.ofList_toList]

theorem small_plain {c : Char} (letter : 'a' ≤ c ∧ c ≤ 'z') : isWhitespace c = false ∧ toAsciiLowercase c = c := by
  have range : ∀ n ∈ List.range' 97 26, isWhitespace (Char.ofNat n) = false ∧
      toAsciiLowercase (Char.ofNat n) = Char.ofNat n := by decide
  have low : 97 ≤ c.toNat := letter.1
  have high : c.toNat ≤ 122 := letter.2
  have found := range c.toNat (List.mem_range'_1.mpr ⟨low,by omega⟩)
  rwa [Char.ofNat_toNat] at found

theorem capital_plain {c : Char} (letter : 'A' ≤ c ∧ c ≤ 'Z') : isWhitespace c = false ∧ toAsciiUppercase c = c := by
  have range : ∀ n ∈ List.range' 65 26, isWhitespace (Char.ofNat n) = false ∧
      toAsciiUppercase (Char.ofNat n) = Char.ofNat n := by decide
  have low : 65 ≤ c.toNat := letter.1
  have high : c.toNat ≤ 90 := letter.2
  have found := range c.toNat (List.mem_range'_1.mpr ⟨low,by omega⟩)
  rwa [Char.ofNat_toNat] at found

theorem language_again {code : String} (valid : validLanguage code = true) :
    (normalizeOptional (some code)).map (fun value => String.ofList (value.toList.map toAsciiLowercase)) = some code := by
  simp only [validLanguage,Bool.and_eq_true,decide_eq_true_eq,List.all_eq_true] at valid
  refine code_again ?_ fun c inside => small_plain (valid.2 c inside)
  rintro rfl
  exact absurd valid.1.1 (by decide)

theorem country_again {code : String} (valid : validCountry code = true) :
    (normalizeOptional (some code)).map (fun value => String.ofList (value.toList.map toAsciiUppercase)) = some code := by
  simp only [validCountry,Bool.and_eq_true,decide_eq_true_eq,List.all_eq_true] at valid
  refine code_again ?_ fun c inside => capital_plain (valid.2 c inside)
  rintro rfl
  exact absurd valid.1 (by decide)

end lists

section query
variable {unicode : Unicode} {given query : RadioQuery}

-- The inversion of one normalization.
structure Normalizes (unicode : Unicode) (given query : RadioQuery) : Prop where
  genres : normalizeList unicode given.genres = .ok query.genres
  moods : normalizeList unicode given.moods = .ok query.moods
  similarTo : query.similarTo = normalizeOptional given.similarTo
  language : query.language = (normalizeOptional given.language).map fun value => String.ofList (value.toList.map toAsciiLowercase)
  spoken : ∀ code ∈ query.language, validLanguage code = true
  countryCode : query.countryCode = (normalizeOptional given.countryCode).map fun value => String.ofList (value.toList.map toAsciiUppercase)
  placed : ∀ code ∈ query.countryCode, validCountry code = true

theorem any_refused {code : Option String} {valid : String → Bool} :
    (code.any fun value => !valid value) = false ↔ ∀ value ∈ code, valid value = true := by
  cases code <;> simp

theorem normalizeQuery_ok : normalizeQuery unicode given = .ok query ↔ Normalizes unicode given query := by
  unfold normalizeQuery
  constructor
  · intro done
    obtain ⟨genres,first,done⟩ := bind_done done
    obtain ⟨moods,second,done⟩ := bind_done done
    dsimp only at done
    split at done
    · cases done
    rename_i spoken
    split at done
    · cases done
    rename_i placed
    cases done
    exact ⟨first,second,rfl,rfl,Iff.mp any_refused (Bool.not_eq_true _ ▸ spoken),rfl,Iff.mp any_refused (Bool.not_eq_true _ ▸ placed)⟩
  · obtain ⟨genres,moods,similarTo,language,countryCode⟩ := query
    rintro ⟨first,second,rfl,rfl,spoken,rfl,placed⟩
    simp only [first,second,Iff.mpr any_refused spoken,Iff.mpr any_refused placed,bind,Except.bind,Bool.false_eq_true,if_false]

theorem Normalizes.again (normal : Normalizes unicode given query) (stable : Stable unicode) (genres : Bounded query.genres)
    (moods : Bounded query.moods) : Normalizes unicode query query := by
  refine ⟨normalizeList_again stable normal.genres genres,normalizeList_again stable normal.moods moods,?_,?_,normal.spoken,?_,
    normal.placed⟩
  · rw [normal.similarTo,normalizeOptional_again]
  · cases spoken : query.language with
    | none => rfl
    | some code => exact (language_again (normal.spoken code spoken)).symm
  · cases placed : query.countryCode with
    | none => rfl
    | some code => exact (country_again (normal.placed code placed)).symm

theorem Normalizes.similar_short (normal : Normalizes unicode given query) :
    (∀ value ∈ query.similarTo, value.length ≤ maxQueryValueChars) ↔
      ∀ value ∈ given.similarTo, (trim value).length ≤ maxQueryValueChars := by
  rw [normal.similarTo]
  constructor
  · intro short value held
    by_cases empty : trim value = ""
    · simp [empty]
    · exact short _ (Iff.mpr normalizeOptional_some ⟨empty,value,held,rfl⟩)
  · intro short value held
    obtain ⟨_,offered,asked,rfl⟩ := Iff.mp normalizeOptional_some held
    exact short offered asked

-- The bounds hold after normalization exactly where the normal forms are short.
theorem Normalizes.fits (normal : Normalizes unicode given query) : given.Fits unicode ↔
    Bounded query.genres ∧ Bounded query.moods ∧ ∀ value ∈ query.similarTo, value.length ≤ maxQueryValueChars := by
  rw [normalized_bounded normal.genres,normalized_bounded normal.moods,normal.similar_short]
  constructor
  · intro fits
    exact ⟨fun value listed => fits.values value (List.mem_append_left _ listed),
      fun value listed => fits.values value (List.mem_append_right _ listed),fits.similarTo⟩
  · rintro ⟨genres,moods,similarTo⟩
    exact ⟨fun value listed => (List.mem_append.mp listed).elim (genres value) (moods value),similarTo⟩

end query

section command
variable {unicode : Unicode} {serde : Serde} {command checked : VoiceCommand}

-- All that a validation can let through: a search with its query normalized, or
-- a control command without a payload.
theorem validate_cases (accepted : command.validate unicode = .ok checked) :
    (∃ given query, command.intent = .playRadio ∧ command.query = some given ∧ Normalizes unicode given query ∧
      query.blank = false ∧ command.volumeDelta = none ∧ command.volumeLevel = none ∧ checked = {command with query := some query}) ∨
    (command.intent ≠ .playRadio ∧ command.intent ≠ .volumeChange ∧ command.intent ≠ .setVolume ∧ command.query = none ∧
      command.volumeDelta = none ∧ command.volumeLevel = none ∧ checked = command) := by
  unfold VoiceCommand.validate at accepted
  split at accepted
  · rename_i played
    split at accepted
    · cases accepted
    rename_i given asked
    obtain ⟨query,normal,accepted⟩ := bind_done accepted
    split at accepted
    · cases accepted
    rename_i filled
    split at accepted
    · cases accepted
    rename_i silent
    simp only [Bool.or_eq_true,not_or,Bool.not_eq_true,Option.isSome_eq_false_iff,Option.isNone_iff_eq_none] at silent
    exact .inl ⟨given,query,played,asked,Iff.mp normalizeQuery_ok normal,by simpa using filled,silent.1,silent.2,
      (Except.ok.inj accepted).symm⟩
  · rename_i other
    split at accepted
    · cases accepted
    rename_i change
    split at accepted
    · cases accepted
    rename_i level
    split at accepted
    · cases accepted
    rename_i bare
    simp only [Bool.or_eq_true,not_or,Bool.not_eq_true,Option.isSome_eq_false_iff,Option.isNone_iff_eq_none] at bare
    obtain ⟨⟨query,volumeDelta⟩,volumeLevel⟩ := bare
    refine .inr ⟨other,fun same => change ⟨same,?_⟩,fun same => level ⟨same,?_⟩,query,volumeDelta,volumeLevel,
      (Except.ok.inj accepted).symm⟩
    · rw [volumeDelta]
      simp
    · rw [volumeLevel]
      simp

-- A validated command as its consumers take it.
structure VoiceCommand.Sound (serde : Serde) (unicode : Unicode) (command : VoiceCommand) : Prop where
  again : command.validate unicode = .ok command
  read : VoiceCommand.decode serde (command.toJson serde) = .ok command
  bounded : ∀ query ∈ command.query, Bounded query.genres ∧ Bounded query.moods ∧
    ∀ value ∈ query.similarTo, value.length ≤ maxQueryValueChars
  asked : command.query.isSome ↔ command.intent = .playRadio
  changed : command.volumeDelta.isSome ↔ command.intent = .volumeChange
  levelled : command.volumeLevel.isSome ↔ command.intent = .setVolume
  planned : ∀ deviceId message, Voice.deviceUserIntent command.toVoiceCommand deviceId ≠ .error (.invalidPayload,message)

-- Only the two volume intents can lack what they need.
theorem planned_other {command : Voice.VoiceCommand} (change : command.intent ≠ .volumeChange) (level : command.intent ≠ .setVolume)
    (deviceId : DeviceControl.Uuid) (message : String) : Voice.deviceUserIntent command deviceId ≠ .error (.invalidPayload,message) := by
  intro failed
  unfold Voice.deviceUserIntent at failed
  cases named : command.intent <;> simp_all

theorem search_again {query : RadioQuery} (played : command.intent = .playRadio) (normal : Normalizes unicode query query)
    (filled : query.blank = false) (change : command.volumeDelta = none) (level : command.volumeLevel = none) :
    VoiceCommand.validate unicode {command with query := some query} = .ok {command with query := some query} := by
  unfold VoiceCommand.validate
  simp only [played,Iff.mpr normalizeQuery_ok normal,filled,change,level,bind,Except.bind,if_true,Option.isSome_none,Bool.or_self,
    Bool.false_eq_true,if_false]

-- A command that passes stays as it is and in its bounds exactly where its
-- values are short in their normal forms.
theorem validated_sound (stable : Stable unicode) (accepted : command.validate unicode = .ok checked) :
    checked.Sound serde unicode ↔ ∀ query ∈ command.query, query.Fits unicode := by
  rcases validate_cases accepted with ⟨given,query,played,asked,normal,filled,change,level,rfl⟩ |
    ⟨other,apart,aside,bare,change,level,rfl⟩
  · rw [asked]
    constructor
    · intro sound given' same
      cases Option.mem_some.mp same
      exact normal.fits.mpr (sound.bounded query rfl)
    · intro fits
      have bounds := normal.fits.mp (fits given rfl)
      have again := normal.again stable bounds.1 bounds.2.1
      refine ⟨search_again played again filled change level,command_read _,fun other same => ?_,?_,?_,?_,?_⟩
      · cases Option.mem_some.mp same
        exact bounds
      · simp [played]
      · simp [played,change]
      · simp [played,level]
      · exact planned_other (by simp [played]) (by simp [played])
  · rw [bare]
    refine ⟨fun _ => nofun,fun _ => ⟨accepted,command_read _,by simp [bare],?_,?_,?_,planned_other apart aside⟩⟩
    · simp [bare,other]
    · simp [change,apart]
    · simp [level,aside]

-- No volume command gets through.
theorem volume_refused (accepted : command.validate unicode = .ok checked) :
    command.intent ≠ .volumeChange ∧ command.intent ≠ .setVolume := by
  rcases validate_cases accepted with ⟨_,_,played,_⟩ | ⟨_,apart,aside,_⟩
  · simp [played]
  · exact ⟨apart,aside⟩

end command

section letters
open Search.Letters (englishRussian small small_small small_white)

theorem letters_stable : Stable englishRussian := by
  refine ⟨fun text => ?_,fun text trimmed => ?_⟩
  · change String.ofList ((String.ofList (text.toList.map small)).toList.map small) = String.ofList (text.toList.map small)
    rw [String.toList_ofList,List.map_map]
    exact congrArg String.ofList (List.map_congr_left fun c _ => small_small c)
  · change trim (String.ofList (text.toList.map small)) = String.ofList (text.toList.map small)
    rw [trim_map small_white,trimmed]

def jazz : VoiceCommand := ⟨⟨.playRadio,none,none⟩,some {genres := [" Jazz ","jazz"],similarTo := some "Kino "}⟩
def jazzChecked : VoiceCommand := ⟨⟨.playRadio,none,none⟩,some {genres := ["jazz"],similarTo := some "Kino"}⟩

theorem jazz_accepted : jazz.validate englishRussian = .ok jazzChecked := by decide

theorem jazz_fits : ∀ query ∈ jazz.query, query.Fits englishRussian := by
  intro query same
  cases Option.mem_some.mp same
  exact ⟨by decide,by decide⟩

theorem validated_sound_jazz : jazzChecked.Sound sampleSerde englishRussian :=
  (validated_sound letters_stable jazz_accepted).mpr jazz_fits

def similar (artist : String) : VoiceCommand := ⟨⟨.playRadio,none,none⟩,some {similarTo := some artist}⟩

-- No check looks at the length of the artist's name.
theorem artist_accepted {unicode : Unicode} {artist : String} (kept : normalizeOptional (some artist) = some artist) :
    (similar artist).validate unicode = .ok (similar artist) := by
  have normal : Normalizes unicode {similarTo := some artist} {similarTo := some artist} :=
    ⟨rfl,rfl,kept.symm,rfl,nofun,rfl,nofun⟩
  have search := @search_again unicode (similar artist) _ rfl normal rfl rfl rfl
  exact search

theorem letters_kept {n : Nat} (some_ : n ≠ 0) :
    normalizeOptional (some (String.ofList (List.replicate n 'a'))) = some (String.ofList (List.replicate n 'a')) := by
  refine Iff.mpr normalizeOptional_some ⟨fun empty => ?_,_,rfl,trim_solid fun c inside => ?_⟩
  · have length := congrArg String.length empty
    rw [String.length_ofList,List.length_replicate] at length
    exact some_ length
  · rw [String.toList_ofList] at inside
    rw [List.eq_of_mem_replicate inside]
    decide

-- A name of 65 letters, which the schema rules out.
theorem artist_unbounded : ¬ ∀ (serde : Serde) (unicode : Unicode) (value : Json) (command checked : VoiceCommand), Stable unicode →
    VoiceCommand.decode serde value = .ok command → command.validate unicode = .ok checked → checked.Sound serde unicode := by
  intro all
  have sound := all sampleSerde englishRussian _ _ _ letters_stable
    (command_read (similar (String.ofList (List.replicate 65 'a')))) (artist_accepted (letters_kept (by decide)))
  have short := (sound.bounded _ rfl).2.2 _ rfl
  rw [String.length_ofList,List.length_replicate] at short
  exact absurd short (by decide)

end letters
end VoiceInterpreter
