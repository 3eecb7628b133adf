import RockServer.IntentResolution
import RockServer.PersonalData
import RockServer.StationRanking

-- What a voice session and its client say to each other, and what the session
-- checks before it believes it.
namespace Voice
open DeviceControl (Uuid Json DeviceId ActiveDevice CommandStatus UserIntent IntentTarget IntentErrorCode ErrorCode)
open Search (SearchQuery SearchConstraints)

def maxStreamAudioChunkBytes : Nat := 32 * 1024
def maxStreamAudioBytes : Nat := 2 * 1024 * 1024
def maxStreamAudioSeconds : Nat := 60
-- In milliseconds.
def streamIdleTimeout : Nat := 10000
def streamWallTimeout : Nat := 75000
def streamOperationTimeout : Nat := 15000

inductive SpeechRecognizerMode where
  | bufferedV1
  | streamingV3
deriving DecidableEq

inductive VoiceStreamErrorCode where
  | protocolError
  | validationFailed
  | speechProviderUnavailable
  | speechProviderError
  | speechTimeout
  | speechNotRecognized
  | voiceTimeout
  | audioChunkInvalid
  | audioTooLarge
  | cancelled
  | intentResolutionFailed
  | unsupportedIntent
  | clarificationRequired
  | stationNotFound
  | searchTimeout
  | searchUnavailable
  | targetOffline
  | capabilityNotSupported
  | favouriteLimitExceeded
  | forbidden
  | invalidPayload
  | commandTimeout
  | duplicateCommand
  | tooManyInFlight
  | persistenceUnavailable
  | internalError
deriving DecidableEq

inductive Intent where
  | playRadio
  | stop
  | resume
  | nextStation
  | previousStation
  | volumeChange
  | setVolume
  | addFavorite
  | unknown
deriving DecidableEq

structure VoiceCommand where
  intent : Intent
  volumeDelta : Option Int8
  volumeLevel : Option UInt8
deriving DecidableEq

structure TranscriptUpdate where
  transcript : String
  isFinal : Bool
deriving DecidableEq

structure VoiceStreamResultPayload (S : Type) where
  requestId : String
  intent : Option Intent
  transcript : String
  normalizedQuery : SearchQuery
  selectedStation : Option S
  stations : List S
deriving DecidableEq

inductive VoiceStreamServerEvent (S : Type) where
  | ready (requestId audioFormat : String) (sampleRateHz : UInt32) (sourceDeviceId : Option Uuid) (surfaceId : Option String)
  | transcript (requestId transcript : String) (isFinal : Bool)
  | result (result : VoiceStreamResultPayload S)
  | deviceResult (requestId : String) (status : CommandStatus) (intent : Intent)
  | error (code : VoiceStreamErrorCode) (message requestId : String) (details : Json)

inductive Frame where
  | ready
  | transcript
  | result
  | deviceResult
  | error
deriving DecidableEq

def VoiceStreamServerEvent.frame {S : Type} : VoiceStreamServerEvent S → Frame
  | .ready .. => .ready
  | .transcript .. => .transcript
  | .result .. => .result
  | .deviceResult .. => .deviceResult
  | .error .. => .error

def Frame.terminal : Frame → Bool
  | .ready | .transcript => false
  | .result | .deviceResult | .error => true

-- Details of a refused field, under its name.
abbrev Details := Table String String

def Details.json (details : Details) : Json := .object (details.toList.map fun entry => (entry.1,.string entry.2))

structure SearchRequestDto where
  query : String
  locale : Option String
  limit : Option UInt8
  offset : Option Nat
  excludeStationIds : List String

structure ValidatedSearchRequest where
  query : String
  locale : String
  limit : Nat
  offset : Nat
  excludeStationIds : List String
deriving DecidableEq

def isValidLocale (locale : String) : Bool :=
  match locale.toList.splitOnP (· == '-') with
  | [] => false
  | language :: subtags =>
    2 ≤ language.length && language.length ≤ 3 && language.all Char.isAlpha &&
      subtags.all fun subtag => 2 ≤ subtag.length && subtag.length ≤ 8 && subtag.all Char.isAlphanum

def refuseIf (refused : Bool) (field message : String) (details : Details) : Details :=
  if refused then details.insert field message else details

-- A later message about a field replaces the earlier one. The set of excluded
-- stations is a list without repetitions.
def ValidatedSearchRequest.tryFrom (value : SearchRequestDto) : Except Details ValidatedSearchRequest :=
  let query := Search.trim value.query
  let locale := value.locale.getD "en-US"
  let limit := value.limit.getD 10
  let ids := value.excludeStationIds.dedup
  let offset := value.offset.getD 0
  let details := refuseIf (query = "") "query" "must not be empty or whitespace only" ∅
  let details := refuseIf (500 < query.length) "query" "must contain at most 500 characters" details
  let details := refuseIf (!isValidLocale locale) "locale" "must be a BCP 47-style locale" details
  let details := refuseIf (limit < 1 || 50 < limit) "limit" "must be between 1 and 50" details
  let details := refuseIf (100 < value.excludeStationIds.length) "exclude_station_ids"
    "must contain at most 100 station IDs" details
  let details := refuseIf (ids.length ≠ value.excludeStationIds.length) "exclude_station_ids"
    "must not contain duplicate station IDs" details
  let details := refuseIf (ids.any fun id => id = "" || 128 < id.length) "exclude_station_ids"
    "each station ID must contain between 1 and 128 characters" details
  let details := refuseIf (10000 < offset) "offset" "must be at most 10000" details
  if details.isEmpty then .ok ⟨query,locale,limit.toNat,offset,ids⟩ else .error details

structure VoiceStreamStartDto where
  locale : Option String
  sampleRateHz : UInt32
  surfaceId : Option String
  recognizerMode : Option String
  limit : Option UInt8
  excludeStationIds : List String

structure ValidatedVoiceStreamStart where
  locale : String
  sampleRateHz : UInt32
  surfaceId : Option String
  recognizerMode : SpeechRecognizerMode
  limit : Nat
  excludeStationIds : List String
deriving DecidableEq

-- The JSON library on the texts of a client. The tag of a message decides which
-- of the three it can be.
structure Codec where
  start : String → Except String VoiceStreamStartDto
  isCommit : String → Bool
  isCancel : String → Bool
  apart : ∀ text dto, start text = .ok dto → isCommit text = false ∧ isCancel text = false

def recognizerModeOf : Option String → Option SpeechRecognizerMode
  | none => some .bufferedV1
  | some mode =>
    if mode = "buffered_v1" then some .bufferedV1
    else if mode = "streaming_v3" then some .streamingV3
    else none

def ValidatedVoiceStreamStart.tryFrom (value : VoiceStreamStartDto) : Except Details ValidatedVoiceStreamStart :=
  let mode := recognizerModeOf value.recognizerMode
  let details := refuseIf mode.isNone "recognizer_mode" "must be buffered_v1 or streaming_v3" ∅
  let details := refuseIf (value.sampleRateHz ≠ 16000) "sample_rate_hz" "must equal 16000" details
  let details := refuseIf (value.surfaceId.any (· ≠ "voice.main")) "surface_id" "must equal voice.main" details
  match ValidatedSearchRequest.tryFrom ⟨"stream",value.locale,value.limit,none,value.excludeStationIds⟩ with
  | .ok validated =>
    if details.isEmpty then
      .ok ⟨validated.locale,value.sampleRateHz,value.surfaceId,mode.getD .bufferedV1,min validated.limit 10,
        validated.excludeStationIds⟩
    else .error details
  | .error searchDetails =>
    .error ((searchDetails.erase "query").toList.foldl (fun details entry => details.insert entry.1 entry.2) details)

def parseStreamStart (codec : Codec) (text : String) : Except Json ValidatedVoiceStreamStart :=
  match codec.start text with
  | .error error => .error (.object [("start",.string ("must be valid JSON: " ++ error))])
  | .ok request => (ValidatedVoiceStreamStart.tryFrom request).mapError Details.json

def newestFinalTranscript (updates : List TranscriptUpdate) : Option String :=
  ((updates.reverse.find? TranscriptUpdate.isFinal).map fun update => Search.trim update.transcript).filter (· ≠ "")

structure DeviceControlPrincipal where
  userId : Uuid
  deviceId : Uuid
deriving DecidableEq

def validateDeviceVoiceStart (active : Option ActiveDevice) (start : ValidatedVoiceStreamStart) :
    Except (VoiceStreamErrorCode × String) Unit :=
  if start.surfaceId ≠ some "voice.main" then
    .error (.validationFailed,"A device voice session requires the voice.main surface.")
  else match active with
    | none => .error (.targetOffline,"The source device is offline.")
    | some active =>
      let voiceSurface := active.manifest.surfaces.any fun surface =>
        surface.surfaceId = "voice.main" && surface.kind = .voice
      let voiceInput := active.manifest.capabilities.items.any fun
        | .voiceInput formats => formats.contains "pcm16_mono_16000"
        | _ => false
      if !active.manifest.roles.contains .voiceEndpoint || !voiceSurface || !voiceInput then
        .error (.capabilityNotSupported,"The source device does not support this voice surface.")
      else .ok ()

def deviceUserIntent (command : VoiceCommand) (deviceId : Uuid) : Except (VoiceStreamErrorCode × String) UserIntent :=
  let target : Option IntentTarget := some ⟨some ⟨deviceId⟩,none,none⟩
  match command.intent with
  | .stop => .ok (.media .stop target)
  | .resume => .ok (.media .play target)
  | .nextStation => .ok (.media .next target)
  | .previousStation => .ok (.media .previous target)
  | .volumeChange => match command.volumeDelta with
    | some delta => .ok (.media (.changeVolume delta) target)
    | none => .error (.invalidPayload,"The volume command is invalid.")
  | .setVolume => match command.volumeLevel with
    | some level => .ok (.media (.setVolume level) target)
    | none => .error (.invalidPayload,"The volume command is invalid.")
  | .playRadio | .addFavorite | .unknown => .error (.unsupportedIntent,"This voice intent is not supported.")

def mapIntentError : IntentErrorCode → VoiceStreamErrorCode × String
  | .targetOffline => (.targetOffline,"The target device is offline.")
  | .capabilityNotSupported => (.capabilityNotSupported,"The target does not support this command.")
  | .forbidden => (.forbidden,"The voice command is not permitted.")
  | .invalidIntent => (.invalidPayload,"The voice command is invalid.")
  | .stateUnavailable | .unsupportedSelector => (.unsupportedIntent,"This voice intent is not supported.")

def mapCommandError : ErrorCode → VoiceStreamErrorCode × String
  | .targetOffline => (.targetOffline,"The target device is offline.")
  | .capabilityNotSupported => (.capabilityNotSupported,"The target does not support this command.")
  | .forbidden => (.forbidden,"The voice command is not permitted.")
  | .invalidPayload => (.invalidPayload,"The device command is invalid.")
  | .commandTimeout => (.commandTimeout,"The device command timed out.")
  | .duplicateCommand => (.duplicateCommand,"The device command could not be admitted.")
  | .tooManyInFlight => (.tooManyInFlight,"The device is busy.")
  | .persistenceUnavailable => (.persistenceUnavailable,"Voice command state is temporarily unavailable.")
  | .unsupportedCommand | .staleRevision => (.internalError,"The voice command could not be executed.")

section start
variable {codec : Codec} {text : String} {start : ValidatedVoiceStreamStart} {dto : VoiceStreamStartDto}

-- Whatever else the checks do, the surface is the announced one.
theorem tryFrom_surface (valid : ValidatedVoiceStreamStart.tryFrom dto = .ok start) : start.surfaceId = dto.surfaceId := by
  unfold ValidatedVoiceStreamStart.tryFrom at valid
  dsimp only at valid
  split at valid
  · split at valid
    · cases Except.ok.inj valid
      rfl
    · cases valid
  · cases valid

def announces (codec : Codec) (text : String) : Bool :=
  match codec.start text with
  | .ok dto => dto.surfaceId = some "voice.main"
  | .error _ => false

theorem parse_announces (parsed : parseStreamStart codec text = .ok start) :
    (announces codec text = decide (start.surfaceId = some "voice.main")) ∧
      codec.isCommit text = false ∧ codec.isCancel text = false := by
  unfold parseStreamStart at parsed
  cases read : codec.start text with
  | error error =>
    rw [read] at parsed
    cases parsed
  | ok dto =>
    simp only [read] at parsed
    cases valid : ValidatedVoiceStreamStart.tryFrom dto with
    | error details =>
      rw [valid] at parsed
      cases parsed
    | ok checked =>
      rw [valid] at parsed
      cases Except.ok.inj parsed
      refine ⟨?_,codec.apart text dto read⟩
      simp only [announces,read,tryFrom_surface valid]

end start
end Voice
