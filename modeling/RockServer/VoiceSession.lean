import RockServer.VoiceFavourites
import RockServer.VoiceProtocol

-- One voice session: it waits for its client, for the recogniser, and then for
-- the interpreter, the search, the router and the stores, one after the other.
namespace Voice
open DeviceControl (Uuid Json DeviceId CommandId Timestamp ActiveDevice ErrorCode DeviceCommand CommandStatus CommandResult
  UserIntent ResolutionRequest ResolutionResult DeviceStateSnapshot)
open PersonalData (PersonalDataError SyncOutcome)
open Search (SearchQuery SearchConstraints QueryIntent QueryParserError QueryParserInput)
open VoiceFavourites (currentStationId isLive)

structure Service where
  codec : Codec
  unicode : Search.Unicode
  print : Json → String
  voiceCommandTimeout : Nat

inductive Message where
  | text (text : String)
  | binary (audio : List UInt8)
  | ping (payload : List UInt8)
  | pong
  | close
  | failed
deriving DecidableEq

inductive StreamOperationError where
  | provider
  | timeout

-- What the query parser answers: the deterministic one reads the transcript
-- itself, a provider is asked.
inductive ParserAnswer where
  | deterministic
  | provider (outcome : Except QueryParserError QueryIntent)

-- `received none` stands for the idle timeout and for the end of the socket.
inductive Event (S : Type) where
  | received (message : Option Message)
  | active (device : Option ActiveDevice)
  | elapsed (milliseconds : Nat)
  | recognizer (outcome : Except StreamOperationError Unit)
  | speech (outcome : Except StreamOperationError (List TranscriptUpdate))
  | interpreted (command : Option VoiceCommand)
  | reported (store : Bool) (snapshot : Option DeviceStateSnapshot)
  | synchronized (outcome : Except PersonalDataError SyncOutcome)
  | planned (device : Option ActiveDevice) (snapshot : Option DeviceStateSnapshot) (commandId : CommandId)
    (receivedAt : Timestamp)
  | submitted (outcome : Except ErrorCode Unit) (store : Bool)
  | loaded (outcome : Option (Option CommandResult))
  | parsed (answer : ParserAnswer) (classified : Option String)
  | searched (stations : Option (List S))
  | timedOut

inductive Effect (S : Type) where
  | received (message : Option Message)
  | sent (event : VoiceStreamServerEvent S)
  | ponged (payload : List UInt8)
  | pushed (audio : List UInt8)
  | finished
  | submitted (command : DeviceCommand)
  | panicked

-- A principal stays with the session only where its start announced voice.main.
structure Opening where
  start : ValidatedVoiceStreamStart
  principal : Option DeviceControlPrincipal
  announced : principal.isSome = true → start.surfaceId = some "voice.main"

def Opening.of (start : ValidatedVoiceStreamStart) (principal : Option DeviceControlPrincipal) : Opening where
  start := start
  principal := principal.filter fun _ => start.surfaceId = some "voice.main"
  announced kept := by
    obtain ⟨_,found⟩ := Option.isSome_iff_exists.mp kept
    simpa using (Option.filter_eq_some_iff.mp found).2

structure StreamLoop extends Opening where
  audioBytes : Nat
  lastFinalTranscript : Option String

structure DeviceTurn where
  start : ValidatedVoiceStreamStart
  principal : DeviceControlPrincipal
  announced : start.surfaceId = some "voice.main"
  transcript : String

inductive VoiceSearchFlavor where
  | legacy
  | device
deriving DecidableEq

structure SearchTurn where
  start : ValidatedVoiceStreamStart
  transcript : String
  flavor : VoiceSearchFlavor

inductive Stage where
  | starting (principal : Option DeviceControlPrincipal)
  | admitting (opening : Opening)
  | opening (opening : Opening)
  | looping (loop : StreamLoop)
  | receiving (loop : StreamLoop)
  | pushing (loop : StreamLoop)
  | finishing (loop : StreamLoop)
  | interpreting (turn : DeviceTurn)
  | favouring (turn : DeviceTurn)
  | looking (turn : DeviceTurn) (stationId : String)
  | adding (turn : DeviceTurn) (stationId : String)
  | planning (turn : DeviceTurn) (command : VoiceCommand) (intent : UserIntent)
  | submitting (turn : DeviceTurn) (intent : Intent)
  | polling (turn : DeviceTurn) (intent : Intent)
  | querying (turn : SearchTurn)
  | searching (turn : SearchTurn) (query : SearchQuery) (constraints : SearchConstraints)
  | answered
  | closed
  | panicked

structure VoiceSession (S : Type) where
  requestId : String
  stage : Stage
  log : List (Effect S)

def connected {S : Type} (requestId : String) (principal : Option DeviceControlPrincipal) : VoiceSession S :=
  ⟨requestId,.starting principal,[]⟩

def emptyDetails : Json := .object []
def timeoutDetails (milliseconds : Nat) : Json := .object [("timeout_ms",.number (toString milliseconds))]

namespace VoiceSession
variable {S : Type} (s : VoiceSession S)

def goto (effects : List (Effect S)) (stage : Stage) : VoiceSession S := {s with stage := stage, log := s.log ++ effects}

def errorEvent (code : VoiceStreamErrorCode) (message : String) (details : Json) : VoiceStreamServerEvent S :=
  .error code message s.requestId details

-- An exit: one error frame after the effects of the step.
def refuse (effects : List (Effect S)) (code : VoiceStreamErrorCode) (message : String) (details : Json) :
    VoiceSession S :=
  s.goto (effects ++ [.sent (s.errorEvent code message details)]) .answered

def answer (event : VoiceStreamServerEvent S) : VoiceSession S := s.goto [.sent event] .answered

def speechFailure : StreamOperationError → VoiceSession S
  | .provider => s.refuse [] .speechProviderError "Streaming speech recognition failed." emptyDetails
  | .timeout => s.refuse [] .speechTimeout "Streaming speech provider timed out." (timeoutDetails streamOperationTimeout)

def transcripts (updates : List TranscriptUpdate) : List (Effect S) :=
  updates.map fun update => .sent (.transcript s.requestId update.transcript update.isFinal)

def favouriteStoreFailure : VoiceSession S :=
  s.refuse [] .persistenceUnavailable "Favourite state is temporarily unavailable." emptyDetails

end VoiceSession

section steps
variable {S : Type} (service : Service) (s : VoiceSession S)

-- The first message opens the session.
def start (principal : Option DeviceControlPrincipal) (message : Option Message) : VoiceSession S :=
  match message with
  | some (.text text) => match parseStreamStart service.codec text with
    | .error details => s.refuse [.received message] .validationFailed "Streaming session validation failed." details
    | .ok parsed =>
      let opening := Opening.of parsed principal
      s.goto [.received message] (if opening.principal.isSome then .admitting opening else .opening opening)
  | _ => s.refuse [.received message] .protocolError "The first WebSocket message must be a JSON start event." emptyDetails

def admitOpening (opening : Opening) (active : Option ActiveDevice) : VoiceSession S :=
  match validateDeviceVoiceStart active opening.start with
  | .error (code,message) => s.refuse [] code message emptyDetails
  | .ok () => s.goto [] (.opening opening)

def openStream (opening : Opening) : Except StreamOperationError Unit → VoiceSession S
  | .ok () =>
    s.goto [.sent (.ready s.requestId "pcm_s16le" opening.start.sampleRateHz
        (opening.principal.map DeviceControlPrincipal.deviceId) (opening.principal.bind fun _ => opening.start.surfaceId))]
      (.looping ⟨opening,0,none⟩)
  | .error .provider =>
    s.refuse [] .speechProviderUnavailable "Streaming speech recognition is unavailable." emptyDetails
  | .error .timeout =>
    s.refuse [] .speechTimeout "Streaming speech provider timed out." (timeoutDetails streamOperationTimeout)

def turn (loop : StreamLoop) (elapsed : Nat) : VoiceSession S :=
  if elapsed < streamWallTimeout then s.goto [] (.receiving loop)
  else s.refuse [] .voiceTimeout "Voice session timed out." (timeoutDetails streamWallTimeout)

def receive (loop : StreamLoop) (message : Option Message) : VoiceSession S :=
  let heard : List (Effect S) := [.received message]
  match message with
  | none => s.refuse heard .voiceTimeout "Voice session timed out." (timeoutDetails streamIdleTimeout)
  | some (.binary audio) =>
    if audio.isEmpty || maxStreamAudioChunkBytes < audio.length || audio.length % 2 ≠ 0 then
      s.refuse heard .audioChunkInvalid "Audio frames must be bounded PCM16 data."
        (.object [("max_chunk_bytes",.number (toString maxStreamAudioChunkBytes))])
    else
      let audioBytes := min (loop.audioBytes + audio.length) (2 ^ 64 - 1)
      if maxStreamAudioBytes < audioBytes || maxStreamAudioSeconds < audioBytes / 2 / 16000 then
        s.refuse heard .audioTooLarge "Streaming session audio limit was exceeded."
          (.object [("max_bytes",.number (toString maxStreamAudioBytes))])
      else s.goto (heard ++ [.pushed audio]) (.pushing {loop with audioBytes := audioBytes})
  | some (.text text) =>
    if service.codec.isCancel text then s.refuse heard .cancelled "Voice session was cancelled." emptyDetails
    else if service.codec.isCommit text then s.goto (heard ++ [.finished]) (.finishing loop)
    else s.refuse heard .protocolError "Expected a binary audio chunk or JSON commit event." emptyDetails
  | some .close | some .failed => s.goto heard .closed
  | some (.ping payload) => s.goto (heard ++ [.ponged payload]) (.looping loop)
  | some .pong => s.goto heard (.looping loop)

def push (loop : StreamLoop) : Except StreamOperationError (List TranscriptUpdate) → VoiceSession S
  | .ok updates =>
    s.goto (s.transcripts updates)
      (.looping {loop with lastFinalTranscript := (newestFinalTranscript updates).or loop.lastFinalTranscript})
  | .error error => s.speechFailure error

def finish (loop : StreamLoop) : Except StreamOperationError (List TranscriptUpdate) → VoiceSession S
  | .error error => s.speechFailure error
  | .ok updates =>
    match (newestFinalTranscript updates).or loop.lastFinalTranscript with
    | none =>
      s.refuse (s.transcripts updates) .speechNotRecognized "No final speech transcript was recognized." emptyDetails
    | some transcript =>
      s.goto (s.transcripts updates) (match found : loop.principal with
        | some principal => .interpreting ⟨loop.start,principal,loop.announced (by rw [found]; rfl),transcript⟩
        | none => .querying ⟨loop.start,transcript,.legacy⟩)

def interpret (turn : DeviceTurn) : Option VoiceCommand → VoiceSession S
  | none => s.refuse [] .intentResolutionFailed "The voice intent could not be resolved." emptyDetails
  | some command =>
    if command.intent = .addFavorite then s.goto [] (.favouring turn)
    else if command.intent = .playRadio then s.goto [] (.querying ⟨turn.start,turn.transcript,.device⟩)
    else match deviceUserIntent command turn.principal.deviceId with
      | .error (code,message) => s.refuse [] code message emptyDetails
      | .ok intent => s.goto [] (.planning turn command intent)

-- Favourites are account data and skip the command pipeline.
def favour (turn : DeviceTurn) (store : Bool) (snapshot : Option DeviceStateSnapshot) : VoiceSession S :=
  if store then
    match currentStationId ((snapshot.bind fun found => found.state.playback).bind fun playback => playback.stationId) with
    | none => s.refuse [] .stationNotFound "No station is currently playing." emptyDetails
    | some stationId => s.goto [] (.looking turn stationId)
  else s.favouriteStoreFailure

def look (turn : DeviceTurn) (stationId : String) : Except PersonalDataError SyncOutcome → VoiceSession S
  | .error _ => s.favouriteStoreFailure
  | .ok snapshot =>
    if isLive stationId snapshot.favourites then s.answer (.deviceResult s.requestId .succeeded .addFavorite)
    else s.goto [] (.adding turn stationId)

def add (stationId : String) : Except PersonalDataError SyncOutcome → VoiceSession S
  | .ok outcome =>
    if isLive stationId outcome.favourites then s.answer (.deviceResult s.requestId .succeeded .addFavorite)
    else s.refuse [] .internalError "The favourite could not be confirmed." emptyDetails
  | .error .favouriteLimitExceeded =>
    s.refuse [] .favouriteLimitExceeded "The account favourites limit was reached." emptyDetails
  | .error _ => s.favouriteStoreFailure

def resolutionRequest (turn : DeviceTurn) (active : ActiveDevice) (snapshot : Option DeviceStateSnapshot)
    (commandId : CommandId) (receivedAt : Timestamp) : ResolutionRequest where
  actor := ⟨turn.principal.userId,active.scopes⟩
  directory := ⟨turn.principal.userId,
    [⟨⟨turn.principal.deviceId⟩,active.manifest,true,snapshot.map DeviceStateSnapshot.state,[]⟩]⟩
  commandId := commandId
  receivedAt := receivedAt
  context := ⟨some ⟨some ⟨turn.principal.deviceId⟩,turn.start.surfaceId⟩,[]⟩

def plan (turn : DeviceTurn) (command : VoiceCommand) (intent : UserIntent) (active : Option ActiveDevice)
    (snapshot : Option DeviceStateSnapshot) (commandId : CommandId) (receivedAt : Timestamp) : VoiceSession S :=
  match active with
  | none => s.refuse [] .targetOffline "The target device is offline." emptyDetails
  | some active =>
    match ResolutionRequest.resolve service.print (resolutionRequest turn active snapshot commandId receivedAt) intent with
    | .plan plan => match plan.commands with
      | [planned] => s.goto [.submitted planned] (.submitting turn command.intent)
      | _ => s.refuse [] .internalError "The voice command could not be executed." emptyDetails
    | .clarification _ => s.refuse [] .clarificationRequired "The voice command needs clarification." emptyDetails
    | .confirmation _ => s.refuse [] .unsupportedIntent "This voice intent is not supported." emptyDetails
    | .error error => s.refuse [] (mapIntentError error.code).1 (mapIntentError error.code).2 emptyDetails

def submit (turn : DeviceTurn) (intent : Intent) (store : Bool) : Except ErrorCode Unit → VoiceSession S
  | .error code => s.refuse [] (mapCommandError code).1 (mapCommandError code).2 emptyDetails
  | .ok () =>
    if store then s.goto [] (.polling turn intent)
    else s.refuse [] .persistenceUnavailable "Voice command state is temporarily unavailable." emptyDetails

def poll (turn : DeviceTurn) (intent : Intent) : Option (Option CommandResult) → VoiceSession S
  | some (some result) => s.answer (.deviceResult s.requestId result.status intent)
  | some none => s.goto [] (.polling turn intent)
  | none => s.refuse [] .persistenceUnavailable "Voice command state is temporarily unavailable." emptyDetails

-- The query of a search, where none of its texts makes the parser panic.
def interpretation (answer : ParserAnswer) (classified : Option String) (input : QueryParserInput) : Option SearchQuery :=
  (match answer with
    | .deterministic =>
      (Search.deterministicIntent service.unicode input.query input.locale).bind (Search.validateIntent service.unicode)
    | .provider (.ok intent) => Search.validateIntent service.unicode intent
    | .provider (.error error) => some (.error error)).bind fun validated =>
  ((match validated with
    | .ok intent => some intent
    | .error _ => Search.deterministicIntent service.unicode input.query input.locale).bind
      (Search.completed service.unicode input)).bind fun intent =>
  SearchQuery.fromIntent service.unicode input.query input.locale {intent with language := intent.language.or classified}

def SearchTurn.input (turn : SearchTurn) : QueryParserInput := ⟨turn.transcript,turn.start.locale⟩

def query (turn : SearchTurn) (answer : ParserAnswer) (classified : Option String) : VoiceSession S :=
  match interpretation service answer classified turn.input with
  | none => s.goto [.panicked] .panicked
  | some query => s.goto [] (.searching turn query ⟨turn.start.limit,0,turn.start.excludeStationIds⟩)

def searchTimeout : VoiceSession S :=
  s.refuse [] .searchTimeout "Voice command search timed out." (timeoutDetails service.voiceCommandTimeout)

def search (turn : SearchTurn) (query : SearchQuery) : Option (List S) → VoiceSession S
  | none => match turn.flavor with
    | .legacy => s.refuse [] .internalError "An unexpected server error occurred." emptyDetails
    | .device => s.refuse [] .searchUnavailable "Station search is temporarily unavailable." emptyDetails
  | some stations =>
    if stations.isEmpty && turn.flavor = .device then
      s.refuse [] .stationNotFound "No matching station was found." emptyDetails
    else s.answer (.result ⟨s.requestId,if turn.flavor = .device then some .playRadio else none,turn.transcript,query,
      stations.head?,stations⟩)

def execute (s : VoiceSession S) (event : Event S) : Option (VoiceSession S) :=
  match s.stage,event with
  | .starting principal,.received message => some (start service s principal message)
  | .admitting opening,.active device => some (admitOpening s opening device)
  | .opening opening,.recognizer outcome => some (openStream s opening outcome)
  | .looping loop,.elapsed milliseconds => some (turn s loop milliseconds)
  | .receiving loop,.received message => some (receive service s loop message)
  | .pushing loop,.speech outcome => some (push s loop outcome)
  | .finishing loop,.speech outcome => some (finish s loop outcome)
  | .interpreting turn,.interpreted command => some (interpret s turn command)
  | .favouring turn,.reported store snapshot => some (favour s turn store snapshot)
  | .looking turn stationId,.synchronized outcome => some (look s turn stationId outcome)
  | .adding _ stationId,.synchronized outcome => some (add s stationId outcome)
  | .planning turn command intent,.planned device snapshot commandId receivedAt =>
    some (plan service s turn command intent device snapshot commandId receivedAt)
  | .submitting turn intent,.submitted outcome store => some (submit s turn intent store outcome)
  | .polling turn intent,.loaded outcome => some (poll s turn intent outcome)
  | .polling _ _,.timedOut => some (s.refuse [] .commandTimeout "The device command timed out." emptyDetails)
  | .querying turn,.parsed answer classified => some (query service s turn answer classified)
  | .querying _,.timedOut => some (searchTimeout service s)
  | .searching turn query _,.searched stations => some (search s turn query stations)
  | .searching _ _ _,.timedOut => some (searchTimeout service s)
  | _,_ => none

end steps
end Voice
