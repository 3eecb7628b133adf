import RockServer.DeviceControl
import RockServer.Transition

-- The browser's side of a voice stream: one session owns the microphone and the
-- socket from the click to its end.
namespace VoiceSearch
open DeviceControl (Json)

def sampleRateHz : Nat := 16000
def maxSessionAudioSeconds : Nat := 60
def chunkSamples : Nat := sampleRateHz / 2
def maxSessionSamples : Nat := sampleRateHz * maxSessionAudioSeconds

inductive SpeechEnd where
  | speech
  | silence
deriving DecidableEq

-- A firstSpeech of zero stands for no speech so far.
structure SpeechEndDetector where
  samples : Nat
  windowSamples : Nat
  squares : Nat
  noise : Float
  firstSpeech : Nat
  lastSpeech : Nat
  outcome : Option SpeechEnd

namespace SpeechEndDetector

def new : SpeechEndDetector := ⟨0,0,0,1 / 0,0,0,none⟩

def threshold (noise : Float) : Float := if noise.isFinite then min 520 (max 280 (noise + 140)) else 340

def conclude (d : SpeechEndDetector) (elapsed : Nat) : SpeechEndDetector :=
  if d.firstSpeech ≠ 0 then
    if 1000 ≤ elapsed - d.lastSpeech || 8000 ≤ elapsed - d.firstSpeech then {d with outcome := some .speech} else d
  else if 4500 ≤ elapsed then {d with outcome := some .silence}
  else d

-- A window of 100 ms is complete.
def window (d : SpeechEndDetector) (rms : Float) (elapsed : Nat) : SpeechEndDetector :=
  if elapsed < 350 then {d with noise := min d.noise rms}
  else if threshold d.noise ≤ rms then
    {d with firstSpeech := if d.firstSpeech = 0 then elapsed else d.firstSpeech, lastSpeech := elapsed}.conclude elapsed
  else d.conclude elapsed

def sample (d : SpeechEndDetector) (sample : Int16) : SpeechEndDetector :=
  if d.outcome.isSome then d
  else
    let d := {d with samples := d.samples + 1, squares := d.squares + sample.toInt.natAbs ^ 2,
                     windowSamples := d.windowSamples + 1}
    if d.windowSamples < 1600 then d
    else {d with squares := 0, windowSamples := 0}.window (Float.sqrt (Float.ofNat d.squares / Float.ofNat d.windowSamples)) (d.samples / 16)

def push (d : SpeechEndDetector) (pcm : List Int16) : SpeechEndDetector := pcm.foldl sample d

end SpeechEndDetector

inductive VoiceFailureKind where
  | unsupported
  | permission
  | noMicrophone
  | connection
  | timeout
  | notRecognized
  | provider
  | server
deriving DecidableEq

structure VoiceFailure where
  kind : VoiceFailureKind
  message : String
deriving DecidableEq

def failureMessages : VoiceFailureKind → String
  | .unsupported => "Голосовой поиск не поддерживается в этом браузере."
  | .permission => "Доступ к микрофону запрещён. Разрешите его в настройках браузера и попробуйте снова."
  | .noMicrophone => "Микрофон не найден или занят другим приложением. Проверьте его и попробуйте снова."
  | .connection => "Не удалось соединиться с сервером распознавания. Возможно, превышен лимит запросов — подождите около минуты и повторите."
  | .timeout => "Время голосового запроса истекло. Попробуйте произнести запрос ещё раз."
  | .notRecognized => "Речь не распознана. Произнесите запрос громче и чётче."
  | .provider => "Сервис распознавания временно недоступен. Повторите попытку позже."
  | .server => "Сервер распознавания вернул ошибку. Повторите попытку позже."

def voiceFailure (kind : VoiceFailureKind) : VoiceFailure := ⟨kind,failureMessages kind⟩

-- The names that a refused microphone gives as its reason.
def microphoneFailure (name : String) : VoiceFailure :=
  if name = "NotAllowedError" || name = "SecurityError" || name = "AbortError" then voiceFailure .permission
  else if name = "NotFoundError" || name = "OverconstrainedError" || name = "NotReadableError" || name = "TypeError" then
    voiceFailure .noMicrophone
  else voiceFailure .server

def serverErrorKinds (code : String) : Option VoiceFailureKind :=
  match code with
  | "speech_not_recognized" => some .notRecognized
  | "speech_provider_unavailable" | "speech_provider_error" => some .provider
  | "speech_timeout" | "voice_timeout" | "search_timeout" | "audio_too_large" => some .timeout
  | _ => none

-- What a JavaScript property access finds: of repeated names the last one.
def property (value : Json) (name : String) : Option Json :=
  match value with
  | .object fields => (fields.reverse.find? fun field => field.1 = name).map Prod.snd
  | _ => none

-- Neither absent nor null.
def present (value : Json) (name : String) : Option Json := (property value name).filter (· ≠ .null)

def text (value : Json) (name : String) : String :=
  match property value name with
  | some (.string text) => text
  | _ => ""

structure StationItem where
  id : String
  name : Option Json
  streamUrl : Option Json
  homepageUrl : Option Json
  faviconUrl : Option Json
  tags : Json
  language : Option Json
  countryCode : Option Json
  codec : Option Json
  bitrateKbps : Option Json
  health : Option Json
deriving DecidableEq

-- A station without a name of its own is not a station to the page.
def stationFromDto (dto : Json) : Option StationItem :=
  match property dto "id" with
  | some (.string id) =>
    if id = "" then none
    else some ⟨id,property dto "name",present dto "stream_url",present dto "homepage_url",present dto "favicon_url",
      (present dto "tags").getD (.array []),present dto "language",present dto "country_code",present dto "codec",
      present dto "bitrate_kbps",present dto "health"⟩
  | _ => none

def stationsOf (event : Json) : List StationItem :=
  match property event "stations" with
  | some (.array stations) => stations.filterMap stationFromDto
  | _ => []

inductive ClientFrame where
  | start (locale : String) (limit : Nat)
  | pcm (frame : List Int16)
  | commit
  | cancel
deriving DecidableEq

inductive VoiceSessionEvent where
  | started
  | processing
  | transcript (text : String) (isFinal : Bool)
  | result (transcript : String) (stations : List StationItem)
  | error (failure : VoiceFailure)
  | cancelled
deriving DecidableEq

-- `heard` is the part of the microphone's audio that the session keeps.
inductive Effect where
  | acquired
  | released
  | dialled
  | hungUp
  | heard (pcm : List Int16)
  | sent (frame : ClientFrame)
  | told (event : VoiceSessionEvent)
deriving DecidableEq

inductive VoiceSessionState where
  | idle
  | connecting
  | recording
  | processing
  | done
deriving DecidableEq

-- A socket whose handlers are set.
inductive Socket where
  | connecting
  | opened
deriving DecidableEq

-- The prompt is the wait for the microphone, in which nothing else of `start` runs.
structure Session where
  locale : String
  limit : Nat
  prompt : Bool
  socket : Option Socket
  microphone : Bool
  state : VoiceSessionState
  cancelled : Bool
  terminalSeen : Bool
  committed : Bool
  totalSamples : Nat
  speechEnd : SpeechEndDetector
  pendingSamples : List Int16
  wallTimer : Bool
  log : List Effect

namespace Session

def new (locale : Option String) (limit : Option Nat) : Session :=
  ⟨locale.getD "ru-RU",min (max (limit.getD 10) 1) 10,false,none,false,.idle,false,false,false,0,.new,[],false,[]⟩

variable (s : Session)

def emit (effect : Effect) : Session := {s with log := s.log ++ [effect]}
def send (frame : ClientFrame) : Session := if s.socket.isSome then s.emit (.sent frame) else s
def tell (event : VoiceSessionEvent) : Session := s.emit (.told event)

def releaseMicrophone : Session := if s.microphone then {s with microphone := false}.emit .released else s
def detachSocket : Session := if s.socket.isSome then {s with socket := none}.emit .hungUp else s

def finishWith (terminal : VoiceSessionEvent) : Session :=
  if s.terminalSeen then s
  else
    let s := {s with terminalSeen := true, state := .done}.releaseMicrophone
    {s with pendingSamples := [], wallTimer := false}.detachSocket.tell terminal

def sendRaw (frame : List Int16) : Session :=
  if s.socket.isNone || s.committed || s.cancelled then s else s.send (.pcm frame)

def drainFrames (s : Session) : Session :=
  if chunkSamples ≤ s.pendingSamples.length then
    ({s with pendingSamples := s.pendingSamples.drop chunkSamples}.sendRaw (s.pendingSamples.take chunkSamples)).drainFrames
  else s
termination_by s.pendingSamples.length
decreasing_by
  have positive : 0 < chunkSamples := by decide
  unfold sendRaw send emit
  split
  · simp only [List.length_drop]
    omega
  · split
    · simp only [List.length_drop]
      omega
    · simp only [List.length_drop]
      omega

def finish : Session :=
  if s.state ≠ .recording then s
  else
    let s := s.releaseMicrophone.drainFrames
    let s := if s.pendingSamples = [] then s else {s with pendingSamples := []}.sendRaw s.pendingSamples
    ({s with committed := true, state := .processing}.tell .processing).send .commit

def cancel : Session :=
  if s.state = .idle || s.state = .done then s
  else
    let s := {{s with cancelled := true}.releaseMicrophone with pendingSamples := []}
    (if s.state = .recording && s.socket.isSome && !s.committed then
      {s with committed := true, state := .processing}.send .cancel
    else s).finishWith .cancelled

def dispose : Session :=
  let s := {s with cancelled := true, terminalSeen := true, state := .done}.releaseMicrophone
  {s with pendingSamples := [], wallTimer := false}.detachSocket

def finishAutomatically : Session :=
  match s.speechEnd.outcome with
  | some .silence => (s.send .cancel).finishWith (.error (voiceFailure .notRecognized))
  | some .speech => s.finish
  | none => if maxSessionSamples ≤ s.totalSamples then s.finish else s

def handleAudio (pcm : List Int16) : Session :=
  if s.cancelled then s
  else if s.state ≠ .connecting && s.state ≠ .recording then s
  else
    let remaining := maxSessionSamples - s.totalSamples
    if remaining = 0 then s
    else
      let accepted := if pcm.length ≤ remaining then pcm else pcm.take remaining
      let s := {s with totalSamples := s.totalSamples + accepted.length, pendingSamples := s.pendingSamples ++ accepted,
                       speechEnd := s.speechEnd.push accepted}.emit (.heard accepted)
      if s.state = .recording then s.drainFrames.finishAutomatically else s

-- A text that is no JSON is none, and so is a message that is no text.
def handleMessage (data : Option Json) : Session :=
  if s.terminalSeen then s
  else match data with
    | none => s
    | some event => match property event "type" with
      | some (.string "ready") =>
        if s.state = .connecting then ({s with state := .recording}.drainFrames.tell .started).finishAutomatically else s
      | some (.string "transcript") =>
        if s.state = .recording || s.state = .processing then
          s.tell (.transcript (text event "transcript") (property event "is_final" = some (.bool true)))
        else s
      | some (.string "result") =>
        if s.cancelled then s else s.finishWith (.result (text event "transcript") (stationsOf event))
      | some (.string "error") =>
        let code := text event "code"
        if s.cancelled || code = "cancelled" then s.finishWith .cancelled
        else s.finishWith (.error (voiceFailure ((serverErrorKinds code).getD .server)))
      | _ => s

def start : Session :=
  if s.state ≠ .idle then s else {s with state := .connecting, wallTimer := true, prompt := true}

-- The microphone is given: the session may be over by then.
def granted : Session :=
  let s := {s with prompt := false}.emit .acquired
  if s.terminalSeen then s.emit .released
  else {s with microphone := true, socket := some .connecting}.emit .dialled

def denied (name : String) : Session := {s with prompt := false}.finishWith (.error (microphoneFailure name))

def opened : Session := {s with socket := some .opened}.emit (.sent (.start s.locale s.limit))

def disconnected : Session :=
  if !s.terminalSeen && s.state ≠ .idle && s.state ≠ .done then
    s.finishWith (if s.cancelled then .cancelled else .error (voiceFailure .connection))
  else s

def expired : Session := s.finishWith (if s.cancelled then .cancelled else .error (voiceFailure .timeout))

end Session

inductive Action where
  | start
  | granted
  | denied (name : String)
  | opened
  | message (data : Option Json)
  | disconnected
  | expired
  | audio (pcm : List Int16)
  | finish
  | cancel
  | dispose

-- A socket calls its handlers while they are set, and the prompt answers once.
def execute (s : Session) : Action → Option Session
  | .start => some s.start
  | .granted => if s.prompt then some s.granted else none
  | .denied name => if s.prompt then some (s.denied name) else none
  | .opened => if s.socket = some .connecting then some s.opened else none
  | .message data => if s.socket = some .opened then some (s.handleMessage data) else none
  | .disconnected => if s.socket.isSome then some s.disconnected else none
  | .expired => if s.wallTimer then some s.expired else none
  | .audio pcm => some (s.handleAudio pcm)
  | .finish => some s.finish
  | .cancel => some s.cancel
  | .dispose => some s.dispose

end VoiceSearch
