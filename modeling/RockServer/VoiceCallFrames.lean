import RockServer.JsonTexts
import RockServer.VoiceCommands
import RockServer.VoiceSearchRuns
import RockServer.VoiceSession

-- The frames of a voice call as either end writes and reads them.
namespace Voice
open DeviceControl (Uuid Json)

-- A station as the search answers it; the score is the text of its number.
structure StationResultDto where
  id : String
  name : String
  streamUrl : String
  homepageUrl : Option String
  faviconUrl : Option String
  tags : List String
  language : Option String
  countryCode : Option String
  codec : Option String
  bitrateKbps : Option UInt32
  score : String
  reason : String
  health : String

-- What the rest of the transport makes of a session's values.
structure Rendering (S : Type) where
  station : S → StationResultDto
  normalizedQuery : Search.SearchQuery → Json
  uuid : Uuid → String

def textOrNull (value : Option String) : Json := (value.map Json.string).getD .null

def StationResultDto.toJson (dto : StationResultDto) : Json := .object [("id",.string dto.id),("name",.string dto.name),
  ("stream_url",.string dto.streamUrl),("homepage_url",textOrNull dto.homepageUrl),("favicon_url",textOrNull dto.faviconUrl),
  ("tags",.array (dto.tags.map .string)),("language",textOrNull dto.language),("country_code",textOrNull dto.countryCode),
  ("codec",textOrNull dto.codec),("bitrate_kbps",(dto.bitrateKbps.map fun rate => .number (toString rate.toNat)).getD .null),
  ("score",.number dto.score),("reason",.string dto.reason),("health",.string dto.health)]

def VoiceStreamErrorCode.text : VoiceStreamErrorCode → String
  | .protocolError => "protocol_error"
  | .validationFailed => "validation_failed"
  | .speechProviderUnavailable => "speech_provider_unavailable"
  | .speechProviderError => "speech_provider_error"
  | .speechTimeout => "speech_timeout"
  | .speechNotRecognized => "speech_not_recognized"
  | .voiceTimeout => "voice_timeout"
  | .audioChunkInvalid => "audio_chunk_invalid"
  | .audioTooLarge => "audio_too_large"
  | .cancelled => "cancelled"
  | .intentResolutionFailed => "intent_resolution_failed"
  | .unsupportedIntent => "unsupported_intent"
  | .clarificationRequired => "clarification_required"
  | .stationNotFound => "station_not_found"
  | .searchTimeout => "search_timeout"
  | .searchUnavailable => "search_unavailable"
  | .targetOffline => "target_offline"
  | .capabilityNotSupported => "capability_not_supported"
  | .favouriteLimitExceeded => "favourite_limit_exceeded"
  | .forbidden => "forbidden"
  | .invalidPayload => "invalid_payload"
  | .commandTimeout => "command_timeout"
  | .duplicateCommand => "duplicate_command"
  | .tooManyInFlight => "too_many_in_flight"
  | .persistenceUnavailable => "persistence_unavailable"
  | .internalError => "internal_error"

section server
variable {S : Type} (r : Rendering S)

-- Members that are absent are left out, and an absent station is null.
def VoiceStreamServerEvent.toJson : VoiceStreamServerEvent S → Json
  | .ready requestId audioFormat sampleRateHz sourceDeviceId surfaceId => .object ([("type",.string "ready"),
      ("request_id",.string requestId),("audio_format",.string audioFormat),
      ("sample_rate_hz",.number (toString sampleRateHz.toNat))] ++
      (sourceDeviceId.map fun id => ("source_device_id",Json.string (r.uuid id))).toList ++
      (surfaceId.map fun id => ("surface_id",Json.string id)).toList)
  | .transcript requestId text isFinal => .object [("type",.string "transcript"),("request_id",.string requestId),
      ("transcript",.string text),("is_final",.bool isFinal)]
  | .result payload => .object ([("type",.string "result"),("request_id",.string payload.requestId)] ++
      (payload.intent.map fun intent => ("intent",Json.string (VoiceInterpreter.intentName intent))).toList ++
      [("transcript",.string payload.transcript),("normalized_query",r.normalizedQuery payload.normalizedQuery),
       ("selected_station",(payload.selectedStation.map fun station => (r.station station).toJson).getD .null),
       ("stations",.array (payload.stations.map fun station => (r.station station).toJson))])
  | .deviceResult requestId status intent => .object [("type",.string "result"),("request_id",.string requestId),
      ("status",.string status.text),("intent",.string (VoiceInterpreter.intentName intent))]
  | .error code message requestId details => .object [("type",.string "error"),("code",.string code.text),
      ("message",.string message),("request_id",.string requestId),("details",details)]

end server

def normalizedQueryJson (query : Search.SearchQuery) : Json := .object [
  ("action",.string (match query.action with
    | .play => "play"
    | .show => "show")),
  ("original",.string query.original),("locale",.string query.locale),("terms",.array (query.terms.map .string)),
  ("tags",.array (query.tags.map .string)),("language",textOrNull query.language),
  ("country_code",textOrNull query.countryCode)]

-- A tagged object has one tag, and each field of a start at most once.
section decoding

def tagOf (fields : List (String × Json)) : Option String := match fields.filter fun field => field.1 = "type" with
  | [(_,.string tag)] => some tag
  | _ => none

-- An absent field is null, and a repeated one is refused.
def fieldOf (fields : List (String × Json)) (name : String) : Option Json := match fields.filter fun field => field.1 = name with
  | [] => some .null
  | [(_,value)] => some value
  | _ => none

def optionalText : Json → Option (Option String)
  | .null => some none
  | .string text => some (some text)
  | _ => none

def wholeNumber (bound : Nat) : Json → Option Nat
  | .number text =>
    if text.toList.all Char.isDigit && Nat.ofDigitChars 10 text.toList 0 < bound then
      some (Nat.ofDigitChars 10 text.toList 0)
    else none
  | _ => none

def optionalNumber (bound : Nat) : Json → Option (Option Nat)
  | .null => some none
  | value => (wholeNumber bound value).map some

def textItem : Json → Option String
  | .string text => some text
  | _ => none

-- A list that is absent is empty, but none is null.
def textsOf (fields : List (String × Json)) (name : String) : Option (List String) :=
  match fields.filter fun field => field.1 = name with
  | [] => some []
  | [(_,.array items)] => items.mapM textItem
  | _ => none

def startFields : List String :=
  ["type","locale","sample_rate_hz","surface_id","recognizer_mode","limit","exclude_station_ids"]

def decodeStart (fields : List (String × Json)) : Option VoiceStreamStartDto :=
  if tagOf fields = some "start" && fields.all fun field => field.1 ∈ startFields then
    (fieldOf fields "locale").bind optionalText |>.bind fun locale =>
    (fieldOf fields "sample_rate_hz").bind (wholeNumber (2 ^ 32)) |>.bind fun sampleRateHz =>
    (fieldOf fields "surface_id").bind optionalText |>.bind fun surfaceId =>
    (fieldOf fields "recognizer_mode").bind optionalText |>.bind fun recognizerMode =>
    (fieldOf fields "limit").bind (optionalNumber (2 ^ 8)) |>.bind fun limit =>
    (textsOf fields "exclude_station_ids").map fun excluded =>
      ⟨locale,UInt32.ofNat sampleRateHz,surfaceId,recognizerMode,limit.map UInt8.ofNat,excluded⟩
  else none

-- A commit and a cancel are known by their tags alone.
def taggedAs (tag text : String) : Bool := match Json.read text with
  | some (.object fields) => tagOf fields = some tag
  | _ => false

def startOf (text : String) : Except String VoiceStreamStartDto := match Json.read text with
  | some (.object fields) => (decodeStart fields).elim (.error "invalid start event") .ok
  | _ => .error "expected a JSON object"

theorem startOf_tagged {text : String} {dto : VoiceStreamStartDto} (read : startOf text = .ok dto) {tag : String}
    (other : tag ≠ "start") : taggedAs tag text = false := by
  unfold startOf at read
  unfold taggedAs
  split at read
  · rename_i fields found
    have start : tagOf fields = some "start" := by
      unfold decodeStart at read
      split at read
      · rename_i tagged
        exact of_decide_eq_true (Bool.and_eq_true_iff.mp tagged).1
      · cases read
    simp only [start,Option.some.injEq,decide_eq_false_iff_not]
    exact fun same => other same.symm
  · cases read

def jsonCodec : Codec where
  start := startOf
  isCommit := taggedAs "commit"
  isCancel := taggedAs "cancel"
  apart _ _ read := ⟨startOf_tagged read (by decide),startOf_tagged read (by decide)⟩

end decoding
end Voice

namespace VoiceSearch
open DeviceControl (Json)

-- The page's station is the server's, field by field.
def itemOf (dto : Voice.StationResultDto) : StationItem :=
  ⟨dto.id,some (.string dto.name),some (.string dto.streamUrl),dto.homepageUrl.map .string,dto.faviconUrl.map .string,
    .array (dto.tags.map .string),dto.language.map .string,dto.countryCode.map .string,dto.codec.map .string,
    dto.bitrateKbps.map fun rate => .number (toString rate.toNat),some (.string dto.health)⟩

theorem present_text {value : Json} {name : String} {field : Option String}
    (found : property value name = some (Voice.textOrNull field)) : present value name = field.map .string := by
  unfold present
  rw [found]
  cases field <;> rfl

theorem station_read (dto : Voice.StationResultDto) :
    stationFromDto dto.toJson = if dto.id = "" then none else some (itemOf dto) := by
  have rate : present dto.toJson "bitrate_kbps" = dto.bitrateKbps.map fun rate => .number (toString rate.toNat) := by
    have found : property dto.toJson "bitrate_kbps" =
        some ((dto.bitrateKbps.map fun rate => .number (toString rate.toNat)).getD .null) := rfl
    unfold present
    rw [found]
    cases dto.bitrateKbps <;> rfl
  have id : property dto.toJson "id" = some (.string dto.id) := rfl
  have homepage : present dto.toJson "homepage_url" = dto.homepageUrl.map .string := present_text rfl
  have favicon : present dto.toJson "favicon_url" = dto.faviconUrl.map .string := present_text rfl
  have language : present dto.toJson "language" = dto.language.map .string := present_text rfl
  have country : present dto.toJson "country_code" = dto.countryCode.map .string := present_text rfl
  have codec : present dto.toJson "codec" = dto.codec.map .string := present_text rfl
  unfold stationFromDto
  rw [id,homepage,favicon,language,country,codec,rate]
  rfl

-- What the page makes of each frame of the server.
section frames
variable {S : Type} (r : Voice.Rendering S)

theorem ready_read {requestId format : String} {rate : UInt32} {device : Option DeviceControl.Uuid} {surface : Option String} :
    property ((Voice.VoiceStreamServerEvent.ready requestId format rate device surface).toJson r) "type" =
      some (.string "ready") := by
  cases device <;> cases surface <;> rfl

theorem result_read (result : Voice.VoiceStreamResultPayload S) :
    property ((Voice.VoiceStreamServerEvent.result result).toJson r) "type" = some (.string "result") ∧
      text ((Voice.VoiceStreamServerEvent.result result).toJson r) "transcript" = result.transcript ∧
      stationsOf ((Voice.VoiceStreamServerEvent.result result).toJson r) =
        ((result.stations.map r.station).filter (·.id ≠ "")).map itemOf := by
  have stations : property ((Voice.VoiceStreamServerEvent.result result).toJson r) "stations" =
      some (.array (result.stations.map fun station => (r.station station).toJson)) := by
    cases result with
    | mk _ intent => cases intent <;> rfl
  refine ⟨?_,?_,?_⟩
  · cases result with
    | mk _ intent => cases intent <;> rfl
  · cases result with
    | mk _ intent => cases intent <;> rfl
  · unfold stationsOf
    rw [stations]
    dsimp only
    induction result.stations with
    | nil => rfl
    | cons station rest ih =>
      rw [List.map_cons,List.map_cons,List.filterMap_cons,station_read,ih]
      by_cases nameless : (r.station station).id = ""
      · simp [nameless]
      · simp [nameless]

end frames

-- The frames of the page, as the texts and bytes of the socket.
section client

def pcmBytes (pcm : List Int16) : List UInt8 :=
  pcm.flatMap fun sample => [sample.toUInt16.toUInt8,(sample.toUInt16.shiftRight 8).toUInt8]

def ClientFrame.toJson : ClientFrame → Json
  | .start locale limit => .object [("type",.string "start"),("locale",.string locale),
      ("sample_rate_hz",.number (toString sampleRateHz)),("recognizer_mode",.string "buffered_v1"),
      ("limit",.number (toString limit))]
  | .pcm _ => .null
  | .commit => .object [("type",.string "commit")]
  | .cancel => .object [("type",.string "cancel")]

def ClientFrame.message (stringify : Json → String) (frame : ClientFrame) : Voice.Message :=
  match frame with
  | .pcm samples => .binary (pcmBytes samples)
  | frame => .text (stringify frame.toJson)

-- What a session puts on its socket. A hung up socket is closed after them.
def Effect.message? (stringify : Json → String) : Effect → Option Voice.Message
  | .sent frame => some (frame.message stringify)
  | .hungUp => some .close
  | _ => none

def outgoing (stringify : Json → String) (log : List Effect) : List Voice.Message := log.filterMap (Effect.message? stringify)

theorem pcmBytes_append (earlier later : List Int16) : pcmBytes (earlier ++ later) = pcmBytes earlier ++ pcmBytes later :=
  List.flatMap_append

theorem pcmBytes_length (pcm : List Int16) : (pcmBytes pcm).length = 2 * pcm.length := by
  induction pcm with
  | nil => rfl
  | cons sample rest ih =>
    have one : pcmBytes (sample :: rest) = [sample.toUInt16.toUInt8,(sample.toUInt16.shiftRight 8).toUInt8] ++ pcmBytes rest := rfl
    rw [one,List.length_append,ih,List.length_cons]
    simp only [List.length_cons,List.length_nil]
    omega

end client
end VoiceSearch
