import RockServer.VoiceAudio
import RockServer.VoiceCallFrames
import Mathlib.Tactic.IntervalCases

-- What a browser's log gains with each step: its call keeps its settings, and only
-- a frame of the server makes it quote the server.
namespace VoiceSearch
open DeviceControl (Json)

def VoiceSessionEvent.quotes : VoiceSessionEvent → Bool
  | .transcript .. | .result .. => true
  | _ => false

def quoted (log : List Effect) : List VoiceSessionEvent := (events log).filter VoiceSessionEvent.quotes

structure Grows (s s' : Session) (told : List VoiceSessionEvent) : Prop where
  locale : s'.locale = s.locale
  limit : s'.limit = s.limit
  log : s.log <+: s'.log
  quoted : quoted s'.log = quoted s.log ++ told

section grows
variable {s s' s'' : Session} {told later : List VoiceSessionEvent}

theorem Grows.trans (left : Grows s s' told) (right : Grows s' s'' later) : Grows s s'' (told ++ later) :=
  ⟨right.locale.trans left.locale,right.limit.trans left.limit,left.log.trans right.log,
    by rw [right.quoted,left.quoted,List.append_assoc]⟩

-- Most steps tell the page nothing that the server said.
theorem Grows.quietly (left : Grows s s' []) (right : Grows s' s'' told) : Grows s s'' told := left.trans right

theorem Grows.refl : Grows s s [] := ⟨rfl,rfl,List.prefix_rfl,(List.append_nil _).symm⟩

-- A change of the other fields comes first.
theorem Grows.shift {t : Session} (grown : Grows t s' told)
    (same : t.locale = s.locale ∧ t.limit = s.limit ∧ t.log = s.log) : Grows s s' told :=
  ⟨grown.locale.trans same.1,grown.limit.trans same.2.1,same.2.2 ▸ grown.log,by rw [grown.quoted,same.2.2]⟩

theorem emit_grows (effect : Effect) (silent : effect.event? = none) : Grows s (s.emit effect) [] := by
  refine ⟨rfl,rfl,⟨_,rfl⟩,?_⟩
  simp only [Session.emit,VoiceSearch.quoted,events_append,events_cons,events_nil,silent,Option.toList_none,List.append_nil]

theorem tell_grows (event : VoiceSessionEvent) : Grows s (s.tell event) ([event].filter VoiceSessionEvent.quotes) := by
  refine ⟨rfl,rfl,⟨_,rfl⟩,?_⟩
  simp [Session.tell,Session.emit,VoiceSearch.quoted]

theorem send_grows (frame : ClientFrame) : Grows s (s.send frame) [] := by
  unfold Session.send
  split
  · exact emit_grows _ rfl
  · exact .refl

theorem release_grows : Grows s s.releaseMicrophone [] := by
  unfold Session.releaseMicrophone
  split
  · exact (emit_grows _ rfl).shift (by trivial)
  · exact .refl

theorem detach_grows : Grows s s.detachSocket [] := by
  unfold Session.detachSocket
  split
  · exact (emit_grows _ rfl).shift (by trivial)
  · exact .refl

theorem finishWith_grows (terminal : VoiceSessionEvent) : Grows s (s.finishWith terminal)
    (if s.terminalSeen then [] else [terminal].filter VoiceSessionEvent.quotes) := by
  unfold Session.finishWith
  split
  · exact .refl
  · exact .shift (.quietly release_grows (.shift (.quietly detach_grows (tell_grows terminal)) (by trivial))) (by trivial)

theorem finishWith_quiet {terminal : VoiceSessionEvent} (plain : terminal.quotes = false) :
    Grows s (s.finishWith terminal) [] := by
  have grown := finishWith_grows (s:=s) terminal
  rw [List.filter_singleton,plain] at grown
  split at grown <;> exact grown

theorem sendRaw_grows (frame : List Int16) : Grows s (s.sendRaw frame) [] := by
  unfold Session.sendRaw
  split
  · exact .refl
  · exact send_grows _

theorem drainFrames_grows (s : Session) : Grows s s.drainFrames [] := by
  induction s using Session.drainFrames.induct with
  | case1 s full ih =>
    unfold Session.drainFrames
    rw [if_pos full]
    exact ((sendRaw_grows _).quietly ih).shift (by trivial)
  | case2 s short =>
    unfold Session.drainFrames
    rw [if_neg short]
    exact .refl

theorem finish_grows : Grows s s.finish [] := by
  unfold Session.finish
  split
  · exact .refl
  · have tail : Grows s.releaseMicrophone.drainFrames (if s.releaseMicrophone.drainFrames.pendingSamples = [] then
        s.releaseMicrophone.drainFrames
      else {s.releaseMicrophone.drainFrames with pendingSamples := []}.sendRaw
        s.releaseMicrophone.drainFrames.pendingSamples) [] := by
      split
      · exact .refl
      · exact (sendRaw_grows _).shift (by trivial)
    have spoken : Grows s (_ : Session) [] := .quietly (.quietly release_grows (drainFrames_grows _)) tail
    exact spoken.quietly (.shift (.quietly (tell_grows .processing) (send_grows _)) (by trivial))

theorem finishAutomatically_grows : Grows s s.finishAutomatically [] := by
  unfold Session.finishAutomatically
  split
  · exact (send_grows _).quietly (finishWith_quiet rfl)
  · exact finish_grows
  · split
    · exact finish_grows
    · exact .refl

theorem cancel_grows : Grows s s.cancel [] := by
  unfold Session.cancel
  split
  · exact .refl
  · dsimp only
    split
    · exact .shift (.quietly release_grows (.shift (.quietly (send_grows _) (finishWith_quiet rfl)) (by trivial))) (by trivial)
    · exact .shift (.quietly release_grows (.shift (finishWith_quiet rfl) (by trivial))) (by trivial)

theorem dispose_grows : Grows s s.dispose [] :=
  .shift (.quietly release_grows (.shift detach_grows (by trivial))) (by trivial)

theorem take_grows (accepted : List Int16) : Grows s
    (if (s.take accepted).state = .recording then (s.take accepted).drainFrames.finishAutomatically else s.take accepted) [] := by
  have taken : Grows s (s.take accepted) [] := (emit_grows (.heard accepted) rfl).shift (by trivial)
  split
  · exact taken.quietly ((drainFrames_grows _).quietly finishAutomatically_grows)
  · exact taken

theorem handleAudio_grows (pcm : List Int16) : Grows s (s.handleAudio pcm) [] := by
  unfold Session.handleAudio
  split
  · exact .refl
  · split
    · exact .refl
    · dsimp only
      split
      · exact .refl
      · exact take_grows _

-- Whatever the page does by itself, it quotes nobody.
theorem execute_grows {action : Action} (silent : ∀ data, action ≠ .message data) (taken : execute s action = some s') :
    Grows s s' [] := by
  cases action with
  | message data => exact absurd rfl (silent data)
  | start =>
    cases taken
    unfold Session.start
    split
    · exact .refl
    · exact .shift .refl (by trivial)
  | granted =>
    cases (Option.ite_none_right_eq_some.mp taken).2
    have acquired : Grows s ({s with prompt := false}.emit .acquired) [] := (emit_grows _ rfl).shift (by trivial)
    unfold Session.granted
    dsimp only
    split
    · exact acquired.quietly (emit_grows .released rfl)
    · exact acquired.quietly (.shift (emit_grows .dialled rfl) (by trivial))
  | denied name =>
    cases (Option.ite_none_right_eq_some.mp taken).2
    exact (finishWith_quiet rfl).shift (by trivial)
  | opened =>
    cases (Option.ite_none_right_eq_some.mp taken).2
    exact (emit_grows _ rfl).shift (by trivial)
  | disconnected =>
    cases (Option.ite_none_right_eq_some.mp taken).2
    unfold Session.disconnected
    split
    · exact finishWith_quiet (by split <;> rfl)
    · exact .refl
  | expired =>
    cases (Option.ite_none_right_eq_some.mp taken).2
    exact finishWith_quiet (by split <;> rfl)
  | audio pcm =>
    cases taken
    exact handleAudio_grows pcm
  | finish =>
    cases taken
    exact finish_grows
  | cancel =>
    cases taken
    exact cancel_grows
  | dispose =>
    cases taken
    exact dispose_grows

end grows
end VoiceSearch

namespace VoiceCall
open DeviceControl (Uuid Json)
open Voice (VoiceSession Service Message Stage StreamLoop Opening VoiceStreamServerEvent VoiceStreamErrorCode Rendering Codec)
open VoiceSearch (Session ClientFrame VoiceSessionEvent pcmBytes outgoing)

variable {S : Type}

-- The server's part of a call, and what lies between it and the page.
structure Line (S : Type) where
  service : Service
  rendering : Rendering S
  stringify : Json → String

-- The socket keeps the order: so many messages of the page were read, and so many
-- frames of the server were shown.
structure Call (S : Type) where
  page : Session
  server : VoiceSession S
  read : Nat
  shown : Nat

def Call.new (locale : Option String) (limit : Option Nat) (requestId : String)
    (principal : Option Voice.DeviceControlPrincipal) : Call S :=
  ⟨.new locale limit,Voice.connected requestId principal,0,0⟩

inductive Action (S : Type) where
  | page (action : VoiceSearch.Action)
  | shown
  | read
  | server (event : Voice.Event S)

def said? : Voice.Effect S → Option (VoiceStreamServerEvent S)
  | .sent event => some event
  | _ => none

def said (log : List (Voice.Effect S)) : List (VoiceStreamServerEvent S) := log.filterMap said?

-- Texts, audio and the end of the socket come from the page only.
def fromPage : Voice.Event S → Bool
  | .received (some (.text _)) | .received (some (.binary _)) | .received (some .close) => true
  | _ => false

def isMessage : VoiceSearch.Action → Bool
  | .message _ => true
  | _ => false

def execute (line : Line S) (call : Call S) : Action S → Option (Call S)
  | .page action =>
    if isMessage action then none else (VoiceSearch.execute call.page action).map fun page => {call with page := page}
  | .shown => (said call.server.log)[call.shown]?.bind fun event =>
    (VoiceSearch.execute call.page (.message (some (event.toJson line.rendering)))).map fun page =>
      {call with page := page, shown := call.shown + 1}
  | .read => (outgoing line.stringify call.page.log)[call.read]?.bind fun message =>
    (Voice.execute line.service call.server (.received (some message))).map fun server =>
      {call with server := server, read := call.read + 1}
  | .server event =>
    if fromPage event then none else (Voice.execute line.service call.server event).map fun server => {call with server := server}

-- How the JSON library of the server reads the texts of a page.
structure Spoken (codec : Codec) (stringify : Json → String) (page : Session) : Prop where
  start : codec.start (stringify (ClientFrame.start page.locale page.limit).toJson) =
    .ok ⟨some page.locale,16000,none,some "buffered_v1",some (UInt8.ofNat page.limit),[]⟩
  commit : codec.isCommit (stringify ClientFrame.commit.toJson) = true ∧ codec.isCancel (stringify ClientFrame.commit.toJson) = false
  cancel : codec.isCancel (stringify ClientFrame.cancel.toJson) = true

section server
variable {stringify : Json → String}

def Message.audio : Message → List UInt8
  | .binary audio => audio
  | _ => []

def pushed : Voice.Effect S → List UInt8
  | .pushed audio => audio
  | _ => []

def audioIn (messages : List Message) : List UInt8 := messages.flatMap Message.audio
def audioOf (log : List (Voice.Effect S)) : List UInt8 := log.flatMap pushed

theorem audioIn_append (earlier later : List Message) : audioIn (earlier ++ later) = audioIn earlier ++ audioIn later :=
  List.flatMap_append
theorem audioIn_one (message : Message) : audioIn [message] = Message.audio message := List.append_nil _
theorem audioOf_append (earlier later : List (Voice.Effect S)) : audioOf (earlier ++ later) = audioOf earlier ++ audioOf later :=
  List.flatMap_append
theorem said_append (earlier later : List (Voice.Effect S)) : said (earlier ++ later) = said earlier ++ said later :=
  List.filterMap_append

-- What a server that has read some messages may have answered: it finds nothing
-- wrong with the page, except that a socket may break before the first of them.
def Answers (stringify : Json → String) (heard : List Message) : VoiceStreamServerEvent S → Prop
  | .error code _ _ _ => code ≠ .audioChunkInvalid ∧ code ≠ .audioTooLarge ∧ code ≠ .validationFailed ∧
      (code = .protocolError → ∀ message ∈ heard, message = .close) ∧
      (code = .cancelled → ClientFrame.cancel.message stringify ∈ heard)
  | .deviceResult .. => False
  | .ready .. | .transcript .. | .result _ => True

-- Where the session of a page stands; the stages of a device are none of them.
def Stands (opener : Message) (heard : List Message) : Stage → Prop
  | .starting _ => heard = []
  | .opening opening => opening.principal = none ∧ heard = [opener] ∧ audioIn heard = []
  | .looping loop | .receiving loop | .pushing loop =>
    loop.principal = none ∧ opener ∈ heard ∧ loop.audioBytes = (audioIn heard).length
  | .finishing loop => loop.principal = none
  | .querying turn | .searching turn _ _ => turn.flavor = .legacy
  | .answered | .closed | .panicked => True
  | _ => False

structure Hears (stringify : Json → String) (opener : Message) (heard : List Message) (s : VoiceSession S) : Prop where
  audio : audioOf s.log = audioIn heard
  finished : .finished ∈ s.log → ClientFrame.commit.message stringify ∈ heard
  calm : s.stage.ended = false → ∀ event ∈ said s.log, event.frame.terminal = false
  answers : ∀ event ∈ said s.log, Answers stringify heard event
  stands : Stands opener heard s.stage

variable {service : Service} {s s' : VoiceSession S} {opener : Message} {heard more : List Message}
variable {effects : List (Voice.Effect S)} {stage : Stage}

theorem calm_answers {event : VoiceStreamServerEvent S} (calm : event.frame.terminal = false) : Answers stringify heard event := by
  cases event with
  | ready | transcript => trivial
  | result | deviceResult | error => cases calm

-- A session that goes on has not said anything final yet.
theorem goto_hears (hears : Hears stringify opener heard s) (live : s.stage.ended = false) (audio : audioOf effects = audioIn more)
    (finished : .finished ∈ effects → ClientFrame.commit.message stringify ∈ heard ++ more)
    (answers : ∀ event ∈ said effects, Answers stringify (heard ++ more) event ∧ (stage.ended = false → event.frame.terminal = false))
    (stands : Stands opener (heard ++ more) stage) : Hears stringify opener (heard ++ more) (s.goto effects stage) := by
  have before := hears.calm live
  refine ⟨?_,fun ended => ?_,fun open_ event listed => ?_,fun event listed => ?_,stands⟩
  · rw [VoiceSession.goto,audioOf_append,hears.audio,audio,audioIn_append]
  · rcases List.mem_append.mp ended with earlier | now
    · exact List.mem_append_left _ (hears.finished earlier)
    · exact finished now
  · rw [VoiceSession.goto,said_append] at listed
    rcases List.mem_append.mp listed with earlier | now
    · exact before event earlier
    · exact (answers event now).2 open_
  · rw [VoiceSession.goto,said_append] at listed
    rcases List.mem_append.mp listed with earlier | now
    · exact calm_answers (before event earlier)
    · exact (answers event now).1

-- The same without a message of the page.
theorem stay_hears (hears : Hears stringify opener heard s) (live : s.stage.ended = false) (audio : audioOf effects = [])
    (finished : .finished ∉ effects)
    (answers : ∀ event ∈ said effects, Answers stringify heard event ∧ (stage.ended = false → event.frame.terminal = false))
    (stands : Stands opener heard stage) : Hears stringify opener heard (s.goto effects stage) := by
  have kept : Hears stringify opener (heard ++ []) (s.goto effects stage) := goto_hears hears live audio
    (fun ended => absurd ended finished) (by simpa only [List.append_nil] using answers)
    (by simpa only [List.append_nil] using stands)
  rwa [List.append_nil] at kept

def Harmless (code : VoiceStreamErrorCode) : Prop := code ≠ .audioChunkInvalid ∧ code ≠ .audioTooLarge ∧ code ≠ .validationFailed ∧
  code ≠ .protocolError ∧ code ≠ .cancelled

instance (code : VoiceStreamErrorCode) : Decidable (Harmless code) := by
  unfold Harmless
  infer_instance

-- Effects that are neither audio nor the end of it nor said to the page.
def Quiet (effects : List (Voice.Effect S)) : Prop := audioOf effects = [] ∧ .finished ∉ effects ∧ said effects = []

theorem harmless_answers {code : VoiceStreamErrorCode} {message requestId : String} {details : Json} (harmless : Harmless code) :
    Answers stringify heard (.error code message requestId details : VoiceStreamServerEvent S) := by
  obtain ⟨chunk,large,invalid,protocol,cancelled⟩ := harmless
  exact ⟨chunk,large,invalid,fun same => absurd same protocol,fun same => absurd same cancelled⟩

-- A refusal may come with the message it answers.
theorem reject_hears (hears : Hears stringify opener heard s) (live : s.stage.ended = false) (quiet : Quiet effects)
    {code : VoiceStreamErrorCode} {message : String} {details : Json} (audio : audioIn more = [])
    (answers : Answers stringify (heard ++ more) (s.errorEvent code message details)) :
    Hears stringify opener (heard ++ more) (s.refuse effects code message details) := by
  refine goto_hears hears live ?_ (fun ended => ?_) (fun event listed => ?_) trivial
  · rw [audioOf_append,quiet.1,audio]
    rfl
  · simp [VoiceSession.errorEvent,quiet.2.1] at ended
  · rw [said_append,quiet.2.2] at listed
    cases List.mem_singleton.mp listed
    exact ⟨answers,fun open_ => by cases open_⟩

theorem refuse_hears (hears : Hears stringify opener heard s) (live : s.stage.ended = false) (quiet : Quiet effects)
    {code : VoiceStreamErrorCode} {message : String} {details : Json} (harmless : Harmless code) :
    Hears stringify opener heard (s.refuse effects code message details) := by
  have kept : Hears stringify opener (heard ++ []) (s.refuse effects code message details) :=
    reject_hears hears live quiet rfl (harmless_answers harmless)
  rwa [List.append_nil] at kept

theorem leave_hears (hears : Hears stringify opener heard s) (live : s.stage.ended = false)
    {code : VoiceStreamErrorCode} {message : String} {details : Json} (harmless : Harmless code) :
    Hears stringify opener heard (s.refuse [] code message details) :=
  refuse_hears hears live ⟨rfl,List.not_mem_nil,rfl⟩ harmless

theorem failure_hears (hears : Hears stringify opener heard s) (live : s.stage.ended = false) {error : Voice.StreamOperationError} :
    Hears stringify opener heard (s.speechFailure error) := by
  cases error with
  | provider | timeout => exact leave_hears hears live (by decide)

theorem transcripts_hears (s : VoiceSession S) (updates : List Voice.TranscriptUpdate) :
    audioOf (s.transcripts updates) = [] ∧ .finished ∉ s.transcripts updates ∧
      ∀ event ∈ said (s.transcripts updates), event.frame.terminal = false := by
  unfold VoiceSession.transcripts
  induction updates with
  | nil => exact ⟨rfl,List.not_mem_nil,fun event listed => by cases listed⟩
  | cons update rest ih =>
    refine ⟨ih.1,fun ended => ?_,fun event listed => ?_⟩
    · rcases List.mem_cons.mp ended with same | later
      · cases same
      · exact ih.2.1 later
    · rcases List.mem_cons.mp listed with rfl | later
      · rfl
      · exact ih.2.2 event later

-- A page that never announced a device is searched for.
theorem finish_hears {loop : StreamLoop} (hears : Hears stringify opener heard s) (stage : s.stage = .finishing loop)
    (outcome : Except Voice.StreamOperationError (List Voice.TranscriptUpdate)) :
    Hears stringify opener heard (Voice.finish s loop outcome) := by
  have live : s.stage.ended = false := by rw [stage]; rfl
  have anonymous := hears.stands
  rw [stage] at anonymous
  unfold Voice.finish
  cases outcome with
  | error error => exact failure_hears hears live
  | ok updates =>
    obtain ⟨silent,open_,calm⟩ := transcripts_hears s updates
    dsimp only
    split
    · refine stay_hears hears live ?_ ?_ (fun event listed => ?_) trivial
      · rw [audioOf_append,silent]
        rfl
      · simp [VoiceSession.errorEvent,open_]
      · rw [said_append] at listed
        rcases List.mem_append.mp listed with transcript | last
        · exact ⟨calm_answers (calm event transcript),fun _ => calm event transcript⟩
        · cases List.mem_singleton.mp last
          exact ⟨harmless_answers (by decide),fun ended => by cases ended⟩
    · refine stay_hears hears live silent open_
        (fun event listed => ⟨calm_answers (calm event listed),fun _ => calm event listed⟩) ?_
      split
      · rename_i principal found
        rw [show loop.principal = none from anonymous] at found
        cases found
      · rfl

theorem query_hears {turn : Voice.SearchTurn} (hears : Hears stringify opener heard s) (stage : s.stage = .querying turn)
    (answer : Voice.ParserAnswer) (classified : Option String) :
    Hears stringify opener heard (Voice.query service s turn answer classified) := by
  have live : s.stage.ended = false := by rw [stage]; rfl
  have legacy := hears.stands
  rw [stage] at legacy
  unfold Voice.query
  split
  · exact stay_hears hears live rfl (by simp) (fun event listed => by cases listed) trivial
  · exact stay_hears hears live rfl List.not_mem_nil (fun event listed => by cases listed) legacy

theorem search_hears {turn : Voice.SearchTurn} {query : Search.SearchQuery} {constraints : Search.SearchConstraints}
    (hears : Hears stringify opener heard s) (stage : s.stage = .searching turn query constraints) (stations : Option (List S)) :
    Hears stringify opener heard (Voice.search s turn query stations) := by
  have live : s.stage.ended = false := by rw [stage]; rfl
  have legacy := hears.stands
  rw [stage] at legacy
  have flavor : turn.flavor = .legacy := legacy
  unfold Voice.search
  cases stations with
  | none =>
    rw [flavor]
    exact leave_hears hears live (by decide)
  | some stations =>
    have other : decide (turn.flavor = .device) = false := by rw [flavor]; rfl
    simp only [other,Bool.and_false,Bool.false_eq_true,if_false]
    unfold VoiceSession.answer
    refine stay_hears hears live rfl (by simp) (fun event listed => ?_) trivial
    cases List.mem_singleton.mp listed
    exact ⟨trivial,fun ended => by cases ended⟩

-- Whatever happens apart from the page, the session goes on answering a search.
theorem server_hears {event : Voice.Event S} (hears : Hears stringify opener heard s) (apart : fromPage event = false)
    (taken : Voice.execute service s event = some s') : Hears stringify opener heard s' := by
  have stands := hears.stands
  have silent (message : Option Message) : Quiet ([.received message] : List (Voice.Effect S)) := ⟨rfl,by simp,rfl⟩
  unfold Voice.execute at taken
  split at taken
  all_goals first
    | cases taken
      done
    | cases Option.some.inj taken
  case h_1 principal message stage =>
    have live : s.stage.ended = false := by rw [stage]; rfl
    rw [stage] at stands
    have none : heard = [] := stands
    have misstart : Hears stringify opener heard (s.refuse [.received message] .protocolError
        "The first WebSocket message must be a JSON start event." Voice.emptyDetails) := by
      have kept : Hears stringify opener (heard ++ []) (s.refuse [.received message] .protocolError
          "The first WebSocket message must be a JSON start event." Voice.emptyDetails) := reject_hears hears live (silent message) rfl
        ⟨by decide,by decide,by decide,fun _ other listed => ?_,fun same => by cases same⟩
      · rwa [List.append_nil] at kept
      · rw [none] at listed
        cases listed
    unfold Voice.start
    cases message with
    | none => exact misstart
    | some message =>
      cases message with
      | text | binary | close => cases apart
      | ping | pong | failed => exact misstart
  case h_2 opening device stage =>
    rw [stage] at stands
    cases stands
  case h_3 opening outcome stage =>
    have live : s.stage.ended = false := by rw [stage]; rfl
    rw [stage] at stands
    obtain ⟨anonymous,heard_start,nothing⟩ := stands
    unfold Voice.openStream
    cases outcome with
    | ok outcome =>
      refine stay_hears hears live rfl (by simp) (fun event listed => ?_) ⟨anonymous,?_,?_⟩
      · cases List.mem_singleton.mp listed
        exact ⟨trivial,fun _ => rfl⟩
      · rw [heard_start]
        exact List.mem_singleton_self _
      · rw [nothing]
        rfl
    | error error =>
      cases error with
      | provider | timeout => exact leave_hears hears live (by decide)
  case h_4 loop elapsed stage =>
    have live : s.stage.ended = false := by rw [stage]; rfl
    rw [stage] at stands
    unfold Voice.turn
    split
    · exact stay_hears hears live rfl List.not_mem_nil (fun event listed => by cases listed) stands
    · exact leave_hears hears live (by decide)
  case h_5 loop message stage =>
    have live : s.stage.ended = false := by rw [stage]; rfl
    rw [stage] at stands
    unfold Voice.receive
    cases message with
    | none => exact refuse_hears hears live (silent none) (by decide)
    | some message =>
      cases message with
      | text | binary | close => cases apart
      | ping payload => exact stay_hears hears live rfl (by simp) (fun event listed => by cases listed) stands
      | pong => exact stay_hears hears live rfl (by simp) (fun event listed => by cases listed) stands
      | failed => exact stay_hears hears live rfl (by simp) (fun event listed => by cases listed) trivial
  case h_6 loop outcome stage =>
    have live : s.stage.ended = false := by rw [stage]; rfl
    rw [stage] at stands
    unfold Voice.push
    cases outcome with
    | error error => exact failure_hears hears live
    | ok updates =>
      obtain ⟨quiet,open_,calm⟩ := transcripts_hears s updates
      exact stay_hears hears live quiet open_ (fun event listed => ⟨calm_answers (calm event listed),fun _ => calm event listed⟩)
        stands
  case h_7 stage => exact finish_hears hears stage _
  case h_16 stage => exact query_hears hears stage _ _
  case h_17 stage => exact leave_hears hears (by rw [stage]; rfl) (by decide)
  case h_18 stage => exact search_hears hears stage _
  case h_19 stage => exact leave_hears hears (by rw [stage]; rfl) (by decide)
  -- the stages of a device
  all_goals
    rename_i stage
    rw [stage] at stands
    cases stands

-- The next message that a page may have for the server.
structure Offered (stringify : Json → String) (opener : Message) (heard : List Message) (message : Message) : Prop where
  first : heard = [] → message = .close ∨ message = opener
  later : opener ∈ heard → message = .close ∨ message = ClientFrame.commit.message stringify ∨
    message = ClientFrame.cancel.message stringify ∨ ∃ chunk : List Int16, chunk ≠ [] ∧ chunk.length ≤ VoiceSearch.chunkSamples ∧
      message = .binary (pcmBytes chunk)
  minute : (audioIn (heard ++ [message])).length ≤ 2 * VoiceSearch.maxSessionSamples

variable {page : Session} {message : Message}

theorem start_valid (spoken : Spoken service.codec stringify page) (valid : Voice.isValidLocale page.locale = true)
    (least : 1 ≤ page.limit) (most : page.limit ≤ 10) : ∃ start,
    Voice.parseStreamStart service.codec (stringify (ClientFrame.start page.locale page.limit).toJson) = .ok start ∧
      start.surfaceId = none := by
  have size : (UInt8.ofNat page.limit).toNat = page.limit := by
    rw [UInt8.toNat_ofNat']
    omega
  have low : UInt8.ofNat page.limit ≠ 0 := fun none => by
    rw [none,UInt8.toNat_zero] at size
    omega
  have high : UInt8.ofNat page.limit ≤ 50 := by
    rw [UInt8.le_iff_toNat_le,size]
    exact Nat.le_trans most (by decide)
  have checked : ∃ start, Voice.ValidatedVoiceStreamStart.tryFrom
      ⟨some page.locale,16000,none,some "buffered_v1",some (UInt8.ofNat page.limit),[]⟩ = .ok start := by
    have search : ∃ validated, Voice.ValidatedSearchRequest.tryFrom
        ⟨"stream",some page.locale,some (UInt8.ofNat page.limit),none,[]⟩ = .ok validated := by
      have trimmed : Search.trim "stream" = "stream" := by decide
      have short : decide (500 < "stream".length) = false := by decide
      unfold Voice.ValidatedSearchRequest.tryFrom
      simp [trimmed,short,valid,low,high,Voice.refuseIf]
    obtain ⟨validated,search⟩ := search
    unfold Voice.ValidatedVoiceStreamStart.tryFrom
    simp [search,Voice.refuseIf,Voice.recognizerModeOf]
  obtain ⟨start,checked⟩ := checked
  refine ⟨start,?_,(Voice.tryFrom_surface checked).trans rfl⟩
  unfold Voice.parseStreamStart
  rw [spoken.start]
  simp only [checked]
  rfl

theorem read_hears (hears : Hears stringify opener heard s) (spoken : Spoken service.codec stringify page)
    (same : opener = (ClientFrame.start page.locale page.limit).message stringify) (valid : Voice.isValidLocale page.locale = true)
    (least : 1 ≤ page.limit) (most : page.limit ≤ 10) (offered : Offered stringify opener heard message)
    (taken : Voice.execute service s (.received (some message)) = some s') : Hears stringify opener (heard ++ [message]) s' := by
  have stands := hears.stands
  unfold Voice.execute at taken
  split at taken
  all_goals first
    | cases taken
      done
    | cases Option.some.inj taken
  case h_1 principal _ stage received =>
    cases received
    have live : s.stage.ended = false := by rw [stage]; rfl
    rw [stage] at stands
    have nothing : heard = [] := stands
    rcases offered.first nothing with rfl | rfl
    · refine reject_hears hears live ⟨rfl,by simp,rfl⟩ rfl ⟨by decide,by decide,by decide,fun _ other listed => ?_,?_⟩
      · rw [nothing] at listed
        exact List.mem_singleton.mp listed
      · intro cancelled
        cases cancelled
    · obtain ⟨start,parsed,surface⟩ := start_valid spoken valid least most
      rw [same] at hears ⊢
      have anonymous : (Opening.of start principal).principal = none := by
        change principal.filter (fun _ => decide (start.surfaceId = some "voice.main")) = none
        rw [surface]
        cases principal <;> rfl
      have opens : Voice.start service s principal (some ((ClientFrame.start page.locale page.limit).message stringify)) =
          s.goto [.received (some ((ClientFrame.start page.locale page.limit).message stringify))]
            (.opening (Opening.of start principal)) := by
        simp only [Voice.start,ClientFrame.message,parsed]
        rw [if_neg (by rw [anonymous]; exact Bool.false_ne_true)]
      rw [opens]
      refine goto_hears hears live rfl (by simp) (fun event listed => by cases listed) ⟨anonymous,?_,?_⟩
      · rw [nothing]
        rfl
      · rw [nothing]
        rfl
  case h_5 loop _ stage received =>
    cases received
    have live : s.stage.ended = false := by rw [stage]; rfl
    rw [stage] at stands
    obtain ⟨anonymous,opened,counted⟩ := stands
    rcases offered.later opened with rfl | rfl | rfl | ⟨chunk,some_audio,short,rfl⟩
    · exact goto_hears hears live rfl (by simp) (fun event listed => by cases listed) trivial
    · simp only [Voice.receive,ClientFrame.message,spoken.commit.1,spoken.commit.2,Bool.false_eq_true,if_false,if_true]
      exact goto_hears hears live rfl (fun _ => List.mem_append_right _ (List.mem_singleton_self _))
        (fun event listed => by cases listed) anonymous
    · simp only [Voice.receive,ClientFrame.message,spoken.cancel,if_true]
      refine reject_hears hears live ⟨rfl,by simp,rfl⟩ rfl ⟨by decide,by decide,by decide,VoiceStreamErrorCode.noConfusion,fun _ => ?_⟩
      exact List.mem_append_right _ (List.mem_singleton_self _)
    · have valid : Voice.ValidFrame (pcmBytes chunk) := by
        have bytes := VoiceSearch.pcmBytes_length chunk
        have size : VoiceSearch.chunkSamples = 8000 := rfl
        refine ⟨fun none => ?_,?_,?_⟩
        · rw [none] at bytes
          exact some_audio (List.length_eq_zero_iff.mp (by simpa using bytes.symm))
        · simp only [Voice.maxStreamAudioChunkBytes]
          omega
        · omega
      have total : loop.audioBytes + (pcmBytes chunk).length ≤ 1920000 := by
        have minute := offered.minute
        rw [audioIn_append,audioIn_one,List.length_append] at minute
        rw [counted]
        exact minute
      rw [Voice.receive_valid valid (by omega),if_neg (by simp only [Voice.maxStreamAudioSeconds,Voice.bytesPerSecond]; omega)]
      refine goto_hears hears live rfl (by simp) (fun event listed => by cases listed) ⟨anonymous,List.mem_append_left _ opened,?_⟩
      rw [audioIn_append,audioIn_one,List.length_append,← counted]
      rfl
  all_goals
    rename_i other
    cases other

end server

section page
open VoiceSearch (frames)
variable {stringify : Json → String} {log earlier later : List VoiceSearch.Effect} {page page' : Session}

def frameAudio : ClientFrame → List Int16
  | .pcm samples => samples
  | _ => []

def recordedAudio (spoken : List ClientFrame) : List Int16 := spoken.flatMap frameAudio

-- Only the frames of a page carry audio.
theorem outgoing_audio : audioIn (outgoing stringify log) = pcmBytes (recordedAudio (frames log)) := by
  induction log with
  | nil => rfl
  | cons effect rest ih =>
    have parts : outgoing stringify (effect :: rest) = (effect.message? stringify).toList ++ outgoing stringify rest := by
      unfold outgoing
      rw [List.filterMap_cons]
      cases effect.message? stringify <;> rfl
    have spoken : recordedAudio (frames (effect :: rest)) = recordedAudio effect.frame?.toList ++ recordedAudio (frames rest) := by
      rw [VoiceSearch.frames_cons]
      exact List.flatMap_append
    rw [parts,audioIn_append,ih,spoken,VoiceSearch.pcmBytes_append]
    congr 1
    cases effect with
    | sent frame =>
      have one : recordedAudio [frame] = frameAudio frame := List.append_nil _
      change audioIn [frame.message stringify] = pcmBytes (recordedAudio [frame])
      rw [audioIn_one,one]
      cases frame <;> rfl
    | acquired | released | dialled | hungUp | heard | told => rfl

theorem recorded_chunks {chunks : List (List Int16)} {opener : ClientFrame} {ending : List ClientFrame}
    (silent : frameAudio opener = [] ∧ recordedAudio ending = []) :
    recordedAudio (opener :: chunks.map .pcm ++ ending) = chunks.flatten := by
  have middle : recordedAudio (chunks.map ClientFrame.pcm) = chunks.flatten := by
    induction chunks with
    | nil => rfl
    | cons chunk rest ih =>
      rw [List.map_cons,List.flatten_cons,← ih]
      rfl
  unfold recordedAudio at silent middle ⊢
  rw [List.cons_append,List.flatMap_cons,List.flatMap_append,silent.1,silent.2,middle,List.nil_append,List.append_nil]

-- A message that is not the end of the socket is a frame.
theorem message_frame {message : Message} (listed : message ∈ outgoing stringify log) (open_ : message ≠ .close) :
    ∃ frame ∈ frames log, frame.message stringify = message := by
  obtain ⟨effect,there,given⟩ := List.mem_filterMap.mp listed
  cases effect with
  | sent frame => exact ⟨frame,List.mem_filterMap.mpr ⟨_,there,rfl⟩,Option.some.inj given⟩
  | hungUp =>
    cases given
    exact absurd rfl open_
  | acquired | released | dialled | heard | told => cases given

theorem frames_silent {s : Json → String} (silent : ∀ effect ∈ log, effect.message? s = none) : frames log = [] := by
  refine List.filterMap_eq_nil_iff.mpr fun effect listed => ?_
  have none := silent effect listed
  cases effect with
  | sent => cases none
  | acquired | released | dialled | hungUp | heard | told => rfl

theorem outgoing_bytes (lawful : page.Lawful) : audioIn (outgoing stringify page.log) <+: pcmBytes (VoiceSearch.heard page.log) ∧
    (audioIn (outgoing stringify page.log)).length ≤ 2 * VoiceSearch.maxSessionSamples := by
  rw [outgoing_audio]
  rcases lawful.frames with none | ⟨chunks,ending,_,spoken,ends,part,_⟩
  · rw [none]
    exact ⟨List.nil_prefix,Nat.zero_le _⟩
  · have silent : recordedAudio ending = [] := by
      simp only [List.mem_cons,List.not_mem_nil,or_false] at ends
      rcases ends with rfl | rfl | rfl <;> rfl
    rw [spoken,recorded_chunks ⟨rfl,silent⟩]
    obtain ⟨rest,whole⟩ := part
    refine ⟨⟨pcmBytes rest,?_⟩,?_⟩
    · rw [← VoiceSearch.pcmBytes_append,whole]
    · have minute := lawful.minute
      rw [← whole,List.length_append] at minute
      rw [VoiceSearch.pcmBytes_length]
      omega

theorem page_offers (lawful : page.Lawful) {read : Nat} {message : Message}
    (next : (outgoing stringify page.log)[read]? = some message) :
    Offered stringify ((ClientFrame.start page.locale page.limit).message stringify) ((outgoing stringify page.log).take read) message := by
  obtain ⟨inside,there⟩ := List.getElem?_eq_some_iff.mp next
  have parts : outgoing stringify page.log =
      (outgoing stringify page.log).take read ++ message :: (outgoing stringify page.log).drop (read + 1) := by
    rw [← there,List.getElem_cons_drop,List.take_append_drop]
  have minute : (audioIn ((outgoing stringify page.log).take read ++ [message])).length ≤ 2 * VoiceSearch.maxSessionSamples := by
    have whole : (audioIn (outgoing stringify page.log)).length ≤ 2 * VoiceSearch.maxSessionSamples := (outgoing_bytes lawful).2
    refine Nat.le_trans ?_ whole
    conv_rhs => rw [parts]
    rw [List.append_cons _ message (List.drop (read + 1) (outgoing stringify page.log)),
      audioIn_append _ (List.drop (read + 1) (outgoing stringify page.log)),List.length_append]
    exact Nat.le_add_right _ _
  obtain ⟨before,after,log,said,rest⟩ := List.filterMap_eq_append_iff.mp parts
  obtain ⟨silent,effect,others,shape,none,given,_⟩ := List.filterMap_eq_cons_iff.mp rest
  cases effect with
  | acquired | released | dialled | heard | told => cases given
  | hungUp =>
    cases given
    exact ⟨fun _ => .inl rfl,fun _ => .inl rfl,minute⟩
  | sent frame =>
    cases given
    have spoken : frames page.log = frames before ++ frame :: frames others := by
      rw [log,shape,VoiceSearch.frames_append,VoiceSearch.frames_append,frames_silent none]
      rfl
    refine ⟨fun nothing => .inr ?_,fun opened => .inr ?_,minute⟩
    · have first : frames before = [] := by
        refine frames_silent (s:=stringify) fun effect listed => ?_
        have quiet : outgoing stringify before = [] := said.trans nothing
        exact List.filterMap_eq_nil_iff.mp quiet effect listed
      rw [first,List.nil_append] at spoken
      rcases lawful.frames with silence | ⟨chunks,ending,_,words,_⟩
      · rw [silence] at spoken
        cases spoken
      · rw [words,List.cons_append] at spoken
        rw [← (List.cons.inj spoken).1]
    · obtain ⟨opener,listed,_⟩ := message_frame (said ▸ opened : _ ∈ outgoing stringify before) (fun same => by cases same)
      obtain ⟨first,more,begun⟩ := List.exists_cons_of_ne_nil (List.ne_nil_of_mem listed)
      rcases lawful.frames with silence | ⟨chunks,ending,sized,words,ends,_⟩
      · rw [silence,begun] at spoken
        cases spoken
      · rw [words,begun,List.cons_append,List.cons_append] at spoken
        have inside : frame ∈ chunks.map ClientFrame.pcm ++ ending := by
          rw [(List.cons.inj spoken).2]
          exact List.mem_append_right _ List.mem_cons_self
        rcases List.mem_append.mp inside with audio | last
        · obtain ⟨chunk,member,rfl⟩ := List.mem_map.mp audio
          exact .inr (.inr ⟨chunk,(sized chunk member).1,(sized chunk member).2,rfl⟩)
        · simp only [List.mem_cons,List.not_mem_nil,or_false] at ends
          rcases ends with rfl | rfl | rfl
          · cases last
          · rw [List.mem_singleton.mp last]
            exact .inl rfl
          · rw [List.mem_singleton.mp last]
            exact .inr (.inl rfl)

-- The texts of a page tell its frames apart.
theorem commit_frame {codec : Codec} (spoken : Spoken codec stringify page) {frame : ClientFrame}
    (own : ∀ locale limit, frame = .start locale limit → locale = page.locale ∧ limit = page.limit)
    (same : frame.message stringify = ClientFrame.commit.message stringify) : frame = .commit := by
  cases frame with
  | commit => rfl
  | pcm => cases same
  | cancel =>
    have cancel := spoken.cancel
    rw [Message.text.inj same,spoken.commit.2] at cancel
    cases cancel
  | start locale limit =>
    obtain ⟨rfl,rfl⟩ := own locale limit rfl
    have plain := (codec.apart _ _ spoken.start).1
    rw [Message.text.inj same,spoken.commit.1] at plain
    cases plain

theorem cancel_frame {codec : Codec} (spoken : Spoken codec stringify page) {frame : ClientFrame}
    (own : ∀ locale limit, frame = .start locale limit → locale = page.locale ∧ limit = page.limit)
    (same : frame.message stringify = ClientFrame.cancel.message stringify) : frame = .cancel := by
  cases frame with
  | cancel => rfl
  | pcm => cases same
  | commit =>
    have cancel := spoken.cancel
    rw [← Message.text.inj same,spoken.commit.2] at cancel
    cases cancel
  | start locale limit =>
    obtain ⟨rfl,rfl⟩ := own locale limit rfl
    have plain := (codec.apart _ _ spoken.start).2
    rw [Message.text.inj same,spoken.cancel] at plain
    cases plain

theorem lawful_own (lawful : page.Lawful) {frame : ClientFrame} (listed : frame ∈ frames page.log) :
    ∀ locale limit, frame = .start locale limit → locale = page.locale ∧ limit = page.limit := by
  rintro locale limit rfl
  rcases lawful.frames with none | ⟨chunks,ending,_,spoken,ends,_⟩
  · rw [none] at listed
    cases listed
  · rw [spoken] at listed
    simp only [List.cons_append,List.mem_cons,List.mem_append,List.mem_map,List.not_mem_nil,or_false] at listed ends
    rcases listed with same | ⟨_,_,same⟩ | last
    · cases same
      exact ⟨rfl,rfl⟩
    · cases same
    · rcases ends with rfl | rfl | rfl
      · cases last
      · cases List.mem_singleton.mp last
      · cases List.mem_singleton.mp last

-- Whoever has read the commit has read all of the recording.
theorem commit_whole {codec : Codec} (lawful : page.Lawful) (spoken : Spoken codec stringify page) {read : Nat}
    (committed : ClientFrame.commit.message stringify ∈ (outgoing stringify page.log).take read) :
    audioIn ((outgoing stringify page.log).take read) = pcmBytes (VoiceSearch.heard page.log) := by
  obtain ⟨before,after,log,said,rest⟩ := List.filterMap_eq_append_iff.mp (List.take_append_drop read (outgoing stringify page.log)).symm
  have joined : frames page.log = frames before ++ frames after := by rw [log,VoiceSearch.frames_append]
  have taken : outgoing stringify before = (outgoing stringify page.log).take read := said
  obtain ⟨frame,listed,same⟩ := message_frame (taken ▸ committed : _ ∈ outgoing stringify before) (fun same => by cases same)
  have inside : frame ∈ frames page.log := by
    rw [joined]
    exact List.mem_append_left _ listed
  have commit := commit_frame spoken (lawful_own lawful inside) same
  rw [commit] at listed inside
  rcases lawful.frames with none | ⟨chunks,ending,_,words,ends,part,whole⟩
  · rw [none] at inside
    cases inside
  · have last : ending = [.commit] := by
      rw [words] at inside
      simp only [List.cons_append,List.mem_cons,List.mem_append,List.mem_map,List.not_mem_nil,or_false] at inside ends
      rcases inside with same | ⟨_,_,same⟩ | final
      · cases same
      · cases same
      · rcases ends with rfl | rfl | rfl
        · cases final
        · rfl
        · cases List.mem_singleton.mp final
    have nothing : frames after = [] := by
      by_contra more
      obtain ⟨others,final,shape⟩ := (List.eq_nil_or_concat' (frames after)).resolve_left more
      rw [words,last,shape,← List.append_assoc] at joined
      have parts := (List.append_inj' joined rfl).1
      have early : .commit ∈ ClientFrame.start page.locale page.limit :: chunks.map ClientFrame.pcm := by
        rw [parts]
        exact List.mem_append_left _ listed
      simp at early
    rw [← taken,outgoing_audio]
    rw [nothing,List.append_nil] at joined
    rw [← joined,words,recorded_chunks ⟨rfl,by rw [last]; rfl⟩,whole last]

theorem cancel_said {codec : Codec} (lawful : page.Lawful) (spoken : Spoken codec stringify page) {read : Nat}
    (cancelled : ClientFrame.cancel.message stringify ∈ (outgoing stringify page.log).take read) : .cancel ∈ frames page.log := by
  obtain ⟨frame,listed,same⟩ := message_frame (List.mem_of_mem_take cancelled) (fun same => by cases same)
  exact cancel_frame spoken (lawful_own lawful listed) same ▸ listed

-- What the page quotes of a frame of the server.
def quote (r : Rendering S) : VoiceStreamServerEvent S → Option VoiceSessionEvent
  | .transcript _ text isFinal => some (.transcript text isFinal)
  | .result payload => some (.result payload.transcript (((payload.stations.map r.station).filter (·.id ≠ "")).map VoiceSearch.itemOf))
  | _ => none

-- A page with an open socket waits to be told of the recording, or was told.
theorem live_open (live : page.Live) (socket : page.socket = some .opened) :
    page.state = .connecting ∨ (page.state = .recording ∨ page.state = .processing) ∧ VoiceSearch.events page.log ≠ [] := by
  have narrated := live.narrated
  cases state : page.state with
  | connecting => exact .inl rfl
  | idle =>
    have uttered := live.uttered
    unfold Session.Uttered at uttered
    simp only [state] at uttered
    have sockets := live.sockets
    rw [uttered.1,socket] at sockets
    cases sockets
  | recording =>
    rw [state] at narrated
    obtain ⟨texts,_,told⟩ := narrated
    exact .inr ⟨.inl rfl,told ▸ List.cons_ne_nil _ _⟩
  | processing =>
    rw [state] at narrated
    obtain ⟨texts,more,_,_,told⟩ := narrated
    exact .inr ⟨.inr rfl,told ▸ List.cons_ne_nil _ _⟩
  | done =>
    rw [state] at narrated
    cases narrated

theorem grows_told {told : List VoiceSessionEvent} (grown : VoiceSearch.Grows page page' told) (some_event : VoiceSearch.events page.log ≠ []) :
    VoiceSearch.events page'.log ≠ [] := by
  obtain ⟨more,log⟩ := grown.log
  rw [← log,VoiceSearch.events_append]
  exact List.append_ne_nil_of_left_ne_nil some_event _

theorem finishWith_shown (live : page.Live) (terminal : VoiceSessionEvent) :
    VoiceSearch.Grows page (page.finishWith terminal) ([terminal].filter VoiceSessionEvent.quotes) ∧
      (page.finishWith terminal).state = .done := by
  have grown := VoiceSearch.finishWith_grows (s:=page) terminal
  rw [live.going] at grown
  refine ⟨grown,?_⟩
  rw [VoiceSearch.finishWith_over,live.going]
  rfl

theorem shown_grows (r : Rendering S) {event : VoiceStreamServerEvent S} (live : page.Live) (socket : page.socket = some .opened)
    (plain : event.frame ≠ .deviceResult) (first : page.state = .connecting → event.frame = .ready ∨ event.frame = .error) :
    VoiceSearch.Grows page (page.handleMessage (some (event.toJson r))) (quote r event).toList ∧
      (VoiceSearch.events (page.handleMessage (some (event.toJson r))).log ≠ [] ∨
        (page.handleMessage (some (event.toJson r))).state = .done) := by
  have standing := live_open live socket
  unfold Session.handleMessage
  rw [if_neg (by rw [live.going]; exact Bool.false_ne_true)]
  cases event with
  | ready requestId format rate device surface =>
    simp only [VoiceSearch.ready_read]
    split
    · have told : VoiceSearch.Grows page ({page with state := .recording}.drainFrames.tell .started) [] :=
        .shift ((VoiceSearch.drainFrames_grows _).quietly (VoiceSearch.tell_grows .started)) (by trivial)
      refine ⟨told.quietly VoiceSearch.finishAutomatically_grows,.inl (grows_told VoiceSearch.finishAutomatically_grows ?_)⟩
      simp [Session.tell,Session.emit]
    · rename_i other
      exact ⟨.refl,.inl (standing.resolve_left other).2⟩
  | transcript requestId words isFinal =>
    have read : VoiceSearch.property ((VoiceStreamServerEvent.transcript requestId words isFinal).toJson r) "type" =
      some (.string "transcript") := rfl
    have heard : VoiceSearch.text ((VoiceStreamServerEvent.transcript requestId words isFinal).toJson r) "transcript" = words := rfl
    have final : VoiceSearch.property ((VoiceStreamServerEvent.transcript requestId words isFinal).toJson r) "is_final" =
      some (.bool isFinal) := rfl
    have open_ : page.state = .recording ∨ page.state = .processing := by
      refine (standing.resolve_left fun connecting => ?_).1
      rcases first connecting with other | other
      · cases other
      · cases other
    have told : (decide (some (Json.bool isFinal) = some (.bool true))) = isFinal := by cases isFinal <;> rfl
    simp only [read,heard,final,told]
    rw [if_pos (by simpa using open_)]
    refine ⟨VoiceSearch.tell_grows _,.inl ?_⟩
    simp [Session.tell,Session.emit]
  | result payload =>
    obtain ⟨read,words,stations⟩ := VoiceSearch.result_read r payload
    simp only [read,words,stations,live.wanted,Bool.false_eq_true,if_false]
    obtain ⟨grown,done⟩ := finishWith_shown live (.result payload.transcript
      (((payload.stations.map r.station).filter (·.id ≠ "")).map VoiceSearch.itemOf))
    exact ⟨grown,.inr done⟩
  | deviceResult => exact absurd rfl plain
  | error code message requestId details =>
    have read : VoiceSearch.property ((VoiceStreamServerEvent.error code message requestId details).toJson r) "type" =
      some (.string "error") := rfl
    simp only [read]
    split
    · obtain ⟨grown,done⟩ := finishWith_shown live .cancelled
      exact ⟨grown,.inr done⟩
    · obtain ⟨grown,done⟩ := finishWith_shown live (.error (VoiceSearch.voiceFailure ((VoiceSearch.serverErrorKinds
        (VoiceSearch.text ((VoiceStreamServerEvent.error code message requestId details).toJson r) "code")).getD .server)))
      exact ⟨grown,.inr done⟩

end page

section calls
open Transition (Runs Executes)
variable {line : Line S} {call call' : Call S} {action : Action S} {actions : List (Action S)} {locale : String} {limit : Nat}

theorem server_grows {service : Service} {s s' : VoiceSession S} {event : Voice.Event S}
    (taken : Voice.execute service s event = some s') (follows : Voice.Follows service.codec s) :
    s.log <+: s'.log ∧ Voice.Follows service.codec s' := by
  rcases Voice.step_course taken with ⟨continued,_⟩ | crash
  · refine ⟨?_,Voice.continue_follows follows continued⟩
    obtain ⟨⟨effects,log,_⟩,_⟩ := continued
    exact log ▸ List.prefix_append _ _
  · refine ⟨?_,(Voice.crash_follows follows crash).1⟩
    obtain ⟨turn,_,rfl,_⟩ := crash
    exact List.prefix_append _ _

theorem said_frames {log : List (Voice.Effect S)} : Voice.frames log = (said log).map VoiceStreamServerEvent.frame := by
  unfold Voice.frames said
  rw [List.map_filterMap]
  congr 1
  funext effect
  cases effect <;> rfl

-- The first frame of a server is its ready or its refusal.
theorem said_first {codec : Codec} {s : VoiceSession S} (follows : Voice.Follows codec s) {event : VoiceStreamServerEvent S}
    (first : (said s.log)[0]? = some event) : event.frame = .ready ∨ event.frame = .error := by
  have spoken := Voice.run_speaks follows
  have head : (Voice.frames s.log)[0]? = some event.frame := by
    rw [said_frames,List.getElem?_map,first]
    rfl
  have begins {n : Nat} {rest : List Voice.Frame} (said : Voice.frames s.log = .ready :: List.replicate n .transcript ++ rest) :
      event.frame = .ready ∨ event.frame = .error := by
    rw [said] at head
    exact .inl (Option.some.inj head).symm
  unfold Voice.Phase.speaks at spoken
  split at spoken
  · rw [spoken] at head
    cases head
  · rw [spoken] at head
    cases head
  · rw [spoken] at head
    cases head
  · rcases spoken with refused | ⟨n,last,_,said⟩
    · rw [refused] at head
      exact .inr (Option.some.inj head).symm
    · exact begins said
  · obtain ⟨n,said⟩ := spoken
    exact @begins n [] (by rw [said,List.append_nil])

def opener (line : Line S) (page : Session) : Message := (ClientFrame.start page.locale page.limit).message line.stringify

-- What a call keeps.
structure Kept (line : Line S) (call : Call S) : Prop where
  page : call.page.Sound
  valid : Voice.isValidLocale call.page.locale = true
  range : 1 ≤ call.page.limit ∧ call.page.limit ≤ 10
  spoken : Spoken line.service.codec line.stringify call.page
  within : call.read ≤ (outgoing line.stringify call.page.log).length
  hears : Hears line.stringify (opener line call.page) ((outgoing line.stringify call.page.log).take call.read) call.server
  follows : Voice.Follows line.service.codec call.server
  seen : call.shown ≤ (said call.server.log).length
  quoted : VoiceSearch.quoted call.page.log = ((said call.server.log).take call.shown).filterMap (quote line.rendering)
  told : call.shown = 0 ∨ VoiceSearch.events call.page.log ≠ [] ∨ call.page.state = .done

theorem take_grows {α : Type} {short long : List α} {n : Nat} (grown : short <+: long) (within : n ≤ short.length) :
    long.take n = short.take n ∧ n ≤ long.length := by
  obtain ⟨rest,rfl⟩ := grown
  exact ⟨List.take_append_of_le_length within,by rw [List.length_append]; omega⟩

-- The page grows, by itself or by a frame of the server.
theorem Kept.page_grows (kept : Kept line call) {page : Session} {told : List VoiceSessionEvent} {shown : Nat}
    (sound : page.Sound) (grown : VoiceSearch.Grows call.page page told) (seen : shown ≤ (said call.server.log).length)
    (quoted : VoiceSearch.quoted call.page.log ++ told = ((said call.server.log).take shown).filterMap (quote line.rendering))
    (later : shown = 0 ∨ VoiceSearch.events page.log ≠ [] ∨ page.state = .done) :
    Kept line {call with page := page, shown := shown} := by
  have longer : outgoing line.stringify call.page.log <+: outgoing line.stringify page.log := grown.log.filterMap _
  obtain ⟨same,within⟩ := take_grows longer kept.within
  have hears := kept.hears
  rw [← same] at hears
  refine ⟨sound,?_,?_,⟨?_,kept.spoken.commit,kept.spoken.cancel⟩,within,?_,kept.follows,seen,grown.quoted.trans quoted,later⟩
  · exact grown.locale ▸ kept.valid
  · exact grown.limit ▸ kept.range
  · rw [grown.locale,grown.limit]
    exact kept.spoken.start
  · unfold opener at hears ⊢
    rwa [grown.locale,grown.limit]

theorem Kept.server_step (kept : Kept line call) {server : VoiceSession S} {event : Voice.Event S} {read : Nat}
    (taken : Voice.execute line.service call.server event = some server)
    (within : read ≤ (outgoing line.stringify call.page.log).length)
    (hears : Hears line.stringify (opener line call.page) ((outgoing line.stringify call.page.log).take read) server) :
    Kept line {call with server := server, read := read} := by
  obtain ⟨grown,follows⟩ := server_grows taken kept.follows
  have longer : said call.server.log <+: said server.log := grown.filterMap _
  obtain ⟨same,seen⟩ := take_grows longer kept.seen
  refine ⟨kept.page,kept.valid,kept.range,kept.spoken,within,hears,follows,seen,?_,kept.told⟩
  rw [same]
  exact kept.quoted

theorem kept_step (kept : Kept line call) (taken : execute line call action = some call') : Kept line call' := by
  cases action with
  | page action =>
    obtain ⟨own,moved⟩ := Option.ite_none_left_eq_some.mp taken
    obtain ⟨page,stepped,rfl⟩ := Option.map_eq_some_iff.mp moved
    have grown : VoiceSearch.Grows call.page page [] := by
      refine VoiceSearch.execute_grows (fun data same => ?_) stepped
      rw [same] at own
      exact own rfl
    refine kept.page_grows (VoiceSearch.step_sound kept.page stepped) grown kept.seen ?_ ?_
    · rw [List.append_nil]
      exact kept.quoted
    · rcases kept.told with none | told | done
      · exact .inl none
      · exact .inr (.inl (grows_told grown told))
      · refine .inr (.inr ?_)
        rcases kept.page with ⟨live,_⟩ | ended
        · have narrated := live.narrated
          rw [done] at narrated
          cases narrated
        · exact (VoiceSearch.done_step ended stepped).1.state
  | shown =>
    obtain ⟨event,next,moved⟩ := Option.bind_eq_some_iff.mp taken
    obtain ⟨page,stepped,rfl⟩ := Option.map_eq_some_iff.mp moved
    have sound := VoiceSearch.step_sound kept.page stepped
    obtain ⟨socket,same⟩ := Option.ite_none_right_eq_some.mp stepped
    cases same
    rcases kept.page with ⟨live,_⟩ | ended
    · obtain ⟨inside,there⟩ := List.getElem?_eq_some_iff.mp next
      have listed : event ∈ said call.server.log := there ▸ List.getElem_mem inside
      have plain : event.frame ≠ .deviceResult := by
        have answers := kept.hears.answers event listed
        cases event with
        | deviceResult => cases answers
        | ready | transcript | result | error => exact Voice.Frame.noConfusion
      obtain ⟨grown,told⟩ := shown_grows line.rendering live socket plain fun connecting => by
        have fresh : call.shown = 0 := by
          rcases kept.told with none | told | done
          · exact none
          · have narrated := live.narrated
            rw [connecting] at narrated
            exact absurd narrated told
          · rw [connecting] at done
            cases done
        rw [fresh] at next
        exact said_first kept.follows next
      refine kept.page_grows sound grown inside ?_ (.inr told)
      rw [List.take_add_one,next,List.filterMap_append,kept.quoted]
      congr 1
    · rw [ended.free.2] at socket
      cases socket
  | read =>
    obtain ⟨message,next,moved⟩ := Option.bind_eq_some_iff.mp taken
    obtain ⟨server,stepped,rfl⟩ := Option.map_eq_some_iff.mp moved
    have inside := (List.getElem?_eq_some_iff.mp next).1
    refine kept.server_step stepped inside ?_
    rw [List.take_add_one,next,Option.toList_some]
    exact read_hears kept.hears kept.spoken rfl kept.valid kept.range.1 kept.range.2
      (page_offers (VoiceSearch.sound_lawful kept.page) next) stepped
  | server event =>
    obtain ⟨apart,moved⟩ := Option.ite_none_left_eq_some.mp taken
    obtain ⟨server,stepped,rfl⟩ := Option.map_eq_some_iff.mp moved
    exact kept.server_step stepped kept.within (server_hears kept.hears (Bool.eq_false_iff.mpr apart) stepped)

-- What either end may rely on.
structure Faithful (line : Line S) (call : Call S) : Prop where
  audio : audioOf call.server.log <+: pcmBytes (VoiceSearch.heard call.page.log)
  whole : .finished ∈ call.server.log → audioOf call.server.log = pcmBytes (VoiceSearch.heard call.page.log)
  blames : ∀ code message requestId details, .error code message requestId details ∈ said call.server.log →
    code ≠ .audioChunkInvalid ∧ code ≠ .audioTooLarge ∧ code ≠ .validationFailed ∧
      (code = .protocolError → ∀ message ∈ (outgoing line.stringify call.page.log).take call.read, message = .close) ∧
      (code = .cancelled → .cancel ∈ VoiceSearch.frames call.page.log)
  search : ∀ requestId status intent, .deviceResult requestId status intent ∉ said call.server.log
  quoted : VoiceSearch.quoted call.page.log <+: (said call.server.log).filterMap (quote line.rendering)

theorem kept_faithful (kept : Kept line call) : Faithful line call := by
  have lawful := VoiceSearch.sound_lawful kept.page
  refine ⟨?_,fun finished => ?_,fun code message requestId details listed => ?_,fun requestId status intent listed => ?_,?_⟩
  · rw [kept.hears.audio]
    have whole : audioIn (outgoing line.stringify call.page.log) <+: pcmBytes (VoiceSearch.heard call.page.log) :=
      (outgoing_bytes lawful).1
    refine List.IsPrefix.trans ⟨audioIn ((outgoing line.stringify call.page.log).drop call.read),?_⟩ whole
    rw [← audioIn_append,List.take_append_drop]
  · rw [kept.hears.audio]
    exact commit_whole lawful kept.spoken (kept.hears.finished finished)
  · obtain ⟨chunk,large,invalid,protocol,cancelled⟩ := kept.hears.answers _ listed
    exact ⟨chunk,large,invalid,protocol,fun same => cancel_said lawful kept.spoken (cancelled same)⟩
  · exact kept.hears.answers _ listed
  · rw [kept.quoted]
    exact (List.take_prefix _ _).filterMap _

-- A page and a server that talk over one socket understand each other, whatever
-- either does in between.
theorem call_faithful {locale : Option String} {limit : Option Nat}
    (spoken : Spoken line.service.codec line.stringify (.new locale limit))
    (valid : Voice.isValidLocale (locale.getD "ru-RU") = true) {requestId : String} {principal : Option Voice.DeviceControlPrincipal}
    (path : Runs (Executes (execute line)) (Call.new locale limit requestId principal) actions call) : Faithful line call := by
  have start : Kept line (Call.new locale limit requestId principal) := by
    refine ⟨VoiceSearch.new_sound locale limit,valid,?_,spoken,Nat.zero_le _,?_,.nil,Nat.zero_le _,rfl,.inl rfl⟩
    · simp only [Call.new,Session.new]
      omega
    · exact ⟨rfl,fun ended => absurd ended List.not_mem_nil,fun _ _ listed => absurd listed List.not_mem_nil,
        fun _ listed => absurd listed List.not_mem_nil,rfl⟩
  exact kept_faithful (path.invariant (Kept line) start fun _ _ _ => kept_step)

-- The page writes JSON and the server reads it.
theorem json_spoken : Spoken Voice.jsonCodec Json.stringify (.new none none) := by
  have read : Json.read (ClientFrame.start (Session.new none none).locale (Session.new none none).limit).toJson.stringify =
      some (ClientFrame.start "ru-RU" 10).toJson := by decide +kernel
  refine ⟨?_,by decide +kernel,by decide +kernel⟩
  simp only [Voice.jsonCodec,Voice.startOf,read]
  rfl

def jazz : Voice.StationResultDto where
  id := "6f1c1d9e-0000-4000-8000-000000000001"
  name := "Jazz"
  streamUrl := "https://radio.example/jazz"
  homepageUrl := none
  faviconUrl := none
  tags := ["jazz"]
  language := some "en"
  countryCode := some "US"
  codec := some "MP3"
  bitrateKbps := some 128
  score := "1.0"
  reason := "matched name"
  health := "healthy"

def jsonLine : Line Voice.StationResultDto :=
  ⟨⟨Voice.jsonCodec,Search.Letters.accented,Json.stringify,30000⟩,⟨id,Voice.normalizedQueryJson,toString⟩,Json.stringify⟩

-- A page that says one word, hears it back and is shown a station.
def spokenWord : List (Action Voice.StationResultDto) :=
  [.page .start,.page .granted,.page .opened,.read,.server (.recognizer (.ok ())),.shown,.page (.audio [1,-2,3]),
    .page .finish,.server (.elapsed 1),.read,.server (.speech (.ok [⟨"ja",false⟩])),.shown,.server (.elapsed 2),.read,
    .server (.speech (.ok [⟨"jazz",true⟩])),.shown,
    .server (.parsed (.provider (.ok ⟨.play,["jazz"],["jazz"],none,none,1,"jazz"⟩)) none),
    .server (.searched (some [jazz])),.shown]

theorem call_faithful_spoken : ∃ call : Call Voice.StationResultDto, Faithful jsonLine call ∧
    audioOf call.server.log = [1,0,254,255,3,0] ∧ .finished ∈ call.server.log ∧
    VoiceSearch.quoted call.page.log =
      [.transcript "ja" false,.transcript "jazz" true,.result "jazz" [VoiceSearch.itemOf jazz]] := by
  obtain ⟨call,path,seen⟩ := Transition.run_reaches (execute jsonLine) (Call.new none none "r" none) spokenWord
    (fun call => audioOf call.server.log = [1,0,254,255,3,0] && call.server.log.any Voice.Effect.isFinish &&
      VoiceSearch.quoted call.page.log =
        [.transcript "ja" false,.transcript "jazz" true,.result "jazz" [VoiceSearch.itemOf jazz]]) (by decide +kernel)
  simp only [Bool.and_eq_true,decide_eq_true_iff,List.any_eq_true] at seen
  obtain ⟨⟨audio,effect,listed,finished⟩,quoted⟩ := seen
  refine ⟨call,call_faithful json_spoken (by decide) path,audio,?_,quoted⟩
  cases effect <;> first | exact listed | cases finished

end calls
end VoiceCall
