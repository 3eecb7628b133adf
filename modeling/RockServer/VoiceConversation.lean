import RockServer.LatinBytes
import RockServer.VoiceLanguage

-- A session runs as the automaton has it, until a search panics over its
-- transcript.
namespace Voice
open DeviceControl (Uuid Json CommandId Timestamp ActiveDevice ErrorCode CommandResult UserIntent DeviceStateSnapshot)
open PersonalData (PersonalDataError SyncOutcome)
open Search (SearchQuery Transliterable Rereadable requestWords intentWords hintText foreignFilter)
open Transition (Runs Executes Under)

def ValidatedVoiceStreamStart.announced (start : ValidatedVoiceStreamStart) : Bool := start.surfaceId = some "voice.main"

def Stage.phase : Stage → Phase
  | .starting _ => .fresh
  | .admitting opened | .opening opened => .opened opened.start.announced
  | .looping loop | .receiving loop | .pushing loop => .live loop.start.announced
  | .finishing loop => .finishing loop.start.announced
  | .interpreting _ | .favouring _ | .looking _ _ | .adding _ _ | .planning _ _ _ => .finishing true
  | .submitting _ _ | .polling _ _ => .routed
  | .querying turn | .searching turn _ _ => .finishing turn.start.announced
  | .answered => .answered
  | .closed => .closed
  | .panicked => .crashed

def Stage.ended : Stage → Bool
  | .answered | .closed | .panicked => true
  | _ => false

-- What the texts of a search have to be for the interpretation to return: a
-- provider's words are read in place of the request's, which is turned to where
-- the answer is refused or has no words.
def Readable (unicode : Search.Unicode) (query : String) (answer : ParserAnswer) : Prop :=
  (∀ hint, hintText unicode query = some hint → Transliterable unicode hint) ∧
  match answer with
  | .deterministic => Rereadable unicode query
  | .provider (.error _) => ∀ word ∈ requestWords unicode query, Transliterable unicode word
  | .provider (.ok intent) => (∀ word ∈ intentWords unicode intent.terms, Transliterable unicode word) ∧
    if foreignFilter intent then ∀ word ∈ requestWords unicode query, Transliterable unicode word
    else intentWords unicode intent.terms = [] → Rereadable unicode query

def Legible {S : Type} (service : Service) (s : VoiceSession S) (event : Event S) : Prop :=
  match s.stage,event with
  | .querying turn,.parsed answer _ => Readable service.unicode turn.transcript answer
  | _,_ => True

-- The search reads every text that it is asked for.
def readable {S : Type} (service : Service) (s : VoiceSession S) (event : Event S) : Bool :=
  match s.stage,event with
  | .querying turn,.parsed answer classified => (interpretation service answer classified turn.input).isSome
  | _,_ => true

structure Protocol {S : Type} (codec : Codec) (s : VoiceSession S) : Prop where
  spoken : ∃ rest, frames s.log ++ rest ∈ language.matches'
  complete : s.stage.ended = true → frames s.log ∈ language.matches'
  terminal : s.stage.ended = true → (frames s.log).getLast?.any Frame.terminal = true ∨ Disconnected s.log
  silent : ∀ before event after, s.log = before ++ .sent event :: after → event.frame.terminal = true → after = []
  audio : ∀ before audio after, s.log = before ++ .pushed audio :: after →
    .ready ∈ frames before ∧ Uncommitted codec before
  finishes : finishes s.log ≤ 1
  submissions : submissions s.log ≤ 1
  announced : ∀ command, .submitted command ∈ s.log → Announced codec s.log

section steps
variable {S : Type} {service : Service} {s s' : VoiceSession S} {event : Event S} {phase : Phase} {stage : Stage}
variable {effects : List (Effect S)} {code : VoiceStreamErrorCode} {message : String} {details : Json}

-- A step that follows the automaton and does not panic.
def Continues (codec : Codec) (s s' : VoiceSession S) : Prop :=
  (∃ effects, s'.log = s.log ++ effects ∧ Runs (Says codec) s.stage.phase effects s'.stage.phase) ∧ s'.stage ≠ .panicked

theorem goto_continues (path : Runs (Says service.codec) s.stage.phase effects stage.phase) (calm : stage ≠ .panicked) :
    Continues service.codec s (s.goto effects stage) := ⟨⟨effects,rfl,path⟩,calm⟩

theorem refuse_continues (path : Runs (Says service.codec) s.stage.phase effects phase) (leaves : phase.exits = true) :
    Continues service.codec s (s.refuse effects code message details) :=
  goto_continues (path.snoc (.exit leaves rfl)) nofun

-- An exit that has nothing else to do.
theorem leave_continues (leaves : s.stage.phase.exits = true) :
    Continues service.codec s (s.refuse [] code message details) := refuse_continues .nil leaves

theorem answer_continues {frame : VoiceStreamServerEvent S} (answers : s.stage.phase.results = true)
    (is : frame.frame = .result ∨ frame.frame = .deviceResult) : Continues service.codec s (s.answer frame) :=
  goto_continues (.single (.result answers is)) nofun

theorem failure_continues {error : StreamOperationError} (leaves : s.stage.phase.exits = true) :
    Continues service.codec s (s.speechFailure error) := by
  cases error with
  | provider | timeout => exact leave_continues leaves

theorem transcripts_steps {updates : List TranscriptUpdate}
    (steps : ∀ event : VoiceStreamServerEvent S, event.frame = .transcript → Says service.codec phase (.sent event) phase) :
    Runs (Says service.codec) phase (s.transcripts updates) phase := by
  unfold VoiceSession.transcripts
  induction updates with
  | nil => exact .nil
  | cons update rest ih => exact .cons (steps _ rfl) ih

theorem start_continues {principal : Option DeviceControlPrincipal} {message : Option Message}
    (stands : s.stage = .starting principal) : Continues service.codec s (start service s principal message) := by
  have fresh : s.stage.phase = .fresh := by rw [stands]; rfl
  have refused : Runs (Says (S:=S) service.codec) s.stage.phase [.received message] .refused := by
    rw [fresh]
    exact .single .misstart
  unfold start
  split
  · rename_i text
    split
    · exact refuse_continues refused rfl
    · rename_i parsed read
      have surface := (parse_announces read).1
      have path : Runs (Says (S:=S) service.codec) s.stage.phase [.received (some (.text text))]
          (.opened (Opening.of parsed principal).start.announced) := by
        rw [fresh]
        unfold parseStreamStart at read
        cases json : service.codec.start text with
        | error error =>
          rw [json] at read
          cases read
        | ok dto =>
          have heard := Says.start (S:=S) json
          rw [surface] at heard
          exact .single heard
      refine goto_continues ?_ ?_
      · split
        · exact path
        · exact path
      · split
        · nofun
        · nofun
  · exact refuse_continues refused rfl

theorem admit_continues {opening : Opening} {active : Option ActiveDevice} (stands : s.stage = .admitting opening) :
    Continues service.codec s (admitOpening s opening active) := by
  unfold admitOpening
  split
  · exact leave_continues (by rw [stands]; rfl)
  · refine goto_continues ?_ nofun
    rw [stands]
    exact .nil

theorem open_continues {opening : Opening} {outcome : Except StreamOperationError Unit}
    (stands : s.stage = .opening opening) : Continues service.codec s (openStream s opening outcome) := by
  have leaves : s.stage.phase.exits = true := by rw [stands]; rfl
  unfold openStream
  split
  · refine goto_continues (.single ?_) nofun
    rw [stands]
    exact .ready rfl
  · exact leave_continues leaves
  · exact leave_continues leaves

theorem turn_continues {loop : StreamLoop} {elapsed : Nat} (stands : s.stage = .looping loop) :
    Continues service.codec s (turn s loop elapsed) := by
  unfold turn
  split
  · refine goto_continues ?_ nofun
    rw [stands]
    exact .nil
  · exact leave_continues (by rw [stands]; rfl)

theorem receive_continues {loop : StreamLoop} {message : Option Message} (stands : s.stage = .receiving loop) :
    Continues service.codec s (receive service s loop message) := by
  have live : s.stage.phase = .live loop.start.announced := by rw [stands]; rfl
  have heard (whole : ∀ read, message = some read → read.breaks = false) (other : ∀ text, message ≠ some (.text text)) :
      Runs (Says (S:=S) service.codec) s.stage.phase [.received message] (.live loop.start.announced) := by
    rw [live]
    exact .single (.heard whole fun text same => absurd same (other text))
  have closed {read : Message} (breaks : read.breaks = true) :
      Runs (Says (S:=S) service.codec) s.stage.phase [.received (some read)] .closed := by
    rw [live]
    exact .single (.disconnected breaks)
  unfold receive
  dsimp only
  split
  · exact refuse_continues (heard nofun nofun) rfl
  · have binary := heard (by rintro _ ⟨⟩; rfl) nofun
    split
    · exact refuse_continues binary rfl
    · split
      · exact refuse_continues binary rfl
      · exact goto_continues (binary.snoc .pushed) nofun
  · rename_i text
    split
    · rename_i cancels
      have cancelled : Runs (Says (S:=S) service.codec) s.stage.phase [.received (some (.text text))] .cancelled := by
        rw [live]
        exact .single (.cancel cancels)
      exact refuse_continues cancelled rfl
    · rename_i keeps
      split
      · rename_i commits
        refine goto_continues ?_ nofun
        rw [live]
        exact (Runs.single (.commit commits)).snoc .finish
      · rename_i waits
        have misspoken : Runs (Says (S:=S) service.codec) s.stage.phase [.received (some (.text text))]
            (.live loop.start.announced) := by
          rw [live]
          refine .single (.heard (by rintro _ ⟨⟩; rfl) ?_)
          rintro _ ⟨⟩
          exact ⟨eq_false_of_ne_true waits,eq_false_of_ne_true keeps⟩
        exact refuse_continues misspoken rfl
  · exact goto_continues (closed rfl) nofun
  · exact goto_continues (closed rfl) nofun
  · exact goto_continues ((heard (by rintro _ ⟨⟩; rfl) nofun).snoc .ponged) nofun
  · exact goto_continues (heard (by rintro _ ⟨⟩; rfl) nofun) nofun

theorem push_continues {loop : StreamLoop} {outcome : Except StreamOperationError (List TranscriptUpdate)}
    (stands : s.stage = .pushing loop) : Continues service.codec s (push s loop outcome) := by
  have live : s.stage.phase = .live loop.start.announced := by rw [stands]; rfl
  unfold push
  split
  · refine goto_continues ?_ nofun
    rw [live]
    exact transcripts_steps fun _ is => .transcript is
  · exact failure_continues (by rw [live]; rfl)

theorem finish_continues {loop : StreamLoop} {outcome : Except StreamOperationError (List TranscriptUpdate)}
    (stands : s.stage = .finishing loop) : Continues service.codec s (finish s loop outcome) := by
  have finishing : s.stage.phase = .finishing loop.start.announced := by rw [stands]; rfl
  unfold finish
  split
  · exact failure_continues (by rw [finishing]; rfl)
  · rename_i updates
    have path : Runs (Says service.codec) s.stage.phase (s.transcripts updates) (.finishing loop.start.announced) := by
      rw [finishing]
      exact transcripts_steps fun _ is => .lateTranscript is
    split
    · exact refuse_continues path rfl
    · refine goto_continues ?_ ?_
      · split
        · rename_i principal found
          have announced : loop.start.announced = true :=
            decide_eq_true (loop.announced (Option.isSome_iff_exists.mpr ⟨principal,found⟩))
          rw [announced] at path
          exact path
        · exact path
      · split
        · nofun
        · nofun

theorem interpret_continues {turn : DeviceTurn} {command : Option VoiceCommand} (stands : s.stage = .interpreting turn) :
    Continues service.codec s (interpret s turn command) := by
  have finishing : s.stage.phase = .finishing true := by rw [stands]; rfl
  have leaves : s.stage.phase.exits = true := by rw [finishing]; rfl
  have stay {stage : Stage} (same : stage.phase = .finishing true) (calm : stage ≠ .panicked) :
      Continues service.codec s (s.goto [] stage) := by
    refine goto_continues ?_ calm
    rw [finishing,same]
    exact .nil
  unfold interpret
  split
  · exact leave_continues leaves
  · split
    · exact stay rfl nofun
    · split
      · exact stay (congrArg Phase.finishing (decide_eq_true turn.announced)) nofun
      · split
        · exact leave_continues leaves
        · exact stay rfl nofun

theorem favour_continues {turn : DeviceTurn} {store : Bool} {snapshot : Option DeviceStateSnapshot}
    (stands : s.stage = .favouring turn) : Continues service.codec s (favour s turn store snapshot) := by
  have leaves : s.stage.phase.exits = true := by rw [stands]; rfl
  unfold favour
  split
  · split
    · exact leave_continues leaves
    · refine goto_continues ?_ nofun
      rw [stands]
      exact .nil
  · exact leave_continues leaves

theorem look_continues {turn : DeviceTurn} {stationId : String} {outcome : Except PersonalDataError SyncOutcome}
    (stands : s.stage = .looking turn stationId) : Continues service.codec s (look s turn stationId outcome) := by
  unfold look
  split
  · exact leave_continues (by rw [stands]; rfl)
  · split
    · exact answer_continues (by rw [stands]; rfl) (.inr rfl)
    · refine goto_continues ?_ nofun
      rw [stands]
      exact .nil

theorem add_continues {turn : DeviceTurn} {stationId : String} {outcome : Except PersonalDataError SyncOutcome}
    (stands : s.stage = .adding turn stationId) : Continues service.codec s (add s stationId outcome) := by
  have leaves : s.stage.phase.exits = true := by rw [stands]; rfl
  unfold add
  split
  · split
    · exact answer_continues (by rw [stands]; rfl) (.inr rfl)
    · exact leave_continues leaves
  · exact leave_continues leaves
  · exact leave_continues leaves

theorem plan_continues {turn : DeviceTurn} {command : VoiceCommand} {intent : UserIntent} {active : Option ActiveDevice}
    {snapshot : Option DeviceStateSnapshot} {commandId : CommandId} {receivedAt : Timestamp}
    (stands : s.stage = .planning turn command intent) :
    Continues service.codec s (plan service s turn command intent active snapshot commandId receivedAt) := by
  have leaves : s.stage.phase.exits = true := by rw [stands]; rfl
  unfold plan
  split
  · exact leave_continues leaves
  · split
    · split
      · refine goto_continues (.single ?_) nofun
        rw [stands]
        exact .submit
      · exact leave_continues leaves
    · exact leave_continues leaves
    · exact leave_continues leaves
    · exact leave_continues leaves

theorem submit_continues {turn : DeviceTurn} {intent : Intent} {store : Bool} {outcome : Except ErrorCode Unit}
    (stands : s.stage = .submitting turn intent) : Continues service.codec s (submit s turn intent store outcome) := by
  have leaves : s.stage.phase.exits = true := by rw [stands]; rfl
  unfold submit
  split
  · exact leave_continues leaves
  · split
    · refine goto_continues ?_ nofun
      rw [stands]
      exact .nil
    · exact leave_continues leaves

theorem poll_continues {turn : DeviceTurn} {intent : Intent} {outcome : Option (Option CommandResult)}
    (stands : s.stage = .polling turn intent) : Continues service.codec s (poll s turn intent outcome) := by
  unfold poll
  split
  · exact answer_continues (by rw [stands]; rfl) (.inr rfl)
  · refine goto_continues ?_ nofun
    rw [stands]
    exact .nil
  · exact leave_continues (by rw [stands]; rfl)

theorem search_continues {turn : SearchTurn} {query : SearchQuery} {constraints : Search.SearchConstraints}
    {stations : Option (List S)} (stands : s.stage = .searching turn query constraints) :
    Continues service.codec s (search s turn query stations) := by
  have leaves : s.stage.phase.exits = true := by rw [stands]; rfl
  unfold search
  split
  · split
    · exact leave_continues leaves
    · exact leave_continues leaves
  · split
    · exact leave_continues leaves
    · exact answer_continues (by rw [stands]; rfl) (.inl rfl)

-- The one step that may leave the automaton's good phases.
def Crashes (service : Service) (s s' : VoiceSession S) (event : Event S) : Prop :=
  ∃ turn, s.stage = .querying turn ∧ s' = s.goto [.panicked] .panicked ∧ readable service s event = false

theorem query_course {turn : SearchTurn} {answer : ParserAnswer} {classified : Option String}
    (stands : s.stage = .querying turn) :
    (Continues service.codec s (query service s turn answer classified) ∧ readable service s (.parsed answer classified) = true) ∨
      Crashes service s (query service s turn answer classified) (.parsed answer classified) := by
  unfold query
  split
  · rename_i unread
    refine .inr ⟨turn,stands,rfl,?_⟩
    simp only [readable,stands,unread,Option.isSome_none]
  · rename_i found
    refine .inl ⟨goto_continues ?_ nofun,?_⟩
    · rw [stands]
      exact .nil
    · simp only [readable,stands,found,Option.isSome_some]

-- What any step can do.
theorem step_course (taken : Executes (execute service) s event s') :
    (Continues service.codec s s' ∧ readable service s event = true) ∨ Crashes service s s' event := by
  have calm (other : ∀ turn, s.stage ≠ .querying turn) (continued : Continues service.codec s s') :
      (Continues service.codec s s' ∧ readable service s event = true) ∨ Crashes service s s' event := by
    refine .inl ⟨continued,?_⟩
    unfold readable
    split
    · rename_i stands
      exact absurd stands (other _)
    · rfl
  unfold Executes execute at taken
  split at taken
  all_goals first
    | cases taken
      done
    | cases Option.some.inj taken
  case h_16 stands => exact query_course stands
  case h_17 stands =>
    refine .inl ⟨leave_continues (by rw [stands]; rfl),?_⟩
    simp only [readable,stands]
  all_goals
    rename_i stands
    refine calm (by rw [stands]; nofun) ?_
  case h_1 => exact start_continues stands
  case h_2 => exact admit_continues stands
  case h_3 => exact open_continues stands
  case h_4 => exact turn_continues stands
  case h_5 => exact receive_continues stands
  case h_6 => exact push_continues stands
  case h_7 => exact finish_continues stands
  case h_8 => exact interpret_continues stands
  case h_9 => exact favour_continues stands
  case h_10 => exact look_continues stands
  case h_11 => exact add_continues stands
  case h_12 => exact plan_continues stands
  case h_13 => exact submit_continues stands
  case h_14 => exact poll_continues stands
  case h_15 => exact leave_continues (by rw [stands]; rfl)
  case h_18 => exact search_continues stands
  case h_19 => exact leave_continues (by rw [stands]; rfl)

end steps
section conversation
variable {S : Type} {service : Service} {s s' : VoiceSession S} {event : Event S} {events : List (Event S)}

theorem interpretation_isSome {service : Service} {answer : ParserAnswer} {classified : Option String}
    {input : Search.QueryParserInput} : (interpretation service answer classified input).isSome = true ↔
      Readable service.unicode input.query answer := by
  have hinted (parsed : Option Search.QueryIntent) :
      (parsed.bind fun intent => SearchQuery.fromIntent service.unicode input.query input.locale
        {intent with language := intent.language.or classified}).isSome = true ↔
      (∀ hint, hintText service.unicode input.query = some hint → Transliterable service.unicode hint) ∧ parsed.isSome = true := by
    rw [← Search.stationNameHintQueries_isSome]
    cases parsed <;> simp [SearchQuery.fromIntent]
  unfold interpretation
  unfold Readable
  rw [← Option.bind_assoc,hinted]
  refine and_congr_right fun _ => ?_
  cases answer with
  | deterministic =>
    dsimp only
    cases read : (Search.deterministicIntent service.unicode input.query input.locale).bind (Search.validateIntent service.unicode) with
    | none =>
      rw [← @Search.reread_isSome service.unicode input.query input.locale,read]
      simp
    | some validated =>
      have reread : Rereadable service.unicode input.query := by
        rw [← @Search.reread_isSome service.unicode input.query input.locale,read]
        rfl
      rw [Option.bind_some,iff_true_right reread]
      cases validated with
      | ok found => exact Search.completed_isSome.mpr fun _ => reread
      | error error => exact Search.completed_deterministic.mpr reread.1
  | provider outcome =>
    cases outcome with
    | error error =>
      rw [Option.bind_some]
      exact Search.completed_deterministic
    | ok intent =>
      dsimp only
      cases read : Search.validateIntent service.unicode intent with
      | none =>
        have unread : ¬ ∀ word ∈ intentWords service.unicode intent.terms, Transliterable service.unicode word := by
          rw [← Search.validateIntent_isSome,read]
          exact Bool.false_ne_true
        simp [unread]
      | some validated =>
        have words : ∀ word ∈ intentWords service.unicode intent.terms, Transliterable service.unicode word := by
          rw [← Search.validateIntent_isSome,read]
          rfl
        rw [Option.bind_some,and_iff_right words]
        rcases Search.validateIntent_cases read with ⟨foreign,error,rfl⟩ | ⟨own,found,rfl,expanded⟩
        · rw [if_pos foreign]
          exact Search.completed_deterministic
        · rw [own,Option.bind_some,Search.completed_isSome,Search.expand_empty expanded]
          rfl

theorem readable_iff : readable service s event = true ↔ Legible service s event := by
  unfold readable Legible
  split
  · exact interpretation_isSome
  · exact iff_of_true rfl trivial

-- Where the automaton stands after what the session has done.
def Follows (codec : Codec) (s : VoiceSession S) : Prop := Runs (Says codec) .fresh s.log s.stage.phase

theorem connected_follows {requestId : String} {principal : Option DeviceControlPrincipal} :
    Follows service.codec (connected (S:=S) requestId principal) := .nil

theorem crash_follows (follows : Follows service.codec s) (crash : Crashes service s s' event) :
    Follows service.codec s' ∧ s'.stage = .panicked := by
  obtain ⟨turn,stands,rfl,_⟩ := crash
  refine ⟨Runs.snoc follows ?_,rfl⟩
  rw [stands]
  exact .crash

theorem continue_follows (follows : Follows service.codec s) (continued : Continues service.codec s s') :
    Follows service.codec s' := by
  obtain ⟨⟨effects,grown,path⟩,_⟩ := continued
  unfold Follows
  rw [grown]
  exact Runs.append follows path

-- After a panic the client waits for a frame that nobody sends.
theorem panic_breaks (follows : Follows service.codec s) (panicked : s.stage = .panicked) : ¬ Protocol service.codec s := by
  intro protocol
  unfold Follows at follows
  rw [panicked] at follows
  obtain ⟨n,said⟩ := run_speaks follows
  rcases protocol.terminal (by rw [panicked]; rfl) with answered | gone
  · rw [said] at answered
    cases n with
    | zero => cases answered
    | succ n =>
      rw [List.replicate_succ',← List.cons_append,List.getLast?_concat] at answered
      cases answered
  · exact run_connected follows rfl gone

theorem sent_terminal {codec : Codec} {phase phase' : Phase} {sent : VoiceStreamServerEvent S}
    (taken : Says codec phase (.sent sent) phase') (terminal : sent.frame.terminal = true) : phase' = .answered := by
  cases taken with
  | exit | result => rfl
  | ready is | transcript is | lateTranscript is =>
    rw [is] at terminal
    cases terminal

theorem calm_protocol (follows : Follows service.codec s) (calm : s.stage ≠ .panicked) : Protocol service.codec s := by
  have said := run_speaks follows
  have calls := run_calls follows
  have most : s.stage.phase.finishes ≤ 1 ∧ s.stage.phase.submissions ≤ 1 := by
    cases s.stage <;> exact ⟨Nat.le_of_ble_eq_true rfl,Nat.le_of_ble_eq_true rfl⟩
  have ends (ended : s.stage.ended = true) : s.stage = .answered ∨ s.stage = .closed := by
    cases stage : s.stage with
    | answered => exact .inl rfl
    | closed => exact .inr rfl
    | panicked => exact absurd stage calm
    | _ =>
      rw [stage] at ended
      cases ended
  constructor
  case spoken => exact speaks_language said
  case complete =>
    intro ended
    rcases ends ended with stage | stage
    · rw [stage] at said
      exact (answered_language said).1
    · rw [stage] at said
      obtain ⟨n,said⟩ := said
      rw [said]
      exact talking_language
  case terminal =>
    intro ended
    rcases ends ended with stage | stage
    · rw [stage] at said
      exact .inl (answered_language said).2
    · unfold Follows at follows
      rw [stage] at follows
      exact .inr (run_closed follows)
  case silent =>
    intro before sent after whole terminal
    unfold Follows at follows
    rw [whole] at follows
    obtain ⟨_,_,later⟩ := follows.split
    obtain ⟨_,taken,rest⟩ := later.first
    rw [sent_terminal taken terminal] at rest
    exact answered_last rest
  case audio =>
    intro before audio after whole
    unfold Follows at follows
    rw [whole] at follows
    obtain ⟨phase,earlier,later⟩ := follows.split
    obtain ⟨_,taken,_⟩ := later.first
    cases taken
    obtain ⟨n,said⟩ := run_speaks earlier
    rw [said]
    exact ⟨List.mem_cons_self,run_uncommitted earlier rfl⟩
  case finishes => exact calls.1.trans most.1
  case submissions => exact calls.2.trans most.2
  case announced =>
    intro command submitted
    obtain ⟨before,after,whole⟩ := List.append_of_mem submitted
    unfold Follows at follows
    rw [whole] at follows ⊢
    obtain ⟨phase,earlier,later⟩ := follows.split
    obtain ⟨_,taken,_⟩ := later.first
    cases taken
    exact (run_announced earlier rfl).append

end conversation

def startText : String := "\x7b\"type\":\"start\",\"sample_rate_hz\":16000\x7d"
def commitText : String := "\x7b\"type\":\"commit\"\x7d"
def cancelText : String := "\x7b\"type\":\"cancel\"\x7d"

-- A client of three texts.
def threeTexts : Codec where
  start text := if text = startText then .ok ⟨none,16000,none,none,none,[]⟩ else .error "missing field"
  isCommit text := text = commitText
  isCancel text := text = cancelText
  apart text dto read := by
    split at read
    · rename_i same
      rw [same]
      decide
    · cases read

def accentedService : Service := ⟨threeTexts,Search.Letters.accented,fun _ => "",30000⟩

-- An anonymous client says one word and is shown two stations.
def askJazz : List (Event Uuid) :=
  [.received (some (.text startText)),.recognizer (.ok ()),.elapsed 0,.received (some (.binary [1,0,254,255])),
    .speech (.ok [⟨"ja",false⟩]),.elapsed 1,.received (some (.text commitText)),.speech (.ok [⟨"jazz",true⟩]),
    .parsed (.provider (.ok ⟨.play,["jazz"],["jazz"],none,none,1,"jazz"⟩)) none,.searched (some [7,8])]

-- An anonymous client asks for a café and commits.
def askCafe : List (Event Uuid) :=
  [.received (some (.text startText)),.recognizer (.ok ()),.elapsed 0,.received (some (.text commitText)),
    .speech (.ok [⟨"café",true⟩]),.parsed .deterministic none]

def Effect.breaks {S : Type} : Effect S → Bool
  | .received (some message) => message.breaks
  | _ => false

end Voice
