import RockServer.VoiceSession

-- What a session has counted and kept of its audio, and the steps that change it.
namespace Voice
open DeviceControl (Uuid Json CommandId Timestamp ActiveDevice ErrorCode CommandResult UserIntent DeviceStateSnapshot)
open PersonalData (PersonalDataError SyncOutcome)
open Search (SearchQuery SearchConstraints)
open Transition (Executes)

variable {S : Type}

-- The bytes counted and the transcript kept, until the client's commit is answered.
def Stage.tally : Stage → Option (Nat × Option String)
  | .starting _ | .admitting _ | .opening _ => some (0,none)
  | .looping loop | .receiving loop | .pushing loop | .finishing loop => some (loop.audioBytes,loop.lastFinalTranscript)
  | _ => none

-- The transcript that a search or an interpretation works with.
def Stage.transcript : Stage → Option String
  | .interpreting turn | .favouring turn | .looking turn _ | .adding turn _ | .planning turn _ _ | .submitting turn _ |
    .polling turn _ => some turn.transcript
  | .querying turn | .searching turn _ _ => some turn.transcript
  | _ => none

-- A frame of audio that reaches the loop.
def offered (s : VoiceSession S) (event : Event S) : Option (List UInt8) := match s.stage,event with
  | .receiving _,.received (some (.binary audio)) => some audio
  | _,_ => none

-- The updates that the recogniser answers with.
def Event.batch : Event S → Option (List TranscriptUpdate)
  | .speech (.ok updates) => some updates
  | _ => none

def Effect.reports (effect : Effect S) (code : VoiceStreamErrorCode) : Bool := match effect with
  | .sent (.error reported _ _ _) => reported = code
  | _ => false

-- Neither a push nor one of the two errors that the audio itself leads to.
def Effect.calm : Effect S → Bool
  | .pushed _ => false
  | .sent (.error code _ _ _) => code ≠ .audioTooLarge && code ≠ .speechNotRecognized
  | _ => true

structure Calm (s s' : VoiceSession S) : Prop where
  log : ∃ effects, s'.log = s.log ++ effects ∧ ∀ effect ∈ effects, effect.calm = true
  tally : s'.stage.tally = s.stage.tally ∨ s'.stage.tally = none
  transcript : s'.stage.transcript = s.stage.transcript ∨ s'.stage.transcript = none

variable {service : Service} {s s' : VoiceSession S} {event : Event S} {effects : List (Effect S)} {stage : Stage}
variable {code : VoiceStreamErrorCode} {message : String} {details : Json}

theorem calm_reports {effect : Effect S} (calm : effect.calm = true) :
    effect.reports .audioTooLarge = false ∧ effect.reports .speechNotRecognized = false := by
  cases effect with
  | sent sent =>
    cases sent with
    | error code => simpa [Effect.calm,Effect.reports] using calm
    | _ => exact ⟨rfl,rfl⟩
  | _ => exact ⟨rfl,rfl⟩

theorem goto_calm (calm : ∀ effect ∈ effects, effect.calm = true) (tally : stage.tally = s.stage.tally ∨ stage.tally = none)
    (transcript : stage.transcript = s.stage.transcript ∨ stage.transcript = none) : Calm s (s.goto effects stage) :=
  ⟨⟨effects,rfl,calm⟩,tally,transcript⟩

theorem stay_calm (tally : stage.tally = s.stage.tally ∨ stage.tally = none)
    (transcript : stage.transcript = s.stage.transcript ∨ stage.transcript = none) : Calm s (s.goto [] stage) :=
  goto_calm (by simp) tally transcript

theorem refuse_calm (calm : ∀ effect ∈ effects, effect.calm = true) (fits : code ≠ .audioTooLarge ∧ code ≠ .speechNotRecognized) :
    Calm s (s.refuse effects code message details) := by
  refine goto_calm (fun effect member => ?_) (.inr rfl) (.inr rfl)
  rcases List.mem_append.mp member with member | member
  · exact calm effect member
  · rw [List.mem_singleton.mp member]
    simp [VoiceSession.errorEvent,Effect.calm,fits]

theorem leave_calm (fits : code ≠ .audioTooLarge ∧ code ≠ .speechNotRecognized) : Calm s (s.refuse [] code message details) :=
  refuse_calm (by simp) fits

theorem failure_calm {error : StreamOperationError} : Calm s (s.speechFailure error) := by
  cases error with
  | provider | timeout => exact leave_calm (by decide)

theorem answer_calm {frame : VoiceStreamServerEvent S} (calm : (Effect.sent frame).calm = true) : Calm s (s.answer frame) :=
  goto_calm (by simpa using calm) (.inr rfl) (.inr rfl)

theorem transcripts_calm (updates : List TranscriptUpdate) : ∀ effect ∈ s.transcripts updates, effect.calm = true := by
  intro effect member
  obtain ⟨update,_,rfl⟩ := List.mem_map.mp member
  rfl

theorem start_calm {principal : Option DeviceControlPrincipal} {message : Option Message} (stands : s.stage = .starting principal) :
    Calm s (start service s principal message) := by
  unfold start
  split
  · split
    · exact refuse_calm (by simp [Effect.calm]) (by decide)
    · refine goto_calm (by simp [Effect.calm]) (.inl ?_) (.inl ?_)
      · rw [stands]
        split <;> rfl
      · rw [stands]
        split <;> rfl
  · exact refuse_calm (by simp [Effect.calm]) (by decide)

theorem admit_calm {opening : Opening} {active : Option ActiveDevice} (stands : s.stage = .admitting opening) :
    Calm s (admitOpening s opening active) := by
  unfold admitOpening
  split
  · rename_i code message refused
    refine leave_calm ?_
    unfold validateDeviceVoiceStart at refused
    split at refused
    · cases refused
      decide
    · split at refused
      · cases refused
        decide
      · dsimp only at refused
        split at refused
        · cases refused
          decide
        · cases refused
  · exact stay_calm (.inl (by rw [stands]; rfl)) (.inr rfl)

theorem open_calm {opening : Opening} {outcome : Except StreamOperationError Unit} (stands : s.stage = .opening opening) :
    Calm s (openStream s opening outcome) := by
  unfold openStream
  split
  · exact goto_calm (by simp [Effect.calm]) (.inl (by rw [stands]; rfl)) (.inr rfl)
  · exact leave_calm (by decide)
  · exact leave_calm (by decide)

theorem turn_calm {loop : StreamLoop} {elapsed : Nat} (stands : s.stage = .looping loop) : Calm s (turn s loop elapsed) := by
  unfold turn
  split
  · exact stay_calm (.inl (by rw [stands]; rfl)) (.inr rfl)
  · exact leave_calm (by decide)

-- What is received changes the tally where it is audio.
theorem receive_calm {loop : StreamLoop} {message : Option Message} (stands : s.stage = .receiving loop)
    (other : ∀ audio, message ≠ some (.binary audio)) : Calm s (receive service s loop message) := by
  have kept : ∀ {effects : List (Effect S)}, (∀ effect ∈ effects, effect.calm = true) → Calm s (s.goto effects (.looping loop)) :=
    fun calm => goto_calm calm (.inl (by rw [stands]; rfl)) (.inr rfl)
  unfold receive
  dsimp only
  split
  · exact refuse_calm (by simp [Effect.calm]) (by decide)
  · rename_i audio
    exact absurd rfl (other audio)
  · split
    · exact refuse_calm (by simp [Effect.calm]) (by decide)
    · split
      · exact goto_calm (by simp [Effect.calm]) (.inl (by rw [stands]; rfl)) (.inr rfl)
      · exact refuse_calm (by simp [Effect.calm]) (by decide)
  · exact goto_calm (by simp [Effect.calm]) (.inr rfl) (.inr rfl)
  · exact goto_calm (by simp [Effect.calm]) (.inr rfl) (.inr rfl)
  · exact kept (by simp [Effect.calm])
  · exact kept (by simp [Effect.calm])

theorem interpret_calm {turn : DeviceTurn} {command : Option VoiceCommand} (stands : s.stage = .interpreting turn) :
    Calm s (interpret s turn command) := by
  have onward : ∀ {stage : Stage}, stage.tally = none → stage.transcript = some turn.transcript → Calm s (s.goto [] stage) :=
    fun tally same => stay_calm (.inr tally) (.inl (by rw [stands]; exact same))
  unfold interpret
  split
  · exact leave_calm (by decide)
  · rename_i command
    split
    · exact onward rfl rfl
    · split
      · exact onward rfl rfl
      · split
        · rename_i code message refused
          refine leave_calm ?_
          unfold deviceUserIntent at refused
          dsimp only at refused
          split at refused
          all_goals first
            | cases refused
              done
            | split at refused
              · cases refused
              · cases refused
                decide
            | cases refused
              decide
        · exact onward rfl rfl

theorem favour_calm {turn : DeviceTurn} {store : Bool} {snapshot : Option DeviceStateSnapshot} (stands : s.stage = .favouring turn) :
    Calm s (favour s turn store snapshot) := by
  unfold favour
  split
  · split
    · exact leave_calm (by decide)
    · exact stay_calm (.inr rfl) (.inl (by rw [stands]; rfl))
  · exact leave_calm (by decide)

theorem look_calm {turn : DeviceTurn} {stationId : String} {outcome : Except PersonalDataError SyncOutcome}
    (stands : s.stage = .looking turn stationId) : Calm s (look s turn stationId outcome) := by
  unfold look
  split
  · exact leave_calm (by decide)
  · split
    · exact answer_calm rfl
    · exact stay_calm (.inr rfl) (.inl (by rw [stands]; rfl))

theorem add_calm {stationId : String} {outcome : Except PersonalDataError SyncOutcome} : Calm s (add s stationId outcome) := by
  unfold add
  split
  · split
    · exact answer_calm rfl
    · exact leave_calm (by decide)
  · exact leave_calm (by decide)
  · exact leave_calm (by decide)

theorem plan_calm {turn : DeviceTurn} {command : VoiceCommand} {intent : UserIntent} {active : Option ActiveDevice}
    {snapshot : Option DeviceStateSnapshot} {commandId : CommandId} {receivedAt : Timestamp}
    (stands : s.stage = .planning turn command intent) :
    Calm s (plan service s turn command intent active snapshot commandId receivedAt) := by
  unfold plan
  split
  · exact leave_calm (by decide)
  · split
    · split
      · exact goto_calm (by simp [Effect.calm]) (.inr rfl) (.inl (by rw [stands]; rfl))
      · exact leave_calm (by decide)
    · exact leave_calm (by decide)
    · exact leave_calm (by decide)
    · rename_i error _
      refine leave_calm ?_
      cases error.code <;> decide

theorem submit_calm {turn : DeviceTurn} {intent : Intent} {store : Bool} {outcome : Except ErrorCode Unit}
    (stands : s.stage = .submitting turn intent) : Calm s (submit s turn intent store outcome) := by
  unfold submit
  split
  · rename_i code
    refine leave_calm ?_
    cases code <;> decide
  · split
    · exact stay_calm (.inr rfl) (.inl (by rw [stands]; rfl))
    · exact leave_calm (by decide)

theorem poll_calm {turn : DeviceTurn} {intent : Intent} {outcome : Option (Option CommandResult)}
    (stands : s.stage = .polling turn intent) : Calm s (poll s turn intent outcome) := by
  unfold poll
  split
  · exact answer_calm rfl
  · exact stay_calm (.inr rfl) (.inl (by rw [stands]))
  · exact leave_calm (by decide)

theorem query_calm {turn : SearchTurn} {answer : ParserAnswer} {classified : Option String} (stands : s.stage = .querying turn) :
    Calm s (query service s turn answer classified) := by
  unfold query
  split
  · exact goto_calm (by simp [Effect.calm]) (.inr rfl) (.inr rfl)
  · exact stay_calm (.inr rfl) (.inl (by rw [stands]; rfl))

theorem search_calm {turn : SearchTurn} {query : SearchQuery} {found : Option (List S)} : Calm s (search s turn query found) := by
  unfold search
  split
  · split
    · exact leave_calm (by decide)
    · exact leave_calm (by decide)
  · split
    · exact leave_calm (by decide)
    · exact answer_calm rfl

-- What any step can do to the tally.
inductive Course (service : Service) (s : VoiceSession S) : Event S → VoiceSession S → Prop where
  | frame {loop : StreamLoop} {audio : List UInt8} : s.stage = .receiving loop →
      Course service s (.received (some (.binary audio))) (receive service s loop (some (.binary audio)))
  | heard {loop : StreamLoop} {updates : List TranscriptUpdate} : s.stage = .pushing loop →
      Course service s (.speech (.ok updates)) (push s loop (.ok updates))
  | done {loop : StreamLoop} {updates : List TranscriptUpdate} : s.stage = .finishing loop →
      Course service s (.speech (.ok updates)) (finish s loop (.ok updates))
  | calm {event : Event S} {s' : VoiceSession S} : Calm s s' → offered s event = none → event.batch = none → Course service s event s'

theorem step_tally (taken : Executes (execute service) s event s') : Course service s event s' := by
  unfold Executes execute at taken
  split at taken
  all_goals first
    | cases taken
      done
    | cases Option.some.inj taken
  case h_5 loop message stands =>
    by_cases audio : ∃ audio, message = some (.binary audio)
    · obtain ⟨audio,rfl⟩ := audio
      exact .frame stands
    · have other : ∀ audio, message ≠ some (.binary audio) := fun frame same => audio ⟨frame,same⟩
      refine .calm (receive_calm stands other) ?_ rfl
      unfold offered
      split
      · rename_i frame _ same
        cases same
        exact absurd rfl (other frame)
      · rfl
  case h_6 loop outcome stands =>
    cases outcome with
    | error error => exact .calm failure_calm (by simp [offered,stands]) rfl
    | ok updates => exact .heard stands
  case h_7 loop outcome stands =>
    cases outcome with
    | error error => exact .calm failure_calm (by simp [offered,stands]) rfl
    | ok updates => exact .done stands
  all_goals
    rename_i stands
    refine .calm ?_ (by simp [offered,stands]) rfl
  case h_1 => exact start_calm stands
  case h_2 => exact admit_calm stands
  case h_3 => exact open_calm stands
  case h_4 => exact turn_calm stands
  case h_8 => exact interpret_calm stands
  case h_9 => exact favour_calm stands
  case h_10 => exact look_calm stands
  case h_11 => exact add_calm
  case h_12 => exact plan_calm stands
  case h_13 => exact submit_calm stands
  case h_14 => exact poll_calm stands
  case h_15 => exact leave_calm (by decide)
  case h_16 => exact query_calm stands
  case h_17 => exact leave_calm (by decide)
  case h_18 => exact search_calm
  case h_19 => exact leave_calm (by decide)

end Voice
