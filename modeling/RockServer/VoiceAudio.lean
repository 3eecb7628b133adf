import RockServer.VoiceConversation
import RockServer.VoiceTally

namespace Voice
open DeviceControl (Uuid)
open Transition (Runs Executes Under)

def bytesPerSecond : Nat := 2 * 16000

def ValidFrame (audio : List UInt8) : Prop :=
  audio ≠ [] ∧ audio.length ≤ maxStreamAudioChunkBytes ∧ audio.length % 2 = 0

variable {S : Type}

def Effect.audioBytes : Effect S → Nat
  | .pushed audio => audio.length
  | _ => 0

def pushedBytes (log : List (Effect S)) : Nat := (log.map Effect.audioBytes).sum

-- More than a session may send, in bytes or in seconds of sound.
def Exceeds (bytes : Nat) : Prop := maxStreamAudioBytes < bytes ∨ maxStreamAudioSeconds * bytesPerSecond < bytes

def EndsTooLarge (s s' : VoiceSession S) : Prop :=
  s'.stage = .answered ∧ ∃ effects, s'.log = s.log ++ effects ∧ ∃ effect ∈ effects, effect.reports .audioTooLarge = true

-- What a step leaves of the bounds on the audio.
structure AudioStep (s : VoiceSession S) (event : Event S) (s' : VoiceSession S) : Prop where
  bytes : pushedBytes s'.log ≤ maxStreamAudioBytes
  seconds : pushedBytes s'.log ≤ maxStreamAudioSeconds * bytesPerSecond
  frames : ∀ audio, .pushed audio ∈ s'.log → ValidFrame audio
  refused : EndsTooLarge s s' ↔ ∃ audio, offered s event = some audio ∧ ValidFrame audio ∧ Exceeds (pushedBytes s.log + audio.length)

-- No frame brings the sound to between sixty seconds and sixty-one.
def FitsSeconds (s : VoiceSession S) (event : Event S) : Prop := ∀ audio, offered s event = some audio → ValidFrame audio →
  pushedBytes s.log + audio.length ≤ maxStreamAudioSeconds * bytesPerSecond ∨
    (maxStreamAudioSeconds + 1) * bytesPerSecond ≤ pushedBytes s.log + audio.length

structure Counted (s : VoiceSession S) : Prop where
  tally : ∀ tally, s.stage.tally = some tally → tally.1 = pushedBytes s.log
  seconds : pushedBytes s.log ≤ maxStreamAudioSeconds * bytesPerSecond
  frames : ∀ audio, .pushed audio ∈ s.log → ValidFrame audio

variable {service : Service} {s s' : VoiceSession S} {event : Event S} {events : List (Event S)} {loop : StreamLoop}
variable {audio : List UInt8} {effects : List (Effect S)}

theorem pushedBytes_append {log : List (Effect S)} : pushedBytes (log ++ effects) = pushedBytes log + pushedBytes effects := by
  rw [pushedBytes,List.map_append,List.sum_append]
  rfl

theorem silent_pushedBytes (silent : ∀ audio, .pushed audio ∉ effects) : pushedBytes effects = 0 := by
  induction effects with
  | nil => rfl
  | cons effect rest ih =>
    have none : effect.audioBytes = 0 := by
      cases effect with
      | pushed audio => exact absurd List.mem_cons_self (silent audio)
      | _ => rfl
    rw [pushedBytes,List.map_cons,List.sum_cons,none,Nat.zero_add]
    exact ih fun audio member => silent audio (List.mem_cons_of_mem _ member)

theorem calm_pushed (calm : ∀ effect ∈ effects, effect.calm = true) : .pushed audio ∉ effects := by
  intro member
  cases calm _ member

theorem seconds_bytes : maxStreamAudioSeconds * bytesPerSecond ≤ maxStreamAudioBytes := by decide

-- A step that pushes nothing leaves the bounds as they are.
theorem silent_audio (counted : Counted s) (log : s'.log = s.log ++ effects) (silent : ∀ audio, .pushed audio ∉ effects)
    (tally : ∀ tally, s'.stage.tally = some tally → tally.1 = pushedBytes s.log)
    (refused : EndsTooLarge s s' ↔
      ∃ audio, offered s event = some audio ∧ ValidFrame audio ∧ Exceeds (pushedBytes s.log + audio.length)) :
    Counted s' ∧ AudioStep s event s' := by
  have same : pushedBytes s'.log = pushedBytes s.log := by
    rw [log,pushedBytes_append,silent_pushedBytes silent,Nat.add_zero]
  have frames : ∀ audio, .pushed audio ∈ s'.log → ValidFrame audio := by
    intro audio member
    rw [log] at member
    exact counted.frames audio ((List.mem_append.mp member).resolve_right (silent audio))
  refine ⟨⟨by rwa [same],same ▸ counted.seconds,frames⟩,⟨?_,same ▸ counted.seconds,frames,refused⟩⟩
  rw [same]
  exact counted.seconds.trans seconds_bytes

theorem calm_audio (counted : Counted s) (calm : Calm s s')
    (other : ∀ audio, offered s event = some audio → ¬ ValidFrame audio) : Counted s' ∧ AudioStep s event s' := by
  obtain ⟨effects,log,quiet⟩ := calm.log
  refine silent_audio counted log (fun audio => calm_pushed quiet) (fun tally same => ?_) ?_
  · rcases calm.tally with kept | gone
    · exact counted.tally tally (kept.symm.trans same)
    · cases gone.symm.trans same
  · refine iff_of_false (fun ends => ?_) fun ⟨audio,offers,valid,_⟩ => other audio offers valid
    obtain ⟨_,appended,same,effect,member,reports⟩ := ends
    rw [log,List.append_cancel_left_eq] at same
    rw [(calm_reports (quiet effect (same ▸ member))).1] at reports
    cases reports

-- The check divides away what is left of a second.
theorem over_iff {total : Nat} : maxStreamAudioBytes < total ∨ maxStreamAudioSeconds < total / 2 / 16000 ↔
    (maxStreamAudioSeconds + 1) * bytesPerSecond ≤ total := by
  simp only [maxStreamAudioBytes,maxStreamAudioSeconds,bytesPerSecond,Nat.div_div_eq_div_mul]
  omega

theorem receive_invalid (invalid : ¬ ValidFrame audio) : receive service s loop (some (.binary audio)) =
    s.refuse [.received (some (.binary audio))] .audioChunkInvalid "Audio frames must be bounded PCM16 data."
      (.object [("max_chunk_bytes",.number (toString maxStreamAudioChunkBytes))]) := by
  have bad : (audio.isEmpty || maxStreamAudioChunkBytes < audio.length || audio.length % 2 ≠ 0) = true := by
    by_contra good
    simp only [Bool.or_eq_true,decide_eq_true_eq,List.isEmpty_iff,not_or] at good
    exact invalid ⟨good.1.1,by omega,by simpa using good.2⟩
  unfold receive
  dsimp only
  rw [if_pos bad]

theorem receive_valid (valid : ValidFrame audio) (range : loop.audioBytes + audio.length < 2 ^ 64) :
    receive service s loop (some (.binary audio)) =
      if (maxStreamAudioSeconds + 1) * bytesPerSecond ≤ loop.audioBytes + audio.length then
        s.refuse [.received (some (.binary audio))] .audioTooLarge "Streaming session audio limit was exceeded."
          (.object [("max_bytes",.number (toString maxStreamAudioBytes))])
      else s.goto [.received (some (.binary audio)),.pushed audio]
        (.pushing {loop with audioBytes := loop.audioBytes + audio.length}) := by
  obtain ⟨some_audio,short,even⟩ := valid
  have good : (audio.isEmpty || maxStreamAudioChunkBytes < audio.length || audio.length % 2 ≠ 0) = false := by
    simp [some_audio,even]
    omega
  have exact_sum : min (loop.audioBytes + audio.length) (2 ^ 64 - 1) = loop.audioBytes + audio.length := by omega
  unfold receive
  dsimp only
  rw [if_neg (by rw [good]; decide),exact_sum]
  simp only [Bool.or_eq_true,decide_eq_true_eq,over_iff]
  rfl

theorem frame_audio (counted : Counted s) (stands : s.stage = .receiving loop)
    (fits : FitsSeconds s (.received (some (.binary audio)))) : Counted (receive service s loop (some (.binary audio))) ∧
      AudioStep s (.received (some (.binary audio))) (receive service s loop (some (.binary audio))) := by
  have offers : offered s (.received (some (.binary audio))) = some audio := by simp [offered,stands]
  have total : loop.audioBytes = pushedBytes s.log := counted.tally _ (by rw [stands]; rfl)
  have seconds := counted.seconds
  by_cases valid : ValidFrame audio
  · have range : loop.audioBytes + audio.length < 2 ^ 64 := by
      have short := valid.2.1
      simp only [maxStreamAudioChunkBytes,maxStreamAudioSeconds,bytesPerSecond] at short seconds
      omega
    rw [receive_valid valid range,total]
    rcases fits audio offers valid with within | beyond
    · rw [if_neg (by rw [Nat.succ_mul]; simp only [bytesPerSecond] at within ⊢; omega)]
      have pushed : pushedBytes (s.log ++ [.received (some (.binary audio)),.pushed audio]) = pushedBytes s.log + audio.length := by
        rw [pushedBytes_append]
        simp [pushedBytes,Effect.audioBytes]
      have frames : ∀ frame, .pushed frame ∈ s.log ++ [.received (some (.binary audio)),.pushed audio] → ValidFrame frame := by
        intro frame member
        rcases List.mem_append.mp member with earlier | now
        · exact counted.frames frame earlier
        · have same : frame = audio := by simpa using now
          exact same ▸ valid
      refine ⟨⟨?_,pushed.symm ▸ within,frames⟩,⟨pushed.symm ▸ within.trans seconds_bytes,pushed.symm ▸ within,frames,?_⟩⟩
      · intro tally same
        cases same
        exact pushed.symm
      · refine iff_of_false (fun ends => by cases ends.1) ?_
        rintro ⟨frame,same,_,exceeds⟩
        cases offers.symm.trans same
        have bytes := within.trans seconds_bytes
        rcases exceeds with long | long <;> omega
    · rw [if_pos beyond]
      refine silent_audio counted rfl (by simp) (fun _ same => by cases same) (iff_of_true ?_ ⟨audio,offers,valid,.inr ?_⟩)
      · exact ⟨rfl,_,rfl,_,List.mem_append_right _ List.mem_cons_self,rfl⟩
      · refine Nat.lt_of_lt_of_le ?_ beyond
        decide
  · rw [receive_invalid valid]
    refine calm_audio counted (refuse_calm (by simp [Effect.calm]) (by decide)) fun frame same => ?_
    cases offers.symm.trans same
    exact valid

-- A frame that is pushed has been counted.
theorem frame_needed (counted : Counted s) (stands : s.stage = .receiving loop)
    (good : AudioStep s (.received (some (.binary audio))) (receive service s loop (some (.binary audio)))) :
    FitsSeconds s (.received (some (.binary audio))) := by
  intro frame offers valid
  have same : frame = audio := by simpa [offered,stands] using offers.symm
  subst same
  have total : loop.audioBytes = pushedBytes s.log := counted.tally _ (by rw [stands]; rfl)
  have seconds := counted.seconds
  have range : loop.audioBytes + frame.length < 2 ^ 64 := by
    have short := valid.2.1
    simp only [maxStreamAudioChunkBytes,maxStreamAudioSeconds,bytesPerSecond] at short seconds
    omega
  by_contra between
  rw [not_or,not_le,not_le] at between
  have kept := good.seconds
  rw [receive_valid valid range,total,if_neg (by omega)] at kept
  have pushed : pushedBytes (s.log ++ [.received (some (.binary frame)),.pushed frame]) = pushedBytes s.log + frame.length := by
    rw [pushedBytes_append]
    simp [pushedBytes,Effect.audioBytes]
  have bytes : pushedBytes s.log + frame.length ≤ maxStreamAudioSeconds * bytesPerSecond := pushed ▸ kept
  omega

theorem push_audio {updates : List TranscriptUpdate} (counted : Counted s) (stands : s.stage = .pushing loop) :
    Counted (push s loop (.ok updates)) ∧ AudioStep s (.speech (.ok updates)) (push s loop (.ok updates)) := by
  have quiet := @transcripts_calm S s updates
  have total : loop.audioBytes = pushedBytes s.log := counted.tally _ (by rw [stands]; rfl)
  refine silent_audio counted rfl (fun audio => calm_pushed quiet) (fun tally same => ?_) (iff_of_false (fun ends => nomatch ends.1) ?_)
  · cases same
    exact total
  · simp [offered,stands]

theorem finish_audio {updates : List TranscriptUpdate} (counted : Counted s) (stands : s.stage = .finishing loop) :
    Counted (finish s loop (.ok updates)) ∧ AudioStep s (.speech (.ok updates)) (finish s loop (.ok updates)) := by
  have quiet := @transcripts_calm S s updates
  have other : ¬ ∃ audio, offered s (.speech (.ok updates)) = some audio ∧ ValidFrame audio ∧ Exceeds (pushedBytes s.log + audio.length) := by
    simp [offered,stands]
  unfold finish
  dsimp only
  split
  · refine silent_audio counted rfl (fun audio member => ?_) (fun _ same => by cases same) (iff_of_false (fun ends => ?_) other)
    · rcases List.mem_append.mp member with told | last
      · exact calm_pushed quiet told
      · cases List.mem_singleton.mp last
    · obtain ⟨_,effects,same,effect,member,reports⟩ := ends
      rw [← List.append_cancel_left same] at member
      rcases List.mem_append.mp member with told | last
      · rw [(calm_reports (quiet effect told)).1] at reports
        cases reports
      · rw [List.mem_singleton.mp last] at reports
        cases reports
  · refine silent_audio counted rfl (fun audio => calm_pushed quiet) ?_ (iff_of_false (fun ends => ?_) other)
    · dsimp only [VoiceSession.goto]
      split <;> intro _ same <;> cases same
    · have stage := ends.1
      dsimp only [VoiceSession.goto] at stage
      split at stage <;> cases stage

theorem audio_step (counted : Counted s) (taken : Executes (execute service) s event s') (fits : FitsSeconds s event) :
    Counted s' ∧ AudioStep s event s' := by
  cases step_tally taken with
  | frame stands => exact frame_audio counted stands fits
  | heard stands => exact push_audio counted stands
  | done stands => exact finish_audio counted stands
  | calm calm other _ =>
    refine calm_audio counted calm fun audio offers => ?_
    cases other.symm.trans offers

theorem audio_needed (counted : Counted s) (taken : Executes (execute service) s event s') (good : AudioStep s event s') :
    FitsSeconds s event := by
  cases step_tally taken with
  | frame stands => exact frame_needed counted stands good
  | heard stands => simp [FitsSeconds,offered,stands]
  | done stands => simp [FitsSeconds,offered,stands]
  | calm _ other _ => simp [FitsSeconds,other]

-- A session keeps to the bounds on its audio exactly where no frame brings it to the
-- last second that the check rounds down.
theorem audio_bounded (service : Service) (requestId : String) (principal : Option DeviceControlPrincipal)
    (events : List (Event S)) (s : VoiceSession S) :
    Runs (Under FitsSeconds (Executes (execute service))) (connected requestId principal) events s ↔
      Runs (fun s event s' => Executes (execute service) s event s' ∧ AudioStep s event s') (connected requestId principal) events s := by
  have start : Counted (connected (S:=S) requestId principal) := by
    refine ⟨fun tally same => ?_,Nat.zero_le _,nofun⟩
    cases same
    rfl
  exact Runs.exact_steps start (fun _ _ _ counted taken fits => audio_step counted taken fits)
    fun _ _ _ counted taken good => audio_needed counted taken good

-- A client that sends frames of the greatest size, one after the other.
def fullFrame : List UInt8 := List.replicate maxStreamAudioChunkBytes 0

theorem fullFrame_length : fullFrame.length = maxStreamAudioChunkBytes := List.length_replicate

theorem fullFrame_valid : ValidFrame fullFrame := by
  have length := fullFrame_length
  refine ⟨fun empty => ?_,length.le,?_⟩
  · rw [empty] at length
    cases length
  · rw [length]
    decide

theorem frames_pushed (k : Nat) (few : k ≤ 59) : ∃ (events : List (Event Uuid)) (s : VoiceSession Uuid) (loop : StreamLoop),
    Runs (Executes (execute accentedService)) (connected "r" none) events s ∧ s.stage = .looping loop ∧
      loop.audioBytes = k * maxStreamAudioChunkBytes ∧ pushedBytes s.log = k * maxStreamAudioChunkBytes := by
  induction k with
  | zero =>
    obtain ⟨s,path,seen⟩ := Transition.run_reaches (execute accentedService) (connected (S:=Uuid) "r" none)
      [.received (some (.text startText)),.recognizer (.ok ())]
      (fun s => match s.stage with
        | .looping loop => loop.audioBytes = 0 && pushedBytes s.log = 0
        | _ => false) (by decide)
    cases stage : s.stage with
    | looping loop =>
      simp only [stage,Bool.and_eq_true,decide_eq_true_eq] at seen
      exact ⟨_,s,loop,path,stage,by simpa using seen.1,by simpa using seen.2⟩
    | _ => simp [stage] at seen
  | succ k ih =>
    obtain ⟨events,s,loop,path,stands,counted,pushed⟩ := ih (by omega)
    have length := fullFrame_length
    have room : ¬ (maxStreamAudioSeconds + 1) * bytesPerSecond ≤ loop.audioBytes + fullFrame.length := by
      simp only [counted,length,maxStreamAudioChunkBytes,maxStreamAudioSeconds,bytesPerSecond]
      omega
    have range : loop.audioBytes + fullFrame.length < 2 ^ 64 := by
      simp only [maxStreamAudioSeconds,bytesPerSecond] at room
      omega
    have waits : Executes (execute accentedService) s (.elapsed 0) (s.goto [] (.receiving loop)) := by
      simp [Executes,execute,stands,turn,streamWallTimeout]
    let next : StreamLoop := {loop with audioBytes := loop.audioBytes + fullFrame.length}
    let taken := (s.goto [] (.receiving loop)).goto [.received (some (.binary fullFrame)),.pushed fullFrame] (.pushing next)
    have frame : Executes (execute accentedService) (s.goto [] (.receiving loop)) (.received (some (.binary fullFrame))) taken := by
      have sent := @receive_valid _ accentedService (s.goto [] (.receiving loop)) loop fullFrame fullFrame_valid range
      rw [if_neg room] at sent
      exact congrArg some sent
    have heard : Executes (execute accentedService) taken (.speech (.ok [])) (push taken next (.ok [])) := rfl
    refine ⟨_,push taken next (.ok []),next,((path.snoc waits).snoc frame).snoc heard,rfl,?_,?_⟩
    · change loop.audioBytes + fullFrame.length = _
      rw [counted,length,Nat.succ_mul]
    · have log : (push taken next (.ok [])).log = s.log ++ [.received (some (.binary fullFrame)),.pushed fullFrame] := by
        simp [push,taken,VoiceSession.goto,VoiceSession.transcripts]
      rw [log,pushedBytes_append,pushed,Nat.succ_mul]
      simp [pushedBytes,Effect.audioBytes,length]

-- Fifty-nine of them are more than sixty seconds of sound.
theorem minute_exceeded : ¬ ∀ (service : Service) (requestId : String) (principal : Option DeviceControlPrincipal)
    (events : List (Event Uuid)) (s : VoiceSession Uuid), Runs (Executes (execute service)) (connected requestId principal) events s →
      pushedBytes s.log ≤ maxStreamAudioBytes ∧ pushedBytes s.log ≤ maxStreamAudioSeconds * bytesPerSecond := by
  intro all
  obtain ⟨events,s,_,path,_,_,pushed⟩ := frames_pushed 59 (Nat.le_refl _)
  have seconds := (all accentedService "r" none events s path).2
  rw [pushed] at seconds
  exact absurd seconds (by decide)

end Voice
