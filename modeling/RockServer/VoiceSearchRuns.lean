import Mathlib.Computability.RegularExpressions
import RockServer.VoiceSearchSession

-- What a voice search keeps over its whole life: what it says to the server, what
-- it tells the page, and what it holds of the browser.
namespace VoiceSearch
open RegularExpression (char star)

section detector
variable {d : SpeechEndDetector}

-- The windows up to now, in steps of 100 ms: without speech fewer than 4.5
-- seconds of them, and fewer than 8 seconds after the first speech.
structure Attentive (d : SpeechEndDetector) : Prop where
  window : d.windowSamples = d.samples % 1600
  silent : d.outcome = none → d.firstSpeech = 0 → d.samples / 1600 < 45
  spoken : d.outcome = none → d.firstSpeech ≠ 0 → d.firstSpeech ≤ 4500 ∧ d.samples / 1600 * 100 < d.firstSpeech + 8000

theorem new_attentive : Attentive .new := ⟨rfl,fun _ _ => by decide,fun _ spoken => absurd rfl spoken⟩

theorem attentive_decided (window : d.windowSamples = d.samples % 1600) (decided : d.outcome ≠ none) : Attentive d :=
  ⟨window,fun open_ => absurd open_ decided,fun open_ => absurd open_ decided⟩

theorem conclude_attentive {k : Nat} (samples : d.samples = 1600 * (k + 1)) (empty : d.windowSamples = 0)
    (spoken : d.firstSpeech ≠ 0 → d.firstSpeech ≤ 4500) : Attentive (d.conclude (100 * (k + 1))) := by
  have aligned : d.windowSamples = d.samples % 1600 := by omega
  have windows : d.samples / 1600 = k + 1 := by omega
  unfold SpeechEndDetector.conclude
  split
  · rename_i loud
    split
    · exact attentive_decided aligned (Option.some_ne_none _)
    · rename_i open_
      simp only [Bool.or_eq_true,decide_eq_true_eq,not_or] at open_
      refine ⟨aligned,fun _ none => absurd none loud,fun _ _ => ⟨spoken loud,?_⟩⟩
      omega
  · rename_i quiet
    split
    · exact attentive_decided aligned (Option.some_ne_none _)
    · refine ⟨aligned,fun _ _ => ?_,fun _ loud => absurd loud quiet⟩
      omega

-- The first loud window is at most the 45th.
theorem window_attentive {k : Nat} {rms : Float} (samples : d.samples = 1600 * (k + 1)) (empty : d.windowSamples = 0)
    (silent : d.firstSpeech = 0 → k < 45) (spoken : d.firstSpeech ≠ 0 → d.firstSpeech ≤ 4500) :
    Attentive (d.window rms (100 * (k + 1))) := by
  unfold SpeechEndDetector.window
  split
  · refine ⟨?_,fun _ _ => ?_,fun _ first => ⟨spoken first,?_⟩⟩
    all_goals
      dsimp only
      omega
  · split
    · refine conclude_attentive samples empty fun _ => ?_
      dsimp only
      split
      · rename_i none
        have few := silent none
        omega
      · rename_i heard
        exact spoken heard
    · exact conclude_attentive samples empty spoken

theorem sample_attentive (attentive : Attentive d) (sample : Int16) : Attentive (d.sample sample) := by
  unfold SpeechEndDetector.sample
  split
  · exact attentive
  · rename_i undecided
    rw [Bool.not_eq_true,Option.isSome_eq_false_iff,Option.isNone_iff_eq_none] at undecided
    have window := attentive.window
    dsimp only
    split
    · rename_i inside
      have same : (d.samples + 1) / 1600 = d.samples / 1600 := by omega
      refine ⟨?_,fun none first => ?_,fun none first => ?_⟩
      · dsimp only
        omega
      · dsimp only
        rw [same]
        exact attentive.silent none first
      · dsimp only
        rw [same]
        exact attentive.spoken none first
    · rename_i full
      have elapsed : (d.samples + 1) / 16 = 100 * (d.samples / 1600 + 1) := by omega
      rw [elapsed]
      refine window_attentive ?_ rfl (attentive.silent undecided) fun first => (attentive.spoken undecided first).1
      dsimp only
      omega

theorem push_attentive (attentive : Attentive d) (pcm : List Int16) : Attentive (d.push pcm) := by
  induction pcm generalizing d with
  | nil => exact attentive
  | cons sample rest ih => exact ih (sample_attentive attentive sample)

theorem push_append (earlier later : List Int16) : d.push (earlier ++ later) = (d.push earlier).push later := List.foldl_append

theorem conclude_samples {elapsed : Nat} : (d.conclude elapsed).samples = d.samples := by
  unfold SpeechEndDetector.conclude
  split <;> split <;> rfl

theorem window_samples {rms : Float} {elapsed : Nat} : (d.window rms elapsed).samples = d.samples := by
  unfold SpeechEndDetector.window
  split
  · rfl
  · split
    · exact conclude_samples
    · exact conclude_samples

theorem sample_undecided {sample : Int16} (undecided : (d.sample sample).outcome = none) :
    d.outcome = none ∧ (d.sample sample).samples = d.samples + 1 := by
  unfold SpeechEndDetector.sample at undecided ⊢
  split at undecided
  · rename_i decided
    rw [undecided] at decided
    cases decided
  · rename_i open_
    rw [if_neg open_]
    refine ⟨by simpa using open_,?_⟩
    dsimp only
    split
    · rfl
    · exact window_samples

theorem push_undecided {pcm : List Int16} (undecided : (d.push pcm).outcome = none) :
    (d.push pcm).samples = d.samples + pcm.length := by
  induction pcm using List.reverseRecOn with
  | nil => rfl
  | append_singleton rest sample ih =>
    rw [push_append] at undecided ⊢
    obtain ⟨before,samples⟩ := sample_undecided undecided
    refine samples.trans ?_
    rw [ih before,List.length_append]
    rfl

-- Whatever it hears, the detector makes up its mind within 12.5 seconds.
theorem undecided_length {pcm : List Int16} (undecided : (SpeechEndDetector.new.push pcm).outcome = none) :
    pcm.length < 200000 := by
  have attentive := push_attentive new_attentive pcm
  have samples : (SpeechEndDetector.new.push pcm).samples = 0 + pcm.length := push_undecided undecided
  by_cases first : (SpeechEndDetector.new.push pcm).firstSpeech = 0
  · have few := attentive.silent undecided first
    omega
  · have few := attentive.spoken undecided first
    omega

end detector
section log

def Effect.frame? : Effect → Option ClientFrame
  | .sent frame => some frame
  | _ => none

def Effect.event? : Effect → Option VoiceSessionEvent
  | .told event => some event
  | _ => none

def Effect.audio : Effect → List Int16
  | .heard pcm => pcm
  | _ => []

def frames (log : List Effect) : List ClientFrame := log.filterMap Effect.frame?
def events (log : List Effect) : List VoiceSessionEvent := log.filterMap Effect.event?
def heard (log : List Effect) : List Int16 := log.flatMap Effect.audio

variable {earlier later log : List Effect} {effect : Effect}

@[simp] theorem frames_append : frames (earlier ++ later) = frames earlier ++ frames later := List.filterMap_append
@[simp] theorem events_append : events (earlier ++ later) = events earlier ++ events later := List.filterMap_append
@[simp] theorem heard_append : heard (earlier ++ later) = heard earlier ++ heard later := List.flatMap_append
@[simp] theorem frames_nil : frames [] = [] := rfl
@[simp] theorem events_nil : events [] = [] := rfl
@[simp] theorem heard_nil : heard [] = [] := rfl

@[simp] theorem frames_cons : frames (effect :: log) = effect.frame?.toList ++ frames log := by
  unfold frames
  rw [List.filterMap_cons]
  cases effect.frame? <;> rfl

@[simp] theorem events_cons : events (effect :: log) = effect.event?.toList ++ events log := by
  unfold events
  rw [List.filterMap_cons]
  cases effect.event? <;> rfl

@[simp] theorem heard_cons : heard (effect :: log) = effect.audio ++ heard log := List.flatMap_cons

attribute [simp] Effect.frame? Effect.event? Effect.audio

-- The frames of a recording say nothing to the page.
def recorded (chunks : List (List Int16)) : List Effect := chunks.map fun chunk => .sent (.pcm chunk)

variable {chunks : List (List Int16)}

@[simp] theorem frames_recorded : frames (recorded chunks) = chunks.map .pcm := by
  induction chunks with
  | nil => rfl
  | cons chunk rest ih => exact congrArg (ClientFrame.pcm chunk :: ·) ih

@[simp] theorem events_recorded : events (recorded chunks) = [] := by
  induction chunks with
  | nil => rfl
  | cons chunk rest ih => exact ih

@[simp] theorem heard_recorded : heard (recorded chunks) = [] := by
  induction chunks with
  | nil => rfl
  | cons chunk rest ih => exact ih

theorem count_recorded (other : ∀ chunk, effect ≠ .sent (.pcm chunk)) : (recorded chunks).count effect = 0 := by
  refine List.count_eq_zero.mpr fun listed => ?_
  obtain ⟨chunk,_,same⟩ := List.mem_map.mp listed
  exact other chunk same.symm

end log

section operations
variable (s : Session)

-- What a session lets go of at its end.
def Session.letGo : List Effect :=
  (if s.microphone then [.released] else []) ++ if s.socket.isSome then [.hungUp] else []

def Session.over (last : List Effect) : Session :=
  {s with terminalSeen := true, state := .done, microphone := false, pendingSamples := [], wallTimer := false, socket := none,
          log := s.log ++ s.letGo ++ last}

theorem releaseMicrophone_eq : s.releaseMicrophone =
    {s with microphone := false, log := s.log ++ if s.microphone then [.released] else []} := by
  obtain ⟨locale,limit,prompt,socket,microphone,rest⟩ := s
  unfold Session.releaseMicrophone Session.emit
  cases microphone with
  | false => simp
  | true => rfl

theorem detachSocket_eq : s.detachSocket =
    {s with socket := none, log := s.log ++ if s.socket.isSome then [.hungUp] else []} := by
  obtain ⟨locale,limit,prompt,socket,microphone,rest⟩ := s
  unfold Session.detachSocket Session.emit
  cases socket with
  | none => simp
  | some socket => rfl

theorem finishWith_over (terminal : VoiceSessionEvent) :
    s.finishWith terminal = if s.terminalSeen then s else s.over [.told terminal] := by
  unfold Session.finishWith Session.over Session.letGo Session.tell Session.emit
  simp only [releaseMicrophone_eq,detachSocket_eq,List.append_assoc]

theorem dispose_over : s.dispose = {s with cancelled := true}.over [] := by
  unfold Session.dispose Session.over Session.letGo
  simp only [releaseMicrophone_eq,detachSocket_eq,List.append_assoc,List.append_nil]

-- Full frames go out, in order, until less than one is left.
theorem drainFrames_spec {s : Session} (live : s.socket.isSome = true ∧ s.committed = false ∧ s.cancelled = false) :
    ∃ chunks rest, (∀ chunk ∈ chunks, chunk.length = chunkSamples) ∧ chunks.flatten ++ rest = s.pendingSamples ∧
      rest.length < chunkSamples ∧ s.drainFrames = {s with pendingSamples := rest, log := s.log ++ recorded chunks} := by
  induction size : s.pendingSamples.length using Nat.strong_induction_on generalizing s with
  | h n ih =>
    unfold Session.drainFrames
    split
    · rename_i full
      have positive : 0 < chunkSamples := by decide
      have sent : {s with pendingSamples := s.pendingSamples.drop chunkSamples}.sendRaw (s.pendingSamples.take chunkSamples) =
          {s with pendingSamples := s.pendingSamples.drop chunkSamples,
                  log := s.log ++ [.sent (.pcm (s.pendingSamples.take chunkSamples))]} := by
        unfold Session.sendRaw Session.send Session.emit
        simp [Option.isNone_eq_false_iff.mpr live.1,live.1,live.2]
      rw [sent]
      obtain ⟨chunks,rest,sizes,parts,short,same⟩ := ih (n - chunkSamples) (by omega)
        (s:={s with pendingSamples := s.pendingSamples.drop chunkSamples,
                    log := s.log ++ [.sent (.pcm (s.pendingSamples.take chunkSamples))]}) live
        (by simp only [List.length_drop,size])
      refine ⟨s.pendingSamples.take chunkSamples :: chunks,rest,?_,?_,short,?_⟩
      · intro chunk listed
        rcases List.mem_cons.mp listed with rfl | later
        · exact List.length_take_of_le full
        · exact sizes chunk later
      · rw [List.flatten_cons,List.append_assoc,parts]
        exact List.take_append_drop _ _
      · rw [same,List.append_assoc]
        rfl
    · rename_i short
      exact ⟨[],s.pendingSamples,by simp,rfl,Nat.not_le.mp short,by simp [recorded]⟩

end operations
section soundness

def Chunked (chunks : List (List Int16)) : Prop := ∀ chunk ∈ chunks, chunk ≠ [] ∧ chunk.length ≤ chunkSamples

def VoiceSessionEvent.terminal : VoiceSessionEvent → Bool
  | .result .. | .error .. | .cancelled => true
  | .started | .processing | .transcript .. => false

def Transcripts (told : List VoiceSessionEvent) : Prop := ∀ event ∈ told, ∃ text isFinal, event = .transcript text isFinal

-- What the page was told up to a state that is not the last one.
def Narrated (told : List VoiceSessionEvent) : VoiceSessionState → Prop
  | .idle | .connecting => told = []
  | .recording => ∃ texts, Transcripts texts ∧ told = .started :: texts
  | .processing => ∃ texts more, Transcripts texts ∧ Transcripts more ∧ told = .started :: texts ++ .processing :: more
  | .done => False

def Ended (told : List VoiceSessionEvent) : Prop := ∃ state before last, Narrated before state ∧ told = before ++ last ∧
  (last = [] ∨ ∃ event, event.terminal = true ∧ last = [event])

-- What the server was sent up to a state that is not the last one.
def Session.Uttered (s : Session) : Prop := match s.state with
  | .idle => s.log = [] ∧ s.pendingSamples = []
  | .connecting => frames s.log = (if s.socket = some .opened then [.start s.locale s.limit] else []) ∧
    s.pendingSamples = heard s.log
  | .recording => ∃ chunks, Chunked chunks ∧ frames s.log = .start s.locale s.limit :: chunks.map .pcm ∧
    chunks.flatten ++ s.pendingSamples = heard s.log ∧ s.pendingSamples.length < chunkSamples
  | .processing => ∃ chunks, Chunked chunks ∧ frames s.log = .start s.locale s.limit :: chunks.map .pcm ++ [.commit] ∧
    chunks.flatten = heard s.log
  | .done => False

def Session.Closed (s : Session) : Prop := frames s.log = [] ∨ ∃ chunks ending, Chunked chunks ∧
  frames s.log = .start s.locale s.limit :: chunks.map .pcm ++ ending ∧
  ((ending = [] ∨ ending = [.cancel]) ∧ chunks.flatten <+: heard s.log ∨ ending = [.commit] ∧ chunks.flatten = heard s.log)

-- The part that no state is needed for.
structure Session.Even (s : Session) : Prop where
  detector : s.speechEnd = SpeechEndDetector.new.push (heard s.log)
  total : s.totalSamples = (heard s.log).length
  within : s.totalSamples ≤ maxSessionSamples
  microphones : s.log.count .acquired = s.log.count .released + s.microphone.toNat
  sockets : s.log.count .dialled = s.log.count .hungUp + s.socket.isSome.toNat

structure Session.Live (s : Session) : Prop extends s.Even where
  going : s.terminalSeen = false
  wanted : s.cancelled = false
  committed : s.committed = true → s.state = .processing
  asked : s.prompt = true → s.state = .connecting ∧ s.log.count .acquired = 0 ∧ s.socket = none
  linked : s.state = .recording ∨ s.state = .processing → s.socket = some .opened
  uttered : s.Uttered
  narrated : Narrated (events s.log) s.state

structure Session.Done (s : Session) : Prop extends s.Even where
  state : s.state = .done
  seen : s.terminalSeen = true
  free : s.microphone = false ∧ s.socket = none
  asked : s.prompt = true → s.log.count .acquired = 0
  closed : s.Closed
  ended : Ended (events s.log)

def Session.Undecided (s : Session) : Prop :=
  s.state = .recording → s.speechEnd.outcome = none ∧ s.totalSamples < maxSessionSamples

def Session.Sound (s : Session) : Prop := s.Live ∧ s.Undecided ∨ s.Done

variable {s : Session} {last : List Effect}

theorem letGo_silent : frames s.letGo = [] ∧ events s.letGo = [] ∧ heard s.letGo = [] ∧ s.letGo.count .acquired = 0 ∧
    s.letGo.count .dialled = 0 ∧ s.letGo.count .released = s.microphone.toNat ∧ s.letGo.count .hungUp = s.socket.isSome.toNat := by
  unfold Session.letGo
  cases s.microphone <;> cases s.socket.isSome <;> simp

theorem live_closed (live : s.Live) : s.Closed := by
  have uttered := live.uttered
  unfold Session.Uttered at uttered
  split at uttered
  · exact .inl (by rw [uttered.1]; rfl)
  · obtain ⟨sent,_⟩ := uttered
    split at sent
    · exact .inr ⟨[],[],by simp [Chunked],sent,.inl ⟨.inl rfl,List.nil_prefix⟩⟩
    · exact .inl sent
  · obtain ⟨chunks,sized,sent,whole,_⟩ := uttered
    exact .inr ⟨chunks,[],sized,by rw [sent,List.append_nil],.inl ⟨.inl rfl,⟨_,whole⟩⟩⟩
  · obtain ⟨chunks,sized,sent,whole⟩ := uttered
    exact .inr ⟨chunks,[.commit],sized,sent,.inr ⟨rfl,whole⟩⟩
  · cases uttered

-- However a session ends, it lets go of what it holds.
theorem over_done (even : s.Even) (prompt : s.prompt = true → s.log.count .acquired = 0) (closed : s.Closed)
    (narrated : ∃ state, Narrated (events s.log) state) (final : last = [] ∨ ∃ event, event.terminal = true ∧ last = [.told event]) :
    (s.over last).Done := by
  obtain ⟨frames,events,heard,acquired,dialled,released,hungUp⟩ := letGo_silent (s:=s)
  obtain ⟨state,narrated⟩ := narrated
  have silent : VoiceSearch.frames last = [] ∧ VoiceSearch.heard last = [] ∧ last.count .acquired = 0 ∧ last.count .released = 0 ∧
      last.count .dialled = 0 ∧ last.count .hungUp = 0 := by
    rcases final with rfl | ⟨event,_,rfl⟩
    · simp
    · simp
  obtain ⟨detector,total,within,microphones,sockets⟩ := even
  refine ⟨⟨?_,?_,within,?_,?_⟩,rfl,rfl,⟨rfl,rfl⟩,?_,?_,?_⟩
  · simpa [Session.over,heard,silent] using detector
  · simpa [Session.over,heard,silent] using total
  · simp only [Session.over,List.count_append,acquired,released,silent,Bool.toNat_false]
    omega
  · simp only [Session.over,List.count_append,dialled,hungUp,silent,Option.isSome_none,Bool.toNat_false]
    omega
  · intro asked
    simp only [Session.over,List.count_append,acquired,silent,prompt asked]
  · simpa [Session.Closed,Session.over,frames,heard,silent] using closed
  · refine ⟨state,VoiceSearch.events s.log,VoiceSearch.events last,narrated,by simp [Session.over,events],?_⟩
    rcases final with rfl | ⟨event,terminal,rfl⟩
    · exact .inl rfl
    · exact .inr ⟨event,terminal,rfl⟩

theorem live_over (live : s.Live) (final : last = [] ∨ ∃ event, event.terminal = true ∧ last = [.told event]) :
    (s.over last).Done :=
  over_done live.toEven (fun asked => (live.asked asked).2.1) (live_closed live) ⟨_,live.narrated⟩ final

theorem live_unasked {socket : Socket} (live : s.Live) (held : s.socket = some socket) : s.prompt = false := by
  cases asked : s.prompt with
  | false => rfl
  | true =>
    have none := (live.asked asked).2.2
    rw [held] at none
    cases none

theorem live_uncommitted (live : s.Live) (state : s.state ≠ .processing) : s.committed = false :=
  Bool.eq_false_iff.mpr fun commit => state (live.committed commit)

theorem finishWith_done {terminal : VoiceSessionEvent} (live : s.Live) (final : terminal.terminal = true) :
    (s.finishWith terminal).Done := by
  rw [finishWith_over,live.going]
  exact live_over live (.inr ⟨terminal,final,rfl⟩)

end soundness
section steps
variable {s s' : Session}

-- An emission that neither acquires nor releases anything.
theorem even_emit (even : s.Even) (effects : List Effect) (silent : heard effects = [])
    (counts : effects.count .acquired = 0 ∧ effects.count .released = 0 ∧ effects.count .dialled = 0 ∧ effects.count .hungUp = 0) :
    ({s with log := s.log ++ effects} : Session).Even := by
  obtain ⟨detector,total,within,microphones,sockets⟩ := even
  refine ⟨?_,?_,within,?_,?_⟩
  · simpa [silent] using detector
  · simpa [silent] using total
  · simpa [counts] using microphones
  · simpa [counts] using sockets

theorem even_release (even : s.Even) :
    ({s with microphone := false, log := s.log ++ if s.microphone then [.released] else []} : Session).Even := by
  obtain ⟨detector,total,within,microphones,sockets⟩ := even
  cases holds : s.microphone with
  | false | true =>
    rw [holds] at microphones
    exact ⟨by simpa using detector,by simpa using total,within,by simpa using microphones,by simpa using sockets⟩

theorem told_silent (told : List VoiceSessionEvent) : frames (told.map .told) = [] ∧ events (told.map .told) = told ∧
    heard (told.map .told) = [] ∧ ((told.map Effect.told).count .acquired = 0 ∧ (told.map Effect.told).count .released = 0 ∧
      (told.map Effect.told).count .dialled = 0 ∧ (told.map Effect.told).count .hungUp = 0) := by
  induction told with
  | nil => simp
  | cons event rest ih => simp [ih]

theorem recorded_counts {chunks : List (List Int16)} : (recorded chunks).count .acquired = 0 ∧
    (recorded chunks).count .released = 0 ∧ (recorded chunks).count .dialled = 0 ∧ (recorded chunks).count .hungUp = 0 := by
  refine ⟨count_recorded ?_,count_recorded ?_,count_recorded ?_,count_recorded ?_⟩
  all_goals
    intro chunk same
    cases same

-- The recording goes on: whatever was waiting has gone out in full frames, and
-- then the page may be told of it.
theorem drain_live (even : s.Even) (going : s.terminalSeen = false ∧ s.cancelled = false ∧ s.committed = false)
    (prompt : s.prompt = false) (socket : s.socket = some .opened) (state : s.state = .recording)
    (uttered : ∃ chunks, Chunked chunks ∧ frames s.log = .start s.locale s.limit :: chunks.map .pcm ∧
      chunks.flatten ++ s.pendingSamples = heard s.log) (told : List VoiceSessionEvent)
    (narrated : Narrated (events s.log ++ told) .recording) :
    ({s.drainFrames with log := s.drainFrames.log ++ told.map .told} : Session).Live ∧ s.drainFrames.state = .recording := by
  obtain ⟨sent,sized,spoken,whole⟩ := uttered
  obtain ⟨chunks,rest,sizes,parts,short,same⟩ := drainFrames_spec (s:=s) ⟨by rw [socket]; rfl,going.2.2,going.2.1⟩
  rw [same]
  obtain ⟨frames,events,heard,counts⟩ := told_silent told
  have drained := even_emit (even_emit even (recorded chunks) heard_recorded recorded_counts) (told.map .told) heard counts
  refine ⟨⟨⟨drained.detector,drained.total,drained.within,drained.microphones,drained.sockets⟩,going.1,going.2.1,?_,?_,?_,?_,?_⟩,
    state⟩
  · intro committed
    rw [going.2.2] at committed
    cases committed
  · intro asked
    rw [prompt] at asked
    cases asked
  · exact fun _ => socket
  · unfold Session.Uttered
    simp only [state]
    refine ⟨sent ++ chunks,?_,?_,?_,short⟩
    · intro chunk listed
      rcases List.mem_append.mp listed with before | new
      · exact sized chunk before
      · have size := sizes chunk new
        refine ⟨fun none => ?_,by omega⟩
        rw [none] at size
        cases size
    · rw [frames_append,frames_append,spoken,frames_recorded,frames,List.map_append,List.cons_append,List.append_nil]
    · rw [List.flatten_append,List.append_assoc,parts,heard_append,heard_append,heard_recorded,heard,List.append_nil,
        List.append_nil,whole]
  · rw [events_append,events_append,events_recorded,List.append_nil,events,state]
    exact narrated

-- The recording ends: nothing of it is left behind.
theorem finish_live (live : s.Live) (state : s.state = .recording) : s.finish.Live ∧ s.finish.state = .processing := by
  have socket := live.linked (.inl state)
  have prompt := live_unasked live socket
  have committed : s.committed = false := live_uncommitted live (by rw [state]; exact VoiceSessionState.noConfusion)
  have uttered := live.uttered
  have narrated := live.narrated
  unfold Session.Uttered at uttered
  simp only [state] at uttered
  rw [state] at narrated
  obtain ⟨chunks,sized,spoken,whole,short⟩ := uttered
  have still (s : Session) (few : s.pendingSamples.length < chunkSamples) : s.drainFrames = s := by
    unfold Session.drainFrames
    rw [if_neg (Nat.not_le.mpr few)]
  let tail : List (List Int16) := if s.pendingSamples = [] then [] else [s.pendingSamples]
  have shape : s.finish = {s with
      microphone := false, pendingSamples := [], committed := true, state := .processing,
      log := s.log ++ (if s.microphone then [.released] else []) ++ (recorded tail ++ [.told .processing,.sent .commit])} := by
    unfold Session.finish
    simp only [state,ne_eq,not_true_eq_false,if_false,releaseMicrophone_eq]
    rw [still _ (by exact short)]
    unfold Session.sendRaw Session.send Session.tell Session.emit
    by_cases none : s.pendingSamples = []
    · simp [tail,none,socket,recorded]
    · simp [tail,none,socket,recorded,committed,live.wanted]
  have parts : tail.flatten = s.pendingSamples := by
    by_cases none : s.pendingSamples = []
    · simp [tail,none]
    · simp [tail,none]
  have even := even_emit (even_release live.toEven) (recorded tail ++ [.told .processing,.sent .commit])
    (by simp) (by simp [recorded_counts])
  rw [shape]
  refine ⟨⟨⟨even.detector,even.total,even.within,even.microphones,even.sockets⟩,live.going,live.wanted,fun _ => rfl,?_,
    fun _ => socket,?_,?_⟩,rfl⟩
  · intro asked
    rw [prompt] at asked
    cases asked
  · unfold Session.Uttered
    dsimp only
    refine ⟨chunks ++ tail,?_,?_,?_⟩
    · intro chunk listed
      rcases List.mem_append.mp listed with before | last
      · exact sized chunk before
      · by_cases none : s.pendingSamples = []
        · simp [tail,none] at last
        · simp only [tail,if_neg none,List.mem_singleton] at last
          rw [last]
          exact ⟨none,Nat.le_of_lt short⟩
    · cases s.microphone <;> simp [spoken]
    · rw [List.flatten_append,parts,whole]
      cases s.microphone <;> simp
  · obtain ⟨texts,all,told⟩ := narrated
    refine ⟨texts,[],all,by simp [Transcripts],?_⟩
    cases s.microphone <;> simp [told]

-- A cancel frame may still follow the recording.
theorem cut_closed {t : Session} (live : s.Live) (state : s.state = .recording) (same : t.locale = s.locale ∧ t.limit = s.limit)
    (cut : frames t.log = frames s.log ++ [.cancel]) (kept : heard t.log = heard s.log) : t.Closed := by
  have uttered := live.uttered
  unfold Session.Uttered at uttered
  simp only [state] at uttered
  obtain ⟨chunks,sized,spoken,whole,_⟩ := uttered
  refine .inr ⟨chunks,[.cancel],sized,?_,.inl ⟨.inr rfl,?_⟩⟩
  · rw [cut,spoken,same.1,same.2]
  · rw [kept]
    exact ⟨_,whole⟩

theorem closed_same {t : Session} (closed : s.Closed) (same : t.locale = s.locale ∧ t.limit = s.limit)
    (spoken : frames t.log = frames s.log) (kept : heard t.log = heard s.log) : t.Closed := by
  unfold Session.Closed at closed ⊢
  rwa [spoken,kept,same.1,same.2]

theorem finishAutomatically_sound (live : s.Live) (state : s.state = .recording) : s.finishAutomatically.Sound := by
  have finished : s.finish.Sound := by
    obtain ⟨finished,processing⟩ := finish_live live state
    refine .inl ⟨finished,fun recording => ?_⟩
    rw [processing] at recording
    cases recording
  unfold Session.finishAutomatically
  cases outcome : s.speechEnd.outcome with
  | none =>
    dsimp only
    split
    · exact finished
    · rename_i room
      exact .inl ⟨live,fun _ => ⟨outcome,Nat.not_le.mp room⟩⟩
  | some ended =>
    cases ended with
    | speech => exact finished
    | silence =>
      have sent : s.send .cancel = {s with log := s.log ++ [.sent .cancel]} := by
        unfold Session.send Session.emit
        rw [live.linked (.inl state)]
        rfl
      dsimp only
      rw [sent,finishWith_over]
      simp only [live.going,Bool.false_eq_true,if_false]
      have cut := even_emit live.toEven [.sent .cancel] (by simp) (by simp)
      refine .inr (over_done ⟨cut.detector,cut.total,cut.within,cut.microphones,cut.sockets⟩ (fun asked => ?_)
        (cut_closed live state ⟨rfl,rfl⟩ (by simp) (by simp)) ⟨s.state,?_⟩ (.inr ⟨_,rfl,rfl⟩))
      · simpa using (live.asked asked).2.1
      · simpa using live.narrated

theorem cancel_sound (sound : s.Sound) : s.cancel.Sound := by
  unfold Session.cancel
  split
  · exact sound
  · rename_i going
    simp only [Bool.or_eq_true,decide_eq_true_eq,not_or] at going
    rcases sound with ⟨live,_⟩ | done
    · refine .inr ?_
      have even := even_release live.toEven
      let freed : List Effect := if s.microphone then [.released] else []
      have silent : frames freed = [] ∧ events freed = [] ∧ heard freed = [] ∧ freed.count .acquired = 0 := by
        unfold freed
        cases s.microphone <;> simp
      have prompt (asked : s.prompt = true) : (s.log ++ freed).count .acquired = 0 := by
        rw [List.count_append,(live.asked asked).2.1,silent.2.2.2]
      have narrated : Narrated (events (s.log ++ freed)) s.state := by
        rw [events_append,silent.2.1,List.append_nil]
        exact live.narrated
      simp only [releaseMicrophone_eq]
      split
      · rename_i recording
        simp only [Bool.and_eq_true,decide_eq_true_eq] at recording
        have sent := even_emit even [.sent .cancel] (by simp) (by simp)
        simp only [Session.send,Session.emit,recording.1.2,if_true,finishWith_over,live.going,Bool.false_eq_true,if_false]
        refine over_done ⟨sent.detector,sent.total,sent.within,sent.microphones,sent.sockets⟩ (fun asked => ?_)
          (cut_closed live recording.1.1 ⟨rfl,rfl⟩ ?_ ?_) ⟨s.state,?_⟩ (.inr ⟨_,rfl,rfl⟩)
        · simpa using prompt asked
        · simp [freed,silent]
        · simp [freed,silent]
        · simpa using narrated
      · simp only [finishWith_over,live.going,Bool.false_eq_true,if_false]
        exact over_done ⟨even.detector,even.total,even.within,even.microphones,even.sockets⟩ prompt
          (closed_same (live_closed live) ⟨rfl,rfl⟩ (by simp [freed,silent]) (by simp [freed,silent])) ⟨s.state,narrated⟩
          (.inr ⟨_,rfl,rfl⟩)
    · exact absurd done.state going.2

theorem finishWith_sound {terminal : VoiceSessionEvent} (sound : s.Sound) (final : terminal.terminal = true) :
    (s.finishWith terminal).Sound := by
  rcases sound with ⟨live,_⟩ | done
  · exact .inr (finishWith_done live final)
  · rw [finishWith_over,done.seen,if_pos rfl]
    exact .inr done

theorem letGo_free (free : s.microphone = false ∧ s.socket = none) : s.letGo = [] := by
  unfold Session.letGo
  rw [free.1,free.2]
  rfl

theorem dispose_sound (sound : s.Sound) : s.dispose.Sound := by
  rw [dispose_over]
  refine .inr ?_
  rcases sound with ⟨live,_⟩ | done
  · have even := live.toEven
    exact over_done ⟨even.detector,even.total,even.within,even.microphones,even.sockets⟩ (fun asked => (live.asked asked).2.1)
      (closed_same (live_closed live) ⟨rfl,rfl⟩ rfl rfl) ⟨_,live.narrated⟩ (.inl rfl)
  · have nothing : ({s with cancelled := true} : Session).letGo = [] := letGo_free done.free
    obtain ⟨⟨detector,total,within,microphones,sockets⟩,state,seen,free,asked,closed,ended⟩ := done
    rw [free.1] at microphones
    rw [free.2] at sockets
    unfold Session.over
    rw [nothing,List.append_nil,List.append_nil]
    exact ⟨⟨detector,total,within,microphones,sockets⟩,rfl,rfl,⟨rfl,rfl⟩,asked,closed,ended⟩

theorem start_sound (sound : s.Sound) : s.start.Sound := by
  unfold Session.start
  split
  · exact sound
  · rename_i idle
    rw [ne_eq,not_not] at idle
    rcases sound with ⟨live,_⟩ | done
    · have uttered := live.uttered
      have narrated := live.narrated
      unfold Session.Uttered at uttered
      simp only [idle] at uttered
      rw [idle] at narrated
      obtain ⟨even,going,wanted,committed,asked,linked,_,_⟩ := live
      have sockets := even.sockets
      have unlinked : s.socket = none := by
        rw [uttered.1] at sockets
        cases holds : s.socket with
        | none => rfl
        | some socket => simp [holds] at sockets
      refine .inl ⟨⟨⟨even.detector,even.total,even.within,even.microphones,even.sockets⟩,going,wanted,fun commit => ?_,
        fun _ => ⟨rfl,by simp [uttered.1],unlinked⟩,fun other => ?_,?_,narrated⟩,fun recording => by cases recording⟩
      · have processing := committed commit
        rw [idle] at processing
        cases processing
      · rcases other with other | other
        · cases other
        · cases other
      · simp [Session.Uttered,unlinked,uttered]
    · rw [done.state] at idle
      cases idle

theorem granted_sound (sound : s.Sound) (prompt : s.prompt = true) : s.granted.Sound := by
  unfold Session.granted
  rcases sound with ⟨live,_⟩ | done
  · obtain ⟨connecting,fresh,unlinked⟩ := live.asked prompt
    have uttered := live.uttered
    have narrated := live.narrated
    unfold Session.Uttered at uttered
    simp only [connecting,unlinked] at uttered
    rw [connecting] at narrated
    obtain ⟨⟨detector,total,within,microphones,sockets⟩,going,wanted,committed,_,_,_,_⟩ := live
    have free : s.microphone = false := by
      cases holds : s.microphone with
      | false => rfl
      | true =>
        rw [holds] at microphones
        simp only [Bool.toNat_true] at microphones
        omega
    simp only [Session.emit,going,Bool.false_eq_true,if_false]
    refine .inl ⟨⟨⟨?_,?_,within,?_,?_⟩,rfl,wanted,committed,fun asked => absurd asked Bool.false_ne_true,fun other => ?_,?_,?_⟩,fun recording => ?_⟩
    · simpa using detector
    · simpa using total
    · simpa [free] using microphones
    · simpa [unlinked] using sockets
    · rw [connecting] at other
      rcases other with other | other
      · cases other
      · cases other
    · simpa [Session.Uttered,connecting] using uttered
    · simpa [connecting] using narrated
    · rw [connecting] at recording
      cases recording
  · obtain ⟨⟨detector,total,within,microphones,sockets⟩,state,seen,free,asked,closed,ended⟩ := done
    simp only [Session.emit,seen,if_true]
    refine .inr ⟨⟨?_,?_,within,?_,?_⟩,state,rfl,free,fun asked => absurd asked Bool.false_ne_true,?_,?_⟩
    · simpa using detector
    · simpa using total
    · simp
      omega
    · simpa using sockets
    · exact closed_same closed ⟨rfl,rfl⟩ (by simp) (by simp)
    · simpa using ended

theorem denied_sound (sound : s.Sound) (name : String) : (s.denied name).Sound := by
  refine finishWith_sound ?_ rfl
  rcases sound with ⟨live,undecided⟩ | done
  · obtain ⟨even,going,wanted,committed,_,linked,uttered,narrated⟩ := live
    exact .inl ⟨⟨⟨even.detector,even.total,even.within,even.microphones,even.sockets⟩,going,wanted,committed,
      fun asked => absurd asked Bool.false_ne_true,linked,uttered,narrated⟩,undecided⟩
  · obtain ⟨even,state,seen,free,_,closed,ended⟩ := done
    exact .inr ⟨⟨even.detector,even.total,even.within,even.microphones,even.sockets⟩,state,seen,free,fun asked => absurd asked Bool.false_ne_true,
      closed,ended⟩

theorem opened_sound (sound : s.Sound) (dialled : s.socket = some .connecting) : s.opened.Sound := by
  unfold Session.opened Session.emit
  rcases sound with ⟨live,_⟩ | done
  · have uttered := live.uttered
    have narrated := live.narrated
    unfold Session.Uttered at uttered
    obtain ⟨⟨detector,total,within,microphones,sockets⟩,going,wanted,committed,asked,linked,_,_⟩ := live
    have unasked : s.prompt = true → False := fun prompt => by
      have none := (asked prompt).2.2
      rw [dialled] at none
      cases none
    cases state : s.state with
    | connecting =>
      simp only [state,dialled] at uttered
      rw [state] at narrated
      refine .inl ⟨⟨⟨?_,?_,within,?_,?_⟩,going,wanted,?_,fun prompt => (unasked prompt).elim,fun _ => rfl,?_,?_⟩,fun recording => ?_⟩
      · simpa using detector
      · simpa using total
      · simpa using microphones
      · simpa [dialled] using sockets
      · exact fun commit => state ▸ committed commit
      · simpa [Session.Uttered] using uttered
      · simpa using narrated
      · cases recording
    | idle =>
      simp only [state] at uttered
      rw [uttered.1,dialled] at sockets
      simp at sockets
    | recording =>
      rw [linked (.inl state)] at dialled
      cases dialled
    | processing =>
      rw [linked (.inr state)] at dialled
      cases dialled
    | done =>
      rw [state] at narrated
      cases narrated
  · rw [done.free.2] at dialled
    cases dialled

theorem disconnected_sound (sound : s.Sound) : s.disconnected.Sound := by
  unfold Session.disconnected
  split
  · exact finishWith_sound sound (by split <;> rfl)
  · exact sound

theorem expired_sound (sound : s.Sound) : s.expired.Sound := finishWith_sound sound (by split <;> rfl)

theorem finish_sound (sound : s.Sound) : s.finish.Sound := by
  by_cases recording : s.state = .recording
  · rcases sound with ⟨live,_⟩ | done
    · obtain ⟨finished,processing⟩ := finish_live live recording
      refine .inl ⟨finished,fun still => ?_⟩
      rw [processing] at still
      cases still
    · rw [done.state] at recording
      cases recording
  · unfold Session.finish
    rw [if_pos recording]
    exact sound

-- The server accepts audio: what was said so far goes out first.
theorem ready_sound (live : s.Live) (connecting : s.state = .connecting) (socket : s.socket = some .opened) :
    ({s with state := .recording}.drainFrames.tell .started).finishAutomatically.Sound := by
  have uttered := live.uttered
  have narrated := live.narrated
  unfold Session.Uttered at uttered
  simp only [connecting,socket,if_true] at uttered
  rw [connecting] at narrated
  have prompt := live_unasked live socket
  have committed : s.committed = false := live_uncommitted live (by rw [connecting]; exact VoiceSessionState.noConfusion)
  have even := live.toEven
  obtain ⟨drained,state⟩ := drain_live (s:={s with state := .recording})
    ⟨even.detector,even.total,even.within,even.microphones,even.sockets⟩ ⟨live.going,live.wanted,committed⟩ prompt socket rfl
    ⟨[],by simp [Chunked],uttered.1,uttered.2⟩ [.started] ⟨[],by simp [Transcripts],by simpa [Narrated] using narrated⟩
  exact finishAutomatically_sound drained state

theorem transcript_sound {text : String} {isFinal : Bool} (live : s.Live) (undecided : s.Undecided)
    (open_ : s.state = .recording ∨ s.state = .processing) : (s.tell (.transcript text isFinal)).Sound := by
  have told := even_emit live.toEven [.told (.transcript text isFinal)] (by simp) (by simp)
  refine .inl ⟨⟨told,live.going,live.wanted,live.committed,fun asked => ?_,live.linked,?_,?_⟩,undecided⟩
  · have connecting := (live.asked asked).1
    rcases open_ with state | state
    · rw [state] at connecting
      cases connecting
    · rw [state] at connecting
      cases connecting
  · have uttered := live.uttered
    rcases open_ with state | state
    · simpa [Session.Uttered,Session.tell,Session.emit,state] using uttered
    · simpa [Session.Uttered,Session.tell,Session.emit,state] using uttered
  · have narrated := live.narrated
    have listed {texts : List VoiceSessionEvent} (all : Transcripts texts) : Transcripts (texts ++ [.transcript text isFinal]) := by
      intro event member
      rcases List.mem_append.mp member with before | last
      · exact all event before
      · exact ⟨text,isFinal,List.mem_singleton.mp last⟩
    simp only [Session.tell,Session.emit,events_append,events_cons,events_nil]
    rcases open_ with state | state
    · rw [state] at narrated ⊢
      obtain ⟨texts,all,same⟩ := narrated
      exact ⟨_,listed all,by rw [same]; rfl⟩
    · rw [state] at narrated ⊢
      obtain ⟨texts,more,all,later,same⟩ := narrated
      exact ⟨texts,_,all,listed later,by rw [same]; simp⟩

theorem message_sound (sound : s.Sound) (socket : s.socket = some .opened) (data : Option DeviceControl.Json) :
    (s.handleMessage data).Sound := by
  rcases sound with ⟨live,undecided⟩ | done
  · unfold Session.handleMessage
    rw [if_neg (by rw [live.going]; exact Bool.false_ne_true)]
    have same : s.Sound := .inl ⟨live,undecided⟩
    split
    · exact same
    · split
      · split
        · rename_i connecting
          exact ready_sound live connecting socket
        · exact same
      · split
        · rename_i open_
          refine transcript_sound live undecided ?_
          simpa using open_
        · exact same
      · rw [if_neg (by rw [live.wanted]; exact Bool.false_ne_true)]
        exact finishWith_sound same rfl
      · dsimp only
        split
        · exact finishWith_sound same rfl
        · exact finishWith_sound same rfl
      · exact same
  · rw [done.free.2] at socket
    cases socket

-- What the session takes of the microphone's audio.
def Session.take (s : Session) (accepted : List Int16) : Session :=
  {s with totalSamples := s.totalSamples + accepted.length, pendingSamples := s.pendingSamples ++ accepted,
          speechEnd := s.speechEnd.push accepted}.emit (.heard accepted)

theorem take_even (even : s.Even) {accepted : List Int16} (fits : accepted.length ≤ maxSessionSamples - s.totalSamples) :
    (s.take accepted).Even := by
  obtain ⟨detector,total,within,microphones,sockets⟩ := even
  refine ⟨?_,?_,?_,?_,?_⟩
  · simp only [Session.take,Session.emit,heard_append,heard_cons,heard_nil,Effect.audio,List.append_nil,push_append]
    rw [← detector]
  · simp [Session.take,Session.emit,total]
  · simp only [Session.take,Session.emit]
    omega
  · simpa [Session.take,Session.emit] using microphones
  · simpa [Session.take,Session.emit] using sockets

theorem take_sound (live : s.Live) (open_ : s.state = .connecting ∨ s.state = .recording) {accepted : List Int16}
    (fits : accepted.length ≤ maxSessionSamples - s.totalSamples) :
    (if (s.take accepted).state = .recording then (s.take accepted).drainFrames.finishAutomatically else s.take accepted).Sound := by
  have even := take_even live.toEven fits
  have uttered := live.uttered
  have narrated := live.narrated
  unfold Session.Uttered at uttered
  rcases open_ with state | state
  · have same : (s.take accepted).state = .connecting := state
    rw [if_neg (by rw [same]; exact VoiceSessionState.noConfusion)]
    simp only [state] at uttered
    refine .inl ⟨⟨even,live.going,live.wanted,live.committed,fun asked => ?_,live.linked,?_,?_⟩,fun recording => ?_⟩
    · obtain ⟨connecting,fresh,unlinked⟩ := live.asked asked
      exact ⟨connecting,by simpa [Session.take,Session.emit] using fresh,unlinked⟩
    · have spoken : frames (s.take accepted).log = frames s.log := by simp [Session.take,Session.emit]
      simp only [Session.Uttered,same]
      exact ⟨spoken.trans uttered.1,by simp [Session.take,Session.emit,uttered.2]⟩
    · simpa [Session.take,Session.emit] using narrated
    · rw [same] at recording
      cases recording
  · have same : (s.take accepted).state = .recording := state
    rw [if_pos same]
    simp only [state] at uttered
    obtain ⟨chunks,sized,spoken,whole,_⟩ := uttered
    have socket := live.linked (.inl state)
    have prompt := live_unasked live socket
    have committed : s.committed = false := live_uncommitted live (by rw [state]; exact VoiceSessionState.noConfusion)
    rw [state] at narrated
    obtain ⟨drained,recording⟩ := drain_live even ⟨live.going,live.wanted,committed⟩ prompt socket same
      ⟨chunks,sized,by simpa [Session.take,Session.emit] using spoken,by simp [Session.take,Session.emit,← whole]⟩ []
      (by simpa [Session.take,Session.emit] using narrated)
    rw [List.map_nil,List.append_nil] at drained
    exact finishAutomatically_sound drained recording

theorem audio_sound (sound : s.Sound) (pcm : List Int16) : (s.handleAudio pcm).Sound := by
  unfold Session.handleAudio
  split
  · exact sound
  · split
    · exact sound
    · rename_i open_
      dsimp only
      split
      · exact sound
      · rename_i room
        rcases sound with ⟨live,_⟩ | done
        · let accepted := if pcm.length ≤ maxSessionSamples - s.totalSamples then pcm
            else pcm.take (maxSessionSamples - s.totalSamples)
          have fits : accepted.length ≤ maxSessionSamples - s.totalSamples := by
            unfold accepted
            split
            · assumption
            · exact List.length_take_le _ _
          exact take_sound live (by simpa [not_and_or,or_iff_not_imp_left] using open_) fits
        · simp [done.state] at open_

variable {action : Action}

theorem step_sound (sound : s.Sound) (taken : execute s action = some s') : s'.Sound := by
  cases action with
  | start =>
    cases taken
    exact start_sound sound
  | granted =>
    obtain ⟨prompt,same⟩ := Option.ite_none_right_eq_some.mp taken
    cases same
    exact granted_sound sound prompt
  | denied name =>
    obtain ⟨_,same⟩ := Option.ite_none_right_eq_some.mp taken
    cases same
    exact denied_sound sound name
  | opened =>
    obtain ⟨dialled,same⟩ := Option.ite_none_right_eq_some.mp taken
    cases same
    exact opened_sound sound dialled
  | message data =>
    obtain ⟨socket,same⟩ := Option.ite_none_right_eq_some.mp taken
    cases same
    exact message_sound sound socket data
  | disconnected =>
    obtain ⟨_,same⟩ := Option.ite_none_right_eq_some.mp taken
    cases same
    exact disconnected_sound sound
  | expired =>
    obtain ⟨_,same⟩ := Option.ite_none_right_eq_some.mp taken
    cases same
    exact expired_sound sound
  | audio pcm =>
    cases taken
    exact audio_sound sound pcm
  | finish =>
    cases taken
    exact finish_sound sound
  | cancel =>
    cases taken
    exact cancel_sound sound
  | dispose =>
    cases taken
    exact dispose_sound sound

theorem new_sound (locale : Option String) (limit : Option Nat) : (Session.new locale limit).Sound := by
  refine .inl ⟨⟨⟨rfl,rfl,Nat.zero_le _,rfl,rfl⟩,rfl,rfl,?_,?_,?_,⟨rfl,rfl⟩,rfl⟩,?_⟩
  · intro committed
    cases committed
  · intro asked
    cases asked
  · rintro (other | other)
    · cases other
    · cases other
  · intro recording
    cases recording

end steps
section runs
variable {s s' : Session} {action : Action} {actions later : List Action}

inductive Note where
  | started
  | transcript
  | processing
  | terminal

def VoiceSessionEvent.note : VoiceSessionEvent → Note
  | .started => .started
  | .transcript .. => .transcript
  | .processing => .processing
  | .result .. | .error .. | .cancelled => .terminal

-- What a page may be told, and in which order.
def story : RegularExpression Note :=
  (1 + char .started * star (char .transcript) * (1 + char .processing * star (char .transcript))) * (1 + char .terminal)

-- Everything a voice search promises, in any state of it.
structure Session.Lawful (s : Session) : Prop where
  frames : frames s.log = [] ∨ ∃ chunks ending, Chunked chunks ∧
    frames s.log = .start s.locale s.limit :: chunks.map .pcm ++ ending ∧ ending ∈ [[],[.commit],[.cancel]] ∧
    chunks.flatten <+: heard s.log ∧ (ending = [.commit] → chunks.flatten = heard s.log)
  minute : (heard s.log).length ≤ maxSessionSamples
  recording : s.state = .recording → (heard s.log).length < 200000
  story : (events s.log).map VoiceSessionEvent.note ∈ story.matches'
  ended : (∃ event ∈ events s.log, event.terminal = true) → s.terminalSeen = true
  released : s.state = .done → s.log.count .acquired = s.log.count .released ∧ s.log.count .dialled = s.log.count .hungUp

theorem transcripts_star {texts : List VoiceSessionEvent} (all : Transcripts texts) :
    texts.map VoiceSessionEvent.note ∈ (star (char Note.transcript)).matches' := by
  refine ⟨texts.map fun _ => [.transcript],?_,fun word listed => ?_⟩
  · induction texts with
    | nil => rfl
    | cons event rest ih =>
      obtain ⟨text,isFinal,same⟩ := all event List.mem_cons_self
      rw [List.map_cons,List.map_cons,List.flatten_cons,← ih fun event listed => all event (List.mem_cons_of_mem _ listed),same]
      rfl
  · obtain ⟨_,_,same⟩ := List.mem_map.mp listed
    exact same.symm

theorem narrated_story {told : List VoiceSessionEvent} {state : VoiceSessionState} (narrated : Narrated told state)
    {last : List Note} (final : last = [] ∨ last = [.terminal]) : told.map VoiceSessionEvent.note ++ last ∈ story.matches' := by
  refine Language.append_mem_mul ?_ ?_
  · cases state with
    | idle | connecting =>
      cases narrated
      exact .inl rfl
    | recording =>
      obtain ⟨texts,all,rfl⟩ := narrated
      have first : [Note.started] ∈ (char Note.started).matches' := rfl
      have none : [] ∈ (1 + char Note.processing * star (char Note.transcript)).matches' := Or.inl rfl
      have spoken := Language.append_mem_mul (Language.append_mem_mul first (transcripts_star all)) none
      rw [List.append_nil] at spoken
      exact .inr spoken
    | processing =>
      obtain ⟨texts,more,all,after,rfl⟩ := narrated
      rw [List.map_append]
      exact .inr (Language.append_mem_mul (Language.append_mem_mul (a:=[Note.started]) rfl (transcripts_star all))
        (.inr (Language.append_mem_mul (a:=[Note.processing]) rfl (transcripts_star after))))
    | done => cases narrated
  · rcases final with rfl | rfl
    · exact .inl rfl
    · exact .inr rfl

theorem transcripts_open {texts : List VoiceSessionEvent} (all : Transcripts texts) : ∀ event ∈ texts, event.terminal = false := by
  intro event listed
  obtain ⟨text,isFinal,rfl⟩ := all event listed
  rfl

-- Nothing that was told before the last state has ended the story.
theorem narrated_open {told : List VoiceSessionEvent} {state : VoiceSessionState} (narrated : Narrated told state) :
    ∀ event ∈ told, event.terminal = false := by
  cases state with
  | idle | connecting =>
    rw [show told = [] from narrated]
    nofun
  | recording =>
    obtain ⟨texts,all,rfl⟩ := narrated
    exact List.forall_mem_cons.mpr ⟨rfl,transcripts_open all⟩
  | processing =>
    obtain ⟨texts,more,all,rest,rfl⟩ := narrated
    refine List.forall_mem_append.mpr ⟨List.forall_mem_cons.mpr ⟨rfl,transcripts_open all⟩,?_⟩
    exact List.forall_mem_cons.mpr ⟨rfl,transcripts_open rest⟩
  | done => exact narrated.elim

theorem sound_lawful (sound : s.Sound) : s.Lawful := by
  have closed : s.Closed := sound.elim (fun live => live_closed live.1) Session.Done.closed
  have even : s.Even := sound.elim (fun live => live.1.toEven) Session.Done.toEven
  refine ⟨?_,even.total ▸ even.within,fun recording => ?_,?_,fun ⟨event,told,last⟩ => ?_,fun ended => ?_⟩
  · rcases closed with none | ⟨chunks,ending,sized,spoken,ends⟩
    · exact .inl none
    · refine .inr ⟨chunks,ending,sized,spoken,?_⟩
      rcases ends with ⟨rfl | rfl,part⟩ | ⟨rfl,whole⟩
      · exact ⟨by simp,part,fun commit => by cases commit⟩
      · exact ⟨by simp,part,fun commit => by cases commit⟩
      · exact ⟨by simp,whole ▸ List.prefix_rfl,fun _ => whole⟩
  · rcases sound with ⟨live,undecided⟩ | done
    · have open_ := (undecided recording).1
      rw [even.detector] at open_
      exact undecided_length open_
    · rw [done.state] at recording
      cases recording
  · rcases sound with ⟨live,_⟩ | done
    · simpa using narrated_story live.narrated (.inl rfl)
    · obtain ⟨state,before,last,narrated,told,final⟩ := done.ended
      rw [told,List.map_append]
      refine narrated_story narrated ?_
      rcases final with rfl | ⟨event,terminal,rfl⟩
      · exact .inl rfl
      · cases event with
        | result | error | cancelled => exact .inr rfl
        | started | processing | transcript => cases terminal
  · rcases sound with ⟨live,_⟩ | done
    · rw [narrated_open live.narrated event told] at last
      cases last
    · exact done.seen
  · rcases sound with ⟨live,_⟩ | done
    · have narrated := live.narrated
      rw [ended] at narrated
      cases narrated
    · have microphones := even.microphones
      have sockets := even.sockets
      rw [done.free.1] at microphones
      rw [done.free.2] at sockets
      exact ⟨microphones,sockets⟩

theorem sound_over (sound : s.Sound) (seen : s.terminalSeen = true) : s.Done := by
  rcases sound with ⟨live,_⟩ | done
  · have going := live.going
    rw [seen] at going
    cases going
  · exact done

-- A session that is over says nothing any more, to anybody.
theorem done_step (done : s.Done) (taken : execute s action = some s') :
    s'.Done ∧ frames s'.log = frames s.log ∧ events s'.log = events s.log := by
  have same (stays : s' = s) : s'.Done ∧ frames s'.log = frames s.log ∧ events s'.log = events s.log := by
    rw [stays]
    exact ⟨done,rfl,rfl⟩
  have silent {socket : Socket} (held : s.socket = some socket) : False := by
    rw [done.free.2] at held
    cases held
  have sound := step_sound (.inr done) taken
  cases action with
  | start =>
    cases taken
    refine same ?_
    unfold Session.start
    rw [if_pos (by rw [done.state]; exact VoiceSessionState.noConfusion)]
  | granted =>
    obtain ⟨_,same'⟩ := Option.ite_none_right_eq_some.mp taken
    cases same'
    have shape : s.granted = {s with prompt := false, log := s.log ++ [.acquired] ++ [.released]} := by
      simp only [Session.granted,Session.emit,done.seen,if_true]
    rw [shape] at sound ⊢
    exact ⟨sound_over sound done.seen,by simp,by simp⟩
  | denied name =>
    obtain ⟨_,same'⟩ := Option.ite_none_right_eq_some.mp taken
    cases same'
    have shape : s.denied name = {s with prompt := false} := by
      simp only [Session.denied,finishWith_over,done.seen,if_true]
    rw [shape] at sound ⊢
    exact ⟨sound_over sound done.seen,rfl,rfl⟩
  | opened => exact (silent (Option.ite_none_right_eq_some.mp taken).1).elim
  | message data => exact (silent (Option.ite_none_right_eq_some.mp taken).1).elim
  | disconnected =>
    obtain ⟨socket,held⟩ := Option.isSome_iff_exists.mp (Option.ite_none_right_eq_some.mp taken).1
    exact (silent held).elim
  | expired =>
    obtain ⟨_,same'⟩ := Option.ite_none_right_eq_some.mp taken
    cases same'
    refine same ?_
    unfold Session.expired
    rw [finishWith_over,if_pos done.seen]
  | audio pcm =>
    cases taken
    refine same ?_
    unfold Session.handleAudio
    simp [done.state]
  | finish =>
    cases taken
    refine same ?_
    unfold Session.finish
    rw [if_pos (by rw [done.state]; exact VoiceSessionState.noConfusion)]
  | cancel =>
    cases taken
    refine same ?_
    unfold Session.cancel
    rw [if_pos (by rw [done.state]; rfl)]
  | dispose =>
    cases taken
    have nothing : ({s with cancelled := true} : Session).letGo = [] := letGo_free done.free
    have shape : s.dispose.log = s.log := by
      rw [dispose_over]
      simp only [Session.over,nothing,List.append_nil]
    refine ⟨sound_over sound ?_,by rw [shape],by rw [shape]⟩
    rw [dispose_over]
    rfl

abbrev Searches (locale : Option String) (limit : Option Nat) :=
  Transition.Runs (Transition.Executes execute) (Session.new locale limit)

theorem searches_sound {locale : Option String} {limit : Option Nat} (path : Searches locale limit actions s) : s.Sound :=
  path.invariant Session.Sound (new_sound locale limit) fun _ _ _ => step_sound

-- Every search keeps its promises, and once it is over nothing follows.
theorem search_lawful {locale : Option String} {limit : Option Nat} (path : Searches locale limit actions s) :
    s.Lawful ∧ (s.terminalSeen = true → ∀ later s', Transition.Runs (Transition.Executes execute) s later s' →
      s'.state = .done ∧ frames s'.log = frames s.log ∧ events s'.log = events s.log) := by
  have sound := searches_sound path
  refine ⟨sound_lawful sound,fun seen later s' rest => ?_⟩
  have kept := rest.invariant (fun t => t.Done ∧ frames t.log = frames s.log ∧ events t.log = events s.log)
    ⟨sound_over sound seen,rfl,rfl⟩ fun t _ t' same taken => by
      obtain ⟨done,spoken,told⟩ := done_step same.1 taken
      exact ⟨done,spoken.trans same.2.1,told.trans same.2.2⟩
  exact ⟨kept.1.state,kept.2⟩

-- A click, three samples before the server is ready, and a second click.
def clicked : List Action := [.start,.granted,.opened,.audio [1,-2,3],.cancel]

theorem search_lawful_clicked : ∃ s : Session, s.Lawful ∧ s.log = [.acquired,.dialled,.sent (.start "ru-RU" 10),.heard [1,-2,3],
    .released,.hungUp,.told .cancelled] ∧ s.terminalSeen = true ∧
    ∀ later s', Transition.Runs (Transition.Executes execute) s later s' → events s'.log = [.cancelled] := by
  obtain ⟨s,path,seen⟩ := Transition.run_reaches execute (Session.new none none) clicked (fun s => s.log = [.acquired,.dialled,
    .sent (.start "ru-RU" 10),.heard [1,-2,3],.released,.hungUp,.told .cancelled]) (by decide)
  have log := of_decide_eq_true seen
  obtain ⟨lawful,final⟩ := search_lawful path
  have ended : s.terminalSeen = true := lawful.ended ⟨.cancelled,by rw [log]; decide,rfl⟩
  refine ⟨s,lawful,log,ended,fun later s' rest => (final ended later s' rest).2.2.trans ?_⟩
  rw [log]
  rfl

end runs
end VoiceSearch
