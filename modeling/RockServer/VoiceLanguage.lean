import Mathlib.Computability.RegularExpressions
import RockServer.VoiceSession

-- What a client may rely on while it talks to a session: the language of the
-- frames, and an automaton over everything the session hears, says and calls.
namespace Voice
open RegularExpression (char star)
open Transition (Runs Executes)

def language : RegularExpression Frame :=
  char .error + char .ready * star (char .transcript) * (1 + char .result + char .deviceResult + char .error)

section effects
variable {S : Type} {codec : Codec} {log earlier later : List (Effect S)} {effect : Effect S}

def Effect.frame? : Effect S → Option Frame
  | .sent event => some event.frame
  | _ => none

def frames (log : List (Effect S)) : List Frame := log.filterMap Effect.frame?

def Effect.isFinish : Effect S → Bool
  | .finished => true
  | _ => false

def Effect.isSubmission : Effect S → Bool
  | .submitted _ => true
  | _ => false

def finishes (log : List (Effect S)) : Nat := log.countP Effect.isFinish
def submissions (log : List (Effect S)) : Nat := log.countP Effect.isSubmission

-- The client closed the socket, or the socket failed.
def Disconnected (log : List (Effect S)) : Prop := .received (some .close) ∈ log ∨ .received (some .failed) ∈ log

-- Neither commit nor cancel has been read.
def Uncommitted (codec : Codec) (log : List (Effect S)) : Prop :=
  ∀ text, .received (some (.text text)) ∈ log → codec.isCommit text = false ∧ codec.isCancel text = false

-- The first message was a start that announced voice.main.
def Announced (codec : Codec) (log : List (Effect S)) : Prop :=
  ∃ text rest, log = .received (some (.text text)) :: rest ∧ announces codec text = true

theorem frames_append : frames (earlier ++ later) = frames earlier ++ frames later := List.filterMap_append
theorem finishes_append : finishes (earlier ++ later) = finishes earlier + finishes later := List.countP_append
theorem submissions_append : submissions (earlier ++ later) = submissions earlier + submissions later :=
  List.countP_append

theorem Announced.append (announced : Announced codec log) : Announced codec (log ++ later) := by
  obtain ⟨text,rest,rfl,surface⟩ := announced
  exact ⟨text,rest ++ later,rfl,surface⟩

theorem uncommitted_append : Uncommitted codec (earlier ++ later) ↔ Uncommitted codec earlier ∧ Uncommitted codec later := by
  simp only [Uncommitted,List.mem_append]
  exact ⟨fun all => ⟨fun text heard => all text (.inl heard),fun text heard => all text (.inr heard)⟩,
    fun ⟨left,right⟩ text heard => heard.elim (left text) (right text)⟩

theorem disconnected_append : Disconnected (earlier ++ later) ↔ Disconnected earlier ∨ Disconnected later := by
  simp only [Disconnected,List.mem_append]
  exact or_or_or_comm

end effects

inductive Phase where
  | fresh
  | refused
  | opened (announced : Bool)
  | live (announced : Bool)
  | cancelled
  | committed (announced : Bool)
  | finishing (announced : Bool)
  | routed
  | answered
  | closed
  | crashed

def Message.breaks : Message → Bool
  | .close | .failed => true
  | _ => false

-- The phases that an error frame may end.
def Phase.exits : Phase → Bool
  | .refused | .opened _ | .live _ | .cancelled | .finishing _ | .routed => true
  | _ => false

-- The phases that a result may end.
def Phase.results : Phase → Bool
  | .finishing _ | .routed => true
  | _ => false

inductive Says {S : Type} (codec : Codec) : Phase → Effect S → Phase → Prop where
  | start {text dto} : codec.start text = .ok dto →
      Says codec .fresh (.received (some (.text text))) (.opened (announces codec text))
  | misstart {message} : Says codec .fresh (.received message) .refused
  | exit {phase event} : phase.exits = true → event.frame = .error → Says codec phase (.sent event) .answered
  | ready {announced event} : event.frame = .ready → Says codec (.opened announced) (.sent event) (.live announced)
  | heard {announced message} : (∀ read, message = some read → read.breaks = false) →
      (∀ text, message = some (.text text) → codec.isCommit text = false ∧ codec.isCancel text = false) →
      Says codec (.live announced) (.received message) (.live announced)
  | disconnected {announced message} : message.breaks = true → Says codec (.live announced) (.received (some message)) .closed
  | ponged {announced payload} : Says codec (.live announced) (.ponged payload) (.live announced)
  | pushed {announced audio} : Says codec (.live announced) (.pushed audio) (.live announced)
  | transcript {announced event} : event.frame = .transcript →
      Says codec (.live announced) (.sent event) (.live announced)
  | cancel {announced text} : codec.isCancel text = true →
      Says codec (.live announced) (.received (some (.text text))) .cancelled
  | commit {announced text} : codec.isCommit text = true →
      Says codec (.live announced) (.received (some (.text text))) (.committed announced)
  | finish {announced} : Says codec (.committed announced) .finished (.finishing announced)
  | lateTranscript {announced event} : event.frame = .transcript →
      Says codec (.finishing announced) (.sent event) (.finishing announced)
  | submit {command} : Says codec (.finishing true) (.submitted command) .routed
  | result {phase event} : phase.results = true → event.frame = .result ∨ event.frame = .deviceResult →
      Says codec phase (.sent event) .answered
  | crash {announced} : Says codec (.finishing announced) .panicked .crashed

section automaton
variable {S : Type} {codec : Codec} {phase phase' : Phase} {effect : Effect S} {log : List (Effect S)}

def Phase.speaks (phase : Phase) (said : List Frame) : Prop :=
  match phase with
  | .fresh | .refused | .opened _ => said = []
  | .answered => said = [.error] ∨ ∃ n last, Frame.terminal last = true ∧
      said = .ready :: List.replicate n .transcript ++ [last]
  | _ => ∃ n, said = .ready :: List.replicate n .transcript

-- Each step of the automaton keeps what its phase says about the frames.
theorem speaks_step {said : List Frame} (taken : Says codec phase effect phase') (spoken : phase.speaks said) :
    phase'.speaks (said ++ effect.frame?.toList) := by
  have one {n : Nat} : (.ready :: List.replicate n .transcript ++ [.transcript] : List Frame) =
      .ready :: List.replicate (n + 1) .transcript := by
    rw [List.cons_append,← List.replicate_succ']
  cases taken with
  | start | misstart | heard | disconnected | ponged | pushed | cancel | commit | finish | submit | crash =>
    simp only [Effect.frame?,Option.toList_none,List.append_nil]
    exact spoken
  | ready is =>
    cases spoken
    exact ⟨0,by simp [Effect.frame?,is]⟩
  | transcript is | lateTranscript is =>
    obtain ⟨n,rfl⟩ := spoken
    exact ⟨n + 1,by simp only [Effect.frame?,is,Option.toList_some,one]⟩
  | @exit phase event leaves is =>
    cases phase with
    | refused | opened =>
      cases spoken
      exact .inl (by simp [Effect.frame?,is])
    | live | cancelled | finishing | routed =>
      obtain ⟨n,rfl⟩ := spoken
      exact .inr ⟨n,.error,rfl,by simp [Effect.frame?,is]⟩
    | fresh | committed | answered | closed | crashed => cases leaves
  | @result phase event answers is =>
    have last : event.frame.terminal = true := by
      rcases is with is | is
      · rw [is]; rfl
      · rw [is]; rfl
    cases phase with
    | finishing | routed =>
      obtain ⟨n,rfl⟩ := spoken
      exact .inr ⟨n,_,last,rfl⟩
    | fresh | refused | opened | live | cancelled | committed | answered | closed | crashed => cases answers

theorem frames_snoc : frames (log ++ [effect]) = frames log ++ effect.frame?.toList := by
  rw [frames_append]
  cases found : effect.frame? with
  | none => simp [frames,found]
  | some frame => simp [frames,found]

theorem run_speaks (path : Runs (Says codec) .fresh log phase) : phase.speaks (frames log) := by
  induction path with
  | nil => rfl
  | snoc _ taken ih =>
    rw [frames_snoc]
    exact speaks_step taken ih

-- How often the recogniser was finished and a command submitted, at most.
def Phase.finishes : Phase → Nat
  | .fresh | .refused | .opened _ | .live _ | .cancelled | .committed _ => 0
  | _ => 1

def Phase.submissions : Phase → Nat
  | .routed | .answered => 1
  | _ => 0

def Effect.finishes (effect : Effect S) : Nat := if effect.isFinish then 1 else 0
def Effect.submissions (effect : Effect S) : Nat := if effect.isSubmission then 1 else 0

theorem calls_step (taken : Says codec phase effect phase') :
    phase.finishes + effect.finishes ≤ phase'.finishes ∧ phase.submissions + effect.submissions ≤ phase'.submissions := by
  cases taken with
  | exit leaves _ | result leaves _ =>
    constructor
    · cases phase <;> exact Nat.le_of_ble_eq_true rfl
    · cases phase <;> exact Nat.le_of_ble_eq_true rfl
  | start | misstart | ready | heard | disconnected | ponged | pushed | transcript | cancel | commit | finish
    | lateTranscript | submit | crash => exact ⟨Nat.le_of_ble_eq_true rfl,Nat.le_of_ble_eq_true rfl⟩

theorem run_calls (path : Runs (Says codec) .fresh log phase) :
    finishes log ≤ phase.finishes ∧ submissions log ≤ phase.submissions := by
  induction path with
  | nil => exact ⟨Nat.le_refl 0,Nat.le_refl 0⟩
  | @snoc earlier _ effect _ _ taken ih =>
    obtain ⟨finish,submit⟩ := calls_step taken
    have one : finishes [effect] = effect.finishes ∧ submissions [effect] = effect.submissions :=
      ⟨List.countP_singleton,List.countP_singleton⟩
    rw [finishes_append,submissions_append,one.1,one.2]
    omega

-- The phases in which neither commit nor cancel was read.
def Phase.listens : Phase → Bool
  | .fresh | .opened _ | .live _ => true
  | _ => false

theorem uncommitted_step (taken : Says codec phase effect phase') (kept : phase.listens = true → Uncommitted codec log)
    (listens : phase'.listens = true) : Uncommitted codec (log ++ [effect]) := by
  have other {effect : Effect S} (silent : ∀ message, effect ≠ .received message) : Uncommitted codec [effect] := by
    intro text heard
    exact absurd (List.mem_singleton.mp heard).symm (silent _)
  rw [uncommitted_append]
  cases taken with
  | @start text dto read =>
    refine ⟨kept rfl,fun other heard => ?_⟩
    cases List.mem_singleton.mp heard
    exact codec.apart text dto read
  | heard _ plain =>
    refine ⟨kept rfl,fun other heard => ?_⟩
    cases List.mem_singleton.mp heard
    exact plain other rfl
  | ready | ponged | pushed | transcript => exact ⟨kept rfl,other nofun⟩
  | misstart | exit | disconnected | cancel | commit | finish | lateTranscript | submit | result | crash => cases listens

theorem run_uncommitted (path : Runs (Says codec) .fresh log phase) (listens : phase.listens = true) :
    Uncommitted codec log := by
  induction path with
  | nil => exact nofun
  | snoc _ taken ih => exact uncommitted_step taken ih listens

def Phase.announced : Phase → Bool
  | .opened announced | .live announced | .committed announced | .finishing announced => announced
  | _ => false

-- Nothing leads back to the first phase.
theorem fresh_empty (path : Runs (Says codec) .fresh log .fresh) : log = [] := by
  cases path with
  | nil => rfl
  | snoc _ taken => cases taken

theorem run_announced (path : Runs (Says codec) .fresh log phase) (announced : phase.announced = true) :
    Announced codec log := by
  induction path with
  | nil => cases announced
  | snoc path taken ih =>
    cases taken with
    | @start text =>
      rw [fresh_empty path]
      exact ⟨text,[],rfl,announced⟩
    | ready | heard | ponged | pushed | transcript | commit | finish | lateTranscript => exact (ih announced).append
    | misstart | exit | disconnected | cancel | submit | result | crash => cases announced

-- The phases that a client reaches only while it is connected.
def Phase.connected : Phase → Bool
  | .opened _ | .live _ | .cancelled | .committed _ | .finishing _ | .routed | .crashed => true
  | _ => false

theorem run_connected (path : Runs (Says codec) .fresh log phase) (connected : phase.connected = true) :
    ¬ Disconnected log := by
  have other {effect : Effect S} (kept : effect ≠ .received (some .close) ∧ effect ≠ .received (some .failed)) :
      ¬ Disconnected [effect] := by
    rintro (heard | heard)
    · exact kept.1 (List.mem_singleton.mp heard).symm
    · exact kept.2 (List.mem_singleton.mp heard).symm
  induction path with
  | nil => cases connected
  | snoc path taken ih =>
    rw [disconnected_append,not_or]
    cases taken with
    | start =>
      rw [fresh_empty path]
      exact ⟨by simp [Disconnected],other ⟨nofun,nofun⟩⟩
    | heard whole _ =>
      refine ⟨ih rfl,other ⟨?_,?_⟩⟩
      · rintro same
        cases same
        cases whole _ rfl
      · rintro same
        cases same
        cases whole _ rfl
    | ready | ponged | pushed | transcript | cancel | commit | finish | lateTranscript | submit | crash =>
      exact ⟨ih rfl,other ⟨nofun,nofun⟩⟩
    | misstart | exit | disconnected | result => cases connected

theorem run_closed (path : Runs (Says codec) .fresh log .closed) : Disconnected log := by
  cases path with
  | snoc _ taken =>
    cases taken with
    | @disconnected announced message breaks =>
      rw [disconnected_append]
      cases message with
      | close => exact .inr (.inl (List.mem_singleton_self _))
      | failed => exact .inr (.inr (List.mem_singleton_self _))
      | text | binary | ping | pong => cases breaks

-- Whatever followed a frame that ends the session would need another phase.
theorem answered_last (path : Runs (Says codec) .answered log phase) : log = [] := by
  suffices same : log = [] ∧ phase = .answered from same.1
  induction path with
  | nil => exact ⟨rfl,rfl⟩
  | snoc _ taken ih =>
    rw [ih.2] at taken
    cases taken with
    | exit leaves _ | result leaves _ => cases leaves

end automaton
section language
variable {said : List Frame} {n : Nat}

theorem transcripts_star : List.replicate n Frame.transcript ∈ (star (char Frame.transcript)).matches' := by
  refine ⟨List.replicate n [.transcript],?_,fun word listed => List.eq_of_mem_replicate listed⟩
  induction n with
  | zero => rfl
  | succ n ih => rw [List.replicate_succ,List.replicate_succ,List.flatten_cons,← ih,List.singleton_append]

theorem talk_language {last : List Frame} (ending : last = [] ∨ ∃ frame : Frame, frame.terminal = true ∧ last = [frame]) :
    .ready :: List.replicate n .transcript ++ last ∈ language.matches' := by
  refine .inr (Language.append_mem_mul (Language.append_mem_mul (a:=[Frame.ready]) rfl transcripts_star) ?_)
  rcases ending with rfl | ⟨frame,terminal,rfl⟩
  · exact .inl (.inl (.inl rfl))
  · cases frame with
    | result => exact .inl (.inl (.inr rfl))
    | deviceResult => exact .inl (.inr rfl)
    | error => exact .inr rfl
    | ready | transcript => cases terminal

theorem talking_language : .ready :: List.replicate n .transcript ∈ language.matches' := by
  simpa only [List.append_nil] using talk_language (n:=n) (.inl rfl)

theorem answered_language (spoken : Phase.answered.speaks said) : said ∈ language.matches' ∧
    said.getLast?.any Frame.terminal = true := by
  rcases spoken with rfl | ⟨n,last,terminal,rfl⟩
  · exact ⟨.inl rfl,rfl⟩
  · refine ⟨talk_language (.inr ⟨last,terminal,rfl⟩),?_⟩
    rw [List.getLast?_concat]
    exact terminal

-- Every phase is on the way to a sentence.
theorem speaks_language {phase : Phase} (spoken : phase.speaks said) : ∃ rest, said ++ rest ∈ language.matches' := by
  cases phase with
  | fresh | refused | opened =>
    cases spoken
    exact ⟨[.error],.inl rfl⟩
  | answered => exact ⟨[],by simpa only [List.append_nil] using (answered_language spoken).1⟩
  | live | cancelled | committed | finishing | routed | closed | crashed =>
    obtain ⟨n,rfl⟩ := spoken
    exact ⟨[],by simpa only [List.append_nil] using talking_language⟩

end language
end Voice
