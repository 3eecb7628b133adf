import RockServer.VoiceConversation
import RockServer.VoiceTally

namespace Voice
open DeviceControl (Uuid)
open Transition (Runs Executes)

def finalText (update : TranscriptUpdate) : Option String :=
  if update.isFinal then (some (Search.trim update.transcript)).filter (· ≠ "") else none

-- The text of the last final update that has one.
def latest (updates : List TranscriptUpdate) : Option String := (updates.filterMap finalText).getLast?

-- The last final update of a batch is not blank.
def EndsSpoken (batch : List TranscriptUpdate) : Prop :=
  ∀ update, batch.reverse.find? TranscriptUpdate.isFinal = some update → Search.trim update.transcript ≠ ""

-- So it is in the last batch that any final text is in.
def Unhidden (batches : List (List TranscriptUpdate)) : Prop := ∀ before batch after, batches = before ++ batch :: after →
  latest batch ≠ none → latest after.flatten = none → EndsSpoken batch

-- What the loop keeps of the batches.
def keptOf (batches : List (List TranscriptUpdate)) : Option String :=
  batches.foldl (fun last batch => (newestFinalTranscript batch).or last) none

section batches
variable {batch earlier later : List TranscriptUpdate} {batches : List (List TranscriptUpdate)} {update : TranscriptUpdate} {text : String}

theorem latest_append : latest (earlier ++ later) = (latest later).or (latest earlier) := by
  rw [latest,List.filterMap_append,List.getLast?_append]
  rfl

theorem finalText_final (final : update.isFinal = true) :
    finalText update = if Search.trim update.transcript = "" then none else some (Search.trim update.transcript) := by
  rw [finalText,if_pos final]
  by_cases blank : Search.trim update.transcript = "" <;> simp [Option.filter,blank]

theorem newest_snoc : newestFinalTranscript (batch ++ [update]) =
    if update.isFinal then finalText update else newestFinalTranscript batch := by
  rw [newestFinalTranscript,List.reverse_append,List.reverse_singleton,List.singleton_append,List.find?_cons]
  cases final : update.isFinal with
  | true => simp [finalText,final]
  | false => simp [newestFinalTranscript]

theorem latest_snoc : latest (batch ++ [update]) = (finalText update).or (latest batch) := by
  rw [latest_append]
  cases spoken : finalText update <;> simp [latest,spoken]

-- It gives none of its texts where the last final update is blank, and only there.
theorem newest_exact : newestFinalTranscript batch = latest batch ↔ (latest batch ≠ none → EndsSpoken batch) := by
  induction batch using List.reverseRecOn with
  | nil => exact iff_of_true rfl fun some_text => absurd rfl some_text
  | append_singleton batch update ih =>
    rw [newest_snoc,latest_snoc]
    have reversed : EndsSpoken (batch ++ [update]) ↔
        if update.isFinal then Search.trim update.transcript ≠ "" else EndsSpoken batch := by
      rw [EndsSpoken,List.reverse_append,List.reverse_singleton,List.singleton_append,List.find?_cons]
      cases final : update.isFinal with
      | true => simp
      | false => simp [EndsSpoken]
    rw [reversed]
    cases final : update.isFinal with
    | false => simpa [finalText,final] using ih
    | true =>
      rw [finalText_final final]
      by_cases blank : Search.trim update.transcript = ""
      · simp [blank,eq_comm]
      · simp [blank]

theorem keptOf_snoc : keptOf (batches ++ [batch]) = (newestFinalTranscript batch).or (keptOf batches) := by
  rw [keptOf,List.foldl_append]
  rfl

theorem keptOf_latest (unhidden : Unhidden batches) : keptOf batches = latest batches.flatten := by
  induction batches using List.reverseRecOn with
  | nil => rfl
  | append_singleton batches batch ih =>
    have same := newest_exact.mpr fun some_text => unhidden batches batch [] rfl some_text rfl
    rw [keptOf_snoc,same,List.flatten_append,latest_append,List.flatten_singleton]
    cases spoken : latest batch with
    | some text => rfl
    | none =>
      rw [ih fun before other after split some_text quiet => ?_]
      refine unhidden before other (after ++ [batch]) (by rw [split]; simp) some_text ?_
      rw [List.flatten_append,latest_append,List.flatten_singleton,spoken,quiet]
      rfl

end batches

section session
variable {S : Type} {service : Service} {s s' : VoiceSession S} {event : Event S} {events : List (Event S)} {loop : StreamLoop}

def batches (events : List (Event S)) : List (List TranscriptUpdate) := events.filterMap Event.batch

def Unrecognized (s : VoiceSession S) : Prop := ∃ effect ∈ s.log, effect.reports .speechNotRecognized = true

structure Heard (events : List (Event S)) (s : VoiceSession S) : Prop where
  kept : ∀ tally, s.stage.tally = some tally → tally.2 = keptOf (batches events)
  quiet : s.stage.tally ≠ none → ¬ Unrecognized s
  handed : ∀ transcript, s.stage.transcript = some transcript → keptOf (batches events) = some transcript
  reported : Unrecognized s → keptOf (batches events) = none

theorem batches_snoc : batches (events ++ [event]) = batches events ++ event.batch.toList := by
  rw [batches,List.filterMap_append]
  cases batch : event.batch <;> simp [batch,batches]

theorem batches_same (none : event.batch = none) : batches (events ++ [event]) = batches events := by
  rw [batches_snoc,none]
  exact List.append_nil _

theorem unrecognized_append {effects : List (Effect S)} (log : s'.log = s.log ++ effects)
    (silent : ∀ effect ∈ effects, effect.reports .speechNotRecognized = false) (reported : Unrecognized s') : Unrecognized s := by
  obtain ⟨effect,member,reports⟩ := reported
  rw [log] at member
  rcases List.mem_append.mp member with earlier | now
  · exact ⟨effect,earlier,reports⟩
  · rw [silent effect now] at reports
    cases reports

-- Steps that report nothing of their own keep the transcript.
theorem heard_kept {effects : List (Effect S)} (heard : Heard events s) (log : s'.log = s.log ++ effects)
    (silent : ∀ effect ∈ effects, effect.reports .speechNotRecognized = false) (none : event.batch = none)
    (tally : ∀ tally, s'.stage.tally = some tally → tally.2 = keptOf (batches events) ∧ s.stage.tally ≠ Option.none)
    (transcript : s'.stage.transcript = s.stage.transcript ∨ s'.stage.transcript = Option.none) : Heard (events ++ [event]) s' := by
  have back := unrecognized_append log silent
  constructor
  case kept =>
    rw [batches_same none]
    exact fun counted same => (tally counted same).1
  case quiet =>
    intro some_tally reported
    obtain ⟨counted,same⟩ := Option.ne_none_iff_exists'.mp some_tally
    exact heard.quiet (tally counted same).2 (back reported)
  case handed =>
    rw [batches_same none]
    intro given same
    rcases transcript with kept | gone
    · exact heard.handed given (kept.symm.trans same)
    · cases gone.symm.trans same
  case reported =>
    rw [batches_same none]
    exact fun reported => heard.reported (back reported)

theorem frame_heard {audio : List UInt8} (heard : Heard events s) (stands : s.stage = .receiving loop) :
    Heard (events ++ [.received (some (.binary audio))]) (receive service s loop (some (.binary audio))) := by
  have tally : s.stage.tally = some (loop.audioBytes,loop.lastFinalTranscript) := by
    rw [stands]
    rfl
  have kept : loop.lastFinalTranscript = keptOf (batches events) := heard.kept _ tally
  unfold receive
  dsimp only
  split
  · exact heard_kept heard rfl (by simp [Effect.reports,VoiceSession.errorEvent]) rfl (fun _ same => by cases same) (.inr rfl)
  · split
    · exact heard_kept heard rfl (by simp [Effect.reports,VoiceSession.errorEvent]) rfl (fun _ same => by cases same) (.inr rfl)
    · refine heard_kept heard rfl (by simp [Effect.reports]) rfl (fun counted same => ?_) (.inr rfl)
      cases same
      exact ⟨kept,by rw [tally]; exact Option.some_ne_none _⟩

theorem transcripts_silent (updates : List TranscriptUpdate) :
    ∀ effect ∈ s.transcripts updates, effect.reports .speechNotRecognized = false := fun effect member =>
  (calm_reports (transcripts_calm updates effect member)).2

theorem push_heard {updates : List TranscriptUpdate} (heard : Heard events s) (stands : s.stage = .pushing loop) :
    Heard (events ++ [.speech (.ok updates)]) (push s loop (.ok updates)) := by
  have tally : s.stage.tally = some (loop.audioBytes,loop.lastFinalTranscript) := by
    rw [stands]
    rfl
  have quiet : ¬ Unrecognized (push s loop (.ok updates)) := fun reported =>
    heard.quiet (by rw [tally]; nofun) (unrecognized_append rfl (transcripts_silent updates) reported)
  refine ⟨fun counted same => ?_,fun _ => quiet,nofun,fun reported => absurd reported quiet⟩
  cases same
  have kept : loop.lastFinalTranscript = keptOf (batches events) := heard.kept _ tally
  rw [batches_snoc]
  simp [Event.batch,keptOf_snoc,kept]

-- A commit that the recogniser answers hands on what was kept, or reports that
-- there is nothing.
theorem finish_heard {updates : List TranscriptUpdate} (heard : Heard events s) (stands : s.stage = .finishing loop) :
    Heard (events ++ [.speech (.ok updates)]) (finish s loop (.ok updates)) ∧
    (Unrecognized (finish s loop (.ok updates)) ↔ (finish s loop (.ok updates)).stage.transcript = none) := by
  have tally : s.stage.tally = some (loop.audioBytes,loop.lastFinalTranscript) := by
    rw [stands]
    rfl
  have kept : loop.lastFinalTranscript = keptOf (batches events) := heard.kept _ tally
  have silent : ¬ Unrecognized s := heard.quiet (by rw [tally]; nofun)
  have last : keptOf (batches (events ++ [.speech (.ok updates)])) = (newestFinalTranscript updates).or loop.lastFinalTranscript := by
    rw [batches_snoc]
    simp [Event.batch,keptOf_snoc,kept]
  unfold finish
  dsimp only
  split
  · rename_i nothing
    have reports : Unrecognized (s.refuse (s.transcripts updates) .speechNotRecognized
        "No final speech transcript was recognized." emptyDetails) := ⟨_,by simp [VoiceSession.refuse,VoiceSession.goto]; exact .inr (.inr rfl),rfl⟩
    exact ⟨⟨nofun,fun some_tally => absurd rfl some_tally,nofun,fun _ => last.trans nothing⟩,iff_of_true reports rfl⟩
  · rename_i transcript given
    have quiet : ∀ stage, ¬ Unrecognized (s.goto (s.transcripts updates) stage) := fun stage reported =>
      silent (unrecognized_append rfl (transcripts_silent updates) reported)
    refine ⟨⟨?_,fun _ => quiet _,?_,fun reported => absurd reported (quiet _)⟩,iff_of_false (quiet _) ?_⟩
    · dsimp only [VoiceSession.goto]
      split <;> nofun
    · intro handed same
      rw [last,given]
      dsimp only [VoiceSession.goto] at same
      split at same <;> exact same
    · dsimp only [VoiceSession.goto]
      split <;> nofun

theorem heard_step (heard : Heard events s) (taken : Executes (execute service) s event s') : Heard (events ++ [event]) s' := by
  cases step_tally taken with
  | frame stands => exact frame_heard heard stands
  | heard stands => exact push_heard heard stands
  | done stands => exact (finish_heard heard stands).1
  | calm calm _ none =>
    obtain ⟨effects,log,quiet⟩ := calm.log
    refine heard_kept heard log (fun effect member => (calm_reports (quiet effect member)).2) none (fun counted same => ?_) calm.transcript
    rcases calm.tally with kept | gone
    · have before := kept.symm.trans same
      exact ⟨heard.kept counted before,by rw [before]; nofun⟩
    · cases gone.symm.trans same

theorem runs_heard {requestId : String} {principal : Option DeviceControlPrincipal}
    (path : Runs (Executes (execute service)) (connected requestId principal) events s) : Heard events s := by
  generalize start : connected requestId principal = first at path
  induction path with
  | nil =>
    subst start
    refine ⟨fun counted same => ?_,fun _ reported => ?_,nofun,fun reported => ?_⟩
    · cases same
      rfl
    · obtain ⟨_,member,_⟩ := reported
      cases member
    · obtain ⟨_,member,_⟩ := reported
      cases member
  | snoc _ taken ih => exact heard_step ih taken

-- Where no batch hides a text behind a blank final update, the last text recognised
-- is the one that is used, and a commit without one is reported.
theorem transcript_latest (service : Service) (requestId : String) (principal : Option DeviceControlPrincipal)
    (events : List (Event S)) (s : VoiceSession S) (path : Runs (Executes (execute service)) (connected requestId principal) events s)
    (unhidden : Unhidden (batches events)) :
    (∀ transcript, s.stage.transcript = some transcript → latest (batches events).flatten = some transcript) ∧
    (Unrecognized s → latest (batches events).flatten = none) ∧
    ∀ earlier before loop updates, events = earlier ++ [.speech (.ok updates)] →
      Runs (Executes (execute service)) (connected requestId principal) earlier before → before.stage = .finishing loop →
        s = finish before loop (.ok updates) →
        (∀ transcript, s.stage.transcript = some transcript ↔ latest (batches events).flatten = some transcript) ∧
        (Unrecognized s ↔ latest (batches events).flatten = none) := by
  have heard := runs_heard path
  have same := keptOf_latest unhidden
  refine ⟨fun transcript handed => same ▸ heard.handed transcript handed,fun reported => same ▸ heard.reported reported,?_⟩
  intro earlier before loop updates _ earlier_path stands reached
  have report := (@finish_heard _ _ _ _ updates (runs_heard earlier_path) stands).2
  rw [← reached] at report
  constructor
  · intro transcript
    refine ⟨fun handed => same ▸ heard.handed transcript handed,fun last => ?_⟩
    cases used : s.stage.transcript with
    | none =>
      have none := heard.reported (report.mpr used)
      rw [same,last] at none
      cases none
    | some other =>
      have handed := heard.handed other used
      rw [same,last] at handed
      exact handed.symm
  · refine ⟨fun reported => same ▸ heard.reported reported,fun none => report.mpr ?_⟩
    cases used : s.stage.transcript with
    | none => rfl
    | some other =>
      have handed := heard.handed other used
      rw [same,none] at handed
      cases handed

end session

-- A recogniser that answers the commit with these updates.
def heardEvents (updates : List TranscriptUpdate) : List (Event Uuid) :=
  [.received (some (.text startText)),.recognizer (.ok ()),.elapsed 0,.received (some (.text commitText)),.speech (.ok updates)]

theorem transcript_latest_jazz : ∃ s : VoiceSession Uuid, s.stage.transcript = some "jazz" ∧
    latest (batches (heardEvents [⟨"ja",false⟩,⟨" jazz ",true⟩])).flatten = some "jazz" := by
  obtain ⟨s,path,seen⟩ := Transition.run_reaches (execute accentedService) (connected (S:=Uuid) "r" none)
    (heardEvents [⟨"ja",false⟩,⟨" jazz ",true⟩]) (fun s => s.stage.transcript = some "jazz") (by decide)
  have handed : s.stage.transcript = some "jazz" := by simpa using seen
  have unhidden : Unhidden (batches (heardEvents [⟨"ja",false⟩,⟨" jazz ",true⟩])) := by
    intro before batch after split _ _
    have one : [[(⟨"ja",false⟩ : TranscriptUpdate),⟨" jazz ",true⟩]] = before ++ batch :: after := split
    cases before with
    | nil =>
      cases one
      intro update found
      cases found
      decide
    | cons first before => simp at one
  exact ⟨s,handed,(transcript_latest accentedService "r" none _ s path unhidden).1 "jazz" handed⟩

-- A blank final update hides the phrase before it in its batch.
theorem phrase_hidden : ¬ ∀ (service : Service) (requestId : String) (principal : Option DeviceControlPrincipal)
    (events : List (Event Uuid)) (s : VoiceSession Uuid), Runs (Executes (execute service)) (connected requestId principal) events s →
      Unrecognized s → latest (batches events).flatten = none := by
  intro all
  obtain ⟨s,path,seen⟩ := Transition.run_reaches (execute accentedService) (connected (S:=Uuid) "r" none)
    (heardEvents [⟨"jazz",true⟩,⟨"",true⟩]) (fun s => s.log.any (Effect.reports · .speechNotRecognized)) (by decide)
  have none := all accentedService "r" none _ s path (List.any_eq_true.mp seen)
  exact absurd none (by decide)

end Voice
