import Mathlib.Algebra.Order.Group.Int
import RockServer.RadioBrowser
import RockServer.SlidingWindow

-- Admission control of one process: request buckets for peers and for devices, and
-- the voice slots.
namespace AdmissionControl
open DeviceControl (Instant seconds)
open Transition (Runs Executes)

def globalVoiceSessions : Nat := 100
def rateWindow : Instant := seconds 60
def retryAfterSeconds : Nat := 60
def voiceCapacityRetryAfterSeconds : Nat := 30

-- A device identifier has 128 bits.
abbrev DeviceUuid := Fin (2 ^ 128)

structure PublicLimit where
  requests : Nat
  burst : Nat

structure PublicLimitState where
  requests : Table String (List Instant)
  deviceRequests : Table String (List Instant)
  activeVoice : Nat

structure Rejection where
  status : Nat
  code : String
  message : String
  limitScope : Option String
  retryAfter : Nat
deriving DecidableEq

def rateLimited (limitScope : String) : Rejection :=
  ⟨429,"rate_limited","Request rate limit exceeded.",some limitScope,retryAfterSeconds⟩

def voiceCapacityExhausted : Rejection :=
  ⟨503,"voice_capacity_exhausted","Voice service is temporarily at capacity.",none,voiceCapacityRetryAfterSeconds⟩

def durationSince (now seen : Instant) : Instant := max 0 (now - seen)

-- What both limiters do to a bucket.
def requestAllowed (limitScope : String) (bucket : List Instant) (limit : PublicLimit) (now : Instant) :
    List Instant × Except Rejection Unit :=
  let kept := bucket.filter fun seen => durationSince now seen < rateWindow
  if limit.burst ≤ kept.length then (kept,.error (rateLimited limitScope)) else (kept ++ [now],.ok ())

def publicRequestAllowed (state : PublicLimitState) (endpoint : String) (limit : PublicLimit) (now : Instant) :
    PublicLimitState × Except Rejection Unit :=
  let (bucket,answer) := requestAllowed "direct_peer" ((state.requests[endpoint]?).getD []) limit now
  ({state with requests := state.requests.insert endpoint bucket},answer)

def deviceKey (endpoint : String) (deviceId : DeviceUuid) : String := endpoint ++ ":" ++ RadioBrowser.hyphenated deviceId.val

def deviceRequestAllowed (state : PublicLimitState) (endpoint : String) (deviceId : DeviceUuid) (limit : PublicLimit)
    (now : Instant) : PublicLimitState × Except Rejection Unit :=
  let (bucket,answer) := requestAllowed "device" ((state.deviceRequests[deviceKey endpoint deviceId]?).getD []) limit now
  ({state with deviceRequests := state.deviceRequests.insert (deviceKey endpoint deviceId) bucket},answer)

def reserveVoiceSlot (state : PublicLimitState) : Except Rejection PublicLimitState :=
  if globalVoiceSessions ≤ state.activeVoice then .error voiceCapacityExhausted
  else .ok {state with activeVoice := state.activeVoice + 1}

-- The destructor of a slot.
def dropVoiceSlot (state : PublicLimitState) : PublicLimitState := {state with activeVoice := state.activeVoice - 1}

inductive Bucket where
  | direct (endpoint : String)
  | device (endpoint : String) (deviceId : DeviceUuid)
deriving DecidableEq

structure Limits where
  direct : String → PublicLimit
  device : String → PublicLimit

def Limits.limit (limits : Limits) : Bucket → PublicLimit
  | .direct endpoint => limits.direct endpoint
  | .device endpoint _ => limits.device endpoint

inductive Call where
  | request (bucket : Bucket)
  | reserveVoiceSlot
  | dropVoiceSlot (slot : Nat)

structure Decision where
  bucket : Bucket
  now : Instant
  allowed : Bool
deriving DecidableEq

-- The limiter, the slots that exist, by number, and what was answered so far.
structure Process where
  limiter : PublicLimitState
  slots : List Nat
  nextSlot : Nat
  decisions : List Decision

def idle : Process := ⟨⟨∅,∅,0⟩,[],0,[]⟩

variable (limits : Limits)

def request (state : PublicLimitState) (bucket : Bucket) (now : Instant) : PublicLimitState × Except Rejection Unit :=
  match bucket with
  | .direct endpoint => publicRequestAllowed state endpoint (limits.direct endpoint) now
  | .device endpoint deviceId => deviceRequestAllowed state endpoint deviceId (limits.device endpoint) now

-- A slot is dropped once, while it exists.
def execute (p : Process) (call : Instant × Call) : Option Process := match call.2 with
  | .request bucket =>
    let (limiter,answer) := request limits p.limiter bucket call.1
    some {p with limiter := limiter,decisions := p.decisions ++ [⟨bucket,call.1,answer.toBool⟩]}
  | .reserveVoiceSlot => match reserveVoiceSlot p.limiter with
    | .ok limiter => some {p with limiter := limiter,slots := p.nextSlot :: p.slots,nextSlot := p.nextSlot + 1}
    | .error _ => some p
  | .dropVoiceSlot slot =>
    if slot ∈ p.slots then some {p with limiter := dropVoiceSlot p.limiter,slots := p.slots.erase slot} else none

def Bucket.times (bucket : Bucket) (state : PublicLimitState) : List Instant := match bucket with
  | .direct endpoint => (state.requests[endpoint]?).getD []
  | .device endpoint deviceId => (state.deviceRequests[deviceKey endpoint deviceId]?).getD []

-- The instants at which a bucket is asked, and what it answers.
def instants (calls : List (Instant × Call)) (bucket : Bucket) : List Instant := calls.filterMap fun call => match call.2 with
  | .request asked => if asked = bucket then some call.1 else none
  | _ => none

def answers (decisions : List Decision) (bucket : Bucket) : List (Instant × Bool) :=
  (decisions.filter (·.bucket = bucket)).map fun decision => (decision.now,decision.allowed)

variable {limits : Limits} {p p' : Process} {calls calls' : List (Instant × Call)} {call : Instant × Call} {bucket asked : Bucket}
variable {now : Instant} {state : PublicLimitState}

theorem deviceKey_inj {endpoint endpoint' : String} {device device' : DeviceUuid}
    (same : deviceKey endpoint device = deviceKey endpoint' device') : endpoint = endpoint' ∧ device = device' := by
  have letters := congrArg String.toList same
  simp only [deviceKey,String.toList_append] at letters
  have length (uuid : Nat) : (RadioBrowser.hyphenated uuid).toList.length = 36 := by
    rw [String.length_toList,RadioBrowser.hyphenated_length]
  obtain ⟨front,back⟩ := List.append_inj' letters ((length _).trans (length _).symm)
  obtain ⟨front,_⟩ := List.append_inj' front rfl
  exact ⟨String.toList_inj.mp front,Fin.ext (RadioBrowser.hyphenated_inj device.isLt device'.isLt (String.toList_inj.mp back))⟩

theorem requestAllowed_admit (limitScope : String) (times : List Instant) (limit : PublicLimit) (now : Instant) :
    (requestAllowed limitScope times limit now).1 = (SlidingWindow.admission rateWindow limit.burst now times).1 ∧
      (requestAllowed limitScope times limit now).2.toBool = (SlidingWindow.admission rateWindow limit.burst now times).2 := by
  have young : times.filter (fun seen => durationSince now seen < rateWindow) = SlidingWindow.prune rateWindow now times := by
    refine List.filter_congr fun seen _ => decide_eq_decide.mpr ?_
    rw [durationSince,max_lt_iff]
    exact and_iff_right (by decide)
  unfold requestAllowed SlidingWindow.admission
  rw [young]
  dsimp only
  split <;> exact ⟨rfl,rfl⟩

-- A request asks its own bucket and leaves the others as they are.
theorem request_bucket : asked.times (request limits state asked now).1 =
      (SlidingWindow.admission rateWindow (limits.limit asked).burst now (asked.times state)).1 ∧
    (request limits state asked now).2.toBool =
      (SlidingWindow.admission rateWindow (limits.limit asked).burst now (asked.times state)).2 ∧
    (∀ bucket, bucket ≠ asked → bucket.times (request limits state asked now).1 = bucket.times state) ∧
    (request limits state asked now).1.activeVoice = state.activeVoice := by
  cases asked with
  | direct endpoint =>
    obtain ⟨kept,answer⟩ := requestAllowed_admit "direct_peer" ((state.requests[endpoint]?).getD []) (limits.direct endpoint) now
    refine ⟨?_,answer,fun bucket apart => ?_,rfl⟩
    · simp only [Bucket.times,request,publicRequestAllowed,Table.get_insert,if_true,Option.getD_some,kept,Limits.limit]
    · cases bucket with
      | direct other =>
        have different : endpoint ≠ other := fun same => apart (by rw [same])
        simp only [Bucket.times,request,publicRequestAllowed,Table.get_insert_ne different]
      | device other deviceId => rfl
  | device endpoint deviceId =>
    obtain ⟨kept,answer⟩ := requestAllowed_admit "device" ((state.deviceRequests[deviceKey endpoint deviceId]?).getD [])
      (limits.device endpoint) now
    refine ⟨?_,answer,fun bucket apart => ?_,rfl⟩
    · simp only [Bucket.times,request,deviceRequestAllowed,Table.get_insert,if_true,Option.getD_some,kept,Limits.limit]
    · cases bucket with
      | direct other => rfl
      | device other device' =>
        have different : deviceKey endpoint deviceId ≠ deviceKey other device' := by
          intro same
          obtain ⟨rfl,rfl⟩ := deviceKey_inj same
          exact apart rfl
        simp only [Bucket.times,request,deviceRequestAllowed,Table.get_insert_ne different]

-- What the calls so far lead to: every bucket serves its own calls, and the slots
-- are counted.
structure Served (limits : Limits) (calls : List (Instant × Call)) (p : Process) : Prop where
  buckets : ∀ bucket : Bucket, (bucket.times p.limiter,answers p.decisions bucket) =
    SlidingWindow.serve rateWindow (limits.limit bucket).burst (instants calls bucket)
  counted : p.limiter.activeVoice = p.slots.length
  capped : p.limiter.activeVoice ≤ globalVoiceSessions

theorem instants_snoc : instants (calls ++ [(now,.request asked)]) bucket =
    instants calls bucket ++ if asked = bucket then [now] else [] := by
  unfold instants
  rw [List.filterMap_append]
  by_cases same : asked = bucket <;> simp [same]

theorem instants_other (other : ∀ asked, call.2 ≠ .request asked) : instants (calls ++ [call]) bucket = instants calls bucket := by
  obtain ⟨now,call⟩ := call
  unfold instants
  rw [List.filterMap_append]
  cases call with
  | request asked => exact absurd rfl (other asked)
  | reserveVoiceSlot => simp
  | dropVoiceSlot slot => simp

theorem answers_snoc {decisions : List Decision} {decision : Decision} : answers (decisions ++ [decision]) bucket =
    answers decisions bucket ++ if decision.bucket = bucket then [(decision.now,decision.allowed)] else [] := by
  unfold answers
  rw [List.filter_append,List.map_append]
  by_cases same : decision.bucket = bucket <;> simp [same]

theorem served_idle : Served limits [] idle := by
  refine ⟨fun bucket => ?_,rfl,Nat.zero_le _⟩
  cases bucket <;> simp [Bucket.times,idle,answers,instants,SlidingWindow.serve]

theorem served_step (served : Served limits calls p) (taken : execute limits p call = some p') : Served limits (calls ++ [call]) p' := by
  obtain ⟨now,call⟩ := call
  cases call with
  | request asked =>
    obtain ⟨kept,answer,others,voice⟩ := @request_bucket limits asked now p.limiter
    change some {p with
      limiter := (request limits p.limiter asked now).1
      decisions := p.decisions ++ [⟨asked,now,(request limits p.limiter asked now).2.toBool⟩]} = some p' at taken
    obtain rfl := Option.some.inj taken
    refine ⟨fun bucket => ?_,voice.trans served.counted,voice.trans_le served.capped⟩
    have before := served.buckets bucket
    rw [instants_snoc,answers_snoc]
    by_cases same : asked = bucket
    · subst same
      rw [if_pos rfl,if_pos rfl,SlidingWindow.serve_snoc,← before,SlidingWindow.step]
      exact Prod.ext kept (by rw [answer])
    · rw [if_neg same,if_neg same,List.append_nil,List.append_nil,← before]
      exact Prod.ext (others bucket (Ne.symm same)) rfl
  | reserveVoiceSlot =>
    have same (bucket : Bucket) : instants (calls ++ [(now,.reserveVoiceSlot)]) bucket = instants calls bucket :=
      instants_other fun _ => by simp
    simp only [execute,reserveVoiceSlot] at taken
    split at taken
    · rename_i limiter given
      split at given
      · cases given
      · rename_i space
        cases given
        cases taken
        refine ⟨fun bucket => (served.buckets bucket).trans (by rw [same]),?_,Nat.lt_of_not_le space⟩
        rw [List.length_cons,← served.counted]
    · cases taken
      exact ⟨fun bucket => (served.buckets bucket).trans (by rw [same]),served.counted,served.capped⟩
  | dropVoiceSlot slot =>
    have same (bucket : Bucket) : instants (calls ++ [(now,.dropVoiceSlot slot)]) bucket = instants calls bucket :=
      instants_other fun _ => by simp
    simp only [execute] at taken
    split at taken
    · rename_i listed
      cases taken
      refine ⟨fun bucket => (served.buckets bucket).trans (by rw [same]),?_,(Nat.sub_le _ _).trans served.capped⟩
      rw [List.length_erase_of_mem listed,← served.counted]
      rfl
    · cases taken

theorem served_run (path : Runs (Executes (execute limits)) idle calls p) : Served limits calls p := by
  induction path with
  | nil => exact served_idle
  | snoc _ taken ih => exact served_step ih taken

theorem instants_ordered (ordered : calls.Pairwise fun a b => a.1 ≤ b.1) : (instants calls bucket).Pairwise (· ≤ ·) := by
  refine List.Pairwise.filterMap _ ?_ ordered
  intro a b order one first two second
  have instant : ∀ {call : Instant × Call} {now : Instant},
      (match call.2 with | .request asked => if asked = bucket then some call.1 else none | _ => none) = some now → call.1 = now := by
    intro call now found
    split at found
    · split at found
      · exact Option.some.inj found
      · cases found
    · cases found
  rw [← instant first,← instant second]
  exact order

theorem admitted_answers (decisions : List Decision) (p : Instant → Bool) :
    (SlidingWindow.admitted (answers decisions bucket)).countP p =
      decisions.countP fun decision => decision.bucket = bucket && decision.allowed && p decision.now := by
  induction decisions with
  | nil => rfl
  | cons decision rest ih =>
    have first : answers (decision :: rest) bucket =
        (if decision.bucket = bucket then [(decision.now,decision.allowed)] else []) ++ answers rest bucket := by
      unfold answers
      by_cases same : decision.bucket = bucket <;> simp [same]
    rw [List.countP_cons,← ih,first]
    unfold SlidingWindow.admitted
    by_cases same : decision.bucket = bucket <;> cases decision.allowed <;> simp [same,List.countP_cons]

-- Buckets admit bursts and no more, refuse only when full, and stand for
-- themselves; the voice slots are counted.
theorem admission_controlled (limits : Limits) {calls : List (Instant × Call)} {p : Process}
    (path : Runs (Executes (execute limits)) idle calls p) (ordered : calls.Pairwise fun a b => a.1 ≤ b.1) :
    (∀ bucket start finish, finish - start < rateWindow → (p.decisions.countP fun decision =>
      decision.bucket = bucket && decision.allowed && decide (start ≤ decision.now ∧ decision.now ≤ finish)) ≤
        (limits.limit bucket).burst) ∧
    (∀ earlier decision later, p.decisions = earlier ++ decision :: later → decision.allowed = false →
      (limits.limit decision.bucket).burst ≤ earlier.countP fun other =>
        other.bucket = decision.bucket && other.allowed && decide (decision.now - other.now < rateWindow)) ∧
    (∀ bucket calls' p', Runs (Executes (execute limits)) idle calls' p' → instants calls' bucket = instants calls bucket →
      answers p'.decisions bucket = answers p.decisions bucket) ∧
    p.limiter.activeVoice = p.slots.length ∧ p.limiter.activeVoice ≤ globalVoiceSessions := by
  have served := served_run path
  have answered (bucket : Bucket) := congrArg Prod.snd (served.buckets bucket)
  refine ⟨?_,?_,?_,served.counted,served.capped⟩
  · intro bucket start finish short
    have own : (instants calls bucket).Pairwise (· ≤ ·) := instants_ordered ordered
    have bounded := @SlidingWindow.stretch_bounded _ _ _ rateWindow start finish (limits.limit bucket).burst _ _ own short
    rwa [← answered bucket,admitted_answers] at bounded
  · intro earlier decision later split refused
    have parts : answers p.decisions decision.bucket =
        answers earlier decision.bucket ++ (decision.now,false) :: answers later decision.bucket := by
      rw [split]
      simp [answers,refused]
    have full := SlidingWindow.refused_full (instants_ordered ordered) ((answered decision.bucket).symm.trans parts)
    unfold SlidingWindow.prune at full
    rwa [← List.countP_eq_length_filter,admitted_answers] at full
  · intro bucket calls' p' path' same
    have answered' := congrArg Prod.snd ((served_run path').buckets bucket)
    rw [same] at answered'
    exact answered'.trans (answered bucket).symm

def voiceLimits : Limits := ⟨fun _ => ⟨12,4⟩,fun _ => ⟨6,2⟩⟩

def voiceCalls : List (Instant × Call) :=
  [(0,.request (.direct "voice_stream")),(0,.reserveVoiceSlot),(seconds 1,.request (.device "voice_stream" 7)),(seconds 2,.dropVoiceSlot 0)]

-- A session of a peer beside the request of a device.
theorem admission_controlled_voice : ∃ p, Runs (Executes (execute voiceLimits)) idle voiceCalls p ∧
    (p.decisions.countP fun decision => decision.bucket = .direct "voice_stream" && decision.allowed &&
      decide (0 ≤ decision.now ∧ decision.now ≤ seconds 1)) ≤ 4 ∧ p.limiter.activeVoice = p.slots.length := by
  obtain ⟨p,path,_⟩ := Transition.run_reaches (execute voiceLimits) idle voiceCalls (fun _ => true) (by decide)
  obtain ⟨bounded,_,_,counted,_⟩ := admission_controlled voiceLimits path (by decide)
  exact ⟨p,path,bounded (.direct "voice_stream") 0 (seconds 1) (by decide),counted⟩

end AdmissionControl
