import RockServer.AccountRuns

namespace AccountStore
open DeviceControl (Uuid Instant minutes)
open ReadCommitted (Outline overlay)

-- Pending, approved, consumed.
def PairingRequest.phase (row : PairingRequest) : Nat :=
  if row.consumedAt.isSome then 2 else if row.approvedAt.isSome then 1 else 0

structure PairingRequest.Ordered (row : PairingRequest) : Prop where
  approver : row.approvedAt.isSome = row.approvedByUserId.isSome
  order : row.consumedAt.isSome = true → row.approvedAt.isSome = true

structure PairingRequest.Onward (row later : PairingRequest) : Prop where
  ordered : later.Ordered
  phase : row.phase ≤ later.phase
  approver : ∀ user, row.approvedByUserId = some user → later.approvedByUserId = some user

def PairingRequest.Grown (row later : PairingRequest) : Prop := row.Ordered → row.Onward later

-- One change of a request takes it one phase on at most.
inductive Advance (row : PairingRequest) : PairingRequest → Prop where
  | approve {user now} : row.approvedAt = none → row.consumedAt = none → row.revokedAt = none → now < row.expiresAt →
      Advance row {row with approvedByUserId := some user,approvedAt := some now}
  | consume {user now} : row.Payable now user → Advance row {row with consumedAt := some now}
  | revoke {now} : row.revokedAt = none → Advance row {row with revokedAt := some now}

variable {db : AccountDb} {now : Instant} {locks : Locks} {operation : Operation} {stage next : Stage}
variable {written : List AccountWrite} {row later : PairingRequest}
variable {s s' origin : AccountServer} {move : AccountMove} {moves : List AccountMove} {t u : Nat} {p q : AccountProcess}

theorem PairingRequest.Onward.refl (ordered : row.Ordered) : row.Onward row := ⟨ordered,Nat.le_refl _,fun _ => id⟩

theorem PairingRequest.Onward.trans {last : PairingRequest} (first : row.Onward later) (second : later.Onward last) :
    row.Onward last :=
  ⟨second.ordered,Nat.le_trans first.phase second.phase,fun user same => second.approver user (first.approver user same)⟩

theorem new_ordered (new : NewPairingRequest) (now : Instant) : (new.row now).Ordered := ⟨rfl,fun used => by cases used⟩

theorem advance_onward (advance : Advance row later) (ordered : row.Ordered) : row.Onward later := by
  cases advance with
  | approve unapproved unused =>
    have none := ordered.approver
    rw [unapproved] at none
    refine ⟨⟨rfl,fun _ => rfl⟩,?_,fun user same => ?_⟩
    · simp [PairingRequest.phase,unapproved,unused]
    · rw [same] at none
      cases none
  | consume payable =>
    refine ⟨⟨ordered.approver,fun _ => payable.2.1⟩,?_,fun _ => id⟩
    simp [PairingRequest.phase,payable.2.2.1,payable.2.1]
  | revoke => exact ⟨⟨ordered.approver,ordered.order⟩,Nat.le_refl _,fun _ => id⟩

theorem advance_phase (advance : Advance row later) : later.phase ≤ row.phase + 1 := by
  cases advance with
  | approve unapproved unused => simp [PairingRequest.phase,unapproved,unused]
  | consume payable => simp [PairingRequest.phase,payable.2.2.1,payable.2.1]
  | revoke => exact Nat.le_succ _

theorem pairing_change {id : Uuid} (change : Change db now locks stage operation (.pairing id) later) :
    Course (fun row : PairingRequest => row.phase = 0 ∧ row.Ordered) Advance (db.get (.pairing id)) (some later) := by
  cases change with
  | swept here _ unrevoked =>
    rw [here]
    exact .revoke unrevoked
  | pairingCreated fresh =>
    rw [fresh]
    exact ⟨rfl,new_ordered _ now⟩
  | pairingApproved here approvable =>
    rw [here]
    simp only [PairingRequest.approvable,Bool.and_eq_true,Option.isNone_iff_eq_none,decide_eq_true_iff] at approvable
    exact .approve approvable.1.1.1.2 approvable.1.1.2 approvable.1.2 approvable.2
  | pairingConsumed paying =>
    rw [paying.found]
    exact .consume paying.payable

theorem pairings_evolve (sound : AccountSound s) (path : AccountRuns s moves s') (id : Uuid) :
    Course PairingRequest.Ordered PairingRequest.Grown s.db.pairingRequests[id]? s'.db.pairingRequests[id]? := by
  refine course_evolves (k:=.pairing id) (fun _ => .refl) (fun a b c first second ordered => ?_)
    (fun a b ordered grown => (grown ordered).ordered) (fun {db now locks stage operation later} change => ?_) sound path
  · exact (first ordered).trans (second (first ordered).ordered)
  · have course := pairing_change change
    cases before : db.get (.pairing id) with
    | none =>
      rw [before] at course
      exact course.2
    | some row =>
      rw [before] at course
      exact fun ordered => advance_onward course ordered

-- The commit of a completed pairing.
theorem completed_commit {request : Uuid} {token : SecretHash} {session : NewPairingSession} (committing : Committing s t p next)
    (completes : p.place.operation = .completePairing request token session) : ∃ user row,
    next = .answered (.completed user) ∧ Paying s.db p.now p.locks request user row ∧
    s.db.devices[session.deviceId]? = none ∧ s.db.activeDevices user < maxAccountDevices ∧
    s.db.sessions[session.sessionId]? = none ∧
    p.writes = [⟨.device session.deviceId,⟨user,none⟩⟩,⟨.session session.sessionId,⟨user,session.deviceId,none⟩⟩,
      ⟨.pairing request,{row with consumedAt := some p.now}⟩] := by
  obtain ⟨_,stands,commits⟩ := committing
  unfold Holds at stands
  generalize p.place.operation = operation at *
  generalize p.place.stage = stage at *
  generalize p.writes = written at stands ⊢
  subst completes
  cases commits with
  | ended =>
    cases stands with
    | idle place | removing place => exact False.elim place
    | completed paying device room session => exact ⟨_,_,rfl,paying,device,room,session,rfl⟩

-- What the step that completes a pairing does: one device and one session for
-- the approving account, and the request is used up. Its clock is that of its
-- transaction.
structure Completion (s s' : AccountServer) (t : Nat) (request user : Uuid) (session : NewPairingSession) : Prop where
  payable : ∃ p row, s.processes[t]? = some p ∧ s.db.pairingRequests[request]? = some row ∧ row.Payable p.now user ∧
    s'.db.pairingRequests[request]? = some {row with consumedAt := some p.now}
  active : s.db.userActive user = true ∧ s'.db.userActive user = true
  room : s.db.activeDevices user < maxAccountDevices
  device : s.db.devices[session.deviceId]? = none ∧ s'.db.devices = s.db.devices.insert session.deviceId ⟨user,none⟩
  session : s.db.sessions[session.sessionId]? = none ∧
    s'.db.sessions = s.db.sessions.insert session.sessionId ⟨user,session.deviceId,none⟩

theorem completion {request : Uuid} {token : SecretHash} {session : NewPairingSession} (committing : Committing s t p next)
    (completes : p.place.operation = .completePairing request token session) :
    ∃ user, next = .answered (.completed user) ∧ Completion s (committed s t p next) t request user session := by
  obtain ⟨user,row,answer,paying,device,room,fresh,same⟩ := completed_commit committing completes
  have active : s.db.users[user]? = some ⟨.active⟩ := paying.active
  have db : (committed s t p next).db = overlay s.db [⟨.device session.deviceId,⟨user,none⟩⟩,
      ⟨.session session.sessionId,⟨user,session.deviceId,none⟩⟩,⟨.pairing request,{row with consumedAt := some p.now}⟩] :=
    (committed_db s t p next).trans (congrArg _ same)
  refine ⟨user,answer,⟨p,row,committing.found,paying.found,paying.payable,?_⟩,⟨?_,?_⟩,room,⟨device,?_⟩,⟨fresh,?_⟩⟩
  · rw [db]
    exact Table.get_insert.trans (if_pos rfl)
  · rw [AccountDb.userActive,active]
    rfl
  · have kept : (committed s t p next).db.users[user]? = s.db.users[user]? := by rw [db]; rfl
    rw [AccountDb.userActive,kept,active]
    rfl
  · rw [db]
    rfl
  · rw [db]
    rfl

theorem completion_limit {request user : Uuid} {session : NewPairingSession} (done : Completion s s' t request user session)
    (limit : ∀ u, s.db.activeDevices u ≤ maxAccountDevices) (u : Uuid) : s'.db.activeDevices u ≤ maxAccountDevices := by
  have room := done.room
  unfold AccountDb.activeDevices at *
  rw [done.device.2]
  by_cases same : u = user
  · subst same
    exact Nat.le_trans Table.count_insert_le room
  · refine Nat.le_trans (Table.count_insert_of_not ?_) (limit u)
    simp [Ne.symm same]

-- Only a completion adds to the devices in use.
theorem limit_commit (committing : Committing s t p next) (limit : ∀ u, s.db.activeDevices u ≤ maxAccountDevices) (u : Uuid) :
    (committed s t p next).db.activeDevices u ≤ maxAccountDevices := by
  by_cases completes : ∃ request token session, p.place.operation = .completePairing request token session
  · obtain ⟨request,token,session,completes⟩ := completes
    obtain ⟨_,_,done⟩ := completion committing completes
    exact completion_limit done limit u
  · refine Nat.le_trans (Table.count_le fun id row here active => ?_) (limit u)
    rcases changed committing.holds committing.commits (.device id) with same | ⟨row',change,there⟩
    · exact ⟨row,same.symm.trans here,active⟩
    · cases there.symm.trans here
      simp only [Bool.and_eq_true,Option.isNone_iff_eq_none] at active
      generalize p.place.operation = operation at change completes
      cases change with
      | deviceCreated => exact absurd ⟨_,_,_,rfl⟩ completes
      | swept => cases active.2

theorem limit_run (vacant : origin.processes = ∅) (limit : ∀ u, origin.db.activeDevices u ≤ maxAccountDevices)
    (path : AccountRuns origin moves s) : ∀ u, s.db.activeDevices u ≤ maxAccountDevices := by
  refine (path.invariant (fun s => AccountSound s ∧ ∀ u, s.db.activeDevices u ≤ maxAccountDevices)
    ⟨.initial vacant trivial,limit⟩ fun s move s' both taken => ⟨Outline.sound_step outline both.1 taken,?_⟩).2
  cases account_turn both.1 taken with
  | commit committing => exact limit_commit committing both.2
  | tick | enter | fail | proceed => exact both.2

-- A step that creates a device or a native session.
def Issues (s s' : AccountServer) : Prop :=
  (∃ id : Uuid, s.db.devices[id]? = none ∧ (s'.db.devices[id]?).isSome = true) ∨
  ∃ id : Uuid, s.db.sessions[id]? = none ∧ (s'.db.sessions[id]?).isSome = true

theorem issues_completion (sound : AccountSound s) (taken : AccountStep s move s') (issues : Issues s s') :
    ∃ t choice request token session p user, move = .act t choice ∧ s.processes[t]? = some p ∧
      p.place.operation = .completePairing request token session ∧ Completion s s' t request user session := by
  have unchanged (same : s'.db = s.db) : False := by
    rcases issues with ⟨id,absent,present⟩ | ⟨id,absent,present⟩ <;>
      · rw [same,absent] at present
        cases present
  cases account_turn sound taken with
  | @commit t choice p next committing =>
    have completes : ∃ request token session, p.place.operation = .completePairing request token session := by
      rcases issues with ⟨id,absent,present⟩ | ⟨id,absent,present⟩
      · rcases changed committing.holds committing.commits (.device id) with same | ⟨row,change,_⟩
        · cases (same.trans absent).symm.trans (Option.eq_some_of_isSome present)
        · generalize p.place.operation = operation at change ⊢
          cases change with
          | deviceCreated => exact ⟨_,_,_,rfl⟩
          | swept here => cases here.symm.trans absent
      · rcases changed committing.holds committing.commits (.session id) with same | ⟨row,change,_⟩
        · cases (same.trans absent).symm.trans (Option.eq_some_of_isSome present)
        · generalize p.place.operation = operation at change ⊢
          cases change with
          | sessionCreated => exact ⟨_,_,_,rfl⟩
          | swept here => cases here.symm.trans absent
    obtain ⟨request,token,session,completes⟩ := completes
    obtain ⟨user,_,done⟩ := completion committing completes
    exact ⟨t,choice,request,token,session,p,user,rfl,committing.found,completes,done⟩
  | tick | enter | fail | proceed => exact False.elim (unchanged rfl)

theorem step_phases (sound : AccountSound s) (taken : AccountStep s move s') (id : Uuid) :
    s'.db.pairingRequests[id]? = s.db.pairingRequests[id]? ∨
    Course (fun row : PairingRequest => row.phase = 0 ∧ row.Ordered) Advance s.db.pairingRequests[id]? s'.db.pairingRequests[id]? := by
  cases account_turn sound taken with
  | @commit t choice p next committing =>
    rcases changed committing.holds committing.commits (.pairing id) with same | ⟨row,change,there⟩
    · exact .inl same
    · have here : (committed s t p next).db.pairingRequests[id]? = some row := there
      rw [here]
      exact .inr (pairing_change change)
  | tick | enter | fail | proceed => exact .inl rfl

structure PairingLaw (s : AccountServer) : Prop where
  -- Requests come pending, and a step takes a request one phase on at most.
  phases : ∀ {move : AccountMove} {s' : AccountServer}, AccountStep s move s' → ∀ (id : Uuid) later,
    s'.db.pairingRequests[id]? = some later → (s.db.pairingRequests[id]? = none ∧ later.phase = 0) ∨
      ∃ row, s.db.pairingRequests[id]? = some row ∧ row.phase ≤ later.phase ∧ later.phase ≤ row.phase + 1
  approver : ∀ {moves : List AccountMove} {s' : AccountServer}, AccountRuns s moves s' → ∀ (id : Uuid) row,
    s.db.pairingRequests[id]? = some row → ∃ later, s'.db.pairingRequests[id]? = some later ∧ row.phase ≤ later.phase ∧
      ∀ user, row.approvedByUserId = some user → later.approvedByUserId = some user
  issued : ∀ {move : AccountMove} {s' : AccountServer}, AccountStep s move s' → Issues s s' →
    ∃ t choice request token session p user, move = .act t choice ∧ s.processes[t]? = some p ∧
      p.place.operation = .completePairing request token session ∧ Completion s s' t request user session
  once : ∀ {move : AccountMove} {t t' : Nat} {request user user' : Uuid} {session session' : NewPairingSession}
    {s1 s2 s3 : AccountServer} {more : List AccountMove}, AccountStep s move s1 → Completion s s1 t request user session →
    AccountRuns s1 more s2 → ¬ Completion s2 s3 t' request user' session'
  limit : ∀ user, s.db.activeDevices user ≤ maxAccountDevices
  -- A completion that ends otherwise than by completing has left no trace.
  refused : ∀ {t : Nat} {choice : Uuid} {s1 s2 : AccountServer} {more : List AccountMove} {p q : AccountProcess}
    {request : Uuid} {token : SecretHash} {session : NewPairingSession} {answer : AccountAnswer},
    AccountStep s (.act t choice) s1 → AccountRuns s1 more s2 → s.processes[t]? = some p →
    p.place.operation = .completePairing request token session → s2.processes[t]? = some q →
    q.place.stage = .answered answer → (∀ user, answer ≠ .completed user) → s1.db = s.db

-- The schema's checks on pairing requests.
def OrderedRequests (db : AccountDb) : Prop := ∀ (id : Uuid) row, db.pairingRequests[id]? = some row → row.Ordered

theorem ordered_run (vacant : origin.processes = ∅) (ordered : OrderedRequests origin.db) (path : AccountRuns origin moves s) :
    OrderedRequests s.db := by
  intro id row here
  have course := pairings_evolve (.initial vacant trivial) path id
  rw [here] at course
  cases before : origin.db.pairingRequests[id]? with
  | none =>
    rw [before] at course
    exact course
  | some old =>
    rw [before] at course
    exact (course (ordered id old before)).ordered

theorem consumed_phase (used : row.consumedAt.isSome = true) : row.phase = 2 := by
  rw [PairingRequest.phase,if_pos used]

theorem pairing_law (vacant : origin.processes = ∅) (ordered : OrderedRequests origin.db)
    (limit : ∀ user, origin.db.activeDevices user ≤ maxAccountDevices) (path : AccountRuns origin moves s) : PairingLaw s := by
  have sound := account_sound vacant path
  have sorted := ordered_run vacant ordered path
  constructor
  · intro move s' taken id later there
    rcases step_phases sound taken id with same | course
    · exact .inr ⟨later,same.symm.trans there,Nat.le_refl _,Nat.le_succ _⟩
    · rw [there] at course
      cases before : s.db.pairingRequests[id]? with
      | none =>
        rw [before] at course
        exact .inl ⟨rfl,course.1⟩
      | some row =>
        rw [before] at course
        exact .inr ⟨row,rfl,(advance_onward course (sorted id row before)).phase,advance_phase course⟩
  · intro moves s' path id row here
    obtain ⟨later,there,grown⟩ := course_grown (here ▸ pairings_evolve sound path id)
    have onward := grown (sorted id row here)
    exact ⟨later,there,onward.phase,onward.approver⟩
  · exact fun taken => issues_completion sound taken
  · intro move t t' request user user' session session' s1 s2 s3 more taken first between second
    obtain ⟨p,row,_,_,_,used⟩ := first.payable
    obtain ⟨q,row',_,there,payable,_⟩ := second.payable
    have next := Outline.sound_step outline sound taken
    obtain ⟨later,here,grown⟩ := course_grown (used ▸ pairings_evolve next between request)
    cases here.symm.trans there
    have onward := grown (ordered_run vacant ordered (path.snoc taken) request _ used)
    have spent : ({row with consumedAt := some p.now} : PairingRequest).phase = 2 := consumed_phase rfl
    have bound := onward.phase
    rw [spent,PairingRequest.phase,payable.2.2.1] at bound
    simp only [Option.isSome_none,Bool.false_eq_true,if_false] at bound
    split at bound
    · omega
    · omega
  · exact limit_run vacant limit path
  · intro t choice s1 s2 more p q request token session answer taken later found completes there answered refused
    by_contra changed
    cases account_turn sound taken with
    | proceed => exact changed rfl
    | @commit _ _ p' next committing =>
      cases found.symm.trans committing.found
      obtain ⟨user,rfl,_⟩ := completion committing completes
      obtain ⟨r,last,stayed⟩ := answered_run (Outline.sound_step outline sound taken) put_self rfl later
      cases there.symm.trans last
      rw [stayed] at answered
      exact refused user (Stage.answered.inj answered).symm

def signedIn : AccountServer := ⟨⟨(∅ : Table Uuid User).insert 1 ⟨.active⟩,∅,∅,∅,∅,
  (∅ : Table Uuid BrowserSession).insert 10 ((⟨10,1,100,200⟩ : NewBrowserSession).row 0),∅,∅,∅⟩,0,∅⟩

-- A desktop is paired, and a second completion of its request is refused.
def pairTwice : List AccountMove :=
  .start 0 ⟨.createPairing ⟨50,60,61,"amber river",10⟩,.entered⟩ :: List.replicate 3 (.act 0 0) ++
  .start 1 ⟨.approvePairing 50 61 "amber river" (.cookie 100 200),.entered⟩ :: List.replicate 5 (.act 1 10) ++
  [.start 2 ⟨.completePairing 50 60 ⟨70,71⟩,.entered⟩,.start 3 ⟨.completePairing 50 60 ⟨80,81⟩,.entered⟩,.act 3 0] ++
  List.replicate 7 (.act 2 0) ++ List.replicate 2 (.act 3 0)

theorem pairing_law_raced : ∃ s : AccountServer, s.db.devices.toList.map Prod.fst = [70] ∧
    s.db.sessions.toList.map Prod.fst = [71] ∧ PairingLaw s := by
  obtain ⟨s,path,seen⟩ := Transition.run_reaches (ReadCommitted.Server.execute accountProgram) signedIn pairTwice
    (fun s => s.db.devices.toList.map Prod.fst = [70] && s.db.sessions.toList.map Prod.fst = [71]) (by decide)
  simp only [Bool.and_eq_true,decide_eq_true_iff] at seen
  refine ⟨s,seen.1,seen.2,pairing_law rfl (fun id row found => ?_) (fun user => ?_) path⟩
  · exact absurd (found.symm.trans Std.ExtTreeMap.getElem?_empty) (Option.some_ne_none row)
  · exact Nat.zero_le _

end AccountStore
