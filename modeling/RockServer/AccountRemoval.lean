import RockServer.WorkingPasskeys

namespace AccountStore
open DeviceControl (Uuid Instant minutes)
open ReadCommitted (Rows Act Mode Outline Covered Apart Orderly Server overlay happens)

-- The tables whose rows give access to an account.
def accessSweeps : List Sweep := [.devices,.sessions,.passkeys,.browserSessions]

-- The statement on that table has taken its snapshot, and its transaction goes
-- on.
def Stage.passed (sweep : Sweep) : Stage → Bool
  | .sweeps _ rest | .sweeping _ _ _ rest => sweep ∉ rest
  | .ending _ => true
  | _ => false

def AccountPlace.deletes (user : Uuid) (sweep : Sweep) (place : AccountPlace) : Bool := match place.operation with
  | .deleteAccount target => target = user && place.stage.passed sweep
  | _ => false

-- Nobody adds a row to a table of an account that a running deletion of the
-- account has been through.
def undeleted (s : AccountServer) : AccountMove → Bool
  | .act t _ => (s.processes[t]?).all fun p => (p.place.operation.adds p.place.stage).all fun added =>
    s.processes.toList.all fun entry => !entry.2.place.deletes added.2 added.1
  | _ => true

def Stage.remains (sweep : Sweep) (id : Uuid) : Stage → Prop
  | .sweeping _ current ids _ => current = sweep ∧ id ∈ ids
  | _ => False

-- What a removal has been through it has revoked, or is about to.
def Covers (db : AccountDb) (user : Uuid) (stage : Stage) (written : List AccountWrite) : Prop :=
  ∀ sweep ∈ accessSweeps, stage.passed sweep = true → ∀ id row, db.get (sweep.key id) = some row →
    owner (sweep.key id) row = some user → revokedAt (sweep.key id) row = none →
    (∃ write ∈ written, write.key = sweep.key id) ∨ stage.remains sweep id

def Swept (db : AccountDb) (p : AccountProcess) : Prop :=
  ∀ user, p.place.operation.Removes user → Covers db user p.place.stage p.writes

variable {db : AccountDb} {now : Instant} {locks : Locks} {operation : Operation} {stage next : Stage}
variable {written : List AccountWrite} {user choice : Uuid}
variable {s s' origin : AccountServer} {move : AccountMove} {moves : List AccountMove} {t : Nat} {p q : AccountProcess}

theorem access_swept {sweep : Sweep} (access : sweep ∈ accessSweeps) : sweep ∈ accountSweeps := by
  revert sweep
  decide

theorem access_device {sweep : Sweep} (access : sweep ∈ accessSweeps) (k : AccountKey) (row : AccountRow k) :
    sweep.ofDevice k row = true := by
  cases sweep with
  | deviceSessions => simp [accessSweeps] at access
  | _ => rfl

theorem ids_listed {sweep : Sweep} {id : Uuid} {row : AccountRow (sweep.key id)} (here : db.get (sweep.key id) = some row) :
    id ∈ sweep.ids db := by
  cases sweep <;> exact List.mem_map.mpr ⟨(id,row),Table.mem_entries.mpr here,rfl⟩

-- A row that stands to be revoked is met by the statement on its table.
theorem revocation_met {sweep : Sweep} {id : Uuid} {row : AccountRow (sweep.key id)} (access : sweep ∈ accessSweeps)
    (here : db.get (sweep.key id) = some row) (owned : owner (sweep.key id) row = some user)
    (unrevoked : revokedAt (sweep.key id) row = none) :
    sweep.revocation db now user id = [⟨sweep.key id,revoke now (sweep.key id) row⟩] := by
  unfold Sweep.revocation
  rw [here]
  simp [owned,unrevoked,access_device access]

theorem scan_met {sweep : Sweep} {id : Uuid} {row : AccountRow (sweep.key id)} (access : sweep ∈ accessSweeps)
    (here : db.get (sweep.key id) = some row) (owned : owner (sweep.key id) row = some user)
    (unrevoked : revokedAt (sweep.key id) row = none) : id ∈ sweep.scan db now user := by
  refine List.mem_filter.mpr ⟨ids_listed here,?_⟩
  rw [revocation_met access here owned unrevoked]
  rfl

theorem sweepStage_passed {sweep current : Sweep} {ids : List Uuid} {rest : List Sweep} :
    (sweepStage user current ids rest).passed sweep = true ↔ sweep ∉ rest := by
  unfold sweepStage
  split <;> exact decide_eq_true_iff

theorem sweepStage_remains {sweep : Sweep} {ids : List Uuid} {rest : List Sweep} {id : Uuid} (member : id ∈ ids) :
    (sweepStage user sweep ids rest).remains sweep id := by
  unfold sweepStage
  split
  · rename_i empty
    rw [List.isEmpty_iff.mp empty] at member
    cases member
  · exact ⟨rfl,member⟩

theorem covers_more {writes : List AccountWrite} {k : AccountKey} (before : ∃ write ∈ written, write.key = k) :
    ∃ write ∈ written ++ writes, write.key = k := by
  obtain ⟨write,member,same⟩ := before
  exact ⟨write,List.mem_append_left _ member,same⟩

theorem covers_sweep {list : List Sweep} {wants : Locks} {writes : List AccountWrite} (covers : Covers db user stage written)
    (sweeps : stage.Sweeps user list)
    (acts : sweep now (overlay db written) choice stage = some (.statement wants writes next)) :
    Covers db user next (written ++ writes) := by
  intro table access passed id row here owned unrevoked
  unfold sweep at acts
  split at acts
  · rename_i target current rest
    obtain ⟨rfl,_⟩ := sweeps
    cases acts
    have beyond := sweepStage_passed.mp passed
    by_cases same : table = current
    · subst same
      rcases overlaid db written (table.key id) with kept | ⟨row',member,_⟩
      · exact .inr (sweepStage_remains (scan_met access (kept.trans here) owned unrevoked))
      · exact .inl (covers_more ⟨_,member,rfl⟩)
    · have before : (Stage.sweeps target (current :: rest)).passed table = true :=
        decide_eq_true fun member => (List.mem_cons.mp member).elim same beyond
      rcases covers table access before id row here owned unrevoked with old | remains
      · exact .inl (covers_more old)
      · exact False.elim remains
  · rename_i target
    cases acts
    have before : (Stage.sweeps target []).passed table = true := by simp [Stage.passed]
    rcases covers table access before id row here owned unrevoked with old | remains
    · exact .inl (covers_more old)
    · exact False.elim remains
  · rename_i target current ids rest
    obtain ⟨rfl,_⟩ := sweeps
    split at acts
    · cases acts
      have before : (Stage.sweeping target current ids rest).passed table = true :=
        decide_eq_true (sweepStage_passed.mp passed)
      rcases covers table access before id row here owned unrevoked with old | ⟨rfl,member⟩
      · exact .inl (covers_more old)
      · by_cases chosen : id = choice
        · subst chosen
          rcases overlaid db written (current.key id) with kept | ⟨row',member,_⟩
          · rw [revocation_met access (kept.trans here) owned unrevoked]
            exact .inl ⟨_,List.mem_append_right _ List.mem_cons_self,rfl⟩
          · exact .inl (covers_more ⟨_,member,rfl⟩)
        · exact .inr (sweepStage_remains ((List.mem_erase_of_ne chosen).mpr member))
    · cases acts
  · cases acts
  · cases acts

theorem covers_unpassed (unpassed : ∀ table ∈ accessSweeps, stage.passed table = false) : Covers db user stage written := by
  intro table access passed
  rw [unpassed table access] at passed
  cases passed

theorem idle_unpassed (idle : stage.Idle) (table : Sweep) : stage.passed table = false := by
  cases stage <;> first | rfl | exact False.elim idle

theorem first_unpassed : ∀ table ∈ accessSweeps, (Stage.sweeps user accountSweeps).passed table = false :=
  fun _ access => decide_eq_false fun absent => absent (access_swept access)

-- A removal goes through its tables one after the other.
theorem covers_act {wants : Locks} {writes : List AccountWrite} (stands : Stands db now locks operation stage written)
    (removes : operation.Removes user) (covers : Covers db user stage written)
    (acts : accountAct now (overlay db written) choice operation stage = some (.statement wants writes next)) :
    Covers db user next (written ++ writes) := by
  have swept (decided : sweep now (overlay db written) choice stage = some (.statement wants writes next)) :
      Covers db user next (written ++ writes) := by
    clear acts
    cases stands with
    | idle idle => cases stage <;> first | cases decided | exact False.elim idle
    | @removing _ other _ _ target sweeps =>
      have same : user = other := by
        cases operation with
        | deleteAccount | deactivateAccount => exact removes.symm.trans target
        | _ => exact False.elim removes
      subst same
      exact covers_sweep covers sweeps decided
    | accountLocked => cases decided
    | _ => exact False.elim removes
  cases operation with
  | deleteAccount target =>
    cases removes
    simp only [accountAct] at acts
    unfold deleteAccount at acts
    split at acts
    · cases acts
    · split at acts
      · cases acts
        exact covers_unpassed first_unpassed
      · cases acts
    · exact swept acts
  | deactivateAccount target confirmed =>
    cases removes
    simp only [accountAct] at acts
    unfold deactivateAccountForOperator at acts
    split at acts
    · split at acts <;> cases acts
    · split at acts
      · cases acts
        exact covers_unpassed fun _ _ => rfl
      · cases acts
    · split at acts
      · cases acts
      · split at acts
        · cases acts
        · cases acts
          exact covers_unpassed first_unpassed
    · exact swept acts
  | _ => exact False.elim removes

-- A row in use that a commit leaves in an account was there before, or the
-- transaction has come by it under one of three locks.
theorem change_adds {table : Sweep} {id : Uuid} {later : AccountRow (table.key id)} (access : table ∈ accessSweeps)
    (change : Change db now locks stage operation (table.key id) later) (owned : owner (table.key id) later = some user)
    (unrevoked : revokedAt (table.key id) later = none) :
    (∃ row, db.get (table.key id) = some row ∧ owner (table.key id) row = some user ∧ revokedAt (table.key id) row = none) ∨
    (.user user,.update) ∈ locks ∨ Joins db locks operation stage table user := by
  cases table with
  | devices =>
    have change : Change db now locks stage operation (.device id) later := change
    cases change with
    | deviceCreated paying => cases owned; exact .inr (.inl paying.ownerLocked)
    | swept => cases unrevoked
  | sessions =>
    have change : Change db now locks stage operation (.session id) later := change
    cases change with
    | sessionCreated paying => cases owned; exact .inr (.inl paying.ownerLocked)
    | swept => cases unrevoked
  | passkeys =>
    have change : Change db now locks stage operation (.passkey id) later := change
    cases change with
    | swept | passkeyRevoked => cases unrevoked
    | passkeyCreated _ joins => cases owned; exact .inr (.inr joins)
    | passkeyAdvanced here => exact .inl ⟨_,here,owned,unrevoked⟩
  | browserSessions =>
    have change : Change db now locks stage operation (.browserSession id) later := change
    cases change with
    | swept => cases unrevoked
    | browserSessionCreated _ joins => cases owned; exact .inr (.inr joins)
    | renewed here => exact .inl ⟨_,here,owned,unrevoked⟩
    | loggedOut => cases unrevoked
    | csrfRotated here => exact .inl ⟨_,here,owned,unrevoked⟩
  | deviceSessions | identities | pairingRequests | challenges => simp [accessSweeps] at access

-- What a removal holds while it goes through its tables.
theorem removal_held {table : Sweep} (stands : Stands db now locks operation stage written) (removes : operation.Removes user)
    (passed : stage.passed table = true) : (.user user,.noKeyUpdate) ∈ locks ∧ db.get (.user user) = some ⟨.active⟩ ∧
    (operation = .deleteAccount user ∨ (.user user,.update) ∈ locks) := by
  cases stands with
  | idle idle => cases (idle_unpassed idle table).symm.trans passed
  | accountLocked => cases passed
  | @removing _ other _ _ target _ active held strong =>
    have same : user = other := by
      cases operation with
      | deleteAccount | deactivateAccount => exact removes.symm.trans target
      | _ => exact False.elim removes
    subst same
    refine ⟨held,active,?_⟩
    cases operation with
    | deleteAccount => exact .inl (congrArg _ target)
    | deactivateAccount account confirmed =>
      cases target
      exact .inr (strong confirmed rfl)
    | _ => exact False.elim removes
  | _ => exact False.elim removes

theorem swept_stable (swept : Swept db p) (holds : Holds db p) (other : Holds db q)
    (commits : Commits q.place.operation q.place.stage next) (apart : Apart p q)
    (undisturbed : ∀ table user, q.place.operation.adds q.place.stage = some (table,user) → p.place.deletes user table = false) :
    Swept (overlay db q.writes) p := by
  intro user removes table access passed id row here owned unrevoked
  obtain ⟨held,active,strong⟩ := removal_held holds removes passed
  have before (old : ∃ row, db.get (table.key id) = some row ∧ owner (table.key id) row = some user ∧
      revokedAt (table.key id) row = none) :
      (∃ write ∈ p.writes, write.key = table.key id) ∨ p.place.stage.remains table id := by
    obtain ⟨row,there,owned,unrevoked⟩ := old
    exact swept user removes table access passed id row there owned unrevoked
  rcases changed other commits (table.key id) with same | ⟨later,change,there⟩
  · exact before ⟨row,same.symm.trans here,owned,unrevoked⟩
  · cases there.symm.trans here
    rcases change_adds access change owned unrevoked with old | locked | ⟨adds,share⟩ | ⟨_,absent⟩
    · exact before old
    · exact False.elim (exclusive (fun k m n mine theirs => apart.symm k m n mine theirs) locked held)
    · rcases strong with deletes | locked
      · have running := undisturbed table user adds
        rw [AccountPlace.deletes,deletes] at running
        simp only [decide_true,Bool.true_and,passed] at running
        cases running
      · exact False.elim (exclusive apart locked share)
    · cases active.symm.trans absent

theorem swept_idle (idle : p.place.stage.Idle) : Swept db p := fun _ _ => covers_unpassed fun table _ => idle_unpassed idle table

theorem undeleted_adds (allowed : undeleted s (.act t choice) = true) (found : s.processes[t]? = some q) {u : Nat}
    (there : s.processes[u]? = some p) {table : Sweep}
    (adds : q.place.operation.adds q.place.stage = some (table,user)) : p.place.deletes user table = false := by
  simp only [undeleted,found,Option.all_some,adds,List.all_eq_true] at allowed
  exact (Bool.not_eq_true' _).mp (allowed (u,p) (Table.mem_entries.mpr there))

theorem swept_step (sound : AccountSound s) (swept : ∀ (t : Nat) p, s.processes[t]? = some p → Swept s.db p)
    (allowed : undeleted s move = true) (taken : AccountStep s move s') :
    ∀ (t : Nat) p, s'.processes[t]? = some p → Swept s'.db p := by
  have moved {t : Nat} {p : AccountProcess} (new : Swept s.db p) (u : Nat) (q : AccountProcess)
      (found : (s.put t p).processes[u]? = some q) : Swept s.db q := by
    rw [put_get] at found
    split at found
    · cases found
      exact new
    · exact swept u q found
  cases happens taken with
  | @start t place _ admitted =>
    obtain ⟨operation,stage⟩ := place
    cases stage with
    | entered => exact moved (swept_idle trivial)
    | _ => cases admitted
  | begin found acts =>
    obtain ⟨act,leads,same⟩ := act_leads (sound.holds _ _ found) acts
    cases leads with
    | begin idle => cases same; exact moved (swept_idle idle)
    | _ => cases same
  | rollback found acts =>
    obtain ⟨act,leads,same⟩ := act_leads (sound.holds _ _ found) acts
    cases leads with
    | rollback idle => cases same; exact moved (swept_idle idle)
    | _ => cases same
  | fail => exact moved (swept_idle (failed_idle _))
  | tick => exact swept
  | @statement t choice p wants writes next found acts =>
    obtain ⟨act,decided,same⟩ := Option.map_eq_some_iff.mp acts
    refine moved fun user removes => ?_
    cases act with
    | statement wants' writes' stage =>
      cases same
      exact covers_act (sound.holds t p found) removes (swept t p found user removes) decided
    | _ => cases same
  | @commit t choice q next found acts =>
    obtain ⟨act,leads,same⟩ := act_leads (sound.holds _ _ found) acts
    cases leads with
    | commit commits =>
      cases same
      intro u p there
      rw [put_get] at there
      split at there
      · cases there
        exact swept_idle (commits_idle commits)
      · rename_i other
        exact swept_stable (swept u p there) (sound.holds u p there) (sound.holds t q found) commits
          (sound.orderly.apart u t p q (Ne.symm other) there found) fun table user adds => undeleted_adds allowed found there adds
    | _ => cases same

theorem removal_ended (commits : Commits operation stage next) (removes : operation.Removes user) (table : Sweep) (id : Uuid) :
    stage.passed table = true ∧ ¬ stage.remains table id := by
  cases commits with
  | ended => exact ⟨rfl,fun remains => remains⟩
  | _ => exact False.elim removes

-- A commit that removes an account has revoked every row of it.
theorem swept_commit (committing : Committing s t p next) (swept : Swept s.db p) (removes : p.place.operation.Removes user)
    {table : Sweep} (access : table ∈ accessSweeps) {id : Uuid} {row : AccountRow (table.key id)}
    (here : (committed s t p next).db.get (table.key id) = some row) (owned : owner (table.key id) row = some user) :
    (revokedAt (table.key id) row).isSome = true := by
  obtain ⟨_,stands,commits⟩ := committing
  have settled : ∀ write ∈ p.writes, owner write.key write.row = none ∨ (revokedAt write.key write.row).isSome = true := by
    unfold Holds at stands
    generalize p.writes = written at stands ⊢
    generalize p.place.operation = operation at *
    generalize p.place.stage = stage at *
    cases stands with
    | idle idle => exact fun _ member => absurd member List.not_mem_nil
    | removing _ _ _ _ _ revoking => exact removed_settled revoking
    | accountLocked => cases commits
    | _ => exact False.elim removes
  have written (before : ∃ row', (⟨table.key id,row'⟩ : AccountWrite) ∈ p.writes ∧
      (overlay s.db p.writes).get (table.key id) = some row') : (revokedAt (table.key id) row).isSome = true := by
    obtain ⟨row',member,there⟩ := before
    cases there.symm.trans here
    rcases settled _ member with none | revoked
    · cases none.symm.trans owned
    · exact revoked
  rcases overlaid s.db p.writes (table.key id) with same | before
  · by_contra unrevoked
    obtain ⟨ended,none⟩ := removal_ended commits removes table id
    rcases swept user removes table access ended id row (same.symm.trans here) owned
      (Option.not_isSome_iff_eq_none.mp unrevoked) with ⟨write,member,key⟩ | remains
    · have last : ∃ row', (⟨table.key id,row'⟩ : AccountWrite) ∈ p.writes ∧
        Rows.get (overlay s.db p.writes) (table.key id) = some row' := ReadCommitted.overlay_last ⟨write,member,key⟩
      exact unrevoked (written last)
    · exact none remains
  · exact written before

theorem revoked_change {k : AccountKey} {later : AccountRow k} (change : Change db now locks stage operation k later) :
    Course (fun _ => True) (fun a b => (revokedAt k a).isSome = true → (revokedAt k b).isSome = true) (db.get k) (some later) := by
  cases change with
  | pairingCreated fresh | deviceCreated _ fresh | sessionCreated _ fresh | passkeyCreated fresh | credentialCreated fresh
  | userCreated fresh | browserSessionCreated fresh | challengeCreated fresh =>
    rw [fresh]
    exact trivial
  | pairingApproved here | renewed here | csrfRotated here | challengeConsumed _ here | passkeyAdvanced here =>
    rw [here]
    exact fun revoked => revoked
  | pairingConsumed paying =>
    rw [paying.found]
    exact fun revoked => revoked
  | swept here owned =>
    rw [here]
    exact fun _ => Option.isSome_iff_exists.mpr ⟨_,revoke_revokes _ owned⟩
  | userDeleted _ _ here =>
    rw [here]
    exact fun revoked => revoked
  | passkeyRevoked here | loggedOut here =>
    rw [here]
    exact fun _ => rfl

theorem revoked_run (sound : AccountSound s) (path : AccountRuns s moves s') {k : AccountKey} {row : AccountRow k}
    (here : s.db.get k = some row) (revoked : (revokedAt k row).isSome = true) :
    ∃ later, s'.db.get k = some later ∧ (revokedAt k later).isSome = true := by
  have course := course_evolves (fun _ revoked => revoked) (fun _ _ _ first second revoked => second (first revoked))
    (fun _ _ _ _ => trivial) (revoked_change (k:=k)) sound path
  rw [here] at course
  obtain ⟨later,there,kept⟩ := course_grown course
  exact ⟨later,there,kept revoked⟩

-- The rows of an account in one state are revoked in another.
def Cleared (db db' : AccountDb) (user : Uuid) : Prop := ∀ table ∈ accessSweeps, ∀ id row, db.get (table.key id) = some row →
  owner (table.key id) row = some user → ∃ later, db'.get (table.key id) = some later ∧ (revokedAt (table.key id) later).isSome = true

abbrev UndeletedStep := Transition.Under (fun s move => undeleted s move = true) AccountStep

theorem swept_run (vacant : origin.processes = ∅) (path : Transition.Runs UndeletedStep origin moves s) :
    AccountSound s ∧ ∀ (t : Nat) p, s.processes[t]? = some p → Swept s.db p := by
  refine path.invariant (fun s => AccountSound s ∧ ∀ (t : Nat) p, s.processes[t]? = some p → Swept s.db p)
    ⟨.initial vacant trivial,fun t p found => ?_⟩ fun s move s' both taken =>
      ⟨Outline.sound_step outline both.1 taken.2,swept_step both.1 both.2 taken.1 taken.2⟩
  rw [vacant,Std.ExtTreeMap.getElem?_empty] at found
  cases found

theorem inactive_removes (committing : Committing s t p next) (before : s.db.userActive user = true)
    (after : (committed s t p next).db.userActive user = false) : p.place.operation.Removes user := by
  rcases changed committing.holds committing.commits (.user user) with same | ⟨later,change,there⟩
  · have kept : (committed s t p next).db.users[user]? = s.db.users[user]? := same
    rw [AccountDb.userActive,kept] at after
    cases before.symm.trans after
  · have found : (committed s t p next).db.users[user]? = some later := there
    generalize p.place.operation = operation at change ⊢
    cases change with
    | swept _ owned => cases owned
    | userDeleted removes => exact removes
    | userCreated =>
      rw [AccountDb.userActive,found] at after
      cases after

theorem accounts_lose_access (vacant : origin.processes = ∅) :
    (∀ {moves : List AccountMove} {s : AccountServer}, AccountRuns origin moves s →
      ∀ user, Manned origin.db user → Manned s.db user) ∧
    ∀ {moves more : List AccountMove} {move : AccountMove} {s s1 s2 : AccountServer} {user : Uuid},
      Transition.Runs UndeletedStep origin moves s → UndeletedStep s move s1 → AccountRuns s1 more s2 →
      s.db.userActive user = true → s1.db.userActive user = false → Cleared s1.db s2.db user := by
  constructor
  · exact fun path user manned => manned_run vacant path manned
  · intro moves more move s s1 s2 user path taken later before after
    obtain ⟨sound,swept⟩ := swept_run vacant path
    have onward := Outline.sound_step outline sound taken.2
    intro table access id row here owned
    cases account_turn sound taken.2 with
    | @commit t _ p next committing =>
      have removes := inactive_removes committing before after
      exact revoked_run onward later here (swept_commit committing (swept t p committing.found) removes access here owned)
    | tick | enter | fail | proceed => cases before.symm.trans after

def onePasskey : AccountServer := ⟨⟨(∅ : Table Uuid User).insert 1 ⟨.active⟩,
  (∅ : Table Uuid PasskeyCredential).insert 20 ⟨1,9,0,none⟩,(∅ : Table CredentialBytes Uuid).insert 9 20,∅,∅,∅,∅,∅,∅⟩,0,∅⟩

def enrol (t : Nat) : List AccountMove := .start t ⟨.createPasskey 1 ⟨21,8,0⟩,.entered⟩ :: List.replicate 4 (.act t 0)

-- The passkey comes before the deletion's UPDATE of the passkeys, and after.
def enrolBefore : List AccountMove :=
  .start 0 ⟨.deleteAccount 1,.entered⟩ :: List.replicate 4 (.act 0 0) ++ enrol 1 ++
  [.act 0 0,.act 0 20,.act 0 21] ++ List.replicate 5 (.act 0 0)

def enrolAfter : List AccountMove :=
  .start 0 ⟨.deleteAccount 1,.entered⟩ :: List.replicate 5 (.act 0 0) ++ .act 0 20 :: enrol 1 ++ List.replicate 5 (.act 0 0)

theorem accounts_lose_access_enrolled : ∃ s1 : AccountServer,
    s1.db.passkeyCredentials.toList.map Prod.fst = [20,21] ∧ Cleared s1.db s1.db 1 := by
  obtain ⟨s,path,seen⟩ := Transition.guarded_reaches undeleted (Server.execute accountProgram) onePasskey enrolBefore
    (fun s => undeleted s (.act 0 0) && s.db.userActive 1 && (Server.execute accountProgram s (.act 0 0)).any fun s1 =>
      !s1.db.userActive 1 && s1.db.passkeyCredentials.toList.map Prod.fst = [20,21]) (by decide)
  simp only [Bool.and_eq_true] at seen
  obtain ⟨s1,taken,after⟩ := (Option.any_eq_true _ _).mp seen.2
  simp only [Bool.and_eq_true,Bool.not_eq_true',decide_eq_true_iff] at after
  exact ⟨s1,after.2,(accounts_lose_access rfl).2 path ⟨seen.1.1,taken⟩ .nil seen.1.2 after.1⟩

theorem passkey_survives_deletion : ∃ moves move s s1, AccountRuns onePasskey moves s ∧ AccountStep s move s1 ∧
    s.db.userActive 1 = true ∧ s1.db.userActive 1 = false ∧ s1.db.passkeyCredentials[21]?.any
      (fun row => row.userId = 1 && row.revokedAt.isNone) = true ∧ ¬ Cleared s1.db s1.db 1 := by
  obtain ⟨s,path,seen⟩ := Transition.run_reaches (Server.execute accountProgram) onePasskey enrolAfter
    (fun s => s.db.userActive 1 && (Server.execute accountProgram s (.act 0 0)).any fun s1 =>
      !s1.db.userActive 1 && (s1.db.passkeyCredentials[21]?).any fun row => row.userId = 1 && row.revokedAt.isNone) (by decide)
  obtain ⟨before,rest⟩ := (Bool.and_eq_true _ _).mp seen
  obtain ⟨s1,taken,after⟩ := (Option.any_eq_true _ _).mp rest
  simp only [Bool.and_eq_true,Bool.not_eq_true'] at after
  refine ⟨enrolAfter,.act 0 0,s,s1,path,taken,before,after.1,after.2,fun cleared => ?_⟩
  obtain ⟨row,here,live⟩ := (Option.any_eq_true _ _).mp after.2
  simp only [Bool.and_eq_true,decide_eq_true_iff,Option.isNone_iff_eq_none] at live
  obtain ⟨later,there,revoked⟩ := cleared .passkeys (by decide) 21 row here (congrArg some live.1)
  have same : later = row := Option.some.inj (there.symm.trans here)
  subst same
  have ended : (revokedAt (.passkey 21) later).isSome = true := revoked
  rw [show revokedAt (.passkey 21) later = none from live.2] at ended
  cases ended

end AccountStore
