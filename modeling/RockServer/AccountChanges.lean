import RockServer.AccountOutline

namespace AccountStore
open DeviceControl (Uuid Instant minutes)
open ReadCommitted (Rows Write Act Mode Process Program Outline overlay Covered Apart happens locked_kept)

-- The account and the table to which an operation is about to add a row, under a
-- lock that the key of the account's row suffices for.
def Operation.adds : Operation → Stage → Option (Sweep × Uuid)
  | .createPasskey user _,.ending _ => some (.passkeys,user)
  | .createBrowserSession new,.ending _ => some (.browserSessions,new.userId)
  | .authenticationVerify _,.ending (.authenticated user) => some (.browserSessions,user)
  | _,_ => none

def Operation.challenge : Operation → Option Uuid
  | .registrationVerify request => some request.challengeId
  | .authenticationVerify request => some request.challengeId
  | _ => none

def AccountKey.Native : AccountKey → Prop
  | .device _ | .session _ => True
  | _ => False

-- The row of a new account, or one that no deletion under FOR UPDATE is holding.
def Joins (db : AccountDb) (locks : Locks) (operation : Operation) (stage : Stage) (sweep : Sweep) (user : Uuid) : Prop :=
  operation.adds stage = some (sweep,user) ∧ (.user user,.keyShare) ∈ locks ∨
    (∃ request, operation = .registrationVerify request) ∧ db.get (.user user) = none

-- What a commit makes of a row.
inductive Change (db : AccountDb) (now : Instant) (locks : Locks) (stage : Stage) :
    Operation → (k : AccountKey) → AccountRow k → Prop where
  | pairingCreated {new : NewPairingRequest} : db.get (.pairing new.requestId) = none →
      Change db now locks stage (.createPairing new) (.pairing new.requestId) (new.row now)
  | pairingApproved {request secret phrase proof user} {row : PairingRequest} : db.get (.pairing request) = some row →
      row.approvable now secret phrase = true → Change db now locks stage (.approvePairing request secret phrase proof)
        (.pairing request) {row with approvedByUserId := some user,approvedAt := some now}
  | pairingConsumed {request token session user row} : Paying db now locks request user row →
      Change db now locks stage (.completePairing request token session) (.pairing request) {row with consumedAt := some now}
  | deviceCreated {request token user row} {session : NewPairingSession} : Paying db now locks request user row →
      db.get (.device session.deviceId) = none → db.activeDevices user < maxAccountDevices →
      Change db now locks stage (.completePairing request token session) (.device session.deviceId) ⟨user,none⟩
  | sessionCreated {request token user row} {session : NewPairingSession} : Paying db now locks request user row →
      db.get (.session session.sessionId) = none →
      Change db now locks stage (.completePairing request token session) (.session session.sessionId)
        ⟨user,session.deviceId,none⟩
  | swept {operation : Operation} {k user row t} : db.get k = some row → owner k row = some user → revokedAt k row = none →
      operation.Removes user ∧ (.user user,.noKeyUpdate) ∈ locks ∨ k.Native →
      Change db now locks stage operation k (revoke t k row)
  | userDeleted {operation : Operation} {user} : operation.Removes user → (.user user,.noKeyUpdate) ∈ locks →
      db.get (.user user) = some ⟨.active⟩ → Change db now locks stage operation (.user user) ⟨.deleted⟩
  | passkeyRevoked {credential confirmed} {row : PasskeyCredential} : db.get (.passkey credential) = some row →
      row.revokedAt = none → (.user row.userId,.update) ∈ locks →
      (db.userActive row.userId = true → 2 ≤ db.activePasskeys row.userId) →
      Change db now locks stage (.revokeCredential credential confirmed) (.passkey credential) {row with revokedAt := some now}
  | passkeyCreated {operation user} {new : NewPasskey} : db.get (.passkey new.id) = none →
      Joins db locks operation stage .passkeys user → Change db now locks stage operation (.passkey new.id) (new.row user)
  | credentialCreated {operation} {new : NewPasskey} : db.get (.credential new.bytes) = none →
      Change db now locks stage operation (.credential new.bytes) new.id
  | userCreated {request user} : db.get (.user user) = none →
      Change db now locks stage (.registrationVerify request) (.user user) ⟨.active⟩
  | browserSessionCreated {operation} {new : NewBrowserSession} : db.get (.browserSession new.sessionId) = none →
      Joins db locks operation stage .browserSessions new.userId →
      Change db now locks stage operation (.browserSession new.sessionId) (new.row now)
  | renewed {token id} {row : BrowserSession} : db.get (.browserSession id) = some row → row.renewable now token = true →
      Change db now locks stage (.renewBrowserSession token) (.browserSession id) (row.renew now)
  | loggedOut {user token csrf id} {row : BrowserSession} : db.get (.browserSession id) = some row → row.revokedAt = none →
      Change db now locks stage (.logoutBrowserSession user token csrf) (.browserSession id) {row with revokedAt := some now}
  | csrfRotated {token csrf id} {row : BrowserSession} : db.get (.browserSession id) = some row → row.live now = true →
      Change db now locks stage (.rotateBrowserCsrf token csrf) (.browserSession id) {row with csrfTokenHash := csrf}
  | challengeConsumed {operation : Operation} {challenge} {row : WebauthnChallenge} : operation.challenge = some challenge →
      db.get (.challenge challenge) = some row → row.open now = true →
      Change db now locks stage operation (.challenge challenge) {row with consumedAt := some now}
  | passkeyAdvanced {request : AuthenticationVerify} {id newSignCount} {row : PasskeyCredential} :
      db.get (.passkey id) = some row → row.advances request.credential newSignCount = true →
      Change db now locks stage (.authenticationVerify request) (.passkey id) {row with signCount := newSignCount}
  | challengeCreated {new : NewWebauthnChallenge} : db.get (.challenge new.challengeId) = none →
      Change db now locks stage (.createChallenge new) (.challenge new.challengeId) (new.row now)

section changes
variable {db db' : AccountDb} {now : Instant} {locks : Locks} {operation : Operation} {stage next : Stage}
variable {written : List AccountWrite} {p q : AccountProcess} {k : AccountKey}

theorem native_key {device : Uuid} {write : AccountWrite}
    (listed : ∃ sweep ∈ ([.devices,.deviceSessions device] : List Sweep), ∃ id, write.key = sweep.key id) : write.key.Native := by
  obtain ⟨sweep,member,id,same⟩ := listed
  rw [same]
  rcases List.mem_cons.mp member with rfl | member
  · exact trivial
  · rw [List.mem_singleton.mp member]
    exact trivial

theorem revoking_change {user : Uuid} {list : List Sweep} {write : AccountWrite} (revoking : Revoking db user list written)
    (member : write ∈ written) (allowed : (∃ sweep ∈ list, ∃ id, write.key = sweep.key id) →
      operation.Removes user ∧ (.user user,.noKeyUpdate) ∈ locks ∨ write.key.Native) :
    Change db now locks stage operation write.key write.row := by
  obtain ⟨listed,row,t,here,owned,unrevoked,same⟩ := revoking write member
  rw [same]
  exact .swept here owned unrevoked (allowed listed)

theorem passkey_change {user : Uuid} {new : NewPasskey} {write : AccountWrite} (member : write ∈ new.writes user)
    (passkey : db.get (.passkey new.id) = none) (credential : db.get (.credential new.bytes) = none)
    (joins : Joins db locks operation stage .passkeys user) : Change db now locks stage operation write.key write.row := by
  rcases List.mem_cons.mp member with rfl | member
  · exact .passkeyCreated passkey joins
  · rw [List.mem_singleton.mp member]
    exact .credentialCreated credential

theorem completed_change {request user : Uuid} {token : SecretHash} {row : PairingRequest} {session : NewPairingSession}
    {write : AccountWrite} (paying : Paying db now locks request user row) (device : db.get (.device session.deviceId) = none)
    (room : db.activeDevices user < maxAccountDevices) (fresh : db.get (.session session.sessionId) = none)
    (member : write ∈ ([⟨.device session.deviceId,⟨user,none⟩⟩,⟨.session session.sessionId,⟨user,session.deviceId,none⟩⟩,
      ⟨.pairing request,{row with consumedAt := some now}⟩] : List AccountWrite)) :
    Change db now locks stage (.completePairing request token session) write.key write.row := by
  rcases List.mem_cons.mp member with rfl | member
  · exact .deviceCreated paying device room
  · rcases List.mem_cons.mp member with rfl | member
    · exact .sessionCreated paying fresh
    · rw [List.mem_singleton.mp member]
      exact .pairingConsumed paying

theorem session_opened (new : NewBrowserSession) (fresh : db.get (.browserSession new.sessionId) = none)
    (joins : Joins db locks operation stage .browserSessions new.userId) :
    Change db now locks stage operation (.browserSession new.sessionId) (new.row now) := .browserSessionCreated fresh joins

theorem registered_change {request : RegistrationVerify} {user : Uuid} {row : WebauthnChallenge} {new : NewPasskey}
    {write : AccountWrite} (here : db.get (.challenge request.challengeId) = some row) (unused : row.open now = true)
    (fresh : db.get (.user user) = none) (passkey : db.get (.passkey new.id) = none)
    (credential : db.get (.credential new.bytes) = none) (session : db.get (.browserSession request.sessionId) = none)
    (member : write ∈ (⟨.challenge request.challengeId,{row with consumedAt := some now}⟩ :: ⟨.user user,⟨.active⟩⟩ ::
      new.writes user ++ [⟨.browserSession request.sessionId,(request.browser user).row now⟩] : List AccountWrite)) :
    Change db now locks stage (.registrationVerify request) write.key write.row := by
  rcases List.mem_append.mp member with member | member
  · rcases List.mem_cons.mp member with rfl | member
    · exact .challengeConsumed rfl here unused
    · rcases List.mem_cons.mp member with rfl | member
      · exact .userCreated fresh
      · exact passkey_change member passkey credential (.inr ⟨⟨request,rfl⟩,fresh⟩)
  · rw [List.mem_singleton.mp member]
    exact session_opened (request.browser user) session (.inr ⟨⟨request,rfl⟩,fresh⟩)

theorem stands_change (stands : Stands db now locks operation stage written) (commits : Commits operation stage next) :
    ∀ write ∈ written, Change db now locks stage operation write.key write.row := by
  intro write member
  cases stands with
  | idle | requestLocked | payerLocked | accountLocked | credentialLocked | credentialOwner | countChecked =>
    exact absurd member List.not_mem_nil
  | deviceInserted | sessionInserted | userInserted | passkeyInserted | challengeConsumed => cases commits
  | created fresh =>
    rw [List.mem_singleton.mp member]
    exact .pairingCreated fresh
  | approved here approvable =>
    rw [List.mem_singleton.mp member]
    exact .pairingApproved here approvable
  | completed paying device room fresh => exact completed_change paying device room fresh member
  | deviceRevoked _ revoking => exact revoking_change revoking member fun listed => .inr (native_key listed)
  | removing removes _ active held _ revoking =>
    rcases List.mem_cons.mp member with rfl | member
    · exact .userDeleted removes held active
    · exact revoking_change revoking member fun _ => .inl ⟨removes,held⟩
  | credentialRevoked here unrevoked held several =>
    rw [List.mem_singleton.mp member]
    exact .passkeyRevoked here unrevoked held several
  | passkeyCreated passkey credential place =>
    rcases place with rfl | ⟨rfl,held⟩
    · cases commits
    · exact passkey_change member passkey credential (.inl ⟨rfl,held⟩)
  | registered here unused fresh passkey credential session =>
    exact registered_change here unused fresh passkey credential session member
  | challengeTaken here unused =>
    rw [List.mem_singleton.mp member]
    exact .challengeConsumed rfl here unused
  | advanced here advances =>
    rw [List.mem_singleton.mp member]
    exact .passkeyAdvanced here advances
  | @authenticated request user _ fresh place =>
    rcases place with rfl | ⟨rfl,held⟩
    · cases commits
    · rw [List.mem_singleton.mp member]
      exact session_opened (request.browser user) fresh (.inl ⟨rfl,held⟩)
  | sessionCreated fresh place =>
    rcases place with rfl | ⟨rfl,held⟩
    · cases commits
    · rw [List.mem_singleton.mp member]
      exact .browserSessionCreated fresh (.inl ⟨rfl,held⟩)
  | renewed here renewable =>
    rw [List.mem_singleton.mp member]
    exact .renewed here renewable
  | loggedOut here unrevoked =>
    rw [List.mem_singleton.mp member]
    exact .loggedOut here unrevoked
  | csrfRotated here live =>
    rw [List.mem_singleton.mp member]
    exact .csrfRotated here live
  | challengeCreated fresh =>
    rw [List.mem_singleton.mp member]
    exact .challengeCreated fresh

theorem changed (stands : Stands db now locks operation stage written) (commits : Commits operation stage next) (k : AccountKey) :
    (overlay db written).get k = db.get k ∨
    ∃ row, Change db now locks stage operation k row ∧ (overlay db written).get k = some row :=
  (overlaid db written k).imp id fun ⟨row,member,here⟩ => ⟨row,stands_change stands commits ⟨k,row⟩ member,here⟩

-- Two transactions that need a row for themselves.
theorem exclusive {m : Mode} (apart : Apart p q) (mine : (k,.update) ∈ p.locks) (theirs : (k,m) ∈ q.locks) : False := by
  have clash := apart k .update m mine theirs
  cases m <;> cases clash

-- While a transaction holds an account FOR UPDATE, no other adds to its devices.
theorem devices_held {user : Uuid} (stands : Stands db q.now q.locks operation stage written) (commits : Commits operation stage next)
    (apart : Apart p q) (held : (.user user,.update) ∈ p.locks) :
    (overlay db written).activeDevices user ≤ db.activeDevices user := by
  refine Table.count_le fun id row here active => ?_
  rcases changed stands commits (.device id) with same | ⟨row',change,there⟩
  · exact ⟨row,same.symm.trans here,active⟩
  · cases there.symm.trans here
    simp only [Bool.and_eq_true,decide_eq_true_iff,Option.isNone_iff_eq_none] at active
    cases change with
    | deviceCreated paying =>
      cases active.1
      exact False.elim (exclusive apart held paying.ownerLocked)
    | swept => cases active.2

-- Nor does any other revoke one of its passkeys.
theorem passkeys_held {user : Uuid} (stands : Stands db q.now q.locks operation stage written) (commits : Commits operation stage next)
    (apart : Apart p q) (held : (.user user,.update) ∈ p.locks) :
    db.activePasskeys user ≤ (overlay db written).activePasskeys user := by
  refine Table.count_le fun id row here active => ?_
  rcases changed stands commits (.passkey id) with same | ⟨row',change,there⟩
  · exact ⟨row,same.trans here,active⟩
  · refine ⟨row',there,?_⟩
    simp only [Bool.and_eq_true,decide_eq_true_iff,Option.isNone_iff_eq_none] at active
    cases change with
    | swept before owned _ allowed =>
      cases before.symm.trans here
      cases active.1.symm.trans (Option.some.inj owned)
      rcases allowed with ⟨_,locked⟩ | native
      · exact False.elim (exclusive apart held locked)
      · exact False.elim native
    | passkeyRevoked before _ locked =>
      cases before.symm.trans here
      rw [active.1] at locked
      exact False.elim (exclusive apart held locked)
    | passkeyCreated fresh => cases fresh.symm.trans here
    | passkeyAdvanced before =>
      cases before.symm.trans here
      simp only [active.1,active.2,decide_true,Option.isNone_none,Bool.and_self]

-- What the commits of others leave to a transaction.
structure Undisturbed (db db' : AccountDb) (locks : Locks) (written : List AccountWrite) : Prop where
  rows : ∀ k m, (k,m) ∈ locks → m ≠ .keyShare → db'.get k = db.get k
  writes : ∀ write ∈ written, db'.get write.key = db.get write.key
  devices : ∀ user, (.user user,.update) ∈ locks → db'.activeDevices user ≤ db.activeDevices user
  passkeys : ∀ user, (.user user,.update) ∈ locks → db.activePasskeys user ≤ db'.activePasskeys user

theorem undisturbed (stands : Stands db q.now q.locks operation stage q.writes) (commits : Commits operation stage next)
    (covered : Covered p) (covers : Covered q) (apart : Apart p q) :
    Undisturbed db (overlay db q.writes) p.locks p.writes := by
  have rows (k : AccountKey) (m : Mode) (held : (k,m) ∈ p.locks) (strong : m ≠ .keyShare) :
      Rows.get (overlay db q.writes) k = Rows.get db k := locked_kept apart covers held strong
  exact ⟨rows,fun write member => rows _ _ (covered write member) (by decide),
    fun _ held => devices_held stands commits apart held,fun _ held => passkeys_held stands commits apart held⟩

section stable
variable (undisturbed : Undisturbed db db' locks written)
include undisturbed

theorem Paying.stable {request user : Uuid} {row : PairingRequest} (paying : Paying db now locks request user row) :
    Paying db' now locks request user row := by
  refine ⟨paying.requestLocked,paying.ownerLocked,?_,paying.payable,?_⟩
  · exact (undisturbed.rows _ _ paying.requestLocked (by decide)).trans paying.found
  · exact (undisturbed.rows _ _ paying.ownerLocked (by decide)).trans paying.active

theorem room_stable {user : Uuid} (held : (.user user,.update) ∈ locks) (room : db.activeDevices user < maxAccountDevices) :
    db'.activeDevices user < maxAccountDevices := Nat.lt_of_le_of_lt (undisturbed.devices user held) room

theorem several_stable {user : Uuid} (held : (.user user,.update) ∈ locks)
    (several : db.userActive user = true → 2 ≤ db.activePasskeys user) :
    db'.userActive user = true → 2 ≤ db'.activePasskeys user := by
  intro active
  have same : db'.users[user]? = db.users[user]? := undisturbed.rows (.user user) _ held (by decide)
  unfold AccountDb.userActive at active several
  rw [same] at active
  exact Nat.le_trans (several active) (undisturbed.passkeys user held)

end stable

theorem Revoking.stable {user : Uuid} {list : List Sweep} {writes : List AccountWrite} (revoking : Revoking db user list writes)
    (kept : ∀ write ∈ writes, db'.get write.key = db.get write.key) : Revoking db' user list writes := by
  intro write member
  obtain ⟨listed,row,t,here,rest⟩ := revoking write member
  exact ⟨listed,row,t,(kept write member).trans here,rest⟩

theorem untaken_stable {user : Uuid} {new : NewPasskey} (passkey : db.get (.passkey new.id) = none)
    (credential : db.get (.credential new.bytes) = none)
    (kept : ∀ write ∈ new.writes user, db'.get write.key = db.get write.key) :
    db'.get (.passkey new.id) = none ∧ db'.get (.credential new.bytes) = none :=
  ⟨(kept _ List.mem_cons_self).trans passkey,(kept _ (List.mem_cons_of_mem _ List.mem_cons_self)).trans credential⟩

theorem stands_stable (stands : Stands db now locks operation stage written) (undisturbed : Undisturbed db db' locks written) :
    Stands db' now locks operation stage written := by
  have kept := undisturbed.writes
  cases stands with
  | idle idle => exact .idle idle
  | created fresh => exact .created ((kept _ List.mem_cons_self).trans fresh)
  | approved here approvable place => exact .approved ((kept _ List.mem_cons_self).trans here) approvable place
  | requestLocked held => exact .requestLocked held
  | payerLocked paying => exact .payerLocked (paying.stable undisturbed)
  | deviceInserted paying device room =>
    exact .deviceInserted (paying.stable undisturbed) ((kept _ List.mem_cons_self).trans device)
      (room_stable undisturbed paying.ownerLocked room)
  | sessionInserted paying device room session =>
    exact .sessionInserted (paying.stable undisturbed) ((kept _ List.mem_cons_self).trans device)
      (room_stable undisturbed paying.ownerLocked room) ((kept _ (List.mem_cons_of_mem _ List.mem_cons_self)).trans session)
  | completed paying device room session =>
    exact .completed (paying.stable undisturbed) ((kept _ List.mem_cons_self).trans device)
      (room_stable undisturbed paying.ownerLocked room) ((kept _ (List.mem_cons_of_mem _ List.mem_cons_self)).trans session)
  | deviceRevoked sweeps revoking => exact .deviceRevoked sweeps (revoking.stable kept)
  | accountLocked held => exact .accountLocked held
  | removing removes sweeps active held strong revoking =>
    exact .removing removes sweeps ((kept _ List.mem_cons_self).trans active) held strong
      (revoking.stable fun write member => kept write (List.mem_cons_of_mem _ member))
  | credentialLocked held here unrevoked =>
    exact .credentialLocked held ((undisturbed.rows _ _ held (by decide)).trans here) unrevoked
  | credentialOwner held here unrevoked owner =>
    exact .credentialOwner held ((undisturbed.rows _ _ held (by decide)).trans here) unrevoked owner
  | countChecked held here unrevoked owner several =>
    exact .countChecked held ((undisturbed.rows _ _ held (by decide)).trans here) unrevoked owner
      (several_stable undisturbed owner several)
  | credentialRevoked here unrevoked owner several =>
    exact .credentialRevoked ((kept _ List.mem_cons_self).trans here) unrevoked owner (several_stable undisturbed owner several)
  | passkeyCreated passkey credential place =>
    exact .passkeyCreated ((kept _ List.mem_cons_self).trans passkey)
      ((kept _ (List.mem_cons_of_mem _ List.mem_cons_self)).trans credential) place
  | challengeConsumed here unused => exact .challengeConsumed ((kept _ List.mem_cons_self).trans here) unused
  | userInserted here unused user =>
    exact .userInserted ((kept _ List.mem_cons_self).trans here) unused
      ((kept _ (List.mem_cons_of_mem _ List.mem_cons_self)).trans user)
  | passkeyInserted here unused user passkey credential =>
    obtain ⟨passkey,credential⟩ := untaken_stable passkey credential fun write member =>
      kept write (List.mem_cons_of_mem _ (List.mem_cons_of_mem _ member))
    exact .passkeyInserted ((kept _ List.mem_cons_self).trans here) unused
      ((kept _ (List.mem_cons_of_mem _ List.mem_cons_self)).trans user) passkey credential
  | registered here unused user passkey credential session =>
    obtain ⟨passkey,credential⟩ := untaken_stable passkey credential fun write member =>
      kept write (List.mem_append_left _ (List.mem_cons_of_mem _ (List.mem_cons_of_mem _ member)))
    exact .registered ((kept _ List.mem_cons_self).trans here) unused
      ((kept _ (List.mem_cons_of_mem _ List.mem_cons_self)).trans user) passkey credential
      ((kept _ (List.mem_append_right _ List.mem_cons_self)).trans session)
  | challengeTaken here unused => exact .challengeTaken ((kept _ List.mem_cons_self).trans here) unused
  | advanced here advances => exact .advanced ((kept _ List.mem_cons_self).trans here) advances
  | authenticated fresh place => exact .authenticated ((kept _ List.mem_cons_self).trans fresh) place
  | sessionCreated fresh place => exact .sessionCreated ((kept _ List.mem_cons_self).trans fresh) place
  | renewed here renewable => exact .renewed ((kept _ List.mem_cons_self).trans here) renewable
  | loggedOut here unrevoked => exact .loggedOut ((kept _ List.mem_cons_self).trans here) unrevoked
  | csrfRotated here live => exact .csrfRotated ((kept _ List.mem_cons_self).trans here) live
  | challengeCreated fresh => exact .challengeCreated ((kept _ List.mem_cons_self).trans fresh)

def Holds (db : AccountDb) (p : AccountProcess) : Prop := Stands db p.now p.locks p.place.operation p.place.stage p.writes

theorem commits_idle (commits : Commits operation stage next) : next.Idle := by
  cases commits <;> exact trivial

theorem failed_idle (stage : Stage) : stage.failed.Idle := by
  cases stage <;> exact trivial

theorem act_leads {p : AccountProcess} {choice : Uuid} {act : Act AccountRow AccountPlace} (holds : Holds db p)
    (acts : accountProgram.act choice p.now (overlay db p.writes) p.place = some act) :
    ∃ act', Leads db p.now p.locks p.place.operation p.place.stage p.writes act' ∧
      act = act'.map fun stage => ⟨p.place.operation,stage⟩ := by
  obtain ⟨act',decided,rfl⟩ := Option.map_eq_some_iff.mp acts
  exact ⟨act',accountAct_leads holds decided,rfl⟩

theorem outline : Outline accountProgram (fun _ => True) Holds where
  start s place admitted _ := by
    obtain ⟨operation,stage⟩ := place
    cases stage with
    | entered => exact .idle trivial
    | _ => cases admitted
  begin _ holds acts clock := by
    obtain ⟨act,leads,same⟩ := act_leads holds acts
    cases leads with
    | begin idle => cases same; exact .idle idle
    | _ => cases same
  statement _ holds _ acts := by
    obtain ⟨act,leads,same⟩ := act_leads holds acts
    cases leads with
    | statement stands => cases same; exact stands
    | _ => cases same
  commit _ holds acts := by
    obtain ⟨act,leads,same⟩ := act_leads holds acts
    cases leads with
    | commit commits => cases same; exact ⟨trivial,.idle (commits_idle commits)⟩
    | _ => cases same
  rollback _ holds acts := by
    obtain ⟨act,leads,same⟩ := act_leads holds acts
    cases leads with
    | rollback idle => cases same; exact .idle idle
    | _ => cases same
  fail _ _ := .idle (failed_idle _)
  stable _ holds other covered covers apart acts := by
    obtain ⟨act,leads,same⟩ := act_leads other acts
    cases leads with
    | commit commits => exact stands_stable holds (undisturbed other commits covered covers apart)
    | _ => cases same

end changes
end AccountStore
