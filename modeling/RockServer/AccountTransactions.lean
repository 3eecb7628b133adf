import RockServer.AccountStore

namespace AccountStore
open DeviceControl (Uuid Instant minutes)
open ReadCommitted (Rows Write Act Mode Process Program)

structure NewPairingRequest where
  requestId : Uuid
  desktopTokenHash : SecretHash
  approvalSecretHash : SecretHash
  verificationPhrase : String
  lifetimeMinutes : Int

structure NewPairingSession where
  deviceId : Uuid
  sessionId : Uuid

structure NewBrowserSession where
  sessionId : Uuid
  userId : Uuid
  sessionTokenHash : SecretHash
  csrfHash : SecretHash

structure NewPasskey where
  id : Uuid
  bytes : CredentialBytes
  signCount : Nat

structure NewWebauthnChallenge where
  challengeId : Uuid
  challengeHash : SecretHash
  stateBlob : StateBlob
  ceremony : Ceremony
  rpId : String
  origin : String
  userId : Option Uuid
  lifetimeMinutes : Int

-- A browser session named by its owner, or proved by the opaque cookie.
inductive BrowserProof where
  | session (user : Uuid) (id : Uuid)
  | cookie (sessionTokenHash csrfHash : SecretHash)

-- The queries that accept a browser session.
inductive SessionCheck where
  | approval (proof : BrowserProof)
  | logout (user : Uuid) (sessionTokenHash csrfHash : SecretHash)
  | renewal (sessionTokenHash : SecretHash)
  | csrfRotation (sessionTokenHash : SecretHash)
  | freshForUser (user : Uuid) (sessionTokenHash csrfHash : SecretHash)
  | displayName (sessionTokenHash : SecretHash)
  | sessionUser (sessionTokenHash : SecretHash)
  | sessionUserWithCsrf (sessionTokenHash csrfHash : SecretHash)

-- `verified` is what the verifier makes of the response, `session` what the
-- handler draws for the browser.
structure RegistrationVerify where
  challengeId : Uuid
  verified : Option (CredentialBytes × Nat)
  credentialId : Uuid
  sessionId : Uuid
  sessionTokenHash : SecretHash
  csrfHash : SecretHash

structure AuthenticationVerify where
  challengeId : Uuid
  userHandle : Option Uuid
  credential : CredentialBytes
  verified : Option Nat
  sessionId : Uuid
  sessionTokenHash : SecretHash
  csrfHash : SecretHash

inductive Operation where
  | createPairing (new : NewPairingRequest)
  | approvePairing (request : Uuid) (approvalSecretHash : SecretHash) (verificationPhrase : String) (proof : BrowserProof)
  | completePairing (request : Uuid) (desktopTokenHash : SecretHash) (session : NewPairingSession)
  | revokeOwnedDevice (user device : Uuid)
  | deleteAccount (user : Uuid)
  | deactivateAccount (account : Uuid) (confirmed : Bool)
  | revokeCredential (credential : Uuid) (confirmed : Bool)
  | createPasskey (user : Uuid) (new : NewPasskey)
  | registrationVerify (request : RegistrationVerify)
  | authenticationVerify (request : AuthenticationVerify)
  | createBrowserSession (new : NewBrowserSession)
  | renewBrowserSession (sessionTokenHash : SecretHash)
  | logoutBrowserSession (user : Uuid) (sessionTokenHash csrfHash : SecretHash)
  | rotateBrowserCsrf (sessionTokenHash csrfTokenHash : SecretHash)
  | createChallenge (new : NewWebauthnChallenge)

inductive AccountAnswer where
  | done
  | completed (user : Uuid)
  | registered (user : Uuid)
  | authenticated (user : Uuid)
  | invalidProof
  | noLongerAvailable
  | pending
  | deviceLimit
  | challengeRejected
  | webauthnRejected
  | credentialAlreadyRegistered
  | refused
  | notFound
  | notActive
  | accountProtected
  | lastWorkingPasskey
  | invalidConfirmation
  | unavailable
deriving DecidableEq

-- Where an operation stands between two of its statements.
inductive Stage where
  | entered
  | begun
  | approving (user : Uuid)
  | requestLocked
  | ownerLocked (user : Uuid)
  | deviceInserted (user : Uuid)
  | sessionInserted (user : Uuid)
  | revokingDevice
  | accountLocked
  | credentialLocked (user : Uuid)
  | countChecked (user : Uuid)
  | sweeps (user : Uuid) (rest : List Sweep)
  | sweeping (user : Uuid) (sweep : Sweep) (ids : List Uuid) (rest : List Sweep)
  | loaded (user : Uuid) (challengeHash : SecretHash)
  | finding (user : Uuid) (challengeHash : SecretHash)
  | verified (user : Uuid) (challengeHash : SecretHash)
  | consuming (user : Uuid) (challengeHash : SecretHash)
  | challengeConsumed (user : Uuid)
  | userInserted (user : Uuid)
  | passkeyInserted (user : Uuid)
  | consumed (user : Uuid)
  | advancing (user : Uuid)
  | advanced (user : Uuid)
  | counted (user : Uuid)
  | opening (user : Uuid)
  | referencing (user : Uuid) (answer : AccountAnswer)
  | ending (answer : AccountAnswer)
  | answered (answer : AccountAnswer)

structure AccountPlace where
  operation : Operation
  stage : Stage

abbrev AccountAct := Act AccountRow Stage
abbrev AccountProcess := Process AccountRow Instant AccountPlace
abbrev AccountServer := ReadCommitted.Server AccountDb Instant AccountRow AccountPlace
abbrev AccountMove := ReadCommitted.Move Instant Uuid AccountPlace

def refuse (answer : AccountAnswer) : AccountAct := .rollback (.answered answer)

def NewBrowserSession.row (new : NewBrowserSession) (now : Instant) : BrowserSession :=
  ⟨new.userId,new.sessionTokenHash,new.csrfHash,now,now,now + minutes browserSessionIdleMinutes,
    now + minutes browserSessionAbsoluteMinutes,none⟩

def NewPairingRequest.row (new : NewPairingRequest) (now : Instant) : PairingRequest :=
  ⟨new.desktopTokenHash,new.approvalSecretHash,new.verificationPhrase,now + minutes new.lifetimeMinutes,none,none,none,none⟩

def NewPasskey.row (new : NewPasskey) (user : Uuid) : PasskeyCredential := ⟨user,new.bytes,new.signCount,none⟩

def NewPasskey.writes (new : NewPasskey) (user : Uuid) : List AccountWrite :=
  [⟨.passkey new.id,new.row user⟩,⟨.credential new.bytes,new.id⟩]

def NewPasskey.taken (new : NewPasskey) (db : AccountDb) : Bool := db.present (.passkey new.id) || db.present (.credential new.bytes)

def NewWebauthnChallenge.row (new : NewWebauthnChallenge) (now : Instant) : WebauthnChallenge :=
  ⟨new.challengeHash,new.stateBlob,new.ceremony,new.rpId,new.origin,new.userId,now + minutes new.lifetimeMinutes,none,none⟩

def RegistrationVerify.browser (request : RegistrationVerify) (user : Uuid) : NewBrowserSession :=
  ⟨request.sessionId,user,request.sessionTokenHash,request.csrfHash⟩

def AuthenticationVerify.browser (request : AuthenticationVerify) (user : Uuid) : NewBrowserSession :=
  ⟨request.sessionId,user,request.sessionTokenHash,request.csrfHash⟩

section statements
variable (now : Instant) (db : AccountDb)

def createPairingRequestForMinutes (new : NewPairingRequest) : Stage → Option AccountAct
  | .entered => some (.begin .begun)
  | .begun => some (if db.present (.pairing new.requestId) then refuse .unavailable
    else .statement [] [⟨.pairing new.requestId,new.row now⟩] (.ending .done))
  | .ending answer => some (.commit (.answered answer))
  | _ => none

def BrowserSession.live (row : BrowserSession) : Bool := row.revokedAt.isNone && now < row.expiresAt

-- The browser session with its user that the UPDATE joins.
def BrowserProof.meets (proof : BrowserProof) (id : Uuid) (row : BrowserSession) : Bool :=
  row.live now && db.userActive row.userId && match proof with
  | .session user named => id = named && row.userId = user
  | .cookie sessionTokenHash csrfHash => row.sessionTokenHash = sessionTokenHash && row.csrfTokenHash = csrfHash

def BrowserSession.renewable (row : BrowserSession) (sessionTokenHash : SecretHash) : Bool :=
  row.sessionTokenHash = sessionTokenHash && row.live now && row.expiresAt < now + minutes browserSessionIdleMinutes / 2

def BrowserSession.renew (row : BrowserSession) : BrowserSession :=
  {row with expiresAt := min (now + minutes browserSessionIdleMinutes) row.absoluteExpiresAt}

-- Half of these look at the absolute expiry as well.
def SessionCheck.accepts (id : Uuid) (row : BrowserSession) : SessionCheck → Bool
  | .approval proof => proof.meets now db id row
  | .logout user sessionTokenHash csrfHash =>
    row.userId = user && row.sessionTokenHash = sessionTokenHash && row.csrfTokenHash = csrfHash && row.live now
  | .renewal sessionTokenHash => row.renewable now sessionTokenHash
  | .csrfRotation sessionTokenHash | .displayName sessionTokenHash =>
    row.sessionTokenHash = sessionTokenHash && row.live now && db.userActive row.userId
  | .freshForUser user sessionTokenHash csrfHash =>
    row.userId = user && row.sessionTokenHash = sessionTokenHash && row.csrfTokenHash = csrfHash && row.live now &&
    now - minutes 2 < row.passkeyReauthenticatedAt && db.userActive row.userId
  | .sessionUser sessionTokenHash =>
    row.sessionTokenHash = sessionTokenHash && row.live now && now < row.absoluteExpiresAt && db.userActive row.userId
  | .sessionUserWithCsrf sessionTokenHash csrfHash =>
    row.sessionTokenHash = sessionTokenHash && row.csrfTokenHash = csrfHash && row.live now && now < row.absoluteExpiresAt &&
    db.userActive row.userId

def SessionCheck.accepted (check : SessionCheck) : Bool :=
  db.browserSessions.toList.any fun entry => check.accepts now db entry.1 entry.2

def PairingRequest.approvable (row : PairingRequest) (approvalSecretHash : SecretHash) (verificationPhrase : String) : Bool :=
  row.approvalSecretHash = approvalSecretHash && row.verificationPhrase = verificationPhrase && row.approvedAt.isNone &&
  row.consumedAt.isNone && row.revokedAt.isNone && now < row.expiresAt

-- The request's row is judged again when it is locked, its session and user
-- stay those of the snapshot. The choice names the session.
def approvePairingRequest (choice request : Uuid) (approvalSecretHash : SecretHash) (verificationPhrase : String)
    (proof : BrowserProof) : Stage → Option AccountAct
  | .entered => some (.begin .begun)
  | .begun =>
    if (db.pairingRequests[request]?).any (·.approvable now approvalSecretHash verificationPhrase) &&
        (SessionCheck.approval proof).accepted now db then
      ((db.browserSessions[choice]?).filter fun row => (SessionCheck.approval proof).accepts now db choice row).map fun row =>
        .statement [] [] (.approving row.userId)
    else some (refuse .refused)
  | .approving user => some (match (db.pairingRequests[request]?).filter (·.approvable now approvalSecretHash verificationPhrase) with
    | some row => .statement [] [⟨.pairing request,{row with approvedByUserId := some user,approvedAt := some now}⟩]
      (.referencing user .done)
    | none => refuse .refused)
  | .referencing user answer => some (.statement [(.user user,.keyShare)] [] (.ending answer))
  | .ending answer => some (.commit (.answered answer))
  | _ => none

-- The checks on the locked request, and the lock on its owner.
def lockOwner (row : PairingRequest) : AccountAct :=
  if row.revokedAt.isSome || row.consumedAt.isSome || row.expiresAt ≤ now then refuse .noLongerAvailable
  else if row.approvedAt.isNone then refuse .pending
  else match row.approvedByUserId with
    | none => refuse .noLongerAvailable
    | some user => if db.userActive user then .statement [(.user user,.update)] [] (.ownerLocked user) else refuse .noLongerAvailable

def completePairing (request : Uuid) (desktopTokenHash : SecretHash) (session : NewPairingSession) : Stage → Option AccountAct
  | .entered => some (.begin .begun)
  | .begun => some (if (db.pairingRequests[request]?).any (·.desktopTokenHash = desktopTokenHash) then
      .statement [(.pairing request,.update)] [] .requestLocked
    else refuse .invalidProof)
  | .requestLocked => (db.pairingRequests[request]?).map (lockOwner now db)
  | .ownerLocked user => some (
    if maxAccountDevices ≤ db.activeDevices user then refuse .deviceLimit
    else if db.present (.device session.deviceId) then refuse .unavailable
    else .statement [] [⟨.device session.deviceId,⟨user,none⟩⟩] (.deviceInserted user))
  | .deviceInserted user => some (if db.present (.session session.sessionId) then refuse .unavailable
    else .statement [] [⟨.session session.sessionId,⟨user,session.deviceId,none⟩⟩] (.sessionInserted user))
  | .sessionInserted user => (db.pairingRequests[request]?).map fun row =>
    .statement [] [⟨.pairing request,{row with consumedAt := some now}⟩] (.ending (.completed user))
  | .ending answer => some (.commit (.answered answer))
  | _ => none

-- The rows of a scan are locked and judged again one by one, in any order.
def sweepStage (user : Uuid) (sweep : Sweep) (ids : List Uuid) (rest : List Sweep) : Stage :=
  if ids.isEmpty then .sweeps user rest else .sweeping user sweep ids rest

def sweep (choice : Uuid) : Stage → Option AccountAct
  | .sweeps user (sweep :: rest) => some (.statement [] [] (sweepStage user sweep (sweep.scan db now user) rest))
  | .sweeps _ [] => some (.statement [] [] (.ending .done))
  | .sweeping user sweep ids rest =>
    if choice ∈ ids then
      some (.statement [] (sweep.revocation db now user choice) (sweepStage user sweep (ids.erase choice) rest))
    else none
  | .ending answer => some (.commit (.answered answer))
  | _ => none

def revokeOwnedDevice (choice user device : Uuid) : Stage → Option AccountAct
  | .entered => some (.begin .begun)
  | .begun => some (
    if (db.devices[device]?).any (fun row => row.userId = user && row.revokedAt.isNone) && db.userActive user then
      .statement [] [] .revokingDevice
    else refuse .refused)
  | .revokingDevice => some (match (db.devices[device]?).filter fun row => row.userId = user && row.revokedAt.isNone with
    | some row => .statement [] [⟨.device device,{row with revokedAt := some now}⟩] (.sweeps user [.deviceSessions device])
    | none => refuse .refused)
  | stage => sweep now db choice stage

def deleteAccount (choice user : Uuid) : Stage → Option AccountAct
  | .entered => some (.begin .begun)
  | .begun => some (if db.userActive user then .statement [] [⟨.user user,⟨.deleted⟩⟩] (.sweeps user accountSweeps) else refuse .refused)
  | stage => sweep now db choice stage

def deactivateAccountForOperator (choice account : Uuid) (confirmed : Bool) : Stage → Option AccountAct
  | .entered => some (if confirmed then .begin .begun else refuse .invalidConfirmation)
  | .begun => some (if db.present (.user account) then .statement [(.user account,.update)] [] .accountLocked else refuse .notFound)
  | .accountLocked => some (
    if !db.userActive account then refuse .notActive
    else if db.protectedAccount account then refuse .accountProtected
    else .statement [] [⟨.user account,⟨.deleted⟩⟩] (.sweeps account accountSweeps))
  | stage => sweep now db choice stage

def revokeCredentialForOperator (credential : Uuid) (confirmed : Bool) : Stage → Option AccountAct
  | .entered => some (if confirmed then .begin .begun else refuse .invalidConfirmation)
  | .begun => some (match (db.passkeyCredentials[credential]?).filter (·.revokedAt.isNone) with
    | some row => .statement [(.passkey credential,.update)] [] (.credentialLocked row.userId)
    | none => refuse .notFound)
  | .credentialLocked user => some (if db.present (.user user) then .statement [(.user user,.update)] [] (.ownerLocked user)
    else refuse .unavailable)
  | .ownerLocked user => some (if db.userActive user && db.activePasskeys user ≤ 1 then refuse .lastWorkingPasskey
    else .statement [] [] (.countChecked user))
  | .countChecked _ => some (match (db.passkeyCredentials[credential]?).filter (·.revokedAt.isNone) with
    | some row => .statement [] [⟨.passkey credential,{row with revokedAt := some now}⟩] (.ending .done)
    | none => .statement [] [] (.ending .done))
  | .ending answer => some (.commit (.answered answer))
  | _ => none

-- The foreign key is checked after the insertion, with a lock on the user.
def createPasskeyCredential (user : Uuid) (new : NewPasskey) : Stage → Option AccountAct
  | .entered => some (.begin .begun)
  | .begun => some (
    if !db.userActive user then refuse .refused
    else if new.taken db then refuse .unavailable
    else .statement [] (new.writes user) (.referencing user .done))
  | .referencing user answer => some (.statement [(.user user,.keyShare)] [] (.ending answer))
  | .ending answer => some (.commit (.answered answer))
  | _ => none

def openSession (new : NewBrowserSession) (missing answer : AccountAnswer) : AccountAct :=
  if !db.userActive new.userId then refuse missing
  else if db.present (.browserSession new.sessionId) then refuse .unavailable
  else .statement [] [⟨.browserSession new.sessionId,new.row now⟩] (.referencing new.userId answer)

def createBrowserSessionWithPolicy (new : NewBrowserSession) : Stage → Option AccountAct
  | .entered => some (.begin .begun)
  | .begun => some (openSession now db new .refused .done)
  | .referencing user answer => some (.statement [(.user user,.keyShare)] [] (.ending answer))
  | .ending answer => some (.commit (.answered answer))
  | _ => none

-- One live row has a token; the choice names it.
def updateSession (choice : Uuid) (check : SessionCheck) (change : BrowserSession → BrowserSession) (missing : AccountAnswer) :
    Option AccountAct :=
  if check.accepted now db then
    ((db.browserSessions[choice]?).filter fun row => check.accepts now db choice row).map fun row =>
      .statement [] [⟨.browserSession choice,change row⟩] (.ending .done)
  else some (refuse missing)

def renewBrowserSession (choice : Uuid) (sessionTokenHash : SecretHash) : Stage → Option AccountAct
  | .entered => some (.begin .begun)
  | .begun => updateSession now db choice (.renewal sessionTokenHash) (·.renew now) .done
  | .ending answer => some (.commit (.answered answer))
  | _ => none

def logoutBrowserSession (choice user : Uuid) (sessionTokenHash csrfHash : SecretHash) : Stage → Option AccountAct
  | .entered => some (.begin .begun)
  | .begun => updateSession now db choice (.logout user sessionTokenHash csrfHash)
    (fun row => {row with revokedAt := some now}) .refused
  | .ending answer => some (.commit (.answered answer))
  | _ => none

def rotateBrowserCsrf (choice : Uuid) (sessionTokenHash csrfTokenHash : SecretHash) : Stage → Option AccountAct
  | .entered => some (.begin .begun)
  | .begun => updateSession now db choice (.csrfRotation sessionTokenHash)
    (fun row => {row with csrfTokenHash := csrfTokenHash}) .refused
  | .ending answer => some (.commit (.answered answer))
  | _ => none

def createWebauthnChallengeForMinutes (new : NewWebauthnChallenge) : Stage → Option AccountAct
  | .entered => some (.begin .begun)
  | .begun => some (if db.present (.challenge new.challengeId) then refuse .unavailable
    else .statement [] [⟨.challenge new.challengeId,new.row now⟩] (.ending .done))
  | .ending answer => some (.commit (.answered answer))
  | _ => none

def WebauthnChallenge.open (row : WebauthnChallenge) : Bool :=
  row.consumedAt.isNone && row.revokedAt.isNone && now < row.expiresAt

def loadWebauthnChallengeState (challenge : Uuid) : Option StateBlob :=
  ((db.webauthnChallenges[challenge]?).filter (·.open now)).map (·.stateBlob)

def WebauthnChallenge.consumable (row : WebauthnChallenge) (challengeHash : SecretHash) (ceremony : Ceremony) : Bool :=
  row.challengeHash = challengeHash && row.ceremony = ceremony && row.origin = webauthnOrigin && row.rpId = webauthnRpId && row.open now

-- The UPDATE that consumes a challenge; a registration asks for one without an
-- account.
def consumeChallenge (challenge : Uuid) (meets : WebauthnChallenge → Bool) (user : Uuid) : AccountAct :=
  match (db.webauthnChallenges[challenge]?).filter meets with
  | some row => .statement [] [⟨.challenge challenge,{row with consumedAt := some now}⟩] (.challengeConsumed user)
  | none => refuse .challengeRejected

-- registration_verify with complete_passkey_registration.
def registrationVerify (request : RegistrationVerify) : Stage → Option AccountAct
  | .entered => some (.begin .begun)
  | .begun => some (match loadWebauthnChallengeState now db request.challengeId with
    | some (.registration user challengeHash) =>
      if request.verified.isSome then .rollback (.loaded user challengeHash) else refuse .webauthnRejected
    | some (.authentication _ _) | none => refuse .challengeRejected)
  | .loaded user challengeHash => some (.begin (.consuming user challengeHash))
  | .consuming user challengeHash => some (consumeChallenge now db request.challengeId
    (fun row => row.consumable now challengeHash .registration && row.userId.isNone) user)
  | .challengeConsumed user => some (if db.present (.user user) then refuse .unavailable
    else .statement [] [⟨.user user,⟨.active⟩⟩] (.userInserted user))
  | .userInserted user => request.verified.map fun (bytes,signCount) =>
    let new : NewPasskey := ⟨request.credentialId,bytes,signCount⟩
    if new.taken db then refuse .credentialAlreadyRegistered else .statement [] (new.writes user) (.passkeyInserted user)
  | .passkeyInserted user => some (if db.present (.browserSession request.sessionId) then refuse .unavailable
    else .statement [] [⟨.browserSession request.sessionId,(request.browser user).row now⟩] (.ending (.registered user)))
  | .ending answer => some (.commit (.answered answer))
  | _ => none

def PasskeyCredential.advances (row : PasskeyCredential) (credential : CredentialBytes) (newSignCount : Int) : Bool :=
  row.credentialId = credential && row.revokedAt.isNone && row.signCount ≤ newSignCount &&
  !(decide (0 < row.signCount) && newSignCount = 0)

-- authentication_verify: every call of the store is a transaction of its own.
def authenticationVerify (choice : Uuid) (request : AuthenticationVerify) : Stage → Option AccountAct
  | .entered => some (.begin .begun)
  | .begun => some (match loadWebauthnChallengeState now db request.challengeId with
    | some (.authentication expected challengeHash) => match request.userHandle with
      | some user => if expected.all (· = user) then .rollback (.loaded user challengeHash) else refuse .webauthnRejected
      | none => refuse .webauthnRejected
    | some (.registration _ _) | none => refuse .challengeRejected)
  | .loaded user challengeHash => some (.begin (.finding user challengeHash))
  | .finding user challengeHash => some (
    if db.passkeyCredentials.toList.any (fun entry => entry.2.userId = user && entry.2.credentialId = request.credential &&
        entry.2.revokedAt.isNone) && request.verified.isSome then .rollback (.verified user challengeHash)
    else refuse .webauthnRejected)
  | .verified user challengeHash => some (.begin (.consuming user challengeHash))
  | .consuming user challengeHash => some (consumeChallenge now db request.challengeId
    (fun row => row.consumable now challengeHash .authentication) user)
  | .challengeConsumed user => some (.commit (.consumed user))
  | .consumed user => some (.begin (.advancing user))
  | .advancing user => request.verified.bind fun newSignCount =>
    -- The unique index leaves one row; the choice names it.
    if db.passkeyCredentials.toList.any fun entry => entry.2.advances request.credential newSignCount then
      ((db.passkeyCredentials[choice]?).filter (·.advances request.credential newSignCount)).map fun row =>
        .statement [] [⟨.passkey choice,{row with signCount := newSignCount}⟩] (.advanced user)
    else some (refuse .challengeRejected)
  | .advanced user => some (.commit (.counted user))
  | .counted user => some (.begin (.opening user))
  | .opening user => some (openSession now db (request.browser user) .unavailable (.authenticated user))
  | .referencing user answer => some (.statement [(.user user,.keyShare)] [] (.ending answer))
  | .ending answer => some (.commit (.answered answer))
  | _ => none

def accountAct (choice : Uuid) : Operation → Stage → Option AccountAct
  | .createPairing new => createPairingRequestForMinutes now db new
  | .approvePairing request approvalSecretHash verificationPhrase proof =>
    approvePairingRequest now db choice request approvalSecretHash verificationPhrase proof
  | .completePairing request desktopTokenHash session => completePairing now db request desktopTokenHash session
  | .revokeOwnedDevice user device => revokeOwnedDevice now db choice user device
  | .deleteAccount user => deleteAccount now db choice user
  | .deactivateAccount account confirmed => deactivateAccountForOperator now db choice account confirmed
  | .revokeCredential credential confirmed => revokeCredentialForOperator now db credential confirmed
  | .createPasskey user new => createPasskeyCredential db user new
  | .registrationVerify request => registrationVerify now db request
  | .authenticationVerify request => authenticationVerify now db choice request
  | .createBrowserSession new => createBrowserSessionWithPolicy now db new
  | .renewBrowserSession sessionTokenHash => renewBrowserSession now db choice sessionTokenHash
  | .logoutBrowserSession user sessionTokenHash csrfHash => logoutBrowserSession now db choice user sessionTokenHash csrfHash
  | .rotateBrowserCsrf sessionTokenHash csrfTokenHash => rotateBrowserCsrf now db choice sessionTokenHash csrfTokenHash
  | .createChallenge new => createWebauthnChallengeForMinutes now db new

end statements

-- A failed call of the store ends the operation that waits for it.
def Stage.failed : Stage → Stage
  | .answered answer => .answered answer
  | _ => .answered .unavailable

-- Any operation comes at any time.
def accountProgram : Program AccountDb Instant Uuid AccountRow AccountPlace where
  admits _ place := match place.stage with
    | .entered => true
    | _ => false
  act choice now db place := (accountAct now db choice place.operation place.stage).map (Act.map fun stage => ⟨place.operation,stage⟩)
  failed place := ⟨place.operation,place.stage.failed⟩

end AccountStore
