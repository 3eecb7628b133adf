import RockServer.AccountTransactions

namespace AccountStore
open DeviceControl (Uuid Instant minutes)
open ReadCommitted (Rows Write Act Mode Process Program Outline overlay Covered Apart happens locked_kept)

abbrev Locks := List (AccountKey × Mode)

-- A request that its completion has found approved, unexpired and not used.
def PairingRequest.Payable (row : PairingRequest) (now : Instant) (user : Uuid) : Prop :=
  row.approvedByUserId = some user ∧ row.approvedAt.isSome = true ∧ row.consumedAt = none ∧ row.revokedAt = none ∧
  now < row.expiresAt

structure Paying (db : AccountDb) (now : Instant) (locks : Locks) (request user : Uuid) (row : PairingRequest) : Prop where
  requestLocked : (.pairing request,.update) ∈ locks
  ownerLocked : (.user user,.update) ∈ locks
  found : db.get (.pairing request) = some row
  payable : row.Payable now user
  active : db.get (.user user) = some ⟨.active⟩

-- Every write revokes a committed row of the account that was not revoked, in
-- one of the tables swept.
def Revoking (db : AccountDb) (user : Uuid) (list : List Sweep) (writes : List AccountWrite) : Prop :=
  ∀ write ∈ writes, (∃ sweep ∈ list, ∃ id, write.key = sweep.key id) ∧ ∃ row t, db.get write.key = some row ∧
    owner write.key row = some user ∧ revokedAt write.key row = none ∧ write.row = revoke t write.key row

def Operation.Removes (user : Uuid) : Operation → Prop
  | .deleteAccount target => target = user
  | .deactivateAccount target _ => target = user
  | _ => False

def Stage.Sweeps (user : Uuid) (list : List Sweep) : Stage → Prop
  | .sweeps target rest => target = user ∧ rest ⊆ list
  | .sweeping target sweep _ rest => target = user ∧ sweep ∈ list ∧ rest ⊆ list
  | .ending answer => answer = .done
  | _ => False

-- Places where a transaction has written nothing and relies on no lock.
def Stage.Idle : Stage → Prop
  | .entered | .begun | .approving _ | .revokingDevice | .loaded _ _ | .finding _ _ | .verified _ _ | .consuming _ _
  | .consumed _ | .advancing _ | .counted _ | .opening _ | .answered _ => True
  | _ => False

-- What an operation has written where it stands, against the committed rows.
inductive Stands (db : AccountDb) (now : Instant) (locks : Locks) : Operation → Stage → List AccountWrite → Prop where
  | idle {operation} {stage : Stage} : stage.Idle → Stands db now locks operation stage []
  | created {new : NewPairingRequest} : db.get (.pairing new.requestId) = none →
      Stands db now locks (.createPairing new) (.ending .done) [⟨.pairing new.requestId,new.row now⟩]
  | approved {request secret phrase proof user stage} {row : PairingRequest} : db.get (.pairing request) = some row →
      row.approvable now secret phrase = true → stage = .referencing user .done ∨ stage = .ending .done →
      Stands db now locks (.approvePairing request secret phrase proof) stage
        [⟨.pairing request,{row with approvedByUserId := some user,approvedAt := some now}⟩]
  | requestLocked {request token session} : (.pairing request,.update) ∈ locks →
      Stands db now locks (.completePairing request token session) .requestLocked []
  | payerLocked {request token session user row} : Paying db now locks request user row →
      Stands db now locks (.completePairing request token session) (.ownerLocked user) []
  | deviceInserted {request token user row} {session : NewPairingSession} : Paying db now locks request user row →
      db.get (.device session.deviceId) = none → db.activeDevices user < maxAccountDevices →
      Stands db now locks (.completePairing request token session) (.deviceInserted user)
        [⟨.device session.deviceId,⟨user,none⟩⟩]
  | sessionInserted {request token user row} {session : NewPairingSession} : Paying db now locks request user row →
      db.get (.device session.deviceId) = none → db.activeDevices user < maxAccountDevices →
      db.get (.session session.sessionId) = none →
      Stands db now locks (.completePairing request token session) (.sessionInserted user)
        [⟨.device session.deviceId,⟨user,none⟩⟩,⟨.session session.sessionId,⟨user,session.deviceId,none⟩⟩]
  | completed {request token user row} {session : NewPairingSession} : Paying db now locks request user row →
      db.get (.device session.deviceId) = none → db.activeDevices user < maxAccountDevices →
      db.get (.session session.sessionId) = none →
      Stands db now locks (.completePairing request token session) (.ending (.completed user))
        [⟨.device session.deviceId,⟨user,none⟩⟩,⟨.session session.sessionId,⟨user,session.deviceId,none⟩⟩,
          ⟨.pairing request,{row with consumedAt := some now}⟩]
  | deviceRevoked {user device writes} {stage : Stage} : stage.Sweeps user [.devices,.deviceSessions device] →
      Revoking db user [.devices,.deviceSessions device] writes →
      Stands db now locks (.revokeOwnedDevice user device) stage writes
  | accountLocked {account confirmed} : (.user account,.update) ∈ locks →
      Stands db now locks (.deactivateAccount account confirmed) .accountLocked []
  | removing {operation : Operation} {user writes} {stage : Stage} : operation.Removes user →
      stage.Sweeps user accountSweeps → db.get (.user user) = some ⟨.active⟩ → (.user user,.noKeyUpdate) ∈ locks →
      (∀ confirmed, operation = .deactivateAccount user confirmed → (.user user,.update) ∈ locks) →
      Revoking db user accountSweeps writes →
      Stands db now locks operation stage (⟨.user user,⟨.deleted⟩⟩ :: writes)
  | credentialLocked {credential confirmed} {row : PasskeyCredential} : (.passkey credential,.update) ∈ locks →
      db.get (.passkey credential) = some row → row.revokedAt = none →
      Stands db now locks (.revokeCredential credential confirmed) (.credentialLocked row.userId) []
  | credentialOwner {credential confirmed} {row : PasskeyCredential} : (.passkey credential,.update) ∈ locks →
      db.get (.passkey credential) = some row → row.revokedAt = none → (.user row.userId,.update) ∈ locks →
      Stands db now locks (.revokeCredential credential confirmed) (.ownerLocked row.userId) []
  | countChecked {credential confirmed} {row : PasskeyCredential} : (.passkey credential,.update) ∈ locks →
      db.get (.passkey credential) = some row → row.revokedAt = none → (.user row.userId,.update) ∈ locks →
      (db.userActive row.userId = true → 2 ≤ db.activePasskeys row.userId) →
      Stands db now locks (.revokeCredential credential confirmed) (.countChecked row.userId) []
  | credentialRevoked {credential confirmed} {row : PasskeyCredential} :
      db.get (.passkey credential) = some row → row.revokedAt = none → (.user row.userId,.update) ∈ locks →
      (db.userActive row.userId = true → 2 ≤ db.activePasskeys row.userId) →
      Stands db now locks (.revokeCredential credential confirmed) (.ending .done)
        [⟨.passkey credential,{row with revokedAt := some now}⟩]
  | passkeyCreated {user stage} {new : NewPasskey} : db.get (.passkey new.id) = none → db.get (.credential new.bytes) = none →
      stage = .referencing user .done ∨ stage = .ending .done ∧ (.user user,.keyShare) ∈ locks →
      Stands db now locks (.createPasskey user new) stage (new.writes user)
  | challengeConsumed {request : RegistrationVerify} {user} {row : WebauthnChallenge} :
      db.get (.challenge request.challengeId) = some row → row.open now = true →
      Stands db now locks (.registrationVerify request) (.challengeConsumed user)
        [⟨.challenge request.challengeId,{row with consumedAt := some now}⟩]
  | userInserted {request : RegistrationVerify} {user} {row : WebauthnChallenge} :
      db.get (.challenge request.challengeId) = some row → row.open now = true → db.get (.user user) = none →
      Stands db now locks (.registrationVerify request) (.userInserted user)
        [⟨.challenge request.challengeId,{row with consumedAt := some now}⟩,⟨.user user,⟨.active⟩⟩]
  | passkeyInserted {request : RegistrationVerify} {user} {row : WebauthnChallenge} {new : NewPasskey} :
      db.get (.challenge request.challengeId) = some row → row.open now = true → db.get (.user user) = none →
      db.get (.passkey new.id) = none → db.get (.credential new.bytes) = none →
      Stands db now locks (.registrationVerify request) (.passkeyInserted user)
        (⟨.challenge request.challengeId,{row with consumedAt := some now}⟩ :: ⟨.user user,⟨.active⟩⟩ :: new.writes user)
  | registered {request : RegistrationVerify} {user} {row : WebauthnChallenge} {new : NewPasskey} :
      db.get (.challenge request.challengeId) = some row → row.open now = true → db.get (.user user) = none →
      db.get (.passkey new.id) = none → db.get (.credential new.bytes) = none →
      db.get (.browserSession request.sessionId) = none →
      Stands db now locks (.registrationVerify request) (.ending (.registered user))
        (⟨.challenge request.challengeId,{row with consumedAt := some now}⟩ :: ⟨.user user,⟨.active⟩⟩ :: new.writes user ++
          [⟨.browserSession request.sessionId,(request.browser user).row now⟩])
  | challengeTaken {request : AuthenticationVerify} {user} {row : WebauthnChallenge} :
      db.get (.challenge request.challengeId) = some row → row.open now = true →
      Stands db now locks (.authenticationVerify request) (.challengeConsumed user)
        [⟨.challenge request.challengeId,{row with consumedAt := some now}⟩]
  | advanced {request : AuthenticationVerify} {user id newSignCount} {row : PasskeyCredential} :
      db.get (.passkey id) = some row → row.advances request.credential newSignCount = true →
      Stands db now locks (.authenticationVerify request) (.advanced user) [⟨.passkey id,{row with signCount := newSignCount}⟩]
  | authenticated {request : AuthenticationVerify} {user stage} : db.get (.browserSession request.sessionId) = none →
      stage = .referencing user (.authenticated user) ∨ stage = .ending (.authenticated user) ∧ (.user user,.keyShare) ∈ locks →
      Stands db now locks (.authenticationVerify request) stage
        [⟨.browserSession request.sessionId,(request.browser user).row now⟩]
  | sessionCreated {new : NewBrowserSession} {stage} : db.get (.browserSession new.sessionId) = none →
      stage = .referencing new.userId .done ∨ stage = .ending .done ∧ (.user new.userId,.keyShare) ∈ locks →
      Stands db now locks (.createBrowserSession new) stage [⟨.browserSession new.sessionId,new.row now⟩]
  | renewed {token id} {row : BrowserSession} : db.get (.browserSession id) = some row → row.renewable now token = true →
      Stands db now locks (.renewBrowserSession token) (.ending .done) [⟨.browserSession id,row.renew now⟩]
  | loggedOut {user token csrf id} {row : BrowserSession} : db.get (.browserSession id) = some row → row.revokedAt = none →
      Stands db now locks (.logoutBrowserSession user token csrf) (.ending .done)
        [⟨.browserSession id,{row with revokedAt := some now}⟩]
  | csrfRotated {token csrf id} {row : BrowserSession} : db.get (.browserSession id) = some row → row.live now = true →
      Stands db now locks (.rotateBrowserCsrf token csrf) (.ending .done) [⟨.browserSession id,{row with csrfTokenHash := csrf}⟩]
  | challengeCreated {new : NewWebauthnChallenge} : db.get (.challenge new.challengeId) = none →
      Stands db now locks (.createChallenge new) (.ending .done) [⟨.challenge new.challengeId,new.row now⟩]

end AccountStore
