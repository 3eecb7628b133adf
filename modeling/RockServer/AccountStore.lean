import RockServer.DeviceControl
import RockServer.ReadCommitted

namespace AccountStore
open DeviceControl (Uuid Instant minutes)
open ReadCommitted (Rows Write)

-- Hashes of secrets, credential identifiers of authenticators: compared only.
abbrev SecretHash := Nat
abbrev CredentialBytes := Nat

def maxAccountDevices : Nat := 50
def browserSessionIdleMinutes : Int := 30 * 24 * 60
def browserSessionAbsoluteMinutes : Int := 180 * 24 * 60
def webauthnOrigin : String := "https://rockplatform.win"
def webauthnRpId : String := "rockplatform.win"

inductive UserStatus where
  | active
  | deleted
deriving DecidableEq

inductive Ceremony where
  | registration
  | authentication
deriving DecidableEq

-- The verifier state stored with a challenge, with the hash of its challenge.
inductive StateBlob where
  | registration (user : Uuid) (challengeHash : SecretHash)
  | authentication (user : Option Uuid) (challengeHash : SecretHash)
deriving DecidableEq

structure User where
  status : UserStatus

structure PasskeyCredential where
  userId : Uuid
  credentialId : CredentialBytes
  signCount : Int
  revokedAt : Option Instant

structure Device where
  userId : Uuid
  revokedAt : Option Instant

structure NativeSession where
  userId : Uuid
  deviceId : Uuid
  revokedAt : Option Instant

structure BrowserSession where
  userId : Uuid
  sessionTokenHash : SecretHash
  csrfTokenHash : SecretHash
  passkeyReauthenticatedAt : Instant
  createdAt : Instant
  expiresAt : Instant
  absoluteExpiresAt : Instant
  revokedAt : Option Instant

structure AccountIdentity where
  userId : Uuid
  kind : String
  revokedAt : Option Instant

structure PairingRequest where
  desktopTokenHash : SecretHash
  approvalSecretHash : SecretHash
  verificationPhrase : String
  expiresAt : Instant
  approvedByUserId : Option Uuid
  approvedAt : Option Instant
  consumedAt : Option Instant
  revokedAt : Option Instant

structure WebauthnChallenge where
  challengeHash : SecretHash
  stateBlob : StateBlob
  ceremony : Ceremony
  rpId : String
  origin : String
  userId : Option Uuid
  expiresAt : Instant
  consumedAt : Option Instant
  revokedAt : Option Instant

-- The unique index on credential identifiers is a table of its own.
structure AccountDb where
  users : Table Uuid User
  passkeyCredentials : Table Uuid PasskeyCredential
  credentialIds : Table CredentialBytes Uuid
  devices : Table Uuid Device
  sessions : Table Uuid NativeSession
  browserSessions : Table Uuid BrowserSession
  accountIdentities : Table Uuid AccountIdentity
  pairingRequests : Table Uuid PairingRequest
  webauthnChallenges : Table Uuid WebauthnChallenge

inductive AccountKey where
  | user (id : Uuid)
  | passkey (id : Uuid)
  | credential (bytes : CredentialBytes)
  | device (id : Uuid)
  | session (id : Uuid)
  | browserSession (id : Uuid)
  | identity (id : Uuid)
  | pairing (id : Uuid)
  | challenge (id : Uuid)
deriving DecidableEq

abbrev AccountRow : AccountKey → Type
  | .user _ => User
  | .passkey _ => PasskeyCredential
  | .credential _ => Uuid
  | .device _ => Device
  | .session _ => NativeSession
  | .browserSession _ => BrowserSession
  | .identity _ => AccountIdentity
  | .pairing _ => PairingRequest
  | .challenge _ => WebauthnChallenge

abbrev AccountWrite := Write AccountRow

namespace AccountDb

def get (db : AccountDb) : (k : AccountKey) → Option (AccountRow k)
  | .user id => db.users[id]?
  | .passkey id => db.passkeyCredentials[id]?
  | .credential bytes => db.credentialIds[bytes]?
  | .device id => db.devices[id]?
  | .session id => db.sessions[id]?
  | .browserSession id => db.browserSessions[id]?
  | .identity id => db.accountIdentities[id]?
  | .pairing id => db.pairingRequests[id]?
  | .challenge id => db.webauthnChallenges[id]?

def set (db : AccountDb) : (k : AccountKey) → AccountRow k → AccountDb
  | .user id,row => {db with users := db.users.insert id row}
  | .passkey id,row => {db with passkeyCredentials := db.passkeyCredentials.insert id row}
  | .credential bytes,row => {db with credentialIds := db.credentialIds.insert bytes row}
  | .device id,row => {db with devices := db.devices.insert id row}
  | .session id,row => {db with sessions := db.sessions.insert id row}
  | .browserSession id,row => {db with browserSessions := db.browserSessions.insert id row}
  | .identity id,row => {db with accountIdentities := db.accountIdentities.insert id row}
  | .pairing id,row => {db with pairingRequests := db.pairingRequests.insert id row}
  | .challenge id,row => {db with webauthnChallenges := db.webauthnChallenges.insert id row}

theorem get_set (db : AccountDb) (k : AccountKey) (row : AccountRow k) : (db.set k row).get k = some row := by
  cases k <;> exact Table.get_insert.trans (if_pos rfl)

theorem get_set_ne (db : AccountDb) (k : AccountKey) (row : AccountRow k) (j : AccountKey) (apart : k ≠ j) :
    (db.set k row).get j = db.get j := by
  cases k <;> cases j <;> first | rfl | exact Table.get_insert_ne fun same => apart (congrArg _ same)

instance : Rows AccountDb AccountKey AccountRow := ⟨get,set,get_set,get_set_ne⟩

def userActive (db : AccountDb) (id : Uuid) : Bool := (db.users[id]?).any fun row => row.status = .active

def activeDevices (db : AccountDb) (user : Uuid) : Nat :=
  Table.count (fun _ row => row.userId = user && row.revokedAt.isNone) db.devices

def activePasskeys (db : AccountDb) (user : Uuid) : Nat :=
  Table.count (fun _ row => row.userId = user && row.revokedAt.isNone) db.passkeyCredentials

-- An administrator identity protects its account.
def protectedAccount (db : AccountDb) (user : Uuid) : Bool :=
  db.accountIdentities.toList.any fun entry => entry.2.userId = user && entry.2.kind = "admin" && entry.2.revokedAt.isNone

def present (db : AccountDb) (k : AccountKey) : Bool := (db.get k).isSome

end AccountDb

-- The account that a row belongs to, and the column that revokes it.
def owner : (k : AccountKey) → AccountRow k → Option Uuid
  | .user _,_ | .credential _,_ => none
  | .passkey _,row => some row.userId
  | .device _,row => some row.userId
  | .session _,row => some row.userId
  | .browserSession _,row => some row.userId
  | .identity _,row => some row.userId
  | .pairing _,row => row.approvedByUserId
  | .challenge _,row => row.userId

def revokedAt : (k : AccountKey) → AccountRow k → Option Instant
  | .user _,_ | .credential _,_ => none
  | .passkey _,row => row.revokedAt
  | .device _,row => row.revokedAt
  | .session _,row => row.revokedAt
  | .browserSession _,row => row.revokedAt
  | .identity _,row => row.revokedAt
  | .pairing _,row => row.revokedAt
  | .challenge _,row => row.revokedAt

def revoke (now : Instant) : (k : AccountKey) → AccountRow k → AccountRow k
  | .user _,row => row
  | .credential _,row => row
  | .passkey _,row => {row with revokedAt := some now}
  | .device _,row => {row with revokedAt := some now}
  | .session _,row => {row with revokedAt := some now}
  | .browserSession _,row => {row with revokedAt := some now}
  | .identity _,row => {row with revokedAt := some now}
  | .pairing _,row => {row with revokedAt := some now}
  | .challenge _,row => {row with revokedAt := some now}

-- The UPDATE statements that revoke the rows of an account.
inductive Sweep where
  | devices
  | sessions
  | deviceSessions (device : Uuid)
  | passkeys
  | browserSessions
  | identities
  | pairingRequests
  | challenges
deriving DecidableEq

def Sweep.key : Sweep → Uuid → AccountKey
  | .devices => .device
  | .sessions | .deviceSessions _ => .session
  | .passkeys => .passkey
  | .browserSessions => .browserSession
  | .identities => .identity
  | .pairingRequests => .pairing
  | .challenges => .challenge

def Sweep.ids : Sweep → AccountDb → List Uuid
  | .devices,db => db.devices.toList.map Prod.fst
  | .sessions,db | .deviceSessions _,db => db.sessions.toList.map Prod.fst
  | .passkeys,db => db.passkeyCredentials.toList.map Prod.fst
  | .browserSessions,db => db.browserSessions.toList.map Prod.fst
  | .identities,db => db.accountIdentities.toList.map Prod.fst
  | .pairingRequests,db => db.pairingRequests.toList.map Prod.fst
  | .challenges,db => db.webauthnChallenges.toList.map Prod.fst

def Sweep.ofDevice : Sweep → (k : AccountKey) → AccountRow k → Bool
  | .deviceSessions device,.session _,row => row.deviceId = device
  | _,_,_ => true

-- What such a statement writes at one row, if the row meets its conditions.
def Sweep.revocation (sweep : Sweep) (db : AccountDb) (now : Instant) (user id : Uuid) : List AccountWrite :=
  match db.get (sweep.key id) with
  | some row =>
    if owner (sweep.key id) row = some user && (revokedAt (sweep.key id) row).isNone && sweep.ofDevice (sweep.key id) row then
      [⟨sweep.key id,revoke now (sweep.key id) row⟩]
    else []
  | none => []

-- The rows that it meets in its snapshot.
def Sweep.scan (sweep : Sweep) (db : AccountDb) (now : Instant) (user : Uuid) : List Uuid :=
  (sweep.ids db).filter fun id => !(sweep.revocation db now user id).isEmpty

-- revoke_account_dependencies
def accountSweeps : List Sweep :=
  [.devices,.sessions,.passkeys,.browserSessions,.identities,.pairingRequests,.challenges]

end AccountStore
