import RockServer.AccountStore

-- The access sessions of native devices, with the credentials that the account
-- model leaves out.
namespace DeviceSessions
open DeviceControl (Uuid Instant minutes)
open ReadCommitted (Rows Write Act Process Program Mode)
open AccountStore (SecretHash User PairingRequest maxAccountDevices)

structure Device where
  userId : Uuid
  deviceSecretHash : SecretHash
  lastSeenAt : Option Instant
  revokedAt : Option Instant

structure Session where
  userId : Uuid
  deviceId : Uuid
  accessTokenHash : SecretHash
  accessExpiresAt : Instant
  revokedAt : Option Instant

-- The unique index on access tokens is a table of its own.
structure SessionDb where
  users : Table Uuid User
  devices : Table Uuid Device
  sessions : Table Uuid Session
  accessTokens : Table SecretHash Uuid
  pairingRequests : Table Uuid PairingRequest

inductive SessionKey where
  | user (id : Uuid)
  | device (id : Uuid)
  | session (id : Uuid)
  | accessToken (hash : SecretHash)
  | pairing (id : Uuid)
deriving DecidableEq

abbrev SessionRow : SessionKey → Type
  | .user _ => User
  | .device _ => Device
  | .session _ => Session
  | .accessToken _ => Uuid
  | .pairing _ => PairingRequest

abbrev SessionWrite := Write SessionRow

namespace SessionDb

def get (db : SessionDb) : (k : SessionKey) → Option (SessionRow k)
  | .user id => db.users[id]?
  | .device id => db.devices[id]?
  | .session id => db.sessions[id]?
  | .accessToken hash => db.accessTokens[hash]?
  | .pairing id => db.pairingRequests[id]?

def set (db : SessionDb) : (k : SessionKey) → SessionRow k → SessionDb
  | .user id,row => {db with users := db.users.insert id row}
  | .device id,row => {db with devices := db.devices.insert id row}
  | .session id,row => {db with sessions := db.sessions.insert id row}
  | .accessToken hash,row => {db with accessTokens := db.accessTokens.insert hash row}
  | .pairing id,row => {db with pairingRequests := db.pairingRequests.insert id row}

theorem get_set (db : SessionDb) (k : SessionKey) (row : SessionRow k) : (db.set k row).get k = some row := by
  cases k <;> exact Table.get_insert.trans (if_pos rfl)

theorem get_set_ne (db : SessionDb) (k : SessionKey) (row : SessionRow k) (j : SessionKey) (apart : k ≠ j) :
    (db.set k row).get j = db.get j := by
  cases k <;> cases j <;> first | rfl | exact Table.get_insert_ne fun same => apart (congrArg _ same)

instance : Rows SessionDb SessionKey SessionRow := ⟨get,set,get_set,get_set_ne⟩

def userActive (db : SessionDb) (id : Uuid) : Bool := (db.users[id]?).any fun row => row.status = .active

def activeDevices (db : SessionDb) (user : Uuid) : Nat :=
  Table.count (fun _ row => row.userId = user && row.revokedAt.isNone) db.devices

def accepts (db : SessionDb) (now : Instant) (accessHash : SecretHash) (row : Session) : Bool :=
  row.accessTokenHash = accessHash && row.revokedAt.isNone && now < row.accessExpiresAt && db.userActive row.userId &&
    (db.devices[row.deviceId]?).any fun device => device.revokedAt.isNone && device.userId = row.userId

def findActiveSessionByAccessHash (db : SessionDb) (now : Instant) (accessHash : SecretHash) : Option (Uuid × Session) :=
  db.sessions.toList.find? fun entry => db.accepts now accessHash entry.2

end SessionDb

-- Without a time of its own an access session ends after fifteen minutes.
structure NewPairingSession where
  deviceId : Uuid
  deviceSecretHash : SecretHash
  sessionId : Uuid
  accessHash : SecretHash
  accessExpiresAt : Option Instant

inductive Operation where
  | completePairing (request : Uuid) (desktopTokenHash : SecretHash) (session : NewPairingSession)
  | issueDeviceSession (device : Uuid) (deviceSecretHash : SecretHash) (session : Uuid) (accessHash : SecretHash)
  | revokeOwnedDevice (user device : Uuid)
  | deleteAccount (user : Uuid)

inductive Answer where
  | done
  | completed (user : Uuid)
  | issued (accessExpiresAt : Instant)
  | invalidProof
  | noLongerAvailable
  | pending
  | deviceLimit
  | refused
  | unavailable
deriving DecidableEq

-- The UPDATE statements that revoke rows, by what they ask of a row.
inductive Sweep where
  | devicesOf (user : Uuid)
  | sessionsOf (user : Uuid)
  | sessionsOfDevice (user device : Uuid)
  | sessionsOn (device : Uuid)
  | pairingRequestsOf (user : Uuid)

-- Where an operation stands between two of its statements.
inductive Stage where
  | entered
  | begun
  | requestLocked
  | ownerLocked (user : Uuid)
  | deviceInserted (user : Uuid)
  | sessionInserted (user : Uuid) (accessExpiresAt : Instant)
  | revokingDevice
  | sweeps (user : Uuid) (rest : List Sweep)
  | sweeping (user : Uuid) (sweep : Sweep) (ids : List Uuid) (rest : List Sweep)
  | replaced (user : Uuid)
  | ending (answer : Answer)
  | answered (answer : Answer)

structure SessionPlace where
  operation : Operation
  stage : Stage

abbrev SessionAct := Act SessionRow Stage
abbrev SessionProcess := Process SessionRow Instant SessionPlace
abbrev SessionServer := ReadCommitted.Server SessionDb Instant SessionRow SessionPlace
abbrev SessionMove := ReadCommitted.Move Instant Uuid SessionPlace

def refuse (answer : Answer) : SessionAct := .rollback (.answered answer)

def Sweep.key : Sweep → Uuid → SessionKey
  | .devicesOf _ => .device
  | .sessionsOf _ | .sessionsOfDevice _ _ | .sessionsOn _ => .session
  | .pairingRequestsOf _ => .pairing

def Sweep.ids : Sweep → SessionDb → List Uuid
  | .devicesOf _,db => db.devices.toList.map Prod.fst
  | .sessionsOf _,db | .sessionsOfDevice _ _,db | .sessionsOn _,db => db.sessions.toList.map Prod.fst
  | .pairingRequestsOf _,db => db.pairingRequests.toList.map Prod.fst

def Sweep.ofSession : Sweep → Session → Bool
  | .sessionsOf user,row => row.userId = user
  | .sessionsOfDevice user device,row => row.userId = user && row.deviceId = device
  | .sessionsOn device,row => row.deviceId = device
  | _,_ => false

-- What such a statement writes at one row, if the row meets its conditions.
def Sweep.revocation (db : SessionDb) (now : Instant) (id : Uuid) : Sweep → List SessionWrite
  | .devicesOf user => (((db.devices[id]?).filter fun row => row.userId = user && row.revokedAt.isNone).map fun row =>
    (⟨.device id,{row with revokedAt := some now}⟩ : SessionWrite)).toList
  | .pairingRequestsOf user =>
    (((db.pairingRequests[id]?).filter fun row => row.approvedByUserId = some user && row.revokedAt.isNone).map fun row =>
      (⟨.pairing id,{row with revokedAt := some now}⟩ : SessionWrite)).toList
  | sweep => (((db.sessions[id]?).filter fun row => sweep.ofSession row && row.revokedAt.isNone).map fun row =>
    (⟨.session id,{row with revokedAt := some now}⟩ : SessionWrite)).toList

-- The rows that it meets in its snapshot.
def Sweep.scan (db : SessionDb) (now : Instant) (sweep : Sweep) : List Uuid :=
  (sweep.ids db).filter fun id => !(sweep.revocation db now id).isEmpty

-- revoke_account_dependencies, as far as these tables go.
def accountSweeps (user : Uuid) : List Sweep := [.devicesOf user,.sessionsOf user,.pairingRequestsOf user]

section statements
variable (now : Instant) (db : SessionDb)

-- The rows of a scan are locked and judged again one by one, in any order.
def sweepStage (user : Uuid) (sweep : Sweep) (ids : List Uuid) (rest : List Sweep) : Stage :=
  if ids.isEmpty then .sweeps user rest else .sweeping user sweep ids rest

def sweep (choice : Uuid) (next : Uuid → Stage) : Stage → Option SessionAct
  | .sweeps user (sweep :: rest) => some (.statement [] [] (sweepStage user sweep (sweep.scan db now) rest))
  | .sweeps user [] => some (.statement [] [] (next user))
  | .sweeping user sweep ids rest =>
    if choice ∈ ids then
      some (.statement [] (sweep.revocation db now choice) (sweepStage user sweep (ids.erase choice) rest))
    else none
  | .ending answer => some (.commit (.answered answer))
  | _ => none

-- The insertion of an access session, with its entry in the index.
def insertSession (id : Uuid) (row : Session) (next : Stage) : SessionAct :=
  if (db.sessions[id]?).isSome || (db.accessTokens[row.accessTokenHash]?).isSome then refuse .unavailable
  else .statement [] [⟨.session id,row⟩,⟨.accessToken row.accessTokenHash,id⟩] next

-- The checks on the locked request, and the lock on its owner.
def lockOwner (row : PairingRequest) : SessionAct :=
  if row.revokedAt.isSome || row.consumedAt.isSome || row.expiresAt ≤ now then refuse .noLongerAvailable
  else if row.approvedAt.isNone then refuse .pending
  else match row.approvedByUserId with
    | none => refuse .noLongerAvailable
    | some user => if db.userActive user then .statement [(.user user,.update)] [] (.ownerLocked user) else refuse .noLongerAvailable

def completePairing (request : Uuid) (desktopTokenHash : SecretHash) (session : NewPairingSession) : Stage → Option SessionAct
  | .entered => some (.begin .begun)
  | .begun => some (if (db.pairingRequests[request]?).any (·.desktopTokenHash = desktopTokenHash) then
      .statement [(.pairing request,.update)] [] .requestLocked
    else refuse .invalidProof)
  | .requestLocked => (db.pairingRequests[request]?).map (lockOwner now db)
  | .ownerLocked user => some (
    if maxAccountDevices ≤ db.activeDevices user then refuse .deviceLimit
    else if (db.devices[session.deviceId]?).isSome then refuse .unavailable
    else .statement [] [⟨.device session.deviceId,⟨user,session.deviceSecretHash,none,none⟩⟩] (.deviceInserted user))
  | .deviceInserted user =>
    let accessExpiresAt := session.accessExpiresAt.getD (now + minutes 15)
    some (insertSession db session.sessionId ⟨user,session.deviceId,session.accessHash,accessExpiresAt,none⟩
      (.sessionInserted user accessExpiresAt))
  | .sessionInserted user _ => (db.pairingRequests[request]?).map fun row =>
    .statement [] [⟨.pairing request,{row with consumedAt := some now}⟩] (.ending (.completed user))
  | .ending answer => some (.commit (.answered answer))
  | _ => none

-- The device and its account are locked together, and judged as they are locked.
def issueDeviceSession (choice device : Uuid) (deviceSecretHash : SecretHash) (session : Uuid) (accessHash : SecretHash) :
    Stage → Option SessionAct
  | .entered => some (.begin .begun)
  | .begun => some (match (db.devices[device]?).filter fun row =>
      row.deviceSecretHash = deviceSecretHash && row.revokedAt.isNone && db.userActive row.userId with
    | some row => .statement [(.device device,.update),(.user row.userId,.update)] [] (.sweeps row.userId [.sessionsOn device])
    | none => refuse .refused)
  | .replaced user => some (insertSession db session ⟨user,device,accessHash,now + minutes 15,none⟩
    (.sessionInserted user (now + minutes 15)))
  | .sessionInserted _ accessExpiresAt => (db.devices[device]?).map fun row =>
    .statement [] [⟨.device device,{row with lastSeenAt := some now}⟩] (.ending (.issued accessExpiresAt))
  | stage => sweep now db choice .replaced stage

-- The device's row is judged again when it is locked, its account stays that of
-- the snapshot.
def revokeOwnedDevice (choice user device : Uuid) : Stage → Option SessionAct
  | .entered => some (.begin .begun)
  | .begun => some (
    if (db.devices[device]?).any (fun row => row.userId = user && row.revokedAt.isNone) && db.userActive user then
      .statement [] [] .revokingDevice
    else refuse .refused)
  | .revokingDevice => some (match (db.devices[device]?).filter fun row => row.userId = user && row.revokedAt.isNone with
    | some row => .statement [] [⟨.device device,{row with revokedAt := some now}⟩] (.sweeps user [.sessionsOfDevice user device])
    | none => refuse .refused)
  | stage => sweep now db choice (fun _ => .ending .done) stage

def deleteAccount (choice user : Uuid) : Stage → Option SessionAct
  | .entered => some (.begin .begun)
  | .begun => some (if db.userActive user then .statement [] [⟨.user user,⟨.deleted⟩⟩] (.sweeps user (accountSweeps user))
    else refuse .refused)
  | stage => sweep now db choice (fun _ => .ending .done) stage

def sessionAct (choice : Uuid) : Operation → Stage → Option SessionAct
  | .completePairing request desktopTokenHash session => completePairing now db request desktopTokenHash session
  | .issueDeviceSession device deviceSecretHash session accessHash =>
    issueDeviceSession now db choice device deviceSecretHash session accessHash
  | .revokeOwnedDevice user device => revokeOwnedDevice now db choice user device
  | .deleteAccount user => deleteAccount now db choice user

end statements

-- A failed call of the store ends the operation that waits for it.
def Stage.failed : Stage → Stage
  | .answered answer => .answered answer
  | _ => .answered .unavailable

-- Any of the operations comes at any time.
def sessionProgram : Program SessionDb Instant Uuid SessionRow SessionPlace where
  admits _ place := match place.stage with
    | .entered => true
    | _ => false
  act choice now db place := (sessionAct now db choice place.operation place.stage).map (Act.map fun stage => ⟨place.operation,stage⟩)
  failed place := ⟨place.operation,place.stage.failed⟩

end DeviceSessions
