import RockServer.DeviceControl
import RockServer.ReadCommitted

namespace AdminAuth
open DeviceControl (Uuid Instant seconds)
open ReadCommitted (Rows Write Act Process Program)

-- Token hashes are compared only.
abbrev SecretHash := Nat

def sessionTtlSeconds : Int := 15 * 60

structure AdminPrincipal where
  active : Bool

structure AdminSession where
  principalId : Uuid
  tokenHash : SecretHash
  expiresAt : Instant
  revokedAt : Option Instant
  replacedById : Option Uuid

structure AdminDb where
  principals : Table Uuid AdminPrincipal
  sessions : Table Uuid AdminSession

inductive AdminKey where
  | principal (id : Uuid)
  | session (id : Uuid)
deriving DecidableEq

abbrev AdminRow : AdminKey → Type
  | .principal _ => AdminPrincipal
  | .session _ => AdminSession

namespace AdminDb

def get (db : AdminDb) : (k : AdminKey) → Option (AdminRow k)
  | .principal id => db.principals[id]?
  | .session id => db.sessions[id]?

def set (db : AdminDb) : (k : AdminKey) → AdminRow k → AdminDb
  | .principal id,row => {db with principals := db.principals.insert id row}
  | .session id,row => {db with sessions := db.sessions.insert id row}

theorem get_set (db : AdminDb) (k : AdminKey) (row : AdminRow k) : (db.set k row).get k = some row := by
  cases k <;> exact Table.get_insert.trans (if_pos rfl)

theorem get_set_ne (db : AdminDb) (k : AdminKey) (row : AdminRow k) (j : AdminKey) (apart : k ≠ j) :
    (db.set k row).get j = db.get j := by
  cases k <;> cases j
  case principal.principal i j => exact Table.get_insert_ne fun same => apart (congrArg _ same)
  case session.session i j => exact Table.get_insert_ne fun same => apart (congrArg _ same)
  all_goals rfl

instance : Rows AdminDb AdminKey AdminRow := ⟨get,set,get_set,get_set_ne⟩

def principalActive (db : AdminDb) (id : Uuid) : Bool := (db.principals[id]?).any AdminPrincipal.active

-- What find_active_session asks of a row.
def accepts (db : AdminDb) (now : Instant) (row : AdminSession) : Bool :=
  row.revokedAt.isNone && now < row.expiresAt && db.principalActive row.principalId

def findActiveSession (db : AdminDb) (now : Instant) (tokenHash : SecretHash) : Option (Uuid × AdminSession) :=
  db.sessions.toList.find? fun entry => entry.2.tokenHash = tokenHash && db.accepts now entry.2

-- The keys of an insertion that are unique in the table.
def taken (db : AdminDb) (id : Uuid) (tokenHash : SecretHash) : Bool :=
  (db.sessions[id]?).isSome || db.sessions.toList.any fun entry => entry.2.tokenHash = tokenHash

end AdminDb

structure NewAdminSession where
  id : Uuid
  principalId : Uuid
  tokenHash : SecretHash
  ttlSeconds : Int

def NewAdminSession.row (new : NewAdminSession) (now : Instant) (principal : Uuid) : AdminSession :=
  ⟨principal,new.tokenHash,now + seconds new.ttlSeconds,none,none⟩

def AdminSession.revoke (row : AdminSession) (now : Instant) (replacement : Option Uuid) : AdminSession :=
  {row with revokedAt := some now,replacedById := replacement}

-- A login stands here where its password is verified; a refresh draws the id
-- and the token of the successor.
inductive AdminRequest where
  | login (new : NewAdminSession)
  | refresh (tokenHash : SecretHash) (id : Uuid) (replacementHash : SecretHash)
  | logout (tokenHash : SecretHash)

inductive AdminAnswer where
  | issued
  | ended (session : Uuid)
  | unauthorized
  | unavailable
deriving DecidableEq

-- Where a handler stands between two of its statements.
inductive AdminPlace where
  | entered (request : AdminRequest)
  | creating (new : NewAdminSession)
  | finding (request : AdminRequest)
  | found (request : AdminRequest) (session : Uuid)
  | rotating (request : AdminRequest) (session : Uuid)
  | replacing (request : AdminRequest) (session : Uuid)
  | revoking (request : AdminRequest) (session : Uuid)
  | ending (request : AdminRequest) (answer : AdminAnswer)
  | answered (request : AdminRequest) (answer : AdminAnswer)

abbrev AdminAct := Act AdminRow AdminPlace
abbrev AdminProcess := Process AdminRow Instant AdminPlace
abbrev AdminServer := ReadCommitted.Server AdminDb Instant AdminRow AdminPlace
abbrev AdminMove := ReadCommitted.Move Instant Unit AdminPlace

def createSession (now : Instant) (db : AdminDb) (new : NewAdminSession) : AdminAct :=
  if !db.principalActive new.principalId || db.taken new.id new.tokenHash then .rollback (.answered (.login new) .unavailable)
  else .statement [] [⟨.session new.id,new.row now new.principalId⟩] (.ending (.login new) .issued)

-- The first statement of rotate_session inserts the successor and leaves the
-- session itself unlocked.
def insertReplacement (now : Instant) (db : AdminDb) (request : AdminRequest) (session id : Uuid) (tokenHash : SecretHash) :
    AdminAct :=
  match (db.sessions[session]?).filter (db.accepts now) with
  | none => .rollback (.answered request .unavailable)
  | some row =>
    let new : NewAdminSession := ⟨id,row.principalId,tokenHash,sessionTtlSeconds⟩
    if db.taken id tokenHash then .rollback (.answered request .unavailable)
    else .statement [] [⟨.session id,new.row now row.principalId⟩] (.replacing request session)

-- The UPDATE that both rotate_session and revoke_session end with.
def revokeRow (now : Instant) (db : AdminDb) (request : AdminRequest) (session : Uuid) (replacement : Option Uuid)
    (refused : AdminAnswer) : AdminAct :=
  match (db.sessions[session]?).filter fun row => row.revokedAt.isNone with
  | none => .rollback (.answered request refused)
  | some row => .statement [] [⟨.session session,row.revoke now replacement⟩] (.ending request (.ended session))

def AdminRequest.tokenHash : AdminRequest → Option SecretHash
  | .login _ => none
  | .refresh tokenHash _ _ | .logout tokenHash => some tokenHash

def AdminRequest.replacement : AdminRequest → Option Uuid
  | .refresh _ id _ => some id
  | .login _ | .logout _ => none

-- What a handler answers when the call to the store that it waits for fails.
def AdminRequest.refused : AdminRequest → AdminAnswer
  | .logout _ => .unauthorized
  | .login _ | .refresh _ _ _ => .unavailable

def adminAct (now : Instant) (db : AdminDb) : AdminPlace → Option AdminAct
  | .entered (.login new) => some (.begin (.creating new))
  | .creating new => some (createSession now db new)
  | .entered request => some (.begin (.finding request))
  | .finding request => request.tokenHash.map fun tokenHash => .rollback (match db.findActiveSession now tokenHash with
    | none => .answered request .unauthorized
    | some (session,_) => .found request session)
  | .found request session => match request with
    | .login _ => none
    | .refresh _ _ _ => some (.begin (.rotating request session))
    | .logout _ => some (.begin (.revoking request session))
  | .rotating request session => match request with
    | .refresh _ id replacementHash => some (insertReplacement now db request session id replacementHash)
    | .login _ | .logout _ => none
  | .replacing request session => some (revokeRow now db request session request.replacement .unavailable)
  | .revoking request session => some (revokeRow now db request session none .unauthorized)
  | .ending request answer => some (.commit (.answered request answer))
  | .answered _ _ => none

def AdminPlace.failed : AdminPlace → AdminPlace
  | .creating new => .answered (.login new) .unavailable
  | .entered request | .finding request => .answered request .unavailable
  | .found request _ | .rotating request _ | .replacing request _ | .revoking request _ | .ending request _ =>
    .answered request request.refused
  | .answered request answer => .answered request answer

-- Logins, refreshes and logouts come at any time.
def adminProgram : Program AdminDb Instant Unit AdminRow AdminPlace where
  admits _ place := match place with
    | .entered _ => true
    | _ => false
  act _ := adminAct
  failed := AdminPlace.failed

end AdminAuth
