import RockServer.DeviceControl
import RockServer.FixedWindows
import RockServer.ReadCommitted

namespace RateLimits
open DeviceControl (Uuid Instant minutes)
open ReadCommitted (Rows Write Act Mode Process Program)

abbrev SecretHash := Nat

-- date_trunc('minute', ...)
def truncMinute (instant : Instant) : Instant := instant / minutes 1 * minutes 1

def pairingLifetimeMinutes : Int := 10
def pairingCreateLimit : Int := 10
def pairingRateLimitMinutes : Int := 15

structure RateLimitBucket where
  requestCount : Int
  expiresAt : Instant

structure PairingRequest where
  expiresAt : Instant

structure RateDb where
  rateLimitBuckets : Table (SecretHash ×ₗ Instant) RateLimitBucket
  pairingRequests : Table Uuid PairingRequest

inductive RateKey where
  | bucket (key : SecretHash ×ₗ Instant)
  | pairing (id : Uuid)
deriving DecidableEq

abbrev RateRow : RateKey → Type
  | .bucket _ => RateLimitBucket
  | .pairing _ => PairingRequest

namespace RateDb

def get (db : RateDb) : (k : RateKey) → Option (RateRow k)
  | .bucket key => db.rateLimitBuckets[key]?
  | .pairing id => db.pairingRequests[id]?

def set (db : RateDb) : (k : RateKey) → RateRow k → RateDb
  | .bucket key,row => {db with rateLimitBuckets := db.rateLimitBuckets.insert key row}
  | .pairing id,row => {db with pairingRequests := db.pairingRequests.insert id row}

theorem get_set (db : RateDb) (k : RateKey) (row : RateRow k) : (db.set k row).get k = some row := by
  cases k <;> exact Table.get_insert.trans (if_pos rfl)

theorem get_set_ne (db : RateDb) (k : RateKey) (row : RateRow k) (j : RateKey) (apart : k ≠ j) :
    (db.set k row).get j = db.get j := by
  cases k <;> cases j <;> first | rfl | exact Table.get_insert_ne fun same => apart (congrArg _ same)

instance : Rows RateDb RateKey RateRow := ⟨get,set,get_set,get_set_ne⟩

end RateDb

-- The arguments of consume_rate_limit_for_minutes.
structure RateCall where
  keyHash : SecretHash
  lifetimeMinutes : Int
  limit : Int
deriving DecidableEq

def RateCall.bucket (call : RateCall) (now : Instant) : SecretHash ×ₗ Instant := toLex (call.keyHash,truncMinute now)

-- The upsert: what it leaves in the bucket, or nothing where its WHERE refuses.
def consume (db : RateDb) (now : Instant) (call : RateCall) : Option RateLimitBucket :=
  match db.rateLimitBuckets[call.bucket now]? with
  | none => some ⟨1,now + minutes call.lifetimeMinutes⟩
  | some row => if row.requestCount < call.limit then some {row with requestCount := row.requestCount + 1} else none

-- A bare call of the store, or a create_pairing_request with the key of its
-- client and the identifier it draws.
inductive RateRequest where
  | consume (call : RateCall)
  | createPairing (rateKey : SecretHash) (id : Uuid)

def RateRequest.call : RateRequest → RateCall
  | .consume call => call
  | .createPairing rateKey _ => ⟨rateKey,pairingRateLimitMinutes,pairingCreateLimit⟩

-- What the store told a call, with the database clock of its statement: the
-- returned request_count, which is there if the call returned true.
structure RateReply where
  call : RateCall
  now : Instant
  count : Option Int

inductive RatePlace where
  | entered (request : RateRequest)
  | consuming (request : RateRequest)
  | consumed (request : RateRequest) (count : Option Int)
  | answered (request : RateRequest) (reply : RateReply)
  | creating (id : Uuid) (reply : RateReply)
  | inserted (id : Uuid) (reply : RateReply)
  | created (id : Uuid) (reply : RateReply)
  | unavailable (reply : Option RateReply)

abbrev RateAct := Act RateRow RatePlace
abbrev RateProcess := Process RateRow Instant RatePlace
abbrev RateServer := ReadCommitted.Server RateDb Instant RateRow RatePlace
abbrev RateMove := ReadCommitted.Move Instant Unit RatePlace

-- The conflicting row is locked also where it is left as it is.
def consumeStatement (db : RateDb) (now : Instant) (request : RateRequest) : RateAct :=
  let key := RateKey.bucket (request.call.bucket now)
  match consume db now request.call with
  | some row => .statement [(key,.noKeyUpdate)] [⟨key,row⟩] (.consumed request (some row.requestCount))
  | none => .statement [(key,.noKeyUpdate)] [] (.consumed request none)

-- Randomly drawn hashes and codes are left out: an insertion that fails for one
-- of them fails like any other statement.
def createPairingRequestForMinutes (db : RateDb) (now : Instant) (id : Uuid) (reply : RateReply) : RateAct :=
  if (db.pairingRequests[id]?).isSome then .rollback (.unavailable (some reply))
  else .statement [] [⟨.pairing id,⟨now + minutes pairingLifetimeMinutes⟩⟩] (.inserted id reply)

def rateAct (now : Instant) (db : RateDb) : RatePlace → Option RateAct
  | .entered request => some (.begin (.consuming request))
  | .consuming request => some (consumeStatement db now request)
  | .consumed request count => some (.commit (.answered request ⟨request.call,now,count⟩))
  | .answered request reply => match request,reply.count with
    | .createPairing _ id,some _ => some (.begin (.creating id reply))
    | _,_ => none
  | .creating id reply => some (createPairingRequestForMinutes db now id reply)
  | .inserted id reply => some (.commit (.created id reply))
  | .created _ _ | .unavailable _ => none

def RatePlace.reply : RatePlace → Option RateReply
  | .entered _ | .consuming _ | .consumed _ _ => none
  | .answered _ reply | .creating _ reply | .inserted _ reply | .created _ reply => some reply
  | .unavailable reply => reply

def RatePlace.failed : RatePlace → RatePlace
  | .answered request reply => .answered request reply
  | .created id reply => .created id reply
  | place => .unavailable place.reply

def rateProgram : Program RateDb Instant Unit RateRow RatePlace where
  admits _ place := match place with
    | .entered _ => true
    | _ => false
  act _ := rateAct
  failed := RatePlace.failed

end RateLimits
