import RockServer.AdminSessions
import Mathlib.Data.String.Basic

namespace AdminAuth
open DeviceControl (Uuid Instant minutes)

def lockoutAfterFailures : Nat := 5

inductive AdminLoginOutcome where
  | succeeded
  | failed
  | locked
deriving DecidableEq

structure AdminLoginAttempt where
  principalId : Option Uuid
  accountKeyHash : SecretHash
  sourceIpHash : SecretHash
  outcome : AdminLoginOutcome
  occurredAt : Instant

structure AdminPasswordCredential where
  principalId : Uuid
  passwordHash : String
deriving DecidableEq

-- SHA-256 of a text, and whether a password is that of a stored PHC string.
structure LoginEnv where
  secretHash : String → SecretHash
  verifyPassword : String → String → Bool

structure LoginRequest where
  username : String
  password : String
  rateLimitScope : String

def adminUsernameValid (value : String) : Bool :=
  3 ≤ value.utf8ByteSize && value.utf8ByteSize ≤ 64 &&
  value.toList.all fun c => c.isAlphanum || c = '.' || c = '_' || c = '-'

-- A failure with an unusable name goes to the account "invalid".
def LoginRequest.account (request : LoginRequest) : String :=
  if adminUsernameValid request.username then request.username else "invalid"

def LoginRequest.accountHash (env : LoginEnv) (request : LoginRequest) : SecretHash := env.secretHash request.account
def LoginRequest.sourceHash (env : LoginEnv) (request : LoginRequest) : SecretHash := env.secretHash request.rateLimitScope

-- Where a login stands between two calls of the store. The password of a found
-- credential is verified in a step of its own; a place after a failed
-- verification keeps the time of it, and a recorded failure that of its row.
inductive LoginPlace where
  | entered
  | counted
  | found (credential : Option AdminPasswordCredential)
  | failing (principal : Option Uuid) (verified : Option Instant)
  | failed (verified recorded : Option Instant)
  | locking
  | locked
  | creating (principal : Uuid)
  | created (principal : Uuid)
  | succeeded
  | unavailable
  | abandoned (verified : Option Instant)

structure LoginTask where
  request : LoginRequest
  place : LoginPlace

-- Active credentials, by the name of their principal.
structure LoginState where
  credentials : Table String AdminPasswordCredential
  attempts : Table Uuid AdminLoginAttempt
  clock : Instant
  tasks : Table Nat LoginTask

-- A call of the store takes effect or fails; the client may go away at any time.
inductive LoginAction where
  | arrive (t : Nat) (request : LoginRequest)
  | proceed (t : Nat) (id : Uuid)
  | fault (t : Nat)
  | abandon (t : Nat)
  | tick (clock : Instant)

def recentFailedLoginCount (attempts : Table Uuid AdminLoginAttempt) (now : Instant) (account source : SecretHash) : Nat :=
  Table.count (fun _ row => row.accountKeyHash = account && row.sourceIpHash = source && row.outcome = .failed &&
    now - minutes 15 < row.occurredAt) attempts

def recordLoginAttempt (attempts : Table Uuid AdminLoginAttempt) (id : Uuid) (row : AdminLoginAttempt) :
    Option (Table Uuid AdminLoginAttempt) :=
  if (attempts[id]?).isSome then none else some (attempts.insert id row)

def proceed (env : LoginEnv) (s : LoginState) (id : Uuid) (task : LoginTask) :
    Option (LoginPlace × Table Uuid AdminLoginAttempt) :=
  let account := task.request.accountHash env
  let source := task.request.sourceHash env
  match task.place with
  | .entered =>
    let failures := recentFailedLoginCount s.attempts s.clock account source
    some (if lockoutAfterFailures ≤ failures then .locking else .counted,s.attempts)
  | .counted => some (.found s.credentials[task.request.username]?,s.attempts)
  | .found none => some (.failing none none,s.attempts)
  | .found (some credential) =>
    let valid := env.verifyPassword credential.passwordHash task.request.password
    some (if valid then .creating credential.principalId else .failing (some credential.principalId) (some s.clock),s.attempts)
  | .failing principal verified =>
    -- The result of the insertion is ignored.
    match recordLoginAttempt s.attempts id ⟨principal,account,source,.failed,s.clock⟩ with
    | some attempts => some (.failed verified (some s.clock),attempts)
    | none => some (.failed verified none,s.attempts)
  | .locking => some (.locked,(recordLoginAttempt s.attempts id ⟨none,account,source,.locked,s.clock⟩).getD s.attempts)
  | .creating principal => some (.created principal,s.attempts)
  | .created principal =>
    some (.succeeded,(recordLoginAttempt s.attempts id ⟨some principal,account,source,.succeeded,s.clock⟩).getD s.attempts)
  | .failed _ _ | .locked | .succeeded | .unavailable | .abandoned _ => none

-- A failing call of the store, at the places where a login waits for one.
def LoginPlace.fault : LoginPlace → Option LoginPlace
  | .entered | .counted | .creating _ => some .unavailable
  | .failing _ verified => some (.failed verified none)
  | .locking => some .locked
  | .created _ => some .succeeded
  | .found _ | .failed _ _ | .locked | .succeeded | .unavailable | .abandoned _ => none

def LoginPlace.abandon : LoginPlace → Option LoginPlace
  | .failing _ verified => some (.abandoned verified)
  | .entered | .counted | .found _ | .locking | .creating _ | .created _ => some (.abandoned none)
  | .failed _ _ | .locked | .succeeded | .unavailable | .abandoned _ => none

def LoginState.put (s : LoginState) (t : Nat) (task : LoginTask) (place : LoginPlace) : LoginState :=
  {s with tasks := s.tasks.insert t {task with place := place}}

def executeLogin (env : LoginEnv) (s : LoginState) : LoginAction → Option LoginState
  | .arrive t request =>
    let place := if adminUsernameValid request.username then LoginPlace.entered else .failing none none
    if (s.tasks[t]?).isSome then none else some (s.put t ⟨request,place⟩ place)
  | .proceed t id => s.tasks[t]?.bind fun task => (proceed env s id task).map fun next =>
    {s.put t task next.1 with attempts := next.2}
  | .fault t => s.tasks[t]?.bind fun task => task.place.fault.map (s.put t task)
  | .abandon t => s.tasks[t]?.bind fun task => task.place.abandon.map (s.put t task)
  | .tick clock => if s.clock ≤ clock then some {s with clock := clock} else none

end AdminAuth
