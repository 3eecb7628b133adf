import Mathlib.Data.List.Sort
import RockServer.DeviceControl

namespace DeviceControl

inductive StoreError where
  | validation (error : ValidationError)
  | database
deriving DecidableEq

inductive StoreOutcome where
  | accepted
  | replay
  | stale
  | conflict
  | resync
  | notOwned
deriving DecidableEq, Repr

abbrev Fingerprint := Vector UInt8 32

structure CommandReservation where
  command : DeviceCommand
  fingerprint : Fingerprint
  deadlineAt : Timestamp

structure CommandLifecycle where
  command : DeviceCommand
  result : Option CommandResult

-- The table check ties status, result_payload and completed_at together, so a
-- row is either reserved or carries the one terminal result they all stand for.
inductive CommandState where
  | reserved
  | completed (result : CommandResult)
deriving DecidableEq

def CommandState.result : CommandState → Option CommandResult
  | .reserved => none
  | .completed result => some result

-- `reservation` is not a column. It names the inserted row, so that a later row
-- that reuses the primary key is told apart from the one it replaced.
structure CommandRow where
  userId : Uuid
  targetDeviceId : DeviceId
  requestFingerprint : Fingerprint
  requestPayload : DeviceCommand
  state : CommandState
  createdAt : Instant
  deadlineAt : Instant
  reservation : Nat

def CommandRow.fresh (row : CommandRow) (now : Instant) : Bool := now - hours 24 ≤ row.createdAt

-- Devices are listed with their owner while neither is revoked or deleted.
structure StoreState where
  devices : List (DeviceId × Uuid)
  manifests : List (DeviceId × DeviceManifest)
  commands : Table CommandId CommandRow
  nextReservation : Nat

namespace StoreState

def owned (s : StoreState) (user : Uuid) (device : DeviceId) : Bool := s.devices.contains (device,user)

def loadManifest (s : StoreState) (user : Uuid) (device : DeviceId) : Option DeviceManifest :=
  if s.owned user device then s.manifests.lookup device else none

-- The insert fails on the check `deadline_at >= created_at` once the deadline
-- lies before the transaction's clock.
def insertReservation (s : StoreState) (now : Instant) (user : Uuid) (device : DeviceId)
    (request : CommandReservation) : Except StoreError StoreOutcome × StoreState :=
  if request.deadlineAt.instant < now then (.error .database,s)
  else (.ok .accepted,{s with
    commands := s.commands.insert request.command.commandId {
      userId := user
      targetDeviceId := device
      requestFingerprint := request.fingerprint
      requestPayload := request.command
      state := .reserved
      createdAt := now
      deadlineAt := request.deadlineAt.instant
      reservation := s.nextReservation}
    nextReservation := s.nextReservation + 1})

def reserveCommand (s : StoreState) (now : Instant) (user : Uuid) (device : DeviceId)
    (request : CommandReservation) : Except StoreError StoreOutcome × StoreState :=
  match request.command.validateAt request.deadlineAt with
  | .error error => (.error (.validation error),s)
  | .ok () =>
    if request.command.target.deviceId ≠ device then (.ok .notOwned,s)
    else if !s.owned user device then (.ok .notOwned,s)
    else match s.commands[request.command.commandId]? with
      | none => s.insertReservation now user device request
      | some row =>
        if row.fresh now ∧ row.userId = user ∧ row.targetDeviceId = device
            ∧ row.requestFingerprint = request.fingerprint then (.ok .replay,s)
        else if !row.fresh now ∧ row.state ≠ .reserved then s.insertReservation now user device request
        else (.ok .conflict,s)

def loadCommand (s : StoreState) (user : Uuid) (device : DeviceId) (id : CommandId) :
    Option CommandLifecycle :=
  match s.commands[id]? with
  | none => none
  | some row =>
    if row.userId = user ∧ row.targetDeviceId = device ∧ s.devices.any (fun entry => entry.1 = device) then
      some ⟨row.requestPayload,row.state.result⟩
    else none

def completeCommand (s : StoreState) (user : Uuid) (device : DeviceId) (result : CommandResult) :
    Except StoreError StoreOutcome × StoreState :=
  match result.validate with
  | .error error => (.error (.validation error),s)
  | .ok () =>
    if !s.owned user device then (.ok .notOwned,s)
    else match s.commands[result.commandId]? with
      | none => (.ok .notOwned,s)
      | some row =>
        if row.userId ≠ user ∨ row.targetDeviceId ≠ device then (.ok .notOwned,s)
        else match row.state with
          | .completed prior => (.ok (if prior = result then .replay else .conflict),s)
          | .reserved => (.ok .accepted,{s with
              commands := s.commands.insert result.commandId {row with state := .completed result}})

def expired (now : Instant) (row : CommandRow) : Bool := match row.state with
  | .reserved => false
  | .completed result => result.completedAt.instant < now - hours 24

def completionKey (entry : CommandId × CommandRow) : Instant ×ₗ Uuid :=
  toLex (((entry.2.state.result.map fun result => result.completedAt.instant).getD 0),entry.1.uuid)

def pruneCommands (s : StoreState) (now : Instant) (limit : Nat) : StoreState :=
  let doomed := ((s.commands.toList.filter fun entry => expired now entry.2).insertionSort
    fun a b => completionKey a ≤ completionKey b).take limit
  {s with commands := doomed.foldl (fun rows entry => rows.erase entry.1) s.commands}

-- Row identities are handed out once: below the next one and never shared.
structure Sound (s : StoreState) : Prop where
  issued : ∀ (id : CommandId) (row : CommandRow), s.commands[id]? = some row → row.reservation < s.nextReservation
  distinct : ∀ (id id' : CommandId) (row row' : CommandRow), s.commands[id]? = some row → s.commands[id']? = some row' →
    row.reservation = row'.reservation → id = id'

variable {s s' : StoreState} {now : Instant} {user : Uuid} {device : DeviceId}

-- Everything an accepted reservation did to the table, with the row it met.
theorem reserve_accepted {request : CommandReservation}
    (answer : s.reserveCommand now user device request = (.ok .accepted,s')) :
    (∀ row : CommandRow, s.commands[request.command.commandId]? = some row →
      row.state ≠ .reserved ∧ row.fresh now = false) ∧
    ∃ row : CommandRow, row.userId = user ∧ row.targetDeviceId = device ∧ row.state = .reserved ∧
      row.reservation = s.nextReservation ∧
      s' = {s with commands := s.commands.insert request.command.commandId row
                   nextReservation := s.nextReservation + 1} := by
  have inserted : ∀ (s' : StoreState), s.insertReservation now user device request = (.ok .accepted,s') →
      ∃ row : CommandRow, row.userId = user ∧ row.targetDeviceId = device ∧ row.state = .reserved ∧
        row.reservation = s.nextReservation ∧
        s' = {s with commands := s.commands.insert request.command.commandId row
                     nextReservation := s.nextReservation + 1} := by
    intro s' ran
    unfold insertReservation at ran
    split at ran
    · cases ran
    · cases ran
      exact ⟨_,rfl,rfl,rfl,rfl,rfl⟩
  unfold reserveCommand at answer
  split at answer
  · cases answer
  · split at answer
    · cases answer
    · split at answer
      · cases answer
      · split at answer
        · rename_i absent
          refine ⟨fun row found => ?_,inserted s' answer⟩
          rw [absent] at found
          cases found
        · rename_i old found
          split at answer
          · cases answer
          · split at answer
            · rename_i replaced
              refine ⟨fun row same => ?_,inserted s' answer⟩
              rw [found] at same
              cases same
              exact ⟨replaced.2,by simpa using replaced.1⟩
            · cases answer

-- Every other answer leaves the store alone.
theorem reserve_unchanged {request : CommandReservation} {answer : Except StoreError StoreOutcome}
    (ran : s.reserveCommand now user device request = (answer,s')) (other : answer ≠ .ok .accepted) : s' = s := by
  have kept : ∀ (pair : Except StoreError StoreOutcome × StoreState),
      s.insertReservation now user device request = pair → pair.1 ≠ .ok .accepted → pair.2 = s := by
    intro pair ran other
    unfold insertReservation at ran
    split at ran
    · rw [← ran]
    · rw [← ran] at other; exact absurd rfl other
  unfold reserveCommand at ran
  split at ran
  · cases ran; rfl
  · split at ran
    · cases ran; rfl
    · split at ran
      · cases ran; rfl
      · split at ran
        · exact kept _ ran other
        · split at ran
          · cases ran; rfl
          · split at ran
            · exact kept _ ran other
            · cases ran; rfl

theorem complete_accepted {result : CommandResult}
    (answer : s.completeCommand user device result = (.ok .accepted,s')) :
    ∃ row : CommandRow, s.commands[result.commandId]? = some row ∧ row.userId = user ∧ row.targetDeviceId = device ∧
      row.state = .reserved ∧
      s' = {s with commands := s.commands.insert result.commandId {row with state := .completed result}} := by
  unfold completeCommand at answer
  split at answer
  · cases answer
  · split at answer
    · cases answer
    · split at answer
      · cases answer
      · rename_i row found
        split at answer
        · cases answer
        · rename_i same
          have same : row.userId = user ∧ row.targetDeviceId = device := by simpa using same
          split at answer
          · rename_i prior _
            by_cases equal : prior = result <;> simp [equal] at answer
          · rename_i reserved
            cases answer
            exact ⟨row,found,same.1,same.2,reserved,rfl⟩

theorem complete_unchanged {result : CommandResult} {answer : Except StoreError StoreOutcome}
    (ran : s.completeCommand user device result = (answer,s')) (other : answer ≠ .ok .accepted) : s' = s := by
  unfold completeCommand at ran
  split at ran
  · cases ran; rfl
  · split at ran
    · cases ran; rfl
    · split at ran
      · cases ran; rfl
      · split at ran
        · cases ran; rfl
        · split at ran
          · cases ran; rfl
          · cases ran; exact absurd rfl other

-- Pruning removes terminal rows only and keeps every row it does not remove.
theorem prune_cases (s : StoreState) (now : Instant) (limit : Nat) (id : CommandId) :
    (s.pruneCommands now limit).commands[id]? = s.commands[id]? ∨
    (s.pruneCommands now limit).commands[id]? = none ∧
      ∃ row : CommandRow, s.commands[id]? = some row ∧ expired now row = true := by
  have erased : ∀ (doomed : List (CommandId × CommandRow)) (rows : Table CommandId CommandRow),
      (doomed.foldl (fun rows entry => rows.erase entry.1) rows)[id]? = rows[id]? ∨
      (doomed.foldl (fun rows entry => rows.erase entry.1) rows)[id]? = none ∧ ∃ entry ∈ doomed, entry.1 = id := by
    intro doomed
    induction doomed with
    | nil => intro rows; exact .inl rfl
    | cons entry rest ih =>
      intro rows
      rcases ih (rows.erase entry.1) with same | ⟨gone,other,member,key⟩
      · by_cases hit : entry.1 = id
        · refine .inr ⟨?_,entry,List.mem_cons_self,hit⟩
          rw [List.foldl_cons,same,Table.get_erase,if_pos hit]
        · refine .inl ?_
          rw [List.foldl_cons,same,Table.get_erase,if_neg hit]
      · exact .inr ⟨gone,other,List.mem_cons_of_mem _ member,key⟩
  rcases erased _ s.commands with same | ⟨gone,entry,member,rfl⟩
  · exact .inl same
  · refine .inr ⟨gone,entry.2,?_⟩
    have listed := List.mem_filter.mp ((List.perm_insertionSort _ _).mem_iff.mp (List.mem_of_mem_take member))
    exact ⟨Table.mem_entries.mp listed.1,listed.2⟩

theorem expired_completed {row : CommandRow} (old : expired now row = true) : row.state ≠ .reserved := by
  intro reserved
  simp [expired,reserved] at old

end StoreState
end DeviceControl
