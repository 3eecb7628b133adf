import RockServer.PersonalRows

namespace PersonalData
open DeviceControl (Uuid Instant)
open LastWriter (Change)

structure InMemoryPersonalDataStore where
  favourites : Rows FavouriteFields
  history : Rows HistoryFields
  revision : Nat

def strictlyNewer (stored : Option Instant) (incoming : Instant) : Bool :=
  stored.all fun current => current < incoming

section merge
variable {F : Type}

def mergeRecord (user : Uuid) (state : Rows F × Nat) (recordId : Uuid) (fields : F) (updatedAt : Instant) :
    Rows F × Nat :=
  let key : Key := ⟨user,recordId⟩
  if !strictlyNewer ((state.1[key]?).map fun row => row.updatedAt) updatedAt then state
  else (state.1.insert key {
      recordId := recordId
      fields := fields
      updatedAt := updatedAt
      deletedAt := none
      syncRevision := state.2 + 1},state.2 + 1)

def tombstoneRecord (bare : Instant → F) (user : Uuid) (state : Rows F × Nat) (recordId : Uuid)
    (updatedAt : Instant) : Rows F × Nat :=
  let key : Key := ⟨user,recordId⟩
  match state.1[key]? with
  | some row =>
    if row.deletedAt.isNone && strictlyNewer (some row.updatedAt) updatedAt then
      (state.1.insert key {
        recordId := recordId
        fields := row.fields
        updatedAt := updatedAt
        deletedAt := some updatedAt
        syncRevision := state.2 + 1},state.2 + 1)
    else state
  | none =>
    (state.1.insert key {
      recordId := recordId
      fields := bare updatedAt
      updatedAt := updatedAt
      deletedAt := some updatedAt
      syncRevision := state.2 + 1},state.2 + 1)

end merge

def bareFavourite (updatedAt : Instant) : FavouriteFields := ⟨none,updatedAt⟩
def bareHistory (updatedAt : Instant) : HistoryFields := ⟨none,updatedAt,updatedAt,none,none,none⟩

def FavouriteUpsert.fields (upsert : FavouriteUpsert) : FavouriteFields :=
  ⟨some upsert.stationId,upsert.addedAt.instant⟩
def HistoryUpsert.fields (upsert : HistoryUpsert) : HistoryFields :=
  ⟨some upsert.stationId,upsert.startedAt.instant,upsert.lastPlayedAt.instant,
    upsert.endedAt.map Timestamp.instant,upsert.playDurationMs,upsert.metadata⟩

def mergeFavourite (user : Uuid) (state : Rows FavouriteFields × Nat) (upsert : FavouriteUpsert) :=
  mergeRecord user state upsert.recordId upsert.fields upsert.updatedAt.instant
def tombstoneFavourite (user : Uuid) (state : Rows FavouriteFields × Nat) (delete : RecordDelete) :=
  tombstoneRecord bareFavourite user state delete.recordId delete.updatedAt.instant
def mergeHistory (user : Uuid) (state : Rows HistoryFields × Nat) (upsert : HistoryUpsert) :=
  mergeRecord user state upsert.recordId upsert.fields upsert.updatedAt.instant
def tombstoneHistory (user : Uuid) (state : Rows HistoryFields × Nat) (delete : RecordDelete) :=
  tombstoneRecord bareHistory user state delete.recordId delete.updatedAt.instant

-- The mark reuses the row's own stamp, not the clock.
def expireMark (row : HistoryRecord) : HistoryRecord := {row with deletedAt := some row.updatedAt}

def expireHistory (user : Uuid) (now : Instant) (state : Rows HistoryFields × Nat) : Rows HistoryFields × Nat :=
  expireRows expireMark state (expiredKeys (fun key => key.userId = user) (now - historyRetention) state.1)

def retainTombstones {F : Type} (cutoff : Instant) (rows : Rows F) : Rows F :=
  rows.filter fun _ row => row.deletedAt.all fun deleted => cutoff ≤ deleted

def size {F : Type} (rows : Rows F) : Nat := Table.count (fun _ _ => true) rows

namespace InMemoryPersonalDataStore

def pushFavourites (s : InMemoryPersonalDataStore) (user : Uuid) (request : SyncRequest) :
    Rows FavouriteFields × Nat :=
  request.favourites.deletes.foldl (tombstoneFavourite user)
    (request.favourites.upserts.foldl (mergeFavourite user) (s.favourites,s.revision))

def pushHistory (s : InMemoryPersonalDataStore) (revision : Nat) (user : Uuid) (request : SyncRequest) :
    Rows HistoryFields × Nat :=
  request.history.deletes.foldl (tombstoneHistory user)
    (request.history.upserts.foldl (mergeHistory user) (s.history,revision))

def read (s : InMemoryPersonalDataStore) (user : Uuid) (request : SyncRequest) : SyncOutcome :=
  let favourites := deltaAndEcho (accountRows s.favourites user) request.sinceRevision request.favouriteRecordIds
  let history := deltaAndEcho (accountRows s.history user) request.sinceRevision request.historyRecordIds
  ⟨max favourites.2 history.2,favourites.1,history.1⟩

-- The early returns leave behind what the batch has written so far.
def synchronize (s : InMemoryPersonalDataStore) (now : Instant) (user : Uuid) (request : SyncRequest) :
    Except PersonalDataError SyncOutcome × InMemoryPersonalDataStore :=
  match request.validate now with
  | .error error => (.error error,s)
  | .ok () =>
    let favourites := s.pushFavourites user request
    if maxFavouriteRecords < liveCount favourites.1 user then
      (.error .favouriteLimitExceeded,{s with favourites := favourites.1,revision := favourites.2})
    else
      let history := expireHistory user now (s.pushHistory favourites.2 user request)
      let s' : InMemoryPersonalDataStore := ⟨favourites.1,history.1,history.2⟩
      if maxHistoryRecords < liveCount history.1 user then (.error .historyLimitExceeded,s')
      else (.ok (s'.read user request),s')

def sweepRetention (s : InMemoryPersonalDataStore) (now : Instant) : RetentionSweep × InMemoryPersonalDataStore :=
  let expired := expiredKeys (fun _ => true) (now - historyRetention) s.history
  let history := expireRows expireMark (s.history,s.revision) expired
  let cutoff := now - tombstoneRetention
  let kept := retainTombstones cutoff history.1
  let favourites := retainTombstones cutoff s.favourites
  (⟨expired.length,(size history.1 - size kept) + (size s.favourites - size favourites),0⟩,⟨favourites,kept,history.2⟩)

end InMemoryPersonalDataStore

-- A batch's changes in the order they are applied.
def CollectionChanges.entries {U F : Type} (recordId : U → Uuid) (fields : U → F) (updatedAt : U → Instant)
    (stamp : RecordDelete → Instant) (changes : CollectionChanges U) : List (Uuid × Change F Instant) :=
  changes.upserts.map (fun upsert => (recordId upsert,.upsert (fields upsert) (updatedAt upsert))) ++
  changes.deletes.map (fun delete => (delete.recordId,.delete (stamp delete)))

def SyncRequest.favouriteEntries (request : SyncRequest) : List (Uuid × Change FavouriteFields Instant) :=
  request.favourites.entries (·.recordId) (·.fields) (·.updatedAt.instant) (·.updatedAt.instant)
def SyncRequest.historyEntries (request : SyncRequest) : List (Uuid × Change HistoryFields Instant) :=
  request.history.entries (·.recordId) (·.fields) (·.updatedAt.instant) (·.updatedAt.instant)

section spec
variable {F : Type} {user recordId : Uuid} {state : Rows F × Nat} {fields : F} {updatedAt : Instant} {bare : Instant → F}

theorem mergeRecord_place (bare : Instant → F) : mergeRecord user state recordId fields updatedAt =
    place false bare user state (recordId,.upsert fields updatedAt) := by
  have same : strictlyNewer ((state.1[(⟨user,recordId⟩ : Key)]?).map fun row => row.updatedAt) updatedAt =
      (Change.upsert fields updatedAt).wins ((state.1[(⟨user,recordId⟩ : Key)]?).map Record.toVersion) := by
    cases state.1[(⟨user,recordId⟩ : Key)]? <;> rfl
  unfold mergeRecord place
  dsimp only
  rw [same]
  cases (Change.upsert fields updatedAt).wins ((state.1[(⟨user,recordId⟩ : Key)]?).map Record.toVersion) <;> rfl

theorem tombstoneRecord_place : tombstoneRecord bare user state recordId updatedAt =
    place false bare user state (recordId,.delete updatedAt) := by
  unfold tombstoneRecord place
  dsimp only
  cases found : state.1[(⟨user,recordId⟩ : Key)]? with
  | none => rfl
  | some row =>
    have same : (row.deletedAt.isNone && strictlyNewer (some row.updatedAt) updatedAt) =
        (Change.delete updatedAt : Change F Instant).wins (some row.toVersion) := rfl
    dsimp only
    rw [same,Option.map_some]
    cases (Change.delete updatedAt : Change F Instant).wins (some row.toVersion) <;> rfl

end spec

theorem expireHistory_unexpired {user : Uuid} {now : Instant} {state : Rows HistoryFields × Nat}
    (fresh : Unexpired (fun key => key.userId = user) (now - historyRetention) state.1) :
    expireHistory user now state = state := by
  unfold expireHistory
  rw [expiredKeys_nil.mpr fresh]
  rfl

namespace InMemoryPersonalDataStore
variable {s s' : InMemoryPersonalDataStore} {now : Instant} {user : Uuid} {request : SyncRequest}
variable {answer : Except PersonalDataError SyncOutcome}

theorem pushFavourites_place : s.pushFavourites user request =
    placeAll false bareFavourite user (s.favourites,s.revision) request.favouriteEntries := by
  have upserts : mergeFavourite user = fun state upsert =>
      place false bareFavourite user state (upsert.recordId,.upsert upsert.fields upsert.updatedAt.instant) := by
    funext state upsert
    exact mergeRecord_place bareFavourite
  have deletes : tombstoneFavourite user = fun state delete =>
      place false bareFavourite user state (delete.recordId,.delete delete.updatedAt.instant) := by
    funext state delete
    exact tombstoneRecord_place
  simp only [pushFavourites,placeAll,SyncRequest.favouriteEntries,CollectionChanges.entries,List.foldl_append,
    List.foldl_map,upserts,deletes]

theorem pushHistory_place {revision : Nat} : s.pushHistory revision user request =
    placeAll false bareHistory user (s.history,revision) request.historyEntries := by
  have upserts : mergeHistory user = fun state upsert =>
      place false bareHistory user state (upsert.recordId,.upsert upsert.fields upsert.updatedAt.instant) := by
    funext state upsert
    exact mergeRecord_place bareHistory
  have deletes : tombstoneHistory user = fun state delete =>
      place false bareHistory user state (delete.recordId,.delete delete.updatedAt.instant) := by
    funext state delete
    exact tombstoneRecord_place
  simp only [pushHistory,placeAll,SyncRequest.historyEntries,CollectionChanges.entries,List.foldl_append,
    List.foldl_map,upserts,deletes]

-- The inversion of one call: where it stopped and what it left.
theorem sync_cases (ran : s.synchronize now user request = (answer,s')) :
    (∃ error, request.validate now = .error error ∧ answer = .error error ∧ s' = s) ∨
    (request.validate now = .ok () ∧ maxFavouriteRecords < liveCount (s.pushFavourites user request).1 user ∧
      answer = .error .favouriteLimitExceeded ∧ s' = {s with
        favourites := (s.pushFavourites user request).1,revision := (s.pushFavourites user request).2}) ∨
    (request.validate now = .ok () ∧ liveCount (s.pushFavourites user request).1 user ≤ maxFavouriteRecords ∧
      s'.favourites = (s.pushFavourites user request).1 ∧
      (s'.history,s'.revision) =
        expireHistory user now (s.pushHistory (s.pushFavourites user request).2 user request) ∧
      ((maxHistoryRecords < liveCount s'.history user ∧ answer = .error .historyLimitExceeded) ∨
        (liveCount s'.history user ≤ maxHistoryRecords ∧ answer = .ok (s'.read user request)))) := by
  unfold synchronize at ran
  cases valid : request.validate now with
  | error error =>
    rw [valid] at ran
    cases ran
    exact .inl ⟨error,rfl,rfl,rfl⟩
  | ok done =>
    rw [valid] at ran
    dsimp only at ran
    split at ran
    · rename_i beyond
      cases ran
      exact .inr (.inl ⟨rfl,beyond,rfl,rfl⟩)
    · rename_i within
      refine .inr (.inr ⟨rfl,Nat.le_of_not_lt within,?_⟩)
      split at ran
      · rename_i beyond
        cases ran
        exact ⟨rfl,rfl,.inl ⟨beyond,rfl⟩⟩
      · rename_i small
        cases ran
        exact ⟨rfl,rfl,.inr ⟨Nat.le_of_not_lt small,rfl⟩⟩

theorem sync_ok {outcome : SyncOutcome} (ran : s.synchronize now user request = (.ok outcome,s')) :
    request.validate now = .ok () ∧ liveCount (s.pushFavourites user request).1 user ≤ maxFavouriteRecords ∧
    s'.favourites = (s.pushFavourites user request).1 ∧
    (s'.history,s'.revision) =
      expireHistory user now (s.pushHistory (s.pushFavourites user request).2 user request) ∧
    liveCount s'.history user ≤ maxHistoryRecords ∧ s'.read user request = outcome := by
  rcases sync_cases ran with ⟨_,_,impossible,_⟩ | ⟨_,_,impossible,_⟩ |
    ⟨valid,saved,favourites,history,⟨_,impossible⟩ | ⟨played,answered⟩⟩
  · cases impossible
  · cases impossible
  · cases impossible
  · exact ⟨valid,saved,favourites,history,played,(Except.ok.inj answered).symm⟩

end InMemoryPersonalDataStore
end PersonalData
