import RockServer.PersonalTransactions

namespace PersonalData
open DeviceControl (Uuid Instant)

-- Both stores with any number of calls under way, and the sweeps between them.

-- An in-memory call holds one mutex at a time: first the favourites', then the
-- history's. Between the two it waits, and others have their turn. Revisions
-- are drawn section by section.
structure MemoryCall where
  now : Instant
  user : Uuid
  request : SyncRequest

structure Memory where
  store : InMemoryPersonalDataStore
  waiting : List MemoryCall

def Memory.start : Memory := ⟨⟨∅,∅,0⟩,[]⟩

inductive MemoryAction where
  | favourites (call : MemoryCall)
  | history (i : Nat)
  | sweepHistory (now : Instant)
  | sweepFavourites (now : Instant)

namespace InMemoryPersonalDataStore

def favouritesSection (s : InMemoryPersonalDataStore) (call : MemoryCall) : InMemoryPersonalDataStore :=
  let favourites := s.pushFavourites call.user call.request
  {s with favourites := favourites.1,revision := favourites.2}

def historySection (s : InMemoryPersonalDataStore) (call : MemoryCall) : InMemoryPersonalDataStore :=
  let history := expireHistory call.user call.now (s.pushHistory s.revision call.user call.request)
  {s with history := history.1,revision := history.2}

def sweepHistory (s : InMemoryPersonalDataStore) (now : Instant) : InMemoryPersonalDataStore :=
  let history := expireRows expireMark (s.history,s.revision) (expiredKeys (fun _ => true) (now - historyRetention) s.history)
  {s with history := retainTombstones (now - tombstoneRetention) history.1,revision := history.2}

def sweepFavourites (s : InMemoryPersonalDataStore) (now : Instant) : InMemoryPersonalDataStore :=
  {s with favourites := retainTombstones (now - tombstoneRetention) s.favourites}

end InMemoryPersonalDataStore

-- A check on what the section has just written.
def MemoryCall.favouritesFit (call : MemoryCall) (s : InMemoryPersonalDataStore) : Bool :=
  liveCount (s.favouritesSection call).favourites call.user ≤ maxFavouriteRecords

def Memory.execute (m : Memory) : MemoryAction → Option Memory
  | .favourites call =>
    match call.request.validate call.now with
    | .error _ => some m
    | .ok () => some ⟨m.store.favouritesSection call,
        if call.favouritesFit m.store then m.waiting ++ [call] else m.waiting⟩
  | .history i => (m.waiting[i]?).map fun call => ⟨m.store.historySection call,m.waiting.eraseIdx i⟩
  | .sweepHistory now => some {m with store := m.store.sweepHistory now}
  | .sweepFavourites now => some {m with store := m.store.sweepFavourites now}

-- A call with nothing between its sections is the store's `synchronize`.
theorem sections_synchronize (s : InMemoryPersonalDataStore) (call : MemoryCall) :
    (s.synchronize call.now call.user call.request).2 =
      match call.request.validate call.now with
      | .error _ => s
      | .ok () => if call.favouritesFit s then (s.favouritesSection call).historySection call else s.favouritesSection call := by
  unfold InMemoryPersonalDataStore.synchronize MemoryCall.favouritesFit InMemoryPersonalDataStore.favouritesSection
  cases call.request.validate call.now with
  | error => rfl
  | ok done =>
    dsimp only
    by_cases within : liveCount (s.pushFavourites call.user call.request).1 call.user ≤ maxFavouriteRecords
    · rw [if_neg (Nat.not_lt_of_le within),if_pos (decide_eq_true within)]
      split <;> rfl
    · rw [if_pos (Nat.lt_of_not_le within),if_neg (by simpa using within)]

theorem sections_sweep (s : InMemoryPersonalDataStore) (now : Instant) :
    (s.sweepRetention now).2 = (s.sweepHistory now).sweepFavourites now := rfl

-- The database holds the rows and the open transactions of every account. What
-- the others draw from the shared sequence is `elsewhere` for an account.
-- `overtaken` is kept for the statements only: open transactions whose count of
-- a collection is older than another's committed upserts.
structure Account where
  server : Server
  overtaken : List Nat

abbrev Database := Table Uuid Account

-- A sweep is five statements, each a transaction of its own. A statement
-- changes rows it finds unlocked; which of them it has seen is left open.
inductive SweepStatement where
  | expireHistory
  | pruneFavourites
  | pruneHistory
  | purgeFavourites (deleted : Uuid → Option Instant)
  | purgeHistory (deleted : Uuid → Option Instant)

inductive DatabaseAction where
  | begin (user : Uuid) (t client : Nat) (now : Instant) (request : SyncRequest)
  | sync (user : Uuid) (move : Move)
  | sweep (statement : SweepStatement) (now : Instant) (keys : List Key)

def Statement.isFavouriteLimit : Statement → Bool
  | .favouriteLimit => true
  | _ => false

def Statement.isHistoryLimit : Statement → Bool
  | .historyLimit => true
  | _ => false

def SyncRequest.upserts (request : SyncRequest) : Bool :=
  !request.favourites.upserts.isEmpty || !request.history.upserts.isEmpty

-- Whether a transaction has counted a collection it upserts into.
def Transaction.counted (x : Transaction) : Bool :=
  (!x.request.favourites.upserts.isEmpty && !x.rest.any Statement.isFavouriteLimit) ||
  (!x.request.history.upserts.isEmpty && !x.rest.any Statement.isHistoryLimit)

namespace Server

def locked {F : Type} (w : Server) (shelf : Transaction → Shelf F) (recordId : Uuid) : Bool :=
  w.transactions.toList.any fun entry => (shelf entry.2).locked.contains recordId

def expireRow (w : Server) (clock : Instant) (recordId : Uuid) : Server :=
  match w.history[recordId]? with
  | none => w
  | some row =>
    if isExpired clock row then {w with
      history := w.history.insert recordId {Postgres.expiredAt clock row with syncRevision := w.sequence + 1}
      sequence := w.sequence + 1}
    else w

def eraseWhere {F : Type} (records : Records F) (recordId : Uuid) (doomed : Record F → Bool) : Records F :=
  if (records[recordId]?).any doomed then records.erase recordId else records

def tombstoneBefore {F : Type} (cutoff : Instant) (row : Record F) : Bool := row.deletedAt.any fun deleted => deleted < cutoff

def sweepRow (w : Server) (statement : SweepStatement) (now : Instant) (key : Key) : Server :=
  let clock := transactionClock now
  match statement with
  | .expireHistory => if w.locked Transaction.history key.recordId then w else w.expireRow clock key.recordId
  | .pruneFavourites =>
    if w.locked Transaction.favourites key.recordId then w
    else {w with favourites := eraseWhere w.favourites key.recordId (tombstoneBefore (clock - tombstoneRetention))}
  | .pruneHistory =>
    if w.locked Transaction.history key.recordId then w
    else {w with history := eraseWhere w.history key.recordId (tombstoneBefore (clock - tombstoneRetention))}
  | .purgeFavourites deleted =>
    if w.locked Transaction.favourites key.recordId then w
    else {w with favourites := eraseWhere w.favourites key.recordId fun _ =>
      (deleted key.userId).any fun at_ => at_ < clock - deletedAccountPurge}
  | .purgeHistory deleted =>
    if w.locked Transaction.history key.recordId then w
    else {w with history := eraseWhere w.history key.recordId fun _ =>
      (deleted key.userId).any fun at_ => at_ < clock - deletedAccountPurge}

end Server

namespace Account

def start : Account := ⟨.start,[]⟩

-- A commit of upserts leaves behind the others that have counted already.
def overtake (a : Account) : Move → List Nat
  | .statement t => match a.server.transactions[t]? with
    | some x => match x.rest with
      | .commit :: _ =>
        if x.request.upserts then
          ((a.server.transactions.toList.filter fun entry => entry.1 ≠ t && entry.2.counted).map Prod.fst) ++ a.overtaken
        else a.overtaken
      | _ => a.overtaken
    | none => a.overtaken
  | .start t _ _ _ _ => a.overtaken.filter (· ≠ t)
  | _ => a.overtaken

def execute (pg : Postgres) (a : Account) (move : Move) : Option Account :=
  (a.server.execute pg move).map fun server => ⟨server,a.overtake move⟩

def begin (a : Account) (t client : Nat) (now : Instant) (request : SyncRequest) : Option Account :=
  if (a.server.transactions[t]?).isSome || request.validate now ≠ .ok () then none
  else some ⟨a.server.begin t client now request,a.overtaken.filter (· ≠ t)⟩

end Account

namespace Database

def account (db : Database) (user : Uuid) : Account := (db[user]?).getD .start

def sweepKey (statement : SweepStatement) (now : Instant) (db : Database) (key : Key) : Database :=
  let a := db.account key.userId
  db.insert key.userId {a with server := a.server.sweepRow statement now key}

-- A device's own `start` move is a `begin` at its cursor.
def execute (pg : Postgres) (db : Database) : DatabaseAction → Option Database
  | .begin user t client now request => ((db.account user).begin t client now request).map (db.insert user)
  | .sync user move => ((db.account user).execute pg move).map (db.insert user)
  | .sweep statement now keys => some (keys.foldl (sweepKey statement now) db)

end Database
end PersonalData
