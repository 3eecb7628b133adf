import Mathlib.Data.List.Sort
import Mathlib.Algebra.GroupWithZero.Nat
import RockServer.DeviceControl
import RockServer.LastWriter

namespace PersonalData
open DeviceControl (Uuid Instant seconds days Json)

def maxFavouriteRecords : Nat := 500
def maxHistoryRecords : Nat := 500
def maxSyncBatchItems : Nat := 300
def historyRetention : Instant := days 90
def tombstoneRetention : Instant := days 90
def deletedAccountPurge : Instant := days 30
def maxClientClockSkew : Instant := seconds (5 * 60)
def maxMetadataBytes : Nat := 4096
def maxPlayDurationMs : Nat := 30 * 24 * 60 * 60 * 1000
def maxStationIdLen : Nat := 256

inductive PersonalDataError where
  | validation (field : String)
  | favouriteLimitExceeded
  | historyLimitExceeded
  | database
deriving DecidableEq, Repr

-- A parsed RFC 3339 stamp. Order and equality are the instant's; the text is
-- what a database binding carries.
structure Timestamp where
  text : String
  instant : Instant
deriving DecidableEq, Repr

structure FavouriteFields where
  stationId : Option String
  addedAt : Instant
deriving DecidableEq

structure HistoryFields where
  stationId : Option String
  startedAt : Instant
  lastPlayedAt : Instant
  endedAt : Option Instant
  playDurationMs : Option Nat
  metadata : Option Json
deriving DecidableEq

-- A stored row is a register version with its identity and the revision of its
-- last change. Stamps are kept as instants: equality of records ignores texts.
structure Record (F : Type) extends LastWriter.Version F Instant where
  recordId : Uuid
  syncRevision : Nat
deriving DecidableEq

abbrev FavouriteRecord := Record FavouriteFields
abbrev HistoryRecord := Record HistoryFields

structure Key where
  userId : Uuid
  recordId : Uuid
deriving DecidableEq

instance : LinearOrder Key := LinearOrder.lift' (fun key => toLex (key.userId,key.recordId)) (by
  rintro ⟨_,_⟩ ⟨_,_⟩ same
  simpa using same)

abbrev Rows (F : Type) := Table Key (Record F)

structure FavouriteUpsert where
  recordId : Uuid
  stationId : String
  addedAt : Timestamp
  updatedAt : Timestamp
deriving DecidableEq

structure HistoryUpsert where
  recordId : Uuid
  stationId : String
  startedAt : Timestamp
  lastPlayedAt : Timestamp
  endedAt : Option Timestamp
  playDurationMs : Option Nat
  metadata : Option Json
  updatedAt : Timestamp
deriving DecidableEq

structure RecordDelete where
  recordId : Uuid
  updatedAt : Timestamp
deriving DecidableEq

structure CollectionChanges (U : Type) where
  upserts : List U := []
  deletes : List RecordDelete := []

structure SyncRequest where
  sinceRevision : Nat := 0
  favourites : CollectionChanges FavouriteUpsert := {}
  history : CollectionChanges HistoryUpsert := {}

structure SyncOutcome where
  serverRevision : Nat
  favourites : List FavouriteRecord
  history : List HistoryRecord
deriving DecidableEq

structure RetentionSweep where
  historyExpired : Nat
  tombstonesRemoved : Nat
  deletedAccountRowsRemoved : Nat
deriving DecidableEq

def require (condition : Bool) (error : PersonalDataError) : Except PersonalDataError Unit :=
  if condition then .ok () else .error error

-- General category Cc.
def isControl (c : Char) : Bool := c.toNat < 0x20 || (0x7f ≤ c.toNat && c.toNat < 0xa0)

def canonicalStationId (raw : String) : Except PersonalDataError Unit :=
  require (!raw.isEmpty && raw.length ≤ maxStationIdLen && !raw.toList.any isControl) (.validation "station_id")

def validateTimestamp (value : Timestamp) (now : Instant) : Except PersonalDataError Unit :=
  require (value.instant ≤ now + maxClientClockSkew) (.validation "timestamp")

-- Bytes of one character in a compact JSON string.
def encodedChar (c : Char) : Nat :=
  if c = '"' ∨ c = '\\' then 2
  else if c.toNat = 8 ∨ c.toNat = 9 ∨ c.toNat = 10 ∨ c.toNat = 12 ∨ c.toNat = 13 then 2
  else if c.toNat < 0x20 then 6
  else c.utf8Size

def encodedString (value : String) : Nat := 2 + (value.toList.map encodedChar).sum

mutual
def encodedLength : Json → Nat
  | .null => 4
  | .bool value => if value then 4 else 5
  | .number text => text.utf8ByteSize
  | .string value => encodedString value
  | .array items => 2 + encodedItems items
  | .object fields => 2 + encodedFields fields
def encodedItems : List Json → Nat
  | [] => 0
  | [item] => encodedLength item
  | item :: rest => encodedLength item + 1 + encodedItems rest
def encodedFields : List (String × Json) → Nat
  | [] => 0
  | [(key,value)] => encodedString key + 1 + encodedLength value
  | (key,value) :: rest => encodedString key + 1 + encodedLength value + 1 + encodedFields rest
end

def isObject : Json → Bool
  | .object _ => true
  | _ => false

def validateMetadata : Option Json → Except PersonalDataError Unit
  | none => .ok ()
  | some metadata =>
    require (isObject metadata && encodedLength metadata ≤ maxMetadataBytes) (.validation "history.metadata")

def FavouriteUpsert.validate (upsert : FavouriteUpsert) (now : Instant) : Except PersonalDataError Unit := do
  canonicalStationId upsert.stationId
  validateTimestamp upsert.addedAt now
  validateTimestamp upsert.updatedAt now

def validateEndedAt (endedAt : Option Timestamp) (startedAt : Timestamp) (now : Instant) :
    Except PersonalDataError Unit :=
  match endedAt with
  | none => .ok ()
  | some endedAt => do
    validateTimestamp endedAt now
    require (startedAt.instant ≤ endedAt.instant) (.validation "history.ended_at")

def HistoryUpsert.validate (upsert : HistoryUpsert) (now : Instant) : Except PersonalDataError Unit := do
  canonicalStationId upsert.stationId
  validateTimestamp upsert.startedAt now
  validateTimestamp upsert.lastPlayedAt now
  require (upsert.startedAt.instant ≤ upsert.lastPlayedAt.instant) (.validation "history.last_played_at")
  validateEndedAt upsert.endedAt upsert.startedAt now
  require (upsert.playDurationMs.all (· ≤ maxPlayDurationMs)) (.validation "history.play_duration_ms")
  validateMetadata upsert.metadata
  validateTimestamp upsert.updatedAt now

def SyncRequest.favouriteRecordIds (request : SyncRequest) : List Uuid :=
  request.favourites.upserts.map (·.recordId) ++ request.favourites.deletes.map (·.recordId)

def SyncRequest.historyRecordIds (request : SyncRequest) : List Uuid :=
  request.history.upserts.map (·.recordId) ++ request.history.deletes.map (·.recordId)

def SyncRequest.validate (request : SyncRequest) (now : Instant) : Except PersonalDataError Unit := do
  require (request.favourites.upserts.length ≤ maxSyncBatchItems) (.validation "favourites.upserts")
  require (request.favourites.deletes.length ≤ maxSyncBatchItems) (.validation "favourites.deletes")
  require (request.history.upserts.length ≤ maxSyncBatchItems) (.validation "history.upserts")
  require (request.history.deletes.length ≤ maxSyncBatchItems) (.validation "history.deletes")
  require (request.favouriteRecordIds.Nodup) (.validation "favourites")
  require (request.historyRecordIds.Nodup) (.validation "history")
  request.favourites.upserts.forM (·.validate now)
  request.history.upserts.forM (·.validate now)

-- One account's rows, as pairs of record id and row.
def accountRows {F : Type} (rows : Rows F) (user : Uuid) : List (Uuid × Record F) :=
  (rows.toList.filter fun entry => entry.1.userId = user).map fun entry => (entry.1.recordId,entry.2)

def liveCount {F : Type} (rows : Rows F) (user : Uuid) : Nat :=
  Table.count (fun key row => key.userId = user && row.deletedAt.isNone) rows

-- Rows past the cursor and rows just pushed, by revision, with the cursor that
-- the rows reach. The ordered map holds one row for each record id.
def deltaAndEcho {F : Type} (rows : List (Uuid × Record F)) (sinceRevision : Nat) (pushed : List Uuid) :
    List (Record F) × Nat :=
  let selected : Table Uuid (Record F) := rows.foldl
    (fun selected entry =>
      if sinceRevision < entry.2.syncRevision ∨ entry.1 ∈ pushed then selected.insert entry.1 entry.2
      else selected) ∅
  let cursor := rows.foldl (fun cursor entry => max cursor entry.2.syncRevision) sinceRevision
  ((selected.toList.map Prod.snd).insertionSort fun a b => a.syncRevision ≤ b.syncRevision,cursor)

variable {now : Instant} {request : SyncRequest}

theorem require_ok {condition : Bool} {error : PersonalDataError} : require condition error = .ok () ↔ condition = true := by
  cases condition <;> simp [require]

theorem bind_ok {first second : Except PersonalDataError Unit} :
    (first >>= fun _ => second) = .ok () ↔ first = .ok () ∧ second = .ok () := by
  cases first <;> simp [bind,Except.bind]

theorem forM_ok {α : Type} {items : List α} {check : α → Except PersonalDataError Unit} :
    items.forM check = .ok () ↔ ∀ item ∈ items, check item = .ok () := by
  induction items with
  | nil => simp [pure,Except.pure]
  | cons item rest ih =>
    change (check item >>= fun _ => rest.forM check) = .ok () ↔ _
    constructor
    · intro passed
      obtain ⟨first,others⟩ := bind_ok.mp passed
      simpa [first] using ih.mp others
    · intro passed
      exact bind_ok.mpr ⟨passed item List.mem_cons_self,
        ih.mpr fun other member => passed other (List.mem_cons_of_mem _ member)⟩

theorem validate_iff : request.validate now = .ok () ↔
    request.favourites.upserts.length ≤ maxSyncBatchItems ∧ request.favourites.deletes.length ≤ maxSyncBatchItems ∧
    request.history.upserts.length ≤ maxSyncBatchItems ∧ request.history.deletes.length ≤ maxSyncBatchItems ∧
    request.favouriteRecordIds.Nodup ∧ request.historyRecordIds.Nodup ∧
    (∀ upsert ∈ request.favourites.upserts, upsert.validate now = .ok ()) ∧
    ∀ upsert ∈ request.history.upserts, upsert.validate now = .ok () := by
  unfold SyncRequest.validate
  simp only [bind_ok,require_ok,forM_ok,decide_eq_true_eq]

-- What a validated request promises the stores.
theorem validate_ok (passed : request.validate now = .ok ()) :
    request.favouriteRecordIds.Nodup ∧ request.historyRecordIds.Nodup ∧
    (∀ upsert ∈ request.favourites.upserts, upsert.validate now = .ok ()) ∧
    ∀ upsert ∈ request.history.upserts, upsert.validate now = .ok () := by
  obtain ⟨_,_,_,_,favourites,history,upserts,entries⟩ := validate_iff.mp passed
  exact ⟨favourites,history,upserts,entries⟩

theorem FavouriteUpsert.stamps {upsert : FavouriteUpsert} (passed : upsert.validate now = .ok ()) :
    upsert.updatedAt.instant ≤ now + maxClientClockSkew := by
  unfold FavouriteUpsert.validate at passed
  simp only [bind_ok,validateTimestamp,require_ok,decide_eq_true_eq] at passed
  exact passed.2.2

theorem HistoryUpsert.stamps {upsert : HistoryUpsert} (passed : upsert.validate now = .ok ()) :
    upsert.updatedAt.instant ≤ now + maxClientClockSkew := by
  unfold HistoryUpsert.validate at passed
  simp only [bind_ok,validateTimestamp,require_ok,decide_eq_true_eq] at passed
  exact passed.2.2.2.2.2.2.2

-- The order of a play and the shape of its metadata, which the table checks again.
theorem HistoryUpsert.ordered {upsert : HistoryUpsert} (passed : upsert.validate now = .ok ()) :
    upsert.startedAt.instant ≤ upsert.lastPlayedAt.instant ∧
    (∀ endedAt ∈ upsert.endedAt, upsert.startedAt.instant ≤ endedAt.instant) ∧
    ∀ metadata ∈ upsert.metadata, isObject metadata = true := by
  unfold HistoryUpsert.validate at passed
  simp only [bind_ok,require_ok,decide_eq_true_eq] at passed
  obtain ⟨_,_,_,order,ended,_,metadata,_⟩ := passed
  refine ⟨order,?_,?_⟩
  · intro endedAt given
    rw [Option.mem_def.mp given] at ended
    simp only [validateEndedAt,bind_ok,require_ok,decide_eq_true_eq] at ended
    exact ended.2
  · intro value given
    rw [Option.mem_def.mp given] at metadata
    simp only [validateMetadata,require_ok,Bool.and_eq_true] at metadata
    exact metadata.1

end PersonalData
