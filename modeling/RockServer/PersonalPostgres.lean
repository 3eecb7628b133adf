import RockServer.PersonalMemory

namespace PersonalData
open DeviceControl (Uuid Instant Json)
open LastWriter (Version Change)

-- What the database server does with bound values: the casts of stamps and
-- metadata (an error is `none`), the textual projection of a stored stamp as
-- the store parses it back, and the order in which an update visits rows.
structure Postgres where
  timestamptz : Timestamp → Option Instant
  jsonb : Json → Option Json
  project : Instant → Option Instant
  scan : List Key → List Key
  scans : ∀ keys, (scan keys).Perm keys

-- `now()` is the transaction's start in whole microseconds.
def transactionClock (now : Instant) : Instant := now - now % 1000

structure PostgresPersonalDataStore where
  favourites : Rows FavouriteFields
  history : Rows HistoryFields
  sequence : Nat

-- An aborted transaction reports its error; the sequence does not roll back.
abbrev Aborted := PersonalDataError × Nat

section statements
variable {F : Type}

def insertOnConflict (state : Rows F × Nat) (key : Key) (inserted : Version F Instant)
    (update : Record F → Record F → Option (Record F)) : Rows F × Nat :=
  let excluded : Record F := ⟨inserted,key.recordId,state.2 + 1⟩
  match state.1[key]? with
  | none => (state.1.insert key excluded,excluded.syncRevision)
  | some row => match update row excluded with
    | none => (state.1,excluded.syncRevision)
    | some row' => (state.1.insert key row',excluded.syncRevision)

def overwriteOlder (row excluded : Record F) : Option (Record F) :=
  if row.updatedAt < excluded.updatedAt then some {excluded with deletedAt := none} else none

def markOlder (row excluded : Record F) : Option (Record F) :=
  if row.updatedAt < excluded.updatedAt ∧ row.deletedAt.isNone then some {excluded with fields := row.fields}
  else none

def upsertRow (user : Uuid) (state : Rows F × Nat) (recordId : Uuid) (fields : F) (updatedAt : Instant) :
    Rows F × Nat :=
  insertOnConflict state ⟨user,recordId⟩ ⟨fields,updatedAt,none⟩ overwriteOlder

def deleteRow (bare : Instant → F) (user : Uuid) (state : Rows F × Nat) (recordId : Uuid) (updatedAt : Instant) :
    Rows F × Nat :=
  insertOnConflict state ⟨user,recordId⟩ ⟨bare updatedAt,updatedAt,some updatedAt⟩ markOlder

def enforceLiveLimit (state : Rows F × Nat) (user : Uuid) (maxRecords : Nat) (exceeded : PersonalDataError) :
    Except Aborted Unit :=
  if maxRecords < liveCount state.1 user then .error (exceeded,state.2) else .ok ()

end statements

-- A nullable binding.
def nullable {A B : Type} (cast : A → Option B) : Option A → Option (Option B)
  | none => some none
  | some value => (cast value).map some

namespace Postgres
variable (pg : Postgres)

def favouriteFields (upsert : FavouriteUpsert) : Option FavouriteFields :=
  (pg.timestamptz upsert.addedAt).map fun addedAt => ⟨some upsert.stationId,addedAt⟩

def historyFields (upsert : HistoryUpsert) : Option HistoryFields := do
  let startedAt ← pg.timestamptz upsert.startedAt
  let lastPlayedAt ← pg.timestamptz upsert.lastPlayedAt
  let endedAt ← nullable pg.timestamptz upsert.endedAt
  let metadata ← nullable pg.jsonb upsert.metadata
  some ⟨some upsert.stationId,startedAt,lastPlayedAt,endedAt,upsert.playDurationMs,metadata⟩

-- The table's own checks on a history row.
def historyChecks (fields : HistoryFields) : Bool :=
  fields.startedAt ≤ fields.lastPlayedAt && fields.endedAt.all (fun endedAt => fields.startedAt ≤ endedAt)
    && fields.metadata.all isObject

def applyFavouriteUpsert (user : Uuid) (state : Rows FavouriteFields × Nat) (upsert : FavouriteUpsert) :
    Except Aborted (Rows FavouriteFields × Nat) :=
  match pg.favouriteFields upsert,pg.timestamptz upsert.updatedAt with
  | some fields,some updatedAt => .ok (upsertRow user state upsert.recordId fields updatedAt)
  | _,_ => .error (.database,state.2)

def applyFavouriteDelete (user : Uuid) (state : Rows FavouriteFields × Nat) (delete : RecordDelete) :
    Except Aborted (Rows FavouriteFields × Nat) :=
  match pg.timestamptz delete.updatedAt with
  | some updatedAt => .ok (deleteRow bareFavourite user state delete.recordId updatedAt)
  | none => .error (.database,state.2)

def applyHistoryUpsert (user : Uuid) (state : Rows HistoryFields × Nat) (upsert : HistoryUpsert) :
    Except Aborted (Rows HistoryFields × Nat) :=
  match pg.historyFields upsert,pg.timestamptz upsert.updatedAt with
  | some fields,some updatedAt =>
    if historyChecks fields then .ok (upsertRow user state upsert.recordId fields updatedAt)
    else .error (.database,state.2 + 1)
  | _,_ => .error (.database,state.2)

def applyHistoryDelete (user : Uuid) (state : Rows HistoryFields × Nat) (delete : RecordDelete) :
    Except Aborted (Rows HistoryFields × Nat) :=
  match pg.timestamptz delete.updatedAt with
  | some updatedAt => .ok (deleteRow bareHistory user state delete.recordId updatedAt)
  | none => .error (.database,state.2)

def expiredAt (clock : Instant) (row : HistoryRecord) : HistoryRecord :=
  {row with deletedAt := some clock,updatedAt := clock}

def expireWhere (owns : Key → Bool) (now : Instant) (state : Rows HistoryFields × Nat) : Rows HistoryFields × Nat :=
  let clock := transactionClock now
  expireRows (expiredAt clock) state (pg.scan (expiredKeys owns (clock - historyRetention) state.1))

def expireUserHistory (user : Uuid) (now : Instant) (state : Rows HistoryFields × Nat) : Rows HistoryFields × Nat :=
  pg.expireWhere (fun key => key.userId = user) now state

def projectFavourite (row : FavouriteRecord) : Option FavouriteRecord := do
  let addedAt ← pg.project row.fields.addedAt
  let updatedAt ← pg.project row.updatedAt
  let deletedAt ← nullable pg.project row.deletedAt
  some {row with fields := {row.fields with addedAt := addedAt},updatedAt := updatedAt,deletedAt := deletedAt}

def projectHistory (row : HistoryRecord) : Option HistoryRecord := do
  let startedAt ← pg.project row.fields.startedAt
  let lastPlayedAt ← pg.project row.fields.lastPlayedAt
  let endedAt ← nullable pg.project row.fields.endedAt
  let updatedAt ← pg.project row.updatedAt
  let deletedAt ← nullable pg.project row.deletedAt
  some {row with
    fields := {row.fields with startedAt := startedAt,lastPlayedAt := lastPlayedAt,endedAt := endedAt}
    updatedAt := updatedAt
    deletedAt := deletedAt}

def fetch {F : Type} (projected : Record F → Option (Record F)) (rows : Rows F) (user : Uuid) :
    Option (List (Uuid × Record F)) :=
  (accountRows rows user).mapM fun entry => (projected entry.2).map fun row => (entry.1,row)

end Postgres

def answerFrom (favourites : List (Uuid × FavouriteRecord)) (history : List (Uuid × HistoryRecord))
    (request : SyncRequest) : SyncOutcome :=
  let favourites := deltaAndEcho favourites request.sinceRevision request.favouriteRecordIds
  let history := deltaAndEcho history request.sinceRevision request.historyRecordIds
  ⟨max favourites.2 history.2,favourites.1,history.1⟩

def pruneTombstones {F : Type} (now : Instant) (rows : Rows F) : Rows F :=
  rows.filter fun _ row => !row.deletedAt.any fun deleted => deleted < transactionClock now - tombstoneRetention

-- Rows of accounts deleted longer ago than the grace; `deleted` is the users table's view.
def purgeDeletedAccountRows {F : Type} (now : Instant) (deleted : Uuid → Option Instant) (rows : Rows F) : Rows F :=
  rows.filter fun key _ => !(deleted key.userId).any fun at_ => at_ < transactionClock now - deletedAccountPurge

namespace PostgresPersonalDataStore
variable (pg : Postgres)

-- Limits and push-time retention run only when the collection was offered upserts.
def whenPushed {U : Type} (changes : CollectionChanges U) (check : Except Aborted Unit) : Except Aborted Unit :=
  if changes.upserts.isEmpty then .ok () else check

-- The statements of one transaction, up to its commit.
def push (s : PostgresPersonalDataStore) (now : Instant) (user : Uuid) (request : SyncRequest) :
    Except Aborted PostgresPersonalDataStore := do
  let favourites ← request.favourites.upserts.foldlM (pg.applyFavouriteUpsert user) (s.favourites,s.sequence)
  let favourites ← request.favourites.deletes.foldlM (pg.applyFavouriteDelete user) favourites
  whenPushed request.favourites (enforceLiveLimit favourites user maxFavouriteRecords .favouriteLimitExceeded)
  let history ← request.history.upserts.foldlM (pg.applyHistoryUpsert user) (s.history,favourites.2)
  let history ← request.history.deletes.foldlM (pg.applyHistoryDelete user) history
  let history := if request.history.upserts.isEmpty then history else pg.expireUserHistory user now history
  whenPushed request.history (enforceLiveLimit history user maxHistoryRecords .historyLimitExceeded)
  .ok ⟨favourites.1,history.1,history.2⟩

def read (s : PostgresPersonalDataStore) (user : Uuid) (request : SyncRequest) : Option SyncOutcome := do
  let favourites ← Postgres.fetch pg.projectFavourite s.favourites user
  let history ← Postgres.fetch pg.projectHistory s.history user
  some (answerFrom favourites history request)

-- The rows are parsed after the commit, so an unreadable stamp is reported with
-- the changes in place.
def synchronize (s : PostgresPersonalDataStore) (now : Instant) (user : Uuid) (request : SyncRequest) :
    Except PersonalDataError SyncOutcome × PostgresPersonalDataStore :=
  match request.validate now with
  | .error error => (.error error,s)
  | .ok () => match s.push pg now user request with
    | .error (error,sequence) => (.error error,{s with sequence := sequence})
    | .ok s' => match s'.read pg user request with
      | none => (.error .database,s')
      | some outcome => (.ok outcome,s')

def sweepRetention (s : PostgresPersonalDataStore) (now : Instant) (deleted : Uuid → Option Instant) :
    RetentionSweep × PostgresPersonalDataStore :=
  let history := pg.expireWhere (fun _ => true) now (s.history,s.sequence)
  let favourites := pruneTombstones now s.favourites
  let entries := pruneTombstones now history.1
  let keptFavourites := purgeDeletedAccountRows now deleted favourites
  let keptEntries := purgeDeletedAccountRows now deleted entries
  (⟨history.2 - s.sequence,
      (size s.favourites - size favourites) + (size history.1 - size entries),
      (size favourites - size keptFavourites) + (size entries - size keptEntries)⟩,
    ⟨keptFavourites,keptEntries,history.2⟩)

end PostgresPersonalDataStore

section spec
variable {F U : Type} {user recordId : Uuid} {state state' : Rows F × Nat} {fields : F} {updatedAt : Instant}
variable {bare : Instant → F}

theorem upsertRow_place (bare : Instant → F) : upsertRow user state recordId fields updatedAt =
    place true bare user state (recordId,.upsert fields updatedAt) := by
  unfold upsertRow insertOnConflict overwriteOlder place
  dsimp only
  cases found : state.1[(⟨user,recordId⟩ : Key)]? with
  | none => rfl
  | some row =>
    by_cases newer : row.updatedAt < updatedAt
    · simp [newer,Change.wins,Change.written]
    · simp [newer,Change.wins]

theorem deleteRow_place : deleteRow bare user state recordId updatedAt =
    place true bare user state (recordId,.delete updatedAt) := by
  unfold deleteRow insertOnConflict markOlder place
  dsimp only
  cases found : state.1[(⟨user,recordId⟩ : Key)]? with
  | none => rfl
  | some row =>
    by_cases newer : row.updatedAt < updatedAt ∧ row.deletedAt.isNone
    · simp [newer,Change.wins,Change.written]
    · have loses : (Change.delete updatedAt : Change F Instant).wins (some row.toVersion) = false := by
        rw [Bool.eq_false_iff]
        intro wins
        have both : row.deletedAt = none ∧ row.updatedAt < updatedAt := by simpa [Change.wins] using wins
        exact newer ⟨both.2,by simp [both.1]⟩
      rw [Option.isNone_iff_eq_none] at newer
      simp [newer,loses]

-- A loop of statements succeeds exactly when every cast does, and then it is
-- the batch of the cast changes.
theorem statements_ok {step : Rows F × Nat → U → Except Aborted (Rows F × Nat)}
    {cast : U → Option (Uuid × Change F Instant)}
    (spec : ∀ state item state', step state item = .ok state' ↔
      ∃ entry, cast item = some entry ∧ state' = place true bare user state entry) {items : List U} :
    items.foldlM step state = .ok state' ↔
    ∃ entries, items.mapM cast = some entries ∧ state' = placeAll true bare user state entries := by
  induction items generalizing state with
  | nil =>
    simp only [List.foldlM_nil,List.mapM_nil,pure,Except.pure,Except.ok.injEq,Option.some.injEq]
    constructor
    · rintro rfl; exact ⟨[],rfl,rfl⟩
    · rintro ⟨_,rfl,rfl⟩; rfl
  | cons item rest ih =>
    rw [List.foldlM_cons,List.mapM_cons]
    cases ran : step state item with
    | error aborted =>
      simp only [bind,Except.bind,reduceCtorEq,false_iff]
      rintro ⟨entries,casts,_⟩
      cases first : cast item with
      | none => simp [first] at casts
      | some entry =>
        have done := (spec state item _).mpr ⟨entry,first,rfl⟩
        rw [ran] at done
        cases done
    | ok middle =>
      obtain ⟨entry,first,rfl⟩ := (spec state item middle).mp ran
      simp only [bind,Except.bind,first,Option.bind]
      rw [ih]
      constructor
      · rintro ⟨entries,casts,rfl⟩
        exact ⟨entry :: entries,by simp [casts,pure],rfl⟩
      · rintro ⟨entries,casts,rfl⟩
        cases later : rest.mapM cast with
        | none => simp [later] at casts
        | some others =>
          simp only [later,pure,Option.some.injEq] at casts
          subst casts
          exact ⟨others,rfl,rfl⟩

theorem cast_mem {A B : Type} {cast : A → Option B} {items : List A} {entries : List B}
    (casts : items.mapM cast = some entries) {entry : B} (listed : entry ∈ entries) :
    ∃ item ∈ items, cast item = some entry := by
  induction items generalizing entries with
  | nil =>
    cases casts
    cases listed
  | cons item rest ih =>
    simp only [List.mapM_cons,Option.bind_eq_bind,Option.bind_eq_some_iff,Option.pure_def,Option.some.injEq] at casts
    obtain ⟨first,found,later,others,rfl⟩ := casts
    rcases List.mem_cons.mp listed with rfl | inside
    · exact ⟨item,List.mem_cons_self,found⟩
    · obtain ⟨other,member,same⟩ := ih others inside
      exact ⟨other,List.mem_cons_of_mem _ member,same⟩

-- The changes of one collection are cast one list after the other.
theorem cast_parts {A B C : Type} {f : A → Option C} {g : B → Option C} {upserts : List A} {deletes : List B}
    {entries : List C}
    (casts : (do
      let first ← upserts.mapM f
      let later ← deletes.mapM g
      some (first ++ later)) = some entries) :
    ∃ first, upserts.mapM f = some first ∧ ∃ later, deletes.mapM g = some later ∧ first ++ later = entries := by
  simpa [Option.bind_eq_some_iff] using casts

theorem mem_cast {A B : Type} {cast : A → Option B} {items : List A} {entries : List B}
    (casts : items.mapM cast = some entries) {item : A} (listed : item ∈ items) :
    ∃ entry ∈ entries, cast item = some entry := by
  induction items generalizing entries with
  | nil => cases listed
  | cons first rest ih =>
    simp only [List.mapM_cons,Option.bind_eq_bind,Option.bind_eq_some_iff,Option.pure_def,Option.some.injEq] at casts
    obtain ⟨entry,found,later,others,rfl⟩ := casts
    rcases List.mem_cons.mp listed with rfl | inside
    · exact ⟨entry,List.mem_cons_self,found⟩
    · obtain ⟨other,member,same⟩ := ih others inside
      exact ⟨other,List.mem_cons_of_mem _ member,same⟩

theorem cast_names {A B C : Type} {cast : A → Option B} {items : List A} {entries : List B} {f : A → C} {g : B → C}
    (casts : items.mapM cast = some entries) (same : ∀ item entry, cast item = some entry → g entry = f item) :
    entries.map g = items.map f := by
  induction items generalizing entries with
  | nil =>
    cases casts
    rfl
  | cons first rest ih =>
    simp only [List.mapM_cons,Option.bind_eq_bind,Option.bind_eq_some_iff,Option.pure_def,Option.some.injEq] at casts
    obtain ⟨entry,found,later,others,rfl⟩ := casts
    rw [List.map_cons,List.map_cons,same first entry found,ih others]

-- The cast changes of a batch on one record, when its casts are exact there.
theorem changesOn_cast {cast : U → Option (Uuid × Change F Instant)} {name : U → Uuid} {change : U → Change F Instant}
    {id : Uuid} {items : List U} {entries : List (Uuid × Change F Instant)} (casts : items.mapM cast = some entries)
    (names : ∀ item entry, cast item = some entry → entry.1 = name item)
    (kept : ∀ item ∈ items, name item = id → cast item = some (name item,change item)) :
    changesOn id entries = (items.filter fun item => name item = id).map change := by
  induction items generalizing entries with
  | nil =>
    cases casts
    rfl
  | cons item rest ih =>
    simp only [List.mapM_cons,Option.bind_eq_bind,Option.bind_eq_some_iff,Option.pure_def,Option.some.injEq] at casts
    obtain ⟨entry,first,later,others,rfl⟩ := casts
    have tail := ih others fun other member => kept other (List.mem_cons_of_mem _ member)
    have named := names item entry first
    unfold changesOn at tail ⊢
    by_cases mine : name item = id
    · rw [kept item List.mem_cons_self mine] at first
      cases first
      simp [mine,tail]
    · simp [named,mine,tail]

end spec

namespace Postgres
variable (pg : Postgres)

def favouriteUpsertEntry (upsert : FavouriteUpsert) : Option (Uuid × Change FavouriteFields Instant) := do
  let fields ← pg.favouriteFields upsert
  let updatedAt ← pg.timestamptz upsert.updatedAt
  some (upsert.recordId,.upsert fields updatedAt)

def historyUpsertEntry (upsert : HistoryUpsert) : Option (Uuid × Change HistoryFields Instant) := do
  let fields ← pg.historyFields upsert
  let updatedAt ← pg.timestamptz upsert.updatedAt
  if historyChecks fields then some (upsert.recordId,.upsert fields updatedAt) else none

def deleteEntry {F : Type} (delete : RecordDelete) : Option (Uuid × Change F Instant) :=
  (pg.timestamptz delete.updatedAt).map fun updatedAt => (delete.recordId,.delete updatedAt)

-- The changes of a batch as the database reads them.
def favouriteEntries (request : SyncRequest) : Option (List (Uuid × Change FavouriteFields Instant)) := do
  let upserts ← request.favourites.upserts.mapM pg.favouriteUpsertEntry
  let deletes ← request.favourites.deletes.mapM pg.deleteEntry
  some (upserts ++ deletes)

def historyEntries (request : SyncRequest) : Option (List (Uuid × Change HistoryFields Instant)) := do
  let upserts ← request.history.upserts.mapM pg.historyUpsertEntry
  let deletes ← request.history.deletes.mapM pg.deleteEntry
  some (upserts ++ deletes)

variable {pg} {user : Uuid}

-- Each change the database reads comes from one that was offered.
theorem mem_favouriteEntries {request : SyncRequest} {entries : List (Uuid × Change FavouriteFields Instant)}
    (casts : pg.favouriteEntries request = some entries) {entry : Uuid × Change FavouriteFields Instant}
    (listed : entry ∈ entries) :
    (∃ upsert ∈ request.favourites.upserts, pg.favouriteUpsertEntry upsert = some entry) ∨
    ∃ delete ∈ request.favourites.deletes, pg.deleteEntry delete = some entry := by
  obtain ⟨upserts,castUpserts,deletes,castDeletes,rfl⟩ := cast_parts casts
  exact (List.mem_append.mp listed).imp (cast_mem castUpserts) (cast_mem castDeletes)

theorem mem_historyEntries {request : SyncRequest} {entries : List (Uuid × Change HistoryFields Instant)}
    (casts : pg.historyEntries request = some entries) {entry : Uuid × Change HistoryFields Instant}
    (listed : entry ∈ entries) :
    (∃ upsert ∈ request.history.upserts, pg.historyUpsertEntry upsert = some entry) ∨
    ∃ delete ∈ request.history.deletes, pg.deleteEntry delete = some entry := by
  obtain ⟨upserts,castUpserts,deletes,castDeletes,rfl⟩ := cast_parts casts
  exact (List.mem_append.mp listed).imp (cast_mem castUpserts) (cast_mem castDeletes)

-- What the casts make of an offer's name and stamp.
theorem favouriteUpsertEntry_stamp {upsert : FavouriteUpsert} {entry : Uuid × Change FavouriteFields Instant}
    (casts : pg.favouriteUpsertEntry upsert = some entry) :
    entry.1 = upsert.recordId ∧ pg.timestamptz upsert.updatedAt = some entry.2.stamp ∧ entry.2.deletes = false := by
  simp only [favouriteUpsertEntry,Option.bind_eq_bind,Option.bind_eq_some_iff,Option.some.injEq] at casts
  obtain ⟨_,_,_,stamp,rfl⟩ := casts
  exact ⟨rfl,stamp,rfl⟩

theorem historyUpsertEntry_stamp {upsert : HistoryUpsert} {entry : Uuid × Change HistoryFields Instant}
    (casts : pg.historyUpsertEntry upsert = some entry) :
    entry.1 = upsert.recordId ∧ pg.timestamptz upsert.updatedAt = some entry.2.stamp ∧ entry.2.deletes = false := by
  simp only [historyUpsertEntry,Option.bind_eq_bind,Option.bind_eq_some_iff] at casts
  obtain ⟨_,_,_,stamp,casts⟩ := casts
  split at casts
  · cases casts
    exact ⟨rfl,stamp,rfl⟩
  · cases casts

theorem deleteEntry_stamp {F : Type} {delete : RecordDelete} {entry : Uuid × Change F Instant}
    (casts : pg.deleteEntry delete = some entry) :
    entry.1 = delete.recordId ∧ pg.timestamptz delete.updatedAt = some entry.2.stamp ∧ entry.2.deletes = true := by
  obtain ⟨_,stamp,rfl⟩ := Option.map_eq_some_iff.mp casts
  exact ⟨rfl,stamp,rfl⟩

theorem favouriteUpsert_ok (state : Rows FavouriteFields × Nat) (upsert : FavouriteUpsert)
    (state' : Rows FavouriteFields × Nat) : pg.applyFavouriteUpsert user state upsert = .ok state' ↔
    ∃ entry, pg.favouriteUpsertEntry upsert = some entry ∧ state' = place true bareFavourite user state entry := by
  unfold applyFavouriteUpsert favouriteUpsertEntry
  cases pg.favouriteFields upsert with
  | none => simp
  | some fields =>
    cases pg.timestamptz upsert.updatedAt with
    | none => simp
    | some updatedAt => simp [upsertRow_place bareFavourite,eq_comm]

theorem favouriteDelete_ok (state : Rows FavouriteFields × Nat) (delete : RecordDelete)
    (state' : Rows FavouriteFields × Nat) : pg.applyFavouriteDelete user state delete = .ok state' ↔
    ∃ entry, pg.deleteEntry delete = some entry ∧ state' = place true bareFavourite user state entry := by
  unfold applyFavouriteDelete deleteEntry
  cases pg.timestamptz delete.updatedAt with
  | none => simp
  | some updatedAt => simp [deleteRow_place,eq_comm]

theorem historyUpsert_ok (state : Rows HistoryFields × Nat) (upsert : HistoryUpsert)
    (state' : Rows HistoryFields × Nat) : pg.applyHistoryUpsert user state upsert = .ok state' ↔
    ∃ entry, pg.historyUpsertEntry upsert = some entry ∧ state' = place true bareHistory user state entry := by
  unfold applyHistoryUpsert historyUpsertEntry
  cases pg.historyFields upsert with
  | none => simp
  | some fields =>
    cases pg.timestamptz upsert.updatedAt with
    | none => simp
    | some updatedAt =>
      by_cases passes : historyChecks fields = true
      · simp only [passes,if_true,bind,Option.bind,Except.ok.injEq,Option.some.injEq,upsertRow_place bareHistory]
        constructor
        · rintro rfl; exact ⟨_,rfl,rfl⟩
        · rintro ⟨_,rfl,rfl⟩; rfl
      · simp [passes]

theorem historyDelete_ok (state : Rows HistoryFields × Nat) (delete : RecordDelete)
    (state' : Rows HistoryFields × Nat) : pg.applyHistoryDelete user state delete = .ok state' ↔
    ∃ entry, pg.deleteEntry delete = some entry ∧ state' = place true bareHistory user state entry := by
  unfold applyHistoryDelete deleteEntry
  cases pg.timestamptz delete.updatedAt with
  | none => simp
  | some updatedAt => simp [deleteRow_place,eq_comm]

theorem clock_le (now : Instant) : transactionClock now ≤ now := Int.sub_le_self now (Int.emod_nonneg now (by decide))

theorem expireWhere_unexpired {owns : Key → Bool} {now : Instant} {state : Rows HistoryFields × Nat}
    (fresh : Unexpired owns (now - historyRetention) state.1) : pg.expireWhere owns now state = state := by
  have none_ : expiredKeys owns (transactionClock now - historyRetention) state.1 = [] := by
    refine expiredKeys_nil.mpr fun key row found mine live => le_trans ?_ (fresh key row found mine live)
    exact Int.sub_le_sub_right (clock_le now) historyRetention
  unfold expireWhere
  dsimp only
  rw [none_,(pg.scans []).eq_nil]
  rfl

-- Stamps and metadata that a binding and a later projection leave as they are:
-- whole microseconds within the database's range.
def Keeps (pg : Postgres) (stamp : Timestamp) : Prop :=
  pg.timestamptz stamp = some stamp.instant ∧ pg.project stamp.instant = some stamp.instant

def KeepsFavourite (pg : Postgres) (upsert : FavouriteUpsert) : Prop :=
  pg.Keeps upsert.addedAt ∧ pg.Keeps upsert.updatedAt

def KeepsHistory (pg : Postgres) (upsert : HistoryUpsert) : Prop :=
  pg.Keeps upsert.startedAt ∧ pg.Keeps upsert.lastPlayedAt ∧ (∀ endedAt ∈ upsert.endedAt, pg.Keeps endedAt) ∧
  (∀ metadata ∈ upsert.metadata, pg.jsonb metadata = some metadata) ∧ pg.Keeps upsert.updatedAt

-- Stored stamps that read back as they are.
def Steady (pg : Postgres) (stored : Instant) : Prop := pg.project stored = some stored

def SteadyFavourite (pg : Postgres) : Version FavouriteFields Instant → Prop :=
  Version.All (fun fields => pg.Steady fields.addedAt) pg.Steady

def SteadyHistory (pg : Postgres) : Version HistoryFields Instant → Prop :=
  Version.All (fun fields => pg.Steady fields.startedAt ∧ pg.Steady fields.lastPlayedAt ∧
    ∀ endedAt ∈ fields.endedAt, pg.Steady endedAt) pg.Steady

theorem nullable_kept {A B : Type} {cast : A → Option B} {value : Option A} {f : A → B}
    (kept : ∀ inner ∈ value, cast inner = some (f inner)) : nullable cast value = some (value.map f) := by
  cases value with
  | none => rfl
  | some inner => simp [nullable,kept inner rfl]

theorem favouriteUpsertEntry_kept {upsert : FavouriteUpsert} (kept : pg.KeepsFavourite upsert) :
    pg.favouriteUpsertEntry upsert = some (upsert.recordId,.upsert upsert.fields upsert.updatedAt.instant) := by
  simp [favouriteUpsertEntry,favouriteFields,kept.1.1,kept.2.1,FavouriteUpsert.fields]

theorem historyUpsertEntry_kept {upsert : HistoryUpsert} {now : Instant} (kept : pg.KeepsHistory upsert)
    (passed : upsert.validate now = .ok ()) :
    pg.historyUpsertEntry upsert = some (upsert.recordId,.upsert upsert.fields upsert.updatedAt.instant) := by
  obtain ⟨started,played,ended,metadata,updated⟩ := kept
  obtain ⟨order,after,object⟩ := upsert.ordered passed
  have fields : pg.historyFields upsert = some upsert.fields := by
    simp [historyFields,started.1,played.1,nullable_kept fun inner given => (ended inner given).1,
      nullable_kept metadata,HistoryUpsert.fields]
  have checks : historyChecks upsert.fields = true := by
    simp only [historyChecks,HistoryUpsert.fields,Bool.and_eq_true,Option.all_map]
    refine ⟨⟨decide_eq_true order,?_⟩,?_⟩
    · rw [Option.all_eq_true]
      intro inner given
      exact decide_eq_true (after inner given)
    · rw [Option.all_eq_true]
      exact object
  simp [historyUpsertEntry,fields,updated.1,checks]

theorem deleteEntry_kept {F : Type} {delete : RecordDelete} (kept : pg.Keeps delete.updatedAt) :
    pg.deleteEntry (F:=F) delete = some (delete.recordId,.delete delete.updatedAt.instant) := by
  simp [deleteEntry,kept.1]

theorem projectFavourite_steady {row : FavouriteRecord} (steady : pg.SteadyFavourite row.toVersion) :
    pg.projectFavourite row = some row := by
  obtain ⟨added,updated,deleted⟩ := steady
  unfold Steady at added updated deleted
  simp [projectFavourite,added,updated,nullable_kept (f:=fun t => t) deleted]

theorem projectHistory_steady {row : HistoryRecord} (steady : pg.SteadyHistory row.toVersion) :
    pg.projectHistory row = some row := by
  obtain ⟨⟨started,played,ended⟩,updated,deleted⟩ := steady
  unfold Steady at started played ended updated deleted
  simp [projectHistory,started,played,updated,nullable_kept (f:=fun t => t) ended,
    nullable_kept (f:=fun t => t) deleted]

theorem projectFavourite_revision {row record : FavouriteRecord} (shown : pg.projectFavourite row = some record) :
    record.syncRevision = row.syncRevision := by
  simp only [projectFavourite,Option.bind_eq_bind,Option.bind_eq_some_iff,Option.some.injEq] at shown
  obtain ⟨_,_,_,_,_,_,rfl⟩ := shown
  rfl

theorem projectHistory_revision {row record : HistoryRecord} (shown : pg.projectHistory row = some record) :
    record.syncRevision = row.syncRevision := by
  simp only [projectHistory,Option.bind_eq_bind,Option.bind_eq_some_iff,Option.some.injEq] at shown
  obtain ⟨_,_,_,_,_,_,_,_,_,_,rfl⟩ := shown
  rfl

-- Rows as listed, each projected.
section projection
variable {F : Type} {projected : Record F → Option (Record F)} {listing entries : List (Uuid × Record F)} {id : Uuid}

theorem mem_projected (shown : listing.mapM (fun entry => (projected entry.2).map fun row => (entry.1,row)) = some entries)
    {record : Record F} : (id,record) ∈ entries ↔ ∃ row, (id,row) ∈ listing ∧ projected row = some record := by
  constructor
  · intro listed
    obtain ⟨item,member,found⟩ := cast_mem shown listed
    obtain ⟨record',projection,same⟩ := Option.map_eq_some_iff.mp found
    cases same
    exact ⟨item.2,member,projection⟩
  · rintro ⟨row,member,projection⟩
    obtain ⟨entry,listed,found⟩ := mem_cast shown member
    rw [projection] at found
    cases Option.some.inj found
    exact listed

theorem projected_some (shown : listing.mapM (fun entry => (projected entry.2).map fun row => (entry.1,row)) = some entries)
    {row : Record F} (listed : (id,row) ∈ listing) : ∃ record, projected row = some record := by
  obtain ⟨entry,_,found⟩ := mem_cast shown listed
  obtain ⟨record,projection,_⟩ := Option.map_eq_some_iff.mp found
  exact ⟨record,projection⟩

theorem projected_distinct (distinct : (listing.map Prod.fst).Nodup)
    (shown : listing.mapM (fun entry => (projected entry.2).map fun row => (entry.1,row)) = some entries) :
    (entries.map Prod.fst).Nodup := by
  have names : entries.map Prod.fst = listing.map Prod.fst := by
    refine cast_names shown fun item entry found => ?_
    obtain ⟨_,_,rfl⟩ := Option.map_eq_some_iff.mp found
    rfl
  rw [names]
  exact distinct

end projection

-- What the store hands to the delta: each row of the account once, projected.
theorem mem_fetch {F : Type} {projected : Record F → Option (Record F)} {rows : Rows F}
    {entries : List (Uuid × Record F)} (fetched : fetch projected rows user = some entries) {id : Uuid}
    {record : Record F} (listed : (id,record) ∈ entries) :
    ∃ row, rows[(⟨user,id⟩ : Key)]? = some row ∧ projected row = some record := by
  obtain ⟨row,member,projection⟩ := (mem_projected fetched).mp listed
  exact ⟨row,mem_accountRows.mp member,projection⟩

theorem fetch_mem {F : Type} {projected : Record F → Option (Record F)} {rows : Rows F}
    {entries : List (Uuid × Record F)} (fetched : fetch projected rows user = some entries) {id : Uuid}
    {row : Record F} (found : rows[(⟨user,id⟩ : Key)]? = some row) :
    ∃ record, projected row = some record ∧ (id,record) ∈ entries := by
  have member := mem_accountRows.mpr found
  obtain ⟨record,projection⟩ := projected_some fetched member
  exact ⟨record,projection,(mem_projected fetched).mpr ⟨row,member,projection⟩⟩

theorem fetch_distinct {F : Type} {projected : Record F → Option (Record F)} {rows : Rows F}
    {entries : List (Uuid × Record F)} (fetched : fetch projected rows user = some entries) :
    (entries.map Prod.fst).Nodup :=
  projected_distinct (accountRows_distinct rows user) fetched

theorem fetch_steady {F : Type} {projected : Record F → Option (Record F)} {rows : Rows F}
    (steady : ∀ (key : Key) row, rows[key]? = some row → projected row = some row) :
    fetch projected rows user = some (accountRows rows user) := by
  have plain : ∀ entries : List (Uuid × Record F), (∀ entry ∈ entries, projected entry.2 = some entry.2) →
      entries.mapM (fun entry => (projected entry.2).map fun row => (entry.1,row)) = some entries := by
    intro entries each
    induction entries with
    | nil => rfl
    | cons entry rest ih =>
      have tail := ih fun other member => each other (List.mem_cons_of_mem _ member)
      simp [each entry List.mem_cons_self,tail]
  refine plain _ fun entry listed => ?_
  exact steady _ entry.2 (mem_accountRows.mp listed)

end Postgres

namespace PostgresPersonalDataStore
variable {pg : Postgres} {s s' : PostgresPersonalDataStore} {now : Instant} {user : Uuid} {request : SyncRequest}
variable {answer : Except PersonalDataError SyncOutcome}
variable {favourites : List (Uuid × Change FavouriteFields Instant)} {history : List (Uuid × Change HistoryFields Instant)}

-- The tables a transaction would leave, given its cast changes.
def placedFavourites (s : PostgresPersonalDataStore) (user : Uuid)
    (favourites : List (Uuid × Change FavouriteFields Instant)) : Rows FavouriteFields × Nat :=
  placeAll true bareFavourite user (s.favourites,s.sequence) favourites

def placedHistory (pg : Postgres) (s : PostgresPersonalDataStore) (now : Instant) (user : Uuid)
    (request : SyncRequest) (favourites : List (Uuid × Change FavouriteFields Instant))
    (history : List (Uuid × Change HistoryFields Instant)) : Rows HistoryFields × Nat :=
  let placed := placeAll true bareHistory user (s.history,(s.placedFavourites user favourites).2) history
  if request.history.upserts.isEmpty then placed else pg.expireUserHistory user now placed

theorem aborted_bind {A B : Type} {first : Except Aborted A} {next : A → Except Aborted B} {final : B} :
    (first >>= next) = .ok final ↔ ∃ middle, first = .ok middle ∧ next middle = .ok final := by
  cases first <;> simp [bind,Except.bind]

theorem limit_ok {F U : Type} {state : Rows F × Nat} {maxRecords : Nat} {exceeded : PersonalDataError} {u : Unit}
    {changes : CollectionChanges U} : whenPushed changes (enforceLiveLimit state user maxRecords exceeded) = .ok u ↔
    changes.upserts = [] ∨ liveCount state.1 user ≤ maxRecords := by
  unfold whenPushed enforceLiveLimit
  by_cases empty : changes.upserts = []
  · simp [empty]
  · by_cases beyond : maxRecords < liveCount state.1 user
    · simp [empty,beyond]
    · simp [empty,beyond,Nat.le_of_not_lt beyond]

theorem push_ok : s.push pg now user request = .ok s' ↔ ∃ favourites history,
    pg.favouriteEntries request = some favourites ∧ pg.historyEntries request = some history ∧
    (request.favourites.upserts = [] ∨
      liveCount (s.placedFavourites user favourites).1 user ≤ maxFavouriteRecords) ∧
    (request.history.upserts = [] ∨
      liveCount (s.placedHistory pg now user request favourites history).1 user ≤ maxHistoryRecords) ∧
    s' = ⟨(s.placedFavourites user favourites).1,(s.placedHistory pg now user request favourites history).1,
      (s.placedHistory pg now user request favourites history).2⟩ := by
  unfold push
  simp only [aborted_bind,statements_ok Postgres.favouriteUpsert_ok,statements_ok Postgres.favouriteDelete_ok,
    statements_ok Postgres.historyUpsert_ok,statements_ok Postgres.historyDelete_ok,limit_ok,Except.ok.injEq]
  constructor
  · rintro ⟨_,⟨upserts,castUpserts,rfl⟩,_,⟨deletes,castDeletes,rfl⟩,_,small,_,⟨entries,castEntries,rfl⟩,_,
      ⟨removals,castRemovals,rfl⟩,_,bounded,rfl⟩
    refine ⟨upserts ++ deletes,entries ++ removals,?_,?_,?_,?_,?_⟩
    · simp [Postgres.favouriteEntries,castUpserts,castDeletes]
    · simp [Postgres.historyEntries,castEntries,castRemovals]
    all_goals simp only [placedFavourites,placedHistory,placeAll,List.foldl_append] at *
    · exact small
    · exact bounded
  · rintro ⟨favourites,history,castFavourites,castHistory,small,bounded,rfl⟩
    obtain ⟨upserts,castUpserts,deletes,castDeletes,rfl⟩ := cast_parts castFavourites
    obtain ⟨entries,castEntries,removals,castRemovals,rfl⟩ := cast_parts castHistory
    simp only [placedFavourites,placedHistory,placeAll,List.foldl_append] at *
    exact ⟨_,⟨upserts,castUpserts,rfl⟩,_,⟨deletes,castDeletes,rfl⟩,(),small,_,⟨entries,castEntries,rfl⟩,_,
      ⟨removals,castRemovals,rfl⟩,(),bounded,rfl⟩

-- Where every stored stamp reads back, a committed push is answered.
theorem read_steady (favourites : ∀ (key : Key) row, s.favourites[key]? = some row → pg.SteadyFavourite row.toVersion)
    (history : ∀ (key : Key) row, s.history[key]? = some row → pg.SteadyHistory row.toVersion) :
    s.read pg user request = some (answerFrom (accountRows s.favourites user) (accountRows s.history user) request) := by
  unfold read
  rw [Postgres.fetch_steady fun key row found => Postgres.projectFavourite_steady (favourites key row found),
    Postgres.fetch_steady fun key row found => Postgres.projectHistory_steady (history key row found)]
  rfl

theorem synchronize_ok (valid : request.validate now = .ok ()) (pushed : s.push pg now user request = .ok s')
    (favourites : ∀ (key : Key) row, s'.favourites[key]? = some row → pg.SteadyFavourite row.toVersion)
    (history : ∀ (key : Key) row, s'.history[key]? = some row → pg.SteadyHistory row.toVersion) :
    s.synchronize pg now user request =
      (.ok (answerFrom (accountRows s'.favourites user) (accountRows s'.history user) request),s') := by
  unfold synchronize
  rw [valid]
  dsimp only
  rw [pushed]
  dsimp only
  rw [read_steady favourites history]

-- The inversion of one call.
theorem sync_cases (ran : s.synchronize pg now user request = (answer,s')) :
    (∃ error, request.validate now = .error error ∧ answer = .error error ∧ s' = s) ∨
    (∃ error sequence, request.validate now = .ok () ∧ s.push pg now user request = .error (error,sequence) ∧
      answer = .error error ∧ s' = {s with sequence := sequence}) ∨
    (request.validate now = .ok () ∧ s.push pg now user request = .ok s' ∧
      ((s'.read pg user request = none ∧ answer = .error .database) ∨
        ∃ outcome, s'.read pg user request = some outcome ∧ answer = .ok outcome)) := by
  unfold synchronize at ran
  cases valid : request.validate now with
  | error error =>
    rw [valid] at ran
    cases ran
    exact .inl ⟨error,rfl,rfl,rfl⟩
  | ok done =>
    rw [valid] at ran
    dsimp only at ran
    cases pushed : s.push pg now user request with
    | error aborted =>
      rw [pushed] at ran
      cases ran
      exact .inr (.inl ⟨_,_,rfl,rfl,rfl,rfl⟩)
    | ok after =>
      rw [pushed] at ran
      dsimp only at ran
      split at ran
      · rename_i unreadable
        cases ran
        exact .inr (.inr ⟨rfl,rfl,.inl ⟨unreadable,rfl⟩⟩)
      · rename_i outcome readable
        cases ran
        exact .inr (.inr ⟨rfl,rfl,.inr ⟨outcome,readable,rfl⟩⟩)

theorem sync_ok {outcome : SyncOutcome} (ran : s.synchronize pg now user request = (.ok outcome,s')) :
    request.validate now = .ok () ∧ s.push pg now user request = .ok s' ∧ s'.read pg user request = some outcome := by
  rcases sync_cases ran with ⟨_,_,impossible,_⟩ | ⟨_,_,_,_,impossible,_⟩ |
    ⟨valid,pushed,⟨_,impossible⟩ | ⟨_,readable,answered⟩⟩
  · cases impossible
  · cases impossible
  · cases impossible
  · cases answered
    exact ⟨valid,pushed,readable⟩

end PostgresPersonalDataStore

-- A server on the stamps at hand: whole microseconds pass unchanged.
def sampleServer : Postgres where
  timestamptz stamp := some ((stamp.instant + 500) / 1000 * 1000)
  jsonb := some
  project := some
  scan keys := keys
  scans keys := .refl keys

def second (n : Nat) : Timestamp := ⟨s!"1970-01-01T00:00:0{n}Z",DeviceControl.seconds n⟩

theorem second_kept (n : Nat) : sampleServer.Keeps (second n) := by
  have whole : ((n * 1000000000 + 500) / 1000 * 1000 : Int) = n * 1000000000 := by omega
  exact ⟨congrArg some whole,rfl⟩

end PersonalData
