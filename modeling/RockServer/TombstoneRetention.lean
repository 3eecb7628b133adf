import RockServer.SyncRuns

namespace PersonalData
open DeviceControl (Uuid Instant)
open LastWriter (Version Change)

-- One collection of one store, with what its rows look like to a client.
structure Collection (S F : Type) where
  backend : Backend S
  rows : S → Rows F
  upserts : SyncRequest → List (Uuid × Timestamp)
  deletes : SyncRequest → List RecordDelete
  cast : Timestamp → Option Instant
  received : SyncOutcome → List (Record F)
  shown : Record F → Option (Record F)
  expires : Action → Record F → Instant → Prop
  purged : Instant → (Uuid → Option Instant) → Uuid → Bool

-- A store with every cursor that honest clients have been given so far.
structure Session (S : Type) where
  store : S
  cursors : List Nat

section session
variable {S F : Type}

def Session.start (backend : Backend S) : Session S := ⟨backend.empty,[0]⟩

def Session.after (backend : Backend S) (session : Session S) (action : Action) : Session S where
  store := backend.step session.store action
  cursors := match action with
    | .sweep _ _ => session.cursors
    | .sync now user request =>
      match (backend.synchronize session.store now user request).1 with
      | .error _ => session.cursors
      | .ok outcome =>
        if request.sinceRevision ∈ session.cursors then outcome.serverRevision :: session.cursors
        else session.cursors

def Session.steps (backend : Backend S) (session : Session S) (action : Action) (session' : Session S) : Prop :=
  session' = session.after backend action

variable (collection : Collection S F)

-- Where a tombstone's mark comes from: a deletion offered for the record, as
-- the store reads its stamp, or an expiry.
def Collection.Marks (action : Action) (key : Key) (row : Record F) (deletedAt : Instant) : Prop :=
  (∃ now request, action = .sync now key.userId request ∧ ∃ delete ∈ collection.deletes request,
    delete.recordId = key.recordId ∧ collection.cast delete.updatedAt = some deletedAt) ∨
  collection.expires action row deletedAt

-- Nothing newer is offered for the record, no sweep comes later than the
-- retention after the mark, and the account is not purged.
def Collection.Undisturbed (key : Key) (row : Record F) (deletedAt : Instant) : Action → Prop
  | .sync _ user request => user = key.userId → ∀ upsert ∈ collection.upserts request, upsert.1 = key.recordId →
      ∀ stored, collection.cast upsert.2 = some stored → stored ≤ row.updatedAt
  | .sweep now deleted => now ≤ deletedAt + tombstoneRetention ∧ collection.purged now deleted key.userId = false

-- A tombstone made by a step stays while it is undisturbed, and a client that
-- then syncs with a cursor from before that step is told of it.
def Collection.Retains : Prop :=
  ∀ earlier before action key row deletedAt later after,
    Transition.Runs (Session.steps collection.backend) (Session.start collection.backend) earlier before →
    (collection.rows before.store)[key]? ≠ some row →
    (collection.rows (before.after collection.backend action).store)[key]? = some row →
    row.deletedAt = some deletedAt →
    Transition.Runs (Transition.Under (fun _ action => collection.Undisturbed key row deletedAt action)
      (Session.steps collection.backend)) (before.after collection.backend action) later after →
    collection.Marks action key row deletedAt ∧
    (collection.rows after.store)[key]? = some row ∧
    ∀ now request outcome s', request.sinceRevision ∈ before.cursors →
      collection.Undisturbed key row deletedAt (.sync now key.userId request) →
      collection.backend.synchronize after.store now key.userId request = (.ok outcome,s') →
      ∃ record ∈ collection.received outcome, collection.shown row = some record

-- What a collection owes to its steps, one law for each of the three promises.
structure Collection.Lawful : Prop where
  orderly : collection.backend.Orderly
  advances : ∀ s action, Advances (collection.rows s) (collection.backend.counter s)
    (collection.rows (collection.backend.step s action)) (collection.backend.counter (collection.backend.step s action))
  marks : ∀ s action (key : Key) row deletedAt, (collection.rows s)[key]? ≠ some row →
    (collection.rows (collection.backend.step s action))[key]? = some row → row.deletedAt = some deletedAt →
    collection.Marks action key row deletedAt
  keeps : ∀ s action (key : Key) row deletedAt, (collection.rows s)[key]? = some row → row.deletedAt = some deletedAt →
    collection.Undisturbed key row deletedAt action →
    (collection.rows (collection.backend.step s action))[key]? = some row
  tells : ∀ s now request outcome s' (key : Key) row,
    collection.backend.synchronize s now key.userId request = (.ok outcome,s') →
    (collection.rows s')[key]? = some row → request.sinceRevision < row.syncRevision →
    ∃ record ∈ collection.received outcome, collection.shown row = some record

variable {collection}

-- Every cursor in circulation is within the counter.
theorem session_run {backend : Backend S} (orderly : backend.Orderly) {actions : List Action} {session : Session S}
    (path : Transition.Runs (Session.steps backend) (Session.start backend) actions session) :
    backend.Counted session.store ∧ ∀ cursor ∈ session.cursors, cursor ≤ backend.counter session.store := by
  refine path.invariant (fun session => backend.Counted session.store ∧
    ∀ cursor ∈ session.cursors, cursor ≤ backend.counter session.store) ⟨orderly.starts,?_⟩ ?_
  · intro cursor listed
    cases List.mem_singleton.mp listed
    exact Nat.zero_le _
  · intro before action after held taken
    cases taken
    have counted := orderly.counted action held.1
    have grows : backend.counter before.store ≤ backend.counter (backend.step before.store action) :=
      (orderly.advances before.store action).1.1
    have old : ∀ cursor ∈ before.cursors, cursor ≤ backend.counter (backend.step before.store action) :=
      fun cursor listed => Nat.le_trans (held.2 cursor listed) grows
    refine ⟨counted,?_⟩
    cases action with
    | sweep now deleted => exact old
    | sync now user request =>
      unfold Session.after
      dsimp only
      cases ran : backend.synchronize before.store now user request with
      | mk answer s' =>
        have reached : backend.step before.store (.sync now user request) = s' := congrArg Prod.snd ran
        rw [reached] at counted old ⊢
        cases answer with
        | error error => exact old
        | ok outcome =>
          dsimp only
          split
          · rename_i honest
            refine List.forall_mem_cons.mpr ⟨?_,old⟩
            exact orderly.answers _ _ _ _ _ _ ran counted (old _ honest)
          · exact old

theorem Collection.Lawful.retains (lawful : collection.Lawful) : collection.Retains := by
  intro earlier before action key row deletedAt later after path absent made marked rest
  refine ⟨lawful.marks _ _ _ _ _ absent made marked,?_⟩
  have stays : (collection.rows after.store)[key]? = some row := by
    refine rest.invariant (fun session => (collection.rows session.store)[key]? = some row) made ?_
    intro session action session' present taken
    obtain ⟨undisturbed,rfl⟩ := taken
    exact lawful.keeps _ _ _ _ _ present marked undisturbed
  refine ⟨stays,fun now request outcome s' honest undisturbed answered => ?_⟩
  have kept := lawful.keeps _ _ _ _ _ stays marked undisturbed
  have reached : collection.backend.step after.store (.sync now key.userId request) = s' := congrArg Prod.snd answered
  rw [reached] at kept
  have behind : request.sinceRevision < row.syncRevision := by
    rcases (lawful.advances before.store action).2 key row made with old | ⟨newer,_⟩
    · exact absurd old absent
    · exact Nat.lt_of_le_of_lt ((session_run lawful.orderly path).2 _ honest) newer
  exact lawful.tells _ _ _ _ _ key row answered kept behind

end session

-- How the table operations act on tombstones.
section tombstones
variable {F : Type} {user : Uuid} {state : Rows F × Nat} {key : Key} {row : Record F} {deletedAt : Instant}
variable {entries : List (Uuid × Change F Instant)}

theorem placeAll_marks {burns : Bool} {bare : Instant → F}
    (found : (placeAll burns bare user state entries).1[key]? = some row) (marked : row.deletedAt = some deletedAt) :
    state.1[key]? = some row ∨ key.userId = user ∧ ∃ change, (key.recordId,change) ∈ entries ∧
      change.deletes = true ∧ change.stamp = deletedAt := by
  rcases @placeAll_cases _ burns bare user state key entries with same | ⟨row',change,moved,mine,listed,_,_,_,_,written⟩
  · exact .inl (same ▸ found)
  · rw [found] at moved
    cases Option.some.inj moved
    rw [written] at marked
    cases change with
    | upsert fields updatedAt => cases marked
    | delete updatedAt => exact .inr ⟨mine,.delete updatedAt,listed,rfl,Option.some.inj marked⟩

-- A tombstone loses to nothing but a newer upsert.
theorem tombstone_loses {change : Change F Instant} (marked : row.deletedAt = some deletedAt)
    (older : change.deletes = false → change.stamp ≤ row.updatedAt) : change.wins (some row.toVersion) = false := by
  cases change with
  | upsert fields updatedAt =>
    have bound : updatedAt ≤ row.updatedAt := older rfl
    simpa [Change.wins] using bound
  | delete updatedAt => simp [Change.wins,marked]

theorem expireRows_tombstone {mark : HistoryRecord → HistoryRecord} {state : Rows HistoryFields × Nat}
    {row : HistoryRecord} {owns : Key → Bool} {cutoff : Instant} {keys : List Key}
    (listed : ∀ key ∈ keys, key ∈ expiredKeys owns cutoff state.1) (found : state.1[key]? = some row)
    (marked : row.deletedAt = some deletedAt) : (expireRows mark state keys).1[key]? = some row := by
  rw [expireRows_other fun member => ?_,found]
  obtain ⟨old,present,_,live,_⟩ := mem_expiredKeys.mp (listed _ member)
  rw [found] at present
  cases Option.some.inj present
  rw [marked] at live
  cases live

theorem expireRows_marks {mark : HistoryRecord → HistoryRecord} {state : Rows HistoryFields × Nat}
    {row : HistoryRecord} {owns : Key → Bool} {cutoff : Instant} {keys : List Key} (distinct : keys.Nodup)
    (listed : ∀ key ∈ keys, key ∈ expiredKeys owns cutoff state.1)
    (found : (expireRows mark state keys).1[key]? = some row) :
    state.1[key]? = some row ∨ ∃ old, old.fields.startedAt < cutoff ∧ row.toVersion = (mark old).toVersion := by
  rcases @expireRows_cases _ state key mark keys distinct with ⟨_,same⟩ | ⟨_,gone⟩ | ⟨old,n,member,was,_,_,moved⟩
  · exact .inl (same ▸ found)
  · rw [gone] at found
    cases found
  · rw [found] at moved
    cases Option.some.inj moved
    obtain ⟨old',present,_,_,past⟩ := mem_expiredKeys.mp (listed key member)
    rw [was] at present
    cases Option.some.inj present
    exact .inr ⟨old,past,rfl⟩

end tombstones

-- The changes a store applies are the offered ones as it reads their stamps.
section offers
variable {S F : Type} {collection : Collection S F} {request : SyncRequest} {now : Instant} {user : Uuid}
variable {entries : List (Uuid × Change F Instant)} {burns : Bool} {bare : Instant → F} {state : Rows F × Nat}
variable {key : Key} {row : Record F} {deletedAt : Instant}

def Collection.Offers (collection : Collection S F) (request : SyncRequest)
    (entries : List (Uuid × Change F Instant)) : Prop :=
  ∀ entry ∈ entries,
    (∃ upsert ∈ collection.upserts request, entry.1 = upsert.1 ∧ collection.cast upsert.2 = some entry.2.stamp ∧
      entry.2.deletes = false) ∨
    ∃ delete ∈ collection.deletes request, entry.1 = delete.recordId ∧
      collection.cast delete.updatedAt = some entry.2.stamp ∧ entry.2.deletes = true

theorem offers_marks (now : Instant) (offers : collection.Offers request entries) (absent : state.1[key]? ≠ some row)
    (found : (placeAll burns bare user state entries).1[key]? = some row) (marked : row.deletedAt = some deletedAt) :
    collection.Marks (.sync now user request) key row deletedAt := by
  rcases placeAll_marks found marked with old | ⟨mine,change,listed,deletes,stamp⟩
  · exact absurd old absent
  · rcases offers _ listed with ⟨_,_,_,_,plain⟩ | ⟨delete,member,name,cast,_⟩
    · dsimp only at plain
      rw [deletes] at plain
      cases plain
    · refine .inl ⟨now,request,by rw [mine],delete,member,name.symm,?_⟩
      rw [cast]
      exact congrArg some stamp

theorem offers_keeps (offers : collection.Offers request entries)
    (undisturbed : collection.Undisturbed key row deletedAt (.sync now user request))
    (found : state.1[key]? = some row) (marked : row.deletedAt = some deletedAt) :
    (placeAll burns bare user state entries).1[key]? = some row := by
  by_cases mine : user = key.userId
  · subst mine
    refine placeAll_kept found fun entry listed named => tombstone_loses marked fun plain => ?_
    rcases offers entry listed with ⟨upsert,member,name,cast,_⟩ | ⟨_,_,_,_,deletes⟩
    · exact undisturbed rfl upsert member (name.symm.trans named) _ cast
    · rw [plain] at deletes
      cases deletes
  · rw [placeAll_other fun same => mine same.symm]
    exact found

end offers

def memoryFavouriteRows : Collection InMemoryPersonalDataStore FavouriteFields where
  backend := memory
  rows s := s.favourites
  upserts request := request.favourites.upserts.map fun upsert => (upsert.recordId,upsert.updatedAt)
  deletes request := request.favourites.deletes
  cast stamp := some stamp.instant
  received outcome := outcome.favourites
  shown := some
  expires _ _ _ := False
  purged _ _ _ := false

-- Nothing is said here of the mark that an expiry leaves.
def memoryHistoryRows : Collection InMemoryPersonalDataStore HistoryFields where
  backend := memory
  rows s := s.history
  upserts request := request.history.upserts.map fun upsert => (upsert.recordId,upsert.updatedAt)
  deletes request := request.history.deletes
  cast stamp := some stamp.instant
  received outcome := outcome.history
  shown := some
  expires action row _ := row.fields.startedAt < action.now - historyRetention
  purged _ _ _ := false

def purgedAccount (now : Instant) (deleted : Uuid → Option Instant) (user : Uuid) : Bool :=
  (deleted user).any fun at_ => at_ < transactionClock now - deletedAccountPurge

def postgresFavouriteRows (pg : Postgres) : Collection PostgresPersonalDataStore FavouriteFields where
  backend := postgres pg
  rows s := s.favourites
  upserts request := request.favourites.upserts.map fun upsert => (upsert.recordId,upsert.updatedAt)
  deletes request := request.favourites.deletes
  cast := pg.timestamptz
  received outcome := outcome.favourites
  shown := pg.projectFavourite
  expires _ _ _ := False
  purged := purgedAccount

-- An expiry marks with the time of its transaction.
def postgresHistoryRows (pg : Postgres) : Collection PostgresPersonalDataStore HistoryFields where
  backend := postgres pg
  rows s := s.history
  upserts request := request.history.upserts.map fun upsert => (upsert.recordId,upsert.updatedAt)
  deletes request := request.history.deletes
  cast := pg.timestamptz
  received outcome := outcome.history
  shown := pg.projectHistory
  expires action row deletedAt := deletedAt = transactionClock action.now ∧
    row.fields.startedAt < transactionClock action.now - historyRetention
  purged := purgedAccount

theorem memoryFavourites_offers (request : SyncRequest) : memoryFavouriteRows.Offers request request.favouriteEntries := by
  intro entry listed
  rcases List.mem_append.mp listed with offered | removed
  · obtain ⟨upsert,member,rfl⟩ := List.mem_map.mp offered
    exact .inl ⟨_,List.mem_map_of_mem member,rfl,rfl,rfl⟩
  · obtain ⟨delete,member,rfl⟩ := List.mem_map.mp removed
    exact .inr ⟨delete,member,rfl,rfl,rfl⟩

theorem memoryHistory_offers (request : SyncRequest) : memoryHistoryRows.Offers request request.historyEntries := by
  intro entry listed
  rcases List.mem_append.mp listed with offered | removed
  · obtain ⟨upsert,member,rfl⟩ := List.mem_map.mp offered
    exact .inl ⟨_,List.mem_map_of_mem member,rfl,rfl,rfl⟩
  · obtain ⟨delete,member,rfl⟩ := List.mem_map.mp removed
    exact .inr ⟨delete,member,rfl,rfl,rfl⟩

section postgres
variable {pg : Postgres} {request : SyncRequest}

theorem postgresFavourites_offers {entries : List (Uuid × Change FavouriteFields Instant)}
    (casts : pg.favouriteEntries request = some entries) : (postgresFavouriteRows pg).Offers request entries := by
  intro entry listed
  rcases Postgres.mem_favouriteEntries casts listed with ⟨upsert,member,cast⟩ | ⟨delete,member,cast⟩
  · exact .inl ⟨_,List.mem_map_of_mem member,Postgres.favouriteUpsertEntry_stamp cast⟩
  · exact .inr ⟨delete,member,Postgres.deleteEntry_stamp cast⟩

theorem postgresHistory_offers {entries : List (Uuid × Change HistoryFields Instant)}
    (casts : pg.historyEntries request = some entries) : (postgresHistoryRows pg).Offers request entries := by
  intro entry listed
  rcases Postgres.mem_historyEntries casts listed with ⟨upsert,member,cast⟩ | ⟨delete,member,cast⟩
  · exact .inl ⟨_,List.mem_map_of_mem member,Postgres.historyUpsertEntry_stamp cast⟩
  · exact .inr ⟨delete,member,Postgres.deleteEntry_stamp cast⟩

end postgres

-- A mark no older than the retention is kept by a sweep's condition.
theorem retained_mark {now deletedAt : Instant} (window : now ≤ deletedAt + tombstoneRetention) :
    now - tombstoneRetention ≤ deletedAt ∧ transactionClock now - tombstoneRetention ≤ deletedAt := by
  exact ⟨Int.sub_right_le_of_le_add window,Int.sub_right_le_of_le_add (le_trans (Postgres.clock_le now) window)⟩

theorem told_of {F : Type} {entries : List (Uuid × Record F)} {sinceRevision : Nat} {pushed : List Uuid} {id : Uuid}
    {record : Record F} (distinct : (entries.map Prod.fst).Nodup) (listed : (id,record) ∈ entries)
    (behind : sinceRevision < record.syncRevision) : record ∈ (deltaAndEcho entries sinceRevision pushed).1 :=
  (mem_delta distinct).mpr ⟨id,listed,.inl behind⟩

theorem memoryFavourites_lawful : memoryFavouriteRows.Lawful where
  orderly := memory_orderly
  advances s action := (memory_advances s action).1
  marks s action key row deletedAt absent made marked := by
    cases action with
    | sync now user request =>
      have made : (s.synchronize now user request).2.favourites[key]? = some row := made
      rcases (memory_sync_rows s now user request).1 with same | ⟨_,placed⟩
      · rw [same] at made
        exact absurd made absent
      · rw [placed] at made
        exact offers_marks now (memoryFavourites_offers request) absent made marked
    | sweep now deleted => exact absurd (Table.get_filter.mp made).1 absent
  keeps s action key row deletedAt found marked undisturbed := by
    cases action with
    | sync now user request =>
      change (s.synchronize now user request).2.favourites[key]? = some row
      rcases (memory_sync_rows s now user request).1 with same | ⟨_,placed⟩
      · rw [same]
        exact found
      · rw [placed]
        exact offers_keeps (memoryFavourites_offers request) undisturbed found marked
    | sweep now deleted =>
      refine Table.get_filter.mpr ⟨found,?_⟩
      rw [marked]
      exact decide_eq_true (retained_mark undisturbed.1).1
  tells s now request outcome s' key row ran found behind := by
    obtain ⟨_,_,_,_,_,rfl⟩ := InMemoryPersonalDataStore.sync_ok ran
    exact ⟨row,told_of (accountRows_distinct _ _) (mem_accountRows.mpr found) behind,rfl⟩

theorem memoryHistory_lawful : memoryHistoryRows.Lawful where
  orderly := memory_orderly
  advances s action := (memory_advances s action).2
  marks s action key row deletedAt absent made marked := by
    cases action with
    | sync now user request =>
      have made : (s.synchronize now user request).2.history[key]? = some row := made
      rcases (memory_sync_rows s now user request).2 with same | ⟨_,revision,placed⟩
      · rw [same] at made
        exact absurd made absent
      · rw [placed] at made
        rcases expireRows_marks (expiredKeys_distinct _ _ _) (fun _ member => member) made with pushed | ⟨old,past,same⟩
        · exact offers_marks now (memoryHistory_offers request) absent pushed marked
        · right
          change row.fields.startedAt < now - historyRetention
          rw [same]
          exact past
    | sweep now deleted =>
      rcases expireRows_marks (expiredKeys_distinct _ _ _) (fun _ member => member) (Table.get_filter.mp made).1 with
        kept | ⟨old,past,same⟩
      · exact absurd kept absent
      · right
        change row.fields.startedAt < now - historyRetention
        rw [same]
        exact past
  keeps s action key row deletedAt found marked undisturbed := by
    cases action with
    | sync now user request =>
      change (s.synchronize now user request).2.history[key]? = some row
      rcases (memory_sync_rows s now user request).2 with same | ⟨_,revision,placed⟩
      · rw [same]
        exact found
      · rw [placed]
        refine expireRows_tombstone (fun _ member => member) ?_ marked
        exact offers_keeps (memoryHistory_offers request) undisturbed found marked
    | sweep now deleted =>
      refine Table.get_filter.mpr ⟨expireRows_tombstone (fun _ member => member) found marked,?_⟩
      rw [marked]
      exact decide_eq_true (retained_mark undisturbed.1).1
  tells s now request outcome s' key row ran found behind := by
    obtain ⟨_,_,_,_,_,rfl⟩ := InMemoryPersonalDataStore.sync_ok ran
    exact ⟨row,told_of (accountRows_distinct _ _) (mem_accountRows.mpr found) behind,rfl⟩

section postgres
variable {pg : Postgres}

-- A sweep's deletions pass by a row whose mark is in the window and whose
-- account is not purged.
theorem swept_kept {F : Type} {now deletedAt : Instant} {deleted : Uuid → Option Instant} {rows : Rows F} {key : Key}
    {row : Record F} (window : now ≤ deletedAt + tombstoneRetention) (open_ : purgedAccount now deleted key.userId = false)
    (found : rows[key]? = some row) (marked : row.deletedAt = some deletedAt) :
    (purgeDeletedAccountRows now deleted (pruneTombstones now rows))[key]? = some row := by
  refine Table.get_filter.mpr ⟨Table.get_filter.mpr ⟨found,?_⟩,?_⟩
  · rw [marked]
    have recent := not_lt_of_ge (retained_mark window).2
    simpa using recent
  · unfold purgedAccount at open_
    rw [open_]
    rfl

theorem postgresFavourites_lawful : (postgresFavouriteRows pg).Lawful where
  orderly := postgres_orderly pg
  advances s action := (postgres_advances pg s action).1
  marks s action key row deletedAt absent made marked := by
    cases action with
    | sync now user request =>
      have made : (s.synchronize pg now user request).2.favourites[key]? = some row := made
      rcases postgres_sync_rows pg s now user request with ⟨same,_⟩ | ⟨favourites,_,_,casts,_,placed,_⟩
      · rw [same] at made
        exact absurd made absent
      · rw [placed] at made
        exact offers_marks now (postgresFavourites_offers casts) absent made marked
    | sweep now deleted => exact absurd (Table.get_filter.mp (Table.get_filter.mp made).1).1 absent
  keeps s action key row deletedAt found marked undisturbed := by
    cases action with
    | sync now user request =>
      change (s.synchronize pg now user request).2.favourites[key]? = some row
      rcases postgres_sync_rows pg s now user request with ⟨same,_⟩ | ⟨favourites,_,_,casts,_,placed,_⟩
      · rw [same]
        exact found
      · rw [placed]
        exact offers_keeps (postgresFavourites_offers casts) undisturbed found marked
    | sweep now deleted => exact swept_kept undisturbed.1 undisturbed.2 found marked
  tells s now request outcome s' key row ran found behind := by
    obtain ⟨favourites,history,first,_,rfl⟩ := read_cases (PostgresPersonalDataStore.sync_ok ran).2.2
    obtain ⟨record,shown,listed⟩ := Postgres.fetch_mem first found
    refine ⟨record,told_of (Postgres.fetch_distinct first) listed ?_,shown⟩
    rw [Postgres.projectFavourite_revision shown]
    exact behind

theorem postgresHistory_lawful : (postgresHistoryRows pg).Lawful where
  orderly := postgres_orderly pg
  advances s action := (postgres_advances pg s action).2
  marks s action key row deletedAt absent made marked := by
    have scanned (owns : Key → Bool) (cutoff : Instant) (rows : Rows HistoryFields) :=
      (pg.scans (expiredKeys owns cutoff rows)).nodup_iff.mpr (expiredKeys_distinct _ _ _)
    have expiry {clock : Instant} {old : HistoryRecord} (past : old.fields.startedAt < clock - historyRetention)
        (same : row.toVersion = (Postgres.expiredAt clock old).toVersion) :
        deletedAt = clock ∧ row.fields.startedAt < clock - historyRetention := by
      rw [same] at marked ⊢
      exact ⟨(Option.some.inj marked).symm,past⟩
    cases action with
    | sync now user request =>
      have made : (s.synchronize pg now user request).2.history[key]? = some row := made
      rcases postgres_sync_rows pg s now user request with ⟨_,same⟩ | ⟨_,history,revision,_,casts,_,placed⟩
      · rw [same] at made
        exact absurd made absent
      · have pushed (kept : (placeAll true bareHistory user (s.history,revision) history).1[key]? = some row) :
            (postgresHistoryRows pg).Marks (.sync now user request) key row deletedAt :=
          offers_marks now (postgresHistory_offers casts) absent kept marked
        rcases placed with placed | expired
        · exact pushed (placed ▸ made)
        · rw [expired] at made
          rcases expireRows_marks (scanned _ _ _) (fun _ member => (pg.scans _).mem_iff.mp member) made with
            kept | ⟨old,past,same⟩
          · exact pushed kept
          · exact .inr (expiry past same)
    | sweep now deleted =>
      rcases expireRows_marks (scanned _ _ _) (fun _ member => (pg.scans _).mem_iff.mp member)
        (Table.get_filter.mp (Table.get_filter.mp made).1).1 with kept | ⟨old,past,same⟩
      · exact absurd kept absent
      · exact .inr (expiry past same)
  keeps s action key row deletedAt found marked undisturbed := by
    cases action with
    | sync now user request =>
      change (s.synchronize pg now user request).2.history[key]? = some row
      rcases postgres_sync_rows pg s now user request with ⟨_,same⟩ | ⟨_,history,revision,_,casts,_,placed⟩
      · rw [same]
        exact found
      · have pushed : (placeAll true bareHistory user (s.history,revision) history).1[key]? = some row :=
          offers_keeps (postgresHistory_offers casts) undisturbed found marked
        rcases placed with placed | expired
        · rw [placed]
          exact pushed
        · rw [expired]
          exact expireRows_tombstone (fun _ member => (pg.scans _).mem_iff.mp member) pushed marked
    | sweep now deleted =>
      refine swept_kept undisturbed.1 undisturbed.2 ?_ marked
      exact expireRows_tombstone (fun _ member => (pg.scans _).mem_iff.mp member) found marked
  tells s now request outcome s' key row ran found behind := by
    obtain ⟨favourites,history,_,second,rfl⟩ := read_cases (PostgresPersonalDataStore.sync_ok ran).2.2
    obtain ⟨record,shown,listed⟩ := Postgres.fetch_mem second found
    refine ⟨record,told_of (Postgres.fetch_distinct second) listed ?_,shown⟩
    rw [Postgres.projectHistory_revision shown]
    exact behind

end postgres

-- On either store and in either collection a tombstone outlives every sweep
-- until the retention has passed since its stored mark.
theorem tombstones_retained (pg : Postgres) :
    memoryFavouriteRows.Retains ∧ memoryHistoryRows.Retains ∧
    (postgresFavouriteRows pg).Retains ∧ (postgresHistoryRows pg).Retains :=
  ⟨memoryFavourites_lawful.retains,memoryHistory_lawful.retains,
    postgresFavourites_lawful.retains,postgresHistory_lawful.retains⟩

def noneDeleted (_ : Uuid) : Option Instant := none

def removing (now : Instant) (stamp : Timestamp) : Action := .sync now 1 {favourites := {deletes := [⟨7,stamp⟩]}}

-- A deletion of nine seconds after the epoch, and a sweep two months later.
theorem tombstones_retained_two_months : ∃ row,
    (memory.step (memory.step memory.empty (removing (second 9).instant (second 9)))
      (.sweep (DeviceControl.days 60) noneDeleted)).favourites[(⟨1,7⟩ : Key)]? = some row ∧
    row.deletedAt = some (second 9).instant := by
  refine ⟨⟨⟨bareFavourite (second 9).instant,(second 9).instant,some (second 9).instant⟩,7,1⟩,?_,rfl⟩
  have empty : (memoryFavouriteRows.rows (Session.start memory).store)[(⟨1,7⟩ : Key)]? = none := by
    simp [memoryFavouriteRows,Session.start,memory]
  obtain ⟨_,stays,_⟩ := (tombstones_retained sampleServer).1 [] (Session.start memory)
    (removing (second 9).instant (second 9)) ⟨1,7⟩
    ⟨⟨bareFavourite (second 9).instant,(second 9).instant,some (second 9).instant⟩,7,1⟩ (second 9).instant
    [.sweep (DeviceControl.days 60) noneDeleted] _ .nil (by rw [empty]; simp) (by decide) rfl
    (.single ⟨⟨by decide,rfl⟩,rfl⟩)
  exact stays

-- A device that was offline for a hundred days offers its deletion; the sweep
-- of the same moment drops it.
def longAgo : Timestamp := ⟨"1970-04-11T00:00:00Z",DeviceControl.days 100⟩

theorem late_deletion_swept_at_once :
    ((memory.step memory.empty (removing (DeviceControl.days 200) longAgo)).favourites[(⟨1,7⟩ : Key)]?).isSome ∧
    (memory.step (memory.step memory.empty (removing (DeviceControl.days 200) longAgo))
      (.sweep (DeviceControl.days 200) noneDeleted)).favourites[(⟨1,7⟩ : Key)]? = none ∧
    (((postgres sampleServer).step (postgres sampleServer).empty
      (removing (DeviceControl.days 200) longAgo)).favourites[(⟨1,7⟩ : Key)]?).isSome ∧
    ((postgres sampleServer).step ((postgres sampleServer).step (postgres sampleServer).empty
      (removing (DeviceControl.days 200) longAgo)) (.sweep (DeviceControl.days 200)
        noneDeleted)).favourites[(⟨1,7⟩ : Key)]? = none := by
  refine ⟨by decide,?_,by decide,?_⟩
  · change (retainTombstones _ _)[_]? = none
    unfold retainTombstones
    rw [Table.filter_get]
    decide
  · change (purgeDeletedAccountRows _ _ (pruneTombstones _ _))[_]? = none
    unfold purgeDeletedAccountRows pruneTombstones
    rw [Table.filter_get,Table.filter_get]
    decide

end PersonalData
