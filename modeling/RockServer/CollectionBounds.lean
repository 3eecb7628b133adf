import RockServer.AccountBounds
import RockServer.StoreRefinement
import RockServer.SyncAtomicity

namespace PersonalData
open DeviceControl (Uuid Instant)
open LastWriter (Version Change)
open Transition (Runs Under Executes)

-- The collections stay within their limits along exactly those runs in which
-- each limit still holds when it counts: in memory, the rows that a section
-- finds and the changes it brings settle within it; in the database, no commit of upserts rests on an old count that
-- others' commits have made wrong.
theorem collections_bounded (pg : Postgres) :
    (∀ actions m,
      (Runs (Under (fun m a => m.fits a = true) (Executes Memory.execute)) Memory.start actions m → m.Bounded) ∧
      (Runs (fun m a m' => Executes Memory.execute m a m' ∧ m'.Bounded) Memory.start actions m →
        Runs (Under (fun m a => m.fits a = true) (Executes Memory.execute)) Memory.start actions m)) ∧
    ∀ actions db,
      (Runs (Under (fun db a => db.fits a = true) (Executes (Database.execute pg))) ∅ actions db → db.Bounded) ∧
      (Runs (fun db a db' => Executes (Database.execute pg) db a db' ∧ db'.Bounded) ∅ actions db →
        Runs (Under (fun db a => db.fits a = true) (Executes (Database.execute pg))) ∅ actions db) := by
  constructor
  · intro actions m
    refine Runs.exactly Memory.start_bounded ?_ ?_
    · exact fun m a m' bounded taken fits => (Memory.bounded_step bounded taken).mpr fits
    · exact fun m a m' bounded taken after => (Memory.bounded_step bounded taken).mp after
  · intro actions db
    have exact := @Runs.exactly Database DatabaseAction (Executes (Database.execute pg)) ∅ db actions
      (fun db a => db.fits a = true) Database.Sound Database.Bounded Database.empty_sound
      (fun _ _ _ sound taken fits => sound.step taken fits) (fun _ _ _ _ taken after => Database.fits_of_bounded taken after)
    exact ⟨fun path user => (exact.1 path user).bounded,exact.2⟩

-- Two devices save a favourite each, one after the other has committed.
def saved (t : Nat) : List DatabaseAction :=
  [.begin 1 t t 0 (offering t (second 1)),.sync 1 (.nextval t)] ++ List.replicate 5 (.sync 1 (.statement t)) ++ [.sync 1 (.answer t)]

theorem collections_bounded_saved : (∃ m : Memory, liveCount m.store.favourites 1 = 2 ∧ m.waiting = [] ∧ m.Bounded) ∧
    ∃ db : Database, liveRecords (db.account 1).server.favourites = 2 ∧ db.Bounded := by
  constructor
  · obtain ⟨m,path,seen⟩ := Transition.guarded_reaches Memory.fits Memory.execute Memory.start
      [.favourites ⟨0,1,offering 1 (second 1)⟩,.favourites ⟨0,1,offering 2 (second 1)⟩,.history 1,.history 0,.sweepHistory 0,.sweepFavourites 0]
      (fun m => liveCount m.store.favourites 1 = 2 && m.waiting.isEmpty) (by decide +kernel)
    have seen : liveCount m.store.favourites 1 = 2 ∧ m.waiting = [] := by simpa using seen
    exact ⟨m,seen.1,seen.2,(((collections_bounded sampleServer).1 _ m).1 path)⟩
  · obtain ⟨db,path,seen⟩ := Transition.guarded_reaches Database.fits (Database.execute sampleServer) ∅
      (saved 1 ++ saved 2 ++ [.sweep .pruneFavourites 0 [⟨1,1⟩]])
      (fun db => liveRecords (Database.account db 1).server.favourites = 2) (by decide)
    exact ⟨db,of_decide_eq_true seen,(((collections_bounded sampleServer).2 _ db).1 path)⟩

-- A full batch of new favourites, numbered from `first` on.
def crowding (first : Nat) : SyncRequest :=
  {favourites := {upserts := (List.range' first maxSyncBatchItems).map fun id => ⟨id,"rock-fm",second 1,second 1⟩}}

section crowd
variable {first : Nat} {burns : Bool} {n : Nat} {rows : Rows FavouriteFields} {ids : List Uuid}

theorem crowding_ids : (crowding first).favouriteRecordIds = List.range' first maxSyncBatchItems := by
  simp [SyncRequest.favouriteRecordIds,crowding,Function.comp_def]

theorem crowding_valid (first : Nat) : (crowding first).validate 0 = .ok () := by
  refine validate_iff.mpr ⟨by simp [crowding],by simp [crowding],by simp [crowding],by simp [crowding],?_,?_,?_,?_⟩
  · rw [crowding_ids]
    exact List.nodup_range' 1
  · exact List.nodup_nil
  · intro upsert listed
    obtain ⟨id,_,rfl⟩ := List.mem_map.mp listed
    have unnamed : (⟨id,"rock-fm",second 1,second 1⟩ : FavouriteUpsert).validate 0 =
        (⟨0,"rock-fm",second 1,second 1⟩ : FavouriteUpsert).validate 0 := rfl
    rw [unnamed]
    decide
  · intro upsert listed
    cases listed

theorem crowding_named : (crowding first).favouriteEntries.map Prod.fst = List.range' first maxSyncBatchItems := by
  simp [SyncRequest.favouriteEntries,CollectionChanges.entries,crowding,Function.comp_def]

-- A table of live rows, some of them known by their records.
structure Crowd {K : Type} [LinearOrder K] (name : Uuid → K) (rows : Table K FavouriteRecord) (ids : List Uuid) : Prop where
  live : ∀ (key : K) row, rows[key]? = some row → row.deletedAt = none
  stored : ∀ id ∈ ids, (rows[name id]?).isSome = true

theorem crowding_adds (crowd : Crowd (⟨1,·⟩ : Uuid → Key) rows ids) :
    Crowd (⟨1,·⟩) (placeAll burns bareFavourite 1 (rows,n) (crowding first).favouriteEntries).1
      (ids ++ List.range' first maxSyncBatchItems) := by
  constructor
  · refine placeAll_rows (Q:=fun _ version => version.deletedAt = none) ?_ crowd.live
    intro entry listed stored _ _
    obtain ⟨id,_,rfl⟩ : ∃ id, id ∈ List.range' first maxSyncBatchItems ∧
        (id,Change.upsert ⟨some "rock-fm",(second 1).instant⟩ (second 1).instant) = entry := by
      simpa [SyncRequest.favouriteEntries,CollectionChanges.entries,crowding,FavouriteUpsert.fields] using listed
    rfl
  · intro id listed
    refine placeAll_present ?_
    rcases List.mem_append.mp listed with old | new
    · exact .inr (crowd.stored id old)
    · exact .inl (crowding_named ▸ new)

theorem Crowd.exceeds {K : Type} [LinearOrder K] {name : Uuid → K} {p : K → FavouriteRecord → Bool}
    {rows : Table K FavouriteRecord} (crowd : Crowd name rows ids) (distinct : ids.Nodup)
    (apart : Function.Injective name) (many : maxFavouriteRecords < ids.length)
    (counts : ∀ id row, row.deletedAt = none → p (name id) row = true) : maxFavouriteRecords < Table.count p rows := by
  have filled := @Table.count_ge K FavouriteRecord _ rows p (ids.map name) (distinct.map apart) (by
    intro key listed
    obtain ⟨id,inside,rfl⟩ := List.mem_map.mp listed
    obtain ⟨row,found⟩ := Option.isSome_iff_exists.mp (crowd.stored id inside)
    exact ⟨row,found,counts id row (crowd.live _ row found)⟩)
  rw [List.length_map] at filled
  exact Nat.lt_of_lt_of_le many filled

end crowd

-- Two batches that are more than a collection may hold.
def crowdIds : List Uuid := List.range' 0 maxSyncBatchItems ++ List.range' maxSyncBatchItems maxSyncBatchItems

theorem crowdIds_distinct : crowdIds.Nodup := by
  refine List.nodup_append.mpr ⟨List.nodup_range' 1,List.nodup_range' 1,fun a early b late same => ?_⟩
  subst same
  rw [List.mem_range'_1] at early late
  omega

theorem crowdIds_many : maxFavouriteRecords < crowdIds.length := by
  rw [crowdIds,List.length_append,List.length_range',List.length_range']
  decide

theorem section_place {s : InMemoryPersonalDataStore} {call : MemoryCall} : (s.favouritesSection call).favourites =
    (placeAll false bareFavourite call.user (s.favourites,s.revision) call.request.favouriteEntries).1 := by
  rw [← InMemoryPersonalDataStore.pushFavourites_place]
  rfl

theorem section_taken {m : Memory} {call : MemoryCall} (valid : call.request.validate call.now = .ok ()) :
    ∃ waiting, m.execute (.favourites call) = some ⟨m.store.favouritesSection call,waiting⟩ := by
  unfold Memory.execute
  dsimp only
  rw [valid]
  exact ⟨_,rfl⟩

-- In memory the second batch is refused after it has been merged.
theorem memory_exceeds : ∃ m, Runs (Executes Memory.execute) Memory.start
    [.favourites ⟨0,1,crowding 0⟩,.favourites ⟨0,1,crowding maxSyncBatchItems⟩] m ∧
    maxFavouriteRecords < liveCount m.store.favourites 1 := by
  obtain ⟨waiting,one⟩ := @section_taken Memory.start ⟨0,1,crowding 0⟩ (crowding_valid 0)
  obtain ⟨still,two⟩ := @section_taken ⟨Memory.start.store.favouritesSection ⟨0,1,crowding 0⟩,waiting⟩
    ⟨0,1,crowding maxSyncBatchItems⟩ (crowding_valid _)
  have empty : Crowd (⟨1,·⟩) Memory.start.store.favourites [] := ⟨by simp [Memory.start],by simp⟩
  have crowd := @crowding_adds maxSyncBatchItems false
    ((Memory.start.store.favouritesSection ⟨0,1,crowding 0⟩).revision) _ _
    (@crowding_adds 0 false Memory.start.store.revision _ _ empty)
  refine ⟨_,.cons one (.single two),?_⟩
  dsimp only
  rw [section_place,section_place]
  refine crowd.exceeds crowdIds_distinct (fun _ _ same => (Key.mk.inj same).2) crowdIds_many fun id row live => ?_
  simp [live]

-- What an account's transactions can do is part of a run of the database.
def Database.Reached (pg : Postgres) (user : Uuid) (w : Server) : Prop :=
  ∃ actions db, Runs (Executes (Database.execute pg)) ∅ actions db ∧ (Database.account db user).server = w

namespace Database
variable {pg : Postgres} {user : Uuid} {w w' : Server} {t c : Nat}

theorem Reached.sync (reached : Reached pg user w) {move : Move} (taken : w.execute pg move = some w') :
    Reached pg user w' := by
  obtain ⟨actions,db,path,rfl⟩ := reached
  have moved : Database.execute pg db (.sync user move) =
      some (db.insert user ⟨w',(db.account user).overtake move⟩) := by
    simp only [execute,Account.execute,taken,Option.map_some]
  exact ⟨_,_,path.snoc moved,by rw [account_insert,if_pos rfl]⟩

theorem Reached.proceeds (reached : Reached pg user w) (path : Proceeds pg t w w') : Reached pg user w' := by
  obtain ⟨_,run,_⟩ := path
  exact run.invariant (Reached pg user) reached fun _ _ _ earlier taken => earlier.sync taken

theorem Reached.begin (reached : Reached pg user w) {now : Instant} {request : SyncRequest}
    (fresh : w.transactions[t]? = none) (valid : request.validate now = .ok ()) :
    Reached pg user (w.begin t c now request) := by
  obtain ⟨actions,db,path,rfl⟩ := reached
  have begun : Database.execute pg db (.begin user t c now request) =
      some (db.insert user ⟨(db.account user).server.begin t c now request,(db.account user).overtaken.filter (· ≠ t)⟩) := by
    simp only [execute,Account.begin,fresh,valid]
    rfl
  exact ⟨_,_,path.snoc begun,by rw [account_insert,if_pos rfl]⟩

end Database

theorem Crowd.slice {records : Records FavouriteFields} {rows : Rows FavouriteFields} {ids : List Uuid}
    (crowd : Crowd (⟨1,·⟩ : Uuid → Key) rows ids) (slice : Slice 1 records rows) : Crowd id records ids :=
  ⟨fun id row found => crowd.live ⟨1,id⟩ row ((slice id).symm.trans found),
    fun id listed => (congrArg Option.isSome (slice id)).trans (crowd.stored id listed)⟩

-- Each transaction commits what it alone has counted.
theorem Crowd.joined {earlier later : Shelf FavouriteFields} {ids ids' : List Uuid} (first : Crowd id (earlier.visible ∅) ids)
    (second : Crowd id (later.visible ∅) ids') : Crowd id (later.visible (earlier.visible ∅)) (ids ++ ids') := by
  have own : ∀ (id : Uuid) row, later.written[id]? = some row → (later.visible ∅)[id]? = some row := by
    intro id row written
    rw [visible_get,written,Option.some_or]
  constructor
  · intro id row found
    rw [visible_get] at found
    rcases Option.or_eq_some_iff.mp found with mine | ⟨_,theirs⟩
    · exact second.live id row (own id row mine)
    · exact first.live id row theirs
  · intro id listed
    rw [visible_get,Option.isSome_or,Bool.or_eq_true]
    rcases List.mem_append.mp listed with theirs | mine
    · exact .inr (first.stored id theirs)
    · have seen := second.stored id mine
      rw [visible_get] at seen
      exact .inl (by simpa using seen)

theorem crowd_pushed (first n : Nat) : ∃ s' : PostgresPersonalDataStore,
    (⟨∅,∅,n⟩ : PostgresPersonalDataStore).push sampleServer 0 1 (crowding first) = .ok s' ∧
    Crowd (⟨1,·⟩ : Uuid → Key) s'.favourites (List.range' first maxSyncBatchItems) := by
  have kept : sampleServer.KeepsRequest (crowding first) := by
    refine ⟨fun upsert listed => ?_,by simp [crowding],by simp [crowding],by simp [crowding]⟩
    obtain ⟨id,_,rfl⟩ := List.mem_map.mp listed
    exact ⟨second_kept 1,second_kept 1⟩
  obtain ⟨favourites,history⟩ := kept_entries (crowding_valid first) kept
  have crowd := @crowding_adds first true n _ _ (⟨by simp,by simp⟩ : Crowd (⟨1,·⟩ : Uuid → Key) (∅ : Rows FavouriteFields) [])
  rw [List.nil_append] at crowd
  have few := placeAll_liveCount true bareFavourite 1 (∅,n) (crowding first).favouriteEntries 1
  have size : (crowding first).favouriteEntries.length = maxSyncBatchItems := by
    rw [← List.length_map Prod.fst,crowding_named,List.length_range']
  rw [size,show liveCount (∅ : Rows FavouriteFields) 1 = 0 from rfl] at few
  refine ⟨_,PostgresPersonalDataStore.push_ok.mpr ⟨_,_,favourites,history,.inr ?_,.inl rfl,rfl⟩,?_⟩
  · exact Nat.le_trans few (by decide)
  · unfold PostgresPersonalDataStore.placedFavourites
    dsimp only
    exact crowd

section postgres
variable {w : Server} {t first : Nat}

theorem crowd_ready (reached : Database.Reached sampleServer 1 w) (favourites : w.favourites = ∅) (history : w.history = ∅)
    (fresh : w.transactions[t]? = none)
    (free : ∀ id ∈ (crowding first).favouriteRecordIds, w.Free t (·.favourites.locked) id) :
    ∃ w' x, Database.Reached sampleServer 1 w' ∧ w'.favourites = ∅ ∧ w'.history = ∅ ∧
    w'.transactions = w.transactions.insert t x ∧ x.rest = [.commit] ∧
    Crowd id (x.favourites.visible ∅) (List.range' first maxSyncBatchItems) ∧
    ∀ id ∈ x.favourites.locked, id ∈ (crowding first).favouriteRecordIds := by
  obtain ⟨s',pushed,crowd⟩ := crowd_pushed first w.sequence
  have begun := reached.begin (c:=t) fresh (crowding_valid first)
  obtain ⟨shelf,plays,prepared,sliced,_,holds⟩ := @Server.push_prepared sampleServer
    {w with clients := w.clients.insert t {w.client t with busy := true}} t t ⟨∅,∅,w.sequence⟩ s' 0 1 (crowding first) pushed
    (fun id => by simp [favourites]) (fun id => by simp [history]) free (fun named => absurd rfl named)
  have ready := begun.proceeds (prepared.trans Server.reads_done)
  rw [favourites] at sliced
  exact ⟨_,_,ready,favourites,history,rfl,rfl,crowd.slice sliced,holds⟩

theorem commit_taken {pg : Postgres} {x : Transaction} (found : w.transactions[t]? = some x) (last : x.rest = [.commit]) :
    w.execute pg (.statement t) = some (w.commit t x []) := by
  simp only [Server.execute,found,Option.bind_eq_bind,Option.bind_some,Server.runStatement,last]

-- In the database two transactions count side by side and both commit.
theorem postgres_exceeds : ∃ w, Database.Reached sampleServer 1 w ∧ maxFavouriteRecords < liveRecords w.favourites := by
  have start : Database.Reached sampleServer 1 .start := ⟨[],∅,.nil,rfl⟩
  obtain ⟨w,x,reached,favourites,history,one,last,crowd,holds⟩ := @crowd_ready .start 1 0 start rfl rfl (by simp [Server.start])
    (fun id _ u y found => by simp [Server.start] at found)
  obtain ⟨w',y,reached,favourites,_,both,ends,later,_⟩ := @crowd_ready w 2 maxSyncBatchItems reached favourites history
    (by simp [one,Server.start]) (by
      intro id named u y found other held
      rw [one,Table.get_insert] at found
      split at found
      · cases Option.some.inj found
        have theirs := holds id held
        rw [crowding_ids,List.mem_range'_1] at named theirs
        omega
      · simp [Server.start] at found)
  have first : w'.transactions[1]? = some x := by
    rw [both,Table.get_insert_ne (by decide),one,Table.get_insert,if_pos rfl]
  have second : (w'.commit 1 x []).transactions[2]? = some y := by
    unfold Server.commit
    rw [Table.get_insert_ne (by decide),both,Table.get_insert,if_pos rfl]
  refine ⟨_,(reached.sync (commit_taken first last)).sync (commit_taken second ends),?_⟩
  have crowd := crowd.joined later
  rw [← favourites] at crowd
  exact crowd.exceeds crowdIds_distinct Function.injective_id crowdIds_many fun id row live => by simp [live]

end postgres

-- Neither store keeps its collections within their limits.
theorem limits_exceeded : (¬ ∀ actions m, Runs (Executes Memory.execute) Memory.start actions m → m.Bounded) ∧
    ¬ ∀ pg actions db, Runs (Executes (Database.execute pg)) ∅ actions db → Database.Bounded db := by
  constructor
  · intro claimed
    obtain ⟨m,path,beyond⟩ := memory_exceeds
    exact absurd (claimed _ m path 1).1 (Nat.not_le_of_lt beyond)
  · intro claimed
    obtain ⟨w,⟨actions,db,path,rfl⟩,beyond⟩ := postgres_exceeds
    exact absurd (claimed sampleServer actions db path 1).1 (Nat.not_le_of_lt beyond)

end PersonalData
