import RockServer.PersonalPostgres

namespace PersonalData
open DeviceControl (Uuid Instant)
open LastWriter (Change)

variable {now : Instant} {user : Uuid} {request : SyncRequest} {error : PersonalDataError}

section memory
variable {s s' : InMemoryPersonalDataStore}

-- Expiry keeps the stamps of the rows it marks.
theorem expireHistory_stamp (user : Uuid) (now : Instant) {state : Rows HistoryFields × Nat} {key : Key}
    {row : HistoryRecord} (found : state.1[key]? = some row) :
    ∃ row', (expireHistory user now state).1[key]? = some row' ∧ row'.updatedAt = row.updatedAt := by
  unfold expireHistory
  rcases expireRows_cases (expiredKeys_distinct (fun key => key.userId = user) (now - historyRetention) state.1) with
    ⟨_,same⟩ | ⟨absent,_⟩ | ⟨old,n,_,was,_,_,moved⟩
  · exact ⟨row,same.trans found,rfl⟩
  · rw [absent] at found
    cases found
  · rw [found] at was
    cases Option.some.inj was
    exact ⟨_,moved,rfl⟩

theorem expireHistory_unmoved {state : Rows HistoryFields × Nat} : (expireHistory user now state).1 = state.1 ↔
    Unexpired (fun key => key.userId = user) (now - historyRetention) state.1 := by
  constructor
  · intro same
    refine expiredKeys_nil.mp (List.eq_nil_iff_forall_not_mem.mpr fun key member => ?_)
    unfold expireHistory at same
    obtain ⟨row,found,_,live,_⟩ := mem_expiredKeys.mp member
    rcases @expireRows_cases _ state key expireMark _ (expiredKeys_distinct _ _ _) with
      ⟨outside,_⟩ | ⟨absent,_⟩ | ⟨old,n,_,_,_,_,moved⟩
    · exact outside member
    · rw [absent] at found
      cases found
    · -- A marked row is not the live one it was.
      rw [same,found] at moved
      cases Option.some.inj moved
      cases live
  · intro fresh
    rw [expireHistory_unexpired fresh]

theorem pushFavourites_unmoved :
    (s.pushFavourites user request).1 = s.favourites ↔ Idle user s.favourites request.favouriteEntries := by
  rw [InMemoryPersonalDataStore.pushFavourites_place]
  constructor
  · intro same
    by_contra moves
    obtain ⟨id,row,found,newer⟩ := @placeAll_moved _ user (s.favourites,s.revision) _ false bareFavourite moves
    rw [same] at found
    exact lt_irrefl _ (newer row found)
  · exact fun idle => @placeAll_idle _ _ _ _ (s.favourites,s.revision) _ idle

theorem pushHistory_unmoved {revision : Nat} :
    (expireHistory user now (s.pushHistory revision user request)).1 = s.history ↔
    Idle user s.history request.historyEntries ∧
      Unexpired (fun key => key.userId = user) (now - historyRetention) s.history := by
  rw [InMemoryPersonalDataStore.pushHistory_place]
  have rows (idle : Idle user s.history request.historyEntries) :
      (placeAll false bareHistory user (s.history,revision) request.historyEntries).1 = s.history :=
    @placeAll_idle _ _ _ _ (s.history,revision) _ idle
  constructor
  · intro same
    have idle : Idle user s.history request.historyEntries := by
      by_contra moves
      obtain ⟨id,row,found,newer⟩ := @placeAll_moved _ user (s.history,revision) _ false bareHistory moves
      obtain ⟨row',kept,stamp⟩ := expireHistory_stamp user now found
      rw [same] at kept
      exact lt_irrefl _ (stamp ▸ newer row' kept)
    refine ⟨idle,?_⟩
    have fresh := expireHistory_unmoved.mp (same.trans (rows idle).symm)
    rwa [rows idle] at fresh
  · intro quiet
    obtain ⟨idle,fresh⟩ := quiet
    rw [← rows idle] at fresh
    exact (expireHistory_unmoved.mpr fresh).trans (rows idle)

-- A refused call changed no row: it was refused before the batch, or nothing
-- it carried won and nothing was due for expiry before the refusal.
def InMemoryPersonalDataStore.Untouched (s : InMemoryPersonalDataStore) (now : Instant) (user : Uuid)
    (request : SyncRequest) : Prop :=
  request.validate now ≠ .ok () ∨
  (Idle user s.favourites request.favouriteEntries ∧
    (maxFavouriteRecords < liveCount s.favourites user ∨
      (Idle user s.history request.historyEntries ∧
        Unexpired (fun key => key.userId = user) (now - historyRetention) s.history)))

theorem memory_failed_iff (failed : s.synchronize now user request = (.error error,s')) :
    (s'.favourites = s.favourites ∧ s'.history = s.history) ↔ s.Untouched now user request := by
  unfold InMemoryPersonalDataStore.Untouched
  rcases InMemoryPersonalDataStore.sync_cases failed with ⟨_,invalid,_,rfl⟩ | ⟨valid,beyond,_,rfl⟩ |
    ⟨valid,within,first,second,_⟩
  · simp [invalid]
  · dsimp only
    rw [pushFavourites_unmoved,valid]
    constructor
    · intro same
      refine .inr ⟨same.1,.inl ?_⟩
      rwa [pushFavourites_unmoved.mpr same.1] at beyond
    · rintro (impossible | ⟨idle,_⟩)
      · exact absurd rfl impossible
      · exact ⟨idle,rfl⟩
  · have history : s'.history = _ := congrArg Prod.fst second
    rw [first,history,pushFavourites_unmoved,pushHistory_unmoved,valid]
    constructor
    · exact fun same => .inr ⟨same.1,.inr same.2⟩
    · rintro (impossible | ⟨idle,beyond | quiet⟩)
      · exact absurd rfl impossible
      · rw [pushFavourites_unmoved.mpr idle] at within
        omega
      · exact ⟨idle,quiet⟩

end memory

-- An aborted transaction leaves the tables alone.
theorem postgres_failed {pg : Postgres} {s s' : PostgresPersonalDataStore} (refused : error ≠ .database)
    (failed : s.synchronize pg now user request = (.error error,s')) :
    s'.favourites = s.favourites ∧ s'.history = s.history := by
  rcases PostgresPersonalDataStore.sync_cases failed with ⟨_,_,_,rfl⟩ | ⟨_,_,_,_,_,rfl⟩ |
    ⟨_,_,⟨_,database⟩ | ⟨_,_,answered⟩⟩
  · exact ⟨rfl,rfl⟩
  · exact ⟨rfl,rfl⟩
  · cases database
    exact absurd rfl refused
  · cases answered

-- A refused call is atomic in memory exactly when nothing moved before the
-- refusal, and always in the database.
theorem failed_sync_atomic_iff (now : Instant) (user : Uuid) (request : SyncRequest) :
    (∀ (s s' : InMemoryPersonalDataStore) error, s.synchronize now user request = (.error error,s') →
      ((s'.favourites = s.favourites ∧ s'.history = s.history) ↔ s.Untouched now user request)) ∧
    ∀ pg (s s' : PostgresPersonalDataStore) error, s.synchronize pg now user request = (.error error,s') →
      error ≠ .database → s'.favourites = s.favourites ∧ s'.history = s.history := by
  constructor
  · intro s s' error failed
    exact memory_failed_iff failed
  · intro pg s s' error failed refused
    exact postgres_failed refused failed

-- An account with its records 0 to n-1 live.
def filled : Nat → Rows FavouriteFields
  | 0 => ∅
  | n + 1 => (filled n).insert ⟨1,n⟩ {
      recordId := n
      fields := ⟨some "rock-fm",0⟩
      updatedAt := 0
      deletedAt := none
      syncRevision := n + 1}

theorem filled_outside {n m : Nat} (outside : n ≤ m) : (filled n)[(⟨1,m⟩ : Key)]? = none := by
  induction n with
  | zero => simp [filled]
  | succ n ih =>
    unfold filled
    rw [Table.get_insert_ne (by intro same; cases same; omega)]
    exact ih (by omega)

theorem filled_live (n : Nat) : liveCount (filled n) 1 = n := by
  induction n with
  | zero => rfl
  | succ n ih =>
    unfold filled liveCount
    rw [Table.count_insert_of_new (filled_outside (Nat.le_refl n)) (by simp)]
    unfold liveCount at ih
    rw [ih]

theorem filled_inside {n m : Nat} (inside : m < n) :
    ∃ row, (filled n)[(⟨1,m⟩ : Key)]? = some row ∧ row.updatedAt = 0 := by
  induction n with
  | zero => cases inside
  | succ n ih =>
    unfold filled
    rw [Table.get_insert]
    split
    · exact ⟨_,rfl,rfl⟩
    · rename_i different
      refine ih (Nat.lt_of_le_of_ne (Nat.le_of_lt_succ inside) fun same => different ?_)
      rw [same]

def offering (recordId : Uuid) (stamp : Timestamp) : SyncRequest :=
  {favourites := {upserts := [⟨recordId,"rock-fm",stamp,stamp⟩]}}

theorem offering_entries (recordId : Uuid) (stamp : Timestamp) :
    (offering recordId stamp).favouriteEntries =
      [(recordId,.upsert ⟨some "rock-fm",stamp.instant⟩ stamp.instant)] := rfl

def withdrawing (recordId : Uuid) (stamp : Timestamp) : SyncRequest :=
  {favourites := {deletes := [⟨recordId,stamp⟩]}}

theorem withdrawing_entries (recordId : Uuid) (stamp : Timestamp) :
    (withdrawing recordId stamp).favouriteEntries = [(recordId,.delete stamp.instant)] := rfl

section samples
variable {rows : Rows FavouriteFields} {id : Uuid} {stamp : Timestamp} {n : Nat}

-- The tombstone of a record that was not there counts for nothing.
theorem withdrawing_live (absent : rows[(⟨user,id⟩ : Key)]? = none) : liveCount
    ((⟨rows,∅,n⟩ : InMemoryPersonalDataStore).pushFavourites user (withdrawing id stamp)).1 user =
      liveCount rows user := by
  rw [InMemoryPersonalDataStore.pushFavourites_place,withdrawing_entries]
  unfold placeAll
  rw [List.foldl_cons,List.foldl_nil,place_wins (by simp [absent,Change.wins])]
  exact Table.count_insert_kept (by simp [absent,Change.written])

theorem memory_refuses {request : SyncRequest} (valid : request.validate now = .ok ())
    (beyond : maxFavouriteRecords < liveCount
      ((⟨rows,∅,n⟩ : InMemoryPersonalDataStore).pushFavourites user request).1 user) :
    (⟨rows,∅,n⟩ : InMemoryPersonalDataStore).synchronize now user request =
      (.error .favouriteLimitExceeded,{
        favourites := ((⟨rows,∅,n⟩ : InMemoryPersonalDataStore).pushFavourites user request).1
        history := ∅
        revision := ((⟨rows,∅,n⟩ : InMemoryPersonalDataStore).pushFavourites user request).2}) := by
  unfold InMemoryPersonalDataStore.synchronize
  rw [valid]
  dsimp only
  rw [if_pos beyond]

theorem postgres_refuses (valid : (offering id stamp).validate now = .ok ())
    (casts : sampleServer.Keeps stamp)
    (beyond : maxFavouriteRecords < liveCount
      ((⟨rows,∅,n⟩ : PostgresPersonalDataStore).placedFavourites user (offering id stamp).favouriteEntries).1 user) :
    (⟨rows,∅,n⟩ : PostgresPersonalDataStore).synchronize sampleServer now user (offering id stamp) =
      (.error .favouriteLimitExceeded,{
        favourites := rows
        history := ∅
        sequence := ((⟨rows,∅,n⟩ : PostgresPersonalDataStore).placedFavourites user
          (offering id stamp).favouriteEntries).2}) := by
  have step : sampleServer.applyFavouriteUpsert user (rows,n) ⟨id,"rock-fm",stamp,stamp⟩ =
      .ok ((⟨rows,∅,n⟩ : PostgresPersonalDataStore).placedFavourites user (offering id stamp).favouriteEntries) :=
    (Postgres.favouriteUpsert_ok _ _ _).mpr ⟨_,Postgres.favouriteUpsertEntry_kept ⟨casts,casts⟩,rfl⟩
  unfold PostgresPersonalDataStore.synchronize
  rw [valid]
  dsimp only
  generalize (⟨rows,∅,n⟩ : PostgresPersonalDataStore).placedFavourites user (offering id stamp).favouriteEntries = placed
    at step beyond ⊢
  have pushed : (⟨rows,∅,n⟩ : PostgresPersonalDataStore).push sampleServer now user (offering id stamp) =
      .error (.favouriteLimitExceeded,placed.2) := by
    simp [PostgresPersonalDataStore.push,offering,step,bind,Except.bind,PostgresPersonalDataStore.whenPushed,
      enforceLiveLimit,beyond,pure,Except.pure]
  rw [pushed]

end samples

-- The 501 live records that a refused batch left behind are refused once more.
-- An upsert that is no news leaves either store as it was; a deletion leaves its
-- tombstone in memory.
theorem failed_sync_atomic_when_stale : ∃ s' p' s'',
    ((⟨filled 501,∅,501⟩ : InMemoryPersonalDataStore).synchronize (second 9).instant 1 (offering 0 (second 0)) =
        (.error .favouriteLimitExceeded,s') ∧ s'.favourites = filled 501 ∧ s'.history = ∅) ∧
    ((⟨filled 501,∅,501⟩ : PostgresPersonalDataStore).synchronize sampleServer (second 9).instant 1
        (offering 0 (second 0)) = (.error .favouriteLimitExceeded,p') ∧ p'.favourites = filled 501 ∧ p'.history = ∅) ∧
    (⟨filled 501,∅,501⟩ : InMemoryPersonalDataStore).synchronize (second 9).instant 1 (withdrawing 501 (second 1)) =
        (.error .favouriteLimitExceeded,s'') ∧ ¬ (s''.favourites = filled 501 ∧ s''.history = ∅) := by
  have valid : (offering 0 (second 0)).validate (second 9).instant = .ok () := by decide
  have deletes : (withdrawing 501 (second 1)).validate (second 9).instant = .ok () := by decide
  obtain ⟨row,found,stamp⟩ := filled_inside (show 0 < 501 by decide)
  have absent := filled_outside (Nat.le_refl 501)
  have beyond : maxFavouriteRecords < liveCount (filled 501) 1 := by
    rw [filled_live]
    decide
  generalize filled 501 = rows at found absent beyond ⊢
  have idle : Idle 1 rows (offering 0 (second 0)).favouriteEntries := by
    intro entry listed
    rw [offering_entries] at listed
    obtain rfl := List.mem_singleton.mp listed
    have epoch : (second 0).instant = 0 := by decide
    simp [found,Change.wins,stamp,epoch]
  have failed : (⟨rows,∅,501⟩ : InMemoryPersonalDataStore).synchronize (second 9).instant 1 _ = _ :=
    memory_refuses valid (by rw [pushFavourites_unmoved.mpr idle]; exact beyond)
  have full : maxFavouriteRecords < liveCount ((⟨rows,∅,501⟩ : PostgresPersonalDataStore).placedFavourites 1
      (offering 0 (second 0)).favouriteEntries).1 1 := by
    unfold PostgresPersonalDataStore.placedFavourites
    rw [placeAll_idle idle]
    exact beyond
  have aborted := postgres_refuses valid (second_kept 0) full
  have deleted : (⟨rows,∅,501⟩ : InMemoryPersonalDataStore).synchronize (second 9).instant 1 _ = _ :=
    memory_refuses deletes (by rw [withdrawing_live absent]; exact beyond)
  have touched : ¬ (⟨rows,∅,501⟩ : InMemoryPersonalDataStore).Untouched (second 9).instant 1
      (withdrawing 501 (second 1)) := by
    rintro (invalid | ⟨idle,_⟩)
    · exact invalid deletes
    · have loses := idle _ (by rw [withdrawing_entries]; exact List.mem_singleton_self _)
      simp [absent,Change.wins] at loses
  obtain ⟨memory,database⟩ := failed_sync_atomic_iff (second 9).instant 1 (offering 0 (second 0))
  have kept := (memory _ _ _ failed).mpr (.inr ⟨idle,.inl beyond⟩)
  have rolledBack := database _ _ _ _ aborted (by decide)
  have moved := (failed_sync_atomic_iff _ _ _).1 _ _ _ deleted
  exact ⟨_,_,_,⟨failed,kept⟩,⟨aborted,rolledBack⟩,deleted,mt moved.mp touched⟩

-- A new record in a full collection is refused and stored.
theorem full_refuses {rows : Rows FavouriteFields} (absent : rows[(⟨1,500⟩ : Key)]? = none)
    (full : liveCount rows 1 = maxFavouriteRecords) : ∃ s',
    (⟨rows,∅,500⟩ : InMemoryPersonalDataStore).synchronize (second 9).instant 1 (offering 500 (second 1)) =
      (.error .favouriteLimitExceeded,s') ∧ s'.favourites ≠ rows := by
  have valid : (offering 500 (second 1)).validate (second 9).instant = .ok () := by decide
  have moves : ¬Idle 1 rows (offering 500 (second 1)).favouriteEntries := by
    intro idle
    have loses := idle _ (by rw [offering_entries]; exact List.mem_singleton_self _)
    simp [absent,Change.wins] at loses
  have beyond : maxFavouriteRecords < liveCount
      ((⟨rows,∅,500⟩ : InMemoryPersonalDataStore).pushFavourites 1 (offering 500 (second 1))).1 1 := by
    rw [InMemoryPersonalDataStore.pushFavourites_place,offering_entries]
    unfold placeAll
    rw [List.foldl_cons,List.foldl_nil,place_wins (by simp [absent,Change.wins])]
    unfold liveCount at full ⊢
    rw [Table.count_insert_of_new absent (by simp [Change.written]),full]
    exact Nat.lt_succ_self _
  exact ⟨_,memory_refuses valid beyond,mt pushFavourites_unmoved.mp moves⟩

theorem refused_batch_stays : ∃ s',
    (⟨filled 500,∅,500⟩ : InMemoryPersonalDataStore).synchronize (second 9).instant 1 (offering 500 (second 1)) =
      (.error .favouriteLimitExceeded,s') ∧ s'.favourites ≠ filled 500 :=
  full_refuses (filled_outside (Nat.le_refl 500)) (filled_live 500)

end PersonalData
