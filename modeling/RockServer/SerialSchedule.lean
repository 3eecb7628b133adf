import RockServer.CursorCompleteness

namespace PersonalData
open DeviceControl (Uuid Instant)
open LastWriter (Change)
open Transition (Runs Executes)

-- The store's `synchronize` is one of the schedules of the concurrent
-- transactions: the one in which nothing comes between its statements.
section slice
variable {F : Type} {user : Uuid} {records committed : Records F} {rows : Rows F} {shelf : Shelf F}

-- One account's rows out of a table of all accounts.
def Slice (user : Uuid) (records : Records F) (rows : Rows F) : Prop :=
  ∀ id : Uuid, records[id]? = rows[(⟨user,id⟩ : Key)]?

theorem Slice.insert (slice : Slice user records rows) (id : Uuid) (row : Record F) :
    Slice user (records.insert id row) (rows.insert ⟨user,id⟩ row) := by
  intro other
  rw [Table.get_insert,Table.get_insert,slice other]
  simp only [Key.mk.injEq,true_and]

theorem visible_insert {locked : List Uuid} {id : Uuid} {row : Record F} :
    ({shelf with locked := locked,written := shelf.written.insert id row} : Shelf F).visible committed =
    (shelf.visible committed).insert id row := by
  refine Table.same_rows fun other => ?_
  rw [visible_get,Table.get_insert,Table.get_insert,visible_get]
  split <;> rfl

theorem place_burns {bare : Instant → F} {n : Nat} {entry : Uuid × Change F Instant} :
    (place true bare user (rows,n) entry).2 = n + 1 := by
  unfold place
  dsimp only
  split <;> rfl

-- A statement on the shelf and on the table.
theorem Slice.place {bare : Instant → F} {n : Nat} {entry : Uuid × Change F Instant}
    (slice : Slice user (shelf.visible committed) rows) :
    Slice user ((shelf.insertOnConflict committed bare (n + 1) entry).visible committed)
      (place true bare user (rows,n) entry).1 := by
  unfold Shelf.insertOnConflict PersonalData.place
  dsimp only
  rw [slice entry.1]
  split
  · rw [visible_insert]
    exact slice.insert _ _
  · exact slice

theorem Slice.entries (slice : Slice user records rows) : accountRows rows user = records.toList := by
  have members : ∀ entry, entry ∈ accountRows rows user ↔ entry ∈ records.toList := by
    intro entry
    rw [Table.mem_entries,slice entry.1]
    exact mem_accountRows
  have listed : (accountRows rows user).Pairwise fun a b => a.1 < b.1 := by
    refine List.pairwise_map.mpr ((Table.entries_ordered.filter _).imp_of_mem fun {a b} chosen other less => ?_)
    have same : a.1.userId = b.1.userId := by
      rw [of_decide_eq_true (List.mem_filter.mp chosen).2,of_decide_eq_true (List.mem_filter.mp other).2]
    rcases Prod.Lex.toLex_lt_toLex.mp less with apart | ⟨_,below⟩
    · exact absurd same apart.ne
    · exact below
  refine List.Perm.eq_of_pairwise ?_ listed Table.entries_ordered ?_
  · intro a b _ _ less more
    exact absurd more (lt_asymm less)
  · exact (List.perm_ext_iff_of_nodup (accountRows_distinct rows user).of_map Table.keys_distinct.of_map).mpr members

theorem Slice.live (slice : Slice user records rows) : liveRecords records = liveCount rows user := by
  unfold liveRecords liveCount Table.count
  rw [← slice.entries,accountRows,List.countP_map,List.countP_filter]
  refine List.countP_congr fun entry _ => ?_
  simp [and_comm]

end slice

-- Moves of one transaction only.
def Proceeds (pg : Postgres) (t : Nat) (w w' : Server) : Prop :=
  ∃ moves, Runs (Executes (Server.execute pg)) w moves w' ∧ ∀ move ∈ moves, ∀ u, move.transaction = some u → u = t

section proceeds
variable {pg : Postgres} {t : Nat} {w w' w'' : Server}

theorem Proceeds.refl : Proceeds pg t w w := ⟨[],.nil,by simp⟩

theorem Proceeds.trans (first : Proceeds pg t w w') (second : Proceeds pg t w' w'') : Proceeds pg t w w'' := by
  obtain ⟨earlier,before,mine⟩ := first
  obtain ⟨later,after,mine'⟩ := second
  refine ⟨earlier ++ later,before.append after,fun move member => ?_⟩
  rcases List.mem_append.mp member with old | new
  · exact mine move old
  · exact mine' move new

theorem Proceeds.step (move : Move) (taken : w.execute pg move = some w') (mover : move.transaction = some t) :
    Proceeds pg t w w' := by
  refine ⟨[move],.single taken,fun other member u moved => ?_⟩
  rw [List.mem_singleton.mp member,mover] at moved
  exact (Option.some.inj moved).symm

end proceeds

-- A server with one transaction at a given stage beside the others.
def Server.during (w : Server) (t : Nat) (x : Transaction) (n : Nat) : Server :=
  {w with transactions := w.transactions.insert t x,sequence := n}

-- Nobody else holds a record.
def Server.Free (w : Server) (t : Nat) (locked : Transaction → List Uuid) (id : Uuid) : Prop :=
  ∀ (u : Nat) y, w.transactions[u]? = some y → u ≠ t → id ∉ locked y

-- A transaction of a client, at some statement and with its two shelves.
def Transaction.working (c : Nat) (now : Instant) (request : SyncRequest) (rest : List Statement)
    (favourites : Shelf FavouriteFields) (history : Shelf HistoryFields) : Transaction :=
  {client := c,now := now,request := request,rest := rest,favourites := favourites,history := history}

-- A program by collection.
def SyncRequest.favouriteStatements (request : SyncRequest) : List Statement :=
  request.favourites.upserts.map .favouriteUpsert ++ request.favourites.deletes.map .favouriteDelete ++
  (if request.favourites.upserts.isEmpty then [] else [.favouriteLimit])

def SyncRequest.historyStatements (request : SyncRequest) : List Statement :=
  request.history.upserts.map .historyUpsert ++ request.history.deletes.map .historyDelete ++
  (if request.history.upserts.isEmpty then [] else [.expireHistory,.historyLimit])

theorem program_stages (request : SyncRequest) : request.program =
    request.favouriteStatements ++ (request.historyStatements ++ [.readFavourites,.readHistory,.commit]) := by
  simp only [SyncRequest.program,SyncRequest.preparation,SyncRequest.favouriteStatements,SyncRequest.historyStatements,
    List.append_assoc]

-- What a writing statement of either collection inserts.
def Statement.favourite (pg : Postgres) : Statement → Option (Uuid × Change FavouriteFields Instant)
  | .favouriteUpsert upsert => pg.favouriteUpsertEntry upsert
  | .favouriteDelete delete => pg.deleteEntry delete
  | _ => none

def Statement.play (pg : Postgres) : Statement → Option (Uuid × Change HistoryFields Instant)
  | .historyUpsert upsert => pg.historyUpsertEntry upsert
  | .historyDelete delete => pg.deleteEntry delete
  | _ => none

namespace Server
variable {pg : Postgres} {w : Server} {t n c : Nat} {x x' : Transaction}

theorem during_found : (w.during t x n).transactions[t]? = some x := by
  rw [during,Table.get_insert,if_pos rfl]

theorem during_put (m : Nat) : {(w.during t x n).put t x' with sequence := m} = w.during t x' m := by
  unfold during put
  dsimp only
  rw [Table.insert_insert]

theorem during_free {locked : Transaction → List Uuid} {id : Uuid} (free : w.Free t locked id) :
    (w.during t x n).lockedElsewhere t locked id = false := by
  refine List.any_eq_false.mpr fun entry listed => ?_
  have found := Table.mem_entries.mp listed
  rw [during,Table.get_insert] at found
  split at found
  · rename_i same
    simp [same]
  · rename_i other
    simp [free entry.1 entry.2 found (Ne.symm other)]

theorem during_nextval (drawing : draws x = true) :
    Proceeds pg t (w.during t x n) (w.during t {x with revision := some (n + 1)} (n + 1)) := by
  refine .step (.nextval t) ?_ rfl
  simp only [execute,during_found,Option.bind_eq_bind,Option.bind_some,drawing,if_true]
  exact congrArg some (during_put (n + 1))

theorem during_statement {w' : Server} (ran : (w.during t x n).runStatement pg t x = some w') :
    Proceeds pg t (w.during t x n) w' := by
  refine .step (.statement t) ?_ rfl
  simp only [execute,during_found,Option.bind_eq_bind,Option.bind_some]
  exact ran

-- One insertion: its revision is drawn, then the row is written.
section writes
variable {user : Uuid} {now : Instant} {request : SyncRequest} {rest : List Statement} {statement : Statement}
variable {favourites : Shelf FavouriteFields} {history : Shelf HistoryFields}

theorem insertFavourite_during {r : Nat} {entry : Uuid × Change FavouriteFields Instant} (drawn : x.revision = some r)
    (free : w.Free t (·.favourites.locked) entry.1) :
    (w.during t x n).insertFavourite t x rest (some entry) = some (w.during t {x with
      rest := rest
      revision := none
      favourites := x.favourites.insertOnConflict w.favourites bareFavourite r entry} n) := by
  unfold insertFavourite
  rw [drawn]
  dsimp only
  rw [during_free free]
  exact congrArg some (during_put n)

theorem insertHistory_during {r : Nat} {entry : Uuid × Change HistoryFields Instant} (drawn : x.revision = some r)
    (free : w.Free t (·.history.locked) entry.1) :
    (w.during t x n).insertHistory t x rest (some entry) = some (w.during t {x with
      rest := rest
      revision := none
      history := x.history.insertOnConflict w.history bareHistory r entry} n) := by
  unfold insertHistory
  rw [drawn]
  dsimp only
  rw [during_free free]
  exact congrArg some (during_put n)

theorem favourite_written {entry : Uuid × Change FavouriteFields Instant} (cast : statement.favourite pg = some entry)
    (free : w.Free t (·.favourites.locked) entry.1) :
    Proceeds pg t (w.during t (.working c now request (statement :: rest) favourites history) n)
      (w.during t (.working c now request rest (favourites.insertOnConflict w.favourites bareFavourite (n + 1) entry) history)
        (n + 1)) := by
  have drawing : draws (.working c now request (statement :: rest) favourites history) = true := by
    cases statement <;> first | rfl | cases cast
  refine (during_nextval drawing).trans (during_statement ?_)
  cases statement with
  | favouriteUpsert upsert =>
    simp only [runStatement,Transaction.working]
    rw [show pg.favouriteUpsertEntry upsert = some entry from cast]
    exact insertFavourite_during rfl free
  | favouriteDelete delete =>
    simp only [runStatement,Transaction.working]
    rw [show pg.deleteEntry delete = some entry from cast]
    exact insertFavourite_during rfl free
  | _ => cases cast

theorem play_written {entry : Uuid × Change HistoryFields Instant} (cast : statement.play pg = some entry)
    (free : w.Free t (·.history.locked) entry.1) :
    Proceeds pg t (w.during t (.working c now request (statement :: rest) favourites history) n)
      (w.during t (.working c now request rest favourites (history.insertOnConflict w.history bareHistory (n + 1) entry))
        (n + 1)) := by
  have drawing : draws (.working c now request (statement :: rest) favourites history) = true := by
    cases statement <;> first | rfl | cases cast
  refine (during_nextval drawing).trans (during_statement ?_)
  cases statement with
  | historyUpsert upsert =>
    simp only [runStatement,Transaction.working]
    rw [show pg.historyUpsertEntry upsert = some entry from cast]
    exact insertHistory_during rfl free
  | historyDelete delete =>
    simp only [runStatement,Transaction.working]
    rw [show pg.deleteEntry delete = some entry from cast]
    exact insertHistory_during rfl free
  | _ => cases cast

-- A loop of insertions into a collection is the batch of its changes.
theorem loop_written {F : Type} {bare : Instant → F} {committed : Records F} {cast : Statement → Option (Uuid × Change F Instant)}
    {open_ : Uuid → Prop} (stage : List Statement → Shelf F → Transaction)
    (written : ∀ (n : Nat) rest (shelf : Shelf F) statement entry, cast statement = some entry → open_ entry.1 →
      Proceeds pg t (w.during t (stage (statement :: rest) shelf) n)
        (w.during t (stage rest (shelf.insertOnConflict committed bare (n + 1) entry)) (n + 1)))
    {statements : List Statement} {entries : List (Uuid × Change F Instant)} {shelf : Shelf F} {rows : Rows F}
    (casts : statements.mapM cast = some entries) (free : ∀ entry ∈ entries, open_ entry.1)
    (slice : Slice user (shelf.visible committed) rows) (rest : List Statement) (n : Nat) : ∃ shelf',
    Proceeds pg t (w.during t (stage (statements ++ rest) shelf) n)
      (w.during t (stage rest shelf') (placeAll true bare user (rows,n) entries).2) ∧
    Slice user (shelf'.visible committed) (placeAll true bare user (rows,n) entries).1 ∧
    ∀ id ∈ shelf'.locked, id ∈ shelf.locked ∨ id ∈ entries.map Prod.fst := by
  induction statements generalizing shelf rows n entries with
  | nil =>
    cases casts
    exact ⟨shelf,.refl,slice,fun _ => .inl⟩
  | cons statement others ih =>
    simp only [List.mapM_cons,Option.bind_eq_bind,Option.bind_eq_some_iff,Option.pure_def,Option.some.injEq] at casts
    obtain ⟨entry,cast,later,casts,rfl⟩ := casts
    have first := written n (others ++ rest) shelf statement entry cast (free entry List.mem_cons_self)
    have placed : place true bare user (rows,n) entry = ((place true bare user (rows,n) entry).1,n + 1) :=
      Prod.ext rfl place_burns
    obtain ⟨shelf',path,sliced,holds⟩ :=
      ih casts (fun other listed => free other (List.mem_cons_of_mem _ listed)) slice.place (n + 1)
    rw [← placed] at path sliced
    refine ⟨shelf',first.trans path,sliced,fun id held => ?_⟩
    rcases holds id held with before | named
    · rcases List.mem_cons.mp before with same | earlier
      · exact .inr (same ▸ List.mem_cons_self)
      · exact .inl earlier
    · exact .inr (List.mem_cons_of_mem _ named)

-- The counts, which see the committed rows and the transaction's own.
theorem limit_passed {exceeded : Bool} (within : exceeded = false) :
    (w.during t x n).limit t x rest exceeded = some (w.during t {x with rest := rest} n) := by
  unfold limit
  rw [within,if_neg Bool.false_ne_true]
  exact congrArg some (during_put n)

theorem favourites_counted {rows : Rows FavouriteFields} (slice : Slice user (favourites.visible w.favourites) rows)
    (small : request.favourites.upserts = [] ∨ liveCount rows user ≤ maxFavouriteRecords) :
    Proceeds pg t (w.during t (.working c now request
      ((if request.favourites.upserts.isEmpty then [] else [.favouriteLimit]) ++ rest) favourites history) n)
      (w.during t (.working c now request rest favourites history) n) := by
  rcases small with bare | bounded
  · rw [bare]
    exact .refl
  · split
    · exact .refl
    · refine during_statement ?_
      change (w.during t _ n).limit t _ rest (decide (maxFavouriteRecords < liveRecords (favourites.visible w.favourites))) = _
      refine limit_passed (decide_eq_false (Nat.not_lt_of_le ?_))
      rw [slice.live]
      exact bounded

theorem history_counted {rows : Rows HistoryFields} (slice : Slice user (history.visible w.history) rows)
    (bounded : liveCount rows user ≤ maxHistoryRecords) :
    Proceeds pg t (w.during t (.working c now request (.historyLimit :: rest) favourites history) n)
      (w.during t (.working c now request rest favourites history) n) := by
  refine during_statement ?_
  change (w.during t _ n).limit t _ rest (decide (maxHistoryRecords < liveRecords (history.visible w.history))) = _
  refine limit_passed (decide_eq_false (Nat.not_lt_of_le ?_))
  rw [slice.live]
  exact bounded

-- An expiry under way, with the rows it has found and not yet taken.
def expiring (c : Nat) (now : Instant) (request : SyncRequest) (rest : List Statement) (favourites : Shelf FavouriteFields)
    (history : Shelf HistoryFields) (found : List Uuid) : Transaction :=
  {Transaction.working c now request (.expireHistory :: rest) favourites history with scan := some found}

theorem record_expired {rows : Rows HistoryFields} {key : Key} {found : List Uuid} {row : HistoryRecord}
    (slice : Slice key.userId (history.visible w.history) rows) (present : rows[key]? = some row)
    (old : isExpired (transactionClock now) row = true) (listed : key.recordId ∈ found)
    (free : w.Free t (·.history.locked) key.recordId) : ∃ history',
    Proceeds pg t (w.during t (expiring c now request rest favourites history found) n)
      (w.during t (expiring c now request rest favourites history' (found.erase key.recordId)) (n + 1)) ∧
    Slice key.userId (history'.visible w.history)
      (expireRow (Postgres.expiredAt (transactionClock now)) (rows,n) key).1 ∧
    (expireRow (Postgres.expiredAt (transactionClock now)) (rows,n) key).2 = n + 1 := by
  have drawing : draws (expiring c now request rest favourites history found) = true := by
    cases found with
    | nil => cases listed
    | cons => rfl
  have seen : (history.visible w.history)[key.recordId]? = some row := (slice key.recordId).trans present
  refine ⟨history.expire w.history (transactionClock now) (n + 1) key.recordId,
    (during_nextval drawing).trans (.step (.expire t key.recordId) ?_ rfl),?_,?_⟩
  · simp only [execute,during_found,Option.bind_eq_bind,Option.bind_some]
    unfold expireRecord expiring Transaction.working
    dsimp only
    rw [during_free free,List.contains_iff_mem.mpr listed]
    exact congrArg some (during_put (n + 1))
  · unfold Shelf.expire expireRow
    simp only [seen,present,old,if_true]
    rw [visible_insert]
    exact slice.insert _ _
  · unfold expireRow
    simp only [present]

theorem records_expired {rows : Rows HistoryFields} {keys : List Key} {found : List Uuid}
    (slice : Slice user (history.visible w.history) rows) (order : found.Perm (keys.map Key.recordId)) (distinct : keys.Nodup)
    (old : ∀ key ∈ keys, key.userId = user ∧ ∃ row, rows[key]? = some row ∧ isExpired (transactionClock now) row = true)
    (free : ∀ id, w.Free t (·.history.locked) id) : ∃ history',
    Proceeds pg t (w.during t (expiring c now request rest favourites history found) n)
      (w.during t (.working c now request rest favourites history')
        (expireRows (Postgres.expiredAt (transactionClock now)) (rows,n) keys).2) ∧
    Slice user (history'.visible w.history) (expireRows (Postgres.expiredAt (transactionClock now)) (rows,n) keys).1 := by
  induction keys generalizing history rows n found with
  | nil =>
    rw [List.map_nil] at order
    rw [order.eq_nil]
    exact ⟨history,during_statement (congrArg some (during_put n)),slice⟩
  | cons key others ih =>
    obtain ⟨apart,distinct⟩ := List.nodup_cons.mp distinct
    obtain ⟨mine,row,present,due⟩ := old key List.mem_cons_self
    obtain ⟨listed,order⟩ := List.cons_perm_iff_perm_erase.mp order.symm
    subst mine
    obtain ⟨history',first,sliced,drawn⟩ := @record_expired pg w t n c now request rest favourites history rows key found row
      slice present due listed (free key.recordId)
    have stepped : expireRow (Postgres.expiredAt (transactionClock now)) (rows,n) key =
        ((expireRow (Postgres.expiredAt (transactionClock now)) (rows,n) key).1,n + 1) := Prod.ext rfl drawn
    obtain ⟨history'',later,final⟩ := @ih (n + 1) history' _ _ sliced order.symm distinct fun other member => by
      obtain ⟨owner,row,there,due⟩ := old other (List.mem_cons_of_mem _ member)
      have untouched : key ≠ other := fun same => apart (same ▸ member)
      exact ⟨owner,row,(expireRow_other untouched).trans there,due⟩
    rw [← stepped] at later final
    exact ⟨history'',first.trans later,final⟩

-- The UPDATE of a transaction takes the rows that the store's expiry takes.
theorem history_expired {rows : Rows HistoryFields} (slice : Slice user (history.visible w.history) rows)
    (free : ∀ id, w.Free t (·.history.locked) id) : ∃ history',
    Proceeds pg t (w.during t (.working c now request (.expireHistory :: rest) favourites history) n)
      (w.during t (.working c now request rest favourites history') (pg.expireUserHistory user now (rows,n)).2) ∧
    Slice user (history'.visible w.history) (pg.expireUserHistory user now (rows,n)).1 := by
  have scanned := pg.scans (expiredKeys (fun key => key.userId = user) (transactionClock now - historyRetention) rows)
  have distinct := scanned.nodup_iff.mpr (expiredKeys_distinct _ _ _)
  have due : ∀ key ∈ pg.scan (expiredKeys (fun key => key.userId = user) (transactionClock now - historyRetention) rows),
      key.userId = user ∧ ∃ row, rows[key]? = some row ∧ isExpired (transactionClock now) row = true := by
    intro key listed
    obtain ⟨row,present,mine,live,old⟩ := mem_expiredKeys.mp (scanned.mem_iff.mp listed)
    exact ⟨of_decide_eq_true mine,row,present,by simp [isExpired,live,old]⟩
  have found : (((history.visible w.history).toList.filter fun entry =>
      isExpired (transactionClock now) entry.2).map Prod.fst).Perm
      ((pg.scan (expiredKeys (fun key => key.userId = user) (transactionClock now - historyRetention) rows)).map
        Key.recordId) := by
    refine (List.perm_ext_iff_of_nodup (Table.chosen_distinct _) (distinct.map_on ?_)).mpr fun id => ?_
    · intro a lista b listb same
      cases a
      cases b
      cases (due _ lista).1
      cases (due _ listb).1
      cases same
      rfl
    · simp only [List.mem_map,List.mem_filter,Prod.exists,Table.mem_entries,scanned.mem_iff,mem_expiredKeys]
      constructor
      · rintro ⟨other,row,⟨present,old⟩,rfl⟩
        simp only [isExpired,Bool.and_eq_true,decide_eq_true_eq,Option.isNone_iff_eq_none] at old
        exact ⟨⟨user,other⟩,⟨row,(slice other).symm.trans present,by simp,old.1,old.2⟩,rfl⟩
      · rintro ⟨key,⟨row,present,mine,live,old⟩,rfl⟩
        refine ⟨key.recordId,row,⟨(slice key.recordId).trans ?_,by simp [isExpired,live,old]⟩,rfl⟩
        rw [← of_decide_eq_true mine]
        exact present
  obtain ⟨history',path,sliced⟩ := @records_expired pg w t n c user now request rest favourites history rows _ _
    slice found distinct due free
  have begun : Proceeds pg t (w.during t (.working c now request (.expireHistory :: rest) favourites history) n)
      (w.during t (expiring c now request rest favourites history _) n) :=
    during_statement (congrArg some (during_put n))
  exact ⟨history',begun.trans path,sliced⟩

-- What a batch casts to, statement by statement.
theorem favourites_cast {entries : List (Uuid × Change FavouriteFields Instant)}
    (casts : pg.favouriteEntries request = some entries) :
    (request.favourites.upserts.map Statement.favouriteUpsert ++
      request.favourites.deletes.map Statement.favouriteDelete).mapM (Statement.favourite pg) = some entries := by
  rw [List.mapM_append,List.mapM_map,List.mapM_map]
  exact casts

theorem plays_cast {entries : List (Uuid × Change HistoryFields Instant)}
    (casts : pg.historyEntries request = some entries) :
    (request.history.upserts.map Statement.historyUpsert ++
      request.history.deletes.map Statement.historyDelete).mapM (Statement.play pg) = some entries := by
  rw [List.mapM_append,List.mapM_map,List.mapM_map]
  exact casts

theorem favourites_named {entries : List (Uuid × Change FavouriteFields Instant)}
    (casts : pg.favouriteEntries request = some entries) {entry : Uuid × Change FavouriteFields Instant}
    (listed : entry ∈ entries) : entry.1 ∈ request.favouriteRecordIds := by
  rcases Postgres.mem_favouriteEntries casts listed with ⟨upsert,offered,cast⟩ | ⟨delete,offered,cast⟩
  · rw [(Postgres.favouriteUpsertEntry_stamp cast).1]
    exact List.mem_append_left _ (List.mem_map_of_mem offered)
  · rw [(Postgres.deleteEntry_stamp cast).1]
    exact List.mem_append_right _ (List.mem_map_of_mem offered)

theorem plays_named {entries : List (Uuid × Change HistoryFields Instant)}
    (casts : pg.historyEntries request = some entries) {entry : Uuid × Change HistoryFields Instant}
    (listed : entry ∈ entries) : entry.1 ∈ request.historyRecordIds := by
  rcases Postgres.mem_historyEntries casts listed with ⟨upsert,offered,cast⟩ | ⟨delete,offered,cast⟩
  · rw [(Postgres.historyUpsertEntry_stamp cast).1]
    exact List.mem_append_left _ (List.mem_map_of_mem offered)
  · rw [(Postgres.deleteEntry_stamp cast).1]
    exact List.mem_append_right _ (List.mem_map_of_mem offered)

theorem favourites_prepared {rows : Rows FavouriteFields} {entries : List (Uuid × Change FavouriteFields Instant)}
    (casts : pg.favouriteEntries request = some entries)
    (free : ∀ id ∈ request.favouriteRecordIds, w.Free t (·.favourites.locked) id)
    (slice : Slice user (favourites.visible w.favourites) rows)
    (small : request.favourites.upserts = [] ∨
      liveCount (placeAll true bareFavourite user (rows,n) entries).1 user ≤ maxFavouriteRecords) : ∃ favourites',
    Proceeds pg t (w.during t (.working c now request (request.favouriteStatements ++ rest) favourites history) n)
      (w.during t (.working c now request rest favourites' history)
        (placeAll true bareFavourite user (rows,n) entries).2) ∧
    Slice user (favourites'.visible w.favourites) (placeAll true bareFavourite user (rows,n) entries).1 ∧
    ∀ id ∈ favourites'.locked, id ∈ favourites.locked ∨ id ∈ request.favouriteRecordIds := by
  unfold SyncRequest.favouriteStatements
  rw [List.append_assoc]
  obtain ⟨favourites',path,sliced,holds⟩ := loop_written (fun rest shelf => .working c now request rest shelf history)
    (fun _ _ _ _ _ => favourite_written) (favourites_cast casts)
    (fun entry listed => free _ (favourites_named casts listed)) slice
    ((if request.favourites.upserts.isEmpty then [] else [.favouriteLimit]) ++ rest) n
  refine ⟨favourites',path.trans (favourites_counted sliced small),sliced,fun id held => (holds id held).imp_right ?_⟩
  intro named
  obtain ⟨entry,listed,rfl⟩ := List.mem_map.mp named
  exact favourites_named casts listed

theorem history_prepared {rows : Rows HistoryFields} {entries : List (Uuid × Change HistoryFields Instant)}
    (casts : pg.historyEntries request = some entries)
    (free : request.historyRecordIds ≠ [] → ∀ id, w.Free t (·.history.locked) id)
    (slice : Slice user (history.visible w.history) rows) {rows' : Rows HistoryFields × Nat}
    (placed : rows' = if request.history.upserts.isEmpty then placeAll true bareHistory user (rows,n) entries
      else pg.expireUserHistory user now (placeAll true bareHistory user (rows,n) entries))
    (few : request.history.upserts = [] ∨ liveCount rows'.1 user ≤ maxHistoryRecords) : ∃ history',
    Proceeds pg t (w.during t (.working c now request (request.historyStatements ++ rest) favourites history) n)
      (w.during t (.working c now request rest favourites history') rows'.2) ∧
    Slice user (history'.visible w.history) rows'.1 := by
  unfold SyncRequest.historyStatements
  rw [List.append_assoc]
  obtain ⟨history',path,sliced,_⟩ := loop_written (fun rest shelf => .working c now request rest favourites shelf)
    (fun _ _ _ _ _ => play_written) (plays_cast casts)
    (fun entry listed => free (List.ne_nil_of_mem (plays_named casts listed)) _) slice
    ((if request.history.upserts.isEmpty then [] else [.expireHistory,.historyLimit]) ++ rest) n
  by_cases bare : request.history.upserts = []
  · rw [if_pos (List.isEmpty_iff.mpr bare)] at path placed ⊢
    rw [placed]
    exact ⟨history',path,sliced⟩
  · rw [if_neg (List.isEmpty_iff.not.mpr bare)] at path placed ⊢
    obtain ⟨history'',expiry,final⟩ := @history_expired pg w t _ c user now request (.historyLimit :: rest) favourites history'
      _ sliced (free (by simp [SyncRequest.historyRecordIds,bare]))
    rw [← placed] at expiry final
    exact ⟨history'',path.trans (expiry.trans (history_counted final (few.resolve_left bare))),final⟩

end writes

-- The statements before the reads do to the account's rows what `push` does.
theorem push_prepared {s s' : PostgresPersonalDataStore} {now : Instant} {user : Uuid} {request : SyncRequest}
    (pushed : s.push pg now user request = .ok s') (favourites : Slice user w.favourites s.favourites)
    (history : Slice user w.history s.history)
    (free : ∀ id ∈ request.favouriteRecordIds, w.Free t (·.favourites.locked) id)
    (unlocked : request.historyRecordIds ≠ [] → ∀ id, w.Free t (·.history.locked) id) :
    ∃ favourites' history', Proceeds pg t (w.during t (.begun c now request) s.sequence)
      (w.during t (.working c now request [.readFavourites,.readHistory,.commit] favourites' history') s'.sequence) ∧
    Slice user (favourites'.visible w.favourites) s'.favourites ∧ Slice user (history'.visible w.history) s'.history ∧
    ∀ id ∈ favourites'.locked, id ∈ request.favouriteRecordIds := by
  obtain ⟨offered,played,castFavourites,castHistory,small,few,rfl⟩ := PostgresPersonalDataStore.push_ok.mp pushed
  have mine : Slice user (({} : Shelf FavouriteFields).visible w.favourites) s.favourites := by
    rw [visible_settled rfl]
    exact favourites
  have theirs : Slice user (({} : Shelf HistoryFields).visible w.history) s.history := by
    rw [visible_settled rfl]
    exact history
  have begun : Transaction.begun c now request = .working c now request
      (request.favouriteStatements ++ (request.historyStatements ++ [.readFavourites,.readHistory,.commit])) {} {} := by
    rw [← program_stages]
    rfl
  rw [begun]
  obtain ⟨favourites',first,sliced,holds⟩ := @favourites_prepared pg w t s.sequence c user now request
    (request.historyStatements ++ [.readFavourites,.readHistory,.commit]) {} {} s.favourites offered castFavourites free mine small
  obtain ⟨history',second,shown⟩ := @history_prepared pg w t (s.placedFavourites user offered).2 c user now request
    [.readFavourites,.readHistory,.commit] favourites' {} s.history played castHistory unlocked theirs _ rfl few
  exact ⟨favourites',history',first.trans second,sliced,shown,fun id held => (holds id held).resolve_left (by simp)⟩

-- The reads, and a transaction that is about to commit.
theorem reads_done {now : Instant} {request : SyncRequest} {favourites : Shelf FavouriteFields} {history : Shelf HistoryFields} :
    Proceeds pg t (w.during t (.working c now request [.readFavourites,.readHistory,.commit] favourites history) n)
      (w.during t (.working c now request [.commit] (favourites.select w.favourites) (history.select w.history)) n) := by
  have first : Proceeds pg t (w.during t (.working c now request [.readFavourites,.readHistory,.commit] favourites history) n)
      (w.during t (.working c now request [.readHistory,.commit] (favourites.select w.favourites) history) n) :=
    during_statement (congrArg some (during_put n))
  exact first.trans (during_statement (congrArg some (during_put n)))

theorem slice_shown {F : Type} {projected : Record F → Option (Record F)} {user : Uuid} {records : Records F} {rows : Rows F}
    (slice : Slice user records rows) : Postgres.shown projected records = Postgres.fetch projected rows user := by
  unfold Postgres.shown Postgres.fetch
  rw [slice.entries]

theorem during_answered {now : Instant} {user : Uuid} {request : SyncRequest} {favourites : Shelf FavouriteFields}
    {history : Shelf HistoryFields} {s : PostgresPersonalDataStore} {outcome : SyncOutcome}
    (sliced : Slice user (favourites.visible w.favourites) s.favourites)
    (shown : Slice user (history.visible w.history) s.history) (read : s.read pg user request = some outcome)
    (fresh : w.transactions[t]? = none) : ∃ w',
    Proceeds pg t (w.during t (.working c now request [.readFavourites,.readHistory,.commit] favourites history) n) w' ∧
    Slice user w'.favourites s.favourites ∧ Slice user w'.history s.history ∧ w'.sequence = n ∧
    w'.transactions = w.transactions ∧ w'.client c = {
      favourites := learn (w.client c).favourites outcome.favourites
      history := learn (w.client c).history outcome.history
      cursor := outcome.serverRevision
      busy := false} := by
  simp only [PostgresPersonalDataStore.read,← slice_shown sliced,← slice_shown shown,Option.bind_eq_bind,
    Option.bind_eq_some_iff,Option.some.injEq] at read
  obtain ⟨told,listed,known,noted,rfl⟩ := read
  have committed := @during_statement pg (w) t n (.working c now request [.commit] (favourites.select w.favourites)
    (history.select w.history)) _ rfl
  have answered := @Proceeds.step pg t ((w.during t (.working c now request [.commit] (favourites.select w.favourites)
    (history.select w.history)) n).commit t (.working c now request [.commit] (favourites.select w.favourites)
    (history.select w.history)) []) _ (.answer t) (by
      simp only [execute,commit,Table.get_insert,if_true,Option.bind_eq_bind,Option.bind_some,Transaction.working,
        List.isEmpty_nil,answer,Shelf.committed,Shelf.select,listed,noted]
      rfl) rfl
  refine ⟨_,(reads_done.trans committed).trans answered,sliced,shown,rfl,?_,?_⟩
  · change ((w.transactions.insert t _).insert t _).erase t = _
    rw [Table.insert_insert,Table.erase_insert fresh]
  · rw [client_insert (w:=w) rfl,if_pos rfl]
    rfl

-- The store's call is one schedule of the transaction: nobody else moves.
theorem synchronize_schedule {s s' : PostgresPersonalDataStore} {now : Instant} {user : Uuid} {request : SyncRequest}
    {outcome : SyncOutcome} (synced : s.synchronize pg now user request = (.ok outcome,s'))
    (since : request.sinceRevision = (w.client c).cursor) (idle : (w.client c).busy = false)
    (fresh : w.transactions[t]? = none) (sequence : w.sequence = s.sequence)
    (favourites : Slice user w.favourites s.favourites) (history : Slice user w.history s.history)
    (free : ∀ id ∈ request.favouriteRecordIds, w.Free t (·.favourites.locked) id)
    (unlocked : request.historyRecordIds ≠ [] → ∀ id, w.Free t (·.history.locked) id) :
    ∃ w', Proceeds pg t w w' ∧ Slice user w'.favourites s'.favourites ∧ Slice user w'.history s'.history ∧
    w'.sequence = s'.sequence ∧ w'.transactions = w.transactions ∧ w'.client c = {
      favourites := learn (w.client c).favourites outcome.favourites
      history := learn (w.client c).history outcome.history
      cursor := outcome.serverRevision
      busy := false} := by
  obtain ⟨valid,pushed,read⟩ := PostgresPersonalDataStore.sync_ok synced
  have asked : (⟨(w.client c).cursor,request.favourites,request.history⟩ : SyncRequest) = request := by rw [← since]
  have started : w.execute pg (.start t c now request.favourites request.history) = some (w.begin t c now request) := by
    unfold execute
    dsimp only
    rw [asked,fresh,idle,valid]
    rfl
  have begun : w.begin t c now request = ({w with clients := w.clients.insert c {w.client c with busy := true}} : Server).during t
      (.begun c now request) s.sequence := by
    rw [← sequence]
    rfl
  obtain ⟨favourites',history',prepared,sliced,shown,_⟩ := @push_prepared pg
    {w with clients := w.clients.insert c {w.client c with busy := true}} t c s s' now user request pushed favourites history
    free unlocked
  obtain ⟨w',path,final,kept,drawn,transactions,told⟩ := @during_answered pg
    {w with clients := w.clients.insert c {w.client c with busy := true}} t s'.sequence c now user request favourites' history'
    s' _ sliced shown read fresh
  have busy : ({w with clients := w.clients.insert c {w.client c with busy := true}} : Server).client c =
      {w.client c with busy := true} := (client_insert rfl).trans (if_pos rfl)
  rw [busy] at told
  refine ⟨w',(Proceeds.step _ started rfl).trans ?_,final,kept,drawn,transactions,told⟩
  rw [begun]
  exact prepared.trans path

end Server

end PersonalData
