import RockServer.PersonalPostgres
import RockServer.Transition

namespace PersonalData
open DeviceControl (Uuid Instant)
open LastWriter (Version Change)

inductive Action where
  | sync (now : Instant) (user : Uuid) (request : SyncRequest)
  | sweep (now : Instant) (deleted : Uuid → Option Instant)

def Action.now : Action → Instant
  | .sync now _ _ => now
  | .sweep now _ => now

-- A store under its two operations. `deleted` is what the users table says of
-- deleted accounts at a sweep.
structure Backend (S : Type) where
  empty : S
  synchronize : S → Instant → Uuid → SyncRequest → Except PersonalDataError SyncOutcome × S
  sweepRetention : S → Instant → (Uuid → Option Instant) → RetentionSweep × S
  favourites : S → Rows FavouriteFields
  history : S → Rows HistoryFields
  counter : S → Nat

def Backend.step {S : Type} (backend : Backend S) (s : S) : Action → S
  | .sync now user request => (backend.synchronize s now user request).2
  | .sweep now deleted => (backend.sweepRetention s now deleted).2

-- Purging deleted accounts is left to the database.
def memory : Backend InMemoryPersonalDataStore where
  empty := ⟨∅,∅,0⟩
  synchronize s now user request := s.synchronize now user request
  sweepRetention s now _ := s.sweepRetention now
  favourites s := s.favourites
  history s := s.history
  counter s := s.revision

def postgres (pg : Postgres) : Backend PostgresPersonalDataStore where
  empty := ⟨∅,∅,0⟩
  synchronize s now user request := s.synchronize pg now user request
  sweepRetention s now deleted := s.sweepRetention pg now deleted
  favourites s := s.favourites
  history s := s.history
  counter s := s.sequence

-- What a step may do to a table, as relations that compose. Rows carry the
-- revision of their last change: each row is an old one or newer than the
-- counter was.
section evolution
variable {F : Type}

def Advances (rows : Rows F) (n : Nat) (rows' : Rows F) (n' : Nat) : Prop :=
  n ≤ n' ∧ ∀ (key : Key) row, rows'[key]? = some row →
    rows[key]? = some row ∨ n < row.syncRevision ∧ row.syncRevision ≤ n'

variable {rows rows' rows'' : Rows F} {n n' n'' : Nat}

theorem Advances.refl (rows : Rows F) (n : Nat) : Advances rows n rows n := ⟨Nat.le_refl n,fun _ _ found => .inl found⟩

theorem Advances.trans (first : Advances rows n rows' n') (second : Advances rows' n' rows'' n'') :
    Advances rows n rows'' n'' := by
  refine ⟨Nat.le_trans first.1 second.1,fun key row found => ?_⟩
  rcases second.2 key row found with old | ⟨lower,upper⟩
  · rcases first.2 key row old with older | ⟨lower,upper⟩
    · exact .inl older
    · exact .inr ⟨lower,Nat.le_trans upper second.1⟩
  · exact .inr ⟨Nat.lt_of_le_of_lt first.1 lower,upper⟩

-- Revisions handed out to another table pass this one by.
theorem Advances.skip (first : Advances rows n rows' n') (later : n' ≤ n'') : Advances rows n rows' n'' :=
  first.trans ⟨later,fun _ _ found => .inl found⟩

theorem placeAll_advances (burns : Bool) (bare : Instant → F) (user : Uuid) (rows : Rows F) (n : Nat)
    (entries : List (Uuid × Change F Instant)) :
    Advances rows n (placeAll burns bare user (rows,n) entries).1 (placeAll burns bare user (rows,n) entries).2 := by
  refine ⟨placeAll_revision burns bare user (rows,n) entries,fun key row found => ?_⟩
  rcases @placeAll_cases _ burns bare user (rows,n) key entries with same | ⟨row',_,moved,_,_,lower,upper,_⟩
  · exact .inl (same ▸ found)
  · rw [found] at moved
    cases Option.some.inj moved
    exact .inr ⟨lower,upper⟩

theorem expireRows_advances (mark : Record F → Record F) (state : Rows F × Nat) {keys : List Key} (distinct : keys.Nodup) :
    Advances state.1 state.2 (expireRows mark state keys).1 (expireRows mark state keys).2 := by
  refine ⟨expireRows_revision mark state keys,fun key row found => ?_⟩
  rcases @expireRows_cases _ state key mark keys distinct with ⟨_,same⟩ | ⟨_,gone⟩ | ⟨_,_,_,_,lower,upper,moved⟩
  · exact .inl (same ▸ found)
  · rw [gone] at found
    cases found
  · rw [found] at moved
    cases Option.some.inj moved
    exact .inr ⟨lower,upper⟩

theorem filter_advances (rows : Rows F) (n : Nat) (keep : Key → Record F → Bool) : Advances rows n (rows.filter keep) n :=
  ⟨Nat.le_refl n,fun _ _ found => .inl (Table.get_filter.mp found).1⟩

end evolution

theorem expireHistory_advances (user : Uuid) (now : Instant) (state : Rows HistoryFields × Nat) :
    Advances state.1 state.2 (expireHistory user now state).1 (expireHistory user now state).2 :=
  expireRows_advances expireMark state (expiredKeys_distinct _ _ _)

theorem expireWhere_advances (pg : Postgres) (owns : Key → Bool) (now : Instant) (state : Rows HistoryFields × Nat) :
    Advances state.1 state.2 (pg.expireWhere owns now state).1 (pg.expireWhere owns now state).2 :=
  expireRows_advances _ state ((pg.scans _).nodup_iff.mpr (expiredKeys_distinct _ _ _))

theorem memory_advances (s : InMemoryPersonalDataStore) (action : Action) :
    Advances s.favourites s.revision (memory.step s action).favourites (memory.step s action).revision ∧
    Advances s.history s.revision (memory.step s action).history (memory.step s action).revision := by
  cases action with
  | sync now user request =>
    change Advances _ _ (s.synchronize now user request).2.favourites (s.synchronize now user request).2.revision ∧
      Advances _ _ (s.synchronize now user request).2.history (s.synchronize now user request).2.revision
    have pushed := placeAll_advances false bareFavourite user s.favourites s.revision request.favouriteEntries
    rw [← InMemoryPersonalDataStore.pushFavourites_place] at pushed
    cases ran : s.synchronize now user request with
    | mk answer s' =>
      rcases InMemoryPersonalDataStore.sync_cases ran with ⟨_,_,_,rfl⟩ | ⟨_,_,_,rfl⟩ | ⟨_,_,first,second,_⟩
      · exact ⟨.refl _ _,.refl _ _⟩
      · exact ⟨pushed,(Advances.refl _ _).skip pushed.1⟩
      · have placed := placeAll_advances false bareHistory user s.history (s.pushFavourites user request).2
          request.historyEntries
        rw [← InMemoryPersonalDataStore.pushHistory_place] at placed
        have expired := placed.trans (expireHistory_advances user now _)
        have history : s'.history = _ := congrArg Prod.fst second
        have revision : s'.revision = _ := congrArg Prod.snd second
        rw [first,history,revision]
        exact ⟨pushed.skip expired.1,((Advances.refl _ _).skip pushed.1).trans expired⟩
  | sweep now deleted =>
    have expired := expireRows_advances expireMark (s.history,s.revision)
      (expiredKeys_distinct (fun _ => true) (now - historyRetention) s.history)
    exact ⟨(filter_advances _ _ _).skip expired.1,expired.trans (filter_advances _ _ _)⟩

-- Neither a statement that fails nor one that succeeds takes revisions back.
section aborts
variable {A B F U : Type} {n : Nat}

def Onward (n : Nat) (count : A → Nat) : Except Aborted A → Prop
  | .ok result => n ≤ count result
  | .error aborted => n ≤ aborted.2

theorem onward_bind {count : A → Nat} {count' : B → Nat} {first : Except Aborted A} {next : A → Except Aborted B}
    (onward : Onward n count first) (continues : ∀ result, n ≤ count result → Onward n count' (next result)) :
    Onward n count' (first >>= next) := by
  cases first with
  | error aborted => exact onward
  | ok result => exact continues result onward

theorem onward_statements {step : Rows F × Nat → U → Except Aborted (Rows F × Nat)}
    (each : ∀ state item, Onward state.2 Prod.snd (step state item)) {state : Rows F × Nat} (start : n ≤ state.2)
    (items : List U) : Onward n Prod.snd (items.foldlM step state) := by
  induction items generalizing state with
  | nil => exact start
  | cons item rest ih =>
    rw [List.foldlM_cons]
    have first := each state item
    cases ran : step state item with
    | error aborted =>
      rw [ran] at first
      exact Nat.le_trans start first
    | ok middle =>
      rw [ran] at first
      exact ih (Nat.le_trans start first)

theorem onward_limit {state : Rows F × Nat} {user : Uuid} {maxRecords : Nat} {exceeded : PersonalDataError}
    {changes : CollectionChanges U} (start : n ≤ state.2) : Onward n (fun _ => n)
      (PostgresPersonalDataStore.whenPushed changes (enforceLiveLimit state user maxRecords exceeded)) := by
  unfold PostgresPersonalDataStore.whenPushed enforceLiveLimit
  split
  · exact Nat.le_refl n
  · split
    · exact start
    · exact Nat.le_refl n

theorem onward_insert (state : Rows F × Nat) (key : Key) (inserted : Version F Instant)
    (update : Record F → Record F → Option (Record F)) :
    Onward state.2 Prod.snd (.ok (insertOnConflict state key inserted update)) := by
  unfold insertOnConflict
  dsimp only
  split
  · exact Nat.le_succ _
  · split <;> exact Nat.le_succ _

end aborts

theorem push_onward (pg : Postgres) (now : Instant) (user : Uuid) (request : SyncRequest)
    (s : PostgresPersonalDataStore) :
    Onward s.sequence (·.sequence) (s.push pg now user request) := by
  unfold PostgresPersonalDataStore.push
  refine onward_bind (onward_statements ?_ (Nat.le_refl _) _) fun upserted grown => ?_
  · intro state item
    unfold Postgres.applyFavouriteUpsert
    split
    · exact onward_insert _ _ _ _
    · exact Nat.le_refl _
  refine onward_bind (onward_statements ?_ grown _) fun favourites grown => ?_
  · intro state item
    unfold Postgres.applyFavouriteDelete
    split
    · exact onward_insert _ _ _ _
    · exact Nat.le_refl _
  refine onward_bind (onward_limit grown) fun _ _ => ?_
  refine onward_bind (onward_statements ?_ (show s.sequence ≤ (s.history,favourites.2).2 from grown) _)
    fun played grown => ?_
  · intro state item
    unfold Postgres.applyHistoryUpsert
    split
    · split
      · exact onward_insert _ _ _ _
      · exact Nat.le_succ _
    · exact Nat.le_refl _
  refine onward_bind (onward_statements ?_ grown _) fun history grown => ?_
  · intro state item
    unfold Postgres.applyHistoryDelete
    split
    · exact onward_insert _ _ _ _
    · exact Nat.le_refl _
  have expired : s.sequence ≤
      (if request.history.upserts.isEmpty = true then history else pg.expireUserHistory user now history).2 := by
    split
    · exact grown
    · exact Nat.le_trans grown (expireWhere_advances pg _ now history).1
  exact onward_bind (onward_limit expired) fun _ _ => expired

theorem postgres_advances (pg : Postgres) (s : PostgresPersonalDataStore) (action : Action) :
    Advances s.favourites s.sequence ((postgres pg).step s action).favourites ((postgres pg).step s action).sequence ∧
    Advances s.history s.sequence ((postgres pg).step s action).history ((postgres pg).step s action).sequence := by
  cases action with
  | sync now user request =>
    change Advances _ _ (s.synchronize pg now user request).2.favourites (s.synchronize pg now user request).2.sequence ∧
      Advances _ _ (s.synchronize pg now user request).2.history (s.synchronize pg now user request).2.sequence
    cases ran : s.synchronize pg now user request with
    | mk answer s' =>
      rcases PostgresPersonalDataStore.sync_cases ran with ⟨_,_,_,rfl⟩ | ⟨_,_,_,aborted,_,rfl⟩ | ⟨_,pushed,_⟩
      · exact ⟨.refl _ _,.refl _ _⟩
      · have grows := push_onward pg now user request s
        rw [aborted] at grows
        exact ⟨(Advances.refl _ _).skip grows,(Advances.refl _ _).skip grows⟩
      · obtain ⟨favourites,history,_,_,_,_,rfl⟩ := PostgresPersonalDataStore.push_ok.mp pushed
        have first := placeAll_advances true bareFavourite user s.favourites s.sequence favourites
        have placed := placeAll_advances true bareHistory user s.history (s.placedFavourites user favourites).2 history
        have second : Advances s.history (s.placedFavourites user favourites).2
            (s.placedHistory pg now user request favourites history).1
            (s.placedHistory pg now user request favourites history).2 := by
          unfold PostgresPersonalDataStore.placedHistory
          dsimp only
          split
          · exact placed
          · exact placed.trans (expireWhere_advances pg _ now _)
        exact ⟨first.skip second.1,((Advances.refl _ _).skip first.1).trans second⟩
  | sweep now deleted =>
    have expired := expireWhere_advances pg (fun _ => true) now (s.history,s.sequence)
    exact ⟨((filter_advances _ _ _).trans (filter_advances _ _ _)).skip expired.1,
      expired.trans ((filter_advances _ _ _).trans (filter_advances _ _ _))⟩

-- The tables after a call, whatever it answered.
theorem memory_sync_rows (s : InMemoryPersonalDataStore) (now : Instant) (user : Uuid) (request : SyncRequest) :
    ((s.synchronize now user request).2.favourites = s.favourites ∨ request.validate now = .ok () ∧
      (s.synchronize now user request).2.favourites =
        (placeAll false bareFavourite user (s.favourites,s.revision) request.favouriteEntries).1) ∧
    ((s.synchronize now user request).2.history = s.history ∨ request.validate now = .ok () ∧ ∃ revision,
      (s.synchronize now user request).2.history = (expireHistory user now
        (placeAll false bareHistory user (s.history,revision) request.historyEntries)).1) := by
  rw [← InMemoryPersonalDataStore.pushFavourites_place]
  cases ran : s.synchronize now user request with
  | mk answer s' =>
    rcases InMemoryPersonalDataStore.sync_cases ran with ⟨_,_,_,rfl⟩ | ⟨valid,_,_,rfl⟩ | ⟨valid,_,first,second,_⟩
    · exact ⟨.inl rfl,.inl rfl⟩
    · exact ⟨.inr ⟨valid,rfl⟩,.inl rfl⟩
    · refine ⟨.inr ⟨valid,first⟩,.inr ⟨valid,(s.pushFavourites user request).2,?_⟩⟩
      rw [← InMemoryPersonalDataStore.pushHistory_place]
      exact congrArg Prod.fst second

theorem postgres_sync_rows (pg : Postgres) (s : PostgresPersonalDataStore) (now : Instant) (user : Uuid)
    (request : SyncRequest) :
    ((s.synchronize pg now user request).2.favourites = s.favourites ∧
      (s.synchronize pg now user request).2.history = s.history) ∨
    ∃ favourites history revision, pg.favouriteEntries request = some favourites ∧
      pg.historyEntries request = some history ∧
      (s.synchronize pg now user request).2.favourites =
        (placeAll true bareFavourite user (s.favourites,s.sequence) favourites).1 ∧
      ((s.synchronize pg now user request).2.history =
          (placeAll true bareHistory user (s.history,revision) history).1 ∨
        (s.synchronize pg now user request).2.history = (pg.expireUserHistory user now
          (placeAll true bareHistory user (s.history,revision) history)).1) := by
  cases ran : s.synchronize pg now user request with
  | mk answer s' =>
    rcases PostgresPersonalDataStore.sync_cases ran with ⟨_,_,_,rfl⟩ | ⟨_,_,_,_,_,rfl⟩ | ⟨_,pushed,_⟩
    · exact .inl ⟨rfl,rfl⟩
    · exact .inl ⟨rfl,rfl⟩
    · obtain ⟨favourites,history,castFavourites,castHistory,_,_,rfl⟩ := PostgresPersonalDataStore.push_ok.mp pushed
      refine .inr ⟨favourites,history,(s.placedFavourites user favourites).2,castFavourites,castHistory,rfl,?_⟩
      unfold PostgresPersonalDataStore.placedHistory
      dsimp only
      split
      · exact .inl rfl
      · exact .inr rfl

-- No row is ahead of the counter, and no answer hands out a cursor that is.
def Backend.Counted {S : Type} (backend : Backend S) (s : S) : Prop :=
  (∀ (key : Key) row, (backend.favourites s)[key]? = some row → row.syncRevision ≤ backend.counter s) ∧
  ∀ (key : Key) row, (backend.history s)[key]? = some row → row.syncRevision ≤ backend.counter s

structure Backend.Orderly {S : Type} (backend : Backend S) : Prop where
  starts : backend.Counted backend.empty
  advances : ∀ s action,
    Advances (backend.favourites s) (backend.counter s) (backend.favourites (backend.step s action))
      (backend.counter (backend.step s action)) ∧
    Advances (backend.history s) (backend.counter s) (backend.history (backend.step s action))
      (backend.counter (backend.step s action))
  answers : ∀ s now user request outcome s', backend.synchronize s now user request = (.ok outcome,s') →
    backend.Counted s' → request.sinceRevision ≤ backend.counter s' → outcome.serverRevision ≤ backend.counter s'

theorem Advances.counted {F : Type} {rows rows' : Rows F} {n n' : Nat} (advances : Advances rows n rows' n')
    (held : ∀ (key : Key) row, rows[key]? = some row → row.syncRevision ≤ n) :
    ∀ (key : Key) row, rows'[key]? = some row → row.syncRevision ≤ n' := by
  intro key row found
  rcases advances.2 key row found with old | ⟨_,upper⟩
  · exact Nat.le_trans (held key row old) advances.1
  · exact upper

theorem Backend.Orderly.counted {S : Type} {backend : Backend S} (orderly : backend.Orderly) {s : S} (action : Action)
    (held : backend.Counted s) : backend.Counted (backend.step s action) :=
  ⟨(orderly.advances s action).1.counted held.1,(orderly.advances s action).2.counted held.2⟩

theorem cursor_le {F : Type} {entries : List (Uuid × Record F)} {sinceRevision bound : Nat} (pushed : List Uuid)
    (since : sinceRevision ≤ bound) (rows : ∀ entry ∈ entries, entry.2.syncRevision ≤ bound) :
    (deltaAndEcho entries sinceRevision pushed).2 ≤ bound := by
  rcases (cursor_spec entries sinceRevision pushed).2.2 with same | ⟨entry,member,same⟩
  · rw [same]; exact since
  · rw [← same]; exact rows entry member

theorem memory_orderly : memory.Orderly where
  starts := by constructor <;> simp [memory]
  advances := memory_advances
  answers s now user request outcome s' ran counted since := by
    obtain ⟨_,_,_,_,_,rfl⟩ := InMemoryPersonalDataStore.sync_ok ran
    refine Nat.max_le.mpr ⟨cursor_le _ since ?_,cursor_le _ since ?_⟩
    · exact fun entry member => counted.1 _ entry.2 (mem_accountRows.mp member)
    · exact fun entry member => counted.2 _ entry.2 (mem_accountRows.mp member)

theorem read_cases {pg : Postgres} {s : PostgresPersonalDataStore} {user : Uuid} {request : SyncRequest}
    {outcome : SyncOutcome} (readable : s.read pg user request = some outcome) : ∃ favourites history,
    Postgres.fetch pg.projectFavourite s.favourites user = some favourites ∧
    Postgres.fetch pg.projectHistory s.history user = some history ∧ outcome = answerFrom favourites history request := by
  simp only [PostgresPersonalDataStore.read,Option.bind_eq_bind,Option.bind_eq_some_iff,Option.some.injEq] at readable
  obtain ⟨favourites,first,history,second,rfl⟩ := readable
  exact ⟨favourites,history,first,second,rfl⟩

theorem postgres_orderly (pg : Postgres) : (postgres pg).Orderly where
  starts := by constructor <;> simp [postgres]
  advances := postgres_advances pg
  answers s now user request outcome s' ran counted since := by
    obtain ⟨_,_,readable⟩ := PostgresPersonalDataStore.sync_ok ran
    obtain ⟨favourites,history,first,second,rfl⟩ := read_cases readable
    refine Nat.max_le.mpr ⟨cursor_le _ since ?_,cursor_le _ since ?_⟩
    · intro entry member
      obtain ⟨row,found,shown⟩ := Postgres.mem_fetch first member
      rw [Postgres.projectFavourite_revision shown]
      exact counted.1 _ row found
    · intro entry member
      obtain ⟨row,found,shown⟩ := Postgres.mem_fetch second member
      rw [Postgres.projectHistory_revision shown]
      exact counted.2 _ row found

end PersonalData
