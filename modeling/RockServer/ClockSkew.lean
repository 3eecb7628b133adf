import RockServer.SyncRuns

namespace PersonalData
open DeviceControl (Uuid Instant)
open LastWriter (Change)
open Transition (Runs Under)

-- A run of a store with the server clock and, for each row, the server time of
-- the step that last wrote it. Every write takes a new revision, so a row was
-- written exactly when it changed.
structure Clocked (S : Type) where
  store : S
  clock : Instant
  favouritesAt : Key → Instant
  historyAt : Key → Instant

section clocked
variable {S : Type} (backend : Backend S)

def Clocked.start (now : Instant) : Clocked S := ⟨backend.empty,now,fun _ => now,fun _ => now⟩

def lastWrite {F : Type} [DecidableEq F] (now : Instant) (rows rows' : Rows F) (times : Key → Instant) (key : Key) : Instant :=
  if rows'[key]? = rows[key]? then times key else now

def Clocked.after (c : Clocked S) (action : Action) : Clocked S where
  store := backend.step c.store action
  clock := action.now
  favouritesAt := lastWrite action.now (backend.favourites c.store)
    (backend.favourites (backend.step c.store action)) c.favouritesAt
  historyAt := lastWrite action.now (backend.history c.store)
    (backend.history (backend.step c.store action)) c.historyAt

def Clocked.ticks (c : Clocked S) (action : Action) (c' : Clocked S) : Prop :=
  c.clock ≤ action.now ∧ c' = c.after backend action

-- No row is stamped further ahead than the tolerated skew over the time it was
-- written at, and no write lies in the future.
def Tolerant {F : Type} (clock : Instant) (rows : Rows F) (times : Key → Instant) : Prop :=
  ∀ (key : Key) row, rows[key]? = some row → row.updatedAt ≤ times key + maxClientClockSkew ∧ times key ≤ clock

def Clocked.Tolerated (c : Clocked S) : Prop :=
  Tolerant c.clock (backend.favourites c.store) c.favouritesAt ∧ Tolerant c.clock (backend.history c.store) c.historyAt

-- Every stamp that the store reads as later than the clock and the skew passes
-- the check once the skew admits it, and an upsert with it wins on every record.
def Clocked.Writable (cast : Timestamp → Option Instant) (c : Clocked S) : Prop :=
  ∀ now stamp stored, cast stamp = some stored → stamp.instant ≤ now + maxClientClockSkew →
    c.clock + maxClientClockSkew < stored →
    validateTimestamp stamp now = .ok () ∧
    (∀ (key : Key) fields, (Change.upsert fields stored).wins
      (((backend.favourites c.store)[key]?).map Record.toVersion) = true) ∧
    ∀ (key : Key) fields, (Change.upsert fields stored).wins
      (((backend.history c.store)[key]?).map Record.toVersion) = true

end clocked

-- What a step may do to stamps: a row keeps the stamp of the row before it or
-- has one within a bound.
section stamps
variable {F : Type} {rows rows' rows'' : Rows F} {bound : Instant}

def Stamped (bound : Instant) (rows rows' : Rows F) : Prop :=
  ∀ (key : Key) row, rows'[key]? = some row →
    (∃ old, rows[key]? = some old ∧ row.updatedAt = old.updatedAt) ∨ row.updatedAt ≤ bound

theorem Stamped.refl (bound : Instant) (rows : Rows F) : Stamped bound rows rows :=
  fun _ row found => .inl ⟨row,found,rfl⟩

theorem Stamped.trans (first : Stamped bound rows rows') (second : Stamped bound rows' rows'') :
    Stamped bound rows rows'' := by
  intro key row found
  rcases second key row found with ⟨middle,present,same⟩ | within
  · rcases first key middle present with ⟨old,before,equal⟩ | within
    · exact .inl ⟨old,before,same.trans equal⟩
    · exact .inr (same ▸ within)
  · exact .inr within

theorem placeAll_stamped {burns : Bool} {bare : Instant → F} {user : Uuid} {state : Rows F × Nat}
    {entries : List (Uuid × Change F Instant)} (within : ∀ entry ∈ entries, entry.2.stamp ≤ bound) :
    Stamped bound state.1 (placeAll burns bare user state entries).1 := by
  intro key row found
  rcases @placeAll_cases _ burns bare user state key entries with same | ⟨row',change,moved,_,listed,_,_,_,stored,written⟩
  · exact .inl ⟨row,same ▸ found,rfl⟩
  · rw [found] at moved
    cases Option.some.inj moved
    right
    rw [written,LastWriter.written_stamp]
    exact within _ listed

theorem expireRows_stamped {mark : Record F → Record F} {state : Rows F × Nat} {keys : List Key} (distinct : keys.Nodup)
    (marks : ∀ row, (mark row).updatedAt = row.updatedAt ∨ (mark row).updatedAt ≤ bound) :
    Stamped bound state.1 (expireRows mark state keys).1 := by
  intro key row found
  rcases @expireRows_cases _ state key mark keys distinct with ⟨_,same⟩ | ⟨_,gone⟩ | ⟨old,_,_,was,_,_,moved⟩
  · exact .inl ⟨row,same ▸ found,rfl⟩
  · rw [gone] at found
    cases found
  · rw [found] at moved
    cases Option.some.inj moved
    rcases marks old with same | within
    · exact .inl ⟨old,was,same⟩
    · exact .inr within

theorem filter_stamped (bound : Instant) (rows : Rows F) (keep : Key → Record F → Bool) :
    Stamped bound rows (rows.filter keep) := fun _ row found => .inl ⟨row,(Table.get_filter.mp found).1,rfl⟩

end stamps

-- The validator looks at the stamps of upserts only; these actions keep the
-- deletions, too, within the skew.
def memoryTolerates : Action → Prop
  | .sync now _ request => ∀ delete ∈ request.favourites.deletes ++ request.history.deletes,
      delete.updatedAt.instant ≤ now + maxClientClockSkew
  | .sweep _ _ => True

def SyncRequest.stamps (request : SyncRequest) : List Timestamp :=
  request.favourites.upserts.map (·.updatedAt) ++ request.favourites.deletes.map (·.updatedAt) ++
  (request.history.upserts.map (·.updatedAt) ++ request.history.deletes.map (·.updatedAt))

-- In the database it is the stored value of a stamp that has to be.
def postgresTolerates (pg : Postgres) : Action → Prop
  | .sync now _ request => ∀ stamp ∈ request.stamps, ∀ stored, pg.timestamptz stamp = some stored →
      stored ≤ now + maxClientClockSkew
  | .sweep _ _ => True

theorem memory_stamped {s : InMemoryPersonalDataStore} {action : Action} (tolerates : memoryTolerates action) :
    Stamped (action.now + maxClientClockSkew) s.favourites (memory.step s action).favourites ∧
    Stamped (action.now + maxClientClockSkew) s.history (memory.step s action).history := by
  have marks : ∀ row, (expireMark row).updatedAt = row.updatedAt ∨
      (expireMark row).updatedAt ≤ action.now + maxClientClockSkew := fun _ => .inl rfl
  cases action with
  | sync now user request =>
    change Stamped _ _ (s.synchronize now user request).2.favourites ∧
      Stamped _ _ (s.synchronize now user request).2.history
    have favourites (valid : request.validate now = .ok ()) : Stamped (now + maxClientClockSkew) s.favourites
        (placeAll false bareFavourite user (s.favourites,s.revision) request.favouriteEntries).1 := by
      refine placeAll_stamped fun entry listed => ?_
      rcases List.mem_append.mp listed with offered | removed
      · obtain ⟨upsert,member,rfl⟩ := List.mem_map.mp offered
        exact upsert.stamps ((validate_ok valid).2.2.1 upsert member)
      · obtain ⟨delete,member,rfl⟩ := List.mem_map.mp removed
        exact tolerates delete (List.mem_append_left _ member)
    have history (valid : request.validate now = .ok ()) (revision : Nat) : Stamped (now + maxClientClockSkew) s.history
        (placeAll false bareHistory user (s.history,revision) request.historyEntries).1 := by
      refine placeAll_stamped fun entry listed => ?_
      rcases List.mem_append.mp listed with offered | removed
      · obtain ⟨upsert,member,rfl⟩ := List.mem_map.mp offered
        exact upsert.stamps ((validate_ok valid).2.2.2 upsert member)
      · obtain ⟨delete,member,rfl⟩ := List.mem_map.mp removed
        exact tolerates delete (List.mem_append_right _ member)
    obtain ⟨first,second⟩ := memory_sync_rows s now user request
    constructor
    · rcases first with same | ⟨valid,placed⟩
      · rw [same]
        exact .refl _ _
      · rw [placed]
        exact favourites valid
    · rcases second with same | ⟨valid,revision,placed⟩
      · rw [same]
        exact .refl _ _
      · rw [placed]
        exact (history valid revision).trans (expireRows_stamped (expiredKeys_distinct _ _ _) marks)
  | sweep now deleted =>
    have expired : Stamped (now + maxClientClockSkew) s.history (expireRows expireMark (s.history,s.revision)
        (expiredKeys (fun _ => true) (now - historyRetention) s.history)).1 :=
      expireRows_stamped (expiredKeys_distinct _ _ _) marks
    exact ⟨filter_stamped _ _ _,expired.trans (filter_stamped _ _ _)⟩

theorem expireWhere_stamped (pg : Postgres) (owns : Key → Bool) (now : Instant) (state : Rows HistoryFields × Nat) :
    Stamped (now + maxClientClockSkew) state.1 (pg.expireWhere owns now state).1 := by
  refine expireRows_stamped ((pg.scans _).nodup_iff.mpr (expiredKeys_distinct _ _ _)) fun row => .inr ?_
  exact le_trans (Postgres.clock_le now) (Int.le_add_of_nonneg_right (by decide))

theorem postgres_stamped {pg : Postgres} {s : PostgresPersonalDataStore} {action : Action}
    (tolerates : postgresTolerates pg action) :
    Stamped (action.now + maxClientClockSkew) s.favourites ((postgres pg).step s action).favourites ∧
    Stamped (action.now + maxClientClockSkew) s.history ((postgres pg).step s action).history := by
  cases action with
  | sync now user request =>
    change Stamped _ _ (s.synchronize pg now user request).2.favourites ∧
      Stamped _ _ (s.synchronize pg now user request).2.history
    rcases postgres_sync_rows pg s now user request with ⟨first,second⟩ |
      ⟨favourites,history,revision,castFavourites,castHistory,first,second⟩
    · rw [first,second]
      exact ⟨.refl _ _,.refl _ _⟩
    · have placed : Stamped (now + maxClientClockSkew) s.history
          (placeAll true bareHistory user (s.history,revision) history).1 := by
        refine placeAll_stamped fun entry listed => ?_
        rcases Postgres.mem_historyEntries castHistory listed with ⟨upsert,member,casts⟩ | ⟨delete,member,casts⟩
        · refine tolerates upsert.updatedAt ?_ _ (Postgres.historyUpsertEntry_stamp casts).2.1
          exact List.mem_append_right _ (List.mem_append_left _ (List.mem_map_of_mem member))
        · refine tolerates delete.updatedAt ?_ _ (Postgres.deleteEntry_stamp casts).2.1
          exact List.mem_append_right _ (List.mem_append_right _ (List.mem_map_of_mem member))
      constructor
      · rw [first]
        refine placeAll_stamped fun entry listed => ?_
        rcases Postgres.mem_favouriteEntries castFavourites listed with ⟨upsert,member,casts⟩ | ⟨delete,member,casts⟩
        · refine tolerates upsert.updatedAt ?_ _ (Postgres.favouriteUpsertEntry_stamp casts).2.1
          exact List.mem_append_left _ (List.mem_append_left _ (List.mem_map_of_mem member))
        · refine tolerates delete.updatedAt ?_ _ (Postgres.deleteEntry_stamp casts).2.1
          exact List.mem_append_left _ (List.mem_append_right _ (List.mem_map_of_mem member))
      · rcases second with same | expired
        · rw [same]
          exact placed
        · rw [expired]
          exact placed.trans (expireWhere_stamped pg _ now _)
  | sweep now deleted =>
    exact ⟨(filter_stamped _ _ _).trans (filter_stamped _ _ _),
      (expireWhere_stamped pg _ now (s.history,s.sequence)).trans ((filter_stamped _ _ _).trans (filter_stamped _ _ _))⟩

section runs
variable {S : Type} {backend : Backend S} {guard : Action → Prop}

theorem tolerant_step {F : Type} [DecidableEq F] {clock now : Instant} {rows rows' : Rows F} {times : Key → Instant}
    (later : clock ≤ now) (stamped : Stamped (now + maxClientClockSkew) rows rows') (held : Tolerant clock rows times) :
    Tolerant now rows' (lastWrite now rows rows' times) := by
  intro key row found
  unfold lastWrite
  split
  · rename_i same
    obtain ⟨bound,past⟩ := held key row (same ▸ found)
    exact ⟨bound,le_trans past later⟩
  · refine ⟨?_,le_refl now⟩
    rcases stamped key row found with ⟨old,present,equal⟩ | within
    · obtain ⟨bound,past⟩ := held key old present
      rw [equal]
      exact le_trans bound (Int.add_le_add_right (le_trans past later) _)
    · exact within

theorem tolerated_run (stamped : ∀ s action, guard action →
      Stamped (action.now + maxClientClockSkew) (backend.favourites s) (backend.favourites (backend.step s action)) ∧
      Stamped (action.now + maxClientClockSkew) (backend.history s) (backend.history (backend.step s action)))
    {c c' : Clocked S} {actions : List Action}
    (path : Runs (Under (fun _ action => guard action) (Clocked.ticks backend)) c actions c')
    (start : c.Tolerated backend) : c'.Tolerated backend := by
  refine path.invariant (Clocked.Tolerated backend) start ?_
  intro before action after held taken
  obtain ⟨met,later,rfl⟩ := taken
  obtain ⟨favourites,history⟩ := stamped before.store action met
  exact ⟨tolerant_step later favourites held.1,tolerant_step later history held.2⟩

theorem wins_beyond {F : Type} {clock stored : Instant} {rows : Rows F} {times : Key → Instant}
    (held : Tolerant clock rows times) (beyond : clock + maxClientClockSkew < stored) (key : Key) (fields : F) :
    (Change.upsert fields stored).wins ((rows[key]?).map Record.toVersion) = true := by
  cases found : rows[key]? with
  | none => rfl
  | some row =>
    obtain ⟨bound,past⟩ := held key row found
    have older : row.updatedAt < stored :=
      lt_of_le_of_lt (le_trans bound (Int.add_le_add_right past _)) beyond
    simpa [Change.wins] using older

theorem writable (cast : Timestamp → Option Instant) {c : Clocked S} (held : c.Tolerated backend) :
    c.Writable backend cast := by
  intro now stamp stored _ admitted beyond
  refine ⟨require_ok.mpr (decide_eq_true admitted),?_,?_⟩
  · exact wins_beyond held.1 beyond
  · exact wins_beyond held.2 beyond

end runs

-- In every run whose deletions keep to the skew as the upserts have to, no row
-- of either store is stamped beyond the skew over the time it was written at,
-- and every record can be written again.
theorem stamps_within_skew {pg : Postgres} {t : Instant} {actions statements : List Action}
    {c : Clocked InMemoryPersonalDataStore} {d : Clocked PostgresPersonalDataStore}
    (path : Runs (Under (fun _ action => memoryTolerates action) (Clocked.ticks memory))
      (Clocked.start memory t) actions c)
    (session : Runs (Under (fun _ action => postgresTolerates pg action)
      (Clocked.ticks (postgres pg))) (Clocked.start (postgres pg) t) statements d) :
    (c.Tolerated memory ∧ c.Writable memory fun stamp => some stamp.instant) ∧
    d.Tolerated (postgres pg) ∧ d.Writable (postgres pg) pg.timestamptz := by
  have first : c.Tolerated memory := by
    refine tolerated_run (fun _ _ => memory_stamped) path ⟨?_,?_⟩
    all_goals
      intro key row found
      simp [Clocked.start,memory] at found
  have second : d.Tolerated (postgres pg) := by
    refine tolerated_run (fun _ _ => postgres_stamped) session ⟨?_,?_⟩
    all_goals
      intro key row found
      simp [Clocked.start,postgres] at found
  exact ⟨⟨first,writable _ first⟩,second,writable _ second⟩

def deleting (stamp : Timestamp) : Action :=
  .sync (second 9).instant 1 {favourites := {deletes := [⟨7,stamp⟩]}}

def deleted {S : Type} (backend : Backend S) (stamp : Timestamp) : Clocked S :=
  (Clocked.start backend (second 0).instant).after backend (deleting stamp)

theorem stamps_within_skew_deleted :
    ((memory.favourites (deleted memory (second 3)).store)[(⟨1,7⟩ : Key)]?).isSome ∧
    (((postgres sampleServer).favourites (deleted (postgres sampleServer) (second 3)).store)[(⟨1,7⟩ : Key)]?).isSome ∧
    ((deleted memory (second 3)).Tolerated memory ∧
      (deleted memory (second 3)).Writable memory fun stamp => some stamp.instant) ∧
    (deleted (postgres sampleServer) (second 3)).Tolerated (postgres sampleServer) ∧
    (deleted (postgres sampleServer) (second 3)).Writable (postgres sampleServer) sampleServer.timestamptz := by
  have memoryMeets : memoryTolerates (deleting (second 3)) := by simp [memoryTolerates,deleting]; decide
  have postgresMeets : postgresTolerates sampleServer (deleting (second 3)) := by
    simp [postgresTolerates,deleting,SyncRequest.stamps,sampleServer]; decide
  have past : (second 0).instant ≤ (deleting (second 3)).now := by decide
  exact ⟨by decide,by decide,stamps_within_skew (.single ⟨memoryMeets,past,rfl⟩) (.single ⟨postgresMeets,past,rfl⟩)⟩

-- A deletion stamped ten years ahead is accepted and stored.
def nextDecade : Timestamp := ⟨"1979-12-30T00:00:00Z",DeviceControl.days 3650⟩

theorem deletion_from_the_future :
    (Runs (Clocked.ticks memory) (Clocked.start memory (second 0).instant) [deleting nextDecade]
      (deleted memory nextDecade) ∧ ¬(deleted memory nextDecade).Tolerated memory) ∧
    Runs (Clocked.ticks (postgres sampleServer)) (Clocked.start (postgres sampleServer) (second 0).instant)
      [deleting nextDecade] (deleted (postgres sampleServer) nextDecade) ∧
    ¬(deleted (postgres sampleServer) nextDecade).Tolerated (postgres sampleServer) := by
  have past : (second 0).instant ≤ (deleting nextDecade).now := by decide
  refine ⟨⟨.single ⟨past,rfl⟩,fun tolerated => ?_⟩,.single ⟨past,rfl⟩,fun tolerated => ?_⟩
  · have found : (memory.favourites (deleted memory nextDecade).store)[(⟨1,7⟩ : Key)]? =
        some ⟨⟨bareFavourite nextDecade.instant,nextDecade.instant,some nextDecade.instant⟩,7,1⟩ := by decide
    exact absurd (tolerated.1 _ _ found).1 (by decide)
  · have found : ((postgres sampleServer).favourites (deleted (postgres sampleServer) nextDecade).store)[(⟨1,7⟩ : Key)]? =
        some ⟨⟨bareFavourite nextDecade.instant,nextDecade.instant,some nextDecade.instant⟩,7,1⟩ := by decide
    exact absurd (tolerated.1 _ _ found).1 (by decide)

end PersonalData
