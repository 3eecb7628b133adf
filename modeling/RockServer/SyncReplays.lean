import RockServer.SyncAtomicity

namespace PersonalData
open DeviceControl (Uuid Instant days)
open LastWriter (Change)

section replay
variable {F : Type} {bare : Instant → F} {user : Uuid} {state : Rows F × Nat} {rows : Rows F}
variable {entries : List (Uuid × Change F Instant)} {pushed : List Uuid} {sinceRevision : Nat}

-- What a client that has just pushed is told: its own records as they stand now,
-- by revision.
structure Echoes (rows : Rows F) (user : Uuid) (pushed : List Uuid) (told : List (Record F)) : Prop where
  present : ∀ id ∈ pushed, (rows[(⟨user,id⟩ : Key)]?).isSome
  exact : told.Perm (pushed.filterMap fun id => rows[(⟨user,id⟩ : Key)]?)
  ordered : told.Pairwise fun a b => a.syncRevision ≤ b.syncRevision

-- In memory a change that loses does not draw a revision either.
theorem placeAll_still (idle : Idle user state.1 entries) : placeAll false bare user state entries = state := by
  induction entries with
  | nil => rfl
  | cons entry rest ih =>
    have first : place false bare user state entry = state := place_loses (idle entry List.mem_cons_self)
    rw [placeAll,List.foldl_cons,first]
    exact ih fun other member => idle other (List.mem_cons_of_mem _ member)

theorem changesOn_only (distinct : (entries.map Prod.fst).Nodup) {entry : Uuid × Change F Instant}
    (listed : entry ∈ entries) : changesOn entry.1 entries = [entry.2] := by
  induction entries with
  | nil => cases listed
  | cons first rest ih =>
    obtain ⟨fresh,distinct⟩ := List.nodup_cons.mp distinct
    rcases List.mem_cons.mp listed with rfl | later
    · have others : rest.filter (fun other => decide (other.1 = entry.1)) = [] := by
        refine List.filter_eq_nil_iff.mpr fun other member same => fresh ?_
        exact of_decide_eq_true same ▸ List.mem_map_of_mem member
      simp [changesOn,others]
    · have apart : first.1 ≠ entry.1 := fun same => fresh (same ▸ List.mem_map_of_mem later)
      rw [← ih distinct later]
      simp [changesOn,apart]

-- A batch with one change for each record loses against the rows it left.
theorem placeAll_spent (distinct : (entries.map Prod.fst).Nodup) :
    Idle user (placeAll false bare user state entries).1 entries := by
  intro entry listed
  rw [placeAll_version,changesOn_only distinct listed]
  exact LastWriter.apply_spent _ _ _

theorem Idle.present (idle : Idle user rows entries) : ∀ id ∈ entries.map Prod.fst, (rows[(⟨user,id⟩ : Key)]?).isSome := by
  intro id named
  obtain ⟨entry,listed,rfl⟩ := List.mem_map.mp named
  have loses := idle entry listed
  cases found : rows[(⟨user,entry.1⟩ : Key)]? with
  | some row => rfl
  | none =>
    rw [found] at loses
    cases change : entry.2 <;> simp [change,Change.wins] at loses

theorem selected_accounts (behind : ∀ entry ∈ accountRows rows user, entry.2.syncRevision ≤ sinceRevision) :
    let selected : Table Uuid (Record F) := (accountRows rows user).foldl (fun selected entry =>
      if sinceRevision < entry.2.syncRevision ∨ entry.1 ∈ pushed then selected.insert entry.1 entry.2 else selected) ∅
    ∀ id row, (id,row) ∈ selected.toList ↔ id ∈ pushed ∧ rows[(⟨user,id⟩ : Key)]? = some row := by
  intro selected id row
  rw [Table.mem_entries,selected_get (accountRows_distinct rows user) (by simp)]
  constructor
  · rintro (impossible | ⟨listed,newer | named⟩)
    · simp at impossible
    · exact absurd (behind _ listed) (Nat.not_le_of_lt newer)
    · exact ⟨named,mem_accountRows.mp listed⟩
  · intro found
    exact .inr ⟨mem_accountRows.mpr found.2,.inr found.1⟩

-- A cursor that has seen all rows is told what was pushed, and stays.
theorem delta_echoes (behind : ∀ entry ∈ accountRows rows user, entry.2.syncRevision ≤ sinceRevision)
    (distinct : pushed.Nodup) (present : ∀ id ∈ pushed, (rows[(⟨user,id⟩ : Key)]?).isSome) :
    Echoes rows user pushed (deltaAndEcho (accountRows rows user) sinceRevision pushed).1 ∧
    (deltaAndEcho (accountRows rows user) sinceRevision pushed).2 = sinceRevision := by
  refine ⟨⟨present,?_,List.pairwise_insertionSort _ _⟩,?_⟩
  · refine (List.perm_insertionSort _ _).trans ?_
    have chosen := @selected_accounts F user rows pushed sinceRevision behind
    have pairs : (pushed.filterMap fun id => rows[(⟨user,id⟩ : Key)]?) =
        (pushed.filterMap fun id => (rows[(⟨user,id⟩ : Key)]?).map fun row => (id,row)).map Prod.snd := by
      rw [List.map_filterMap]
      simp [Option.map_map,Function.comp_def]
    rw [pairs]
    refine List.Perm.map _ ((List.perm_ext_iff_of_nodup (Table.keys_distinct.of_map _) ?_).mpr ?_)
    · refine distinct.filterMap fun id other entry mine yours => ?_
      obtain ⟨_,_,rfl⟩ := Option.map_eq_some_iff.mp mine
      obtain ⟨_,_,same⟩ := Option.map_eq_some_iff.mp yours
      exact (congrArg Prod.fst same).symm
    · rintro ⟨id,row⟩
      rw [chosen id row,List.mem_filterMap]
      constructor
      · rintro ⟨named,found⟩
        exact ⟨id,named,by simp [found]⟩
      · rintro ⟨other,named,shown⟩
        obtain ⟨row',found,same⟩ := Option.map_eq_some_iff.mp shown
        cases same
        exact ⟨named,found⟩
  · obtain ⟨_,_,same | ⟨entry,listed,same⟩⟩ := cursor_spec (accountRows rows user) sinceRevision pushed
    · exact same
    · have lower := (cursor_spec (accountRows rows user) sinceRevision pushed).1
      exact Nat.le_antisymm (same ▸ behind entry listed) lower

end replay

section expiry
variable {user : Uuid} {now : Instant} {state : Rows HistoryFields × Nat} {entries : List (Uuid × Change HistoryFields Instant)}

theorem expireHistory_fresh (user : Uuid) (now : Instant) (state : Rows HistoryFields × Nat) :
    Unexpired (fun key => key.userId = user) (now - historyRetention) (expireHistory user now state).1 := by
  intro key row found mine live
  unfold expireHistory at found
  rcases expireRows_cases (expiredKeys_distinct (fun key => key.userId = user) (now - historyRetention) state.1) with
    ⟨kept,same⟩ | ⟨_,gone⟩ | ⟨old,n,_,_,_,_,moved⟩
  · rw [same] at found
    by_contra old
    exact kept (mem_expiredKeys.mpr ⟨row,found,mine,live,lt_of_not_ge old⟩)
  · rw [gone] at found
    cases found
  · rw [moved] at found
    cases Option.some.inj found
    cases live

-- A mark is a deletion with the stamp that was there, so what lost still loses.
theorem expireHistory_idle (idle : Idle user state.1 entries) : Idle user (expireHistory user now state).1 entries := by
  intro entry listed
  have loses := idle entry listed
  unfold expireHistory
  rcases expireRows_cases (expiredKeys_distinct (fun key => key.userId = user) (now - historyRetention) state.1) with
    ⟨_,same⟩ | ⟨absent,gone⟩ | ⟨old,n,_,was,_,_,moved⟩
  · rw [same]
    exact loses
  · rw [gone]
    rwa [absent] at loses
  · rw [moved]
    rw [was] at loses
    cases change : entry.2 with
    | upsert fields updatedAt =>
      rw [change] at loses
      exact loses
    | delete updatedAt => rfl

end expiry

theorem SyncRequest.favouriteEntries_names (request : SyncRequest) :
    request.favouriteEntries.map Prod.fst = request.favouriteRecordIds := by
  simp [SyncRequest.favouriteEntries,CollectionChanges.entries,SyncRequest.favouriteRecordIds,Function.comp_def]

theorem SyncRequest.historyEntries_names (request : SyncRequest) :
    request.historyEntries.map Prod.fst = request.historyRecordIds := by
  simp [SyncRequest.historyEntries,CollectionChanges.entries,SyncRequest.historyRecordIds,Function.comp_def]

namespace InMemoryPersonalDataStore
variable {s : InMemoryPersonalDataStore} {now : Instant} {user : Uuid} {request : SyncRequest}

-- A store that a batch no longer moves.
structure Settled (s : InMemoryPersonalDataStore) (now : Instant) (user : Uuid) (request : SyncRequest) : Prop where
  valid : request.validate now = .ok ()
  favourites : Idle user s.favourites request.favouriteEntries
  history : Idle user s.history request.historyEntries
  fresh : Unexpired (fun key => key.userId = user) (now - historyRetention) s.history
  saved : liveCount s.favourites user ≤ maxFavouriteRecords
  played : liveCount s.history user ≤ maxHistoryRecords

theorem sync_settled {s' : InMemoryPersonalDataStore} {outcome : SyncOutcome}
    (accepted : s.synchronize now user request = (.ok outcome,s')) :
    s'.Settled now user request ∧ outcome = s'.read user request := by
  obtain ⟨valid,saved,favourites,history,played,answered⟩ := sync_ok accepted
  obtain ⟨once,each,_⟩ := validate_ok valid
  have rows : s'.history = _ := congrArg Prod.fst history
  refine ⟨⟨valid,?_,?_,?_,favourites ▸ saved,played⟩,answered.symm⟩
  · rw [favourites,pushFavourites_place]
    exact placeAll_spent (request.favouriteEntries_names ▸ once)
  · rw [rows]
    refine expireHistory_idle ?_
    rw [pushHistory_place]
    exact placeAll_spent (request.historyEntries_names ▸ each)
  · rw [rows]
    exact expireHistory_fresh user now _

theorem Settled.sync (settled : s.Settled now user request) :
    s.synchronize now user request = (.ok (s.read user request),s) := by
  obtain ⟨valid,favourites,history,fresh,saved,played⟩ := settled
  have first : s.pushFavourites user request = (s.favourites,s.revision) := by
    rw [pushFavourites_place]
    exact placeAll_still favourites
  have second : expireHistory user now (s.pushHistory s.revision user request) = (s.history,s.revision) := by
    have still : s.pushHistory s.revision user request = (s.history,s.revision) := by
      rw [pushHistory_place]
      exact placeAll_still history
    rw [still]
    exact expireHistory_unexpired fresh
  unfold synchronize
  simp only [valid,first,second,Nat.not_lt_of_le saved,Nat.not_lt_of_le played,if_false]

end InMemoryPersonalDataStore

-- An accepted request that comes again at the same time moves nothing and is
-- answered alike; with the cursor it was given, it is told of its own records.
theorem replay_idempotent {s s' : InMemoryPersonalDataStore} {now : Instant} {user : Uuid} {request : SyncRequest}
    {outcome : SyncOutcome} (accepted : s.synchronize now user request = (.ok outcome,s')) :
    s'.synchronize now user request = (.ok outcome,s') ∧
    ∃ told, s'.synchronize now user {request with sinceRevision := outcome.serverRevision} = (.ok told,s') ∧
      told.serverRevision = outcome.serverRevision ∧
      Echoes s'.favourites user request.favouriteRecordIds told.favourites ∧
      Echoes s'.history user request.historyRecordIds told.history := by
  obtain ⟨settled,rfl⟩ := InMemoryPersonalDataStore.sync_settled accepted
  refine ⟨settled.sync,_,InMemoryPersonalDataStore.Settled.sync ?_,?_⟩
  · exact ⟨settled.valid,settled.favourites,settled.history,settled.fresh,settled.saved,settled.played⟩
  have saved := cursor_spec (accountRows s'.favourites user) request.sinceRevision request.favouriteRecordIds
  have played := cursor_spec (accountRows s'.history user) request.sinceRevision request.historyRecordIds
  obtain ⟨once,each,_⟩ := validate_ok settled.valid
  have favourites := @delta_echoes _ user s'.favourites request.favouriteRecordIds (s'.read user request).serverRevision
    (fun entry listed => (saved.2.1 entry listed).trans (Nat.le_max_left _ _)) once
    (request.favouriteEntries_names ▸ settled.favourites.present)
  have history := @delta_echoes _ user s'.history request.historyRecordIds (s'.read user request).serverRevision
    (fun entry listed => (played.2.1 entry listed).trans (Nat.le_max_right _ _)) each
    (request.historyEntries_names ▸ settled.history.present)
  refine ⟨?_,favourites.1,history.1⟩
  exact (congrArg₂ max favourites.2 history.2).trans (Nat.max_self _)

-- A record that the server does not know is deleted, and a play of long ago
-- expires as it comes.
def staleRequest : SyncRequest where
  favourites := {deletes := [⟨1,second 1⟩]}
  history := {upserts := [⟨2,"station",⟨"",-days 100⟩,⟨"",-days 100⟩,none,none,none,second 1⟩]}

theorem replay_idempotent_stale : ∃ outcome s',
    (⟨∅,∅,0⟩ : InMemoryPersonalDataStore).synchronize 0 1 staleRequest = (.ok outcome,s') ∧
    s'.synchronize 0 1 staleRequest = (.ok outcome,s') ∧
    ∃ told, s'.synchronize 0 1 {staleRequest with sinceRevision := outcome.serverRevision} = (.ok told,s') ∧
      told.serverRevision = outcome.serverRevision ∧
      Echoes s'.favourites 1 [1] told.favourites ∧ Echoes s'.history 1 [2] told.history := by
  have passed : ((⟨∅,∅,0⟩ : InMemoryPersonalDataStore).synchronize 0 1 staleRequest).1.isOk = true := by decide
  cases ran : (⟨∅,∅,0⟩ : InMemoryPersonalDataStore).synchronize 0 1 staleRequest with
  | mk answer s' =>
    rw [ran] at passed
    cases answer with
    | error error => cases passed
    | ok outcome => exact ⟨outcome,s',rfl,replay_idempotent ran⟩

end PersonalData
