import RockServer.SyncInterleaving

namespace PersonalData
open DeviceControl (Uuid Instant)
open LastWriter (Version Change applyAll)

-- Every live row was live before.
def Dwindles {K F : Type} [LinearOrder K] (rows rows' : Table K (Record F)) : Prop :=
  ∀ (key : K) row', rows'[key]? = some row' → row'.deletedAt = none → ∃ row, rows[key]? = some row ∧ row.deletedAt = none

section dwindles
variable {K F : Type} [LinearOrder K] {rows rows' rows'' : Table K (Record F)} {key : K}

theorem Dwindles.refl : Dwindles rows rows := fun _ row found live => ⟨row,found,live⟩

theorem Dwindles.trans (first : Dwindles rows rows') (second : Dwindles rows' rows'') : Dwindles rows rows'' := by
  intro key row found live
  obtain ⟨middle,there,still⟩ := second key row found live
  exact first key middle there still

theorem dwindles_filter {keep : K → Record F → Bool} : Dwindles rows (rows.filter keep) :=
  fun _ row found live => ⟨row,(Table.get_filter.mp found).1,live⟩

theorem dwindles_erase : Dwindles rows (rows.erase key) :=
  fun _ row found live => ⟨row,(Table.get_erase_some found).2,live⟩

theorem dwindles_mark {row : Record F} (marked : row.deletedAt ≠ none) : Dwindles rows (rows.insert key row) := by
  intro other found present live
  rw [Table.get_insert] at present
  split at present
  · cases Option.some.inj present
    exact absurd live marked
  · exact ⟨found,present,live⟩

theorem Dwindles.liveCount {rows rows' : Rows F} (dwindles : Dwindles rows rows') (user : Uuid) :
    PersonalData.liveCount rows' user ≤ PersonalData.liveCount rows user := by
  refine Table.count_le fun key row found chosen => ?_
  simp only [Bool.and_eq_true,decide_eq_true_eq,Option.isNone_iff_eq_none] at chosen ⊢
  obtain ⟨old,there,live⟩ := dwindles key row found chosen.2
  exact ⟨old,there,chosen.1,live⟩

theorem Dwindles.liveRecords {rows rows' : Records F} (dwindles : Dwindles rows rows') :
    PersonalData.liveRecords rows' ≤ PersonalData.liveRecords rows := by
  refine Table.count_le fun key row found chosen => ?_
  simp only [Option.isNone_iff_eq_none] at chosen ⊢
  exact dwindles key row found chosen

theorem liveCount_same {rows rows' : Rows F} {user : Uuid} (same : ∀ key : Key, key.userId = user → rows'[key]? = rows[key]?) :
    liveCount rows' user = liveCount rows user := by
  refine Nat.le_antisymm (Table.count_le fun key row found chosen => ?_) (Table.count_le fun key row found chosen => ?_)
  · simp only [Bool.and_eq_true,decide_eq_true_eq] at chosen
    exact ⟨row,(same key chosen.1).symm.trans found,by simp [chosen]⟩
  · simp only [Bool.and_eq_true,decide_eq_true_eq] at chosen
    exact ⟨row,(same key chosen.1).trans found,by simp [chosen]⟩

theorem dwindles_expire {rows : Rows HistoryFields} {n : Nat} {owns : Key → Bool} {cutoff : Instant} :
    Dwindles rows (expireRows expireMark (rows,n) (expiredKeys owns cutoff rows)).1 := by
  intro key row found live
  rcases @expireRows_cases HistoryFields (rows,n) key expireMark _ (expiredKeys_distinct owns cutoff rows) with
    ⟨_,same⟩ | ⟨_,gone⟩ | ⟨old,revision,_,_,_,_,moved⟩
  · exact ⟨row,same.symm.trans found,live⟩
  · cases gone.symm.trans found
  · cases moved.symm.trans found
    cases live

end dwindles

-- The rows of an account that a batch would leave it: those it does not name,
-- and what each record it names comes to, as far as they are kept.
def settled {F : Type} (bare : Instant → F) (kept : Version F Instant → Bool) (user : Uuid) (rows : Rows F)
    (entries : List (Uuid × Change F Instant)) : Nat :=
  let named := (entries.map fun entry => (⟨user,entry.1⟩ : Key)).dedup
  Table.count (fun key row => decide (key ∉ named) && (decide (key.userId = user) && kept row.toVersion)) rows +
  (named.filter fun key => (applyAll bare ((rows[key]?).map Record.toVersion) (changesOn key.recordId entries)).any kept).length

theorem placeAll_unnamed {F : Type} {burns : Bool} {bare : Instant → F} {user : Uuid} {state : Rows F × Nat}
    {entries : List (Uuid × Change F Instant)} {key : Key}
    (outside : key ∉ entries.map fun entry => (⟨user,entry.1⟩ : Key)) :
    (placeAll burns bare user state entries).1[key]? = state.1[key]? := by
  rcases @placeAll_cases F burns bare user state key entries with same | ⟨row,change,_,mine,listed,_⟩
  · exact same
  · refine absurd (List.mem_map.mpr ⟨_,listed,?_⟩) outside
    rw [← mine]

theorem placeAll_settled {F : Type} {burns : Bool} {bare : Instant → F} {kept : Version F Instant → Bool} {user : Uuid}
    {state : Rows F × Nat} {entries : List (Uuid × Change F Instant)} :
    Table.count (fun key row => decide (key.userId = user) && kept row.toVersion) (placeAll burns bare user state entries).1 =
      settled bare kept user state.1 entries := by
  have split := @Table.count_named Key (Record F) _ state.1 (placeAll burns bare user state entries).1
    (fun key row => decide (key.userId = user) && kept row.toVersion) (fun key row => decide (key.userId = user) && kept row.toVersion)
    (entries.map fun entry => (⟨user,entry.1⟩ : Key)).dedup _ (List.nodup_dedup _) fun key outside => by
      rw [placeAll_unnamed fun member => outside (List.mem_dedup.mpr member)]
  rw [split,settled]
  refine congrArg (fun names : List Key => _ + names.length) (List.filter_congr fun key member => ?_)
  obtain ⟨entry,_,rfl⟩ := List.mem_map.mp (List.mem_dedup.mp member)
  rw [← @placeAll_version F burns bare user state entries entry.1]
  cases (placeAll burns bare user state entries).1[(⟨user,entry.1⟩ : Key)]? <;> simp

-- Expiry leaves the live rows that started within the retention.
def unexpired (cutoff : Instant) (version : Version HistoryFields Instant) : Bool :=
  version.deletedAt.isNone && cutoff ≤ version.fields.startedAt

theorem expire_live {user : Uuid} {cutoff : Instant} {state : Rows HistoryFields × Nat} :
    liveCount (expireRows expireMark state (expiredKeys (fun key => key.userId = user) cutoff state.1)).1 user =
      Table.count (fun key row => decide (key.userId = user) && unexpired cutoff row.toVersion) state.1 := by
  unfold liveCount
  rw [Table.count_named (t:=state.1) (q:=fun key row => decide (key.userId = user) && unexpired cutoff row.toVersion) List.nodup_nil]
  · simp
  intro key _
  rcases @expireRows_cases HistoryFields state key expireMark _ (expiredKeys_distinct (fun key => key.userId = user) cutoff state.1) with
    ⟨outside,same⟩ | ⟨absent,gone⟩ | ⟨old,revision,member,was,_,_,moved⟩
  · rw [same]
    cases found : state.1[key]? with
    | none => rfl
    | some row =>
      have young : key.userId = user → row.deletedAt = none → cutoff ≤ row.fields.startedAt := fun mine live =>
        not_lt.mp fun old => outside (mem_expiredKeys.mpr ⟨row,found,decide_eq_true mine,live,old⟩)
      by_cases mine : key.userId = user
      · cases live : row.deletedAt with
        | none => simp [unexpired,live,young mine live]
        | some deleted => simp [unexpired,live]
      · simp [mine]
  · rw [absent,gone]
    rfl
  · obtain ⟨row,found,_,_,early⟩ := mem_expiredKeys.mp member
    cases was.symm.trans found
    have late : ¬cutoff ≤ old.fields.startedAt := not_le_of_gt early
    rw [moved,was]
    simp [expireMark,unexpired,late]

def live {F : Type} (version : Version F Instant) : Bool := version.deletedAt.isNone

-- The in-memory store: what is written stays, so the rows before the section and
-- the request have to settle within the limit.
def Memory.Bounded (m : Memory) : Prop :=
  ∀ user, liveCount m.store.favourites user ≤ maxFavouriteRecords ∧ liveCount m.store.history user ≤ maxHistoryRecords

def Memory.fits (m : Memory) : MemoryAction → Bool
  | .favourites call => !(call.request.validate call.now).isOk ||
      settled bareFavourite live call.user m.store.favourites call.request.favouriteEntries ≤ maxFavouriteRecords
  | .history i => (m.waiting[i]?).all fun call => settled bareHistory (unexpired (call.now - historyRetention)) call.user
      m.store.history call.request.historyEntries ≤ maxHistoryRecords
  | .sweepHistory _ | .sweepFavourites _ => true

theorem favourites_settled {call : MemoryCall} {s : InMemoryPersonalDataStore} :
    liveCount (s.favouritesSection call).favourites call.user =
      settled bareFavourite live call.user s.favourites call.request.favouriteEntries := by
  change liveCount (s.pushFavourites call.user call.request).1 call.user = _
  rw [InMemoryPersonalDataStore.pushFavourites_place]
  exact @placeAll_settled FavouriteFields false bareFavourite live call.user _ _

theorem history_settled {call : MemoryCall} {s : InMemoryPersonalDataStore} :
    liveCount (s.historySection call).history call.user =
      settled bareHistory (unexpired (call.now - historyRetention)) call.user s.history call.request.historyEntries := by
  change liveCount (expireHistory call.user call.now (s.pushHistory s.revision call.user call.request)).1 call.user = _
  rw [expireHistory,expire_live,InMemoryPersonalDataStore.pushHistory_place]
  exact placeAll_settled

namespace Memory
variable {m m' : Memory} {action : MemoryAction} {call : MemoryCall}

theorem favourites_other {s : InMemoryPersonalDataStore} {user : Uuid} (other : user ≠ call.user) :
    liveCount (s.favouritesSection call).favourites user = liveCount s.favourites user := by
  refine liveCount_same fun key mine => ?_
  change (s.pushFavourites call.user call.request).1[key]? = _
  rw [InMemoryPersonalDataStore.pushFavourites_place]
  exact placeAll_other (mine ▸ other)

theorem history_other {s : InMemoryPersonalDataStore} {user : Uuid} (other : user ≠ call.user) :
    liveCount (s.historySection call).history user = liveCount s.history user := by
  refine liveCount_same fun key mine => ?_
  change (expireHistory call.user call.now (s.pushHistory s.revision call.user call.request)).1[key]? = _
  unfold expireHistory
  rw [expireRows_other,InMemoryPersonalDataStore.pushHistory_place]
  · exact placeAll_other (mine ▸ other)
  · intro listed
    obtain ⟨_,_,owned,_⟩ := mem_expiredKeys.mp listed
    exact other (mine ▸ of_decide_eq_true owned)

-- A section leaves the bounds in place exactly if what it settles on fits.
theorem bounded_step (bounded : m.Bounded) (taken : m.execute action = some m') : m'.Bounded ↔ m.fits action = true := by
  cases action with
  | favourites call =>
    simp only [execute] at taken
    cases valid : call.request.validate call.now with
    | error error =>
      simp only [valid] at taken
      cases taken
      exact iff_of_true bounded (by simp [fits,valid,Except.isOk,Except.toBool])
    | ok done =>
      simp only [valid] at taken
      cases taken
      simp only [fits,valid,Except.isOk,Except.toBool,Bool.not_true,Bool.false_or]
      rw [← favourites_settled,decide_eq_true_eq]
      constructor
      · exact fun after => (after call.user).1
      · intro fit user
        refine ⟨?_,(bounded user).2⟩
        by_cases mine : user = call.user
        · rw [mine]
          exact fit
        · exact Nat.le_trans (Nat.le_of_eq (favourites_other mine)) (bounded user).1
  | history i =>
    obtain ⟨call,found,made⟩ := Option.map_eq_some_iff.mp taken
    subst made
    simp only [fits,found,Option.all_some]
    rw [← history_settled,decide_eq_true_eq]
    constructor
    · exact fun after => (after call.user).2
    · intro fit user
      refine ⟨(bounded user).1,?_⟩
      by_cases mine : user = call.user
      · rw [mine]
        exact fit
      · exact Nat.le_trans (Nat.le_of_eq (history_other mine)) (bounded user).2
  | sweepHistory now =>
    cases taken
    refine iff_of_true (fun user => ⟨(bounded user).1,?_⟩) rfl
    exact Nat.le_trans ((dwindles_expire.trans dwindles_filter).liveCount user) (bounded user).2
  | sweepFavourites now =>
    cases taken
    refine iff_of_true (fun user => ⟨?_,(bounded user).2⟩) rfl
    exact Nat.le_trans (dwindles_filter.liveCount user) (bounded user).1

theorem start_bounded : Memory.start.Bounded := by
  intro user
  constructor
  · exact Nat.zero_le _
  · exact Nat.zero_le _

end Memory

end PersonalData
