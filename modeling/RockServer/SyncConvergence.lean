import Mathlib.Data.List.Pairwise
import RockServer.PersonalPostgres
import RockServer.Transition

namespace PersonalData
open DeviceControl (Uuid Instant)
open LastWriter (Version Change apply applyAll)

structure Call where
  now : Instant
  user : Uuid
  request : SyncRequest

-- One offered change of a collection.
inductive Pushed (U : Type) where
  | upsert (upsert : U)
  | delete (delete : RecordDelete)
deriving DecidableEq

def Pushed.deletes {U : Type} : Pushed U → Bool
  | .upsert _ => false
  | .delete _ => true

def CollectionChanges.pushedOn {U : Type} (recordId : U → Uuid) (id : Uuid) (changes : CollectionChanges U) :
    List (Pushed U) :=
  (changes.upserts.filter fun upsert => recordId upsert = id).map .upsert ++
  (changes.deletes.filter fun delete => delete.recordId = id).map .delete

-- One collection of one store, seen from outside: accepted calls, rows, the
-- changes a call offers for a record, what each of them means, and the fields
-- that a call's retention leaves alone.
structure Lane (S U F : Type) where
  accepts : S → Call → S → Prop
  rows : S → Rows F
  pushed : Uuid → Call → List (Pushed U)
  change : Pushed U → Change F Instant
  retains : Call → F → Prop

-- Changes on one record with pairwise distinct stamps, and the newest of them.
structure Contest {U F : Type} (change : Pushed U → Change F Instant) (admits : Pushed U → Prop) where
  items : List (Pushed U)
  winner : Pushed U
  member : winner ∈ items
  admitted : ∀ item ∈ items, admits item
  newest : ∀ item ∈ items, (change item).stamp ≤ (change winner).stamp
  distinct : items.Pairwise fun a b => (change a).stamp ≠ (change b).stamp

-- The newest change is an upsert, or the only deletion.
def Contest.Decided {U F : Type} {change : Pushed U → Change F Instant} {admits : Pushed U → Prop}
    (contest : Contest change admits) : Prop :=
  contest.winner.deletes = true → ∀ item ∈ contest.items, item ≠ contest.winner → item.deletes = false

section contest
variable {U F : Type} {change : Pushed U → Change F Instant} {admits : Pushed U → Prop}

theorem Contest.older (contest : Contest change admits) {item : Pushed U} (inside : item ∈ contest.items)
    (different : item ≠ contest.winner) : (change item).stamp < (change contest.winner).stamp := by
  refine lt_of_le_of_ne (contest.newest item inside) ?_
  have symmetric : Std.Symm fun a b : Pushed U => (change a).stamp ≠ (change b).stamp :=
    ⟨fun _ _ apart => apart.symm⟩
  exact contest.distinct.forall inside contest.member different

theorem Contest.top (contest : Contest change admits) : ∀ entry ∈ contest.items.map change,
    entry ≠ change contest.winner → entry.stamp < (change contest.winner).stamp := by
  intro entry listed different
  obtain ⟨item,inside,rfl⟩ := List.mem_map.mp listed
  exact contest.older inside fun same => different (by rw [same])

end contest

instance {U F : Type} [DecidableEq U] {change : Pushed U → Change F Instant} {admits : Pushed U → Prop}
    (contest : Contest change admits) : Decidable contest.Decided := inferInstanceAs (Decidable (_ → _))

namespace Lane
variable {S U F : Type} (lane : Lane S U F)

def pushedBy (user id : Uuid) (call : Call) : List (Pushed U) :=
  if call.user = user then lane.pushed id call else []

def version (s : S) (user id : Uuid) : Option (Version F Instant) :=
  ((lane.rows s)[(⟨user,id⟩ : Key)]?).map Record.toVersion

def Within (items : List (Pushed U)) (call : Call) : Prop :=
  ∀ item ∈ items, ∀ fields updatedAt, lane.change item = .upsert fields updatedAt → lane.retains call fields

-- Whatever accepted calls carry the items of a set to a new record, in any
-- order and with anything else beside them, the newest item has the last word.
def Converges (user id : Uuid) (items : List (Pushed U)) (winner : Pushed U) : Prop :=
  ∀ origin calls final, lane.version origin user id = none →
    Transition.Runs lane.accepts origin calls final → (∀ call ∈ calls, lane.Within items call) →
    (calls.flatMap (lane.pushedBy user id)).Perm items →
    ∃ version, lane.version final user id = some version ∧ (lane.change winner).Settles version

variable {lane} {user id : Uuid} {items : List (Pushed U)} {bare : Instant → F}

-- From one accepted call to a run of them.
theorem sound_run {origin final : S} {calls : List Call}
    (law : ∀ s call s', lane.accepts s call s' → (∀ item ∈ lane.pushedBy user id call, item ∈ items) →
      (∀ version ∈ applyAll bare (lane.version s user id) ((lane.pushedBy user id call).map lane.change),
        version.deletedAt = none → lane.retains call version.fields) →
      lane.version s' user id =
        applyAll bare (lane.version s user id) ((lane.pushedBy user id call).map lane.change))
    (absent : lane.version origin user id = none) (path : Transition.Runs lane.accepts origin calls final)
    (inWindow : ∀ call ∈ calls, lane.Within items call)
    (carried : ∀ item ∈ calls.flatMap (lane.pushedBy user id), item ∈ items) :
    lane.version final user id = applyAll bare none ((calls.flatMap (lane.pushedBy user id)).map lane.change) := by
  induction path with
  | nil => exact absent
  | @snoc earlier middle call after before taken ih =>
    rw [List.flatMap_append] at carried ⊢
    have sofar := ih (fun call member => inWindow call (List.mem_append_left _ member))
      (fun item member => carried item (List.mem_append_left _ member))
    have now : ∀ item ∈ lane.pushedBy user id call, item ∈ items :=
      fun item member => carried item (List.mem_append_right _ (by simpa using member))
    have joined : applyAll bare (lane.version middle user id) ((lane.pushedBy user id call).map lane.change) =
        applyAll bare none ((earlier.flatMap (lane.pushedBy user id) ++
          lane.pushedBy user id call).map lane.change) := by
      rw [List.map_append,LastWriter.applyAll_append,← sofar]
    rw [law middle call after taken now ?_,joined]
    · simp
    · rw [joined]
      refine LastWriter.applyAll_fields ?_ (by simp)
      intro fields updatedAt listed
      obtain ⟨item,inside,same⟩ := List.mem_map.mp listed
      refine inWindow call (by simp) item ?_ fields updatedAt same
      rcases List.mem_append.mp inside with old | new
      · exact carried item (List.mem_append_left _ old)
      · exact now item new

-- A set of items can be pushed in any order, one call for each.
theorem complete_run {held : S → Prop} {single : Pushed U → Call} {s : S}
    (next : ∀ s, held s → ∀ item ∈ items, ∃ s', lane.accepts s (single item) s' ∧ held s')
    (start : held s) {order : List (Pushed U)} (inside : ∀ item ∈ order, item ∈ items) :
    ∃ final, Transition.Runs lane.accepts s (order.map single) final := by
  induction order generalizing s with
  | nil => exact ⟨s,.nil⟩
  | cons item rest ih =>
    obtain ⟨s',taken,still⟩ := next s start item (inside item List.mem_cons_self)
    obtain ⟨final,path⟩ := ih still fun other member => inside other (List.mem_cons_of_mem _ member)
    exact ⟨final,.cons taken path⟩

-- Such calls carry the order itself.
theorem singles_carry {single : Pushed U → Call} {order : List (Pushed U)}
    (alone : ∀ item ∈ order, lane.pushedBy user id (single item) = [item]) :
    (order.map single).flatMap (lane.pushedBy user id) = order := by
  rw [List.flatMap_map]
  calc order.flatMap (fun item => lane.pushedBy user id (single item))
    _ = order.flatMap fun item => [item] := List.flatMap_congr alone
    _ = order := List.flatMap_singleton' order

-- Convergence decided for a lane whose calls act as a register and that takes
-- every item alone.
theorem converges_iff {admits : Pushed U → Prop} (contest : Contest lane.change admits) (bare : Instant → F)
    (law : ∀ s call s', lane.accepts s call s' → (∀ item ∈ lane.pushedBy user id call, item ∈ contest.items) →
      (∀ version ∈ applyAll bare (lane.version s user id) ((lane.pushedBy user id call).map lane.change),
        version.deletedAt = none → lane.retains call version.fields) →
      lane.version s' user id =
        applyAll bare (lane.version s user id) ((lane.pushedBy user id call).map lane.change))
    (held : S → Prop) (single : Pushed U → Call) (origin : S)
    (next : ∀ s, held s → ∀ item ∈ contest.items, ∃ s', lane.accepts s (single item) s' ∧ held s')
    (start : held origin) (absent : lane.version origin user id = none)
    (alone : ∀ item ∈ contest.items, lane.pushedBy user id (single item) = [item])
    (inWindow : ∀ item ∈ contest.items, lane.Within contest.items (single item))
    (marks : ∀ item, (lane.change item).deletes = item.deletes) :
    lane.Converges user id contest.items contest.winner ↔ contest.Decided := by
  have apart : (contest.items.map lane.change).Pairwise fun a b => a.stamp ≠ b.stamp :=
    List.pairwise_map.mpr contest.distinct
  have among : lane.change contest.winner ∈ contest.items.map lane.change := List.mem_map_of_mem contest.member
  constructor
  · intro converges deleting item inside different
    cases deletes : item.deletes with
    | false => rfl
    | true =>
      exfalso
      have below := contest.older inside different
      obtain ⟨rest,perm,behind⟩ := LastWriter.worst_order among contest.top apart bare (List.mem_map_of_mem inside)
        (fun same => by rw [same] at below; exact lt_irrefl _ below)
        ((marks contest.winner).trans deleting) ((marks item).trans deletes)
      -- The bad order of changes is an order of the items themselves.
      have lifted : Relation.Comp (· = List.map lane.change ·) List.Perm
          (lane.change item :: lane.change contest.winner :: rest) contest.items := by
        rw [List.eq_map_comp_perm]
        exact perm
      obtain ⟨order,same,shuffled⟩ := lifted
      have listed : ∀ other ∈ order, other ∈ contest.items := fun other member => shuffled.mem_iff.mp member
      obtain ⟨final,path⟩ := complete_run next start listed
      have carried := singles_carry fun other member => alone other (listed other member)
      have within : ∀ call ∈ order.map single, lane.Within contest.items call := by
        intro call member
        obtain ⟨other,inside,rfl⟩ := List.mem_map.mp member
        exact inWindow other (listed other inside)
      obtain ⟨version,stored,settles⟩ := converges origin _ final absent path within (by rw [carried]; exact shuffled)
      rw [sound_run law absent path within (by rw [carried]; exact listed),carried,← same] at stored
      have stuck := behind version stored
      rw [settles.stamp] at stuck
      exact lt_irrefl _ stuck
  · intro only origin calls final absent path within shuffled
    rw [sound_run law absent path within fun item member => shuffled.mem_iff.mp member]
    refine (LastWriter.converges_iff among contest.top apart).mpr ?_ _ (shuffled.map lane.change)
    intro deleting change listed different
    obtain ⟨item,inside,rfl⟩ := List.mem_map.mp listed
    rw [marks]
    exact only ((marks contest.winner).symm.trans deleting) item inside fun same => different (by rw [same])

end Lane

def favouriteChange : Pushed FavouriteUpsert → Change FavouriteFields Instant
  | .upsert upsert => .upsert upsert.fields upsert.updatedAt.instant
  | .delete delete => .delete delete.updatedAt.instant

def historyChange : Pushed HistoryUpsert → Change HistoryFields Instant
  | .upsert upsert => .upsert upsert.fields upsert.updatedAt.instant
  | .delete delete => .delete delete.updatedAt.instant

def memoryFavourites : Lane InMemoryPersonalDataStore FavouriteUpsert FavouriteFields where
  accepts s call s' := ∃ outcome, s.synchronize call.now call.user call.request = (.ok outcome,s')
  rows s := s.favourites
  pushed id call := call.request.favourites.pushedOn (·.recordId) id
  change := favouriteChange
  retains _ _ := True

def memoryHistory : Lane InMemoryPersonalDataStore HistoryUpsert HistoryFields where
  accepts s call s' := ∃ outcome, s.synchronize call.now call.user call.request = (.ok outcome,s')
  rows s := s.history
  pushed id call := call.request.history.pushedOn (·.recordId) id
  change := historyChange
  retains call fields := call.now - historyRetention ≤ fields.startedAt

def postgresFavourites (pg : Postgres) : Lane PostgresPersonalDataStore FavouriteUpsert FavouriteFields where
  accepts s call s' := ∃ outcome, s.synchronize pg call.now call.user call.request = (.ok outcome,s')
  rows s := s.favourites
  pushed id call := call.request.favourites.pushedOn (·.recordId) id
  change := favouriteChange
  retains _ _ := True

def postgresHistory (pg : Postgres) : Lane PostgresPersonalDataStore HistoryUpsert HistoryFields where
  accepts s call s' := ∃ outcome, s.synchronize pg call.now call.user call.request = (.ok outcome,s')
  rows s := s.history
  pushed id call := call.request.history.pushedOn (·.recordId) id
  change := historyChange
  retains call fields := call.now - historyRetention ≤ fields.startedAt

variable {user id : Uuid} {call : Call}

theorem changesOn_favourites (request : SyncRequest) (id : Uuid) :
    changesOn id request.favouriteEntries = (request.favourites.pushedOn (·.recordId) id).map favouriteChange := by
  simp [changesOn,SyncRequest.favouriteEntries,CollectionChanges.entries,CollectionChanges.pushedOn,List.filter_map,
    Function.comp_def,favouriteChange]

theorem changesOn_history (request : SyncRequest) (id : Uuid) :
    changesOn id request.historyEntries = (request.history.pushedOn (·.recordId) id).map historyChange := by
  simp [changesOn,SyncRequest.historyEntries,CollectionChanges.entries,CollectionChanges.pushedOn,List.filter_map,
    Function.comp_def,historyChange]

-- A batch of another account passes a record by; one's own acts as a register.
theorem placeAll_lane {F : Type} (burns : Bool) (bare : Instant → F) (owner : Uuid) (state : Rows F × Nat)
    (entries : List (Uuid × Change F Instant)) :
    ((placeAll burns bare owner state entries).1[(⟨user,id⟩ : Key)]?).map Record.toVersion =
    applyAll bare ((state.1[(⟨user,id⟩ : Key)]?).map Record.toVersion)
      (if owner = user then changesOn id entries else []) := by
  by_cases mine : owner = user
  · subst mine
    rw [if_pos rfl,placeAll_version]
  · rw [if_neg mine,placeAll_other fun same => mine same.symm]
    rfl

theorem memoryFavourites_law {s s' : InMemoryPersonalDataStore} (taken : memoryFavourites.accepts s call s') :
    memoryFavourites.version s' user id = applyAll bareFavourite (memoryFavourites.version s user id)
      ((memoryFavourites.pushedBy user id call).map favouriteChange) := by
  obtain ⟨outcome,ran⟩ := taken
  obtain ⟨_,_,same,_⟩ := InMemoryPersonalDataStore.sync_ok ran
  simp only [Lane.version,memoryFavourites,same,InMemoryPersonalDataStore.pushFavourites_place,placeAll_lane,
    Lane.pushedBy,apply_ite (List.map favouriteChange),changesOn_favourites,List.map_nil]

-- Expiry leaves a record alone that is not live past the cutoff.
theorem expireRows_fresh {mark : HistoryRecord → HistoryRecord} {state : Rows HistoryFields × Nat} {keys : List Key}
    {owns : Key → Bool} {cutoff : Instant} (listed : ∀ key ∈ keys, key ∈ expiredKeys owns cutoff state.1)
    (fresh : ∀ version ∈ (state.1[(⟨user,id⟩ : Key)]?).map Record.toVersion,
      version.deletedAt = none → cutoff ≤ version.fields.startedAt) :
    (expireRows mark state keys).1[(⟨user,id⟩ : Key)]? = state.1[(⟨user,id⟩ : Key)]? := by
  refine expireRows_other fun member => ?_
  obtain ⟨row,found,_,live,old⟩ := mem_expiredKeys.mp (listed _ member)
  exact absurd old (not_lt_of_ge (fresh row.toVersion (by simp [found]) live))

theorem memoryHistory_law {s s' : InMemoryPersonalDataStore} (taken : memoryHistory.accepts s call s')
    (fresh : ∀ version ∈ applyAll bareHistory (memoryHistory.version s user id)
        ((memoryHistory.pushedBy user id call).map historyChange),
      version.deletedAt = none → call.now - historyRetention ≤ version.fields.startedAt) :
    memoryHistory.version s' user id = applyAll bareHistory (memoryHistory.version s user id)
      ((memoryHistory.pushedBy user id call).map historyChange) := by
  obtain ⟨outcome,ran⟩ := taken
  obtain ⟨_,_,_,expired,_⟩ := InMemoryPersonalDataStore.sync_ok ran
  have placed : ((s.pushHistory (s.pushFavourites call.user call.request).2 call.user
      call.request).1[(⟨user,id⟩ : Key)]?).map Record.toVersion = applyAll bareHistory
        (memoryHistory.version s user id) ((memoryHistory.pushedBy user id call).map historyChange) := by
    simp only [Lane.version,memoryHistory,InMemoryPersonalDataStore.pushHistory_place,placeAll_lane,
      Lane.pushedBy,apply_ite (List.map historyChange),changesOn_history,List.map_nil]
  have history : s'.history = (expireHistory call.user call.now (s.pushHistory
      (s.pushFavourites call.user call.request).2 call.user call.request)).1 := congrArg Prod.fst expired
  rw [← placed] at fresh ⊢
  simp only [Lane.version,memoryHistory,history]
  unfold expireHistory
  rw [expireRows_fresh (fun _ member => member) fresh]

-- The database reads the changes on a record as they were offered, when its
-- casts keep them.
def Pushed.Keeps {U : Type} (pg : Postgres) (keeps : U → Prop) : Pushed U → Prop
  | .upsert offered => keeps offered
  | .delete offered => pg.Keeps offered.updatedAt

section casts
variable {pg : Postgres} {request : SyncRequest}

theorem mem_pushedOn {U : Type} {changes : CollectionChanges U} {name : U → Uuid} :
    (∀ upsert ∈ changes.upserts, name upsert = id → .upsert upsert ∈ changes.pushedOn name id) ∧
    ∀ delete ∈ changes.deletes, delete.recordId = id → .delete delete ∈ changes.pushedOn name id := by
  refine ⟨fun upsert listed named => ?_,fun delete listed named => ?_⟩
  · exact List.mem_append_left _ (List.mem_map_of_mem (List.mem_filter.mpr ⟨listed,by simpa using named⟩))
  · exact List.mem_append_right _ (List.mem_map_of_mem (List.mem_filter.mpr ⟨listed,by simpa using named⟩))

theorem changesOn_pushed {U F : Type} {changes : CollectionChanges U} {name : U → Uuid} {change : Pushed U → Change F Instant}
    {cast : U → Option (Uuid × Change F Instant)} {upserts deletes : List (Uuid × Change F Instant)}
    (castUpserts : changes.upserts.mapM cast = some upserts)
    (castDeletes : changes.deletes.mapM pg.deleteEntry = some deletes)
    (names : ∀ upsert entry, cast upsert = some entry → entry.1 = name upsert)
    (exact_ : ∀ upsert ∈ changes.upserts, name upsert = id → cast upsert = some (name upsert,change (.upsert upsert)))
    (marks : ∀ delete, change (.delete delete) = .delete delete.updatedAt.instant)
    (kept : ∀ delete ∈ changes.deletes, delete.recordId = id → pg.Keeps delete.updatedAt) :
    changesOn id (upserts ++ deletes) = (changes.pushedOn name id).map change := by
  have left : changesOn id upserts = (changes.upserts.filter fun upsert => name upsert = id).map
      fun upsert => change (.upsert upsert) := changesOn_cast castUpserts names exact_
  have right : changesOn id deletes = (changes.deletes.filter fun delete => delete.recordId = id).map
      fun delete => change (.delete delete) := by
    refine changesOn_cast castDeletes ?_ ?_
    · exact fun delete entry found => (Postgres.deleteEntry_stamp found).1
    · intro delete listed named
      rw [marks]
      exact Postgres.deleteEntry_kept (kept delete listed named)
  have both : changesOn id (upserts ++ deletes) = changesOn id upserts ++ changesOn id deletes := by simp [changesOn]
  rw [both,left,right]
  simp [CollectionChanges.pushedOn,Function.comp_def]

theorem castFavourites {entries : List (Uuid × Change FavouriteFields Instant)}
    (casts : pg.favouriteEntries request = some entries)
    (kept : ∀ item ∈ request.favourites.pushedOn (·.recordId) id, item.Keeps pg pg.KeepsFavourite) :
    changesOn id entries = (request.favourites.pushedOn (·.recordId) id).map favouriteChange := by
  obtain ⟨upserts,castUpserts,deletes,castDeletes,rfl⟩ := cast_parts casts
  refine changesOn_pushed castUpserts castDeletes ?_ ?_ (fun _ => rfl) ?_
  · exact fun upsert entry found => (Postgres.favouriteUpsertEntry_stamp found).1
  · exact fun upsert listed named => Postgres.favouriteUpsertEntry_kept (kept _ (mem_pushedOn.1 upsert listed named))
  · exact fun delete listed named => kept _ (mem_pushedOn.2 delete listed named)

theorem castHistory {entries : List (Uuid × Change HistoryFields Instant)} {now : Instant}
    (valid : request.validate now = .ok ()) (casts : pg.historyEntries request = some entries)
    (kept : ∀ item ∈ request.history.pushedOn (·.recordId) id, item.Keeps pg pg.KeepsHistory) :
    changesOn id entries = (request.history.pushedOn (·.recordId) id).map historyChange := by
  obtain ⟨upserts,castUpserts,deletes,castDeletes,rfl⟩ := cast_parts casts
  obtain ⟨_,_,_,passed⟩ := validate_ok valid
  refine changesOn_pushed castUpserts castDeletes ?_ ?_ (fun _ => rfl) ?_
  · exact fun upsert entry found => (Postgres.historyUpsertEntry_stamp found).1
  · exact fun upsert listed named =>
      Postgres.historyUpsertEntry_kept (kept _ (mem_pushedOn.1 upsert listed named)) (passed upsert listed)
  · exact fun delete listed named => kept _ (mem_pushedOn.2 delete listed named)

theorem postgresFavourites_law {s s' : PostgresPersonalDataStore} (taken : (postgresFavourites pg).accepts s call s')
    (kept : ∀ item ∈ (postgresFavourites pg).pushedBy user id call, item.Keeps pg pg.KeepsFavourite) :
    (postgresFavourites pg).version s' user id = applyAll bareFavourite ((postgresFavourites pg).version s user id)
      (((postgresFavourites pg).pushedBy user id call).map favouriteChange) := by
  obtain ⟨outcome,ran⟩ := taken
  obtain ⟨_,pushed,_⟩ := PostgresPersonalDataStore.sync_ok ran
  obtain ⟨favourites,history,casts,_,_,_,rfl⟩ := PostgresPersonalDataStore.push_ok.mp pushed
  simp only [Lane.version,postgresFavourites,PostgresPersonalDataStore.placedFavourites,placeAll_lane]
  unfold Lane.pushedBy at kept ⊢
  by_cases mine : call.user = user
  · rw [if_pos mine] at kept ⊢
    rw [if_pos mine,castFavourites casts kept]
  · rw [if_neg mine,if_neg mine]
    rfl

theorem postgresHistory_law {s s' : PostgresPersonalDataStore} (taken : (postgresHistory pg).accepts s call s')
    (kept : ∀ item ∈ (postgresHistory pg).pushedBy user id call, item.Keeps pg pg.KeepsHistory)
    (fresh : ∀ version ∈ applyAll bareHistory ((postgresHistory pg).version s user id)
        (((postgresHistory pg).pushedBy user id call).map historyChange),
      version.deletedAt = none → call.now - historyRetention ≤ version.fields.startedAt) :
    (postgresHistory pg).version s' user id = applyAll bareHistory ((postgresHistory pg).version s user id)
      (((postgresHistory pg).pushedBy user id call).map historyChange) := by
  obtain ⟨outcome,ran⟩ := taken
  obtain ⟨valid,pushed,_⟩ := PostgresPersonalDataStore.sync_ok ran
  obtain ⟨favourites,history,_,casts,_,_,rfl⟩ := PostgresPersonalDataStore.push_ok.mp pushed
  have placed : ((placeAll true bareHistory call.user (s.history,(s.placedFavourites call.user favourites).2)
      history).1[(⟨user,id⟩ : Key)]?).map Record.toVersion = applyAll bareHistory
        ((postgresHistory pg).version s user id) (((postgresHistory pg).pushedBy user id call).map historyChange) := by
    simp only [Lane.version,postgresHistory,placeAll_lane]
    unfold Lane.pushedBy at kept ⊢
    by_cases mine : call.user = user
    · rw [if_pos mine] at kept ⊢
      rw [if_pos mine,castHistory valid casts kept]
    · rw [if_neg mine,if_neg mine]
      rfl
  rw [← placed] at fresh ⊢
  simp only [Lane.version,postgresHistory,PostgresPersonalDataStore.placedHistory]
  split
  · rfl
  · unfold Postgres.expireUserHistory Postgres.expireWhere
    rw [expireRows_fresh (fun _ member => (pg.scans _).mem_iff.mp member)]
    intro version inside live
    refine le_trans ?_ (fresh version inside live)
    exact Int.sub_le_sub_right (Postgres.clock_le call.now) _

end casts

-- Any order of the changes can really be pushed: one request for each of them
-- to a store that knows nothing else.
section orders
variable {U F : Type} {now : Instant} {request : SyncRequest}

def Pushed.recordId (name : U → Uuid) : Pushed U → Uuid
  | .upsert offered => name offered
  | .delete offered => offered.recordId

def Pushed.Passes (check : U → Except PersonalDataError Unit) : Pushed U → Prop
  | .upsert offered => check offered = .ok ()
  | .delete _ => True

def Pushed.alone : Pushed U → CollectionChanges U
  | .upsert offered => {upserts := [offered]}
  | .delete offered => {deletes := [offered]}

theorem alone_pushedOn {name : U → Uuid} {item : Pushed U} (named : item.recordId name = id) :
    item.alone.pushedOn name id = [item] := by
  cases item with
  | upsert upsert => simpa [Pushed.alone,CollectionChanges.pushedOn,Pushed.recordId] using named
  | delete delete => simpa [Pushed.alone,CollectionChanges.pushedOn,Pushed.recordId] using named

theorem favourite_alone_valid {item : Pushed FavouriteUpsert} (passes : item.Passes (·.validate now)) :
    ({favourites := item.alone} : SyncRequest).validate now = .ok () := by
  rw [validate_iff]
  cases item with
  | upsert upsert =>
    have passes : upsert.validate now = .ok () := passes
    simpa [Pushed.alone,SyncRequest.favouriteRecordIds,SyncRequest.historyRecordIds,maxSyncBatchItems] using passes
  | delete delete =>
    simp [Pushed.alone,SyncRequest.favouriteRecordIds,SyncRequest.historyRecordIds,maxSyncBatchItems]

theorem history_alone_valid {item : Pushed HistoryUpsert} (passes : item.Passes (·.validate now)) :
    ({history := item.alone} : SyncRequest).validate now = .ok () := by
  rw [validate_iff]
  cases item with
  | upsert upsert =>
    have passes : upsert.validate now = .ok () := passes
    simpa [Pushed.alone,SyncRequest.favouriteRecordIds,SyncRequest.historyRecordIds,maxSyncBatchItems] using passes
  | delete delete =>
    simp [Pushed.alone,SyncRequest.favouriteRecordIds,SyncRequest.historyRecordIds,maxSyncBatchItems]

def Only (key : Key) (rows : Rows F) : Prop := ∀ other row, rows[other]? = some row → other = key

theorem only_empty {key : Key} : Only key (∅ : Rows F) := by
  intro other row found
  simp at found

theorem Only.liveCount {rows : Rows F} {k : Key} (only : Only k rows) (user : Uuid) : liveCount rows user ≤ 1 := by
  unfold PersonalData.liveCount
  rw [Table.count_eq_card]
  refine le_trans (Finset.card_le_card (t:={k}) ?_) (by simp)
  intro key member
  obtain ⟨row,found,_⟩ := Table.mem_keysWhere.mp member
  exact Finset.mem_singleton.mpr (only key row found)

theorem memory_accepts {s : InMemoryPersonalDataStore} (valid : request.validate now = .ok ())
    (favourites : Only ⟨user,id⟩ s.favourites) (history : Only ⟨user,id⟩ s.history)
    (named : ∀ entry ∈ request.favouriteEntries, entry.1 = id)
    (titled : ∀ entry ∈ request.historyEntries, entry.1 = id) :
    ∃ outcome s', s.synchronize now user request = (.ok outcome,s') ∧ Only ⟨user,id⟩ s'.favourites ∧
      Only ⟨user,id⟩ s'.history := by
  have placed : Only ⟨user,id⟩ (s.pushFavourites user request).1 := by
    rw [InMemoryPersonalDataStore.pushFavourites_place]
    refine placeAll_rows (Q:=fun key _ => key = ⟨user,id⟩) ?_ favourites
    intro entry listed _ _ _
    rw [named entry listed]
  have pushed : ∀ revision, Only ⟨user,id⟩ (expireHistory user now (s.pushHistory revision user request)).1 := by
    intro revision
    rw [InMemoryPersonalDataStore.pushHistory_place]
    refine expireRows_rows (Q:=fun key _ => key = ⟨user,id⟩) (expiredKeys_distinct _ _ _) (fun _ _ _ _ same => same) ?_
    refine placeAll_rows (Q:=fun key _ => key = ⟨user,id⟩) ?_ history
    intro entry listed _ _ _
    rw [titled entry listed]
  cases ran : s.synchronize now user request with
  | mk answer s' =>
    rcases InMemoryPersonalDataStore.sync_cases ran with
      ⟨_,invalid,_⟩ | ⟨_,beyond,_⟩ | ⟨_,_,first,second,last⟩
    · rw [valid] at invalid
      cases invalid
    · have few := placed.liveCount user
      unfold maxFavouriteRecords at beyond
      omega
    · have kept : Only ⟨user,id⟩ s'.history := by
        have same : s'.history = _ := congrArg Prod.fst second
        rw [same]
        exact pushed _
      rcases last with ⟨beyond,_⟩ | ⟨_,answered⟩
      · have few := kept.liveCount user
        unfold maxHistoryRecords at beyond
        omega
      · exact ⟨_,s',by rw [answered],by rw [first]; exact placed,kept⟩

-- A database that holds at most one record, readable and not yet expired.
structure Readied (pg : Postgres) (now : Instant) (key : Key) (s : PostgresPersonalDataStore) : Prop where
  favourites : ∀ other row, s.favourites[other]? = some row → other = key ∧ pg.SteadyFavourite row.toVersion
  history : ∀ other row, s.history[other]? = some row → other = key ∧ pg.SteadyHistory row.toVersion ∧
    (row.deletedAt = none → now - historyRetention ≤ row.fields.startedAt)

theorem postgres_accepts {pg : Postgres} {s : PostgresPersonalDataStore} (valid : request.validate now = .ok ())
    (held : Readied pg now ⟨user,id⟩ s) {favourites : List (Uuid × Change FavouriteFields Instant)}
    {history : List (Uuid × Change HistoryFields Instant)} (castFavourites : pg.favouriteEntries request = some favourites)
    (castHistory : pg.historyEntries request = some history)
    (named : ∀ entry ∈ favourites, entry.1 = id ∧ entry.2.All (fun fields => pg.Steady fields.addedAt) pg.Steady)
    (titled : ∀ entry ∈ history, entry.1 = id ∧
      entry.2.All (fun fields => (pg.Steady fields.startedAt ∧ pg.Steady fields.lastPlayedAt ∧
        ∀ endedAt ∈ fields.endedAt, pg.Steady endedAt) ) pg.Steady ∧
      ∀ fields updatedAt, entry.2 = .upsert fields updatedAt → now - historyRetention ≤ fields.startedAt) :
    ∃ outcome s', s.synchronize pg now user request = (.ok outcome,s') ∧ Readied pg now ⟨user,id⟩ s' := by
  have placed : ∀ other row, (s.placedFavourites user favourites).1[other]? = some row →
      other = (⟨user,id⟩ : Key) ∧ pg.SteadyFavourite row.toVersion := by
    refine placeAll_rows (Q:=fun other version => other = ⟨user,id⟩ ∧ pg.SteadyFavourite version) ?_ held.favourites
    intro entry listed stored before _
    obtain ⟨name,steady⟩ := named entry listed
    refine ⟨by rw [name],LastWriter.written_all (fun _ stamp => stamp) steady fun version inside => ?_⟩
    exact (before version inside).2
  have pushed : ∀ other row, (placeAll true bareHistory user (s.history,(s.placedFavourites user favourites).2)
      history).1[other]? = some row → other = (⟨user,id⟩ : Key) ∧ pg.SteadyHistory row.toVersion ∧
      (row.deletedAt = none → now - historyRetention ≤ row.fields.startedAt) := by
    refine placeAll_rows (Q:=fun other version => other = ⟨user,id⟩ ∧ pg.SteadyHistory version ∧
      (version.deletedAt = none → now - historyRetention ≤ version.fields.startedAt)) ?_ held.history
    intro entry listed stored before _
    obtain ⟨name,steady,young⟩ := titled entry listed
    refine ⟨by rw [name],LastWriter.written_all (fun _ stamp => ⟨stamp,stamp,by simp [bareHistory]⟩) steady ?_,?_⟩
    · exact fun version inside => (before version inside).2.1
    · cases carried : entry.2 with
      | upsert fields updatedAt => exact fun _ => young fields updatedAt carried
      | delete updatedAt => exact fun live => nomatch live
  have settled : s.placedHistory pg now user request favourites history =
      placeAll true bareHistory user (s.history,(s.placedFavourites user favourites).2) history := by
    unfold PostgresPersonalDataStore.placedHistory Postgres.expireUserHistory
    dsimp only
    rw [Postgres.expireWhere_unexpired fun key row found _ => (pushed key row found).2.2]
    split <;> rfl
  have few : Only ⟨user,id⟩ (s.placedFavourites user favourites).1 := fun other row found => (placed other row found).1
  have short : Only ⟨user,id⟩ (s.placedHistory pg now user request favourites history).1 := by
    rw [settled]
    exact fun other row found => (pushed other row found).1
  have ready : Readied pg now ⟨user,id⟩ ⟨(s.placedFavourites user favourites).1,
      (s.placedHistory pg now user request favourites history).1,
      (s.placedHistory pg now user request favourites history).2⟩ := ⟨placed,by rw [settled]; exact pushed⟩
  have ran : s.push pg now user request = .ok _ := PostgresPersonalDataStore.push_ok.mpr ⟨favourites,history,castFavourites,castHistory,
    .inr (le_trans (few.liveCount user) (by decide)),.inr (le_trans (short.liveCount user) (by decide)),rfl⟩
  refine ⟨_,_,PostgresPersonalDataStore.synchronize_ok valid ran ?_ ?_,ready⟩
  · exact fun other row found => (ready.favourites other row found).2
  · exact fun other row found => (ready.history other row found).2.1

def FavouriteOffer (now : Instant) (id : Uuid) (item : Pushed FavouriteUpsert) : Prop :=
  item.recordId (·.recordId) = id ∧ item.Passes (·.validate now)

def HistoryOffer (now : Instant) (id : Uuid) (item : Pushed HistoryUpsert) : Prop :=
  item.recordId (·.recordId) = id ∧ item.Passes (·.validate now) ∧
  ∀ fields updatedAt, historyChange item = .upsert fields updatedAt → now - historyRetention ≤ fields.startedAt

theorem memoryFavourites_converges (contest : Contest favouriteChange (FavouriteOffer now id)) :
    memoryFavourites.Converges user id contest.items contest.winner ↔ contest.Decided := by
  refine Lane.converges_iff contest bareFavourite (fun s call s' taken _ _ => memoryFavourites_law taken)
    (fun s => Only ⟨user,id⟩ s.favourites ∧ Only ⟨user,id⟩ s.history)
    (fun item => ⟨now,user,{favourites := item.alone}⟩) ⟨∅,∅,0⟩ ?_ ⟨only_empty,only_empty⟩
    (by simp [Lane.version,memoryFavourites]) ?_ (fun _ _ _ _ _ _ _ => trivial) (fun item => by cases item <;> rfl)
  · intro s held item inside
    obtain ⟨named,passes⟩ := contest.admitted item inside
    have listed : ∀ entry ∈ ({favourites := item.alone} : SyncRequest).favouriteEntries, entry.1 = id := by
      cases item <;> simpa [SyncRequest.favouriteEntries,CollectionChanges.entries,Pushed.alone,Pushed.recordId] using named
    obtain ⟨outcome,s',ran,kept⟩ := memory_accepts (favourite_alone_valid passes) held.1 held.2 listed
      (by simp [SyncRequest.historyEntries,CollectionChanges.entries])
    exact ⟨s',⟨outcome,ran⟩,kept⟩
  · intro item inside
    exact (if_pos rfl).trans (alone_pushedOn (contest.admitted item inside).1)

theorem memoryHistory_converges (contest : Contest historyChange (HistoryOffer now id)) :
    memoryHistory.Converges user id contest.items contest.winner ↔ contest.Decided := by
  refine Lane.converges_iff contest bareHistory (fun s call s' taken _ fresh => memoryHistory_law taken fresh)
    (fun s => Only ⟨user,id⟩ s.favourites ∧ Only ⟨user,id⟩ s.history)
    (fun item => ⟨now,user,{history := item.alone}⟩) ⟨∅,∅,0⟩ ?_ ⟨only_empty,only_empty⟩
    (by simp [Lane.version,memoryHistory]) ?_ ?_ (fun item => by cases item <;> rfl)
  · intro s held item inside
    obtain ⟨named,passes,_⟩ := contest.admitted item inside
    have listed : ∀ entry ∈ ({history := item.alone} : SyncRequest).historyEntries, entry.1 = id := by
      cases item <;> simpa [SyncRequest.historyEntries,CollectionChanges.entries,Pushed.alone,Pushed.recordId] using named
    obtain ⟨outcome,s',ran,kept⟩ := memory_accepts (history_alone_valid passes) held.1 held.2
      (by simp [SyncRequest.favouriteEntries,CollectionChanges.entries]) listed
    exact ⟨s',⟨outcome,ran⟩,kept⟩
  · intro item inside
    exact (if_pos rfl).trans (alone_pushedOn (contest.admitted item inside).1)
  · exact fun _ _ other inside => (contest.admitted other inside).2.2

theorem postgresFavourites_converges {pg : Postgres} (contest : Contest favouriteChange (FavouriteOffer now id))
    (kept : ∀ item ∈ contest.items, item.Keeps pg pg.KeepsFavourite) :
    (postgresFavourites pg).Converges user id contest.items contest.winner ↔ contest.Decided := by
  refine Lane.converges_iff contest bareFavourite
    (fun s call s' taken within _ => postgresFavourites_law taken fun item member => kept item (within item member))
    (Readied pg now ⟨user,id⟩) (fun item => ⟨now,user,{favourites := item.alone}⟩) ⟨∅,∅,0⟩ ?_ ⟨by simp,by simp⟩
    (by simp [Lane.version,postgresFavourites]) ?_ (fun _ _ _ _ _ _ _ => trivial) (fun item => by cases item <;> rfl)
  · intro s held item inside
    obtain ⟨named,passes⟩ := contest.admitted item inside
    have steady := kept item inside
    have casts : pg.favouriteEntries {favourites := item.alone} = some [(id,favouriteChange item)] ∧
        (favouriteChange item).All (fun fields => pg.Steady fields.addedAt) pg.Steady := by
      subst named
      cases item with
      | upsert upsert =>
        have steady : pg.KeepsFavourite upsert := steady
        refine ⟨?_,steady.1.2,steady.2.2⟩
        simp [Postgres.favouriteEntries,Pushed.alone,Postgres.favouriteUpsertEntry_kept steady,Pushed.recordId,
          favouriteChange]
      | delete delete =>
        have steady : pg.Keeps delete.updatedAt := steady
        refine ⟨?_,steady.2⟩
        simp [Postgres.favouriteEntries,Pushed.alone,Postgres.deleteEntry_kept steady,Pushed.recordId,favouriteChange]
    obtain ⟨outcome,s',ran,ready⟩ := postgres_accepts (favourite_alone_valid passes) held casts.1 rfl
      (by simpa using casts.2) (by simp)
    exact ⟨s',⟨outcome,ran⟩,ready⟩
  · intro item inside
    exact (if_pos rfl).trans (alone_pushedOn (contest.admitted item inside).1)

theorem postgresHistory_converges {pg : Postgres} (contest : Contest historyChange (HistoryOffer now id))
    (kept : ∀ item ∈ contest.items, item.Keeps pg pg.KeepsHistory) :
    (postgresHistory pg).Converges user id contest.items contest.winner ↔ contest.Decided := by
  refine Lane.converges_iff contest bareHistory
    (fun s call s' taken within fresh =>
      postgresHistory_law taken (fun item member => kept item (within item member)) fresh)
    (Readied pg now ⟨user,id⟩) (fun item => ⟨now,user,{history := item.alone}⟩) ⟨∅,∅,0⟩ ?_ ⟨by simp,by simp⟩
    (by simp [Lane.version,postgresHistory]) ?_ ?_ (fun item => by cases item <;> rfl)
  · intro s held item inside
    obtain ⟨named,passes,young⟩ := contest.admitted item inside
    have steady := kept item inside
    have casts : pg.historyEntries {history := item.alone} = some [(id,historyChange item)] ∧
        (historyChange item).All (fun fields => pg.Steady fields.startedAt ∧ pg.Steady fields.lastPlayedAt ∧
          ∀ endedAt ∈ fields.endedAt, pg.Steady endedAt) pg.Steady := by
      subst named
      cases item with
      | upsert upsert =>
        have steady : pg.KeepsHistory upsert := steady
        refine ⟨?_,⟨steady.1.2,steady.2.1.2,?_⟩,steady.2.2.2.2.2⟩
        · simp [Postgres.historyEntries,Pushed.alone,Postgres.historyUpsertEntry_kept steady passes,Pushed.recordId,
            historyChange]
        · intro endedAt given
          obtain ⟨stamp,present,rfl⟩ := Option.map_eq_some_iff.mp given
          exact (steady.2.2.1 stamp present).2
      | delete delete =>
        have steady : pg.Keeps delete.updatedAt := steady
        refine ⟨?_,steady.2⟩
        simp [Postgres.historyEntries,Pushed.alone,Postgres.deleteEntry_kept steady,Pushed.recordId,historyChange]
    obtain ⟨outcome,s',ran,ready⟩ := postgres_accepts (history_alone_valid passes) held rfl casts.1 (by simp)
      (List.forall_mem_singleton.mpr ⟨rfl,casts.2,young⟩)
    exact ⟨s',⟨outcome,ran⟩,ready⟩
  · intro item inside
    exact (if_pos rfl).trans (alone_pushedOn (contest.admitted item inside).1)
  · exact fun _ _ other inside => (contest.admitted other inside).2.2

-- On either store and in either collection, every order and every batching of a
-- record's changes ends in what the newest one says exactly when that one is an
-- upsert or the only deletion.
theorem newest_wins_iff (user : Uuid) (favourites : Contest favouriteChange (FavouriteOffer now id))
    (history : Contest historyChange (HistoryOffer now id)) (pg : Postgres)
    (keptFavourites : ∀ item ∈ favourites.items, item.Keeps pg pg.KeepsFavourite)
    (keptHistory : ∀ item ∈ history.items, item.Keeps pg pg.KeepsHistory) :
    (memoryFavourites.Converges user id favourites.items favourites.winner ↔ favourites.Decided) ∧
    (memoryHistory.Converges user id history.items history.winner ↔ history.Decided) ∧
    ((postgresFavourites pg).Converges user id favourites.items favourites.winner ↔ favourites.Decided) ∧
    ((postgresHistory pg).Converges user id history.items history.winner ↔ history.Decided) :=
  ⟨memoryFavourites_converges favourites,memoryHistory_converges history,
    postgresFavourites_converges favourites keptFavourites,postgresHistory_converges history keptHistory⟩

end orders

def listed : Contest favouriteChange (FavouriteOffer (second 9).instant 7) where
  items := [.delete ⟨7,second 3⟩,.upsert ⟨7,"rock-fm",second 1,second 1⟩]
  winner := .delete ⟨7,second 3⟩
  member := by decide
  admitted := by simp [FavouriteOffer,Pushed.recordId,Pushed.Passes]; decide
  newest := by simp; decide
  distinct := by simp; decide

def played : Contest historyChange (HistoryOffer (second 9).instant 7) where
  items := [.delete ⟨7,second 3⟩,.upsert ⟨7,"rock-fm",second 1,second 2,none,some 1000,none,second 2⟩]
  winner := .delete ⟨7,second 3⟩
  member := by decide
  admitted := by
    simp [HistoryOffer,Pushed.recordId,Pushed.Passes,historyChange]; decide
  newest := by simp; decide
  distinct := by simp; decide

theorem newest_wins_when_deleted_once :
    memoryFavourites.Converges 1 7 listed.items listed.winner ∧
    memoryHistory.Converges 1 7 played.items played.winner ∧
    (postgresFavourites sampleServer).Converges 1 7 listed.items listed.winner ∧
    (postgresHistory sampleServer).Converges 1 7 played.items played.winner := by
  have onceListed : listed.Decided := by decide
  have oncePlayed : played.Decided := by decide
  have keptListed : ∀ item ∈ listed.items, item.Keeps sampleServer sampleServer.KeepsFavourite :=
    List.forall_mem_cons.mpr ⟨second_kept 3,List.forall_mem_singleton.mpr ⟨second_kept 1,second_kept 1⟩⟩
  have keptPlayed : ∀ item ∈ played.items, item.Keeps sampleServer sampleServer.KeepsHistory := by
    refine List.forall_mem_cons.mpr ⟨second_kept 3,List.forall_mem_singleton.mpr ?_⟩
    exact ⟨second_kept 1,second_kept 2,by simp,by simp,second_kept 2⟩
  obtain ⟨first,next,third,last⟩ := newest_wins_iff 1 listed played sampleServer keptListed keptPlayed
  exact ⟨first.mpr onceListed,next.mpr oncePlayed,third.mpr onceListed,last.mpr oncePlayed⟩

def deletedTwice : Contest favouriteChange (FavouriteOffer (second 9).instant 7) where
  items := [.delete ⟨7,second 1⟩,.delete ⟨7,second 3⟩]
  winner := .delete ⟨7,second 3⟩
  member := by decide
  admitted := by simp [FavouriteOffer,Pushed.recordId,Pushed.Passes]
  newest := by simp; decide
  distinct := by simp; decide

def removedTwice : Contest historyChange (HistoryOffer (second 9).instant 7) where
  items := [.delete ⟨7,second 1⟩,.delete ⟨7,second 3⟩]
  winner := .delete ⟨7,second 3⟩
  member := by decide
  admitted := by simp [HistoryOffer,Pushed.recordId,Pushed.Passes,historyChange]
  newest := by simp; decide
  distinct := by simp; decide

-- A second, newer deletion finds the record marked and is dropped: the store
-- keeps the older stamp, and no lane converges.
theorem newer_delete_dropped :
    (Transition.run (fun (s : InMemoryPersonalDataStore) (request : SyncRequest) =>
        some (s.synchronize (second 9).instant 1 request).2) ⟨∅,∅,0⟩
      [{favourites := {deletes := [⟨7,second 1⟩]}},{favourites := {deletes := [⟨7,second 3⟩]}}]).map
        (fun s => memoryFavourites.version s 1 7) =
      some (some ⟨bareFavourite (second 1).instant,(second 1).instant,some (second 1).instant⟩) ∧
    ¬memoryFavourites.Converges 1 7 deletedTwice.items deletedTwice.winner ∧
    ¬memoryHistory.Converges 1 7 removedTwice.items removedTwice.winner ∧
    ¬(postgresFavourites sampleServer).Converges 1 7 deletedTwice.items deletedTwice.winner ∧
    ¬(postgresHistory sampleServer).Converges 1 7 removedTwice.items removedTwice.winner := by
  have openFavourites : ¬deletedTwice.Decided := by decide
  have openHistory : ¬removedTwice.Decided := by decide
  refine ⟨by decide,?_,?_,?_,?_⟩
  · exact mt (memoryFavourites_converges deletedTwice).mp openFavourites
  · exact mt (memoryHistory_converges removedTwice).mp openHistory
  · refine mt (postgresFavourites_converges deletedTwice ?_).mp openFavourites
    exact List.forall_mem_cons.mpr ⟨second_kept 1,List.forall_mem_singleton.mpr (second_kept 3)⟩
  · refine mt (postgresHistory_converges removedTwice ?_).mp openHistory
    exact List.forall_mem_cons.mpr ⟨second_kept 1,List.forall_mem_singleton.mpr (second_kept 3)⟩

end PersonalData
