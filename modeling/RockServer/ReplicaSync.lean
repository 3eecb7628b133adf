import RockServer.CursorCompleteness
import RockServer.SyncRuns

namespace PersonalData
open DeviceControl (Uuid Instant)
open Transition (Runs Executes)

-- The in-memory store with its clients, one call after the other. A client
-- overwrites its replica with what it is told and sends its cursor back.
structure Household where
  store : InMemoryPersonalDataStore
  clients : Table Nat Client

structure Push where
  client : Nat
  now : Instant
  favourites : CollectionChanges FavouriteUpsert
  history : CollectionChanges HistoryUpsert

def Client.told (client : Client) (outcome : SyncOutcome) : Client where
  favourites := learn client.favourites outcome.favourites
  history := learn client.history outcome.history
  cursor := outcome.serverRevision

namespace Household

def start : Household := ⟨memory.empty,∅⟩

def client (h : Household) (c : Nat) : Client := (h.clients[c]?).getD {}

def request (h : Household) (push : Push) : SyncRequest :=
  ⟨(h.client push.client).cursor,push.favourites,push.history⟩

-- Only successful calls are steps.
def execute (account : Nat → Uuid) (h : Household) (push : Push) : Option Household :=
  match h.store.synchronize push.now (account push.client) (h.request push) with
  | (.error _,_) => none
  | (.ok outcome,store) =>
    some ⟨store,h.clients.insert push.client ((h.client push.client).told outcome)⟩

end Household

section table
variable {F : Type} {rows rows' : Rows F} {n n' : Nat} {user : Uuid} {replica : Records F} {cursor since : Nat}
variable {pushed : List Uuid}

-- A replica holds the account's rows up to its cursor, and no others.
structure Abreast (rows : Rows F) (user : Uuid) (replica : Records F) (cursor : Nat) : Prop where
  upTo : ∀ (id : Uuid) row, rows[(⟨user,id⟩ : Key)]? = some row → row.syncRevision ≤ cursor → replica[id]? = some row
  only : ∀ id : Uuid, rows[(⟨user,id⟩ : Key)]? = none → replica[id]? = none

-- Rows carry their own record id and a revision that the counter has passed.
structure Numbered (rows : Rows F) (n : Nat) : Prop where
  named : ∀ (key : Key) row, rows[key]? = some row → row.recordId = key.recordId
  counted : ∀ (key : Key) row, rows[key]? = some row → 0 < row.syncRevision ∧ row.syncRevision ≤ n

-- What one accepted call does to a table: rows stay or are renewed past the
-- counter, none goes, and other accounts are left alone.
structure Renews (user : Uuid) (rows : Rows F) (n : Nat) (rows' : Rows F) (n' : Nat) : Prop where
  advances : Advances rows n rows' n'
  kept : ∀ key : Key, rows'[key]? = none → rows[key]? = none
  named : ∀ (key : Key) row, rows'[key]? = some row → rows[key]? = some row ∨ row.recordId = key.recordId
  others : ∀ key : Key, key.userId ≠ user → rows'[key]? = rows[key]?

theorem Renews.trans {rows'' : Rows F} {n'' : Nat} (first : Renews user rows n rows' n')
    (second : Renews user rows' n' rows'' n'') : Renews user rows n rows'' n'' := by
  refine ⟨first.advances.trans second.advances,fun key gone => first.kept key (second.kept key gone),?_,?_⟩
  · intro key row found
    rcases second.named key row found with old | mine
    · exact first.named key row old
    · exact .inr mine
  · intro key other
    exact (second.others key other).trans (first.others key other)

theorem Renews.skip (first : Renews user rows n rows' n') {m : Nat} (later : n' ≤ m) : Renews user rows n rows' m :=
  ⟨first.advances.skip later,first.kept,first.named,first.others⟩

theorem Renews.refl (user : Uuid) (rows : Rows F) (n : Nat) : Renews user rows n rows n :=
  ⟨.refl rows n,fun _ gone => gone,fun _ _ found => .inl found,fun _ _ => rfl⟩

theorem placeAll_renews (bare : Instant → F) (user : Uuid) (rows : Rows F) (n : Nat)
    (entries : List (Uuid × LastWriter.Change F Instant)) :
    Renews user rows n (placeAll false bare user (rows,n) entries).1 (placeAll false bare user (rows,n) entries).2 := by
  refine ⟨placeAll_advances false bare user rows n entries,?_,?_,fun key other => placeAll_other other⟩
  · intro key gone
    rcases @placeAll_cases _ false bare user (rows,n) key entries with same | ⟨row,_,moved,_⟩
    · exact same ▸ gone
    · rw [gone] at moved
      cases moved
  · intro key row found
    rcases @placeAll_cases _ false bare user (rows,n) key entries with same | ⟨row',_,moved,_,_,_,_,name,_⟩
    · exact .inl (same ▸ found)
    · rw [found] at moved
      cases Option.some.inj moved
      exact .inr name

theorem Numbered.renews (numbered : Numbered rows n) (renewed : Renews user rows n rows' n') : Numbered rows' n' := by
  refine ⟨fun key row found => ?_,fun key row found => ?_⟩
  · rcases renewed.named key row found with old | mine
    · exact numbered.named key row old
    · exact mine
  · rcases renewed.advances.2 key row found with old | ⟨lower,upper⟩
    · have bounds := numbered.counted key row old
      exact ⟨bounds.1,Nat.le_trans bounds.2 renewed.advances.1⟩
    · exact ⟨Nat.zero_lt_of_lt lower,upper⟩

-- Somebody's call, seen from a client that was told of everything up to a
-- cursor below the counter.
theorem Abreast.renews {other : Uuid} (abreast : Abreast rows user replica cursor) (bound : cursor ≤ n)
    (renewed : Renews other rows n rows' n') : Abreast rows' user replica cursor := by
  refine ⟨fun id row found reached => ?_,fun id gone => abreast.only id (renewed.kept _ gone)⟩
  rcases renewed.advances.2 _ row found with old | ⟨later,_⟩
  · exact abreast.upTo id row old reached
  · omega

theorem mem_answer {row : Record F} (numbered : Numbered rows n) :
    row ∈ (deltaAndEcho (accountRows rows user) since pushed).1 ↔
    rows[(⟨user,row.recordId⟩ : Key)]? = some row ∧ (since < row.syncRevision ∨ row.recordId ∈ pushed) := by
  rw [mem_delta (accountRows_distinct rows user)]
  constructor
  · rintro ⟨id,listed,chosen⟩
    have found := mem_accountRows.mp listed
    have mine : row.recordId = id := numbered.named _ row found
    subst mine
    exact ⟨found,chosen⟩
  · rintro ⟨found,chosen⟩
    exact ⟨row.recordId,mem_accountRows.mpr found,chosen⟩

-- After its own call a client has the account's rows, all of them.
theorem answer_completes (numbered : Numbered rows n) (abreast : Abreast rows user replica since) (id : Uuid) :
    (learn replica (deltaAndEcho (accountRows rows user) since pushed).1)[id]? = rows[(⟨user,id⟩ : Key)]? := by
  cases found : rows[(⟨user,id⟩ : Key)]? with
  | none =>
    rw [learn_other,abreast.only id found]
    intro record listed same
    obtain ⟨present,_⟩ := (mem_answer numbered).mp listed
    rw [same,found] at present
    cases present
  | some row =>
    have mine : row.recordId = id := numbered.named _ row found
    subst mine
    by_cases chosen : since < row.syncRevision ∨ row.recordId ∈ pushed
    · refine learn_told ((mem_answer numbered).mpr ⟨found,chosen⟩) fun other listed same => ?_
      obtain ⟨present,_⟩ := (mem_answer numbered).mp listed
      rw [same,found] at present
      exact (Option.some.inj present).symm
    · rw [learn_other]
      · exact abreast.upTo _ row found (Nat.not_lt.mp fun later => chosen (.inl later))
      · intro record listed same
        obtain ⟨present,wanted⟩ := (mem_answer numbered).mp listed
        rw [same,found] at present
        cases Option.some.inj present
        exact chosen wanted

end table

theorem expireHistory_renews (user : Uuid) (now : Instant) (rows : Rows HistoryFields) (n : Nat)
    (named : ∀ (key : Key) row, rows[key]? = some row → row.recordId = key.recordId) :
    Renews user rows n (expireHistory user now (rows,n)).1 (expireHistory user now (rows,n)).2 := by
  have distinct := expiredKeys_distinct (fun key => key.userId = user) (now - historyRetention) rows
  refine ⟨expireHistory_advances user now (rows,n),?_,?_,?_⟩
  · intro key gone
    rcases @expireRows_cases _ (rows,n) key expireMark _ distinct with ⟨_,same⟩ | ⟨absent,_⟩ | ⟨_,_,_,_,_,_,moved⟩
    · exact same ▸ gone
    · exact absent
    · rw [show (expireHistory user now (rows,n)).1[key]? = _ from moved] at gone
      cases gone
  · intro key row found
    rcases @expireRows_cases _ (rows,n) key expireMark _ distinct with ⟨_,same⟩ | ⟨_,gone⟩ | ⟨old,_,_,was,_,_,moved⟩
    · exact .inl (same ▸ found)
    · rw [show (expireHistory user now (rows,n)).1[key]? = _ from gone] at found
      cases found
    · rw [show (expireHistory user now (rows,n)).1[key]? = _ from moved] at found
      cases Option.some.inj found
      exact .inr (named key old was)
  · intro key other
    refine expireRows_other fun listed => other ?_
    obtain ⟨_,_,mine,_⟩ := mem_expiredKeys.mp listed
    simpa using mine

-- The inversion of one successful call.
theorem memory_answered {s s' : InMemoryPersonalDataStore} {now : Instant} {user : Uuid} {request : SyncRequest}
    {outcome : SyncOutcome} (ran : s.synchronize now user request = (.ok outcome,s'))
    (history : Numbered s.history s.revision) :
    outcome = s'.read user request ∧ Renews user s.favourites s.revision s'.favourites s'.revision ∧
    Renews user s.history s.revision s'.history s'.revision := by
  obtain ⟨_,_,first,second,_,answered⟩ := InMemoryPersonalDataStore.sync_ok ran
  have pushed := placeAll_renews bareFavourite user s.favourites s.revision request.favouriteEntries
  rw [← InMemoryPersonalDataStore.pushFavourites_place] at pushed
  have placed := placeAll_renews bareHistory user s.history (s.pushFavourites user request).2 request.historyEntries
  rw [← InMemoryPersonalDataStore.pushHistory_place] at placed
  have skipped := ((Renews.refl user s.history s.revision).skip pushed.advances.1).trans placed
  have expired := expireHistory_renews user now _ (s.pushHistory (s.pushFavourites user request).2 user request).2
    (history.renews skipped).named
  have rows : s'.history = _ := congrArg Prod.fst second
  have counter : s'.revision = _ := congrArg Prod.snd second
  refine ⟨answered.symm,?_,?_⟩
  · rw [first,counter]
    exact pushed.skip (Nat.le_trans placed.advances.1 expired.advances.1)
  · rw [rows,counter]
    exact skipped.trans expired

namespace Household
variable {account : Nat → Uuid} {h h' : Household} {push : Push} {pushes : List Push}

-- The simulation: every client is abreast of its account.
structure Synced (account : Nat → Uuid) (h : Household) : Prop where
  favourites : Numbered h.store.favourites h.store.revision
  history : Numbered h.store.history h.store.revision
  cursors : ∀ c, (h.client c).cursor ≤ h.store.revision
  replicas : ∀ c, Abreast h.store.favourites (account c) (h.client c).favourites (h.client c).cursor ∧
    Abreast h.store.history (account c) (h.client c).history (h.client c).cursor

theorem start_synced (account : Nat → Uuid) : start.Synced account := by
  constructor
  · constructor <;> simp [start,memory]
  · constructor <;> simp [start,memory]
  · simp [start,client]
  · intro c
    constructor <;> constructor <;> simp [start,memory,client]

theorem execute_cases (ran : h.execute account push = some h') : ∃ outcome,
    h.store.synchronize push.now (account push.client) (h.request push) = (.ok outcome,h'.store) ∧
    h'.clients = h.clients.insert push.client ((h.client push.client).told outcome) := by
  unfold execute at ran
  split at ran
  · cases ran
  · rename_i outcome store answered
    cases ran
    exact ⟨outcome,answered,rfl⟩

theorem client_told {outcome : SyncOutcome}
    (clients : h'.clients = h.clients.insert push.client ((h.client push.client).told outcome)) (c : Nat) :
    h'.client c = if push.client = c then (h.client push.client).told outcome else h.client c := by
  unfold client
  rw [clients,Table.get_insert]
  split <;> rfl

-- What a successful call gives the client that made it.
theorem told_exact (synced : h.Synced account) {outcome : SyncOutcome} {store : InMemoryPersonalDataStore}
    (ran : h.store.synchronize push.now (account push.client) (h.request push) = (.ok outcome,store)) (id : Uuid) :
    ((h.client push.client).told outcome).favourites[id]? = store.favourites[(⟨account push.client,id⟩ : Key)]? ∧
    ((h.client push.client).told outcome).history[id]? = store.history[(⟨account push.client,id⟩ : Key)]? := by
  obtain ⟨rfl,favourites,history⟩ := memory_answered ran synced.history
  obtain ⟨known,played⟩ := synced.replicas push.client
  have bound := synced.cursors push.client
  exact ⟨answer_completes (synced.favourites.renews favourites) (known.renews bound favourites) id,
    answer_completes (synced.history.renews history) (played.renews bound history) id⟩

theorem step_synced (synced : h.Synced account) (ran : h.execute account push = some h') : h'.Synced account := by
  obtain ⟨outcome,answered,clients⟩ := execute_cases ran
  obtain ⟨read,favourites,history⟩ := memory_answered answered synced.history
  have numbered := synced.favourites.renews favourites
  have played := synced.history.renews history
  refine ⟨numbered,played,fun c => ?_,fun c => ?_⟩
  · rw [client_told clients]
    split
    · refine memory_orderly.answers _ _ _ _ _ _ answered ⟨?_,?_⟩ ?_
      · exact fun key row found => (numbered.counted key row found).2
      · exact fun key row found => (played.counted key row found).2
      · exact Nat.le_trans (synced.cursors push.client) favourites.advances.1
    · exact Nat.le_trans (synced.cursors c) favourites.advances.1
  · rw [client_told clients]
    split
    · rename_i mine
      subst mine
      have exact_ := told_exact synced answered
      constructor
      · exact ⟨fun id row found _ => (exact_ id).1.trans found,fun id gone => (exact_ id).1.trans gone⟩
      · exact ⟨fun id row found _ => (exact_ id).2.trans found,fun id gone => (exact_ id).2.trans gone⟩
    · obtain ⟨known,heard⟩ := synced.replicas c
      exact ⟨known.renews (synced.cursors c) favourites,heard.renews (synced.cursors c) history⟩

theorem run_synced (path : Runs (Executes (execute account)) start pushes h) : h.Synced account :=
  path.invariant (Synced account) (start_synced account) fun _ _ _ synced taken => step_synced synced taken

end Household

-- Whatever was called before by whomever, a client's successful sync leaves it
-- with exactly the rows of its account.
theorem replica_exact (account : Nat → Uuid) {pushes : List Push} {h : Household}
    (path : Runs (Executes (Household.execute account)) Household.start pushes h) {push : Push} {outcome : SyncOutcome}
    {store : InMemoryPersonalDataStore}
    (ran : h.store.synchronize push.now (account push.client) (h.request push) = (.ok outcome,store)) :
    (∀ id : Uuid,
      ((h.client push.client).told outcome).favourites[id]? = store.favourites[(⟨account push.client,id⟩ : Key)]? ∧
      ((h.client push.client).told outcome).history[id]? = store.history[(⟨account push.client,id⟩ : Key)]?) ∧
    (h.client push.client).cursor ≤ outcome.serverRevision ∧
    (∀ record ∈ outcome.favourites, store.favourites[(⟨account push.client,record.recordId⟩ : Key)]? = some record) ∧
    (∀ record ∈ outcome.history, store.history[(⟨account push.client,record.recordId⟩ : Key)]? = some record) ∧
    ∀ key : Key, key.userId ≠ account push.client →
      store.favourites[key]? = h.store.favourites[key]? ∧ store.history[key]? = h.store.history[key]? := by
  have synced := Household.run_synced path
  refine ⟨Household.told_exact synced ran,?_⟩
  obtain ⟨rfl,favourites,history⟩ := memory_answered ran synced.history
  refine ⟨?_,?_,?_,fun key other => ⟨favourites.others key other,history.others key other⟩⟩
  · exact Nat.le_trans (cursor_spec _ _ _).1 (Nat.le_max_left _ _)
  · exact fun record listed => ((mem_answer (synced.favourites.renews favourites)).mp listed).1
  · exact fun record listed => ((mem_answer (synced.history.renews history)).mp listed).1

-- Two devices of one account and one of another; both accounts delete a record
-- of the same id.
def twoAccounts (c : Nat) : Uuid := c / 2

def dropping (c : Nat) (stamp : Timestamp) : Push := ⟨c,stamp.instant,{deletes := [⟨7,stamp⟩]},{}⟩

theorem replica_exact_second_device : ∃ (h : Household) (outcome : SyncOutcome) (store : InMemoryPersonalDataStore),
    h.store.synchronize (second 9).instant 0 (h.request ⟨1,(second 9).instant,{},{}⟩) = (.ok outcome,store) ∧
    (store.favourites[(⟨0,7⟩ : Key)]?).isSome = true ∧
    ((h.client 1).told outcome).favourites[(7 : Uuid)]? = store.favourites[(⟨0,7⟩ : Key)]? := by
  obtain ⟨h,path,seen⟩ := Transition.run_reaches (Household.execute twoAccounts) Household.start
    [dropping 0 (second 3),dropping 2 (second 5)]
    (fun h => (h.execute twoAccounts ⟨1,(second 9).instant,{},{}⟩).any fun h' =>
      (h'.store.favourites[(⟨0,7⟩ : Key)]?).isSome) (by decide)
  obtain ⟨h',ran,present⟩ := (Option.any_eq_true _ _).mp seen
  obtain ⟨outcome,answered,_⟩ := Household.execute_cases ran
  exact ⟨h,outcome,h'.store,answered,present,((replica_exact twoAccounts path answered).1 7).1⟩

end PersonalData
