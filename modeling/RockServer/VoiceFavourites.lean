import RockServer.SyncRuns

-- Voice commands that add the station which is playing to the favourites. A call
-- looks first, and pushes a record of its own with its next store call.
namespace VoiceFavourites
open PersonalData
open DeviceControl (Uuid Instant)
open Transition (Runs Executes Under)

inductive VoiceStreamErrorCode where
  | stationNotFound
  | favouriteLimitExceeded
  | persistenceUnavailable
  | internalError
deriving DecidableEq

inductive Reply where
  | succeeded
  | error (code : VoiceStreamErrorCode) (message : String)
deriving DecidableEq

inductive Call where
  | looked (stationId : String) (serverRevision : Nat)
  | replied (reply : Reply)
deriving DecidableEq

-- Calls of one account's devices, each by its number.
structure World where
  store : InMemoryPersonalDataStore
  calls : Table Nat Call

inductive Step where
  | look (call : Nat) (now : Instant) (reported : Option String)
  | push (call : Nat) (now : Instant) (recordId : Uuid) (stamp : Timestamp)

def currentStationId (reported : Option String) : Option String := reported.filter (· ≠ "")

def live (stationId : String) (record : FavouriteRecord) : Bool :=
  record.deletedAt.isNone && record.fields.stationId = some stationId

def isLive (stationId : String) (records : List FavouriteRecord) : Bool := records.any (live stationId)

def favouriteStoreFailure : Reply := .error .persistenceUnavailable "Favourite state is temporarily unavailable."

def look (store : InMemoryPersonalDataStore) (now : Instant) (user : Uuid) (reported : Option String) :
    Call × InMemoryPersonalDataStore :=
  match currentStationId reported with
  | none => (.replied (.error .stationNotFound "No station is currently playing."),store)
  | some stationId => match store.synchronize now user {} with
    | (.error _,store') => (.replied favouriteStoreFailure,store')
    | (.ok snapshot,store') =>
      (if isLive stationId snapshot.favourites then .replied .succeeded else .looked stationId snapshot.serverRevision,store')

def upsertOf (stationId : String) (recordId : Uuid) (stamp : Timestamp) : FavouriteUpsert := ⟨recordId,stationId,stamp,stamp⟩

def push (store : InMemoryPersonalDataStore) (now : Instant) (user : Uuid) (stationId : String) (serverRevision : Nat)
    (recordId : Uuid) (stamp : Timestamp) : Reply × InMemoryPersonalDataStore :=
  match store.synchronize now user ⟨serverRevision,⟨[upsertOf stationId recordId stamp],[]⟩,{}⟩ with
  | (.ok outcome,store') =>
    (if isLive stationId outcome.favourites then .succeeded else .error .internalError "The favourite could not be confirmed.",
      store')
  | (.error .favouriteLimitExceeded,store') =>
    (.error .favouriteLimitExceeded "The account favourites limit was reached.",store')
  | (.error _,store') => (favouriteStoreFailure,store')

def execute (user : Uuid) (w : World) : Step → Option World
  | .look call now reported => match w.calls[call]? with
    | none =>
      let looked := look w.store now user reported
      some ⟨looked.2,w.calls.insert call looked.1⟩
    | some _ => none
  | .push call now recordId stamp => match w.calls[call]? with
    | some (.looked stationId serverRevision) =>
      let pushed := push w.store now user stationId serverRevision recordId stamp
      some ⟨pushed.2,w.calls.insert call (.replied pushed.1)⟩
    | _ => none

def liveFavourites (user : Uuid) (stationId : String) (store : InMemoryPersonalDataStore) : Nat :=
  Table.count (fun key row => key.userId = user && live stationId row) store.favourites

def reports (stationId : String) : Step → Bool
  | .look _ _ reported => currentStationId reported = some stationId
  | .push .. => true

-- No favourite of the account has changed since the pushing call looked.
def undisturbed (user : Uuid) (w : World) : Step → Bool
  | .look .. => true
  | .push call _ _ _ => match w.calls[call]? with
    | some (.looked _ serverRevision) =>
      (accountRows w.store.favourites user).all fun entry => entry.2.syncRevision ≤ serverRevision
    | _ => true

section calls
variable {store store' : InMemoryPersonalDataStore} {now : Instant} {user recordId : Uuid} {stationId : String}
variable {request : SyncRequest} {answer : Except PersonalDataError SyncOutcome} {outcome : SyncOutcome}

theorem live_counted : 1 ≤ liveFavourites user stationId store ↔ ∃ (id : Uuid) (row : FavouriteRecord),
    store.favourites[(⟨user,id⟩ : Key)]? = some row ∧ live stationId row = true := by
  unfold liveFavourites
  rw [Table.count_eq_card,Nat.one_le_iff_ne_zero,ne_eq,Finset.card_eq_zero,← ne_eq,← Finset.nonempty_iff_ne_empty]
  constructor
  · intro ⟨key,member⟩
    obtain ⟨row,found,chosen⟩ := Table.mem_keysWhere.mp member
    rw [Bool.and_eq_true,decide_eq_true_iff] at chosen
    obtain ⟨rfl,alive⟩ := chosen
    exact ⟨key.recordId,row,found,alive⟩
  · intro ⟨id,row,found,alive⟩
    exact ⟨⟨user,id⟩,Table.mem_keysWhere.mpr ⟨row,found,by simpa using alive⟩⟩

theorem sync_step (ran : store.synchronize now user request = (answer,store')) :
    store' = memory.step store (.sync now user request) := (congrArg Prod.snd ran).symm

-- A call that pushes nothing leaves the favourites alone.
theorem look_favourites (ran : store.synchronize now user {} = (answer,store')) : store'.favourites = store.favourites := by
  have rows := (memory_sync_rows store now user {}).1
  rw [ran] at rows
  rcases rows with same | ⟨_,same⟩
  · exact same
  · exact same

-- One that pushes a record writes that one at most.
theorem push_favourites {serverRevision : Nat} {stamp : Timestamp}
    (ran : store.synchronize now user ⟨serverRevision,⟨[upsertOf stationId recordId stamp],[]⟩,{}⟩ = (answer,store')) :
    store'.favourites = store.favourites ∨ ∃ row : FavouriteRecord, live stationId row = true ∧
      store'.favourites = store.favourites.insert ⟨user,recordId⟩ row := by
  have rows := (memory_sync_rows store now user ⟨serverRevision,⟨[upsertOf stationId recordId stamp],[]⟩,{}⟩).1
  rw [ran] at rows
  rcases rows with same | ⟨_,placed⟩
  · exact .inl same
  · let entry : Uuid × LastWriter.Change FavouriteFields Instant :=
      (recordId,.upsert ⟨some stationId,stamp.instant⟩ stamp.instant)
    have single : store'.favourites = (place false bareFavourite user (store.favourites,store.revision) entry).1 := placed
    cases wins : entry.2.wins ((store.favourites[(⟨user,entry.1⟩ : Key)]?).map Record.toVersion) with
    | false =>
      rw [place_loses wins] at single
      exact .inl single
    | true =>
      rw [place_wins wins] at single
      exact .inr ⟨_,by simp [live,entry,LastWriter.Change.written],single⟩

theorem look_count {reported : Option String} :
    liveFavourites user stationId (look store now user reported).2 = liveFavourites user stationId store := by
  suffices same : (look store now user reported).2.favourites = store.favourites by
    unfold liveFavourites
    rw [same]
  unfold look
  cases currentStationId reported with
  | none => rfl
  | some station =>
    dsimp only
    cases ran : store.synchronize now user {} with
    | mk answer store' =>
      cases answer <;> exact look_favourites ran

theorem push_kept {serverRevision : Nat} {stamp : Timestamp}
    (ran : store.synchronize now user ⟨serverRevision,⟨[upsertOf stationId recordId stamp],[]⟩,{}⟩ = (answer,store'))
    (present : 1 ≤ liveFavourites user stationId store) : 1 ≤ liveFavourites user stationId store' := by
  obtain ⟨id,row,found,alive⟩ := live_counted.mp present
  rw [live_counted]
  rcases push_favourites ran with same | ⟨new,fresh,same⟩
  · rw [same]
    exact ⟨id,row,found,alive⟩
  · rw [same]
    by_cases mine : (⟨user,recordId⟩ : Key) = ⟨user,id⟩
    · exact ⟨id,new,by rw [Table.get_insert,if_pos mine],fresh⟩
    · exact ⟨id,row,by rw [Table.get_insert_ne mine,found],alive⟩

theorem push_single {serverRevision : Nat} {stamp : Timestamp} (none : liveFavourites user stationId store = 0) :
    liveFavourites user stationId (push store now user stationId serverRevision recordId stamp).2 ≤ 1 := by
  unfold push
  cases ran : store.synchronize now user ⟨serverRevision,⟨[upsertOf stationId recordId stamp],[]⟩,{}⟩ with
  | mk answer store' =>
    have single : liveFavourites user stationId store' ≤ 1 := by
      unfold liveFavourites at none ⊢
      rcases push_favourites ran with same | ⟨row,alive,same⟩
      · rw [same]
        omega
      · rw [same]
        exact Nat.le_trans Table.count_insert_le (by omega)
    cases answer with
    | error error => cases error <;> exact single
    | ok outcome => exact single

-- What the answer lists is there, and what is there past the cursor is listed.
theorem answer_live (ran : store.synchronize now user request = (.ok outcome,store')) :
    isLive stationId outcome.favourites = true → 1 ≤ liveFavourites user stationId store' := by
  obtain ⟨_,_,_,_,_,rfl⟩ := InMemoryPersonalDataStore.sync_ok ran
  intro listed
  obtain ⟨row,member,alive⟩ := List.any_eq_true.mp listed
  obtain ⟨id,present,_⟩ := (mem_delta (accountRows_distinct _ _)).mp member
  exact live_counted.mpr ⟨id,row,mem_accountRows.mp present,alive⟩

theorem snapshot_whole (ran : store.synchronize now user {} = (.ok outcome,store'))
    (unlisted : isLive stationId outcome.favourites = false) {row : FavouriteRecord}
    (found : store'.favourites[(⟨user,recordId⟩ : Key)]? = some row) (numbered : 0 < row.syncRevision) :
    live stationId row = false := by
  obtain ⟨_,_,_,_,_,rfl⟩ := InMemoryPersonalDataStore.sync_ok ran
  have member : row ∈ (store'.read user {}).favourites :=
    (mem_delta (accountRows_distinct _ _)).mpr ⟨recordId,mem_accountRows.mpr found,.inl numbered⟩
  rw [← Bool.not_eq_true]
  intro alive
  rw [isLive,List.any_eq_false] at unlisted
  exact unlisted row member alive

end calls

variable {user : Uuid} {stationId : String} {w w' : World} {step : Step} {steps : List Step}

-- Rows are numbered from one up to the counter. What a waiting call has seen of
-- the account holds no live record of the station.
structure Steady (user : Uuid) (stationId : String) (w : World) : Prop where
  counted : memory.Counted w.store
  numbered : ∀ (key : Key) row, w.store.favourites[key]? = some row → 0 < row.syncRevision
  looked : ∀ (call : Nat) station serverRevision, w.calls[call]? = some (.looked station serverRevision) →
    station = stationId ∧ serverRevision ≤ w.store.revision ∧ ∀ (id : Uuid) row,
      w.store.favourites[(⟨user,id⟩ : Key)]? = some row → row.syncRevision ≤ serverRevision → live stationId row = false
  succeeded : ∀ call : Nat, w.calls[call]? = some (.replied .succeeded) → 1 ≤ liveFavourites user stationId w.store

theorem start_steady {store : InMemoryPersonalDataStore} {actions : List Action}
    (stored : Runs (fun s action s' => memory.step s action = s') memory.empty actions store) : Steady user stationId ⟨store,∅⟩ := by
  have rows : memory.Counted store ∧ ∀ (key : Key) row, store.favourites[key]? = some row → 0 < row.syncRevision := by
    refine stored.invariant (fun s => memory.Counted s ∧ ∀ (key : Key) row, s.favourites[key]? = some row → 0 < row.syncRevision)
      ⟨memory_orderly.starts,by simp [memory]⟩ ?_
    rintro s action _ ⟨counted,numbered⟩ rfl
    refine ⟨memory_orderly.counted action counted,fun key row found => ?_⟩
    rcases (memory_advances s action).1.2 key row found with old | ⟨later,_⟩
    · exact numbered key row old
    · exact Nat.zero_lt_of_lt later
  exact ⟨rows.1,rows.2,by simp,by simp⟩

-- What each of the two store calls leaves, whatever it answers.
theorem stored_steady {store' : InMemoryPersonalDataStore} {now : Instant} {request : SyncRequest}
    {answer : Except PersonalDataError SyncOutcome} {call : Nat} {c : Call} (steady : Steady user stationId w)
    (ran : w.store.synchronize now user request = (answer,store'))
    (kept : 1 ≤ liveFavourites user stationId w.store → 1 ≤ liveFavourites user stationId store')
    (looked : ∀ station serverRevision, c = .looked station serverRevision → station = stationId ∧
      serverRevision ≤ store'.revision ∧ ∀ (id : Uuid) row, store'.favourites[(⟨user,id⟩ : Key)]? = some row →
        row.syncRevision ≤ serverRevision → live stationId row = false)
    (succeeded : c = .replied .succeeded → 1 ≤ liveFavourites user stationId store') :
    Steady user stationId ⟨store',w.calls.insert call c⟩ := by
  have step := sync_step ran
  have advances := (memory_advances w.store (.sync now user request)).1
  rw [← step] at advances
  refine ⟨?_,?_,?_,?_⟩
  · show memory.Counted store'
    rw [step]
    exact memory_orderly.counted _ steady.counted
  · intro key row found
    rcases advances.2 key row found with old | ⟨later,_⟩
    · exact steady.numbered key row old
    · exact Nat.zero_lt_of_lt later
  · intro other station serverRevision found
    rw [Table.get_insert] at found
    split at found
    · exact looked station serverRevision (Option.some.inj found)
    · obtain ⟨same,bound,seen⟩ := steady.looked other station serverRevision found
      refine ⟨same,Nat.le_trans bound advances.1,fun id row present early => ?_⟩
      rcases advances.2 _ row present with old | ⟨later,_⟩
      · exact seen id row old early
      · omega
  · intro other found
    rw [Table.get_insert] at found
    split at found
    · exact succeeded (Option.some.inj found)
    · exact kept (steady.succeeded other found)

theorem look_steady {call : Nat} {now : Instant} {reported : Option String} (steady : Steady user stationId w)
    (reports : currentStationId reported = some stationId) :
    Steady user stationId ⟨(look w.store now user reported).2,w.calls.insert call (look w.store now user reported).1⟩ := by
  unfold look
  rw [reports]
  dsimp only
  cases ran : w.store.synchronize now user {} with
  | mk answer store' =>
    have same := look_favourites ran
    have count : liveFavourites user stationId store' = liveFavourites user stationId w.store := by
      unfold liveFavourites
      rw [same]
    have kept : 1 ≤ liveFavourites user stationId w.store → 1 ≤ liveFavourites user stationId store' := by
      rw [count]
      exact id
    cases answer with
    | error error =>
      refine stored_steady steady ran kept (fun station serverRevision impossible => ?_) fun impossible => ?_
      · cases impossible
      · cases impossible
    | ok outcome =>
      dsimp only
      split
      · rename_i listed
        refine stored_steady steady ran kept (fun station serverRevision impossible => ?_) fun _ => ?_
        · cases impossible
        · exact answer_live ran listed
      · rename_i unlisted
        refine stored_steady steady ran kept (fun station serverRevision waiting => ?_) fun impossible => ?_
        · cases waiting
          have counted := memory_orderly.counted (.sync now user {}) steady.counted
          rw [← sync_step ran] at counted
          refine ⟨rfl,memory_orderly.answers w.store now user {} outcome store' ran counted (Nat.zero_le _),fun id row found _ => ?_⟩
          refine snapshot_whole ran (Bool.not_eq_true _ ▸ unlisted) found ?_
          rw [same] at found
          exact steady.numbered _ row found
        · cases impossible

theorem push_steady {call serverRevision : Nat} {now : Instant} {recordId : Uuid} {stamp : Timestamp}
    (steady : Steady user stationId w) : Steady user stationId
      ⟨(push w.store now user stationId serverRevision recordId stamp).2,
        w.calls.insert call (.replied (push w.store now user stationId serverRevision recordId stamp).1)⟩ := by
  unfold push
  cases ran : w.store.synchronize now user ⟨serverRevision,⟨[upsertOf stationId recordId stamp],[]⟩,{}⟩ with
  | mk answer store' =>
    have kept := push_kept ran
    have idle : ∀ {reply : Reply} station revision, Call.replied reply = .looked station revision → station = stationId ∧
        revision ≤ store'.revision ∧ ∀ (id : Uuid) row, store'.favourites[(⟨user,id⟩ : Key)]? = some row →
          row.syncRevision ≤ revision → live stationId row = false := by
      intro reply station revision impossible
      cases impossible
    cases answer with
    | error error =>
      cases error with
      | favouriteLimitExceeded | validation | historyLimitExceeded | database =>
        exact stored_steady steady ran kept idle fun impossible => by cases impossible
    | ok outcome =>
      dsimp only
      split
      · rename_i listed
        exact stored_steady steady ran kept idle fun _ => answer_live ran listed
      · exact stored_steady steady ran kept idle fun impossible => by cases impossible

-- A call whose look is still good finds no live record of the station.
theorem undisturbed_none {call serverRevision : Nat} {now : Instant} {recordId : Uuid} {stamp : Timestamp}
    (steady : Steady user stationId w) (waiting : w.calls[call]? = some (.looked stationId serverRevision))
    (quiet : undisturbed user w (.push call now recordId stamp) = true) : liveFavourites user stationId w.store = 0 := by
  obtain ⟨_,_,seen⟩ := steady.looked call stationId serverRevision waiting
  unfold undisturbed at quiet
  simp only [waiting,List.all_eq_true,decide_eq_true_eq] at quiet
  by_contra several
  obtain ⟨id,row,found,alive⟩ := live_counted.mp (Nat.one_le_iff_ne_zero.mpr several)
  rw [seen id row found (quiet (id,row) (mem_accountRows.mpr found))] at alive
  cases alive

theorem step_steady (steady : Steady user stationId w) (reporting : reports stationId step = true)
    (taken : execute user w step = some w') : Steady user stationId w' := by
  cases step with
  | look call now reported =>
    unfold execute at taken
    dsimp only at taken
    split at taken
    · cases taken
      exact look_steady steady (of_decide_eq_true reporting)
    · cases taken
  | push call now recordId stamp =>
    unfold execute at taken
    dsimp only at taken
    split at taken
    · rename_i station serverRevision waiting
      obtain ⟨rfl,_⟩ := steady.looked call station serverRevision waiting
      cases taken
      exact push_steady steady
    · cases taken

theorem step_single (steady : Steady user stationId w) (single : liveFavourites user stationId w.store ≤ 1)
    (quiet : undisturbed user w step = true) (taken : execute user w step = some w') :
    liveFavourites user stationId w'.store ≤ 1 := by
  cases step with
  | look call now reported =>
    unfold execute at taken
    dsimp only at taken
    split at taken
    · cases taken
      rw [look_count]
      exact single
    · cases taken
  | push call now recordId stamp =>
    unfold execute at taken
    dsimp only at taken
    split at taken
    · rename_i station serverRevision waiting
      obtain ⟨rfl,_⟩ := steady.looked call station serverRevision waiting
      have none := undisturbed_none steady waiting quiet
      cases taken
      exact push_single none
    · cases taken

-- From whatever the store held: calls that reported success have a live record,
-- and while no call pushes after another has pushed since its look, it is one.
theorem voice_favourites_single {store : InMemoryPersonalDataStore} {actions : List Action}
    (stored : Runs (fun s action s' => memory.step s action = s') memory.empty actions store)
    (single : liveFavourites user stationId store ≤ 1) :
    (Runs (Under (fun w step => reports stationId step = true ∧ undisturbed user w step = true) (Executes (execute user)))
      ⟨store,∅⟩ steps w → liveFavourites user stationId w.store ≤ 1) ∧
    (Runs (Under (fun _ step => reports stationId step = true) (Executes (execute user))) ⟨store,∅⟩ steps w →
      ∀ call : Nat, w.calls[call]? = some (.replied .succeeded) → 1 ≤ liveFavourites user stationId w.store) := by
  constructor
  · intro path
    have both := path.invariant (fun w => Steady user stationId w ∧ liveFavourites user stationId w.store ≤ 1)
      ⟨start_steady stored,single⟩ fun _ _ _ held taken =>
        ⟨step_steady held.1 taken.1.1 taken.2,step_single held.1 held.2 taken.1.2 taken.2⟩
    exact both.2
  · intro path
    have steady := path.invariant (Steady user stationId) (start_steady stored) fun _ _ _ steady taken =>
      step_steady steady taken.1 taken.2
    exact steady.succeeded

def clock (n : Nat) : Timestamp := ⟨s!"1970-01-01T00:00:0{n}Z",DeviceControl.seconds n⟩

theorem voice_favourites_single_repeated : ∃ w : World, liveFavourites 4 "rock-fm" w.store = 1 ∧
    w.calls[(1 : Nat)]? = some (.replied .succeeded) ∧ w.calls[(2 : Nat)]? = some (.replied .succeeded) := by
  obtain ⟨w,path,seen⟩ := Transition.guarded_reaches (fun w step => reports "rock-fm" step && undisturbed 4 w step) (execute 4)
    ⟨memory.empty,∅⟩ [.look 1 (clock 1).instant (some "rock-fm"),.push 1 (clock 2).instant 7 (clock 2),
      .look 2 (clock 3).instant (some "rock-fm")]
    (fun w => w.calls[(1 : Nat)]? = some (.replied .succeeded) && w.calls[(2 : Nat)]? = some (.replied .succeeded))
    (by decide)
  simp only [Bool.and_eq_true,decide_eq_true_eq] at seen
  have quiet : Runs (Under (fun w step => reports "rock-fm" step = true ∧ undisturbed 4 w step = true) _) _ _ w :=
    path.mono fun _ _ _ taken => ⟨(Bool.and_eq_true _ _).mp taken.1,taken.2⟩
  have none : liveFavourites 4 "rock-fm" memory.empty ≤ 1 := by decide
  have single := (voice_favourites_single .nil none).1 quiet
  have there := (voice_favourites_single .nil none).2 (quiet.mono fun _ _ _ taken => ⟨taken.1.1,taken.2⟩) 1 seen.1
  exact ⟨w,Nat.le_antisymm single there,seen⟩

-- Two calls that both look before either of them pushes.
theorem voice_favourites_doubled : ∃ w, Runs (Under (fun _ step => reports "rock-fm" step = true) (Executes (execute 4)))
    ⟨memory.empty,∅⟩ [.look 1 (clock 1).instant (some "rock-fm"),.look 2 (clock 1).instant (some "rock-fm"),
      .push 1 (clock 2).instant 7 (clock 2),.push 2 (clock 2).instant 8 (clock 2)] w ∧
    liveFavourites 4 "rock-fm" w.store = 2 ∧ w.calls[(1 : Nat)]? = some (.replied .succeeded) ∧
    w.calls[(2 : Nat)]? = some (.replied .succeeded) := by
  obtain ⟨w,path,seen⟩ := Transition.guarded_reaches (fun _ step => reports "rock-fm" step) (execute 4) ⟨memory.empty,∅⟩
    [.look 1 (clock 1).instant (some "rock-fm"),.look 2 (clock 1).instant (some "rock-fm"),
      .push 1 (clock 2).instant 7 (clock 2),.push 2 (clock 2).instant 8 (clock 2)]
    (fun w => liveFavourites 4 "rock-fm" w.store = 2 && w.calls[(1 : Nat)]? = some (.replied .succeeded) &&
      w.calls[(2 : Nat)]? = some (.replied .succeeded)) (by decide)
  simp only [Bool.and_eq_true,decide_eq_true_eq] at seen
  exact ⟨w,path,seen.1.1,seen.1.2,seen.2⟩

end VoiceFavourites
