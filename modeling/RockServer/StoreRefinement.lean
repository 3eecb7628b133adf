import RockServer.SyncRuns

namespace PersonalData
open DeviceControl (Uuid Instant)
open LastWriter (Change)

-- An order-preserving renaming of revisions; zero, the cursor of a new client,
-- is fixed.
structure Renaming where
  map : Nat → Nat
  mono : StrictMono map
  zero : map 0 = 0

instance : CoeFun Renaming fun _ => Nat → Nat := ⟨Renaming.map⟩

section names
variable {F : Type} (ρ : Renaming)

def Record.rename (row : Record F) : Record F := {row with syncRevision := ρ row.syncRevision}

def rename (rows : Rows F) : Rows F := rows.map fun _ row => row.rename ρ

def SyncOutcome.rename (outcome : SyncOutcome) : SyncOutcome where
  serverRevision := ρ outcome.serverRevision
  favourites := outcome.favourites.map (Record.rename ρ)
  history := outcome.history.map (Record.rename ρ)

-- Agreement up to a counter; whatever was numbered so far keeps its name.
def Renaming.Extends (n : Nat) (ρ' : Renaming) : Prop := ∀ k ≤ n, ρ' k = ρ k

-- The next number on one side named by the next number on the other.
def Renaming.extend (n m : Nat) (room : ρ n ≤ m) : Renaming where
  map k := if k ≤ n then ρ k else m + (k - n)
  mono := by
    intro a b less
    dsimp only
    split
    · split
      · exact ρ.mono less
      · rename_i small _
        have := ρ.mono.monotone small
        omega
    · split
      · omega
      · omega
  zero := by simp [ρ.zero]

variable {ρ} {n m : Nat} {room : ρ n ≤ m}

theorem extend_extends : ρ.Extends n (ρ.extend n m room) := fun _ small => if_pos small

theorem extend_next : ρ.extend n m room (n + 1) = m + 1 := by
  simp [Renaming.extend]

theorem Renaming.Extends.trans {ρ' ρ'' : Renaming} {n' : Nat} (first : ρ.Extends n ρ') (second : ρ'.Extends n' ρ'')
    (later : n ≤ n') : ρ.Extends n ρ'' :=
  fun k small => (second k (Nat.le_trans small later)).trans (first k small)

-- Rows numbered within the counter do not notice an extension.
theorem rename_extends {ρ' : Renaming} {rows : Rows F} (extends_ : ρ.Extends n ρ')
    (counted : ∀ (key : Key) row, rows[key]? = some row → row.syncRevision ≤ n) : rename ρ' rows = rename ρ rows := by
  refine Table.same_rows fun key => ?_
  unfold rename
  rw [Table.get_map,Table.get_map]
  cases found : rows[key]? with
  | none => rfl
  | some row => simp [Record.rename,extends_ _ (counted key row found)]

theorem rename_insert {rows : Rows F} {key : Key} {row : Record F} :
    rename ρ (rows.insert key row) = (rename ρ rows).insert key (row.rename ρ) := Table.map_insert

theorem rename_version {rows : Rows F} {key : Key} :
    ((rename ρ rows)[key]?).map Record.toVersion = (rows[key]?).map Record.toVersion := by
  unfold rename
  rw [Table.get_map,Option.map_map]
  rfl

theorem rename_liveCount {rows : Rows F} {user : Uuid} : liveCount (rename ρ rows) user = liveCount rows user :=
  Table.count_map fun _ _ => rfl

theorem rename_size {rows : Rows F} : size (rename ρ rows) = size rows := Table.count_map fun _ _ => rfl

theorem rename_accountRows {rows : Rows F} {user : Uuid} : accountRows (rename ρ rows) user =
    (accountRows rows user).map fun entry => (entry.1,entry.2.rename ρ) := by
  simp [accountRows,rename,Std.ExtTreeMap.toList_map,List.filter_map,Function.comp_def]

end names

-- Batches keep tables alike. The in-memory counter moves with winning changes
-- only, the database's with every change, so the renaming grows as it goes.
section batches
variable {F : Type}

structure Alike (ρ : Renaming) (left right : Rows F × Nat) : Prop where
  rows : right.1 = rename ρ left.1
  counted : ∀ (key : Key) row, left.1[key]? = some row → row.syncRevision ≤ left.2
  room : ρ left.2 ≤ right.2

theorem place_alike (bare : Instant → F) (user : Uuid) {ρ : Renaming} {left right : Rows F × Nat}
    (alike : Alike ρ left right) (entry : Uuid × Change F Instant) : ∃ ρ', ρ.Extends left.2 ρ' ∧
      Alike ρ' (place false bare user left entry) (place true bare user right entry) := by
  obtain ⟨rows,n⟩ := left
  obtain ⟨rows',m⟩ := right
  obtain ⟨same,counted,room⟩ := alike
  dsimp only at same counted room
  subst same
  have versions : ((rename ρ rows)[(⟨user,entry.1⟩ : Key)]?).map Record.toVersion =
      (rows[(⟨user,entry.1⟩ : Key)]?).map Record.toVersion := rename_version
  cases wins : entry.2.wins ((rows[(⟨user,entry.1⟩ : Key)]?).map Record.toVersion) with
  | false =>
    rw [place_loses wins,place_loses (by rw [versions]; exact wins)]
    exact ⟨ρ,fun _ _ => rfl,rfl,counted,Nat.le_succ_of_le room⟩
  | true =>
    rw [place_wins wins,place_wins (by rw [versions]; exact wins)]
    refine ⟨ρ.extend n m room,extend_extends,?_,?_,?_⟩
    · dsimp only
      rw [versions,rename_insert,rename_extends extend_extends counted]
      simp [Record.rename,extend_next]
    · intro key row found
      dsimp only at found ⊢
      rw [Table.get_insert] at found
      split at found
      · cases Option.some.inj found
        exact Nat.le_refl _
      · exact Nat.le_succ_of_le (counted key row found)
    · exact Nat.le_of_eq extend_next

theorem placeAll_alike (bare : Instant → F) (user : Uuid) {ρ : Renaming} {left right : Rows F × Nat}
    (alike : Alike ρ left right) (entries : List (Uuid × Change F Instant)) : ∃ ρ', ρ.Extends left.2 ρ' ∧
      Alike ρ' (placeAll false bare user left entries) (placeAll true bare user right entries) := by
  induction entries generalizing ρ left right with
  | nil => exact ⟨ρ,fun _ _ => rfl,alike⟩
  | cons entry rest ih =>
    obtain ⟨ρ',first,next⟩ := place_alike bare user alike entry
    obtain ⟨ρ'',second,final⟩ := ih next
    exact ⟨ρ'',first.trans second place_revision,final⟩

end batches

-- Deltas over renamed rows are the renamed deltas.
section deltas
variable {F : Type} {ρ : Renaming}

theorem selected_rename (entries : List (Uuid × Record F)) (sinceRevision : Nat) (pushed : List Uuid)
    (start : Table Uuid (Record F)) :
    (entries.map fun entry => (entry.1,entry.2.rename ρ)).foldl (fun selected entry =>
      if ρ sinceRevision < entry.2.syncRevision ∨ entry.1 ∈ pushed then selected.insert entry.1 entry.2
      else selected) (start.map fun _ row => row.rename ρ) =
    (entries.foldl (fun selected entry =>
      if sinceRevision < entry.2.syncRevision ∨ entry.1 ∈ pushed then selected.insert entry.1 entry.2
      else selected) start).map fun _ row => row.rename ρ := by
  induction entries generalizing start with
  | nil => rfl
  | cons entry rest ih =>
    have order : ρ sinceRevision < (entry.2.rename ρ).syncRevision ↔ sinceRevision < entry.2.syncRevision :=
      ρ.mono.lt_iff_lt
    simp only [List.map_cons,List.foldl_cons,order]
    split
    · rw [← ih,Table.map_insert]
    · exact ih start

theorem cursor_rename (entries : List (Uuid × Record F)) (sinceRevision : Nat) :
    (entries.map fun entry => (entry.1,entry.2.rename ρ)).foldl (fun cursor entry => max cursor entry.2.syncRevision)
      (ρ sinceRevision) =
    ρ (entries.foldl (fun cursor entry => max cursor entry.2.syncRevision) sinceRevision) := by
  induction entries generalizing sinceRevision with
  | nil => rfl
  | cons entry rest ih =>
    simp only [List.map_cons,List.foldl_cons]
    rw [← ih,ρ.mono.monotone.map_max]
    rfl

theorem delta_rename (entries : List (Uuid × Record F)) (sinceRevision : Nat) (pushed : List Uuid) :
    deltaAndEcho (entries.map fun entry => (entry.1,entry.2.rename ρ)) (ρ sinceRevision) pushed =
    ((deltaAndEcho entries sinceRevision pushed).1.map (Record.rename ρ),ρ (deltaAndEcho entries sinceRevision pushed).2) := by
  have selected := @selected_rename _ ρ entries sinceRevision pushed ∅
  unfold deltaAndEcho
  dsimp only
  refine Prod.ext ?_ (cursor_rename entries sinceRevision)
  dsimp only
  have sorted (rows : List (Record F)) : (rows.map (Record.rename ρ)).insertionSort (fun a b =>
      a.syncRevision ≤ b.syncRevision) = (rows.insertionSort fun a b => a.syncRevision ≤ b.syncRevision).map
        (Record.rename ρ) := by
    refine (List.map_insertionSort (fun a b => a.syncRevision ≤ b.syncRevision)
      (fun a b => a.syncRevision ≤ b.syncRevision) (Record.rename ρ) rows ?_).symm
    exact fun a _ b _ => ρ.mono.le_iff_le.symm
  rw [← sorted]
  congr 1
  rw [Std.ExtTreeMap.map_eq_empty_iff.mpr rfl] at selected
  rw [selected,Std.ExtTreeMap.toList_map,List.map_map,List.map_map]
  rfl

end deltas

inductive Reply where
  | synced (answer : Except PersonalDataError SyncOutcome)
  | swept (sweep : RetentionSweep)

def Reply.rename (ρ : Renaming) : Reply → Reply
  | .synced (.ok outcome) => .synced (.ok (outcome.rename ρ))
  | reply => reply

def Reply.cursor : Reply → Nat
  | .synced (.ok outcome) => outcome.serverRevision
  | _ => 0

-- A call as a client makes it: its cursor is the one of an earlier answer, or
-- none yet. Each store numbers revisions in its own way.
inductive Script where
  | sync (now : Instant) (user : Uuid) (cursor : Option Nat) (favourites : CollectionChanges FavouriteUpsert)
      (history : CollectionChanges HistoryUpsert)
  | sweep (now : Instant)

def cursorOf (replies : List Reply) (cursor : Option Nat) : Nat :=
  ((cursor.bind fun i => replies[i]?).map Reply.cursor).getD 0

-- Both stores under one script, with what each has answered, newest first. No
-- account is a deleted one.
structure Paired where
  left : InMemoryPersonalDataStore
  right : PostgresPersonalDataStore
  told : List Reply
  heard : List Reply

def Paired.start : Paired := ⟨⟨∅,∅,0⟩,⟨∅,∅,0⟩,[],[]⟩

def Paired.after (pg : Postgres) (x : Paired) : Script → Paired
  | .sync now user cursor favourites history =>
    let left := x.left.synchronize now user ⟨cursorOf x.told cursor,favourites,history⟩
    let right := x.right.synchronize pg now user ⟨cursorOf x.heard cursor,favourites,history⟩
    ⟨left.2,right.2,.synced left.1 :: x.told,.synced right.1 :: x.heard⟩
  | .sweep now =>
    let left := x.left.sweepRetention now
    let right := x.right.sweepRetention pg now fun _ => none
    ⟨left.2,right.2,.swept left.1 :: x.told,.swept right.1 :: x.heard⟩

def Paired.steps (pg : Postgres) (x : Paired) (script : Script) (x' : Paired) : Prop := x' = x.after pg script

-- The tables with a batch merged in.
def Paired.merged (x : Paired) (user : Uuid) (request : SyncRequest) : Rows FavouriteFields × Rows HistoryFields :=
  let favourites := x.left.pushFavourites user request
  (favourites.1,(x.left.pushHistory favourites.2 user request).1)

def Postgres.KeepsRequest (pg : Postgres) (request : SyncRequest) : Prop :=
  (∀ upsert ∈ request.favourites.upserts, pg.KeepsFavourite upsert) ∧
  (∀ delete ∈ request.favourites.deletes, pg.Keeps delete.updatedAt) ∧
  (∀ upsert ∈ request.history.upserts, pg.KeepsHistory upsert) ∧
  ∀ delete ∈ request.history.deletes, pg.Keeps delete.updatedAt

-- A tombstone that a sweep at a time treats alike in both stores: not within
-- the last fraction of a microsecond of the window.
def Clear {F : Type} (now : Instant) (rows : Rows F) : Prop :=
  ∀ (key : Key) row, rows[key]? = some row → ∀ deletedAt ∈ row.deletedAt,
    now - tombstoneRetention ≤ deletedAt ∨ deletedAt < transactionClock now - tombstoneRetention

-- The steps on which the stores mirror each other: the database keeps what is
-- pushed, the batch stays within the limits and nothing is due for expiry.
def Mirrored (pg : Postgres) (x : Paired) : Script → Prop
  | .sync now user _ favourites history =>
    let request : SyncRequest := ⟨0,favourites,history⟩
    request.validate now = .ok () → pg.KeepsRequest request ∧
      liveCount (x.merged user request).1 user ≤ maxFavouriteRecords ∧
      liveCount (x.merged user request).2 user ≤ maxHistoryRecords ∧
      Unexpired (fun key => key.userId = user) (now - historyRetention) (x.merged user request).2
  | .sweep now => Unexpired (fun _ => true) (now - historyRetention) x.left.history ∧
      Clear now x.left.favourites ∧ Clear now x.left.history

-- Replies that mention only revisions within a counter.
def Reply.Within (n : Nat) : Reply → Prop
  | .synced (.ok outcome) => outcome.serverRevision ≤ n ∧ (∀ row ∈ outcome.favourites, row.syncRevision ≤ n) ∧
      ∀ row ∈ outcome.history, row.syncRevision ≤ n
  | _ => True

structure Matched (pg : Postgres) (ρ : Renaming) (x : Paired) : Prop where
  favourites : x.right.favourites = rename ρ x.left.favourites
  history : x.right.history = rename ρ x.left.history
  replies : x.heard = x.told.map (Reply.rename ρ)
  counted : memory.Counted x.left
  room : ρ x.left.revision ≤ x.right.sequence
  within : ∀ reply ∈ x.told, reply.Within x.left.revision
  steadyFavourites : ∀ (key : Key) row, x.left.favourites[key]? = some row → pg.SteadyFavourite row.toVersion
  steadyHistory : ∀ (key : Key) row, x.left.history[key]? = some row → pg.SteadyHistory row.toVersion

section simulation
variable {pg : Postgres} {ρ ρ' : Renaming} {x : Paired} {n : Nat}

theorem rows_rename_extends {F : Type} (extends_ : ρ.Extends n ρ') {rows : List (Record F)}
    (within : ∀ row ∈ rows, row.syncRevision ≤ n) : rows.map (Record.rename ρ') = rows.map (Record.rename ρ) := by
  refine List.map_congr_left fun row listed => ?_
  simp [Record.rename,extends_ _ (within row listed)]

theorem reply_rename_extends (extends_ : ρ.Extends n ρ') {reply : Reply} (within : reply.Within n) :
    reply.rename ρ' = reply.rename ρ := by
  cases reply with
  | swept sweep => rfl
  | synced answer =>
    cases answer with
    | error error => rfl
    | ok outcome =>
      obtain ⟨cursor,favourites,history⟩ := within
      simp [Reply.rename,SyncOutcome.rename,extends_ _ cursor,rows_rename_extends extends_ favourites,
        rows_rename_extends extends_ history]

theorem Reply.Within.mono {n n' : Nat} {reply : Reply} (within : reply.Within n) (later : n ≤ n') : reply.Within n' := by
  cases reply with
  | swept sweep => trivial
  | synced answer =>
    cases answer with
    | error error => trivial
    | ok outcome =>
      obtain ⟨cursor,favourites,history⟩ := within
      exact ⟨Nat.le_trans cursor later,fun row listed => Nat.le_trans (favourites row listed) later,
        fun row listed => Nat.le_trans (history row listed) later⟩

theorem replies_rename_extends (extends_ : ρ.Extends n ρ') {replies : List Reply}
    (within : ∀ reply ∈ replies, reply.Within n) : replies.map (Reply.rename ρ') = replies.map (Reply.rename ρ) :=
  List.map_congr_left fun reply listed => reply_rename_extends extends_ (within reply listed)

theorem cursorOf_rename (replies : List Reply) (cursor : Option Nat) :
    cursorOf (replies.map (Reply.rename ρ)) cursor = ρ (cursorOf replies cursor) := by
  have one (reply : Reply) : (reply.rename ρ).cursor = ρ reply.cursor := by
    cases reply with
    | swept sweep => exact ρ.zero.symm
    | synced answer => cases answer <;> first | rfl | exact ρ.zero.symm
  cases cursor with
  | none => exact ρ.zero.symm
  | some i =>
    unfold cursorOf
    dsimp only [Option.bind_some]
    rw [List.getElem?_map]
    cases replies[i]? with
    | none => exact ρ.zero.symm
    | some reply => exact one reply

theorem cursorOf_within {replies : List Reply} (within : ∀ reply ∈ replies, reply.Within n) (cursor : Option Nat) :
    cursorOf replies cursor ≤ n := by
  have one {reply : Reply} (bounded : reply.Within n) : reply.cursor ≤ n := by
    cases reply with
    | swept sweep => exact Nat.zero_le n
    | synced answer =>
      cases answer with
      | error error => exact Nat.zero_le n
      | ok outcome => exact bounded.1
  cases cursor with
  | none => exact Nat.zero_le n
  | some i =>
    unfold cursorOf
    dsimp only [Option.bind_some]
    cases found : replies[i]? with
    | none => exact Nat.zero_le n
    | some reply => exact one (within reply (List.mem_of_getElem? found))

theorem rename_unexpired {owns : Key → Bool} {cutoff : Instant} {rows : Rows HistoryFields}
    (fresh : Unexpired owns cutoff rows) : Unexpired owns cutoff (rename ρ rows) := by
  intro key row found mine live
  unfold rename at found
  rw [Table.get_map] at found
  obtain ⟨old,present,rfl⟩ := Option.map_eq_some_iff.mp found
  exact fresh key old present mine live

theorem answer_rename (favourites : List (Uuid × FavouriteRecord)) (history : List (Uuid × HistoryRecord))
    (sinceRevision : Nat) (pushedFavourites : CollectionChanges FavouriteUpsert) (pushedHistory : CollectionChanges HistoryUpsert) :
    answerFrom (favourites.map fun entry => (entry.1,entry.2.rename ρ))
      (history.map fun entry => (entry.1,entry.2.rename ρ)) ⟨ρ sinceRevision,pushedFavourites,pushedHistory⟩ =
    (answerFrom favourites history ⟨sinceRevision,pushedFavourites,pushedHistory⟩).rename ρ := by
  unfold answerFrom
  dsimp only
  rw [delta_rename,delta_rename]
  simp only [SyncOutcome.rename,SyncOutcome.mk.injEq]
  refine ⟨(ρ.mono.monotone.map_max).symm,rfl,rfl⟩

-- The database reads what was offered as it was offered.
theorem kept_entries {now : Instant} {request : SyncRequest} (valid : request.validate now = .ok ())
    (kept : pg.KeepsRequest request) : pg.favouriteEntries request = some request.favouriteEntries ∧
    pg.historyEntries request = some request.historyEntries := by
  have casts {A B : Type} {cast : A → Option B} {f : A → B} {items : List A} (each : ∀ item ∈ items, cast item = some (f item)) :
      items.mapM cast = some (items.map f) := by
    induction items with
    | nil => rfl
    | cons item rest ih =>
      have tail := ih fun other member => each other (List.mem_cons_of_mem _ member)
      simp [each item List.mem_cons_self,tail]
  obtain ⟨upserts,deletes,played,removed⟩ := kept
  obtain ⟨_,_,_,passed⟩ := validate_ok valid
  constructor
  · unfold Postgres.favouriteEntries
    rw [casts fun upsert listed => Postgres.favouriteUpsertEntry_kept (upserts upsert listed),
      casts fun delete listed => Postgres.deleteEntry_kept (deletes delete listed)]
    rfl
  · unfold Postgres.historyEntries
    rw [casts fun upsert listed => Postgres.historyUpsertEntry_kept (played upsert listed) (passed upsert listed),
      casts fun delete listed => Postgres.deleteEntry_kept (removed delete listed)]
    rfl

variable {now : Instant} {user : Uuid} {request : SyncRequest}

-- One batch on both stores, before limits and expiry.
theorem merged_alike (matched : Matched pg ρ x) (user : Uuid) (request : SyncRequest) :
    ∃ ρ', ρ.Extends x.left.revision ρ' ∧ x.left.revision ≤ (x.left.pushFavourites user request).2 ∧
      (x.right.placedFavourites user request.favouriteEntries).1 = rename ρ' (x.left.pushFavourites user request).1 ∧
      (∀ (key : Key) row, (x.left.pushFavourites user request).1[key]? = some row →
        row.syncRevision ≤ (x.left.pushFavourites user request).2) ∧
      Alike ρ' (x.left.pushHistory (x.left.pushFavourites user request).2 user request)
        (placeAll true bareHistory user
          (x.right.history,(x.right.placedFavourites user request.favouriteEntries).2) request.historyEntries) := by
  rw [InMemoryPersonalDataStore.pushFavourites_place,InMemoryPersonalDataStore.pushHistory_place]
  unfold PostgresPersonalDataStore.placedFavourites
  have grown := placeAll_revision false bareFavourite user (x.left.favourites,x.left.revision) request.favouriteEntries
  obtain ⟨ρ₁,first,favourites⟩ := placeAll_alike bareFavourite user
    (⟨matched.favourites,matched.counted.1,matched.room⟩ : Alike ρ (x.left.favourites,x.left.revision)
      (x.right.favourites,x.right.sequence)) request.favouriteEntries
  -- The history rows were numbered before this batch.
  have history : Alike ρ₁ (x.left.history,(placeAll false bareFavourite user (x.left.favourites,x.left.revision)
      request.favouriteEntries).2) (x.right.history,(placeAll true bareFavourite user
        (x.right.favourites,x.right.sequence) request.favouriteEntries).2) := by
    refine ⟨?_,fun key row found => Nat.le_trans (matched.counted.2 key row found) grown,favourites.room⟩
    exact matched.history.trans (rename_extends first matched.counted.2).symm
  obtain ⟨ρ₂,second,final⟩ := placeAll_alike bareHistory user history request.historyEntries
  refine ⟨ρ₂,first.trans second grown,grown,?_,favourites.counted,final⟩
  exact favourites.rows.trans (rename_extends second favourites.counted).symm

theorem pushed_steady (matched : Matched pg ρ x) (kept : pg.KeepsRequest request) (revision : Nat) :
    (∀ (key : Key) row, (x.left.pushFavourites user request).1[key]? = some row → pg.SteadyFavourite row.toVersion) ∧
    ∀ (key : Key) row, (x.left.pushHistory revision user request).1[key]? = some row →
      pg.SteadyHistory row.toVersion := by
  obtain ⟨upserts,deletes,played,removed⟩ := kept
  rw [InMemoryPersonalDataStore.pushFavourites_place,InMemoryPersonalDataStore.pushHistory_place]
  constructor
  · refine placeAll_rows (Q:=fun _ version => pg.SteadyFavourite version) ?_ matched.steadyFavourites
    intro entry listed stored held _
    refine LastWriter.written_all (fun _ stamp => stamp) ?_ held
    rcases List.mem_append.mp listed with offered | dropped
    · obtain ⟨upsert,member,rfl⟩ := List.mem_map.mp offered
      exact ⟨(upserts upsert member).1.2,(upserts upsert member).2.2⟩
    · obtain ⟨delete,member,rfl⟩ := List.mem_map.mp dropped
      exact (deletes delete member).2
  · refine placeAll_rows (Q:=fun _ version => pg.SteadyHistory version) ?_ matched.steadyHistory
    intro entry listed stored held _
    refine LastWriter.written_all (fun _ stamp => ⟨stamp,stamp,by simp [bareHistory]⟩) ?_ held
    rcases List.mem_append.mp listed with offered | dropped
    · obtain ⟨upsert,member,rfl⟩ := List.mem_map.mp offered
      obtain ⟨started,last,ended,_,updated⟩ := played upsert member
      refine ⟨⟨started.2,last.2,fun endedAt given => ?_⟩,updated.2⟩
      obtain ⟨stamp,present,rfl⟩ := Option.map_eq_some_iff.mp given
      exact (ended stamp present).2
    · obtain ⟨delete,member,rfl⟩ := List.mem_map.mp dropped
      exact (removed delete member).2

theorem rename_all {F : Type} {P : LastWriter.Version F Instant → Prop} {rows : Rows F}
    (held : ∀ (key : Key) row, rows[key]? = some row → P row.toVersion) :
    ∀ (key : Key) row, (rename ρ rows)[key]? = some row → P row.toVersion := by
  intro key row found
  unfold rename at found
  rw [Table.get_map] at found
  obtain ⟨old,present,rfl⟩ := Option.map_eq_some_iff.mp found
  exact held key old present

theorem memory_mirrored (valid : request.validate now = .ok ())
    (small : liveCount (x.merged user request).1 user ≤ maxFavouriteRecords)
    (few : liveCount (x.merged user request).2 user ≤ maxHistoryRecords)
    (fresh : Unexpired (fun key => key.userId = user) (now - historyRetention) (x.merged user request).2) :
    x.left.synchronize now user request =
      (.ok (answerFrom (accountRows (x.merged user request).1 user) (accountRows (x.merged user request).2 user) request),
        ⟨(x.merged user request).1,(x.merged user request).2,
          (x.left.pushHistory (x.left.pushFavourites user request).2 user request).2⟩) := by
  unfold Paired.merged at *
  unfold InMemoryPersonalDataStore.synchronize
  rw [valid]
  dsimp only at *
  rw [expireHistory_unexpired fresh,if_neg (Nat.not_lt.mpr small),if_neg (Nat.not_lt.mpr few)]
  rfl

theorem postgres_mirrored {favourites : Rows FavouriteFields} {history : Rows HistoryFields × Nat} (sinceRevision : Nat)
    (valid : request.validate now = .ok ()) (kept : pg.KeepsRequest request)
    (placed : (x.right.placedFavourites user request.favouriteEntries).1 = favourites)
    (pushed : placeAll true bareHistory user
      (x.right.history,(x.right.placedFavourites user request.favouriteEntries).2) request.historyEntries = history)
    (small : liveCount favourites user ≤ maxFavouriteRecords) (few : liveCount history.1 user ≤ maxHistoryRecords)
    (fresh : Unexpired (fun key => key.userId = user) (now - historyRetention) history.1)
    (steadyFavourites : ∀ (key : Key) row, favourites[key]? = some row → pg.SteadyFavourite row.toVersion)
    (steadyHistory : ∀ (key : Key) row, history.1[key]? = some row → pg.SteadyHistory row.toVersion) :
    x.right.synchronize pg now user {request with sinceRevision := sinceRevision} =
      (.ok (answerFrom (accountRows favourites user) (accountRows history.1 user)
        {request with sinceRevision := sinceRevision}),⟨favourites,history.1,history.2⟩) := by
  obtain ⟨castFavourites,castHistory⟩ := kept_entries valid kept
  have settled : x.right.placedHistory pg now user {request with sinceRevision := sinceRevision}
      request.favouriteEntries request.historyEntries = history := by
    unfold PostgresPersonalDataStore.placedHistory Postgres.expireUserHistory
    dsimp only
    rw [pushed,Postgres.expireWhere_unexpired fresh]
    split <;> rfl
  have ran : x.right.push pg now user {request with sinceRevision := sinceRevision} =
      .ok ⟨favourites,history.1,history.2⟩ := by
    refine PostgresPersonalDataStore.push_ok.mpr ⟨_,_,castFavourites,castHistory,.inr ?_,.inr ?_,?_⟩
    · rw [placed]
      exact small
    · rw [settled]
      exact few
    · rw [placed,settled]
  have passed : ({request with sinceRevision := sinceRevision} : SyncRequest).validate now = .ok () := valid
  have answered := @PostgresPersonalDataStore.synchronize_ok pg x.right _ now user _ passed ran steadyFavourites steadyHistory
  exact answered

theorem answer_within {favourites : Rows FavouriteFields} {history : Rows HistoryFields} (since : request.sinceRevision ≤ n)
    (countedFavourites : ∀ (key : Key) row, favourites[key]? = some row → row.syncRevision ≤ n)
    (countedHistory : ∀ (key : Key) row, history[key]? = some row → row.syncRevision ≤ n) :
    (Reply.synced (.ok (answerFrom (accountRows favourites user) (accountRows history user) request))).Within n := by
  refine ⟨Nat.max_le.mpr ⟨cursor_le _ since ?_,cursor_le _ since ?_⟩,?_,?_⟩
  · exact fun entry member => countedFavourites _ entry.2 (mem_accountRows.mp member)
  · exact fun entry member => countedHistory _ entry.2 (mem_accountRows.mp member)
  · intro row listed
    obtain ⟨id,member,_⟩ := (mem_delta (accountRows_distinct _ _)).mp listed
    exact countedFavourites _ row (mem_accountRows.mp member)
  · intro row listed
    obtain ⟨id,member,_⟩ := (mem_delta (accountRows_distinct _ _)).mp listed
    exact countedHistory _ row (mem_accountRows.mp member)

theorem matched_batch (matched : Matched pg ρ x) (valid : request.validate now = .ok ()) (kept : pg.KeepsRequest request)
    (small : liveCount (x.merged user request).1 user ≤ maxFavouriteRecords)
    (few : liveCount (x.merged user request).2 user ≤ maxHistoryRecords)
    (fresh : Unexpired (fun key => key.userId = user) (now - historyRetention) (x.merged user request).2)
    (since : request.sinceRevision ≤ x.left.revision) :
    ∃ ρ', Matched pg ρ' {
      left := (x.left.synchronize now user request).2
      right := (x.right.synchronize pg now user {request with sinceRevision := ρ request.sinceRevision}).2
      told := .synced (x.left.synchronize now user request).1 :: x.told
      heard := .synced (x.right.synchronize pg now user
        {request with sinceRevision := ρ request.sinceRevision}).1 :: x.heard} := by
  obtain ⟨ρ',extends_,grown,placed,counted,pushed⟩ := merged_alike matched user request
  obtain ⟨steadyFavourites,steadyHistory⟩ := @pushed_steady _ _ _ user _ matched kept (x.left.pushFavourites user request).2
  have right := postgres_mirrored (ρ request.sinceRevision) valid kept placed rfl
    (by rw [rename_liveCount]; exact small) (by rw [pushed.rows,rename_liveCount]; exact few)
    (by rw [pushed.rows]; exact rename_unexpired fresh) (rename_all steadyFavourites)
    (by rw [pushed.rows]; exact rename_all steadyHistory)
  rw [memory_mirrored valid small few fresh,right,← extends_ _ since]
  have later : (x.left.pushFavourites user request).2 ≤
      (x.left.pushHistory (x.left.pushFavourites user request).2 user request).2 := by
    rw [InMemoryPersonalDataStore.pushHistory_place]
    exact placeAll_revision false bareHistory user (x.left.history,_) _
  have bound := Nat.le_trans grown later
  have countedAll : ∀ (key : Key) row, (x.left.pushFavourites user request).1[key]? = some row → row.syncRevision ≤
      (x.left.pushHistory (x.left.pushFavourites user request).2 user request).2 :=
    fun key row found => Nat.le_trans (counted key row found) later
  refine ⟨ρ',?_⟩
  constructor
  · rfl
  · exact pushed.rows
  · rw [matched.replies,pushed.rows,rename_accountRows,rename_accountRows,answer_rename,List.map_cons,
      replies_rename_extends extends_ matched.within]
    rfl
  · exact ⟨countedAll,pushed.counted⟩
  · exact pushed.room
  · refine List.forall_mem_cons.mpr ⟨answer_within (Nat.le_trans since bound) countedAll pushed.counted,?_⟩
    exact fun reply listed => (matched.within reply listed).mono bound
  · exact steadyFavourites
  · exact steadyHistory

theorem matched_sync {cursor : Option Nat} {favourites : CollectionChanges FavouriteUpsert}
    {history : CollectionChanges HistoryUpsert} (matched : Matched pg ρ x)
    (mirrored : Mirrored pg x (.sync now user cursor favourites history)) :
    ∃ ρ', Matched pg ρ' (x.after pg (.sync now user cursor favourites history)) := by
  have cursors : cursorOf x.heard cursor = ρ (cursorOf x.told cursor) := by rw [matched.replies,cursorOf_rename]
  have since := cursorOf_within matched.within cursor
  unfold Paired.after
  dsimp only
  rw [cursors]
  generalize cursorOf x.told cursor = c at since
  cases valid : (⟨c,favourites,history⟩ : SyncRequest).validate now with
  | error error =>
    have refused : (⟨ρ c,favourites,history⟩ : SyncRequest).validate now = .error error := valid
    unfold InMemoryPersonalDataStore.synchronize PostgresPersonalDataStore.synchronize
    rw [valid,refused]
    refine ⟨ρ,{matched with replies := ?_,within := ?_}⟩
    · rw [matched.replies]
      rfl
    · exact List.forall_mem_cons.mpr ⟨trivial,matched.within⟩
  | ok done =>
    obtain ⟨kept,small,few,fresh⟩ := mirrored valid
    exact @matched_batch _ _ _ _ _ ⟨c,favourites,history⟩ matched valid kept small few fresh since

theorem purge_none {F : Type} {rows : Rows F} : purgeDeletedAccountRows now (fun _ => none) rows = rows := by
  refine Table.same_rows fun key => ?_
  unfold purgeDeletedAccountRows
  rw [Table.filter_get]
  cases rows[key]? <;> rfl

theorem prune_rename {F : Type} {rows : Rows F} (clear : Clear now rows) :
    pruneTombstones now (rename ρ rows) = rename ρ (retainTombstones (now - tombstoneRetention) rows) := by
  refine Table.same_rows fun key => ?_
  unfold pruneTombstones retainTombstones rename
  rw [Table.filter_get,Table.get_map,Table.get_map,Table.filter_get]
  cases found : rows[key]? with
  | none => rfl
  | some row =>
    have verdict : (!(row.rename ρ).deletedAt.any fun deleted => deleted < transactionClock now - tombstoneRetention) =
        row.deletedAt.all fun deleted => now - tombstoneRetention ≤ deleted := by
      change (!row.deletedAt.any fun deleted => deleted < transactionClock now - tombstoneRetention) = _
      cases marked : row.deletedAt with
      | none => rfl
      | some deletedAt =>
        have early := Int.sub_le_sub_right (Postgres.clock_le now) tombstoneRetention
        rcases clear key row found deletedAt marked with recent | old
        · have kept : ¬deletedAt < transactionClock now - tombstoneRetention := not_lt_of_ge (le_trans early recent)
          simp only [Option.any_some,Option.all_some,decide_eq_true recent,decide_eq_false kept,Bool.not_false]
        · have gone : ¬now - tombstoneRetention ≤ deletedAt := not_le_of_gt (lt_of_lt_of_le old early)
          simp only [Option.any_some,Option.all_some,decide_eq_true old,decide_eq_false gone,Bool.not_true]
    rw [Option.map_some,Option.filter_some,Option.filter_some,verdict]
    split <;> rfl

theorem matched_sweep (matched : Matched pg ρ x) (mirrored : Mirrored pg x (.sweep now)) :
    Matched pg ρ (x.after pg (.sweep now)) := by
  obtain ⟨fresh,clearFavourites,clearHistory⟩ := mirrored
  have left : x.left.sweepRetention now = (⟨0,
      (size x.left.history - size (retainTombstones (now - tombstoneRetention) x.left.history)) +
        (size x.left.favourites - size (retainTombstones (now - tombstoneRetention) x.left.favourites)),0⟩,
      ⟨retainTombstones (now - tombstoneRetention) x.left.favourites,
        retainTombstones (now - tombstoneRetention) x.left.history,x.left.revision⟩) := by
    unfold InMemoryPersonalDataStore.sweepRetention
    rw [expiredKeys_nil.mpr fresh]
    rfl
  have right : x.right.sweepRetention pg now (fun _ => none) = (⟨0,
      (size x.left.history - size (retainTombstones (now - tombstoneRetention) x.left.history)) +
        (size x.left.favourites - size (retainTombstones (now - tombstoneRetention) x.left.favourites)),0⟩,
      ⟨rename ρ (retainTombstones (now - tombstoneRetention) x.left.favourites),
        rename ρ (retainTombstones (now - tombstoneRetention) x.left.history),x.right.sequence⟩) := by
    unfold PostgresPersonalDataStore.sweepRetention
    rw [matched.favourites,matched.history,Postgres.expireWhere_unexpired (rename_unexpired fresh)]
    dsimp only
    rw [purge_none,purge_none,prune_rename clearFavourites,prune_rename clearHistory]
    simp only [rename_size,Nat.sub_self,Nat.add_comm]
  unfold Paired.after
  dsimp only
  rw [left,right]
  exact {
    favourites := rfl
    history := rfl
    replies := by rw [matched.replies]; rfl
    counted := ⟨fun key row found => matched.counted.1 key row (Table.get_filter.mp found).1,
      fun key row found => matched.counted.2 key row (Table.get_filter.mp found).1⟩
    room := matched.room
    within := List.forall_mem_cons.mpr ⟨trivial,matched.within⟩
    steadyFavourites := fun key row found => matched.steadyFavourites key row (Table.get_filter.mp found).1
    steadyHistory := fun key row found => matched.steadyHistory key row (Table.get_filter.mp found).1}

theorem matched_start : Matched pg ⟨id,strictMono_id,rfl⟩ Paired.start where
  favourites := by simp [Paired.start,rename]
  history := by simp [Paired.start,rename]
  replies := rfl
  counted := by constructor <;> simp [Paired.start,memory]
  room := Nat.le_refl 0
  within := by simp [Paired.start]
  steadyFavourites := by simp [Paired.start]
  steadyHistory := by simp [Paired.start]

end simulation

-- Along every script whose steps are mirrored, the stores hold the same rows
-- and have given the same answers, up to one renaming of revisions.
theorem memory_mirrors_postgres {pg : Postgres} {scripts : List Script} {x : Paired}
    (path : Transition.Runs (Transition.Under (Mirrored pg) (Paired.steps pg)) Paired.start scripts x) :
    ∃ ρ : Renaming, x.right.favourites = rename ρ x.left.favourites ∧ x.right.history = rename ρ x.left.history ∧
      x.heard = x.told.map (Reply.rename ρ) := by
  obtain ⟨ρ,matched⟩ : ∃ ρ, Matched pg ρ x := by
    refine path.invariant (fun x => ∃ ρ, Matched pg ρ x) ⟨_,matched_start⟩ ?_
    intro x script x' held taken
    obtain ⟨ρ,matched⟩ := held
    obtain ⟨mirrored,rfl⟩ := taken
    cases script with
    | sync now user cursor favourites history => exact matched_sync matched mirrored
    | sweep now => exact ⟨ρ,matched_sweep matched mirrored⟩
  exact ⟨ρ,matched.favourites,matched.history,matched.replies⟩

-- A favourite, then the same again together with a deletion: the database uses
-- up a revision on the upsert that loses.
def listing : Script := .sync (second 9).instant 1 none {upserts := [⟨7,"rock-fm",second 1,second 1⟩]} {}

def relisting : Script :=
  .sync (second 9).instant 1 (some 0) {upserts := [⟨7,"rock-fm",second 1,second 1⟩],deletes := [⟨8,second 2⟩]} {}

def relisted : Paired := (Paired.start.after sampleServer listing).after sampleServer relisting

theorem sample_kept {favourites : CollectionChanges FavouriteUpsert}
    (upserts : ∀ upsert ∈ favourites.upserts, sampleServer.KeepsFavourite upsert)
    (deletes : ∀ delete ∈ favourites.deletes, sampleServer.Keeps delete.updatedAt) :
    sampleServer.KeepsRequest ⟨0,favourites,{}⟩ := ⟨upserts,deletes,by simp,by simp⟩

theorem memory_mirrors_postgres_relisted : ∃ ρ : Renaming,
    relisted.right.favourites = rename ρ relisted.left.favourites ∧
    relisted.right.history = rename ρ relisted.left.history ∧
    relisted.heard = relisted.told.map (Reply.rename ρ) := by
  have kept : ∀ upsert ∈ [(⟨7,"rock-fm",second 1,second 1⟩ : FavouriteUpsert)], sampleServer.KeepsFavourite upsert :=
    List.forall_mem_singleton.mpr ⟨second_kept 1,second_kept 1⟩
  have first : Mirrored sampleServer Paired.start listing := by
    intro _
    exact ⟨sample_kept kept (by simp),by decide,by decide,expiredKeys_nil.mp (by decide)⟩
  have second_ : Mirrored sampleServer (Paired.start.after sampleServer listing) relisting := by
    intro _
    refine ⟨sample_kept kept (List.forall_mem_singleton.mpr (second_kept 2)),by decide,by decide,?_⟩
    exact expiredKeys_nil.mp (by decide)
  exact memory_mirrors_postgres (.snoc (.single ⟨first,rfl⟩) ⟨second_,rfl⟩)

-- A play of two hundred days ago is expired by the push that brings it, with
-- different marks.
def stale : Script :=
  .sync (DeviceControl.days 200) 1 none {}
    {upserts := [⟨7,"rock-fm",second 1,second 1,none,none,none,⟨"1970-07-19T00:00:00Z",DeviceControl.days 199⟩⟩]}

theorem expiry_marks_differ : ¬∃ ρ : Renaming,
    (Paired.start.after sampleServer stale).right.history = rename ρ (Paired.start.after sampleServer stale).left.history := by
  rintro ⟨ρ,same⟩
  have versions := congrArg (fun rows : Rows HistoryFields => (rows[(⟨1,7⟩ : Key)]?).map Record.toVersion) same
  rw [rename_version] at versions
  exact absurd versions (by decide)

end PersonalData
