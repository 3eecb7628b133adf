import RockServer.PersonalPostgres
import RockServer.Transition

namespace PersonalData
open DeviceControl (Uuid Instant)
open LastWriter (Change)

-- The syncs of one account as concurrent transactions at READ COMMITTED.
-- Revisions come from a sequence at once and for good; rows are seen by others
-- from the commit on; each statement sees what is committed when it runs, and
-- its transaction's own rows.

-- One account's rows of a collection, by record.
abbrev Records (F : Type) := Table Uuid (Record F)

inductive Statement where
  | favouriteUpsert (upsert : FavouriteUpsert)
  | favouriteDelete (delete : RecordDelete)
  | favouriteLimit
  | historyUpsert (upsert : HistoryUpsert)
  | historyDelete (delete : RecordDelete)
  | expireHistory
  | historyLimit
  | readFavourites
  | readHistory
  | commit

-- Everything before the two reads and the commit.
def Statement.prepares : Statement → Bool
  | .readFavourites | .readHistory | .commit => false
  | _ => true

def SyncRequest.preparation (request : SyncRequest) : List Statement :=
  request.favourites.upserts.map .favouriteUpsert ++ request.favourites.deletes.map .favouriteDelete ++
  (if request.favourites.upserts.isEmpty then [] else [.favouriteLimit]) ++
  request.history.upserts.map .historyUpsert ++ request.history.deletes.map .historyDelete ++
  (if request.history.upserts.isEmpty then [] else [.expireHistory,.historyLimit])

def SyncRequest.program (request : SyncRequest) : List Statement :=
  request.preparation ++ [.readFavourites,.readHistory,.commit]

-- A transaction's own rows of a collection, the rows it has locked, and what
-- its final SELECT returned.
structure Shelf (F : Type) where
  written : Records F := ∅
  locked : List Uuid := []
  read : Option (Records F) := none

structure Transaction where
  client : Nat
  now : Instant
  request : SyncRequest
  rest : List Statement
  revision : Option Nat := none
  scan : Option (List Uuid) := none
  favourites : Shelf FavouriteFields := {}
  history : Shelf HistoryFields := {}

-- A device keeps what it was told, by record, and the cursor of its last
-- answer. It waits for one sync before it starts the next.
structure Client where
  favourites : Records FavouriteFields := ∅
  history : Records HistoryFields := ∅
  cursor : Nat := 0
  busy : Bool := false

structure Server where
  favourites : Records FavouriteFields
  history : Records HistoryFields
  sequence : Nat
  transactions : Table Nat Transaction
  clients : Table Nat Client

def Server.start : Server := ⟨∅,∅,0,∅,∅⟩

inductive Move where
  | start (t client : Nat) (now : Instant) (favourites : CollectionChanges FavouriteUpsert)
      (history : CollectionChanges HistoryUpsert)
  | nextval (t : Nat)
  | statement (t : Nat)
  | expire (t : Nat) (recordId : Uuid)
  | rollback (t : Nat)
  | answer (t : Nat)
  | lose (t : Nat)
  | elsewhere

def Transaction.begun (client : Nat) (now : Instant) (request : SyncRequest) : Transaction :=
  {client := client,now := now,request := request,rest := request.program}

def Move.transaction : Move → Option Nat
  | .start t _ _ _ _ | .nextval t | .statement t | .expire t _ | .rollback t | .answer t | .lose t => some t
  | .elsewhere => none

section shelf
variable {F : Type}

def Shelf.visible (shelf : Shelf F) (committed : Records F) : Records F := committed ∪ shelf.written

-- An insertion meets the latest committed row or the transaction's own; the
-- row stays locked even if the update's condition fails.
def Shelf.insertOnConflict (shelf : Shelf F) (committed : Records F) (bare : Instant → F) (revision : Nat)
    (entry : Uuid × Change F Instant) : Shelf F :=
  let stored := ((shelf.visible committed)[entry.1]?).map Record.toVersion
  {shelf with
    locked := entry.1 :: shelf.locked
    written := if entry.2.wins stored then
        shelf.written.insert entry.1 ⟨entry.2.written bare stored,entry.1,revision⟩
      else shelf.written}

def Shelf.select (shelf : Shelf F) (committed : Records F) : Shelf F := {shelf with read := some (shelf.visible committed)}

def Shelf.committed (shelf : Shelf F) : Shelf F := {shelf with written := ∅,locked := []}

def liveRecords (records : Records F) : Nat := Table.count (fun _ row => row.deletedAt.isNone) records

def isExpired (clock : Instant) (row : HistoryRecord) : Bool :=
  row.deletedAt.isNone && row.fields.startedAt < clock - historyRetention

-- The UPDATE looks at a row again once it has its lock.
def Shelf.expire (shelf : Shelf HistoryFields) (committed : Records HistoryFields) (clock : Instant) (revision : Nat)
    (recordId : Uuid) : Shelf HistoryFields :=
  match (shelf.visible committed)[recordId]? with
  | none => shelf
  | some row =>
    if isExpired clock row then {shelf with
      locked := recordId :: shelf.locked
      written := shelf.written.insert recordId {Postgres.expiredAt clock row with syncRevision := revision}}
    else shelf

def Postgres.shown (projected : Record F → Option (Record F)) (records : Records F) : Option (List (Uuid × Record F)) :=
  records.toList.mapM fun entry => (projected entry.2).map fun row => (entry.1,row)

def learn (replica : Records F) (told : List (Record F)) : Records F :=
  told.foldl (fun replica record => replica.insert record.recordId record) replica

end shelf

namespace Server
variable (pg : Postgres) (w : Server) (t : Nat) (x : Transaction)

-- A device that has not synced yet knows nothing.
def client (c : Nat) : Client := (w.clients[c]?).getD {}

def put : Server := {w with transactions := w.transactions.insert t x}

-- A transaction is over; its device may sync again.
def drop : Server := {w with
  transactions := w.transactions.erase t
  clients := w.clients.insert x.client {w.client x.client with busy := false}}

def lockedElsewhere (locked : Transaction → List Uuid) (recordId : Uuid) : Bool :=
  w.transactions.toList.any fun entry => entry.1 ≠ t && (locked entry.2).contains recordId

def insertFavourite (rest : List Statement) (entry : Option (Uuid × Change FavouriteFields Instant)) : Option Server :=
  match x.revision,entry with
  | none,_ => none
  | some _,none => some (w.drop t x)
  | some n,some entry =>
    if w.lockedElsewhere t (·.favourites.locked) entry.1 then none
    else some (w.put t {x with
      rest := rest
      revision := none
      favourites := x.favourites.insertOnConflict w.favourites bareFavourite n entry})

def insertHistory (rest : List Statement) (entry : Option (Uuid × Change HistoryFields Instant)) : Option Server :=
  match x.revision,entry with
  | none,_ => none
  | some _,none => some (w.drop t x)
  | some n,some entry =>
    if w.lockedElsewhere t (·.history.locked) entry.1 then none
    else some (w.put t {x with
      rest := rest
      revision := none
      history := x.history.insertOnConflict w.history bareHistory n entry})

def limit (rest : List Statement) (exceeded : Bool) : Option Server :=
  if exceeded then some (w.drop t x) else some (w.put t {x with rest := rest})

-- The UPDATE of an expiry first finds its rows, then takes them one by one.
def expireHistory (rest : List Statement) : Option Server :=
  match x.scan with
  | none => some (w.put t {x with scan := some (((x.history.visible w.history).toList.filter fun entry =>
      isExpired (transactionClock x.now) entry.2).map Prod.fst)})
  | some [] => some (w.put t {x with rest := rest,scan := none})
  | some (_ :: _) => none

def commit (rest : List Statement) : Server := {w with
  favourites := x.favourites.visible w.favourites
  history := x.history.visible w.history
  transactions := w.transactions.insert t {x with
    rest := rest
    favourites := x.favourites.committed
    history := x.history.committed}}

def runStatement : Option Server :=
  match x.rest with
  | [] => none
  | .favouriteUpsert upsert :: rest => w.insertFavourite t x rest (pg.favouriteUpsertEntry upsert)
  | .favouriteDelete delete :: rest => w.insertFavourite t x rest (pg.deleteEntry delete)
  | .favouriteLimit :: rest => w.limit t x rest (maxFavouriteRecords < liveRecords (x.favourites.visible w.favourites))
  | .historyUpsert upsert :: rest => w.insertHistory t x rest (pg.historyUpsertEntry upsert)
  | .historyDelete delete :: rest => w.insertHistory t x rest (pg.deleteEntry delete)
  | .expireHistory :: rest => w.expireHistory t x rest
  | .historyLimit :: rest => w.limit t x rest (maxHistoryRecords < liveRecords (x.history.visible w.history))
  | .readFavourites :: rest => some (w.put t {x with
      rest := rest
      favourites := x.favourites.select w.favourites})
  | .readHistory :: rest => some (w.put t {x with
      rest := rest
      history := x.history.select w.history})
  | .commit :: rest => some (w.commit t x rest)

-- Whether the statement at hand evaluates `nextval`. An insertion does so once;
-- an UPDATE may do so again when a row has changed under it.
def draws : Bool :=
  match x.rest,x.scan with
  | .favouriteUpsert _ :: _,_ | .favouriteDelete _ :: _,_ | .historyUpsert _ :: _,_ | .historyDelete _ :: _,_ =>
    x.revision.isNone
  | .expireHistory :: _,some (_ :: _) => true
  | _,_ => false

def expireRecord (recordId : Uuid) : Option Server :=
  match x.rest,x.scan,x.revision with
  | .expireHistory :: _,some records,some n =>
    if !records.contains recordId || w.lockedElsewhere t (·.history.locked) recordId then none
    else some (w.put t {x with
      scan := some (records.erase recordId)
      revision := none
      history := x.history.expire w.history (transactionClock x.now) n recordId})
  | _,_,_ => none

-- The answer is made from the rows read, after the commit.
def answer : Option Server := do
  let favourites ← Postgres.shown pg.projectFavourite (← x.favourites.read)
  let history ← Postgres.shown pg.projectHistory (← x.history.read)
  let outcome := answerFrom favourites history x.request
  let client := w.client x.client
  some {w with
    transactions := w.transactions.erase t
    clients := w.clients.insert x.client {
      favourites := learn client.favourites outcome.favourites
      history := learn client.history outcome.history
      cursor := outcome.serverRevision
      busy := false}}

def begin (client : Nat) (now : Instant) (request : SyncRequest) : Server := {w with
  transactions := w.transactions.insert t (.begun client now request)
  clients := w.clients.insert client {w.client client with busy := true}}

def execute : Move → Option Server
  | .start t client now favourites history =>
    let request : SyncRequest := ⟨(w.client client).cursor,favourites,history⟩
    if (w.transactions[t]?).isSome || (w.client client).busy || request.validate now ≠ .ok () then none
    else some (w.begin t client now request)
  | .nextval t => do
    let x ← w.transactions[t]?
    if draws x then some {w.put t {x with revision := some (w.sequence + 1)} with sequence := w.sequence + 1} else none
  | .statement t => do w.runStatement pg t (← w.transactions[t]?)
  | .expire t recordId => do w.expireRecord t (← w.transactions[t]?) recordId
  | .rollback t => do
    let x ← w.transactions[t]?
    if x.rest.isEmpty then none else some (w.drop t x)
  | .answer t => do
    let x ← w.transactions[t]?
    if x.rest.isEmpty then w.answer pg t x else none
  | .lose t => do
    let x ← w.transactions[t]?
    if x.rest.isEmpty then some (w.drop t x) else none
  | .elsewhere => some {w with sequence := w.sequence + 1}

end Server

-- What a move can do, said once.
section moves
variable {F : Type}

def Named (records : Records F) : Prop := ∀ (id : Uuid) row, records[id]? = some row → row.recordId = id

-- A shelf while its transaction prepares its batch: rows are written at the
-- revision drawn for them.
structure Shelf.Grows (committed : Records F) (revision : Option Nat) (shelf shelf' : Shelf F) : Prop where
  read : shelf'.read = shelf.read
  named : Named (shelf.visible committed) → Named shelf'.written
  drawn : ∀ (id : Uuid) row, shelf'.written[id]? = some row →
    shelf.written[id]? = some row ∨ revision = some row.syncRevision

structure Prepares (w : Server) (n : Nat) (x x' : Transaction) : Prop where
  head : ∃ statement rest, x.rest = statement :: rest ∧ statement.prepares = true ∧ (x'.rest = x.rest ∨ x'.rest = rest)
  client : x'.client = x.client
  request : x'.request = x.request
  counted : w.sequence ≤ n
  revision : ∀ r, x'.revision = some r → x.revision = some r ∨ w.sequence < r ∧ r ≤ n
  favourites : x.favourites.Grows w.favourites x.revision x'.favourites
  history : x.history.Grows w.history x.revision x'.history

inductive Happens (pg : Postgres) (w : Server) : Move → Server → Prop where
  | start {t c now favourites history} (fresh : w.transactions[t]? = none) (idle : (w.client c).busy = false) :
      Happens pg w (.start t c now favourites history) (w.begin t c now ⟨(w.client c).cursor,favourites,history⟩)
  | prepare {move t x x' n} (found : w.transactions[t]? = some x) (mover : move.transaction = some t)
      (prepared : Prepares w n x x') : Happens pg w move {w.put t x' with sequence := n}
  | readFavourites {t x rest} (found : w.transactions[t]? = some x) (head : x.rest = .readFavourites :: rest) :
      Happens pg w (.statement t) (w.put t {x with rest := rest,favourites := x.favourites.select w.favourites})
  | readHistory {t x rest} (found : w.transactions[t]? = some x) (head : x.rest = .readHistory :: rest) :
      Happens pg w (.statement t) (w.put t {x with rest := rest,history := x.history.select w.history})
  | commit {t x rest} (found : w.transactions[t]? = some x) (head : x.rest = .commit :: rest) :
      Happens pg w (.statement t) (w.commit t x rest)
  | finish {move t x} (found : w.transactions[t]? = some x) (mover : move.transaction = some t) :
      Happens pg w move (w.drop t x)
  | answer {t x w'} (found : w.transactions[t]? = some x) (finished : x.rest = [])
      (answered : w.answer pg t x = some w') : Happens pg w (.answer t) w'
  | elsewhere : Happens pg w .elsewhere {w with sequence := w.sequence + 1}

variable {shelf : Shelf F} {committed : Records F} {id : Uuid} {revision : Option Nat}

theorem visible_get : (shelf.visible committed)[id]? = (shelf.written[id]?).or committed[id]? :=
  Std.ExtTreeMap.getElem?_union

theorem Named.insert {records : Records F} {row : Record F} (named : Named records) (mine : row.recordId = id) :
    Named (records.insert id row) := by
  intro other found present
  rw [Table.get_insert] at present
  split at present
  · rename_i same
    cases Option.some.inj present
    exact mine.trans same
  · exact named other found present

theorem Named.written (named : Named (shelf.visible committed)) : Named shelf.written := by
  intro id row present
  refine named id row ?_
  rw [visible_get,present,Option.some_or]

theorem Named.visible (stored : Named committed) (written : Named shelf.written) : Named (shelf.visible committed) := by
  intro id row present
  rw [visible_get] at present
  rcases Option.or_eq_some_iff.mp present with own | ⟨_,old⟩
  · exact written id row own
  · exact stored id row old

theorem Shelf.Grows.refl : shelf.Grows committed revision shelf := ⟨rfl,fun named => named.written,fun _ _ => .inl⟩

theorem Shelf.Grows.insert {n : Nat} {row : Record F} {locked : List Uuid} (drawn : row.syncRevision = n)
    (mine : Named (shelf.visible committed) → row.recordId = id) :
    shelf.Grows committed (some n) {shelf with locked := locked,written := shelf.written.insert id row} := by
  refine ⟨rfl,fun named => named.written.insert (mine named),fun other found present => ?_⟩
  rw [Table.get_insert] at present
  split at present
  · cases Option.some.inj present
    exact .inr (congrArg some drawn.symm)
  · exact .inl present

theorem insertOnConflict_grows (bare : Instant → F) (n : Nat) (entry : Uuid × Change F Instant) :
    shelf.Grows committed (some n) (shelf.insertOnConflict committed bare n entry) := by
  unfold Shelf.insertOnConflict
  dsimp only
  split
  · exact .insert rfl fun _ => rfl
  · exact ⟨rfl,fun named => named.written,fun _ _ => .inl⟩

theorem expire_grows {shelf : Shelf HistoryFields} {committed : Records HistoryFields} (clock : Instant) (n : Nat)
    (recordId : Uuid) : shelf.Grows committed (some n) (shelf.expire committed clock n recordId) := by
  unfold Shelf.expire
  cases present : (shelf.visible committed)[recordId]? with
  | none => exact .refl
  | some row =>
    dsimp only
    split
    · exact .insert rfl fun named => named recordId row present
    · exact .refl

end moves

namespace Server
variable {pg : Postgres} {w w' : Server} {t : Nat} {x : Transaction} {rest : List Statement}

theorem draws_head (drawing : draws x = true) : ∃ statement rest, x.rest = statement :: rest ∧ statement.prepares = true := by
  unfold draws at drawing
  split at drawing
  all_goals first
    | exact ⟨_,_,‹_›,rfl⟩
    | cases drawing

theorem insertFavourite_happens {statement : Statement} {entry : Option (Uuid × Change FavouriteFields Instant)}
    (found : w.transactions[t]? = some x) (head : x.rest = statement :: rest) (prepares : statement.prepares = true)
    (ran : w.insertFavourite t x rest entry = some w') : Happens pg w (.statement t) w' := by
  unfold insertFavourite at ran
  split at ran
  · cases ran
  · cases ran
    exact .finish found rfl
  · rename_i n _ drawn
    split at ran
    · cases ran
    · cases ran
      refine .prepare found rfl ⟨⟨statement,rest,head,prepares,.inr rfl⟩,rfl,rfl,Nat.le_refl _,by simp,?_,.refl⟩
      exact drawn ▸ insertOnConflict_grows _ _ _

theorem insertHistory_happens {statement : Statement} {entry : Option (Uuid × Change HistoryFields Instant)}
    (found : w.transactions[t]? = some x) (head : x.rest = statement :: rest) (prepares : statement.prepares = true)
    (ran : w.insertHistory t x rest entry = some w') : Happens pg w (.statement t) w' := by
  unfold insertHistory at ran
  split at ran
  · cases ran
  · cases ran
    exact .finish found rfl
  · rename_i n _ drawn
    split at ran
    · cases ran
    · cases ran
      refine .prepare found rfl ⟨⟨statement,rest,head,prepares,.inr rfl⟩,rfl,rfl,Nat.le_refl _,by simp,.refl,?_⟩
      exact drawn ▸ insertOnConflict_grows _ _ _

theorem limit_happens {statement : Statement} {exceeded : Bool} (found : w.transactions[t]? = some x)
    (head : x.rest = statement :: rest) (prepares : statement.prepares = true)
    (ran : w.limit t x rest exceeded = some w') : Happens pg w (.statement t) w' := by
  unfold limit at ran
  split at ran
  · cases ran
    exact .finish found rfl
  · cases ran
    exact .prepare found rfl
      ⟨⟨statement,rest,head,prepares,.inr rfl⟩,rfl,rfl,Nat.le_refl _,fun _ same => .inl same,.refl,.refl⟩

theorem expireHistory_happens (found : w.transactions[t]? = some x) (head : x.rest = .expireHistory :: rest)
    (ran : w.expireHistory t x rest = some w') : Happens pg w (.statement t) w' := by
  unfold expireHistory at ran
  split at ran
  · cases ran
    exact .prepare found rfl ⟨⟨_,rest,head,rfl,.inl rfl⟩,rfl,rfl,Nat.le_refl _,fun _ same => .inl same,.refl,.refl⟩
  · cases ran
    exact .prepare found rfl ⟨⟨_,rest,head,rfl,.inr rfl⟩,rfl,rfl,Nat.le_refl _,fun _ same => .inl same,.refl,.refl⟩
  · cases ran

theorem statement_happens (found : w.transactions[t]? = some x) (ran : w.runStatement pg t x = some w') :
    Happens pg w (.statement t) w' := by
  unfold runStatement at ran
  split at ran
  case h_1 => cases ran
  case h_2 head => exact insertFavourite_happens found head rfl ran
  case h_3 head => exact insertFavourite_happens found head rfl ran
  case h_4 head => exact limit_happens found head rfl ran
  case h_5 head => exact insertHistory_happens found head rfl ran
  case h_6 head => exact insertHistory_happens found head rfl ran
  case h_7 head => exact expireHistory_happens found head ran
  case h_8 head => exact limit_happens found head rfl ran
  case h_9 head =>
    cases ran
    exact .readFavourites found head
  case h_10 head =>
    cases ran
    exact .readHistory found head
  case h_11 head =>
    cases ran
    exact .commit found head

theorem expireRecord_happens {recordId : Uuid} (found : w.transactions[t]? = some x)
    (ran : w.expireRecord t x recordId = some w') : Happens pg w (.expire t recordId) w' := by
  unfold expireRecord at ran
  split at ran
  · rename_i rest records n head _ drawn
    split at ran
    · cases ran
    · cases ran
      refine .prepare found rfl ⟨⟨_,rest,head,rfl,.inl rfl⟩,rfl,rfl,Nat.le_refl _,by simp,.refl,?_⟩
      exact drawn ▸ expire_grows _ _ _
  · cases ran

theorem execute_happens {move : Move} (ran : w.execute pg move = some w') : Happens pg w move w' := by
  cases move with
  | start t c now favourites history =>
    unfold execute at ran
    dsimp only at ran
    split at ran
    · cases ran
    · rename_i admitted
      cases ran
      simp only [Bool.or_eq_true,not_or,Bool.not_eq_true,Option.isSome_eq_false_iff,Option.isNone_iff_eq_none] at admitted
      exact .start admitted.1.1 admitted.1.2
  | nextval t =>
    simp only [execute,Option.bind_eq_bind,Option.bind_eq_some_iff] at ran
    obtain ⟨x,found,ran⟩ := ran
    split at ran
    · rename_i drawing
      cases ran
      obtain ⟨statement,rest,head,prepares⟩ := draws_head drawing
      refine .prepare found rfl ⟨⟨statement,rest,head,prepares,.inl rfl⟩,rfl,rfl,Nat.le_succ _,fun r same => .inr ?_,.refl,.refl⟩
      cases Option.some.inj same
      exact ⟨Nat.lt_succ_self _,Nat.le_refl _⟩
    · cases ran
  | statement t =>
    simp only [execute,Option.bind_eq_bind,Option.bind_eq_some_iff] at ran
    obtain ⟨x,found,ran⟩ := ran
    exact statement_happens found ran
  | expire t recordId =>
    simp only [execute,Option.bind_eq_bind,Option.bind_eq_some_iff] at ran
    obtain ⟨x,found,ran⟩ := ran
    exact expireRecord_happens found ran
  | rollback t =>
    simp only [execute,Option.bind_eq_bind,Option.bind_eq_some_iff] at ran
    obtain ⟨x,found,ran⟩ := ran
    split at ran
    · cases ran
    · cases ran
      exact .finish found rfl
  | answer t =>
    simp only [execute,Option.bind_eq_bind,Option.bind_eq_some_iff] at ran
    obtain ⟨x,found,ran⟩ := ran
    split at ran
    · rename_i finished
      exact .answer found (List.isEmpty_iff.mp finished) ran
    · cases ran
  | lose t =>
    simp only [execute,Option.bind_eq_bind,Option.bind_eq_some_iff] at ran
    obtain ⟨x,found,ran⟩ := ran
    split at ran
    · cases ran
      exact .finish found rfl
    · cases ran
  | elsewhere =>
    cases ran
    exact .elsewhere

end Server

end PersonalData
