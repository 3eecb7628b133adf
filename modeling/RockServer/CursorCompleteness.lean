import RockServer.PersonalTransactions

namespace PersonalData
open DeviceControl (Uuid Instant)
open Transition (Runs Under Executes)

def revisions {F : Type} (records : Records F) : List Nat := records.toList.map fun entry => entry.2.syncRevision

-- The revisions that bound the cursor of a transaction's answer from below.
def Transaction.revealed (x : Transaction) : List Nat :=
  x.request.sinceRevision :: (revisions (x.favourites.read.getD ∅) ++ revisions (x.history.read.getD ∅))

-- No device's cursor has come as far as this revision; one that has not synced
-- yet counts too.
def Server.Past (w : Server) (revision : Nat) : Prop :=
  ({} : Client).cursor < revision ∧ ∀ entry ∈ w.clients.toList, entry.2.cursor < revision

-- Rows that a commit shows come after all cursors, and after all that open
-- syncs have read which will not read these rows any more.
def Server.Follows {F : Type} (w : Server) (t : Nat) (shelf : Transaction → Shelf F) (records : Records F) : Prop :=
  ∀ entry ∈ records.toList, w.Past entry.2.syncRevision ∧ ∀ other ∈ w.transactions.toList, other.1 ≠ t →
    (shelf other.2).read.isSome = true → ∀ n ∈ other.2.revealed, n < entry.2.syncRevision

-- The history now to be read is behind every favourite that was committed since
-- the favourites were read.
def Server.Between (w : Server) (x : Transaction) : Prop :=
  ∀ entry ∈ w.favourites.toList, (x.favourites.written[entry.1]?).isNone = true →
    (x.favourites.read.bind fun records => records[entry.1]?) = some entry.2 ∨
    ∀ n ∈ revisions (x.history.visible w.history), n < entry.2.syncRevision

def Server.InOrder (w : Server) (t : Nat) (x : Transaction) : Statement → Prop
  | .commit => w.Follows t Transaction.favourites x.favourites.written ∧ w.Follows t Transaction.history x.history.written
  | .readHistory => w.Between x
  | _ => True

-- Revisions become visible in the order of their numbers.
def Ordered (w : Server) : Move → Prop
  | .statement t => ∀ x ∈ w.transactions[t]?, ∀ statement ∈ x.rest.head?, w.InOrder t x statement
  | _ => True

instance (w : Server) (revision : Nat) : Decidable (w.Past revision) := inferInstanceAs (Decidable (_ ∧ _))

instance {F : Type} (w : Server) (t : Nat) (shelf : Transaction → Shelf F) (records : Records F) :
    Decidable (w.Follows t shelf records) :=
  inferInstanceAs (Decidable (∀ entry ∈ records.toList,_))

instance (w : Server) (x : Transaction) : Decidable (w.Between x) :=
  inferInstanceAs (Decidable (∀ entry ∈ w.favourites.toList,_))

instance (w : Server) (t : Nat) (x : Transaction) : DecidablePred (w.InOrder t x)
  | .commit => inferInstanceAs (Decidable (_ ∧ _))
  | .readHistory => inferInstanceAs (Decidable (w.Between x))
  | .favouriteUpsert _ | .favouriteDelete _ | .favouriteLimit | .historyUpsert _ | .historyDelete _ | .expireHistory
  | .historyLimit | .readFavourites => isTrue trivial

instance (w : Server) : DecidablePred (Ordered w)
  | .statement t => inferInstanceAs (Decidable (∀ x ∈ w.transactions[t]?,_))
  | .start _ _ _ _ _ | .nextval _ | .expire _ _ | .rollback _ | .answer _ | .lose _ | .elsewhere => isTrue trivial

section replica
variable {F : Type} {projected : Record F → Option (Record F)}
variable {committed replica records : Records F} {cursor : Nat} {shelf : Shelf F} {id : Uuid}

-- A replica holds what was committed up to its cursor, and nothing unknown to
-- the account.
structure Known (projected : Record F → Option (Record F)) (committed replica : Records F) (cursor : Nat) : Prop where
  upTo : ∀ (id : Uuid) row, committed[id]? = some row → row.syncRevision ≤ cursor → replica[id]? = projected row
  only : ∀ id : Uuid, committed[id]? = none → replica[id]? = none

-- What was read still tells all that a cursor in `told` promises: own rows, and
-- others' rows unless these come later.
structure Shelf.Fits (shelf : Shelf F) (committed : Records F) (told : List Nat) (records : Records F) : Prop where
  named : Named records
  own : ∀ (id : Uuid) row, shelf.written[id]? = some row → records[id]? = some row
  others : ∀ (id : Uuid) row, committed[id]? = some row → shelf.written[id]? = none →
    records[id]? = some row ∨ ∀ n ∈ told, n < row.syncRevision
  only : ∀ id : Uuid, (shelf.visible committed)[id]? = none → records[id]? = none

def Shelf.Sound (shelf : Shelf F) (committed : Records F) (told : List Nat) : Prop :=
  Named shelf.written ∧ ∀ records, shelf.read = some records → shelf.Fits committed told records

theorem mem_revisions {n : Nat} : n ∈ revisions records ↔ ∃ (id : Uuid) (row : Record F), records[id]? = some row ∧ row.syncRevision = n := by
  simp only [revisions,List.mem_map,Prod.exists,Table.mem_entries]

theorem visible_settled (settled : shelf.written = ∅) : shelf.visible committed = committed := by
  refine Table.same_rows fun id => ?_
  rw [visible_get,settled]
  simp

-- A commit by somebody else, of rows that come later.
theorem Known.commit (known : Known projected committed replica cursor)
    (later : ∀ (id : Uuid) row, shelf.written[id]? = some row → cursor < row.syncRevision) :
    Known projected (shelf.visible committed) replica cursor := by
  refine ⟨fun id row present bound => ?_,fun id absent => ?_⟩
  · rw [visible_get] at present
    rcases Option.or_eq_some_iff.mp present with new | ⟨_,old⟩
    · exact absurd bound (Nat.not_le.mpr (later id row new))
    · exact known.upTo id row old bound
  · rw [visible_get] at absent
    exact known.only id (Option.or_eq_none_iff.mp absent).2

theorem Shelf.Sound.commit {other : Shelf F} {told : List Nat} (sound : shelf.Sound committed told)
    (later : shelf.read.isSome = true → ∀ (id : Uuid) row, other.written[id]? = some row →
      ∀ n ∈ told, n < row.syncRevision) : shelf.Sound (other.visible committed) told := by
  refine ⟨sound.1,fun records reads => ?_⟩
  obtain ⟨named,own,others,only⟩ := sound.2 records reads
  have begun : shelf.read.isSome = true := by rw [reads]; rfl
  refine ⟨named,own,fun id row present outside => ?_,fun id absent => only id ?_⟩
  · rw [visible_get] at present
    rcases Option.or_eq_some_iff.mp present with new | ⟨_,old⟩
    · exact .inr (later begun id row new)
    · exact others id row old outside
  · rw [visible_get,visible_get] at absent
    rw [visible_get]
    have parts := Option.or_eq_none_iff.mp absent
    rw [parts.1,Option.none_or]
    exact (Option.or_eq_none_iff.mp parts.2).2

-- A transaction's own commit.
theorem Shelf.Sound.settled {told : List Nat} (sound : shelf.Sound committed told) :
    shelf.committed.Sound (shelf.visible committed) told := by
  refine ⟨by simp [Named,Shelf.committed],fun records reads => ?_⟩
  obtain ⟨named,own,others,only⟩ := sound.2 records reads
  refine ⟨named,by simp [Shelf.committed],fun id row present _ => ?_,fun id absent => only id ?_⟩
  swap
  · exact (congrArg (·[id]?) (visible_settled rfl)).symm.trans absent
  rw [visible_get] at present
  rcases Option.or_eq_some_iff.mp present with new | ⟨outside,old⟩
  · exact .inl (own id row new)
  · exact others id row old outside

theorem Shelf.Sound.unread {told : List Nat} (named : Named shelf.written) (unread : shelf.read = none) :
    shelf.Sound committed told := by
  refine ⟨named,fun records reads => ?_⟩
  rw [unread] at reads
  cases reads

-- A final SELECT.
theorem Shelf.Sound.select (told : List Nat) (stored : Named committed) (named : Named shelf.written) :
    (shelf.select committed).Sound committed told := by
  refine ⟨named,fun records reads => ?_⟩
  cases Option.some.inj reads
  refine ⟨stored.visible named,fun id row own => ?_,fun id row present outside => .inl ?_,fun _ absent => absent⟩
  · rw [visible_get]
    exact Option.or_eq_some_iff.mpr (.inl own)
  · rw [visible_get]
    exact Option.or_eq_some_iff.mpr (.inr ⟨outside,present⟩)

theorem learn_other {told : List (Record F)} (unmentioned : ∀ record ∈ told, record.recordId ≠ id) :
    (learn replica told)[id]? = replica[id]? := by
  induction told generalizing replica with
  | nil => rfl
  | cons first rest ih =>
    change (learn (replica.insert first.recordId first) rest)[id]? = replica[id]?
    rw [ih fun record member => unmentioned record (List.mem_cons_of_mem _ member)]
    exact Table.get_insert_ne (unmentioned first List.mem_cons_self)

theorem learn_told {told : List (Record F)} {record : Record F} (member : record ∈ told)
    (once : ∀ other ∈ told, other.recordId = record.recordId → other = record) :
    (learn replica told)[record.recordId]? = some record := by
  induction told generalizing replica with
  | nil => cases member
  | cons first rest ih =>
    change (learn (replica.insert first.recordId first) rest)[record.recordId]? = some record
    by_cases again : record ∈ rest
    · exact ih again fun other listed => once other (List.mem_cons_of_mem _ listed)
    · have mine : first = record := ((List.mem_cons.mp member).resolve_right again).symm
      rw [learn_other,mine,Table.get_insert,if_pos rfl]
      intro other listed same
      exact again (once other (List.mem_cons_of_mem _ listed) same ▸ listed)

-- What a projection does not touch.
def Faithful (projected : Record F → Option (Record F)) : Prop :=
  ∀ row record, projected row = some record → record.recordId = row.recordId ∧ record.syncRevision = row.syncRevision

section answer
variable {entries : List (Uuid × Record F)} {since : Nat} {pushed : List Uuid}

theorem mem_told (faithful : Faithful projected) (named : Named records)
    (shown : Postgres.shown projected records = some entries) {record : Record F} :
    record ∈ (deltaAndEcho entries since pushed).1 ↔ ∃ row, records[record.recordId]? = some row ∧
      projected row = some record ∧ (since < row.syncRevision ∨ record.recordId ∈ pushed) := by
  rw [mem_delta (Postgres.projected_distinct Table.keys_distinct shown)]
  constructor
  · rintro ⟨id,listed,chosen⟩
    obtain ⟨row,member,projection⟩ := (Postgres.mem_projected shown).mp listed
    have found := Table.mem_entries.mp member
    obtain ⟨same,revision⟩ := faithful row record projection
    have mine : record.recordId = id := same.trans (named id row found)
    subst mine
    exact ⟨row,found,projection,revision ▸ chosen⟩
  · rintro ⟨row,found,projection,chosen⟩
    obtain ⟨_,revision⟩ := faithful row record projection
    exact ⟨record.recordId,(Postgres.mem_projected shown).mpr ⟨row,Table.mem_entries.mpr found,projection⟩,
      revision.symm ▸ chosen⟩

theorem learn_delta (faithful : Faithful projected) (named : Named records)
    (shown : Postgres.shown projected records = some entries) {row : Record F} (found : records[id]? = some row)
    (chosen : since < row.syncRevision ∨ id ∈ pushed) :
    (learn replica (deltaAndEcho entries since pushed).1)[id]? = projected row := by
  obtain ⟨record,projection⟩ := Postgres.projected_some shown (Table.mem_entries.mpr found)
  have mine : record.recordId = id := (faithful row record projection).1.trans (named id row found)
  subst mine
  rw [projection]
  refine learn_told ((mem_told faithful named shown).mpr ⟨row,found,projection,chosen⟩) fun other listed same => ?_
  obtain ⟨row',found',projection',_⟩ := (mem_told faithful named shown).mp listed
  rw [same,found] at found'
  cases Option.some.inj found'
  rw [projection] at projection'
  exact (Option.some.inj projection').symm

theorem learn_kept (faithful : Faithful projected) (named : Named records)
    (shown : Postgres.shown projected records = some entries)
    (passed : ∀ row, records[id]? = some row → ¬(since < row.syncRevision ∨ id ∈ pushed)) :
    (learn replica (deltaAndEcho entries since pushed).1)[id]? = replica[id]? := by
  refine learn_other fun record listed same => ?_
  obtain ⟨row,found,_,chosen⟩ := (mem_told faithful named shown).mp listed
  rw [same] at found chosen
  exact passed row found chosen

-- The cursor of an answer is one of the revisions it was made from, and none of
-- these is larger.
theorem cursor_read (since : Nat) (pushed : List Uuid) (faithful : Faithful projected)
    (shown : Postgres.shown projected records = some entries) :
    (deltaAndEcho entries since pushed).2 = since ∨ (deltaAndEcho entries since pushed).2 ∈ revisions records := by
  refine (cursor_spec entries since pushed).2.2.imp_right ?_
  rintro ⟨entry,listed,same⟩
  obtain ⟨row,member,projection⟩ := (Postgres.mem_projected shown).mp listed
  rw [mem_revisions,← same]
  exact ⟨entry.1,row,Table.mem_entries.mp member,(faithful row entry.2 projection).2.symm⟩

theorem read_le_cursor (faithful : Faithful projected) (shown : Postgres.shown projected records = some entries)
    {row : Record F} (found : records[id]? = some row) : row.syncRevision ≤ (deltaAndEcho entries since pushed).2 := by
  obtain ⟨record,projection⟩ := Postgres.projected_some shown (Table.mem_entries.mpr found)
  have listed := (Postgres.mem_projected shown).mpr ⟨row,Table.mem_entries.mpr found,projection⟩
  rw [← (faithful row record projection).2]
  exact (cursor_spec entries since pushed).2.1 (id,record) listed

theorem Known.answer {told : List Nat} (known : Known projected committed replica since) (faithful : Faithful projected)
    (settled : shelf.written = ∅) (fits : shelf.Fits committed told records)
    (shown : Postgres.shown projected records = some entries) (bound : cursor ∈ told) :
    Known projected committed (learn replica (deltaAndEcho entries since pushed).1) cursor := by
  refine ⟨fun id row present reached => ?_,fun id absent => ?_⟩
  · have found : records[id]? = some row := by
      refine (fits.others id row present (by simp [settled])).resolve_right fun later => ?_
      exact absurd reached (Nat.not_le.mpr (later cursor bound))
    by_cases chosen : since < row.syncRevision ∨ id ∈ pushed
    · exact learn_delta faithful fits.named shown found chosen
    · rw [learn_kept faithful fits.named shown]
      · exact known.upTo id row present (Nat.not_lt.mp fun later => chosen (.inl later))
      · intro other same
        rw [found] at same
        cases Option.some.inj same
        exact chosen
  · have unread : records[id]? = none := fits.only id (by rw [visible_settled settled,absent])
    rw [learn_kept faithful fits.named shown (by simp [unread])]
    exact known.only id absent

end answer

-- A cursor that no committed row is past.
theorem Known.exact (known : Known projected committed replica cursor)
    (reached : ∀ (id : Uuid) row, committed[id]? = some row → row.syncRevision ≤ cursor) (id : Uuid) :
    replica[id]? = (committed[id]?).bind projected := by
  cases present : committed[id]? with
  | none => exact known.only id present
  | some row => exact known.upTo id row present (reached id row present)

end replica

theorem projectFavourite_faithful (pg : Postgres) : Faithful pg.projectFavourite := by
  intro row record projection
  refine ⟨?_,pg.projectFavourite_revision projection⟩
  simp only [Postgres.projectFavourite,Option.bind_eq_bind,Option.bind_eq_some_iff,Option.some.injEq] at projection
  obtain ⟨_,_,_,_,_,_,rfl⟩ := projection
  rfl

theorem projectHistory_faithful (pg : Postgres) : Faithful pg.projectHistory := by
  intro row record projection
  refine ⟨?_,pg.projectHistory_revision projection⟩
  simp only [Postgres.projectHistory,Option.bind_eq_bind,Option.bind_eq_some_iff,Option.some.injEq] at projection
  obtain ⟨_,_,_,_,_,_,_,_,_,_,rfl⟩ := projection
  rfl

-- How far a transaction has come.
inductive Transaction.Staged (x : Transaction) : Prop where
  | preparing {earlier : List Statement} (before : ∀ statement ∈ earlier, statement.prepares = true)
      (rest : x.rest = earlier ++ [.readFavourites,.readHistory,.commit])
      (favourites : x.favourites.read = none) (history : x.history.read = none)
  | reading (rest : x.rest = [.readHistory,.commit]) (favourites : x.favourites.read.isSome = true)
      (history : x.history.read = none)
  | ready (rest : x.rest = [.commit])
  | finished (rest : x.rest = []) (favourites : x.favourites.written = ∅) (history : x.history.written = ∅)

section staged
variable {x : Transaction} {statement : Statement} {rest : List Statement}

-- The statement at hand tells the stage.
theorem Transaction.Staged.split (staged : x.Staged) (head : x.rest = statement :: rest) :
    (statement.prepares = true ∧ x.favourites.read = none ∧ x.history.read = none ∧
      ∃ earlier, (∀ other ∈ earlier, other.prepares = true) ∧ rest = earlier ++ [.readFavourites,.readHistory,.commit]) ∨
    (statement = .readFavourites ∧ x.history.read = none ∧ rest = [.readHistory,.commit]) ∨
    (statement = .readHistory ∧ x.favourites.read.isSome = true ∧ rest = [.commit]) ∨
    (statement = .commit ∧ rest = []) := by
  cases staged with
  | preparing before all favourites history =>
    rename_i earlier
    rw [head] at all
    cases earlier with
    | nil =>
      obtain ⟨rfl,rfl⟩ := List.cons.inj all
      exact .inr (.inl ⟨rfl,history,rfl⟩)
    | cons first earlier =>
      obtain ⟨rfl,rfl⟩ := List.cons.inj all
      exact .inl ⟨before _ List.mem_cons_self,favourites,history,earlier,
        fun other member => before other (List.mem_cons_of_mem _ member),rfl⟩
  | reading all favourites history =>
    rw [head] at all
    obtain ⟨rfl,rfl⟩ := List.cons.inj all
    exact .inr (.inr (.inl ⟨rfl,favourites,rfl⟩))
  | ready all =>
    rw [head] at all
    obtain ⟨rfl,rfl⟩ := List.cons.inj all
    exact .inr (.inr (.inr ⟨rfl,rfl⟩))
  | finished all =>
    rw [head] at all
    cases all

theorem Transaction.Staged.settled (staged : x.Staged) (finished : x.rest = []) :
    x.favourites.written = ∅ ∧ x.history.written = ∅ := by
  cases staged with
  | preparing _ all => simp [finished] at all
  | reading all => simp [finished] at all
  | ready all => simp [finished] at all
  | finished _ favourites history => exact ⟨favourites,history⟩

theorem Transaction.Staged.prepare {x' : Transaction} {w : Server} {n : Nat} (staged : x.Staged) (prepared : Prepares w n x x') :
    x'.favourites.read = none ∧ x'.history.read = none ∧ x'.Staged := by
  obtain ⟨statement,rest,head,prepares,left⟩ := prepared.head
  obtain ⟨_,favourites,history,earlier,before,rfl⟩ | ⟨rfl,_⟩ | ⟨rfl,_⟩ | ⟨rfl,_⟩ := staged.split head
  · have unread := prepared.favourites.read.trans favourites
    have unheard := prepared.history.read.trans history
    refine ⟨unread,unheard,?_⟩
    rcases left with same | shorter
    · refine @Transaction.Staged.preparing _ (statement :: earlier) ?_ (same.trans head) unread unheard
      intro other member
      rcases List.mem_cons.mp member with rfl | later
      · exact prepares
      · exact before other later
    · exact .preparing before shorter unread unheard
  all_goals cases prepares

end staged

theorem preparation_prepares (request : SyncRequest) : ∀ statement ∈ request.preparation, statement.prepares = true := by
  intro statement member
  simp only [SyncRequest.preparation,List.mem_append,List.mem_map] at member
  rcases member with ((((⟨_,_,rfl⟩ | ⟨_,_,rfl⟩) | limited) | ⟨_,_,rfl⟩) | ⟨_,_,rfl⟩) | limited
  any_goals rfl
  all_goals
    split at limited
    · cases limited
    · simp only [List.mem_cons,List.not_mem_nil,or_false] at limited
      first
        | exact limited ▸ rfl
        | exact limited.elim (· ▸ rfl) (· ▸ rfl)

namespace Server

-- The replica of a device, up to its cursor.
def Informed (pg : Postgres) (w : Server) (c : Nat) : Prop :=
  Known pg.projectFavourite w.favourites (w.client c).favourites (w.client c).cursor ∧
  Known pg.projectHistory w.history (w.client c).history (w.client c).cursor

structure Open (w : Server) (x : Transaction) : Prop where
  busy : (w.client x.client).busy = true
  since : x.request.sinceRevision = (w.client x.client).cursor
  staged : x.Staged
  favourites : x.favourites.Sound w.favourites x.revealed
  history : x.history.Sound w.history x.revealed

structure Coherent (pg : Postgres) (w : Server) : Prop where
  favourites : Named w.favourites
  history : Named w.history
  informed : ∀ c, w.Informed pg c
  opened : ∀ (t : Nat) x, w.transactions[t]? = some x → w.Open x
  apart : ∀ (t u : Nat) x y, w.transactions[t]? = some x → w.transactions[u]? = some y → x.client = y.client → t = u

-- Only one transaction and its client take part in a move.
structure Turn (w w' : Server) (t c : Nat) : Prop where
  others : ∀ u : Nat, u ≠ t → w'.transactions[u]? = w.transactions[u]?
  clients : ∀ d, d ≠ c → w'.client d = w.client d
  free : ∀ (u : Nat) y, u ≠ t → w.transactions[u]? = some y → y.client ≠ c

variable {pg : Postgres} {w w' : Server} {t c : Nat} {x : Transaction}

theorem start_coherent (pg : Postgres) : start.Coherent pg := by
  refine ⟨by simp [Named,start],by simp [Named,start],fun c => ?_,by simp [start],by simp [start]⟩
  refine ⟨⟨by simp [start],by simp [start,client]⟩,⟨by simp [start],by simp [start,client]⟩⟩

theorem client_insert {k : Client} (clients : w'.clients = w.clients.insert c k) {d : Nat} :
    w'.client d = if c = d then k else w.client d := by
  unfold client
  rw [clients,Table.get_insert]
  split <;> rfl

theorem Turn.apart (turn : Turn w w' t c) (coherent : w.Coherent pg)
    (mine : ∀ x', w'.transactions[t]? = some x' → x'.client = c) {u v : Nat} {y z : Transaction}
    (one : w'.transactions[u]? = some y) (two : w'.transactions[v]? = some z) (same : y.client = z.client) : u = v := by
  by_cases first : u = t
  · by_cases second : v = t
    · exact first.trans second.symm
    · subst first
      rw [turn.others v second] at two
      exact absurd (same.symm.trans (mine y one)) (turn.free v z second two)
  · by_cases second : v = t
    · subst second
      rw [turn.others u first] at one
      exact absurd (same.trans (mine z two)) (turn.free u y first one)
    · rw [turn.others u first] at one
      rw [turn.others v second] at two
      exact coherent.apart u v y z one two same

-- A transaction's turn that commits nothing.
theorem Turn.coherent (turn : Turn w w' t c) (coherent : w.Coherent pg) (favourites : w'.favourites = w.favourites)
    (history : w'.history = w.history) (informed : w'.Informed pg c)
    (mine : ∀ x', w'.transactions[t]? = some x' → x'.client = c ∧ w'.Open x') : w'.Coherent pg := by
  refine ⟨favourites ▸ coherent.favourites,history ▸ coherent.history,fun d => ?_,fun u y found => ?_,?_⟩
  · by_cases same : d = c
    · exact same ▸ informed
    · unfold Informed
      rw [turn.clients d same,favourites,history]
      exact coherent.informed d
  · by_cases same : u = t
    · exact (mine y (same ▸ found)).2
    · rw [turn.others u same] at found
      obtain ⟨busy,since,staged,one,two⟩ := coherent.opened u y found
      have client := turn.clients y.client (turn.free u y same found)
      exact ⟨client ▸ busy,client ▸ since,staged,favourites ▸ one,history ▸ two⟩
  · intro u v y z one two same
    exact turn.apart coherent (fun x' found => (mine x' found).1) one two same

-- The others' transactions are of other clients.
theorem Coherent.free (coherent : w.Coherent pg) (found : w.transactions[t]? = some x) (u : Nat) (y : Transaction)
    (other : u ≠ t) (found' : w.transactions[u]? = some y) : y.client ≠ x.client :=
  fun same => other (coherent.apart u t y x found' found same)

theorem put_turn (coherent : w.Coherent pg) (found : w.transactions[t]? = some x) (x' : Transaction) (n : Nat) :
    Turn w {w.put t x' with sequence := n} t x.client :=
  ⟨fun _ other => Table.get_insert_ne (Ne.symm other),fun _ _ => rfl,coherent.free found⟩

theorem put_coherent (coherent : w.Coherent pg) (found : w.transactions[t]? = some x) {x' : Transaction} (n : Nat)
    (client : x'.client = x.client) (request : x'.request = x.request) (staged : x'.Staged)
    (favourites : x'.favourites.Sound w.favourites x'.revealed) (history : x'.history.Sound w.history x'.revealed) :
    ({w.put t x' with sequence := n} : Server).Coherent pg := by
  refine (put_turn coherent found x' n).coherent coherent rfl rfl (coherent.informed x.client) fun y present => ?_
  have mine : x' = y := by simpa [put,Table.get_insert] using present
  subst mine
  obtain ⟨busy,since,_,_,_⟩ := coherent.opened t x found
  exact ⟨client,⟨client ▸ busy,by rw [request,client]; exact since,staged,favourites,history⟩⟩

theorem prepare_coherent {x' : Transaction} {n : Nat} (coherent : w.Coherent pg) (found : w.transactions[t]? = some x)
    (prepared : Prepares w n x x') : ({w.put t x' with sequence := n} : Server).Coherent pg := by
  obtain ⟨_,_,staged,favourites,history⟩ := coherent.opened t x found
  obtain ⟨unread,unheard,staged'⟩ := staged.prepare prepared
  refine put_coherent coherent found n prepared.client prepared.request staged' ?_ ?_
  · exact .unread (prepared.favourites.named (coherent.favourites.visible favourites.1)) unread
  · exact .unread (prepared.history.named (coherent.history.visible history.1)) unheard

theorem readFavourites_coherent {rest : List Statement} (coherent : w.Coherent pg)
    (found : w.transactions[t]? = some x) (head : x.rest = .readFavourites :: rest) :
    (w.put t {x with rest := rest,favourites := x.favourites.select w.favourites}).Coherent pg := by
  obtain ⟨_,_,staged,favourites,history⟩ := coherent.opened t x found
  obtain ⟨prepares,_⟩ | ⟨_,unheard,rfl⟩ | ⟨impossible,_⟩ | ⟨impossible,_⟩ := staged.split head
  · cases prepares
  · refine put_coherent coherent found w.sequence rfl rfl (.reading rfl rfl unheard) ?_ ?_
    · exact .select _ coherent.favourites favourites.1
    · exact .unread history.1 unheard
  all_goals cases impossible

theorem readHistory_coherent {rest : List Statement} (coherent : w.Coherent pg)
    (found : w.transactions[t]? = some x) (head : x.rest = .readHistory :: rest) (between : w.Between x) :
    (w.put t {x with rest := rest,history := x.history.select w.history}).Coherent pg := by
  obtain ⟨_,_,staged,favourites,history⟩ := coherent.opened t x found
  have last : rest = [.commit] := by
    obtain ⟨prepares,_⟩ | ⟨impossible,_⟩ | ⟨_,_,last⟩ | ⟨impossible,_⟩ := staged.split head
    · cases prepares
    · cases impossible
    · exact last
    · cases impossible
  refine put_coherent coherent found w.sequence rfl rfl (.ready last) ⟨favourites.1,fun records reads => ?_⟩
    (.select _ coherent.history history.1)
  obtain ⟨named,own,others,only⟩ := favourites.2 records reads
  refine ⟨named,own,fun id row present outside => ?_,only⟩
  have ahead := between (id,row) (Table.mem_entries.mpr present) (by rw [outside]; rfl)
  rw [reads,Option.bind_some] at ahead
  rcases others id row present outside with same | later
  · exact .inl same
  · refine ahead.imp_right fun past n told => ?_
    -- What is told now is the cursor, the favourites read before, or the history read now.
    rcases List.mem_cons.mp told with same | inside
    · exact later n (same ▸ List.mem_cons_self)
    · rcases List.mem_append.mp inside with earlier | now
      · exact later n (List.mem_cons_of_mem _ (List.mem_append_left _ earlier))
      · exact past n now

theorem Past.client {n : Nat} (past : w.Past n) (c : Nat) : (w.client c).cursor < n := by
  unfold Server.client
  cases found : w.clients[c]? with
  | none => exact past.1
  | some k => exact past.2 (c,k) (Table.mem_entries.mpr found)

section commit
variable {rest : List Statement}

theorem commit_turn (coherent : w.Coherent pg) (found : w.transactions[t]? = some x) :
    Turn w (w.commit t x rest) t x.client :=
  ⟨fun _ other => Table.get_insert_ne (Ne.symm other),fun _ _ => rfl,coherent.free found⟩

theorem Follows.later {F : Type} {shelf : Transaction → Shelf F} {records : Records F} {y : Transaction} {u : Nat}
    (follows : w.Follows t shelf records) (found : w.transactions[u]? = some y) (other : u ≠ t)
    (begun : (shelf y).read.isSome = true) (id : Uuid) (row : Record F) (present : records[id]? = some row) :
    ∀ n ∈ y.revealed, n < row.syncRevision :=
  (follows (id,row) (Table.mem_entries.mpr present)).2 (u,y) (Table.mem_entries.mpr found) other begun

theorem Follows.past {F : Type} {shelf : Transaction → Shelf F} {records : Records F} (follows : w.Follows t shelf records)
    (c : Nat) (id : Uuid) (row : Record F) (present : records[id]? = some row) : (w.client c).cursor < row.syncRevision :=
  (follows (id,row) (Table.mem_entries.mpr present)).1.client c

theorem commit_coherent (coherent : w.Coherent pg) (found : w.transactions[t]? = some x) (head : x.rest = .commit :: rest)
    (favourites : w.Follows t Transaction.favourites x.favourites.written)
    (history : w.Follows t Transaction.history x.history.written) : (w.commit t x rest).Coherent pg := by
  obtain ⟨busy,since,staged,one,two⟩ := coherent.opened t x found
  have last : rest = [] := by
    obtain ⟨prepares,_⟩ | ⟨impossible,_⟩ | ⟨impossible,_⟩ | ⟨_,last⟩ := staged.split head
    · cases prepares
    · cases impossible
    · cases impossible
    · exact last
  have mine : ∀ y, (w.commit t x rest).transactions[t]? = some y → {x with
      rest := rest
      favourites := x.favourites.committed
      history := x.history.committed} = y := by
    intro y present
    simpa [Server.commit,Table.get_insert] using present
  refine ⟨coherent.favourites.visible one.1,coherent.history.visible two.1,fun c => ?_,fun u y present => ?_,?_⟩
  · obtain ⟨knows,recalls⟩ := coherent.informed c
    exact ⟨knows.commit (favourites.past c),recalls.commit (history.past c)⟩
  · by_cases same : u = t
    · subst same
      obtain rfl := mine y present
      exact ⟨busy,since,.finished last rfl rfl,one.settled,two.settled⟩
    · rw [(commit_turn coherent found).others u same] at present
      obtain ⟨busy,since,staged,fits,hears⟩ := coherent.opened u y present
      exact ⟨busy,since,staged,fits.commit (favourites.later present same),hears.commit (history.later present same)⟩
  · intro u v y z first second same
    exact (commit_turn coherent found).apart coherent (fun y present => (mine y present) ▸ rfl) first second same

end commit

-- A transaction that is over leaves the table; its client is told or not.
theorem closed_turn {k : Client} (coherent : w.Coherent pg) (found : w.transactions[t]? = some x) :
    Turn w {w with transactions := w.transactions.erase t,clients := w.clients.insert x.client k} t x.client := by
  refine ⟨fun u other => ?_,fun d other => ?_,coherent.free found⟩
  · rw [Table.get_erase,if_neg (Ne.symm other)]
  · rw [client_insert rfl,if_neg (Ne.symm other)]

theorem closed_coherent {k : Client} (coherent : w.Coherent pg) (found : w.transactions[t]? = some x)
    (favourites : Known pg.projectFavourite w.favourites k.favourites k.cursor)
    (history : Known pg.projectHistory w.history k.history k.cursor) :
    ({w with transactions := w.transactions.erase t,clients := w.clients.insert x.client k} : Server).Coherent pg := by
  refine (closed_turn coherent found).coherent coherent rfl rfl ?_ fun y present => ?_
  · unfold Informed
    rw [client_insert rfl,if_pos rfl]
    exact ⟨favourites,history⟩
  · rw [Table.get_erase_self] at present
    cases present

theorem drop_coherent (coherent : w.Coherent pg) (found : w.transactions[t]? = some x) : (w.drop t x).Coherent pg :=
  closed_coherent coherent found (coherent.informed x.client).1 (coherent.informed x.client).2

-- What an answer is made of.
theorem answer_cases (answered : w.answer pg t x = some w') : ∃ favourites history told known,
    x.favourites.read = some favourites ∧ x.history.read = some history ∧
    Postgres.shown pg.projectFavourite favourites = some told ∧ Postgres.shown pg.projectHistory history = some known ∧
    w' = {w with
      transactions := w.transactions.erase t
      clients := w.clients.insert x.client {
        favourites := learn (w.client x.client).favourites (answerFrom told known x.request).favourites
        history := learn (w.client x.client).history (answerFrom told known x.request).history
        cursor := (answerFrom told known x.request).serverRevision
        busy := false}} := by
  simp only [Server.answer,Option.bind_eq_bind,Option.bind_eq_some_iff,Option.some.injEq] at answered
  obtain ⟨favourites,read,told,shown,history,heard,known,listed,rfl⟩ := answered
  exact ⟨favourites,history,told,known,read,heard,shown,listed,rfl⟩

section answer
variable {favourites : Records FavouriteFields} {history : Records HistoryFields}
variable {told : List (Uuid × FavouriteRecord)} {known : List (Uuid × HistoryRecord)}

theorem answer_revealed (read : x.favourites.read = some favourites) (heard : x.history.read = some history)
    (shown : Postgres.shown pg.projectFavourite favourites = some told)
    (listed : Postgres.shown pg.projectHistory history = some known) :
    (answerFrom told known x.request).serverRevision ∈ x.revealed := by
  unfold Transaction.revealed answerFrom
  rw [read,heard,Option.getD_some,Option.getD_some,List.mem_cons,List.mem_append]
  have one := cursor_read x.request.sinceRevision x.request.favouriteRecordIds (projectFavourite_faithful pg) shown
  have two := cursor_read x.request.sinceRevision x.request.historyRecordIds (projectHistory_faithful pg) listed
  dsimp only
  rcases Nat.le_total (deltaAndEcho told x.request.sinceRevision x.request.favouriteRecordIds).2
      (deltaAndEcho known x.request.sinceRevision x.request.historyRecordIds).2 with less | more
  · rw [Nat.max_eq_right less]
    exact two.imp_right .inr
  · rw [Nat.max_eq_left more]
    exact one.imp_right .inl

end answer

theorem answer_coherent (coherent : w.Coherent pg) (found : w.transactions[t]? = some x) (finished : x.rest = [])
    (answered : w.answer pg t x = some w') : w'.Coherent pg := by
  obtain ⟨favourites,history,told,known,read,heard,shown,listed,rfl⟩ := answer_cases answered
  obtain ⟨_,since,staged,one,two⟩ := coherent.opened t x found
  obtain ⟨settled,closed⟩ := staged.settled finished
  have bound := answer_revealed read heard shown listed
  obtain ⟨knows,recalls⟩ := coherent.informed x.client
  rw [← since] at knows recalls
  refine closed_coherent coherent found ?_ ?_
  · exact knows.answer (projectFavourite_faithful pg) settled (one.2 favourites read) shown bound
  · exact recalls.answer (projectHistory_faithful pg) closed (two.2 history heard) listed bound

theorem begin_coherent {now : Instant} {favourites : CollectionChanges FavouriteUpsert}
    {history : CollectionChanges HistoryUpsert} (coherent : w.Coherent pg) (idle : (w.client c).busy = false) :
    (w.begin t c now ⟨(w.client c).cursor,favourites,history⟩).Coherent pg := by
  have turn : Turn w (w.begin t c now ⟨(w.client c).cursor,favourites,history⟩) t c := by
    refine ⟨fun u other => Table.get_insert_ne (Ne.symm other),fun d other => ?_,fun u y _ found same => ?_⟩
    · rw [client_insert rfl,if_neg (Ne.symm other)]
    · have busy := (coherent.opened u y found).busy
      rw [same,idle] at busy
      cases busy
  have mine : (w.begin t c now ⟨(w.client c).cursor,favourites,history⟩).client c = {w.client c with busy := true} := by
    rw [client_insert rfl,if_pos rfl]
  refine turn.coherent coherent rfl rfl ?_ fun y present => ?_
  · unfold Informed
    rw [mine]
    exact coherent.informed c
  · have begun : Transaction.begun c now ⟨(w.client c).cursor,favourites,history⟩ = y := by
      simpa [Server.begin,Table.get_insert] using present
    subst begun
    refine ⟨rfl,⟨by rw [Transaction.begun,mine],by rw [Transaction.begun,mine],?_,?_,?_⟩⟩
    · exact .preparing (preparation_prepares _) rfl rfl rfl
    · exact .unread (by simp [Named,Transaction.begun]) rfl
    · exact .unread (by simp [Named,Transaction.begun]) rfl

theorem step_coherent {move : Move} (coherent : w.Coherent pg) (ordered : Ordered w move)
    (happens : Happens pg w move w') : w'.Coherent pg := by
  cases happens with
  | start fresh idle => exact begin_coherent coherent idle
  | prepare found _ prepared => exact prepare_coherent coherent found prepared
  | readFavourites found head => exact readFavourites_coherent coherent found head
  | readHistory found head =>
    exact readHistory_coherent coherent found head (ordered _ found .readHistory (by rw [head]; rfl))
  | commit found head =>
    have follows := ordered _ found .commit (by rw [head]; rfl)
    exact commit_coherent coherent found head follows.1 follows.2
  | finish found => exact drop_coherent coherent found
  | answer found finished answered => exact answer_coherent coherent found finished answered
  | elsewhere =>
    refine ⟨coherent.favourites,coherent.history,coherent.informed,fun u y found => ?_,coherent.apart⟩
    obtain ⟨busy,since,staged,one,two⟩ := coherent.opened u y found
    exact ⟨busy,since,staged,one,two⟩

theorem run_coherent {moves : List Move} (path : Runs (Under Ordered (Executes (execute pg))) w moves w')
    (coherent : w.Coherent pg) : w'.Coherent pg :=
  path.invariant (Coherent pg) coherent fun _ _ _ earlier taken => step_coherent earlier taken.1 (execute_happens taken.2)

end Server

end PersonalData
