import RockServer.CursorCompleteness

namespace PersonalData
open DeviceControl (Uuid Instant)
open Transition (Runs Under Executes)

section revised
variable {F : Type} {P Q : Nat → Prop} {records committed : Records F} {shelf shelf' : Shelf F} {revision : Option Nat}

def Revised (P : Nat → Prop) (records : Records F) : Prop :=
  ∀ (id : Uuid) row, records[id]? = some row → P row.syncRevision

-- What was read is what there is.
def Shelf.Current (shelf : Shelf F) (committed : Records F) : Prop :=
  ∀ records, shelf.read = some records → records = shelf.visible committed

theorem Revised.empty : Revised P (∅ : Records F) := by simp [Revised]

theorem Revised.mono (revised : Revised P records) (implies : ∀ n, P n → Q n) : Revised Q records :=
  fun id row present => implies _ (revised id row present)

theorem Revised.mem (revised : Revised P records) (n : Nat) (member : n ∈ revisions records) : P n := by
  obtain ⟨id,row,present,rfl⟩ := mem_revisions.mp member
  exact revised id row present

theorem Revised.visible (stored : Revised P committed) (written : Revised P shelf.written) :
    Revised P (shelf.visible committed) := by
  intro id row present
  rw [visible_get] at present
  rcases Option.or_eq_some_iff.mp present with own | ⟨_,old⟩
  · exact written id row own
  · exact stored id row old

theorem Revised.grows (written : Revised P shelf.written) (grows : shelf.Grows committed revision shelf')
    (drawn : ∀ n, revision = some n → P n) : Revised P shelf'.written := by
  intro id row present
  rcases grows.drawn id row present with old | new
  · exact written id row old
  · exact drawn _ new

theorem Current.unread (unread : shelf.read = none) : shelf.Current committed := by
  intro records reads
  rw [unread] at reads
  cases reads

theorem Current.select (shelf : Shelf F) (committed : Records F) : (shelf.select committed).Current committed := by
  intro records reads
  exact (Option.some.inj reads).symm

theorem Current.settled (current : shelf.Current committed) : shelf.committed.Current (shelf.visible committed) := by
  intro records reads
  exact (current records reads).trans (visible_settled rfl).symm

end revised

structure Transaction.Counted (x : Transaction) (m : Nat) : Prop where
  drawn : ∀ r, x.revision = some r → r ≤ m
  favourites : Revised (· ≤ m) x.favourites.written
  history : Revised (· ≤ m) x.history.written
  revealed : ∀ n ∈ x.revealed, n ≤ m

theorem Transaction.Counted.mono {x : Transaction} {m n : Nat} (counted : x.Counted m) (later : m ≤ n) : x.Counted n :=
  ⟨fun r drawn => Nat.le_trans (counted.drawn r drawn) later,
    counted.favourites.mono fun _ bound => Nat.le_trans bound later,
    counted.history.mono fun _ bound => Nat.le_trans bound later,
    fun r told => Nat.le_trans (counted.revealed r told) later⟩

theorem Prepares.revealed {w : Server} {n : Nat} {x x' : Transaction} (prepared : Prepares w n x x') :
    x'.revealed = x.revealed := by
  unfold Transaction.revealed
  rw [prepared.request,prepared.favourites.read,prepared.history.read]

namespace Server

-- Every revision in use has been handed out.
structure Counted (w : Server) : Prop where
  favourites : Revised (· ≤ w.sequence) w.favourites
  history : Revised (· ≤ w.sequence) w.history
  cursors : ∀ c, (w.client c).cursor ≤ w.sequence
  opened : ∀ (t : Nat) x, w.transactions[t]? = some x → x.Counted w.sequence

-- A transaction with nobody beside it: its revisions are past all cursors, and
-- what it has read is what there is.
structure Leads (w : Server) (x : Transaction) : Prop where
  drawn : ∀ r, x.revision = some r → w.Past r
  favouritesWritten : Revised w.Past x.favourites.written
  historyWritten : Revised w.Past x.history.written
  favouritesRead : x.favourites.Current w.favourites
  historyRead : x.history.Current w.history

structure Alone (w : Server) (t : Nat) : Prop where
  only : ∀ (u : Nat) y, w.transactions[u]? = some y → u = t
  leads : ∀ x, w.transactions[t]? = some x → w.Leads x

variable {pg : Postgres} {w w' : Server} {t c : Nat} {x : Transaction}

theorem start_counted : start.Counted :=
  ⟨.empty,.empty,by simp [start,client],by simp [start]⟩

theorem Counted.put {x' : Transaction} {n : Nat} (counted : w.Counted) (later : w.sequence ≤ n) (mine : x'.Counted n) :
    ({w.put t x' with sequence := n} : Server).Counted := by
  refine ⟨counted.favourites.mono fun _ bound => Nat.le_trans bound later,
    counted.history.mono fun _ bound => Nat.le_trans bound later,fun c => Nat.le_trans (counted.cursors c) later,?_⟩
  intro u y present
  simp only [Server.put,Table.get_insert] at present
  split at present
  · cases Option.some.inj present
    exact mine
  · exact (counted.opened u y present).mono later

theorem Counted.closed {k : Client} (counted : w.Counted) (bound : k.cursor ≤ w.sequence) :
    ({w with transactions := w.transactions.erase t,clients := w.clients.insert c k} : Server).Counted := by
  refine ⟨counted.favourites,counted.history,fun d => ?_,fun u y present => ?_⟩
  · rw [client_insert rfl]
    split
    · exact bound
    · exact counted.cursors d
  · exact counted.opened u y (Table.get_erase_some present).2

theorem step_counted {move : Move} (counted : w.Counted) (happens : Happens pg w move w') : w'.Counted := by
  cases happens with
  | start fresh idle =>
    rename_i t c now favourites history
    refine ⟨counted.favourites,counted.history,fun d => ?_,fun u y present => ?_⟩
    · rw [client_insert rfl]
      split
      · exact counted.cursors c
      · exact counted.cursors d
    · simp only [Server.begin,Table.get_insert] at present
      split at present
      · cases Option.some.inj present
        refine ⟨fun r drawn => (by cases drawn),.empty,.empty,?_⟩
        simpa [Transaction.revealed,Transaction.begun,revisions,Server.begin] using counted.cursors c
      · exact counted.opened u y present
  | prepare found _ prepared =>
    have mine := (counted.opened _ _ found).mono prepared.counted
    refine counted.put prepared.counted ⟨fun r drawn => ?_,mine.favourites.grows prepared.favourites mine.drawn,
      mine.history.grows prepared.history mine.drawn,prepared.revealed ▸ mine.revealed⟩
    rcases prepared.revision r drawn with old | ⟨_,new⟩
    · exact mine.drawn r old
    · exact new
  | readFavourites found =>
    have mine := counted.opened _ _ found
    refine counted.put (Nat.le_refl _) ⟨mine.drawn,mine.favourites,mine.history,fun n told => ?_⟩
    rcases List.mem_cons.mp told with same | inside
    · exact mine.revealed n (same ▸ List.mem_cons_self)
    · rcases List.mem_append.mp inside with now | earlier
      · exact (counted.favourites.visible mine.favourites).mem n now
      · exact mine.revealed n (List.mem_cons_of_mem _ (List.mem_append_right _ earlier))
  | readHistory found =>
    have mine := counted.opened _ _ found
    refine counted.put (Nat.le_refl _) ⟨mine.drawn,mine.favourites,mine.history,fun n told => ?_⟩
    rcases List.mem_cons.mp told with same | inside
    · exact mine.revealed n (same ▸ List.mem_cons_self)
    · rcases List.mem_append.mp inside with earlier | now
      · exact mine.revealed n (List.mem_cons_of_mem _ (List.mem_append_left _ earlier))
      · exact (counted.history.visible mine.history).mem n now
  | commit found =>
    have mine := counted.opened _ _ found
    refine ⟨counted.favourites.visible mine.favourites,counted.history.visible mine.history,counted.cursors,?_⟩
    intro u y present
    simp only [Server.commit,Table.get_insert] at present
    split at present
    · cases Option.some.inj present
      exact ⟨mine.drawn,.empty,.empty,mine.revealed⟩
    · exact counted.opened u y present
  | finish => exact counted.closed (counted.cursors _)
  | answer found finished answered =>
    obtain ⟨_,_,_,_,read,heard,shown,listed,rfl⟩ := answer_cases answered
    exact counted.closed ((counted.opened _ _ found).revealed _ (answer_revealed read heard shown listed))
  | elsewhere =>
    refine ⟨counted.favourites.mono fun _ bound => Nat.le_succ_of_le bound,
      counted.history.mono fun _ bound => Nat.le_succ_of_le bound,fun c => Nat.le_succ_of_le (counted.cursors c),?_⟩
    intro u y present
    exact (counted.opened u y present).mono (Nat.le_succ _)

-- A number from the sequence is past all cursors.
theorem Counted.past {n : Nat} (counted : w.Counted) (new : w.sequence < n) : w.Past n := by
  refine ⟨Nat.zero_lt_of_lt new,fun entry listed => ?_⟩
  have bound := counted.cursors entry.1
  rw [client,Table.mem_entries.mp listed] at bound
  exact Nat.lt_of_le_of_lt bound new

theorem quiet_alone (quiet : w.transactions = ∅) (t : Nat) : w.Alone t := ⟨by simp [quiet],by simp [quiet]⟩

-- With nobody beside it a sync is in order.
theorem Alone.ordered {move : Move} (alone : w.Alone t) (coherent : w.Coherent pg) : Ordered w move := by
  cases move with
  | statement u =>
    intro x found statement head
    obtain rfl := alone.only u x found
    have leads := alone.leads x found
    cases statement with
    | commit =>
      refine ⟨fun entry listed => ⟨leads.favouritesWritten _ _ (Table.mem_entries.mp listed),fun other present apart => ?_⟩,
        fun entry listed => ⟨leads.historyWritten _ _ (Table.mem_entries.mp listed),fun other present apart => ?_⟩⟩
      · exact absurd (alone.only _ _ (Table.mem_entries.mp present)) apart
      · exact absurd (alone.only _ _ (Table.mem_entries.mp present)) apart
    | readHistory =>
      intro entry listed outside
      obtain ⟨rest,shape⟩ := List.head?_eq_some_iff.mp head
      obtain ⟨prepares,_⟩ | ⟨impossible,_⟩ | ⟨_,begun,_⟩ | ⟨impossible,_⟩ := (coherent.opened u x found).staged.split shape
      · cases prepares
      · cases impossible
      · obtain ⟨records,reads⟩ := Option.isSome_iff_exists.mp begun
        left
        rw [reads,Option.bind_some,leads.favouritesRead records reads,visible_get,Option.isNone_iff_eq_none.mp outside,
          Option.none_or]
        exact Table.mem_entries.mp listed
      · cases impossible
    | _ => trivial
  | _ => trivial

-- The one transaction is replaced by its next state, or is over.
theorem Alone.next {x' : Transaction} (alone : w.Alone t) (transactions : w'.transactions = w.transactions.insert t x')
    (leads : w'.Leads x') : w'.Alone t := by
  refine ⟨fun u y found => ?_,fun y found => ?_⟩
  · rw [transactions,Table.get_insert] at found
    split at found
    · exact Eq.symm ‹_›
    · exact alone.only u y found
  · rw [transactions,Table.get_insert,if_pos rfl] at found
    cases Option.some.inj found
    exact leads

theorem Alone.closed (alone : w.Alone t) (transactions : w'.transactions = w.transactions.erase t) : w'.Alone t := by
  refine ⟨fun u y found => ?_,fun y found => ?_⟩
  · rw [transactions] at found
    exact alone.only u y (Table.get_erase_some found).2
  · rw [transactions,Table.get_erase_self] at found
    cases found

theorem step_alone {move : Move} (alone : w.Alone t) (coherent : w.Coherent pg) (counted : w.Counted)
    (mine : ∀ u, move.transaction = some u → u = t) (happens : Happens pg w move w') : w'.Alone t := by
  cases happens with
  | start fresh idle =>
    obtain rfl := mine _ rfl
    exact alone.next rfl ⟨nofun,.empty,.empty,Current.unread rfl,Current.unread rfl⟩
  | prepare found mover prepared =>
    obtain rfl := mine _ mover
    obtain ⟨drawn,favourites,history,_,_⟩ := alone.leads _ found
    obtain ⟨unread,unheard,_⟩ := (coherent.opened _ _ found).staged.prepare prepared
    refine alone.next rfl ⟨fun r now => ?_,favourites.grows prepared.favourites drawn,
      history.grows prepared.history drawn,Current.unread unread,Current.unread unheard⟩
    rcases prepared.revision r now with old | ⟨new,_⟩
    · exact drawn r old
    · exact counted.past new
  | readFavourites found =>
    obtain rfl := mine _ rfl
    obtain ⟨drawn,favourites,history,_,heard⟩ := alone.leads _ found
    exact alone.next rfl ⟨drawn,favourites,history,Current.select _ _,heard⟩
  | readHistory found =>
    obtain rfl := mine _ rfl
    obtain ⟨drawn,favourites,history,read,_⟩ := alone.leads _ found
    exact alone.next rfl ⟨drawn,favourites,history,read,Current.select _ _⟩
  | commit found =>
    obtain rfl := mine _ rfl
    obtain ⟨drawn,_,_,read,heard⟩ := alone.leads _ found
    exact alone.next rfl ⟨drawn,.empty,.empty,Current.settled read,Current.settled heard⟩
  | finish found mover =>
    obtain rfl := mine _ mover
    exact alone.closed rfl
  | answer found finished answered =>
    obtain rfl := mine _ rfl
    obtain ⟨_,_,_,_,_,_,_,_,rfl⟩ := answer_cases answered
    exact alone.closed rfl
  | elsewhere =>
    refine ⟨alone.only,fun y found => ?_⟩
    obtain ⟨drawn,favourites,history,read,heard⟩ := alone.leads y found
    exact ⟨drawn,favourites,history,read,heard⟩

theorem run_counted {moves : List Move} (path : Runs (Under Ordered (Executes (execute pg))) w moves w')
    (counted : w.Counted) : w'.Counted :=
  path.invariant Counted counted fun _ _ _ earlier taken => step_counted earlier (execute_happens taken.2)

-- A sync that finds the account quiet and is left alone till its end.
theorem run_alone {moves : List Move} (path : Runs (Executes (execute pg)) w moves w')
    (coherent : w.Coherent pg) (counted : w.Counted) (quiet : w.transactions = ∅)
    (mine : ∀ move ∈ moves, ∀ u, move.transaction = some u → u = t) :
    w'.Alone t ∧ w'.Coherent pg ∧ w'.Counted := by
  induction path with
  | nil => exact ⟨quiet_alone quiet t,coherent,counted⟩
  | snoc earlier taken ih =>
    obtain ⟨alone,coherent,counted⟩ := ih fun move member => mine move (List.mem_append_left _ member)
    have happens := execute_happens taken
    exact ⟨step_alone alone coherent counted (mine _ (by simp)) happens,
      step_coherent coherent (alone.ordered coherent) happens,step_counted counted happens⟩

theorem answer_exact (alone : w.Alone t) (coherent : w.Coherent pg) (found : w.transactions[t]? = some x)
    (finished : x.rest = []) (answered : w.answer pg t x = some w') (id : Uuid) :
    (w'.client x.client).favourites[id]? = (w'.favourites[id]?).bind pg.projectFavourite ∧
    (w'.client x.client).history[id]? = (w'.history[id]?).bind pg.projectHistory := by
  have informed := (answer_coherent coherent found finished answered).informed x.client
  obtain ⟨favourites,history,told,known,read,heard,shown,listed,rfl⟩ := answer_cases answered
  obtain ⟨settled,closed⟩ := (coherent.opened t x found).staged.settled finished
  have leads := alone.leads x found
  have all : favourites = w.favourites := by
    rw [leads.favouritesRead favourites read,visible_settled settled]
  have every : history = w.history := by
    rw [leads.historyRead history heard,visible_settled closed]
  subst all every
  refine ⟨informed.1.exact (fun id row present => ?_) id,informed.2.exact (fun id row present => ?_) id⟩
  · rw [client_insert rfl,if_pos rfl]
    exact Nat.le_trans (read_le_cursor (projectFavourite_faithful pg) shown present) (Nat.le_max_left _ _)
  · rw [client_insert rfl,if_pos rfl]
    exact Nat.le_trans (read_le_cursor (projectHistory_faithful pg) listed present) (Nat.le_max_right _ _)

-- The device holds exactly the account's rows.
def Mirrors (pg : Postgres) (w : Server) (c : Nat) : Prop := ∀ id : Uuid,
  (w.client c).favourites[id]? = (w.favourites[id]?).bind pg.projectFavourite ∧
  (w.client c).history[id]? = (w.history[id]?).bind pg.projectHistory

-- A sync of one device that no other overlaps, up to its answer.
def Quiet (pg : Postgres) (w : Server) (c : Nat) (w' : Server) : Prop :=
  w.transactions = ∅ ∧ ∃ t moves v x, Runs (Executes (execute pg)) w moves v ∧
    (∀ move ∈ moves, ∀ u, move.transaction = some u → u = t) ∧
    v.transactions[t]? = some x ∧ x.client = c ∧ v.execute pg (.answer t) = some w'

end Server

-- A device starts with nothing and cursor 0. Where rows become visible in the
-- order of their revisions, no cursor passes a row that its device was not told.
theorem cursor_skips_nothing {pg : Postgres} {moves : List Move} {w : Server}
    (path : Runs (Under Ordered (Executes (Server.execute pg))) Server.start moves w) :
    (∀ c, w.Informed pg c) ∧ ∀ c w', w.Quiet pg c w' → w'.Mirrors pg c := by
  have coherent := Server.run_coherent path (Server.start_coherent pg)
  have counted := Server.run_counted path Server.start_counted
  refine ⟨coherent.informed,?_⟩
  rintro c w' ⟨quiet,t,later,v,x,sync,mine,found,rfl,ended⟩ id
  obtain ⟨alone,coherent,_⟩ := Server.run_alone sync coherent counted quiet mine
  simp only [Server.execute,found,Option.bind_eq_bind,Option.bind_some] at ended
  split at ended
  · rename_i finished
    exact Server.answer_exact alone coherent found (List.isEmpty_iff.mp finished) ended id
  · cases ended

-- A run and then a sync of device `c` as transaction `t`, computed.
def reaches (execute : Server → Move → Option Server) (moves sync : List Move) (t c : Nat) (view : Server → Bool) : Bool :=
  (Transition.run execute Server.start moves).any fun w => w.transactions.isEmpty &&
    (Transition.run (Server.execute sampleServer) w sync).any fun v =>
      (v.transactions[t]?).any (fun x => x.client == c) && (v.execute sampleServer (.answer t)).any view

theorem reaches_quiet {execute : Server → Move → Option Server} {moves sync : List Move} {t c : Nat} {view : Server → Bool}
    (ran : reaches execute moves sync t c view = true)
    (mine : ∀ move ∈ sync, ∀ u, move.transaction = some u → u = t) :
    ∃ w w', Runs (Executes execute) Server.start moves w ∧ w.Quiet sampleServer c w' ∧ view w' = true := by
  obtain ⟨w,path,seen⟩ := Transition.run_reaches execute Server.start moves _ ran
  obtain ⟨quiet,later⟩ := (Bool.and_eq_true _ _).mp seen
  obtain ⟨v,ended,seen⟩ := Transition.run_reaches (Server.execute sampleServer) w sync _ later
  obtain ⟨owned,answered⟩ := (Bool.and_eq_true _ _).mp seen
  obtain ⟨x,found,client⟩ := (Option.any_eq_true _ _).mp owned
  obtain ⟨w',executed,shown⟩ := (Option.any_eq_true _ _).mp answered
  have empty : w.transactions = ∅ := Std.ExtTreeMap.isEmpty_iff.mp quiet
  exact ⟨w,w',path,⟨empty,t,sync,v,x,ended,mine,found,beq_iff_eq.mp client,executed⟩,shown⟩

def saving (recordId : Nat) : CollectionChanges FavouriteUpsert := {upserts := [⟨recordId,"station",second 1,second 1⟩]}

def statements (t n : Nat) : List Move := List.replicate n (.statement t)

def reading (t c : Nat) : List Move := .start t c 0 {} {} :: statements t 3

theorem reading_mine (t c : Nat) : ∀ move ∈ reading t c, ∀ u, move.transaction = some u → u = t := by
  intro move member u mover
  rcases List.mem_cons.mp member with rfl | later
  · exact (Option.some.inj mover).symm
  · rw [List.eq_of_mem_replicate later] at mover
    exact (Option.some.inj mover).symm

-- Two devices save a favourite each; the first revision is committed first.
def overlapping : List Move :=
  [.start 1 1 0 (saving 1) {},.nextval 1,.statement 1,.start 2 2 0 (saving 2) {},.nextval 2,.statement 2] ++
  statements 1 4 ++ [.answer 1] ++ statements 2 4 ++ [.answer 2]

theorem cursor_skips_nothing_overlapping : ∃ w w',
    Runs (Under Ordered (Executes (Server.execute sampleServer))) Server.start overlapping w ∧
    w.Quiet sampleServer 1 w' ∧ ((w'.client 1).favourites[(2 : Uuid)]?).isSome = true ∧ w'.Mirrors sampleServer 1 := by
  have ran : reaches (Transition.guarded (fun w move => decide (Ordered w move)) (Server.execute sampleServer)) overlapping
      (reading 3 1) 3 1 (fun w => ((w.client 1).favourites[(2 : Uuid)]?).isSome) = true := by decide
  obtain ⟨w,w',checked,quiet,told⟩ := reaches_quiet ran (reading_mine 3 1)
  have path : Runs (Under Ordered (Executes (Server.execute sampleServer))) Server.start overlapping w :=
    checked.mono fun _ _ _ taken => (Transition.guarded_under taken).imp_left of_decide_eq_true
  exact ⟨w,w',path,quiet,told,(cursor_skips_nothing path).2 1 w' quiet⟩

-- The second revision is committed first, and a third device takes it for its
-- cursor before the first is committed.
def overtaking : List Move :=
  [.start 1 1 0 (saving 1) {},.nextval 1,.statement 1,.start 2 2 0 (saving 2) {},.nextval 2] ++ statements 2 5 ++
  [.answer 2] ++ reading 3 3 ++ [.answer 3] ++ statements 1 4 ++ [.answer 1]

theorem overtaken_row_skipped : ∃ w w', Runs (Executes (Server.execute sampleServer)) Server.start overtaking w ∧
    w.Quiet sampleServer 3 w' ∧ ¬w'.Mirrors sampleServer 3 := by
  have ran : reaches (Server.execute sampleServer) overtaking (reading 4 3) 4 3 (fun w =>
      ((w.client 3).favourites[(1 : Uuid)]?).isNone &&
      ((w.favourites[(1 : Uuid)]?).bind sampleServer.projectFavourite).isSome) = true := by decide
  obtain ⟨w,w',path,quiet,seen⟩ := reaches_quiet ran (reading_mine 4 3)
  obtain ⟨missing,stored⟩ := (Bool.and_eq_true _ _).mp seen
  refine ⟨w,w',path,quiet,fun mirrors => ?_⟩
  rw [← (mirrors 1).1,Option.isNone_iff_eq_none.mp missing] at stored
  cases stored

end PersonalData
