import RockServer.Transition
import RockServer.Tables

-- Transactions at READ COMMITTED. A statement sees what is committed when it
-- runs, and its own transaction's writes. It takes row locks that last to the
-- end of the transaction, and it waits while another transaction holds a lock
-- against them, so that its conditions are judged on the rows it has locked.
namespace ReadCommitted

-- Databases whose rows are reached by typed keys, one kind of key for a table.
class Rows (Db : Type) (Key : outParam Type) (Row : outParam (Key → Type)) where
  get : Db → (k : Key) → Option (Row k)
  set : Db → (k : Key) → Row k → Db
  get_set : ∀ (db : Db) (k : Key) (row : Row k), get (set db k row) k = some row
  get_set_ne : ∀ (db : Db) (k : Key) (row : Row k) (j : Key), k ≠ j → get (set db k row) j = get db j

structure Write {Key : Type} (Row : Key → Type) where
  key : Key
  row : Row key

inductive Mode where
  | keyShare
  | noKeyUpdate
  | update
deriving DecidableEq

-- FOR KEY SHARE stands against FOR UPDATE only, all others against each other.
def Mode.conflicts : Mode → Mode → Bool
  | .keyShare,.update | .update,.keyShare => true
  | .keyShare,_ | _,.keyShare => false
  | _,_ => true

-- What a process does next, as its program decides on the rows it sees.
inductive Act {Key : Type} (Row : Key → Type) (Place : Type) where
  | begin (next : Place)
  | statement (locks : List (Key × Mode)) (writes : List (Write Row)) (next : Place)
  | commit (next : Place)
  | rollback (next : Place)

def Act.map {Key : Type} {Row : Key → Type} {Place Place' : Type} (f : Place → Place') : Act Row Place → Act Row Place'
  | .begin next => .begin (f next)
  | .statement locks writes next => .statement locks writes (f next)
  | .commit next => .commit (f next)
  | .rollback next => .rollback (f next)

-- A process runs transactions one after the other; `now` is the database clock
-- at the start of the last one.
structure Process {Key : Type} (Row : Key → Type) (Time Place : Type) where
  place : Place
  now : Time
  locks : List (Key × Mode) := []
  writes : List (Write Row) := []

structure Server (Db Time : Type) {Key : Type} (Row : Key → Type) (Place : Type) where
  db : Db
  clock : Time
  processes : Table Nat (Process Row Time Place)

-- The choice settles what the source leaves open, such as the order in which an
-- UPDATE meets its rows.
structure Program (Db Time Choice : Type) {Key : Type} (Row : Key → Type) (Place : Type) where
  admits : Server Db Time Row Place → Place → Bool
  act : Choice → Time → Db → Place → Option (Act Row Place)
  failed : Place → Place

-- Any process may fail at any point, by an error, a deadlock or a lost
-- connection.
inductive Move (Time Choice Place : Type) where
  | start (t : Nat) (place : Place)
  | act (t : Nat) (choice : Choice)
  | fail (t : Nat)
  | tick (clock : Time)

section overlay
variable {Db Key : Type} {Row : Key → Type} [Rows Db Key Row]

def overlay (db : Db) (writes : List (Write Row)) : Db := writes.foldl (fun db write => Rows.set db write.key write.row) db

variable {db db' : Db} {writes more : List (Write Row)} {k : Key}

theorem overlay_append : overlay db (writes ++ more) = overlay (overlay db writes) more := List.foldl_append

theorem overlay_unwritten (others : ∀ write ∈ writes, write.key ≠ k) : Rows.get (overlay db writes) k = Rows.get db k := by
  induction writes generalizing db with
  | nil => rfl
  | cons write rest ih =>
    have kept : Rows.get (overlay (Rows.set db write.key write.row) rest) k = Rows.get (Rows.set db write.key write.row) k :=
      ih fun other member => others other (List.mem_cons_of_mem _ member)
    exact kept.trans (Rows.get_set_ne _ _ _ _ (others write List.mem_cons_self))

-- What stands at a key depends on what stood there only.
theorem overlay_same (same : Rows.get db k = Rows.get db' k) :
    Rows.get (overlay db writes) k = Rows.get (overlay db' writes) k := by
  induction writes generalizing db db' with
  | nil => exact same
  | cons write rest ih =>
    refine ih ?_
    by_cases here : write.key = k
    · subst here
      rw [Rows.get_set,Rows.get_set]
    · rw [Rows.get_set_ne _ _ _ _ here,Rows.get_set_ne _ _ _ _ here,same]

theorem overlay_cases : Rows.get (overlay db writes) k = Rows.get db k ∨ ∃ write ∈ writes, write.key = k := by
  by_cases written : ∃ write ∈ writes, write.key = k
  · exact .inr written
  · exact .inl (overlay_unwritten fun write member same => written ⟨write,member,same⟩)

-- The last write at a key stands there.
theorem overlay_last (written : ∃ write ∈ writes, write.key = k) :
    ∃ row, (⟨k,row⟩ : Write Row) ∈ writes ∧ Rows.get (overlay db writes) k = some row := by
  induction writes generalizing db with
  | nil =>
    obtain ⟨write,member,_⟩ := written
    cases member
  | cons write rest ih =>
    by_cases again : ∃ write ∈ rest, write.key = k
    · obtain ⟨row,member,here⟩ := @ih (Rows.set db write.key write.row) again
      exact ⟨row,List.mem_cons_of_mem _ member,here⟩
    · have last : Rows.get (overlay (Rows.set db write.key write.row) rest) k = Rows.get (Rows.set db write.key write.row) k :=
        overlay_unwritten fun other member same => again ⟨other,member,same⟩
      obtain ⟨other,member,rfl⟩ := written
      rcases List.mem_cons.mp member with rfl | member
      · exact ⟨other.row,List.mem_cons_self,last.trans (Rows.get_set _ _ _)⟩
      · exact absurd ⟨other,member,rfl⟩ again

end overlay

namespace Server
variable {Db Time Choice Key Place : Type} {Row : Key → Type} [DecidableEq Key] [Rows Db Key Row] [LinearOrder Time]

def put (s : Server Db Time Row Place) (t : Nat) (p : Process Row Time Place) : Server Db Time Row Place :=
  {s with processes := s.processes.insert t p}

def visible (s : Server Db Time Row Place) (p : Process Row Time Place) : Db := overlay s.db p.writes

-- No other transaction holds a lock against this one.
def free (s : Server Db Time Row Place) (t : Nat) (lock : Key × Mode) : Bool :=
  s.processes.toList.all fun entry => entry.1 = t || entry.2.locks.all fun held =>
    held.1 ≠ lock.1 || !held.2.conflicts lock.2

-- What a statement writes it locks, at least FOR NO KEY UPDATE.
def wanted (locks : List (Key × Mode)) (writes : List (Write Row)) : List (Key × Mode) :=
  locks ++ writes.map fun write => (write.key,.noKeyUpdate)

def perform (s : Server Db Time Row Place) (t : Nat) (p : Process Row Time Place) :
    Act Row Place → Option (Server Db Time Row Place)
  | .begin next => some (s.put t ⟨next,s.clock,[],[]⟩)
  | .statement locks writes next =>
    if (wanted locks writes).all (s.free t) then
      some (s.put t {p with place := next,locks := p.locks ++ wanted locks writes,writes := p.writes ++ writes})
    else none
  | .commit next => some ({s with db := s.visible p}.put t ⟨next,p.now,[],[]⟩)
  | .rollback next => some (s.put t ⟨next,p.now,[],[]⟩)

variable (program : Program Db Time Choice Row Place)

def execute (s : Server Db Time Row Place) : Move Time Choice Place → Option (Server Db Time Row Place)
  | .start t place =>
    if (s.processes[t]?).isNone && program.admits s place then some (s.put t ⟨place,s.clock,[],[]⟩) else none
  | .act t choice => s.processes[t]?.bind fun p =>
    (program.act choice p.now (s.visible p) p.place).bind (s.perform t p)
  | .fail t => s.processes[t]?.map fun p => s.put t ⟨program.failed p.place,p.now,[],[]⟩
  | .tick clock => if s.clock ≤ clock then some {s with clock := clock} else none

abbrev Step := Transition.Executes (execute program)
abbrev Runs := Transition.Runs (Step program)

end Server

-- Every step, with what the program decided.
inductive Happens {Db Time Choice Key Place : Type} {Row : Key → Type} [DecidableEq Key] [Rows Db Key Row]
    [LinearOrder Time] (program : Program Db Time Choice Row Place) (s : Server Db Time Row Place) :
    Move Time Choice Place → Server Db Time Row Place → Prop where
  | start {t place} (fresh : s.processes[t]? = none) (admitted : program.admits s place = true) :
      Happens program s (.start t place) (s.put t ⟨place,s.clock,[],[]⟩)
  | begin {t choice p next} (found : s.processes[t]? = some p)
      (acts : program.act choice p.now (s.visible p) p.place = some (.begin next)) :
      Happens program s (.act t choice) (s.put t ⟨next,s.clock,[],[]⟩)
  | statement {t choice p locks writes next} (found : s.processes[t]? = some p)
      (acts : program.act choice p.now (s.visible p) p.place = some (.statement locks writes next))
      (free : ∀ lock ∈ Server.wanted locks writes, s.free t lock = true) :
      Happens program s (.act t choice) (s.put t {p with
        place := next,locks := p.locks ++ Server.wanted locks writes,writes := p.writes ++ writes})
  | commit {t choice p next} (found : s.processes[t]? = some p)
      (acts : program.act choice p.now (s.visible p) p.place = some (.commit next)) :
      Happens program s (.act t choice) ({s with db := s.visible p}.put t ⟨next,p.now,[],[]⟩)
  | rollback {t choice p next} (found : s.processes[t]? = some p)
      (acts : program.act choice p.now (s.visible p) p.place = some (.rollback next)) :
      Happens program s (.act t choice) (s.put t ⟨next,p.now,[],[]⟩)
  | fail {t p} (found : s.processes[t]? = some p) :
      Happens program s (.fail t) (s.put t ⟨program.failed p.place,p.now,[],[]⟩)
  | tick {clock} (later : s.clock ≤ clock) : Happens program s (.tick clock) {s with clock := clock}

section locks
variable {Db Time Key Place : Type} {Row : Key → Type}

def Apart (p q : Process Row Time Place) : Prop :=
  ∀ (k : Key) (m n : Mode), (k,m) ∈ p.locks → (k,n) ∈ q.locks → m.conflicts n = false

def Covered (p : Process Row Time Place) : Prop := ∀ write ∈ p.writes, (write.key,Mode.noKeyUpdate) ∈ p.locks

-- Locks of different transactions never conflict, and cover what is written.
structure Orderly (s : Server Db Time Row Place) : Prop where
  apart : ∀ (t u : Nat) (p q : Process Row Time Place), t ≠ u → s.processes[t]? = some p → s.processes[u]? = some q →
    Apart p q
  covered : ∀ (t : Nat) (p : Process Row Time Place), s.processes[t]? = some p → Covered p

variable {s : Server Db Time Row Place} {t : Nat} {p q : Process Row Time Place} {k : Key}

theorem conflicts_symm (a b : Mode) : a.conflicts b = b.conflicts a := by cases a <;> cases b <;> rfl

theorem Apart.symm (apart : Apart p q) : Apart q p := fun k m n mine other =>
  (conflicts_symm m n).trans (apart k n m other mine)

theorem free_iff [DecidableEq Key] {lock : Key × Mode} : s.free t lock = true ↔ ∀ (u : Nat) (q : Process Row Time Place),
    u ≠ t → s.processes[u]? = some q → ∀ n : Mode, (lock.1,n) ∈ q.locks → n.conflicts lock.2 = false := by
  simp only [Server.free,List.all_eq_true,Bool.or_eq_true,decide_eq_true_iff,Bool.not_eq_true']
  constructor
  · intro free u q other found n held
    rcases free (u,q) (Table.mem_entries.mpr found) with same | apart
    · exact absurd same other
    · rcases apart (lock.1,n) held with different | allowed
      · exact absurd rfl different
      · exact allowed
  · rintro free ⟨u,q⟩ member
    by_cases same : u = t
    · exact .inl same
    · refine .inr fun held present => ?_
      by_cases here : held.1 = lock.1
      · exact .inr (free u q same (Table.mem_entries.mp member) held.2 (here ▸ present))
      · exact .inl here

theorem Orderly.empty (vacant : s.processes = ∅) : Orderly s := by
  constructor
  · intro t u p q _ found
    rw [vacant,Std.ExtTreeMap.getElem?_empty] at found
    cases found
  · intro t p found
    rw [vacant,Std.ExtTreeMap.getElem?_empty] at found
    cases found

theorem Orderly.put (orderly : Orderly s) (covered : Covered p)
    (apart : ∀ (u : Nat) (q : Process Row Time Place), u ≠ t → s.processes[u]? = some q → Apart p q) :
    Orderly (s.put t p) := by
  constructor
  · intro a b x y different first second
    simp only [Server.put,Table.get_insert] at first second
    split at first
    · rename_i same
      cases first
      rw [if_neg (fun here => different (same.symm.trans here))] at second
      exact apart b y (fun here => different (same.symm.trans here.symm)) second
    · rename_i other
      split at second
      · rename_i same
        cases second
        exact (apart a x (fun here => other here.symm) first).symm
      · exact orderly.apart a b x y different first second
  · intro a x found
    simp only [Server.put,Table.get_insert] at found
    split at found
    · cases found
      exact covered
    · exact orderly.covered a x found

-- A process that lets go of everything is apart from all others.
theorem Orderly.release (orderly : Orderly s) {place : Place} {now : Time} : Orderly (s.put t ⟨place,now,[],[]⟩) :=
  orderly.put (fun _ member => absurd member List.not_mem_nil) fun _ _ _ _ _ _ _ held => absurd held List.not_mem_nil

-- A row that a transaction has locked stays as it is while others commit.
theorem locked_kept [Rows Db Key Row] {db : Db} {m : Mode} (apart : Apart p q) (covered : Covered q)
    (held : (k,m) ∈ p.locks) (strong : m ≠ .keyShare) : Rows.get (overlay db q.writes) k = Rows.get db k := by
  refine overlay_unwritten fun write member same => ?_
  have clash := apart k m .noKeyUpdate held (same ▸ covered write member)
  cases m with
  | keyShare => exact strong rfl
  | noKeyUpdate | update => cases clash

end locks

section steps
variable {Db Time Choice Key Place : Type} {Row : Key → Type} [DecidableEq Key] [Rows Db Key Row] [LinearOrder Time]
variable {program : Program Db Time Choice Row Place} {s s' : Server Db Time Row Place} {move : Move Time Choice Place}

theorem happens (taken : Server.Step program s move s') : Happens program s move s' := by
  cases move with
  | start t place =>
    simp only [Transition.Executes,Server.execute] at taken
    split at taken
    · rename_i allowed
      cases taken
      obtain ⟨fresh,admitted⟩ := (Bool.and_eq_true _ _).mp allowed
      exact .start (Option.isNone_iff_eq_none.mp fresh) admitted
    · cases taken
  | act t choice =>
    obtain ⟨p,found,taken⟩ := Option.bind_eq_some_iff.mp taken
    obtain ⟨act,acts,taken⟩ := Option.bind_eq_some_iff.mp taken
    cases act with
    | begin next =>
      cases taken
      exact .begin found acts
    | statement locks writes next =>
      simp only [Server.perform] at taken
      split at taken
      · rename_i free
        cases taken
        exact .statement found acts (List.all_eq_true.mp free)
      · cases taken
    | commit next =>
      cases taken
      exact .commit found acts
    | rollback next =>
      cases taken
      exact .rollback found acts
  | fail t =>
    obtain ⟨p,found,rfl⟩ := Option.map_eq_some_iff.mp taken
    exact .fail found
  | tick clock =>
    simp only [Transition.Executes,Server.execute] at taken
    split at taken
    · rename_i later
      cases taken
      exact .tick later
    · cases taken

theorem orderly_step (orderly : Orderly s) (taken : Server.Step program s move s') : Orderly s' := by
  cases happens taken with
  | start | begin => exact orderly.release
  | @commit t choice p next => exact Orderly.release (s:={s with db := s.visible p}) ⟨orderly.apart,orderly.covered⟩
  | rollback | fail => exact orderly.release
  | tick => exact ⟨orderly.apart,orderly.covered⟩
  | @statement t choice p locks writes next found acts free =>
    refine orderly.put ?_ fun u q other there k m n mine theirs => ?_
    · intro write member
      rcases List.mem_append.mp member with old | new
      · exact List.mem_append_left _ (orderly.covered _ _ found write old)
      · exact List.mem_append_right _ (List.mem_append_right _ (List.mem_map_of_mem new))
    · rcases List.mem_append.mp mine with old | new
      · exact orderly.apart _ _ _ _ (Ne.symm other) found there k m n old theirs
      · exact (conflicts_symm m n).trans (free_iff.mp (free (k,m) new) u q other there n theirs)

end steps

-- Proof outlines: an assertion for each process and one for the database, kept
-- by the process's own acts and by what others commit.
structure Outline {Db Time Choice Key Place : Type} {Row : Key → Type} [Rows Db Key Row]
    (program : Program Db Time Choice Row Place) (Good : Db → Prop) (Holds : Db → Process Row Time Place → Prop) :
    Prop where
  start : ∀ (s : Server Db Time Row Place) place, program.admits s place = true → Good s.db →
    Holds s.db ⟨place,s.clock,[],[]⟩
  begin : ∀ {db p choice next}, Good db → Holds db p →
    program.act choice p.now (overlay db p.writes) p.place = some (.begin next) → ∀ clock, Holds db ⟨next,clock,[],[]⟩
  statement : ∀ {db p choice locks writes next}, Good db → Holds db p → Covered p →
    program.act choice p.now (overlay db p.writes) p.place = some (.statement locks writes next) →
    Holds db {p with place := next,locks := p.locks ++ Server.wanted locks writes,writes := p.writes ++ writes}
  commit : ∀ {db p choice next}, Good db → Holds db p →
    program.act choice p.now (overlay db p.writes) p.place = some (.commit next) →
    Good (overlay db p.writes) ∧ Holds (overlay db p.writes) ⟨next,p.now,[],[]⟩
  rollback : ∀ {db p choice next}, Good db → Holds db p →
    program.act choice p.now (overlay db p.writes) p.place = some (.rollback next) → Holds db ⟨next,p.now,[],[]⟩
  fail : ∀ {db p}, Good db → Holds db p → Holds db ⟨program.failed p.place,p.now,[],[]⟩
  stable : ∀ {db p q choice next}, Good db → Holds db p → Holds db q → Covered p → Covered q → Apart p q →
    program.act choice q.now (overlay db q.writes) q.place = some (.commit next) → Holds (overlay db q.writes) p

namespace Outline

section sound
variable {Db Time Key Place : Type} {Row : Key → Type} {s : Server Db Time Row Place}
variable {Good : Db → Prop} {Holds : Db → Process Row Time Place → Prop}

structure Sound (Good : Db → Prop) (Holds : Db → Process Row Time Place → Prop) (s : Server Db Time Row Place) : Prop where
  orderly : Orderly s
  good : Good s.db
  holds : ∀ (t : Nat) (p : Process Row Time Place), s.processes[t]? = some p → Holds s.db p

theorem Sound.initial (vacant : s.processes = ∅) (good : Good s.db) : Sound Good Holds s := by
  refine ⟨.empty vacant,good,fun t p found => ?_⟩
  rw [vacant,Std.ExtTreeMap.getElem?_empty] at found
  cases found

end sound

variable {Db Time Choice Key Place : Type} {Row : Key → Type} [DecidableEq Key] [Rows Db Key Row] [LinearOrder Time]
variable {program : Program Db Time Choice Row Place} {Good : Db → Prop} {Holds : Db → Process Row Time Place → Prop}
variable {s s' origin : Server Db Time Row Place} {move : Move Time Choice Place} {moves : List (Move Time Choice Place)}

theorem sound_step (outline : Outline program Good Holds) (sound : Sound Good Holds s)
    (taken : Server.Step program s move s') : Sound Good Holds s' := by
  have orderly := orderly_step sound.orderly taken
  have moved {t : Nat} {p : Process Row Time Place} (holds : Holds s.db p) (u : Nat) (q : Process Row Time Place)
      (found : (s.put t p).processes[u]? = some q) : Holds s.db q := by
    simp only [Server.put,Table.get_insert] at found
    split at found
    · cases found
      exact holds
    · exact sound.holds u q found
  cases happens taken with
  | start _ admitted => exact ⟨orderly,sound.good,moved (outline.start s _ admitted sound.good)⟩
  | begin found acts => exact ⟨orderly,sound.good,moved (outline.begin sound.good (sound.holds _ _ found) acts _)⟩
  | statement found acts =>
    exact ⟨orderly,sound.good,
      moved (outline.statement sound.good (sound.holds _ _ found) (sound.orderly.covered _ _ found) acts)⟩
  | rollback found acts => exact ⟨orderly,sound.good,moved (outline.rollback sound.good (sound.holds _ _ found) acts)⟩
  | fail found => exact ⟨orderly,sound.good,moved (outline.fail sound.good (sound.holds _ _ found))⟩
  | tick => exact ⟨orderly,sound.good,sound.holds⟩
  | @commit t choice q next found acts =>
    obtain ⟨good,holds⟩ := outline.commit sound.good (sound.holds _ _ found) acts
    refine ⟨orderly,good,fun u p there => ?_⟩
    simp only [Server.put,Table.get_insert] at there
    split at there
    · cases there
      exact holds
    · rename_i other
      exact outline.stable sound.good (sound.holds _ _ there) (sound.holds _ _ found) (sound.orderly.covered _ _ there)
        (sound.orderly.covered _ _ found) (sound.orderly.apart _ _ _ _ (Ne.symm other) there found) acts

theorem sound_run (outline : Outline program Good Holds) (sound : Sound Good Holds origin)
    (path : Server.Runs program origin moves s) : Sound Good Holds s :=
  path.invariant (Sound Good Holds) sound fun _ _ _ => outline.sound_step

-- A relation on the versions of a row that every statement keeps on what it
-- writes relates what is committed to what a transaction sees, and so any two
-- committed versions, the earlier one first.
section evolution
variable {R : (k : Key) → Option (Row k) → Option (Row k) → Prop}

def Grown (Holds : Db → Process Row Time Place → Prop) (R : (k : Key) → Option (Row k) → Option (Row k) → Prop) (db : Db)
    (p : Process Row Time Place) : Prop :=
  Holds db p ∧ ∀ k, R k (Rows.get db k) (Rows.get (overlay db p.writes) k)

omit [DecidableEq Key] [LinearOrder Time] in
theorem grown (outline : Outline program Good Holds) (refl : ∀ k row, R k row row)
    (trans : ∀ k a b c, R k a b → R k b c → R k a c)
    (keeps : ∀ {db p choice locks writes next}, Good db → Holds db p →
      program.act choice p.now (overlay db p.writes) p.place = some (.statement locks writes next) →
      ∀ k, R k (Rows.get (overlay db p.writes) k) (Rows.get (overlay (overlay db p.writes) writes) k)) :
    Outline program Good (Grown Holds R) := by
  have empty (db : Db) (k : Key) : R k (Rows.get db k) (Rows.get (overlay db ([] : List (Write Row))) k) := refl k _
  refine ⟨?_,?_,?_,?_,?_,?_,?_⟩
  · exact fun s place admitted good => ⟨outline.start s place admitted good,empty _⟩
  · exact fun good holds acts clock => ⟨outline.begin good holds.1 acts clock,empty _⟩
  · intro db p choice locks writes next good holds covered acts
    refine ⟨outline.statement good holds.1 covered acts,fun k => ?_⟩
    rw [overlay_append]
    exact trans k _ _ _ (holds.2 k) (keeps good holds.1 acts k)
  · intro db p choice next good holds acts
    obtain ⟨good,holds⟩ := outline.commit good holds.1 acts
    exact ⟨good,holds,empty _⟩
  · exact fun good holds acts => ⟨outline.rollback good holds.1 acts,empty _⟩
  · exact fun good holds => ⟨outline.fail good holds.1,empty _⟩
  · intro db p q choice next good mine other covered covers apart acts
    refine ⟨outline.stable good mine.1 other.1 covered covers apart acts,fun k => ?_⟩
    have cases : Rows.get (overlay (overlay db q.writes) p.writes) k = Rows.get (overlay db q.writes) k ∨
      ∃ write ∈ p.writes, write.key = k := overlay_cases
    rcases cases with same | ⟨write,member,rfl⟩
    · rw [same]
      exact refl k _
    · have kept : Rows.get (overlay db q.writes) write.key = Rows.get db write.key :=
        locked_kept apart covers (covered write member) (by decide)
      rw [kept,overlay_same kept]
      exact mine.2 _

omit [DecidableEq Key] [LinearOrder Time] in
theorem grown_idle (refl : ∀ k row, R k row row) (sound : Sound Good Holds origin)
    (idle : ∀ (t : Nat) p, origin.processes[t]? = some p → p.writes = []) : Sound Good (Grown Holds R) origin := by
  refine ⟨sound.orderly,sound.good,fun t p found => ⟨sound.holds t p found,fun k => ?_⟩⟩
  rw [idle t p found]
  exact refl k _

theorem evolving (outline : Outline program Good (Grown Holds R)) (refl : ∀ k row, R k row row)
    (trans : ∀ k a b c, R k a b → R k b c → R k a c) (sound : Sound Good (Grown Holds R) origin)
    (path : Server.Runs program origin moves s) : ∀ k, R k (Rows.get origin.db k) (Rows.get s.db k) := by
  have both := path.invariant (fun s => Sound Good (Grown Holds R) s ∧ ∀ k, R k (Rows.get origin.db k) (Rows.get s.db k))
    ⟨sound,fun k => refl k _⟩ fun s move s' both taken => by
      refine ⟨outline.sound_step both.1 taken,fun k => ?_⟩
      cases happens taken with
      | commit found => exact trans k _ _ _ (both.2 k) ((both.1.holds _ _ found).2 k)
      | start | begin | statement | rollback | fail | tick => exact both.2 k
  exact both.2

end evolution

-- The earlier version may be one that was committed on the way.
theorem evolves_between {middle : Server Db Time Row Place} {earlier : List (Move Time Choice Place)}
    (outline : Outline program Good Holds) (R : (k : Key) → Option (Row k) → Option (Row k) → Prop)
    (refl : ∀ k row, R k row row) (trans : ∀ k a b c, R k a b → R k b c → R k a c)
    (keeps : ∀ {db p choice locks writes next}, Good db → Holds db p →
      program.act choice p.now (overlay db p.writes) p.place = some (.statement locks writes next) →
      ∀ k, R k (Rows.get (overlay db p.writes) k) (Rows.get (overlay (overlay db p.writes) writes) k))
    (sound : Sound Good Holds origin) (idle : ∀ (t : Nat) p, origin.processes[t]? = some p → p.writes = [])
    (before : Server.Runs program origin earlier middle) (path : Server.Runs program middle moves s) :
    ∀ k, R k (Rows.get middle.db k) (Rows.get s.db k) := by
  have grows := outline.grown refl trans keeps
  exact grows.evolving refl trans (grows.sound_run (grown_idle refl sound idle) before) path

end Outline
end ReadCommitted
