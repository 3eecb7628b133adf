import RockServer.AccountChanges

namespace AccountStore
open DeviceControl (Uuid Instant minutes)
open ReadCommitted (Rows Write Act Mode Process Program Outline Server overlay Covered Apart happens locked_kept)

abbrev AccountStep := Server.Step accountProgram
abbrev AccountRuns := Server.Runs accountProgram
abbrev AccountSound := Outline.Sound (fun _ : AccountDb => True) Holds

-- A process about to commit, with what it has written.
structure Committing (s : AccountServer) (t : Nat) (p : AccountProcess) (next : Stage) : Prop where
  found : s.processes[t]? = some p
  holds : Holds s.db p
  commits : Commits p.place.operation p.place.stage next

def committed (s : AccountServer) (t : Nat) (p : AccountProcess) (next : Stage) : AccountServer :=
  ({s with db := overlay s.db p.writes} : AccountServer).put t ⟨⟨p.place.operation,next⟩,p.now,[],[]⟩

def AccountPlace.Spent (place : AccountPlace) : Prop := place.operation.Spent place.stage

-- A step commits, or it leaves the database as it is.
inductive AccountTurn (s : AccountServer) : AccountMove → AccountServer → Prop where
  | commit {t choice p next} : Committing s t p next → AccountTurn s (.act t choice) (committed s t p next)
  | tick {clock} : s.clock ≤ clock → AccountTurn s (.tick clock) {s with clock := clock}
  | enter {t operation} : s.processes[t]? = none →
      AccountTurn s (.start t ⟨operation,.entered⟩) (s.put t ⟨⟨operation,.entered⟩,s.clock,[],[]⟩)
  | fail {t p} : s.processes[t]? = some p →
      AccountTurn s (.fail t) (s.put t ⟨⟨p.place.operation,p.place.stage.failed⟩,p.now,[],[]⟩)
  | proceed {t choice p next now locks writes} : s.processes[t]? = some p → (∀ answer, p.place.stage ≠ .answered answer) →
      (p.place.operation.Spent next → p.place.operation.Spent p.place.stage) → now = p.now ∨ now = s.clock →
      AccountTurn s (.act t choice) (s.put t ⟨⟨p.place.operation,next⟩,now,locks,writes⟩)

variable {s s' origin : AccountServer} {move : AccountMove} {moves : List AccountMove} {t u : Nat} {p q : AccountProcess}
variable {next : Stage}

theorem account_sound (vacant : origin.processes = ∅) (path : AccountRuns origin moves s) : AccountSound s :=
  Outline.sound_run outline (.initial vacant trivial) path

theorem answered_acts {db : AccountDb} {choice : Uuid} {now : Instant} {place : AccountPlace} {act : Act AccountRow AccountPlace}
    (acts : accountProgram.act choice now db place = some act) : ∀ answer, place.stage ≠ .answered answer := by
  intro answer same
  obtain ⟨operation,stage⟩ := place
  cases same
  obtain ⟨act,acts,_⟩ := Option.map_eq_some_iff.mp acts
  cases operation <;> cases acts

theorem account_turn (sound : AccountSound s) (taken : AccountStep s move s') : AccountTurn s move s' := by
  cases happens taken with
  | @start t place fresh admitted =>
    obtain ⟨operation,stage⟩ := place
    cases stage with
    | entered => exact .enter fresh
    | _ => cases admitted
  | begin found acts =>
    obtain ⟨act,leads,same⟩ := act_leads (sound.holds _ _ found) acts
    cases leads with
    | begin _ kept => cases same; exact .proceed found (answered_acts acts) kept (.inr rfl)
    | _ => cases same
  | statement found acts =>
    obtain ⟨act,leads,same⟩ := act_leads (sound.holds _ _ found) acts
    cases leads with
    | statement _ kept => cases same; exact .proceed found (answered_acts acts) kept (.inl rfl)
    | _ => cases same
  | rollback found acts =>
    obtain ⟨act,leads,same⟩ := act_leads (sound.holds _ _ found) acts
    cases leads with
    | rollback _ unspent => cases same; exact .proceed found (answered_acts acts) (fun spent => absurd spent unspent) (.inl rfl)
    | _ => cases same
  | commit found acts =>
    obtain ⟨act,leads,same⟩ := act_leads (sound.holds _ _ found) acts
    cases leads with
    | commit commits => cases same; exact .commit ⟨found,sound.holds _ _ found,commits⟩
    | _ => cases same
  | fail found => exact .fail found
  | tick later => exact .tick later

theorem committed_db (s : AccountServer) (t : Nat) (p : AccountProcess) (next : Stage) :
    (committed s t p next).db = overlay s.db p.writes := rfl

-- A relation that every change of a row keeps holds from any state of a run on.
theorem evolves {k : AccountKey} {R : Option (AccountRow k) → Option (AccountRow k) → Prop} (refl : ∀ row, R row row)
    (trans : ∀ a b c, R a b → R b c → R a c)
    (changes : ∀ {db now locks stage operation row}, Change db now locks stage operation k row → R (db.get k) (some row))
    (sound : AccountSound s) (path : AccountRuns s moves s') : R (s.db.get k) (s'.db.get k) := by
  have both := path.invariant (fun s' => AccountSound s' ∧ R (s.db.get k) (s'.db.get k)) ⟨sound,refl _⟩
    fun middle move last both taken => by
      refine ⟨Outline.sound_step outline both.1 taken,?_⟩
      cases account_turn both.1 taken with
      | @commit t choice p next committing =>
        refine trans _ _ _ both.2 ?_
        rw [committed_db]
        rcases changed committing.holds committing.commits k with same | ⟨row,change,here⟩
        · rw [same]
          exact refl _
        · rw [here]
          exact changes change
      | tick | enter | fail | proceed => exact both.2
  exact both.2

-- Versions of a row that is there or not: how it comes, and how it goes on.
def Course {α : Type} (Born : α → Prop) (Grown : α → α → Prop) : Option α → Option α → Prop
  | none,none => True
  | none,some b => Born b
  | some _,none => False
  | some a,some b => Grown a b

theorem course_evolves {k : AccountKey} {Born : AccountRow k → Prop} {Grown : AccountRow k → AccountRow k → Prop}
    (refl : ∀ row, Grown row row) (trans : ∀ a b c, Grown a b → Grown b c → Grown a c)
    (born : ∀ a b, Born a → Grown a b → Born b)
    (changes : ∀ {db now locks stage operation row}, Change db now locks stage operation k row →
      Course Born Grown (db.get k) (some row))
    (sound : AccountSound s) (path : AccountRuns s moves s') : Course Born Grown (s.db.get k) (s'.db.get k) := by
  refine evolves (R:=Course Born Grown) (fun row => ?_) (fun a b c first second => ?_) changes sound path
  · cases row with
    | none => exact trivial
    | some row => exact refl row
  · cases a with
    | none =>
      cases b with
      | none => exact second
      | some b =>
        cases c with
        | none => exact False.elim second
        | some c => exact born b c first second
    | some a =>
      cases b with
      | none => exact False.elim first
      | some b =>
        cases c with
        | none => exact False.elim second
        | some c => exact trans a b c first second

theorem course_grown {α : Type} {Born : α → Prop} {Grown : α → α → Prop} {a : α} {b : Option α}
    (course : Course Born Grown (some a) b) : ∃ row, b = some row ∧ Grown a row := by
  cases b with
  | none => exact False.elim course
  | some row => exact ⟨row,rfl,course⟩

theorem put_get : (s.put t p).processes[u]? = if t = u then some p else s.processes[u]? := Table.get_insert

theorem put_self : (s.put t p).processes[t]? = some p := put_get.trans (if_pos rfl)

theorem commits_unanswered {operation : Operation} {stage : Stage} (commits : Commits operation stage next) : ∀ answer, stage ≠ .answered answer := by
  rintro answer rfl
  cases commits

-- An answer is the end of its process.
theorem answered_step {answer : AccountAnswer} (found : s.processes[t]? = some p) (answered : p.place.stage = .answered answer)
    (turn : AccountTurn s move s') : ∃ q, s'.processes[t]? = some q ∧ q.place = p.place := by
  have other {u : Nat} {q : AccountProcess} {s : AccountServer} (found : s.processes[t]? = some p) (apart : u ≠ t) :
      ∃ r, (s.put u q).processes[t]? = some r ∧ r.place = p.place := ⟨p,put_get.trans ((if_neg apart).trans found),rfl⟩
  cases turn with
  | @commit u _ q next committing =>
    refine other (s:={s with db := overlay s.db q.writes}) found ?_
    rintro rfl
    cases found.symm.trans committing.found
    exact commits_unanswered committing.commits answer answered
  | tick => exact ⟨p,found,rfl⟩
  | @enter u _ fresh =>
    refine other found ?_
    rintro rfl
    cases fresh.symm.trans found
  | @fail u q there =>
    by_cases same : u = t
    · subst same
      cases there.symm.trans found
      refine ⟨_,put_self,?_⟩
      obtain ⟨⟨operation,stage⟩,now,locks,writes⟩ := p
      cases answered
      rfl
    · exact other found same
  | @proceed u _ q _ _ _ _ there unanswered =>
    refine other found ?_
    rintro rfl
    cases there.symm.trans found
    exact unanswered answer answered

theorem answered_run {answer : AccountAnswer} (sound : AccountSound s) (found : s.processes[t]? = some p)
    (answered : p.place.stage = .answered answer) (path : AccountRuns s moves s') :
    ∃ q, s'.processes[t]? = some q ∧ q.place = p.place := by
  have both := path.invariant (fun s' => AccountSound s' ∧ ∃ q, s'.processes[t]? = some q ∧ q.place = p.place)
    ⟨sound,p,found,rfl⟩ fun middle move last both taken => by
      obtain ⟨sound,q,there,same⟩ := both
      refine ⟨Outline.sound_step outline sound taken,?_⟩
      obtain ⟨r,last,equal⟩ := answered_step there (same ▸ answered) (account_turn sound taken)
      exact ⟨r,last,equal.trans same⟩
  exact both.2

end AccountStore
