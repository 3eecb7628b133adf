import RockServer.AccountRuns

namespace AccountStore
open DeviceControl (Uuid Instant minutes)
open ReadCommitted (Outline overlay)

variable {db : AccountDb} {now : Instant} {locks : Locks} {operation : Operation} {stage next : Stage}
variable {written : List AccountWrite}
variable {s s' origin : AccountServer} {move : AccountMove} {moves : List AccountMove} {t u : Nat} {p q : AccountProcess}

def Consumed (db : AccountDb) (challenge : Uuid) : Prop :=
  ∃ row, db.webauthnChallenges[challenge]? = some row ∧ row.consumedAt.isSome = true

def WebauthnChallenge.Stays (row later : WebauthnChallenge) : Prop := row.consumedAt.isSome = true → later.consumedAt.isSome = true

theorem challenge_change {id : Uuid} {later : WebauthnChallenge}
    (change : Change db now locks stage operation (.challenge id) later) :
    Course (fun _ => True) WebauthnChallenge.Stays (db.get (.challenge id)) (some later) := by
  cases change with
  | swept here =>
    rw [here]
    exact fun used => used
  | challengeConsumed _ here =>
    rw [here]
    exact fun _ => rfl
  | challengeCreated fresh =>
    rw [fresh]
    exact trivial

theorem consumed_run {challenge : Uuid} (sound : AccountSound s) (path : AccountRuns s moves s')
    (used : Consumed s.db challenge) : Consumed s'.db challenge := by
  obtain ⟨row,here,consumed⟩ := used
  have course : Course (fun _ => True) WebauthnChallenge.Stays s.db.webauthnChallenges[challenge]?
      s'.db.webauthnChallenges[challenge]? :=
    course_evolves (k:=.challenge challenge) (fun _ used => used) (fun _ _ _ first second used => second (first used))
      (fun _ _ _ _ => trivial) challenge_change sound path
  rw [here] at course
  obtain ⟨later,there,kept⟩ := course_grown course
  exact ⟨later,there,kept consumed⟩

-- The commit by which a request uses up its challenge.
theorem spends (stands : Stands db now locks operation stage written) (commits : Commits operation stage next)
    (unspent : ¬ operation.Spent stage) (spent : operation.Spent next) : ∃ challenge row,
    operation.challenge = some challenge ∧ db.webauthnChallenges[challenge]? = some row ∧ row.open now = true ∧
    (overlay db written).webauthnChallenges[challenge]? = some {row with consumedAt := some now} := by
  have consumed {challenge : Uuid} {row : WebauthnChallenge} (here : db.get (.challenge challenge) = some row)
      (unused : row.open now = true) (rest : List AccountWrite) (others : ∀ write ∈ rest, write.key ≠ .challenge challenge) :
      db.webauthnChallenges[challenge]? = some row ∧ row.open now = true ∧
      (overlay db (⟨.challenge challenge,{row with consumedAt := some now}⟩ :: rest)).webauthnChallenges[challenge]? =
        some {row with consumedAt := some now} := by
    refine ⟨here,unused,?_⟩
    have kept : ReadCommitted.Rows.get (overlay (ReadCommitted.Rows.set db (.challenge challenge : AccountKey)
        {row with consumedAt := some now}) rest) (.challenge challenge : AccountKey) = _ := ReadCommitted.overlay_unwritten others
    exact kept.trans (ReadCommitted.Rows.get_set _ _ _)
  cases commits with
  | counted => exact absurd trivial unspent
  | @consumed request user =>
    cases stands with
    | idle place | removing place => exact False.elim place
    | authenticated _ place => rcases place with same | ⟨same,_⟩ <;> cases same
    | challengeTaken here unused =>
      exact ⟨_,_,rfl,consumed here unused [] fun _ member => absurd member List.not_mem_nil⟩
  | @ended answer =>
    cases operation with
    | authenticationVerify => exact absurd trivial unspent
    | registrationVerify request =>
      cases stands with
      | idle place | removing place => exact False.elim place
      | registered here unused =>
        refine ⟨_,_,rfl,consumed here unused _ fun write member => ?_⟩
        rcases List.mem_cons.mp member with rfl | member
        · exact fun same => by cases same
        · rcases List.mem_append.mp member with member | member
          · rcases List.mem_cons.mp member with rfl | member
            · exact fun same => by cases same
            · rw [List.mem_singleton.mp member]
              exact fun same => by cases same
          · rw [List.mem_singleton.mp member]
            exact fun same => by cases same
    | _ => exact False.elim spent

-- Whoever stands past the use of a challenge stood there before the step, or has
-- just committed the use.
theorem spent_origin (turn : AccountTurn s move s') (found : s'.processes[u]? = some q) (spent : q.place.Spent) :
    (∃ p, s.processes[u]? = some p ∧ p.place.operation = q.place.operation ∧ p.place.Spent) ∨
    ∃ p next, Committing s u p next ∧ s' = committed s u p next ∧ p.place.operation = q.place.operation ∧
      ¬ p.place.Spent ∧ p.place.operation.Spent next := by
  cases turn with
  | @commit t _ p next committing =>
    rw [committed,put_get] at found
    split at found
    · rename_i same
      subst same
      cases found
      by_cases before : p.place.Spent
      · exact .inl ⟨p,committing.found,rfl,before⟩
      · exact .inr ⟨p,next,committing,rfl,rfl,before,spent⟩
    · exact .inl ⟨q,found,rfl,spent⟩
  | tick => exact .inl ⟨q,found,rfl,spent⟩
  | @enter t operation =>
    rw [put_get] at found
    split at found
    · cases found
      cases operation <;> exact False.elim spent
    · exact .inl ⟨q,found,rfl,spent⟩
  | @fail t p there =>
    rw [put_get] at found
    split at found
    · rename_i same
      subst same
      cases found
      refine .inl ⟨p,there,rfl,?_⟩
      obtain ⟨⟨operation,stage⟩,now,locks,writes⟩ := p
      cases stage with
      | answered => exact spent
      | _ => cases operation <;> exact False.elim spent
    · exact .inl ⟨q,found,rfl,spent⟩
  | @proceed t _ p _ _ _ _ there _ kept =>
    rw [put_get] at found
    split at found
    · rename_i same
      subst same
      cases found
      exact .inl ⟨p,there,rfl,kept spent⟩
    · exact .inl ⟨q,found,rfl,spent⟩

-- A challenge is used by one process at most, and is consumed then.
structure SpentOnce (s : AccountServer) : Prop where
  consumed : ∀ (t : Nat) p challenge, s.processes[t]? = some p → p.place.Spent →
    p.place.operation.challenge = some challenge → Consumed s.db challenge
  single : ∀ (t u : Nat) p q challenge, s.processes[t]? = some p → s.processes[u]? = some q → p.place.Spent → q.place.Spent →
    p.place.operation.challenge = some challenge → q.place.operation.challenge = some challenge → t = u

theorem spent_once_step (sound : AccountSound s) (once : SpentOnce s) (taken : AccountStep s move s') : SpentOnce s' := by
  have turn := account_turn sound taken
  have kept {challenge : Uuid} : Consumed s.db challenge → Consumed s'.db challenge := consumed_run sound (.single taken)
  -- A new use finds the challenge open, so nobody has used it yet.
  have fresh {v : Nat} {p : AccountProcess} {next : Stage} {challenge : Uuid} (committing : Committing s v p next)
      (after : s' = committed s v p next) (unspent : ¬ p.place.Spent) (spent : p.place.operation.Spent next)
      (presented : p.place.operation.challenge = some challenge) : ¬ Consumed s.db challenge ∧ Consumed s'.db challenge := by
    obtain ⟨other,row,same,here,unused,there⟩ := spends committing.holds committing.commits unspent spent
    cases same.symm.trans presented
    constructor
    · rintro ⟨old,found,used⟩
      cases here.symm.trans found
      simp only [WebauthnChallenge.open,Bool.and_eq_true,Option.isNone_iff_eq_none] at unused
      rw [unused.1.1] at used
      cases used
    · rw [after]
      exact ⟨_,there,rfl⟩
  constructor
  · intro v q challenge found spent presented
    rcases spent_origin turn found spent with ⟨p,before,same,old⟩ | ⟨p,next,committing,after,same,unspent,spent⟩
    · exact kept (once.consumed v p challenge before old (same ▸ presented))
    · exact (fresh committing after unspent spent (same ▸ presented)).2
  · intro v w p q challenge first second one two mine theirs
    rcases spent_origin turn first one with ⟨p',before,same,old⟩ | ⟨p',next,committing,after,same,unspent,spent⟩ <;>
      rcases spent_origin turn second two with ⟨q',before',same',old'⟩ | ⟨q',next',committing',after',same',unspent',spent'⟩
    · exact once.single v w p' q' challenge before before' old old' (same ▸ mine) (same' ▸ theirs)
    · exact absurd (once.consumed v p' challenge before old (same ▸ mine))
        (fresh committing' after' unspent' spent' (same' ▸ theirs)).1
    · exact absurd (once.consumed w q' challenge before' old' (same' ▸ theirs))
        (fresh committing after unspent spent (same ▸ mine)).1
    · by_contra apart
      have before : s'.processes[w]? = s.processes[w]? := by
        rw [after]
        exact put_get.trans (if_neg apart)
      cases (before.symm.trans second).symm.trans committing'.found
      exact unspent' two

theorem spent_once_run (vacant : origin.processes = ∅) (path : AccountRuns origin moves s) : SpentOnce s := by
  have absent (t : Nat) (p : AccountProcess) (found : origin.processes[t]? = some p) : False := by
    rw [vacant,Std.ExtTreeMap.getElem?_empty] at found
    cases found
  have start : SpentOnce origin :=
    ⟨fun t p _ found => (absent t p found).elim,fun t _ p _ _ found => (absent t p found).elim⟩
  exact (path.invariant (fun s => AccountSound s ∧ SpentOnce s) ⟨.initial vacant trivial,start⟩ fun _ _ _ both taken =>
    ⟨Outline.sound_step outline both.1 taken,spent_once_step both.1 both.2 taken⟩).2

-- A step that creates an account or a browser session.
def Opens (s s' : AccountServer) : Prop :=
  (∃ id : Uuid, s.db.users[id]? = none ∧ (s'.db.users[id]?).isSome = true) ∨
  ∃ id : Uuid, s.db.browserSessions[id]? = none ∧ (s'.db.browserSessions[id]?).isSome = true

def Presents (s : AccountServer) (t : Nat) (challenge : Uuid) : Prop :=
  ∃ p, s.processes[t]? = some p ∧ p.place.operation.challenge = some challenge

theorem change_kept {k : AccountKey} (stands : Stands db now locks operation stage written) (commits : Commits operation stage next)
    (absent : db.get k = none) (present : ((overlay db written).get k).isSome = true) :
    ∃ row, Change db now locks stage operation k row := by
  rcases changed stands commits k with same | ⟨row,change,_⟩
  · rw [same,absent] at present
    cases present
  · exact ⟨row,change⟩

theorem opening_operation (committing : Committing s t p next) (opens : Opens s (committed s t p next)) :
    (∃ request, p.place.operation = .registrationVerify request) ∨
    ∃ user, p.place.operation.adds p.place.stage = some (.browserSessions,user) := by
  rcases opens with ⟨id,absent,present⟩ | ⟨id,absent,present⟩
  · obtain ⟨row,change⟩ := change_kept (k:=.user id) committing.holds committing.commits absent present
    generalize p.place.operation = operation at change ⊢
    cases change with
    | swept here => cases here.symm.trans absent
    | userDeleted _ _ here => cases here.symm.trans absent
    | @userCreated request => exact .inl ⟨request,rfl⟩
  · obtain ⟨row,change⟩ := change_kept (k:=.browserSession id) committing.holds committing.commits absent present
    generalize same : p.place.operation = operation at change ⊢
    cases change with
    | swept here => cases here.symm.trans absent
    | browserSessionCreated _ joins => exact joins.symm.imp And.left fun adds => ⟨_,adds.1⟩
    | renewed here => cases here.symm.trans absent
    | loggedOut here => cases here.symm.trans absent
    | csrfRotated here => cases here.symm.trans absent

-- It is the last commit of its request.
theorem opening_answers {challenge : Uuid} (committing : Committing s t p next) (opens : Opens s (committed s t p next))
    (presented : p.place.operation.challenge = some challenge) :
    ∃ answer, next = .answered answer ∧ p.place.operation.Spent next := by
  have origin := opening_operation committing opens
  obtain ⟨found,stands,commits⟩ := committing
  unfold Holds at stands
  generalize p.place.operation = operation at *
  generalize p.place.stage = stage at *
  rcases origin with ⟨request,rfl⟩ | ⟨user,adds⟩
  · cases commits with
    | ended =>
      refine ⟨_,rfl,?_⟩
      generalize p.writes = written at stands
      cases stands with
      | idle place | removing place => exact False.elim place
      | registered => exact trivial
  · cases operation with
    | authenticationVerify =>
      cases commits with
      | consumed | counted => cases adds
      | @ended _ answer =>
        cases answer with
        | authenticated => exact ⟨_,rfl,trivial⟩
        | _ => cases adds
    | _ => first | cases adds | cases presented

theorem act_committing {choice : Uuid} (sound : AccountSound s) (taken : AccountStep s (.act t choice) s')
    (changed : s'.db ≠ s.db) : ∃ p next, Committing s t p next ∧ s' = committed s t p next := by
  cases account_turn sound taken with
  | commit committing => exact ⟨_,_,committing,rfl⟩
  | proceed => exact absurd rfl changed

theorem opens_changed (opens : Opens s s') : s'.db ≠ s.db := by
  intro same
  rcases opens with ⟨id,absent,present⟩ | ⟨id,absent,present⟩ <;>
    · rw [same,absent] at present
      cases present

theorem committed_place (s : AccountServer) (t : Nat) (p : AccountProcess) (next : Stage) :
    (committed s t p next).processes[t]? = some ⟨⟨p.place.operation,next⟩,p.now,[],[]⟩ := put_self

-- No two steps create something for one challenge.
theorem opened_once {challenge : Uuid} {choice choice' : Uuid} {s1 s2 s3 : AccountServer} {more : List AccountMove}
    (sound : AccountSound s) (once : SpentOnce s) (first : AccountStep s (.act t choice) s1) (between : AccountRuns s1 more s2)
    (second : AccountStep s2 (.act u choice') s3) (mine : Presents s t challenge) (theirs : Presents s2 u challenge)
    (opens : Opens s s1) : ¬ Opens s2 s3 := by
  intro again
  obtain ⟨p,next,committing,rfl⟩ := act_committing sound first (opens_changed opens)
  obtain ⟨p',found,presented⟩ := mine
  cases found.symm.trans committing.found
  obtain ⟨answer,rfl,spent⟩ := opening_answers committing opens presented
  have sound1 := Outline.sound_step outline sound first
  have once1 := spent_once_step sound once first
  have both := between.invariant (fun s2 => AccountSound s2 ∧ SpentOnce s2) ⟨sound1,once1⟩ fun _ _ _ both taken =>
    ⟨Outline.sound_step outline both.1 taken,spent_once_step both.1 both.2 taken⟩
  obtain ⟨r,there,stayed⟩ := answered_run sound1 (committed_place s t p (.answered answer)) rfl between
  have ended : r.place.Spent := by
    rw [stayed]
    exact spent
  have named : r.place.operation.challenge = some challenge := by
    rw [stayed]
    exact presented
  obtain ⟨q,next',committing',rfl⟩ := act_committing both.1 second (opens_changed again)
  obtain ⟨q',found',presented'⟩ := theirs
  cases found'.symm.trans committing'.found
  obtain ⟨answer',rfl,spent'⟩ := opening_answers committing' again presented'
  by_cases before : q.place.Spent
  · cases both.2.single t u r q challenge there found' ended before named presented'
    cases there.symm.trans found'
    exact commits_unanswered committing'.commits answer (by rw [stayed])
  · obtain ⟨other,row,same,here,unused,_⟩ := spends committing'.holds committing'.commits before spent'
    cases same.symm.trans presented'
    obtain ⟨old,here',used⟩ := both.2.consumed t r challenge there ended named
    cases here.symm.trans here'
    simp only [WebauthnChallenge.open,Bool.and_eq_true,Option.isNone_iff_eq_none] at unused
    rw [unused.1.1] at used
    cases used

theorem registration_answers {request : RegistrationVerify} (committing : Committing s t p next)
    (registers : p.place.operation = .registrationVerify request) : ∃ user, next = .answered (.registered user) := by
  obtain ⟨_,stands,commits⟩ := committing
  unfold Holds at stands
  generalize p.place.operation = operation at *
  generalize p.place.stage = stage at *
  generalize p.writes = written at stands
  subst registers
  cases commits with
  | ended =>
    cases stands with
    | idle place | removing place => exact False.elim place
    | registered => exact ⟨_,rfl⟩

-- A counter goes up, and does not return to zero.
def PasskeyCredential.Counts (row later : PasskeyCredential) : Prop :=
  row.signCount ≤ later.signCount ∧ (0 < row.signCount → later.signCount ≠ 0)

theorem counts_same {row later : PasskeyCredential} (same : later.signCount = row.signCount) : row.Counts later :=
  ⟨Int.le_of_eq same.symm,fun positive zero => Int.ne_of_gt positive (same.symm.trans zero)⟩

theorem counter_change {id : Uuid} {later : PasskeyCredential} (change : Change db now locks stage operation (.passkey id) later) :
    Course (fun _ => True) PasskeyCredential.Counts (db.get (.passkey id)) (some later) := by
  cases change with
  | swept here =>
    rw [here]
    exact counts_same rfl
  | passkeyRevoked here =>
    rw [here]
    exact counts_same rfl
  | passkeyCreated fresh =>
    rw [fresh]
    exact trivial
  | passkeyAdvanced here advances =>
    rw [here]
    simp only [PasskeyCredential.advances,Bool.and_eq_true,decide_eq_true_iff,Bool.not_eq_true',Bool.and_eq_false_iff,
      decide_eq_false_iff_not] at advances
    refine ⟨advances.1.2,fun positive => ?_⟩
    exact advances.2.resolve_left fun denied => denied positive

theorem counters_evolve (sound : AccountSound s) (path : AccountRuns s moves s') (id : Uuid) :
    Course (fun _ => True) PasskeyCredential.Counts s.db.passkeyCredentials[id]? s'.db.passkeyCredentials[id]? := by
  refine course_evolves (k:=.passkey id) (fun _ => counts_same rfl) (fun a b c first second => ?_) (fun _ _ _ _ => trivial)
    counter_change sound path
  exact ⟨Int.le_trans first.1 second.1,fun positive => second.2 (Int.lt_of_lt_of_le positive first.1)⟩

structure SingleUse (s : AccountServer) : Prop where
  -- Two steps of the run that create an account or a browser session are of
  -- different challenges.
  once : ∀ {t u : Nat} {challenge choice choice' : Uuid} {s1 s2 s3 : AccountServer} {more : List AccountMove},
    AccountStep s (.act t choice) s1 → AccountRuns s1 more s2 → AccountStep s2 (.act u choice') s3 →
    Presents s t challenge → Presents s2 u challenge → Opens s s1 → ¬ Opens s2 s3
  -- A registration that ends otherwise than by registering has left no trace.
  rejected : ∀ {t : Nat} {choice : Uuid} {s1 s2 : AccountServer} {more : List AccountMove} {p q : AccountProcess}
    {request : RegistrationVerify} {answer : AccountAnswer}, AccountStep s (.act t choice) s1 → AccountRuns s1 more s2 →
    s.processes[t]? = some p → p.place.operation = .registrationVerify request → s2.processes[t]? = some q →
    q.place.stage = .answered answer → (∀ user, answer ≠ .registered user) → s1.db = s.db
  counters : ∀ {moves : List AccountMove} {s' : AccountServer}, AccountRuns s moves s' → ∀ (id : Uuid) row,
    s.db.passkeyCredentials[id]? = some row → ∃ later, s'.db.passkeyCredentials[id]? = some later ∧
      row.signCount ≤ later.signCount ∧ (0 < row.signCount → later.signCount ≠ 0)

theorem challenges_single_use (vacant : origin.processes = ∅) (path : AccountRuns origin moves s) : SingleUse s := by
  have sound := account_sound vacant path
  constructor
  · intro t u challenge choice choice' s1 s2 s3 more first between second mine theirs opens
    exact opened_once sound (spent_once_run vacant path) first between second mine theirs opens
  · intro t choice s1 s2 more p q request answer taken later found registers there answered refused
    by_contra changed
    obtain ⟨p',next,committing,rfl⟩ := act_committing sound taken changed
    cases found.symm.trans committing.found
    obtain ⟨user,rfl⟩ := registration_answers committing registers
    obtain ⟨r,last,stayed⟩ := answered_run (Outline.sound_step outline sound taken) (committed_place s t p _) rfl later
    cases there.symm.trans last
    rw [stayed] at answered
    exact refused user (Stage.answered.inj answered).symm
  · intro moves s' later id row here
    obtain ⟨last,there,counts⟩ := course_grown (here ▸ counters_evolve sound later id)
    exact ⟨last,there,counts⟩

def oneChallenge : AccountServer := ⟨⟨∅,∅,∅,∅,∅,∅,∅,∅,(∅ : Table Uuid WebauthnChallenge).insert 5
  ⟨77,.registration 1 77,.registration,webauthnRpId,webauthnOrigin,none,minutes 5,none,none⟩⟩,0,∅⟩

-- Two registrations load one challenge; the second finds it consumed.
def racingRegistrations : List AccountMove :=
  [.start 0 ⟨.registrationVerify ⟨5,some (9,0),20,30,300,301⟩,.entered⟩,
    .start 1 ⟨.registrationVerify ⟨5,some (8,0),21,31,302,303⟩,.entered⟩] ++
  List.replicate 3 (.act 0 0) ++ List.replicate 3 (.act 1 0) ++ List.replicate 5 (.act 0 0) ++ [.act 1 0]

theorem challenges_single_use_raced : ∃ s : AccountServer, s.db.browserSessions.toList.map Prod.fst = [30] ∧
    s.db.passkeyCredentials.toList.map Prod.fst = [20] ∧ SingleUse s := by
  obtain ⟨s,path,seen⟩ := Transition.run_reaches (ReadCommitted.Server.execute accountProgram) oneChallenge racingRegistrations
    (fun s => s.db.browserSessions.toList.map Prod.fst = [30] && s.db.passkeyCredentials.toList.map Prod.fst = [20]) (by decide)
  simp only [Bool.and_eq_true,decide_eq_true_iff] at seen
  exact ⟨s,seen.1,seen.2,challenges_single_use rfl path⟩

end AccountStore
