import RockServer.AdminLogin

namespace AdminAuth
open DeviceControl (Uuid Instant minutes)

def LoginTask.pair (env : LoginEnv) (task : LoginTask) : SecretHash × SecretHash :=
  (task.request.accountHash env,task.request.sourceHash env)

-- The password of the request is not the one of its account.
def wrong (env : LoginEnv) (s : LoginState) (request : LoginRequest) : Bool :=
  (s.credentials[request.username]?).any fun credential => !env.verifyPassword credential.passwordHash request.password

-- When a wrong password was verified.
def LoginPlace.verified : LoginPlace → Option Instant
  | .failing _ verified | .failed verified _ | .abandoned verified => verified
  | _ => none

def wrongVerifications (env : LoginEnv) (s : LoginState) (pair : SecretHash × SecretHash) (opening : Instant) : Nat :=
  Table.count (fun _ task => task.pair env = pair &&
    task.place.verified.any fun verified => opening ≤ verified && verified < opening + minutes 15) s.tasks

def LockedOut (env : LoginEnv) (s : LoginState) : Prop :=
  ∀ pair opening, wrongVerifications env s pair opening ≤ lockoutAfterFailures

-- What the lockout depends on: whether a login has passed the count, and what
-- became of its wrong password.
inductive LoginStage where
  | waiting
  | passed
  | missed (verified : Instant) (recorded : Option Instant)
  | settled

def LoginPlace.stage : LoginPlace → LoginStage
  | .entered => .waiting
  | .counted | .found _ => .passed
  | .failing _ (some verified) | .abandoned (some verified) => .missed verified none
  | .failed (some verified) recorded => .missed verified recorded
  | _ => .settled

-- A wrong password that no count sees: not verified or not recorded yet, or
-- verified in the last fifteen minutes with its record lost.
def uncounted (env : LoginEnv) (s : LoginState) (task : LoginTask) : Bool := match task.place.stage with
  | .passed => wrong env s task.request
  | .missed verified none => s.clock < verified + minutes 15
  | _ => false

def uncountedFor (env : LoginEnv) (s : LoginState) (pair : SecretHash × SecretHash) : Nat :=
  Table.count (fun _ other => other.pair env = pair && uncounted env s other) s.tasks

def failuresFor (env : LoginEnv) (s : LoginState) (task : LoginTask) : Nat :=
  recentFailedLoginCount s.attempts s.clock (task.request.accountHash env) (task.request.sourceHash env)

-- A wrong password passes the count only where the failures it counts and the
-- ones it cannot count are below the limit.
def uncontended (env : LoginEnv) (s : LoginState) : LoginAction → Bool
  | .proceed t _ => (s.tasks[t]?).all fun task => match task.place with
    | .entered => !wrong env s task.request || lockoutAfterFailures ≤ failuresFor env s task ||
      failuresFor env s task + uncountedFor env s (task.pair env) < lockoutAfterFailures
    | _ => true
  | _ => true

def failedAfter (attempts : Table Uuid AdminLoginAttempt) (pair : SecretHash × SecretHash) (x : Instant) : Nat :=
  Table.count (fun _ row => (row.accountKeyHash,row.sourceIpHash) = pair && row.outcome = .failed && x < row.occurredAt) attempts

def LoginStage.recordedAfter (x : Instant) : LoginStage → Bool
  | .missed _ (some recorded) => x < recorded
  | _ => false

def recordedAfter (env : LoginEnv) (s : LoginState) (pair : SecretHash × SecretHash) (x : Instant) : Nat :=
  Table.count (fun _ task => task.pair env = pair && task.place.stage.recordedAfter x) s.tasks

variable {env : LoginEnv} {s s' origin : LoginState} {action : LoginAction} {actions : List LoginAction}
variable {t u : Nat} {task : LoginTask} {place : LoginPlace} {attempts : Table Uuid AdminLoginAttempt}
variable {pair : SecretHash × SecretHash} {c x : Instant}

def Grown (before after : Table Uuid AdminLoginAttempt) : Prop :=
  ∀ pair x, failedAfter before pair x ≤ failedAfter after pair x

-- What one step makes of one login, but for passing the count.
inductive Course (env : LoginEnv) (s : LoginState) (task : LoginTask) : LoginStage → Table Uuid AdminLoginAttempt → Prop where
  | keep {attempts : Table Uuid AdminLoginAttempt} : task.place.stage ≠ .waiting → Grown s.attempts attempts →
      Course env s task task.place.stage attempts
  | settle {attempts : Table Uuid AdminLoginAttempt} : (∀ verified recorded, task.place.stage ≠ .missed verified recorded) →
      Grown s.attempts attempts → Course env s task .settled attempts
  | miss : task.place.stage = .passed → wrong env s task.request = true → Course env s task (.missed s.clock none) s.attempts
  | record {verified : Instant} {attempts : Table Uuid AdminLoginAttempt} : task.place.stage = .missed verified none →
      Grown s.attempts attempts →
      (∀ x, x < s.clock → failedAfter s.attempts (task.pair env) x + 1 ≤ failedAfter attempts (task.pair env) x) →
      Course env s task (.missed verified (some s.clock)) attempts

theorem grown_refl : Grown attempts attempts := fun _ _ => Nat.le_refl _

section recording
variable {id : Uuid} {row : AdminLoginAttempt} {after : Table Uuid AdminLoginAttempt}

theorem recorded_new (recorded : recordLoginAttempt attempts id row = some after) :
    attempts[id]? = none ∧ after = attempts.insert id row := by
  unfold recordLoginAttempt at recorded
  split at recorded
  · cases recorded
  · rename_i free
    exact ⟨Option.not_isSome_iff_eq_none.mp free,(Option.some.inj recorded).symm⟩

theorem grown_recorded (recorded : recordLoginAttempt attempts id row = some after) : Grown attempts after := by
  obtain ⟨absent,rfl⟩ := recorded_new recorded
  intro pair x
  refine Table.count_le fun k v found chosen => ⟨v,?_,chosen⟩
  rwa [Table.get_insert_ne]
  rintro rfl
  cases absent.symm.trans found

theorem failure_recorded (recorded : recordLoginAttempt attempts id row = some after) (failure : row.outcome = .failed)
    (later : x < row.occurredAt) : failedAfter attempts (row.accountKeyHash,row.sourceIpHash) x + 1 ≤
      failedAfter after (row.accountKeyHash,row.sourceIpHash) x := by
  obtain ⟨absent,rfl⟩ := recorded_new recorded
  unfold failedAfter
  rw [Table.count_insert_of_new absent (by simp [failure,later])]

theorem grown_insert : Grown attempts ((recordLoginAttempt attempts id row).getD attempts) := by
  cases recorded : recordLoginAttempt attempts id row with
  | none => exact grown_refl
  | some after => exact grown_recorded recorded

end recording

-- A found credential is the stored one.
def Faithful (s : LoginState) (request : LoginRequest) (place : LoginPlace) : Prop :=
  ∀ credential, place = .found credential → credential = s.credentials[request.username]?

theorem proceed_course {id : Uuid} {next : LoginPlace × Table Uuid AdminLoginAttempt}
    (faithful : Faithful s task.request task.place) (taken : proceed env s id task = some next) :
    (task.place = .entered ∧ failuresFor env s task < lockoutAfterFailures ∧ next = (.counted,s.attempts)) ∨
      Course env s task next.1.stage next.2 ∧ Faithful s task.request next.1 := by
  obtain ⟨request,place⟩ := task
  have other (place : LoginPlace) (unfound : ∀ credential, place ≠ .found credential) : Faithful s request place :=
    fun credential same => absurd same (unfound credential)
  unfold proceed at taken
  dsimp only at taken
  split at taken
  · cases taken
    split
    · exact .inr ⟨.settle (by simp [LoginPlace.stage]) grown_refl,other _ (by simp)⟩
    · rename_i few
      exact .inl ⟨rfl,not_le.mp few,rfl⟩
  · cases taken
    refine .inr ⟨.keep (by simp [LoginPlace.stage]) grown_refl,fun credential same => ?_⟩
    cases same
    rfl
  · cases taken
    exact .inr ⟨.settle (by simp [LoginPlace.stage]) grown_refl,other _ (by simp)⟩
  · rename_i credential
    cases taken
    split
    · exact .inr ⟨.settle (by simp [LoginPlace.stage]) grown_refl,other _ (by simp)⟩
    · rename_i refused
      refine .inr ⟨.miss rfl ?_,other _ (by simp)⟩
      have found : some credential = s.credentials[request.username]? := faithful _ rfl
      unfold wrong
      rw [← found]
      simpa using refused
  · rename_i principal verified
    split at taken
    · rename_i after recorded
      cases taken
      refine .inr ⟨?_,other _ (by simp)⟩
      cases verified with
      | none => exact .settle (by simp [LoginPlace.stage]) (grown_recorded recorded)
      | some verified => exact .record rfl (grown_recorded recorded) fun x => failure_recorded recorded rfl
    · cases taken
      refine .inr ⟨?_,other _ (by simp)⟩
      cases verified with
      | none => exact .settle (by simp [LoginPlace.stage]) grown_refl
      | some verified => exact .keep (by simp [LoginPlace.stage]) grown_refl
  · cases taken
    exact .inr ⟨.settle (by simp [LoginPlace.stage]) grown_insert,other _ (by simp)⟩
  · cases taken
    exact .inr ⟨.settle (by simp [LoginPlace.stage]) grown_refl,other _ (by simp)⟩
  · cases taken
    exact .inr ⟨.settle (by simp [LoginPlace.stage]) grown_insert,other _ (by simp)⟩
  all_goals cases taken

-- A fault or a client that goes away ends a login, and keeps what it missed.
theorem ended_course (ended : task.place.fault = some place ∨ task.place.abandon = some place) :
    Course env s task place.stage s.attempts ∧ Faithful s task.request place := by
  obtain ⟨request,before⟩ := task
  rcases ended with taken | taken <;> cases before <;> cases taken
  case inl.failing.refl principal verified =>
    refine ⟨?_,fun credential same => by cases same⟩
    cases verified with
    | none => exact .settle (by simp [LoginPlace.stage]) grown_refl
    | some verified => exact .keep (by simp [LoginPlace.stage]) grown_refl
  case inr.failing.refl principal verified =>
    refine ⟨?_,fun credential same => by cases same⟩
    cases verified with
    | none => exact .settle (by simp [LoginPlace.stage]) grown_refl
    | some verified => exact .keep (by simp [LoginPlace.stage]) grown_refl
  all_goals exact ⟨.settle (by simp [LoginPlace.stage]) grown_refl,fun credential same => by cases same⟩

-- Every step of the server.
inductive LoginTurn (env : LoginEnv) (s : LoginState) : LoginAction → LoginState → Prop where
  | arrive {action : LoginAction} {t : Nat} {task : LoginTask} : s.tasks[t]? = none → (task.place.stage = .waiting ∨ task.place.stage = .settled) →
      Faithful s task.request task.place → LoginTurn env s action (s.put t task task.place)
  | pass {t : Nat} {id : Uuid} {task : LoginTask} : s.tasks[t]? = some task → task.place = .entered → failuresFor env s task < lockoutAfterFailures →
      LoginTurn env s (.proceed t id) (s.put t task .counted)
  | move {action : LoginAction} {t : Nat} {task : LoginTask} {place : LoginPlace} {attempts : Table Uuid AdminLoginAttempt} : s.tasks[t]? = some task →
      Course env s task place.stage attempts → Faithful s task.request place →
      LoginTurn env s action {s.put t task place with attempts := attempts}
  | tick {action : LoginAction} {clock : Instant} : s.clock ≤ clock → LoginTurn env s action {s with clock := clock}

theorem login_turn (faithful : ∀ (t : Nat) (task : LoginTask), s.tasks[t]? = some task → Faithful s task.request task.place)
    (taken : executeLogin env s action = some s') : LoginTurn env s action s' := by
  cases action with
  | arrive t request =>
    simp only [executeLogin] at taken
    split at taken
    · cases taken
    · rename_i free
      cases taken
      refine .arrive (Option.not_isSome_iff_eq_none.mp free) ?_ ?_
      · dsimp only
        split
        · exact .inl rfl
        · exact .inr rfl
      · intro credential
        dsimp only
        split <;> simp
  | proceed t id =>
    obtain ⟨task,found,taken⟩ := Option.bind_eq_some_iff.mp taken
    obtain ⟨next,proceeded,rfl⟩ := Option.map_eq_some_iff.mp taken
    rcases proceed_course (faithful t task found) proceeded with ⟨entered,few,rfl⟩ | ⟨course,kept⟩
    · exact .pass found entered few
    · exact .move found course kept
  | fault t =>
    obtain ⟨task,found,taken⟩ := Option.bind_eq_some_iff.mp taken
    obtain ⟨place,failed,rfl⟩ := Option.map_eq_some_iff.mp taken
    have ended : Course env s task place.stage s.attempts ∧ Faithful s task.request place := ended_course (.inl failed)
    obtain ⟨course,kept⟩ := ended
    exact .move found course kept
  | abandon t =>
    obtain ⟨task,found,taken⟩ := Option.bind_eq_some_iff.mp taken
    obtain ⟨place,left,rfl⟩ := Option.map_eq_some_iff.mp taken
    have ended : Course env s task place.stage s.attempts ∧ Faithful s task.request place := ended_course (.inr left)
    obtain ⟨course,kept⟩ := ended
    exact .move found course kept
  | tick clock =>
    simp only [executeLogin] at taken
    split at taken
    · rename_i later
      cases taken
      exact .tick later
    · cases taken

-- A login that may stand in one window of verifications with another one that
-- passed its count at `c`.
def LoginStage.near (c : Instant) : LoginStage → Bool
  | .passed => true
  | .missed verified _ => c < verified + minutes 15
  | _ => false

def near (env : LoginEnv) (s : LoginState) (pair : SecretHash × SecretHash) (c : Instant) (t : Nat) : Bool :=
  (s.tasks[t]?).any fun task => task.pair env = pair && task.place.stage.near c

-- The wrong passwords that passed the count, in the order of their counts, each
-- with fewer than five near ones before it.
structure Watch (env : LoginEnv) (s : LoginState) (counted : List (Nat × Instant)) : Prop where
  distinct : (counted.map Prod.fst).Nodup
  known : ∀ entry ∈ counted, entry.2 ≤ s.clock ∧ ∃ task, s.tasks[entry.1]? = some task ∧ task.place.stage ≠ .waiting ∧
    wrong env s task.request = true
  faithful : ∀ (t : Nat) (task : LoginTask), s.tasks[t]? = some task → Faithful s task.request task.place
  passed : ∀ (t : Nat) (task : LoginTask), s.tasks[t]? = some task → task.place.stage = .passed →
    wrong env s task.request = true → ∃ c, (t,c) ∈ counted
  missed : ∀ (t : Nat) (task : LoginTask) verified recorded, s.tasks[t]? = some task →
    task.place.stage = .missed verified recorded →
    verified ≤ s.clock ∧ (∃ c, (t,c) ∈ counted ∧ c ≤ verified) ∧ ∀ row, recorded = some row → verified ≤ row
  tallied : ∀ pair x, recordedAfter env s pair x ≤ failedAfter s.attempts pair x
  few : ∀ earlier entry later, counted = earlier ++ entry :: later → ∀ task, s.tasks[entry.1]? = some task →
    earlier.countP (fun other => near env s (task.pair env) entry.2 other.1) < lockoutAfterFailures

variable {counted : List (Nat × Instant)}

theorem member_known (watch : Watch env s counted) (member : (t,c) ∈ counted) (found : s.tasks[t]? = some task) :
    task.place.stage ≠ .waiting ∧ wrong env s task.request = true := by
  obtain ⟨_,other,there,facts⟩ := watch.known (t,c) member
  cases found.symm.trans there
  exact facts

-- Where one login changes to a stage that is near to no more counts.
theorem few_kept (task' : LoginTask) (watch : Watch env s counted) (after : s'.tasks = s.tasks.insert t task')
    (shrinks : ∀ c, (t,c) ∈ counted → ∃ task, s.tasks[t]? = some task ∧ task.pair env = task'.pair env ∧
      ∀ since, since ≤ s.clock → task'.place.stage.near since = true → task.place.stage.near since = true)
    (earlier : List (Nat × Instant)) (entry : Nat × Instant) (later : List (Nat × Instant))
    (split : counted = earlier ++ entry :: later) (task : LoginTask) (found : s'.tasks[entry.1]? = some task) :
    earlier.countP (fun other => near env s' (task.pair env) entry.2 other.1) < lockoutAfterFailures := by
  have here : entry ∈ counted := split ▸ List.mem_append_right _ List.mem_cons_self
  obtain ⟨since,before,stood,_⟩ := watch.known entry here
  have pair : before.pair env = task.pair env := by
    rw [after,Table.get_insert] at found
    split at found
    · rename_i same
      cases found
      obtain ⟨old,there,pair,_⟩ := shrinks entry.2 (same ▸ here)
      rw [same] at there
      cases stood.symm.trans there
      exact pair
    · cases stood.symm.trans found
      rfl
  refine lt_of_le_of_lt (List.countP_mono_left fun other member close => ?_) (watch.few earlier entry later split before stood)
  unfold near at close ⊢
  rw [after,Table.get_insert] at close
  rw [pair]
  split at close
  · rename_i same
    obtain ⟨old,there,alike,fewer⟩ := shrinks other.2 (same ▸ split ▸ List.mem_append_left _ member)
    rw [Option.any_some,Bool.and_eq_true] at close
    rw [← same,there,Option.any_some,Bool.and_eq_true]
    exact ⟨alike ▸ close.1,fewer _ since close.2⟩
  · exact close

theorem recorded_kept (task' : LoginTask) (after : s'.tasks = s.tasks.insert t task') (found : s.tasks[t]? = some task)
    (pairs : task'.pair env = task.pair env)
    (fewer : task'.pair env = pair → task'.place.stage.recordedAfter x = true → task.place.stage.recordedAfter x = true) :
    recordedAfter env s' pair x ≤ recordedAfter env s pair x := by
  unfold recordedAfter
  rw [after]
  refine Table.count_le fun u other there chosen => ?_
  rw [Table.get_insert] at there
  split at there
  · rename_i same
    cases there
    subst same
    rw [Bool.and_eq_true,decide_eq_true_iff] at chosen
    refine ⟨task,found,?_⟩
    rw [Bool.and_eq_true,decide_eq_true_iff]
    exact ⟨pairs ▸ chosen.1,fewer chosen.1 chosen.2⟩
  · exact ⟨other,there,chosen⟩

section courses
variable {next : LoginStage} {verified : Instant} {recorded : Option Instant}

theorem course_moves (course : Course env s task next attempts) : next ≠ .waiting ∧ (next = .passed → task.place.stage = .passed) ∧
    Grown s.attempts attempts := by
  cases course with
  | keep started grown => exact ⟨started,id,grown⟩
  | settle _ grown => exact ⟨by simp,by simp,grown⟩
  | miss => exact ⟨by simp,by simp,grown_refl⟩
  | record _ grown => exact ⟨by simp,by simp,grown⟩

theorem course_near (course : Course env s task next attempts) (close : next.near c = true) : task.place.stage.near c = true := by
  cases course with
  | keep => exact close
  | settle => cases close
  | miss passed =>
    rw [passed]
    rfl
  | record missed =>
    rw [missed]
    exact close

theorem course_missed (course : Course env s task next attempts) (missed : next = .missed verified recorded) :
    (∃ before, task.place.stage = .missed verified before ∧ (recorded = before ∨ recorded = some s.clock)) ∨
      task.place.stage = .passed ∧ wrong env s task.request = true ∧ verified = s.clock ∧ recorded = none := by
  cases course with
  | keep => exact .inl ⟨recorded,missed,.inl rfl⟩
  | settle => cases missed
  | miss passed refused =>
    cases missed
    exact .inr ⟨passed,refused,rfl,rfl⟩
  | record before =>
    cases missed
    exact .inl ⟨none,before,.inr rfl⟩

theorem course_tallied (watch : Watch env s counted) (found : s.tasks[t]? = some task)
    (course : Course env s task place.stage attempts) (pair : SecretHash × SecretHash) (x : Instant) :
    recordedAfter env (s.put t task place) pair x ≤ failedAfter attempts pair x := by
  have grown := (course_moves course).2.2
  have kept (fewer : task.pair env = pair → place.stage.recordedAfter x = true → task.place.stage.recordedAfter x = true) :
      recordedAfter env (s.put t task place) pair x ≤ failedAfter attempts pair x :=
    by
    have here : (s.put t task place).tasks = s.tasks.insert t {task with place := place} := rfl
    exact le_trans (recorded_kept _ here found rfl fewer) (le_trans (watch.tallied pair x) (grown pair x))
  generalize stage : place.stage = next at course kept
  cases course with
  | keep => exact kept fun _ => id
  | settle | miss => exact kept fun _ recorded => by cases recorded
  | record missed _ counts =>
    by_cases mine : task.pair env = pair ∧ x < s.clock
    · obtain ⟨rfl,later⟩ := mine
      have one : recordedAfter env (s.put t task place) (task.pair env) x ≤ recordedAfter env s (task.pair env) x + 1 :=
        Table.count_insert_le
      exact le_trans one (le_trans (Nat.add_le_add_right (watch.tallied _ x) 1) (counts x later))
    · exact kept fun same recorded => absurd ⟨same,of_decide_eq_true recorded⟩ mine

end courses

theorem watch_move (watch : Watch env s counted) (found : s.tasks[t]? = some task)
    (course : Course env s task place.stage attempts) (kept : Faithful s task.request place) :
    Watch env {s.put t task place with attempts := attempts} counted := by
  obtain ⟨started,passes,grown⟩ := course_moves course
  have here : ({s.put t task place with attempts := attempts} : LoginState).tasks = s.tasks.insert t {task with place := place} := rfl
  refine ⟨watch.distinct,?_,?_,?_,?_,course_tallied watch found course,?_⟩
  · intro entry member
    obtain ⟨since,other,there,moving,refused⟩ := watch.known entry member
    refine ⟨since,?_⟩
    by_cases same : t = entry.1
    · rw [← same] at there
      cases found.symm.trans there
      exact ⟨{task with place := place},by rw [here,Table.get_insert,if_pos same],started,refused⟩
    · exact ⟨other,by rw [here,Table.get_insert_ne same]; exact there,moving,refused⟩
  · intro u other there
    rw [here,Table.get_insert] at there
    split at there
    · cases there
      exact kept
    · exact watch.faithful u other there
  · intro u other there passed refused
    rw [here,Table.get_insert] at there
    split at there
    · rename_i same
      cases there
      exact same ▸ watch.passed t task found (passes passed) refused
    · exact watch.passed u other there passed refused
  · intro u other verified recorded there missed
    rw [here,Table.get_insert] at there
    split at there
    · rename_i same
      cases there
      subst same
      rcases course_missed course missed with ⟨before,stage,row⟩ | ⟨passed,refused,rfl,rfl⟩
      · obtain ⟨past,counts,rows⟩ := watch.missed t task verified before found stage
        refine ⟨past,counts,fun time same => ?_⟩
        rcases row with rfl | rfl
        · exact rows time same
        · cases same
          exact past
      · obtain ⟨c,member⟩ := watch.passed t task found passed refused
        exact ⟨le_refl _,⟨c,member,(watch.known _ member).1⟩,fun _ none => by cases none⟩
    · exact watch.missed u other verified recorded there missed
  · exact few_kept _ watch here fun c _ => ⟨task,found,rfl,fun _ _ => course_near course⟩

theorem watch_arrive (watch : Watch env s counted) (fresh : s.tasks[t]? = none)
    (stage : task.place.stage = .waiting ∨ task.place.stage = .settled) (kept : Faithful s task.request task.place) :
    Watch env (s.put t task task.place) counted := by
  have here : (s.put t task task.place).tasks = s.tasks.insert t task := rfl
  have unknown (c : Instant) : (t,c) ∉ counted := by
    intro member
    obtain ⟨_,other,there,_⟩ := watch.known _ member
    cases fresh.symm.trans there
  refine ⟨watch.distinct,?_,?_,?_,?_,?_,?_⟩
  · rintro ⟨u,c⟩ member
    obtain ⟨since,other,there,facts⟩ := watch.known _ member
    refine ⟨since,other,?_,facts⟩
    rw [here,Table.get_insert_ne fun same : t = u => unknown c (same ▸ member)]
    exact there
  · intro u other there
    rw [here,Table.get_insert] at there
    split at there
    · cases there
      exact kept
    · exact watch.faithful u other there
  · intro u other there passed refused
    rw [here,Table.get_insert] at there
    split at there
    · cases there
      rcases stage with stage | stage <;> cases stage.symm.trans passed
    · exact watch.passed u other there passed refused
  · intro u other verified recorded there missed
    rw [here,Table.get_insert] at there
    split at there
    · cases there
      rcases stage with stage | stage <;> cases stage.symm.trans missed
    · exact watch.missed u other verified recorded there missed
  · intro pair x
    refine le_trans ?_ (watch.tallied pair x)
    refine Table.count_insert_of_not ?_
    rcases stage with stage | stage <;> simp [stage,LoginStage.recordedAfter]
  · exact few_kept _ watch here fun c member => absurd member (unknown c)

-- Every near login is among the counted failures or the uncounted ones.
theorem near_counted (watch : Watch env s counted) (task : LoginTask) :
    counted.countP (fun entry => near env s (task.pair env) s.clock entry.1) ≤
      failuresFor env s task + uncountedFor env s (task.pair env) := by
  have failures : failuresFor env s task = failedAfter s.attempts (task.pair env) (s.clock - minutes 15) := by
    unfold failuresFor recentFailedLoginCount failedAfter LoginTask.pair
    congr 1
    funext _ row
    simp only [Prod.mk.injEq,Bool.decide_and]
  have split := Table.count_or_le (t:=s.tasks)
    (p:=fun _ other => other.pair env = task.pair env && other.place.stage.recordedAfter (s.clock - minutes 15))
    (q:=fun _ other => other.pair env = task.pair env && uncounted env s other)
  have tallied := watch.tallied (task.pair env) (s.clock - minutes 15)
  rw [← failures] at tallied
  refine le_trans ?_ (le_trans split (Nat.add_le_add_right tallied _))
  rw [List.countP_eq_length_filter,← List.length_map Prod.fst]
  refine Table.count_ge (watch.distinct.sublist (List.filter_sublist.map _)) fun t member => ?_
  obtain ⟨⟨u,c⟩,chosen,rfl⟩ := List.mem_map.mp member
  obtain ⟨listed,close⟩ := List.mem_filter.mp chosen
  obtain ⟨_,other,there,_,refused⟩ := watch.known _ listed
  refine ⟨other,there,?_⟩
  unfold near at close
  rw [there,Option.any_some,Bool.and_eq_true,decide_eq_true_iff] at close
  obtain ⟨same,close⟩ := close
  rw [same]
  cases stage : other.place.stage with
  | waiting | settled => rw [stage] at close; cases close
  | passed => simp [uncounted,stage,refused]
  | missed verified recorded =>
    rw [stage] at close
    have recent : s.clock < verified + minutes 15 := of_decide_eq_true close
    cases recorded with
    | none => simp [uncounted,stage,recent]
    | some row =>
      have later := (watch.missed u other verified (some row) there stage).2.2 row rfl
      have counts : s.clock - minutes 15 < row :=
        Int.sub_right_lt_of_lt_add (lt_of_lt_of_le recent (Int.add_le_add_right later _))
      simp [LoginStage.recordedAfter,counts]

theorem watch_pass (watch : Watch env s counted) (found : s.tasks[t]? = some task) (entered : task.place = .entered)
    (few : failuresFor env s task < lockoutAfterFailures) {id : Uuid}
    (uncontested : uncontended env s (.proceed t id) = true) : ∃ counted', Watch env (s.put t task .counted) counted' := by
  have here : (s.put t task .counted).tasks = s.tasks.insert t {task with place := .counted} := rfl
  have waiting : task.place.stage = .waiting := by rw [entered]; rfl
  have unknown (c : Instant) : (t,c) ∉ counted := fun member => (member_known watch member found).1 waiting
  have stood (entry : Nat × Instant) (member : entry ∈ counted) (other : LoginTask) (there : s.tasks[entry.1]? = some other) :
      (s.put t task .counted).tasks[entry.1]? = some other := by
    rw [here,Table.get_insert_ne fun same : t = entry.1 => unknown entry.2 (by rw [same]; exact member)]
    exact there
  have tallied (pair : SecretHash × SecretHash) (x : Instant) :
      recordedAfter env (s.put t task .counted) pair x ≤ failedAfter s.attempts pair x :=
    le_trans (recorded_kept _ here found rfl fun _ recorded => by cases recorded)
      (watch.tallied pair x)
  have older := few_kept _ watch here fun c member => absurd member (unknown c)
  have faithful (u : Nat) (other : LoginTask) (there : (s.put t task .counted).tasks[u]? = some other) :
      Faithful s other.request other.place := by
    rw [here,Table.get_insert] at there
    split at there
    · cases there
      exact fun credential same => by cases same
    · exact watch.faithful u other there
  cases refused : wrong env s task.request with
  | false =>
    refine ⟨counted,watch.distinct,?_,faithful,?_,?_,tallied,older⟩
    · intro entry member
      obtain ⟨since,other,there,facts⟩ := watch.known entry member
      exact ⟨since,other,stood entry member other there,facts⟩
    · intro u other there passed mistaken
      rw [here,Table.get_insert] at there
      split at there
      · cases there
        cases refused.symm.trans mistaken
      · exact watch.passed u other there passed mistaken
    · intro u other verified recorded there missed
      rw [here,Table.get_insert] at there
      split at there
      · cases there
        cases missed
      · exact watch.missed u other verified recorded there missed
  | true =>
    refine ⟨counted ++ [(t,s.clock)],?_,?_,faithful,?_,?_,tallied,?_⟩
    · rw [List.map_append,List.nodup_append]
      refine ⟨watch.distinct,List.nodup_singleton _,?_⟩
      rintro u member v last rfl
      obtain ⟨⟨w,c⟩,listed,rfl⟩ := List.mem_map.mp member
      cases List.mem_singleton.mp last
      exact unknown c listed
    · intro entry member
      rcases List.mem_append.mp member with old | new
      · obtain ⟨since,other,there,facts⟩ := watch.known entry old
        exact ⟨since,other,stood entry old other there,facts⟩
      · cases List.mem_singleton.mp new
        exact ⟨le_refl _,{task with place := .counted},by rw [here,Table.get_insert,if_pos rfl],by simp [LoginPlace.stage],refused⟩
    · intro u other there passed mistaken
      rw [here,Table.get_insert] at there
      split at there
      · rename_i same
        exact ⟨s.clock,List.mem_append_right _ (same ▸ List.mem_cons_self)⟩
      · obtain ⟨c,member⟩ := watch.passed u other there passed mistaken
        exact ⟨c,List.mem_append_left _ member⟩
    · intro u other verified recorded there missed
      rw [here,Table.get_insert] at there
      split at there
      · cases there
        cases missed
      · obtain ⟨past,⟨c,member,before⟩,rows⟩ := watch.missed u other verified recorded there missed
        exact ⟨past,⟨c,List.mem_append_left _ member,before⟩,rows⟩
    · intro earlier entry later split other there
      rcases List.eq_nil_or_concat later with rfl | ⟨front,final,rfl⟩
      · obtain ⟨rfl,last⟩ := List.append_inj' split rfl
        cases last
        rw [here,Table.get_insert,if_pos rfl] at there
        cases there
        have bound := near_counted watch task
        have quiet : failuresFor env s task + uncountedFor env s (task.pair env) < lockoutAfterFailures := by
          simpa [uncontended,found,entered,refused,not_le.mpr few] using uncontested
        refine lt_of_le_of_lt (le_trans (List.countP_mono_left fun old member close => ?_) bound) quiet
        unfold near at close ⊢
        rwa [here,Table.get_insert_ne fun same : t = old.1 => unknown old.2 (by rw [same]; exact member)] at close
      · rw [List.concat_eq_append,← List.cons_append,← List.append_assoc] at split
        exact older earlier entry front (List.append_inj' split rfl).1 other there

theorem watch_tick {clock : Instant} (watch : Watch env s counted) (later : s.clock ≤ clock) :
    Watch env {s with clock := clock} counted := by
  refine ⟨watch.distinct,fun entry member => ?_,watch.faithful,watch.passed,?_,watch.tallied,watch.few⟩
  · obtain ⟨since,facts⟩ := watch.known entry member
    exact ⟨le_trans since later,facts⟩
  · intro t task verified recorded found missed
    obtain ⟨past,facts⟩ := watch.missed t task verified recorded found missed
    exact ⟨le_trans past later,facts⟩

abbrev LoginStep (env : LoginEnv) := Transition.Executes (executeLogin env)
abbrev LoginRuns (env : LoginEnv) := Transition.Runs (Transition.Under (fun s a => uncontended env s a = true) (LoginStep env))

theorem watch_step (watch : Watch env s counted) (uncontested : uncontended env s action = true)
    (taken : LoginStep env s action s') : ∃ counted', Watch env s' counted' := by
  cases login_turn watch.faithful taken with
  | arrive fresh stage kept => exact ⟨counted,watch_arrive watch fresh stage kept⟩
  | pass found entered few => exact watch_pass watch found entered few uncontested
  | move found course kept => exact ⟨counted,watch_move watch found course kept⟩
  | tick later => exact ⟨counted,watch_tick watch later⟩

theorem verified_missed {verified : Instant} (missed : place.verified = some verified) :
    ∃ recorded, place.stage = .missed verified recorded := by
  cases place <;> cases missed
  · exact ⟨none,rfl⟩
  · exact ⟨_,rfl⟩
  · exact ⟨none,rfl⟩

theorem last_where {α : Type} (p : α → Prop) (l : List α) (some : ∃ x ∈ l, p x) :
    ∃ earlier x later, l = earlier ++ x :: later ∧ p x ∧ ∀ y ∈ later, ¬ p y := by
  induction l with
  | nil =>
    obtain ⟨x,member,_⟩ := some
    cases member
  | cons head rest ih =>
    by_cases tail : ∃ x ∈ rest, p x
    · obtain ⟨earlier,x,later,rfl,met,last⟩ := ih tail
      exact ⟨head :: earlier,x,later,rfl,met,last⟩
    · obtain ⟨x,member,met⟩ := some
      rcases List.mem_cons.mp member with rfl | there
      · exact ⟨[],x,rest,rfl,met,fun y member met => tail ⟨y,member,met⟩⟩
      · exact absurd ⟨x,there,met⟩ tail

-- The login of a window that passed its count last has all others near.
theorem watch_locked (watch : Watch env s counted) : LockedOut env s := by
  intro pair opening
  let inside (t : Nat) : Prop := ∃ task verified, s.tasks[t]? = some task ∧ task.pair env = pair ∧
    task.place.verified = some verified ∧ opening ≤ verified ∧ verified < opening + minutes 15
  have chosen (t : Nat) (member : t ∈ Table.keysWhere (fun _ task => task.pair env = pair &&
      task.place.verified.any fun verified => opening ≤ verified && verified < opening + minutes 15) s.tasks) : inside t := by
    obtain ⟨task,found,met⟩ := Table.mem_keysWhere.mp member
    rw [Bool.and_eq_true,decide_eq_true_iff,Option.any_eq_true] at met
    obtain ⟨same,verified,missed,within⟩ := met
    rw [Bool.and_eq_true,decide_eq_true_iff,decide_eq_true_iff] at within
    exact ⟨task,verified,found,same,missed,within⟩
  have listed (t : Nat) (here : inside t) : ∃ c, (t,c) ∈ counted := by
    obtain ⟨task,verified,found,_,missed,_⟩ := here
    obtain ⟨recorded,stage⟩ := verified_missed missed
    obtain ⟨_,⟨c,member,_⟩,_⟩ := watch.missed t task verified recorded found stage
    exact ⟨c,member⟩
  unfold wrongVerifications
  rw [Table.count_eq_card]
  by_cases any : ∃ entry ∈ counted, inside entry.1
  · obtain ⟨earlier,⟨t,c⟩,later,split,⟨task,verified,found,same,missed,_,ending⟩,last⟩ := last_where _ counted any
    obtain ⟨recorded,stage⟩ := verified_missed missed
    obtain ⟨_,⟨since,member,before⟩,_⟩ := watch.missed t task verified recorded found stage
    have alone : since = c := by
      have here : (t,c) ∈ counted := split ▸ List.mem_append_right _ List.mem_cons_self
      exact congrArg Prod.snd (List.inj_on_of_nodup_map watch.distinct member here rfl)
    have few := watch.few earlier (t,c) later split task found
    rw [List.countP_eq_length_filter] at few
    refine le_trans (Finset.card_le_card (t:=insert t ((earlier.filter fun other =>
      near env s (task.pair env) c other.1).map Prod.fst).toFinset) fun u member => ?_) ?_
    · have here := chosen u member
      obtain ⟨since',listed⟩ := listed u here
      rw [split] at listed
      rw [Finset.mem_insert,List.mem_toFinset,List.mem_map]
      rcases List.mem_append.mp listed with old | rest
      · refine .inr ⟨(u,since'),List.mem_filter.mpr ⟨old,?_⟩,rfl⟩
        obtain ⟨other,verified',found',same',missed',opened,_⟩ := here
        obtain ⟨recorded',stage'⟩ := verified_missed missed'
        unfold near
        rw [found',Option.any_some,Bool.and_eq_true,decide_eq_true_iff,stage']
        refine ⟨same'.trans same.symm,decide_eq_true ?_⟩
        exact lt_of_le_of_lt (alone ▸ before) (lt_of_lt_of_le ending (Int.add_le_add_right opened _))
      · rcases List.mem_cons.mp rest with now | after
        · exact .inl (congrArg Prod.fst now)
        · exact absurd here (last _ after)
    · refine le_trans (Finset.card_insert_le _ _) ?_
      refine le_trans (Nat.add_le_add_right (List.toFinset_card_le _) 1) ?_
      rw [List.length_map]
      exact few
  · have none : Table.keysWhere (fun _ task => task.pair env = pair &&
        task.place.verified.any fun verified => opening ≤ verified && verified < opening + minutes 15) s.tasks = ∅ := by
      refine Finset.eq_empty_of_forall_notMem fun t member => any ?_
      obtain ⟨c,here⟩ := listed t (chosen t member)
      exact ⟨_,here,chosen t member⟩
    rw [none]
    exact Nat.zero_le _

-- No window holds more than five wrong passwords of a pair where none passes
-- the count beside ones that the count cannot see.
theorem wrong_passwords_locked (vacant : origin.tasks = ∅) (path : LoginRuns env origin actions s) : LockedOut env s := by
  have absent (t : Nat) (task : LoginTask) (found : origin.tasks[t]? = some task) : False := by
    rw [vacant,Std.ExtTreeMap.getElem?_empty] at found
    cases found
  have begun : Watch env origin [] := by
    refine ⟨List.nodup_nil,fun _ member => absurd member List.not_mem_nil,fun t task found => (absent t task found).elim,
      fun t task found => (absent t task found).elim,fun t task _ _ found => (absent t task found).elim,fun pair x => ?_,
      fun earlier entry later split => ?_⟩
    · unfold recordedAfter
      rw [vacant]
      exact Nat.zero_le _
    · cases earlier <;> cases split
  obtain ⟨counted,watch⟩ := path.invariant (fun s => ∃ counted, Watch env s counted) ⟨[],begun⟩
    fun s action s' ⟨counted,watch⟩ taken => watch_step watch taken.1 taken.2
  exact watch_locked watch

def plainEnv : LoginEnv := ⟨String.length,fun stored password => stored = password⟩

def oneAccount : LoginState := ⟨(∅ : Table String AdminPasswordCredential).insert "root" ⟨1,"right"⟩,∅,0,∅⟩

def guess (t : Nat) : List LoginAction := .arrive t ⟨"root","wrong","office"⟩ :: List.replicate 4 (.proceed t t)

-- Six wrong passwords one after the other: the sixth finds the account locked.
theorem wrong_passwords_in_turn : ∃ s, wrongVerifications plainEnv s (4,6) 0 = 5 ∧ LockedOut plainEnv s := by
  obtain ⟨s,path,seen⟩ := Transition.guarded_reaches (uncontended plainEnv) (executeLogin plainEnv) oneAccount
    ((List.range 5).flatMap guess ++ (guess 5).take 3) (fun s => wrongVerifications plainEnv s (4,6) 0 = 5) (by decide)
  exact ⟨s,of_decide_eq_true seen,wrong_passwords_locked rfl path⟩

-- Six at once: all of them read the count before any of them is recorded.
theorem wrong_passwords_at_once : ∃ actions s, Transition.Runs (LoginStep plainEnv) oneAccount actions s ∧
    wrongVerifications plainEnv s (4,6) 0 = 6 ∧ ¬ LockedOut plainEnv s := by
  obtain ⟨s,path,seen⟩ := Transition.run_reaches (executeLogin plainEnv) oneAccount
    ((List.range 6).flatMap (fun t => (guess t).take 2) ++ (List.range 6).flatMap fun t => (guess t).drop 2)
    (fun s => wrongVerifications plainEnv s (4,6) 0 = 6) (by decide)
  have six := of_decide_eq_true seen
  refine ⟨_,s,path,six,fun locked => ?_⟩
  have five := locked (4,6) 0
  rw [six] at five
  exact absurd five (by decide)

end AdminAuth
