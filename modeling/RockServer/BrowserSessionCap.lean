import RockServer.AccountRuns

-- The absolute lifetime of browser sessions. A query that looks at the sliding
-- expiry only is safe because every statement keeps it under the absolute one.
namespace AccountStore
open DeviceControl (Uuid Instant minutes)

structure BrowserSession.Bounded (row : BrowserSession) : Prop where
  sliding : row.expiresAt ≤ row.absoluteExpiresAt
  absolute : row.absoluteExpiresAt ≤ row.createdAt + minutes browserSessionAbsoluteMinutes

-- What a session keeps from one version of its row to the next.
structure BrowserSession.Grown (row later : BrowserSession) : Prop where
  bounded : row.Bounded → later.Bounded
  absolute : later.absoluteExpiresAt = row.absoluteExpiresAt
  created : later.createdAt = row.createdAt
  owner : later.userId = row.userId
  revoked : row.revokedAt.isSome = true → later = row

theorem BrowserSession.Grown.refl (row : BrowserSession) : row.Grown row := ⟨id,rfl,rfl,rfl,fun _ => rfl⟩

theorem BrowserSession.Grown.trans (a b c : BrowserSession) (first : a.Grown b) (second : b.Grown c) : a.Grown c := by
  refine ⟨fun bounded => second.bounded (first.bounded bounded),second.absolute.trans first.absolute,
    second.created.trans first.created,second.owner.trans first.owner,fun revoked => ?_⟩
  have same := first.revoked revoked
  exact (second.revoked (same ▸ revoked)).trans same

theorem new_bounded (new : NewBrowserSession) (now : Instant) : (new.row now).Bounded := by
  have idle : minutes browserSessionIdleMinutes ≤ minutes browserSessionAbsoluteMinutes := by decide
  exact ⟨Int.add_le_add_left idle now,Int.le_refl _⟩

theorem renew_bounded {row : BrowserSession} (now : Instant) (bounded : row.Bounded) : (row.renew now).Bounded :=
  ⟨Int.min_le_right _ _,bounded.absolute⟩

-- A row that is not revoked yet may become anything with the same lifetime.
theorem grown_unrevoked {row later : BrowserSession} (unrevoked : row.revokedAt = none) (bounded : row.Bounded → later.Bounded)
    (absolute : later.absoluteExpiresAt = row.absoluteExpiresAt) (created : later.createdAt = row.createdAt)
    (owner : later.userId = row.userId) : row.Grown later := by
  refine ⟨bounded,absolute,created,owner,fun revoked => ?_⟩
  rw [unrevoked] at revoked
  cases revoked

theorem live_unrevoked {row : BrowserSession} {now : Instant} (live : row.live now = true) : row.revokedAt = none := by
  unfold BrowserSession.live at live
  exact Option.isNone_iff_eq_none.mp ((Bool.and_eq_true _ _).mp live).1

theorem session_change {db : AccountDb} {now : Instant} {locks : Locks} {stage : Stage} {operation : Operation} {id : Uuid}
    {later : BrowserSession} (change : Change db now locks stage operation (.browserSession id) later) :
    Course BrowserSession.Bounded BrowserSession.Grown (db.get (.browserSession id)) (some later) := by
  cases change with
  | swept here _ unrevoked =>
    rw [here]
    exact grown_unrevoked unrevoked (fun bounded => ⟨bounded.sliding,bounded.absolute⟩) rfl rfl rfl
  | browserSessionCreated fresh =>
    rw [fresh]
    exact new_bounded _ now
  | renewed here renewable =>
    rw [here]
    simp only [BrowserSession.renewable,Bool.and_eq_true] at renewable
    exact grown_unrevoked (live_unrevoked renewable.1.2) (renew_bounded now) rfl rfl rfl
  | loggedOut here unrevoked =>
    rw [here]
    exact grown_unrevoked unrevoked (fun bounded => ⟨bounded.sliding,bounded.absolute⟩) rfl rfl rfl
  | csrfRotated here live =>
    rw [here]
    exact grown_unrevoked (live_unrevoked live) (fun bounded => ⟨bounded.sliding,bounded.absolute⟩) rfl rfl rfl

theorem accepts_live {check : SessionCheck} {db : AccountDb} {now : Instant} {id : Uuid} {row : BrowserSession}
    (accepts : check.accepts now db id row = true) : row.live now = true := by
  cases check <;> simp only [SessionCheck.accepts,BrowserProof.meets,BrowserSession.renewable,Bool.and_eq_true] at accepts
  case approval => exact accepts.1.1
  case logout => exact accepts.2
  case renewal => exact accepts.1.2
  case csrfRotation => exact accepts.1.2
  case freshForUser => exact accepts.1.1.2
  case displayName => exact accepts.1.2
  case sessionUser => exact accepts.1.1.2
  case sessionUserWithCsrf => exact accepts.1.1.2

theorem accepts_within {check : SessionCheck} {db : AccountDb} {now : Instant} {id : Uuid} {row : BrowserSession}
    (bounded : row.Bounded) (accepts : check.accepts now db id row = true) :
    now < row.createdAt + minutes browserSessionAbsoluteMinutes := by
  have live := accepts_live accepts
  simp only [BrowserSession.live,Bool.and_eq_true,decide_eq_true_iff] at live
  exact lt_of_lt_of_le live.2 (le_trans bounded.sliding bounded.absolute)

variable {s s' origin : AccountServer} {moves more : List AccountMove}

theorem sessions_evolve (sound : AccountSound s) (path : AccountRuns s moves s') (id : Uuid) :
    Course BrowserSession.Bounded BrowserSession.Grown s.db.browserSessions[id]? s'.db.browserSessions[id]? :=
  course_evolves (k:=.browserSession id) BrowserSession.Grown.refl BrowserSession.Grown.trans
    (fun _ _ bounded grown => grown.bounded bounded) session_change sound path

theorem browser_sessions_capped (vacant : origin.processes = ∅)
    (bounded : ∀ (id : Uuid) row, origin.db.browserSessions[id]? = some row → row.Bounded)
    (path : AccountRuns origin moves s) (later : AccountRuns s more s') (id : Uuid) (row : BrowserSession)
    (here : s.db.browserSessions[id]? = some row) :
    row.expiresAt ≤ row.absoluteExpiresAt ∧
    (∀ (check : SessionCheck) (now : Instant), check.accepts now s.db id row = true →
      now < row.createdAt + minutes browserSessionAbsoluteMinutes) ∧
    ∃ row', s'.db.browserSessions[id]? = some row' ∧ row'.absoluteExpiresAt = row.absoluteExpiresAt ∧
      row'.createdAt = row.createdAt ∧ (row.revokedAt.isSome = true → row' = row ∧
        ∀ (check : SessionCheck) (now : Instant), check.accepts now s'.db id row' = false) := by
  have sound := account_sound vacant path
  have within : row.Bounded := by
    have course := sessions_evolve (.initial vacant trivial) path id
    rw [here] at course
    cases before : origin.db.browserSessions[id]? with
    | none =>
      rw [before] at course
      exact course
    | some old =>
      rw [before] at course
      exact course.bounded (bounded id old before)
  refine ⟨within.sliding,fun check now => accepts_within within,?_⟩
  obtain ⟨row',there,grown⟩ := course_grown (here ▸ sessions_evolve sound later id)
  refine ⟨row',there,grown.absolute,grown.created,fun revoked => ⟨grown.revoked revoked,fun check now => ?_⟩⟩
  rw [grown.revoked revoked]
  cases accepted : check.accepts now s'.db id row with
  | false => rfl
  | true =>
    rw [live_unrevoked (accepts_live accepted)] at revoked
    cases revoked

def oneUser : AccountServer := ⟨⟨(∅ : Table Uuid User).insert 1 ⟨.active⟩,∅,∅,∅,∅,∅,∅,∅,∅⟩,0,∅⟩

def enter (t : Nat) (operation : Operation) : AccountMove := .start t ⟨operation,.entered⟩

def openAndRenew : List AccountMove :=
  enter 0 (.createBrowserSession ⟨10,1,100,200⟩) :: List.replicate 4 (.act 0 0) ++
  [.tick (minutes 40000),enter 1 (.renewBrowserSession 100)] ++ List.replicate 3 (.act 1 10)

def logOut : List AccountMove := enter 2 (.logoutBrowserSession 1 100 200) :: List.replicate 3 (.act 2 10)

theorem browser_sessions_capped_renewed : ∃ (s s' : AccountServer) (row row' : BrowserSession),
    s.db.browserSessions[10]? = some row ∧ row.expiresAt = minutes 83200 ∧ row.expiresAt ≤ row.absoluteExpiresAt ∧
    s'.db.browserSessions[10]? = some row' ∧ row'.revokedAt = some (minutes 40000) ∧
    row'.absoluteExpiresAt = row.absoluteExpiresAt := by
  obtain ⟨s,path,seen⟩ := Transition.run_reaches (ReadCommitted.Server.execute accountProgram) oneUser openAndRenew
    (fun s => (s.db.browserSessions[10]?).any (fun row => row.expiresAt = minutes 83200) &&
      (Transition.run (ReadCommitted.Server.execute accountProgram) s logOut).any fun s' =>
        (s'.db.browserSessions[10]?).any fun row => row.revokedAt = some (minutes 40000)) (by decide)
  obtain ⟨first,second⟩ := (Bool.and_eq_true _ _).mp seen
  obtain ⟨row,here,renewed⟩ := (Option.any_eq_true _ _).mp first
  obtain ⟨s',later,ended⟩ := Transition.run_reaches (ReadCommitted.Server.execute accountProgram) s logOut _ second
  obtain ⟨last,there,revoked⟩ := (Option.any_eq_true _ _).mp ended
  obtain ⟨sliding,_,row',same,absolute,_⟩ := browser_sessions_capped rfl
    (fun id row found => absurd (found.symm.trans Std.ExtTreeMap.getElem?_empty) (Option.some_ne_none row)) path later 10 row here
  cases same.symm.trans there
  exact ⟨s,s',row,last,here,of_decide_eq_true renewed,sliding,there,of_decide_eq_true revoked,absolute⟩

end AccountStore
