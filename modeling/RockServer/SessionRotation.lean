import RockServer.AdminSessions

namespace AdminAuth
open DeviceControl (Uuid Instant seconds)
open ReadCommitted (Rows Write Act Process Program Outline overlay Covered Apart happens locked_kept)

-- What a statement of a handler can write.
inductive Writes (now : Instant) (db : AdminDb) : AdminPlace → List (Write AdminRow) → AdminPlace → Prop where
  | issue {new : NewAdminSession} : db.sessions[new.id]? = none →
      Writes now db (.creating new) [⟨.session new.id,new.row now new.principalId⟩] (.ending (.login new) .issued)
  | insert {tokenHash id replacementHash session row} : db.sessions[session]? = some row → db.sessions[id]? = none →
      Writes now db (.rotating (.refresh tokenHash id replacementHash) session)
        [⟨.session id,NewAdminSession.row ⟨id,row.principalId,replacementHash,sessionTtlSeconds⟩ now row.principalId⟩]
        (.replacing (.refresh tokenHash id replacementHash) session)
  | replace {request session row} : db.sessions[session]? = some row → row.revokedAt = none →
      Writes now db (.replacing request session) [⟨.session session,row.revoke now request.replacement⟩]
        (.ending request (.ended session))
  | revoke {request session row} : db.sessions[session]? = some row → row.revokedAt = none →
      Writes now db (.revoking request session) [⟨.session session,row.revoke now none⟩] (.ending request (.ended session))

def AdminAnswer.Refuses : AdminAnswer → Prop
  | .unauthorized | .unavailable => True
  | .issued | .ended _ => False

-- Places where a transaction has written nothing and none has succeeded.
def AdminPlace.Idle : AdminPlace → Prop
  | .replacing _ _ | .ending _ _ => False
  | .revoking request _ => request.replacement = none
  | .answered _ answer => answer.Refuses
  | _ => True

inductive Acts (now : Instant) (db : AdminDb) : AdminPlace → AdminAct → Prop where
  | begin {place next} : AdminPlace.Idle next → Acts now db place (.begin next)
  | rollback {place next} : AdminPlace.Idle next → Acts now db place (.rollback next)
  | statement {place writes next} : Writes now db place writes next → Acts now db place (.statement [] writes next)
  | commit {request answer} : Acts now db (.ending request answer) (.commit (.answered request answer))

variable {db : AdminDb} {p q : AdminProcess} {now : Instant} {place next : AdminPlace}
variable {locks : List (AdminKey × ReadCommitted.Mode)} {written : List (Write AdminRow)}
variable {s s' origin : AdminServer} {move : AdminMove} {moves : List AdminMove}

theorem taken_absent {id : Uuid} {tokenHash : SecretHash} (fresh : db.taken id tokenHash = false) : db.sessions[id]? = none := by
  unfold AdminDb.taken at fresh
  rw [Bool.or_eq_false_iff] at fresh
  exact Option.isSome_eq_false_iff.mp fresh.1 |> Option.isNone_iff_eq_none.mp

theorem createSession_acts (new : NewAdminSession) : Acts now db (.creating new) (createSession now db new) := by
  unfold createSession
  split
  · exact .rollback trivial
  · rename_i allowed
    rw [Bool.not_eq_true,Bool.or_eq_false_iff] at allowed
    exact .statement (.issue (taken_absent allowed.2))

theorem insertReplacement_acts (tokenHash : SecretHash) (session id : Uuid) (replacementHash : SecretHash) :
    Acts now db (.rotating (.refresh tokenHash id replacementHash) session)
      (insertReplacement now db (.refresh tokenHash id replacementHash) session id replacementHash) := by
  unfold insertReplacement
  split
  · exact .rollback trivial
  · rename_i row found
    dsimp only
    split
    · exact .rollback trivial
    · rename_i allowed
      exact .statement (.insert (Option.filter_eq_some_iff.mp found).1 (taken_absent (Bool.not_eq_true _ ▸ allowed)))

theorem revokeRow_acts (request : AdminRequest) (session : Uuid) (replacement : Option Uuid) {refused : AdminAnswer}
    (refuses : refused.Refuses) (writes : ∀ row, db.sessions[session]? = some row → row.revokedAt = none → Writes now db place
      [⟨.session session,row.revoke now replacement⟩] (.ending request (.ended session))) :
    Acts now db place (revokeRow now db request session replacement refused) := by
  unfold revokeRow
  split
  · exact .rollback refuses
  · rename_i row found
    obtain ⟨here,unrevoked⟩ := Option.filter_eq_some_iff.mp found
    exact .statement (writes row here (Option.isNone_iff_eq_none.mp unrevoked))

theorem adminAct_acts {act : AdminAct} (acts : adminAct now db place = some act) : Acts now db place act := by
  unfold adminAct at acts
  split at acts
  case h_1 => cases acts; exact .begin trivial
  case h_2 new => cases acts; exact createSession_acts new
  case h_3 => cases acts; exact .begin trivial
  case h_4 =>
    obtain ⟨tokenHash,_,rfl⟩ := Option.map_eq_some_iff.mp acts
    refine .rollback ?_
    split <;> exact trivial
  case h_5 request session =>
    cases request with
    | login => cases acts
    | refresh => cases acts; exact .begin trivial
    | logout => cases acts; exact .begin rfl
  case h_6 request session =>
    cases request with
    | login => cases acts
    | refresh tokenHash id replacementHash => cases acts; exact insertReplacement_acts tokenHash session id replacementHash
    | logout => cases acts
  case h_7 request session => cases acts; exact revokeRow_acts _ _ _ trivial fun row here unrevoked => .replace here unrevoked
  case h_8 request session => cases acts; exact revokeRow_acts _ _ _ trivial fun row here unrevoked => .revoke here unrevoked
  case h_9 => cases acts; exact .commit
  case h_10 => cases acts

-- What a handler has written when it is about to commit, against the committed
-- rows.
inductive Draft (db : AdminDb) : List (Write AdminRow) → AdminRequest → AdminAnswer → Prop where
  | issued {new : NewAdminSession} {now principal} : db.sessions[new.id]? = none →
      Draft db [⟨.session new.id,new.row now principal⟩] (.login new) .issued
  | revoked {request session row now} : request.replacement = none → db.sessions[session]? = some row → row.revokedAt = none →
      Draft db [⟨.session session,row.revoke now none⟩] request (.ended session)
  | rotated {tokenHash id replacementHash session row drawn now principal} {new : NewAdminSession} : id ≠ session →
      db.sessions[id]? = none → db.sessions[session]? = some row → row.revokedAt = none →
      Draft db [⟨.session id,new.row drawn principal⟩,⟨.session session,row.revoke now (some id)⟩]
        (.refresh tokenHash id replacementHash) (.ended session)

def Holds (db : AdminDb) (p : AdminProcess) : Prop := match p.place with
  | .replacing request session => ∃ tokenHash id replacementHash now principal, ∃ new : NewAdminSession,
    request = .refresh tokenHash id replacementHash ∧ p.writes = [⟨.session id,new.row now principal⟩] ∧ id ≠ session ∧
    db.sessions[id]? = none
  | .ending request answer => Draft db p.writes request answer
  | .answered _ _ => p.writes = []
  | place => p.writes = [] ∧ place.Idle

theorem holds_idle {place : AdminPlace} (idle : place.Idle) : Holds db ⟨place,now,[],[]⟩ := by
  cases place <;> first | exact rfl | exact ⟨rfl,idle⟩ | cases idle

theorem holds_statement (holds : Holds db p) (writes : Writes p.now (overlay db p.writes) p.place written next) :
    Holds db {p with place := next,locks := locks,writes := p.writes ++ written} := by
  obtain ⟨place,now,held,_⟩ := p
  cases writes with
  | issue fresh =>
    obtain ⟨rfl,_⟩ := holds
    exact .issued fresh
  | @insert _ id _ session row here fresh =>
    obtain ⟨rfl,_⟩ := holds
    refine ⟨_,_,_,_,_,_,rfl,rfl,?_,fresh⟩
    rintro rfl
    cases fresh.symm.trans here
  | @replace request session row here unrevoked =>
    obtain ⟨_,_,_,_,_,_,rfl,rfl,apart,fresh⟩ := holds
    refine .rotated apart fresh ?_ unrevoked
    exact (Table.get_insert_ne apart).symm.trans here
  | revoke here unrevoked =>
    obtain ⟨rfl,idle⟩ := holds
    exact .revoked idle here unrevoked

-- A session that a handler has written stays as it is while others commit.
theorem session_kept (covered : Covered p) (covers : Covered q) (apart : Apart p q) {id : Uuid} {row : AdminSession}
    (mine : (⟨.session id,row⟩ : Write AdminRow) ∈ p.writes) : (overlay db q.writes).sessions[id]? = db.sessions[id]? := by
  have kept : Rows.get (overlay db q.writes) (.session id : AdminKey) = Rows.get db (.session id : AdminKey) :=
    locked_kept apart covers (covered _ mine) (by decide)
  exact kept

theorem draft_stable {request : AdminRequest} {answer : AdminAnswer} (draft : Draft db p.writes request answer)
    (covered : Covered p) (covers : Covered q) (apart : Apart p q) :
    Draft (overlay db q.writes) p.writes request answer := by
  have kept (id : Uuid) (row : AdminSession) (written : (⟨.session id,row⟩ : Write AdminRow) ∈ p.writes) :
      (overlay db q.writes).sessions[id]? = db.sessions[id]? :=
    session_kept covered covers apart written
  generalize p.writes = writes at draft kept
  cases draft with
  | issued fresh => exact .issued ((kept _ _ List.mem_cons_self).trans fresh)
  | revoked none here unrevoked => exact .revoked none ((kept _ _ List.mem_cons_self).trans here) unrevoked
  | rotated different fresh here unrevoked =>
    exact .rotated different ((kept _ _ List.mem_cons_self).trans fresh)
      ((kept _ _ (List.mem_cons_of_mem _ List.mem_cons_self)).trans here) unrevoked

theorem holds_stable (holds : Holds db p) (covered : Covered p) (covers : Covered q) (apart : Apart p q) :
    Holds (overlay db q.writes) p := by
  obtain ⟨place,now,held,_⟩ := p
  cases place with
  | replacing request session =>
    obtain ⟨tokenHash,id,replacementHash,then_,principal,new,rfl,rfl,different,fresh⟩ := holds
    refine ⟨tokenHash,id,replacementHash,then_,principal,new,rfl,rfl,different,?_⟩
    exact (session_kept covered covers apart List.mem_cons_self).trans fresh
  | ending request answer => exact draft_stable (p:=⟨.ending request answer,now,held,_⟩) holds covered covers apart
  | _ => exact holds

def Replaced (db : AdminDb) (a b : Uuid) : Prop := ∃ row, db.sessions[a]? = some row ∧ row.replacedById = some b

-- The replacements of a database form chains.
structure Chained (db : AdminDb) : Prop where
  ended : ∀ (id : Uuid) row, db.sessions[id]? = some row → row.replacedById.isSome = true → row.revokedAt.isSome = true
  known : ∀ a b, Replaced db a b → (db.sessions[b]?).isSome = true
  single : ∀ a b c, Replaced db a c → Replaced db b c → a = b
  acyclic : ∀ a, ¬ Relation.TransGen (Replaced db) a a

-- A relation with one more edge, to where no edge leaves, has no new cycle.
theorem leaf_acyclic {α : Type} {r r' : α → α → Prop} {x y : α} (acyclic : ∀ a, ¬ Relation.TransGen r a a)
    (grown : ∀ a b, r' a b → r a b ∨ a = x ∧ b = y) (leaf : ∀ b, ¬ r' y b) (a : α) : ¬ Relation.TransGen r' a a := by
  have reached : ∀ b, Relation.TransGen r' a b → Relation.TransGen r a b ∨ b = y := by
    intro b path
    induction path with
    | single edge => exact (grown _ _ edge).imp .single And.right
    | @tail b c _ edge ih =>
      rcases ih with path | rfl
      · exact (grown _ _ edge).imp path.tail And.right
      · exact absurd edge (leaf _)
  intro cycle
  rcases reached a cycle with path | rfl
  · exact acyclic a path
  · obtain ⟨b,edge,_⟩ := Relation.TransGen.head'_iff.mp cycle
    exact leaf b edge

theorem Chained.grow {db' : AdminDb} (chained : Chained db)
    (rows : ∀ (id : Uuid) row, db'.sessions[id]? = some row → row.replacedById = none ∨ db.sessions[id]? = some row)
    (known : ∀ id : Uuid, (db.sessions[id]?).isSome = true → (db'.sessions[id]?).isSome = true) : Chained db' := by
  have edges (a b : Uuid) (edge : Replaced db' a b) : Replaced db a b := by
    obtain ⟨row,here,next⟩ := edge
    rcases rows a row here with none | old
    · cases none.symm.trans next
    · exact ⟨row,old,next⟩
  refine ⟨fun id row here next => ?_,fun a b edge => known b (chained.known a b (edges a b edge)),
    fun a b c one two => chained.single a b c (edges a c one) (edges b c two),
    fun a cycle => chained.acyclic a (Relation.TransGen.mono edges a a cycle)⟩
  rcases rows id row here with none | old
  · rw [none] at next
    cases next
  · exact chained.ended id row old next

theorem draft_chained {request : AdminRequest} {answer : AdminAnswer} (chained : Chained db)
    (draft : Draft db written request answer) : Chained (overlay db written) := by
  cases draft with
  | @issued new now principal fresh =>
    have rows (id : Uuid) : (overlay db [(⟨.session new.id,new.row now principal⟩ : Write AdminRow)]).sessions[id]? =
        if new.id = id then some (new.row now principal) else db.sessions[id]? := Table.get_insert
    refine chained.grow (fun id row here => ?_) fun id present => ?_
    · rw [rows] at here
      split at here
      · cases here
        exact .inl rfl
      · exact .inr here
    · rw [rows]
      split
      · rfl
      · exact present
  | @revoked _ session row now none here unrevoked =>
    have rows (id : Uuid) : (overlay db [(⟨.session session,row.revoke now .none⟩ : Write AdminRow)]).sessions[id]? =
        if session = id then some (row.revoke now .none) else db.sessions[id]? := Table.get_insert
    refine chained.grow (fun id row here => ?_) fun id present => ?_
    · rw [rows] at here
      split at here
      · cases here
        exact .inl rfl
      · exact .inr here
    · rw [rows]
      split
      · rfl
      · exact present
  | @rotated _ id _ session row drawn now principal new apart fresh here unrevoked =>
    have rows (other : Uuid) : (overlay db [(⟨.session id,new.row drawn principal⟩ : Write AdminRow),
        ⟨.session session,row.revoke now (some id)⟩]).sessions[other]? =
        if session = other then some (row.revoke now (some id)) else if id = other then some (new.row drawn principal)
        else db.sessions[other]? := by
      refine Table.get_insert.trans ?_
      split
      · rfl
      · exact Table.get_insert
    generalize overlay db [(⟨.session id,new.row drawn principal⟩ : Write AdminRow),
      ⟨.session session,row.revoke now (some id)⟩] = db' at rows
    have edges (a b : Uuid) (edge : Replaced db' a b) : Replaced db a b ∨ a = session ∧ b = id := by
      obtain ⟨found,there,next⟩ := edge
      rw [rows] at there
      split at there
      · rename_i same
        cases there
        exact .inr ⟨same.symm,(Option.some.inj next).symm⟩
      · split at there
        · cases there
          cases next
        · exact .inl ⟨found,there,next⟩
    have leaf (b : Uuid) : ¬ Replaced db' id b := by
      rintro ⟨found,there,next⟩
      rw [rows,if_neg (Ne.symm apart),if_pos rfl] at there
      cases there
      cases next
    have unreached (a : Uuid) : ¬ Replaced db a id := by
      intro edge
      have present := chained.known a id edge
      rw [fresh] at present
      cases present
    refine ⟨fun other found there next => ?_,fun a b edge => ?_,fun a b c one two => ?_,
      leaf_acyclic chained.acyclic edges leaf⟩
    · rw [rows] at there
      split at there
      · cases there
        rfl
      · split at there
        · cases there
          cases next
        · exact chained.ended other found there next
    · rw [rows]
      split
      · rfl
      · split
        · rfl
        · rename_i others
          rcases edges a b edge with old | ⟨_,same⟩
          · exact chained.known a b old
          · exact absurd same.symm others
    · rcases edges a c one with first | ⟨rfl,rfl⟩ <;> rcases edges b c two with second | ⟨rfl,same⟩
      · exact chained.single a b c first second
      · exact absurd (same ▸ first) (unreached a)
      · exact absurd second (unreached b)
      · rfl

theorem failed_idle (place : AdminPlace) : place.failed.Idle ∨ ∃ request answer, place = .answered request answer := by
  cases place with
  | answered request answer => exact .inr ⟨request,answer,rfl⟩
  | entered | creating | finding => exact .inl trivial
  | found request | rotating request | replacing request | revoking request | ending request =>
    refine .inl ?_
    cases request <;> exact trivial

theorem outline : Outline adminProgram Chained Holds where
  start s place admitted _ := by
    cases place with
    | entered => exact ⟨rfl,trivial⟩
    | _ => cases admitted
  begin {_ p _ _} _ _ acts clock := by
    obtain ⟨place,now,held,written⟩ := p
    cases adminAct_acts acts with
    | begin idle => exact holds_idle idle
  statement {_ p _ _ _ _} _ holds _ acts := by
    obtain ⟨place,now,held,written⟩ := p
    cases adminAct_acts acts with
    | statement writes => exact holds_statement holds writes
  commit {db p _ _} chained holds acts := by
    obtain ⟨place,now,held,written⟩ := p
    cases adminAct_acts acts with
    | commit => exact ⟨draft_chained chained holds,rfl⟩
  rollback {_ p _ _} _ _ acts := by
    obtain ⟨place,now,held,written⟩ := p
    cases adminAct_acts acts with
    | rollback idle => exact holds_idle idle
  fail {_ p} _ _ := by
    rcases failed_idle p.place with idle | ⟨request,answer,same⟩
    · exact holds_idle idle
    · exact same ▸ rfl
  stable _ holds _ covered covers apart _ := holds_stable holds covered covers apart

abbrev Step := ReadCommitted.Server.Step adminProgram
abbrev Runs := ReadCommitted.Server.Runs adminProgram

-- A request that has revoked this session and answers so.
def Ended (s : AdminServer) (t : Nat) (request : AdminRequest) (session : Uuid) : Prop :=
  (s.processes[t]?).map Process.place = some (.answered request (.ended session))

def Revoked (db : AdminDb) (session : Uuid) : Prop :=
  ∃ row, db.sessions[session]? = some row ∧ row.revokedAt.isSome = true

inductive Turn (s : AdminServer) : AdminMove → AdminServer → Prop where
  | quiet {move : AdminMove} {s' : AdminServer} : s'.db = s.db → (∀ t request session, Ended s' t request session ↔ Ended s t request session) →
      Turn s move s'
  | commit {t choice request answer} {p : AdminProcess} : s.processes[t]? = some p → p.place = .ending request answer →
      Draft s.db p.writes request answer →
      Turn s (.act t choice) ({s with db := overlay s.db p.writes}.put t ⟨.answered request answer,p.now,[],[]⟩)

-- Moving a process that answers nothing yet changes no answer.
theorem ended_put {t : Nat} (found : (s.processes[t]?).map Process.place = some place ∨ s.processes[t]? = none)
    (before : ∀ request session, place ≠ .answered request (.ended session))
    (after : ∀ request session, p.place ≠ .answered request (.ended session)) (u : Nat) (request : AdminRequest)
    (session : Uuid) : Ended (s.put t p) u request session ↔ Ended s u request session := by
  unfold Ended ReadCommitted.Server.put
  rw [Table.get_insert]
  split
  · rename_i same
    subst same
    refine iff_of_false (fun ended => after request session (Option.some.inj ended)) fun ended => ?_
    rcases found with found | absent
    · exact before request session (Option.some.inj (found.symm.trans ended))
    · rw [absent] at ended
      cases ended
  · exact Iff.rfl

theorem Idle.unended {request : AdminRequest} {session : Uuid} (idle : place.Idle) :
    place ≠ .answered request (.ended session) := by
  rintro rfl
  exact idle

theorem turn (sound : Outline.Sound Chained Holds s) (taken : Step s move s') : Turn s move s' := by
  have acting {p : AdminProcess} {act : AdminAct} {db : AdminDb} (acts : adminAct p.now db p.place = some act)
      (request : AdminRequest) (session : Uuid) : p.place ≠ .answered request (.ended session) := by
    intro same
    rw [same] at acts
    cases acts
  cases happens taken with
  | @start t place fresh admitted =>
    have absent : (s.processes[t]?).map Process.place = some place ∨ s.processes[t]? = none := .inr fresh
    refine .quiet rfl (ended_put absent ?_ ?_)
    all_goals
      rintro request session rfl
      cases admitted
  | @begin t choice p next found acts =>
    refine .quiet rfl (ended_put (.inl (congrArg _ found)) (acting acts) fun request session => ?_)
    obtain ⟨place,now,held,written⟩ := p
    cases adminAct_acts acts with
    | begin idle => exact Idle.unended idle
  | @statement t choice p locks writes next found acts =>
    refine .quiet rfl (ended_put (.inl (congrArg _ found)) (acting acts) fun request session => ?_)
    obtain ⟨place,now,held,written⟩ := p
    cases adminAct_acts acts with
    | statement writes => cases writes <;> simp
  | @rollback t choice p next found acts =>
    refine .quiet rfl (ended_put (.inl (congrArg _ found)) (acting acts) fun request session => ?_)
    obtain ⟨place,now,held,written⟩ := p
    cases adminAct_acts acts with
    | rollback idle => exact Idle.unended idle
  | @commit t choice p next found acts =>
    have holds := sound.holds t p found
    obtain ⟨place,now,held,written⟩ := p
    cases adminAct_acts acts with
    | commit => exact .commit found rfl holds
  | @fail t p found =>
    rcases failed_idle p.place with idle | ⟨request,answer,same⟩
    · refine .quiet rfl (ended_put (.inl (congrArg _ found)) (fun request session same => ?_) fun _ _ => Idle.unended idle)
      rw [same] at idle
      exact idle
    · refine .quiet rfl fun u other session => ?_
      unfold Ended ReadCommitted.Server.put
      rw [Table.get_insert]
      split
      · rename_i here
        rw [← here,found,Option.map_some,Option.map_some]
        exact same ▸ Iff.rfl
      · exact Iff.rfl
  | tick => exact .quiet rfl fun _ _ _ => Iff.rfl

def AdminRequest.created : AdminRequest → Option Uuid
  | .login new => some new.id
  | .refresh _ id _ => some id
  | .logout _ => none

-- What a commit makes of one session.
inductive Becomes (db db' : AdminDb) (request : AdminRequest) (answer : AdminAnswer) (id : Uuid) : Prop where
  | same : db'.sessions[id]? = db.sessions[id]? → answer ≠ .ended id → Becomes db db' request answer id
  | new {row} : db.sessions[id]? = none → db'.sessions[id]? = some row → row.revokedAt = none → request.created = some id →
      answer ≠ .ended id → Becomes db db' request answer id
  | spent {row now} : db.sessions[id]? = some row → row.revokedAt = none →
      db'.sessions[id]? = some (row.revoke now request.replacement) → answer = .ended id →
      Becomes db db' request answer id

theorem draft_becomes {request : AdminRequest} {answer : AdminAnswer} (draft : Draft db written request answer) (id : Uuid) :
    Becomes db (overlay db written) request answer id := by
  cases draft with
  | @issued new now principal fresh =>
    by_cases same : new.id = id
    · subst same
      have there : (overlay db [(⟨.session new.id,new.row now principal⟩ : Write AdminRow)]).sessions[new.id]? =
        some (new.row now principal) := Table.get_insert.trans (if_pos rfl)
      exact .new fresh there rfl rfl (by simp)
    · exact .same (Table.get_insert_ne same) (by simp)
  | @revoked _ session row now none here unrevoked =>
    by_cases same : session = id
    · subst same
      exact .spent here unrevoked (by rw [none]; exact Table.get_insert.trans (if_pos rfl)) rfl
    · exact .same (Table.get_insert_ne same) (by simpa using same)
  | @rotated tokenHash replacement hash session row drawn now principal new apart fresh here unrevoked =>
    by_cases same : session = id
    · subst same
      exact .spent here unrevoked (Table.get_insert.trans (if_pos rfl)) rfl
    · have outside : (overlay db [(⟨.session replacement,new.row drawn principal⟩ : Write AdminRow),
          ⟨.session session,row.revoke now (some replacement)⟩]).sessions[id]? =
          (db.sessions.insert replacement (new.row drawn principal))[id]? := Table.get_insert_ne same
      by_cases mine : replacement = id
      · subst mine
        exact .new fresh (outside.trans (Table.get_insert.trans (if_pos rfl))) rfl rfl (by simpa using same)
      · exact .same (outside.trans (Table.get_insert_ne mine)) (by simpa using same)

theorem revoked_kept (taken : Turn s move s') {id : Uuid} {row : AdminSession} (here : s.db.sessions[id]? = some row)
    (spent : row.revokedAt.isSome = true) : s'.db.sessions[id]? = some row := by
  cases taken with
  | quiet same => rwa [same]
  | @commit t choice request answer p found place draft =>
    cases draft_becomes draft id with
    | same kept => exact kept.trans here
    | new absent => cases absent.symm.trans here
    | spent there unrevoked =>
      cases there.symm.trans here
      rw [unrevoked] at spent
      cases spent

structure Winners (origin s : AdminServer) : Prop where
  kept : ∀ (id : Uuid) row, origin.db.sessions[id]? = some row → row.revokedAt.isSome = true → s.db.sessions[id]? = some row
  ended : ∀ t request id, Ended s t request id → ∃ row, s.db.sessions[id]? = some row ∧ row.revokedAt.isSome = true ∧
    row.replacedById = request.replacement
  fresh : ∀ t request id, Ended s t request id → ¬ Revoked origin.db id
  single : ∀ t u request other id, Ended s t request id → Ended s u other id → t = u
  accounted : ∀ id, Revoked s.db id → Revoked origin.db id ∨ ∃ t request, Ended s t request id

theorem winners_step (winners : Winners origin s) (taken : Turn s move s') : Winners origin s' := by
  have kept : ∀ (id : Uuid) row, origin.db.sessions[id]? = some row → row.revokedAt.isSome = true →
      s'.db.sessions[id]? = some row := fun id row here spent => revoked_kept taken (winners.kept id row here spent) spent
  cases taken with
  | quiet same answers =>
    refine ⟨kept,?_,?_,?_,?_⟩
    · intro t request id ended
      rw [same]
      exact winners.ended t request id ((answers t request id).mp ended)
    · exact fun t request id ended => winners.fresh t request id ((answers t request id).mp ended)
    · exact fun t u request other id one two =>
        winners.single t u request other id ((answers t request id).mp one) ((answers u other id).mp two)
    · intro id revoked
      unfold Revoked at revoked
      rw [same] at revoked
      exact (winners.accounted id revoked).imp_right fun ⟨t,request,ended⟩ => ⟨t,request,(answers t request id).mpr ended⟩
  | @commit t choice request answer p found place draft =>
    have answers (u : Nat) (other : AdminRequest) (id : Uuid)
        (ended : Ended ({s with db := overlay s.db p.writes}.put t ⟨.answered request answer,p.now,[],[]⟩) u other id) :
        Ended s u other id ∨ u = t ∧ other = request ∧ answer = .ended id := by
      unfold Ended ReadCommitted.Server.put at ended
      rw [Table.get_insert] at ended
      split at ended
      · rename_i same
        cases Option.some.inj ended
        exact .inr ⟨same.symm,rfl,rfl⟩
      · exact .inl ended
    have standing (u : Nat) (other : AdminRequest) (id : Uuid) (ended : Ended s u other id) :
        Ended ({s with db := overlay s.db p.writes}.put t ⟨.answered request answer,p.now,[],[]⟩) u other id := by
      unfold Ended ReadCommitted.Server.put
      rw [Table.get_insert]
      split
      · rename_i same
        subst same
        unfold Ended at ended
        rw [found,Option.map_some,place] at ended
        cases ended
      · exact ended
    -- The session that this commit ends was live, so nobody had ended it.
    have unended (id : Uuid) (mine : answer = .ended id) (u : Nat) (other : AdminRequest) : ¬ Ended s u other id := by
      intro ended
      obtain ⟨row,here,spent,_⟩ := winners.ended u other id ended
      cases draft_becomes draft id with
      | same _ apart => exact apart mine
      | new _ _ _ _ apart => exact apart mine
      | spent there unrevoked =>
        cases there.symm.trans here
        rw [unrevoked] at spent
        cases spent
    refine ⟨kept,?_,?_,?_,?_⟩
    · intro u other id ended
      cases draft_becomes draft id with
      | same kept apart =>
        rcases answers u other id ended with old | ⟨_,_,mine⟩
        · obtain ⟨row,here,facts⟩ := winners.ended u other id old
          exact ⟨row,kept.trans here,facts⟩
        · exact absurd mine apart
      | new absent _ _ _ apart =>
        rcases answers u other id ended with old | ⟨_,_,mine⟩
        · obtain ⟨row,here,_⟩ := winners.ended u other id old
          cases absent.symm.trans here
        · exact absurd mine apart
      | spent here unrevoked there mine =>
        rcases answers u other id ended with old | ⟨_,rfl,_⟩
        · exact absurd old (unended id mine u other)
        · exact ⟨_,there,rfl,rfl⟩
    · intro u other id ended
      rcases answers u other id ended with old | ⟨_,_,mine⟩
      · exact winners.fresh u other id old
      · rintro ⟨row,here,spent⟩
        have still := winners.kept id row here spent
        cases draft_becomes draft id with
        | same _ apart => exact apart mine
        | new absent => cases absent.symm.trans still
        | spent there unrevoked =>
          cases there.symm.trans still
          rw [unrevoked] at spent
          cases spent
    · intro u v one two id first second
      rcases answers u one id first with old | ⟨rfl,_,mine⟩ <;> rcases answers v two id second with new | ⟨rfl,_,mine'⟩
      · exact winners.single u v one two id old new
      · exact absurd old (unended id mine' u one)
      · exact absurd new (unended id mine v two)
      · rfl
    · rintro id ⟨row,here,spent⟩
      have previous (old : s.db.sessions[id]? = some row) : Revoked origin.db id ∨ ∃ u other,
          Ended ({s with db := overlay s.db p.writes}.put t ⟨.answered request answer,p.now,[],[]⟩) u other id := by
        rcases winners.accounted id ⟨row,old,spent⟩ with before | ⟨u,other,ended⟩
        · exact .inl before
        · exact .inr ⟨u,other,standing u other id ended⟩
      cases draft_becomes draft id with
      | same kept => exact previous (kept.symm.trans here)
      | new _ there unrevoked =>
        cases here.symm.trans there
        rw [unrevoked] at spent
        cases spent
      | spent _ _ _ mine =>
        refine .inr ⟨t,request,?_⟩
        unfold Ended ReadCommitted.Server.put
        rw [Table.get_insert,if_pos rfl,mine]
        rfl

-- The session and token that find_active_session takes.
def Accepted (db : AdminDb) (now : Instant) (id : Uuid) : Prop :=
  ∃ tokenHash row, db.findActiveSession now tokenHash = some (id,row)

theorem accepted_live {id : Uuid} (accepted : Accepted db now id) :
    ∃ row, db.sessions[id]? = some row ∧ row.revokedAt = none := by
  obtain ⟨tokenHash,row,found⟩ := accepted
  have met := List.find?_some found
  have here := Table.mem_entries.mp (List.mem_of_find?_eq_some found)
  simp only [AdminDb.accepts,Bool.and_eq_true,Option.isNone_iff_eq_none] at met
  exact ⟨row,here,met.2.1.1⟩

-- The sessions that follow from one login by any number of rotations.
def Derived (db : AdminDb) : Uuid → Uuid → Prop := Relation.ReflTransGen (Replaced db)

theorem replaced_dead (chained : Chained db) {a b : Uuid} (edge : Replaced db a b) : ¬ Accepted db now a := by
  intro accepted
  obtain ⟨row,here,next⟩ := edge
  obtain ⟨live,there,unrevoked⟩ := accepted_live accepted
  have spent := chained.ended a row here (next ▸ rfl)
  cases here.symm.trans there
  rw [unrevoked] at spent
  cases spent

theorem derived_linear {root a b : Uuid} (one : Derived db root a) (two : Derived db root b) : Derived db a b ∨ Derived db b a := by
  refine one.total_of_right_unique (fun x y z first second => ?_) two
  obtain ⟨row,here,next⟩ := first
  obtain ⟨_,there,other⟩ := second
  cases here.symm.trans there
  exact Option.some.inj (next.symm.trans other)

theorem derived_single (chained : Chained db) {root a b : Uuid} (one : Derived db root a) (two : Derived db root b)
    (first : Accepted db now a) (second : Accepted db now b) : a = b := by
  rcases derived_linear one two with path | path
  · rcases path.cases_head with same | ⟨c,edge,_⟩
    · exact same
    · exact absurd first (replaced_dead chained edge)
  · rcases path.cases_head with same | ⟨c,edge,_⟩
    · exact same.symm
    · exact absurd second (replaced_dead chained edge)

-- A request that stands at such an answer has committed its rotation.
def Succeeded (s : AdminServer) (t : Nat) : Prop :=
  ∃ request answer, (s.processes[t]?).map Process.place = some (.answered request answer) ∧ ¬ answer.Refuses

structure Linear (origin s : AdminServer) : Prop where
  winners : Winners origin s
  once : ∀ moves s', Runs s moves s' → ∀ a b, Replaced s.db a b → ∀ c, Replaced s'.db a c ↔ c = b
  apart : ∀ now a b, Replaced s.db a b → ¬ (Accepted s.db now a ∧ Accepted s.db now b)
  refused : ∀ move s', Step s move s' → s'.db ≠ s.db → ∃ t choice, move = .act t choice ∧ Succeeded s' t
  chain : ∀ root a b, Derived s.db root a → Derived s.db root b → Derived s.db a b ∨ Derived s.db b a
  acyclic : ∀ a, ¬ Relation.TransGen (Replaced s.db) a a
  single : ∀ now root a b, Derived s.db root a → Derived s.db root b → Accepted s.db now a → Accepted s.db now b → a = b

-- In any order of logins, refreshes and logouts, a session that becomes
-- revoked was ended by exactly one request, which named its replacement.
theorem rotation_linear (vacant : origin.processes = ∅) (chained : Chained origin.db) (path : Runs origin moves s) :
    Linear origin s := by
  have start : Outline.Sound Chained Holds origin := .initial vacant chained
  have begun : Winners origin origin := by
    have unanswered (t : Nat) (request : AdminRequest) (id : Uuid) : ¬ Ended origin t request id := by
      unfold Ended
      rw [vacant,Std.ExtTreeMap.getElem?_empty]
      simp
    exact ⟨fun _ _ here _ => here,fun t request id ended => absurd ended (unanswered t request id),
      fun t request id ended => absurd ended (unanswered t request id),
      fun t _ request _ id ended => absurd ended (unanswered t request id),fun _ => .inl⟩
  have both := path.invariant (fun s => Outline.Sound Chained Holds s ∧ Winners origin s) ⟨start,begun⟩
    fun s move s' both taken => ⟨outline.sound_step both.1 taken,winners_step both.2 (turn both.1 taken)⟩
  refine ⟨both.2,fun moves s' later a b edge c => ?_,fun now a b edge both' => ?_,fun move s' taken changed => ?_,
    fun root a b => derived_linear,both.1.good.acyclic,fun now root a b => derived_single both.1.good⟩
  · obtain ⟨row,here,next⟩ := edge
    have spent := both.1.good.ended a row here (next ▸ rfl)
    have kept := (later.invariant (fun s => Outline.Sound Chained Holds s ∧ s.db.sessions[a]? = some row) ⟨both.1,here⟩
      fun s move s' kept taken => ⟨outline.sound_step kept.1 taken,revoked_kept (turn kept.1 taken) kept.2 spent⟩).2
    constructor
    · rintro ⟨_,there,other⟩
      cases kept.symm.trans there
      exact Option.some.inj (other.symm.trans next)
    · rintro rfl
      exact ⟨row,kept,next⟩
  · exact replaced_dead both.1.good edge both'.1
  · cases turn both.1 taken with
    | quiet same => exact absurd same changed
    | @commit t choice request answer p found place draft =>
      refine ⟨t,choice,rfl,request,answer,?_,?_⟩
      · unfold ReadCommitted.Server.put
        rw [Table.get_insert,if_pos rfl]
        rfl
      · generalize p.writes = written at draft
        cases draft <;> exact id

theorem chained_empty (empty : db.sessions = ∅) : Chained db := by
  have absent (id : Uuid) (row : AdminSession) (here : db.sessions[id]? = some row) : False := by
    rw [empty,Std.ExtTreeMap.getElem?_empty] at here
    cases here
  have unreplaced (a b : Uuid) : ¬ Replaced db a b := fun ⟨row,here,_⟩ => absent a row here
  refine ⟨fun id row here _ => (absent id row here).elim,fun a b edge => absurd edge (unreplaced a b),
    fun a b c edge _ => absurd edge (unreplaced a c),fun a cycle => ?_⟩
  obtain ⟨b,edge,_⟩ := Relation.TransGen.head'_iff.mp cycle
  exact unreplaced a b edge

def oneAdministrator : AdminServer := ⟨⟨(∅ : Table Uuid AdminPrincipal).insert 1 ⟨true⟩,∅⟩,0,∅⟩

-- Two refreshes of one session both insert a successor; the second loses its
-- UPDATE and takes its successor back.
def racingRefreshes : List AdminMove :=
  .start 0 (.entered (.login ⟨10,1,100,sessionTtlSeconds⟩)) :: List.replicate 3 (.act 0 ()) ++
  [.start 1 (.entered (.refresh 100 11 101)),.start 2 (.entered (.refresh 100 12 102))] ++
  List.replicate 4 (.act 1 ()) ++ List.replicate 4 (.act 2 ()) ++ [.act 1 (),.act 1 (),.act 2 ()]

theorem rotation_linear_raced : ∃ s : AdminServer, s.db.sessions.toList.map Prod.fst = [10,11] ∧ Linear oneAdministrator s := by
  obtain ⟨s,path,seen⟩ := Transition.run_reaches (ReadCommitted.Server.execute adminProgram) oneAdministrator racingRefreshes
    (fun s => s.db.sessions.toList.map Prod.fst = [10,11]) (by decide)
  exact ⟨s,of_decide_eq_true seen,rotation_linear rfl (chained_empty rfl) path⟩

end AdminAuth
