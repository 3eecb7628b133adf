import RockServer.AccountRuns

namespace AccountStore
open DeviceControl (Uuid Instant minutes)
open ReadCommitted (Rows Outline overlay)

-- An active account has a passkey that is not revoked.
def Manned (db : AccountDb) (user : Uuid) : Prop := db.userActive user = true →
  ∃ (id : Uuid) (row : PasskeyCredential), db.passkeyCredentials[id]? = some row ∧ row.userId = user ∧ row.revokedAt = none

variable {db : AccountDb} {now : Instant} {locks : Locks} {operation : Operation} {stage next : Stage}
variable {written : List AccountWrite} {user : Uuid}
variable {s s' origin : AccountServer} {move : AccountMove} {moves : List AccountMove} {t : Nat} {p : AccountProcess}

theorem overlay_head (db : AccountDb) (write : AccountWrite) (rest : List AccountWrite) (others : ∀ later ∈ rest, later.key ≠ write.key) :
    (overlay db (write :: rest)).get write.key = some write.row := by
  have last : Rows.get (overlay (Rows.set db write.key write.row) rest) write.key =
    Rows.get (Rows.set db write.key write.row) write.key := ReadCommitted.overlay_unwritten others
  exact last.trans (Rows.get_set _ _ _)

theorem sweep_key (sweep : Sweep) (id : Uuid) : sweep.key id ≠ .user user := by
  cases sweep <;> exact fun same => by cases same

-- A removal that commits leaves its account deleted.
theorem removal_deletes (stands : Stands db now locks operation stage written) (commits : Commits operation stage next)
    (removes : operation.Removes user) : (overlay db written).get (.user user) = some ⟨.deleted⟩ := by
  cases stands with
  | idle idle => cases commits <;> exact False.elim idle
  | @removing _ other _ _ target _ _ _ _ revoking =>
    have same : user = other := by
      cases operation with
      | deleteAccount | deactivateAccount => exact removes.symm.trans target
      | _ => exact False.elim removes
    subst same
    refine overlay_head db ⟨.user user,⟨.deleted⟩⟩ _ fun later member equal => ?_
    obtain ⟨⟨sweep,_,id,here⟩,_⟩ := revoking later member
    exact sweep_key sweep id (here.symm.trans equal)
  | _ => first | exact False.elim removes | cases commits

-- A registration that commits leaves a passkey with its account.
theorem registration_passkey {request : RegistrationVerify} (stands : Stands db now locks (.registrationVerify request) stage written)
    (commits : Commits (.registrationVerify request) stage next) : ∃ target id row,
    (∀ other, (overlay db written).get (.user other) = db.get (.user other) ∨ other = target) ∧
    (overlay db written).get (.passkey id) = some row ∧ row.userId = target ∧ row.revokedAt = none := by
  cases commits with
  | ended =>
    cases stands with
    | idle place | removing place => exact False.elim place
    | @registered _ user _ new =>
      refine ⟨user,new.id,new.row user,fun other => ?_,?_,rfl,rfl⟩
      · rcases overlaid db _ (.user other) with same | ⟨row,member,_⟩
        · exact .inl same
        · rcases List.mem_cons.mp member with same | member
          · cases same
          · rcases List.mem_cons.mp member with same | member
            · cases same
              exact .inr rfl
            · rcases List.mem_cons.mp member with same | member
              · cases same
              · rcases List.mem_cons.mp member with same | member
                · cases same
                · cases List.mem_singleton.mp member
      · refine overlay_head (overlay db [_,_]) ⟨.passkey new.id,new.row user⟩ [_,_] fun later member same => ?_
        rcases List.mem_cons.mp member with rfl | member
        · cases same
        · cases List.mem_singleton.mp member
          cases same

-- While its account stays active, a commit takes a passkey away only if another
-- one is left.
theorem passkey_left (stands : Stands db now locks operation stage written) (commits : Commits operation stage next)
    (before : db.userActive user = true) (after : (overlay db written).userActive user = true) {id : Uuid}
    {row : PasskeyCredential} (here : db.passkeyCredentials[id]? = some row) (owned : row.userId = user)
    (unrevoked : row.revokedAt = none) : ∃ (id : Uuid) (row : PasskeyCredential),
      (overlay db written).passkeyCredentials[id]? = some row ∧ row.userId = user ∧ row.revokedAt = none := by
  rcases changed stands commits (.passkey id) with same | ⟨later,change,there⟩
  · exact ⟨id,row,same.trans here,owned,unrevoked⟩
  · cases change with
    | swept found owned' _ allowed =>
      cases found.symm.trans here
      cases owned.symm.trans (Option.some.inj owned')
      rcases allowed with ⟨removes,_⟩ | native
      · have gone : (overlay db written).users[_]? = _ := removal_deletes stands commits removes
        rw [AccountDb.userActive,gone] at after
        cases after
      · exact False.elim native
    | @passkeyRevoked credential confirmed _ found _ _ several =>
      cases found.symm.trans here
      rw [owned] at several
      obtain ⟨id',row',apart,found',active⟩ := Table.count_other (several before) id
      simp only [Bool.and_eq_true,decide_eq_true_iff,Option.isNone_iff_eq_none] at active
      rcases changed stands commits (.passkey id') with same | ⟨later',change',there'⟩
      · exact ⟨id',row',same.trans found',active⟩
      · cases change' with
        | swept _ _ _ allowed =>
          rcases allowed with ⟨removes,_⟩ | native
          · exact False.elim removes
          · exact False.elim native
        | passkeyRevoked => exact absurd rfl apart
        | passkeyCreated fresh => cases fresh.symm.trans found'
    | passkeyCreated fresh => cases fresh.symm.trans here
    | passkeyAdvanced found =>
      cases found.symm.trans here
      exact ⟨id,_,there,owned,unrevoked⟩

theorem manned_commit (stands : Stands db now locks operation stage written) (commits : Commits operation stage next)
    (manned : Manned db user) : Manned (overlay db written) user := by
  intro after
  rcases changed stands commits (.user user) with same | ⟨later,change,there⟩
  · have before : db.userActive user = true := by
      have kept : (overlay db written).users[user]? = db.users[user]? := same
      rw [AccountDb.userActive,kept] at after
      exact after
    obtain ⟨id,row,here,owned,unrevoked⟩ := manned before
    exact passkey_left stands commits before after here owned unrevoked
  · have found : (overlay db written).users[user]? = some later := there
    cases change with
    | swept _ owned => cases owned
    | userDeleted =>
      rw [AccountDb.userActive,found] at after
      cases after
    | userCreated fresh =>
      obtain ⟨target,id,row,others,here,owned,unrevoked⟩ := registration_passkey stands commits
      rcases others user with same | rfl
      · cases (same.trans fresh).symm.trans there
      · exact ⟨id,row,here,owned,unrevoked⟩

theorem manned_run (vacant : origin.processes = ∅) (path : AccountRuns origin moves s) (manned : Manned origin.db user) :
    Manned s.db user := by
  refine (path.invariant (fun s => AccountSound s ∧ Manned s.db user) ⟨.initial vacant trivial,manned⟩
    fun s move s' both taken => ⟨Outline.sound_step outline both.1 taken,?_⟩).2
  cases account_turn both.1 taken with
  | commit committing => exact manned_commit committing.holds committing.commits both.2
  | tick | enter | fail | proceed => exact both.2

end AccountStore
