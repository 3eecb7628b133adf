import RockServer.AccountDrafts

namespace AccountStore
open DeviceControl (Uuid Instant minutes)
open ReadCommitted (Rows Write Act Mode Process Program Outline overlay Covered Apart happens locked_kept)

-- The answered stages of a request that has used up its challenge, and those on
-- the way there once the challenge's own transaction has committed.
def Operation.Spent : Operation → Stage → Prop
  | .authenticationVerify _,.consumed _ | .authenticationVerify _,.advancing _ | .authenticationVerify _,.advanced _
  | .authenticationVerify _,.counted _ | .authenticationVerify _,.opening _ | .authenticationVerify _,.referencing _ _
  | .authenticationVerify _,.ending _ | .authenticationVerify _,.answered (.authenticated _)
  | .registrationVerify _,.answered (.registered _) => True
  | _,_ => False

inductive Commits : Operation → Stage → Stage → Prop where
  | ended {operation answer} : Commits operation (.ending answer) (.answered answer)
  | consumed {request user} : Commits (.authenticationVerify request) (.challengeConsumed user) (.consumed user)
  | counted {request user} : Commits (.authenticationVerify request) (.advanced user) (.counted user)

-- Where an operation can go from where it stands.
inductive Leads (db : AccountDb) (now : Instant) (locks : Locks) (operation : Operation) (stage : Stage)
    (written : List AccountWrite) : AccountAct → Prop where
  | begin {next : Stage} : next.Idle → (operation.Spent next → operation.Spent stage) →
      Leads db now locks operation stage written (.begin next)
  | rollback {next : Stage} : next.Idle → ¬ operation.Spent next →
      Leads db now locks operation stage written (.rollback next)
  | statement {wants writes next} :
      Stands db now (locks ++ ReadCommitted.Server.wanted wants writes) operation next (written ++ writes) →
      (operation.Spent next → operation.Spent stage) →
      Leads db now locks operation stage written (.statement wants writes next)
  | commit {next} : Commits operation stage next → Leads db now locks operation stage written (.commit next)

-- An operation takes no other way.
def Led (db : AccountDb) (now : Instant) (locks : Locks) (operation : Operation) : Prop :=
  ∀ {stage written act choice}, Stands db now locks operation stage written →
    accountAct now (overlay db written) choice operation stage = some act → Leads db now locks operation stage written act

section leads
variable {db : AccountDb} {now : Instant} {locks : Locks} {operation : Operation} {stage : Stage}
variable {written : List AccountWrite} {act : AccountAct} {choice : Uuid}

theorem idle_written (stands : Stands db now locks operation stage written) (idle : stage.Idle) : written = [] := by
  cases stands with
  | idle => rfl
  | approved _ _ place => rcases place with rfl | rfl <;> cases idle
  | passkeyCreated _ _ place => rcases place with rfl | ⟨rfl,_⟩ <;> cases idle
  | authenticated _ place => rcases place with rfl | ⟨rfl,_⟩ <;> cases idle
  | sessionCreated _ place => rcases place with rfl | ⟨rfl,_⟩ <;> cases idle
  | deviceRevoked sweeps => cases stage <;> first | exact False.elim idle | exact False.elim sweeps
  | removing _ sweeps => cases stage <;> first | exact False.elim idle | exact False.elim sweeps
  | requestLocked | payerLocked | accountLocked | credentialLocked | credentialOwner | countChecked => rfl
  | _ => cases idle

theorem refuse_leads {answer : AccountAnswer} (unspent : ¬ operation.Spent (.answered answer)) :
    Leads db now locks operation stage written (refuse answer) := .rollback trivial unspent

theorem absent (db : AccountDb) {k : AccountKey} (fresh : db.present k = false) : db.get k = none :=
  Option.isNone_iff_eq_none.mp (Option.isSome_eq_false_iff.mp fresh)

theorem createPairing_leads {new : NewPairingRequest} : Led db now locks (.createPairing new) := by
  intro stage written act choice stands acts
  simp only [accountAct,createPairingRequestForMinutes] at acts
  split at acts
  · cases acts
    exact .begin trivial id
  · cases idle_written stands trivial
    cases acts
    split
    · exact refuse_leads id
    · rename_i fresh
      exact .statement (.created (absent _ (Bool.not_eq_true _ ▸ fresh))) id
  · cases acts
    exact .commit .ended
  · cases acts

theorem approvePairing_leads {request : Uuid} {secret : SecretHash} {phrase : String} {proof : BrowserProof} :
    Led db now locks (.approvePairing request secret phrase proof) := by
  intro stage written act choice stands acts
  simp only [accountAct,approvePairingRequest] at acts
  split at acts
  · cases acts
    exact .begin trivial id
  · split at acts
    · obtain ⟨row,_,rfl⟩ := Option.map_eq_some_iff.mp acts
      cases idle_written stands trivial
      exact .statement (.idle trivial) id
    · cases acts
      exact refuse_leads id
  · rename_i user
    cases idle_written stands trivial
    cases acts
    split
    · rename_i row found
      obtain ⟨here,approvable⟩ := Option.filter_eq_some_iff.mp found
      exact .statement (.approved here approvable (.inl rfl)) id
    · exact refuse_leads id
  · cases acts
    cases stands with
    | idle place | removing place => exact False.elim place
    | approved here approvable place =>
      rcases place with same | same <;> cases same
      refine .statement ?_ id
      rw [List.append_nil]
      exact .approved here approvable (.inr rfl)
  · cases acts
    exact .commit .ended
  · cases acts

theorem Paying.more {request user : Uuid} {row : PairingRequest} (paying : Paying db now locks request user row)
    (more : Locks) : Paying db now (locks ++ more) request user row :=
  ⟨List.mem_append_left _ paying.requestLocked,List.mem_append_left _ paying.ownerLocked,paying.found,paying.payable,
    paying.active⟩

theorem userActive_row {user : Uuid} (active : db.userActive user = true) : db.get (.user user) = some ⟨.active⟩ := by
  obtain ⟨⟨status⟩,found,active⟩ := (Option.any_eq_true _ _).mp active
  cases of_decide_eq_true active
  exact found

theorem lockOwner_leads {request : Uuid} {token : SecretHash} {session : NewPairingSession} {row : PairingRequest}
    (held : (.pairing request,.update) ∈ locks) (found : db.get (.pairing request) = some row) :
    Leads db now locks (.completePairing request token session) .requestLocked [] (lockOwner now db row) := by
  unfold lockOwner
  split
  · exact refuse_leads id
  · rename_i available
    simp only [Bool.not_eq_true,Bool.or_eq_false_iff,Option.isSome_eq_false_iff,Option.isNone_iff_eq_none,
      decide_eq_false_iff_not] at available
    obtain ⟨⟨unrevoked,unused⟩,unexpired⟩ := available
    split
    · exact refuse_leads id
    · rename_i approved
      split
      · exact refuse_leads id
      · rename_i user approver
        split
        · rename_i active
          refine .statement (.payerLocked ⟨List.mem_append_left _ held,?_,found,?_,userActive_row active⟩) id
          · exact List.mem_append_right _ List.mem_cons_self
          · exact ⟨approver,(Bool.not_eq_true _ ▸ approved) |> Option.isNone_eq_false_iff.mp,unused,unrevoked,
              lt_of_not_ge unexpired⟩
        · exact refuse_leads id

theorem completePairing_leads {request : Uuid} {token : SecretHash} {session : NewPairingSession} :
    Led db now locks (.completePairing request token session) := by
  intro stage written act choice stands acts
  simp only [accountAct,completePairing] at acts
  split at acts
  · cases acts
    exact .begin trivial id
  · cases idle_written stands trivial
    cases acts
    split
    · exact .statement (.requestLocked (List.mem_append_right _ List.mem_cons_self)) id
    · exact refuse_leads id
  · obtain ⟨row,found,rfl⟩ := Option.map_eq_some_iff.mp acts
    cases stands with
    | idle place | removing place => exact False.elim place
    | requestLocked held => exact lockOwner_leads held found
  · rename_i user
    cases acts
    cases stands with
    | idle place | removing place => exact False.elim place
    | payerLocked paying =>
      split
      · exact refuse_leads id
      · rename_i room
        split
        · exact refuse_leads id
        · rename_i fresh
          exact .statement (.deviceInserted (paying.more _) (absent _ (Bool.not_eq_true _ ▸ fresh)) (Nat.lt_of_not_le room)) id
  · cases acts
    cases stands with
    | idle place | removing place => exact False.elim place
    | deviceInserted paying device room =>
      split
      · exact refuse_leads id
      · rename_i fresh
        exact .statement (.sessionInserted (paying.more _) device room (absent db (Bool.not_eq_true _ ▸ fresh))) id
  · obtain ⟨row,found,rfl⟩ := Option.map_eq_some_iff.mp acts
    cases stands with
    | idle place | removing place => exact False.elim place
    | sessionInserted paying device room session =>
      cases paying.found.symm.trans found
      exact .statement (.completed (paying.more _) device room session) id
  · cases acts
    exact .commit .ended
  · cases acts

theorem revoke_revokes {k : AccountKey} {row : AccountRow k} {user : Uuid} (t : Instant) (owned : owner k row = some user) :
    revokedAt k (revoke t k row) = some t := by
  cases k with
  | user | credential => cases owned
  | _ => rfl

theorem overlaid (db : AccountDb) (written : List AccountWrite) (k : AccountKey) : (overlay db written).get k = db.get k ∨
    ∃ row, (⟨k,row⟩ : AccountWrite) ∈ written ∧ (overlay db written).get k = some row := by
  have kept : Rows.get (overlay db written) k = Rows.get db k ∨ ∃ write ∈ written, write.key = k := ReadCommitted.overlay_cases
  rcases kept with same | here
  · exact .inl same
  · have last : ∃ row, (⟨k,row⟩ : AccountWrite) ∈ written ∧ Rows.get (overlay db written) k = some row :=
      ReadCommitted.overlay_last here
    exact .inr last

-- A row that a sweep revokes is one of the committed rows, for what the
-- transaction has written belongs to no account or is revoked already.
theorem revocation_revoking {sweep : Sweep} {user : Uuid} {list : List Sweep} (member : sweep ∈ list)
    (settled : ∀ write ∈ written, owner write.key write.row = none ∨ (revokedAt write.key write.row).isSome = true) :
    Revoking db user list (sweep.revocation (overlay db written) now user choice) := by
  unfold Sweep.revocation
  intro write written'
  split at written'
  · rename_i row found
    split at written'
    · rename_i meets
      simp only [Bool.and_eq_true,decide_eq_true_iff,Option.isNone_iff_eq_none] at meets
      obtain ⟨⟨owned,unrevoked⟩,_⟩ := meets
      cases List.mem_singleton.mp written'
      refine ⟨⟨sweep,member,choice,rfl⟩,row,now,?_,owned,unrevoked,rfl⟩
      rcases overlaid db written (sweep.key choice) with same | ⟨other,before,there⟩
      · exact same.symm.trans found
      · cases there.symm.trans found
        rcases settled _ before with none | revoked
        · cases none.symm.trans owned
        · rw [unrevoked] at revoked
          cases revoked
    · cases written'
  · cases written'

theorem Revoking.settled {user : Uuid} {list : List Sweep} (revoking : Revoking db user list written) :
    ∀ write ∈ written, owner write.key write.row = none ∨ (revokedAt write.key write.row).isSome = true := by
  intro write member
  obtain ⟨_,row,t,_,owned,_,same⟩ := revoking write member
  rw [same,revoke_revokes t owned]
  exact .inr rfl

theorem Revoking.append {user : Uuid} {list : List Sweep} {more : List AccountWrite} (revoking : Revoking db user list written)
    (added : Revoking db user list more) : Revoking db user list (written ++ more) := by
  intro write member
  rcases List.mem_append.mp member with old | new
  · exact revoking write old
  · exact added write new

theorem sweepStage_sweeps {sweep : Sweep} {ids : List Uuid} {user : Uuid} {rest list : List Sweep} (member : sweep ∈ list)
    (included : rest ⊆ list) : (sweepStage user sweep ids rest).Sweeps user list := by
  unfold sweepStage
  split
  · exact ⟨rfl,included⟩
  · exact ⟨rfl,member,included⟩

-- What the statements that revoke the rows of an account do.
inductive Sweeping (db : AccountDb) (user : Uuid) (list : List Sweep) : Stage → AccountAct → Prop where
  | statement {stage next : Stage} {writes} : next.Sweeps user list → Revoking db user list writes →
      Sweeping db user list stage (.statement [] writes next)
  | commit {answer} : Sweeping db user list (.ending answer) (.commit (.answered answer))

theorem sweep_sweeping {user : Uuid} {list : List Sweep} (sweeps : stage.Sweeps user list)
    (settled : ∀ write ∈ written, owner write.key write.row = none ∨ (revokedAt write.key write.row).isSome = true)
    (acts : sweep now (overlay db written) choice stage = some act) : Sweeping db user list stage act := by
  have nothing : Revoking db user list [] := fun _ member => absurd member List.not_mem_nil
  unfold sweep at acts
  split at acts
  · obtain ⟨rfl,included⟩ := sweeps
    cases acts
    refine .statement (sweepStage_sweeps ?_ fun _ member => ?_) nothing
    · exact included List.mem_cons_self
    · exact included (List.mem_cons_of_mem _ member)
  · cases acts
    exact .statement rfl nothing
  · obtain ⟨rfl,member,included⟩ := sweeps
    split at acts
    · cases acts
      exact .statement (sweepStage_sweeps member included) (revocation_revoking member settled)
    · cases acts
  · cases acts
    exact .commit
  · cases acts

theorem removes_unspent {user : Uuid} (removes : operation.Removes user) : ¬ operation.Spent stage := by
  cases operation <;> first | exact False.elim removes | exact id

theorem removing_begun {user : Uuid} (removes : operation.Removes user) (active : db.userActive user = true)
    (held : (.user user,.noKeyUpdate) ∈ locks)
    (strong : ∀ confirmed, operation = .deactivateAccount user confirmed → (.user user,.update) ∈ locks) :
    Stands db now locks operation (.sweeps user accountSweeps) [⟨.user user,⟨.deleted⟩⟩] :=
  .removing removes ⟨rfl,fun _ member => member⟩ (userActive_row active) held strong
    fun _ member => absurd member List.not_mem_nil

theorem removed_settled {user : Uuid} {list : List Sweep} {writes : List AccountWrite} (revoking : Revoking db user list writes) :
    ∀ write ∈ (⟨.user user,⟨.deleted⟩⟩ :: writes : List AccountWrite),
      owner write.key write.row = none ∨ (revokedAt write.key write.row).isSome = true := by
  intro write member
  rcases List.mem_cons.mp member with rfl | member
  · exact .inl rfl
  · exact revoking.settled write member

theorem removing_leads {user : Uuid} {writes : List AccountWrite} (removes : operation.Removes user)
    (sweeps : stage.Sweeps user accountSweeps) (active : db.get (.user user) = some ⟨.active⟩)
    (held : (.user user,.noKeyUpdate) ∈ locks)
    (strong : ∀ confirmed, operation = .deactivateAccount user confirmed → (.user user,.update) ∈ locks)
    (revoking : Revoking db user accountSweeps writes)
    (acts : sweep now (overlay db (⟨.user user,⟨.deleted⟩⟩ :: writes)) choice stage = some act) :
    Leads db now locks operation stage (⟨.user user,⟨.deleted⟩⟩ :: writes) act := by
  cases sweep_sweeping sweeps (removed_settled revoking) acts with
  | statement onward more =>
    refine .statement ?_ fun spent => absurd spent (removes_unspent removes)
    exact .removing removes onward active (List.mem_append_left _ held)
      (fun confirmed same => List.mem_append_left _ (strong confirmed same)) (revoking.append more)
  | commit => exact .commit .ended

theorem revokeOwnedDevice_leads {user device : Uuid} : Led db now locks (.revokeOwnedDevice user device) := by
  intro stage written act choice stands acts
  simp only [accountAct,revokeOwnedDevice] at acts
  split at acts
  · cases acts
    exact .begin trivial id
  · cases idle_written stands trivial
    cases acts
    split
    · exact .statement (.idle trivial) id
    · exact refuse_leads id
  · cases idle_written stands trivial
    cases acts
    split
    · rename_i row found
      obtain ⟨here,meets⟩ := Option.filter_eq_some_iff.mp found
      simp only [Bool.and_eq_true,decide_eq_true_iff,Option.isNone_iff_eq_none] at meets
      refine .statement (.deviceRevoked ⟨rfl,fun _ => List.mem_cons_of_mem _⟩ ?_) id
      intro write member
      cases List.mem_singleton.mp member
      exact ⟨⟨.devices,List.mem_cons_self,device,rfl⟩,row,now,here,congrArg some meets.1,meets.2,rfl⟩
    · exact refuse_leads id
  · cases stands with
    | idle idle => cases stage <;> first | exact False.elim idle | cases acts
    | removing removes => exact False.elim removes
    | deviceRevoked sweeps revoking =>
      cases sweep_sweeping sweeps revoking.settled acts with
      | statement onward more => exact .statement (.deviceRevoked onward (revoking.append more)) id
      | commit => exact .commit .ended

theorem deleteAccount_leads {user : Uuid} : Led db now locks (.deleteAccount user) := by
  intro stage written act choice stands acts
  simp only [accountAct,deleteAccount] at acts
  split at acts
  · cases acts
    exact .begin trivial id
  · cases idle_written stands trivial
    cases acts
    split
    · rename_i active
      refine .statement (removing_begun rfl active ?_ ?_) id
      · exact List.mem_append_right _ List.mem_cons_self
      · exact fun _ same => absurd same fun equal => by cases equal
    · exact refuse_leads id
  · cases stands with
    | idle idle => cases stage <;> first | exact False.elim idle | cases acts
    | removing removes sweeps active held strong revoking =>
      cases removes
      exact removing_leads rfl sweeps active held strong revoking acts

theorem deactivateAccount_leads {account : Uuid} {confirmed : Bool} :
    Led db now locks (.deactivateAccount account confirmed) := by
  intro stage written act choice stands acts
  simp only [accountAct,deactivateAccountForOperator] at acts
  split at acts
  · cases acts
    split
    · exact .begin trivial id
    · exact refuse_leads id
  · cases idle_written stands trivial
    cases acts
    split
    · exact .statement (.accountLocked (List.mem_append_right _ List.mem_cons_self)) id
    · exact refuse_leads id
  · cases acts
    cases stands with
    | idle idle => exact False.elim idle
    | removing removes sweeps => exact False.elim sweeps
    | accountLocked held =>
      split
      · exact refuse_leads id
      · rename_i active
        split
        · exact refuse_leads id
        · refine .statement (removing_begun rfl ?_ ?_ ?_) id
          · have here : (overlay db []).userActive account = true := by simpa using active
            exact here
          · exact List.mem_append_right _ List.mem_cons_self
          · exact fun _ _ => List.mem_append_left _ held
  · cases stands with
    | idle idle => cases stage <;> first | exact False.elim idle | cases acts
    | accountLocked => contradiction
    | removing removes sweeps active held strong revoking =>
      cases removes
      exact removing_leads rfl sweeps active held strong revoking acts

theorem revokeCredential_leads {credential : Uuid} {confirmed : Bool} :
    Led db now locks (.revokeCredential credential confirmed) := by
  intro stage written act choice stands acts
  simp only [accountAct,revokeCredentialForOperator] at acts
  split at acts
  · cases acts
    split
    · exact .begin trivial id
    · exact refuse_leads id
  · cases idle_written stands trivial
    cases acts
    split
    · rename_i row found
      obtain ⟨here,unrevoked⟩ := Option.filter_eq_some_iff.mp found
      refine .statement (.credentialLocked ?_ here (Option.isNone_iff_eq_none.mp unrevoked)) id
      exact List.mem_append_right _ List.mem_cons_self
    · exact refuse_leads id
  · cases acts
    cases stands with
    | idle place | removing place => exact False.elim place
    | credentialLocked held here unrevoked =>
      split
      · refine .statement (.credentialOwner (List.mem_append_left _ held) here unrevoked ?_) id
        exact List.mem_append_right _ List.mem_cons_self
      · exact refuse_leads id
  · cases acts
    cases stands with
    | idle place | removing place => exact False.elim place
    | @credentialOwner _ _ row held here unrevoked locked =>
      split
      · exact refuse_leads id
      · rename_i several
        refine .statement (.countChecked (List.mem_append_left _ held) here unrevoked (List.mem_append_left _ locked) ?_) id
        intro active
        have counted : ¬ (db.userActive row.userId && decide (db.activePasskeys row.userId ≤ 1)) = true := several
        rw [active,Bool.true_and,decide_eq_true_iff] at counted
        exact Nat.lt_of_not_le counted
  · cases acts
    cases stands with
    | idle place | removing place => exact False.elim place
    | @countChecked _ _ row held here unrevoked locked several =>
      have found : ((overlay db []).passkeyCredentials[credential]?).filter (·.revokedAt.isNone) = some row :=
        Option.filter_eq_some_iff.mpr ⟨here,Option.isNone_iff_eq_none.mpr unrevoked⟩
      rw [found]
      exact .statement (.credentialRevoked here unrevoked (List.mem_append_left _ locked) several) id
  · cases acts
    exact .commit .ended
  · cases acts

theorem untaken (db : AccountDb) {new : NewPasskey} (fresh : ¬ new.taken db = true) :
    db.get (.passkey new.id) = none ∧ db.get (.credential new.bytes) = none := by
  unfold NewPasskey.taken at fresh
  rw [Bool.not_eq_true,Bool.or_eq_false_iff] at fresh
  exact ⟨absent db fresh.1,absent db fresh.2⟩

theorem createPasskey_leads {user : Uuid} {new : NewPasskey} : Led db now locks (.createPasskey user new) := by
  intro stage written act choice stands acts
  simp only [accountAct,createPasskeyCredential] at acts
  split at acts
  · cases acts
    exact .begin trivial id
  · cases idle_written stands trivial
    cases acts
    split
    · exact refuse_leads id
    · split
      · exact refuse_leads id
      · rename_i fresh
        obtain ⟨passkey,credential⟩ := untaken db fresh
        exact .statement (.passkeyCreated passkey credential (.inl rfl)) id
  · cases acts
    cases stands with
    | idle place | removing place => exact False.elim place
    | passkeyCreated passkey credential place =>
      rcases place with same | ⟨same,_⟩ <;> cases same
      refine .statement ?_ id
      rw [List.append_nil]
      exact .passkeyCreated passkey credential (.inr ⟨rfl,List.mem_append_right _ List.mem_cons_self⟩)
  · cases acts
    exact .commit .ended
  · cases acts

theorem createBrowserSession_leads {new : NewBrowserSession} : Led db now locks (.createBrowserSession new) := by
  intro stage written act choice stands acts
  simp only [accountAct,createBrowserSessionWithPolicy] at acts
  split at acts
  · cases acts
    exact .begin trivial id
  · cases idle_written stands trivial
    cases acts
    unfold openSession
    split
    · exact refuse_leads id
    · split
      · exact refuse_leads id
      · rename_i fresh
        exact .statement (.sessionCreated (absent _ (Bool.not_eq_true _ ▸ fresh)) (.inl rfl)) id
  · cases acts
    cases stands with
    | idle place | removing place => exact False.elim place
    | sessionCreated fresh place =>
      rcases place with same | ⟨same,_⟩ <;> cases same
      refine .statement ?_ id
      rw [List.append_nil]
      exact .sessionCreated fresh (.inr ⟨rfl,List.mem_append_right _ List.mem_cons_self⟩)
  · cases acts
    exact .commit .ended
  · cases acts

-- The one row that an UPDATE of a browser session changes.
theorem updateSession_row {check : SessionCheck} {change : BrowserSession → BrowserSession} {missing : AccountAnswer}
    (acts : updateSession now db choice check change missing = some act) : act = refuse missing ∨
    ∃ row, db.get (.browserSession choice) = some row ∧ check.accepts now db choice row = true ∧
      act = .statement [] [⟨.browserSession choice,change row⟩] (.ending .done) := by
  unfold updateSession at acts
  split at acts
  · obtain ⟨row,found,rfl⟩ := Option.map_eq_some_iff.mp acts
    obtain ⟨here,meets⟩ := Option.filter_eq_some_iff.mp found
    exact .inr ⟨row,here,meets,rfl⟩
  · cases acts
    exact .inl rfl

theorem renewBrowserSession_leads {token : SecretHash} : Led db now locks (.renewBrowserSession token) := by
  intro stage written act choice stands acts
  simp only [accountAct,renewBrowserSession] at acts
  split at acts
  · cases acts
    exact .begin trivial id
  · cases idle_written stands trivial
    rcases updateSession_row acts with rfl | ⟨row,here,renewable,rfl⟩
    · exact refuse_leads id
    · exact .statement (.renewed here renewable) id
  · cases acts
    exact .commit .ended
  · cases acts

theorem logoutBrowserSession_leads {user : Uuid} {token csrf : SecretHash} :
    Led db now locks (.logoutBrowserSession user token csrf) := by
  intro stage written act choice stands acts
  simp only [accountAct,logoutBrowserSession] at acts
  split at acts
  · cases acts
    exact .begin trivial id
  · cases idle_written stands trivial
    rcases updateSession_row acts with rfl | ⟨row,here,meets,rfl⟩
    · exact refuse_leads id
    · simp only [SessionCheck.accepts,Bool.and_eq_true,BrowserSession.live] at meets
      exact .statement (.loggedOut here (Option.isNone_iff_eq_none.mp meets.2.1)) id
  · cases acts
    exact .commit .ended
  · cases acts

theorem rotateBrowserCsrf_leads {token csrf : SecretHash} : Led db now locks (.rotateBrowserCsrf token csrf) := by
  intro stage written act choice stands acts
  simp only [accountAct,rotateBrowserCsrf] at acts
  split at acts
  · cases acts
    exact .begin trivial id
  · cases idle_written stands trivial
    rcases updateSession_row acts with rfl | ⟨row,here,meets,rfl⟩
    · exact refuse_leads id
    · simp only [SessionCheck.accepts,Bool.and_eq_true] at meets
      exact .statement (.csrfRotated here meets.1.2) id
  · cases acts
    exact .commit .ended
  · cases acts

theorem createChallenge_leads {new : NewWebauthnChallenge} : Led db now locks (.createChallenge new) := by
  intro stage written act choice stands acts
  simp only [accountAct,createWebauthnChallengeForMinutes] at acts
  split at acts
  · cases acts
    exact .begin trivial id
  · cases idle_written stands trivial
    cases acts
    split
    · exact refuse_leads id
    · rename_i fresh
      exact .statement (.challengeCreated (absent _ (Bool.not_eq_true _ ▸ fresh))) id
  · cases acts
    exact .commit .ended
  · cases acts

theorem consumeChallenge_row {challenge user : Uuid} {meets : WebauthnChallenge → Bool} :
    consumeChallenge now db challenge meets user = refuse .challengeRejected ∨
    ∃ row, db.get (.challenge challenge) = some row ∧ meets row = true ∧ consumeChallenge now db challenge meets user =
      .statement [] [⟨.challenge challenge,{row with consumedAt := some now}⟩] (.challengeConsumed user) := by
  unfold consumeChallenge
  split
  · rename_i row found
    obtain ⟨here,meets⟩ := Option.filter_eq_some_iff.mp found
    exact .inr ⟨row,here,meets,rfl⟩
  · exact .inl rfl

theorem consumable_open {row : WebauthnChallenge} {challengeHash : SecretHash} {ceremony : Ceremony}
    (meets : row.consumable now challengeHash ceremony = true) : row.open now = true := ((Bool.and_eq_true _ _).mp meets).2

theorem registrationVerify_leads {request : RegistrationVerify} : Led db now locks (.registrationVerify request) := by
  intro stage written act choice stands acts
  simp only [accountAct,registrationVerify] at acts
  split at acts
  · cases acts
    exact .begin trivial id
  · cases acts
    split
    · split
      · exact .rollback trivial id
      · exact refuse_leads id
    · exact refuse_leads id
    · exact refuse_leads id
  · cases acts
    exact .begin trivial id
  · cases idle_written stands trivial
    cases acts
    rcases consumeChallenge_row with same | ⟨row,here,meets,same⟩
    · rw [same]
      exact refuse_leads id
    · rw [same]
      exact .statement (.challengeConsumed here (consumable_open ((Bool.and_eq_true _ _).mp meets).1)) id
  · cases acts
    cases stands with
    | idle place | removing place => exact False.elim place
    | challengeConsumed here unused =>
      split
      · exact refuse_leads id
      · rename_i fresh
        exact .statement (.userInserted here unused (absent db (Bool.not_eq_true _ ▸ fresh))) id
  · obtain ⟨⟨bytes,signCount⟩,_,rfl⟩ := Option.map_eq_some_iff.mp acts
    cases stands with
    | idle place | removing place => exact False.elim place
    | userInserted here unused user =>
      dsimp only
      split
      · exact refuse_leads id
      · rename_i fresh
        obtain ⟨passkey,credential⟩ := untaken _ fresh
        exact .statement (.passkeyInserted here unused user passkey credential) id
  · cases acts
    cases stands with
    | idle place | removing place => exact False.elim place
    | passkeyInserted here unused user passkey credential =>
      split
      · exact refuse_leads id
      · rename_i fresh
        exact .statement (.registered here unused user passkey credential (absent db (Bool.not_eq_true _ ▸ fresh))) id
  · cases acts
    exact .commit .ended
  · cases acts

theorem authenticationVerify_leads {request : AuthenticationVerify} : Led db now locks (.authenticationVerify request) := by
  intro stage written act choice stands acts
  simp only [accountAct,authenticationVerify] at acts
  split at acts
  · cases acts
    exact .begin trivial id
  · cases acts
    split
    · split
      · split
        · exact .rollback trivial id
        · exact refuse_leads id
      · exact refuse_leads id
    · exact refuse_leads id
    · exact refuse_leads id
  · cases acts
    exact .begin trivial id
  · cases acts
    split
    · exact .rollback trivial id
    · exact refuse_leads id
  · cases acts
    exact .begin trivial id
  · cases idle_written stands trivial
    cases acts
    rcases consumeChallenge_row with same | ⟨row,here,meets,same⟩
    · rw [same]
      exact refuse_leads id
    · rw [same]
      exact .statement (.challengeTaken here (consumable_open meets)) id
  · cases acts
    exact .commit .consumed
  · cases acts
    exact .begin trivial id
  · cases idle_written stands trivial
    obtain ⟨newSignCount,_,acts⟩ := Option.bind_eq_some_iff.mp acts
    split at acts
    · obtain ⟨row,found,rfl⟩ := Option.map_eq_some_iff.mp acts
      obtain ⟨here,advances⟩ := Option.filter_eq_some_iff.mp found
      exact .statement (.advanced here advances) id
    · cases acts
      exact refuse_leads id
  · cases acts
    exact .commit .counted
  · cases acts
    exact .begin trivial id
  · cases idle_written stands trivial
    cases acts
    unfold openSession
    split
    · exact refuse_leads id
    · split
      · exact refuse_leads id
      · rename_i fresh
        exact .statement (.authenticated (absent _ (Bool.not_eq_true _ ▸ fresh)) (.inl rfl)) id
  · cases acts
    cases stands with
    | idle place | removing place => exact False.elim place
    | authenticated fresh place =>
      rcases place with same | ⟨same,_⟩ <;> cases same
      refine .statement ?_ id
      rw [List.append_nil]
      exact .authenticated fresh (.inr ⟨rfl,List.mem_append_right _ List.mem_cons_self⟩)
  · cases acts
    exact .commit .ended
  · cases acts

theorem accountAct_leads (stands : Stands db now locks operation stage written)
    (acts : accountAct now (overlay db written) choice operation stage = some act) :
    Leads db now locks operation stage written act := by
  cases operation with
  | createPairing => exact createPairing_leads stands acts
  | approvePairing => exact approvePairing_leads stands acts
  | completePairing => exact completePairing_leads stands acts
  | revokeOwnedDevice => exact revokeOwnedDevice_leads stands acts
  | deleteAccount => exact deleteAccount_leads stands acts
  | deactivateAccount => exact deactivateAccount_leads stands acts
  | revokeCredential => exact revokeCredential_leads stands acts
  | createPasskey => exact createPasskey_leads stands acts
  | registrationVerify => exact registrationVerify_leads stands acts
  | authenticationVerify => exact authenticationVerify_leads stands acts
  | createBrowserSession => exact createBrowserSession_leads stands acts
  | renewBrowserSession => exact renewBrowserSession_leads stands acts
  | logoutBrowserSession => exact logoutBrowserSession_leads stands acts
  | rotateBrowserCsrf => exact rotateBrowserCsrf_leads stands acts
  | createChallenge => exact createChallenge_leads stands acts

end leads
end AccountStore
