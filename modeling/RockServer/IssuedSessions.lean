import RockServer.DeviceSessions

namespace DeviceSessions
open DeviceControl (Uuid Instant minutes)
open ReadCommitted (Rows Write Act Mode Outline overlay overlay_append overlay_same overlay_unwritten overlay_cases overlay_last
  locked_kept Covered Apart Server happens)
open AccountStore (SecretHash User PairingRequest)

def Live (db : SessionDb) (id device : Uuid) : Prop :=
  ∃ row, db.sessions[id]? = some row ∧ row.deviceId = device ∧ row.revokedAt = none

-- A device has one live session at most, and sessions are of known devices.
structure Sound (db : SessionDb) : Prop where
  single : ∀ device i j, Live db i device → Live db j device → i = j
  known : ∀ (id : Uuid) row, db.sessions[id]? = some row → (db.devices[row.deviceId]?).isSome = true

section views
variable {db : SessionDb} {p q : SessionProcess} {device id : Uuid} {k : SessionKey} {writes : List SessionWrite}

-- A process that holds a device keeps all others from it.
def Held (p : SessionProcess) (device : Uuid) : Prop := ∃ m, m ≠ .keyShare ∧ (.device device,m) ∈ p.locks

theorem held_apart (mine : Held p device) (theirs : Held q device) (apart : Apart p q) : False := by
  obtain ⟨m,strong,mine⟩ := mine
  obtain ⟨n,strong',theirs⟩ := theirs
  have clash := apart (.device device) m n mine theirs
  cases m <;> cases n <;> first | exact strong rfl | exact strong' rfl | cases clash

theorem overlay_present (present : (Rows.get db k).isSome = true) : (Rows.get (overlay db writes) k).isSome = true := by
  rcases @overlay_cases _ _ _ _ db writes k with same | written
  · rw [same]
    exact present
  · obtain ⟨row,_,here⟩ := @overlay_last _ _ _ _ db _ _ written
    rw [here]
    rfl

-- What a row comes to once another process has committed beside this one: one
-- of the two at most has written it.
theorem merged (covered : Covered p) (covers : Covered q) (apart : Apart p q) (k : SessionKey) :
    Rows.get (overlay (overlay db q.writes) p.writes) k = Rows.get (overlay db p.writes) k ∨
    Rows.get (overlay (overlay db q.writes) p.writes) k = Rows.get (overlay db q.writes) k ∧
      ∃ row, (⟨k,row⟩ : SessionWrite) ∈ q.writes ∧ Rows.get (overlay db q.writes) k = some row := by
  rcases @overlay_cases _ _ _ _ db q.writes k with same | written
  · exact .inl (overlay_same same)
  · refine .inr ⟨overlay_unwritten fun write member here => ?_,overlay_last written⟩
    obtain ⟨other,listed,there⟩ := written
    have mine := covered write member
    have theirs := covers other listed
    rw [here] at mine
    rw [there] at theirs
    cases apart k .noKeyUpdate .noKeyUpdate mine theirs

-- Every session that a process writes and leaves unrevoked is of a device it holds.
def Guarded (p : SessionProcess) : Prop :=
  ∀ id row, (⟨.session id,row⟩ : SessionWrite) ∈ p.writes → row.revokedAt = none → Held p row.deviceId

theorem live_merged (covered : Covered p) (covers : Covered q) (apart : Apart p q) (guarded : Guarded q)
    (live : Live (overlay (overlay db q.writes) p.writes) id device) :
    Live (overlay db p.writes) id device ∨ Live (overlay db q.writes) id device ∧ Held q device := by
  obtain ⟨row,here,rfl,fresh⟩ := live
  have both := @merged db p q covered covers apart (.session id)
  rcases both with same | ⟨same,new,member,there⟩
  · exact .inl ⟨row,same.symm.trans here,rfl,fresh⟩
  · have found : (overlay db q.writes).sessions[id]? = some row := same.symm.trans here
    cases there.symm.trans found
    exact .inr ⟨⟨row,found,rfl,fresh⟩,guarded id row member fresh⟩

-- What is live in a view was so below, or the process wrote it and holds the device.
theorem live_below (guarded : Guarded p) (live : Live (overlay db p.writes) id device) : Live db id device ∨ Held p device := by
  obtain ⟨row,here,rfl,fresh⟩ := live
  rcases @overlay_cases _ _ _ _ db p.writes (SessionKey.session id) with same | written
  · exact .inl ⟨row,same.symm.trans here,rfl,fresh⟩
  · obtain ⟨last,member,there⟩ := @overlay_last _ _ _ _ db _ _ written
    have found : (overlay db p.writes).sessions[id]? = some last := there
    cases found.symm.trans here
    exact .inr (guarded id row member fresh)

theorem sound_merged (sound : Sound (overlay db p.writes)) (other : Sound (overlay db q.writes)) (covered : Covered p)
    (covers : Covered q) (apart : Apart p q) (guarded : Guarded p) (guards : Guarded q) :
    Sound (overlay (overlay db q.writes) p.writes) := by
  -- Beside a session that the other has issued there is none but that one.
  have alone {i j device : Uuid} (theirs : Live (overlay db q.writes) i device) (held : Held q device)
      (live : Live (overlay (overlay db q.writes) p.writes) j device) : i = j := by
    rcases live_below guarded live with below | mine
    · exact other.single device i j theirs below
    · exact (held_apart mine held apart).elim
  constructor
  · intro device i j one two
    rcases live_merged covered covers apart guards one with mine | ⟨theirs,held⟩
    · rcases live_merged covered covers apart guards two with mine' | ⟨theirs',held'⟩
      · exact sound.single device i j mine mine'
      · exact (alone theirs' held' one).symm
    · exact alone theirs held two
  · intro id row here
    have present (device : Uuid) (below : ((overlay db q.writes).devices[device]?).isSome = true) :
        ((overlay (overlay db q.writes) p.writes).devices[device]?).isSome = true :=
      overlay_present (k:=SessionKey.device device) below
    have both := @merged db p q covered covers apart (.session id)
    rcases both with same | ⟨same,_⟩
    · have known := sound.known id row (same.symm.trans here)
      have devices := @merged db p q covered covers apart (.device row.deviceId)
      rcases devices with kept | ⟨_,device,_,there⟩
      · exact (congrArg Option.isSome kept).trans known
      · exact present row.deviceId ((congrArg Option.isSome there).trans rfl)
    · exact present row.deviceId (other.known id row (same.symm.trans here))

-- Statements that only revoke sessions leave the live ones among those there were.
def Calm (db : SessionDb) (writes : List SessionWrite) : Prop := ∀ id row, (⟨.session id,row⟩ : SessionWrite) ∈ writes →
  row.revokedAt ≠ none ∧ ∃ old, db.sessions[id]? = some old ∧ row.deviceId = old.deviceId

theorem calm_live (calm : Calm db writes) (live : Live (overlay db writes) id device) : Live db id device := by
  obtain ⟨row,here,rfl,fresh⟩ := live
  rcases @overlay_cases _ _ _ _ db writes (SessionKey.session id) with same | written
  · exact ⟨row,same.symm.trans here,rfl,fresh⟩
  · obtain ⟨last,member,there⟩ := @overlay_last _ _ _ _ db _ _ written
    have found : (overlay db writes).sessions[id]? = some last := there
    cases found.symm.trans here
    exact absurd fresh (calm id row member).1

theorem calm_sound (sound : Sound db) (calm : Calm db writes) : Sound (overlay db writes) := by
  constructor
  · exact fun device i j one two => sound.single device i j (calm_live calm one) (calm_live calm two)
  · intro id row here
    have present (device : Uuid) (below : (db.devices[device]?).isSome = true) : ((overlay db writes).devices[device]?).isSome = true :=
      overlay_present (k:=SessionKey.device device) below
    rcases @overlay_cases _ _ _ _ db writes (SessionKey.session id) with same | written
    · exact present _ (sound.known id row (same.symm.trans here))
    · obtain ⟨last,member,there⟩ := @overlay_last _ _ _ _ db _ _ written
      have found : (overlay db writes).sessions[id]? = some last := there
      cases found.symm.trans here
      obtain ⟨_,old,before,same⟩ := calm id row member
      exact present _ (same ▸ sound.known id old before)

-- The insertion of a session where the device has no live one.
def issuing (id : Uuid) (row : Session) : List SessionWrite := [⟨.session id,row⟩,⟨.accessToken row.accessTokenHash,id⟩]

theorem issuing_sessions {row : Session} (other : Uuid) :
    (overlay db (issuing id row)).sessions[other]? = if id = other then some row else db.sessions[other]? := Table.get_insert

theorem issuing_sound {row : Session} (sound : Sound db) (none : ∀ i, ¬ Live db i row.deviceId)
    (known : (db.devices[row.deviceId]?).isSome = true) : Sound (overlay db (issuing id row)) := by
  have lives {i device : Uuid} (live : Live (overlay db (issuing id row)) i device) : i = id ∧ device = row.deviceId ∨
      Live db i device := by
    obtain ⟨found,here,rfl,fresh⟩ := live
    rw [issuing_sessions] at here
    split at here
    · rename_i same
      cases here
      exact .inl ⟨same.symm,rfl⟩
    · exact .inr ⟨found,here,rfl,fresh⟩
  constructor
  · intro device i j one two
    rcases lives one with ⟨rfl,rfl⟩ | old
    · rcases lives two with ⟨rfl,_⟩ | old
      · rfl
      · exact absurd old (none j)
    · rcases lives two with ⟨rfl,rfl⟩ | old'
      · exact absurd old (none i)
      · exact sound.single device i j old old'
  · intro other found here
    rw [issuing_sessions] at here
    split at here
    · cases here
      exact known
    · exact sound.known other found here

end views

-- What an operation has seen to where it stands. One that issues keeps the device
-- and looks for its live sessions; one that shuts devices out has written the row
-- that does so.
def Unissued (view : SessionDb) (device : Uuid) : Stage → Prop
  | .sweeps _ [] | .replaced _ => ∀ i, ¬ Live view i device
  | .sweeps _ (sweep :: rest) => sweep = .sessionsOn device ∧ rest = []
  | .sweeping _ sweep ids rest => sweep = .sessionsOn device ∧ rest = [] ∧ ∀ i, Live view i device → i ∈ ids
  | _ => True

def Stage.closing : Stage → Bool
  | .sweeps _ _ | .sweeping _ _ _ _ | .ending _ => true
  | _ => false

def Stage.opening : Stage → Bool
  | .sweeps _ _ | .sweeping _ _ _ _ | .replaced _ => true
  | _ => false

def Known (p : SessionProcess) (view : SessionDb) (device : Uuid) : Prop :=
  Held p device ∧ (view.devices[device]?).isSome = true

def Wrote (p : SessionProcess) (k : SessionKey) : Prop := ∃ write ∈ p.writes, write.key = k

def Revoked (db : SessionDb) (device : Uuid) : Prop := ∃ row, db.devices[device]? = some row ∧ row.revokedAt ≠ none

def Deleted (db : SessionDb) (user : Uuid) : Prop := ∃ row, db.users[user]? = some row ∧ row.status = .deleted

def Facts (view : SessionDb) (p : SessionProcess) : Operation → Stage → Prop
  | .completePairing _ _ session,.deviceInserted _ => Known p view session.deviceId ∧ ∀ i, ¬ Live view i session.deviceId
  | .completePairing _ _ _,_ => True
  | .issueDeviceSession device _ _ _,stage => (stage.opening = true → Known p view device) ∧ Unissued view device stage
  | .revokeOwnedDevice _ device,stage => stage.closing = true → Wrote p (.device device) ∧ Revoked view device
  | .deleteAccount user,stage => stage.closing = true → Wrote p (.user user) ∧ Deleted view user

structure Holds (db : SessionDb) (p : SessionProcess) : Prop where
  sound : Sound (overlay db p.writes)
  guarded : Guarded p
  facts : Facts (overlay db p.writes) p p.place.operation p.place.stage

-- What a statement may do.
inductive Statement (now : Instant) (db : SessionDb) : Operation → Stage → List (SessionKey × Mode) → List SessionWrite → Stage →
    Prop where
  | passed {op stage locks next} : (∀ view p, Facts view p op next) → Statement now db op stage locks [] next
  | inserted {request desktopTokenHash user row} {session : NewPairingSession} : db.devices[session.deviceId]? = none →
      Statement now db (.completePairing request desktopTokenHash session) (.ownerLocked user) [] [⟨.device session.deviceId,row⟩]
        (.deviceInserted user)
  | paired {request desktopTokenHash user id row next} {session : NewPairingSession} : row.deviceId = session.deviceId →
      db.sessions[id]? = none → (∀ view p, Facts view p (.completePairing request desktopTokenHash session) next) →
      Statement now db (.completePairing request desktopTokenHash session) (.deviceInserted user) [] (issuing id row) next
  | consumed {request desktopTokenHash session stage id row next} :
      (∀ view p, Facts view p (.completePairing request desktopTokenHash session) next) →
      Statement now db (.completePairing request desktopTokenHash session) stage [] [⟨.pairing id,row⟩] next
  | chosen {device deviceSecretHash session accessHash user} : (db.devices[device]?).isSome = true →
      Statement now db (.issueDeviceSession device deviceSecretHash session accessHash) .begun
        [(.device device,.update),(.user user,.update)] [] (.sweeps user [.sessionsOn device])
  | issued {device deviceSecretHash session accessHash user id row expires} : row.deviceId = device → db.sessions[id]? = none →
      Statement now db (.issueDeviceSession device deviceSecretHash session accessHash) (.replaced user) [] (issuing id row)
        (.sessionInserted user expires)
  | touched {device deviceSecretHash session accessHash user expires row seen answer} : db.devices[device]? = some row →
      Statement now db (.issueDeviceSession device deviceSecretHash session accessHash) (.sessionInserted user expires) []
        [⟨.device device,{row with lastSeenAt := some seen}⟩] (.ending answer)
  | revoked {user device row sweeps} : db.devices[device]? = some row → Statement now db (.revokeOwnedDevice user device)
      .revokingDevice [] [⟨.device device,{row with revokedAt := some now}⟩] (.sweeps user sweeps)
  | deleted {user sweeps} : Statement now db (.deleteAccount user) .begun [] [⟨.user user,⟨.deleted⟩⟩] (.sweeps user sweeps)
  | scanned {op user sweep rest} : Statement now db op (.sweeps user (sweep :: rest)) [] []
      (sweepStage user sweep (sweep.scan db now) rest)
  | swept {op user sweep ids rest choice} : choice ∈ ids → Statement now db op (.sweeping user sweep ids rest) []
      (sweep.revocation db now choice) (sweepStage user sweep (ids.erase choice) rest)
  | finished {op user next} : next = .replaced user ∨ (∀ device deviceSecretHash session accessHash,
      op ≠ .issueDeviceSession device deviceSecretHash session accessHash) ∧ next = .ending .done →
      Statement now db op (.sweeps user []) [] [] next

section statements
variable {db : SessionDb} {now : Instant} {choice device user id : Uuid} {writes : List SessionWrite}
  {locks : List (SessionKey × Mode)} {op : Operation} {stage next : Stage}

theorem insertSession_statement {row : Session} (acts : insertSession db id row stage = .statement locks writes next) :
    locks = [] ∧ writes = issuing id row ∧ next = stage ∧ db.sessions[id]? = none := by
  unfold insertSession at acts
  split at acts
  · cases acts
  · rename_i free
    cases acts
    rw [Bool.not_eq_true,Bool.or_eq_false_iff] at free
    exact ⟨rfl,rfl,rfl,Option.isSome_eq_false_iff.mp free.1 |> Option.isNone_iff_eq_none.mp⟩

theorem sweep_statement {after : Uuid → Stage} (acts : sweep now db choice after stage = some (.statement locks writes next))
    (ends : ∀ user, after user = .replaced user ∨ (∀ device deviceSecretHash session accessHash,
      op ≠ .issueDeviceSession device deviceSecretHash session accessHash) ∧ after user = .ending .done) :
    Statement now db op stage locks writes next := by
  unfold sweep at acts
  split at acts
  · cases acts
    exact .scanned
  · cases acts
    exact .finished (ends _)
  · split at acts
    · rename_i listed
      cases acts
      exact .swept listed
    · cases acts
  · cases acts
  · cases acts

theorem completePairing_statement {request : Uuid} {desktopTokenHash : SecretHash} {session : NewPairingSession}
    (acts : completePairing now db request desktopTokenHash session stage = some (.statement locks writes next)) :
    Statement now db (.completePairing request desktopTokenHash session) stage locks writes next := by
  cases stage with
  | entered => cases acts
  | begun =>
    simp only [completePairing,Option.some.injEq] at acts
    split at acts
    · cases acts
      exact .passed fun _ _ => trivial
    · cases acts
  | requestLocked =>
    obtain ⟨row,_,acts⟩ := Option.map_eq_some_iff.mp acts
    unfold lockOwner at acts
    split at acts
    · cases acts
    · split at acts
      · cases acts
      · split at acts
        · cases acts
        · split at acts
          · cases acts
            exact .passed fun _ _ => trivial
          · cases acts
  | ownerLocked user =>
    simp only [completePairing,Option.some.injEq] at acts
    split at acts
    · cases acts
    · split at acts
      · cases acts
      · rename_i absent
        cases acts
        exact .inserted (Option.isNone_iff_eq_none.mp (Option.isSome_eq_false_iff.mp ((Bool.not_eq_true _).mp absent)))
  | deviceInserted user =>
    simp only [completePairing,Option.some.injEq] at acts
    obtain ⟨rfl,rfl,rfl,fresh⟩ := insertSession_statement acts
    exact .paired rfl fresh fun _ _ => trivial
  | sessionInserted user expires =>
    obtain ⟨row,_,acts⟩ := Option.map_eq_some_iff.mp acts
    cases acts
    exact .consumed fun _ _ => trivial
  | _ => cases acts

theorem issueDeviceSession_statement {deviceSecretHash : SecretHash} {session : Uuid} {accessHash : SecretHash}
    (acts : issueDeviceSession now db choice device deviceSecretHash session accessHash stage = some (.statement locks writes next)) :
    Statement now db (.issueDeviceSession device deviceSecretHash session accessHash) stage locks writes next := by
  unfold issueDeviceSession at acts
  split at acts
  · cases acts
  · split at acts
    · rename_i row found
      cases acts
      rw [Option.filter_eq_some_iff] at found
      exact .chosen ((congrArg Option.isSome found.1).trans rfl)
    · cases acts
  · obtain ⟨rfl,rfl,rfl,fresh⟩ := insertSession_statement (Option.some.inj acts)
    exact .issued rfl fresh
  · obtain ⟨row,found,acts⟩ := Option.map_eq_some_iff.mp acts
    cases acts
    exact .touched found
  · exact sweep_statement acts fun _ => .inl rfl

theorem revokeOwnedDevice_statement (acts : revokeOwnedDevice now db choice user device stage = some (.statement locks writes next)) :
    Statement now db (.revokeOwnedDevice user device) stage locks writes next := by
  unfold revokeOwnedDevice at acts
  split at acts
  · cases acts
  · simp only [Option.some.injEq] at acts
    split at acts
    · cases acts
      exact .passed fun _ _ closing => by cases closing
    · cases acts
  · split at acts
    · rename_i row found
      cases acts
      exact .revoked (Option.filter_eq_some_iff.mp found).1
    · cases acts
  · exact sweep_statement acts fun _ => .inr ⟨fun _ _ _ _ => nofun,rfl⟩

theorem deleteAccount_statement (acts : deleteAccount now db choice user stage = some (.statement locks writes next)) :
    Statement now db (.deleteAccount user) stage locks writes next := by
  unfold deleteAccount at acts
  split at acts
  · cases acts
  · simp only [Option.some.injEq] at acts
    split at acts
    · cases acts
      exact .deleted
    · cases acts
  · exact sweep_statement acts fun _ => .inr ⟨fun _ _ _ _ => nofun,rfl⟩

theorem sessionAct_statement (acts : sessionAct now db choice op stage = some (.statement locks writes next)) :
    Statement now db op stage locks writes next := by
  cases op with
  | completePairing => exact completePairing_statement acts
  | issueDeviceSession => exact issueDeviceSession_statement acts
  | revokeOwnedDevice => exact revokeOwnedDevice_statement acts
  | deleteAccount => exact deleteAccount_statement acts

-- What no statement takes back: an account's deletion, a device's revocation and
-- its owner.
def Evolves : (k : SessionKey) → Option (SessionRow k) → Option (SessionRow k) → Prop
  | .user _,a,b => ∀ row, a = some row → row.status = .deleted → ∃ row', b = some row' ∧ row'.status = .deleted
  | .device _,a,b => ∀ row, a = some row → ∃ row', b = some row' ∧ row'.userId = row.userId ∧
    (row.revokedAt ≠ none → row'.revokedAt ≠ none)
  | _,_,_ => True

theorem evolves_refl (k : SessionKey) (row : Option (SessionRow k)) : Evolves k row row := by
  cases k with
  | user => exact fun row here deleted => ⟨row,here,deleted⟩
  | device => exact fun row here => ⟨row,here,rfl,id⟩
  | _ => trivial

theorem evolves_trans (k : SessionKey) (a b c : Option (SessionRow k)) (first : Evolves k a b) (second : Evolves k b c) :
    Evolves k a c := by
  cases k with
  | user =>
    intro row here deleted
    obtain ⟨row',there,deleted'⟩ := first row here deleted
    exact second row' there deleted'
  | device =>
    intro row here
    obtain ⟨row',there,owner,revoked⟩ := first row here
    obtain ⟨last,now,owner',revoked'⟩ := second row' there
    exact ⟨last,now,owner'.trans owner,fun before => revoked' (revoked before)⟩
  | _ => trivial

theorem revocation_cases {sweep : Sweep} {k : SessionKey} {row : SessionRow k} (listed : (⟨k,row⟩ : SessionWrite) ∈ sweep.revocation db now id) :
    (∃ old, db.devices[id]? = some old ∧ (⟨k,row⟩ : SessionWrite) = ⟨.device id,{old with revokedAt := some now}⟩) ∨
    (∃ old, (⟨k,row⟩ : SessionWrite) = ⟨.pairing id,old⟩) ∨
    ∃ old, db.sessions[id]? = some old ∧ (⟨k,row⟩ : SessionWrite) = ⟨.session id,{old with revokedAt := some now}⟩ := by
  cases sweep with
  | devicesOf user =>
    obtain ⟨old,found,same⟩ := Option.map_eq_some_iff.mp (Option.mem_toList.mp listed)
    exact .inl ⟨old,(Option.filter_eq_some_iff.mp found).1,same.symm⟩
  | pairingRequestsOf user =>
    obtain ⟨old,_,same⟩ := Option.map_eq_some_iff.mp (Option.mem_toList.mp listed)
    exact .inr (.inl ⟨_,same.symm⟩)
  | sessionsOf | sessionsOfDevice | sessionsOn =>
    obtain ⟨old,found,same⟩ := Option.map_eq_some_iff.mp (Option.mem_toList.mp listed)
    exact .inr (.inr ⟨old,(Option.filter_eq_some_iff.mp found).1,same.symm⟩)

theorem revocation_calm (sweep : Sweep) (id : Uuid) : Calm db (sweep.revocation db now id) := by
  intro other row listed
  rcases revocation_cases listed with ⟨old,_,same⟩ | ⟨old,same⟩ | ⟨old,found,same⟩
  · cases same
  · cases same
  · cases same
    exact ⟨nofun,old,found,rfl⟩

theorem written_evolves (does : Statement now db op stage locks writes next) {k : SessionKey} {row : SessionRow k}
    (listed : (⟨k,row⟩ : SessionWrite) ∈ writes) : Evolves k (Rows.get db k) (some row) := by
  have revoked {device : Uuid} {old : Device} {now : Instant} (found : db.devices[device]? = some old) :
      Evolves (.device device) (db.devices[device]?) (some {old with revokedAt := some now}) := by
    intro row here
    cases found.symm.trans here
    exact ⟨_,rfl,rfl,fun _ => nofun⟩
  cases does with
  | inserted absent =>
    cases List.mem_singleton.mp listed
    intro row here
    cases absent.symm.trans here
  | paired => rcases List.mem_cons.mp listed with same | other
              · cases same; trivial
              · cases List.mem_singleton.mp other; trivial
  | issued => rcases List.mem_cons.mp listed with same | other
              · cases same; trivial
              · cases List.mem_singleton.mp other; trivial
  | consumed => cases List.mem_singleton.mp listed; trivial
  | touched found =>
    cases List.mem_singleton.mp listed
    intro row here
    cases found.symm.trans here
    exact ⟨_,rfl,rfl,id⟩
  | revoked found =>
    cases List.mem_singleton.mp listed
    exact revoked found
  | deleted =>
    cases List.mem_singleton.mp listed
    exact fun _ _ _ => ⟨_,rfl,rfl⟩
  | swept =>
    rcases revocation_cases listed with ⟨old,found,same⟩ | ⟨old,same⟩ | ⟨old,_,same⟩
    · cases same
      exact revoked found
    · cases same; trivial
    · cases same; trivial
  | passed | chosen | scanned | finished => cases listed

theorem statement_evolves (does : Statement now db op stage locks writes next) (k : SessionKey) :
    Evolves k (Rows.get db k) (Rows.get (overlay db writes) k) := by
  rcases @overlay_cases _ _ _ _ db writes k with same | written
  · rw [same]
    exact evolves_refl k _
  · obtain ⟨row,member,here⟩ := @overlay_last _ _ _ _ db _ _ written
    rw [here]
    exact written_evolves does member

theorem revoked_evolves {db' : SessionDb} (evolves : Evolves (.device device) (db.devices[device]?) (db'.devices[device]?))
    (revoked : Revoked db device) : Revoked db' device := by
  obtain ⟨row,here,fresh⟩ := revoked
  obtain ⟨row',there,_,kept⟩ := evolves row here
  exact ⟨row',there,kept fresh⟩

theorem deleted_evolves {db' : SessionDb} (evolves : Evolves (.user user) (db.users[user]?) (db'.users[user]?))
    (deleted : Deleted db user) : Deleted db' user := by
  obtain ⟨row,here,gone⟩ := deleted
  exact evolves row here gone

end statements

section outline
variable {db view : SessionDb} {p q p' : SessionProcess} {now : Instant} {device user id : Uuid} {writes : List SessionWrite}
  {locks : List (SessionKey × Mode)} {op : Operation} {stage next : Stage}

-- The device's live sessions are all met by the scan that an issue starts with.
theorem scan_live (live : Live view id device) : id ∈ (Sweep.sessionsOn device).scan view now := by
  obtain ⟨row,here,rfl,fresh⟩ := live
  unfold Sweep.scan
  rw [List.mem_filter]
  refine ⟨List.mem_map.mpr ⟨(id,row),Table.mem_entries.mpr here,rfl⟩,?_⟩
  simp [Sweep.revocation,Sweep.ofSession,here,fresh]

-- What it has come to is not live any more.
theorem swept_live {choice : Uuid} (live : Live (overlay view ((Sweep.sessionsOn device).revocation view now choice)) id device) :
    id ≠ choice := by
  rintro rfl
  obtain ⟨row,found,rfl,fresh⟩ := calm_live (revocation_calm _ _) live
  have written : (Sweep.sessionsOn row.deviceId).revocation view now id = [⟨.session id,{row with revokedAt := some now}⟩] := by
    simp [Sweep.revocation,Sweep.ofSession,found,fresh]
  rw [written] at live
  obtain ⟨last,here,_,open_⟩ := live
  have revoked : (overlay view [(⟨.session id,{row with revokedAt := some now}⟩ : SessionWrite)]).sessions[id]? =
      some {row with revokedAt := some now} := Table.get_insert.trans (if_pos rfl)
  cases revoked.symm.trans here
  cases open_

theorem sweepStage_unissued {ids : List Uuid} (met : ∀ i, Live view i device → i ∈ ids) :
    Unissued view device (sweepStage user (.sessionsOn device) ids []) := by
  unfold sweepStage
  split
  · rename_i none
    intro i live
    rw [List.isEmpty_iff.mp none] at met
    cases met i live
  · exact ⟨rfl,rfl,met⟩

theorem sweepStage_pairing {request : Uuid} {desktopTokenHash : SecretHash} {session : NewPairingSession} {user : Uuid}
    {sweep : Sweep} {ids : List Uuid} {rest : List Sweep} :
    Facts view p (.completePairing request desktopTokenHash session) (sweepStage user sweep ids rest) := by
  unfold sweepStage
  split <;> trivial

theorem held_more {place : SessionPlace} (held : Held p device) :
    Held {p with place := place,locks := p.locks ++ locks,writes := p.writes ++ writes} device := by
  obtain ⟨m,strong,listed⟩ := held
  exact ⟨m,strong,List.mem_append_left _ listed⟩

theorem wrote_more {place : SessionPlace} {k : SessionKey} (wrote : Wrote p k) :
    Wrote {p with place := place,locks := p.locks ++ locks,writes := p.writes ++ writes} k := by
  obtain ⟨write,listed,same⟩ := wrote
  exact ⟨write,List.mem_append_left _ listed,same⟩

theorem wrote_now {place : SessionPlace} {write : SessionWrite} (listed : write ∈ writes) :
    Wrote {p with place := place,locks := p.locks ++ locks,writes := p.writes ++ writes} write.key :=
  ⟨write,List.mem_append_right _ listed,rfl⟩

theorem guarded_more {place : SessionPlace} (guarded : Guarded p) (new : ∀ id row, (⟨.session id,row⟩ : SessionWrite) ∈ writes →
    row.revokedAt = none → Held p row.deviceId) :
    Guarded {p with place := place,locks := p.locks ++ locks,writes := p.writes ++ writes} := by
  intro id row listed fresh
  rcases List.mem_append.mp listed with old | young
  · exact held_more (guarded id row old fresh)
  · exact held_more (new id row young fresh)

-- A process one statement on.
def SessionProcess.after (p : SessionProcess) (locks : List (SessionKey × Mode)) (writes : List SessionWrite) (next : Stage) :
    SessionProcess :=
  {p with place := ⟨p.place.operation,next⟩,locks := p.locks ++ Server.wanted locks writes,writes := p.writes ++ writes}

theorem known_after (known : Known p view device) : Known (p.after locks writes next) (overlay view writes) device :=
  ⟨held_more known.1,overlay_present (k:=SessionKey.device device) known.2⟩

theorem facts_step (sound : Sound view) (facts : Facts view p op stage) (does : Statement now view op stage locks writes next) :
    Facts (overlay view writes) (p.after locks writes next) op next := by
  have evolves := statement_evolves does
  have revokes {device : Uuid} (old : Wrote p (.device device) ∧ Revoked view device) :
      Wrote (p.after locks writes next) (.device device) ∧ Revoked (overlay view writes) device :=
    ⟨wrote_more old.1,revoked_evolves (evolves (.device device)) old.2⟩
  have deletes {user : Uuid} (old : Wrote p (.user user) ∧ Deleted view user) :
      Wrote (p.after locks writes next) (.user user) ∧ Deleted (overlay view writes) user :=
    ⟨wrote_more old.1,deleted_evolves (evolves (.user user)) old.2⟩
  cases does with
  | passed given => exact given _ _
  | @inserted _ _ _ row session absent =>
    have present : (overlay view [(⟨.device session.deviceId,row⟩ : SessionWrite)]).devices[session.deviceId]? = some row :=
      Table.get_insert.trans (if_pos rfl)
    refine ⟨⟨⟨.noKeyUpdate,nofun,?_⟩,(congrArg Option.isSome present).trans rfl⟩,fun i live => ?_⟩
    · exact List.mem_append_right _ List.mem_cons_self
    · have calm : Calm view [(⟨.device session.deviceId,row⟩ : SessionWrite)] := fun _ _ listed => by
        cases List.mem_singleton.mp listed
      obtain ⟨row,here,same,_⟩ := calm_live calm live
      have known := sound.known i row here
      rw [same,absent] at known
      cases known
  | paired _ _ given => exact given _ _
  | consumed given => exact given _ _
  | chosen present =>
    refine ⟨fun _ => ⟨⟨.update,nofun,?_⟩,present⟩,rfl,rfl⟩
    exact List.mem_append_right _ List.mem_cons_self
  | issued | touched => exact ⟨nofun,trivial⟩
  | revoked => exact fun _ => ⟨wrote_now List.mem_cons_self,_,Table.get_insert.trans (if_pos rfl),nofun⟩
  | deleted => exact fun _ => ⟨wrote_now List.mem_cons_self,_,Table.get_insert.trans (if_pos rfl),rfl⟩
  | scanned =>
    cases op with
    | completePairing => exact sweepStage_pairing
    | issueDeviceSession =>
      obtain ⟨known,rfl,rfl⟩ := facts
      exact ⟨fun _ => known_after (known rfl),sweepStage_unissued fun i live => scan_live live⟩
    | revokeOwnedDevice => exact fun _ => revokes (facts rfl)
    | deleteAccount => exact fun _ => deletes (facts rfl)
  | swept =>
    cases op with
    | completePairing => exact sweepStage_pairing
    | issueDeviceSession =>
      obtain ⟨known,rfl,rfl,met⟩ := facts
      refine ⟨fun _ => known_after (known rfl),sweepStage_unissued fun i live => ?_⟩
      exact (List.mem_erase_of_ne (swept_live live)).mpr (met i (calm_live (revocation_calm _ _) live))
    | revokeOwnedDevice => exact fun _ => revokes (facts rfl)
    | deleteAccount => exact fun _ => deletes (facts rfl)
  | finished stands =>
    cases op with
    | completePairing => rcases stands with rfl | ⟨_,rfl⟩ <;> trivial
    | issueDeviceSession =>
      rcases stands with rfl | ⟨other,_⟩
      · exact ⟨fun _ => known_after (facts.1 rfl),facts.2⟩
      · exact absurd rfl (other _ _ _ _)
    | revokeOwnedDevice =>
      rcases stands with rfl | ⟨_,rfl⟩
      · exact nofun
      · exact fun _ => revokes (facts rfl)
    | deleteAccount =>
      rcases stands with rfl | ⟨_,rfl⟩
      · exact nofun
      · exact fun _ => deletes (facts rfl)

-- Only a pairing and an issue write a session that is live, of a device that they
-- hold and where there is none.
theorem statement_kinds (facts : Facts view p op stage) (does : Statement now view op stage locks writes next) :
    Calm view writes ∨ ∃ id row, writes = issuing id row ∧ Known p view row.deviceId ∧ ∀ i, ¬ Live view i row.deviceId := by
  cases does with
  | paired same => exact .inr ⟨_,_,rfl,same ▸ facts.1,same ▸ facts.2⟩
  | issued same => exact .inr ⟨_,_,rfl,same ▸ facts.1 rfl,same ▸ facts.2⟩
  | swept => exact .inl (revocation_calm _ _)
  | inserted | consumed | touched | revoked | deleted =>
    refine .inl fun id row listed => ?_
    cases List.mem_singleton.mp listed
  | passed | chosen | scanned | finished => exact .inl fun id row listed => absurd listed List.not_mem_nil

theorem statement_guarded (facts : Facts view p op stage) (does : Statement now view op stage locks writes next) {row : Session}
    (listed : (⟨.session id,row⟩ : SessionWrite) ∈ writes) (fresh : row.revokedAt = none) : Held p row.deviceId := by
  rcases statement_kinds facts does with calm | ⟨_,_,rfl,known,_⟩
  · exact absurd fresh (calm id row listed).1
  · rcases List.mem_cons.mp listed with same | other
    · cases same
      exact known.1
    · cases List.mem_singleton.mp other

theorem statement_sound (sound : Sound view) (facts : Facts view p op stage)
    (does : Statement now view op stage locks writes next) : Sound (overlay view writes) := by
  rcases statement_kinds facts does with calm | ⟨_,_,rfl,known,none⟩
  · exact calm_sound sound calm
  · exact issuing_sound sound none known.2

theorem holds_statement (holds : Holds db p)
    (does : Statement now (overlay db p.writes) p.place.operation p.place.stage locks writes next) :
    Holds db (p.after locks writes next) := by
  constructor
  · change Sound (overlay db (p.writes ++ writes))
    rw [overlay_append]
    exact statement_sound holds.sound holds.facts does
  · exact guarded_more holds.guarded fun id row listed fresh => statement_guarded holds.facts does listed fresh
  · change Facts (overlay db (p.writes ++ writes)) _ _ _
    rw [overlay_append]
    exact facts_step holds.sound holds.facts does

-- What a process wrote is as it was when another has committed.
theorem wrote_kept {k : SessionKey} (wrote : Wrote p k) (covered : Covered p) (covers : Covered q) (apart : Apart p q) :
    Rows.get (overlay (overlay db q.writes) p.writes) k = Rows.get (overlay db p.writes) k := by
  obtain ⟨write,listed,rfl⟩ := wrote
  have kept : Rows.get (overlay db q.writes) write.key = Rows.get db write.key :=
    locked_kept apart covers (covered write listed) (by decide)
  exact overlay_same kept

theorem facts_stable (facts : Facts (overlay db p.writes) p op stage) (covered : Covered p) (covers : Covered q)
    (apart : Apart p q) (guards : Guarded q) : Facts (overlay (overlay db q.writes) p.writes) p op stage := by
  have unmet {device i : Uuid} (held : Held p device) (live : Live (overlay (overlay db q.writes) p.writes) i device) :
      Live (overlay db p.writes) i device := by
    rcases live_merged covered covers apart guards live with mine | ⟨_,theirs⟩
    · exact mine
    · exact (held_apart held theirs apart).elim
  have still {device : Uuid} (known : Known p (overlay db p.writes) device) :
      Known p (overlay (overlay db q.writes) p.writes) device := by
    have both := @merged db p q covered covers apart (.device device)
    rcases both with same | ⟨same,row,_,there⟩
    · exact ⟨known.1,(congrArg Option.isSome same).trans known.2⟩
    · exact ⟨known.1,(congrArg Option.isSome (same.trans there)).trans rfl⟩
  cases op with
  | completePairing =>
    cases stage with
    | deviceInserted => exact ⟨still facts.1,fun i live => facts.2 i (unmet facts.1.1 live)⟩
    | _ => trivial
  | issueDeviceSession =>
    refine ⟨fun opening => still (facts.1 opening),?_⟩
    cases stage with
    | sweeps user rest =>
      cases rest with
      | nil => exact fun i live => facts.2 i (unmet (facts.1 rfl).1 live)
      | cons => exact facts.2
    | sweeping => exact ⟨facts.2.1,facts.2.2.1,fun i live => facts.2.2.2 i (unmet (facts.1 rfl).1 live)⟩
    | replaced => exact fun i live => facts.2 i (unmet (facts.1 rfl).1 live)
    | _ => trivial
  | revokeOwnedDevice _ device =>
    intro closing
    obtain ⟨wrote,row,here,revoked⟩ := facts closing
    have kept := @wrote_kept db p q _ wrote covered covers apart
    exact ⟨wrote,row,kept.trans here,revoked⟩
  | deleteAccount user =>
    intro closing
    obtain ⟨wrote,row,here,deleted⟩ := facts closing
    have kept := @wrote_kept db p q _ wrote covered covers apart
    exact ⟨wrote,row,kept.trans here,deleted⟩

theorem holds_stable (holds : Holds db p) (other : Holds db q) (covered : Covered p) (covers : Covered q) (apart : Apart p q) :
    Holds (overlay db q.writes) p :=
  ⟨sound_merged holds.sound other.sound covered covers apart holds.guarded other.guarded,holds.guarded,
    facts_stable holds.facts covered covers apart other.guarded⟩

-- Where nothing is written, an operation that is about to start or is over has
-- nothing to show.
def Stage.idle : Stage → Bool
  | .begun | .answered _ | .entered => true
  | _ => false

theorem idle_holds {clock : Instant} (sound : Sound db) (idle : stage.idle = true) : Holds db ⟨⟨op,stage⟩,clock,[],[]⟩ := by
  refine ⟨sound,fun id row listed => absurd listed List.not_mem_nil,?_⟩
  have facts : ∀ view p, Facts view p op stage := by
    intro view p
    cases stage with
    | entered | begun | answered =>
      cases op with
      | completePairing => trivial
      | issueDeviceSession => exact ⟨nofun,trivial⟩
      | revokeOwnedDevice | deleteAccount => exact nofun
    | _ => cases idle
  exact facts _ _

-- The beginnings and ends of the transactions.
def Bounded (stage : Stage) : SessionAct → Prop
  | .begin next | .rollback next => next.idle = true
  | .commit next => ∃ answer, stage = .ending answer ∧ next = .answered answer
  | .statement _ _ _ => True

theorem insertSession_bounded (id : Uuid) (row : Session) : Bounded stage (insertSession db id row next) := by
  unfold insertSession
  split
  · rfl
  · trivial

theorem lockOwner_bounded (row : PairingRequest) : Bounded stage (lockOwner now db row) := by
  unfold lockOwner
  split
  · rfl
  · split
    · rfl
    · split
      · rfl
      · split
        · trivial
        · rfl

theorem sweep_bounded {choice : Uuid} {after : Uuid → Stage} {act : SessionAct} (acts : sweep now db choice after stage = some act) :
    Bounded stage act := by
  unfold sweep at acts
  split at acts
  · cases acts
    trivial
  · cases acts
    trivial
  · split at acts
    · cases acts
      trivial
    · cases acts
  · cases acts
    exact ⟨_,rfl,rfl⟩
  · cases acts

theorem completePairing_bounded {request : Uuid} {desktopTokenHash : SecretHash} {session : NewPairingSession} {act : SessionAct}
    (acts : completePairing now db request desktopTokenHash session stage = some act) : Bounded stage act := by
  unfold completePairing at acts
  split at acts
  · cases acts
    rfl
  · cases acts
    split <;> trivial
  · obtain ⟨row,_,rfl⟩ := Option.map_eq_some_iff.mp acts
    exact lockOwner_bounded row
  · cases acts
    split
    · rfl
    · split <;> trivial
  · cases acts
    exact insertSession_bounded _ _
  · obtain ⟨row,_,rfl⟩ := Option.map_eq_some_iff.mp acts
    trivial
  · cases acts
    exact ⟨_,rfl,rfl⟩
  · cases acts

theorem sessionAct_bounded {choice : Uuid} {act : SessionAct} (acts : sessionAct now db choice op stage = some act) :
    Bounded stage act := by
  cases op with
  | completePairing => exact completePairing_bounded acts
  | issueDeviceSession =>
    change issueDeviceSession now db choice _ _ _ _ stage = some act at acts
    unfold issueDeviceSession at acts
    split at acts
    · cases acts
      rfl
    · cases acts
      split <;> trivial
    · cases acts
      exact insertSession_bounded _ _
    · obtain ⟨row,_,rfl⟩ := Option.map_eq_some_iff.mp acts
      trivial
    · exact sweep_bounded acts
  | revokeOwnedDevice =>
    change revokeOwnedDevice now db choice _ _ stage = some act at acts
    unfold revokeOwnedDevice at acts
    split at acts
    · cases acts
      rfl
    · cases acts
      split <;> trivial
    · cases acts
      split <;> trivial
    · exact sweep_bounded acts
  | deleteAccount =>
    change deleteAccount now db choice _ stage = some act at acts
    unfold deleteAccount at acts
    split at acts
    · cases acts
      rfl
    · cases acts
      split <;> trivial
    · exact sweep_bounded acts

theorem outline : Outline sessionProgram Sound Holds where
  start s place admitted sound := by
    obtain ⟨op,stage⟩ := place
    refine idle_holds sound ?_
    cases stage <;> first | rfl | cases admitted
  begin {db p choice next} sound holds acts clock := by
    obtain ⟨act,ran,mapped⟩ := Option.map_eq_some_iff.mp acts
    cases act with
    | begin next =>
      cases mapped
      exact idle_holds sound (sessionAct_bounded ran)
    | _ => cases mapped
  statement {db p choice locks writes next} sound holds _ acts := by
    obtain ⟨act,ran,mapped⟩ := Option.map_eq_some_iff.mp acts
    cases act with
    | statement =>
      cases mapped
      exact holds_statement holds (sessionAct_statement ran)
    | _ => cases mapped
  commit {db p choice next} sound holds acts := by
    obtain ⟨act,ran,mapped⟩ := Option.map_eq_some_iff.mp acts
    cases act with
    | commit next =>
      cases mapped
      obtain ⟨answer,_,rfl⟩ := sessionAct_bounded ran
      exact ⟨holds.sound,idle_holds holds.sound rfl⟩
    | _ => cases mapped
  rollback {db p choice next} sound holds acts := by
    obtain ⟨act,ran,mapped⟩ := Option.map_eq_some_iff.mp acts
    cases act with
    | rollback next =>
      cases mapped
      exact idle_holds sound (sessionAct_bounded ran)
    | _ => cases mapped
  fail {db p} sound holds := by
    refine idle_holds sound ?_
    cases p.place.stage <;> rfl
  stable _ mine other covered covers apart _ := holds_stable mine other covered covers apart

theorem keeps {choice : Uuid} {place : SessionPlace}
    (acts : sessionProgram.act choice p.now (overlay db p.writes) p.place = some (.statement locks writes place)) (k : SessionKey) :
    Evolves k (Rows.get (overlay db p.writes) k) (Rows.get (overlay (overlay db p.writes) writes) k) := by
  obtain ⟨act,ran,mapped⟩ := Option.map_eq_some_iff.mp acts
  cases act with
  | statement =>
    cases mapped
    exact statement_evolves (sessionAct_statement ran) k
  | _ => cases mapped

end outline

section runs
variable {origin middle after s : SessionServer} {moves earlier later : List SessionMove}

-- No transaction is under way, and no device has two live sessions.
structure Initial (s : SessionServer) : Prop where
  vacant : s.processes = ∅
  sound : Sound s.db

theorem initial_sound (start : Initial origin) : ReadCommitted.Outline.Sound Sound Holds origin := .initial start.vacant start.sound

theorem initial_idle (start : Initial origin) (t : Nat) (p : SessionProcess) (found : origin.processes[t]? = some p) :
    p.writes = [] := by
  rw [start.vacant,Std.ExtTreeMap.getElem?_empty] at found
  cases found

theorem run_evolves (start : Initial origin) (before : Server.Runs sessionProgram origin earlier middle)
    (path : Server.Runs sessionProgram middle moves s) (k : SessionKey) : Evolves k (Rows.get middle.db k) (Rows.get s.db k) :=
  outline.evolves_between Evolves evolves_refl evolves_trans (fun _ _ acts => keeps acts)
    (initial_sound start) (initial_idle start) before path k

-- The devices that a transaction shuts out.
def Operation.ShutsOut (db : SessionDb) (device : Uuid) : Operation → Prop
  | .revokeOwnedDevice _ revoked => device = revoked
  | .deleteAccount user => ∃ row, db.devices[device]? = some row ∧ row.userId = user
  | _ => False

-- An accepted session is of a device that is not revoked, in an active account.
theorem accepted_open {db : SessionDb} {now : Instant} {hash : SecretHash} {found : Uuid × Session}
    (accepted : db.findActiveSessionByAccessHash now hash = some found) : ¬ Deleted db found.2.userId ∧ ∃ row,
      db.devices[found.2.deviceId]? = some row ∧ row.revokedAt = none ∧ row.userId = found.2.userId := by
  have accepts := List.find?_some accepted
  simp only [SessionDb.accepts,Bool.and_eq_true] at accepts
  obtain ⟨⟨⟨⟨_,_⟩,_⟩,active⟩,open_⟩ := accepts
  obtain ⟨row,here,good⟩ := (Option.any_eq_true _ _).mp open_
  obtain ⟨fresh,mine⟩ := (Bool.and_eq_true _ _).mp good
  refine ⟨?_,row,here,Option.isNone_iff_eq_none.mp fresh,of_decide_eq_true mine⟩
  rintro ⟨user,there,gone⟩
  unfold SessionDb.userActive at active
  rw [there] at active
  simp [gone] at active

theorem ending_commits {now : Instant} {db : SessionDb} {choice : Uuid} {op : Operation} {answer : Answer} :
    sessionAct now db choice op (.ending answer) = some (.commit (.answered answer)) := by
  cases op <;> rfl

theorem commit_step {t : Nat} {choice : Uuid} {p : SessionProcess} (found : middle.processes[t]? = some p)
    (closing : p.place.stage = .ending .done) (taken : Server.Step sessionProgram middle (.act t choice) after) :
    after.db = overlay middle.db p.writes := by
  obtain ⟨⟨op,stage⟩,now,locks,writes⟩ := p
  cases closing
  change (middle.processes[t]?).bind _ = some after at taken
  rw [found,Option.bind_some] at taken
  change ((sessionAct _ _ _ _ _).map _).bind _ = some after at taken
  rw [ending_commits,Option.map_some,Option.bind_some] at taken
  cases taken
  rfl

-- A committed revocation or deletion stands in the committed rows.
theorem commit_marks {t : Nat} {choice : Uuid} {p : SessionProcess} (start : Initial origin)
    (before : Server.Runs sessionProgram origin earlier middle) (found : middle.processes[t]? = some p)
    (closing : p.place.stage = .ending .done) (taken : Server.Step sessionProgram middle (.act t choice) after) :
    (∀ user device, p.place.operation = .revokeOwnedDevice user device → Revoked after.db device) ∧
    ∀ user, p.place.operation = .deleteAccount user → Deleted after.db user := by
  have facts := ((outline.sound_run (initial_sound start) before).holds t p found).facts
  rw [← commit_step found closing taken,closing] at facts
  constructor
  · intro user device revokes
    rw [revokes] at facts
    exact (facts rfl).2
  · intro user deletes
    rw [deletes] at facts
    exact (facts rfl).2

-- Every device has one live session at most; and behind the commit of a revocation
-- or deletion no access token is accepted for a device that it shuts out.
theorem device_sessions (start : Initial origin) :
    (∀ moves s, Server.Runs sessionProgram origin moves s →
      ∀ device i j, Live s.db i device → Live s.db j device → i = j) ∧
    ∀ earlier middle t choice p after later s, Server.Runs sessionProgram origin earlier middle →
      middle.processes[t]? = some p → p.place.stage = .ending .done → Server.Step sessionProgram middle (.act t choice) after →
      Server.Runs sessionProgram after later s →
      ∀ device, p.place.operation.ShutsOut after.db device ∨ p.place.operation.ShutsOut s.db device →
      ∀ now hash found, s.db.findActiveSessionByAccessHash now hash = some found → found.2.deviceId ≠ device := by
  constructor
  · exact fun moves s path => (outline.sound_run (initial_sound start) path).good.single
  · rintro earlier middle t choice p after later s before here closing taken path _ shuts now hash found accepted rfl
    obtain ⟨active,row,held,fresh,mine⟩ := accepted_open accepted
    obtain ⟨revokes,deletes⟩ := commit_marks start before here closing taken
    have evolved := run_evolves start (before.snoc taken) path
    cases operation : p.place.operation with
    | completePairing | issueDeviceSession => rw [operation] at shuts; rcases shuts with none | none <;> cases none
    | revokeOwnedDevice user device =>
      have same : found.2.deviceId = device := by
        rw [operation] at shuts
        exact shuts.elim id id
      obtain ⟨last,there,revoked⟩ := revoked_evolves (evolved (.device device)) (revokes user device operation)
      rw [← same,held] at there
      cases there
      exact revoked fresh
    | deleteAccount user =>
      have owner : found.2.userId = user := by
        rw [operation] at shuts
        rcases shuts with ⟨old,there,belongs⟩ | ⟨last,there,belongs⟩
        · obtain ⟨last,there,kept,_⟩ := evolved (.device found.2.deviceId) old there
          have same : s.db.devices[found.2.deviceId]? = some last := there
          rw [held] at same
          cases same
          exact (mine.symm.trans kept).trans belongs
        · rw [held] at there
          cases there
          exact mine.symm.trans belongs
      exact active (owner ▸ deleted_evolves (evolved (.user user)) (deletes user operation))

end runs

-- One account with one device, and the session that it got when it was paired.
def paired : SessionServer where
  db := {
    users := (∅ : Table Uuid User).insert 1 ⟨.active⟩
    devices := (∅ : Table Uuid Device).insert 10 ⟨1,7,none,none⟩
    sessions := (∅ : Table Uuid Session).insert 100 ⟨1,10,500,minutes 15,none⟩
    accessTokens := (∅ : Table SecretHash Uuid).insert 500 100
    pairingRequests := ∅ }
  clock := 0
  processes := ∅

theorem paired_initial : Initial paired := by
  have only {i : Uuid} {row : Session} (here : paired.db.sessions[i]? = some row) : i = 100 ∧ row.deviceId = 10 := by
    unfold paired at here
    rw [Table.get_insert] at here
    split at here
    · rename_i same
      cases here
      exact ⟨same.symm,rfl⟩
    · rw [Std.ExtTreeMap.getElem?_empty] at here
      cases here
  refine ⟨rfl,fun device i j one two => ?_,fun i row here => ?_⟩
  · obtain ⟨row,here,_⟩ := one
    obtain ⟨row',there,_⟩ := two
    exact (only here).1.trans (only there).1.symm
  · rw [(only here).2]
    rfl

-- The device asks for another session.
def reissue : List SessionMove :=
  [.start 0 ⟨.issueDeviceSession 10 7 101 501,.entered⟩,.act 0 0,.act 0 0,.act 0 0,.act 0 100,.act 0 0,.act 0 0,.act 0 0,.act 0 0]

theorem device_sessions_reissued : ∃ s : SessionServer, Live s.db 101 10 ∧ ∀ i, Live s.db i 10 → i = 101 := by
  obtain ⟨s,path,seen⟩ := Transition.run_reaches (Server.execute sessionProgram) paired reissue
    (fun s => (s.db.sessions[(101 : Uuid)]?).any fun row => row.deviceId = 10 && row.revokedAt.isNone) (by decide)
  obtain ⟨row,here,seen⟩ := (Option.any_eq_true _ _).mp seen
  obtain ⟨same,fresh⟩ := (Bool.and_eq_true _ _).mp seen
  have live : Live s.db 101 10 := ⟨row,here,of_decide_eq_true same,Option.isNone_iff_eq_none.mp fresh⟩
  exact ⟨s,live,fun i other => (device_sessions paired_initial).1 reissue s path 10 i 101 other live⟩

end DeviceSessions
