import RockServer.DirectoryNotices

namespace DeviceControl

-- What a session has shown of the directory against what the directory is, over
-- all runs of sessions, commands and revocations.
namespace ControlPlane

-- A device that the account lost, or one with a change still to be told of.
def Due (s : ControlPlane) (user device : Uuid) : Prop :=
  s.router.store.owned user ⟨device⟩ = false ∨ ∃ id session, s.face id = some session ∧ session.deviceId = device ∧
    session.phase.due (s.hub.deviceState user ⟨device⟩) = true

-- The hub's states and the snapshots on their way to it are stored.
structure HubStored (s : ControlPlane) : Prop where
  hub : ∀ user device held, s.hub.deviceState user ⟨device⟩ = some held →
    ∃ row, s.facts.snapshots[device]? = some row ∧ held.stateRevision ≤ row.revision
  sessions : ∀ id session snapshot, s.face id = some session → session.phase.carried = some snapshot →
    ∃ row, s.facts.snapshots[session.deviceId]? = some row ∧ snapshot.stateRevision ≤ row.revision

-- A device whose manifest the store has.
def Declared (s : ControlPlane) (device : Uuid) : Prop := (s.router.store.manifests.lookup ⟨device⟩).isSome = true

variable {env : PlaneEnv} {s s' : ControlPlane} {id j device user : Uuid} {session session' : ControlSession} {now : Instant}
  {event : SessionEvent} {action : Action}

theorem state_same (state : s'.hub.state = s.hub.state) (user device : Uuid) :
    s'.hub.deviceState user ⟨device⟩ = s.hub.deviceState user ⟨device⟩ := by
  unfold StateHub.deviceState
  rw [state]

theorem state_insert {snapshot : DeviceStateSnapshot} {owner owned : Uuid}
    (state : s'.hub.state = s.hub.state.insert (toLex (owner,owned)) snapshot) (user device : Uuid) :
    s'.hub.deviceState user ⟨device⟩ = if owner = user ∧ owned = device then some snapshot
      else s.hub.deviceState user ⟨device⟩ := by
  unfold StateHub.deviceState
  rw [state,Table.get_insert]
  simp only [EmbeddingLike.apply_eq_iff_eq,Prod.mk.injEq]

theorem initial_hubStored (start : Initial s) : HubStored s := by
  refine ⟨fun user device held found => ?_,fun id session snapshot found => ?_⟩
  · simp [start.hub,StateHub.deviceState,LiveHub.empty,StateHub.empty] at found
  · simp [face,start.sessions] at found

-- Rows only get newer, and what is carried on is stored.
theorem HubStored.goes (backed : HubStored s) (goes : Goes s s' id session session')
    (found : s.face id = some session.face) (snapshots : s'.facts.snapshots = s.facts.snapshots)
    (hub : ∀ user device held, s'.hub.deviceState user ⟨device⟩ = some held →
      s.hub.deviceState user ⟨device⟩ = some held ∨ session.deviceId = device ∧ session.phase.carried = some held)
    (carried : ∀ snapshot, session'.phase.carried = some snapshot → session.phase.carried = some snapshot ∨
      ∃ row, s.facts.snapshots[session.deviceId]? = some row ∧ snapshot.stateRevision ≤ row.revision) : HubStored s' := by
  have own := backed.sessions id session.face
  refine ⟨fun user device held present => ?_,fun j other snapshot present carries => ?_⟩
  · rw [snapshots]
    rcases hub user device held present with before | ⟨rfl,carries⟩
    · exact backed.hub user device held before
    · exact own held found carries
  · rw [snapshots]
    rw [goes.faces] at present
    split at present
    · cases present
      have carries : session'.phase.carried = some snapshot := carries
      change ∃ row, s.facts.snapshots[session'.deviceId]? = some row ∧ _
      rw [goes.device]
      rcases carried snapshot carries with before | stored
      · exact own snapshot found before
      · exact stored
    · exact backed.sessions j other snapshot present carries

theorem hubStored_step (stocked : env.hasStore = true) (wired : Wired env s) (backed : HubStored s)
    (confirmed : s.confirms action = true) (taken : Step env s action s') : HubStored s' := by
  cases plane_notice stocked wired confirmed taken with
  | @still kept _ hub facts _ =>
    refine ⟨fun user device held present => ?_,fun j other snapshot present carries => ?_⟩
    · rw [facts]
      exact backed.hub user device held (hub ▸ present)
    · rw [facts]
      rcases kept j other present with before | greeting
      · exact backed.sessions j other snapshot before carries
      · rw [greeting] at carries
        cases carries
  | @session id session found notice =>
    have here := face_of found
    have unsent {held : DeviceStateSnapshot} {user device : Uuid} (state : s'.hub.state = s.hub.state)
        (present : s'.hub.deviceState user ⟨device⟩ = some held) :
        s.hub.deviceState user ⟨device⟩ = some held ∨ session.deviceId = device ∧ session.phase.carried = some held :=
      .inl ((state_same state user device) ▸ present)
    cases notice with
    | calm goes quiet _ snapshots _ carried =>
      exact backed.goes goes here snapshots (fun _ _ _ => unsent quiet.state) carried
    | changed goes quiet _ snapshots _ none =>
      exact backed.goes goes here snapshots (fun _ _ _ => unsent quiet.state) fun other carries => by
        rw [none] at carries
        cases carries
    | told goes _ state _ snapshots none =>
      exact backed.goes goes here snapshots (fun _ _ _ => unsent state) fun other carries => by
        rw [none] at carries
        cases carries
    | @published session' snapshot answer _ phase goes _ state _ snapshots none =>
      refine backed.goes goes here snapshots (fun user device held present => ?_) fun other carries => ?_
      · rw [state_insert state] at present
        split at present
        · rename_i same
          cases present
          refine .inr ⟨same.2,?_⟩
          rw [phase]
          rfl
        · exact .inl present
      · rw [none] at carries
        cases carries
    | @stored session' snapshot row goes quiet _ snapshots revision newer phase =>
      have rows {device : Uuid} {bound : Nat}
          (before : ∃ old, s.facts.snapshots[device]? = some old ∧ bound ≤ old.revision) :
          ∃ row, s'.facts.snapshots[device]? = some row ∧ bound ≤ row.revision := by
        obtain ⟨old,present,below⟩ := before
        rw [snapshots,Table.get_insert]
        split
        · rename_i same
          have older := newer old (same ▸ present)
          exact ⟨row,rfl,by omega⟩
        · exact ⟨old,present,below⟩
      refine ⟨fun user device held present => rows ?_,fun j other shown present carries => ?_⟩
      · exact backed.hub user device held (state_same quiet.state user device ▸ present)
      · rw [goes.faces] at present
        split at present
        · cases present
          have carries : session'.phase.carried = some shown := carries
          have shows : shown = snapshot := by
            rcases phase with accepting | publishing
            · rw [accepting] at carries
              cases carries
              rfl
            · rw [publishing] at carries
              cases carries
              rfl
          change ∃ row, s'.facts.snapshots[session'.deviceId]? = some row ∧ _
          rw [goes.device,snapshots,Table.get_insert,if_pos rfl,shows]
          exact ⟨row,rfl,by omega⟩
        · exact rows (backed.sessions j other shown present carries)

theorem applied_declared {store : StoreState} {t : Transaction} {name other : DeviceId} {manifest : DeviceManifest}
    (declared : (store.manifests.lookup other).isSome = true) :
    ((store.applyManifest t user name manifest).2.manifests.lookup other).isSome = true := by
  by_cases same : name = other
  · unfold StoreState.applyManifest
    split
    · exact declared
    · split
      · exact declared
      · split
        · exact declared
        · split
          · exact declared
          · split
            · exact declared
            · split
              · exact declared
              · rw [same,List.lookup_cons,beq_self_eq_true]
                rfl
  · rw [applyManifest_others Prod.mk.eta.symm same]
    exact declared

-- A revocation takes a device from its owner, but nothing takes its manifest.
theorem Declared.step (declared : s.Declared device) (taken : Step env s action s') : s'.Declared device := by
  have kept {after : ControlPlane} (same : after.router.store.manifests = s.router.store.manifests) : after.Declared device := by
    unfold Declared
    rw [same]
    exact declared
  cases plane_step taken with
  | session found ran =>
    cases ran with
    | applied _ _ _ => exact applied_declared declared
    | @received frame _ =>
      obtain ⟨_,_,_,_,_,_,unwritten⟩ := receive_takes frame
      exact kept unwritten.manifests
    | joined _ => exact kept (congrArg StoreState.manifests (join_store _))
    | _ => exact kept rfl
  | @route i o task after next spawned _ ran =>
    have same : after.store.manifests = s.router.store.manifests := (advance_declared ran).2
    exact kept same
  | @revoke user device =>
    rcases revoke_cases (s:=s) user device with ⟨same,_⟩ | ⟨g,_,_,changed⟩
    · exact kept (by rw [same])
    · rw [changed]
      exact kept (congrArg (fun router => router.store.manifests) (notify_router g.connectionId .revoked))
  | _ => exact kept rfl

end ControlPlane

namespace Directory
open ControlPlane

-- The directory of one account as a feed of changes: the devices are the keys,
-- and a draft is a reading with the device it is about.
def feed (q : Query) : ChangeFeed.Feed ControlPlane Uuid DeviceView (Option Uuid × Reading) (Option DirectoryDeviceDto) where
  view s device := view s q.userId device
  due s device := s.Due q.userId device
  covers draft device := ∀ about, draft.1 = some about → about = device
  sound seen device draft := draft.2.Sound q seen device
  tells seen _ shown := shown.map DirectoryDeviceDto.facts = seen.facts q

def announced (user : Uuid) (added : List (Uuid × StateEvent)) : List Uuid :=
  (added.filter fun entry => entry.1 = user).map fun entry => entry.2.deviceId

variable {env : PlaneEnv} {s s' : ControlPlane} {id device : Uuid} {session session' : ControlSession}
  {action : ControlPlane.Action} {q : Query}

theorem due_of (owned : s'.router.store.owned q.userId ⟨device⟩ = s.router.store.owned q.userId ⟨device⟩)
    (kept : ∀ j other, s.face j = some other → other.deviceId = device →
      other.phase.due (s.hub.deviceState q.userId ⟨device⟩) = true → s'.Due q.userId device)
    (due : s.Due q.userId device) : s'.Due q.userId device := by
  rcases due with lost | ⟨j,other,found,mine,waits⟩
  · exact .inl (owned.trans lost)
  · exact kept j other found mine waits

-- A step that changes nothing that is not due keeps what is due.
theorem noticed_of {added : List Uuid} (kept : s.Due q.userId device → s'.Due q.userId device)
    (view : s'.Due q.userId device ∨ SameParts s s' device) : (feed q).Noticed s s' added device := by
  by_cases due : s'.Due q.userId device
  · exact .inl due
  · refine .inr (.inr ⟨fun before => due (kept before),?_⟩)
    exact (view.resolve_left due).view

-- A step of a session leaves the other devices as they are.
theorem others_noticed {added : List Uuid} (goes : Goes s s' id session session') (found : s.face id = some session.face)
    (apart : session.deviceId ≠ device) (parts : SameParts s s' device)
    (state : s'.hub.deviceState q.userId ⟨device⟩ = s.hub.deviceState q.userId ⟨device⟩) :
    (feed q).Noticed s s' added device := by
  refine noticed_of (due_of (parts.owned q.userId) fun j other present mine waits => ?_) (.inr parts)
  refine .inr ⟨j,other,?_,mine,?_⟩
  · rw [goes.faces]
    split
    · rename_i same
      rw [← same,found] at present
      cases present
      exact absurd mine apart
    · exact present
  · rw [state]
    exact waits

theorem plane_noticed (stocked : env.hasStore = true) (wired : Wired env s) (backed : HubStored s)
    (confirmed : s.confirms action = true) (taken : ControlPlane.Step env s action s') :
    ∃ added, s'.hub.feed = s.hub.feed ++ added ∧ ∀ device, env.owner device = q.userId →
      (feed q).Noticed s s' (announced q.userId added) device := by
  cases plane_notice stocked wired confirmed taken with
  | @still _ kept hub _ parts =>
    refine ⟨[],by rw [hub,List.append_nil],fun device mine => ?_⟩
    rcases parts device with lost | same
    · rw [mine] at lost
      exact .inl (.inl lost)
    · refine noticed_of (due_of (same.owned q.userId) fun j other present here waits => ?_) (.inr same)
      exact .inr ⟨j,other,kept j other present,here,by rw [hub]; exact waits⟩
  | @session id session found notice =>
    have here := face_of found
    have owner : session.userId = env.owner session.deviceId := wired.owned id _ (standing_of found)
    have own {device : Uuid} (mine : env.owner device = q.userId) (same : session.deviceId = device) :
        session.userId = q.userId := by rw [owner,same,mine]
    have goesDue {device : Uuid} {session' : ControlSession} (goes : Goes s s' id session session')
        (same : session.deviceId = device) (due : session'.phase.due (s'.hub.deviceState q.userId ⟨device⟩) = true) :
        s'.Due q.userId device := by
      refine .inr ⟨id,session'.face,?_,goes.device.trans same,due⟩
      rw [goes.faces,if_pos rfl]
    have silent (quiet : Unsent s s') (noticed : ∀ device, env.owner device = q.userId → (feed q).Noticed s s' [] device) :
        ∃ added, s'.hub.feed = s.hub.feed ++ added ∧ ∀ device, env.owner device = q.userId →
          (feed q).Noticed s s' (announced q.userId added) device :=
      ⟨[],by rw [quiet.feed,List.append_nil],noticed⟩
    have spoken {event : StateEvent} (sent : Sent s s' session event)
        (others : ∀ device added, session.deviceId ≠ device → (feed q).Noticed s s' added device) :
        ∃ added, s'.hub.feed = s.hub.feed ++ added ∧ ∀ device, env.owner device = q.userId →
          (feed q).Noticed s s' (announced q.userId added) device := by
      refine ⟨_,sent.feed,fun device mine => ?_⟩
      by_cases same : session.deviceId = device
      · have listed : (session.userId,event) ∈ [(session.userId,event)].filter fun entry => entry.1 = q.userId :=
          List.mem_filter.mpr ⟨List.mem_singleton.mpr rfl,decide_eq_true (own mine same)⟩
        exact .inr (.inl (List.mem_map.mpr ⟨_,listed,sent.about.trans same⟩))
      · exact others device _ same
    cases notice with
    | calm goes quiet parts _ due _ =>
      refine silent quiet fun device mine => ?_
      by_cases same : session.deviceId = device
      · refine noticed_of (due_of ((parts device).owned q.userId) fun j other present mine' waits => ?_) (.inr (parts device))
        rw [← state_same quiet.state] at waits
        by_cases self : id = j
        · rw [← self,here] at present
          cases present
          refine goesDue goes same ?_
          rw [state_same quiet.state] at waits ⊢
          unfold hubHeld at due
          rw [own mine same,same] at due
          exact due waits
        · exact .inr ⟨j,other,by rw [goes.faces,if_neg self]; exact present,mine',waits⟩
      · exact others_noticed goes here same (parts device) (state_same quiet.state _ _)
    | changed goes quiet parts _ due _ =>
      refine silent quiet fun device mine => ?_
      by_cases same : session.deviceId = device
      · exact .inl (goesDue goes same (due _))
      · exact others_noticed goes here same (parts device same) (state_same quiet.state _ _)
    | @stored session' snapshot row goes quiet parts snapshots revision newer phase =>
      refine silent quiet fun device mine => ?_
      by_cases same : session.deviceId = device
      · refine .inl (goesDue goes same ?_)
        rw [state_same quiet.state]
        rcases phase with accepting | publishing
        · rw [accepting]
          unfold Phase.due
          rw [Bool.and_eq_true]
          refine ⟨rfl,?_⟩
          cases present : s.hub.deviceState q.userId ⟨device⟩ with
          | none => rfl
          | some shown =>
            obtain ⟨old,there,below⟩ := backed.hub q.userId device shown present
            have older := newer old (same ▸ there)
            rw [Option.all_some,decide_eq_true_iff]
            omega
        · rw [publishing]
          rfl
      · exact others_noticed goes here same (parts device same) (state_same quiet.state _ _)
    | told goes sent state parts _ _ =>
      exact spoken sent fun device _ apart => others_noticed goes here apart (parts device) (state_same state _ _)
    | published _ goes sent state parts _ _ =>
      refine spoken sent fun device _ apart => others_noticed goes here apart (parts device) ?_
      rw [state_insert state,if_neg fun both => apart both.2]

-- A watcher as a reader of its account's feed.
def Watcher.reader (w : Watcher) (s : ControlPlane) :
    ChangeFeed.Reader Uuid (Option Uuid × Reading) (Option DirectoryDeviceDto) where
  unread := (w.unread s.hub).map StateEvent.deviceId
  draft := w.reading.map fun reading => (w.about,reading)
  shown := shownBy w.frames

def Watcher.Fresh (env : PlaneEnv) (s : ControlPlane) (w : Watcher) : Prop :=
  w.position ≤ (accountEvents s.hub w.query.userId).length ∧
    ∀ device, env.owner device = w.query.userId → (feed w.query).UpToDate s (w.reader s) device

-- What a reading holds of a device, and what a session shows of one, comes from
-- a manifest that the store has. A session asks without a filter.
def Progress.Known (s : ControlPlane) (device : Uuid) : Progress → Prop
  | .start => True
  | .declared _ | .entities _ _ _ _ => s.Declared device

def Reading.Known (s : ControlPlane) : Reading → Prop
  | .marking | .owners _ => True
  | .devices _ entries rest progress => (∀ entry ∈ entries, s.Declared entry.deviceId) ∧
    ∀ first, rest.head? = some first → progress.Known s first.id

structure Watcher.Known (s : ControlPlane) (w : Watcher) : Prop where
  unfiltered : w.query.filters = .unfiltered
  shown : ∀ device, (shownBy w.frames device).isSome = true → s.Declared device
  reading : ∀ reading, w.reading = some reading → reading.Known s

structure Followed (env : PlaneEnv) (s : DirectoryFeed) : Prop where
  wired : Wired env s.plane
  stored : HubStored s.plane
  fresh : ∀ (id : Uuid) (w : Watcher), s.watchers[id]? = some w → w.Fresh env s.plane
  known : ∀ (id : Uuid) (w : Watcher), s.watchers[id]? = some w → w.Known s.plane

section watchers
variable {f f' : DirectoryFeed} {w : Watcher} {now : Instant}

theorem accountEvents_append {hub hub' : LiveHub} {added : List (Uuid × StateEvent)} (feed : hub'.feed = hub.feed ++ added)
    (user : Uuid) : accountEvents hub' user =
      accountEvents hub user ++ (added.filter fun entry => entry.1 = user).map Prod.snd := by
  unfold accountEvents
  rw [feed,List.filter_append,List.map_append]

theorem unread_append {hub hub' : LiveHub} {added : List (Uuid × StateEvent)} (feed : hub'.feed = hub.feed ++ added)
    (behind : w.position ≤ (accountEvents hub w.query.userId).length) :
    (w.unread hub').map StateEvent.deviceId = (w.unread hub).map StateEvent.deviceId ++ announced w.query.userId added := by
  unfold Watcher.unread announced
  rw [accountEvents_append feed,List.drop_append_of_le_length behind,List.map_append,List.map_map]
  rfl

theorem Watcher.Fresh.noticed (fresh : w.Fresh env s) {added : List (Uuid × StateEvent)}
    (fed : s'.hub.feed = s.hub.feed ++ added)
    (noticed : ∀ device, env.owner device = w.query.userId →
      (feed w.query).Noticed s s' (announced w.query.userId added) device) : w.Fresh env s' := by
  refine ⟨?_,fun device mine => ?_⟩
  · rw [accountEvents_append fed,List.length_append]
    exact Nat.le_add_right_of_le fresh.1
  · have kept := (fresh.2 device mine).noticed (noticed device mine)
    unfold Watcher.reader
    rw [unread_append fed fresh.1]
    exact kept

theorem declared_of {manifest : DeviceManifest} (found : loadManifest s user device = some manifest) : s.Declared device := by
  unfold loadManifest StoreState.loadManifest at found
  split at found
  · unfold Declared
    rw [found]
    rfl
  · cases found

theorem Progress.Known.mono {progress : Progress} (known : progress.Known s device)
    (onward : ∀ device, s.Declared device → s'.Declared device) : progress.Known s' device := by
  cases progress with
  | start => trivial
  | declared _ => exact onward device known
  | entities _ _ _ _ => exact onward device known

theorem Reading.Known.mono {reading : Reading} (known : reading.Known s)
    (onward : ∀ device, s.Declared device → s'.Declared device) : reading.Known s' := by
  cases reading with
  | marking => trivial
  | owners _ => trivial
  | devices _ entries rest progress =>
    exact ⟨fun entry listed => onward _ (known.1 entry listed),fun first head => (known.2 first head).mono onward⟩

theorem Watcher.Known.mono (known : w.Known s) (onward : ∀ device, s.Declared device → s'.Declared device) : w.Known s' :=
  ⟨known.unfiltered,fun device shown => onward device (known.shown device shown),
    fun reading going => (known.reading reading going).mono onward⟩

-- A step of the reading goes by the manifest it loads.
theorem advance_known {reading next : Reading} {profiles : Uuid → DeviceProfile} {clock : String} (known : reading.Known s)
    (moved : reading.advance q s profiles clock = some next) : next.Known s := by
  unfold Reading.advance at moved
  split at moved
  · cases moved
    trivial
  · dsimp only at moved
    split at moved
    · cases moved
    · cases moved
      exact ⟨List.forall_mem_nil _,fun _ _ => trivial⟩
  · cases moved
    exact known
  · rename_i first rest
    split at moved
    · cases moved
      exact ⟨known.1,fun _ _ => trivial⟩
    · rename_i manifest found
      split at moved
      · cases moved
        refine ⟨known.1,fun head same => ?_⟩
        cases same
        exact declared_of found
      · cases moved
        exact ⟨known.1,fun _ _ => trivial⟩
  · cases moved
    exact ⟨known.1,fun head same => known.2 head same⟩
  · cases moved
    exact ⟨known.1,fun head same => known.2 head same⟩
  · rename_i first rest manifest snapshot read
    cases moved
    refine ⟨fun entry listed => ?_,fun _ _ => trivial⟩
    rcases List.mem_append.mp listed with before | last
    · exact known.1 entry before
    · rw [List.mem_singleton.mp last]
      exact known.2 first rfl

theorem Followed.plane (followed : Followed env f) (stocked : env.hasStore = true)
    (confirmed : f.plane.confirms action = true) (taken : ControlPlane.Step env f.plane action s') :
    Followed env {f with plane := s'} := by
  refine ⟨wired_step followed.wired taken,hubStored_step stocked followed.wired followed.stored confirmed taken,?_,?_⟩
  · intro id w found
    obtain ⟨added,fed,noticed⟩ := plane_noticed (q:=w.query) stocked followed.wired followed.stored confirmed taken
    exact (followed.fresh id w found).noticed fed noticed
  · exact fun id w found => (followed.known id w found).mono fun device declared => declared.step taken

theorem Followed.set (followed : Followed env f) (fresh : w.Fresh env f.plane) (known : w.Known f.plane) :
    Followed env (f.setWatcher id w) := by
  have either {P : Watcher → Prop} (mine : P w) (others : ∀ (other : Uuid) (seen : Watcher), f.watchers[other]? = some seen → P seen)
      (other : Uuid) (seen : Watcher) (found : (f.setWatcher id w).watchers[other]? = some seen) : P seen := by
    unfold DirectoryFeed.setWatcher at found
    rw [Table.get_insert] at found
    split at found
    · cases found
      exact mine
    · exact others other seen found
  exact ⟨followed.wired,followed.stored,either fresh followed.fresh,either known followed.known⟩

theorem Followed.erase (followed : Followed env f) : Followed env {f with watchers := f.watchers.erase id} := by
  refine ⟨followed.wired,followed.stored,fun other seen found => ?_,fun other seen found => ?_⟩
  · exact followed.fresh other seen (Table.get_erase_some found).2
  · exact followed.known other seen (Table.get_erase_some found).2

theorem Followed.opened (followed : Followed env f) : Followed env (f.opened id session) := by
  unfold DirectoryFeed.opened
  split
  · refine followed.set ⟨Nat.le_refl _,fun device mine => ?_⟩ ⟨rfl,fun device shown => ?_,fun reading going => ?_⟩
    · unfold Watcher.reader Watcher.unread
      rw [List.drop_length]
      refine .opened _ (fun about same => by cases same) fun _ => trivial
    · cases shown
    · cases going
      trivial
  · exact followed

theorem shownBy_snoc (frames : List DirectoryFrame) (frame : DirectoryFrame) :
    shownBy (frames ++ [frame]) = frame.apply (shownBy frames) := by
  unfold shownBy
  rw [List.foldl_append]
  rfl

theorem owned_of (settled : ¬ s.Due q.userId device) : s.router.store.owned q.userId ⟨device⟩ = true :=
  Bool.not_eq_false _ ▸ fun lost => settled (.inl lost)

theorem Watcher.Fresh.advance (fresh : w.Fresh env s) {reading next : Reading} {profiles : Uuid → DeviceProfile}
    {clock : String} (going : w.reading = some reading) (moved : reading.advance w.query s profiles clock = some next) :
    ({w with reading := some next} : Watcher).Fresh env s := by
  refine ⟨fresh.1,fun device mine => ?_⟩
  refine (fresh.2 device mine).read (w.about,reading) (w.about,next) ?_ Iff.rfl fun settled sound => ?_
  · unfold Watcher.reader
    rw [going,Option.map_some]
  · exact advance_sound (owned_of settled) moved sound

-- A finished reading that was about one device shows it, and only it.
theorem Watcher.Fresh.told (fresh : w.Fresh env s) {reading : Reading} {cursor : Nat} {entries : List DirectoryDeviceDto}
    {frames : List DirectoryFrame} (going : w.reading = some reading) (done : reading.finished = some (cursor,entries))
    (shows : ∀ device, ¬ s.Due w.query.userId device → (∀ about, w.about = some about → about = device) →
      (listedAs device entries).map DirectoryDeviceDto.facts = (view s w.query.userId device).facts w.query →
      shownBy (w.frames ++ frames) device = listedAs device entries)
    (others : ∀ device, ¬ (∀ about, w.about = some about → about = device) →
      shownBy (w.frames ++ frames) device = shownBy w.frames device) :
    ({w with reading := none, frames := w.frames ++ frames} : Watcher).Fresh env s := by
  refine ⟨fresh.1,fun device mine => ?_⟩
  refine (fresh.2 device mine).finish (w.about,reading) ?_ (fun settled covers sound => ?_) (others device)
  · unfold Watcher.reader
    rw [going,Option.map_some]
  · have found := finished_facts done sound
    exact (congrArg _ (shows device settled covers found)).trans found

-- What the directory does not list of the account's devices was never declared.
theorem Watcher.Known.unshown (known : w.Known s) (settled : ¬ s.Due w.query.userId device)
    (unlisted : (view s w.query.userId device).facts w.query = none) : shownBy w.frames device = none := by
  by_contra shown
  have declared : s.Declared device := known.shown device (Option.isSome_iff_ne_none.mpr shown)
  obtain ⟨manifest,found⟩ := Option.isSome_iff_exists.mp declared
  have loaded : loadManifest s w.query.userId device = some manifest := by
    unfold loadManifest StoreState.loadManifest
    rw [if_pos (owned_of settled)]
    exact found
  have matching : matchesFilters manifest w.query.filters = true := by
    rw [known.unfiltered]
    exact Bool.or_true _
  unfold DeviceView.facts view at unlisted
  rw [loaded,Option.filter_some,if_pos matching] at unlisted
  cases unlisted

-- What a finished reading lists was declared, and so is what it shows.
theorem Watcher.Known.told (known : w.Known s) {reading : Reading} {cursor : Nat} {entries : List DirectoryDeviceDto}
    {frames : List DirectoryFrame} (going : w.reading = some reading) (done : reading.finished = some (cursor,entries))
    (shows : ∀ device shown, shownBy (w.frames ++ frames) device = some shown →
      listedAs device entries = some shown ∨ shownBy w.frames device = some shown) :
    ({w with reading := none, frames := w.frames ++ frames} : Watcher).Known s := by
  refine ⟨known.unfiltered,fun device visible => ?_,fun _ going => by cases going⟩
  obtain ⟨shown,there⟩ := Option.isSome_iff_exists.mp visible
  rcases shows device shown there with listed | before
  · unfold Reading.finished at done
    split at done
    · cases done
      have declared := (known.reading _ going).1 shown (List.mem_of_find?_eq_some listed)
      rwa [listed_name listed] at declared
    · cases done
  · exact known.shown device (by rw [before]; rfl)

theorem Followed.step (followed : Followed env f) (stocked : env.hasStore = true) (confirmed : f.plane.confirms action = true)
    (taken : f.step env action = some f') : Followed env f' ∧ f'.watchers = f.watchers := by
  obtain ⟨plane,ran,rfl⟩ := Option.map_eq_some_iff.mp taken
  exact ⟨followed.plane stocked confirmed ran,rfl⟩

theorem Followed.drop (followed : Followed env f) (stocked : env.hasStore = true)
    (confirmed : f.plane.confirms (.session id now .failed) = true) (taken : f.drop env id now w = some f') :
    Followed env f' := by
  obtain ⟨after,ran,rfl⟩ := Option.map_eq_some_iff.mp taken
  have kept : Followed env after ∧ after.watchers = f.watchers := by
    refine followed.step stocked ?_ ran
    split
    · rfl
    · exact confirmed
  rw [← kept.2]
  exact kept.1.erase

theorem Followed.told (followed : Followed env f) (stocked : env.hasStore = true) (found : f.watchers[id]? = some w)
    {frames : List DirectoryFrame} (taken : f.told env id now w frames = some f')
    (shown : ∀ s, w.Fresh env s → w.Known s →
      ({w with reading := none, frames := w.frames ++ frames} : Watcher).Fresh env s ∧
        ({w with reading := none, frames := w.frames ++ frames} : Watcher).Known s) : Followed env f' := by
  obtain ⟨after,ran,rfl⟩ := Option.map_eq_some_iff.mp taken
  have kept : Followed env after ∧ after.watchers = f.watchers := by
    refine followed.step stocked ?_ ran
    split <;> rfl
  have there : after.watchers[id]? = some w := kept.2 ▸ found
  obtain ⟨fresh,known⟩ := shown _ (kept.1.fresh id w there) (kept.1.known id w there)
  exact kept.1.set fresh known

theorem watching_found (now : Instant) (found : f.watching id = some w) :
    f.watchers[id]? = some w ∧ f.plane.confirms (.session id now .failed) = true := by
  obtain ⟨session,here,watched⟩ := Option.bind_eq_some_iff.mp found
  obtain ⟨there,phase⟩ := Option.filter_eq_some_iff.mp watched
  refine ⟨there,?_⟩
  unfold ControlPlane.confirms
  dsimp only
  rw [here,Option.all_some]
  split at phase
  · rename_i listing
    rw [listing]
  · rename_i serving
    rw [serving]
  · cases phase

theorem followed_receive (followed : Followed env f) (stocked : env.hasStore = true)
    (confirmed : f.plane.confirms (.session id now .failed) = true) (found : f.watchers[id]? = some w)
    (taken : f.receive env id now w = some f') : Followed env f' := by
  unfold DirectoryFeed.receive at taken
  split at taken
  · rename_i event rest idle unread
    split at taken
    · exact followed.drop stocked confirmed taken
    · cases taken
      have fresh := followed.fresh id w found
      have known := followed.known id w found
      have further : (accountEvents f.plane.hub w.query.userId).drop (w.position + 1) = rest := by
        rw [← List.tail_drop]
        exact congrArg List.tail unread
      have within : w.position + 1 ≤ (accountEvents f.plane.hub w.query.userId).length := by
        have lengths := congrArg List.length unread
        unfold Watcher.unread at lengths
        rw [List.length_drop,List.length_cons] at lengths
        omega
      refine followed.set (w:={w with position := w.position + 1, about := some event.deviceId, reading := some .marking})
        ⟨within,fun device mine => ?_⟩ ⟨known.unfiltered,known.shown,fun reading same => by cases same; trivial⟩
      have kept := fresh.2 device mine
      have going : (w.reader f.plane).unread = event.deviceId :: rest.map StateEvent.deviceId := by
        unfold Watcher.reader
        rw [unread,List.map_cons]
      have still : (w.reader f.plane).draft = none := by
        unfold Watcher.reader
        rw [idle,Option.map_none]
      have next := kept.take (some event.deviceId,Reading.marking) going still ?_ fun _ => trivial
      · unfold Watcher.reader Watcher.unread
        dsimp only
        rw [further]
        exact next
      · constructor
        · exact fun covers => (covers _ rfl).symm
        · rintro rfl about same
          cases same
          rfl
  · cases taken

theorem followed_read (followed : Followed env f) (stocked : env.hasStore = true)
    (confirmed : f.plane.confirms (.session id now .failed) = true) (found : f.watchers[id]? = some w) {clock : String}
    {answers : Bool} (taken : f.read env id now clock answers w = some f') : Followed env f' := by
  obtain ⟨reading,going,taken⟩ := Option.bind_eq_some_iff.mp taken
  split at taken
  · cases taken
  · split at taken
    · rename_i next moved
      cases taken
      split at moved
      · cases moved
      · have known := followed.known id w found
        refine followed.set ((followed.fresh id w found).advance going moved) ⟨known.unfiltered,known.shown,fun other same => ?_⟩
        cases same
        exact advance_known (known.reading reading going) moved
    · exact followed.drop stocked confirmed taken

theorem followed_send (followed : Followed env f) (stocked : env.hasStore = true)
    (confirmed : f.plane.confirms (.session id now .failed) = true) (found : f.watchers[id]? = some w) {clock : String}
    {sent : Bool} (taken : f.send env id now clock sent w = some f') : Followed env f' := by
  unfold DirectoryFeed.send at taken
  split at taken
  · cases taken
  · rename_i cursor entries done about
    obtain ⟨reading,going,done⟩ := Option.bind_eq_some_iff.mp done
    split at taken
    · have shows (device : Uuid) : shownBy (w.frames ++ [.snapshot ⟨1,clock,max cursor 1,w.query.scopes,entries⟩]) device =
          listedAs device entries := by
        rw [shownBy_snoc]
        rfl
      refine followed.told stocked found taken fun s fresh known => ⟨fresh.told going done (fun device _ _ _ => shows device) ?_,
        known.told going done fun device shown visible => .inl ((shows device).symm.trans visible)⟩
      intro device uncovered
      refine absurd (fun other same => ?_) uncovered
      rw [about] at same
      cases same
    · exact followed.drop stocked confirmed taken
  · rename_i cursor entries device done about
    obtain ⟨reading,going,done⟩ := Option.bind_eq_some_iff.mp done
    have covered {other : Uuid} : (∀ named, w.about = some named → named = other) ↔ device = other := by
      rw [about]
      exact ⟨fun all => all device rfl,fun same named this => by cases this; exact same⟩
    split at taken
    · rename_i absent
      refine followed.told stocked found taken fun s fresh known => ⟨fresh.told going done (fun other settled covers listed => ?_) ?_,
        known.told going done fun other shown visible => .inr (by rwa [List.append_nil] at visible)⟩
      -- No frame is sent, and none was before.
      · rw [covered] at covers
        rw [← covers,absent,Option.map_none] at listed
        rw [List.append_nil,← covers,absent]
        exact known.unshown (covers ▸ settled) listed.symm
      · exact fun other _ => by rw [List.append_nil]
    · rename_i entry listed
      have name : entry.deviceId = device := listed_name listed
      have shows (other : Uuid) : shownBy (w.frames ++ [.upsert (max cursor 1) entry]) other =
          if device = other then some entry else shownBy w.frames other := by
        rw [shownBy_snoc]
        unfold DirectoryFrame.apply
        dsimp only
        rw [name]
      split at taken
      · refine followed.told stocked found taken fun s fresh known => ⟨fresh.told going done (fun other _ covers _ => ?_) ?_,
          known.told going done fun other shown visible => ?_⟩
        · rw [covered] at covers
          rw [shows,if_pos covers,← covers,listed]
        · intro other uncovered
          rw [covered] at uncovered
          rw [shows,if_neg uncovered]
        · rw [shows] at visible
          split at visible
          · rename_i same
            rw [← same,listed]
            exact .inl visible
          · exact .inr visible
      · exact followed.drop stocked confirmed taken

end watchers

def DirectoryFeed.confirms (s : DirectoryFeed) : Action → Bool
  | .plane action => s.plane.confirms action
  | _ => true

theorem followed_step {f f' : DirectoryFeed} {action : Action} (followed : Followed env f) (stocked : env.hasStore = true)
    (confirmed : f.confirms action = true) (taken : DirectoryFeed.Step env f action f') : Followed env f' := by
  unfold DirectoryFeed.Step Transition.Executes at taken
  cases action with
  | plane action =>
    rw [DirectoryFeed.execute] at taken
    split at taken
    · obtain ⟨after,ran,rfl⟩ := Option.map_eq_some_iff.mp taken
      have kept := (followed.step stocked confirmed ran).1
      split
      · rename_i id _ _ _
        cases after.plane.sessions[id]? with
        | none => exact kept
        | some session => exact kept.opened
      · exact kept
    · cases taken
  | profile device profile =>
    cases taken
    exact ⟨followed.wired,followed.stored,followed.fresh,followed.known⟩
  | receive id now =>
    obtain ⟨w,watched,ran⟩ := Option.bind_eq_some_iff.mp taken
    exact followed_receive followed stocked (watching_found now watched).2 (watching_found now watched).1 ran
  | read id now clock answers =>
    obtain ⟨w,watched,ran⟩ := Option.bind_eq_some_iff.mp taken
    exact followed_read followed stocked (watching_found now watched).2 (watching_found now watched).1 ran
  | send id now clock sent =>
    obtain ⟨w,watched,ran⟩ := Option.bind_eq_some_iff.mp taken
    exact followed_send followed stocked (watching_found now watched).2 (watching_found now watched).1 ran

-- Every session shows its account's devices as the directory has them, as soon
-- as it has nothing to read or to receive about them and nobody has anything to
-- tell of them.
def Mirrors (env : PlaneEnv) (f : DirectoryFeed) : Prop := ∀ (id : Uuid) (w : Watcher), f.watchers[id]? = some w →
  w.reading = none → ∀ device, env.owner device = w.query.userId → ¬ f.plane.Due w.query.userId device →
    (∀ event ∈ w.unread f.plane.hub, event.deviceId ≠ device) →
      (shownBy w.frames device).map DirectoryDeviceDto.facts = (view f.plane w.query.userId device).facts w.query

theorem Followed.mirrors {f : DirectoryFeed} (followed : Followed env f) : Mirrors env f := by
  intro id w found idle device mine settled seen
  have still : (w.reader f.plane).draft = none := by
    unfold Watcher.reader
    rw [idle,Option.map_none]
  refine ((followed.fresh id w found).2 device mine).idle still settled fun listed => ?_
  obtain ⟨event,there,same⟩ := List.mem_map.mp listed
  exact seen event there same

theorem sessions_mirror (stocked : env.hasStore = true) {origin f : DirectoryFeed} {actions : List Action}
    (start : DirectoryFeed.Initial origin)
    (path : Transition.Runs (Transition.Under (fun s a => s.confirms a = true) (DirectoryFeed.Step env)) origin actions f) :
    Mirrors env f := by
  have followed : Followed env origin := by
    refine ⟨initial_wired start.plane,initial_hubStored start.plane,fun id w found => ?_,fun id w found => ?_⟩
    · simp [start.watchers] at found
    · simp [start.watchers] at found
  exact (path.invariant (Followed env) followed fun _ _ _ kept taken => followed_step kept stocked taken.1 taken.2).mirrors

-- An account of two devices, a controller and one that never declared itself, in
-- a process with a store.
def stockedPlane : PlaneEnv := {ControlPlane.volatile with hasStore := true}

def household : DirectoryFeed :=
  ⟨ControlPlane.vacant.setStore ⟨[(⟨10⟩,1),(⟨11⟩,1)],[],∅,0⟩,fun _ => ⟨"Kitchen","controller",none⟩,∅⟩

theorem household_initial : DirectoryFeed.Initial household :=
  ⟨⟨⟨rfl,rfl,rfl,⟨by simp [household,ControlPlane.setStore],by simp [household,ControlPlane.setStore]⟩⟩,rfl,rfl,rfl,rfl,rfl⟩,rfl⟩

-- The registration of the controller up to the snapshot it is sent.
def registering : List ControlPlane.Action :=
  [.connect 100 1 10,.session 100 0 (.hello [1] true),.session 100 0 (.register ⟨"speaker","1",speaker⟩),
    .session 100 0 (.stored ⟨⟨"1970-01-01T00:00:00Z",0⟩,false,false⟩)] ++ List.replicate 3 (.session 100 0 .done)

def readThrough : List Action :=
  List.replicate 6 (.read 100 0 "1970-01-01T00:00:00Z" true) ++ [.send 100 0 "1970-01-01T00:00:00Z" true]

def listing : List Action := registering.map .plane ++ readThrough

theorem sessions_mirror_listing : ∃ f : DirectoryFeed, Mirrors stockedPlane f ∧
    f.plane.router.store.owned 1 ⟨10⟩ = true ∧ f.plane.router.store.owned 1 ⟨11⟩ = true ∧
    (f.watchers[(100 : Uuid)]?).any (fun w => w.reading.isNone && (shownBy w.frames 10).isSome && (shownBy w.frames 11).isNone) =
      true := by
  obtain ⟨f,path,seen⟩ := Transition.guarded_reaches DirectoryFeed.confirms (DirectoryFeed.execute stockedPlane) household
    listing (fun f => f.plane.router.store.owned 1 ⟨10⟩ && (f.plane.router.store.owned 1 ⟨11⟩ &&
      (f.watchers[(100 : Uuid)]?).any fun w =>
        w.reading.isNone && (shownBy w.frames 10).isSome && (shownBy w.frames 11).isNone)) (by decide)
  simp only [Bool.and_eq_true] at seen
  exact ⟨f,sessions_mirror rfl household_initial path,seen.1,seen.2.1,seen.2.2⟩

end Directory
end DeviceControl
