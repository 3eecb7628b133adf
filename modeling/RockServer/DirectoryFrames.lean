import RockServer.DirectoryMirror

namespace DeviceControl

-- The frames that a session is sent, over all runs: their order, their revisions
-- and whose devices they show.
namespace Directory
open ControlPlane

def DirectoryFrame.revision : DirectoryFrame → Nat
  | .snapshot directory => directory.directoryRevision
  | .upsert directoryRevision _ => directoryRevision

def DirectoryFrame.devices : DirectoryFrame → List DirectoryDeviceDto
  | .snapshot directory => directory.devices
  | .upsert _ entry => [entry]

-- A snapshot comes first and only first.
def wellOpened : List DirectoryFrame → Bool
  | .snapshot _ :: rest => rest.all fun frame => match frame with
    | .snapshot _ => false
    | .upsert _ _ => true
  | _ => false

def cursor (s : ControlPlane) (user : Uuid) : Nat := s.hub.cursors[user]?.getD 0

-- The cursor of an account counts its events.
def Counted (s : ControlPlane) : Prop := ∀ user, cursor s user = (accountEvents s.hub user).length

variable {env : PlaneEnv} {s s' : ControlPlane} {id device user : Uuid} {action : ControlPlane.Action}

theorem unconfirmed_rest (unconfirmed : s.confirms action = false) (taken : ControlPlane.Step env s action s') :
    s'.hub = s.hub ∧ s'.router.store.devices = s.router.store.devices := by
  unfold confirms at unconfirmed
  split at unconfirmed
  · rename_i id now
    obtain ⟨session,found,ran⟩ := Option.bind_eq_some_iff.mp taken
    rw [found,Option.all_some] at unconfirmed
    split at unconfirmed
    · rename_i here
      unfold ControlPlane.session at ran
      rw [here] at ran
      cases ran
      exact ⟨rfl,rfl⟩
    · cases unconfirmed
  · cases unconfirmed

-- A step adds one event of one account, with its cursor, or none.
theorem hub_step (stocked : env.hasStore = true) (wired : Wired env s) (taken : ControlPlane.Step env s action s') :
    s'.hub.feed = s.hub.feed ∧ s'.hub.cursors = s.hub.cursors ∨ ∃ owner event,
      s'.hub.feed = s.hub.feed ++ [(owner,event)] ∧ s'.hub.cursors = s.hub.cursors.insert owner (cursor s owner + 1) := by
  cases confirmed : s.confirms action with
  | false =>
    have same := (unconfirmed_rest confirmed taken).1
    exact .inl ⟨congrArg LiveHub.feed same,congrArg (fun hub => hub.cursors) same⟩
  | true =>
    cases plane_notice stocked wired confirmed taken with
    | still _ _ hub _ _ => exact .inl ⟨congrArg LiveHub.feed hub,congrArg (fun hub => hub.cursors) hub⟩
    | session found notice =>
      cases notice with
      | calm _ quiet _ _ _ _ => exact .inl ⟨quiet.feed,quiet.cursors⟩
      | changed _ quiet _ _ _ _ => exact .inl ⟨quiet.feed,quiet.cursors⟩
      | stored _ quiet _ _ _ _ _ => exact .inl ⟨quiet.feed,quiet.cursors⟩
      | told _ sent _ _ _ _ => exact .inr ⟨_,_,sent.feed,sent.cursors⟩
      | published _ _ sent _ _ _ _ => exact .inr ⟨_,_,sent.feed,sent.cursors⟩

theorem counted_step (stocked : env.hasStore = true) (wired : Wired env s) (counted : Counted s)
    (taken : ControlPlane.Step env s action s') : Counted s' ∧ ∀ user, cursor s user ≤ cursor s' user := by
  rcases hub_step stocked wired taken with ⟨feed,cursors⟩ | ⟨owner,event,feed,cursors⟩
  · have same (user : Uuid) : cursor s' user = cursor s user := by
      unfold cursor
      rw [cursors]
    refine ⟨fun user => ?_,fun user => Nat.le_of_eq (same user).symm⟩
    rw [same,counted]
    unfold accountEvents
    rw [feed]
  · have next (user : Uuid) : cursor s' user = if owner = user then cursor s owner + 1 else cursor s user := by
      unfold cursor
      rw [cursors,Table.get_insert]
      split <;> rfl
    refine ⟨fun user => ?_,fun user => ?_⟩
    · rw [next,accountEvents_append feed,List.length_append,← counted]
      by_cases mine : owner = user
      · subst mine
        simp
      · simp [mine]
    · rw [next]
      split
      · rename_i same
        rw [same]
        omega
      · omega

theorem notice_devices {session : ControlSession} (notice : Notice s s' id session) :
    s'.router.store.devices = s.router.store.devices := by
  cases notice with
  | calm goes _ _ _ _ _ => exact goes.devices
  | changed goes _ _ _ _ _ => exact goes.devices
  | stored goes _ _ _ _ _ _ => exact goes.devices
  | told goes _ _ _ _ _ => exact goes.devices
  | published _ goes _ _ _ _ _ => exact goes.devices

-- Devices are only ever taken from an account.
theorem devices_step (stocked : env.hasStore = true) (taken : ControlPlane.Step env s action s') :
    ∀ entry ∈ s'.router.store.devices, entry ∈ s.router.store.devices := by
  have same (kept : s'.router.store.devices = s.router.store.devices) : ∀ entry ∈ s'.router.store.devices,
      entry ∈ s.router.store.devices := fun entry listed => kept ▸ listed
  cases action with
  | connect id user device =>
    unfold ControlPlane.Step Transition.Executes at taken
    rw [ControlPlane.execute] at taken
    split at taken
    · cases taken
      exact same rfl
    · cases taken
  | session id now event =>
    cases confirmed : s.confirms (.session id now event) with
    | false => exact same (unconfirmed_rest confirmed taken).2
    | true =>
      obtain ⟨session,found,ran⟩ := Option.bind_eq_some_iff.mp taken
      exact same (notice_devices (session_notice ran stocked found confirmed))
  | route i o =>
    obtain ⟨task,after,next,spawned,_,ran,rfl⟩ := route_cases taken
    have kept : after.store.devices = s.router.store.devices := (advance_declared ran).1
    exact same kept
  | submit call =>
    cases taken
    exact same rfl
  | disown device =>
    cases taken
    exact fun entry listed => (List.mem_filter.mp listed).1
  | revoke user device =>
    unfold ControlPlane.Step Transition.Executes at taken
    rw [ControlPlane.execute] at taken
    split at taken
    · cases taken
    · cases taken
      rcases revoke_cases (s:=s) user device with ⟨unchanged,_⟩ | ⟨g,_,_,changed⟩
      · exact same (by rw [unchanged])
      · obtain ⟨sessions,told⟩ := notify_rest (s:=s.setRegistry (s.registry.erase device)) g.connectionId .revoked
        rw [changed,told]
        exact fun entry listed => listed
  | prune now limit =>
    cases taken
    exact same rfl

-- The cursor that a reading took: behind the hub's, and not behind what the
-- session was sent before.
structure Marks (s : ControlPlane) (w : Watcher) (mark : Nat) : Prop where
  reached : mark ≤ cursor s w.query.userId
  onward : ∀ frame ∈ w.frames, frame.revision ≤ max mark 1

variable {registered : List (DeviceId × Uuid)} {w : Watcher} {f f' : DirectoryFeed} {now : Instant}

def Reading.Proper (registered : List (DeviceId × Uuid)) (s : ControlPlane) (w : Watcher) : Reading → Prop
  | .marking => True
  | .owners mark => Marks s w mark
  | .devices mark entries rest _ => Marks s w mark ∧ entries.length + rest.length ≤ maxDirectoryDevices ∧
    (∀ entry ∈ entries, (⟨entry.deviceId⟩,w.query.userId) ∈ registered) ∧
    ∀ device ∈ rest, (⟨device.id⟩,w.query.userId) ∈ registered

-- What a session is sent: first a snapshot and then upserts, revisions that go
-- on and that the hub has reached, and its own account's devices.
structure Watcher.Proper (registered : List (DeviceId × Uuid)) (s : ControlPlane) (w : Watcher) : Prop where
  opened : w.about = none ∧ w.reading.isSome = true ∧ w.frames = [] ∨
    (w.about = none → w.reading = none) ∧ wellOpened w.frames = true
  ordered : (w.frames.map DirectoryFrame.revision).Pairwise (· ≤ ·)
  reached : ∀ frame ∈ w.frames, frame.revision ≤ max (cursor s w.query.userId) 1
  own : ∀ frame ∈ w.frames, frame.devices.length ≤ maxDirectoryDevices ∧
    ∀ entry ∈ frame.devices, (⟨entry.deviceId⟩,w.query.userId) ∈ registered
  reading : ∀ reading, w.reading = some reading → reading.Proper registered s w

theorem Marks.mono {mark : Nat} (marks : Marks s w mark) (onward : ∀ user, cursor s user ≤ cursor s' user) :
    Marks s' w mark := ⟨Nat.le_trans marks.reached (onward _),marks.onward⟩

theorem Reading.Proper.mono {reading : Reading} (proper : reading.Proper registered s w)
    (onward : ∀ user, cursor s user ≤ cursor s' user) : reading.Proper registered s' w := by
  cases reading with
  | marking => trivial
  | owners mark => exact Marks.mono proper onward
  | devices mark entries rest progress => exact ⟨proper.1.mono onward,proper.2⟩

theorem Watcher.Proper.mono (proper : w.Proper registered s) (onward : ∀ user, cursor s user ≤ cursor s' user) :
    w.Proper registered s' := by
  refine ⟨proper.opened,proper.ordered,fun frame sent => ?_,proper.own,fun reading going => ?_⟩
  · have before := proper.reached frame sent
    have later := onward w.query.userId
    omega
  · exact (proper.reading reading going).mono onward

theorem advance_proper {reading next : Reading} {profiles : Uuid → DeviceProfile} {clock : String}
    (known : ∀ entry ∈ s.router.store.devices, entry ∈ registered)
    (reached : ∀ frame ∈ w.frames, frame.revision ≤ max (cursor s w.query.userId) 1)
    (proper : reading.Proper registered s w) (moved : reading.advance w.query s profiles clock = some next) :
    next.Proper registered s w := by
  unfold Reading.advance at moved
  split at moved
  · cases moved
    exact ⟨Nat.le_refl _,reached⟩
  · dsimp only at moved
    split at moved
    · cases moved
    · rename_i few
      cases moved
      refine ⟨proper,by simpa using few,List.forall_mem_nil _,fun device listed => ?_⟩
      unfold listOwnedDevices at listed
      obtain ⟨entry,owned,rfl⟩ := List.mem_map.mp listed
      obtain ⟨there,mine⟩ := List.mem_filter.mp owned
      have same : entry.2 = w.query.userId := of_decide_eq_true mine
      rw [← same]
      exact known entry there
  · cases moved
    exact proper
  · rename_i mark entries first rest
    obtain ⟨marks,few,shown,left⟩ := proper
    rw [List.length_cons] at few
    have skipped : (Reading.devices mark entries rest .start).Proper registered s w :=
      ⟨marks,by omega,shown,fun device listed => left device (List.mem_cons_of_mem _ listed)⟩
    split at moved
    · cases moved
      exact skipped
    · split at moved
      · cases moved
        exact ⟨marks,few,shown,left⟩
      · cases moved
        exact skipped
  · cases moved
    exact proper
  · cases moved
    exact proper
  · rename_i mark entries first rest manifest snapshot read
    obtain ⟨marks,few,shown,left⟩ := proper
    cases moved
    rw [List.length_cons] at few
    refine ⟨marks,?_,fun entry listed => ?_,fun device listed => left device (List.mem_cons_of_mem _ listed)⟩
    · rw [List.length_append,List.length_singleton]
      omega
    · rcases List.mem_append.mp listed with before | last
      · exact shown entry before
      · rw [List.mem_singleton.mp last]
        exact left first List.mem_cons_self

theorem wellOpened_snoc {frames : List DirectoryFrame} {revision : Nat} {entry : DirectoryDeviceDto}
    (opened : wellOpened frames = true) : wellOpened (frames ++ [.upsert revision entry]) = true := by
  unfold wellOpened at opened ⊢
  cases frames with
  | nil => cases opened
  | cons first rest =>
    cases first with
    | snapshot directory =>
      rw [List.cons_append]
      simp only [List.all_append,Bool.and_eq_true]
      exact ⟨opened,rfl⟩
    | upsert _ _ => cases opened

-- One more frame, after a finished reading.
theorem Watcher.Proper.sent (proper : w.Proper registered s) {reading : Reading} {mark : Nat}
    {entries : List DirectoryDeviceDto} {frame : DirectoryFrame} (going : w.reading = some reading)
    (done : reading.finished = some (mark,entries)) (revision : frame.revision = max mark 1)
    (devices : frame.devices.length ≤ max entries.length 1 ∧ ∀ entry ∈ frame.devices, entry ∈ entries)
    (opened : wellOpened (w.frames ++ [frame]) = true) :
    ({w with reading := none, frames := w.frames ++ [frame]} : Watcher).Proper registered s := by
  have held := proper.reading reading going
  unfold Reading.finished at done
  split at done
  · cases done
    obtain ⟨marks,few,shown,_⟩ := held
    rw [List.length_nil,Nat.add_zero] at few
    refine ⟨.inr ⟨fun _ => rfl,opened⟩,?_,fun other listed => ?_,fun other listed => ?_,fun _ same => by cases same⟩
    · rw [List.map_append,List.pairwise_append]
      refine ⟨proper.ordered,List.pairwise_singleton _ _,fun before listed after last => ?_⟩
      obtain ⟨earlier,there,rfl⟩ := List.mem_map.mp listed
      obtain ⟨later,here,rfl⟩ := List.mem_map.mp last
      rw [List.mem_singleton.mp here,revision]
      exact marks.onward earlier there
    · rcases List.mem_append.mp listed with before | last
      · exact proper.reached other before
      · rw [List.mem_singleton.mp last,revision]
        have reached := marks.reached
        dsimp only
        omega
    · rcases List.mem_append.mp listed with before | last
      · exact proper.own other before
      · rw [List.mem_singleton.mp last]
        refine ⟨Nat.le_trans devices.1 ?_,fun entry there => shown entry (devices.2 entry there)⟩
        unfold maxDirectoryDevices at few ⊢
        omega
  · cases done

structure Framed (registered : List (DeviceId × Uuid)) (env : PlaneEnv) (f : DirectoryFeed) : Prop where
  wired : Wired env f.plane
  counted : Counted f.plane
  known : ∀ entry ∈ f.plane.router.store.devices, entry ∈ registered
  proper : ∀ (id : Uuid) (w : Watcher), f.watchers[id]? = some w → w.Proper registered f.plane

theorem Framed.step (framed : Framed registered env f) (stocked : env.hasStore = true)
    (taken : f.step env action = some f') : Framed registered env f' ∧ f'.watchers = f.watchers := by
  obtain ⟨plane,ran,rfl⟩ := Option.map_eq_some_iff.mp taken
  obtain ⟨counted,onward⟩ := counted_step stocked framed.wired framed.counted ran
  refine ⟨⟨wired_step framed.wired ran,counted,fun entry listed => framed.known entry (devices_step stocked ran entry listed),?_⟩,rfl⟩
  exact fun id w found => (framed.proper id w found).mono onward

theorem Framed.set (framed : Framed registered env f) (proper : w.Proper registered f.plane) :
    Framed registered env (f.setWatcher id w) := by
  refine ⟨framed.wired,framed.counted,framed.known,fun other seen found => ?_⟩
  unfold DirectoryFeed.setWatcher at found
  rw [Table.get_insert] at found
  split at found
  · cases found
    exact proper
  · exact framed.proper other seen found

theorem Framed.drop (framed : Framed registered env f) (stocked : env.hasStore = true)
    (taken : f.drop env id now w = some f') : Framed registered env f' := by
  obtain ⟨after,ran,rfl⟩ := Option.map_eq_some_iff.mp taken
  obtain ⟨kept,same⟩ := framed.step stocked ran
  rw [← same]
  exact ⟨kept.wired,kept.counted,kept.known,fun other seen found => kept.proper other seen (Table.get_erase_some found).2⟩

theorem Framed.told (framed : Framed registered env f) (stocked : env.hasStore = true) (found : f.watchers[id]? = some w)
    {frames : List DirectoryFrame} (taken : f.told env id now w frames = some f')
    (proper : ∀ s, w.Proper registered s → ({w with reading := none, frames := w.frames ++ frames} : Watcher).Proper registered s) :
    Framed registered env f' := by
  obtain ⟨after,ran,rfl⟩ := Option.map_eq_some_iff.mp taken
  obtain ⟨kept,same⟩ := framed.step stocked ran
  exact kept.set (proper _ (kept.proper id w (same ▸ found)))

theorem framed_receive (framed : Framed registered env f) (stocked : env.hasStore = true)
    (found : f.watchers[id]? = some w) (taken : f.receive env id now w = some f') : Framed registered env f' := by
  unfold DirectoryFeed.receive at taken
  split at taken
  · rename_i event rest idle unread
    split at taken
    · exact framed.drop stocked taken
    · cases taken
      obtain ⟨opened,ordered,reached,own,_⟩ := framed.proper id w found
      refine framed.set ⟨.inr ⟨?_,?_⟩,ordered,reached,own,?_⟩
      · intro same
        cases same
      · rcases opened with ⟨_,going,_⟩ | ⟨_,shape⟩
        · rw [idle] at going
          cases going
        · exact shape
      · intro reading same
        cases same
        trivial
  · cases taken

theorem framed_read (framed : Framed registered env f) (stocked : env.hasStore = true) (found : f.watchers[id]? = some w)
    {clock : String} {answers : Bool} (taken : f.read env id now clock answers w = some f') : Framed registered env f' := by
  obtain ⟨reading,going,taken⟩ := Option.bind_eq_some_iff.mp taken
  split at taken
  · cases taken
  · split at taken
    · rename_i next moved
      cases taken
      split at moved
      · cases moved
      · obtain ⟨opened,ordered,reached,own,proper⟩ := framed.proper id w found
        have onward := advance_proper framed.known reached (proper reading going) moved
        refine framed.set ⟨?_,ordered,reached,own,fun other same => ?_⟩
        · rcases opened with ⟨about,_,frames⟩ | ⟨idle,shape⟩
          · exact .inl ⟨about,rfl,frames⟩
          · refine .inr ⟨fun about => ?_,shape⟩
            have still := idle about
            rw [going] at still
            cases still
        · cases same
          cases next with
          | marking => trivial
          | owners mark => exact ⟨onward.reached,onward.onward⟩
          | devices mark entries rest progress => exact ⟨⟨onward.1.reached,onward.1.onward⟩,onward.2⟩
    · exact framed.drop stocked taken

theorem framed_send (framed : Framed registered env f) (stocked : env.hasStore = true) (found : f.watchers[id]? = some w)
    {clock : String} {sent : Bool} (taken : f.send env id now clock sent w = some f') : Framed registered env f' := by
  unfold DirectoryFeed.send at taken
  split at taken
  · cases taken
  · rename_i mark entries done about
    obtain ⟨reading,going,done⟩ := Option.bind_eq_some_iff.mp done
    split at taken
    · refine framed.told stocked found taken fun s proper => proper.sent going done rfl ?_ ?_
      · exact ⟨Nat.le_max_left _ _,fun entry listed => listed⟩
      · rcases proper.opened with ⟨_,_,none⟩ | ⟨idle,_⟩
        · rw [none]
          rfl
        · have still := idle about
          rw [going] at still
          cases still
    · exact framed.drop stocked taken
  · rename_i mark entries device done about
    obtain ⟨reading,going,done⟩ := Option.bind_eq_some_iff.mp done
    have opened {s : ControlPlane} (proper : w.Proper registered s) : wellOpened w.frames = true := by
      rcases proper.opened with ⟨missing,_⟩ | ⟨_,shape⟩
      · rw [about] at missing
        cases missing
      · exact shape
    split at taken
    · refine framed.told stocked found taken fun s proper => ?_
      rw [List.append_nil]
      exact ⟨.inr ⟨fun _ => rfl,opened proper⟩,proper.ordered,proper.reached,proper.own,fun _ same => by cases same⟩
    · rename_i entry listed
      split at taken
      · refine framed.told stocked found taken fun s proper => proper.sent going done rfl ?_ (wellOpened_snoc (opened proper))
        refine ⟨Nat.le_max_right _ _,fun other there => ?_⟩
        rw [List.mem_singleton.mp there]
        exact List.mem_of_find?_eq_some listed
      · exact framed.drop stocked taken

theorem watching_watcher (found : f.watching id = some w) : f.watchers[id]? = some w :=
  (watching_found 0 found).1

theorem framed_step {action : Action} (framed : Framed registered env f) (stocked : env.hasStore = true)
    (taken : DirectoryFeed.Step env f action f') : Framed registered env f' := by
  unfold DirectoryFeed.Step Transition.Executes at taken
  cases action with
  | plane action =>
    rw [DirectoryFeed.execute] at taken
    split at taken
    · obtain ⟨after,ran,rfl⟩ := Option.map_eq_some_iff.mp taken
      have kept := (framed.step stocked ran).1
      split
      · rename_i id _ _ _
        cases after.plane.sessions[id]? with
        | none => exact kept
        | some session =>
          rw [Option.elim_some]
          unfold DirectoryFeed.opened
          split
          · refine kept.set ⟨.inl ⟨rfl,rfl,rfl⟩,.nil,?_,?_,?_⟩
            · exact List.forall_mem_nil _
            · exact List.forall_mem_nil _
            · intro reading same
              cases same
              trivial
          · exact kept
      · exact kept
    · cases taken
  | profile device profile =>
    cases taken
    exact ⟨framed.wired,framed.counted,framed.known,framed.proper⟩
  | receive id now =>
    obtain ⟨w,watched,ran⟩ := Option.bind_eq_some_iff.mp taken
    exact framed_receive framed stocked (watching_watcher watched) ran
  | read id now clock answers =>
    obtain ⟨w,watched,ran⟩ := Option.bind_eq_some_iff.mp taken
    exact framed_read framed stocked (watching_watcher watched) ran
  | send id now clock sent =>
    obtain ⟨w,watched,ran⟩ := Option.bind_eq_some_iff.mp taken
    exact framed_send framed stocked (watching_watcher watched) ran

-- The frames of a session: a snapshot, then upserts; revisions that never go
-- back and never pass the number of the account's events, which counts as one
-- before the first; and no more devices than the directory takes, all of them
-- the account's.
structure Orderly (registered : List (DeviceId × Uuid)) (s : ControlPlane) (user : Uuid) (frames : List DirectoryFrame) :
    Prop where
  opened : frames = [] ∨ wellOpened frames = true
  ordered : (frames.map DirectoryFrame.revision).Pairwise (· ≤ ·)
  reached : ∀ frame ∈ frames, frame.revision ≤ max (accountEvents s.hub user).length 1
  few : ∀ frame ∈ frames, frame.devices.length ≤ maxDirectoryDevices
  own : ∀ frame ∈ frames, ∀ entry ∈ frame.devices, (⟨entry.deviceId⟩,user) ∈ registered

theorem frames_orderly (stocked : env.hasStore = true) {origin f : DirectoryFeed} {actions : List Action}
    (start : DirectoryFeed.Initial origin) (path : DirectoryFeed.Runs env origin actions f) {id : Uuid} {w : Watcher}
    (found : f.watchers[id]? = some w) :
    Orderly origin.plane.router.store.devices f.plane w.query.userId w.frames := by
  have framed : Framed origin.plane.router.store.devices env origin := by
    refine ⟨initial_wired start.plane,fun user => ?_,fun entry listed => listed,fun id w found => ?_⟩
    · simp [cursor,accountEvents,start.plane.hub,LiveHub.empty,StateHub.empty]
    · simp [start.watchers] at found
  have kept := path.invariant (Framed origin.plane.router.store.devices env) framed fun _ _ _ framed taken =>
    framed_step framed stocked taken
  obtain ⟨opened,ordered,reached,own,_⟩ := kept.proper id w found
  refine ⟨?_,ordered,fun frame sent => ?_,fun frame sent => (own frame sent).1,fun frame sent => (own frame sent).2⟩
  · rcases opened with ⟨_,_,none⟩ | ⟨_,shape⟩
    · exact .inl none
    · exact .inr shape
  · rw [← kept.counted]
    exact reached frame sent

-- The controller declares itself again, and is told so.
def redeclaring : List ControlPlane.Action :=
  [.session 100 0 (.frame (.manifest speaker)),.session 100 0 (.stored ⟨⟨"1970-01-01T00:00:01Z",1⟩,false,false⟩),
    .session 100 0 .done,.session 100 0 .done]

theorem frames_orderly_redeclared : ∃ (f : DirectoryFeed) (w : Watcher), f.watchers[(100 : Uuid)]? = some w ∧
    w.frames.map DirectoryFrame.revision = [2,3] ∧ wellOpened w.frames = true ∧
    Orderly household.plane.router.store.devices f.plane w.query.userId w.frames := by
  obtain ⟨f,path,seen⟩ := Transition.run_reaches (DirectoryFeed.execute stockedPlane) household
    (listing ++ redeclaring.map .plane ++ [.receive 100 0] ++ readThrough)
    (fun f => (f.watchers[(100 : Uuid)]?).any fun w => w.frames.map DirectoryFrame.revision = [2,3] && wellOpened w.frames)
    (by decide)
  obtain ⟨w,found,sent⟩ := (Option.any_eq_true _ _).mp seen
  simp only [Bool.and_eq_true,decide_eq_true_iff] at sent
  exact ⟨f,w,found,sent.1,sent.2,frames_orderly rfl household_initial path found⟩

end Directory
end DeviceControl
