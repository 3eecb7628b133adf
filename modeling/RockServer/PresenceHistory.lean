import RockServer.PresenceRegistry

namespace DeviceControl

-- A history read back as the table of the generations it leaves online.
def applyEvent (generations : Table Uuid Uuid) (event : PresenceEvent) : Table Uuid Uuid :=
  if event.isOnline then generations.insert event.deviceId event.connectionId
  else if generations[event.deviceId]? = some event.connectionId then generations.erase event.deviceId
  else generations

def replay (events : List PresenceEvent) : Table Uuid Uuid := events.foldl applyEvent ∅

def onlineOf (connection : Uuid) (event : PresenceEvent) : Bool :=
  event.isOnline && event.connectionId = connection
def offlineOf (connection : Uuid) (event : PresenceEvent) : Bool :=
  !event.isOnline && event.connectionId = connection

theorem replay_snoc (events : List PresenceEvent) (event : PresenceEvent) :
    replay (events ++ [event]) = applyEvent (replay events) event := by
  unfold replay
  rw [List.foldl_append,List.foldl_cons,List.foldl_nil]

-- Every generation goes online once and under the owner of its device, and only
-- the generation that is online may go offline.
inductive Orderly (owner : Uuid → Uuid) : List PresenceEvent → Prop where
  | nil : Orderly owner []
  | arrives {earlier event} : Orderly owner earlier → event.isOnline = true → event.userId = owner event.deviceId →
      (∀ other ∈ earlier, other.connectionId ≠ event.connectionId) → Orderly owner (earlier ++ [event])
  | leaves {earlier event} : Orderly owner earlier → event.isOnline = false → event.userId = owner event.deviceId →
      (replay earlier)[event.deviceId]? = some event.connectionId → Orderly owner (earlier ++ [event])

section histories
variable {owner : Uuid → Uuid} {history older newer : List PresenceEvent} {event : PresenceEvent}
  {device connection : Uuid}

-- What is online after an event of its device: the generation the event
-- brought, or else what was online before.
theorem applyEvent_get {generations : Table Uuid Uuid}
    (found : (applyEvent generations event)[device]? = some connection) :
    event.isOnline = true ∧ event.deviceId = device ∧ event.connectionId = connection ∨
    generations[device]? = some connection ∧ (event.isOnline = true → event.deviceId ≠ device) ∧
      (event.isOnline = false → generations[event.deviceId]? = some event.connectionId → event.deviceId ≠ device) := by
  unfold applyEvent at found
  split at found
  · rename_i arrives
    rw [Table.get_insert] at found
    split at found
    · rename_i same
      exact .inl ⟨arrives,same,Option.some.inj found⟩
    · rename_i different
      exact .inr ⟨found,fun _ => different,fun left => by rw [arrives] at left; cases left⟩
  · rename_i leaves
    split at found
    · obtain ⟨different,found⟩ := Table.get_erase_some found
      exact .inr ⟨found,fun arrives => absurd arrives leaves,fun _ _ => different⟩
    · rename_i other
      exact .inr ⟨found,fun arrives => absurd arrives leaves,fun _ same => absurd same other⟩

theorem replay_origin (found : (replay history)[device]? = some connection) :
    ∃ event ∈ history, event.isOnline = true ∧ event.deviceId = device ∧ event.connectionId = connection := by
  induction history using List.reverseRecOn with
  | nil => simp [replay] at found
  | append_singleton earlier event ih =>
    rw [replay_snoc] at found
    rcases applyEvent_get found with arrived | ⟨before,_⟩
    · exact ⟨event,by simp,arrived⟩
    · obtain ⟨origin,member,facts⟩ := ih before
      exact ⟨origin,List.mem_append_left _ member,facts⟩

-- After a device came online its generation is the one that came, or one that
-- came later still.
theorem replay_since (arrived : event.isOnline = true)
    (found : (replay (older ++ event :: newer))[event.deviceId]? = some connection) :
    ∃ origin ∈ event :: newer, origin.isOnline = true ∧ origin.connectionId = connection := by
  induction newer using List.reverseRecOn with
  | nil =>
    rw [replay_snoc] at found
    rcases applyEvent_get found with came | ⟨_,apart,_⟩
    · exact ⟨event,List.mem_singleton_self _,arrived,came.2.2⟩
    · exact absurd rfl (apart arrived)
  | append_singleton newer last ih =>
    rw [← List.cons_append,← List.append_assoc,replay_snoc] at found
    rcases applyEvent_get found with came | ⟨before,_⟩
    · exact ⟨last,by simp,came.1,came.2.2⟩
    · obtain ⟨origin,member,facts⟩ := ih before
      exact ⟨origin,List.mem_append_left _ member,facts⟩

namespace Orderly

theorem owned (orderly : Orderly owner history) (member : event ∈ history) : event.userId = owner event.deviceId := by
  induction orderly with
  | nil => cases member
  | arrives _ _ owned _ ih | leaves _ _ owned _ ih =>
    rcases List.mem_append.mp member with earlier | last
    · exact ih earlier
    · rw [List.mem_singleton.mp last]
      exact owned

theorem fresh (orderly : Orderly owner history) (split : history = older ++ event :: newer)
    (arrived : event.isOnline = true) : ∀ other ∈ older, other.connectionId ≠ event.connectionId := by
  induction orderly generalizing newer with
  | nil => simp at split
  | @arrives earlier last _ _ _ fresh ih | @leaves earlier last _ left _ fresh ih =>
    rcases List.eq_nil_or_concat newer with rfl | ⟨rest,final,rfl⟩
    · obtain ⟨rfl,same⟩ := List.append_inj' split rfl
      cases same
      first
      | exact fresh
      | rw [left] at arrived; cases arrived
    · rw [List.concat_eq_append,← List.cons_append,← List.append_assoc] at split
      exact ih (List.append_inj' split rfl).1

-- One generation belongs to one device.
theorem together_snoc {earlier : List PresenceEvent} {last : PresenceEvent}
    (within : ∀ e ∈ earlier, ∀ e' ∈ earlier, e.connectionId = e'.connectionId → e.deviceId = e'.deviceId)
    (final : ∀ e ∈ earlier, e.connectionId = last.connectionId → e.deviceId = last.deviceId) :
    ∀ e ∈ earlier ++ [last], ∀ e' ∈ earlier ++ [last], e.connectionId = e'.connectionId → e.deviceId = e'.deviceId := by
  intro e member e' member' same
  rcases List.mem_append.mp member with inside | isLast
  · rcases List.mem_append.mp member' with inside' | isLast'
    · exact within e inside e' inside' same
    · rw [List.mem_singleton.mp isLast'] at same ⊢
      exact final e inside same
  · rw [List.mem_singleton.mp isLast] at same ⊢
    rcases List.mem_append.mp member' with inside' | isLast'
    · exact (final e' inside' same.symm).symm
    · rw [List.mem_singleton.mp isLast']

theorem one_device (orderly : Orderly owner history) :
    ∀ e ∈ history, ∀ e' ∈ history, e.connectionId = e'.connectionId → e.deviceId = e'.deviceId := by
  induction orderly with
  | nil => simp
  | arrives _ _ _ fresh ih => exact together_snoc ih fun e member same => absurd same (fresh e member)
  | leaves _ _ _ online ih =>
    refine together_snoc ih fun e member same => ?_
    obtain ⟨origin,inside,_,place,name⟩ := replay_origin online
    exact (ih e member origin inside (same.trans name.symm)).trans place

theorem online_once (orderly : Orderly owner history) (connection : Uuid) :
    history.countP (onlineOf connection) ≤ 1 := by
  induction orderly with
  | nil => simp
  | @arrives earlier event _ _ _ fresh ih =>
    rw [List.countP_append,List.countP_singleton]
    by_cases same : event.connectionId = connection
    · have none : earlier.countP (onlineOf connection) = 0 := by
        rw [List.countP_eq_zero]
        intro other member
        simp [onlineOf,← same,fresh other member]
      rw [none]
      split <;> omega
    · simpa [onlineOf,same] using ih
  | leaves _ left _ _ ih => simpa [List.countP_append,List.countP_singleton,onlineOf,left] using ih

-- A generation that is online has not gone offline.
theorem offline_open (orderly : Orderly owner history) (found : (replay history)[device]? = some connection) :
    history.countP (offlineOf connection) = 0 := by
  induction orderly with
  | nil => simp
  | @arrives earlier event _ arrived _ fresh ih =>
    have skipped : offlineOf connection event = false := by simp [offlineOf,arrived]
    rw [List.countP_append,List.countP_singleton,skipped]
    rw [replay_snoc] at found
    rcases applyEvent_get found with came | ⟨before,_⟩
    · have none : earlier.countP (offlineOf connection) = 0 := by
        rw [List.countP_eq_zero]
        intro other member
        simp [offlineOf,← came.2.2,fresh other member]
      simp [none]
    · simpa using ih before
  | @leaves earlier event orderly left _ online ih =>
    rw [replay_snoc] at found
    rcases applyEvent_get found with came | ⟨before,_,apart⟩
    · rw [left] at came
      cases came.1
    · have other : event.connectionId ≠ connection := by
        intro same
        obtain ⟨one,inside,_,place,name⟩ := replay_origin online
        obtain ⟨two,inside',_,place',name'⟩ := replay_origin before
        have together := orderly.one_device _ inside _ inside' (name.trans (same.trans name'.symm))
        exact apart left online (place.symm.trans (together.trans place'))
      rw [List.countP_append,List.countP_singleton,ih before]
      simp [offlineOf,other]

theorem offline_once (orderly : Orderly owner history) (connection : Uuid) :
    history.countP (offlineOf connection) ≤ 1 := by
  induction orderly with
  | nil => simp
  | arrives _ arrived _ _ ih => simpa [List.countP_append,List.countP_singleton,offlineOf,arrived] using ih
  | @leaves earlier event orderly _ _ online ih =>
    rw [List.countP_append,List.countP_singleton]
    by_cases same : event.connectionId = connection
    · rw [orderly.offline_open (same ▸ online)]
      split <;> omega
    · simpa [offlineOf,same] using ih

-- Once a newer generation of the device came online, an older one is never
-- heard of again.
theorem replaced (orderly : Orderly owner history) (split : history = older ++ event :: newer)
    (arrived : event.isOnline = true) {former later : PresenceEvent} (earlier : former ∈ older)
    (place : former.deviceId = event.deviceId) (after : later ∈ newer) :
    later.connectionId ≠ former.connectionId := by
  induction orderly generalizing newer with
  | nil => simp at split
  | @arrives before last orderly here owned fresh ih | @leaves before last orderly here owned fresh ih =>
    rcases List.eq_nil_or_concat newer with rfl | ⟨rest,final,rfl⟩
    · cases after
    rw [List.concat_eq_append,← List.cons_append,← List.append_assoc] at split
    obtain ⟨rfl,same⟩ := List.append_inj' split rfl
    cases same
    rw [List.concat_eq_append] at after
    rcases List.mem_append.mp after with inside | final
    · exact ih rfl inside
    have member : former ∈ older ++ event :: rest := List.mem_append_left _ earlier
    rw [List.mem_singleton.mp final]
    first
    | exact fun same => fresh former member same.symm
    | intro same
      obtain ⟨origin,inside,_,device,name⟩ := replay_origin fresh
      have together := orderly.one_device _ inside _ member (name.trans same)
      rw [device.symm.trans (together.trans place)] at fresh
      obtain ⟨comer,listed,came,named⟩ := replay_since arrived fresh
      obtain ⟨front,back,cut⟩ := List.append_of_mem listed
      have regrouped : older ++ event :: rest = (older ++ front) ++ comer :: back := by rw [cut,List.append_assoc]
      exact orderly.fresh regrouped came former (List.mem_append_left _ earlier) (same.symm.trans named.symm)

end Orderly

theorem applyEvent_other {generations : Table Uuid Uuid} (different : event.deviceId ≠ device) :
    (applyEvent generations event)[device]? = generations[device]? := by
  unfold applyEvent
  split
  · rw [Table.get_insert,if_neg different]
  · split
    · rw [Table.get_erase,if_neg different]
    · rfl

theorem applyEvent_congr {generations others : Table Uuid Uuid}
    (same : generations[event.deviceId]? = others[event.deviceId]?) :
    (applyEvent generations event)[event.deviceId]? = (applyEvent others event)[event.deviceId]? := by
  unfold applyEvent
  rw [same]
  split
  · rw [Table.get_insert,Table.get_insert,if_pos rfl,if_pos rfl]
  · split
    · rw [Table.get_erase,Table.get_erase,if_pos rfl,if_pos rfl]
    · exact same

-- One user's part of a history reads back as that user's devices.
theorem replay_filter (orderly : Orderly owner history) {user : Uuid} (mine : owner device = user) :
    (replay (history.filter fun event => event.userId = user))[device]? = (replay history)[device]? := by
  induction orderly with
  | nil => rfl
  | @arrives earlier event _ _ owned _ ih | @leaves earlier event _ _ owned _ ih =>
    rw [List.filter_append,List.filter_singleton,replay_snoc]
    by_cases here : event.deviceId = device
    · subst here
      simp only [owned,mine,decide_true,cond_true,replay_snoc]
      exact applyEvent_congr ih
    · rw [applyEvent_other here,← ih]
      cases decide (event.userId = user) with
      | true => rw [cond_true,replay_snoc,applyEvent_other here]
      | false => rw [cond_false,List.append_nil]

theorem replay_foreign {user : Uuid} (other : owner device ≠ user) (orderly : Orderly owner history) :
    (replay (history.filter fun event => event.userId = user))[device]? = none := by
  cases found : (replay (history.filter fun event => event.userId = user))[device]? with
  | none => rfl
  | some connection =>
    obtain ⟨event,member,_,place,_⟩ := replay_origin found
    obtain ⟨inside,mine⟩ := List.mem_filter.mp member
    refine absurd ?_ other
    rw [← place,← orderly.owned inside]
    exact of_decide_eq_true mine

end histories

inductive RegistryCall where
  | register (registration : ConnectionRegistration) (now : Instant)
  | updateManifest (device connection : Uuid) (manifest : DeviceManifest)
  | heartbeat (device connection : Uuid) (now : Instant)
  | sendTo (receiver : Address) (frame : OutboundFrame)
  | disconnect (device connection : Uuid) (reason : DisconnectReason)
  | revoke (user device : Uuid)

namespace RegistryState

def perform (s : RegistryState) : RegistryCall → RegistryState × Bool
  | .register registration now => ((s.register registration now).1,true)
  | .updateManifest device connection manifest => s.updateManifest device connection manifest
  | .heartbeat device connection now => s.heartbeat device connection now
  | .sendTo receiver frame => s.sendTo receiver frame
  | .disconnect device connection reason => s.disconnect device connection reason
  | .revoke user device => s.revoke user device

-- Whether a call names the active generation of its device, under its owner
-- where the call gives one.
def names (s : RegistryState) : RegistryCall → Bool
  | .register _ _ => true
  | .updateManifest device connection _ | .heartbeat device connection _ | .disconnect device connection _ =>
    (s.generation device connection).isSome
  | .sendTo receiver _ => (s.generation receiver.deviceId receiver.connectionId).any fun live =>
    live.userId = receiver.userId
  | .revoke user device => (s.active[device]?).any fun live => live.userId = user

-- Connection ids are fresh and a device is registered under one owner; any
-- other call may come at any time, with any arguments.
def admits (owner : Uuid → Uuid) (s : RegistryState) : RegistryCall → Bool
  | .register registration _ => registration.userId = owner registration.deviceId &&
    s.history.all fun event => event.connectionId ≠ registration.connectionId
  | _ => true

def execute (owner : Uuid → Uuid) (s : RegistryState) (call : RegistryCall) : Option RegistryState :=
  if s.admits owner call then some (s.perform call).1 else none

-- Everything one call can do.
inductive Moves (owner : Uuid → Uuid) (s : RegistryState) : RegistryState → Prop where
  | still : Moves owner s s
  | refreshed {device live live'} : s.active[device]? = some live → live'.userId = live.userId →
      live'.connectionId = live.connectionId → Moves owner s {s with active := s.active.insert device live'}
  | arrived {registration : ConnectionRegistration} {now} : registration.userId = owner registration.deviceId →
      (∀ event ∈ s.history, event.connectionId ≠ registration.connectionId) →
      Moves owner s (s.register registration now).1
  | left {device} {live : LiveConnection} {reason} : s.active[device]? = some live →
      Moves owner s ({s with active := s.active.erase device}.pushEvent
        ⟨live.userId,device,live.connectionId,false,live.lastSeen,some reason⟩)

-- The event log and the live map tell one story.
structure Consistent (owner : Uuid → Uuid) (s : RegistryState) : Prop where
  orderly : Orderly owner s.history
  replayed : ∀ device : Uuid, (replay s.history)[device]? = (s.active[device]?).map fun live => live.connectionId
  owned : ∀ (device : Uuid) (live : LiveConnection), s.active[device]? = some live → live.userId = owner device
  logged : ∀ user, s.eventsFor user = BoundedLog.recent userEventCapacity
    (s.history.filter fun event => event.userId = user)

variable {owner : Uuid → Uuid} {s s' : RegistryState} {call : RegistryCall} {device connection : Uuid}
  {live : LiveConnection}

theorem generation_some : s.generation device connection = some live ↔
    s.active[device]? = some live ∧ live.connectionId = connection := by
  unfold generation
  rw [Option.filter_eq_some_iff,decide_eq_true_iff]

theorem execute_moves (taken : execute owner s call = some s') : Moves owner s s' := by
  unfold execute at taken
  split at taken
  · rename_i admitted
    cases taken
    cases call with
    | register registration now =>
      obtain ⟨owned,fresh⟩ := (Bool.and_eq_true _ _).mp admitted
      refine .arrived (of_decide_eq_true owned) fun event member => ?_
      exact of_decide_eq_true (List.all_eq_true.mp fresh event member)
    | updateManifest device connection manifest =>
      simp only [perform,updateManifest]
      split
      · exact .still
      · rename_i live found
        exact .refreshed (generation_some.mp found).1 rfl rfl
    | heartbeat device connection now =>
      simp only [perform,heartbeat]
      split
      · exact .still
      · rename_i live found
        exact .refreshed (generation_some.mp found).1 rfl rfl
    | sendTo receiver frame =>
      simp only [perform,sendTo]
      split
      · exact .still
      · rename_i live found
        exact .refreshed (Option.filter_eq_some_iff.mp found).1 rfl rfl
    | disconnect device connection reason =>
      simp only [perform,disconnect]
      split
      · exact .still
      · rename_i live found
        obtain ⟨here,rfl⟩ := generation_some.mp found
        exact .left here
    | revoke user device =>
      simp only [perform,revoke]
      split
      · exact .still
      · rename_i live found
        obtain ⟨found,mine⟩ := Option.filter_eq_some_iff.mp found
        rw [← of_decide_eq_true mine]
        exact .left found
  · cases taken

-- What a push does to the logs of all users.
theorem pushEvent_logged {event : PresenceEvent} (logged : ∀ user, s.eventsFor user =
      BoundedLog.recent userEventCapacity (s.history.filter fun event => event.userId = user)) (user : Uuid) :
    (s.pushEvent event).eventsFor user = BoundedLog.recent userEventCapacity
      ((s.pushEvent event).history.filter fun event => event.userId = user) := by
  have before := logged user
  unfold eventsFor pushEvent at *
  rw [Table.get_insert,List.filter_append,List.filter_singleton]
  by_cases mine : event.userId = user
  · subst mine
    rw [if_pos rfl,Option.getD_some,before,decide_eq_true rfl,cond_true]
    exact BoundedLog.push_recent (by decide)
  · rw [if_neg mine,before,decide_eq_false mine,cond_false,List.append_nil]

theorem Moves.consistent (moves : Moves owner s s') (kept : Consistent owner s) : Consistent owner s' := by
  obtain ⟨orderly,replayed,owned,logged⟩ := kept
  cases moves with
  | still => exact ⟨orderly,replayed,owned,logged⟩
  | @refreshed device live live' found user name =>
    refine ⟨orderly,fun other => ?_,fun other now found' => ?_,logged⟩
    · rw [replayed,Table.get_insert]
      split
      · rename_i same
        rw [← same,found,Option.map_some,Option.map_some,name]
      · rfl
    · rw [Table.get_insert] at found'
      split at found'
      · rename_i same
        cases found'
        rw [user,owned device live found,same]
      · exact owned other now found'
  | @arrived registration now mine fresh =>
    refine ⟨.arrives orderly rfl mine fresh,fun other => ?_,fun other live found => ?_,pushEvent_logged logged⟩
    · simp only [register,pushEvent_history,pushEvent_active,replay_snoc,applyEvent,if_true]
      rw [Table.get_insert,Table.get_insert,replayed]
      split <;> rfl
    · simp only [register,pushEvent_active] at found
      rw [Table.get_insert] at found
      split at found
      · rename_i same
        cases found
        rw [← same]
        exact mine
      · exact owned other live found
  | @left device live reason found =>
    have online : (replay s.history)[device]? = some live.connectionId := by rw [replayed,found,Option.map_some]
    refine ⟨.leaves orderly rfl (owned device live found) online,fun other => ?_,fun other now found' => ?_,
      pushEvent_logged logged⟩
    · simp only [pushEvent_history,pushEvent_active,replay_snoc,applyEvent,online,if_true]
      rw [if_neg Bool.false_ne_true,Table.get_erase,Table.get_erase,replayed]
      split <;> rfl
    · exact owned other now (Table.get_erase_some found').2

-- What a registration leaves behind.
theorem register_arrives {registration : ConnectionRegistration} {now : Instant}
    (taken : execute owner s (.register registration now) = some s') :
    ∃ event ∈ s'.history, onlineOf registration.connectionId event = true := by
  unfold execute at taken
  split at taken
  · cases taken
    refine ⟨⟨registration.userId,registration.deviceId,registration.connectionId,true,now,none⟩,?_,?_⟩
    · simp [perform,register]
    · simp [onlineOf]
  · cases taken

theorem Moves.history_kept (moves : Moves owner s s') {event : PresenceEvent} (member : event ∈ s.history) :
    event ∈ s'.history := by
  cases moves with
  | still | refreshed => exact member
  | arrived | left => exact List.mem_append_left _ member

-- A call that does not name an active generation under its owner answers false
-- and changes nothing.
theorem perform_refused (unnamed : s.names call = false) : s.perform call = (s,false) := by
  cases call with
  | register registration now => cases unnamed
  | updateManifest device connection manifest =>
    have absent : s.generation device connection = none := Option.not_isSome_iff_eq_none.mp (by simpa [names] using unnamed)
    simp only [perform,updateManifest,absent]
  | heartbeat device connection now =>
    have absent : s.generation device connection = none := Option.not_isSome_iff_eq_none.mp (by simpa [names] using unnamed)
    simp only [perform,heartbeat,absent]
  | disconnect device connection reason =>
    have absent : s.generation device connection = none := Option.not_isSome_iff_eq_none.mp (by simpa [names] using unnamed)
    simp only [perform,disconnect,absent]
  | sendTo receiver frame =>
    have absent : s.reachable receiver = none := by
      cases found : s.reachable receiver with
      | none => rfl
      | some live =>
        obtain ⟨here,fits⟩ := Option.filter_eq_some_iff.mp found
        simp only [Bool.and_eq_true,decide_eq_true_iff] at fits
        rw [names,generation_some.mpr ⟨here,fits.1.2⟩,Option.any_some,decide_eq_true fits.1.1] at unnamed
        cases unnamed
    simp only [perform,sendTo,absent]
  | revoke user device =>
    have absent : (s.active[device]?).filter (fun live => live.userId = user) = none := by
      cases found : (s.active[device]?).filter fun live => live.userId = user with
      | none => rfl
      | some live =>
        obtain ⟨here,mine⟩ := Option.filter_eq_some_iff.mp found
        rw [names,here,Option.any_some,mine] at unnamed
        cases unnamed
    simp only [perform,revoke,absent]

theorem mem_snapshot {user : Uuid} : (∃ seen, (device,connection,seen) ∈ s.snapshotFor user) ↔
    ∃ live, s.active[device]? = some live ∧ live.userId = user ∧ live.connectionId = connection := by
  unfold snapshotFor
  constructor
  · rintro ⟨seen,member⟩
    obtain ⟨entry,listed,shown⟩ := List.mem_filterMap.mp member
    split at shown
    · rename_i mine
      cases shown
      exact ⟨entry.2,Table.mem_entries.mp listed,mine,rfl⟩
    · cases shown
  · rintro ⟨live,found,mine,rfl⟩
    refine ⟨live.lastSeen,List.mem_filterMap.mpr ⟨(device,live),Table.mem_entries.mpr found,?_⟩⟩
    rw [if_pos mine]

-- A user's log that lost nothing reads back as that user's snapshot.
theorem Consistent.reproduced (kept : Consistent owner s) {user : Uuid}
    (whole : (s.history.filter fun event => event.userId = user).length ≤ userEventCapacity) :
    (replay (s.eventsFor user))[device]? = some connection ↔ ∃ seen, (device,connection,seen) ∈ s.snapshotFor user := by
  rw [kept.logged,BoundedLog.recent_whole whole,mem_snapshot]
  by_cases mine : owner device = user
  · rw [replay_filter kept.orderly mine,kept.replayed]
    constructor
    · intro found
      obtain ⟨live,here,name⟩ := Option.map_eq_some_iff.mp found
      exact ⟨live,here,(kept.owned device live here).trans mine,name⟩
    · rintro ⟨live,here,_,rfl⟩
      rw [here,Option.map_some]
  · rw [replay_foreign mine kept.orderly]
    constructor
    · intro found
      cases found
    · rintro ⟨live,here,theirs,_⟩
      exact absurd ((kept.owned device live here).symm.trans theirs) mine

-- What the registry promises after any sequence of calls.
structure Accounts (calls : List RegistryCall) (s : RegistryState) : Prop where
  single : ∀ device connection other, (s.generation device connection).isSome → (s.generation device other).isSome →
    connection = other
  apart : ∀ device other connection, (s.generation device connection).isSome → (s.generation other connection).isSome →
    device = other
  refused : ∀ call, s.names call = false → s.perform call = (s,false)
  once : ∀ registration now, .register registration now ∈ calls →
    s.history.countP (onlineOf registration.connectionId) = 1 ∧
    s.history.countP (offlineOf registration.connectionId) ≤ 1
  replaced : ∀ older event newer, s.history = older ++ event :: newer → event.isOnline = true →
    ∀ former ∈ older, former.deviceId = event.deviceId → ∀ later ∈ newer, later.connectionId ≠ former.connectionId
  bounded : ∀ user, (s.eventsFor user).length ≤ userEventCapacity ∧ ∀ event ∈ s.eventsFor user, event.userId = user
  reproduced : ∀ user, (s.history.filter fun event => event.userId = user).length ≤ userEventCapacity →
    ∀ device connection, (replay (s.eventsFor user))[device]? = some connection ↔
      ∃ seen, (device,connection,seen) ∈ s.snapshotFor user

theorem empty_consistent : Consistent owner empty := by
  refine ⟨.nil,fun device => ?_,fun device live found => ?_,fun user => ?_⟩
  · simp [empty,replay]
  · simp [empty] at found
  · simp [empty,eventsFor,BoundedLog.recent]

theorem run_registered {calls : List RegistryCall} {registration : ConnectionRegistration} {now : Instant}
    (path : Transition.Runs (Transition.Executes (execute owner)) empty calls s)
    (made : .register registration now ∈ calls) :
    ∃ event ∈ s.history, onlineOf registration.connectionId event = true := by
  induction path with
  | nil => cases made
  | snoc _ taken ih =>
    rcases List.mem_append.mp made with earlier | last
    · obtain ⟨event,member,arrived⟩ := ih earlier
      exact ⟨event,(execute_moves taken).history_kept member,arrived⟩
    · rw [List.mem_singleton] at last
      subst last
      exact register_arrives taken

theorem registry_accounts {calls : List RegistryCall}
    (path : Transition.Runs (Transition.Executes (execute owner)) empty calls s) : Accounts calls s := by
  have kept : Consistent owner s := path.invariant _ empty_consistent
    fun _ _ _ kept taken => (execute_moves taken).consistent kept
  constructor
  · intro device connection other left right
    obtain ⟨live,found⟩ := Option.isSome_iff_exists.mp left
    obtain ⟨live',found'⟩ := Option.isSome_iff_exists.mp right
    obtain ⟨here,rfl⟩ := generation_some.mp found
    obtain ⟨here',rfl⟩ := generation_some.mp found'
    rw [here] at here'
    rw [Option.some.inj here']
  · intro device other connection left right
    obtain ⟨live,found⟩ := Option.isSome_iff_exists.mp left
    obtain ⟨live',found'⟩ := Option.isSome_iff_exists.mp right
    obtain ⟨here,rfl⟩ := generation_some.mp found
    obtain ⟨here',name⟩ := generation_some.mp found'
    have one : (replay s.history)[device]? = some live.connectionId := by rw [kept.replayed,here,Option.map_some]
    have two : (replay s.history)[other]? = some live'.connectionId := by rw [kept.replayed,here',Option.map_some]
    obtain ⟨event,member,_,place,named⟩ := replay_origin one
    obtain ⟨event',member',_,place',named'⟩ := replay_origin two
    have together := kept.orderly.one_device event member event' member' (named.trans (name.symm.trans named'.symm))
    rw [← place,← place',together]
  · exact fun call unnamed => perform_refused unnamed
  · intro registration now made
    obtain ⟨event,member,arrived⟩ := run_registered path made
    have some : 0 < s.history.countP (onlineOf registration.connectionId) := List.countP_pos_iff.mpr ⟨event,member,arrived⟩
    have most := kept.orderly.online_once registration.connectionId
    exact ⟨by omega,kept.orderly.offline_once _⟩
  · exact fun older event newer split arrived former earlier place later after =>
      kept.orderly.replaced split arrived earlier place after
  · intro user
    rw [kept.logged]
    exact ⟨BoundedLog.recent_length,fun event member =>
      of_decide_eq_true (List.mem_filter.mp (BoundedLog.mem_recent member)).2⟩
  · exact fun user whole device connection => kept.reproduced whole

-- A generation is replaced, its late calls are refused, and the newer one is
-- revoked.
def reconnection : List RegistryCall :=
  let registration (connection : Uuid) : ConnectionRegistration := ⟨1,7,connection,⟨[],false⟩,⟨1,[],⟨1,[]⟩,[],[]⟩,[]⟩
  [.register (registration 10) 0,.heartbeat 7 10 1,.register (registration 11) 2,.heartbeat 7 10 3,
    .disconnect 7 10 .replaced,.revoke 2 7,.revoke 1 7]

theorem registry_accounts_reconnection : ∃ s, Accounts reconnection s ∧ s.history.length = 3 := by
  obtain ⟨s,path,seen⟩ := Transition.run_reaches (execute fun _ => 1) empty reconnection
    (fun s => s.history.length = 3) (by decide)
  exact ⟨s,registry_accounts path,of_decide_eq_true seen⟩

end RegistryState
end DeviceControl
