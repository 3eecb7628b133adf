import RockServer.ControlPlane

namespace DeviceControl

-- The directory of an account's devices as it is read, one await after the
-- other, while sessions, commands and revocations go on.
namespace Directory

def maxDirectoryDevices : Nat := 50

structure DirectoryFilters where
  domain : Option EntityDomain
  deviceClass : Option String

def DirectoryFilters.unfiltered : DirectoryFilters := ⟨none,none⟩

-- What the account store has of a device besides its owner.
structure DeviceProfile where
  deviceDisplayName : String
  deviceType : String
  lastSeenAt : Option String

structure OwnedDevice extends DeviceProfile where
  id : Uuid

structure DirectoryEntityDto where
  entity : Entity
  state : Option EntityReport

structure PresenceDto where
  status : String
  lastSeenAt : Option String

structure FreshnessDto where
  status : Freshness
  observedAt : Option String
  receivedAt : Option String
  staleAfter : Option String

structure DirectoryDeviceDto where
  deviceId : Uuid
  deviceDisplayName : String
  deviceType : String
  roles : List DeviceRole
  capabilities : DeviceCapabilities
  presence : PresenceDto
  stateFreshness : FreshnessDto
  runtimeState : Option DeviceStateSnapshot
  entities : List DirectoryEntityDto
  surfaces : List Surface

structure DirectoryDto where
  protocolVersion : Nat
  generatedAt : String
  directoryRevision : Nat
  grantedScopes : List DeviceControlScope
  devices : List DirectoryDeviceDto

def matchesFilters (manifest : DeviceManifest) (filters : DirectoryFilters) : Bool :=
  (manifest.entities.any fun entity =>
    filters.domain.all (fun domain => domain = entity.domain) &&
      filters.deviceClass.all fun deviceClass => deviceClass = entity.deviceClass) ||
    (filters.domain.isNone && filters.deviceClass.isNone)

def freshness : Option DeviceStateSnapshot → FreshnessDto
  | none => ⟨.unknown,none,none,none⟩
  | some state =>
    ⟨if state.receivedAt.isSome then .fresh else .unknown,some state.observedAt.text,state.receivedAt.map Timestamp.text,none⟩

def runtimeStateProjection (snapshot : Option DeviceStateSnapshot) (includeStates : Bool) : Option DeviceStateSnapshot :=
  snapshot.filter fun _ => includeStates

section loads
variable (s : ControlPlane) (profiles : Uuid → DeviceProfile) (user : Uuid)

def listOwnedDevices : List OwnedDevice :=
  (s.router.store.devices.filter fun entry => entry.2 = user).map fun entry => ⟨profiles entry.1.uuid,entry.1.uuid⟩

def loadManifest (device : Uuid) : Option DeviceManifest := s.router.store.loadManifest user ⟨device⟩

def loadDeviceState (device : Uuid) : Option DeviceStateSnapshot :=
  if s.router.store.owned user ⟨device⟩ then (s.facts.snapshots[device]?).map StateRow.payload else none

-- The live rows of the entities are those of the accepted manifest.
def loadEntityState (device : Uuid) (entity : String) : Option EntityReport :=
  if s.router.store.owned user ⟨device⟩ && (s.declaredEntities device).any fun declared => declared.entityId = entity then
    (s.facts.entityStates[itemKey ⟨device⟩ entity]?).map EntityRow.payload
  else none

def activeFor (device : Uuid) : Option ActiveConnection := (s.registry[device]?).filter fun active => active.userId = user

end loads

-- Who asks, with which rights and for what.
structure Query where
  userId : Uuid
  scopes : List DeviceControlScope
  filters : DirectoryFilters

def Query.includeStates (q : Query) : Bool := q.scopes.contains .entityStateRead

def entry (q : Query) (device : OwnedDevice) (manifest : DeviceManifest) (snapshot : Option DeviceStateSnapshot)
    (entities : List DirectoryEntityDto) (online : Bool) (now : String) : DirectoryDeviceDto where
  deviceId := device.id
  deviceDisplayName := device.deviceDisplayName
  deviceType := device.deviceType
  roles := manifest.roles
  capabilities := manifest.capabilities
  presence := if online then ⟨"online",some now⟩ else ⟨"offline",device.lastSeenAt⟩
  stateFreshness := freshness snapshot
  runtimeState := runtimeStateProjection snapshot q.includeStates
  entities := entities
  surfaces := manifest.surfaces

-- How far the device at the head of the list is read.
inductive Progress where
  | start
  | declared (manifest : DeviceManifest)
  | entities (manifest : DeviceManifest) (snapshot : Option DeviceStateSnapshot) (read : List DirectoryEntityDto)
    (rest : List Entity)

-- Where a snapshot stands between two of its awaits.
inductive Reading where
  | marking
  | owners (cursor : Nat)
  | devices (cursor : Nat) (entries : List DirectoryDeviceDto) (rest : List OwnedDevice) (progress : Progress)

section advance
variable (q : Query) (s : ControlPlane) (profiles : Uuid → DeviceProfile) (now : String)

def entityState (device : Uuid) (entity : Entity) : DirectoryEntityDto :=
  ⟨entity,if q.includeStates then loadEntityState s q.userId device entity.entityId else none⟩

-- One step of a snapshot that no store fails, or its refusal of too many
-- devices. The caller's read of the cursor comes first.
def Reading.advance : Reading → Option Reading
  | .marking => some (.owners (s.hub.cursors[q.userId]?.getD 0))
  | .owners cursor =>
    let devices := listOwnedDevices s profiles q.userId
    if maxDirectoryDevices < devices.length then none else some (.devices cursor [] devices .start)
  | .devices cursor entries [] progress => some (.devices cursor entries [] progress)
  | .devices cursor entries (device :: rest) .start => match loadManifest s q.userId device.id with
    | none => some (.devices cursor entries rest .start)
    | some manifest =>
      if matchesFilters manifest q.filters then some (.devices cursor entries (device :: rest) (.declared manifest))
      else some (.devices cursor entries rest .start)
  | .devices cursor entries (device :: rest) (.declared manifest) =>
    some (.devices cursor entries (device :: rest)
      (.entities manifest (loadDeviceState s q.userId device.id) [] manifest.entities))
  | .devices cursor entries (device :: rest) (.entities manifest snapshot read (entity :: left)) =>
    some (.devices cursor entries (device :: rest)
      (.entities manifest snapshot (read ++ [entityState q s device.id entity]) left))
  | .devices cursor entries (device :: rest) (.entities manifest snapshot read []) =>
    some (.devices cursor
      (entries ++ [entry q device manifest snapshot read (activeFor s q.userId device.id).isSome now]) rest .start)

end advance

def Reading.finished : Reading → Option (Nat × List DirectoryDeviceDto)
  | .devices cursor entries [] _ => some (cursor,entries)
  | _ => none

-- A device as the store and the registry have it at one moment.
structure DeviceView where
  manifest : Option DeviceManifest
  snapshot : Option DeviceStateSnapshot
  entityState : String → Option EntityReport
  online : Bool

def view (s : ControlPlane) (user device : Uuid) : DeviceView where
  manifest := loadManifest s user device
  snapshot := loadDeviceState s user device
  entityState := loadEntityState s user device
  online := (activeFor s user device).isSome

-- An entry without what the account store has of the device, which no event
-- tells of.
structure DeviceFacts where
  roles : List DeviceRole
  capabilities : DeviceCapabilities
  status : String
  stateFreshness : FreshnessDto
  runtimeState : Option DeviceStateSnapshot
  entities : List DirectoryEntityDto
  surfaces : List Surface

def DirectoryDeviceDto.facts (entry : DirectoryDeviceDto) : DeviceFacts :=
  ⟨entry.roles,entry.capabilities,entry.presence.status,entry.stateFreshness,entry.runtimeState,entry.entities,entry.surfaces⟩

namespace DeviceView

def state (q : Query) (view : DeviceView) (entity : Entity) : DirectoryEntityDto :=
  ⟨entity,if q.includeStates then view.entityState entity.entityId else none⟩

-- What the directory shows of the device, read all at once.
def facts (q : Query) (view : DeviceView) : Option DeviceFacts :=
  (view.manifest.filter fun manifest => matchesFilters manifest q.filters).map fun manifest =>
    ⟨manifest.roles,manifest.capabilities,if view.online then "online" else "offline",freshness view.snapshot,
      runtimeStateProjection view.snapshot q.includeStates,manifest.entities.map (view.state q),manifest.surfaces⟩

end DeviceView

def listedAs (device : Uuid) (entries : List DirectoryDeviceDto) : Option DirectoryDeviceDto :=
  entries.find? fun entry => entry.deviceId = device

-- What the reading holds of the device at the head is what the view has.
def Progress.Sound (q : Query) (view : DeviceView) : Progress → Prop
  | .start => True
  | .declared manifest => view.manifest = some manifest ∧ matchesFilters manifest q.filters = true
  | .entities manifest snapshot read rest => view.manifest = some manifest ∧ matchesFilters manifest q.filters = true ∧
    view.snapshot = snapshot ∧ read ++ rest.map (view.state q) = manifest.entities.map (view.state q)

-- The same of a device wherever it stands: done with, in hand or to come.
def Reading.Sound (q : Query) (view : DeviceView) (device : Uuid) : Reading → Prop
  | .marking | .owners _ => True
  | .devices _ entries rest progress => match listedAs device entries with
    | some entry => view.facts q = some entry.facts
    | none =>
      if device ∈ rest.map OwnedDevice.id then
        ∀ first, rest.head? = some first → first.id = device → progress.Sound q view
      else view.facts q = none

section sound
variable {q : Query} {s : ControlPlane} {profiles : Uuid → DeviceProfile} {now : String} {user device : Uuid}
  {reading reading' : Reading} {entries : List DirectoryDeviceDto} {shown : DirectoryDeviceDto}

theorem listed_self (name : shown.deviceId = device) (absent : listedAs device entries = none) :
    listedAs device (entries ++ [shown]) = some shown := by
  unfold listedAs at absent ⊢
  rw [List.find?_append,absent]
  simp [name]

theorem listed_other (name : shown.deviceId ≠ device) : listedAs device (entries ++ [shown]) = listedAs device entries := by
  unfold listedAs
  rw [List.find?_append]
  simp [name]

theorem listed_name (found : listedAs device entries = some shown) : shown.deviceId = device := by
  have named := List.find?_some found
  exact of_decide_eq_true named

theorem mem_listOwned (owned : s.router.store.owned user ⟨device⟩ = true) :
    device ∈ (listOwnedDevices s profiles user).map OwnedDevice.id := by
  unfold StoreState.owned at owned
  rw [List.contains_iff_mem] at owned
  unfold listOwnedDevices
  rw [List.map_map]
  exact List.mem_map.mpr ⟨_,List.mem_filter.mpr ⟨owned,decide_eq_true rfl⟩,rfl⟩

-- The entry of a device read to its end.
theorem entry_facts {first : OwnedDevice} {manifest : DeviceManifest} {snapshot : Option DeviceStateSnapshot}
    {read : List DirectoryEntityDto}
    (sound : Progress.Sound q (view s q.userId first.id) (.entities manifest snapshot read [])) :
    (view s q.userId first.id).facts q =
      some (entry q first manifest snapshot read (activeFor s q.userId first.id).isSome now).facts := by
  obtain ⟨declared,matching,rfl,states⟩ := sound
  rw [List.map_nil,List.append_nil] at states
  unfold DeviceView.facts
  rw [declared,Option.filter_some,if_pos matching,Option.map_some,← states]
  unfold DirectoryDeviceDto.facts entry view
  cases (activeFor s q.userId first.id).isSome <;> rfl

theorem sound_found {rest : List OwnedDevice} {progress : Progress} {cursor : Nat} {dv : DeviceView}
    (found : listedAs device entries = some shown) :
    (Reading.devices cursor entries rest progress).Sound q dv device ↔ dv.facts q = some shown.facts := by
  unfold Reading.Sound
  simp only [found]

theorem sound_absent {rest : List OwnedDevice} {progress : Progress} {cursor : Nat} {dv : DeviceView}
    (absent : listedAs device entries = none) :
    (Reading.devices cursor entries rest progress).Sound q dv device ↔
      if device ∈ rest.map OwnedDevice.id then
        ∀ first, rest.head? = some first → first.id = device → progress.Sound q dv
      else dv.facts q = none := by
  unfold Reading.Sound
  simp only [absent]

theorem Reading.Sound.next {first : OwnedDevice} {rest : List OwnedDevice} {progress progress' : Progress} {cursor : Nat}
    {dv : DeviceView} (sound : (Reading.devices cursor entries (first :: rest) progress).Sound q dv device)
    (kept : first.id = device → progress.Sound q dv → progress'.Sound q dv) :
    (Reading.devices cursor entries (first :: rest) progress').Sound q dv device := by
  cases found : listedAs device entries with
  | some shown => exact (sound_found found).mpr ((sound_found found).mp sound)
  | none =>
    have before := (sound_absent found).mp sound
    refine (sound_absent found).mpr ?_
    split
    · rename_i listed
      rw [if_pos listed] at before
      intro head same name
      cases same
      exact kept name (before first rfl name)
    · rename_i unlisted
      rwa [if_neg unlisted] at before

-- The device in hand turns out to show nothing.
theorem Reading.Sound.skip {first : OwnedDevice} {rest : List OwnedDevice} {progress : Progress} {cursor : Nat}
    {dv : DeviceView} (sound : (Reading.devices cursor entries (first :: rest) progress).Sound q dv device)
    (nothing : first.id = device → dv.facts q = none) :
    (Reading.devices cursor entries rest .start).Sound q dv device := by
  cases found : listedAs device entries with
  | some shown => exact (sound_found found).mpr ((sound_found found).mp sound)
  | none =>
    have before := (sound_absent found).mp sound
    refine (sound_absent found).mpr ?_
    split
    · exact fun _ _ _ => trivial
    · rename_i gone
      by_cases name : first.id = device
      · exact nothing name
      · rwa [if_neg] at before
        rw [List.map_cons]
        exact fun listed => (List.mem_cons.mp listed).elim (fun same => name same.symm) gone

theorem Reading.Sound.push {first : OwnedDevice} {rest : List OwnedDevice} {progress : Progress} {cursor : Nat}
    {dv : DeviceView} (sound : (Reading.devices cursor entries (first :: rest) progress).Sound q dv device)
    (name : shown.deviceId = first.id)
    (told : first.id = device → progress.Sound q dv → dv.facts q = some shown.facts) :
    (Reading.devices cursor (entries ++ [shown]) rest .start).Sound q dv device := by
  by_cases mine : first.id = device
  · cases found : listedAs device entries with
    | some earlier =>
      have still : listedAs device (entries ++ [shown]) = some earlier := by
        unfold listedAs at found ⊢
        rw [List.find?_append,found,Option.some_or]
      exact (sound_found still).mpr ((sound_found found).mp sound)
    | none =>
      have before := (sound_absent found).mp sound
      rw [if_pos (by rw [List.map_cons,mine]; exact List.mem_cons_self)] at before
      exact (sound_found (listed_self (name.trans mine) found)).mpr (told mine (before first rfl mine))
  · have passed := sound.skip fun same => absurd same mine
    have same : listedAs device (entries ++ [shown]) = listedAs device entries :=
      listed_other fun same => mine (name.symm.trans same)
    cases found : listedAs device entries with
    | some earlier => exact (sound_found (same.trans found)).mpr ((sound_found found).mp passed)
    | none => exact (sound_absent (same.trans found)).mpr ((sound_absent found).mp passed)

-- A step of the reading keeps what it has of every device that the account owns.
theorem advance_sound (owned : s.router.store.owned q.userId ⟨device⟩ = true)
    (moved : reading.advance q s profiles now = some reading') (sound : reading.Sound q (view s q.userId device) device) :
    reading'.Sound q (view s q.userId device) device := by
  unfold Reading.advance at moved
  split at moved
  · cases moved
    trivial
  · dsimp only at moved
    split at moved
    · cases moved
    · cases moved
      unfold Reading.Sound
      dsimp only [listedAs,List.find?_nil]
      rw [if_pos (mem_listOwned owned)]
      exact fun _ _ _ => trivial
  · cases moved
    exact sound
  · rename_i first rest
    split at moved
    · rename_i undeclared
      cases moved
      refine sound.skip fun name => ?_
      unfold DeviceView.facts view
      rw [← name,undeclared]
      rfl
    · rename_i manifest declared
      split at moved
      · rename_i matching
        cases moved
        refine sound.next fun name _ => ⟨?_,matching⟩
        rw [← name]
        exact declared
      · rename_i other
        cases moved
        refine sound.skip fun name => ?_
        unfold DeviceView.facts view
        rw [← name,declared,Option.filter_some,if_neg other]
        rfl
  · cases moved
    refine sound.next fun name holds => ⟨holds.1,holds.2,?_,List.nil_append _⟩
    rw [name]
    rfl
  · rename_i entity left
    cases moved
    refine sound.next fun name holds => ⟨holds.1,holds.2.1,holds.2.2.1,?_⟩
    rw [← holds.2.2.2,List.append_assoc,List.map_cons,name]
    rfl
  · cases moved
    refine sound.push rfl fun name holds => ?_
    subst name
    exact entry_facts holds

-- What a finished reading has of a device is what it is.
theorem finished_facts {dv : DeviceView} {cursor : Nat} (done : reading.finished = some (cursor,entries))
    (sound : reading.Sound q dv device) : (listedAs device entries).map DirectoryDeviceDto.facts = dv.facts q := by
  unfold Reading.finished at done
  split at done
  · cases done
    cases found : listedAs device entries with
    | some shown => exact ((sound_found found).mp sound).symm
    | none =>
      have nothing := (sound_absent found).mp sound
      exact nothing.symm
  · cases done

end sound
end Directory
end DeviceControl
