import RockServer.DirectoryReads

namespace DeviceControl

-- The directory over HTTP, which reads the stores on its own.
namespace Directory

inductive AuthenticationError where
  | invalidCredential
  | unavailable

structure Refusal where
  status : Nat
  code : String
  message : String
  retryAfter : Option Nat
deriving DecidableEq

def invalidFilter : Refusal := ⟨400,"invalid_directory_filter","Directory filters are invalid or unsupported.",none⟩
def unauthorized : Refusal := ⟨401,"authentication_required","A valid Bearer token is required.",none⟩
def forbidden : Refusal := ⟨403,"directory_forbidden","Directory access is not permitted.",none⟩
def controlUnavailable : Refusal := ⟨503,"control_unavailable","Device control is temporarily unavailable.",some 1⟩
def authUnavailable : Refusal :=
  ⟨503,"control_auth_unavailable","Device control authentication is temporarily unavailable.",some 1⟩
def projectionUnavailable : Refusal :=
  ⟨503,"control_projection_unavailable","Device control projection is temporarily unavailable.",some 1⟩

-- What the stores answer to one account, none for a failure.
structure Loads where
  owners : Option (List OwnedDevice)
  manifest : Uuid → Option (Option DeviceManifest)
  state : Uuid → Option (Option DeviceStateSnapshot)
  entityState : Uuid → String → Option (Option EntityReport)
  online : Uuid → Bool

-- A request as far as it was read: its filters, if they were understood, and
-- whose credential it brought.
structure DirectoryRequest where
  filters : Option DirectoryFilters
  resolver : Bool
  principal : Except AuthenticationError (Uuid × Uuid)
  stores : Bool

def validClass (value : String) : Bool :=
  value ≠ "" && value.utf8ByteSize ≤ 64 && value.toList.all fun c => c.isLower || c.isDigit || c = '_'

section get
variable (q : Query) (loads : Loads) (now : String)

def getEntities (device : Uuid) : List Entity → Option (List DirectoryEntityDto)
  | [] => some []
  | entity :: rest => do
    let state ← if q.includeStates then loads.entityState device entity.entityId else some none
    let others ← getEntities device rest
    return ⟨entity,state⟩ :: others

def getEntries : List OwnedDevice → Option (List DirectoryDeviceDto)
  | [] => some []
  | device :: rest => do
    match ← loads.manifest device.id with
    | none => getEntries rest
    | some manifest =>
      if matchesFilters manifest q.filters then
        let snapshot ← loads.state device.id
        let entities ← getEntities q loads device.id manifest.entities
        let others ← getEntries rest
        return entry q device manifest snapshot entities (loads.online device.id) now :: others
      else getEntries rest

end get

def getFor (loads : Loads) (now : String) (cursor : Nat) (user device : Uuid) (filters : DirectoryFilters) :
    Except Refusal DirectoryDto :=
  match loads.manifest device with
  | none => .error projectionUnavailable
  | some none => .error forbidden
  | some (some caller) =>
    let scopes := grantedScopes caller
    if !scopes.contains .directoryRead then .error forbidden
    else match loads.owners with
      | none => .error projectionUnavailable
      | some devices =>
        if maxDirectoryDevices < devices.length then .error projectionUnavailable
        else match getEntries ⟨user,scopes,filters⟩ loads now devices with
          | none => .error projectionUnavailable
          | some entries => .ok ⟨1,now,max cursor 1,scopes,entries⟩

def get (loads : Uuid → Loads) (now : String) (cursor : Uuid → Nat) (request : DirectoryRequest) :
    Except Refusal DirectoryDto :=
  match request.filters with
  | none => .error invalidFilter
  | some filters =>
    if filters.deviceClass.any fun value => !validClass value then .error invalidFilter
    else if !request.resolver then .error controlUnavailable
    else match request.principal with
      | .error .invalidCredential => .error unauthorized
      | .error .unavailable => .error authUnavailable
      | .ok (user,device) =>
        if !request.stores then .error controlUnavailable
        else getFor (loads user) now (cursor user) user device filters

-- The stores of one moment, all at work.
def Loads.of (s : ControlPlane) (profiles : Uuid → DeviceProfile) (user : Uuid) : Loads where
  owners := some (listOwnedDevices s profiles user)
  manifest device := some (loadManifest s user device)
  state device := some (loadDeviceState s user device)
  entityState device entity := some (loadEntityState s user device entity)
  online device := (activeFor s user device).isSome

section readings
variable {q : Query} {s : ControlPlane} {profiles : Uuid → DeviceProfile} {now : String}

-- What a device adds to the directory while nothing else happens.
def listed (q : Query) (s : ControlPlane) (now : String) (device : OwnedDevice) : Option DirectoryDeviceDto :=
  ((loadManifest s q.userId device.id).filter fun manifest => matchesFilters manifest q.filters).map fun manifest =>
    entry q device manifest (loadDeviceState s q.userId device.id) (manifest.entities.map (entityState q s device.id))
      (activeFor s q.userId device.id).isSome now

theorem getEntities_of (device : Uuid) (entities : List Entity) :
    getEntities q (Loads.of s profiles q.userId) device entities = some (entities.map (entityState q s device)) := by
  induction entities with
  | nil => rfl
  | cons entity rest ih =>
    unfold getEntities
    rw [ih]
    unfold entityState Loads.of
    cases q.includeStates <;> rfl

theorem getEntries_of (devices : List OwnedDevice) :
    getEntries q (Loads.of s profiles q.userId) now devices = some (devices.filterMap (listed q s now)) := by
  induction devices with
  | nil => rfl
  | cons device rest ih =>
    have manifest : (Loads.of s profiles q.userId).manifest device.id = some (loadManifest s q.userId device.id) := rfl
    have state : (Loads.of s profiles q.userId).state device.id = some (loadDeviceState s q.userId device.id) := rfl
    rw [List.filterMap_cons]
    unfold getEntries listed
    simp only [manifest,state,getEntities_of,ih,Option.bind_eq_bind,Option.bind_some]
    cases loadManifest s q.userId device.id with
    | none => rfl
    | some declared =>
      by_cases matching : matchesFilters declared q.filters = true
      · simp only [matching,Option.filter_some,if_true,Option.map_some]
        rfl
      · simp only [matching,Option.filter_some,Bool.false_eq_true,if_false,Option.map_none]
        rfl

abbrev Reads (q : Query) (s : ControlPlane) (profiles : Uuid → DeviceProfile) (now : String) :=
  Transition.Runs (Transition.Executes fun (reading : Reading) (_ : Unit) => reading.advance q s profiles now)

-- What a reading that goes on undisturbed will have found.
def Reading.goal (q : Query) (s : ControlPlane) (profiles : Uuid → DeviceProfile) (now : String) :
    Reading → Option (Nat × List DirectoryDeviceDto)
  | .marking => getGoal (s.hub.cursors[q.userId]?.getD 0)
  | .owners mark => getGoal mark
  | .devices mark entries [] _ => some (mark,entries)
  | .devices mark entries (device :: rest) progress => some (mark,entries ++ (match progress with
    | .start => listed q s now device
    | .declared manifest => some (entry q device manifest (loadDeviceState s q.userId device.id)
      (manifest.entities.map (entityState q s device.id)) (activeFor s q.userId device.id).isSome now)
    | .entities manifest snapshot read left => some (entry q device manifest snapshot
      (read ++ left.map (entityState q s device.id)) (activeFor s q.userId device.id).isSome now)).toList ++
    rest.filterMap (listed q s now))
where
  getGoal (mark : Nat) : Option (Nat × List DirectoryDeviceDto) :=
    let devices := listOwnedDevices s profiles q.userId
    if maxDirectoryDevices < devices.length then none else some (mark,devices.filterMap (listed q s now))

variable {reading next : Reading} {mark : Nat} {entries : List DirectoryDeviceDto}

theorem listed_cons (device : OwnedDevice) (rest : List OwnedDevice) : (device :: rest).filterMap (listed q s now) =
    (listed q s now device).toList ++ rest.filterMap (listed q s now) := by
  rw [List.filterMap_cons]
  cases listed q s now device <;> rfl

theorem goal_start (devices : List OwnedDevice) : (Reading.devices mark entries devices .start).goal q s profiles now =
    some (mark,entries ++ devices.filterMap (listed q s now)) := by
  unfold Reading.goal
  cases devices with
  | nil => rw [List.filterMap_nil,List.append_nil]
  | cons device rest => simp only [listed_cons,List.append_assoc]

theorem advance_goal (moved : reading.advance q s profiles now = some next) :
    next.goal q s profiles now = reading.goal q s profiles now := by
  unfold Reading.advance at moved
  split at moved
  · cases moved
    rfl
  · dsimp only at moved
    split at moved
    · cases moved
    · rename_i mark few
      cases moved
      rw [goal_start,List.nil_append]
      unfold Reading.goal Reading.goal.getGoal
      dsimp only
      rw [if_neg few]
  · cases moved
    rfl
  · rename_i mark entries device rest
    have skipped (nothing : listed q s now device = none) :
        (Reading.devices mark entries rest .start).goal q s profiles now =
          (Reading.devices mark entries (device :: rest) .start).goal q s profiles now := by
      rw [goal_start,goal_start,listed_cons,nothing,Option.toList_none,List.nil_append]
    split at moved
    · rename_i undeclared
      cases moved
      exact skipped (by simp only [listed,undeclared,Option.filter_none,Option.map_none])
    · rename_i manifest declared
      split at moved
      · rename_i matching
        cases moved
        unfold Reading.goal
        simp only [listed,declared,Option.filter_some,if_pos matching,Option.map_some]
      · rename_i other
        cases moved
        exact skipped (by simp only [listed,declared,Option.filter_some,if_neg other,Option.map_none])
  · cases moved
    rfl
  · cases moved
    unfold Reading.goal
    simp only [List.append_assoc,List.map_cons,List.singleton_append]
  · rename_i mark entries device rest manifest snapshot read
    cases moved
    rw [goal_start]
    unfold Reading.goal
    simp only [List.map_nil,List.append_nil,Option.toList_some]

theorem finished_goal (done : reading.finished = some (mark,entries)) :
    reading.goal q s profiles now = some (mark,entries) := by
  unfold Reading.finished at done
  split at done
  · cases done
    rfl
  · cases done

theorem entities_read (device : OwnedDevice) (rest : List OwnedDevice) (manifest : DeviceManifest)
    (snapshot : Option DeviceStateSnapshot) (read : List DirectoryEntityDto) (left : List Entity) : ∃ steps,
    Reads q s profiles now (.devices mark entries (device :: rest) (.entities manifest snapshot read left)) steps
      (.devices mark entries (device :: rest)
        (.entities manifest snapshot (read ++ left.map (entityState q s device.id)) [])) := by
  induction left generalizing read with
  | nil =>
    rw [List.map_nil,List.append_nil]
    exact ⟨[],.nil⟩
  | cons entity left ih =>
    obtain ⟨steps,path⟩ := ih (read ++ [entityState q s device.id entity])
    rw [List.append_assoc] at path
    exact ⟨() :: steps,.cons rfl path⟩

theorem device_read (device : OwnedDevice) (rest : List OwnedDevice) : ∃ steps,
    Reads q s profiles now (.devices mark entries (device :: rest) .start) steps
      (.devices mark (entries ++ (listed q s now device).toList) rest .start) := by
  cases declared : loadManifest s q.userId device.id with
  | none =>
    refine ⟨[()],.single ?_⟩
    unfold Transition.Executes Reading.advance
    simp only [declared,listed,Option.filter_none,Option.map_none,Option.toList_none,List.append_nil]
  | some manifest =>
    by_cases matching : matchesFilters manifest q.filters = true
    · have first : Reads q s profiles now (.devices mark entries (device :: rest) .start) [()]
          (.devices mark entries (device :: rest) (.declared manifest)) := by
        refine .single ?_
        unfold Transition.Executes Reading.advance
        simp only [declared,if_pos matching]
      have second : Reads q s profiles now (.devices mark entries (device :: rest) (.declared manifest)) [()]
          (.devices mark entries (device :: rest)
            (.entities manifest (loadDeviceState s q.userId device.id) [] manifest.entities)) := .single rfl
      obtain ⟨steps,third⟩ := @entities_read q s profiles now mark entries device rest manifest (loadDeviceState s q.userId device.id) [] manifest.entities
      rw [List.nil_append] at third
      refine ⟨[()] ++ [()] ++ steps ++ [()],((first.append second).append third).snoc ?_⟩
      unfold Transition.Executes Reading.advance
      simp only [listed,declared,Option.filter_some,if_pos matching,Option.map_some,Option.toList_some]
    · refine ⟨[()],.single ?_⟩
      unfold Transition.Executes Reading.advance
      simp only [declared,listed,Option.filter_some,if_neg matching,Option.map_none,Option.toList_none,List.append_nil]

theorem devices_read (devices : List OwnedDevice) : ∃ steps,
    Reads q s profiles now (.devices mark entries devices .start) steps
      (.devices mark (entries ++ devices.filterMap (listed q s now)) [] .start) := by
  induction devices generalizing entries with
  | nil =>
    rw [List.filterMap_nil,List.append_nil]
    exact ⟨[],.nil⟩
  | cons device rest ih =>
    obtain ⟨steps,first⟩ := @device_read q s profiles now mark entries device rest
    obtain ⟨later,others⟩ := @ih (entries ++ (listed q s now device).toList)
    rw [List.append_assoc,← listed_cons] at others
    exact ⟨_,first.append others⟩

-- A reading ends with what its account's devices are at that moment, unless
-- they are too many.
theorem reading_ends : (∃ steps reading, Reads q s profiles now .marking steps reading ∧
      reading.finished = some (mark,entries)) ↔
    mark = s.hub.cursors[q.userId]?.getD 0 ∧ (listOwnedDevices s profiles q.userId).length ≤ maxDirectoryDevices ∧
      entries = (listOwnedDevices s profiles q.userId).filterMap (listed q s now) := by
  constructor
  · rintro ⟨steps,reading,path,done⟩
    have kept : reading.goal q s profiles now = Reading.marking.goal q s profiles now :=
      path.invariant (fun r => r.goal q s profiles now = Reading.marking.goal q s profiles now) rfl
        fun _ _ _ same moved => (advance_goal moved).trans same
    rw [finished_goal done] at kept
    unfold Reading.goal Reading.goal.getGoal at kept
    dsimp only at kept
    split at kept
    · cases kept
    · rename_i few
      cases kept
      exact ⟨rfl,Nat.not_lt.mp few,rfl⟩
  · rintro ⟨rfl,few,rfl⟩
    obtain ⟨steps,path⟩ := @devices_read q s profiles now
      (s.hub.cursors[q.userId]?.getD 0) [] (listOwnedDevices s profiles q.userId)
    have owners : Reads q s profiles now (.owners (s.hub.cursors[q.userId]?.getD 0)) [()]
        (.devices (s.hub.cursors[q.userId]?.getD 0) [] (listOwnedDevices s profiles q.userId) .start) := by
      refine .single ?_
      unfold Transition.Executes Reading.advance
      simp only [if_neg (Nat.not_lt.mpr few)]
    have marks : Reads q s profiles now .marking [()] (.owners (s.hub.cursors[q.userId]?.getD 0)) := .single rfl
    exact ⟨_,_,(marks.append owners).append path,rfl⟩

theorem granted_directory {manifest : DeviceManifest} :
    (grantedScopes manifest).contains .directoryRead = true ↔ DeviceRole.controller ∈ manifest.roles := by
  unfold grantedScopes
  split
  · rename_i controls
    exact ⟨fun _ => controls,fun _ => rfl⟩
  · rename_i silent
    constructor
    · intro granted
      cases granted
    · intro controls
      exact absurd controls silent

theorem getFor_ok {mark : Nat} {user device : Uuid} {filters : DirectoryFilters} {directory : DirectoryDto} :
    getFor (Loads.of s profiles user) now mark user device filters = .ok directory ↔
      ∃ caller, loadManifest s user device = some caller ∧ DeviceRole.controller ∈ caller.roles ∧
        (listOwnedDevices s profiles user).length ≤ maxDirectoryDevices ∧
        directory = ⟨1,now,max mark 1,grantedScopes caller,
          (listOwnedDevices s profiles user).filterMap (listed ⟨user,grantedScopes caller,filters⟩ s now)⟩ := by
  have manifest : (Loads.of s profiles user).manifest device = some (loadManifest s user device) := rfl
  have owners : (Loads.of s profiles user).owners = some (listOwnedDevices s profiles user) := rfl
  unfold getFor
  rw [manifest]
  cases declared : loadManifest s user device with
  | none => simp
  | some caller =>
    cases granted : (grantedScopes caller).contains .directoryRead with
    | false =>
      have silent : DeviceRole.controller ∉ caller.roles := fun controls => by
        rw [granted_directory.mpr controls] at granted
        cases granted
      simp only [granted,Bool.not_false,if_true]
      constructor
      · intro same
        cases same
      · rintro ⟨other,same,controls,_⟩
        cases same
        exact absurd controls silent
    | true =>
      have controls := granted_directory.mp granted
      simp only [granted,Bool.not_true,Bool.false_eq_true,if_false,owners]
      by_cases many : maxDirectoryDevices < (listOwnedDevices s profiles user).length
      · simp only [if_pos many,reduceCtorEq,false_iff]
        rintro ⟨_,_,_,few,_⟩
        omega
      · simp only [if_neg many,getEntries_of (q:=⟨user,grantedScopes caller,filters⟩)]
        constructor
        · intro same
          cases same
          exact ⟨caller,rfl,controls,Nat.not_lt.mp many,rfl⟩
        · rintro ⟨other,same,_,_,rfl⟩
          cases same
          rfl

-- The answer to a request is what a session of the same device would be sent at
-- that moment, filtered as the request asks.
theorem get_reads {request : DirectoryRequest} {directory : DirectoryDto} :
    get (Loads.of s profiles) now (fun user => s.hub.cursors[user]?.getD 0) request = .ok directory ↔
      ∃ user device filters caller, request.filters = some filters ∧ filters.deviceClass.all validClass = true ∧
        request.resolver = true ∧ request.principal = .ok (user,device) ∧ request.stores = true ∧
        loadManifest s user device = some caller ∧ DeviceRole.controller ∈ caller.roles ∧
        (listOwnedDevices s profiles user).length ≤ maxDirectoryDevices ∧
        ∃ steps reading mark, Reads ⟨user,grantedScopes caller,filters⟩ s profiles now .marking steps reading ∧
          reading.finished = some (mark,directory.devices) ∧
          directory = ⟨1,now,max mark 1,grantedScopes caller,directory.devices⟩ := by
  have answered : ∀ {user device : Uuid} {filters : DirectoryFilters},
      getFor (Loads.of s profiles user) now (s.hub.cursors[user]?.getD 0) user device filters = .ok directory ↔
        ∃ caller, loadManifest s user device = some caller ∧ DeviceRole.controller ∈ caller.roles ∧
          (listOwnedDevices s profiles user).length ≤ maxDirectoryDevices ∧
          ∃ steps reading mark, Reads ⟨user,grantedScopes caller,filters⟩ s profiles now .marking steps reading ∧
            reading.finished = some (mark,directory.devices) ∧
            directory = ⟨1,now,max mark 1,grantedScopes caller,directory.devices⟩ := by
    intro user device filters
    rw [getFor_ok]
    constructor
    · rintro ⟨caller,declared,controls,few,rfl⟩
      obtain ⟨steps,reading,path,done⟩ :=
        (@reading_ends ⟨user,grantedScopes caller,filters⟩ s profiles now _ _).mpr ⟨rfl,few,rfl⟩
      exact ⟨caller,declared,controls,few,steps,reading,_,path,done,rfl⟩
    · rintro ⟨caller,declared,controls,few,steps,reading,mark,path,done,same⟩
      obtain ⟨rfl,_,entries⟩ := reading_ends.mp ⟨steps,reading,path,done⟩
      rw [entries] at same
      exact ⟨caller,declared,controls,few,same⟩
  constructor
  · intro ok
    unfold get at ok
    cases understood : request.filters with
    | none =>
      simp only [understood,reduceCtorEq] at ok
    | some filters =>
      simp only [understood] at ok
      split at ok
      · cases ok
      · rename_i valid
        split at ok
        · cases ok
        · rename_i resolver
          split at ok
          · cases ok
          · cases ok
          · rename_i user device principal
            split at ok
            · cases ok
            · rename_i stores
              obtain ⟨caller,rest⟩ := answered.mp ok
              have accepted : filters.deviceClass.all validClass = true := by
                revert valid
                cases filters.deviceClass <;> simp
              exact ⟨user,device,filters,caller,rfl,accepted,by simpa using resolver,principal,by simpa using stores,rest⟩
  · rintro ⟨user,device,filters,caller,understood,valid,resolver,principal,stores,rest⟩
    have accepted : (filters.deviceClass.any fun value => !validClass value) = false := by
      revert valid
      cases filters.deviceClass <;> simp
    unfold get
    simp only [understood,accepted,resolver,principal,stores,Bool.not_true,Bool.false_eq_true,if_false]
    exact answered.mpr ⟨caller,rest⟩

end readings
end Directory
end DeviceControl
