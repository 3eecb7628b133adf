import RockServer.ManifestEvolution

namespace DeviceControl

-- The three tables as the projection of the accepted manifest, in every state
-- that calls can reach.
def Json.member (key : String) : Json → Option Json
  | .object fields => fields.lookup key
  | _ => none

def Json.elements : Json → List Json
  | .array items => items
  | _ => []

def Projection.key : Projection → String
  | .capabilities => "name"
  | .entities => "entity_id"
  | .surfaces => "surface_id"

-- The items of a stored manifest payload.
def Projection.list (payload : Json) : Projection → Option Json
  | .capabilities => (payload.member "capabilities").bind (Json.member "items")
  | .entities => payload.member "entities"
  | .surfaces => payload.member "surfaces"

def Projection.declared (kind : Projection) (payload : Json) : List (String × Json) :=
  ((kind.list payload).map Json.elements |>.getD []).filterMap fun item =>
    ((item.member kind.key).bind asStr).map fun id => (id,item)

-- A call of a sequence with the answer it got.
def ManifestStore.Answers (db : Jsonb) (serde : Serde) (s : ManifestStore)
    (answered : ManifestStore.Call × Except StoreError StoreOutcome) (s' : ManifestStore) : Prop :=
  s.call db serde answered.1 = (answered.2,s')

-- The manifests of the calls answered `Accepted`, the newest first.
def ManifestStore.accepted (answered : List (ManifestStore.Call × Except StoreError StoreOutcome)) :
    List (DeviceId × DeviceManifest) :=
  answered.reverse.filterMap fun entry => match entry.2 with
    | .ok .accepted => some (entry.1.device,entry.1.manifest)
    | _ => none

def newest (accepted : List (DeviceId × DeviceManifest)) (device : DeviceId) : Option DeviceManifest :=
  accepted.findSome? fun entry => if entry.1 = device then some entry.2 else none

-- The payload with which an identifier was last accepted.
def lastAccepted (serde : Serde) (accepted : List (DeviceId × DeviceManifest)) (kind : Projection) (device : DeviceId)
    (id : String) : Option Json :=
  accepted.findSome? fun entry =>
    if entry.1 = device then (itemOf (entry.2.items serde kind) id).map Item.payload else none

-- What was accepted is stored, and the three tables are its projection.
structure Projected (db : Jsonb) (serde : Serde) (accepted : List (DeviceId × DeviceManifest)) (s : ManifestStore) :
    Prop where
  stored : ∀ device manifest, newest accepted device = some manifest → ∃ payload,
    db.store (manifest.toJson serde) = some payload ∧
      s.manifests[device.uuid]? = some ⟨manifest.manifestRevision,payload⟩
  unstored : ∀ device, newest accepted device = none → s.manifests[device.uuid]? = none
  live : ∀ kind device id payload,
    (∃ row, (s.rows kind)[itemKey device id]? = some row ∧ row.removedAt = none ∧ row.payload = payload) ↔
      ∃ stored, s.manifests[device.uuid]? = some stored ∧ (id,payload) ∈ kind.declared stored.payload
  revision : ∀ kind device id row, (s.rows kind)[itemKey device id]? = some row → row.removedAt = none →
    ∃ stored, s.manifests[device.uuid]? = some stored ∧ row.manifestRevision = stored.revision
  last : ∀ kind device id, (s.rows kind)[itemKey device id]?.map ProjectionRow.payload =
    (lastAccepted serde accepted kind device id).bind db.store
  kept : ∀ kind device id, (lastAccepted serde accepted kind device id).isSome = true →
    (s.rows kind)[itemKey device id]?.isSome = true

section payloads
variable {db : Jsonb} {serde : Serde} {key : String} {value stored : Json} {m : JsonMap}

theorem lookup_append (m rest : JsonMap) (key : String) :
    (m ++ rest).lookup key = (m.lookup key).or (rest.lookup key) := by
  induction m with
  | nil => rfl
  | cons entry m ih =>
    obtain ⟨name,held⟩ := entry
    simp only [List.cons_append,List.lookup_cons]
    cases key == name with
    | true => rfl
    | false => exact ih

theorem lookup_replace {other : String} (different : key ≠ other) :
    (m.map fun field => if field.1 = other then (other,value) else field).lookup key = m.lookup key := by
  induction m with
  | nil => rfl
  | cons entry m ih =>
    obtain ⟨name,held⟩ := entry
    by_cases here : name = other
    · subst here
      have apart : (key == name) = false := beq_false_of_ne different
      simp only [List.map_cons,if_true,List.lookup_cons,apart,ih]
    · simp only [List.map_cons,here,if_false,List.lookup_cons,ih]

theorem lookup_replaced (present : (m.lookup key).isSome = true) :
    (m.map fun field => if field.1 = key then (key,value) else field).lookup key = some value := by
  induction m with
  | nil => cases present
  | cons entry m ih =>
    obtain ⟨name,held⟩ := entry
    by_cases here : name = key
    · simp [here]
    · have apart : (key == name) = false := beq_false_of_ne (Ne.symm here)
      simp only [List.lookup_cons,apart] at present
      simp only [List.map_cons,here,if_false,List.lookup_cons,apart]
      exact ih present

theorem lookup_insertKey_other {other : String} (different : key ≠ other) :
    (insertKey other value m).lookup key = m.lookup key := by
  unfold insertKey
  split
  · exact lookup_replace different
  · have apart : (key == other) = false := beq_false_of_ne different
    simp [lookup_append,List.lookup_cons,apart]

theorem lookup_insertKey : (insertKey key value m).lookup key = some value := by
  unfold insertKey
  split
  · rename_i present
    exact lookup_replaced present
  · rename_i absent
    rw [Option.not_isSome_iff_eq_none] at absent
    simp [lookup_append,absent]

-- What a stored object and a stored list look like inside.
theorem stored_member (kept : db.store (.object m) = some stored) (found : m.lookup key = some value) :
    ∃ value', db.store value = some value' ∧ stored.member key = some value' := by
  obtain ⟨fields,rfl,members⟩ := db.object m stored kept
  exact members key value found

theorem stored_elements {items : List Json} (kept : db.store (.array items) = some stored) (payload : Json) :
    payload ∈ stored.elements ↔ ∃ item ∈ items, db.store item = some payload := by
  obtain ⟨list,mapped,rfl⟩ := db.array items stored kept
  change payload ∈ list ↔ _
  clear kept
  induction items generalizing list with
  | nil =>
    cases mapped
    simp
  | cons item rest ih =>
    rw [List.mapM_cons] at mapped
    obtain ⟨first,head,mapped⟩ := Option.bind_eq_some_iff.mp mapped
    obtain ⟨others,tail,mapped⟩ := Option.bind_eq_some_iff.mp mapped
    cases mapped
    rw [List.mem_cons,ih others tail,List.exists_mem_cons_iff,head,Option.some.injEq,eq_comm]

theorem capability_name (capability : DeviceCapability) :
    (capability.toMap serde).lookup "name" = some (.string capability.name) := by
  cases capability with
  | unknown name version extra =>
    exact (lookup_insertKey_other (by decide)).trans lookup_insertKey
  | _ => rfl

theorem declared_items {manifest : DeviceManifest} {kind : Projection} (kept : db.store (manifest.toJson serde) = some stored)
    (id : String) (payload : Json) : (id,payload) ∈ kind.declared stored ↔
      ∃ item ∈ manifest.items serde kind, item.id = id ∧ db.store item.payload = some payload := by
  have listed : ∃ list, kind.list stored = some list ∧ ∀ payload, payload ∈ list.elements ↔
      ∃ item ∈ manifest.items serde kind, db.store item.payload = some payload := by
    have mapped : ∀ {A : Type} {values : List A} {toJson : A → Json} {item : A → Item} {list : Json},
        (∀ value, (item value).payload = toJson value) → db.store (.array (values.map toJson)) = some list →
        ∀ payload, payload ∈ list.elements ↔ ∃ it ∈ values.map item, db.store it.payload = some payload := by
      intro A values toJson item list same kept payload
      rw [stored_elements kept]
      simp [same]
    cases kind with
    | capabilities =>
      obtain ⟨capabilities,inner,found⟩ := @stored_member db "capabilities" _ _ _ kept rfl
      obtain ⟨list,array,items⟩ := @stored_member db "items" _ _ _ inner rfl
      exact ⟨list,by rw [Projection.list,found,Option.bind_some,items],mapped (fun _ => rfl) array⟩
    | entities =>
      obtain ⟨list,array,found⟩ := @stored_member db "entities" _ _ _ kept rfl
      exact ⟨list,found,mapped (fun _ => rfl) array⟩
    | surfaces =>
      obtain ⟨list,array,found⟩ := @stored_member db "surfaces" _ _ _ kept rfl
      exact ⟨list,found,mapped (fun _ => rfl) array⟩
  have named : ∀ item ∈ manifest.items serde kind, ∀ payload, db.store item.payload = some payload →
      (payload.member kind.key).bind asStr = some item.id := by
    intro item declared payload kept
    have text : ∃ m, item.payload = .object m ∧ m.lookup kind.key = some (.string item.id) := by
      cases kind with
      | capabilities =>
        obtain ⟨capability,_,rfl⟩ := List.mem_map.mp declared
        exact ⟨_,rfl,capability_name capability⟩
      | entities =>
        obtain ⟨entity,_,rfl⟩ := List.mem_map.mp declared
        exact ⟨_,rfl,rfl⟩
      | surfaces =>
        obtain ⟨surface,_,rfl⟩ := List.mem_map.mp declared
        exact ⟨_,rfl,rfl⟩
    obtain ⟨m,object,found⟩ := text
    rw [object] at kept
    obtain ⟨value,string,member⟩ := stored_member kept found
    rw [member,db.string _ _ string]
    rfl
  obtain ⟨list,found,elements⟩ := listed
  rw [Projection.declared,found,List.mem_filterMap]
  simp only [Option.map_some,Option.getD_some,Option.map_eq_some_iff,Prod.mk.injEq]
  constructor
  · rintro ⟨value,member,id',known,rfl,rfl⟩
    obtain ⟨item,declared,kept⟩ := (elements value).mp member
    rw [named item declared value kept] at known
    exact ⟨item,declared,Option.some.inj known,kept⟩
  · rintro ⟨item,declared,rfl,kept⟩
    exact ⟨payload,(elements payload).mpr ⟨item,declared,kept⟩,item.id,named item declared payload kept,rfl,rfl⟩

end payloads
section written
variable {items : List Item} {item : Item} {id : String}

theorem itemOf_some (found : itemOf items id = some item) : item ∈ items ∧ item.id = id :=
  ⟨List.mem_of_find?_eq_some found,by simpa using List.find?_some found⟩

theorem itemOf_mem (distinct : (items.map Item.id).Nodup) (listed : item ∈ items) : itemOf items item.id = some item := by
  cases found : itemOf items item.id with
  | none =>
    have absent := List.find?_eq_none.mp found item listed
    simp at absent
  | some other =>
    obtain ⟨listed',same⟩ := itemOf_some found
    exact congrArg some (List.inj_on_of_nodup_map distinct listed' listed same)

end written

namespace ManifestStore
variable {db : Jsonb} {serde : Serde} {s s' : ManifestStore} {now : Instant} {user : Uuid} {device other : DeviceId}
  {manifest : DeviceManifest} {kind : Projection} {id : String}

-- All that a committed transaction wrote.
structure Replaced (db : Jsonb) (serde : Serde) (s : ManifestStore) (now : Instant) (device : DeviceId)
    (manifest : DeviceManifest) (s' : ManifestStore) : Prop where
  manifests : ∃ stored, db.store (manifest.toJson serde) = some stored ∧
    s'.manifests = s.manifests.insert device.uuid ⟨manifest.manifestRevision,stored⟩
  stored : ∀ kind, ∀ item ∈ manifest.items serde kind, (db.store item.payload).isSome = true
  rows : ∀ kind other id, (s'.rows kind)[itemKey other id]? = writtenRow db device manifest.manifestRevision
    (manifest.items serde kind) (tombstone device now (s.rows kind)) other id

theorem replaceManifest_replaced (valid : manifest.validate = .ok ())
    (done : s.replaceManifest db serde now device manifest = .ok s') : Replaced db serde s now device manifest s' := by
  have storable := ((replaceManifest_ok valid).mp ⟨s',done⟩).1
  obtain ⟨capabilities,first,done⟩ := bind_done done
  obtain ⟨entities,second,done⟩ := bind_done done
  obtain ⟨surfaces,third,done⟩ := bind_done done
  obtain ⟨manifests,last,done⟩ := bind_done done
  cases done
  refine ⟨?_,storable.items,?_⟩
  · unfold upsertManifest at last
    split at last
    · cases last
    · rename_i stored kept
      split at last
      · cases last
      · cases last
        exact ⟨stored,kept,rfl⟩
  · intro kind other id
    cases kind with
    | capabilities => exact items_rows (manifest_ids valid) first other id
    | entities => exact items_rows (manifest_ids valid) second other id
    | surfaces => exact items_rows (manifest_ids valid) third other id

theorem Replaced.elsewhere (replaced : Replaced db serde s now device manifest s') (different : other ≠ device) :
    (s'.rows kind)[itemKey other id]? = (s.rows kind)[itemKey other id]? := by
  rw [replaced.rows,writtenRow,if_neg different]
  dsimp only
  rw [tombstone_get]
  have kept : ∀ row, ProjectionRow.marked device now other row = row := fun row => if_neg fun both => different both.1
  cases (s.rows kind)[itemKey other id]? with
  | none => rfl
  | some row => exact congrArg some (kept row)

theorem Replaced.item (replaced : Replaced db serde s now device manifest s') {item : Item}
    (found : itemOf (manifest.items serde kind) id = some item) :
    (s'.rows kind)[itemKey device id]? = item.row db manifest.manifestRevision := by
  rw [replaced.rows,writtenRow,if_pos rfl,found]

theorem Replaced.removed (replaced : Replaced db serde s now device manifest s')
    (absent : itemOf (manifest.items serde kind) id = none) :
    (s'.rows kind)[itemKey device id]? = (s.rows kind)[itemKey device id]?.map (ProjectionRow.marked device now device) := by
  rw [replaced.rows,writtenRow,if_pos rfl,absent]
  exact tombstone_get

-- A row of the device is live after the call exactly as an item of the manifest.
theorem Replaced.live (valid : manifest.validate = .ok ()) (replaced : Replaced db serde s now device manifest s')
    (row : ProjectionRow) : (s'.rows kind)[itemKey device id]? = some row ∧ row.removedAt = none ↔
      ∃ item ∈ manifest.items serde kind, item.id = id ∧ item.row db manifest.manifestRevision = some row := by
  cases found : itemOf (manifest.items serde kind) id with
  | some item =>
    obtain ⟨listed,same⟩ := itemOf_some found
    rw [replaced.item found]
    constructor
    · rintro ⟨written,_⟩
      exact ⟨item,listed,same,written⟩
    · rintro ⟨item',listed',same',written⟩
      have one : item' = item := List.inj_on_of_nodup_map (manifest_ids valid) listed' listed (same'.trans same.symm)
      subst one
      obtain ⟨stored,_,rfl⟩ := Option.map_eq_some_iff.mp written
      exact ⟨written,rfl⟩
  | none =>
    rw [replaced.removed found]
    constructor
    · rintro ⟨marked,live⟩
      obtain ⟨old,_,rfl⟩ := Option.map_eq_some_iff.mp marked
      have gone := @marked_removed device now old
      rw [live] at gone
      cases gone
    · rintro ⟨item,listed,rfl,_⟩
      rw [itemOf_mem (manifest_ids valid) listed] at found
      cases found

theorem projected_replaced {earlier : List (DeviceId × DeviceManifest)} (valid : manifest.validate = .ok ())
    (projected : Projected db serde earlier s) (replaced : Replaced db serde s now device manifest s') :
    Projected db serde ((device,manifest) :: earlier) s' := by
  obtain ⟨stored,kept,manifests⟩ := replaced.manifests
  have here : s'.manifests[device.uuid]? = some ⟨manifest.manifestRevision,stored⟩ := by
    rw [manifests]
    exact Table.get_insert.trans (if_pos rfl)
  have elsewhere : ∀ other : DeviceId, other ≠ device → s'.manifests[other.uuid]? = s.manifests[other.uuid]? := by
    intro other different
    rw [manifests]
    refine Table.get_insert_ne fun same => different ?_
    obtain ⟨uuid⟩ := device
    cases same
    rfl
  refine ⟨?_,?_,?_,?_,?_,?_⟩
  · intro other latest found
    rw [newest,List.findSome?_cons] at found
    by_cases same : other = device
    · subst same
      rw [if_pos rfl] at found
      cases found
      exact ⟨stored,kept,here⟩
    · rw [if_neg fun back => same back.symm] at found
      rw [elsewhere other same]
      exact projected.stored other latest found
  · intro other none_
    rw [newest,List.findSome?_cons] at none_
    by_cases same : other = device
    · subst same
      rw [if_pos rfl] at none_
      cases none_
    · rw [if_neg fun back => same back.symm] at none_
      rw [elsewhere other same]
      exact projected.unstored other none_
  · intro kind other id payload
    by_cases same : other = device
    · subst same
      constructor
      · rintro ⟨row,found,live,rfl⟩
        obtain ⟨item,listed,named,written⟩ := (replaced.live valid row).mp ⟨found,live⟩
        obtain ⟨value,store,rfl⟩ := Option.map_eq_some_iff.mp written
        exact ⟨_,here,(declared_items kept id value).mpr ⟨item,listed,named,store⟩⟩
      · rintro ⟨_,found,declared⟩
        cases Option.some.inj (here.symm.trans found)
        obtain ⟨item,listed,named,store⟩ := (declared_items kept id payload).mp declared
        have written : item.row db manifest.manifestRevision = some ⟨payload,manifest.manifestRevision,none⟩ := by
          rw [Item.row,store]
          rfl
        obtain ⟨found,live⟩ := (replaced.live valid _).mpr ⟨item,listed,named,written⟩
        exact ⟨_,found,live,rfl⟩
    · rw [replaced.elsewhere same,elsewhere other same]
      exact projected.live kind other id payload
  · intro kind other id row found live
    by_cases same : other = device
    · subst same
      obtain ⟨item,_,_,written⟩ := (replaced.live valid row).mp ⟨found,live⟩
      obtain ⟨value,_,rfl⟩ := Option.map_eq_some_iff.mp written
      exact ⟨_,here,rfl⟩
    · rw [replaced.elsewhere same] at found
      rw [elsewhere other same]
      exact projected.revision kind other id row found live
  · intro kind other id
    rw [lastAccepted,List.findSome?_cons]
    by_cases same : other = device
    · subst same
      rw [if_pos rfl]
      cases found : itemOf (manifest.items serde kind) id with
      | some item =>
        rw [replaced.item found,Item.row,Option.map_map]
        exact Option.map_id'
      | none =>
        rw [replaced.removed found,Option.map_map]
        exact (congrArg (Option.map · _) (funext fun row => marked_payload)).trans (projected.last kind other id)
    · rw [if_neg fun back => same back.symm,replaced.elsewhere same]
      exact projected.last kind other id
  · intro kind other id seen
    rw [lastAccepted,List.findSome?_cons] at seen
    by_cases same : other = device
    · subst same
      rw [if_pos rfl] at seen
      cases found : itemOf (manifest.items serde kind) id with
      | some item =>
        rw [replaced.item found,Item.row,Option.isSome_map]
        exact replaced.stored kind item (itemOf_some found).1
      | none =>
        rw [found] at seen
        rw [replaced.removed found,Option.isSome_map]
        exact projected.kept kind other id seen
    · rw [if_neg fun back => same back.symm] at seen
      rw [replaced.elsewhere same]
      exact projected.kept kind other id seen

-- Whatever is not accepted leaves everything as it was.
theorem apply_cases (s : ManifestStore) (now : Instant) (user : Uuid) (device : DeviceId) (manifest : DeviceManifest) :
    (s.applyManifest db serde now user device manifest).1 = .ok .accepted ∧ manifest.validate = .ok () ∧
      Replaced db serde s now device manifest (s.applyManifest db serde now user device manifest).2 ∨
    (s.applyManifest db serde now user device manifest).1 ≠ .ok .accepted ∧
      (s.applyManifest db serde now user device manifest).2 = s := by
  unfold applyManifest
  split
  · exact .inr ⟨by simp,rfl⟩
  rename_i valid
  split
  · exact .inr ⟨by simp,rfl⟩
  split
  · rename_i refused found
    refine .inr ⟨?_,rfl⟩
    rintro ⟨⟩
    obtain ⟨row,_,answer⟩ := Option.bind_eq_some_iff.mp found
    rcases @outcome_cases _ _ row.revision manifest.manifestRevision row.payload (manifest.toJson serde) with
      ⟨other,_⟩ | ⟨other,_⟩ | ⟨other,_⟩ | ⟨other,_⟩ | ⟨other,_⟩
    all_goals
      rw [other] at answer
      cases answer
  · split
    · rename_i answer dropped
      refine .inr ⟨?_,rfl⟩
      rcases replaceManifest_dropped valid dropped with rfl | ⟨rfl,_⟩
      · simp
      · simp
    · rename_i s' done
      exact .inl ⟨rfl,valid,replaceManifest_replaced valid done⟩

theorem accepted_snoc (answered : List (Call × Except StoreError StoreOutcome)) (call : Call)
    (answer : Except StoreError StoreOutcome) : accepted (answered ++ [(call,answer)]) =
      if answer = .ok .accepted then (call.device,call.manifest) :: accepted answered else accepted answered := by
  unfold accepted
  rw [List.reverse_append,List.reverse_singleton,List.singleton_append,List.filterMap_cons]
  split
  · rename_i none_
    split at none_
    · cases none_
    · rename_i other
      rw [if_neg other]
  · rename_i found
    split at found
    · rename_i same
      cases found
      exact (if_pos same).symm
    · cases found

theorem projected_answers {answered : List (Call × Except StoreError StoreOutcome)} {call : Call}
    {answer : Except StoreError StoreOutcome} (projected : Projected db serde (accepted answered) s)
    (taken : Answers db serde s (call,answer) s') : Projected db serde (accepted (answered ++ [(call,answer)])) s' := by
  unfold Answers ManifestStore.call at taken
  have cases_ := @apply_cases db serde s call.now call.user call.device call.manifest
  rw [taken] at cases_
  rw [accepted_snoc]
  dsimp only at cases_
  rcases cases_ with ⟨accepts,valid,replaced⟩ | ⟨refused,same⟩
  · rw [if_pos accepts]
    exact projected_replaced valid projected replaced
  · rw [if_neg refused]
    exact same.symm ▸ projected

theorem projected_empty (devices : List (DeviceId × Uuid)) :
    Projected db serde (accepted []) (ManifestStore.empty devices) := by
  have bare : ∀ kind device id, ((ManifestStore.empty devices).rows kind)[itemKey device id]? = none := by
    intro kind device id
    cases kind <;> simp [ManifestStore.rows,ManifestStore.empty]
  refine ⟨?_,?_,?_,?_,?_,?_⟩
  · intro device manifest found
    cases found
  · intro device _
    simp [ManifestStore.empty]
  · intro kind device id payload
    refine iff_of_false ?_ ?_
    · rintro ⟨row,found,_⟩
      rw [bare] at found
      cases found
    · rintro ⟨stored,found,_⟩
      simp [ManifestStore.empty] at found
  · intro kind device id row found
    rw [bare] at found
    cases found
  · intro kind device id
    rw [bare]
    rfl
  · intro kind device id seen
    cases seen

end ManifestStore

-- In every state that calls reach, the newest manifest answered `Accepted` is
-- stored, the live rows are its items, every identifier keeps its last accepted
-- payload, and a call that is not accepted changes nothing.
theorem manifest_projected (db : Jsonb) (serde : Serde) {devices : List (DeviceId × Uuid)}
    {answered : List (ManifestStore.Call × Except StoreError StoreOutcome)} {s : ManifestStore}
    (path : Transition.Runs (ManifestStore.Answers db serde) (.empty devices) answered s) :
    Projected db serde (ManifestStore.accepted answered) s ∧
    ∀ call, (s.call db serde call).1 ≠ .ok .accepted → (s.call db serde call).2 = s := by
  constructor
  · induction path with
    | nil => exact ManifestStore.projected_empty devices
    | snoc _ taken ih => exact ManifestStore.projected_answers ih taken
  · intro call other
    rcases @ManifestStore.apply_cases db serde s call.now call.user call.device call.manifest with
      ⟨accepts,_⟩ | ⟨_,same⟩
    · exact absurd accepts other
    · exact same

-- A screen is declared, then left out: its row stands with the payload that was
-- accepted, live and then removed. Renaming it afterwards is refused.
def bare (revision : Nat) : ManifestStore.Call := ⟨5,1,⟨2⟩,⟨revision,[.displaySurface],⟨1,[]⟩,[],[]⟩⟩

def declaredLog : List (ManifestStore.Call × Except StoreError StoreOutcome) :=
  [(labelCall 1 "Kitchen",.ok .accepted)]
def removedLog : List (ManifestStore.Call × Except StoreError StoreOutcome) :=
  declaredLog ++ [(bare 2,.ok .accepted),(labelCall 3 "Hall",.ok .conflict)]

def kitchen : Json := (Surface.mk "screen.main" .display "Kitchen" [.text]).toJson

def bared : ManifestStore := (renamed.call plainJsonb sampleSerde (bare 2)).2

theorem manifest_projected_renamed : ∃ s s',
    Transition.Runs (ManifestStore.Answers plainJsonb sampleSerde) freshTables declaredLog s ∧
    Projected plainJsonb sampleSerde (ManifestStore.accepted declaredLog) s ∧
    (s.rows .surfaces)[itemKey ⟨2⟩ "screen.main"]? = some ⟨kitchen,1,none⟩ ∧
    Transition.Runs (ManifestStore.Answers plainJsonb sampleSerde) freshTables removedLog s' ∧
    Projected plainJsonb sampleSerde (ManifestStore.accepted removedLog) s' ∧
    (s'.rows .surfaces)[itemKey ⟨2⟩ "screen.main"]? = some ⟨kitchen,1,some 5⟩ ∧
    (s'.call plainJsonb sampleSerde (labelCall 3 "Hall")).2 = s' := by
  have declares : Transition.Runs (ManifestStore.Answers plainJsonb sampleSerde) freshTables declaredLog renamed :=
    .single rfl
  have removes : Transition.Runs (ManifestStore.Answers plainJsonb sampleSerde) freshTables removedLog bared :=
    (declares.snoc (show ManifestStore.Answers plainJsonb sampleSerde _ (bare 2,.ok .accepted) bared from rfl)).snoc rfl
  obtain ⟨first,_⟩ := manifest_projected plainJsonb sampleSerde declares
  obtain ⟨second,refused⟩ := manifest_projected plainJsonb sampleSerde removes
  have conflict : (bared.call plainJsonb sampleSerde (labelCall 3 "Hall")).1 = .ok .conflict := rfl
  exact ⟨_,_,declares,first,rfl,removes,second,rfl,refused _ (by rw [conflict]; simp)⟩

end DeviceControl
