import RockServer.ManifestStore

namespace DeviceControl

-- Which manifests are accepted after one another. The first part says once what
-- writing the items of one table does to it.
section items
variable {db : Jsonb} {device other : DeviceId} {revision : Nat} {rows rows' : ProjectionTable} {item : Item}
  {items : List Item} {now : Instant} {id : String}

theorem itemKey_inj {id' : String} : itemKey device id = itemKey other id' ↔ device = other ∧ id = id' := by
  obtain ⟨uuid⟩ := device
  obtain ⟨uuid'⟩ := other
  simp only [itemKey,EmbeddingLike.apply_eq_iff_eq,Prod.mk.injEq,DeviceId.mk.injEq]

def ProjectionRow.marked (device : DeviceId) (now : Instant) (other : DeviceId) (row : ProjectionRow) : ProjectionRow :=
  if other = device ∧ row.removedAt.isNone then {row with removedAt := some now} else row

theorem tombstone_get : (tombstone device now rows)[itemKey other id]? =
    rows[itemKey other id]?.map (ProjectionRow.marked device now other) := by
  obtain ⟨uuid⟩ := device
  obtain ⟨uuid'⟩ := other
  rw [tombstone,Table.get_mapKey]
  refine congrArg (fun mark => Option.map mark _) (funext fun row => ?_)
  simp only [itemKey,ofLex_toLex,ProjectionRow.marked,DeviceId.mk.injEq]
  exact if_congr Iff.rfl rfl rfl

theorem marked_payload {row : ProjectionRow} : (row.marked device now other).payload = row.payload := by
  unfold ProjectionRow.marked
  split
  · rfl
  · rfl

theorem marked_removed {row : ProjectionRow} : (row.marked device now device).removedAt.isSome = true := by
  unfold ProjectionRow.marked
  split
  · rfl
  · rename_i removed
    simpa [Option.isSome_iff_ne_none] using removed

-- When an item can be written: no removed row of its identifier differs, and
-- the columns take its values.
structure Item.Fits (db : Jsonb) (device : DeviceId) (revision : Nat) (rows : ProjectionTable) (item : Item) : Prop where
  same : ∀ row, rows[itemKey device item.id]? = some row → row.removedAt.isSome = true → row.payload = item.payload
  checked : item.checked = true
  revision : columnRevision revision = true
  stored : (db.store item.payload).isSome = true

def Item.row (db : Jsonb) (revision : Nat) (item : Item) : Option ProjectionRow :=
  (db.store item.payload).map fun stored => ⟨stored,revision,none⟩

theorem upsertItem_ok : upsertItem db device revision rows item = .ok rows' ↔
    item.checked = true ∧ columnRevision revision = true ∧
    ∃ row, item.row db revision = some row ∧ rows' = rows.insert (itemKey device item.id) row := by
  unfold upsertItem Item.row
  cases db.store item.payload with
  | none => simp
  | some stored =>
    by_cases column : item.checked = true ∧ columnRevision revision = true
    · simp [column.1,column.2,eq_comm]
    · have refused : (!item.checked || !columnRevision revision) = true := by
        rw [not_and_or,Bool.not_eq_true,Bool.not_eq_true] at column
        rcases column with no | no <;> simp [no]
      simp only [refused,if_true,reduceCtorEq,false_iff]
      exact fun taken => column ⟨taken.1,taken.2.1⟩

theorem projection_ok : projection db device revision rows item = .ok rows' ↔ item.Fits db device revision rows ∧
    ∃ row, item.row db revision = some row ∧ rows' = rows.insert (itemKey device item.id) row := by
  have stored : ∀ row, item.row db revision = some row → (db.store item.payload).isSome = true := by
    intro row written
    obtain ⟨stored,kept,_⟩ := Option.map_eq_some_iff.mp written
    rw [kept]
    rfl
  unfold projection
  split
  · rename_i row found
    split
    · rename_i differs
      simp only [Bool.and_eq_true,decide_eq_true_eq] at differs
      refine iff_of_false (by simp) fun taken => ?_
      exact differs.2 (taken.1.same row found differs.1)
    · rename_i fits
      rw [upsertItem_ok]
      constructor
      · rintro ⟨checked,column,written⟩
        refine ⟨⟨fun row' found' removed => ?_,checked,column,stored _ written.choose_spec.1⟩,written⟩
        cases Option.some.inj (found.symm.trans found')
        by_contra differs
        exact fits (by simp [removed,differs])
      · rintro ⟨fits,written⟩
        exact ⟨fits.checked,fits.revision,written⟩
  · rename_i absent
    rw [upsertItem_ok]
    constructor
    · rintro ⟨checked,column,written⟩
      refine ⟨⟨fun row found _ => ?_,checked,column,stored _ written.choose_spec.1⟩,written⟩
      rw [absent] at found
      cases found
    · rintro ⟨fits,written⟩
      exact ⟨fits.checked,fits.revision,written⟩

def itemOf (items : List Item) (id : String) : Option Item := items.find? fun item => item.id = id

def writtenRow (db : Jsonb) (device : DeviceId) (revision : Nat) (items : List Item) (rows : ProjectionTable)
    (other : DeviceId) (id : String) : Option ProjectionRow :=
  match if other = device then itemOf items id else none with
  | some item => item.row db revision
  | none => rows[itemKey other id]?

theorem fits_insert {rest : Item} (row : ProjectionRow) (apart : rest.id ≠ item.id) :
    rest.Fits db device revision (rows.insert (itemKey device item.id) row) ↔ rest.Fits db device revision rows := by
  have kept : (rows.insert (itemKey device item.id) row)[itemKey device rest.id]? = rows[itemKey device rest.id]? :=
    Table.get_insert_ne fun same => apart (itemKey_inj.mp same).2.symm
  constructor
  · rintro ⟨same,checked,column,stored⟩
    exact ⟨kept ▸ same,checked,column,stored⟩
  · rintro ⟨same,checked,column,stored⟩
    exact ⟨kept ▸ same,checked,column,stored⟩

-- Items of different identifiers are written one after another exactly if each
-- of them fits the table as it was.
theorem items_ok (distinct : (items.map Item.id).Nodup) :
    (∃ rows', items.foldlM (projection db device revision) rows = .ok rows') ↔
      ∀ item ∈ items, item.Fits db device revision rows := by
  induction items generalizing rows with
  | nil => simp [pure,Except.pure]
  | cons item rest ih =>
    obtain ⟨fresh,distinct⟩ := List.nodup_cons.mp distinct
    have apart : ∀ other ∈ rest, other.id ≠ item.id := fun other listed same =>
      fresh (same ▸ List.mem_map_of_mem listed)
    rw [List.foldlM_cons,List.forall_mem_cons]
    constructor
    · rintro ⟨rows',done⟩
      obtain ⟨middle,first,done⟩ := bind_done done
      obtain ⟨fits,row,_,rfl⟩ := projection_ok.mp first
      refine ⟨fits,fun other listed => (fits_insert row (apart other listed)).mp ?_⟩
      exact (ih distinct).mp ⟨rows',done⟩ other listed
    · rintro ⟨fits,others⟩
      obtain ⟨stored,kept⟩ := Option.isSome_iff_exists.mp fits.stored
      have written : item.row db revision = some ⟨stored,revision,none⟩ := by rw [Item.row,kept]; rfl
      have first := projection_ok.mpr ⟨fits,_,written,rfl⟩
      obtain ⟨rows',done⟩ := (@ih (rows.insert (itemKey device item.id) ⟨stored,revision,none⟩) distinct).mpr
        fun other listed => (fits_insert _ (apart other listed)).mpr (others other listed)
      exact ⟨rows',by rw [first]; exact done⟩

theorem items_rows (distinct : (items.map Item.id).Nodup)
    (done : items.foldlM (projection db device revision) rows = .ok rows') (other : DeviceId) (id : String) :
    rows'[itemKey other id]? = writtenRow db device revision items rows other id := by
  induction items generalizing rows with
  | nil =>
    cases done
    simp [writtenRow,itemOf]
  | cons item rest ih =>
    obtain ⟨fresh,distinct⟩ := List.nodup_cons.mp distinct
    rw [List.foldlM_cons] at done
    obtain ⟨middle,first,done⟩ := bind_done done
    obtain ⟨fits,row,written,rfl⟩ := projection_ok.mp first
    rw [ih distinct done]
    unfold writtenRow
    by_cases here : other = device
    · subst here
      simp only [if_true,itemOf,List.find?_cons]
      by_cases same : item.id = id
      · subst same
        have none_ : rest.find? (fun other => other.id = item.id) = none := by
          rw [List.find?_eq_none]
          intro other listed
          rw [decide_eq_true_eq]
          exact fun same => fresh (same ▸ List.mem_map_of_mem listed)
        simp only [none_,decide_true,written]
        exact Table.get_insert.trans (if_pos rfl)
      · simp only [same,decide_false]
        cases rest.find? (fun other => other.id = id) with
        | some found => rfl
        | none => exact Table.get_insert_ne fun key => same (itemKey_inj.mp key).2
    · simp only [if_neg here]
      exact Table.get_insert_ne fun key => here (itemKey_inj.mp key).1.symm

-- What stops the transaction is a conflict, or a value that no column takes.
theorem items_dropped {answer : Dropped} (stopped : items.foldlM (projection db device revision) rows = .error answer) :
    answer = .ok .conflict ∨ answer = .error .database ∧
      ∃ item ∈ items, ¬ (item.checked = true ∧ columnRevision revision = true ∧ (db.store item.payload).isSome = true) := by
  induction items generalizing rows with
  | nil => cases stopped
  | cons item rest ih =>
    rw [List.foldlM_cons] at stopped
    cases first : projection db device revision rows item with
    | ok rows' =>
      rw [first] at stopped
      exact (ih stopped).imp_right fun ⟨failed,other,listed,column⟩ => ⟨failed,other,List.mem_cons_of_mem _ listed,column⟩
    | error answer' =>
      rw [first] at stopped
      cases stopped
      have upserted : upsertItem db device revision rows item = .error answer → answer = .error .database ∧
          ¬ (item.checked = true ∧ columnRevision revision = true ∧ (db.store item.payload).isSome = true) := by
        intro failed
        unfold upsertItem at failed
        split at failed
        · rename_i unstored
          cases failed
          exact ⟨rfl,fun column => by simp [unstored] at column⟩
        · split at failed
          · rename_i refused
            cases failed
            exact ⟨rfl,fun column => by simp [column.1,column.2.1] at refused⟩
          · cases failed
      have here : upsertItem db device revision rows item = .error answer → answer = .ok .conflict ∨
          answer = .error .database ∧ ∃ other ∈ item :: rest, ¬ (other.checked = true ∧ columnRevision revision = true ∧
            (db.store other.payload).isSome = true) :=
        fun failed => .inr ⟨(upserted failed).1,item,List.mem_cons_self,(upserted failed).2⟩
      unfold projection at first
      split at first
      · split at first
        · cases first
          exact .inl rfl
        · exact here first
      · exact here first

end items
section manifest
variable {serde : Serde} {manifest : DeviceManifest} {kind : Projection}

theorem manifest_ids (valid : manifest.validate = .ok ()) : ((manifest.items serde kind).map Item.id).Nodup := by
  obtain ⟨_,names,entities,surfaces⟩ := manifest_distinct valid
  cases kind with
  | capabilities => simpa [DeviceManifest.items,Function.comp_def] using names
  | entities => simpa [DeviceManifest.items,Function.comp_def] using entities
  | surfaces => simpa [DeviceManifest.items,Function.comp_def] using surfaces

theorem version_positive {capability : DeviceCapability} (valid : capability.validate = .ok ()) : 0 < capability.version := by
  cases capability with
  | unknown name version extra =>
    refine Nat.pos_of_ne_zero fun zero => ?_
    cases zero
    simp [DeviceCapability.validate,invalid] at valid
  | _ => exact Nat.one_pos

theorem manifest_checked (valid : manifest.validate = .ok ()) :
    ∀ item ∈ manifest.items serde kind, item.checked = true := by
  intro item listed
  cases kind with
  | capabilities =>
    obtain ⟨capability,declared,rfl⟩ := List.mem_map.mp listed
    exact decide_eq_true (version_positive (manifest_capabilities valid capability declared))
  | entities =>
    obtain ⟨entity,_,rfl⟩ := List.mem_map.mp listed
    rfl
  | surfaces =>
    obtain ⟨surface,_,rfl⟩ := List.mem_map.mp listed
    rfl

end manifest

namespace ManifestStore
variable {db : Jsonb} {serde : Serde} {s s' : ManifestStore} {now : Instant} {user : Uuid} {device : DeviceId}
  {manifest : DeviceManifest} {kind : Projection}

-- A first manifest, or the one after the accepted one.
def Successor (s : ManifestStore) (device : DeviceId) (manifest : DeviceManifest) : Prop :=
  ∀ row, s.manifests[device.uuid]? = some row → manifest.manifestRevision = row.revision + 1

-- An identifier that is stored with another payload is declared: a removed one,
-- or one that is live before the call.
def Redeclares (s : ManifestStore) (serde : Serde) (device : DeviceId) (manifest : DeviceManifest) (removed : Bool) : Prop :=
  ∃ kind, ∃ item ∈ manifest.items serde kind, ∃ row, (s.rows kind)[itemKey device item.id]? = some row ∧
    row.removedAt.isSome = removed ∧ row.payload ≠ item.payload

-- The columns take the revision and every payload.
structure Storable (db : Jsonb) (serde : Serde) (manifest : DeviceManifest) : Prop where
  revision : columnRevision manifest.manifestRevision = true
  items : ∀ kind, ∀ item ∈ manifest.items serde kind, (db.store item.payload).isSome = true
  manifest : (db.store (manifest.toJson serde)).isSome = true

theorem projectItems_ok (valid : manifest.validate = .ok ()) :
    (∃ rows, s.projectItems db serde now device manifest kind = .ok rows) ↔ ∀ item ∈ manifest.items serde kind,
      (∀ row, (s.rows kind)[itemKey device item.id]? = some row → row.payload = item.payload) ∧
      columnRevision manifest.manifestRevision = true ∧ (db.store item.payload).isSome = true := by
  unfold projectItems
  rw [items_ok (manifest_ids valid)]
  refine forall₂_congr fun item listed => ⟨?_,?_⟩
  · rintro ⟨same,_,column,stored⟩
    refine ⟨fun row found => ?_,column,stored⟩
    have marked := @tombstone_get device device (s.rows kind) now item.id
    rw [found,Option.map_some] at marked
    exact marked_payload.symm.trans (same _ marked marked_removed)
  · rintro ⟨same,column,stored⟩
    refine ⟨fun row found _ => ?_,manifest_checked valid item listed,column,stored⟩
    rw [tombstone_get] at found
    obtain ⟨row',present,rfl⟩ := Option.map_eq_some_iff.mp found
    exact marked_payload.trans (same row' present)

theorem upsertManifest_ok {manifests : Table Uuid ManifestRow} {revision : Nat} {payload : Json} :
    (∃ manifests', upsertManifest db device revision manifests payload = .ok manifests') ↔
      columnRevision revision = true ∧ (db.store payload).isSome = true := by
  unfold upsertManifest
  cases db.store payload with
  | none => simp
  | some stored => cases columnRevision revision <;> simp

theorem replaceManifest_ok (valid : manifest.validate = .ok ()) :
    (∃ s', s.replaceManifest db serde now device manifest = .ok s') ↔ Storable db serde manifest ∧
      ¬ s.Redeclares serde device manifest true ∧ ¬ s.Redeclares serde device manifest false := by
  have kept : (¬ s.Redeclares serde device manifest true ∧ ¬ s.Redeclares serde device manifest false) ↔
      ∀ kind, ∀ item ∈ manifest.items serde kind, ∀ row, (s.rows kind)[itemKey device item.id]? = some row →
        row.payload = item.payload := by
    constructor
    · rintro ⟨removed,live⟩ kind item listed row found
      by_contra differs
      cases gone : row.removedAt.isSome with
      | true => exact removed ⟨kind,item,listed,row,found,gone,differs⟩
      | false => exact live ⟨kind,item,listed,row,found,gone,differs⟩
    · intro same
      refine ⟨?_,?_⟩
      all_goals
        rintro ⟨kind,item,listed,row,found,_,differs⟩
        exact differs (same kind item listed row found)
  rw [kept]
  constructor
  · rintro ⟨s',done⟩
    obtain ⟨capabilities,first,done⟩ := bind_done done
    obtain ⟨entities,second,done⟩ := bind_done done
    obtain ⟨surfaces,third,done⟩ := bind_done done
    obtain ⟨manifests,last,_⟩ := bind_done done
    have written : ∀ kind, ∃ rows, s.projectItems db serde now device manifest kind = .ok rows := by
      intro kind
      cases kind with
      | capabilities => exact ⟨_,first⟩
      | entities => exact ⟨_,second⟩
      | surfaces => exact ⟨_,third⟩
    obtain ⟨column,stored⟩ := upsertManifest_ok.mp ⟨manifests,last⟩
    refine ⟨⟨column,fun kind item listed => ?_,stored⟩,fun kind item listed => ?_⟩
    · exact ((projectItems_ok valid).mp (written kind) item listed).2.2
    · exact ((projectItems_ok valid).mp (written kind) item listed).1
  · rintro ⟨storable,same⟩
    have written : ∀ kind, ∃ rows, s.projectItems db serde now device manifest kind = .ok rows := fun kind =>
      (projectItems_ok valid).mpr fun item listed =>
        ⟨same kind item listed,storable.revision,storable.items kind item listed⟩
    obtain ⟨capabilities,first⟩ := written .capabilities
    obtain ⟨entities,second⟩ := written .entities
    obtain ⟨surfaces,third⟩ := written .surfaces
    obtain ⟨manifests,last⟩ := (@upsertManifest_ok db device s.manifests _ _).mpr ⟨storable.revision,storable.manifest⟩
    refine ⟨⟨s.devices,manifests,capabilities,entities,surfaces⟩,?_⟩
    unfold replaceManifest
    rw [first,second,third]
    change (upsertManifest db device manifest.manifestRevision s.manifests (manifest.toJson serde) >>= _) = _
    rw [last]
    rfl

theorem bind_stops {E A B : Type} {next : A → Except E B} {first : Except E A} {e : E} (stopped : first >>= next = .error e) :
    first = .error e ∨ ∃ a, first = .ok a ∧ next a = .error e := by
  cases first with
  | error other =>
    cases stopped
    exact .inl rfl
  | ok a => exact .inr ⟨a,rfl,stopped⟩

theorem replaceManifest_dropped (valid : manifest.validate = .ok ()) {answer : Dropped}
    (stopped : s.replaceManifest db serde now device manifest = .error answer) :
    answer = .ok .conflict ∨ answer = .error .database ∧ ¬ Storable db serde manifest := by
  have items : ∀ kind, s.projectItems db serde now device manifest kind = .error answer →
      answer = .ok .conflict ∨ answer = .error .database ∧ ¬ Storable db serde manifest := by
    intro kind stopped
    refine (items_dropped stopped).imp_right fun ⟨failed,item,listed,column⟩ => ⟨failed,fun storable => column ?_⟩
    exact ⟨manifest_checked valid item listed,storable.revision,storable.items kind item listed⟩
  rcases bind_stops stopped with first | ⟨_,_,stopped⟩
  · exact items .capabilities first
  rcases bind_stops stopped with second | ⟨_,_,stopped⟩
  · exact items .entities second
  rcases bind_stops stopped with third | ⟨_,_,stopped⟩
  · exact items .surfaces third
  rcases bind_stops stopped with last | ⟨_,_,stopped⟩
  · refine .inr ⟨?_,fun storable => ?_⟩
    · unfold upsertManifest at last
      split at last
      · cases last
        rfl
      · split at last
        · cases last
          rfl
        · cases last
    · obtain ⟨manifests,done⟩ := (@upsertManifest_ok db device s.manifests _ _).mpr
        ⟨storable.revision,storable.manifest⟩
      rw [done] at last
      cases last
  · cases stopped

theorem successor_goes_on (successor : s.Successor device manifest) :
    (s.manifests[device.uuid]?.bind fun row =>
      outcome row.revision row.payload manifest.manifestRevision (manifest.toJson serde)) = none := by
  cases found : s.manifests[device.uuid]? with
  | none => rfl
  | some row =>
    have next := successor row found
    rw [Option.bind_some]
    rcases @outcome_cases _ _ row.revision manifest.manifestRevision row.payload (manifest.toJson serde) with
      ⟨none_,_⟩ | ⟨_,older⟩ | ⟨_,same,_⟩ | ⟨_,same,_⟩ | ⟨_,far⟩
    · exact none_
    all_goals omega

theorem apply_successor (valid : manifest.validate = .ok ()) (owns : s.owned user device = true)
    (successor : s.Successor device manifest) : (s.applyManifest db serde now user device manifest) =
    match s.replaceManifest db serde now device manifest with
    | .error answer => (answer,s)
    | .ok s' => (.ok .accepted,s') := by
  cases ran : s.replaceManifest db serde now device manifest with
  | error answer =>
    simp only [applyManifest,valid,owns,Bool.not_true,Bool.false_eq_true,if_false,successor_goes_on successor,ran]
  | ok s' => simp only [applyManifest,valid,owns,Bool.not_true,Bool.false_eq_true,if_false,successor_goes_on successor,ran]

end ManifestStore

-- A valid manifest of the owner that is the device's first or next one.
structure ManifestStore.Succeeds (s : ManifestStore) (call : ManifestStore.Call) : Prop where
  valid : call.manifest.validate = .ok ()
  owns : s.owned call.user call.device = true
  successor : s.Successor call.device call.manifest

def ManifestStore.Evolves (db : Jsonb) (serde : Serde) (s : ManifestStore) (call : ManifestStore.Call) : Prop :=
  s.Succeeds call → ¬ s.Redeclares serde call.device call.manifest true → (s.call db serde call).1 = .ok .accepted

def ManifestStore.KeepsLive (db : Jsonb) (serde : Serde) (s : ManifestStore) (call : ManifestStore.Call) : Prop :=
  s.Succeeds call → s.Redeclares serde call.device call.manifest true ∨
    ¬ s.Redeclares serde call.device call.manifest false ∧ ManifestStore.Storable db serde call.manifest

namespace ManifestStore
variable {db : Jsonb} {serde : Serde} {s : ManifestStore} {call : Call}

-- A change of a live payload is answered like the reuse of a removed identifier.
theorem live_change_conflicts (succeeds : s.Succeeds call) (changed : s.Redeclares serde call.device call.manifest false)
    (storable : Storable db serde call.manifest) : (s.call db serde call).1 = .ok .conflict := by
  obtain ⟨valid,owns,successor⟩ := succeeds
  rw [ManifestStore.call,apply_successor valid owns successor]
  cases ran : s.replaceManifest db serde call.now call.device call.manifest with
  | ok s' =>
    obtain ⟨_,_,live⟩ := (replaceManifest_ok valid).mp ⟨s',ran⟩
    exact absurd changed live
  | error answer =>
    rcases replaceManifest_dropped valid ran with conflict | ⟨_,unstorable⟩
    · exact conflict
    · exact absurd storable unstorable

theorem evolves_iff : Evolves db serde s call ↔ KeepsLive db serde s call := by
  refine forall_congr' fun succeeds => ?_
  obtain ⟨valid,owns,successor⟩ := succeeds
  have exact_ := @replaceManifest_ok db serde s call.now call.device call.manifest valid
  rw [ManifestStore.call,apply_successor valid owns successor]
  cases ran : s.replaceManifest db serde call.now call.device call.manifest with
  | ok s' =>
    obtain ⟨storable,_,live⟩ := exact_.mp ⟨s',ran⟩
    exact iff_of_true (fun _ => rfl) (.inr ⟨live,storable⟩)
  | error answer =>
    have refused : answer ≠ .ok .accepted := by
      rcases replaceManifest_dropped valid ran with rfl | ⟨rfl,_⟩
      · simp
      · simp
    constructor
    · intro kept
      by_contra missed
      rw [not_or] at missed
      exact refused (kept missed.1)
    · rintro (reused | ⟨live,storable⟩) fresh
      · exact absurd reused fresh
      · obtain ⟨s',done⟩ := exact_.mpr ⟨storable,fresh,live⟩
        rw [ran] at done
        cases done

end ManifestStore

-- Along every sequence of calls the successors are accepted as they should
-- exactly if each of them reuses a removed identifier differently, or leaves
-- every live payload as it is and can be stored.
theorem manifests_evolve_iff (db : Jsonb) (serde : Serde) {origin s : ManifestStore} {calls : List ManifestStore.Call} :
    (Transition.Runs (Transition.Under (ManifestStore.Evolves db serde) (ManifestStore.Applies db serde)) origin calls s ↔
      Transition.Runs (Transition.Under (ManifestStore.KeepsLive db serde) (ManifestStore.Applies db serde))
        origin calls s) ∧
    ∀ call, (s.Evolves db serde call ↔ s.KeepsLive db serde call) ∧
      (s.Succeeds call → s.Redeclares serde call.device call.manifest false → ManifestStore.Storable db serde call.manifest →
        (s.call db serde call).1 = .ok .conflict) := by
  refine ⟨⟨fun path => ?_,fun path => ?_⟩,fun call => ⟨ManifestStore.evolves_iff,?_⟩⟩
  · exact path.mono fun _ _ _ taken => ⟨ManifestStore.evolves_iff.mp taken.1,taken.2⟩
  · exact path.mono fun _ _ _ taken => ⟨ManifestStore.evolves_iff.mpr taken.1,taken.2⟩
  · exact fun succeeds changed storable => ManifestStore.live_change_conflicts succeeds changed storable

def plainJsonb : Jsonb where
  store := some
  string _ _ stored := (Option.some.inj stored).symm
  array items _ stored := ⟨items,List.mapM_pure.trans (congrArg some (List.map_id items)),(Option.some.inj stored).symm⟩
  object fields _ stored := ⟨fields,(Option.some.inj stored).symm,fun _ value found => ⟨value,rfl,found⟩⟩

def labelled (revision : Nat) (label : String) : DeviceManifest :=
  ⟨revision,[.displaySurface],⟨1,[]⟩,[],[⟨"screen.main",.display,label,[.text]⟩]⟩

def freshTables : ManifestStore := .empty [(⟨2⟩,1)]

def labelCall (revision : Nat) (label : String) : ManifestStore.Call := ⟨0,1,⟨2⟩,labelled revision label⟩

def renamed : ManifestStore := (freshTables.call plainJsonb sampleSerde (labelCall 1 "Kitchen")).2

theorem renamed_row : (renamed.rows .surfaces)[itemKey ⟨2⟩ "screen.main"]? =
    some ⟨(Surface.mk "screen.main" .display "Kitchen" [.text]).toJson,1,none⟩ := by rfl

theorem renamed_succeeds (label : String) (short : (labelled 2 label).validate = .ok ()) :
    renamed.Succeeds (labelCall 2 label) := by
  refine ⟨short,rfl,fun row found => ?_⟩
  have stored : renamed.manifests[(2 : Uuid)]? = some ⟨1,(labelled 1 "Kitchen").toJson sampleSerde⟩ := by rfl
  cases Option.some.inj (stored.symm.trans found)
  rfl

theorem renamed_live (label : String) : ¬ renamed.Redeclares sampleSerde ⟨2⟩ (labelled 2 label) true := by
  rintro ⟨kind,item,listed,row,found,removed,_⟩
  cases kind with
  | capabilities | entities => cases listed
  | surfaces =>
    cases List.mem_singleton.mp listed
    cases Option.some.inj (renamed_row.symm.trans found)
    cases removed

theorem manifests_evolve_iff_unchanged :
    (renamed.call plainJsonb sampleSerde (labelCall 2 "Kitchen")).1 = .ok .accepted := by
  have live : ¬ renamed.Redeclares sampleSerde ⟨2⟩ (labelled 2 "Kitchen") false := by
    rintro ⟨kind,item,listed,row,found,_,differs⟩
    cases kind with
    | capabilities | entities => cases listed
    | surfaces =>
      cases List.mem_singleton.mp listed
      cases Option.some.inj (renamed_row.symm.trans found)
      exact differs rfl
  have storable : ManifestStore.Storable plainJsonb sampleSerde (labelled 2 "Kitchen") :=
    ⟨by decide,fun _ _ _ => rfl,rfl⟩
  have evolves := ((@manifests_evolve_iff plainJsonb sampleSerde renamed renamed []).2 (labelCall 2 "Kitchen")).1
  exact evolves.mpr (fun _ => .inr ⟨live,storable⟩) (renamed_succeeds "Kitchen" (by decide)) (renamed_live "Kitchen")

-- A device renames its screen in the manifest after its first.
theorem renamed_surface_refused : ¬ ∀ db serde devices calls s call,
    Transition.Runs (ManifestStore.Applies db serde) (.empty devices) calls s → s.Evolves db serde call := by
  intro claimed
  have path : Transition.Runs (ManifestStore.Applies plainJsonb sampleSerde) freshTables [labelCall 1 "Kitchen"] renamed :=
    .single rfl
  have accepted := claimed _ _ _ _ _ (labelCall 2 "Hall") path (renamed_succeeds "Hall" (by decide)) (renamed_live "Hall")
  have refused : (renamed.call plainJsonb sampleSerde (labelCall 2 "Hall")).1 = .ok .conflict := by rfl
  rw [refused] at accepted
  cases accepted

end DeviceControl
