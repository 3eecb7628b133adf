import RockServer.IconBooks

-- Every ready icon has its artifact in the storage, and an override keeps its own.
namespace IconImport
open DeviceControl (Uuid)
open Transition (Runs Under Executes run_reaches guarded_reaches)

theorem digitChar_inj {m n : Nat} (small : m < 16) (small' : n < 16) (same : Nat.digitChar m = Nat.digitChar n) : m = n := by
  have table : ∀ m < 16, ∀ n < 16, Nat.digitChar m = Nat.digitChar n → m = n := by decide
  exact table m small n small' same

theorem hexByte_inj {left right : UInt8} (same : hexByte left = hexByte right) : left = right := by
  simp only [hexByte,List.cons.injEq,and_true] at same
  have bound := left.toNat_lt
  have bound' := right.toNat_lt
  have high := digitChar_inj (by omega) (by omega) same.1
  have low := digitChar_inj (by omega) (by omega) same.2
  exact UInt8.toNat_inj.mp (by omega)

theorem hexBytes_inj {left right : List UInt8} (same : left.flatMap hexByte = right.flatMap hexByte) : left = right := by
  induction left generalizing right with
  | nil =>
    cases right with
    | nil => rfl
    | cons byte rest => simp [hexByte] at same
  | cons byte rest ih =>
    cases right with
    | nil => simp [hexByte] at same
    | cons byte' rest' =>
      rw [List.flatMap_cons,List.flatMap_cons] at same
      have ⟨first,later⟩ := List.append_inj same rfl
      rw [hexByte_inj first,ih later]

-- Artifacts of different hashes have different names.
theorem fromHash_inj {left right : Hash} (same : fromHash left = fromHash right) : left = right := by
  have texts := String.append_left_inj ".webp" |>.mp same
  exact Subtype.ext (hexBytes_inj (String.ofList_injective texts))

variable {lib : Libraries}

-- What is stored under a name has the hash of that name.
def Addressed (digest : List UInt8 → Hash) (storage : Table String (List UInt8)) : Prop :=
  ∀ (key : String) (bytes : List UInt8), storage[key]? = some bytes → key = fromHash (digest bytes)

-- A ready row names the artifact of its hash, and that artifact is there.
def Backed (digest : List UInt8 → Hash) (icons : Table String IconRow) (storage : Table String (List UInt8)) : Prop :=
  ∀ (x : String) (row : IconRow), icons[x]? = some row → row.val.status = .ready →
    ∃ hash bytes, Holds row.val hash ∧ storage[fromHash hash]? = some bytes ∧ digest bytes = hash

-- What makes a row ready is stored before its statement runs.
structure Kept (s : System lib) : Prop where
  addressed : Addressed lib.digest s.storage
  publishing : ∀ (id : Uuid) (x : String) (artifact : PreparedIcon lib.digest) (sourceUrl : String) (sourcePriority : Nat),
    s.workers[id]? = some (.publishing x artifact sourceUrl sourcePriority) → Stored s.storage artifact.contentHash
  uploads : ∀ (request : Nat) (upload : Upload lib), s.uploads[request]? = some upload → upload.stored = true →
    Stored s.storage upload.icon.contentHash
  rows : ∀ (x : String) (row : IconRow), s.icons[x]? = some row → row.val.status = .ready →
    ∃ hash, Holds row.val hash ∧ Stored s.storage hash

variable {s s' : System lib} {action : Action} {x : String} {row : StationIcon}
variable {icons : Table String IconRow} {storage : Table String (List UInt8)}

theorem Kept.empty : Kept (System.empty : System lib) := by
  constructor
  · exact fun _ _ found => by simp [System.empty] at found
  · exact fun _ _ _ _ _ found => by simp [System.empty] at found
  · exact fun _ _ found => by simp [System.empty] at found
  · exact fun _ _ found => by simp [System.empty] at found

theorem Addressed.backed (addressed : Addressed lib.digest storage)
    (rows : ∀ (x : String) (row : IconRow), icons[x]? = some row → row.val.status = .ready →
      ∃ hash, Holds row.val hash ∧ Stored storage hash) : Backed lib.digest icons storage := by
  intro x row found ready
  obtain ⟨hash,holds,stored⟩ := rows x row found ready
  obtain ⟨bytes,present⟩ := Option.isSome_iff_exists.mp stored
  exact ⟨hash,bytes,holds,present,(fromHash_inj (addressed _ bytes present)).symm⟩

theorem write_stored (kept : Kept s) (write : IconWrite s action x row) (ready : row.status = .ready) :
    ∃ hash, Holds row hash ∧ Stored s.storage hash := by
  have old {x : String} {row : StationIcon} (found : icon s x = some row) (ready : row.status = .ready) :
      ∃ hash, Holds row hash ∧ Stored s.storage hash := by
    obtain ⟨row,present,rfl⟩ := Option.map_eq_some_iff.mp found
    exact kept.rows x row present ready
  cases write with
  | catalog =>
    obtain ⟨row,found,was,key,hash⟩ := catalogUpsert_ready ready
    obtain ⟨stored,holds,there⟩ := old found was
    exact ⟨stored,⟨key.trans holds.storageKey,hash.trans holds.contentHash⟩,there⟩
  | manual waiting stored _ => exact ⟨_,manualUpsert_holds,kept.uploads _ _ waiting stored⟩
  | detached _ _ _ => cases ready
  | published working _ =>
    rcases publishUpsert_holds with holds | ⟨row,found,same⟩
    · exact ⟨_,holds,kept.publishing _ _ _ _ _ working⟩
    · obtain ⟨stored,holds,there⟩ := old found (same.status.symm.trans ready)
      exact ⟨stored,⟨same.storageKey.trans holds.storageKey,same.contentHash.trans holds.contentHash⟩,there⟩

-- The rows that a step leaves are backed by what was stored before it.
theorem rows_backed (kept : Kept s) (move : IconMove s action icons storage) : Backed lib.digest icons s.storage := by
  refine kept.addressed.backed fun x row found ready => ?_
  cases move with
  | same | stored _ _ => exact kept.rows x row found ready
  | wrote write =>
    rw [Table.get_insert] at found
    split at found
    · cases found
      exact write_stored kept write ready
    · exact kept.rows x row found ready

theorem IconMove.grows (move : IconMove s action icons storage) {hash : Hash} (stored : Stored s.storage hash) :
    Stored storage hash := by
  cases move with
  | same | wrote _ => exact stored
  | stored artifact _ =>
    unfold Stored
    rw [Table.get_insert]
    split
    · rfl
    · exact stored

theorem IconMove.addressed (move : IconMove s action icons storage) (addressed : Addressed lib.digest s.storage) :
    Addressed lib.digest storage := by
  cases move with
  | same | wrote _ => exact addressed
  | stored artifact _ =>
    intro key bytes found
    rw [Table.get_insert] at found
    split at found
    · rename_i same
      cases found
      rw [← same,artifact.hashed]
    · exact addressed key bytes found

-- A worker reaches its statement, and an upload its own, through the storage.
theorem publishing_stored {id : Uuid} {artifact : PreparedIcon lib.digest} {sourceUrl : String} {sourcePriority : Nat} (kept : Kept s)
    (taken : execute s action = some s') (working : s'.workers[id]? = some (.publishing x artifact sourceUrl sourcePriority)) :
    Stored s'.storage artifact.contentHash := by
  rcases worker_origin taken working with before | ⟨claims,_⟩ | ⟨old,before,_,turn⟩
  · exact (icon_move taken).grows (kept.publishing _ _ _ _ _ before)
  · cases claims
  · generalize reached : Worker.publishing x artifact sourceUrl sourcePriority = worker at turn
    cases turn with
    | stored stored =>
      cases reached
      exact stored
    | @resolved _ web item =>
      unfold afterPlan at reached
      split at reached <;> cases reached
    | _ => cases reached

theorem upload_stored {request : Nat} {upload : Upload lib} (kept : Kept s) (taken : execute s action = some s')
    (waiting : s'.uploads[request]? = some upload) (stored : upload.stored = true) : Stored s'.storage upload.icon.contentHash := by
  have grows := fun hash => @IconMove.grows lib s action s'.icons s'.storage (icon_move taken) hash
  have old (waiting : s.uploads[request]? = some upload) : Stored s'.storage upload.icon.contentHash :=
    grows _ (kept.uploads request upload waiting stored)
  cases action with
  | start id outcome =>
    simp only [execute,start] at taken
    split at taken
    · cases taken
    split at taken
    · cases taken
      exact old waiting
    · cases taken
      split at waiting <;> exact old waiting
  | interruptRunning outcome =>
    cases taken
    cases outcome <;> exact old waiting
  | crash =>
    cases taken
    simp at waiting
  | upload request' stationId source =>
    simp only [execute] at taken
    split at taken
    · cases taken
    split at taken
    · cases taken
      exact old waiting
    split at taken
    · cases taken
      rw [Table.get_insert] at waiting
      split at waiting
      · cases waiting
        cases stored
      · exact old waiting
    · cases taken
      exact old waiting
  | removeManual stationId outcome =>
    simp only [execute,removeManual] at taken
    split at taken
    · cases taken
      exact old waiting
    split at taken
    · obtain ⟨_,_,rfl⟩ := Option.map_eq_some_iff.mp taken
      exact old waiting
    · cases taken
      exact old waiting
  | catalog entry =>
    obtain ⟨_,_,rfl⟩ := Option.map_eq_some_iff.mp taken
    exact old waiting
  | retire stationId =>
    obtain ⟨_,_,rfl⟩ := Option.map_eq_some_iff.mp taken
    exact old waiting
  | storeUpload request' works =>
    obtain ⟨earlier,_,taken⟩ := Option.bind_eq_some_iff.mp taken
    simp only [uploadStep] at taken
    split at taken
    · cases taken
    split at taken
    · rename_i put
      cases taken
      rw [Table.get_insert] at waiting
      split at waiting
      · cases waiting
        exact putAtomic_stored put
      · exact old waiting
    · cases taken
      exact old (Table.get_erase_some waiting).2
  | replaceManual request' outcome =>
    obtain ⟨earlier,_,taken⟩ := Option.bind_eq_some_iff.mp taken
    simp only [uploadStep] at taken
    split at taken
    · cases taken
    split at taken
    · cases taken
      exact old (Table.get_erase_some waiting).2
    · rename_i written
      obtain ⟨_,_,rfl⟩ := Option.map_eq_some_iff.mp written
      split at taken <;> cases taken <;> exact old (Table.get_erase_some waiting).2
  | claim id _ | resolve id _ | store id _ | publish id _ | finish id _ | complete id _ =>
    obtain ⟨worker,working,step⟩ := Option.bind_eq_some_iff.mp taken
    rw [(work_move working rfl step).2.1] at waiting
    exact old waiting

theorem kept_step (kept : Kept s) (taken : execute s action = some s') : Kept s' := by
  have move := icon_move taken
  refine ⟨move.addressed kept.addressed,fun _ _ _ _ _ working => publishing_stored kept taken working,
    fun _ _ waiting stored => upload_stored kept taken waiting stored,fun x row found ready => ?_⟩
  obtain ⟨hash,bytes,holds,present,_⟩ := rows_backed kept move x row found ready
  exact ⟨hash,holds,move.grows (by simp [Stored,present])⟩

theorem kept_run {actions : List Action} (path : Runs (Executes execute) (System.empty : System lib) actions s) :
    Kept s :=
  path.invariant Kept Kept.empty fun _ _ _ kept taken => kept_step kept taken

-- An upload whose statement is carried out.
def replaces (s : System lib) (x : String) : Action → Bool
  | .replaceManual request outcome => outcome.effective && (s.uploads[request]?).any fun upload =>
      upload.stored && upload.stationId = x && (manualUpsert upload.icon (icon s x)).Check
  | _ => false

def removes (s : System lib) (x : String) : Action → Bool
  | .removeManual stationId outcome => outcome.effective && stationId = x && (icon s x).any (·.manualOverride)
  | _ => false

theorem replaced (taken : execute s action = some s') (replacing : replaces s x action = true) :
    ∃ row : IconRow, s'.icons[x]? = some row ∧ row.val.status = .ready ∧ row.val.manualOverride = true := by
  cases action with
  | replaceManual request outcome =>
    obtain ⟨effective,uploaded⟩ := (Bool.and_eq_true _ _).mp replacing
    obtain ⟨upload,waiting,own⟩ := (Option.any_eq_true _ _).mp uploaded
    simp only [Bool.and_eq_true,decide_eq_true_eq] at own
    obtain ⟨⟨stored,rfl⟩,check⟩ := own
    simp only [execute,waiting,Option.bind_some,uploadStep,stored,Bool.not_true,Bool.false_eq_true,↓reduceIte,writeIcon,checked,
      dif_pos check,Option.map_some,effective,Option.some.injEq] at taken
    subst taken
    exact ⟨⟨_,check⟩,Table.get_insert.trans (if_pos rfl),rfl,rfl⟩
  | _ => cases replacing

-- What an override keeps, as long as nobody replaces or removes it.
theorem override_step {row : IconRow} (found : s.icons[x]? = some row) (overridden : row.val.manualOverride = true)
    (taken : execute s action = some s') (keeps : (replaces s x action || removes s x action) = false) :
    ∃ row' : IconRow, s'.icons[x]? = some row' ∧ SameArtifact row.val row'.val := by
  obtain ⟨replacing,removing⟩ := Bool.or_eq_false_iff.mp keeps
  have old : icon s x = some row.val := congrArg (Option.map Subtype.val) found
  have move := icon_move taken
  generalize s'.icons = icons,s'.storage = storage at move ⊢
  cases move with
  | same | stored _ _ => exact ⟨row,found,.refl _⟩
  | @wrote x' row' write =>
    by_cases own : x' = x
    · subst own
      refine ⟨row',Table.get_insert.trans (if_pos rfl),?_⟩
      have check := row'.property
      generalize row'.val = new at write check
      cases write with
      | catalog =>
        rw [old]
        exact catalogUpsert_overridden overridden
      | manual waiting stored effective =>
        simp [replaces,waiting,stored,effective,check] at replacing
      | detached _ _ effective => simp [removes,effective,old,overridden] at removing
      | published _ _ =>
        rw [old]
        exact publishUpsert_overridden overridden
    · exact ⟨row,(Table.get_insert_ne own).trans found,.refl _⟩

def keeps (s : System lib) (x : String) (action : Action) : Bool := !(replaces s x action || removes s x action)

theorem override_run {row : IconRow} {actions : List Action} (found : s.icons[x]? = some row)
    (overridden : row.val.manualOverride = true)
    (path : Runs (Under (fun s a => keeps s x a = true) (Executes execute)) s actions s') :
    ∃ row' : IconRow, s'.icons[x]? = some row' ∧ SameArtifact row.val row'.val := by
  induction path with
  | nil => exact ⟨row,found,.refl _⟩
  | snoc _ taken ih =>
    obtain ⟨row',before,same⟩ := ih
    have kept := (Bool.not_eq_true' _).mp taken.1
    obtain ⟨row'',after,same'⟩ := override_step before (same.manualOverride.trans overridden) taken.2 kept
    exact ⟨row'',after,same.trans same'⟩

theorem ready_icons_backed (lib : Libraries) :
    (∀ (actions : List Action) (s : System lib), Runs (Executes execute) System.empty actions s →
      Backed lib.digest s.icons s.storage ∧
      ∀ (action : Action) (s' : System lib), execute s action = some s' → Backed lib.digest s'.icons s.storage) ∧
    ∀ (s s' : System lib) (action : Action) (x : String), execute s action = some s' → replaces s x action = true →
      ∃ row : IconRow, s'.icons[x]? = some row ∧ row.val.status = .ready ∧ row.val.manualOverride = true ∧
      ∀ (actions : List Action) (after : System lib),
        Runs (Under (fun s a => keeps s x a = true) (Executes execute)) s' actions after →
        ∃ row' : IconRow, after.icons[x]? = some row' ∧ SameArtifact row.val row'.val := by
  constructor
  · intro actions s path
    have kept := kept_run path
    exact ⟨kept.addressed.backed kept.rows,fun action s' taken => rows_backed kept (icon_move taken)⟩
  · intro s s' action x taken replacing
    obtain ⟨row,found,ready,overridden⟩ := replaced taken replacing
    exact ⟨row,found,ready,overridden,fun actions after path => override_run found overridden path⟩

-- An icon is uploaded while a job has claimed its station, and the job publishes.
def uploading : List Action :=
  [.catalog ⟨"calm",none,some "https://calm.example/icon.png"⟩,.start 0 .done,.claim 0 .done,
    .upload 0 "calm" [7],.storeUpload 0 true]

def publishing : List Action :=
  [.resolve 0 ⟨fun _ => .body [8],fun _ => .unusable⟩,.store 0 true,.publish 0 .done,
    .catalog ⟨"calm",none,some "https://calm.example/other.png"⟩]

theorem uploaded_icon_stays : ∃ (s : System plain) (row : IconRow), s.icons["calm"]? = some row ∧ row.val.status = .ready ∧
    Backed plain.digest s.icons s.storage := by
  obtain ⟨s,path,seen⟩ := run_reaches execute (System.empty : System plain) uploading
    (fun s => replaces s "calm" (.replaceManual 0 .done) && (execute s (.replaceManual 0 .done)).any fun s' =>
      (Transition.run (Transition.guarded (fun s => keeps s "calm") execute) s' publishing).any fun _ => true) (by decide)
  obtain ⟨replacing,later⟩ := (Bool.and_eq_true _ _).mp seen
  obtain ⟨s',taken,later⟩ := (Option.any_eq_true _ _).mp later
  obtain ⟨after,keeping,_⟩ := guarded_reaches (fun s => keeps s "calm") execute s' publishing _ later
  obtain ⟨row,_,ready,_,stays⟩ := (ready_icons_backed plain).2 s s' _ "calm" taken replacing
  obtain ⟨row',found,same⟩ := stays publishing after keeping
  have whole := (path.snoc taken).append (keeping.mono fun _ _ _ taken => taken.2)
  exact ⟨after,row',found,same.status.trans ready,((ready_icons_backed plain).1 _ after whole).1⟩

end IconImport
