import RockServer.IconSystem

-- Which statement writes which icon row, and which call stores an artifact.
namespace IconImport
open DeviceControl (Uuid)

variable {lib : Libraries}

-- A row that an action commits.
inductive IconWrite (s : System lib) : Action → String → StationIcon → Prop where
  | catalog {entry} : IconWrite s (.catalog entry) entry.stationId (catalogUpsert entry.favicon (icon s entry.stationId))
  | manual {request outcome upload} : s.uploads[request]? = some upload → upload.stored = true → outcome.effective = true →
      IconWrite s (.replaceManual request outcome) upload.stationId (manualUpsert upload.icon (icon s upload.stationId))
  | detached {x outcome row} : icon s x = some row → row.manualOverride = true → outcome.effective = true →
      IconWrite s (.removeManual x outcome) x (detached row)
  | published {id outcome x artifact sourceUrl sourcePriority} :
      s.workers[id]? = some (.publishing x artifact sourceUrl sourcePriority) → outcome.effective = true →
      IconWrite s (.publish id outcome) x (publishUpsert artifact sourceUrl sourcePriority (icon s x))

-- The icon rows and the storage after an action: one row or one artifact more.
inductive IconMove (s : System lib) (action : Action) : Table String IconRow → Table String (List UInt8) → Prop where
  | same : IconMove s action s.icons s.storage
  | wrote {x row} : IconWrite s action x row.val → IconMove s action (s.icons.insert x row) s.storage
  | stored (artifact : PreparedIcon lib.digest) : s.storage[fromHash artifact.contentHash]? = none →
      IconMove s action s.icons (s.storage.insert (fromHash artifact.contentHash) artifact.bytes)

def Action.worker : Action → Option Uuid
  | .claim id _ | .resolve id _ | .store id _ | .publish id _ | .finish id _ | .complete id _ => some id
  | _ => none

variable {s s' : System lib} {action : Action} {id : Uuid} {x : String} {row : StationIcon}

theorem writeIcon_move (written : writeIcon s x row = some s') (wrote : IconWrite s action x row) :
    IconMove s action s'.icons s'.storage := by
  obtain ⟨row',checks,rfl⟩ := Option.map_eq_some_iff.mp written
  have same := checked_some checks
  exact .wrote (same.symm ▸ wrote)

def Stored (storage : Table String (List UInt8)) (hash : Hash) : Prop := (storage[fromHash hash]?).isSome = true

theorem putAtomic_stored {artifact : PreparedIcon lib.digest} {works : Bool} {storage : Table String (List UInt8)}
    (put : putAtomic s.storage (fromHash artifact.contentHash) artifact.bytes works = some storage) :
    Stored storage artifact.contentHash := by
  unfold putAtomic at put
  split at put
  · cases put
    assumption
  · split at put
    · cases put
      rw [Stored,Table.get_insert,if_pos rfl]
      rfl
    · cases put

theorem putAtomic_move {artifact : PreparedIcon lib.digest} {works : Bool} {storage : Table String (List UInt8)}
    (put : putAtomic s.storage (fromHash artifact.contentHash) artifact.bytes works = some storage) :
    IconMove s action s.icons storage := by
  unfold putAtomic at put
  split at put
  · cases put
    exact .same
  · rename_i absent
    split at put
    · cases put
      exact .stored artifact (by simpa using absent)
    · cases put

theorem completeJob_outside : (completeJob s id).items = s.items ∧ (completeJob s id).icons = s.icons ∧
    (completeJob s id).storage = s.storage ∧ (completeJob s id).uploads = s.uploads ∧ (completeJob s id).stations = s.stations := by
  unfold completeJob
  split
  · split <;> exact ⟨rfl,rfl,rfl,rfl,rfl⟩
  · exact ⟨rfl,rfl,rfl,rfl,rfl⟩

theorem upload_move {request : Nat} {upload : Upload lib} (waiting : s.uploads[request]? = some upload)
    (taken : execute s action = some s') (own : (∃ works, action = .storeUpload request works) ∨
      ∃ outcome, action = .replaceManual request outcome) : IconMove s action s'.icons s'.storage := by
  rcases own with ⟨works,rfl⟩ | ⟨outcome,rfl⟩
  · simp only [execute,waiting,Option.bind_some,uploadStep] at taken
    split at taken
    · cases taken
    split at taken
    · rename_i put
      cases taken
      exact putAtomic_move put
    · cases taken
      exact .same
  · simp only [execute,waiting,Option.bind_some,uploadStep] at taken
    split at taken
    · cases taken
    rename_i stored
    split at taken
    · cases taken
      exact .same
    · rename_i written
      split at taken
      · rename_i effective
        cases taken
        obtain ⟨row,checks,rfl⟩ := Option.map_eq_some_iff.mp written
        have same := checked_some checks
        exact .wrote (same.symm ▸ IconWrite.manual waiting (by simpa using stored) effective)
      · cases taken
        exact .same

-- The turns of a worker: at most one row or one artifact, and no upload or station.
theorem work_move {worker : Worker lib} (working : s.workers[id]? = some worker) (own : action.worker = some id)
    (taken : workerStep s id worker action = some s') :
    IconMove s action s'.icons s'.storage ∧ s'.uploads = s.uploads ∧ s'.stations = s.stations := by
  cases action with
  | claim id' outcome =>
    cases worker with
    | claiming =>
      cases taken
      unfold claim
      split
      · exact ⟨.same,rfl,rfl⟩
      · cases outcome <;> exact ⟨.same,rfl,rfl⟩
    | _ => cases taken
  | resolve id' web =>
    cases worker with
    | resolving item =>
      cases taken
      exact ⟨.same,rfl,rfl⟩
    | _ => cases taken
  | store id' works =>
    cases worker with
    | storing x artifact sourceUrl sourcePriority =>
      simp only [workerStep] at taken
      split at taken
      · rename_i put
        cases taken
        exact ⟨putAtomic_move put,rfl,rfl⟩
      · cases taken
        exact ⟨.same,rfl,rfl⟩
    | _ => cases taken
  | publish id' outcome =>
    obtain rfl := Option.some.inj own
    cases worker with
    | publishing x artifact sourceUrl sourcePriority =>
      simp only [workerStep] at taken
      cases taken
      unfold publish
      split
      · exact ⟨.same,rfl,rfl⟩
      · rename_i written
        obtain ⟨row,checks,rfl⟩ := Option.map_eq_some_iff.mp written
        have same := checked_some checks
        by_cases effective : outcome.effective = true
        · simp only [if_pos effective]
          exact ⟨.wrote (same.symm ▸ IconWrite.published working effective),rfl,rfl⟩
        · simp only [if_neg effective]
          exact ⟨.same,rfl,rfl⟩
    | _ => cases taken
  | finish id' outcome =>
    cases worker with
    | finishing x result =>
      cases taken
      cases outcome <;> exact ⟨.same,rfl,rfl⟩
    | _ => cases taken
  | complete id' outcome =>
    cases worker with
    | completing =>
      cases taken
      have ⟨_,icons,storage,uploads,stations⟩ := @completeJob_outside lib s id
      cases outcome with
      | failed => exact ⟨.same,rfl,rfl⟩
      | done | unanswered =>
        refine ⟨?_,uploads,stations⟩
        change IconMove s _ (completeJob s id).icons (completeJob s id).storage
        rw [icons,storage]
        exact .same
    | _ => cases taken
  | _ => cases own

theorem icon_move (taken : execute s action = some s') : IconMove s action s'.icons s'.storage := by
  cases action with
  | start id outcome =>
    simp only [execute,start] at taken
    split at taken
    · cases taken
    split at taken
    · cases taken
      exact .same
    · cases taken
      split <;> exact .same
  | interruptRunning outcome =>
    cases taken
    cases outcome <;> exact .same
  | crash =>
    cases taken
    exact .same
  | upload request stationId source =>
    simp only [execute] at taken
    split at taken
    · cases taken
    · split at taken
      · cases taken
        exact .same
      · split at taken <;> cases taken <;> exact .same
  | removeManual stationId outcome =>
    simp only [execute,removeManual] at taken
    split at taken
    · cases taken
      exact .same
    · rename_i present
      split at taken
      · rename_i own
        obtain ⟨overridden,effective⟩ := (Bool.and_eq_true _ _).mp own
        exact writeIcon_move taken (.detached present overridden effective)
      · cases taken
        exact .same
  | catalog entry =>
    simp only [execute,importEntry] at taken
    obtain ⟨row,checks,rfl⟩ := Option.map_eq_some_iff.mp taken
    have same := checked_some checks
    exact .wrote (same.symm ▸ IconWrite.catalog)
  | retire stationId =>
    obtain ⟨station,_,rfl⟩ := Option.map_eq_some_iff.mp taken
    exact .same
  | storeUpload request works =>
    obtain ⟨upload,waiting,_⟩ := Option.bind_eq_some_iff.mp taken
    exact upload_move waiting taken (.inl ⟨works,rfl⟩)
  | replaceManual request outcome =>
    obtain ⟨upload,waiting,_⟩ := Option.bind_eq_some_iff.mp taken
    exact upload_move waiting taken (.inr ⟨outcome,rfl⟩)
  | claim id _ | resolve id _ | store id _ | publish id _ | finish id _ | complete id _ =>
    obtain ⟨worker,working,taken⟩ := Option.bind_eq_some_iff.mp taken
    exact (work_move working rfl taken).1

end IconImport
