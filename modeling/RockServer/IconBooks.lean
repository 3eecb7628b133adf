import RockServer.IconWrites

-- The books of icon jobs: how many run, and what their counters say of their items.
namespace IconImport
open DeviceControl (Uuid)

variable {lib : Libraries}

-- The item of the snapshot that a worker has in hand.
def Worker.item : Worker lib → Option String
  | .claiming | .completing => none
  | .resolving item => some item.stationId
  | .storing stationId _ _ _ | .publishing stationId _ _ _ | .finishing stationId _ => some stationId

def ofJob (id : Uuid) (key : ItemKey) (_ : ItemStatus) : Bool := (ofLex key).1 = id

def terminalOf (id : Uuid) (key : ItemKey) (status : ItemStatus) : Bool := (ofLex key).1 = id && status.terminal

-- What an action does to the tables of the jobs and to their workers.
inductive JobMove (s : System lib) : Action → Table Uuid Job → Table ItemKey ItemStatus → Table Uuid (Worker lib) → Prop where
  | quiet (action) : JobMove s action s.jobs s.items s.workers
  | crashed (action) : JobMove s action s.jobs s.items ∅
  | started {id outcome workers} : s.jobs[id]? = none → (∀ (id' : Uuid) (job : Job), s.jobs[id']? = some job → job.status ≠ .running) →
      workers = s.workers ∨ workers = s.workers.insert id .claiming →
      JobMove s (.start id outcome) (s.jobs.insert id ⟨.running,s.selected.length,0,0,0,0,0⟩)
        (insertItems s.items id s.selected) workers
  | interrupted {outcome} : JobMove s (.interruptRunning outcome) (s.jobs.map fun _ job => interrupted job) s.items s.workers
  | claimed {id x worker} : s.workers[id]? = some .claiming → nextItem s id = some x → worker.item = some x →
      (∀ x result, worker ≠ .finishing x result) →
      JobMove s (.claim id .done) s.jobs (s.items.insert (toLex (id,x)) .processing) (s.workers.insert id worker)
  | lost {id x} : s.workers[id]? = some .claiming → nextItem s id = some x →
      JobMove s (.claim id .unanswered) s.jobs (s.items.insert (toLex (id,x)) .processing) (s.workers.insert id .completing)
  | missed {id x} : s.workers[id]? = some .claiming → nextItem s id = some x →
      JobMove s (.claim id .failed) s.jobs s.items (s.workers.insert id .completing)
  | drained {id outcome} : s.workers[id]? = some .claiming → nextItem s id = none →
      JobMove s (.claim id outcome) s.jobs s.items (s.workers.insert id .completing)
  | advanced {action id worker worker' x} : action.worker = some id → s.workers[id]? = some worker → worker.item = some x → worker'.item = some x →
      (∀ x result, worker' = .finishing x result → result.terminal = true) →
      JobMove s action s.jobs s.items (s.workers.insert id worker')
  | finished {id x result outcome} : s.workers[id]? = some (.finishing x result) →
      JobMove s (.finish id outcome) (finishItem s id x result).jobs (finishItem s id x result).items (s.workers.insert id .claiming)
  | unfinished {id x result} : s.workers[id]? = some (.finishing x result) →
      JobMove s (.finish id .failed) s.jobs s.items (s.workers.insert id .claiming)
  | completed {id outcome} : s.workers[id]? = some .completing →
      JobMove s (.complete id outcome) (completeJob s id).jobs s.items (s.workers.erase id)
  | uncompleted {id outcome} : s.workers[id]? = some .completing →
      JobMove s (.complete id outcome) s.jobs s.items (s.workers.erase id)

section items
variable {items : Table ItemKey ItemStatus} {id id' : Uuid} {stations : List String} {x : String}

theorem key_inj {id id' : Uuid} {x x' : String} : (toLex (id,x) : ItemKey) = toLex (id',x') ↔ id = id' ∧ x = x' := by
  rw [toLex_inj,Prod.mk.injEq]

theorem get_insertItems : (insertItems items id stations)[(toLex (id',x) : ItemKey)]? =
    if id = id' ∧ x ∈ stations then some .pending else items[(toLex (id',x) : ItemKey)]? := by
  induction stations generalizing items with
  | nil => simp [insertItems]
  | cons first rest ih =>
    change (insertItems (items.insert (toLex (id,first)) .pending) id rest)[(toLex (id',x) : ItemKey)]? = _
    rw [ih,Table.get_insert]
    by_cases same : id = id'
    · subst same
      by_cases later : x ∈ rest
      · simp [later]
      · by_cases here : first = x
        · simp [here]
        · simp [later,here,Ne.symm here]
    · simp [same]

-- The snapshot of a new job.
theorem count_insertItems (distinct : stations.Nodup) (fresh : ∀ x ∈ stations, items[(toLex (id,x) : ItemKey)]? = none) :
    Table.count (ofJob id) (insertItems items id stations) = Table.count (ofJob id) items + stations.length := by
  induction stations generalizing items with
  | nil => rfl
  | cons first rest ih =>
    have ⟨outside,distinct⟩ := List.nodup_cons.mp distinct
    have step := Table.count_insert_of_new (p:=ofJob id) (k:=toLex (id,first)) (v:=ItemStatus.pending)
      (fresh first (List.mem_cons_self ..)) (decide_eq_true rfl)
    change Table.count (ofJob id) (insertItems (items.insert (toLex (id,first)) .pending) id rest) = _
    rw [ih distinct,step,List.length_cons]
    · omega
    · intro x member
      have apart : (toLex (id,first) : ItemKey) ≠ toLex (id,x) := fun same => outside ((key_inj.mp same).2 ▸ member)
      rw [Table.get_insert_ne apart]
      exact fresh x (List.mem_cons_of_mem _ member)

theorem count_insertItems_other {p : ItemKey → ItemStatus → Bool} (skipped : ∀ x, p (toLex (id,x)) .pending = false)
    (fresh : ∀ x, items[(toLex (id,x) : ItemKey)]? = none) :
    Table.count p (insertItems items id stations) = Table.count p items := by
  rw [Table.count_eq_card,Table.count_eq_card]
  congr 1
  ext key
  obtain ⟨⟨id',x⟩,rfl⟩ : ∃ pair, (toLex pair : ItemKey) = key := ⟨ofLex key,rfl⟩
  rw [Table.mem_keysWhere,Table.mem_keysWhere,get_insertItems]
  split
  · rename_i here
    obtain ⟨rfl,_⟩ := here
    simp [fresh,skipped]
  · rfl

end items

variable {s s' : System lib} {action : Action} {id : Uuid} {x : String}

theorem nextItem_some (next : nextItem s id = some x) : s.items[(toLex (id,x) : ItemKey)]? = some .pending := by
  obtain ⟨⟨key,status⟩,found,here⟩ := Option.map_eq_some_iff.mp next
  have listed := Table.mem_entries.mp (List.mem_of_find?_eq_some found)
  have chosen := List.find?_some found
  simp only [Bool.and_eq_true,decide_eq_true_eq] at chosen here
  have same : key = toLex (id,x) := by rw [← chosen.1,← here,Prod.mk.eta,toLex_ofLex]
  rw [← same,listed,chosen.2]

theorem nextItem_none (next : nextItem s id = none) (x : String) : s.items[(toLex (id,x) : ItemKey)]? ≠ some .pending := by
  intro found
  have missed := List.find?_eq_none.mp (Option.map_eq_none_iff.mp next) (toLex (id,x),.pending) (Table.mem_entries.mpr found)
  simp at missed

theorem start_move {outcome : Outcome} (taken : start s id outcome = some s') :
    JobMove s (.start id outcome) s'.jobs s'.items s'.workers := by
  unfold start at taken
  split at taken
  · cases taken
  rename_i fresh
  split at taken
  · cases taken
    exact .quiet _
  rename_i opens
  cases taken
  simp only [Bool.or_eq_true,not_or] at opens
  have idle : ∀ (id' : Uuid) (job : Job), s.jobs[id']? = some job → job.status ≠ .running := by
    intro id' job found running
    exact opens.1.2 (List.any_eq_true.mpr ⟨(id',job),Table.mem_entries.mpr found,decide_eq_true running⟩)
  have unused : s.jobs[id]? = none := by simpa using fresh
  split
  · exact .started unused idle (.inr rfl)
  · exact .started unused idle (.inl rfl)

theorem claim_move {outcome : Outcome} (claiming : s.workers[id]? = some .claiming) :
    JobMove s (.claim id outcome) (claim s id outcome).jobs (claim s id outcome).items (claim s id outcome).workers := by
  unfold claim
  cases next : nextItem s id with
  | none => exact .drained claiming next
  | some x =>
    cases outcome with
    | failed => exact .missed claiming next
    | done => exact .claimed claiming next rfl fun x result => by simp
    | unanswered => exact .lost claiming next

theorem afterPlan_item (plan : ItemPlan lib) : (afterPlan x plan).item = some x ∧
    ∀ y result, afterPlan x plan = .finishing y result → result.terminal = true := by
  cases plan with
  | ready icon sourceUrl sourcePriority => exact ⟨rfl,fun y result told => by cases told⟩
  | missing | retryable | permanent =>
    refine ⟨rfl,fun y result told => ?_⟩
    cases told
    rfl

-- Nothing outside the jobs touches their tables.
theorem writeIcon_jobs {stationId : String} {row : StationIcon} (written : writeIcon s stationId row = some s') :
    s'.jobs = s.jobs ∧ s'.items = s.items ∧ s'.workers = s.workers := by
  obtain ⟨row,_,rfl⟩ := Option.map_eq_some_iff.mp written
  exact ⟨rfl,rfl,rfl⟩

theorem publish_jobs {stationId sourceUrl : String} {icon : PreparedIcon lib.digest} {sourcePriority : Nat} {outcome : Outcome} :
    (publish s stationId icon sourceUrl sourcePriority outcome).1.jobs = s.jobs ∧
    (publish s stationId icon sourceUrl sourcePriority outcome).1.items = s.items ∧
    (publish s stationId icon sourceUrl sourcePriority outcome).1.workers = s.workers := by
  unfold publish
  split
  · exact ⟨rfl,rfl,rfl⟩
  · rename_i written
    by_cases effective : outcome.effective
    · simpa [effective] using writeIcon_jobs written
    · simp [effective]

theorem uploadStep_jobs {request : Nat} {upload : Upload lib} (taken : uploadStep s request upload action = some s') :
    s'.jobs = s.jobs ∧ s'.items = s.items ∧ s'.workers = s.workers := by
  unfold uploadStep at taken
  split at taken
  · split at taken
    · cases taken
    · split at taken <;> cases taken <;> exact ⟨rfl,rfl,rfl⟩
  · split at taken
    · cases taken
    dsimp only at taken
    split at taken
    · cases taken
      exact ⟨rfl,rfl,rfl⟩
    · rename_i written
      have same := writeIcon_jobs written
      split at taken
      · cases taken
        exact same
      · cases taken
        exact ⟨rfl,rfl,rfl⟩
  · cases taken

theorem worker_move {worker : Worker lib} (working : s.workers[id]? = some worker) (own : action.worker = some id)
    (taken : workerStep s id worker action = some s') : JobMove s action s'.jobs s'.items s'.workers := by
  cases action with
  | claim id' outcome =>
    obtain rfl := Option.some.inj own
    cases worker with
    | claiming =>
      cases taken
      exact claim_move working
    | _ => cases taken
  | resolve id' web =>
    obtain rfl := Option.some.inj own
    cases worker with
    | resolving item =>
      cases taken
      obtain ⟨same,told⟩ := afterPlan_item (x:=item.stationId) (resolveItemPlan lib web item)
      exact .advanced rfl working rfl same told
    | _ => cases taken
  | store id' works =>
    obtain rfl := Option.some.inj own
    cases worker with
    | storing stationId icon sourceUrl sourcePriority =>
      simp only [workerStep] at taken
      split at taken
      · cases taken
        exact .advanced rfl working rfl rfl fun x result told => by cases told
      · cases taken
        refine .advanced rfl working rfl rfl fun x result told => ?_
        cases told
        rfl
    | _ => cases taken
  | publish id' outcome =>
    obtain rfl := Option.some.inj own
    cases worker with
    | publishing stationId icon sourceUrl sourcePriority =>
      simp only [workerStep] at taken
      cases taken
      obtain ⟨jobs,items,workers⟩ := @publish_jobs lib s stationId sourceUrl icon sourcePriority outcome
      simp only [System.goto,jobs,items,workers]
      refine .advanced rfl working rfl rfl fun x result told => ?_
      split at told <;> cases told <;> rfl
    | _ => cases taken
  | finish id' outcome =>
    obtain rfl := Option.some.inj own
    cases worker with
    | finishing stationId result =>
      cases taken
      cases outcome with
      | failed => exact .unfinished working
      | done | unanswered => exact .finished working
    | _ => cases taken
  | complete id' outcome =>
    obtain rfl := Option.some.inj own
    cases worker with
    | completing =>
      cases taken
      obtain ⟨items,_⟩ := @completeJob_outside lib s id'
      cases outcome with
      | failed => exact .uncompleted working
      | done | unanswered =>
        change JobMove s _ (completeJob s id').jobs (completeJob s id').items (s.workers.erase id')
        rw [items]
        exact .completed working
    | _ => cases taken
  | _ => cases own

theorem moves (taken : execute s action = some s') : JobMove s action s'.jobs s'.items s'.workers := by
  have same : s'.jobs = s.jobs ∧ s'.items = s.items ∧ s'.workers = s.workers →
      JobMove s action s'.jobs s'.items s'.workers := by
    rintro ⟨jobs,items,workers⟩
    rw [jobs,items,workers]
    exact .quiet _
  cases action with
  | start id outcome => exact start_move taken
  | interruptRunning outcome =>
    cases taken
    cases outcome with
    | failed => exact .quiet _
    | done | unanswered => exact .interrupted
  | crash =>
    cases taken
    exact .crashed _
  | upload request stationId source =>
    simp only [execute] at taken
    split at taken
    · cases taken
    · split at taken
      · cases taken
        exact .quiet _
      · split at taken <;> cases taken <;> exact .quiet _
  | removeManual stationId outcome =>
    simp only [execute,removeManual] at taken
    split at taken
    · cases taken
      exact .quiet _
    · split at taken
      · exact same (writeIcon_jobs taken)
      · cases taken
        exact .quiet _
  | catalog entry =>
    simp only [execute,importEntry] at taken
    obtain ⟨jobs,items,workers⟩ := writeIcon_jobs taken
    exact same ⟨jobs,items,workers⟩
  | retire stationId =>
    obtain ⟨station,_,rfl⟩ := Option.map_eq_some_iff.mp taken
    exact .quiet _
  | storeUpload request works | replaceManual request outcome =>
    obtain ⟨upload,_,taken⟩ := Option.bind_eq_some_iff.mp taken
    exact same (uploadStep_jobs taken)
  | claim id _ | resolve id _ | store id _ | publish id _ | finish id _ | complete id _ =>
    obtain ⟨worker,working,taken⟩ := Option.bind_eq_some_iff.mp taken
    exact worker_move working rfl taken

theorem work_taken (own : action.worker = some id) (taken : execute s action = some s') :
    ∃ worker, s.workers[id]? = some worker ∧ workerStep s id worker action = some s' := by
  cases action with
  | claim id' _ | resolve id' _ | store id' _ | publish id' _ | finish id' _ | complete id' _ =>
    obtain rfl := Option.some.inj own
    exact Option.bind_eq_some_iff.mp taken
  | _ => cases own

-- One turn of the loop.
inductive WorkerMove (s s' : System lib) : Action → Worker lib → Worker lib → Prop where
  | ended {id outcome} : WorkerMove s s' (.claim id outcome) .claiming .completing
  | claimed {id stationId} : nextItem s id = some stationId → WorkerMove s s' (.claim id .done) .claiming (.resolving
      ⟨stationId,(s.icons[stationId]?).bind (·.val.sourceUrl),(s.stations[stationId]?).bind (·.homepageUrl)⟩)
  | resolved {id web item} : WorkerMove s s' (.resolve id web) (.resolving item)
      (afterPlan item.stationId (resolveItemPlan lib web item))
  | stored {id works x artifact sourceUrl sourcePriority} : Stored s'.storage artifact.contentHash →
      WorkerMove s s' (.store id works) (.storing x artifact sourceUrl sourcePriority) (.publishing x artifact sourceUrl sourcePriority)
  | unstored {id works x artifact sourceUrl sourcePriority} :
      WorkerMove s s' (.store id works) (.storing x artifact sourceUrl sourcePriority) (.finishing x .retryableError)
  | published {id outcome x artifact sourceUrl sourcePriority} {result : ItemStatus} :
      WorkerMove s s' (.publish id outcome) (.publishing x artifact sourceUrl sourcePriority) (.finishing x result)
  | finished {id outcome x result} : WorkerMove s s' (.finish id outcome) (.finishing x result) .claiming

theorem worker_turn {old worker : Worker lib} (before : s.workers[id]? = some old) (own : action.worker = some id)
    (taken : workerStep s id old action = some s') (working : s'.workers[id]? = some worker) :
    WorkerMove s s' action old worker := by
  have went {t : System lib} {w : Worker lib} (working : (t.goto id w).workers[id]? = some worker) : worker = w := by
    rw [System.goto,Table.get_insert,if_pos rfl] at working
    exact (Option.some.inj working).symm
  cases action with
  | claim id' outcome =>
    obtain rfl := Option.some.inj own
    cases old with
    | claiming =>
      cases taken
      unfold claim at working
      split at working
      · rw [went working]
        exact .ended
      · rename_i next
        cases outcome with
        | failed | unanswered =>
          rw [went working]
          exact .ended
        | done =>
          rw [went working]
          exact .claimed next
    | _ => cases taken
  | resolve id' web =>
    cases old with
    | resolving item =>
      cases taken
      rw [went working]
      exact .resolved
    | _ => cases taken
  | store id' works =>
    cases old with
    | storing x artifact sourceUrl sourcePriority =>
      simp only [workerStep] at taken
      split at taken
      · rename_i put
        cases taken
        rw [went working]
        exact .stored (putAtomic_stored put)
      · cases taken
        rw [went working]
        exact .unstored
    | _ => cases taken
  | publish id' outcome =>
    cases old with
    | publishing x artifact sourceUrl sourcePriority =>
      simp only [workerStep] at taken
      cases taken
      rw [went working]
      exact .published
    | _ => cases taken
  | finish id' outcome =>
    cases old with
    | finishing x result =>
      cases taken
      rw [went working]
      exact .finished
    | _ => cases taken
  | complete id' outcome =>
    cases old with
    | completing =>
      cases taken
      simp at working
    | _ => cases taken
  | _ => cases own

-- A worker is as it was, has just been started, or has taken the step itself.
theorem worker_origin {worker : Worker lib} (taken : execute s action = some s') (working : s'.workers[id]? = some worker) :
    s.workers[id]? = some worker ∨ (worker = .claiming ∧ ∃ outcome, action = .start id outcome) ∨
    ∃ old, s.workers[id]? = some old ∧ action.worker = some id ∧ WorkerMove s s' action old worker := by
  by_cases own : action.worker = some id
  · obtain ⟨old,before,taken⟩ := work_taken own taken
    exact .inr (.inr ⟨old,before,own,worker_turn before own taken working⟩)
  have move := moves taken
  generalize s'.jobs = jobs,s'.items = items,s'.workers = workers at move working
  have apart {id' : Uuid} (actor : action.worker = some id') : id' ≠ id := fun same => own (same ▸ actor)
  cases move with
  | quiet | interrupted => exact .inl working
  | crashed => simp at working
  | @started id' outcome _ _ _ told =>
    rcases told with rfl | rfl
    · exact .inl working
    · rw [Table.get_insert] at working
      split at working
      · rename_i same
        exact .inr (.inl ⟨(Option.some.inj working).symm,outcome,same ▸ rfl⟩)
      · exact .inl working
  | claimed | lost | missed | drained | finished | unfinished =>
    rw [Table.get_insert_ne (apart rfl)] at working
    exact .inl working
  | advanced actor =>
    rw [Table.get_insert_ne (apart actor)] at working
    exact .inl working
  | completed | uncompleted => exact .inl (Table.get_erase_some working).2

-- What the tables of the jobs and their workers agree on.
structure Books (jobs : Table Uuid Job) (items : Table ItemKey ItemStatus) (workers : Table Uuid (Worker lib)) : Prop where
  single : ∀ (id id' : Uuid) (job job' : Job), jobs[id]? = some job → jobs[id']? = some job' → job.status = .running → job'.status = .running →
    id = id'
  owned : ∀ (id : Uuid) (x : String) (status : ItemStatus), items[(toLex (id,x) : ItemKey)]? = some status → ∃ job : Job, jobs[id]? = some job
  counted : ∀ (id : Uuid) (job : Job), jobs[id]? = some job →
    job.processed = job.ready + job.missing + job.retryableError + job.permanentError ∧
    job.processed = Table.count (terminalOf id) items ∧ job.selected = Table.count (ofJob id) items
  working : ∀ (id : Uuid) (worker : Worker lib), workers[id]? = some worker → ∃ job : Job, jobs[id]? = some job ∧ job.status ≠ .completed
  held : ∀ (id : Uuid) (worker : Worker lib) (x : String), workers[id]? = some worker → worker.item = some x →
    items[(toLex (id,x) : ItemKey)]? = some .processing
  told : ∀ (id : Uuid) (x : String) (result : ItemStatus), workers[id]? = some (.finishing x result) → result.terminal = true

theorem Books.empty : Books ∅ ∅ (∅ : Table Uuid (Worker lib)) := by
  constructor <;> intros <;> simp_all

section books
variable {jobs : Table Uuid Job} {items : Table ItemKey ItemStatus} {workers : Table Uuid (Worker lib)}
variable {worker : Worker lib} {job : Job}

-- A worker that goes on, with an item that it holds or with none.
theorem Books.goto (books : Books jobs items workers) (working : ∃ job : Job, jobs[id]? = some job ∧ job.status ≠ .completed)
    (held : ∀ x, worker.item = some x → items[(toLex (id,x) : ItemKey)]? = some .processing)
    (told : ∀ x result, worker = .finishing x result → result.terminal = true) : Books jobs items (workers.insert id worker) where
  single := books.single
  owned := books.owned
  counted := books.counted
  working := fun id' worker' found => by
    rw [Table.get_insert] at found
    split at found
    · rename_i same
      exact same ▸ working
    · exact books.working id' worker' found
  held := fun id' worker' x found item => by
    rw [Table.get_insert] at found
    split at found
    · rename_i same
      cases found
      exact same ▸ held x item
    · exact books.held id' worker' x found item
  told := fun id' x result found => by
    rw [Table.get_insert] at found
    split at found
    · exact told x result (Option.some.inj found)
    · exact books.told id' x result found

theorem Books.erased (books : Books jobs items workers) : Books jobs items (workers.erase id) where
  single := books.single
  owned := books.owned
  counted := books.counted
  working := fun id' worker' found => books.working id' worker' (Table.get_erase_some found).2
  held := fun id' worker' x found => books.held id' worker' x (Table.get_erase_some found).2
  told := fun id' x result found => books.told id' x result (Table.get_erase_some found).2

-- An item that no worker holds, taken up.
theorem Books.taken (books : Books jobs items workers) (pending : items[(toLex (id,x) : ItemKey)]? = some .pending) :
    Books jobs (items.insert (toLex (id,x)) .processing) workers where
  single := books.single
  owned := fun id' x' status found => by
    rw [Table.get_insert] at found
    split at found
    · rename_i same
      exact (key_inj.mp same).1 ▸ books.owned id x _ pending
    · exact books.owned id' x' status found
  counted := fun id' job found => by
    have ⟨sum,terminal,selected⟩ := books.counted id' job found
    refine ⟨sum,?_,?_⟩
    · rw [terminal,Table.count_insert_kept]
      simp [pending,terminalOf,ItemStatus.terminal]
    · rw [selected,Table.count_insert_kept]
      simp [pending,ofJob]
  working := books.working
  held := fun id' worker x' found item => by
    have was := books.held id' worker x' found item
    rw [Table.get_insert]
    split
    · rfl
    · exact was
  told := books.told

-- A status of a job that leaves its counters alone.
theorem Books.marked (books : Books jobs items workers) {jobs' : Table Uuid Job} {mark : Uuid → Job → Job}
    (rows : ∀ id : Uuid, jobs'[id]? = (jobs[id]?).map (mark id))
    (keeps : ∀ (id : Uuid) (job : Job), jobs[id]? = some job → (mark id job) = {job with status := (mark id job).status})
    (stops : ∀ (id : Uuid) (job : Job), (mark id job).status = .running → job.status = .running)
    (working : ∀ (id : Uuid) (job : Job) (worker : Worker lib), jobs[id]? = some job → workers[id]? = some worker → (mark id job).status ≠ .completed) :
    Books jobs' items workers where
  single := fun id id' job job' found found' running running' => by
    obtain ⟨old,was,rfl⟩ := Option.map_eq_some_iff.mp (rows _ ▸ found)
    obtain ⟨old',was',rfl⟩ := Option.map_eq_some_iff.mp (rows _ ▸ found')
    exact books.single id id' old old' was was' (stops _ _ running) (stops _ _ running')
  owned := fun id x status found => by
    obtain ⟨job,was⟩ := books.owned id x status found
    exact ⟨mark id job,by rw [rows,was,Option.map_some]⟩
  counted := fun id job found => by
    obtain ⟨old,was,rfl⟩ := Option.map_eq_some_iff.mp (rows _ ▸ found)
    have counted := books.counted id old was
    rw [keeps id old was]
    exact counted
  working := fun id worker found => by
    obtain ⟨job,was,_⟩ := books.working id worker found
    exact ⟨mark id job,by rw [rows,was,Option.map_some],working id job worker was found⟩
  held := books.held
  told := books.told

-- A new job with its snapshot.
theorem Books.started (books : Books jobs items workers) {stations : List String} (fresh : jobs[id]? = none)
    (idle : ∀ (id' : Uuid) (job : Job), jobs[id']? = some job → job.status ≠ .running) (distinct : stations.Nodup) :
    Books (jobs.insert id ⟨.running,stations.length,0,0,0,0,0⟩) (insertItems items id stations) workers := by
  have vacant : ∀ (x : String), items[(toLex (id,x) : ItemKey)]? = none := by
    intro x
    by_contra present
    obtain ⟨status,found⟩ := Option.ne_none_iff_exists'.mp present
    obtain ⟨job,was⟩ := books.owned id x status found
    rw [fresh] at was
    cases was
  have apart : ∀ (id' : Uuid) (job : Job), jobs[id']? = some job → id ≠ id' := by
    intro id' job found same
    rw [same,found] at fresh
    cases fresh
  refine ⟨?_,?_,?_,?_,?_,books.told⟩
  · intro first second job job' found found' running running'
    rw [Table.get_insert] at found found'
    split at found <;> split at found'
    · rename_i left right
      exact left.symm.trans right
    · exact absurd running' (idle second job' found')
    · exact absurd running (idle first job found)
    · exact books.single first second job job' found found' running running'
  · intro id' x status found
    rw [get_insertItems] at found
    rw [Table.get_insert]
    split
    · exact ⟨_,rfl⟩
    · rename_i other
      rw [if_neg fun both => other both.1] at found
      exact books.owned id' x status found
  · intro id' job found
    rw [Table.get_insert] at found
    split at found
    · rename_i same
      subst same
      cases found
      have zero (p : ItemKey → ItemStatus → Bool) (own : ∀ key status, p key status = true → (ofLex key).1 = id) :
          Table.count p items = 0 := by
        rw [Table.count_eq_card,Finset.card_eq_zero,Finset.eq_empty_iff_forall_notMem]
        intro key member
        obtain ⟨status,found,chosen⟩ := Table.mem_keysWhere.mp member
        have absent := vacant (ofLex key).2
        rw [← own key status chosen,Prod.mk.eta,toLex_ofLex,found] at absent
        cases absent
      refine ⟨rfl,?_,?_⟩
      · rw [count_insertItems_other (fun x => by simp [terminalOf,ItemStatus.terminal]) vacant,
          zero _ fun key status chosen => by simp [terminalOf] at chosen; exact chosen.1]
      · rw [count_insertItems distinct fun x _ => vacant x,zero _ fun key status chosen => by simpa [ofJob] using chosen,
          Nat.zero_add]
    · rename_i other
      have ⟨sum,terminal,selected⟩ := books.counted id' job found
      refine ⟨sum,?_,?_⟩
      · rw [terminal,count_insertItems_other (fun x => by simp [terminalOf,other]) vacant]
      · rw [selected,count_insertItems_other (fun x => by simp [ofJob,other]) vacant]
  · intro id' worker found
    obtain ⟨job,was,working⟩ := books.working id' worker found
    exact ⟨job,by rw [Table.get_insert_ne (apart id' job was),was],working⟩
  · intro id' worker x found item
    obtain ⟨job,was,_⟩ := books.working id' worker found
    rw [get_insertItems,if_neg fun both => apart id' job was both.1]
    exact books.held id' worker x found item

-- An item that is told with its outcome, and counted.
theorem Books.finished (books : Books jobs items workers) {result : ItemStatus} (found : jobs[id]? = some job)
    (working : workers[id]? = some (.finishing x result)) :
    Books (jobs.insert id (IconImport.counted job result)) (items.insert (toLex (id,x)) result) (workers.insert id .claiming) := by
  have processing := books.held id _ x working rfl
  have terminal := books.told id x result working
  refine ⟨?_,?_,?_,?_,?_,?_⟩
  · intro first second job' job'' left right running running'
    have old (other : Uuid) (job' : Job) (found' : (jobs.insert id (IconImport.counted job result))[other]? = some job') :
        ∃ was : Job, jobs[other]? = some was ∧ was.status = job'.status := by
      rw [Table.get_insert] at found'
      split at found'
      · rename_i same
        cases found'
        exact ⟨job,same ▸ found,rfl⟩
      · exact ⟨job',found',rfl⟩
    obtain ⟨was,before,status⟩ := old first job' left
    obtain ⟨was',before',status'⟩ := old second job'' right
    exact books.single first second was was' before before' (status.trans running) (status'.trans running')
  · intro id' x' status present
    have owned : ∃ job : Job, jobs[id']? = some job := by
      rw [Table.get_insert] at present
      split at present
      · rename_i same
        exact ⟨job,(key_inj.mp same).1 ▸ found⟩
      · exact books.owned id' x' status present
    rw [Table.get_insert]
    split
    · exact ⟨_,rfl⟩
    · exact owned
  · intro id' job' present
    rw [Table.get_insert] at present
    split at present
    · rename_i same
      subst same
      cases present
      have ⟨sum,done,selected⟩ := books.counted id job found
      refine ⟨?_,?_,?_⟩
      · simp only [IconImport.counted,sum]
        cases result with
        | pending | processing => cases terminal
        | ready | missing | retryableError | permanentError =>
          simp only [reduceCtorEq,↓reduceIte]
          omega
      · rw [Table.count_insert_gained,← done]
        · rfl
        · intro status was
          cases processing.symm.trans was
          simp [terminalOf,ItemStatus.terminal]
        · simpa [terminalOf] using terminal
      · rw [Table.count_insert_kept,← selected]
        · rfl
        · simp [processing,ofJob]
    · rename_i other
      have ⟨sum,done,selected⟩ := books.counted id' job' present
      refine ⟨sum,?_,?_⟩
      · rw [done,Table.count_insert_kept]
        simp [processing,terminalOf,other]
      · rw [selected,Table.count_insert_kept]
        simp [processing,ofJob]
  · intro id' worker present
    have working' : ∃ job : Job, jobs[id']? = some job ∧ job.status ≠ .completed := by
      rw [Table.get_insert] at present
      split at present
      · rename_i same
        exact same ▸ books.working id _ working
      · exact books.working id' worker present
    obtain ⟨job',was,status⟩ := working'
    rw [Table.get_insert]
    split
    · rename_i same
      subst same
      cases found.symm.trans was
      exact ⟨_,rfl,status⟩
    · exact ⟨job',was,status⟩
  · intro id' worker x' present item
    rw [Table.get_insert] at present
    split at present
    · cases present
      cases item
    · rename_i other
      rw [Table.get_insert_ne fun same => other (key_inj.mp same).1]
      exact books.held id' worker x' present item
  · intro id' x' result' present
    rw [Table.get_insert] at present
    split at present
    · cases present
    · exact books.told id' x' result' present

theorem selected_distinct : s.selected.Nodup := Table.keys_distinct.filter _

theorem completeJob_rows (id' : Uuid) : (completeJob s id).jobs[id']? = (s.jobs[id']?).map fun job =>
    if id = id' ∧ job.status = .running then {job with status := .completed} else job := by
  unfold completeJob
  cases found : s.jobs[id]? with
  | none =>
    by_cases same : id = id'
    · rw [← same,found]
      rfl
    · simp [same]
  | some job =>
    by_cases running : job.status = .running
    · simp only [if_pos running,Table.get_insert]
      by_cases same : id = id'
      · simp [← same,found,running]
      · simp [same]
    · simp only [if_neg running]
      by_cases same : id = id'
      · simp [← same,found,running]
      · simp [same]

theorem finishItem_tables {r : ItemStatus} (found : s.jobs[id]? = some job)
    (processing : s.items[(toLex (id,x) : ItemKey)]? = some .processing) :
    (finishItem s id x r).jobs = s.jobs.insert id (counted job r) ∧
    (finishItem s id x r).items = s.items.insert (toLex (id,x)) r := by
  simp [finishItem,found,processing]

theorem books_step (move : JobMove s action jobs items workers) (books : Books s.jobs s.items s.workers) :
    Books jobs items workers := by
  cases move with
  | quiet => exact books
  | crashed =>
    exact ⟨books.single,books.owned,books.counted,fun _ _ found => by simp at found,fun _ _ _ found => by simp at found,
      fun _ _ _ found => by simp at found⟩
  | started fresh idle told =>
    have opened := books.started fresh idle (selected_distinct (s:=s))
    rcases told with rfl | rfl
    · exact opened
    · refine opened.goto ⟨_,Table.get_insert.trans (if_pos rfl),?_⟩ (fun x item => by cases item) fun x result told => by cases told
      exact JobStatus.noConfusion
  | interrupted =>
    refine books.marked (fun id => Table.get_mapKey) ?_ ?_ ?_
    · intro id job _
      unfold interrupted
      split <;> rfl
    · intro id job running
      unfold interrupted at running
      split at running
      · cases running
      · exact running
    · intro id job worker found working completed
      obtain ⟨job',found',open'⟩ := books.working id worker working
      cases found.symm.trans found'
      unfold interrupted at completed
      split at completed
      · cases completed
      · exact open' completed
  | claimed claiming next item idle =>
    refine (books.taken (nextItem_some next)).goto (books.working _ _ claiming) (fun x' item' => ?_) ?_
    · cases item.symm.trans item'
      exact Table.get_insert.trans (if_pos rfl)
    · intro x result told
      exact absurd told (idle x result)
  | lost claiming next =>
    exact (books.taken (nextItem_some next)).goto (books.working _ _ claiming) (fun x item => by cases item)
      fun x result told => by cases told
  | missed claiming _ | drained claiming _ =>
    exact books.goto (books.working _ _ claiming) (fun x item => by cases item) fun x result told => by cases told
  | advanced _ working item item' told =>
    refine books.goto (books.working _ _ working) (fun x' held => ?_) told
    cases item'.symm.trans held
    exact books.held _ _ _ working item
  | @finished _ _ result _ working =>
    obtain ⟨job,found,_⟩ := books.working _ _ working
    obtain ⟨jobs,items⟩ := finishItem_tables (r:=result) found (books.held _ _ _ working rfl)
    rw [jobs,items]
    exact books.finished found working
  | unfinished working =>
    exact books.goto (books.working _ _ working) (fun x item => by cases item) fun x result told => by cases told
  | completed working =>
    refine Books.marked books.erased completeJob_rows ?_ ?_ ?_
    · intro id job _
      split <;> rfl
    · intro id job running
      split at running
      · cases running
      · exact running
    · intro id job worker found working completed
      obtain ⟨other,working⟩ := Table.get_erase_some working
      obtain ⟨job',found',open'⟩ := books.working id worker working
      cases found.symm.trans found'
      simp only [other,false_and,↓reduceIte] at completed
      exact open' completed
  | uncompleted _ => exact books.erased

theorem books_run {actions : List Action} (path : Transition.Runs (Transition.Executes execute) (System.empty : System lib) actions s) :
    Books s.jobs s.items s.workers :=
  path.invariant (fun s => Books s.jobs s.items s.workers) Books.empty fun _ _ _ books taken => books_step (moves taken) books

end books

-- At most one job runs, and the counters of each agree with its items.
structure Accounted (s : System lib) : Prop where
  single : Table.count (fun _ job => job.status = .running) s.jobs ≤ 1
  sum : ∀ (id : Uuid) (job : Job), s.jobs[id]? = some job →
    job.processed = job.ready + job.missing + job.retryableError + job.permanentError
  terminal : ∀ (id : Uuid) (job : Job), s.jobs[id]? = some job → job.processed = Table.count (terminalOf id) s.items
  selected : ∀ (id : Uuid) (job : Job), s.jobs[id]? = some job → job.processed ≤ job.selected

theorem Books.accounted (books : Books s.jobs s.items s.workers) : Accounted s where
  single := by
    by_contra several
    have several : 2 ≤ Table.count (fun _ job => decide (job.status = .running)) s.jobs := by omega
    have pair := several
    rw [Table.count_eq_card] at several
    obtain ⟨id,member⟩ := Finset.card_pos.mp (lt_of_lt_of_le Nat.two_pos several)
    obtain ⟨job,found,running⟩ := Table.mem_keysWhere.mp member
    obtain ⟨id',job',apart,found',running'⟩ := Table.count_other pair id
    exact apart (books.single id' id job' job found' found (of_decide_eq_true running') (of_decide_eq_true running))
  sum := fun id job found => (books.counted id job found).1
  terminal := fun id job found => (books.counted id job found).2.1
  selected := fun id job found => by
    rw [(books.counted id job found).2.1,(books.counted id job found).2.2]
    refine Table.count_le fun key status present chosen => ⟨status,present,?_⟩
    simp only [terminalOf,Bool.and_eq_true] at chosen
    exact chosen.1

end IconImport
