import RockServer.IconBooks

-- What has been done when a job of the icon coordinator is completed.
namespace IconImport
open DeviceControl (Uuid)
open Transition (Runs Under Executes run_reaches guarded_reaches)

variable {lib : Libraries} {s s' : System lib} {action : Action} {id : Uuid} {x : String}

-- Every item of a completed job is done with.
def Finished (s : System lib) : Prop := ∀ (id : Uuid) (job : Job), s.jobs[id]? = some job → job.status = .completed →
  ∀ (x : String) (status : ItemStatus), s.items[(toLex (id,x) : ItemKey)]? = some status → status.terminal = true

def System.running (s : System lib) (id : Uuid) : Bool := (s.jobs[id]?).any (·.status = .running)

-- While a job runs, no claim of a pending item fails and no outcome is left unwritten.
def served (s : System lib) : Action → Bool
  | .claim id outcome => !s.running id || nextItem s id = none || outcome = .done
  | .finish id outcome => !s.running id || outcome ≠ .failed
  | _ => true

-- The worker of a running job has left nothing behind: its items are done with, in
-- its hand, or still to be claimed.
structure Tended (jobs : Table Uuid Job) (items : Table ItemKey ItemStatus) (workers : Table Uuid (Worker lib)) : Prop where
  finished : ∀ (id : Uuid) (job : Job), jobs[id]? = some job → job.status = .completed →
    ∀ (x : String) (status : ItemStatus), items[(toLex (id,x) : ItemKey)]? = some status → status.terminal = true
  tended : ∀ (id : Uuid) (job : Job) (worker : Worker lib), jobs[id]? = some job → job.status = .running →
    workers[id]? = some worker → ∀ (x : String) (status : ItemStatus), items[(toLex (id,x) : ItemKey)]? = some status →
    status.terminal = true ∨ worker.item = some x ∨ status = .pending ∧ worker ≠ .completing

section tended
variable {jobs : Table Uuid Job} {items : Table ItemKey ItemStatus} {workers : Table Uuid (Worker lib)}
variable {worker : Worker lib} {job : Job}

-- The worker of one job moves on; where that job runs, it leaves nothing behind.
theorem Tended.goto (rest : Tended jobs items workers)
    (own : ∀ job : Job, jobs[id]? = some job → job.status = .running → ∀ (x : String) (status : ItemStatus),
      items[(toLex (id,x) : ItemKey)]? = some status →
      status.terminal = true ∨ worker.item = some x ∨ status = .pending ∧ worker ≠ .completing) :
    Tended jobs items (workers.insert id worker) where
  finished := rest.finished
  tended := fun id' job worker' found running working x status present => by
    rw [Table.get_insert] at working
    split at working
    · rename_i same
      subst same
      cases working
      exact own job found running x status present
    · exact rest.tended id' job worker' found running working x status present

theorem Tended.erased (rest : Tended jobs items workers) : Tended jobs items (workers.erase id) :=
  ⟨rest.finished,fun id' job worker found running working => rest.tended id' job worker found running (Table.get_erase_some working).2⟩

-- Other counters, and no status that was not there.
theorem Tended.marked (rest : Tended jobs items workers) {jobs' : Table Uuid Job}
    (rows : ∀ (id : Uuid) (job' : Job), jobs'[id]? = some job' → ∃ job : Job, jobs[id]? = some job ∧
      (job'.status = .completed → job.status = .completed) ∧ (job'.status = .running → job.status = .running)) :
    Tended jobs' items workers where
  finished := fun id job found completed => by
    obtain ⟨job',was,before,_⟩ := rows id job found
    exact rest.finished id job' was (before completed)
  tended := fun id job worker found running => by
    obtain ⟨job',was,_,before⟩ := rows id job found
    exact rest.tended id job' worker was (before running)

theorem running_of (found : s.jobs[id]? = some job) (running : job.status = .running) : s.running id = true := by
  simp [System.running,found,running]

-- An item of a worker's own job changes together with the worker.
theorem Tended.item (books : Books jobs items workers) (rest : Tended jobs items workers) {old w : Worker lib} {status : ItemStatus}
    (working : workers[id]? = some old)
    (own : ∀ job : Job, jobs[id]? = some job → job.status = .running → status.terminal = true ∨ w.item = some x)
    (others : ∀ job : Job, jobs[id]? = some job → job.status = .running → ∀ (x' : String) (status' : ItemStatus), x' ≠ x →
      items[(toLex (id,x') : ItemKey)]? = some status' →
      status'.terminal = true ∨ w.item = some x' ∨ status' = .pending ∧ w ≠ .completing) :
    Tended jobs (items.insert (toLex (id,x)) status) (workers.insert id w) where
  finished := fun id' job found completed x' status' present => by
    have other : id ≠ id' := by
      intro same
      obtain ⟨job',found',open'⟩ := books.working id old working
      cases found'.symm.trans (same ▸ found)
      exact open' completed
    rw [Table.get_insert_ne fun same => other (key_inj.mp same).1] at present
    exact rest.finished id' job found completed x' status' present
  tended := fun id' job worker' found running working' x' status' present => by
    rw [Table.get_insert] at working'
    split at working'
    · rename_i same
      subst same
      cases working'
      by_cases here : x = x'
      · subst here
        rw [Table.get_insert,if_pos rfl] at present
        cases present
        exact (own job found running).imp_right .inl
      · rw [Table.get_insert_ne fun same => here (key_inj.mp same).2] at present
        exact others job found running x' status' (Ne.symm here) present
    · rename_i other
      rw [Table.get_insert_ne fun same => other (key_inj.mp same).1] at present
      exact rest.tended id' job worker' found running working' x' status' present

theorem tended_step (move : JobMove s action jobs items workers) (met : served s action = true)
    (books : Books s.jobs s.items s.workers) (rest : Tended s.jobs s.items s.workers) : Tended jobs items workers := by
  cases move with
  | quiet => exact rest
  | crashed => exact ⟨rest.finished,fun _ _ _ _ _ working => by simp at working⟩
  | @started id _ _ fresh idle told =>
    have apart : ∀ (id' : Uuid) (job : Job), s.jobs[id']? = some job → id ≠ id' := by
      intro id' job found same
      rw [same,found] at fresh
      cases fresh
    constructor
    · intro id' job found completed x status present
      rw [Table.get_insert] at found
      split at found
      · cases found
        cases completed
      · rename_i other
        rw [get_insertItems,if_neg fun both => other both.1] at present
        exact rest.finished id' job found completed x status present
    · intro id' job worker found running working x status present
      rw [Table.get_insert] at found
      split at found
      · rename_i same
        subst same
        have claims : worker = .claiming := by
          rcases told with rfl | rfl
          · obtain ⟨job',found',_⟩ := books.working id worker working
            cases fresh.symm.trans found'
          · rw [Table.get_insert,if_pos rfl] at working
            exact (Option.some.inj working).symm
        rw [get_insertItems] at present
        split at present
        · cases present
          exact .inr (.inr ⟨rfl,by simp [claims]⟩)
        · obtain ⟨_,was⟩ := books.owned id x status present
          rw [fresh] at was
          cases was
      · exact absurd running (idle id' job found)
  | interrupted =>
    refine rest.marked fun id job' found => ?_
    rw [Table.get_mapKey] at found
    obtain ⟨job,was,rfl⟩ := Option.map_eq_some_iff.mp found
    refine ⟨job,was,?_,?_⟩ <;> unfold interrupted <;> split <;> intro status <;> first | exact status | cases status
  | @claimed id x worker claiming next item told =>
    refine rest.item books claiming (fun _ _ _ => .inr item) fun job found running x' status other present => ?_
    rcases rest.tended id job _ found running claiming x' status present with done | held | waits
    · exact .inl done
    · cases held
    · refine .inr (.inr ⟨waits.1,?_⟩)
      intro same
      rw [same] at item
      cases item
  | @lost id x claiming next =>
    have still : s.running id = false := by simpa [served,next] using met
    refine rest.item books claiming (fun job found running => ?_) fun job found running => ?_
    · exact absurd (running_of found running) (by simp [still])
    · exact absurd (running_of found running) (by simp [still])
  | @missed id x claiming next =>
    have still : s.running id = false := by simpa [served,next] using met
    refine rest.goto fun job found running => ?_
    exact absurd (running_of found running) (by simp [still])
  | @drained id outcome claiming next =>
    refine rest.goto fun job found running x status present => ?_
    rcases rest.tended id job _ found running claiming x status present with done | held | waits
    · exact .inl done
    · cases held
    · exact absurd (waits.1 ▸ present) (nextItem_none next x)
  | @advanced _ id worker worker' x _ working item item' told =>
    refine rest.goto fun job found running x' status present => ?_
    rcases rest.tended id job _ found running working x' status present with done | held | waits
    · exact .inl done
    · exact .inr (.inl (item'.trans (item.symm.trans held)))
    · refine .inr (.inr ⟨waits.1,?_⟩)
      intro same
      rw [same] at item'
      cases item'
  | @finished id x result _ working =>
    obtain ⟨job,found,_⟩ := books.working id _ working
    have ⟨jobs,items⟩ := finishItem_tables (r:=result) found (books.held id _ x working rfl)
    rw [jobs,items]
    have told := rest.item (w:=.claiming) books working (x:=x) (fun _ _ _ => .inl (books.told id x result working))
      fun job found running x' status other present => by
        rcases rest.tended id job _ found running working x' status present with done | held | waits
        · exact .inl done
        · exact absurd (Option.some.inj held).symm other
        · exact .inr (.inr ⟨waits.1,by simp⟩)
    refine told.marked fun id' job' found' => ?_
    rw [Table.get_insert] at found'
    split at found'
    · rename_i same
      cases found'
      exact ⟨job,same ▸ found,fun status => status,fun status => status⟩
    · exact ⟨job',found',fun status => status,fun status => status⟩
  | @unfinished id x result working =>
    have still : s.running id = false := by simpa [served] using met
    refine rest.goto fun job found running => ?_
    exact absurd (running_of found running) (by simp [still])
  | @completed id _ working =>
    constructor
    · intro id' job' found completed x status present
      obtain ⟨job,was,rfl⟩ := Option.map_eq_some_iff.mp (completeJob_rows id' ▸ found)
      split at completed
      · rename_i own
        obtain ⟨rfl,running⟩ := own
        rcases rest.tended id job _ was running working x status present with done | held | waits
        · exact done
        · cases held
        · exact absurd rfl waits.2
      · exact rest.finished id' job was completed x status present
    · intro id' job' worker found running working' x status present
      obtain ⟨job,was,rfl⟩ := Option.map_eq_some_iff.mp (completeJob_rows id' ▸ found)
      split at running
      · cases running
      · exact rest.tended id' job worker was running (Table.get_erase_some working').2 x status present
  | uncompleted _ => exact rest.erased

theorem tended_run {actions : List Action}
    (path : Runs (Under (fun s a => served s a = true) (Executes execute)) System.empty actions s) :
    Books s.jobs s.items s.workers ∧ Tended s.jobs s.items s.workers := by
  refine path.invariant (fun s => Books s.jobs s.items s.workers ∧ Tended s.jobs s.items s.workers) ⟨.empty,?_⟩ ?_
  · exact ⟨fun _ _ found => by simp [System.empty] at found,fun _ _ _ found => by simp [System.empty] at found⟩
  · intro s action s' ⟨books,rest⟩ ⟨met,taken⟩
    exact ⟨books_step (moves taken) books,tended_step (moves taken) met books rest⟩

end tended

-- A loop that has ended completes the running job, whatever its items.
theorem completed_open {status : ItemStatus} (running : s.running id = true) (ended : s.workers[id]? = some .completing)
    (present : s.items[(toLex (id,x) : ItemKey)]? = some status) (unfinished : status.terminal = false) :
    ∃ after : System lib, execute s (.complete id .done) = some after ∧ ¬Finished after := by
  obtain ⟨job,found,runs⟩ := (Option.any_eq_true _ _).mp running
  refine ⟨{completeJob s id with workers := s.workers.erase id},?_,?_⟩
  · simp only [execute,ended,Option.bind_some,workerStep]
    rfl
  · intro finished
    have done := finished id {job with status := .completed} ?_ rfl x status ?_
    · rw [unfinished] at done
      cases done
    · change (completeJob s id).jobs[id]? = _
      rw [completeJob_rows,found,Option.map_some,if_pos ⟨rfl,of_decide_eq_true runs⟩]
    · change (completeJob s id).items[(toLex (id,x) : ItemKey)]? = _
      rw [completeJob_outside.1,present]

theorem claim_failed : (claim s id .failed).jobs = s.jobs ∧
    (claim s id .failed).items = s.items ∧ (claim s id .failed).workers[id]? = some .completing := by
  unfold claim
  split <;> exact ⟨rfl,rfl,Table.get_insert.trans (if_pos rfl)⟩

-- A step that breaks the condition, and the job completes after it all the same.
theorem unserved (books : Books s.jobs s.items s.workers) (taken : execute s action = some s') (broken : served s action = false) :
    ∃ (later : List Action) (after : System lib), Runs (Executes execute) s' later after ∧ ¬Finished after := by
  cases action with
  | claim id outcome =>
    simp only [served,Bool.or_eq_false_iff,Bool.not_eq_false',decide_eq_false_iff_not] at broken
    obtain ⟨⟨running,waits⟩,fails⟩ := broken
    obtain ⟨x,next⟩ := Option.ne_none_iff_exists'.mp waits
    obtain ⟨worker,working,taken⟩ := Option.bind_eq_some_iff.mp taken
    cases worker with
    | claiming =>
      cases taken
      have left : ∃ status : ItemStatus, (claim s id outcome).items[(toLex (id,x) : ItemKey)]? = some status ∧
          status.terminal = false ∧ (claim s id outcome).workers[id]? = some .completing ∧
          (claim s id outcome).running id = true := by
        simp only [claim,next]
        cases outcome with
        | done => exact absurd rfl fails
        | failed => exact ⟨.pending,nextItem_some next,rfl,Table.get_insert.trans (if_pos rfl),running⟩
        | unanswered =>
          exact ⟨.processing,Table.get_insert.trans (if_pos rfl),rfl,Table.get_insert.trans (if_pos rfl),running⟩
      obtain ⟨status,present,unfinished,ended,running⟩ := left
      obtain ⟨after,completes,open'⟩ := completed_open running ended present unfinished
      exact ⟨[.complete id .done],after,.single completes,open'⟩
    | _ => cases taken
  | finish id outcome =>
    simp only [served,Bool.or_eq_false_iff,Bool.not_eq_false',decide_eq_false_iff_not,not_not] at broken
    obtain ⟨running,rfl⟩ := broken
    obtain ⟨worker,working,taken⟩ := Option.bind_eq_some_iff.mp taken
    cases worker with
    | finishing x result =>
      cases taken
      have held := books.held id _ x working rfl
      have claiming : (s.goto id .claiming).workers[id]? = some .claiming := Table.get_insert.trans (if_pos rfl)
      have ⟨jobs,items,ended⟩ := @claim_failed lib (s.goto id .claiming) id
      obtain ⟨after,completes,open'⟩ := completed_open (s:=claim (s.goto id .claiming) id .failed) (x:=x) (by
        rw [System.running,jobs]
        exact running) ended (by rw [items]; exact held) rfl
      refine ⟨[.claim id .failed,.complete id .done],after,.cons ?_ (.single completes),open'⟩
      simp only [Executes,execute]
      exact (congrArg (Option.bind · _) claiming)
    | _ => cases taken
  | _ => cases broken

theorem icon_jobs (lib : Libraries) :
    (∀ (actions : List Action) (s : System lib),
      Runs (Executes execute) System.empty actions s → Accounted s) ∧
    (∀ (actions : List Action) (s : System lib),
      Runs (Under (fun s a => served s a = true) (Executes execute)) System.empty actions s →
        Finished s) ∧
    ∀ (actions : List Action) (s : System lib) (action : Action) (s' : System lib),
      Runs (Executes execute) System.empty actions s → execute s action = some s' →
      served s action = false → ∃ (later : List Action) (after : System lib),
        Runs (Executes execute) s' later after ∧ ¬Finished after :=
  ⟨fun _ _ path => (books_run path).accounted,fun _ _ path => (tended_run path).2.finished,
    fun _ _ _ _ path taken broken => unserved (books_run path) taken broken⟩

-- One station with a favicon, claimed and told that the body is too large.
def servedJob : List Action :=
  [.catalog ⟨"calm",none,some "https://calm.example/icon.png"⟩,.start 0 .done,.claim 0 .done,
    .resolve 0 ⟨fun _ => .oversize,fun _ => .oversize⟩,.finish 0 .done,.claim 0 .done,.complete 0 .done]

theorem served_job_finishes : ∃ s : System plain, (s.jobs[(0 : Uuid)]?).any (·.status = .completed) = true ∧
    Accounted s ∧ Finished s := by
  obtain ⟨s,path,seen⟩ := guarded_reaches served execute (System.empty : System plain) servedJob
    (fun s => (s.jobs[(0 : Uuid)]?).any (·.status = .completed)) (by decide)
  exact ⟨s,seen,(icon_jobs plain).1 servedJob s (path.mono fun _ _ _ taken => taken.2),(icon_jobs plain).2.1 servedJob s path⟩

-- The same station; its item is not claimed, and the job completes.
def lostClaim : List Action :=
  [.catalog ⟨"calm",none,some "https://calm.example/icon.png"⟩,.start 0 .done,.claim 0 .failed,.complete 0 .done]

theorem lost_claim_completes : ∃ s : System plain,
    Runs (Executes execute) System.empty lostClaim s ∧ ¬Finished s := by
  obtain ⟨s,path,seen⟩ := run_reaches execute (System.empty : System plain) lostClaim
    (fun s => (s.jobs[(0 : Uuid)]?).any (·.status = .completed) &&
      (s.items[(toLex (0,"calm") : ItemKey)]?).any fun status => !status.terminal) (by decide)
  refine ⟨s,path,fun finished => ?_⟩
  obtain ⟨completed,unfinished⟩ := (Bool.and_eq_true _ _).mp seen
  obtain ⟨job,found,status⟩ := (Option.any_eq_true _ _).mp completed
  obtain ⟨status',present,unfinished⟩ := (Option.any_eq_true _ _).mp unfinished
  have done := finished 0 job found (of_decide_eq_true status) "calm" status' present
  rw [done] at unfinished
  cases unfinished

end IconImport
