import Mathlib.Data.UInt
import RockServer.CatalogRecords

namespace CatalogImport

structure ImportLimits where
  pageSize : UInt64
  maxPages : UInt64

-- How provider and store behave in one run: what each of their calls answers, a
-- page's calls by its number.
structure Behaviour where
  startRun : Except CatalogImportError String
  fetchPage : Nat → Except CatalogImportError ImportPage
  upsertBatch : Nat → Except CatalogImportError UInt64
  completeRun : Except CatalogImportError Unit
  failRun : Except CatalogImportError Unit

-- The calls that a run makes, each with its answer.
inductive Event where
  | startRun (source : String) (answer : Except CatalogImportError String)
  | fetchPage (offset limit : UInt64) (answer : Except CatalogImportError ImportPage)
  | upsertBatch (runId source : String) (stations : List ImportedStation) (answer : Except CatalogImportError UInt64)
  | completeRun (runId : String) (counts : ImportCounts) (answer : Except CatalogImportError Unit)
  | failRun (runId : String) (counts : ImportCounts) (errorSummary : String) (answer : Except CatalogImportError Unit)

def ownershipError : CatalogImportError := ⟨"Catalog provider returned mismatched source ownership"⟩

variable (behaviour : Behaviour) (limits : ImportLimits) (source runId : String)

def recordFailure (counts : ImportCounts) (error : CatalogImportError) : Event × CatalogImportError :=
  (.failRun runId counts error.summary behaviour.failRun,match behaviour.failRun with
    | .error unrecorded => unrecorded
    | .ok () => error)

def recordedFailure (events : List Event) (counts : ImportCounts) (error : CatalogImportError) :
    List Event × Except CatalogImportError (ImportCounts × Bool) :=
  let recorded := recordFailure behaviour runId counts error
  (events ++ [recorded.1],.error recorded.2)

-- One turn of the loop, and whether it was the last one.
def importPage (pageIndex : Nat) (counts : ImportCounts) : List Event × Except CatalogImportError (ImportCounts × Bool) :=
  let offset := UInt64.ofNat pageIndex * limits.pageSize
  let fetch : Event := .fetchPage offset limits.pageSize (behaviour.fetchPage pageIndex)
  match behaviour.fetchPage pageIndex with
  | .error error => recordedFailure behaviour runId [fetch] counts error
  | .ok page =>
    let counts := {counts with fetched := counts.fetched + page.fetched,skipped := counts.skipped + page.skipped}
    let normalizedCount := UInt64.ofNat page.stations.length
    if page.stations.any (·.source ≠ source) then
      recordedFailure behaviour runId [fetch] {counts with failed := counts.failed + normalizedCount} ownershipError
    else if page.stations.isEmpty then ([fetch],.ok (counts,page.fetched < limits.pageSize))
    else
      let upsert : Event := .upsertBatch runId source page.stations (behaviour.upsertBatch pageIndex)
      match behaviour.upsertBatch pageIndex with
      | .error error =>
        recordedFailure behaviour runId [fetch,upsert] {counts with failed := counts.failed + normalizedCount} error
      | .ok imported =>
        ([fetch,upsert],.ok ({counts with imported := counts.imported + imported},page.fetched < limits.pageSize))

-- The remaining turns of the loop.
def importPages : Nat → Nat → ImportCounts → List Event × Except CatalogImportError ImportCounts
  | 0,_,counts => ([],.ok counts)
  | turns + 1,pageIndex,counts =>
    let page := importPage behaviour limits source runId pageIndex counts
    match page.2 with
    | .error error => (page.1,.error error)
    | .ok (counts,true) => (page.1,.ok counts)
    | .ok (counts,false) =>
      let rest := importPages turns (pageIndex + 1) counts
      (page.1 ++ rest.1,rest.2)

def run : List Event × Except CatalogImportError ImportRunResult :=
  let start : Event := .startRun source behaviour.startRun
  match behaviour.startRun with
  | .error error => ([start],.error error)
  | .ok runId =>
    let pages := importPages behaviour limits source runId limits.maxPages.toNat 0 {}
    match pages.2 with
    | .error error => (start :: pages.1,.error error)
    | .ok counts => (start :: (pages.1 ++ [.completeRun runId counts behaviour.completeRun]),match behaviour.completeRun with
      | .error error => .error error
      | .ok () => .ok ⟨runId,counts⟩)

namespace Event

def request : Event → Option (UInt64 × UInt64 × Except CatalogImportError ImportPage)
  | fetchPage offset limit answer => some (offset,limit,answer)
  | _ => none

def page : Event → Option ImportPage
  | fetchPage _ _ (.ok page) => some page
  | _ => none

def imported : Event → Option UInt64
  | upsertBatch _ _ _ (.ok count) => some count
  | _ => none

def terminal : Event → Bool
  | completeRun .. | failRun .. => true
  | _ => false

-- A failed step, and the size of the page that it rejects.
def failure (source : String) : Event → Option (CatalogImportError × UInt64)
  | fetchPage _ _ (.error error) => some (error,0)
  | fetchPage _ _ (.ok page) =>
    if page.stations.any (·.source ≠ source) then some (ownershipError,UInt64.ofNat page.stations.length) else none
  | upsertBatch _ _ stations (.error error) => some (error,UInt64.ofNat stations.length)
  | _ => none

-- A batch of the run's own source, under the run's id.
def Owned (source runId : String) : Event → Prop
  | upsertBatch run owner stations _ => run = runId ∧ owner = source ∧ ∀ station ∈ stations, station.source = source
  | _ => True

end Event

-- The counters that a list of calls should lead to from others.
def counted (events : List Event) (counts : ImportCounts) (failed : UInt64) : ImportCounts where
  fetched := counts.fetched + ((events.filterMap Event.page).map (·.fetched)).sum
  imported := counts.imported + (events.filterMap Event.imported).sum
  skipped := counts.skipped + ((events.filterMap Event.page).map (·.skipped)).sum
  failed := counts.failed + failed

-- What a part of the loop adds to the run: all good so far, or one failure with
-- the terminal call that it leads to.
inductive Accounts (counts : ImportCounts) : List Event → Except CatalogImportError ImportCounts → Prop where
  | good {events : List Event} : events.filterMap (Event.failure source) = [] → events.filter Event.terminal = [] →
      Accounts counts events (.ok (counted events counts 0))
  | failed {events : List Event} {error : CatalogImportError} {size : UInt64} :
      events.filterMap (Event.failure source) = [(error,size)] → events.filter Event.terminal = [] →
      Accounts counts (events ++ [(recordFailure behaviour runId (counted events counts size) error).1])
        (.error (recordFailure behaviour runId (counted events counts size) error).2)

-- One turn: its request, the batches it hands over, and its account.
structure Turn (pageIndex : Nat) (counts : ImportCounts)
    (turn : List Event × Except CatalogImportError (ImportCounts × Bool)) : Prop where
  requested : turn.1.filterMap Event.request =
    [(UInt64.ofNat pageIndex * limits.pageSize,limits.pageSize,behaviour.fetchPage pageIndex)]
  owned : ∀ event ∈ turn.1, event.Owned source runId
  accounts : Accounts behaviour source runId counts turn.1 (turn.2.map Prod.fst)
  last : ∀ counts' short, turn.2 = .ok (counts',short) → ∃ page, behaviour.fetchPage pageIndex = .ok page ∧
    short = decide (page.fetched < limits.pageSize)

-- The requests of a loop: page after page, each but the last one full.
structure Paged (turns pageIndex : Nat) (events : List Event) (completed : Bool) (n : Nat) : Prop where
  bounded : n ≤ turns
  requested : events.filterMap Event.request = (List.range' pageIndex n).map fun i =>
    (UInt64.ofNat i * limits.pageSize,limits.pageSize,behaviour.fetchPage i)
  full : ∀ i, pageIndex ≤ i → i + 1 < pageIndex + n → ∃ page, behaviour.fetchPage i = .ok page ∧ limits.pageSize ≤ page.fetched
  ended : completed = true → n = turns ∨ ∃ i page, pageIndex ≤ i ∧ pageIndex + n = i + 1 ∧
    behaviour.fetchPage i = .ok page ∧ page.fetched < limits.pageSize

variable {behaviour limits source runId} {counts : ImportCounts} {events later : List Event} {turns pageIndex : Nat}
variable {outcome : Except CatalogImportError ImportCounts}

theorem counted_append {size : UInt64} : counted (events ++ later) counts size = counted later (counted events counts 0) size := by
  simp [counted,List.sum_append,UInt64.add_assoc]

theorem Accounts.append (good : events.filterMap (Event.failure source) = []) (idle : events.filter Event.terminal = [])
    (rest : Accounts behaviour source runId (counted events counts 0) later outcome) :
    Accounts behaviour source runId counts (events ++ later) outcome := by
  cases rest with
  | good fine none =>
    rw [← counted_append]
    exact .good (by simp [good,fine]) (by simp [idle,none])
  | @failed earlier error size failed none =>
    rw [← counted_append,← List.append_assoc]
    exact .failed (by simp [good,failed]) (by simp [idle,none])

theorem Accounts.passed {counts' : ImportCounts} (accounts : Accounts behaviour source runId counts events (.ok counts')) :
    events.filterMap (Event.failure source) = [] ∧ events.filter Event.terminal = [] ∧ counts' = counted events counts 0 := by
  cases accounts with
  | good fine idle => exact ⟨fine,idle,rfl⟩

theorem recorded_turn {counts' : ImportCounts} {error : CatalogImportError} {size : UInt64}
    (requested : events.filterMap Event.request =
      [(UInt64.ofNat pageIndex * limits.pageSize,limits.pageSize,behaviour.fetchPage pageIndex)])
    (owned : ∀ event ∈ events, event.Owned source runId) (failed : events.filterMap (Event.failure source) = [(error,size)])
    (idle : events.filter Event.terminal = []) (same : counts' = counted events counts size) :
    Turn behaviour limits source runId pageIndex counts
      (recordedFailure behaviour runId events counts' error) := by
  subst same
  refine ⟨?_,?_,.failed failed idle,fun _ _ impossible => by cases impossible⟩
  · simp [recordedFailure,recordFailure,requested,Event.request]
  · intro event member
    rcases List.mem_append.mp member with early | last
    · exact owned event early
    · rw [List.mem_singleton.mp last]
      trivial

theorem passed_turn {counts' : ImportCounts} {page : ImportPage} (fetched : behaviour.fetchPage pageIndex = .ok page)
    (requested : events.filterMap Event.request =
      [(UInt64.ofNat pageIndex * limits.pageSize,limits.pageSize,behaviour.fetchPage pageIndex)])
    (owned : ∀ event ∈ events, event.Owned source runId) (fine : events.filterMap (Event.failure source) = [])
    (idle : events.filter Event.terminal = []) (same : counts' = counted events counts 0) :
    Turn behaviour limits source runId pageIndex counts (events,.ok (counts',decide (page.fetched < limits.pageSize))) := by
  subst same
  refine ⟨requested,owned,.good fine idle,fun counts' short answered => ?_⟩
  cases answered
  exact ⟨page,fetched,rfl⟩

theorem importPage_turn : Turn behaviour limits source runId pageIndex counts
    (importPage behaviour limits source runId pageIndex counts) := by
  unfold importPage
  dsimp only
  cases fetched : behaviour.fetchPage pageIndex with
  | error error =>
    apply recorded_turn
    · simp [Event.request,fetched]
    · simp [Event.Owned]
    · simp [Event.failure]
      rfl
    · rfl
    · simp [counted,List.filterMap_cons,Event.page,Event.imported]
  | ok page =>
    dsimp only
    split
    · rename_i foreign
      apply recorded_turn
      · simp [Event.request,fetched]
      · simp [Event.Owned]
      · rw [List.filterMap_cons,Event.failure,if_pos foreign]
        rfl
      · rfl
      · simp [counted,List.filterMap_cons,Event.page,Event.imported]
    · rename_i own
      have fine : ∀ station ∈ page.stations, station.source = source := by simpa using own
      have unfailed : ∀ offset limit, (Event.fetchPage offset limit (.ok page)).failure source = none := by
        intro offset limit
        exact if_neg own
      split
      · apply passed_turn fetched
        · simp [Event.request,fetched]
        · simp [Event.Owned]
        · simp [unfailed]
        · rfl
        · simp [counted,List.filterMap_cons,Event.page,Event.imported]
      · cases stored : behaviour.upsertBatch pageIndex with
        | error error =>
          apply recorded_turn
          · simp [Event.request,fetched]
          · simpa [Event.Owned] using fine
          · rw [List.filterMap_cons,unfailed]
            rfl
          · rfl
          · simp [counted,List.filterMap_cons,Event.page,Event.imported]
        | ok imported =>
          apply passed_turn fetched
          · simp [Event.request,fetched]
          · simpa [Event.Owned] using fine
          · rw [List.filterMap_cons,unfailed]
            rfl
          · rfl
          · simp [counted,List.filterMap_cons,Event.page,Event.imported]

theorem Paged.one {completed : Bool}
    (requested : events.filterMap Event.request =
      [(UInt64.ofNat pageIndex * limits.pageSize,limits.pageSize,behaviour.fetchPage pageIndex)])
    (ended : completed = true → ∃ page, behaviour.fetchPage pageIndex = .ok page ∧ page.fetched < limits.pageSize) :
    Paged behaviour limits (turns + 1) pageIndex events completed 1 := by
  refine ⟨by omega,requested,fun i _ _ => by omega,fun done => ?_⟩
  obtain ⟨page,fetched,short⟩ := ended done
  exact .inr ⟨pageIndex,page,Nat.le_refl _,rfl,fetched,short⟩

theorem Paged.more {completed : Bool} {n : Nat} {page : ImportPage} (fetched : behaviour.fetchPage pageIndex = .ok page)
    (full : ¬ page.fetched < limits.pageSize)
    (requested : events.filterMap Event.request =
      [(UInt64.ofNat pageIndex * limits.pageSize,limits.pageSize,behaviour.fetchPage pageIndex)])
    (rest : Paged behaviour limits turns (pageIndex + 1) later completed n) :
    Paged behaviour limits (turns + 1) pageIndex (events ++ later) completed (n + 1) := by
  refine ⟨Nat.succ_le_succ rest.bounded,?_,fun i lower upper => ?_,fun done => ?_⟩
  · rw [List.filterMap_append,requested,rest.requested]
    rfl
  · rcases Nat.eq_or_lt_of_le lower with rfl | above
    · exact ⟨page,fetched,UInt64.not_lt.mp full⟩
    · exact rest.full i above (by omega)
  · rcases rest.ended done with same | ⟨i,page,lower,upper,found,short⟩
    · exact .inl (congrArg Nat.succ same)
    · exact .inr ⟨i,page,by omega,by omega,found,short⟩

-- The loop, by induction on its turns.
theorem importPages_spec : let pages := importPages behaviour limits source runId turns pageIndex counts
    (∃ n, Paged behaviour limits turns pageIndex pages.1 pages.2.isOk n) ∧
    (∀ event ∈ pages.1, event.Owned source runId) ∧ Accounts behaviour source runId counts pages.1 pages.2 := by
  induction turns generalizing pageIndex counts with
  | zero =>
    refine ⟨⟨0,Nat.le_refl 0,rfl,fun i _ _ => by omega,fun _ => .inl rfl⟩,by simp [importPages],?_⟩
    have same : counts = counted [] counts 0 := by simp [counted]
    show Accounts behaviour source runId counts [] (.ok counts)
    nth_rewrite 2 [same]
    exact .good rfl rfl
  | succ turns ih =>
    have turn := @importPage_turn behaviour limits source runId counts pageIndex
    have accounts := turn.accounts
    unfold importPages
    dsimp only
    split
    · rename_i error failed
      rw [failed] at accounts
      exact ⟨⟨1,.one turn.requested fun impossible => by cases impossible⟩,turn.owned,accounts⟩
    · rename_i counts' passed
      obtain ⟨page,fetched,short⟩ := turn.last counts' true passed
      rw [passed] at accounts
      exact ⟨⟨1,.one turn.requested fun _ => ⟨page,fetched,of_decide_eq_true short.symm⟩⟩,turn.owned,accounts⟩
    · rename_i counts' passed
      obtain ⟨page,fetched,full⟩ := turn.last counts' false passed
      obtain ⟨⟨n,paged⟩,owned,rest⟩ := @ih counts' (pageIndex + 1)
      rw [passed] at accounts
      refine ⟨⟨n + 1,.more fetched (of_decide_eq_false full.symm) turn.requested paged⟩,?_,?_⟩
      · intro event member
        rcases List.mem_append.mp member with early | late
        · exact turn.owned event early
        · exact owned event late
      · obtain ⟨good,idle,rfl⟩ := accounts.passed
        exact rest.append good idle

theorem recordFailure_error {error : CatalogImportError} :
    (behaviour.failRun = .ok () → (recordFailure behaviour runId counts error).2 = error) ∧
    ∀ unrecorded, behaviour.failRun = .error unrecorded → (recordFailure behaviour runId counts error).2 = unrecorded := by
  unfold recordFailure
  constructor
  · intro recorded
    rw [recorded]
  · intro unrecorded lost
    rw [lost]

-- A full page and a short one, of five that the limits allow.
def stationOf (name : String) : ImportedStation :=
  ⟨"test",name,"test:" ++ name,name,none,none,[],none,none,[⟨name,"https://radio.example/" ++ name,none,none,true⟩]⟩

def shortPage : Behaviour where
  startRun := .ok "run-test"
  fetchPage i := .ok (if i = 0 then ⟨2,[stationOf "one"],1⟩ else ⟨1,[stationOf "two"],0⟩)
  upsertBatch _ := .ok 1
  completeRun := .ok ()
  failRun := .ok ()

end CatalogImport
