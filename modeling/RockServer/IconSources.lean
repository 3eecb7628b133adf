import RockServer.IconArtifacts

-- Dead sources: what their item is told, and what the next job selects.
namespace IconImport
open CatalogImport (IconStatus)
open DeviceControl (Uuid)
open Transition (Runs Under Executes guarded_reaches run_sound)

section plans
variable (lib : Libraries) (web : Web) (item : IconJobItem)

-- The sources that a plan tries.
def sourcesOf : List String := match item.sourceUrl with
  | some source => [source]
  | none => match item.homepageUrl with
    | none => []
    | some homepage => match discoverHomepageIcons lib web homepage with
      | .ok candidates => candidates
      | .error _ => []

def gives (source : String) : Bool := (fetchIcon lib web source).isOk

-- A body in a format that is known, but no image, or none that can be written as an icon.
def undecodable : Download → Bool
  | .body bytes => match prepareIcon lib bytes with
    | .error .decode => true
    | _ => false
  | _ => false

-- Whether the homepage of an item without a source cannot be reached.
def homepageDown : Bool := item.sourceUrl.isNone && item.homepageUrl.any fun homepage => web.homepage homepage matches .transport

def transportFailed : Bool := homepageDown web item || (sourcesOf lib web item).any fun source => web.icon source matches .transport

end plans

variable {lib : Libraries} {web : Web} {item : IconJobItem}

theorem fetch_decode {source : String} : fetchIcon lib web source = .error .decode ↔
    web.icon source = .transport ∨ undecodable lib (web.icon source) = true := by
  unfold fetchIcon undecodable
  cases web.icon source with
  | transport | unusable | oversize => simp [fetchBounded,Except.bind]
  | body bytes =>
    simp only [fetchBounded,Except.bind,reduceCtorEq,false_or]
    cases prepareIcon lib bytes with
    | ok icon => simp
    | error error => cases error <;> simp

theorem trySources_retryable {sourcePriority : Nat} {sources : List String} {saw : Bool} :
    trySources lib web sourcePriority sources saw = .retryable ↔
      (∀ source ∈ sources, gives lib web source = false) ∧
      (saw = true ∨ ∃ source ∈ sources, fetchIcon lib web source = .error .decode) := by
  induction sources generalizing saw with
  | nil => cases saw <;> simp [trySources]
  | cons source rest ih =>
    rw [trySources]
    cases fetched : fetchIcon lib web source with
    | ok icon => simp [gives,fetched,Except.isOk,Except.toBool]
    | error error => cases error <;> simp [ih,gives,fetched,Except.isOk,Except.toBool]

-- Where no source gives an icon, none is planned.
theorem trySources_dead {sourcePriority : Nat} {sources : List String} {saw : Bool}
    (dead : ∀ source ∈ sources, gives lib web source = false) :
    trySources lib web sourcePriority sources saw = .retryable ∨ trySources lib web sourcePriority sources saw = .permanent := by
  induction sources generalizing saw with
  | nil => cases saw <;> simp [trySources]
  | cons source rest ih =>
    have ⟨first,later⟩ := List.forall_mem_cons.mp dead
    rw [trySources]
    cases fetched : fetchIcon lib web source with
    | ok icon => simp [gives,fetched,Except.isOk,Except.toBool] at first
    | error error => cases error <;> exact ih later

theorem plan_retryable : resolveItemPlan lib web item = .retryable ↔
    (∀ source ∈ sourcesOf lib web item, gives lib web source = false) ∧
    (homepageDown web item = true ∨ ∃ source ∈ sourcesOf lib web item, fetchIcon lib web source = .error .decode) := by
  unfold resolveItemPlan sourcesOf homepageDown
  cases item.sourceUrl with
  | some source => simp [trySources_retryable]
  | none =>
    cases item.homepageUrl with
    | none => simp
    | some homepage =>
      cases download : web.homepage homepage with
      | transport | unusable | oversize => simp [discoverHomepageIcons,download,fetchBounded,Except.map]
      | body bytes =>
        simp only [discoverHomepageIcons,download,fetchBounded,Except.map]
        cases candidates : lib.candidates bytes homepage with
        | nil => simp [download]
        | cons first rest => simp [trySources_retryable,download]

theorem plan_dead (dead : ∀ source ∈ sourcesOf lib web item, gives lib web source = false) :
    ∃ result, afterPlan item.stationId (resolveItemPlan lib web item) = .finishing item.stationId result := by
  have ended {sourcePriority : Nat} {sources : List String} (dead : ∀ source ∈ sources, gives lib web source = false) :
      ∃ result, afterPlan item.stationId (trySources lib web sourcePriority sources false) = .finishing item.stationId result := by
    rcases @trySources_dead lib web sourcePriority sources false dead with plan | plan
    · exact ⟨.retryableError,congrArg _ plan⟩
    · exact ⟨.permanentError,congrArg _ plan⟩
  unfold resolveItemPlan
  unfold sourcesOf at dead
  cases source : item.sourceUrl with
  | some source =>
    rw [source] at dead
    exact ended dead
  | none =>
    rw [source] at dead
    cases homepage : item.homepageUrl with
    | none => exact ⟨.missing,rfl⟩
    | some homepage' =>
      rw [homepage] at dead
      cases found : discoverHomepageIcons lib web homepage' with
      | ok candidates =>
        simp only [found] at dead
        cases candidates with
        | nil => exact ⟨.permanentError,by simp [found]; rfl⟩
        | cons first rest =>
          simp only [found]
          exact ended dead
      | error error =>
        cases error with
        | decode => exact ⟨.retryableError,by simp [found]; rfl⟩
        | size | format | dimensions => exact ⟨.permanentError,by simp [found]; rfl⟩

-- A retryable plan has met a failure of the transport, unless all that it has met is
-- a body that cannot be read.
theorem retryable_transport : (resolveItemPlan lib web item = .retryable → transportFailed lib web item = true) ↔
    transportFailed lib web item = true ∨ (∃ source ∈ sourcesOf lib web item, gives lib web source = true) ∨
    ∀ source ∈ sourcesOf lib web item, undecodable lib (web.icon source) = false := by
  rw [plan_retryable]
  constructor
  · intro only
    by_contra none
    simp only [not_or,Bool.not_eq_true,not_exists,not_and,not_forall,Bool.not_eq_false] at none
    obtain ⟨reached,nothing,source,member,unreadable⟩ := none
    have failed := only ⟨nothing,.inr ⟨source,member,fetch_decode.mpr (.inr unreadable)⟩⟩
    rw [reached] at failed
    cases failed
  · rintro (failed | ⟨source,member,given⟩ | readable) ⟨nothing,met⟩
    · exact failed
    · rw [nothing source member] at given
      cases given
    · rw [transportFailed,Bool.or_eq_true]
      refine met.imp_right ?_
      rintro ⟨source,member,failed⟩
      rcases fetch_decode.mp failed with down | unreadable
      · exact List.any_eq_true.mpr ⟨source,member,by simp [down]⟩
      · rw [readable source member] at unreadable
        cases unreadable

section rows
variable {s s' : System lib} {action : Action} {x : String} {row : StationIcon} {entry : CatalogEntry}

-- The three states that a row is ever in.
def usual (status : IconStatus) : Bool := status = .pending || status = .missing || status = .ready

theorem write_usual (rows : ∀ row, icon s x = some row → usual row.status = true) (write : IconWrite s action x row) :
    usual row.status = true := by
  cases write with
  | @catalog entry =>
    cases before : icon s entry.stationId with
    | none => cases favicon : entry.favicon <;> rfl
    | some row =>
      have old := rows row before
      cases overridden : row.manualOverride
      · by_cases ready : row.status = .ready
        · simp [catalogUpsert,overridden,ready,usual]
        · cases favicon : entry.favicon <;> simp [catalogUpsert,overridden,ready,usual]
      · simpa [catalogUpsert,overridden] using old
  | manual _ _ _ => rfl
  | detached _ _ _ => rfl
  | published working _ =>
    cases before : icon s x with
    | none => rfl
    | some row =>
      have old := rows row before
      cases overridden : row.manualOverride
      · simp [publishUpsert,overridden,usual]
      · simpa [publishUpsert,overridden] using old

theorem usual_run {actions : List Action} (path : Runs (Executes execute) System.empty actions s) :
    ∀ (x : String) (row : StationIcon), icon s x = some row → usual row.status = true := by
  refine path.invariant (fun s => ∀ (x : String) (row : StationIcon), icon s x = some row → usual row.status = true) ?_ ?_
  · intro x row found
    simp [icon,System.empty] at found
  · intro s action s' rows taken x row found
    have move := icon_move taken
    unfold icon at found
    generalize s'.icons = icons,s'.storage = storage at move found
    cases move with
    | same | stored _ _ => exact rows x row found
    | wrote write =>
      rw [Table.get_insert] at found
      split at found
      · rename_i own
        obtain rfl := Option.some.inj found
        exact write_usual (rows _) write
      · exact rows x row found

-- Nothing to show for a station: its sources are dead.
def deadly (lib : Libraries) (web : Web) (item : IconJobItem) : Bool :=
  !transportFailed lib web item && (sourcesOf lib web item).all fun source => !gives lib web source

-- The source and the homepage of a station stay as they are, every fetch of them fails
-- otherwise than in transport, and no override is removed.
def lifeless (entry : CatalogEntry) (s : System lib) : Action → Bool
  | .catalog entry' => entry'.stationId ≠ entry.stationId || entry' = entry
  | .resolve id web => match s.workers[id]? with
    | some (.resolving item) => item.stationId ≠ entry.stationId || deadly lib web item
    | _ => true
  | .removeManual stationId outcome => !removes s entry.stationId (.removeManual stationId outcome)
  | _ => true

-- No worker brings an icon of the station.
def Barren (s : System lib) (x : String) : Prop := ∀ (id : Uuid) (artifact : PreparedIcon lib.digest) (sourceUrl : String)
  (sourcePriority : Nat), s.workers[id]? ≠ some (.storing x artifact sourceUrl sourcePriority) ∧
    s.workers[id]? ≠ some (.publishing x artifact sourceUrl sourcePriority)

theorem afterPlan_brings {plan : ItemPlan lib} {artifact : PreparedIcon lib.digest} {sourceUrl : String} {sourcePriority : Nat}
    {stationId : String} : afterPlan stationId plan ≠ .publishing x artifact sourceUrl sourcePriority ∧
    (afterPlan stationId plan = .storing x artifact sourceUrl sourcePriority → stationId = x) := by
  constructor
  · intro publishing
    cases plan <;> cases publishing
  · intro storing
    cases plan <;> cases storing
    rfl

theorem barren_step (barren : Barren s entry.stationId) (met : lifeless entry s action = true)
    (taken : execute s action = some s') : Barren s' entry.stationId := by
  have brought {id : Uuid} {worker : Worker lib} (working : s'.workers[id]? = some worker) {artifact : PreparedIcon lib.digest}
      {sourceUrl : String} {sourcePriority : Nat} (brings : worker = .storing entry.stationId artifact sourceUrl sourcePriority ∨
        worker = .publishing entry.stationId artifact sourceUrl sourcePriority) : False := by
    rcases worker_origin taken working with before | ⟨claims,_⟩ | ⟨old,before,own,turn⟩
    · rcases brings with rfl | rfl
      · exact (barren id artifact sourceUrl sourcePriority).1 before
      · exact (barren id artifact sourceUrl sourcePriority).2 before
    · rcases brings with rfl | rfl <;> cases claims
    · cases turn with
      | @resolved id' web item =>
        obtain rfl := Option.some.inj own
        by_cases here : item.stationId = entry.stationId
        · simp only [lifeless,before,here,ne_eq,not_true,decide_false,Bool.false_or,deadly,Bool.and_eq_true] at met
          have dead : ∀ source ∈ sourcesOf lib web item, gives lib web source = false := by
            simpa using met.2
          obtain ⟨result,ended⟩ := plan_dead dead
          rw [ended] at brings
          rcases brings with brings | brings <;> cases brings
        · rcases brings with brings | brings
          · exact here (afterPlan_brings.2 brings)
          · exact afterPlan_brings.1 brings
      | @stored _ _ y artifact' sourceUrl' sourcePriority' _ =>
        rcases brings with brings | brings
        · cases brings
        · cases brings
          exact (barren id artifact sourceUrl sourcePriority).1 before
      | _ => rcases brings with brings | brings <;> cases brings
  exact fun id artifact sourceUrl sourcePriority => ⟨fun working => brought working (.inl rfl),fun working => brought working (.inr rfl)⟩

-- What has become of the row of a station that was there at first.
inductive Remains (first : Option StationIcon) (favicon : Option String) (again : Bool) : Option StationIcon → Prop where
  | overridden {row : StationIcon} : row.manualOverride = true → Remains first favicon again (some row)
  | absent : first = none → Remains first favicon again none
  | automatic {row : StationIcon} : row.manualOverride = false → row.sourceUrl = favicon → usual row.status = true →
      (row.status = .ready → first.any (fun row => row.status = .ready) = true ∧
        row.refreshNeeded = (first.any (·.refreshNeeded) && !again)) →
      (first.any (fun row => row.status = .ready) = true → row.status = .ready) →
      first.any (·.manualOverride) = false → Remains first favicon again (some row)

variable {first : Option StationIcon} {again : Bool} {now : Option StationIcon}

theorem Remains.start (source : first.all (fun row => row.manualOverride || row.sourceUrl = entry.favicon) = true)
    (plain : ∀ row, first = some row → usual row.status = true) : Remains first entry.favicon false first := by
  cases first with
  | none => exact .absent rfl
  | some row =>
    cases overridden : row.manualOverride with
    | true => exact .overridden overridden
    | false =>
      simp only [Option.all_some,overridden,Bool.false_or,decide_eq_true_eq] at source
      refine .automatic overridden source (plain row rfl) (fun ready => ?_) (fun ready => by simpa using ready) (by simpa using overridden)
      simp [ready]

theorem Remains.reimported (remains : Remains first entry.favicon again now) :
    Remains first entry.favicon true (some (catalogUpsert entry.favicon now)) := by
  cases remains with
  | @overridden row own => exact .overridden (by simp [catalogUpsert,own])
  | absent gone =>
    subst gone
    refine .automatic rfl rfl ?_ (fun ready => ?_) (fun ready => by simp at ready) rfl
    · cases favicon : entry.favicon <;> rfl
    · cases favicon : entry.favicon <;> simp [catalogUpsert,unset,favicon] at ready
  | @automatic row own source plain ready kept automatic =>
    refine .automatic (by simp [catalogUpsert,own]) (by simp [catalogUpsert,own]) ?_ (fun ready' => ?_) (fun was => ?_)
      automatic
    · by_cases there : row.status = .ready
      · simp [catalogUpsert,own,there,usual]
      · cases favicon : entry.favicon <;> simp [catalogUpsert,own,there,usual]
    · obtain ⟨_,found,there,_,_⟩ := catalogUpsert_ready ready'
      cases found
      refine ⟨(ready there).1,?_⟩
      simp [catalogUpsert,own,source]
    · simp [catalogUpsert,own,kept was]

-- Whether a run imports the station.
def imports (x : String) (actions : List Action) : Bool := actions.any fun action => match action with
  | .catalog entry => entry.stationId = x
  | _ => false

theorem remains_step (remains : Remains first entry.favicon again (icon s entry.stationId)) (barren : Barren s entry.stationId)
    (met : lifeless entry s action = true) (taken : execute s action = some s') :
    Remains first entry.favicon (again || imports entry.stationId [action]) (icon s' entry.stationId) := by
  cases other : imports entry.stationId [action] with
  | true =>
    cases action with
    | catalog entry' =>
      simp only [imports,List.any_cons,List.any_nil,Bool.or_false,decide_eq_true_eq] at other
      simp only [lifeless,other,ne_eq,not_true,decide_false,Bool.false_or,decide_eq_true_eq] at met
      subst met
      obtain ⟨row,checks,rfl⟩ := Option.map_eq_some_iff.mp taken
      simp only [icon,Table.get_insert,if_pos,Option.map_some,checked_some checks,Bool.or_true]
      exact remains.reimported
    | _ => cases other
  | false =>
    rw [Bool.or_false]
    have move := icon_move taken
    unfold icon
    generalize s'.icons = icons,s'.storage = storage at move ⊢
    cases move with
    | same | stored _ _ => exact remains
    | @wrote x row write =>
      rw [Table.get_insert]
      by_cases own : x = entry.stationId
      · rw [if_pos own]
        change Remains first entry.favicon again (some row.val)
        generalize row.val = new at write
        cases write with
        | catalog => simp [imports,own] at other
        | manual _ _ _ => exact .overridden rfl
        | detached found overridden effective =>
          rw [own] at found
          simp [lifeless,removes,effective,own,found,overridden] at met
        | published working _ => exact absurd (own ▸ working) (barren _ _ _ _).2
      · rw [if_neg own]
        exact remains

theorem imports_append (x : String) (earlier later : List Action) :
    imports x (earlier ++ later) = (imports x earlier || imports x later) := List.any_append

theorem remains_run {origin : System lib} {actions : List Action} (barren : Barren origin entry.stationId)
    (source : (icon origin entry.stationId).all (fun row => row.manualOverride || row.sourceUrl = entry.favicon) = true)
    (plain : ∀ row, icon origin entry.stationId = some row → usual row.status = true)
    (path : Runs (Under (fun s a => lifeless entry s a = true) (Executes execute)) origin actions s) :
    Barren s entry.stationId ∧
      Remains (icon origin entry.stationId) entry.favicon (imports entry.stationId actions) (icon s entry.stationId) := by
  induction path with
  | nil => exact ⟨barren,.start source plain⟩
  | snoc _ taken ih =>
    rw [imports_append]
    exact ⟨barren_step ih.1 taken.1 taken.2,remains_step ih.2 ih.1 taken.1 taken.2⟩

-- A station that a job may take: listed, and without an override.
def available (s : System lib) (x : String) : Bool :=
  ((s.stations[x]?).any fun station => !station.retired) && !(icon s x).any (·.manualOverride)

theorem mem_selected : x ∈ s.selected ↔ s.selects x = true := by
  rw [System.selected,List.mem_filter]
  constructor
  · exact And.right
  · intro selects
    obtain ⟨station,found,_⟩ := (Option.any_eq_true _ _).mp selects
    exact ⟨List.mem_map.mpr ⟨(x,station),Table.mem_entries.mpr found,rfl⟩,selects⟩

theorem selects_icon : s.selects x = ((s.stations[x]?).any (fun station => !station.retired) &&
    !(icon s x).any (·.manualOverride) && (icon s x).all fun row => row.status = .pending || row.status = .missing ||
      row.status = .retryableError || row.refreshNeeded) := by
  unfold System.selects icon eligible
  cases s.stations[x]? with
  | none => rfl
  | some station => cases s.icons[x]? <;> simp

theorem Remains.selects (remains : Remains first entry.favicon again (icon s x)) : s.selects x = (available s x &&
    first.all fun row => row.status ≠ .ready || row.refreshNeeded && !again) := by
  rw [selects_icon,available]
  generalize icon s x = now at remains
  cases remains with
  | overridden own => simp [own]
  | absent gone => simp [gone]
  | @automatic row own _ plain ready kept automatic =>
    congr 1
    by_cases there : row.status = .ready
    · obtain ⟨was,refresh⟩ := ready there
      cases first with
      | none => cases was
      | some old => simp_all
    · have open' : (row.status = .pending) ∨ row.status = .missing := by simpa [usual,there] using plain
      have gone : ∀ old, first = some old → old.status ≠ .ready := by
        intro old found was
        exact there (kept (by simp [found,was]))
      cases first with
      | none => rcases open' with status | status <;> simp [status]
      | some old => rcases open' with status | status <;> simp [status,gone old rfl]

theorem dead_sources (lib : Libraries) :
    (∀ (entry : CatalogEntry) (earlier actions : List Action) (origin s : System lib),
      Runs (Executes execute) System.empty earlier origin → Barren origin entry.stationId →
      (icon origin entry.stationId).all (fun row => row.manualOverride || row.sourceUrl = entry.favicon) = true →
      Runs (Under (fun s a => lifeless entry s a = true) (Executes execute)) origin actions s →
      (entry.stationId ∉ s.selected ↔ available s entry.stationId = false ∨ ∃ row, icon origin entry.stationId = some row ∧
        row.status = .ready ∧ (row.refreshNeeded = false ∨ imports entry.stationId actions = true))) ∧
    ∀ (web : Web) (item : IconJobItem),
      (resolveItemPlan lib web item = .retryable → transportFailed lib web item = true) ↔
      transportFailed lib web item = true ∨ (∃ source ∈ sourcesOf lib web item, gives lib web source = true) ∨
      ∀ source ∈ sourcesOf lib web item, undecodable lib (web.icon source) = false := by
  refine ⟨fun entry earlier actions origin s before barren source path => ?_,fun web item => retryable_transport⟩
  have remains := (remains_run barren source (usual_run before entry.stationId) path).2
  rw [mem_selected,remains.selects,Bool.and_eq_true,not_and_or,Bool.not_eq_true]
  refine or_congr_right ?_
  cases icon origin entry.stationId with
  | none => simp
  | some row =>
    simp only [Option.all_some,Bool.or_eq_true,decide_eq_true_eq,Bool.and_eq_true,Bool.not_eq_true',not_or,not_and,ne_eq,
      not_not,Bool.not_eq_false,Option.some.injEq,exists_eq_left']
    refine and_congr_right fun _ => ?_
    cases row.refreshNeeded <;> simp

def calm : CatalogEntry := ⟨"calm",none,some "https://calm.example/icon.png"⟩

-- A job that takes one station from its claim to its publication, and one whose
-- fetch is dead.
def fetchJob (web : Web) : List Action :=
  [.start 0 .done,.claim 0 .done,.resolve 0 web,.store 0 true,.publish 0 .done,.finish 0 .done,.claim 0 .done,.complete 0 .done]

def reachable : Web := ⟨fun _ => .body [8],fun _ => .body [5]⟩

def fruitless (id : Uuid) : List Action :=
  [.start id .done,.claim id .done,.resolve id ⟨fun _ => .oversize,fun _ => .oversize⟩,.finish id .done,.claim id .done,
    .complete id .done]

def moved : CatalogEntry := ⟨"calm",none,some "https://calm.example/other.png"⟩

def refreshes : List Action := [.catalog calm] ++ fetchJob reachable ++ [.catalog moved]

-- A ready icon whose favicon has moved.
def refreshing : System plain := (Transition.run execute System.empty refreshes).getD System.empty

theorem refreshing_run : Runs (Executes execute) System.empty refreshes refreshing := by
  have ran : (Transition.run execute (System.empty : System plain) refreshes).isSome := by decide
  refine run_sound ?_
  rw [refreshing,← Option.some_get ran,Option.getD_some]

theorem refreshing_barren : Barren refreshing "calm" := by
  have idle : refreshing.workers.toList = [] := by decide
  have none_works : ∀ (id : Uuid) worker, refreshing.workers[id]? ≠ some worker := by
    intro id worker working
    have listed : (id,worker) ∈ refreshing.workers.toList := Table.mem_entries.mpr working
    rw [idle] at listed
    cases listed
  exact fun id _ _ _ => ⟨none_works id _,none_works id _⟩

-- Its new address is dead: the next job selects the station again after the fetch,
-- and no longer after a re-import.
theorem dead_refresh_left :
    Runs (Executes execute) System.empty refreshes refreshing ∧ ∃ row middle s,
    icon refreshing "calm" = some row ∧ row.status = .ready ∧ row.refreshNeeded = true ∧
    Runs (Under (fun s a => lifeless moved s a = true) (Executes execute)) refreshing
      (fruitless 1) middle ∧
    middle.items[(toLex (1,"calm") : ItemKey)]? = some .permanentError ∧ "calm" ∈ middle.selected ∧
    Runs (Under (fun s a => lifeless moved s a = true) (Executes execute)) refreshing
      (fruitless 1 ++ [.catalog moved]) s ∧ "calm" ∉ s.selected := by
  have waits : (icon refreshing "calm").any (fun row => row.status = .ready && row.refreshNeeded) = true := by decide
  have source : (icon refreshing moved.stationId).all (fun row => row.manualOverride || row.sourceUrl = moved.favicon) = true := by
    decide
  obtain ⟨row,found,state⟩ := (Option.any_eq_true _ _).mp waits
  obtain ⟨ready,refresh⟩ := (Bool.and_eq_true _ _).mp state
  obtain ⟨middle,fetched,seen⟩ := guarded_reaches (lifeless moved) execute refreshing (fruitless 1)
    (fun s => s.items[(toLex (1,"calm") : ItemKey)]? = some .permanentError && available s "calm") (by decide)
  obtain ⟨told,offered⟩ := (Bool.and_eq_true _ _).mp seen
  obtain ⟨s,imported,_⟩ := guarded_reaches (lifeless moved) execute refreshing (fruitless 1 ++ [.catalog moved])
    (fun _ => true) (by decide)
  have again := (dead_sources plain).1 moved _ _ _ middle refreshing_run refreshing_barren source fetched
  have left := (dead_sources plain).1 moved _ _ _ s refreshing_run refreshing_barren source imported
  refine ⟨refreshing_run,row,middle,s,found,of_decide_eq_true ready,refresh,fetched,of_decide_eq_true told,?_,imported,
    left.mpr (.inr ⟨row,found,of_decide_eq_true ready,.inr rfl⟩)⟩
  by_contra unselected
  rcases again.mp unselected with taken | ⟨row',found',_,settled | imported⟩
  · rw [show moved.stationId = "calm" from rfl,offered] at taken
    cases taken
  · cases Option.some.inj (found.symm.trans found')
    rw [refresh] at settled
    cases settled
  · cases imported

-- A favicon that is always too large: processed, told as permanent, and selected again.
def deadJob : List Action :=
  [.catalog calm,.start 0 .done,.claim 0 .done,.resolve 0 ⟨fun _ => .oversize,fun _ => .oversize⟩,.finish 0 .done,
    .claim 0 .done,.complete 0 .done,.catalog calm]

theorem dead_source_selected : (∃ s : System plain,
    Runs (Under (fun s a => lifeless calm s a = true) (Executes execute)) System.empty deadJob s ∧
    s.items[(toLex (0,"calm") : ItemKey)]? = some .permanentError ∧ "calm" ∈ s.selected) ∧
    resolveItemPlan plain ⟨fun _ => .body [1],fun _ => .unusable⟩ ⟨"calm",some "https://calm.example/icon.png",none⟩ = .retryable ∧
    transportFailed plain ⟨fun _ => .body [1],fun _ => .unusable⟩ ⟨"calm",some "https://calm.example/icon.png",none⟩ = false := by
  refine ⟨?_,rfl,rfl⟩
  obtain ⟨s,path,seen⟩ := guarded_reaches (lifeless calm) execute (System.empty : System plain) deadJob
    (fun s => s.items[(toLex (0,"calm") : ItemKey)]? = some .permanentError && s.selects "calm") (by decide)
  obtain ⟨told,selects⟩ := (Bool.and_eq_true _ _).mp seen
  exact ⟨s,path,of_decide_eq_true told,mem_selected.mpr selects⟩

end rows
end IconImport
