import RockServer.IconSources

-- When a ready icon is fetched again: the favicon of the catalog against the one
-- that its artifact was fetched for.
namespace IconImport
open CatalogImport (IconStatus)
open DeviceControl (Uuid)
open Transition (Runs Under Executes run_reaches guarded_reaches)

-- The system with its history: the favicon in force for each station, for each
-- worker the one in force when it fetched, and for each row the one in force when
-- its artifact was fetched.
structure Chronicle (lib : Libraries) where
  system : System lib
  favicon : String → Option String
  fetching : Uuid → Option String
  fetched : String → Option String

variable {lib : Libraries}

def Chronicle.empty : Chronicle lib := ⟨System.empty,fun _ => none,fun _ => none,fun _ => none⟩

-- The row that a worker's statement puts in the place of an automatic one.
def publication (s : System lib) (id : Uuid) (outcome : Outcome) : Option (String × StationIcon) := match s.workers[id]? with
  | some (.publishing x artifact sourceUrl sourcePriority) =>
    let row := publishUpsert artifact sourceUrl sourcePriority (icon s x)
    if outcome.effective && !row.manualOverride && row.Check then some (x,row) else none
  | _ => none

def Chronicle.execute (c : Chronicle lib) (action : Action) : Option (Chronicle lib) :=
  (IconImport.execute c.system action).map fun system => match action with
    | .catalog entry => {c with system := system,favicon := Function.update c.favicon entry.stationId entry.favicon}
    | .resolve id _ => match c.system.workers[id]? with
      | some (.resolving item) => {c with system := system,fetching := Function.update c.fetching id (c.favicon item.stationId)}
      | _ => {c with system := system}
    | .publish id outcome => match publication c.system id outcome with
      | some (x,_) => {c with system := system,fetched := Function.update c.fetched x (c.fetching id)}
      | none => {c with system := system}
    | _ => {c with system := system}

-- A row with an icon that no administrator has put there.
def StationIcon.automatic (row : StationIcon) : Bool := row.status = .ready && !row.manualOverride

-- A refresh is asked for where the favicon is another one than the artifact's.
def Refreshed (c : Chronicle lib) : Prop := ∀ (x : String) (row : StationIcon), icon c.system x = some row →
  row.automatic = true → (row.refreshNeeded = true ↔ c.favicon x ≠ c.fetched x)

-- An import brings a favicon that is both what the source column holds and what the
-- artifact was fetched for, or neither; a publication comes before the next favicon.
def timely (c : Chronicle lib) : Action → Bool
  | .catalog entry => (icon c.system entry.stationId).all fun row =>
      !row.automatic || (row.sourceUrl = entry.favicon) = (c.fetched entry.stationId = entry.favicon)
  | .publish id outcome => (publication c.system id outcome).all fun published => c.favicon published.1 = c.fetching id
  | _ => true

variable {c c' : Chronicle lib} {action : Action} {x : String} {row : StationIcon}

theorem Refreshed.empty : Refreshed (Chronicle.empty : Chronicle lib) := by
  intro x row found
  simp [Chronicle.empty,icon,System.empty] at found

theorem catalogUpsert_automatic {favicon : Option String} {stored : Option StationIcon}
    (automatic : (catalogUpsert favicon stored).automatic = true) : ∃ row, stored = some row ∧ row.automatic = true ∧
      (catalogUpsert favicon stored).refreshNeeded = decide (row.sourceUrl ≠ favicon) := by
  simp only [StationIcon.automatic,Bool.and_eq_true,decide_eq_true_eq,Bool.not_eq_true'] at automatic
  obtain ⟨row,found,ready,_⟩ := catalogUpsert_ready automatic.1
  subst found
  have own : row.manualOverride = false := automatic.2
  exact ⟨row,rfl,by simp [StationIcon.automatic,ready,own],by simp [catalogUpsert,own]⟩

variable {s s' : System lib} {id : Uuid} {outcome : Outcome}

theorem icon_insert {icons : Table String IconRow} {y : String} {written : IconRow} :
    ((icons.insert y written)[x]?).map Subtype.val = if y = x then some written.val else (icons[x]?).map Subtype.val := by
  rw [Table.get_insert]
  split <;> rfl

theorem catalog_icons {entry : CatalogEntry} (taken : execute s (.catalog entry) = some s') :
    icon s' x = if entry.stationId = x then some (catalogUpsert entry.favicon (icon s entry.stationId)) else icon s x := by
  obtain ⟨written,checks,rfl⟩ := Option.map_eq_some_iff.mp taken
  rw [icon,icon_insert,checked_some checks]
  rfl

theorem publication_some (published : publication s id outcome = some (x,row)) : ∃ artifact sourceUrl sourcePriority,
    s.workers[id]? = some (.publishing x artifact sourceUrl sourcePriority) ∧ outcome.effective = true ∧
    row = publishUpsert artifact sourceUrl sourcePriority (icon s x) ∧ row.manualOverride = false ∧ row.Check := by
  unfold publication at published
  split at published
  · rename_i y artifact sourceUrl sourcePriority working
    dsimp only at published
    split at published
    · rename_i met
      obtain ⟨rfl,rfl⟩ := Prod.mk.inj (Option.some.inj published)
      simp only [Bool.and_eq_true,Bool.not_eq_true',decide_eq_true_eq] at met
      exact ⟨artifact,sourceUrl,sourcePriority,working,met.1.1,rfl,met.1.2,met.2⟩
    · cases published
  · cases published

theorem publish_icons (taken : execute s (.publish id outcome) = some s') (published : publication s id outcome = some (x,row)) :
    icon s' x = some row := by
  obtain ⟨artifact,sourceUrl,sourcePriority,working,effective,rfl,_,check⟩ := publication_some published
  simp only [execute,working,Option.bind_some,workerStep,publish,writeIcon,checked,dif_pos check,Option.map_some,effective,
    ↓reduceIte,Option.some.injEq] at taken
  subst taken
  exact icon_insert.trans (if_pos rfl)

-- A published row is the artifact's, with no refresh left to do.
theorem publication_automatic (published : publication s id outcome = some (x,row)) :
    row.automatic = true ∧ row.refreshNeeded = false := by
  obtain ⟨artifact,sourceUrl,sourcePriority,_,_,rfl,own,_⟩ := publication_some published
  cases before : icon s x with
  | none => exact ⟨rfl,rfl⟩
  | some row =>
    rw [before] at own
    have free : row.manualOverride = false := own
    simp [publishUpsert,free,StationIcon.automatic]

theorem publish_others (taken : execute s (.publish id outcome) = some s') (other : ∀ row, publication s id outcome ≠ some (x,row)) :
    icon s' x = icon s x ∨ ∃ row, icon s' x = some row ∧ row.automatic = false := by
  have move := icon_move taken
  unfold icon
  generalize s'.icons = icons,s'.storage = storage at move ⊢
  cases move with
  | same | stored _ _ => exact .inl rfl
  | @wrote y written write =>
    rw [icon_insert]
    by_cases own : y = x
    · right
      refine ⟨written.val,if_pos own,?_⟩
      subst own
      have check := written.property
      generalize written.val = row at write check
      cases write with
      | published working effective =>
        by_contra automatic
        rw [Bool.not_eq_false,StationIcon.automatic,Bool.and_eq_true,Bool.not_eq_true'] at automatic
        apply other
        simp only [publication,working,effective,automatic.2,check,Bool.not_false,Bool.and_self,decide_true,if_pos]
        rfl
    · exact .inl (if_neg own)

theorem other_icons (taken : execute s action = some s') (imports' : ∀ entry, action ≠ .catalog entry)
    (publish : ∀ id outcome, action ≠ .publish id outcome) (found : icon s' x = some row) (automatic : row.automatic = true) :
    icon s x = some row := by
  have move := icon_move taken
  unfold icon at found ⊢
  generalize s'.icons = icons,s'.storage = storage at move found
  cases move with
  | same | stored _ _ => exact found
  | @wrote y written write =>
    rw [icon_insert] at found
    split at found
    · obtain rfl := Option.some.inj found
      generalize written.val = row at write automatic
      cases write with
      | catalog => exact absurd rfl (imports' _)
      | manual _ _ _ => cases automatic
      | detached _ _ _ => cases automatic
      | published _ _ => exact absurd rfl (publish _ _)
    · exact found

theorem Chronicle.execute_system (taken : c.execute action = some c') : IconImport.execute c.system action = some c'.system := by
  obtain ⟨system,done,rfl⟩ := Option.map_eq_some_iff.mp taken
  rw [done]
  cases action with
  | resolve id web =>
    dsimp only
    split <;> rfl
  | publish id outcome =>
    dsimp only
    split <;> rfl
  | _ => rfl

theorem Chronicle.imported {entry : CatalogEntry} (taken : c.execute (.catalog entry) = some c') :
    c'.favicon = Function.update c.favicon entry.stationId entry.favicon ∧ c'.fetched = c.fetched := by
  obtain ⟨system,_,rfl⟩ := Option.map_eq_some_iff.mp taken
  exact ⟨rfl,rfl⟩

theorem Chronicle.published (taken : c.execute (.publish id outcome) = some c') : c'.favicon = c.favicon ∧
    ∀ x, c'.fetched x = if (publication c.system id outcome).map Prod.fst = some x then c.fetching id else c.fetched x := by
  obtain ⟨system,_,rfl⟩ := Option.map_eq_some_iff.mp taken
  dsimp only
  split
  · rename_i y row written
    refine ⟨rfl,fun x => ?_⟩
    simp only [written,Option.map_some,Option.some.injEq]
    by_cases same : y = x
    · rw [if_pos same,← same]
      exact Function.update_self ..
    · rw [if_neg same]
      exact Function.update_of_ne (Ne.symm same) ..
  · rename_i none
    refine ⟨rfl,fun x => ?_⟩
    rw [none,Option.map_none,if_neg (Option.some_ne_none x).symm]

theorem Chronicle.quiet (taken : c.execute action = some c') (imports' : ∀ entry, action ≠ .catalog entry)
    (publish : ∀ id outcome, action ≠ .publish id outcome) : c'.favicon = c.favicon ∧ c'.fetched = c.fetched := by
  obtain ⟨system,_,rfl⟩ := Option.map_eq_some_iff.mp taken
  cases action with
  | catalog entry => exact absurd rfl (imports' entry)
  | publish id outcome => exact absurd rfl (publish id outcome)
  | resolve id web =>
    dsimp only
    split <;> exact ⟨rfl,rfl⟩
  | _ => exact ⟨rfl,rfl⟩

theorem refreshed_step (refreshed : Refreshed c) (taken : c.execute action = some c') (met : timely c action = true) :
    Refreshed c' := by
  intro x row found automatic
  have system := Chronicle.execute_system taken
  by_cases imports' : ∃ entry, action = .catalog entry
  · obtain ⟨entry,rfl⟩ := imports'
    obtain ⟨favicon,fetched⟩ := Chronicle.imported taken
    rw [catalog_icons system] at found
    rw [favicon,fetched]
    by_cases own : entry.stationId = x
    · subst own
      rw [if_pos rfl] at found
      obtain rfl := Option.some.inj found
      obtain ⟨old,before,was,flag⟩ := catalogUpsert_automatic automatic
      rw [timely,before,Option.all_some,was,Bool.not_true,Bool.false_or,decide_eq_true_eq,eq_iff_iff] at met
      rw [flag,Function.update_self,decide_eq_true_eq]
      exact not_congr (met.trans eq_comm)
    · rw [if_neg own] at found
      rw [Function.update_of_ne (Ne.symm own)]
      exact refreshed x row found automatic
  by_cases publish : ∃ id outcome, action = .publish id outcome
  · obtain ⟨id,outcome,rfl⟩ := publish
    obtain ⟨favicon,fetched⟩ := Chronicle.published taken
    rw [favicon,fetched]
    by_cases own : (publication c.system id outcome).map Prod.fst = some x
    · obtain ⟨⟨_,row'⟩,written,rfl⟩ := Option.map_eq_some_iff.mp own
      cases found.symm.trans (publish_icons system written)
      rw [if_pos own,(publication_automatic written).2]
      rw [timely,written,Option.all_some,decide_eq_true_eq] at met
      simp [met]
    · rw [if_neg own]
      rcases publish_others system (fun row written => own (congrArg (Option.map Prod.fst) written)) with same | ⟨row',now,manual⟩
      · exact refreshed x row (same.symm.trans found) automatic
      · cases now.symm.trans found
        rw [automatic] at manual
        cases manual
  have imports' : ∀ entry, action ≠ .catalog entry := fun entry same => imports' ⟨entry,same⟩
  have publish : ∀ id outcome, action ≠ .publish id outcome := fun id outcome same => publish ⟨id,outcome,same⟩
  have ⟨favicon,fetched⟩ := Chronicle.quiet taken imports' publish
  rw [favicon,fetched]
  exact refreshed x row (other_icons system imports' publish found automatic) automatic

theorem timely_needed (taken : c.execute action = some c') (refreshed : Refreshed c') : timely c action = true := by
  have system := Chronicle.execute_system taken
  cases action with
  | catalog entry =>
    obtain ⟨favicon,fetched⟩ := Chronicle.imported taken
    rw [timely,Option.all_eq_true]
    intro row before
    cases was : row.automatic with
    | false => rfl
    | true =>
      obtain ⟨ready,own⟩ := (Bool.and_eq_true _ _).mp was
      have free : row.manualOverride = false := by simpa using own
      have there : row.status = .ready := of_decide_eq_true ready
      have now : icon c'.system entry.stationId = some (catalogUpsert entry.favicon (some row)) := by
        rw [catalog_icons system,if_pos rfl,before]
      have flag := refreshed entry.stationId _ now (by simp [StationIcon.automatic,catalogUpsert,free,there])
      rw [favicon,fetched,Function.update_self] at flag
      have asked : (catalogUpsert entry.favicon (some row)).refreshNeeded = decide (row.sourceUrl ≠ entry.favicon) := by
        simp [catalogUpsert,free]
      rw [asked,decide_eq_true_eq,not_iff_not] at flag
      rw [Bool.not_true,Bool.false_or,decide_eq_true_eq,eq_iff_iff]
      exact flag.trans eq_comm
  | publish id outcome =>
    obtain ⟨favicon,fetched⟩ := Chronicle.published taken
    rw [timely,Option.all_eq_true]
    rintro ⟨x,row⟩ written
    obtain ⟨automatic,flag⟩ := publication_automatic written
    have told := refreshed x row (publish_icons system written) automatic
    have own : (publication c.system id outcome).map Prod.fst = some x := congrArg (Option.map Prod.fst) written
    rw [favicon,fetched,if_pos own,flag] at told
    simpa using told
  | _ => rfl

-- An icon that no administrator has put there is selected by its flag.
theorem selected_refresh (listed : (s.stations[x]?).any (fun station => !station.retired) = true) (found : icon s x = some row)
    (automatic : row.automatic = true) : x ∈ s.selected ↔ row.refreshNeeded = true := by
  obtain ⟨ready,own⟩ := (Bool.and_eq_true _ _).mp automatic
  have free : row.manualOverride = false := by simpa using own
  rw [mem_selected,selects_icon,found,listed]
  simp [of_decide_eq_true ready,free]

-- What the next start selects of the ready icons.
def Bookkept (c : Chronicle lib) : Prop := ∀ (x : String) (row : StationIcon),
  (c.system.stations[x]?).any (fun station => !station.retired) = true → icon c.system x = some row → row.automatic = true →
  (x ∈ c.system.selected ↔ c.favicon x ≠ c.fetched x)

theorem icon_refresh (lib : Libraries) (actions : List Action) (c : Chronicle lib) :
    (Runs (Under (fun c a => timely c a = true) (Executes Chronicle.execute)) Chronicle.empty actions c →
      Bookkept c) ∧
    (Runs (fun c a c' => Executes Chronicle.execute c a c' ∧ Refreshed c') Chronicle.empty actions c →
      Runs (Under (fun c a => timely c a = true) (Executes Chronicle.execute)) Chronicle.empty
        actions c) := by
  have exact := @Runs.exactly (Chronicle lib) Action (Executes Chronicle.execute) Chronicle.empty c actions
    (fun c a => timely c a = true) Refreshed Refreshed Refreshed.empty
    (fun _ _ _ refreshed taken met => refreshed_step refreshed taken met) (fun _ _ _ _ taken refreshed => timely_needed taken refreshed)
  refine ⟨fun path x row listed found automatic => ?_,exact.2⟩
  rw [selected_refresh listed found automatic]
  exact exact.1 path x row found automatic

def flagged (c : Chronicle plain) : Bool := c.favicon "calm" ≠ c.fetched "calm" &&
  (c.system.stations["calm"]?).any (fun station => !station.retired) && (icon c.system "calm").any (·.automatic)

theorem moved_selected : ∃ c : Chronicle plain,
    Runs (Under (fun c a => timely c a = true) (Executes Chronicle.execute)) Chronicle.empty
      ([.catalog calm] ++ fetchJob reachable ++ [.catalog moved]) c ∧ "calm" ∈ c.system.selected := by
  obtain ⟨c,path,seen⟩ := guarded_reaches timely Chronicle.execute (Chronicle.empty : Chronicle plain)
    ([.catalog calm] ++ fetchJob reachable ++ [.catalog moved]) flagged (by decide)
  simp only [flagged,Bool.and_eq_true,decide_eq_true_eq] at seen
  obtain ⟨row,found,automatic⟩ := (Option.any_eq_true _ _).mp seen.2
  exact ⟨c,path,((icon_refresh plain _ c).1 path "calm" row seen.1.2 found automatic).mpr seen.1.1⟩

-- The new favicon is imported twice; an icon comes from a homepage; the favicon
-- changes while an icon is being published.
def importedTwice : List Action := [.catalog calm] ++ fetchJob reachable ++ [.catalog moved,.catalog moved]

def bare : CatalogEntry := ⟨"calm",some "https://calm.example",none⟩

def fromHomepage : List Action := [.catalog bare] ++ fetchJob reachable ++ [.catalog bare]

def overtaken : List Action :=
  [.catalog calm,.start 0 .done,.claim 0 .done,.resolve 0 reachable,.store 0 true,.catalog moved,.publish 0 .done]

def mistaken (c : Chronicle plain) : Bool := (c.system.stations["calm"]?).any (fun station => !station.retired) &&
  (icon c.system "calm").any fun row => row.automatic && row.refreshNeeded = (c.favicon "calm" = c.fetched "calm")

theorem mistaken_unkept {c : Chronicle plain} (seen : mistaken c = true) : ¬Bookkept c := by
  intro kept
  obtain ⟨listed,present⟩ := (Bool.and_eq_true _ _).mp seen
  obtain ⟨row,found,wrong⟩ := (Option.any_eq_true _ _).mp present
  simp only [Bool.and_eq_true,decide_eq_true_eq] at wrong
  have told := (selected_refresh listed found wrong.1).symm.trans (kept "calm" row listed found wrong.1)
  rw [wrong.2] at told
  by_cases same : c.favicon "calm" = c.fetched "calm" <;> simp [same] at told

def Forgets (actions : List Action) : Prop := ∃ c : Chronicle plain,
  Runs (Executes Chronicle.execute) Chronicle.empty actions c ∧ ¬Bookkept c

theorem refresh_forgotten : Forgets importedTwice ∧ Forgets fromHomepage ∧ Forgets overtaken := by
  have each (actions : List Action) (seen : (Transition.run Chronicle.execute Chronicle.empty actions).any mistaken = true) :
      Forgets actions := by
    obtain ⟨c,path,wrong⟩ := run_reaches Chronicle.execute Chronicle.empty actions mistaken seen
    exact ⟨c,path,mistaken_unkept wrong⟩
  exact ⟨each _ (by decide),each _ (by decide),each _ (by decide)⟩

end IconImport
