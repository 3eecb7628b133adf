import Mathlib
import RockServer.MobileExport

-- When a mobile export is all or nothing.
namespace MobileExport
open CatalogImport (CatalogDb)
open Search (Unicode)
open IconImport (hex)

variable {env : Environment} {unicode : Unicode} {lib : Libraries} {α : Type} {result : α}
variable {step : Step} {error : MobileExportError}

theorem attempt_bind {k : Unit → Export α} :
    (attempt env step error >>= k) = .ok result ↔ env.works step = true ∧ k () = .ok result := by
  unfold attempt
  cases env.works step with
  | false | true => simp [bind,Except.bind]

theorem refute_bind {condition : Bool} {message : String} {k : Unit → Export α} :
    (refute condition message >>= k) = .ok result ↔ condition = false ∧ k () = .ok result := by
  unfold refute
  cases condition with
  | false | true => simp [bind,Except.bind]

theorem attempt_ok : attempt env step error = .ok () ↔ env.works step = true := by
  unfold attempt
  cases env.works step <;> simp

theorem insertStations_cons {row : Nat} {station : PostgresMobileStation} {rest : List PostgresMobileStation}
    {tables tables' : MobileTables} : insertStations env unicode row (station :: rest) tables = .ok tables' ↔
    env.works (.tagsJson row) = true ∧ env.works (.station row) = true ∧ collides tables station = false ∧
      env.works (.search row) = true ∧ insertStations env unicode (row + 1) rest (tables.add unicode station) = .ok tables' := by
  rw [insertStations,attempt_bind,attempt_bind]
  refine and_congr_right fun _ => and_congr_right fun _ => ?_
  cases collides tables station with
  | true => simp [bind,Except.bind]
  | false =>
    simp only [Bool.false_eq_true,↓reduceIte,true_and]
    exact attempt_bind

def identity (station : PostgresMobileStation) : String × String := (station.source,station.sourceStationId)

def rowWorks (env : Environment) (row : Nat) : Bool :=
  env.works (.tagsJson row) && env.works (.station row) && env.works (.search row)

theorem collides_false {tables : MobileTables} {station : PostgresMobileStation} : collides tables station = false ↔
    tables.stations[station.stationId]? = none ∧ ∀ (id : String) (row : MobileStation), tables.stations[id]? = some row →
      (row.source,row.sourceStationId) ≠ identity station := by
  simp only [collides,Bool.or_eq_false_iff,Option.isSome_eq_false_iff,Option.isNone_iff_eq_none,List.any_eq_false,Prod.forall,
    Table.mem_entries,Bool.and_eq_true,decide_eq_true_eq,identity,ne_eq,Prod.mk.injEq]

theorem collides_add {tables : MobileTables} {station : PostgresMobileStation} (fresh : collides tables station = false)
    (other : PostgresMobileStation) : collides (tables.add unicode station) other = false ↔
    collides tables other = false ∧ station.stationId ≠ other.stationId ∧ identity station ≠ identity other := by
  rw [collides_false] at fresh
  rw [collides_false,collides_false,MobileTables.add]
  simp only [Table.get_insert]
  constructor
  · intro ⟨absent,apart⟩
    split at absent
    · cases absent
    rename_i different
    refine ⟨⟨absent,fun id row found => ?_⟩,different,?_⟩
    · apply apart id row
      rw [if_neg]
      · exact found
      · rintro rfl
        rw [fresh.1] at found
        cases found
    · exact apart station.stationId _ (if_pos rfl)
  · intro ⟨⟨absent,apart⟩,different,own⟩
    refine ⟨(if_neg different).trans absent,fun id row found => ?_⟩
    split at found
    · cases found
      exact own
    · exact apart id row found

def Apart (stations : List PostgresMobileStation) : Prop :=
  stations.Pairwise fun a b => a.stationId ≠ b.stationId ∧ identity a ≠ identity b

-- All rows are written if every statement works and no two stations are in each other's way.
theorem insertStations_ok {row : Nat} {stations : List PostgresMobileStation} {tables : MobileTables} :
    (∃ tables', insertStations env unicode row stations tables = .ok tables') ↔
    (∀ i < stations.length, rowWorks env (row + i) = true) ∧ (∀ station ∈ stations, collides tables station = false) ∧
      Apart stations := by
  induction stations generalizing row tables with
  | nil => simp [insertStations,Apart]
  | cons station rest ih =>
    simp only [insertStations_cons,exists_and_left,ih,List.forall_mem_cons,Apart,List.pairwise_cons,List.length_cons]
    constructor
    · intro ⟨json,inserted,fresh,search,later,unmet,apart⟩
      refine ⟨fun i small => ?_,⟨fresh,fun other member => ?_⟩,fun other member => ?_,apart⟩
      · cases i with
        | zero => simp [rowWorks,json,inserted,search]
        | succ i =>
          have works := later i (by omega)
          rwa [show row + 1 + i = row + (i + 1) by omega] at works
      · exact ((collides_add fresh other).mp (unmet other member)).1
      · exact ((collides_add fresh other).mp (unmet other member)).2
    · intro ⟨works,⟨fresh,unmet⟩,first,apart⟩
      have here := works 0 (by omega)
      simp only [rowWorks,Nat.add_zero,Bool.and_eq_true] at here
      refine ⟨here.1.1,here.1.2,fresh,here.2,fun i small => ?_,fun other member => ?_,apart⟩
      · have later := works (i + 1) (by omega)
        rwa [show row + (i + 1) = row + 1 + i by omega] at later
      · exact (collides_add fresh other).mpr ⟨unmet other member,first other member⟩

-- What the rows add up to.
theorem insertStations_counts {row : Nat} {stations : List PostgresMobileStation} {tables tables' : MobileTables}
    (inserted : insertStations env unicode row stations tables = .ok tables') :
    tables'.catalogMetadata = tables.catalogMetadata ∧
    Table.count (fun _ _ => true) tables'.stations = Table.count (fun _ _ => true) tables.stations + stations.length ∧
    tables'.stationSearch.length = tables.stationSearch.length + stations.length := by
  induction stations generalizing row tables with
  | nil =>
    cases inserted
    exact ⟨rfl,rfl,rfl⟩
  | cons station rest ih =>
    obtain ⟨_,_,fresh,_,later⟩ := insertStations_cons.mp inserted
    have ⟨metadata,rows,search⟩ := ih later
    refine ⟨metadata,?_,?_⟩
    · rw [rows,MobileTables.add,Table.count_insert_of_new (collides_false.mp fresh).1 rfl,List.length_cons]
      omega
    · rw [search,MobileTables.add,List.length_append,List.length_cons,List.length_cons,List.length_nil]
      omega

-- A database of a version with so many stations, all in its index.
def Complete (version : String) (count : Nat) (db : MobileDb) : Prop := db.userVersion = mobileSchemaVersion ∧
  ∃ tables, db.tables = some tables ∧ tables.catalogMetadata = [⟨version,mobileSchemaVersion,count⟩] ∧
    Table.count (fun _ _ => true) tables.stations = count ∧ tables.stationSearch.length = count

def writeSteps : List Step := [.pragma,.schema,.transaction,.metadata,.commit,.vacuum,.close]

def rowsWork (env : Environment) (count : Nat) : Prop := ∀ row < count, rowWorks env row = true

theorem fillTables_ok {version : String} {stations : List PostgresMobileStation} :
    (∃ tables, fillTables env unicode version stations = .ok tables) ↔
      env.works .transaction = true ∧ env.works .metadata = true ∧ rowsWork env stations.length ∧ Apart stations := by
  have empty : ∀ station ∈ stations, collides ⟨[⟨version,mobileSchemaVersion,stations.length⟩],∅,[]⟩ station = false :=
    fun station _ => collides_false.mpr ⟨by simp,fun id row found => by simp at found⟩
  have rows := @insertStations_ok env unicode 0 stations ⟨[⟨version,mobileSchemaVersion,stations.length⟩],∅,[]⟩
  simp only [Nat.zero_add] at rows
  simp only [fillTables,attempt_bind,exists_and_left,rows]
  exact and_congr_right fun _ => and_congr_right fun _ => and_congr_right fun _ => and_iff_right empty

theorem fillTables_counts {version : String} {stations : List PostgresMobileStation} {tables : MobileTables}
    (filled : fillTables env unicode version stations = .ok tables) :
    tables.catalogMetadata = [⟨version,mobileSchemaVersion,stations.length⟩] ∧
    Table.count (fun _ _ => true) tables.stations = stations.length ∧ tables.stationSearch.length = stations.length := by
  have ⟨_,done⟩ := attempt_bind.mp filled
  have ⟨_,inserted⟩ := attempt_bind.mp done
  have ⟨metadata,rows,search⟩ := insertStations_counts inserted
  refine ⟨metadata,rows.trans ?_,search.trans (Nat.zero_add _)⟩
  rw [show Table.count (fun _ _ => true) (∅ : Table String MobileStation) = 0 from rfl,Nat.zero_add]

theorem writeTables_ok {version : String} {stations : List PostgresMobileStation} :
    (writeTables env unicode version stations).1 = .ok () ↔
      (∀ step ∈ writeSteps, env.works step = true) ∧ rowsWork env stations.length ∧ Apart stations := by
  have fills := @fillTables_ok env unicode version stations
  simp only [writeSteps,List.forall_mem_cons,List.not_mem_nil,false_implies,implies_true,and_true]
  unfold writeTables
  cases pragma : env.works .pragma with
  | false => simp
  | true =>
    cases schema : env.works .schema with
    | false => simp
    | true =>
      simp only [Bool.not_true,Bool.false_eq_true,↓reduceIte,true_and]
      cases filled : fillTables env unicode version stations with
      | error error =>
        simp only [filled,reduceCtorEq,exists_false,false_iff] at fills
        simp only [reduceCtorEq,false_iff]
        intro ⟨⟨transaction,metadata,_⟩,works,apart⟩
        exact fills ⟨transaction,metadata,works,apart⟩
      | ok tables =>
        have ⟨transaction,metadata,works,apart⟩ := fills.mp ⟨tables,filled⟩
        cases commit : env.works .commit with
        | false => simp
        | true =>
          simp only [Bool.not_true,Bool.false_eq_true,↓reduceIte,attempt_bind,attempt_ok,transaction,metadata,true_and]
          exact ⟨fun closed => ⟨closed,works,apart⟩,And.left⟩

theorem writeTables_complete {version : String} {stations : List PostgresMobileStation}
    (written : (writeTables env unicode version stations).1 = .ok ()) :
    Complete version stations.length (writeTables env unicode version stations).2 := by
  unfold writeTables at written ⊢
  cases pragma : env.works .pragma with
  | false => simp [pragma] at written
  | true =>
    cases schema : env.works .schema with
    | false => simp [pragma,schema] at written
    | true =>
      simp only [pragma,schema,Bool.not_true,Bool.false_eq_true,↓reduceIte] at written ⊢
      cases filled : fillTables env unicode version stations with
      | error error => simp [filled] at written
      | ok tables =>
        cases commit : env.works .commit with
        | false => simp [filled,commit] at written
        | true =>
          simp only [Bool.not_true,Bool.false_eq_true,↓reduceIte]
          exact ⟨rfl,tables,rfl,fillTables_counts filled⟩

def verifySteps : List Step :=
  [.openVerify,.integrity,.integrityAnswer,.userVersion,.count,.readMetadata,.searchCount,.closeVerify]

-- A complete database passes its verification if every query works.
theorem verify_ok {path version : String} {count : Nat} {files : Files} {db : MobileDb}
    (present : files[path]? = some (.database db)) (complete : Complete version count db) :
    verifySqliteDatabase env path count version files = .ok () ↔ ∀ step ∈ verifySteps, env.works step = true := by
  obtain ⟨user,tables,created,metadata,rows,search⟩ := complete
  simp only [verifySteps,List.forall_mem_cons,List.not_mem_nil,false_implies,implies_true,and_true]
  simp only [verifySqliteDatabase,present,created,metadata,attempt_bind,refute_bind,attempt_ok,rows,search,user]
  simp

theorem fileSha256_ok {path : String} {files : Files} {file : File} {sha256 : String} (present : files[path]? = some file) :
    fileSha256 env lib path files = .ok sha256 ↔ env.works .hash = true ∧ hex (lib.digest (lib.bytes file)) = sha256 := by
  rw [fileSha256,attempt_bind,present]
  simp

section files
variable {encode write : Step} {path other : String} {file : File} {files : Files}

theorem writeJsonReplace_cases : writeJsonReplace env encode write path file files = (.ok (),files.insert path file) ∧
      env.works encode = true ∧ env.works write = true ∨
    ((∃ error, (writeJsonReplace env encode write path file files).1 = .error error) ∧
      ¬(env.works encode = true ∧ env.works write = true)) := by
  unfold writeJsonReplace
  cases env.works encode <;> cases env.works write <;> simp

theorem writeJsonNew_absent (absent : files[path]? = none) :
    writeJsonNew env encode write path file files = writeJsonReplace env encode write path file files := by
  simp [writeJsonNew,absent]

theorem writeJsonReplace_other (apart : path ≠ other) : (writeJsonReplace env encode write path file files).2[other]? = files[other]? := by
  unfold writeJsonReplace
  split
  · rfl
  split
  · split
    · exact Table.get_insert_ne apart
    · rfl
  · exact Table.get_insert_ne apart

theorem writeJsonNew_other (apart : path ≠ other) : (writeJsonNew env encode write path file files).2[other]? = files[other]? := by
  unfold writeJsonNew
  split
  · rfl
  · exact writeJsonReplace_other apart

end files

section release
variable {config : MobileExportConfig} {stations : List PostgresMobileStation} {files : Files}

theorem paths_apart : databasePath config ≠ manifestPath config ∧ databasePath config ≠ eligibilityReportPath config ∧
    manifestPath config ≠ eligibilityReportPath config := by
  refine ⟨?_,?_,?_⟩ <;> exact fun same => absurd ((String.append_right_inj _).mp same) (by decide)

theorem gap_apart : gapReportPath config ≠ databasePath config ∧ gapReportPath config ≠ manifestPath config ∧
    gapReportPath config ≠ eligibilityReportPath config := by
  refine ⟨?_,?_,?_⟩ <;> exact fun same => absurd ((String.append_right_inj _).mp same) (by decide)

-- All three files, and the manifest tells of the database.
def Whole (lib : Libraries) (config : MobileExportConfig) (files : Files) (artifacts : MobileReleaseArtifacts) : Prop :=
  ∃ db told report, files[databasePath config]? = some (.database db) ∧ files[manifestPath config]? = some (.manifest told) ∧
    files[eligibilityReportPath config]? = some (.eligibilityReport report) ∧
    Complete config.catalogVersion artifacts.stationCount db ∧
    told = manifest config (hex (lib.digest (lib.bytes (.database db)))) artifacts.stationCount ∧
    report = releaseReport config artifacts.stationCount ∧
    artifacts = ⟨databasePath config,manifestPath config,eligibilityReportPath config,told.stationCount,told.sha256⟩

theorem describe_leaves {count : Nat} (present : (files[databasePath config]?).isSome = true) :
    ((describe env lib config count files).2[databasePath config]?).isSome = true := by
  unfold describe
  cases fileSha256 env lib (databasePath config) files with
  | error error => exact present
  | ok sha256 =>
    dsimp only
    cases verifySqliteDatabase env (databasePath config) count config.catalogVersion files with
    | error error => exact present
    | ok _ =>
      dsimp only
      have kept := @writeJsonNew_other env .manifestJson .manifestWrite (manifestPath config) (databasePath config)
        (.manifest (manifest config sha256 count)) files (Ne.symm paths_apart.1)
      generalize writeJsonNew env .manifestJson .manifestWrite (manifestPath config)
        (.manifest (manifest config sha256 count)) files = second at kept
      obtain ⟨result,files'⟩ := second
      cases result with
      | error error => exact kept ▸ present
      | ok _ =>
        dsimp only at kept ⊢
        have kept' := @writeJsonNew_other env .reportJson .reportWrite (eligibilityReportPath config) (databasePath config)
          (.eligibilityReport (releaseReport config count)) files' (Ne.symm paths_apart.2.1)
        generalize writeJsonNew env .reportJson .reportWrite (eligibilityReportPath config)
          (.eligibilityReport (releaseReport config count)) files' = third at kept'
        obtain ⟨result,files''⟩ := third
        cases result <;> exact kept' ▸ kept ▸ present

-- Once created, the database stays, whatever happens after it.
theorem release_leaves (created : env.works .connect = true ∨ env.leaves .connect = true) :
    ((release env unicode lib config stations files).2[databasePath config]?).isSome = true := by
  have written : ((writeSqliteDatabase env unicode (databasePath config) config.catalogVersion stations files).2[databasePath config]?).isSome
      = true := by
    unfold writeSqliteDatabase
    cases works : env.works .connect with
    | true => simp
    | false =>
      have left := created.resolve_left (by simp [works])
      simp [left]
  unfold release
  generalize writeSqliteDatabase env unicode (databasePath config) config.catalogVersion stations files = first at written
  obtain ⟨result,files⟩ := first
  cases result with
  | error error => exact written
  | ok _ => exact describe_leaves written

def describeSteps : List Step := .hash :: verifySteps ++ [.manifestJson,.manifestWrite,.reportJson,.reportWrite]

theorem describe_cases {count : Nat} {db : MobileDb} (present : files[databasePath config]? = some (.database db))
    (complete : Complete config.catalogVersion count db) (unnamed : files[manifestPath config]? = none)
    (unreported : files[eligibilityReportPath config]? = none) :
    ((∀ step ∈ describeSteps, env.works step = true) ∧
      ∃ artifacts, (describe env lib config count files).1 = .ok (.released artifacts) ∧
        Whole lib config (describe env lib config count files).2 artifacts) ∨
    ((¬∀ step ∈ describeSteps, env.works step = true) ∧ ∃ error, (describe env lib config count files).1 = .error error) := by
  have parts : (∀ step ∈ describeSteps, env.works step = true) ↔ env.works .hash = true ∧ (∀ step ∈ verifySteps, env.works step = true) ∧
      env.works .manifestJson = true ∧ env.works .manifestWrite = true ∧ env.works .reportJson = true ∧ env.works .reportWrite = true := by
    simp only [describeSteps,List.cons_append,List.forall_mem_cons,List.forall_mem_append,List.not_mem_nil,false_implies,
      implies_true,and_true]
  rw [parts]
  unfold describe
  have hashed := fun sha256 => @fileSha256_ok env lib (databasePath config) files _ sha256 present
  cases sum : fileSha256 env lib (databasePath config) files with
  | error error =>
    refine .inr ⟨fun works => ?_,error,rfl⟩
    have done := (hashed _).mpr ⟨works.1,rfl⟩
    rw [sum] at done
    cases done
  | ok sha256 =>
    have ⟨hash,same⟩ := (hashed sha256).mp sum
    have verified := @verify_ok env (databasePath config) config.catalogVersion count files db present complete
    dsimp only
    cases verify : verifySqliteDatabase env (databasePath config) count config.catalogVersion files with
    | error error =>
      refine .inr ⟨fun works => ?_,error,rfl⟩
      have done := verified.mpr works.2.1
      rw [verify] at done
      cases done
    | ok _ =>
      dsimp only
      rw [writeJsonNew_absent unnamed]
      rcases @writeJsonReplace_cases env .manifestJson .manifestWrite (manifestPath config)
        (.manifest (manifest config sha256 count)) files with ⟨named,encode,write⟩ | ⟨⟨error,failed⟩,broken⟩
      · rw [named]
        dsimp only
        have unreported' : (files.insert (manifestPath config) (.manifest (manifest config sha256 count)))[eligibilityReportPath config]? =
            none := (Table.get_insert_ne paths_apart.2.2).trans unreported
        rw [writeJsonNew_absent unreported']
        rcases @writeJsonReplace_cases env .reportJson .reportWrite (eligibilityReportPath config)
          (.eligibilityReport (releaseReport config count)) (files.insert (manifestPath config) (.manifest (manifest config sha256 count)))
          with ⟨reported,encode',write'⟩ | ⟨⟨error,failed⟩,broken⟩
        · rw [reported]
          refine .inl ⟨⟨hash,verified.mp verify,encode,write,encode',write'⟩,_,rfl,db,manifest config sha256 count,
            releaseReport config count,?_,?_,?_,complete,?_,rfl,rfl⟩
          · rw [Table.get_insert_ne (Ne.symm paths_apart.2.1),Table.get_insert_ne (Ne.symm paths_apart.1),present]
          · rw [Table.get_insert_ne (Ne.symm paths_apart.2.2),Table.get_insert,if_pos rfl]
          · rw [Table.get_insert,if_pos rfl]
          · rw [same]
        · refine .inr ⟨fun works => broken works.2.2.2.2,error,?_⟩
          split <;> simp_all
      · refine .inr ⟨fun works => broken ⟨works.2.2.1,works.2.2.2.1⟩,error,?_⟩
        split <;> simp_all

def releaseSteps : List Step := .connect :: (writeSteps ++ describeSteps)

def Unbroken (env : Environment) (stations : List PostgresMobileStation) : Prop :=
  (∀ step ∈ releaseSteps, env.works step = true) ∧ rowsWork env stations.length ∧ Apart stations

-- A release with no step broken is whole; any other ends in an error.
theorem release_cases (absent : ∀ path ∈ releasePaths config, files[path]? = none) :
    (Unbroken env stations ∧ ∃ artifacts, (release env unicode lib config stations files).1 = .ok (.released artifacts) ∧
      Whole lib config (release env unicode lib config stations files).2 artifacts) ∨
    (¬Unbroken env stations ∧ ∃ error, (release env unicode lib config stations files).1 = .error error) := by
  have steps {step : Step} (unbroken : Unbroken env stations) (member : step ∈ releaseSteps) : env.works step = true :=
    unbroken.1 step member
  simp only [releasePaths,List.forall_mem_cons,List.not_mem_nil,false_implies,implies_true,and_true] at absent
  unfold release
  cases connect : env.works .connect with
  | false =>
    refine .inr ⟨fun unbroken => ?_,.sqlite,by simp [writeSqliteDatabase,connect]⟩
    have works := @steps .connect unbroken (by decide)
    rw [connect] at works
    cases works
  | true =>
    have written : writeSqliteDatabase env unicode (databasePath config) config.catalogVersion stations files =
        ((writeTables env unicode config.catalogVersion stations).1,
          files.insert (databasePath config) (.database (writeTables env unicode config.catalogVersion stations).2)) := by
      simp [writeSqliteDatabase,connect]
    have filled := @writeTables_ok env unicode config.catalogVersion stations
    have complete := @writeTables_complete env unicode config.catalogVersion stations
    rw [written]
    generalize (writeTables env unicode config.catalogVersion stations).1 = result at filled complete
    generalize (writeTables env unicode config.catalogVersion stations).2 = db at complete
    cases result with
    | error error =>
      refine .inr ⟨fun unbroken => ?_,error,rfl⟩
      have works := filled.mpr ⟨fun step member => unbroken.1 step (by
        exact List.mem_cons_of_mem _ (List.mem_append_left _ member)),unbroken.2⟩
      cases works
    | ok _ =>
      have ⟨tables,rows,apart⟩ := filled.mp rfl
      have present : (files.insert (databasePath config) (.database db))[databasePath config]? = some (.database db) :=
        Table.get_insert.trans (if_pos rfl)
      have unnamed : (files.insert (databasePath config) (.database db))[manifestPath config]? = none :=
        (Table.get_insert_ne paths_apart.1).trans absent.2.1
      have unreported : (files.insert (databasePath config) (.database db))[eligibilityReportPath config]? = none :=
        (Table.get_insert_ne paths_apart.2.1).trans absent.2.2
      have described := @describe_cases env lib config _ stations.length db present (complete rfl) unnamed unreported
      refine described.imp ?_ ?_
      · intro ⟨described,whole⟩
        refine ⟨⟨fun step member => ?_,rows,apart⟩,whole⟩
        rcases List.mem_cons.mp member with rfl | member
        · exact connect
        · exact (List.mem_append.mp member).elim (tables step) (described step)
      · intro ⟨broken,failed⟩
        exact ⟨fun unbroken => broken fun step member => steps unbroken (List.mem_cons_of_mem _ (List.mem_append_right _ member)),failed⟩

end release

section exports
variable {E : Type} (db : CatalogDb E) (config : MobileExportConfig) (files : Files)

-- The unique index of the stations over their source identities.
def Identified (db : CatalogDb E) : Prop := ∀ (id id' : String) (row row' : CatalogImport.StationRow),
  db.stations[id]? = some row → db.stations[id']? = some row' → row.source = row'.source →
  row.sourceStationId = row'.sourceStationId → id = id'

theorem eligible_some {id : String} {row : CatalogImport.StationRow} {station : PostgresMobileStation}
    (found : eligible db id row = some station) : station.stationId = id ∧ identity station = (row.source,row.sourceStationId) := by
  unfold eligible at found
  split at found
  · cases found
  · split at found
    · split at found
      · cases found
      · cases found
        exact ⟨rfl,rfl⟩
    · cases found

theorem Identified.apart {db : CatalogDb E} (identified : Identified db) : Apart (eligibleStations db) := by
  rw [Apart,eligibleStations,List.pairwise_filterMap]
  refine (Table.entries_ordered (t:=db.stations)).imp_of_mem ?_
  intro ⟨id,row⟩ ⟨id',row'⟩ member member' less station found station' found'
  have ⟨own,named⟩ := eligible_some db found
  have ⟨own',named'⟩ := eligible_some db found'
  have apart : id ≠ id' := ne_of_lt less
  refine ⟨by rwa [own,own'],fun same => apart ?_⟩
  rw [named,named'] at same
  exact identified id id' row row' (Table.mem_entries.mp member) (Table.mem_entries.mp member') (Prod.mk.inj same).1 (Prod.mk.inj same).2

-- The three ways to end: the release, or no trace of one.
def AllOrNothing (lib : Libraries) (outcome : Export MobileExportOutcome × Files) : Prop :=
  (∃ artifacts, outcome.1 = .ok (.released artifacts) ∧ Whole lib config outcome.2 artifacts) ∨
  ((∀ artifacts, outcome.1 ≠ .ok (.released artifacts)) ∧
    ∀ path ∈ releasePaths config, files[path]? = none → outcome.2[path]? = none)

-- Whether an export gets as far as the creation of its database.
def Begins (env : Environment) : Prop := validateConfig env config = .ok () ∧ env.works .fetch = true ∧
  config.minimumStationCount ≤ (eligibleStations db).length ∧ (∀ path ∈ releasePaths config, files[path]? = none) ∧
  (env.works .connect = true ∨ env.leaves .connect = true)

variable {db config files}

theorem export_release (config_ok : validateConfig env config = .ok ()) (fetched : env.works .fetch = true)
    (enough : config.minimumStationCount ≤ (eligibleStations db).length)
    (absent : ∀ path ∈ releasePaths config, files[path]? = none) :
    exportMobileCatalog env unicode lib db config files = release env unicode lib config (eligibleStations db) files := by
  have nothing : ((releasePaths config).find? fun path => (files[path]?).isSome) = none := by
    rw [List.find?_eq_none]
    intro path member
    simp [absent path member]
  unfold exportMobileCatalog
  simp only [config_ok,fetched,Bool.not_true,Bool.false_eq_true,↓reduceIte,if_neg (Nat.not_lt.mpr enough),nothing]

-- Every other export leaves the files of a release alone.
theorem export_aside (aside : ¬Begins db config files env) :
    (∀ artifacts, (exportMobileCatalog env unicode lib db config files).1 ≠ .ok (.released artifacts)) ∧
      ∀ path ∈ releasePaths config, (exportMobileCatalog env unicode lib db config files).2[path]? = files[path]? := by
  cases valid : validateConfig env config with
  | error error => simp [exportMobileCatalog,valid]
  | ok _ =>
    cases fetched : env.works .fetch with
    | false => simp [exportMobileCatalog,valid,fetched]
    | true =>
      by_cases few : (eligibleStations db).length < config.minimumStationCount
      · simp only [exportMobileCatalog,valid,fetched,Bool.not_true,Bool.false_eq_true,↓reduceIte,if_pos few]
        have other := fun path => @writeJsonReplace_other env .gapJson .gapWrite (gapReportPath config) path
          (.gapReport (gapReport config (eligibleStations db).length)) files
        generalize writeJsonReplace env .gapJson .gapWrite (gapReportPath config)
          (.gapReport (gapReport config (eligibleStations db).length)) files = written at other
        obtain ⟨result,files'⟩ := written
        have kept : ∀ path ∈ releasePaths config, files'[path]? = files[path]? := by
          simp only [releasePaths,List.forall_mem_cons,List.not_mem_nil,false_implies,implies_true,and_true]
          exact ⟨other _ gap_apart.1,other _ gap_apart.2.1,other _ gap_apart.2.2⟩
        cases result with
        | error error => exact ⟨fun artifacts same => (by cases same),kept⟩
        | ok _ => exact ⟨fun artifacts same => (by cases same),kept⟩
      · cases taken : (releasePaths config).find? fun path => (files[path]?).isSome with
        | some path =>
          simp only [exportMobileCatalog,valid,fetched,Bool.not_true,Bool.false_eq_true,↓reduceIte,if_neg few,taken]
          exact ⟨fun artifacts same => (by cases same),fun path member => trivial⟩
        | none =>
          have absent : ∀ path ∈ releasePaths config, files[path]? = none := by
            intro path member
            simpa using List.find?_eq_none.mp taken path member
          rw [export_release valid fetched (Nat.not_lt.mp few) absent]
          have connect : env.works .connect = false ∧ env.leaves .connect = false := by
            by_contra created
            refine aside ⟨valid,fetched,Nat.not_lt.mp few,absent,?_⟩
            cases works : env.works .connect
            · cases leaves : env.leaves .connect
              · exact absurd ⟨works,leaves⟩ created
              · exact .inr rfl
            · exact .inl rfl
          simp [release,writeSqliteDatabase,connect]

-- A release that has left a file is refused as long as the file is there.
theorem export_refused (valid : validateConfig env config = .ok ()) (fetched : env.works .fetch = true)
    (enough : config.minimumStationCount ≤ (eligibleStations db).length)
    (present : ∃ path ∈ releasePaths config, (files[path]?).isSome = true) :
    ∃ path, exportMobileCatalog env unicode lib db config files = (.error (.artifactAlreadyExists path),files) := by
  cases taken : (releasePaths config).find? fun path => (files[path]?).isSome with
  | some path =>
    refine ⟨path,?_⟩
    simp only [exportMobileCatalog,valid,fetched,Bool.not_true,Bool.false_eq_true,↓reduceIte,if_neg (Nat.not_lt.mpr enough),taken]
  | none =>
    obtain ⟨path,member,there⟩ := present
    exact absurd there (List.find?_eq_none.mp taken path member)

theorem export_clean (valid : validateConfig env config = .ok ()) (works : ∀ step, env.works step = true)
    (identified : Identified db) (absent : ∀ path ∈ releasePaths config, files[path]? = none) :
    ∃ outcome, (exportMobileCatalog env unicode lib db config files).1 = .ok outcome := by
  by_cases enough : config.minimumStationCount ≤ (eligibleStations db).length
  · rw [export_release valid (works _) enough absent]
    rcases @release_cases env unicode lib config (eligibleStations db) files absent with ⟨_,artifacts,released,_⟩ | ⟨broken,_⟩
    · exact ⟨_,released⟩
    · exact absurd ⟨fun step _ => works step,fun row _ => by simp [rowWorks,works],identified.apart⟩ broken
  · simp only [exportMobileCatalog,valid,works,Bool.not_true,Bool.false_eq_true,↓reduceIte,Nat.not_le.mp enough,writeJsonReplace]
    exact ⟨_,rfl⟩

theorem mobile_export (unicode : Unicode) (lib : Libraries) (db : CatalogDb E) (config : MobileExportConfig) (files : Files) :
    (∀ env, AllOrNothing config files lib (exportMobileCatalog env unicode lib db config files) ↔
      ¬(Begins db config files env ∧ ¬Unbroken env (eligibleStations db))) ∧
    (∀ env env', Begins db config files env → validateConfig env' config = .ok () → env'.works .fetch = true →
      ∃ path, (exportMobileCatalog env' unicode lib db config (exportMobileCatalog env unicode lib db config files).2).1 =
        .error (.artifactAlreadyExists path)) ∧
    ∀ env, validateConfig env config = .ok () → (∀ step, env.works step = true) → Identified db →
      (∀ path ∈ releasePaths config, files[path]? = none) →
      ∃ outcome, (exportMobileCatalog env unicode lib db config files).1 = .ok outcome := by
  have left {env : Environment} (begins : Begins db config files env) :
      ((exportMobileCatalog env unicode lib db config files).2[databasePath config]?).isSome = true := by
    obtain ⟨valid,fetched,enough,absent,created⟩ := begins
    rw [export_release valid fetched enough absent]
    exact release_leaves created
  have listed : databasePath config ∈ releasePaths config := List.mem_cons_self ..
  refine ⟨fun env => ⟨?_,?_⟩,?_,fun env valid works identified absent => export_clean valid works identified absent⟩
  · rintro whole ⟨begins,broken⟩
    have there := @left env begins
    obtain ⟨valid,fetched,enough,absent,_⟩ := begins
    rcases whole with ⟨artifacts,released,_⟩ | ⟨_,nothing⟩
    · rw [export_release valid fetched enough absent] at released
      rcases @release_cases env unicode lib config (eligibleStations db) files absent with ⟨unbroken,_⟩ | ⟨_,error,failed⟩
      · exact broken unbroken
      · rw [released] at failed
        cases failed
    · rw [nothing _ listed (absent _ listed)] at there
      cases there
  · intro sound
    by_cases begins : Begins db config files env
    · have unbroken : Unbroken env (eligibleStations db) := by
        by_contra broken
        exact sound ⟨begins,broken⟩
      obtain ⟨valid,fetched,enough,absent,_⟩ := begins
      rw [export_release valid fetched enough absent]
      rcases @release_cases env unicode lib config (eligibleStations db) files absent with ⟨_,whole⟩ | ⟨broken,_⟩
      · exact .inl whole
      · exact absurd unbroken broken
    · have ⟨unreleased,kept⟩ := @export_aside env unicode lib E db config files begins
      exact .inr ⟨unreleased,fun path member absent => (kept path member).trans absent⟩
  · intro env env' begins valid fetched
    obtain ⟨path,refused⟩ := @export_refused env' unicode lib E db config _ valid fetched begins.2.2.1
      ⟨_,listed,@left env begins⟩
    exact ⟨path,congrArg Prod.fst refused⟩

end exports

-- As many stations as one likes, each with its own stream.
def fleetStation (n : Nat) : CatalogImport.StationRow where
  name := "Calm Radio"
  homepageUrl := none
  tags := ["calm"]
  language := some "en"
  countryCode := some "US"
  source := "radio-browser"
  sourceStationId := n.repr
  searchableText := "calm radio calm en US"
  lastImportRunId := 0
  retiredAt := none

def fleetStream (n : Nat) : CatalogImport.StreamRow where
  stationId := n.repr
  streamUrl := "http://calm.example/" ++ n.repr
  codec := some "MP3"
  bitrateKbps := some 128
  health := .healthy
  lastProbeAt := none
  lastProbeError := none
  isPrimary := true
  lastImportRunId := 0
  retiredAt := none

def fleet : Nat → CatalogDb Unit
  | 0 => CatalogDb.empty
  | n + 1 => {fleet n with
      stations := (fleet n).stations.insert n.repr (fleetStation n)
      streams := (fleet n).streams.insert ⟨"radio-browser",n.repr⟩ (fleetStream n)}

theorem fleet_stations {n : Nat} {id : String} {row : CatalogImport.StationRow} (found : (fleet n).stations[id]? = some row) :
    ∃ i < n, id = i.repr ∧ row = fleetStation i := by
  induction n with
  | zero => simp [fleet,CatalogDb.empty] at found
  | succ n ih =>
    rw [fleet,Table.get_insert] at found
    split at found
    · rename_i own
      exact ⟨n,by omega,own.symm,(Option.some.inj found).symm⟩
    · obtain ⟨i,small,rest⟩ := ih found
      exact ⟨i,by omega,rest⟩

theorem fleet_streams {n : Nat} {key : CatalogImport.SourceKey} {row : CatalogImport.StreamRow}
    (found : (fleet n).streams[key]? = some row) : ∃ i < n, key = ⟨"radio-browser",i.repr⟩ ∧ row = fleetStream i := by
  induction n with
  | zero => simp [fleet,CatalogDb.empty] at found
  | succ n ih =>
    rw [fleet,Table.get_insert] at found
    split at found
    · rename_i own
      exact ⟨n,by omega,own.symm,(Option.some.inj found).symm⟩
    · obtain ⟨i,small,rest⟩ := ih found
      exact ⟨i,by omega,rest⟩

theorem fleet_count (n : Nat) : Table.count (fun _ _ => true) (fleet n).stations = n := by
  induction n with
  | zero => rfl
  | succ n ih =>
    have fresh : (fleet n).stations[n.repr]? = none := by
      by_contra present
      obtain ⟨row,found⟩ := Option.ne_none_iff_exists'.mp present
      obtain ⟨i,small,same,_⟩ := fleet_stations found
      exact absurd (Nat.repr_injective same) (by omega)
    rw [fleet,Table.count_insert_of_new fresh rfl,ih]

def ownStream (i : Nat) (_ : CatalogImport.SourceKey) (row : CatalogImport.StreamRow) : Bool :=
  row.stationId = i.repr && row.retiredAt.isNone && row.isPrimary

theorem fleet_primaries {n i : Nat} (small : i < n) : Table.count (ownStream i) (fleet n).streams = 1 := by
  have others : ∀ n, n ≤ i → Table.count (ownStream i) (fleet n).streams = 0 := by
    intro n few
    rw [Table.count_eq_card,Finset.card_eq_zero,Finset.eq_empty_iff_forall_notMem]
    intro key member
    obtain ⟨row,found,own⟩ := Table.mem_keysWhere.mp member
    obtain ⟨j,less,_,rfl⟩ := fleet_streams found
    simp only [ownStream,fleetStream,Bool.and_eq_true] at own
    exact absurd (Nat.repr_injective (of_decide_eq_true own.1.1)) (by omega)
  have fresh (n : Nat) : (fleet n).streams[(⟨"radio-browser",n.repr⟩ : CatalogImport.SourceKey)]? = none := by
    by_contra present
    obtain ⟨row,found⟩ := Option.ne_none_iff_exists'.mp present
    obtain ⟨j,less,same,_⟩ := fleet_streams found
    exact absurd (Nat.repr_injective (CatalogImport.SourceKey.mk.inj same).2) (by omega)
  induction n with
  | zero => omega
  | succ n ih =>
    rw [fleet]
    by_cases own : i = n
    · subst own
      rw [Table.count_insert_of_new (fresh i) (by simp [ownStream,fleetStream]),others i le_rfl]
    · rw [Table.count_insert_kept,ih (by omega)]
      rw [fresh n,Option.any_none]
      have apart : n.repr ≠ i.repr := fun same => own (Nat.repr_injective same).symm
      simp [ownStream,fleetStream,apart]

theorem fleetStream_playable (i : Nat) : blank (fleetStream i).streamUrl = false ∧ overHttp (fleetStream i).streamUrl = true := by
  have letters : (fleetStream i).streamUrl.toList = "http://calm.example/".toList ++ i.repr.toList := String.toList_append
  constructor
  · rw [blank,letters,List.all_append]
    rfl
  · rw [overHttp,letters,List.map_append,Bool.or_eq_true]
    left
    rw [List.isPrefixOf_iff_prefix]
    have front : "http://".toList <+: "http://calm.example/".toList.map StreamUri.toAsciiLowercase := by decide
    exact front.trans (List.prefix_append ..)

theorem fleet_eligible {n i : Nat} (small : i < n) : (eligible (fleet n) i.repr (fleetStation i)).isSome = true := by
  have single : (primaries (fleet n) i.repr).length = 1 := by
    have count := fleet_primaries small
    rw [Table.count,List.countP_eq_length_filter] at count
    rw [primaries,List.filter_map,List.length_map]
    exact count
  obtain ⟨stream,only⟩ := List.length_eq_one_iff.mp single
  have listed : stream ∈ primaries (fleet n) i.repr := by rw [only]; exact List.mem_singleton_self _
  obtain ⟨⟨key,row⟩,entry,rfl⟩ := List.mem_map.mp (List.mem_of_mem_filter listed)
  obtain ⟨j,_,_,rfl⟩ := fleet_streams (Table.mem_entries.mp entry)
  obtain ⟨filled,played⟩ := fleetStream_playable j
  have active : (fleetStation i).retiredAt.isSome = false := rfl
  simp only [eligible,active,only,filled,played,Bool.not_true,Bool.or_self,Bool.false_eq_true,↓reduceIte,Option.isSome_some]

theorem fleet_enough (n : Nat) : (eligibleStations (fleet n)).length = n := by
  have all : ∀ entry ∈ (fleet n).stations.toList, (eligible (fleet n) entry.1 entry.2).isSome = true := by
    intro ⟨id,row⟩ member
    obtain ⟨i,small,rfl,rfl⟩ := fleet_stations (Table.mem_entries.mp member)
    exact fleet_eligible small
  have whole : (eligibleStations (fleet n)).length = (fleet n).stations.toList.length :=
    List.filterMap_length_eq_length.mpr all
  have count := fleet_count n
  rw [Table.count,List.countP_true] at count
  rw [whole,count]

-- A release of a full catalog whose last SQLite statement fails.
def stalled : Environment := ⟨fun step => step ≠ .vacuum,fun _ => false⟩

def mobileRelease : MobileExportConfig := ⟨"2026.08.2-mobile.1","release/mobile-catalog",defaultMinStationCount⟩

def sample : Libraries := ⟨fun _ => [],fun _ => ⟨List.replicate 32 0,rfl⟩⟩

theorem stalled_begins : Begins (fleet defaultMinStationCount) mobileRelease ∅ stalled :=
  ⟨by decide,rfl,le_of_eq (fleet_enough defaultMinStationCount).symm,fun path _ => by simp,.inl rfl⟩

def perfect : Environment := ⟨fun _ => true,fun _ => false⟩

-- The failed release cannot be repeated; a catalog below the gate is reported.
theorem rerun_refused : (∃ path, (exportMobileCatalog perfect Search.Letters.englishRussian sample (fleet defaultMinStationCount)
      mobileRelease (exportMobileCatalog stalled Search.Letters.englishRussian sample (fleet defaultMinStationCount) mobileRelease ∅).2).1 =
        .error (.artifactAlreadyExists path)) ∧
    ∃ outcome, (exportMobileCatalog perfect Search.Letters.englishRussian sample (CatalogDb.empty : CatalogDb Unit) mobileRelease ∅).1 =
      .ok outcome :=
  ⟨(mobile_export Search.Letters.englishRussian sample (fleet defaultMinStationCount) mobileRelease ∅).2.1 stalled perfect stalled_begins
      (by decide) rfl,
    (mobile_export Search.Letters.englishRussian sample CatalogDb.empty mobileRelease ∅).2.2 perfect (by decide) (fun _ => rfl)
      (fun _ _ _ _ found => by simp [CatalogDb.empty] at found) fun path _ => by simp⟩

theorem export_half_done : ¬AllOrNothing mobileRelease ∅ sample
    (exportMobileCatalog stalled Search.Letters.englishRussian sample (fleet defaultMinStationCount) mobileRelease ∅) := by
  have absent : ∀ path ∈ releasePaths mobileRelease, (∅ : Files)[path]? = none := fun path _ => by simp
  have valid : validateConfig stalled mobileRelease = .ok () := by decide
  rw [export_release valid rfl (le_of_eq (fleet_enough defaultMinStationCount).symm) absent]
  have listed : databasePath mobileRelease ∈ releasePaths mobileRelease := List.mem_cons_self ..
  rintro (⟨artifacts,released,_⟩ | ⟨_,nothing⟩)
  · rcases @release_cases stalled Search.Letters.englishRussian sample mobileRelease (eligibleStations (fleet defaultMinStationCount)) ∅ absent
      with ⟨unbroken,_⟩ | ⟨_,error,failed⟩
    · exact absurd (unbroken.1 .vacuum (by decide)) (by decide)
    · rw [released] at failed
      cases failed
  · have left := @release_leaves stalled Search.Letters.englishRussian sample mobileRelease (eligibleStations (fleet defaultMinStationCount)) ∅
      (.inl rfl)
    rw [nothing _ listed (absent _ listed)] at left
    cases left

end MobileExport
