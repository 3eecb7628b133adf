import RockServer.CatalogRuns
import RockServer.Keyset

-- Embeddings of station texts: the backfills that compute them, step by step, among
-- the imports that change the texts.
namespace EmbeddingBackfill
open CatalogImport
open DeviceControl (Uuid Instant)
open Egress (UrlLibrary)
open Search (Unicode)

structure EmbeddingProvenance where
  model : String
  version : String
  dimension : Nat
deriving DecidableEq

structure Embedding (V : Type) where
  provenance : EmbeddingProvenance
  values : V
deriving DecidableEq

structure StationEmbeddingDocument where
  stationId : String
  text : String
deriving DecidableEq

-- A provider answers each text in its own way, or fails.
abbrev Provider (V : Type) := String → Option (Embedding V)

variable {V : Type}

abbrev EmbeddingDb (V : Type) := CatalogDb (Embedding V)

-- The order of texts in the database.
structure Collation where
  order : LinearOrder String

def stationDocuments (collation : Collation) (afterStationId : Option String) (limit : Nat) (db : EmbeddingDb V) :
    Option (List StationEmbeddingDocument) :=
  if limit < 2 ^ 63 then
    some (@Keyset.page _ _ StationEmbeddingDocument.stationId collation.order
      (db.stations.toList.map fun entry => ⟨entry.1,entry.2.searchableText⟩) afterStationId limit)
  else none

def embeddingKey (stationId : String) (embedding : Embedding V) : EmbeddingKey :=
  ⟨stationId,embedding.provenance.model,embedding.provenance.version⟩

-- An embedding belongs to a station.
def upsertEmbedding (stationId : String) (embedding : Embedding V) (db : EmbeddingDb V) : Option (EmbeddingDb V) :=
  if (db.stations[stationId]?).isSome && embedding.provenance.dimension < 2 ^ 31 then
    some {db with embeddings := db.embeddings.insert (embeddingKey stationId embedding) embedding}
  else none

-- A backfill between its steps: the rest of its page, and the embedding of the
-- first document of it once the provider has answered.
structure Backfill (V : Type) where
  pageSize : Nat
  cursor : Option String
  pageLength : Nat
  documents : List StationEmbeddingDocument
  embedding : Option (Embedding V)

structure State (V : Type) where
  db : EmbeddingDb V
  backfills : Table Nat (Backfill V)

def State.initial : State V := ⟨CatalogDb.empty,∅⟩

inductive Event (V : Type) where
  | start (id pageSize : Nat)
  | read (id : Nat) (refused : Bool)
  | embed (id : Nat)
  | upsert (id : Nat) (refused : Bool)
  | stop (id : Nat)
  | activate (refuses : Refuses (Embedding V)) (run : Uuid) (now : Instant) (catalog : PinnedSharedCatalog)
  | upsertBatch (refuses : Refuses (Embedding V)) (source : String) (run : Uuid) (stations : List ImportedStation)
  | startRun (refuses : Refuses (Embedding V)) (source : String) (run : Uuid)
  | finishRun (refuses : Refuses (Embedding V)) (run : Uuid) (status : RunStatus) (counts : ImportCounts)
      (errorSummary : Option String)

namespace State
variable (provider : Provider V) (unicode : Unicode) (collation : Collation) (state : State V)

def put (id : Nat) (backfill : Backfill V) : State V := {state with backfills := state.backfills.insert id backfill}

def drop (id : Nat) : State V := {state with backfills := state.backfills.erase id}

-- A page is read when none is left; an empty one ends the run.
def read (id : Nat) (refused : Bool) (backfill : Backfill V) : State V :=
  if !backfill.documents.isEmpty then state
  else match (if refused then none else stationDocuments collation backfill.cursor backfill.pageSize state.db) with
    | none | some [] => state.drop id
    | some documents => state.put id {backfill with documents := documents,pageLength := documents.length}

def embed (id : Nat) (backfill : Backfill V) : State V := match backfill.documents,backfill.embedding with
  | document :: _,none => match provider document.text with
    | none => state.drop id
    | some embedding => state.put id {backfill with embedding := some embedding}
  | _,_ => state

-- The run ends after the last document of a short page.
def upsert (id : Nat) (refused : Bool) (backfill : Backfill V) : State V := match backfill.documents,backfill.embedding with
  | document :: rest,some embedding =>
    match (if refused then none else upsertEmbedding document.stationId embedding state.db) with
    | none => state.drop id
    | some db =>
      let stored : State V := {state with db := db}
      if rest.isEmpty && backfill.pageLength < backfill.pageSize then stored.drop id
      else stored.put id {backfill with cursor := some document.stationId,documents := rest,embedding := none}
  | _,_ => state

def step : Event V → State V
  | .start id pageSize =>
    if (state.backfills[id]?).isSome then state else state.put id ⟨max pageSize 1,none,0,[],none⟩
  | .read id refused => (state.backfills[id]?).elim state (state.read collation id refused)
  | .embed id => (state.backfills[id]?).elim state (state.embed provider id)
  | .upsert id refused => (state.backfills[id]?).elim state (state.upsert id refused)
  | .stop id => state.drop id
  | .activate refuses run now catalog => {state with db := (activateSharedCatalog refuses unicode run now catalog state.db).2}
  | .upsertBatch refuses source run stations =>
    {state with db := (CatalogImport.upsertBatch refuses unicode source run stations state.db).2}
  | .startRun refuses source run => {state with db := (CatalogImport.startRun refuses source run state.db).toOption.getD state.db}
  | .finishRun refuses run status counts errorSummary =>
    {state with db := (CatalogImport.finishRun refuses run status counts errorSummary state.db).toOption.getD state.db}

-- A document that a backfill has read and not yet stored the embedding of.
def Pending (document : StationEmbeddingDocument) : Prop := ∃ (id : Nat) (backfill : Backfill V),
  state.backfills[id]? = some backfill ∧ document ∈ backfill.documents

def Idle : Prop := ∀ document, ¬ state.Pending document

end State

-- Releases passed their checks, and batches are of other sources.
def Event.Allowed (library : UrlLibrary) (unicode : Unicode) : Event V → Prop
  | .activate _ _ _ catalog => ∃ document version, PinnedSharedCatalog.fromDocument library unicode document version = .ok catalog
  | .upsertBatch _ source _ _ => source ≠ rockcatalogSource
  | _ => True

def Event.stations : Event V → List ImportedStation
  | .activate _ _ _ catalog => catalog.stations
  | .upsertBatch _ _ _ stations => stations
  | _ => []

-- An import carries no station of a pending document with another text.
def Undisturbed (unicode : Unicode) (state : State V) (event : Event V) : Prop := ∀ station ∈ event.stations,
  ∀ document, state.Pending document → document.stationId = station.id → document.text = searchableText unicode station

inductive Run (provider : Provider V) (library : UrlLibrary) (unicode : Unicode) (collation : Collation)
    (Good : State V → Event V → Prop) : State V → Prop where
  | initial : Run provider library unicode collation Good .initial
  | next {state : State V} (event : Event V) (before : Run provider library unicode collation Good state)
      (allowed : event.Allowed library unicode) (good : Good state event) :
      Run provider library unicode collation Good (state.step provider unicode collation event)

-- Every embedding is what the provider makes of its station's text.
def Fresh (provider : Provider V) (db : EmbeddingDb V) : Prop := ∀ (key : EmbeddingKey) embedding,
  db.embeddings[key]? = some embedding → ∃ row, db.stations[key.stationId]? = some row ∧
    provider row.searchableText = some embedding ∧ embedding.provenance.model = key.model ∧ embedding.provenance.version = key.version

-- A row's text is that of a station with its metadata.
def Textual (unicode : Unicode) (db : EmbeddingDb V) : Prop := ∀ (id : String) row, db.stations[id]? = some row →
  ∃ station : ImportedStation, row.searchableText = searchableText unicode station ∧ row.name = station.name ∧
    row.tags = station.tags ∧ row.language = station.language ∧ row.countryCode = station.countryCode

-- The tables, with texts as the pending documents have them.
structure Consistent (provider : Provider V) (unicode : Unicode) (pending : StationEmbeddingDocument → Prop) (db : EmbeddingDb V) :
    Prop where
  sound : Sound db
  textual : Textual unicode db
  fresh : Fresh provider db
  told : ∀ document, pending document → ∃ row, db.stations[document.stationId]? = some row ∧ row.searchableText = document.text

variable {provider : Provider V} {library : UrlLibrary} {unicode : Unicode} {collation : Collation}
variable {pending : StationEmbeddingDocument → Prop} {db db' : EmbeddingDb V} {source : String} {run : Uuid} {now : Instant}
variable {station : ImportedStation} {stations : List ImportedStation} {refuses : Refuses (Embedding V)}
variable {catalog : PinnedSharedCatalog} {state : State V}

-- Without a change of metadata the text stays.
theorem text_unchanged {row : StationRow} (textual : Textual unicode db) (found : db.stations[station.id]? = some row)
    (owned : row.source = source ∧ row.sourceStationId = station.sourceStationId)
    (unchanged : metadataChanged source db station = false) : row.searchableText = searchableText unicode station := by
  obtain ⟨origin,text,name,tags,language,country⟩ := textual station.id row found
  have same := List.any_eq_false.mp unchanged (station.id,row) (Table.mem_entries.mpr found)
  simp only [identified,owned,decide_true,Bool.true_and,Bool.or_eq_true,decide_eq_true_eq,not_or,not_not] at same
  obtain ⟨⟨⟨⟨name',_⟩,tags'⟩,language'⟩,country'⟩ := same
  rw [text,searchableText,searchableText,← name,← tags,← language,← country,name',tags',language',country']

theorem Consistent.upserted (held : Consistent provider unicode pending db)
    (done : Upserted unicode source run station db db') (named : source = rockcatalogSource → station.sourceStationId = station.id)
    (told : ∀ document, pending document → document.stationId = station.id → document.text = searchableText unicode station) :
    Consistent provider unicode pending db' := by
  refine ⟨done.sound held.sound named,?_,?_,?_⟩
  · intro id row found
    rw [done.station_get] at found
    split at found
    · cases found
      exact ⟨station,rfl,rfl,rfl,rfl,rfl⟩
    · exact held.textual id row found
  · intro key embedding stored
    rw [done.station_get]
    by_cases mine : station.id = key.stationId
    · -- What is left of its embeddings is of an unchanged text.
      rw [if_pos mine]
      rw [done.embeddings] at stored
      split at stored
      · rw [deleteEmbeddings,Table.get_filter] at stored
        exact absurd mine.symm (by simpa using stored.2)
      · rename_i unchanged
        obtain ⟨row,found,computed,provenance⟩ := held.fresh key embedding stored
        rw [← mine] at found
        have same := text_unchanged held.textual found (done.own row found) (by simpa using unchanged)
        exact ⟨_,rfl,(congrArg provider same).symm.trans computed,provenance⟩
    · rw [if_neg mine]
      rw [done.embedding_get (Ne.symm mine)] at stored
      exact held.fresh key embedding stored
  · intro document waits
    rw [done.station_get]
    split
    · rename_i mine
      exact ⟨_,rfl,(told document waits mine.symm).symm⟩
    · exact held.told document waits

theorem Consistent.upserts (held : Consistent provider unicode pending db)
    (named : source = rockcatalogSource → ∀ station ∈ stations, station.sourceStationId = station.id)
    (told : ∀ station ∈ stations, ∀ document, pending document → document.stationId = station.id →
      document.text = searchableText unicode station)
    (ran : upsertStations refuses unicode source run db stations = .ok db') : Consistent provider unicode pending db' := by
  refine fold_ok (fun _ after => Consistent provider unicode pending after) held ?_ ran
  intro done station rest middle after whole consistent stepped
  have member : station ∈ stations := by simp [whole]
  exact consistent.upserted (upsertStation_ok consistent.sound stepped) (fun rock => named rock station member) (told station member)

theorem Consistent.kept (held : Consistent provider unicode pending db) (kept : Kept db db') :
    Consistent provider unicode pending db' := by
  obtain ⟨sound,textual,fresh,told⟩ := held
  refine ⟨kept.sound sound,?_,?_,?_⟩
  · unfold Textual
    rw [kept.stations]
    exact textual
  · unfold Fresh
    rw [kept.stations,kept.embeddings]
    exact fresh
  · rw [kept.stations]
    exact told

theorem retireStation_text {kept : List String} {row : StationRow} :
    (retireStation now kept row).searchableText = row.searchableText := by
  unfold retireStation
  split <;> rfl

theorem Consistent.retired (held : Consistent provider unicode pending db) (sound : Sound db')
    (left : Retired run now catalog db db') : Consistent provider unicode pending db' := by
  have station : ∀ {id : String} {row}, db.stations[id]? = some row →
      ∃ row', db'.stations[id]? = some row' ∧ row'.searchableText = row.searchableText := by
    intro id row found
    refine ⟨retireStation now (catalog.stations.map (·.sourceStationId)) row,?_,retireStation_text⟩
    rw [left.stations,Table.get_map,found]
    rfl
  refine ⟨sound,?_,?_,?_⟩
  · intro id row found
    rw [left.stations,Table.get_map,Option.map_eq_some_iff] at found
    obtain ⟨stored,there,rfl⟩ := found
    obtain ⟨origin,text,name,tags,language,country⟩ := held.textual id stored there
    refine ⟨origin,retireStation_text.trans text,?_⟩
    unfold retireStation
    split <;> exact ⟨name,tags,language,country⟩
  · intro key embedding stored
    rw [left.embeddings] at stored
    obtain ⟨row,found,computed,provenance⟩ := held.fresh key embedding stored
    obtain ⟨row',kept,text⟩ := station found
    exact ⟨row',kept,(congrArg provider text).trans computed,provenance⟩
  · intro document waits
    obtain ⟨row,found,text⟩ := held.told document waits
    obtain ⟨row',kept,same⟩ := station found
    exact ⟨row',kept,same.trans text⟩

-- An import that carries no pending document's station with another text.
theorem Consistent.activated (held : Consistent provider unicode pending db) (valid : catalog.Valid)
    (told : ∀ station ∈ catalog.stations, ∀ document, pending document → document.stationId = station.id →
      document.text = searchableText unicode station) :
    Consistent provider unicode pending (activateSharedCatalog refuses unicode run now catalog db).2 := by
  rcases activate_parted refuses run now held.sound valid with ⟨started,upserted,after,kept,_,put,all,left,result⟩ | ⟨_,after,result,kept⟩
  · rw [result]
    have during := (held.kept kept).upserts (fun _ station member => (valid.owned station member).2.1) told put
    exact during.retired (left.sound valid all) left
  · rw [result]
    exact held.kept kept

theorem Consistent.batch (held : Consistent provider unicode pending db) (other : source ≠ rockcatalogSource)
    (told : ∀ station ∈ stations, ∀ document, pending document → document.stationId = station.id →
      document.text = searchableText unicode station) :
    Consistent provider unicode pending (CatalogImport.upsertBatch refuses unicode source run stations db).2 := by
  rcases upsertBatch_parted refuses unicode source run stations db with same | ⟨after,put,same⟩
  · rw [same]
    exact held
  · rw [same]
    exact held.upserts (fun rock => absurd rock other) told put

-- A run's state while no import disturbs it.
structure Steady (provider : Provider V) (unicode : Unicode) (state : State V) : Prop where
  consistent : Consistent provider unicode state.Pending state.db
  computed : ∀ (id : Nat) backfill, state.backfills[id]? = some backfill → ∀ embedding ∈ backfill.embedding,
    ∃ document rest, backfill.documents = document :: rest ∧ provider document.text = some embedding

section steps
variable {id : Nat} {backfill : Backfill V}

theorem Steady.told (steady : Steady provider unicode state) (found : state.backfills[id]? = some backfill)
    {document : StationEmbeddingDocument} (member : document ∈ backfill.documents) :
    ∃ row, state.db.stations[document.stationId]? = some row ∧ row.searchableText = document.text :=
  steady.consistent.told document ⟨id,backfill,found,member⟩

theorem Steady.put (steady : Steady provider unicode state)
    (told : ∀ document ∈ backfill.documents,
      ∃ row, state.db.stations[document.stationId]? = some row ∧ row.searchableText = document.text)
    (computed : ∀ embedding ∈ backfill.embedding,
      ∃ document rest, backfill.documents = document :: rest ∧ provider document.text = some embedding) :
    Steady provider unicode (state.put id backfill) := by
  refine ⟨{steady.consistent with told := ?_},?_⟩
  · rintro document ⟨other,waiting,found,member⟩
    rw [State.put,Table.get_insert] at found
    split at found
    · cases found
      exact told document member
    · exact steady.told found member
  · intro other waiting found
    rw [State.put,Table.get_insert] at found
    split at found
    · cases found
      exact computed
    · exact steady.computed other waiting found

theorem Steady.drop (steady : Steady provider unicode state) : Steady provider unicode (state.drop id) := by
  refine ⟨{steady.consistent with told := ?_},?_⟩
  · rintro document ⟨other,waiting,found,member⟩
    exact steady.told (Table.get_erase_some found).2 member
  · intro other waiting found
    exact steady.computed other waiting (Table.get_erase_some found).2

theorem documents_told {cursor : Option String} {limit : Nat} {documents : List StationEmbeddingDocument}
    (paged : stationDocuments collation cursor limit db = some documents) {document : StationEmbeddingDocument}
    (member : document ∈ documents) : ∃ row, db.stations[document.stationId]? = some row ∧ row.searchableText = document.text := by
  unfold stationDocuments at paged
  split at paged
  · cases paged
    obtain ⟨entry,listed,rfl⟩ := List.mem_map.mp (@Keyset.mem_page _ _ _ collation.order _ _ _ _ member)
    exact ⟨entry.2,Table.mem_entries.mp listed,rfl⟩
  · cases paged

theorem Steady.read {refused : Bool} (steady : Steady provider unicode state) (found : state.backfills[id]? = some backfill) :
    Steady provider unicode (state.read collation id refused backfill) := by
  unfold State.read
  split
  · exact steady
  · rename_i none_left
    split
    · exact steady.drop
    · exact steady.drop
    · rename_i documents paged
      split at paged
      · cases paged
      · refine steady.put (fun document member => documents_told paged member) fun embedding held => ?_
        obtain ⟨document,rest,some_left,_⟩ := steady.computed id backfill found embedding held
        simp [some_left] at none_left

theorem Steady.embed (steady : Steady provider unicode state) (found : state.backfills[id]? = some backfill) :
    Steady provider unicode (state.embed provider id backfill) := by
  unfold State.embed
  split
  · rename_i document rest documents _
    split
    · exact steady.drop
    · rename_i embedding answered
      refine steady.put (fun _ => steady.told found) fun other held => ?_
      cases held
      exact ⟨document,rest,documents,answered⟩
  · exact steady

-- An embedding of the current text.
theorem upsertEmbedding_ok {stationId : String} {embedding : Embedding V} {row : StationRow} (held : Consistent provider unicode pending db)
    (found : db.stations[stationId]? = some row) (computed : provider row.searchableText = some embedding)
    (stored : upsertEmbedding stationId embedding db = some db') :
    Consistent provider unicode pending db' ∧ db'.stations = db.stations := by
  unfold upsertEmbedding at stored
  split at stored
  · cases stored
    refine ⟨⟨held.sound.tables rfl rfl,held.textual,?_,held.told⟩,rfl⟩
    intro key other present
    rw [Table.get_insert] at present
    split at present
    · rename_i same
      cases present
      subst same
      exact ⟨row,found,computed,rfl,rfl⟩
    · exact held.fresh key other present
  · cases stored

theorem Steady.upsert {refused : Bool} (steady : Steady provider unicode state) (found : state.backfills[id]? = some backfill) :
    Steady provider unicode (state.upsert id refused backfill) := by
  unfold State.upsert
  split
  · rename_i document rest embedding documents answer
    split
    · exact steady.drop
    · rename_i db stored
      split at stored
      · cases stored
      · obtain ⟨other,_,same,answered⟩ := steady.computed id backfill found embedding answer
        cases documents.symm.trans same
        have first : document ∈ backfill.documents := by simp [documents]
        obtain ⟨row,there,text⟩ := steady.told found first
        obtain ⟨consistent,stations⟩ := upsertEmbedding_ok steady.consistent there (text ▸ answered) stored
        have stored_steady : Steady provider unicode ({state with db := db} : State V) := ⟨consistent,steady.computed⟩
        dsimp only
        split
        · exact stored_steady.drop
        · refine stored_steady.put (fun later member => ?_) (by simp)
          exact stored_steady.told found (by simpa [documents] using .inr member)
  · exact steady

end steps

theorem step_steady {event : Event V} (steady : Steady provider unicode state) (allowed : event.Allowed library unicode)
    (undisturbed : Undisturbed unicode state event) : Steady provider unicode (state.step provider unicode collation event) := by
  have each : ∀ (id : Nat) (next : Backfill V → State V), (∀ backfill, state.backfills[id]? = some backfill → Steady provider unicode (next backfill)) →
      Steady provider unicode ((state.backfills[id]?).elim state next) := by
    intro id next steps
    cases found : state.backfills[id]? with
    | none => exact steady
    | some backfill => exact steps backfill found
  cases event with
  | start id pageSize =>
    dsimp only [State.step]
    split
    · exact steady
    · exact steady.put (by simp) (by simp)
  | read id refused => exact each id _ fun backfill found => steady.read found
  | embed id => exact each id _ fun backfill found => steady.embed found
  | upsert id refused => exact each id _ fun backfill found => steady.upsert found
  | stop id => exact steady.drop
  | activate refuses run now catalog =>
    obtain ⟨document,version,loaded⟩ := allowed
    exact ⟨steady.consistent.activated (fromDocument_valid loaded) undisturbed,steady.computed⟩
  | upsertBatch refuses source run stations => exact ⟨steady.consistent.batch allowed undisturbed,steady.computed⟩
  | startRun refuses source run =>
    refine ⟨?_,steady.computed⟩
    cases ran : CatalogImport.startRun refuses source run state.db with
    | error error =>
      simp only [State.step,ran]
      exact steady.consistent
    | ok started =>
      simp only [State.step,ran]
      exact steady.consistent.kept (startRun_kept ran)
  | finishRun refuses run status counts errorSummary =>
    refine ⟨?_,steady.computed⟩
    cases ran : CatalogImport.finishRun refuses run status counts errorSummary state.db with
    | error error =>
      simp only [State.step,ran]
      exact steady.consistent
    | ok finished =>
      simp only [State.step,ran]
      exact steady.consistent.kept (finishRun_kept ran)

-- Where no import carries a pending document's station with another text, every
-- embedding is of its station's text in every state reached.
theorem embeddings_fresh (run : Run provider library unicode collation (Undisturbed unicode) state) : Fresh provider state.db := by
  have steady : Steady provider unicode state := by
    induction run with
    | initial =>
      refine ⟨⟨empty_sound,?_,?_,?_⟩,?_⟩
      · intro id row found
        simp [State.initial,CatalogDb.empty] at found
      · intro key embedding stored
        simp [State.initial,CatalogDb.empty] at stored
      · rintro document ⟨id,backfill,found,_⟩
        simp [State.initial] at found
      · intro id backfill found
        simp [State.initial] at found
    | next event before allowed good ih => exact step_steady ih allowed good
  exact steady.consistent.fresh

def bytewise : Collation := ⟨inferInstance⟩

-- A provider whose vectors tell the texts.
def telling : Provider String := fun text => some ⟨⟨"e5","1",1⟩,text⟩

def radioStation (name : String) : ImportedStation where
  source := "radio_browser"
  sourceStationId := "1"
  id := "rb-1"
  name := name
  homepageUrl := none
  faviconSourceUrl := none
  tags := []
  language := none
  countryCode := none
  streams := [⟨"1","https://radio.example/live",none,none,true⟩]

def imported (name : String) : Event String := .upsertBatch (fun _ _ => false) "radio_browser" 1 [radioStation name]

-- One event more, whatever is asked of the states.
theorem run_event {G : State String → Event String → Prop} {state : State String} (event : Event String)
    (before : Run telling jazzLibrary Search.Letters.englishRussian bytewise G state)
    (allowed : event.Allowed jazzLibrary Search.Letters.englishRussian) (good : G state event) :
    Run telling jazzLibrary Search.Letters.englishRussian bytewise G
      (state.step telling Search.Letters.englishRussian bytewise event) := .next event before allowed good

def after (events : List (Event String)) : State String :=
  events.foldl (fun state event => state.step telling Search.Letters.englishRussian bytewise event) .initial

theorem imported_allowed (name : String) : (imported name).Allowed jazzLibrary Search.Letters.englishRussian :=
  (by decide : "radio_browser" ≠ rockcatalogSource)

theorem embeddings_fresh_backfilled : Fresh telling (after [.startRun (fun _ _ => false) "radio_browser" 1,imported "Jazz",
    .start 0 50,.read 0 false,.embed 0,.upsert 0 false]).db := by
  have calm : ∀ {state : State String} {event : Event String}, event.stations = [] →
      Undisturbed Search.Letters.englishRussian state event := by
    intro state event none station member
    rw [none] at member
    cases member
  have started := run_event (.startRun (fun _ _ => false) "radio_browser" 1) .initial trivial (calm rfl)
  have filled := run_event (imported "Jazz") started (imported_allowed _) (by
    rintro station _ document ⟨id,backfill,found,_⟩
    simp [State.initial,State.step] at found)
  have begun := run_event (.start 0 50) filled trivial (calm rfl)
  have read := run_event (.read 0 false) begun trivial (calm rfl)
  have embedded := run_event (.embed 0) read trivial (calm rfl)
  exact embeddings_fresh (run_event (.upsert 0 false) embedded trivial (calm rfl))

-- The text changes between its reading and the storing of its embedding.
def disturbedRun : List (Event String) := [.startRun (fun _ _ => false) "radio_browser" 1,imported "Jazz",.start 0 50,.read 0 false,
  imported "Blues",.embed 0,.upsert 0 false]

theorem embedding_stale : ∃ state, Run telling jazzLibrary Search.Letters.englishRussian bytewise (fun _ _ => True) state ∧
    state.Idle ∧ ¬ Fresh telling state.db := by
  have started := run_event (G:=fun _ _ => True) (.startRun (fun _ _ => false) "radio_browser" 1) .initial trivial trivial
  have filled := run_event (imported "Jazz") started (imported_allowed _) trivial
  have begun := run_event (.start 0 50) filled trivial trivial
  have read := run_event (.read 0 false) begun trivial trivial
  have changed := run_event (imported "Blues") read (imported_allowed _) trivial
  have embedded := run_event (.embed 0) changed trivial trivial
  refine ⟨after disturbedRun,run_event (.upsert 0 false) embedded trivial trivial,?_,?_⟩
  · rintro document ⟨id,backfill,found,_⟩
    have ended : (after disturbedRun).backfills.toList = [] := rfl
    have listed : (id,backfill) ∈ (after disturbedRun).backfills.toList := Table.mem_entries.mpr found
    rw [ended] at listed
    cases listed
  · intro fresh
    obtain ⟨row,found,computed,_⟩ := fresh ⟨"rb-1","e5","1"⟩ ⟨⟨"e5","1",1⟩,"Jazz jazz"⟩ rfl
    have current : (after disturbedRun).db.stations["rb-1"]? =
        some (stationRow Search.Letters.englishRussian "radio_browser" 1 (radioStation "Blues")) := rfl
    cases found.symm.trans current
    exact absurd computed (by decide)

end EmbeddingBackfill
