import RockServer.EmbeddingBackfill

-- A backfill from its start to its end, over a catalog that stays as it is.
namespace EmbeddingBackfill
open Keyset (lastKey)
open Search (Unicode)

structure EmbeddingProviderError where
  summary : String
deriving DecidableEq

structure EmbeddingStoreError where
  summary : String
deriving DecidableEq

inductive BackfillError where
  | provider (error : EmbeddingProviderError)
  | store (error : EmbeddingStoreError)
deriving DecidableEq

-- Each call finds the world as the one before has left it.
structure EmbeddingProvider (W V : Type) where
  embedDocument : String → W → Except EmbeddingProviderError (Embedding V) × W

structure EmbeddingStore (W V : Type) where
  stationDocuments : Option String → Nat → W → Except EmbeddingStoreError (List StationEmbeddingDocument) × W
  upsertEmbedding : String → Embedding V → W → Except EmbeddingStoreError Unit × W

structure EmbeddingBackfillResult where
  processed : Nat
  updated : Nat
deriving DecidableEq

inductive Call (V : Type) where
  | stationDocuments (afterStationId : Option String) (limit : Nat) (answer : Except EmbeddingStoreError (List StationEmbeddingDocument))
  | embedDocument (text : String) (answer : Except EmbeddingProviderError (Embedding V))
  | upsertEmbedding (stationId : String) (embedding : Embedding V) (answer : Except EmbeddingStoreError Unit)

-- The calls made so far are kept with their answers.
structure Progress (W V : Type) where
  world : W
  calls : List (Call V)
  cursor : Option String
  result : EmbeddingBackfillResult

section run
variable {W V : Type}

def Progress.called (progress : Progress W V) (call : Call V) (world : W) : Progress W V :=
  {progress with world := world,calls := progress.calls ++ [call]}

def Progress.stored (progress : Progress W V) (document : StationEmbeddingDocument) : Progress W V :=
  {progress with cursor := some document.stationId,result := ⟨progress.result.processed + 1,progress.result.updated + 1⟩}

variable (provider : EmbeddingProvider W V) (store : EmbeddingStore W V)

def backfillDocument (document : StationEmbeddingDocument) (progress : Progress W V) : Except BackfillError Unit × Progress W V :=
  match provider.embedDocument document.text progress.world with
  | (.error error,world) => (.error (.provider error),progress.called (.embedDocument document.text (.error error)) world)
  | (.ok embedding,world) =>
    let progress := progress.called (.embedDocument document.text (.ok embedding)) world
    match store.upsertEmbedding document.stationId embedding world with
    | (.error error,world) =>
      (.error (.store error),progress.called (.upsertEmbedding document.stationId embedding (.error error)) world)
    | (.ok (),world) => (.ok (),(progress.called (.upsertEmbedding document.stationId embedding (.ok ())) world).stored document)

def backfillPage : List StationEmbeddingDocument → Progress W V → Except BackfillError Unit × Progress W V
  | [],progress => (.ok (),progress)
  | document :: documents,progress => match backfillDocument provider store document progress with
    | (.error error,progress) => (.error error,progress)
    | (.ok (),progress) => backfillPage documents progress

-- The loop over pages, for so many turns.
def runFrom (pageSize : Nat) : Nat → Progress W V → Option (Except BackfillError EmbeddingBackfillResult × Progress W V)
  | 0,_ => none
  | turns + 1,progress => match store.stationDocuments progress.cursor pageSize progress.world with
    | (.error error,world) =>
      some (.error (.store error),progress.called (.stationDocuments progress.cursor pageSize (.error error)) world)
    | (.ok documents,world) =>
      let progress := progress.called (.stationDocuments progress.cursor pageSize (.ok documents)) world
      if documents.isEmpty then some (.ok progress.result,progress)
      else match backfillPage provider store documents progress with
        | (.error error,progress) => some (.error error,progress)
        | (.ok (),progress) =>
          if documents.length < pageSize then some (.ok progress.result,progress) else runFrom pageSize turns progress

-- `new` raises the page size to one.
def run (pageSize turns : Nat) (world : W) : Option (Except BackfillError EmbeddingBackfillResult × Progress W V) :=
  runFrom provider store (max pageSize 1) turns ⟨world,[],none,⟨0,0⟩⟩

end run

section specification
variable {W V : Type} (collation : Collation) (provider : EmbeddingProvider W V) (store : EmbeddingStore W V)
  (catalog : List StationEmbeddingDocument) (pageSize : Nat) (Held : W → Prop)

def inOrder : List StationEmbeddingDocument := @Keyset.sorted _ _ StationEmbeddingDocument.stationId collation.order catalog

-- Pages are of one catalog, whatever is called in between.
structure FixedCatalog : Prop where
  distinct : (catalog.map StationEmbeddingDocument.stationId).Nodup
  pages : ∀ {cursor limit world world' documents}, Held world → store.stationDocuments cursor limit world = (.ok documents,world') →
    documents = @Keyset.page _ _ StationEmbeddingDocument.stationId collation.order catalog cursor limit ∧ Held world'
  embeds : ∀ {text world world' embedding}, Held world → provider.embedDocument text world = (.ok embedding,world') → Held world'
  upserts : ∀ {stationId embedding world world'}, Held world → store.upsertEmbedding stationId embedding world = (.ok (),world') →
    Held world'

-- No call that is made for the catalog fails.
structure Unfailing : Prop where
  pages : ∀ {cursor world}, Held world → ∃ documents world', store.stationDocuments cursor pageSize world = (.ok documents,world')
  embeds : ∀ {document world}, Held world → document ∈ catalog →
    ∃ embedding world', provider.embedDocument document.text world = (.ok embedding,world')
  upserts : ∀ {document embedding world world'}, Held world → document ∈ catalog →
    provider.embedDocument document.text world = (.ok embedding,world') →
    ∃ world'', store.upsertEmbedding document.stationId embedding world' = (.ok (),world'')

def Call.single : Call V → Bool
  | .stationDocuments .. => false
  | _ => true

def Call.upserted : Call V → Option String
  | .upsertEmbedding stationId _ (.ok ()) => some stationId
  | _ => none

def upserted (calls : List (Call V)) : List String := calls.filterMap Call.upserted

-- What is called for a station.
def stores (written : StationEmbeddingDocument × Embedding V) : List (Call V) :=
  [.embedDocument written.1.text (.ok written.2),.upsertEmbedding written.1.stationId written.2 (.ok ())]

-- Each of the stations is embedded and stored once, in their order, before the last calls.
def Wrote (calls : List (Call V)) (done : List StationEmbeddingDocument) (last : List (Call V)) : Prop :=
  ∃ written : List (StationEmbeddingDocument × Embedding V), written.map Prod.fst = done ∧
    calls.filter Call.single = written.flatMap stores ++ last

-- The call that fails is for the rest: for its first station, or for its page.
inductive Fails (done rest : List StationEmbeddingDocument) (calls : List (Call V)) : BackfillError → List (Call V) → Prop where
  | page (error : EmbeddingStoreError)
      (asked : calls.getLast? = some (.stationDocuments (lastKey StationEmbeddingDocument.stationId done) pageSize (.error error))) :
      Fails done rest calls (.store error) []
  | embed (error : EmbeddingProviderError) (document : StationEmbeddingDocument) (first : rest.head? = some document) :
      Fails done rest calls (.provider error) [.embedDocument document.text (.error error)]
  | upsert (error : EmbeddingStoreError) (document : StationEmbeddingDocument) (embedding : Embedding V)
      (first : rest.head? = some document) : Fails done rest calls (.store error)
        [.embedDocument document.text (.ok embedding),.upsertEmbedding document.stationId embedding (.error error)]

def Broken (calls : List (Call V)) (error : BackfillError) : Prop := ∃ done rest last, inOrder collation catalog = done ++ rest ∧
  upserted calls = done.map StationEmbeddingDocument.stationId ∧ Wrote calls done last ∧ Fails pageSize done rest calls error last

def Covers : Except BackfillError EmbeddingBackfillResult × Progress W V → Prop
  | (.ok result,progress) => result = ⟨catalog.length,catalog.length⟩ ∧
    upserted progress.calls = (inOrder collation catalog).map StationEmbeddingDocument.stationId ∧
    Wrote progress.calls (inOrder collation catalog) []
  | (.error error,progress) => Broken collation catalog pageSize progress.calls error

end specification

section coverage
variable {W V : Type} {collation : Collation} {provider : EmbeddingProvider W V} {store : EmbeddingStore W V}
  {catalog : List StationEmbeddingDocument} {pageSize turns : Nat} {Held : W → Prop}
variable {progress : Progress W V} {done rest documents : List StationEmbeddingDocument} {document : StationEmbeddingDocument}
  {calls last : List (Call V)} {call : Call V} {embedding : Embedding V} {error : BackfillError}

theorem length_inOrder : (inOrder collation catalog).length = catalog.length := @Keyset.length_sorted _ _ _ collation.order _

-- Between two documents, what is done and what is left.
structure Reached (collation : Collation) (catalog : List StationEmbeddingDocument) (Held : W → Prop) (progress : Progress W V)
    (done rest : List StationEmbeddingDocument) : Prop where
  split : inOrder collation catalog = done ++ rest
  held : Held progress.world
  cursor : progress.cursor = lastKey StationEmbeddingDocument.stationId done
  counted : progress.result = ⟨done.length,done.length⟩
  wrote : Wrote progress.calls done []

theorem upserted_stores (written : List (StationEmbeddingDocument × Embedding V)) :
    upserted (written.flatMap stores) = (written.map Prod.fst).map StationEmbeddingDocument.stationId := by
  induction written with
  | nil => rfl
  | cons first rest ih =>
    have split : upserted ((first :: rest).flatMap stores) = upserted (stores first) ++ upserted (rest.flatMap stores) := by
      rw [List.flatMap_cons]
      exact List.filterMap_append
    rw [split,ih]
    rfl

-- Reads upsert nothing.
theorem upserted_single (calls : List (Call V)) : upserted (calls.filter Call.single) = upserted calls := by
  induction calls with
  | nil => rfl
  | cons call calls ih =>
    rw [List.filter_cons]
    cases call with
    | stationDocuments cursor limit answer => exact ih
    | embedDocument text answer => exact ih
    | upsertEmbedding stationId embedding answer =>
      cases answer with
      | error error => exact ih
      | ok done => exact congrArg (stationId :: ·) ih

theorem Wrote.ids (wrote : Wrote calls done last) (failed : upserted last = []) :
    upserted calls = done.map StationEmbeddingDocument.stationId := by
  obtain ⟨written,rfl,same⟩ := wrote
  have split : upserted (written.flatMap stores ++ last) = upserted (written.flatMap stores) ++ upserted last := List.filterMap_append
  rw [← upserted_single,same,split,upserted_stores,failed,List.append_nil]

theorem Wrote.single (wrote : Wrote calls done last) (single : call.single = true) : Wrote (calls ++ [call]) done (last ++ [call]) := by
  obtain ⟨written,given,same⟩ := wrote
  refine ⟨written,given,?_⟩
  rw [List.filter_append,same,List.filter_cons_of_pos single,List.append_assoc]
  rfl

theorem Wrote.read (wrote : Wrote calls done last) (other : call.single = false) : Wrote (calls ++ [call]) done last := by
  obtain ⟨written,given,same⟩ := wrote
  refine ⟨written,given,?_⟩
  rw [List.filter_append,same,List.filter_cons_of_neg (by simp [other]),List.filter_nil,List.append_nil]

theorem Wrote.whole (wrote : Wrote calls done [.embedDocument document.text (.ok embedding),
    .upsertEmbedding document.stationId embedding (.ok ())]) : Wrote calls (done ++ [document]) [] := by
  obtain ⟨written,given,same⟩ := wrote
  refine ⟨written ++ [(document,embedding)],by rw [List.map_append,given]; rfl,?_⟩
  rw [same,List.flatMap_append,List.append_nil]
  rfl

theorem Fails.none_stored (fails : Fails pageSize done rest calls error last) : upserted last = [] := by
  cases fails
  all_goals rfl

theorem broken (split : inOrder collation catalog = done ++ rest) (wrote : Wrote calls done last)
    (fails : Fails pageSize done rest calls error last) : Broken collation catalog pageSize calls error :=
  ⟨done,rest,last,split,wrote.ids fails.none_stored,wrote,fails⟩

theorem Reached.listed (reached : Reached collation catalog Held progress done (document :: rest)) : document ∈ catalog := by
  have inside : document ∈ inOrder collation catalog := by
    rw [reached.split]
    simp
  exact (@Keyset.mem_sorted _ _ _ collation.order _ _).mp inside

-- One document more, or its own call fails.
theorem document_reached (fixed : FixedCatalog collation provider store catalog Held)
    (reached : Reached collation catalog Held progress done (document :: rest)) :
    (∃ next, backfillDocument provider store document progress = (.ok (),next) ∧
      Reached collation catalog Held next (done ++ [document]) rest) ∨
    ¬Unfailing provider store catalog pageSize Held ∧
      ∃ error next, backfillDocument provider store document progress = (.error error,next) ∧
        Broken collation catalog pageSize next.calls error := by
  unfold backfillDocument
  cases embedded : provider.embedDocument document.text progress.world with
  | mk answer world => cases answer with
    | error error =>
      refine .inr ⟨fun unfailing => ?_,.provider error,_,rfl,?_⟩
      · obtain ⟨embedding,other,answered⟩ := unfailing.embeds reached.held reached.listed
        rw [embedded] at answered
        cases answered
      · exact broken reached.split (reached.wrote.single rfl) (.embed error document rfl)
    | ok embedding =>
      have held := fixed.embeds reached.held embedded
      have wrote : Wrote (progress.calls ++ [.embedDocument document.text (.ok embedding)]) done
        [.embedDocument document.text (.ok embedding)] := reached.wrote.single rfl
      simp only
      cases stored : store.upsertEmbedding document.stationId embedding world with
      | mk answer after => cases answer with
        | error error =>
          refine .inr ⟨fun unfailing => ?_,.store error,_,rfl,?_⟩
          · obtain ⟨other,answered⟩ := unfailing.upserts reached.held reached.listed embedded
            rw [stored] at answered
            cases answered
          · exact broken reached.split (wrote.single rfl) (.upsert error document embedding rfl)
        | ok _ =>
          refine .inl ⟨_,rfl,?_,fixed.upserts held stored,?_,?_,(wrote.single rfl).whole⟩
          · rw [reached.split,List.append_assoc]
            rfl
          · rw [lastKey,List.getLast?_concat]
            rfl
          · simp [Progress.stored,Progress.called,reached.counted]

theorem page_reached (fixed : FixedCatalog collation provider store catalog Held)
    (reached : Reached collation catalog Held progress done (documents ++ rest)) :
    (∃ next, backfillPage provider store documents progress = (.ok (),next) ∧
      Reached collation catalog Held next (done ++ documents) rest) ∨
    ¬Unfailing provider store catalog pageSize Held ∧
      ∃ error next, backfillPage provider store documents progress = (.error error,next) ∧
        Broken collation catalog pageSize next.calls error := by
  induction documents generalizing progress done with
  | nil =>
    rw [List.append_nil]
    exact .inl ⟨progress,rfl,reached⟩
  | cons document documents ih =>
    rcases document_reached fixed reached with ⟨next,done_,reached⟩ | ⟨fails,error,next,failed,broken⟩
    · rw [List.append_cons]
      have later := ih reached
      rwa [backfillPage,done_]
    · exact .inr ⟨fails,error,next,by rw [backfillPage,failed],broken⟩

-- The page after what is done is the first of what is left.
theorem Reached.page (fixed : FixedCatalog collation provider store catalog Held)
    (reached : Reached collation catalog Held progress done rest) :
    @Keyset.page _ _ StationEmbeddingDocument.stationId collation.order catalog progress.cursor pageSize = rest.take pageSize := by
  have ascends := @Keyset.sorted_ascends _ _ StationEmbeddingDocument.stationId collation.order catalog fixed.distinct
  have split := reached.split
  rw [inOrder] at split
  rw [@Keyset.page_eq _ _ _ collation.order _ _ _ fixed.distinct,split,reached.cursor]
  congr 1
  cases ends : done.getLast? with
  | none =>
    rw [List.getLast?_eq_none_iff.mp ends]
    exact List.filter_eq_self.mpr fun _ _ => rfl
  | some last =>
    rw [split] at ascends
    rw [lastKey,ends]
    exact @Keyset.beyond_last _ _ _ collation.order _ _ _ ascends ends

theorem Reached.covers (reached : Reached collation catalog Held progress done []) :
    Covers collation catalog pageSize (.ok progress.result,progress) := by
  have whole := reached.split
  rw [List.append_nil] at whole
  refine ⟨?_,?_,?_⟩
  · rw [reached.counted,← whole,length_inOrder]
  · rw [whole]
    exact reached.wrote.ids rfl
  · rw [whole]
    exact reached.wrote

theorem start_reached {world : W} (held : Held world) :
    Reached collation catalog Held (⟨world,[],none,⟨0,0⟩⟩ : Progress W V) [] (inOrder collation catalog) :=
  ⟨rfl,held,rfl,rfl,⟨[],rfl,rfl⟩⟩

-- A turn for every station left, and one more.
theorem runFrom_covers (fixed : FixedCatalog collation provider store catalog Held) (positive : 0 < pageSize)
    (reached : Reached collation catalog Held progress done rest) (enough : rest.length < turns) :
    ∃ ended, runFrom provider store pageSize turns progress = some ended ∧ Covers collation catalog pageSize ended ∧
      (Unfailing provider store catalog pageSize Held → ∃ result, ended.1 = .ok result) := by
  induction turns generalizing progress done rest with
  | zero => exact absurd enough (Nat.not_lt_zero _)
  | succ turns ih =>
    rw [runFrom]
    cases asked : store.stationDocuments progress.cursor pageSize progress.world with
    | mk answer world => cases answer with
      | error error =>
        refine ⟨_,rfl,?_,fun unfailing => ?_⟩
        · have asks : (progress.calls ++ [Call.stationDocuments progress.cursor pageSize (.error error)]).getLast? =
              some (.stationDocuments (lastKey StationEmbeddingDocument.stationId done) pageSize (.error error)) := by
            rw [List.getLast?_concat,reached.cursor]
          exact broken reached.split (reached.wrote.read rfl) (.page error asks)
        · obtain ⟨documents,other,answered⟩ := unfailing.pages reached.held
          rw [asked] at answered
          cases answered
      | ok documents =>
        obtain ⟨page,held⟩ := fixed.pages reached.held asked
        rw [reached.page fixed] at page
        have read : Reached collation catalog Held
            (progress.called (.stationDocuments progress.cursor pageSize (.ok documents)) world) done
            (documents ++ rest.drop pageSize) := by
          refine ⟨?_,held,reached.cursor,reached.counted,reached.wrote.read rfl⟩
          rw [page,List.take_append_drop,reached.split]
        cases documents with
        | nil =>
          have none_left : rest = [] := (List.take_eq_nil_iff.mp page.symm).resolve_left (ne_of_gt positive)
          subst none_left
          rw [List.drop_nil] at read
          exact ⟨_,rfl,read.covers,fun _ => ⟨_,rfl⟩⟩
        | cons document documents =>
          have some_left : 0 < rest.length := by
            rw [← List.take_append_drop pageSize rest,← page]
            exact Nat.succ_pos _
          have sizes := congrArg List.length page
          rw [List.length_take] at sizes
          rcases page_reached fixed read with ⟨next,stored,reached⟩ | ⟨fails,error,next,failed,broken⟩
          · simp only [List.isEmpty_cons,Bool.false_eq_true,if_false,stored]
            split
            · rename_i short
              have none_left : rest.drop pageSize = [] := List.drop_eq_nil_of_le (by omega)
              rw [none_left] at reached
              exact ⟨_,rfl,reached.covers,fun _ => ⟨_,rfl⟩⟩
            · refine ih reached ?_
              rw [List.length_drop]
              omega
          · simp only [List.isEmpty_cons,Bool.false_eq_true,if_false,failed]
            exact ⟨_,rfl,broken,fun unfailing => absurd unfailing fails⟩

end coverage

section postgres
variable {W V : Type}

-- A provider that gives each text one answer.
def answering (summary : String) (provider : Provider V) : EmbeddingProvider W V where
  embedDocument text world := ((provider text).elim (.error ⟨summary⟩) .ok,world)

def postgresStore (collation : Collation) : EmbeddingStore (EmbeddingDb V) V where
  stationDocuments afterStationId limit db :=
    ((stationDocuments collation afterStationId limit db).elim (.error ⟨"embedding page size exceeded bigint"⟩) .ok,db)
  upsertEmbedding stationId embedding db := match upsertEmbedding stationId embedding db with
    | some stored => (.ok (),stored)
    | none => (.error ⟨if embedding.provenance.dimension < 2 ^ 31 then "PostgreSQL embedding upsert failed"
        else "embedding dimension exceeded integer"⟩,db)

def documentsOf (db : EmbeddingDb V) : List StationEmbeddingDocument :=
  db.stations.toList.map fun entry => ⟨entry.1,entry.2.searchableText⟩

variable {collation : Collation} {provider : Provider V} {summary : String} {db : EmbeddingDb V}

-- Storing embeddings leaves the stations as they are.
theorem postgres_fixed : FixedCatalog collation (answering summary provider) (postgresStore collation) (documentsOf db)
    fun other => other.stations = db.stations where
  distinct := by
    rw [documentsOf,List.map_map]
    exact Table.keys_distinct
  pages := by
    intro cursor limit world world' documents same answered
    simp only [postgresStore,stationDocuments,same] at answered
    split at answered
    · cases answered
      exact ⟨rfl,same⟩
    · cases answered
  embeds := by
    intro text world world' embedding same answered
    have stays : world = world' := congrArg Prod.snd answered
    rwa [← stays]
  upserts := by
    intro stationId embedding world world' same answered
    simp only [postgresStore,upsertEmbedding] at answered
    split at answered
    · rename_i stored
      split at stored
      · cases stored
        cases answered
        exact same
      · cases stored
    · cases answered

-- A page of a bigint and vectors of an integer's dimension are never refused.
theorem postgres_unfailing {size : Nat} (small : size < 2 ^ 63) (answers : ∀ document ∈ documentsOf db, ∃ embedding,
    provider document.text = some embedding ∧ embedding.provenance.dimension < 2 ^ 31) :
    Unfailing (answering summary provider) (postgresStore collation) (documentsOf db) size fun other => other.stations = db.stations where
  pages := by
    intro cursor world _
    simp only [postgresStore,stationDocuments,if_pos small]
    exact ⟨_,_,rfl⟩
  embeds := by
    intro document world _ listed
    obtain ⟨embedding,told,_⟩ := answers document listed
    exact ⟨embedding,world,by simp only [answering,told,Option.elim_some]⟩
  upserts := by
    intro document embedding world world' same listed answered
    obtain ⟨other,told,bounded⟩ := answers document listed
    simp only [answering,told,Option.elim_some] at answered
    cases answered
    obtain ⟨entry,stored,rfl⟩ := List.mem_map.mp listed
    have there : world.stations[entry.1]? = some entry.2 := same ▸ Table.mem_entries.mp stored
    simp only [postgresStore,upsertEmbedding,there,Option.isSome_some,Bool.true_and,decide_eq_true_eq,if_pos bounded]
    exact ⟨_,rfl⟩

end postgres

-- Every run ends. It ends well where no call fails, and however it ends, each station
-- up to there is stored once, in the order of ids.
theorem backfill_covers {W V : Type} (collation : Collation) (provider : EmbeddingProvider W V) (store : EmbeddingStore W V)
    (catalog : List StationEmbeddingDocument) (pageSize : Nat) (Held : W → Prop)
    (fixed : FixedCatalog collation provider store catalog Held) (world : W) (held : Held world) (turns : Nat)
    (enough : catalog.length < turns) :
    ∃ ended, run provider store pageSize turns world = some ended ∧ Covers collation catalog (max pageSize 1) ended ∧
      (Unfailing provider store catalog (max pageSize 1) Held → ∃ result, ended.1 = .ok result) := by
  exact runFrom_covers fixed (Nat.le_max_right pageSize 1) (start_reached held) (by rwa [length_inOrder])

-- The stations of a release, in the database.
def twoStations : EmbeddingDb String :=
  (CatalogImport.activateSharedCatalog (fun _ _ => false) Search.Letters.englishRussian 6 0 CatalogImport.earlierCatalog .empty).2

theorem backfill_covers_two : ∃ progress,
    run (answering "offline" telling) (postgresStore bytewise) 0 3 twoStations = some (.ok ⟨2,2⟩,progress) ∧
    upserted progress.calls = ["jazz","old-jazz"] := by
  have listed : (documentsOf twoStations).length = 2 := by decide +kernel
  obtain ⟨⟨answer,progress⟩,ran,covers,well⟩ := backfill_covers bytewise (answering "offline" telling) (postgresStore bytewise)
    (documentsOf twoStations) 0 (fun other => other.stations = twoStations.stations) postgres_fixed twoStations rfl 3 (by omega)
  obtain ⟨result,ended⟩ := well (postgres_unfailing (by decide) fun _ _ => ⟨_,rfl,(by decide : 1 < 2 ^ 31)⟩)
  simp only at ended
  subst ended
  obtain ⟨counts,ids,_⟩ := covers
  exact ⟨progress,by rw [ran,counts,listed],ids.trans (by decide +kernel)⟩

end EmbeddingBackfill
