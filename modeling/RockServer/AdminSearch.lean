import RockServer.SqlLike
import RockServer.StationRepositories

namespace Search
open CatalogImport

variable {E : Type}

-- The letters of a lowercased text are lower case themselves, beside those of ASCII.
def Idempotent (unicode : Unicode) : Prop := ∀ source text : String,
  (∀ c ∈ text.toList, c ∈ (unicode.toLowercase source).toList ∨ c.toNat < 128 ∧ ¬ ('A' ≤ c ∧ c ≤ 'Z')) →
    unicode.toLowercase text = text

def containsText (unicode : Unicode) (query : String) (station : Station) : Bool :=
  (station.name :: station.tags).any fun text => decide ((unicode.toLowercase query).toList <:+: (unicode.toLowercase text).toList)

-- The stations with the text in their name or in a tag, after the cursor, in the
-- order of their ids.
def literalPage (unicode : Unicode) (stations : List Station) (query cursor : Option String) (limit : Nat) : List Station :=
  ((Keyset.sorted Station.id stations).filter fun station =>
    query.all (fun query => containsText unicode query station) && cursor.all (· < station.id)).take limit

def activeRows (db : CatalogDb E) : List CatalogRow := (catalogRows db).filter fun row => row.station.retiredAt.isNone

-- Memory and tables hold one active catalog.
def SameCatalog (repository : PostgresStationRepository E) (memory : InMemoryStationRepository) : Prop :=
  memory.stations.Perm ((activeRows repository.db).map CatalogRow.toStation)

-- The database's letters and order are those of the standard library on the data.
structure Agrees (unicode : Unicode) (repository : PostgresStationRepository E) (query cursor : Option String) : Prop where
  lower : ∀ text, (text ∈ query ∨ ∃ row ∈ activeRows repository.db, text = row.station.name ∨ text ∈ row.station.tags) →
    repository.lower text = unicode.toLowercase text
  like : ∀ text pattern, repository.like text pattern = SqlLike.like text.toList pattern.toList
  order : ∀ id other, (id ∈ cursor ∨ ∃ row ∈ activeRows repository.db, row.id = id) →
    (other ∈ cursor ∨ ∃ row ∈ activeRows repository.db, row.id = other) → (repository.collation.lt id other ↔ id < other)

variable {unicode : Unicode} {repository : PostgresStationRepository E} {memory : InMemoryStationRepository}
variable {query cursor : Option String} {text name : String} {limit : Nat} {row : CatalogRow}

theorem listAdmin_memory (distinct : (memory.stations.map Station.id).Nodup) :
    memory.listAdmin unicode query cursor limit = literalPage unicode memory.stations query cursor limit := by
  have narrow : ∀ p : Station → Bool, ((memory.stations.filter p).map Station.id).Nodup := fun p =>
    distinct.sublist (List.filter_sublist.map _)
  rw [InMemoryStationRepository.listAdmin,literalPage,Keyset.page_eq (narrow _),Keyset.sorted_filter distinct,List.filter_filter]
  congr 1
  refine List.filter_congr fun station _ => ?_
  rw [Bool.and_comm]
  congr 1
  cases query with
  | none => rfl
  | some query => rfl

theorem active_distinct {db : CatalogDb E} (sound : Sound db) : ((activeRows db).map CatalogRow.id).Nodup :=
  (catalogRows_distinct sound).sublist (List.filter_sublist.map _)

def fitsPattern (repository : PostgresStationRepository E) (query : Option String) (row : CatalogRow) : Bool :=
  query.all fun query => repository.matchesText query row.station.name || row.station.tags.any (repository.matchesText query)

theorem listAdmin_tables (sound : Sound repository.db) (agrees : Agrees unicode repository query cursor) :
    repository.listAdmin query cursor limit = ((Keyset.page CatalogRow.id ((activeRows repository.db).filter (fitsPattern repository query))
      cursor (if limit < 2 ^ 63 then limit else 50))).map CatalogRow.toStation := by
  unfold PostgresStationRepository.listAdmin PostgresStationRepository.page
  have rows : ((catalogRows repository.db).filter fun row => row.station.retiredAt.isNone && query.all fun query =>
      repository.matchesText query row.station.name || row.station.tags.any (repository.matchesText query)) =
      (activeRows repository.db).filter (fitsPattern repository query) := by
    rw [activeRows,List.filter_filter]
    exact List.filter_congr fun row _ => Bool.and_comm _ _
  rw [rows]
  congr 1
  refine Keyset.page_agree ((active_distinct sound).sublist (List.filter_sublist.map _)) fun id other known known' => ?_
  have active : ∀ {id : String}, (id ∈ cursor ∨ ∃ row ∈ (activeRows repository.db).filter (fitsPattern repository query), row.id = id) →
      id ∈ cursor ∨ ∃ row ∈ activeRows repository.db, row.id = id := by
    intro id known
    refine known.imp_right fun ⟨row,member,same⟩ => ?_
    exact ⟨row,List.mem_of_mem_filter member,same⟩
  exact agrees.order id other (active known) (active known')

theorem matchesText_plain (plain : SqlLike.Plain (unicode.toLowercase text).toList)
    (agrees : Agrees unicode repository (some text) cursor)
    (member : row ∈ activeRows repository.db) (held : name = row.station.name ∨ name ∈ row.station.tags) :
    repository.matchesText text name = decide ((unicode.toLowercase text).toList <:+: (unicode.toLowercase name).toList) := by
  rw [PostgresStationRepository.matchesText,agrees.lower text (.inl rfl),agrees.lower name (.inr ⟨row,member,held⟩),agrees.like,
    Bool.eq_iff_iff,decide_eq_true_eq,← SqlLike.like_within plain]
  simp

theorem fits_plain (plain : ∀ text ∈ query, SqlLike.Plain (unicode.toLowercase text).toList)
    (agrees : Agrees unicode repository query cursor) (member : row ∈ activeRows repository.db) :
    fitsPattern repository query row = query.all fun query => containsText unicode query row.toStation := by
  cases query with
  | none => rfl
  | some text =>
    have name := matchesText_plain (plain text rfl) agrees member (.inl rfl)
    have tags : row.station.tags.any (repository.matchesText text) = row.station.tags.any fun tag =>
        decide ((unicode.toLowercase text).toList <:+: (unicode.toLowercase tag).toList) := by
      rw [Bool.eq_iff_iff,List.any_eq_true,List.any_eq_true]
      refine exists_congr fun tag => and_congr_right fun listed => ?_
      rw [matchesText_plain (plain text rfl) agrees member (.inr listed)]
    rw [fitsPattern,Option.all_some,Option.all_some,containsText,List.any_cons,name,tags]
    rfl

theorem memory_distinct (sound : Sound repository.db) (same : SameCatalog repository memory) :
    (memory.stations.map Station.id).Nodup := by
  rw [(same.map Station.id).nodup_iff,List.map_map]
  exact active_distinct sound

theorem listAdmin_literal (plain : ∀ text ∈ query, SqlLike.Plain (unicode.toLowercase text).toList) (range : limit < 2 ^ 63)
    (sound : Sound repository.db) (same : SameCatalog repository memory) (agrees : Agrees unicode repository query cursor) :
    repository.listAdmin query cursor limit = memory.listAdmin unicode query cursor limit := by
  rw [listAdmin_tables sound agrees,if_pos range,@Keyset.page_map _ _ CatalogRow.id _ _ _ _ _ Station.id _ fun _ => rfl]
  have rows : ((activeRows repository.db).filter (fitsPattern repository query)).map CatalogRow.toStation =
      ((activeRows repository.db).map CatalogRow.toStation).filter fun station => query.all (containsText unicode · station) := by
    rw [List.filter_map]
    congr 1
    exact List.filter_congr fun row member => fits_plain plain agrees member
  have distinct := memory_distinct sound same
  have narrow : ((memory.stations.filter fun station => query.all (containsText unicode · station)).map Station.id).Nodup :=
    distinct.sublist (List.filter_sublist.map _)
  rw [rows,← Keyset.page_perm narrow (same.filter _)]
  cases query with
  | none => rfl
  | some text => rfl

-- A catalog of stations that share a name.
def shelfId (i : Nat) : String := String.ofList (List.replicate i 's')

def shelfStation (name : String) (i : Nat) : StationRow := ⟨name,none,[],none,none,"shelf",shelfId i,name,7,none⟩

def shelfStream (i : Nat) : StreamRow := ⟨shelfId i,"https://streams.example.com/shelf.mp3",none,none,.unknown,none,none,true,7,none⟩

def shelf (E : Type) (name : String) (n : Nat) : CatalogDb E :=
  {CatalogDb.empty with
    stations := Std.ExtTreeMap.ofList ((List.range n).map fun i => (shelfId i,shelfStation name i))
    streams := Std.ExtTreeMap.ofList ((List.range n).map fun i => ((⟨"shelf",shelfId i⟩ : SourceKey),shelfStream i))}

def shelfRepository (E : Type) (unicode : Unicode) (name : String) (n : Nat) : PostgresStationRepository E :=
  ⟨shelf E name n,inferInstance,unicode.toLowercase,fun text pattern => SqlLike.like text.toList pattern.toList⟩

def shelfMemory (E : Type) (name : String) (n : Nat) : InMemoryStationRepository :=
  ⟨(activeRows (shelf E name n)).map CatalogRow.toStation⟩

section shelf
variable {n i : Nat} {id : String}

theorem shelfId_inj {i j : Nat} (same : shelfId i = shelfId j) : i = j := by
  have letters := congrArg (fun text => text.toList.length) same
  simpa [shelfId] using letters

theorem shelfKey_inj {i j : Nat} (same : (⟨"shelf",shelfId i⟩ : SourceKey) = ⟨"shelf",shelfId j⟩) : i = j :=
  shelfId_inj (SourceKey.mk.inj same).2

theorem shelf_station {station : StationRow} (stored : (shelf E name n).stations[id]? = some station) :
    ∃ i < n, id = shelfId i ∧ station = shelfStation name i := by
  obtain ⟨i,inside,rfl⟩ := Table.numbered_some stored
  have same := stored.symm.trans (Table.get_numbered shelfId_inj inside)
  exact ⟨i,inside,rfl,Option.some.inj same⟩

theorem shelf_stream {key : SourceKey} {stream : StreamRow} (stored : (shelf E name n).streams[key]? = some stream) :
    ∃ i < n, key = ⟨"shelf",shelfId i⟩ ∧ stream = shelfStream i := by
  obtain ⟨i,inside,rfl⟩ := Table.numbered_some stored
  have same := stored.symm.trans (Table.get_numbered shelfKey_inj inside)
  exact ⟨i,inside,rfl,Option.some.inj same⟩

theorem shelf_sound : Sound (shelf E name n) := by
  constructor
  case identity =>
    intro id other row row' found found' _ inner
    obtain ⟨i,_,rfl,rfl⟩ := shelf_station found
    obtain ⟨j,_,rfl,rfl⟩ := shelf_station found'
    exact inner
  case named =>
    intro id row found _
    obtain ⟨i,_,rfl,rfl⟩ := shelf_station found
    rfl
  case home =>
    intro key row found
    obtain ⟨i,inside,rfl,rfl⟩ := shelf_stream found
    exact ⟨shelfStation name i,Table.get_numbered shelfId_inj inside,rfl⟩
  case onePrimary =>
    intro key other row row' found found' _ _ home
    obtain ⟨i,_,rfl,rfl⟩ := shelf_stream found
    obtain ⟨j,_,rfl,rfl⟩ := shelf_stream found'
    exact congrArg (SourceKey.mk "shelf") home
  case withdrawn =>
    intro key row found gone
    obtain ⟨i,_,rfl,rfl⟩ := shelf_stream found
    exact absurd rfl gone
  case retired =>
    intro id row found gone
    obtain ⟨i,_,rfl,rfl⟩ := shelf_station found
    exact absurd rfl gone
  case rates =>
    intro key row found rate given
    obtain ⟨i,_,rfl,rfl⟩ := shelf_stream found
    cases given

theorem shelf_row (member : row ∈ activeRows (shelf E name n)) : ∃ i < n, row.id = shelfId i ∧ row.station = shelfStation name i := by
  obtain ⟨_,stream,_,_,station,found,rfl⟩ := mem_catalogRows.mp (List.mem_of_mem_filter member)
  obtain ⟨i,inside,named,rfl⟩ := shelf_station found
  exact ⟨i,inside,named,rfl⟩

theorem shelf_size : (activeRows (shelf E name n)).length = n := by
  have ids : ((activeRows (shelf E name n)).map CatalogRow.id).Perm ((List.range n).map shelfId) := by
    rw [List.perm_ext_iff_of_nodup (active_distinct shelf_sound) (List.nodup_range.map fun i j => shelfId_inj)]
    intro id
    rw [List.mem_map,List.mem_map]
    constructor
    · intro ⟨row,member,same⟩
      obtain ⟨i,inside,named,_⟩ := shelf_row member
      exact ⟨i,List.mem_range.mpr inside,named.symm.trans same⟩
    · intro ⟨i,inside,same⟩
      have known := List.mem_range.mp inside
      refine ⟨_,List.mem_filter.mpr ⟨mem_catalogRows.mpr ⟨⟨"shelf",shelfId i⟩,shelfStream i,Table.get_numbered shelfKey_inj known,rfl,
        shelfStation name i,Table.get_numbered shelfId_inj known,rfl⟩,rfl⟩,same⟩
  simpa using ids.length_eq

theorem shelf_agrees {cursor : Option String} : Agrees unicode (shelfRepository E unicode name n) query cursor :=
  ⟨fun _ _ => rfl,fun _ _ => rfl,fun _ _ _ _ => Iff.rfl⟩

-- The database lists the whole shelf where the pattern fits the name.
theorem shelf_tables (fits : ∀ text ∈ query, (shelfRepository E unicode name n).matchesText text name = true) :
    ((shelfRepository E unicode name n).listAdmin query none limit).length = min (if limit < 2 ^ 63 then limit else 50) n := by
  have all : (activeRows (shelf E name n)).filter (fitsPattern (shelfRepository E unicode name n) query) = activeRows (shelf E name n) := by
    rw [List.filter_eq_self]
    intro row member
    obtain ⟨i,_,_,station⟩ := shelf_row member
    cases query with
    | none => rfl
    | some text => simp [fitsPattern,station,shelfStation,fits text rfl]
  rw [listAdmin_tables shelf_sound shelf_agrees,List.length_map,Keyset.length_page]
  exact congrArg (min _) ((congrArg List.length all).trans shelf_size)

theorem shelf_memory {found : Bool} (holds : ∀ station ∈ (shelfMemory E name n).stations,
      query.all (containsText unicode · station) = found) :
    ((shelfMemory E name n).listAdmin unicode query none limit).length = min limit (if found then n else 0) := by
  have size : (shelfMemory E name n).stations.length = n := (List.length_map _).trans shelf_size
  have chosen : ((shelfMemory E name n).stations.filter fun station => query.all (containsText unicode · station)).length =
      if found then n else 0 := by
    cases found with
    | true =>
      rw [List.filter_eq_self.mpr holds]
      exact size
    | false =>
      rw [List.filter_eq_nil_iff.mpr fun station member => by simp [holds station member]]
      rfl
  have whole : (Keyset.page Station.id ((shelfMemory E name n).stations.filter fun station => query.all (containsText unicode · station))
      none limit).length = min limit _ := Keyset.length_page
  rw [chosen] at whole
  cases query with
  | none => exact whole
  | some text => exact whole

theorem shelf_station_text {station : Station} (member : station ∈ (shelfMemory E name n).stations) (text : String) :
    containsText unicode text station = decide ((unicode.toLowercase text).toList <:+: (unicode.toLowercase name).toList) := by
  obtain ⟨row,listed,rfl⟩ := List.mem_map.mp member
  obtain ⟨i,_,_,held⟩ := shelf_row listed
  simp [containsText,CatalogRow.toStation,held,shelfStation]

end shelf

-- A query with special characters fits the name of the shortest text it stands for,
-- and that name does not contain it.
theorem plain_needed (settled : Idempotent unicode) (positive : 0 < limit)
    (same : ∀ name, ((shelfRepository E unicode name 1).listAdmin (some text) none limit).length =
      ((shelfMemory E name 1).listAdmin unicode (some text) none limit).length) : SqlLike.Plain (unicode.toLowercase text).toList := by
  by_contra special
  let name := String.ofList (SqlLike.simplest false (unicode.toLowercase text).toList)
  have letters : name.toList = SqlLike.simplest false (unicode.toLowercase text).toList := String.toList_ofList
  have small : unicode.toLowercase name = name := by
    refine settled text name fun c member => ?_
    rw [letters] at member
    refine (SqlLike.simplest_letters member).imp_right fun ascii => ?_
    rcases ascii with rfl | rfl <;> decide
  have fits : (shelfRepository E unicode name 1).matchesText text name = true := by
    change SqlLike.like (unicode.toLowercase name).toList ("%" ++ unicode.toLowercase text ++ "%").toList = true
    have pattern : ("%" ++ unicode.toLowercase text ++ "%").toList = '%' :: ((unicode.toLowercase text).toList ++ ['%']) := by simp
    rw [small,letters,pattern,SqlLike.like,SqlLike.likeFrom,if_neg (by decide),if_pos rfl,List.any_eq_true]
    exact ⟨_,(List.mem_tails _ _).mpr (List.suffix_refl _),SqlLike.like_simplest⟩
  have absent : ∀ station ∈ (shelfMemory E name 1).stations, (some text).all (containsText unicode · station) = false := by
    intro station member
    rw [Option.all_some,shelf_station_text member,small,letters,decide_eq_false_iff_not]
    exact SqlLike.simplest_apart special
  have lengths := same name
  rw [shelf_tables fun _ held => Option.mem_some.mp held ▸ fits,shelf_memory absent] at lengths
  simp only [Bool.false_eq_true,if_false] at lengths
  split at lengths <;> omega

theorem range_needed (plain : ∀ text ∈ query, SqlLike.Plain (unicode.toLowercase text).toList)
    (same : ∀ name, ((shelfRepository E unicode name 51).listAdmin query none limit).length =
      ((shelfMemory E name 51).listAdmin unicode query none limit).length) : limit < 2 ^ 63 := by
  by_contra beyond
  have fits : ∀ text ∈ query, (shelfRepository E unicode (query.getD "") 51).matchesText text (query.getD "") = true := by
    intro text held
    cases held
    change SqlLike.like (unicode.toLowercase text).toList ("%" ++ unicode.toLowercase text ++ "%").toList = true
    have pattern : ("%" ++ unicode.toLowercase text ++ "%").toList = '%' :: ((unicode.toLowercase text).toList ++ ['%']) := by simp
    exact pattern ▸ (SqlLike.like_within (plain text rfl)).mpr (List.infix_refl _)
  have found : ∀ station ∈ (shelfMemory E (query.getD "") 51).stations, query.all (containsText unicode · station) = true := by
    intro station member
    cases query with
    | none => rfl
    | some text =>
      rw [Option.all_some,shelf_station_text member,decide_eq_true_eq]
      exact List.infix_refl _
  have lengths := same (query.getD "")
  rw [shelf_tables fits,shelf_memory found,if_neg beyond,if_pos rfl] at lengths
  omega

-- Tables and memory list the same stations, those with the query in a name or a tag,
-- exactly for queries without the special characters of patterns and limits that
-- the database can take.
theorem admin_search_literal (unicode : Unicode) (settled : Idempotent unicode) (query : Option String) (limit : Nat) :
    (∀ (repository : PostgresStationRepository E) (memory : InMemoryStationRepository) (cursor : Option String),
      Sound repository.db → SameCatalog repository memory → Agrees unicode repository query cursor →
        repository.listAdmin query cursor limit = literalPage unicode memory.stations query cursor limit ∧
        memory.listAdmin unicode query cursor limit = literalPage unicode memory.stations query cursor limit) ↔
    limit = 0 ∨ limit < 2 ^ 63 ∧ ∀ text ∈ query, SqlLike.Plain (unicode.toLowercase text).toList := by
  constructor
  · intro all
    have same : ∀ name n, ((shelfRepository E unicode name n).listAdmin query none limit).length =
        ((shelfMemory E name n).listAdmin unicode query none limit).length := by
      intro name n
      obtain ⟨tables,inside⟩ := all (shelfRepository E unicode name n) (shelfMemory E name n) none shelf_sound (List.Perm.refl _) shelf_agrees
      rw [tables,inside]
    rcases Nat.eq_zero_or_pos limit with zero | positive
    · exact .inl zero
    · have plain : ∀ text ∈ query, SqlLike.Plain (unicode.toLowercase text).toList := by
        intro text held
        cases held
        exact plain_needed settled positive fun name => same name 1
      exact .inr ⟨range_needed plain fun name => same name 51,plain⟩
  · intro fine repository memory cursor sound catalog agrees
    have inside := @listAdmin_memory unicode memory query cursor limit (memory_distinct sound catalog)
    refine ⟨?_,inside⟩
    rcases fine with rfl | ⟨range,plain⟩
    · rw [listAdmin_tables sound agrees,if_pos (by decide),literalPage,Keyset.page,List.take_zero,List.take_zero,List.map_nil]
    · rw [listAdmin_literal plain range sound catalog agrees,inside]

section letters
open Letters (small englishRussian small_ascii small_small)

theorem letters_settled : Idempotent englishRussian := by
  intro source text letters
  have same : text.toList.map small = text.toList := by
    refine (List.map_congr_left fun c member => ?_).trans (List.map_id _)
    rcases letters c member with lowered | ⟨ascii,other⟩
    · change c ∈ (String.ofList (source.toList.map small)).toList at lowered
      rw [String.toList_ofList] at lowered
      obtain ⟨d,_,rfl⟩ := List.mem_map.mp lowered
      exact small_small d
    · exact small_ascii ascii other
  change String.ofList (text.toList.map small) = text
  rw [same,String.ofList_toList]

theorem jazz_plain : SqlLike.Plain "jazz".toList := by
  have plain : "jazz".toList.all (fun c => decide (c ≠ '%' ∧ c ≠ '_' ∧ c ≠ '\\')) = true := by decide
  exact fun c inside => of_decide_eq_true (List.all_eq_true.mp plain c inside)

theorem admin_search_literal_jazz :
    (shelfRepository Nat englishRussian "Jazz FM" 2).listAdmin (some "jazz") none 20 =
      literalPage englishRussian (shelfMemory Nat "Jazz FM" 2).stations (some "jazz") none 20 :=
  ((admin_search_literal englishRussian letters_settled (some "jazz") 20).mpr
    (.inr ⟨by decide,fun text held => Option.mem_some.mp held ▸ jazz_plain⟩)
    (shelfRepository Nat englishRussian "Jazz FM" 2) (shelfMemory Nat "Jazz FM" 2) none shelf_sound (List.Perm.refl _) shelf_agrees).1

-- A percent sign finds every station of the tables, and none in memory.
theorem percent_lists : ¬ ∀ (unicode : Unicode) (repository : PostgresStationRepository Nat) (memory : InMemoryStationRepository)
    (query cursor : Option String) (limit : Nat), Sound repository.db → SameCatalog repository memory → Agrees unicode repository query cursor →
      repository.listAdmin query cursor limit = memory.listAdmin unicode query cursor limit := by
  intro all
  have same := all englishRussian (shelfRepository Nat englishRussian "Jazz FM" 1) (shelfMemory Nat "Jazz FM" 1) (some "%") none 20
    shelf_sound (List.Perm.refl _) shelf_agrees
  have lengths := congrArg List.length same
  have absent : ∀ station ∈ (shelfMemory Nat "Jazz FM" 1).stations, (some "%").all (containsText englishRussian · station) = false := by
    intro station member
    rw [Option.all_some,shelf_station_text member]
    decide
  rw [shelf_tables fun _ held => Option.mem_some.mp held ▸ by decide,shelf_memory absent] at lengths
  exact absurd lengths (by decide)

end letters

end Search
