import RockServer.CatalogRuns

-- What becomes of a retired identity: the answer of a release, and of the tables
-- that it was activated in.
namespace CatalogImport
open DeviceControl (Uuid Instant)
open Egress (UrlLibrary)
open Search (Unicode)

-- A merge without a replacement would panic.
def lookupSharedCatalogReplacement {E : Type} (refuses : Refuses E) (stationId : String) (db : CatalogDb E) :
    Outcome (Option CatalogReplacement) := do
  let row ← query refuses "PostgreSQL tombstone lookup failed" db db.tombstones[(⟨rockcatalogSource,stationId⟩ : SourceKey)]?
  match row with
  | none => .ok (some .unknown)
  | some row =>
    if row.reason = "removed" then .ok (some .removed)
    else if row.reason = "merged" then .ok (row.replacementIds.head?.map .redirect)
    else if row.reason = "split" then .ok (some (.ambiguous row.replacementIds))
    else failing "PostgreSQL tombstone data was invalid"

-- Every identity that an answer names is an active station.
def LeadsToLive (catalog : PinnedSharedCatalog) (answers : String → CatalogReplacement → Prop) : Prop := ∀ id,
  (∀ target, answers id (.redirect target) → target ∈ catalog.stations.map (·.id)) ∧
  ∀ targets, answers id (.ambiguous targets) → ∀ target ∈ targets, target ∈ catalog.stations.map (·.id)

def Unchained (catalog : PinnedSharedCatalog) : Prop := ∀ tombstone ∈ catalog.tombstones, ∀ id ∈ tombstone.replacementIds,
  id ∉ catalog.tombstones.map (·.id)

variable {E : Type} {refuses : Refuses E} {library : UrlLibrary} {unicode : Unicode} {run : Uuid} {now : Instant}
variable {db db' : CatalogDb E} {catalog : PinnedSharedCatalog} {document : CatalogDocument} {version : String}
variable {tombstone : ImportedTombstone} {id : String}

-- The answer for one tombstone, in the release and in its row.
def ImportedTombstone.answer (tombstone : ImportedTombstone) : Option CatalogReplacement := match tombstone.reason with
  | .merged => tombstone.replacementIds.head?.map .redirect
  | .split => some (.ambiguous tombstone.replacementIds)
  | .removed => some .removed

theorem replacementFor_retired (valid : catalog.Valid) (member : tombstone ∈ catalog.tombstones) :
    catalog.replacementFor tombstone.id = tombstone.answer := by
  unfold PinnedSharedCatalog.replacementFor
  cases found : catalog.tombstones.find? (·.id = tombstone.id) with
  | none =>
    have missed := List.find?_eq_none.mp found tombstone member
    simp at missed
  | some other =>
    have same : other.id = tombstone.id := by simpa using List.find?_some found
    rw [List.inj_on_of_nodup_map valid.retired (List.mem_of_find?_eq_some found) member same]
    rfl

theorem replacementFor_unknown (absent : id ∉ catalog.tombstones.map (·.id)) : catalog.replacementFor id = some .unknown := by
  unfold PinnedSharedCatalog.replacementFor
  have missed : catalog.tombstones.find? (·.id = id) = none := by
    rw [List.find?_eq_none]
    intro tombstone member
    simpa using fun same => absent (List.mem_map.mpr ⟨tombstone,member,same⟩)
  rw [missed]

-- An answer of a release comes from a tombstone that replaces by what it names.
theorem answers_live (valid : catalog.Valid) : LeadsToLive catalog (fun id answer => catalog.replacementFor id = some answer) ↔
    Unchained catalog := by
  constructor
  · intro live tombstone member id replaces retired
    have own := replacementFor_retired valid member
    have active : id ∈ catalog.stations.map (·.id) := by
      cases reason : tombstone.reason with
      | removed =>
        rw [valid.removed tombstone member reason] at replaces
        cases replaces
      | merged =>
        obtain ⟨sole,only⟩ := List.length_eq_one_iff.mp (valid.merged tombstone member reason)
        refine (live tombstone.id).1 id (own.trans ?_)
        rw [only] at replaces
        rw [ImportedTombstone.answer,reason,only,List.mem_singleton.mp replaces]
        rfl
      | split =>
        refine (live tombstone.id).2 tombstone.replacementIds (own.trans ?_) id replaces
        rw [ImportedTombstone.answer,reason]
    obtain ⟨other,listed,same⟩ := List.mem_map.mp retired
    exact valid.apart other listed (same.symm ▸ active)
  · intro unchained id
    have named : ∀ answer target, catalog.replacementFor id = some answer →
        (answer = .redirect target ∨ ∃ targets, answer = .ambiguous targets ∧ target ∈ targets) →
        target ∈ catalog.stations.map (·.id) := by
      intro answer target answered names
      by_cases retired : id ∈ catalog.tombstones.map (·.id)
      · obtain ⟨tombstone,member,rfl⟩ := List.mem_map.mp retired
        rw [replacementFor_retired valid member] at answered
        have replaces : target ∈ tombstone.replacementIds := by
          unfold ImportedTombstone.answer at answered
          split at answered
          · obtain ⟨sole,head,rfl⟩ := Option.map_eq_some_iff.mp answered
            rcases names with same | ⟨_,same,_⟩
            · cases same
              exact List.mem_of_mem_head? head
            · cases same
          · cases answered
            rcases names with same | ⟨_,same,member⟩
            · cases same
            · cases same
              exact member
          · cases answered
            rcases names with same | ⟨_,same,_⟩ <;> cases same
        exact (valid.known tombstone member target replaces).resolve_right (unchained tombstone member target replaces)
      · rw [replacementFor_unknown retired] at answered
        cases answered
        rcases names with same | ⟨_,same,_⟩ <;> cases same
    exact ⟨fun target answered => named _ target answered (.inl rfl),
      fun targets answered target member => named _ target answered (.inr ⟨targets,rfl,member⟩)⟩

theorem lookup_retired {row : TombstoneRow} (stored : db.tombstones[(⟨rockcatalogSource,id⟩ : SourceKey)]? = some row)
    (same : row = ⟨tombstone.reason.asStr,tombstone.replacementIds,version⟩) (answers : refuses "PostgreSQL tombstone lookup failed" db = false) :
    lookupSharedCatalogReplacement refuses id db = .ok tombstone.answer := by
  subst same
  unfold lookupSharedCatalogReplacement query ImportedTombstone.answer
  rw [answers,stored]
  cases tombstone.reason <;> rfl

-- After an activation the tables answer as the release does.
theorem lookup_activated (valid : catalog.Valid) (done : Activated unicode run catalog db db')
    (answers : refuses "PostgreSQL tombstone lookup failed" db' = false) :
    lookupSharedCatalogReplacement refuses id db' = .ok (catalog.replacementFor id) := by
  by_cases retired : id ∈ catalog.tombstones.map (·.id)
  · obtain ⟨tombstone,member,rfl⟩ := List.mem_map.mp retired
    rw [replacementFor_retired valid member]
    exact lookup_retired ((done.tombstones ⟨_,_⟩ _ rfl).mpr ⟨tombstone,member,rfl,rfl⟩) rfl answers
  · rw [replacementFor_unknown retired]
    have absent : db'.tombstones[(⟨rockcatalogSource,id⟩ : SourceKey)]? = none := by
      rw [Option.eq_none_iff_forall_not_mem]
      intro row stored
      obtain ⟨tombstone,member,same,_⟩ := (done.tombstones ⟨_,_⟩ row rfl).mp stored
      exact retired (List.mem_map.mpr ⟨tombstone,member,same⟩)
    unfold lookupSharedCatalogReplacement query
    rw [answers,absent]
    rfl

theorem lookup_answers {answer : CatalogReplacement}
    (answered : lookupSharedCatalogReplacement refuses id db = .ok (some answer)) :
    refuses "PostgreSQL tombstone lookup failed" db = false := by
  obtain ⟨row,asked,_⟩ := bind_ok.mp answered
  unfold query failing at asked
  split at asked
  · cases asked
  · rename_i free
    simpa using free

-- Redirects lead to active stations exactly where no tombstone of the release
-- names another retired identity.
theorem replacements_live (loaded : PinnedSharedCatalog.fromDocument library unicode document version = .ok catalog) :
    (LeadsToLive catalog (fun id answer => catalog.replacementFor id = some answer) ↔ Unchained catalog) ∧
    ∀ (db : CatalogDb E) (refuses : Refuses E) (run : Uuid) (now : Instant), Reachable library unicode AnyBatch db →
      (activateSharedCatalog refuses unicode run now catalog db).1 = .ok run →
      (LeadsToLive catalog (fun id answer => ∃ refuses', lookupSharedCatalogReplacement refuses' id
        (activateSharedCatalog refuses unicode run now catalog db).2 = .ok (some answer)) ↔ Unchained catalog) := by
  have valid := fromDocument_valid loaded
  refine ⟨answers_live valid,fun db refuses run now reachable committed => ?_⟩
  rw [← answers_live valid]
  rcases activate_cases refuses run now (reachable_sound reachable) valid with ⟨started,after,_,_,result,done,_⟩ | ⟨_,_,result,_⟩
  · rw [result]
    have same : ∀ id answer, (∃ refuses', lookupSharedCatalogReplacement refuses' id after = .ok (some answer)) ↔
        catalog.replacementFor id = some answer := by
      intro id answer
      constructor
      · rintro ⟨refuses',answered⟩
        rw [lookup_activated valid done (lookup_answers answered)] at answered
        exact Except.ok.inj answered
      · intro answered
        exact ⟨fun _ _ => false,(lookup_activated valid done rfl).trans (congrArg Except.ok answered)⟩
    simp only [LeadsToLive,same]
  · rw [result] at committed
    cases committed

theorem replacements_live_jazz : LeadsToLive jazzCatalog fun id answer => jazzCatalog.replacementFor id = some answer :=
  (replacements_live (E:=Nat) jazz_loaded).1.mpr (by
    intro tombstone member id replaces
    cases List.mem_singleton.mp member
    cases List.mem_singleton.mp replaces
    decide)

-- A merge into an identity that is retired itself.
def chainedDocument : CatalogDocument :=
  ⟨1,"3",[jazzStation],[⟨"older-jazz","merged",["old-jazz"]⟩,⟨"old-jazz","merged",["jazz"]⟩]⟩

def chainedCatalog : PinnedSharedCatalog :=
  ⟨"3",[ImportedStation.ofCatalog jazzStation],[⟨"older-jazz",.merged,["old-jazz"]⟩,⟨"old-jazz",.merged,["jazz"]⟩]⟩

theorem chained_loaded :
    PinnedSharedCatalog.fromDocument jazzLibrary Search.Letters.englishRussian chainedDocument "3" = .ok chainedCatalog := by
  have checked : validateDocument jazzLibrary Search.Letters.englishRussian chainedDocument = .ok () := by
    refine then_ok.mpr ⟨rfl,then_ok.mpr ⟨rfl,then_ok.mpr ⟨rfl,then_ok.mpr ⟨rfl,demand_ok.mpr ?_⟩⟩⟩⟩
    let graph := [("older-jazz",["old-jazz"]),("old-jazz",["jazz"])]
    have active : ∀ path, "jazz" ∉ path → replacementGraphHasCycle graph path "jazz" = false := fun _ fresh => cycle_leaf fresh rfl
    have second : ∀ path, "old-jazz" ∉ path → "jazz" ∉ path → replacementGraphHasCycle graph path "old-jazz" = false := by
      intro path fresh apart
      rw [cycle_node fresh rfl,List.any_cons,List.any_nil,active _ (by simp [apart])]
      rfl
    have first : replacementGraphHasCycle graph [] "older-jazz" = false := by
      rw [cycle_node List.not_mem_nil rfl,List.any_cons,List.any_nil,second _ (by decide) (by decide)]
      rfl
    rw [List.all_eq_true]
    intro id member
    rcases List.mem_cons.mp member with rfl | member
    · exact congrArg not first
    · rw [List.mem_singleton.mp member]
      exact congrArg not (second [] List.not_mem_nil List.not_mem_nil)
  simp only [PinnedSharedCatalog.fromDocument,checked]
  rfl

theorem replacement_retired :
    PinnedSharedCatalog.fromDocument jazzLibrary Search.Letters.englishRussian chainedDocument "3" = .ok chainedCatalog ∧
    ¬ LeadsToLive chainedCatalog fun id answer => chainedCatalog.replacementFor id = some answer := by
  refine ⟨chained_loaded,fun live => ?_⟩
  have target := (live "older-jazz").1 "old-jazz" rfl
  exact absurd target (by decide)

end CatalogImport
