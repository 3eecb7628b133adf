import RockServer.CatalogReplacements

namespace CatalogImport
open Egress (UrlLibrary)
open Search (Unicode)

-- One replacement edge of a graph.
def Leads (graph : List (String × List String)) (id child : String) : Prop :=
  ∃ children, graph.lookup id = some children ∧ child ∈ children

-- One replacement edge of a document.
def Replaces (document : CatalogDocument) (id child : String) : Prop :=
  ∃ tombstone ∈ document.tombstones, tombstone.id = id ∧ child ∈ tombstone.replacementIds

def Cyclic {α : Type} (edge : α → α → Prop) : Prop := ∃ a, Relation.TransGen edge a a

def CatalogDocument.release (document : CatalogDocument) : PinnedSharedCatalog :=
  ⟨document.catalogVersion,document.stations.map ImportedStation.ofCatalog,document.tombstones.filterMap ImportedTombstone.ofCatalog⟩

-- The column bounds and the check of the table of tombstones.
def tombstoneChecks (tombstone : ImportedTombstone) : Bool :=
  tombstone.id.length ≤ 128 && ["removed","merged","split"].contains tombstone.reason.asStr &&
    (tombstone.reason.asStr = "removed" && tombstone.replacementIds.length = 0 ||
      tombstone.reason.asStr = "merged" && tombstone.replacementIds.length = 1 ||
      tombstone.reason.asStr = "split" && 2 ≤ tombstone.replacementIds.length)

structure ExactDocument (document : CatalogDocument) : Prop where
  stations : (document.stations.map (·.id)).Nodup
  tombstones : (document.tombstones.map (·.id)).Nodup
  apart : ∀ tombstone ∈ document.tombstones, tombstone.id ∉ document.stations.map (·.id)
  primary : ∀ station ∈ document.stations, station.streams.countP (·.primary) = 1
  streams : (document.release.stations.flatMap fun station => station.streams.map (·.sourceStreamId)).Nodup
  sizes : ∀ station ∈ document.release.stations, ∀ stream ∈ station.streams, stream.sourceStreamId.utf8ByteSize ≤ 128
  known : ∀ id child, Replaces document id child → child ∈ document.stations.map (·.id) ∨ child ∈ document.tombstones.map (·.id)
  acyclic : ¬ Cyclic (Replaces document)
  converts : ∀ tombstone ∈ document.tombstones, ImportedTombstone.ofCatalog tombstone ≠ none
  answers : ∀ id, document.release.replacementFor id ≠ none
  stored : (document.release.tombstones.map (·.id)).Nodup ∧ ∀ tombstone ∈ document.release.tombstones, tombstoneChecks tombstone = true
  stops : WellFounded fun next id => document.release.replacementFor id = some (.redirect next)

section graph
variable {graph : List (String × List String)} {path : List String} {id : String}

-- Each id on the path leads to the one that is visited, so that an id met again
-- closes a cycle.
theorem hasCycle_cyclic (behind : ∀ passed ∈ path, Relation.TransGen (Leads graph) passed id)
    (found : replacementGraphHasCycle graph path id = true) : Cyclic (Leads graph) := by
  induction path,id using replacementGraphHasCycle.induct graph with
  | case1 path id met => exact ⟨id,behind id met⟩
  | case2 path id fresh absent =>
    rw [cycle_leaf fresh absent] at found
    cases found
  | case3 path id fresh children listed ih =>
    rw [cycle_node fresh listed,List.any_eq_true] at found
    obtain ⟨child,member,found⟩ := found
    have edge : Leads graph id child := ⟨children,listed,member⟩
    refine ih child (fun passed before => ?_) found
    rcases List.mem_cons.mp before with rfl | before
    · exact .single edge
    · exact (behind passed before).tail edge

theorem no_cycle_ends (none : replacementGraphHasCycle graph path id = false) : Acc (fun next id => Leads graph id next) id := by
  induction path,id using replacementGraphHasCycle.induct graph with
  | case1 path id met =>
    rw [replacementGraphHasCycle,dif_pos met] at none
    cases none
  | case2 path id fresh absent =>
    refine ⟨_,fun next edge => ?_⟩
    obtain ⟨children,listed,_⟩ := edge
    cases absent.symm.trans listed
  | case3 path id fresh children listed ih =>
    rw [cycle_node fresh listed,List.any_eq_false] at none
    refine ⟨_,fun next edge => ?_⟩
    obtain ⟨children',listed',member⟩ := edge
    cases listed.symm.trans listed'
    exact ih next (by simpa using none next member)

theorem accessible_acyclic {α : Type} {edge : α → α → Prop} {a : α} (ends : Acc (fun next a => edge a next) a) :
    ¬ Relation.TransGen edge a a := by
  induction ends with
  | intro a _ ih =>
    intro cycle
    obtain ⟨next,first,rest⟩ := Relation.TransGen.head'_iff.mp cycle
    exact ih next first (Relation.TransGen.tail' rest first)

-- Ids that the graph does not list are leaves.
theorem keys_end (quiet : ∀ key ∈ graph.map Prod.fst, replacementGraphHasCycle graph [] key = false) (id : String) :
    Acc (fun next id => Leads graph id next) id := by
  by_cases key : id ∈ graph.map Prod.fst
  · exact no_cycle_ends (quiet id key)
  · have absent : graph.lookup id = none := by
      rw [List.lookup_eq_none_iff]
      intro entry member
      simpa using fun same => key (List.mem_map.mpr ⟨entry,member,same.symm⟩)
    exact no_cycle_ends (cycle_leaf List.not_mem_nil absent)

theorem hasCycle_exact : (∃ id ∈ graph.map Prod.fst, replacementGraphHasCycle graph [] id = true) ↔ Cyclic (Leads graph) := by
  constructor
  · intro ⟨id,_,found⟩
    exact hasCycle_cyclic (by simp) found
  · intro ⟨id,cycle⟩
    by_contra none
    push Not at none
    exact accessible_acyclic (keys_end (fun key member => by simpa using none key member) id) cycle

end graph

section document
variable {library : UrlLibrary} {unicode : Unicode} {document : CatalogDocument} {tombstone : CatalogTombstone} {id child : String}
variable {tombstones : List CatalogTombstone}

theorem lookup_tombstone (distinct : (tombstones.map (·.id)).Nodup) (member : tombstone ∈ tombstones) :
    (tombstones.map fun tombstone => (tombstone.id,tombstone.replacementIds)).lookup tombstone.id = some tombstone.replacementIds := by
  induction tombstones with
  | nil => cases member
  | cons first rest ih =>
    obtain ⟨fresh,distinct⟩ := List.nodup_cons.mp distinct
    rw [List.map_cons,List.lookup_cons]
    rcases List.mem_cons.mp member with rfl | member
    · simp
    · have apart : tombstone.id ≠ first.id := fun same => fresh (List.mem_map.mpr ⟨tombstone,member,same⟩)
      rw [beq_false_of_ne apart]
      exact ih distinct member

theorem replaces_leads (distinct : (document.tombstones.map (·.id)).Nodup) (edge : Replaces document id child) :
    Leads (document.tombstones.map fun tombstone => (tombstone.id,tombstone.replacementIds)) id child := by
  obtain ⟨tombstone,member,rfl,replaces⟩ := edge
  exact ⟨_,lookup_tombstone distinct member,replaces⟩

theorem imported_checks (shaped : validShape tombstone = true) {imported : ImportedTombstone}
    (became : ImportedTombstone.ofCatalog tombstone = some imported) : tombstoneChecks imported = true := by
  obtain ⟨other,same,id,_,removed,merged,split⟩ := reasonOf_shape shaped
  cases became.symm.trans same
  have short : imported.id.length ≤ 128 := by
    simp only [validShape,validId,Bool.and_eq_true,decide_eq_true_eq] at shaped
    have bytes := shaped.1.1.1.1.1.2
    have chars := (Search.bytes_bounds tombstone.id).1
    rw [id]
    omega
  cases reason : imported.reason with
  | removed => simp [tombstoneChecks,short,reason,TombstoneReason.asStr,removed reason]
  | merged => simp [tombstoneChecks,short,reason,TombstoneReason.asStr,merged reason]
  | split => simp [tombstoneChecks,short,reason,TombstoneReason.asStr,split reason]

theorem stream_size {station : CatalogStation} {stream : CatalogStream} (id : validId station.id 96 = true)
    (inner : validId stream.id 31 = true) : (station.id ++ ":" ++ stream.id).utf8ByteSize ≤ 128 := by
  simp only [validId,Bool.and_eq_true,decide_eq_true_eq] at id inner
  have outer_bytes := id.1.1.1.1.2
  have inner_bytes := inner.1.1.1.1.2
  have colon : (":" : String).utf8ByteSize = 1 := rfl
  rw [String.utf8ByteSize_append,String.utf8ByteSize_append,colon]
  omega

theorem redirect_replaces (shaped : ∀ tombstone ∈ document.tombstones, validShape tombstone = true)
    (redirected : document.release.replacementFor id = some (.redirect child)) : Replaces document id child := by
  unfold PinnedSharedCatalog.replacementFor at redirected
  cases found : document.release.tombstones.find? (·.id = id) with
  | none => simp [found] at redirected
  | some imported =>
    have same : imported.id = id := by simpa using List.find?_some found
    obtain ⟨tombstone,listed,named,replacements,_⟩ := mem_tombstones shaped (List.mem_of_find?_eq_some found)
    cases reason : imported.reason with
    | removed => simp [found,reason] at redirected
    | merged =>
      simp only [found,reason,Option.map_eq_some_iff] at redirected
      obtain ⟨target,head,redirects⟩ := redirected
      cases redirects
      exact ⟨tombstone,listed,named.symm.trans same,replacements ▸ List.mem_of_mem_head? head⟩
    | split => simp [found,reason] at redirected

theorem validateDocument_exact (passed : validateDocument library unicode document = .ok ()) : ExactDocument document := by
  have valid := validateDocument_valid document.catalogVersion passed
  obtain ⟨_,later⟩ := then_ok.mp passed
  obtain ⟨first,second⟩ := then_ok.mp later
  obtain ⟨ids,_,stations⟩ := validateStations_ok first
  simp only [validateTombstones,then_ok,demand_ok,Bool.and_eq_true,decide_eq_true_eq,List.all_eq_true,Bool.not_eq_true'] at second
  obtain ⟨⟨retired,apart⟩,good,quiet⟩ := second
  have shaped : ∀ tombstone ∈ document.tombstones, validShape tombstone = true := fun tombstone member => (good tombstone member).1
  have keys : (document.tombstones.map fun tombstone => (tombstone.id,tombstone.replacementIds)).map Prod.fst =
      document.tombstones.map (·.id) := by
    rw [List.map_map]
    rfl
  have ends := keys_end fun key member => quiet key (keys ▸ member)
  have wellFounded : WellFounded fun next id => Replaces document id next :=
    Subrelation.wf (fun edge => replaces_leads retired edge) ⟨ends⟩
  constructor
  case stations => exact ids
  case tombstones => exact retired
  case apart =>
    intro tombstone member
    simpa using apart tombstone.id (List.mem_map_of_mem member)
  case primary => exact fun station member => (stations station member).primary
  case streams => exact valid.streams
  case sizes =>
    intro station member stream inside
    obtain ⟨origin,listed,rfl⟩ := List.mem_map.mp member
    obtain ⟨source,given,rfl⟩ := List.mem_map.mp inside
    have checked := (stations origin listed).valid source given
    simp only [validStream,Bool.and_eq_true] at checked
    exact stream_size (stations origin listed).id checked.1.1.1
  case known =>
    rintro id child ⟨tombstone,member,_,replaces⟩
    have checked := (good tombstone member).2
    simp only [validReplacements,Bool.and_eq_true,List.all_eq_true] at checked
    simpa using (checked.1 child replaces).2
  case acyclic =>
    rintro ⟨id,cycle⟩
    exact accessible_acyclic (wellFounded.apply id) cycle
  case converts =>
    intro tombstone member lost
    obtain ⟨imported,became,_⟩ := reasonOf_shape (shaped tombstone member)
    cases became.symm.trans lost
  case answers =>
    intro id lost
    unfold PinnedSharedCatalog.replacementFor at lost
    cases found : document.release.tombstones.find? (·.id = id) with
    | none => simp [found] at lost
    | some tombstone =>
      have one := valid.merged tombstone (List.mem_of_find?_eq_some found)
      cases reason : tombstone.reason with
      | removed => simp [found,reason] at lost
      | merged =>
        simp only [found,reason,Option.map_eq_none_iff,List.head?_eq_none_iff] at lost
        simpa [lost] using one reason
      | split => simp [found,reason] at lost
  case stored =>
    refine ⟨valid.retired,fun imported member => ?_⟩
    obtain ⟨tombstone,listed,became⟩ := List.mem_filterMap.mp member
    exact imported_checks (shaped tombstone listed) became
  case stops => exact Subrelation.wf (fun redirected => redirect_replaces shaped redirected) wellFounded

end document

-- The search for cycles ends on every graph and finds one where there is one. What
-- passes validation converts, is stored and is followed without fail.
theorem documents_exact :
    (∀ graph : List (String × List String),
      (∃ id ∈ graph.map Prod.fst, replacementGraphHasCycle graph [] id = true) ↔ Cyclic (Leads graph)) ∧
    ∀ (library : UrlLibrary) (unicode : Unicode) (document : CatalogDocument),
      validateDocument library unicode document = .ok () → ExactDocument document :=
  ⟨fun _ => hasCycle_exact,fun _ _ _ => validateDocument_exact⟩

theorem documents_exact_jazz : ExactDocument jazzDocument :=
  documents_exact.2 jazzLibrary Search.Letters.englishRussian jazzDocument jazz_checked

end CatalogImport
