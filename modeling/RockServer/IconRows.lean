import RockServer.CatalogTables

-- The icon rows of stations, column by column, and what their four writers leave.
namespace IconImport
open CatalogImport (IconStatus)

-- A SHA-256 hash.
abbrev Hash := {bytes : List UInt8 // bytes.length = 32}

def hexByte (byte : UInt8) : List Char := [Nat.digitChar (byte.toNat / 16),Nat.digitChar (byte.toNat % 16)]

def hex (hash : Hash) : String := String.ofList (hash.val.flatMap hexByte)

-- The canonical file name of a hash.
def fromHash (hash : Hash) : String := hex hash ++ ".webp"

structure PreparedIcon (digest : List UInt8 → Hash) where
  bytes : List UInt8
  contentHash : Hash
  width : Nat
  height : Nat
  hashed : contentHash = digest bytes

structure StationIcon where
  sourceUrl : Option String
  sourcePriority : Nat
  storageKey : Option String
  contentType : Option String
  byteSize : Option Nat
  width : Option Nat
  height : Option Nat
  contentHash : Option Hash
  status : IconStatus
  manualOverride : Bool
  refreshNeeded : Bool
deriving DecidableEq

def within (bound : Nat) (value : Option Nat) : Bool := value.all fun n => 0 < n && n ≤ bound

-- Whether all columns of an artifact are set.
def StationIcon.complete (row : StationIcon) : Bool :=
  row.storageKey.isSome && row.contentType = some "image/webp" && row.byteSize.isSome && row.width.isSome &&
    row.height.isSome && row.contentHash.isSome

-- The checks of the table.
structure StationIcon.Check (row : StationIcon) : Prop where
  priority : row.sourcePriority ≤ 2
  byteSize : within 2097152 row.byteSize = true
  width : within 256 row.width = true
  height : within 256 row.height = true
  ready : row.status = .ready ↔ row.complete = true

theorem StationIcon.check_iff {row : StationIcon} : row.Check ↔ row.sourcePriority ≤ 2 ∧ within 2097152 row.byteSize = true ∧
    within 256 row.width = true ∧ within 256 row.height = true ∧ (row.status = .ready ↔ row.complete = true) :=
  ⟨fun ⟨a,b,c,d,e⟩ => ⟨a,b,c,d,e⟩,fun ⟨a,b,c,d,e⟩ => ⟨a,b,c,d,e⟩⟩

instance (row : StationIcon) : Decidable row.Check := decidable_of_iff _ StationIcon.check_iff.symm

abbrev IconRow := {row : StationIcon // row.Check}

-- A row that fails a check fails its statement.
def checked (row : StationIcon) : Option IconRow := if check : row.Check then some ⟨row,check⟩ else none

section writers
variable {digest : List UInt8 → Hash} (icon : PreparedIcon digest) (sourceUrl : String) (sourcePriority : Nat)

-- The artifact columns of a row that has none.
def unset (sourceUrl : Option String) (sourcePriority : Nat) (status : IconStatus) : StationIcon :=
  ⟨sourceUrl,sourcePriority,none,none,none,none,none,none,status,false,false⟩

-- upsert_stations: the favicon of the catalog.
def catalogUpsert (favicon : Option String) (stored : Option StationIcon) : StationIcon :=
  let priority := if favicon.isSome then 2 else 0
  let status : IconStatus := if favicon.isNone then .missing else .pending
  match stored with
  | none => unset favicon priority status
  | some row => {row with
      sourceUrl := if row.manualOverride then row.sourceUrl else favicon
      sourcePriority := if row.manualOverride then row.sourcePriority else priority
      refreshNeeded := if row.manualOverride then row.refreshNeeded else row.sourceUrl ≠ favicon
      status := if row.manualOverride then row.status else if row.status = .ready then .ready else status}

-- replace_manual.
def manualUpsert (stored : Option StationIcon) : StationIcon :=
  {stored.getD (unset none 0 .missing) with
    storageKey := some (fromHash icon.contentHash)
    contentType := some "image/webp"
    byteSize := some icon.bytes.length
    width := some icon.width
    height := some icon.height
    contentHash := some icon.contentHash
    status := .ready
    manualOverride := true
    refreshNeeded := false}

-- remove_manual, of a row that is overridden.
def detached (row : StationIcon) : StationIcon :=
  {row with
    storageKey := none
    contentType := none
    byteSize := none
    width := none
    height := none
    contentHash := none
    status := .missing
    manualOverride := false
    refreshNeeded := true}

-- publish: each column keeps what an override has put there.
def publishUpsert (stored : Option StationIcon) : StationIcon := match stored with
  | none => ⟨some sourceUrl,sourcePriority,some (fromHash icon.contentHash),some "image/webp",some icon.bytes.length,
      some icon.width,some icon.height,some icon.contentHash,.ready,false,false⟩
  | some row => {row with
      sourceUrl := if row.manualOverride then row.sourceUrl else some sourceUrl
      sourcePriority := if row.manualOverride then row.sourcePriority else sourcePriority
      storageKey := if row.manualOverride then row.storageKey else some (fromHash icon.contentHash)
      contentType := if row.manualOverride then row.contentType else some "image/webp"
      byteSize := if row.manualOverride then row.byteSize else some icon.bytes.length
      width := if row.manualOverride then row.width else some icon.width
      height := if row.manualOverride then row.height else some icon.height
      contentHash := if row.manualOverride then row.contentHash else some icon.contentHash
      status := if row.manualOverride then row.status else .ready
      refreshNeeded := if row.manualOverride then row.refreshNeeded else false}

end writers

-- The columns that the importer knows.
def StationIcon.catalog (row : StationIcon) : CatalogImport.IconRow :=
  ⟨row.sourceUrl,row.sourcePriority,row.status,row.manualOverride,row.refreshNeeded⟩

variable {digest : List UInt8 → Hash} {icon : PreparedIcon digest} {sourceUrl : String} {sourcePriority : Nat}
variable {favicon : Option String} {stored : Option StationIcon} {row : StationIcon} {result : IconRow}

theorem checked_some (written : checked row = some result) : result.val = row := by
  unfold checked at written
  split at written
  · cases written
    rfl
  · cases written

-- The same upsert as the importer's.
theorem catalogUpsert_catalog (station : CatalogImport.ImportedStation) (stored : Option StationIcon) :
    (catalogUpsert station.faviconSourceUrl stored).catalog = CatalogImport.iconRow station (stored.map StationIcon.catalog) := by
  cases stored with
  | none => rfl
  | some row =>
    cases overridden : row.manualOverride <;> simp [catalogUpsert,StationIcon.catalog,CatalogImport.iconRow,overridden]

-- Rows that differ in no column of their artifact.
structure SameArtifact (row row' : StationIcon) : Prop where
  storageKey : row'.storageKey = row.storageKey
  contentType : row'.contentType = row.contentType
  byteSize : row'.byteSize = row.byteSize
  width : row'.width = row.width
  height : row'.height = row.height
  contentHash : row'.contentHash = row.contentHash
  status : row'.status = row.status
  manualOverride : row'.manualOverride = row.manualOverride

theorem SameArtifact.refl (row : StationIcon) : SameArtifact row row := ⟨rfl,rfl,rfl,rfl,rfl,rfl,rfl,rfl⟩

theorem SameArtifact.trans {first second third : StationIcon} (one : SameArtifact first second) (two : SameArtifact second third) :
    SameArtifact first third :=
  ⟨two.storageKey.trans one.storageKey,two.contentType.trans one.contentType,two.byteSize.trans one.byteSize,
    two.width.trans one.width,two.height.trans one.height,two.contentHash.trans one.contentHash,two.status.trans one.status,
    two.manualOverride.trans one.manualOverride⟩

-- Imports and jobs leave an overridden row its artifact.
theorem catalogUpsert_overridden (overridden : row.manualOverride = true) : SameArtifact row (catalogUpsert favicon (some row)) := by
  constructor <;> simp [catalogUpsert,overridden]

theorem publishUpsert_overridden (overridden : row.manualOverride = true) :
    SameArtifact row (publishUpsert icon sourceUrl sourcePriority (some row)) := by
  constructor <;> simp [publishUpsert,overridden]

-- A row stands for the artifact of a hash.
structure Holds (row : StationIcon) (hash : Hash) : Prop where
  storageKey : row.storageKey = some (fromHash hash)
  contentHash : row.contentHash = some hash

theorem catalogUpsert_ready (ready : (catalogUpsert favicon stored).status = .ready) :
    ∃ row, stored = some row ∧ row.status = .ready ∧ (catalogUpsert favicon stored).storageKey = row.storageKey ∧
      (catalogUpsert favicon stored).contentHash = row.contentHash := by
  cases stored with
  | none => cases favicon <;> cases ready
  | some row =>
    refine ⟨row,rfl,?_,rfl,rfl⟩
    by_contra other
    cases overridden : row.manualOverride <;> cases favicon <;> simp [catalogUpsert,overridden,other] at ready

theorem manualUpsert_holds : Holds (manualUpsert icon stored) icon.contentHash := ⟨rfl,rfl⟩

theorem publishUpsert_holds : Holds (publishUpsert icon sourceUrl sourcePriority stored) icon.contentHash ∨
    ∃ row, stored = some row ∧ SameArtifact row (publishUpsert icon sourceUrl sourcePriority stored) := by
  cases stored with
  | none => exact .inl ⟨rfl,rfl⟩
  | some row =>
    cases overridden : row.manualOverride with
    | true => exact .inr ⟨row,rfl,publishUpsert_overridden overridden⟩
    | false =>
      left
      constructor <;> simp [publishUpsert,overridden]

end IconImport
