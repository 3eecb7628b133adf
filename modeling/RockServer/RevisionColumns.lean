import Mathlib.Logic.Function.Basic
import RockServer.ManifestStore

-- Revisions in their columns: unsigned for the device, signed in the database.
namespace DeviceControl

def asColumn (revision : UInt64) : Int64 := revision.toInt64

def asRevision (column : Int64) : UInt64 := column.toUInt64

-- The successor of the accepted revision may overflow; then there is no order.
def revisionOrder64 {T : Type} [DecidableEq T] (acceptedRevision : UInt64) (accepted : T) (incomingRevision : UInt64)
    (incoming : T) (requiredBase : Option UInt64) : Option RevisionOrder :=
  if incomingRevision < acceptedRevision then some .stale
  else if incomingRevision = acceptedRevision then some (if accepted = incoming then .replay else .conflict)
  else if requiredBase.any fun base => base ≠ acceptedRevision then some .gap
  else if acceptedRevision.toNat + 1 < 2 ^ 64 then some (if incomingRevision ≠ acceptedRevision + 1 then .gap else .next)
  else none

def orderOutcome : RevisionOrder → Option StoreOutcome
  | .next => none
  | .stale => some .stale
  | .replay => some .replay
  | .conflict => some .conflict
  | .gap => some .resync

-- A full state is itself the answer to a gap.
def fullOutcome : Option StoreOutcome → Option StoreOutcome
  | some .resync => none
  | other => other

inductive StoredKey where
  | manifest (device : DeviceId)
  | item (kind : Projection) (device : DeviceId) (id : String)
  | snapshot (device : DeviceId)
  | entityState (device : DeviceId) (entity : String)
deriving DecidableEq

structure ColumnRow (P : Type) where
  revision : Int64
  payload : P

-- What a column keeps of a payload, and what of it is compared: a state is compared
-- without the time at which it was received.
structure Payloads (P : Type) where
  stored : P → P
  compared : P → P

-- The revision that each row was accepted with is kept for the statements only.
structure ColumnStore (P : Type) where
  rows : StoredKey → Option (ColumnRow P)
  accepted : StoredKey → Option UInt64

inductive Write (P : Type) where
  | manifest (device : DeviceId) (revision : UInt64) (payload : P) (items : List (Projection × String × P))
  | snapshot (device : DeviceId) (revision : UInt64) (payload : P)
  | entityState (device : DeviceId) (entity : String) (revision : UInt64) (payload : P)

def Write.key {P : Type} : Write P → StoredKey
  | .manifest device _ _ _ => .manifest device
  | .snapshot device _ _ => .snapshot device
  | .entityState device entity _ _ => .entityState device entity

def Write.revision {P : Type} : Write P → UInt64
  | .manifest _ revision _ _ => revision
  | .snapshot _ revision _ => revision
  | .entityState _ _ revision _ => revision

def Write.payload {P : Type} : Write P → P
  | .manifest _ _ payload _ => payload
  | .snapshot _ _ payload => payload
  | .entityState _ _ _ payload => payload

def Write.items {P : Type} : Write P → List (StoredKey × P)
  | .manifest device _ _ items => items.map fun (kind,id,payload) => (.item kind device id,payload)
  | _ => []

def Write.entries {P : Type} (write : Write P) : List (StoredKey × P) := write.items ++ [(write.key,write.payload)]

inductive Refusal where
  | notOwned
  | conflict
  | failed (error : StoreError)

def Refusal.answer : Refusal → Except StoreError StoreOutcome
  | .notOwned => .ok .notOwned
  | .conflict => .ok .conflict
  | .failed error => .error error

-- A call with what its other checks find: the ones before the revisions are
-- compared, and what else may drop the transaction after that.
structure StoreCall (P : Type) where
  write : Write P
  refused : Option Refusal
  dropped : Option Refusal

namespace ColumnStore
variable {P : Type} [DecidableEq P] (payloads : Payloads P)

def empty : ColumnStore P := ⟨fun _ => none,fun _ => none⟩

-- The columns have a check that revisions are positive.
def upsert (s : ColumnStore P) (key : StoredKey) (revision : UInt64) (payload : P) : Option (ColumnStore P) :=
  if 0 < asColumn revision then
    some ⟨Function.update s.rows key (some ⟨asColumn revision,payloads.stored payload⟩),Function.update s.accepted key (some revision)⟩
  else none

def writeAll (s : ColumnStore P) (revision : UInt64) (entries : List (StoredKey × P)) : Option (ColumnStore P) :=
  entries.foldlM (fun s entry => s.upsert payloads entry.1 revision entry.2) s

-- What the stored row makes of a write: nothing is left to be said, or a refusal.
def compare (row : ColumnRow P) : Write P → Option (Option StoreOutcome)
  | .manifest _ revision payload _ => (revisionOrder64 (asRevision row.revision) row.payload revision payload none).map orderOutcome
  | .snapshot _ revision payload =>
    (revisionOrder64 (asRevision row.revision) (payloads.compared row.payload) revision (payloads.compared payload) none).map fun order =>
      fullOutcome (orderOutcome order)
  | .entityState _ _ revision payload =>
    (revisionOrder64 (asRevision row.revision) (payloads.compared row.payload) revision (payloads.compared payload) none).map orderOutcome

-- `apply_manifest`, `store_device_state` and `store_entity_state`; none is a panic.
def execute (s : ColumnStore P) (call : StoreCall P) : Option (Except StoreError StoreOutcome × ColumnStore P) :=
  match call.refused with
  | some refusal => some (refusal.answer,s)
  | none => ((s.rows call.write.key).elim (some none) fun row => compare payloads row call.write).map fun
    | some refused => (.ok refused,s)
    | none => match call.dropped with
      | some refusal => (refusal.answer,s)
      | none => match s.writeAll payloads call.write.revision call.write.entries with
        | none => (.error .database,s)
        | some s' => (.ok .accepted,s')

def step (s : ColumnStore P) (call : StoreCall P) : Option (ColumnStore P) := (s.execute payloads call).map Prod.snd

end ColumnStore

section columns
variable {revision revision' : UInt64}

@[simp]
theorem asRevision_asColumn (revision : UInt64) : asRevision (asColumn revision) = revision := UInt64.toUInt64_toInt64 revision

theorem column_toInt (revision : UInt64) : (asColumn revision).toInt = (revision.toNat : Int).bmod (2 ^ 64) := by
  rw [asColumn,Int64.toInt,UInt64.toBitVec_toInt64,BitVec.toInt_eq_toNat_bmod]
  rfl

-- From 2 ^ 63 on, a revision is negative in its column, and the check refuses it.
theorem column_positive : 0 < asColumn revision ↔ columnRevision revision.toNat = true := by
  have bound := revision.toNat_lt
  rw [Int64.lt_iff_toInt_lt,column_toInt,Int.bmod_def]
  change (0 : Int) < _ ↔ _
  simp only [columnRevision,Bool.and_eq_true,decide_eq_true_eq]
  split
  · omega
  · omega

example : ¬ 0 < asColumn 0x8000000000000000 := by decide

theorem column_small (positive : 0 < asColumn revision) : (asColumn revision).toInt = revision.toNat := by
  have small := column_positive.mp positive
  simp only [columnRevision,Bool.and_eq_true,decide_eq_true_eq] at small
  rw [column_toInt,Int.bmod_def,if_pos]
  · omega
  · omega

theorem column_order (positive : 0 < asColumn revision) (positive' : 0 < asColumn revision') :
    asColumn revision ≤ asColumn revision' ↔ revision ≤ revision' := by
  rw [Int64.le_iff_toInt_le,column_small positive,column_small positive',UInt64.le_iff_toNat_le]
  exact Int.ofNat_le

end columns

section order
variable {T : Type} [DecidableEq T] {acceptedRevision incomingRevision : UInt64} {accepted incoming : T}
  {requiredBase : Option UInt64}

theorem based_toNat : ((requiredBase.map UInt64.toNat).any fun base => decide (base ≠ acceptedRevision.toNat)) =
    requiredBase.any fun base => decide (base ≠ acceptedRevision) := by
  cases requiredBase with
  | none => rfl
  | some base => simp [UInt64.toNat_inj]

-- The successor is only computed below the incoming revision, so there is an order.
theorem revisionOrder64_eq : revisionOrder64 acceptedRevision accepted incomingRevision incoming requiredBase =
    some (revisionOrder acceptedRevision.toNat accepted incomingRevision.toNat incoming (requiredBase.map UInt64.toNat)) := by
  have bound := incomingRevision.toNat_lt
  unfold revisionOrder64 revisionOrder
  by_cases below : incomingRevision < acceptedRevision
  · rw [if_pos below,if_pos (UInt64.lt_iff_toNat_lt.mp below)]
  · have below' : ¬ incomingRevision.toNat < acceptedRevision.toNat := fun less => below (UInt64.lt_iff_toNat_lt.mpr less)
    rw [if_neg below,if_neg below']
    by_cases same : incomingRevision = acceptedRevision
    · rw [if_pos same,if_pos (congrArg UInt64.toNat same)]
    · have same' : ¬ incomingRevision.toNat = acceptedRevision.toNat := fun equal => same (UInt64.toNat_inj.mp equal)
      have room : acceptedRevision.toNat + 1 < 2 ^ 64 := by omega
      have successor : (acceptedRevision + 1).toNat = acceptedRevision.toNat + 1 := by
        rw [UInt64.toNat_add]
        exact Nat.mod_eq_of_lt room
      have next : incomingRevision = acceptedRevision + 1 ↔ incomingRevision.toNat = acceptedRevision.toNat + 1 := by
        rw [← UInt64.toNat_inj,successor]
      rw [if_neg same,if_neg same',based_toNat,if_pos room]
      simp only [ne_eq,next]
      split <;> split <;> simp_all

-- Only an incoming revision beyond the accepted one is anything but refused or repeated.
theorem order_beyond {order : RevisionOrder} (found : revisionOrder64 acceptedRevision accepted incomingRevision incoming none = some order)
    (beyond : order = .next ∨ order = .gap) : acceptedRevision < incomingRevision := by
  unfold revisionOrder64 at found
  split at found
  · cases found
    rcases beyond with beyond | beyond <;> cases beyond
  · rename_i below
    split at found
    · cases found
      split at beyond <;> rcases beyond with beyond | beyond <;> cases beyond
    · rename_i same
      rw [UInt64.lt_iff_toNat_lt] at below ⊢
      rw [← UInt64.toNat_inj] at same
      omega

end order

namespace ColumnStore
variable {P : Type} {payloads : Payloads P} {s s' : ColumnStore P} {revision : UInt64}

-- What holds of every store that calls have written. An item row is written by a
-- manifest, so it is never ahead of the manifest row of its device.
structure Faithful (s : ColumnStore P) : Prop where
  kept : ∀ key, (s.rows key).map ColumnRow.revision = (s.accepted key).map asColumn
  positive : ∀ {key revision}, s.accepted key = some revision → 0 < asColumn revision
  under : ∀ {kind device id revision}, s.accepted (.item kind device id) = some revision →
    ∃ latest, s.accepted (.manifest device) = some latest ∧ revision ≤ latest

theorem empty_faithful : (empty : ColumnStore P).Faithful where
  kept _ := rfl
  positive held := by cases held
  under held := by cases held

theorem upsert_cases {key : StoredKey} {payload : P} (written : s.upsert payloads key revision payload = some s') :
    0 < asColumn revision ∧ s'.accepted = Function.update s.accepted key (some revision) ∧
      s'.rows = Function.update s.rows key (some ⟨asColumn revision,payloads.stored payload⟩) := by
  unfold upsert at written
  split at written
  · rename_i positive
    cases written
    exact ⟨positive,rfl,rfl⟩
  · cases written

theorem writeAll_unlisted {entries : List (StoredKey × P)} {key : StoredKey} (written : s.writeAll payloads revision entries = some s')
    (unlisted : key ∉ entries.map Prod.fst) : s'.accepted key = s.accepted key ∧ s'.rows key = s.rows key := by
  induction entries generalizing s with
  | nil =>
    cases written
    exact ⟨rfl,rfl⟩
  | cons entry rest ih =>
    rw [List.map_cons,List.mem_cons,not_or] at unlisted
    obtain ⟨middle,first,then_⟩ := Option.bind_eq_some_iff.mp written
    obtain ⟨_,accepted,rows⟩ := upsert_cases first
    obtain ⟨same,same'⟩ := ih then_ unlisted.2
    rw [same,same',accepted,rows,Function.update_of_ne unlisted.1,Function.update_of_ne unlisted.1]
    exact ⟨rfl,rfl⟩

theorem writeAll_listed {entries : List (StoredKey × P)} {key : StoredKey} (written : s.writeAll payloads revision entries = some s')
    (listed : key ∈ entries.map Prod.fst) :
    0 < asColumn revision ∧ s'.accepted key = some revision ∧ (s'.rows key).map ColumnRow.revision = some (asColumn revision) := by
  induction entries generalizing s with
  | nil => cases listed
  | cons entry rest ih =>
    obtain ⟨middle,first,then_⟩ := Option.bind_eq_some_iff.mp written
    by_cases later : key ∈ rest.map Prod.fst
    · exact ih then_ later
    · have here : key = entry.1 := by
        rw [List.map_cons,List.mem_cons] at listed
        exact listed.resolve_right later
      obtain ⟨positive,accepted,rows⟩ := upsert_cases first
      obtain ⟨same,same'⟩ := writeAll_unlisted then_ later
      rw [same,same',accepted,rows,here,Function.update_self,Function.update_self]
      exact ⟨positive,rfl,rfl⟩

theorem key_entries (write : Write P) : write.key ∈ write.entries.map Prod.fst := by
  simp [Write.entries]

-- What is written with a key of another kind belongs to the manifest of the device.
theorem entries_cases {write : Write P} {key : StoredKey} (listed : key ∈ write.entries.map Prod.fst) :
    key = write.key ∨ ∃ kind device id, key = .item kind device id ∧ write.key = .manifest device := by
  rw [Write.entries,List.map_append,List.mem_append] at listed
  rcases listed with listed | listed
  · cases write with
    | manifest device revision payload items =>
      simp only [Write.items,List.mem_map] at listed
      obtain ⟨_,⟨⟨kind,id,payload⟩,_,rfl⟩,rfl⟩ := listed
      exact .inr ⟨kind,device,id,rfl,rfl⟩
    | snapshot | entityState => cases listed
  · exact .inl (by simpa using listed)

theorem Faithful.read_back (faithful : s.Faithful) (key : StoredKey) :
    (s.rows key).map (fun row => asRevision row.revision) = s.accepted key := by
  have kept := congrArg (Option.map asRevision) (faithful.kept key)
  rw [Option.map_map,Option.map_map] at kept
  cases held : s.accepted key with
  | none => simpa [held] using kept
  | some revision => simpa [held] using kept

theorem Faithful.ordered (faithful : s.Faithful) {key key' : StoredKey} {row row' : ColumnRow P} (stored : s.rows key = some row)
    (stored' : s.rows key' = some row') : row.revision ≤ row'.revision ↔ asRevision row.revision ≤ asRevision row'.revision := by
  have column {key : StoredKey} {row : ColumnRow P} (stored : s.rows key = some row) :
      ∃ revision, row.revision = asColumn revision ∧ 0 < asColumn revision := by
    have kept := faithful.kept key
    rw [stored] at kept
    obtain ⟨revision,held,same⟩ := Option.map_eq_some_iff.mp kept.symm
    exact ⟨revision,same.symm,faithful.positive held⟩
  obtain ⟨revision,same,positive⟩ := column stored
  obtain ⟨revision',same',positive'⟩ := column stored'
  rw [same,same',asRevision_asColumn,asRevision_asColumn]
  exact column_order positive positive'

variable [DecidableEq P]

def Executes (payloads : Payloads P) (s : ColumnStore P) (call : StoreCall P) (s' : ColumnStore P) : Prop :=
  s.step payloads call = some s'

-- A row lets a write through only when the write is beyond it.
theorem compare_beyond {row : ColumnRow P} {write : Write P} (through : compare payloads row write = some none) :
    asRevision row.revision < write.revision := by
  cases write with
  | manifest device revision payload items =>
    obtain ⟨order,found,none⟩ := Option.map_eq_some_iff.mp through
    cases order <;> cases none
    exact order_beyond found (.inl rfl)
  | snapshot device revision payload =>
    obtain ⟨order,found,none⟩ := Option.map_eq_some_iff.mp through
    cases order <;> cases none
    · exact order_beyond found (.inl rfl)
    · exact order_beyond found (.inr rfl)
  | entityState device entity revision payload =>
    obtain ⟨order,found,none⟩ := Option.map_eq_some_iff.mp through
    cases order <;> cases none
    exact order_beyond found (.inl rfl)

theorem compare_isSome (row : ColumnRow P) (write : Write P) : (compare payloads row write).isSome = true := by
  cases write <;> simp [compare,revisionOrder64_eq]

theorem execute_isSome (s : ColumnStore P) (call : StoreCall P) : (s.execute payloads call).isSome = true := by
  unfold execute
  cases call.refused with
  | some refusal => rfl
  | none =>
    rw [Option.isSome_map]
    cases s.rows call.write.key with
    | none => rfl
    | some row => exact compare_isSome row call.write

theorem compare_refused {row : ColumnRow P} {write : Write P} {refused : StoreOutcome}
    (stopped : compare payloads row write = some (some refused)) : refused ≠ .accepted := by
  cases write with
  | manifest device revision payload items =>
    obtain ⟨order,found,rest⟩ := Option.map_eq_some_iff.mp stopped
    cases order <;> cases rest <;> simp
  | snapshot device revision payload =>
    obtain ⟨order,found,rest⟩ := Option.map_eq_some_iff.mp stopped
    cases order <;> cases rest <;> simp
  | entityState device entity revision payload =>
    obtain ⟨order,found,rest⟩ := Option.map_eq_some_iff.mp stopped
    cases order <;> cases rest <;> simp

theorem refusal_apart (refusal : Refusal) : refusal.answer ≠ .ok .accepted := by
  cases refusal <;> simp [Refusal.answer]

theorem execute_cases {call : StoreCall P} {answer : Except StoreError StoreOutcome}
    (done : s.execute payloads call = some (answer,s')) :
    s' = s ∧ answer ≠ .ok .accepted ∨
    answer = .ok .accepted ∧ s.writeAll payloads call.write.revision call.write.entries = some s' ∧
      ∀ row, s.rows call.write.key = some row → asRevision row.revision < call.write.revision := by
  unfold execute at done
  split at done
  · cases done
    exact .inl ⟨rfl,refusal_apart _⟩
  · obtain ⟨verdict,compared,result⟩ := Option.map_eq_some_iff.mp done
    split at result
    · rename_i refused
      cases result
      refine .inl ⟨rfl,?_⟩
      cases stored : s.rows call.write.key with
      | none =>
        rw [stored] at compared
        cases compared
      | some row =>
        rw [stored] at compared
        exact fun accepted => compare_refused compared (Except.ok.inj accepted)
    · split at result
      · cases result
        exact .inl ⟨rfl,refusal_apart _⟩
      · split at result
        · cases result
          exact .inl ⟨rfl,by simp⟩
        · rename_i written
          cases result
          refine .inr ⟨rfl,written,fun row stored => ?_⟩
          rw [stored] at compared
          exact compare_beyond compared

-- A call changes nothing, or every accepted revision it replaces is an earlier one.
theorem step_cases (faithful : s.Faithful) {call : StoreCall P} (taken : Executes payloads s call s') :
    s' = s ∨ s.writeAll payloads call.write.revision call.write.entries = some s' ∧
      ∀ key ∈ call.write.entries.map Prod.fst, ∀ earlier, s.accepted key = some earlier → earlier < call.write.revision := by
  obtain ⟨⟨answer,_⟩,done,rfl⟩ := Option.map_eq_some_iff.mp taken
  rcases execute_cases done with ⟨same,_⟩ | ⟨_,written,beyond⟩
  · exact .inl same
  · refine .inr ⟨written,fun key listed earlier held => ?_⟩
    have ahead {latest : UInt64} (held : s.accepted call.write.key = some latest) : latest < call.write.revision := by
      have kept := faithful.kept call.write.key
      rw [held] at kept
      obtain ⟨row,stored,same⟩ := Option.map_eq_some_iff.mp kept
      have below := beyond row stored
      rw [same,asRevision_asColumn] at below
      exact below
    rcases entries_cases listed with rfl | ⟨kind,device,id,rfl,manifest⟩
    · exact ahead held
    · obtain ⟨latest,held',bound⟩ := faithful.under held
      rw [← manifest] at held'
      exact UInt64.lt_of_le_of_lt bound (ahead held')

theorem step_faithful (faithful : s.Faithful) {call : StoreCall P} (taken : Executes payloads s call s') : s'.Faithful := by
  rcases step_cases faithful taken with rfl | ⟨written,beyond⟩
  · exact faithful
  constructor
  · intro key
    by_cases listed : key ∈ call.write.entries.map Prod.fst
    · obtain ⟨_,accepted,rows⟩ := writeAll_listed written listed
      rw [accepted,rows]
      rfl
    · obtain ⟨accepted,rows⟩ := writeAll_unlisted written listed
      rw [accepted,rows]
      exact faithful.kept key
  · intro key revision held
    by_cases listed : key ∈ call.write.entries.map Prod.fst
    · obtain ⟨positive,accepted,_⟩ := writeAll_listed written listed
      cases accepted.symm.trans held
      exact positive
    · exact faithful.positive ((writeAll_unlisted written listed).1.symm.trans held)
  · intro kind device id revision held
    by_cases listed : .item kind device id ∈ call.write.entries.map Prod.fst
    · rcases entries_cases listed with same | ⟨kind',device',id',same,manifest⟩
      · have apart (write : Write P) : StoredKey.item kind device id ≠ write.key := by
          cases write <;> simp [Write.key]
        exact absurd same (apart _)
      · cases same
        have here := writeAll_listed written (manifest ▸ key_entries call.write)
        cases (writeAll_listed written listed).2.1.symm.trans held
        exact ⟨_,here.2.1,UInt64.le_refl _⟩
    · obtain ⟨latest,held',bound⟩ := faithful.under ((writeAll_unlisted written listed).1.symm.trans held)
      by_cases replaced : .manifest device ∈ call.write.entries.map Prod.fst
      · exact ⟨_,(writeAll_listed written replaced).2.1,UInt64.le_trans bound (UInt64.le_of_lt (beyond _ replaced _ held'))⟩
      · exact ⟨latest,(writeAll_unlisted written replaced).1.trans held',bound⟩

theorem step_grows (faithful : s.Faithful) {call : StoreCall P} (taken : Executes payloads s call s') {key : StoredKey}
    (held : s.accepted key = some revision) : ∃ latest, s'.accepted key = some latest ∧ revision ≤ latest := by
  rcases step_cases faithful taken with rfl | ⟨written,beyond⟩
  · exact ⟨revision,held,UInt64.le_refl _⟩
  by_cases listed : key ∈ call.write.entries.map Prod.fst
  · exact ⟨_,(writeAll_listed written listed).2.1,UInt64.le_of_lt (beyond key listed revision held)⟩
  · exact ⟨revision,(writeAll_unlisted written listed).1.trans held,UInt64.le_refl _⟩

theorem run_faithful {calls : List (StoreCall P)} (faithful : s.Faithful) (path : Transition.Runs (Executes payloads) s calls s') :
    s'.Faithful := by
  induction path with
  | nil => exact faithful
  | snoc _ taken ih => exact step_faithful ih taken

theorem run_grows {calls : List (StoreCall P)} (faithful : s.Faithful) (path : Transition.Runs (Executes payloads) s calls s')
    {key : StoredKey} (held : s.accepted key = some revision) : ∃ latest, s'.accepted key = some latest ∧ revision ≤ latest := by
  induction path with
  | nil => exact ⟨revision,held,UInt64.le_refl _⟩
  | snoc path taken ih =>
    obtain ⟨middle,held',bound⟩ := ih
    obtain ⟨latest,last,bound'⟩ := step_grows (run_faithful faithful path) taken held'
    exact ⟨latest,last,UInt64.le_trans bound bound'⟩

-- Whatever revisions are sent, those that are accepted are read back as they were
-- sent, are ordered in the table as they are on the wire and never fall, and no
-- comparison overflows.
theorem revisions_faithful {calls : List (StoreCall P)} (path : Transition.Runs (Executes payloads) .empty calls s) :
    (∀ key, (s.rows key).map (fun row => asRevision row.revision) = s.accepted key) ∧
    (∀ call s', s.execute payloads call = some (.ok .accepted,s') →
      (s'.rows call.write.key).map (fun row => asRevision row.revision) = some call.write.revision) ∧
    (∀ key row key' row', s.rows key = some row → s.rows key' = some row' →
      (row.revision ≤ row'.revision ↔ asRevision row.revision ≤ asRevision row'.revision)) ∧
    (∀ call, (s.execute payloads call).isSome = true) ∧
    ∀ later s', Transition.Runs (Executes payloads) s later s' → ∀ key revision, s.accepted key = some revision →
      ∃ latest, s'.accepted key = some latest ∧ revision ≤ latest := by
  have faithful := run_faithful empty_faithful path
  refine ⟨faithful.read_back,?_,?_,execute_isSome s,?_⟩
  · intro call s' done
    rcases execute_cases done with ⟨_,apart⟩ | ⟨_,written,_⟩
    · exact absurd rfl apart
    · obtain ⟨_,_,rows⟩ := writeAll_listed written (key_entries call.write)
      obtain ⟨row,stored,same⟩ := Option.map_eq_some_iff.mp rows
      rw [stored,Option.map_some,same,asRevision_asColumn]
  · intro key row key' row' stored stored'
    exact faithful.ordered stored stored'
  · intro later s' rest key revision held
    exact run_grows faithful rest held

def plain : Payloads String := ⟨id,id⟩

-- The largest revision that a column takes, and the first one beyond it.
def largest : UInt64 := 9223372036854775807

def beyond : StoreCall String := ⟨.snapshot ⟨0⟩ (largest + 1) "paused",none,none⟩

def storedCalls : List (StoreCall String) := [⟨.manifest ⟨0⟩ 1 "player" [(.entities,"lamp","switch")],none,none⟩,
  ⟨.snapshot ⟨0⟩ 7 "idle",none,none⟩,⟨.snapshot ⟨0⟩ largest "playing",none,none⟩,beyond,⟨.entityState ⟨0⟩ "lamp" 3 "on",none,none⟩]

theorem revisions_faithful_largest : ∃ s : ColumnStore String, Transition.Runs (Executes plain) .empty storedCalls s ∧
    (s.rows (.manifest ⟨0⟩)).map (fun row => asRevision row.revision) = some 1 ∧
    (s.rows (.snapshot ⟨0⟩)).map (fun row => asRevision row.revision) = some largest ∧
    (s.rows (.entityState ⟨0⟩ "lamp")).map (fun row => asRevision row.revision) = some 3 ∧
    (s.execute plain beyond).any (fun answer => answer.1 matches .error .database) = true := by
  obtain ⟨s,path,seen⟩ := Transition.run_reaches (step plain) .empty storedCalls (fun s => s.accepted (.manifest ⟨0⟩) = some 1 &&
    s.accepted (.snapshot ⟨0⟩) = some largest && s.accepted (.entityState ⟨0⟩ "lamp") = some 3 &&
    (s.execute plain beyond).any fun answer => answer.1 matches .error .database) (by decide +kernel)
  simp only [Bool.and_eq_true,decide_eq_true_eq] at seen
  obtain ⟨⟨⟨manifest,snapshot⟩,lamp⟩,refused⟩ := seen
  have read_back := (revisions_faithful path).1
  exact ⟨s,path,(read_back _).trans manifest,(read_back _).trans snapshot,(read_back _).trans lamp,refused⟩

end ColumnStore

end DeviceControl
