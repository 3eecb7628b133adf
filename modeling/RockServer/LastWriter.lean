import Mathlib.Order.Basic
import Mathlib.Data.List.Perm.Basic
import Mathlib.Order.Lattice

-- A last-writer-wins register with deletion markers. An upsert replaces what is
-- strictly older; a deletion marks what is strictly older and still live, and
-- leaves a bare marker where nothing is known.
namespace LastWriter

structure Version (F T : Type) where
  fields : F
  updatedAt : T
  deletedAt : Option T
deriving DecidableEq

inductive Change (F T : Type) where
  | upsert (fields : F) (updatedAt : T)
  | delete (updatedAt : T)

variable {F T : Type}

def Change.stamp : Change F T → T
  | .upsert _ updatedAt => updatedAt
  | .delete updatedAt => updatedAt

def Change.deletes : Change F T → Bool
  | .upsert _ _ => false
  | .delete _ => true

variable [LinearOrder T]

-- Whether a change takes effect on what is stored.
def Change.wins : Change F T → Option (Version F T) → Bool
  | .upsert _ updatedAt,stored => stored.all fun version => version.updatedAt < updatedAt
  | .delete updatedAt,stored =>
    stored.all fun version => version.deletedAt.isNone && version.updatedAt < updatedAt

-- What it writes then. A deletion keeps the fields it finds.
def Change.written (bare : T → F) (stored : Option (Version F T)) : Change F T → Version F T
  | .upsert fields updatedAt => ⟨fields,updatedAt,none⟩
  | .delete updatedAt => ⟨(stored.map Version.fields).getD (bare updatedAt),updatedAt,some updatedAt⟩

def apply (bare : T → F) (stored : Option (Version F T)) (change : Change F T) : Option (Version F T) :=
  if change.wins stored then some (change.written bare stored) else stored

def applyAll (bare : T → F) (stored : Option (Version F T)) (changes : List (Change F T)) :
    Option (Version F T) :=
  changes.foldl (apply bare) stored

-- What a register should hold once a change has the last word.
def Change.Settles : Change F T → Version F T → Prop
  | .upsert fields updatedAt,version => version = ⟨fields,updatedAt,none⟩
  | .delete updatedAt,version => version.updatedAt = updatedAt ∧ version.deletedAt = some updatedAt

variable {bare : T → F} {stored : Option (Version F T)} {change : Change F T} {changes : List (Change F T)}
variable {bound : T}

@[simp]
theorem applyAll_cons : applyAll bare stored (change :: changes) = applyAll bare (apply bare stored change) changes := rfl

theorem applyAll_append {later : List (Change F T)} :
    applyAll bare stored (changes ++ later) = applyAll bare (applyAll bare stored changes) later :=
  List.foldl_append ..

-- A register is below a bound while everything it holds is strictly older.
def Below (bound : T) (stored : Option (Version F T)) : Prop := ∀ version ∈ stored, version.updatedAt < bound

omit [LinearOrder T] in
@[simp]
theorem written_stamp : (change.written bare stored).updatedAt = change.stamp := by
  cases change <;> rfl

theorem wins_below (wins : change.wins stored = true) : Below change.stamp stored := by
  intro version held
  cases held
  cases change with
  | upsert fields updatedAt => simpa [Change.wins,Change.stamp] using wins
  | delete updatedAt =>
    have both : version.deletedAt = none ∧ version.updatedAt < updatedAt := by simpa [Change.wins] using wins
    exact both.2

-- All that one change can do: nothing, or its own stamp over something older.
theorem apply_cases (bare : T → F) (stored : Option (Version F T)) (change : Change F T) :
    (change.wins stored = false ∧ apply bare stored change = stored) ∨
    (change.wins stored = true ∧ apply bare stored change = some (change.written bare stored) ∧
      Below change.stamp stored) := by
  cases wins : change.wins stored with
  | false => exact .inl ⟨rfl,by simp [apply,wins]⟩
  | true => exact .inr ⟨rfl,by simp [apply,wins],wins_below wins⟩

-- A change that has been applied does not take effect again.
theorem apply_spent (bare : T → F) (stored : Option (Version F T)) (change : Change F T) :
    change.wins (apply bare stored change) = false := by
  rcases apply_cases bare stored change with ⟨loses,same⟩ | ⟨_,moved,_⟩
  · rw [same]
    exact loses
  · rw [moved]
    cases change <;> simp [Change.wins,Change.written]

theorem apply_below (older : change.stamp < bound) (below : Below bound stored) :
    Below bound (apply bare stored change) := by
  rcases apply_cases bare stored change with ⟨_,same⟩ | ⟨_,moved,_⟩
  · rw [same]; exact below
  · intro version held
    rw [moved] at held
    cases held
    rw [written_stamp]
    exact older

theorem applyAll_below (older : ∀ change ∈ changes, change.stamp < bound) (below : Below bound stored) :
    Below bound (applyAll bare stored changes) := by
  induction changes generalizing stored with
  | nil => exact below
  | cons change rest ih =>
    refine ih (fun other member => older other (List.mem_cons_of_mem _ member)) ?_
    exact apply_below (older change List.mem_cons_self) below

-- Nothing that is not strictly newer moves the register.
theorem apply_kept {version : Version F T} (older : change.stamp ≤ version.updatedAt) :
    apply bare (some version) change = some version := by
  rcases apply_cases bare (some version) change with ⟨_,same⟩ | ⟨_,_,below⟩
  · exact same
  · exact absurd (below version rfl) (not_lt_of_ge older)

theorem applyAll_kept {version : Version F T} (older : ∀ change ∈ changes, change.stamp ≤ version.updatedAt) :
    applyAll bare (some version) changes = some version := by
  induction changes with
  | nil => rfl
  | cons change rest ih =>
    rw [applyAll_cons,apply_kept (older change List.mem_cons_self)]
    exact ih fun other member => older other (List.mem_cons_of_mem _ member)

-- Stamps never go back, so a register that some change wins against moves on.
theorem applyAll_stamp (bare : T → F) (changes : List (Change F T)) {version : Version F T}
    (held : stored = some version) :
    ∃ later, applyAll bare stored changes = some later ∧ version.updatedAt ≤ later.updatedAt := by
  induction changes generalizing stored version with
  | nil => exact ⟨version,held,le_refl _⟩
  | cons change rest ih =>
    rw [applyAll_cons]
    rcases apply_cases bare stored change with ⟨_,same⟩ | ⟨_,moved,below⟩
    · rw [same]
      exact ih held
    · rw [moved]
      obtain ⟨later,final,newer⟩ := ih rfl
      refine ⟨later,final,le_trans (le_of_lt (below version held)) ?_⟩
      rwa [written_stamp] at newer

theorem applyAll_moved (bare : T → F) (member : change ∈ changes) (wins : change.wins stored = true) :
    ∃ later, applyAll bare stored changes = some later ∧ Below later.updatedAt stored := by
  induction changes with
  | nil => cases member
  | cons first rest ih =>
    rw [applyAll_cons]
    rcases apply_cases bare stored first with ⟨loses,same⟩ | ⟨_,moved,below⟩
    · rw [same]
      rcases List.mem_cons.mp member with rfl | later
      · rw [wins] at loses
        cases loses
      · exact ih later
    · rw [moved]
      obtain ⟨later,final,newer⟩ := applyAll_stamp bare rest (rfl : some (first.written bare stored) = _)
      rw [written_stamp] at newer
      exact ⟨later,final,fun version held => lt_of_lt_of_le (below version held) newer⟩

-- A condition on fields and one on stamps pass from what a change carries and
-- what it finds to what it writes.
def Version.All (P : F → Prop) (R : T → Prop) (version : Version F T) : Prop :=
  P version.fields ∧ R version.updatedAt ∧ ∀ deletedAt ∈ version.deletedAt, R deletedAt

def Change.All (P : F → Prop) (R : T → Prop) : Change F T → Prop
  | .upsert fields updatedAt => P fields ∧ R updatedAt
  | .delete updatedAt => R updatedAt

omit [LinearOrder T] in
theorem written_all {P : F → Prop} {R : T → Prop} (bared : ∀ t, R t → P (bare t)) (offered : change.All P R)
    (held : ∀ version ∈ stored, version.All P R) : (change.written bare stored).All P R := by
  cases change with
  | upsert fields updatedAt => exact ⟨offered.1,offered.2,by simp [Change.written]⟩
  | delete updatedAt =>
    refine ⟨?_,offered,?_⟩
    · cases stored with
      | none => exact bared _ offered
      | some old => exact (held old rfl).1
    · intro deletedAt marked
      cases marked
      exact offered

-- Only deletions mark.
theorem applyAll_live (upserts : ∀ change ∈ changes, change.deletes = false)
    (live : ∀ version ∈ stored, version.deletedAt = none) :
    ∀ version ∈ applyAll bare stored changes, version.deletedAt = none := by
  induction changes generalizing stored with
  | nil => exact live
  | cons change rest ih =>
    refine ih (fun other member => upserts other (List.mem_cons_of_mem _ member)) ?_
    have plain := upserts change List.mem_cons_self
    cases change with
    | delete => cases plain
    | upsert fields updatedAt =>
      intro version held
      rcases apply_cases bare stored (.upsert fields updatedAt) with ⟨_,same⟩ | ⟨_,moved,_⟩
      · rw [same] at held; exact live version held
      · rw [moved] at held; cases held; rfl

-- What holds of the fields of every upsert holds of the fields of a live register.
theorem applyAll_fields {P : F → Prop} (offered : ∀ fields updatedAt, .upsert fields updatedAt ∈ changes → P fields)
    (held : ∀ version ∈ stored, version.deletedAt = none → P version.fields) :
    ∀ version ∈ applyAll bare stored changes, version.deletedAt = none → P version.fields := by
  induction changes generalizing stored with
  | nil => exact held
  | cons change rest ih =>
    refine ih (fun fields updatedAt member => offered fields updatedAt (List.mem_cons_of_mem _ member)) ?_
    intro version inside live
    rcases apply_cases bare stored change with ⟨_,same⟩ | ⟨_,moved,_⟩
    · rw [same] at inside; exact held version inside live
    · rw [moved] at inside
      cases inside
      cases change with
      | upsert fields updatedAt => exact offered fields updatedAt List.mem_cons_self
      | delete => cases live

-- The newest change is written when it comes, unless it is a deletion that
-- finds the register already marked.
theorem apply_settles (bare : T → F) (below : Below change.stamp stored)
    (open_ : change.deletes = true → ∀ version ∈ stored, version.deletedAt = none) :
    ∃ version, apply bare stored change = some version ∧ change.Settles version := by
  have wins : change.wins stored = true := by
    cases stored with
    | none => cases change <;> rfl
    | some old =>
      have older := below old rfl
      cases change with
      | upsert fields updatedAt => simpa [Change.wins,Change.stamp] using older
      | delete updatedAt => simpa [Change.wins,Change.stamp,open_ rfl old rfl] using older
  refine ⟨change.written bare stored,by simp [apply,wins],?_⟩
  cases change with
  | upsert fields updatedAt => rfl
  | delete updatedAt => exact ⟨rfl,rfl⟩

omit [LinearOrder T] in
theorem Change.Settles.stamp {version : Version F T} (settles : change.Settles version) :
    version.updatedAt = change.stamp := by
  cases change with
  | upsert => rw [settles]; rfl
  | delete => exact settles.1

section convergence
variable {winner : Change F T} (member : winner ∈ changes)
  (newest : ∀ change ∈ changes, change ≠ winner → change.stamp < winner.stamp)
  (distinct : changes.Pairwise fun a b => a.stamp ≠ b.stamp)
include member newest distinct

-- Around the place of the newest change in an order, everything is older.
theorem split_newest {order : List (Change F T)} (perm : order.Perm changes) :
    ∃ earlier later, order = earlier ++ winner :: later ∧
      (∀ change ∈ earlier, change ∈ changes ∧ change.stamp < winner.stamp) ∧
      ∀ change ∈ later, change ∈ changes ∧ change.stamp < winner.stamp := by
  obtain ⟨earlier,later,rfl⟩ := List.append_of_mem (perm.mem_iff.mpr member)
  have apart := distinct.perm perm.symm fun different => different.symm
  rw [List.pairwise_append] at apart
  obtain ⟨_,tail,cross⟩ := apart
  refine ⟨earlier,later,rfl,fun change inside => ?_,fun change inside => ?_⟩
  · have listed := perm.mem_iff.mp (List.mem_append_left _ inside)
    refine ⟨listed,newest change listed fun same => ?_⟩
    exact cross change inside winner List.mem_cons_self (by rw [same])
  · have listed := perm.mem_iff.mp (List.mem_append_right _ (List.mem_cons_of_mem _ inside))
    refine ⟨listed,newest change listed fun same => ?_⟩
    exact (List.pairwise_cons.mp tail).1 change inside (by rw [same])

-- An order that starts with an older deletion and then the newest one, which
-- finds the register marked, never takes up the newest stamp.
theorem worst_order (bare : T → F) {other : Change F T} (listed : other ∈ changes) (different : other ≠ winner)
    (deleting : winner.deletes = true) (marks : other.deletes = true) :
    ∃ rest, (other :: winner :: rest).Perm changes ∧
      Below winner.stamp (applyAll bare none (other :: winner :: rest)) := by
  obtain ⟨front,back,rfl⟩ := List.append_of_mem member
  have elsewhere : other ∈ front ++ back := by
    rcases List.mem_append.mp listed with early | late
    · exact List.mem_append_left _ early
    · rcases List.mem_cons.mp late with same | later
      · exact absurd same different
      · exact List.mem_append_right _ later
  obtain ⟨first,last,around⟩ := List.append_of_mem elsewhere
  have perm : (other :: winner :: (first ++ last)).Perm (front ++ winner :: back) := by
    calc other :: winner :: (first ++ last)
      _ |>.Perm (winner :: other :: (first ++ last)) := .swap _ _ _
      _ |>.Perm (winner :: (first ++ other :: last)) := List.perm_middle.symm.cons _
      _ |>.Perm (winner :: (front ++ back)) := by rw [around]
      _ |>.Perm (front ++ winner :: back) := List.perm_middle.symm
  refine ⟨first ++ last,perm,?_⟩
  have apart := distinct.perm perm.symm fun different => different.symm
  obtain ⟨_,tail⟩ := List.pairwise_cons.mp apart
  have older := newest other listed different
  cases other with
  | upsert => cases marks
  | delete early =>
    cases winner with
    | upsert => cases deleting
    | delete late =>
      have stuck : applyAll bare none (.delete early :: .delete late :: (first ++ last)) =
          applyAll bare (some ⟨bare early,early,some early⟩) (first ++ last) := by simp [apply,Change.wins,Change.written]
      rw [stuck]
      refine applyAll_below (fun change inside => ?_) ?_
      · have listed := perm.mem_iff.mp (List.mem_cons_of_mem _ (List.mem_cons_of_mem _ inside))
        exact newest change listed fun same => (List.pairwise_cons.mp tail).1 change inside (by rw [same])
      · intro version held
        cases held
        exact older

-- Every order ends in what the newest change says exactly when that change is
-- an upsert or the only deletion.
theorem converges_iff :
    (∀ order : List (Change F T), order.Perm changes →
      ∃ version, applyAll bare none order = some version ∧ winner.Settles version) ↔
    (winner.deletes = true → ∀ change ∈ changes, change ≠ winner → change.deletes = false) := by
  constructor
  · intro converges deleting other listed different
    cases marks : other.deletes with
    | false => rfl
    | true =>
      obtain ⟨rest,perm,below⟩ := worst_order member newest distinct bare listed different deleting marks
      obtain ⟨version,final,settles⟩ := converges _ perm
      have older := below version final
      rw [settles.stamp] at older
      exact absurd older (lt_irrefl _)
  · intro only order perm
    obtain ⟨earlier,later,rfl,before,after⟩ := split_newest member newest distinct perm
    have below : Below winner.stamp (applyAll bare none earlier) :=
      applyAll_below (fun change inside => (before change inside).2) (by simp [Below])
    obtain ⟨version,written,settles⟩ := apply_settles bare below fun deleting => by
      refine applyAll_live (fun change inside => ?_) (by simp)
      obtain ⟨listed,older⟩ := before change inside
      exact only deleting change listed fun same => by rw [same] at older; exact lt_irrefl _ older
    refine ⟨version,?_,settles⟩
    rw [applyAll_append,applyAll_cons,written]
    refine applyAll_kept fun change inside => ?_
    rw [settles.stamp]
    exact (after change inside).2.le

end convergence
end LastWriter
