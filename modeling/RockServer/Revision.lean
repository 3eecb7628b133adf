import RockServer.CommandStore

namespace DeviceControl

-- Monotonic revisions, shared by manifests and state observations.
inductive RevisionOrder where
  | next
  | stale
  | replay
  | conflict
  | gap
deriving DecidableEq, Repr

def revisionOrder {T : Type} [DecidableEq T] (acceptedRevision : Nat) (accepted : T) (incomingRevision : Nat)
    (incoming : T) (requiredBase : Option Nat) : RevisionOrder :=
  if incomingRevision < acceptedRevision then .stale
  else if incomingRevision = acceptedRevision then (if accepted = incoming then .replay else .conflict)
  else if (requiredBase.any fun base => base ≠ acceptedRevision) ∨ incomingRevision ≠ acceptedRevision + 1 then .gap
  else .next

def outcome {T : Type} [DecidableEq T] (acceptedRevision : Nat) (accepted : T) (incomingRevision : Nat)
    (incoming : T) : Option StoreOutcome :=
  match revisionOrder acceptedRevision accepted incomingRevision incoming none with
  | .next => none
  | .stale => some .stale
  | .replay => some .replay
  | .conflict => some .conflict
  | .gap => some .resync

-- Revisions are cast to a signed column with the check that they are positive:
-- from 2^63 on the cast is negative.
def columnRevision (revision : Nat) : Bool := 0 < revision && revision < 2^63

section order
variable {T : Type} [DecidableEq T] {acceptedRevision incomingRevision : Nat} {accepted incoming : T}
  {requiredBase : Option Nat}

theorem order_stale : revisionOrder acceptedRevision accepted incomingRevision incoming requiredBase = .stale ↔
    incomingRevision < acceptedRevision := by
  unfold revisionOrder
  split
  · simp_all
  · split
    · split <;> simp_all
    · split <;> simp_all

theorem order_replay : revisionOrder acceptedRevision accepted incomingRevision incoming requiredBase = .replay ↔
    incomingRevision = acceptedRevision ∧ accepted = incoming := by
  unfold revisionOrder
  split
  · simp only [reduceCtorEq,false_iff,not_and]
    omega
  · split
    · split <;> simp_all
    · split <;> simp_all

theorem order_conflict : revisionOrder acceptedRevision accepted incomingRevision incoming requiredBase = .conflict ↔
    incomingRevision = acceptedRevision ∧ accepted ≠ incoming := by
  unfold revisionOrder
  split
  · simp only [reduceCtorEq,false_iff,not_and]
    omega
  · split
    · split <;> simp_all
    · split <;> simp_all

theorem order_next : revisionOrder acceptedRevision accepted incomingRevision incoming requiredBase = .next ↔
    incomingRevision = acceptedRevision + 1 ∧ ∀ base ∈ requiredBase, base = acceptedRevision := by
  unfold revisionOrder
  split
  · simp only [reduceCtorEq,false_iff,not_and]
    omega
  · split
    · split <;> (simp only [reduceCtorEq,false_iff,not_and]; omega)
    · split
      · rename_i ahead
        simp only [reduceCtorEq,false_iff,not_and]
        intro successor based
        rcases ahead with other | far
        · obtain ⟨base,present,different⟩ := (Option.any_eq_true _ _).mp other
          exact absurd (based base present) (of_decide_eq_true different)
        · exact far successor
      · rename_i near
        simp only [not_or,Bool.not_eq_true,Option.any_eq_false,not_not] at near
        simp only [true_iff]
        exact ⟨near.2,fun base present => by simpa using near.1 base present⟩

theorem order_gap (order : revisionOrder acceptedRevision accepted incomingRevision incoming requiredBase = .gap) :
    acceptedRevision < incomingRevision := by
  have newer : ¬ incomingRevision < acceptedRevision := fun older => by
    rw [order_stale.mpr older] at order
    cases order
  have other : incomingRevision ≠ acceptedRevision := fun same => by
    by_cases equal : accepted = incoming
    · rw [order_replay.mpr ⟨same,equal⟩] at order
      cases order
    · rw [order_conflict.mpr ⟨same,equal⟩] at order
      cases order
  omega

theorem outcome_cases : outcome acceptedRevision accepted incomingRevision incoming = none ∧
      incomingRevision = acceptedRevision + 1 ∨
    outcome acceptedRevision accepted incomingRevision incoming = some .stale ∧ incomingRevision < acceptedRevision ∨
    outcome acceptedRevision accepted incomingRevision incoming = some .replay ∧
      incomingRevision = acceptedRevision ∧ accepted = incoming ∨
    outcome acceptedRevision accepted incomingRevision incoming = some .conflict ∧
      incomingRevision = acceptedRevision ∧ accepted ≠ incoming ∨
    outcome acceptedRevision accepted incomingRevision incoming = some .resync ∧
      acceptedRevision + 1 < incomingRevision := by
  unfold outcome
  cases order : revisionOrder acceptedRevision accepted incomingRevision incoming none with
  | next => exact .inl ⟨rfl,(order_next.mp order).1⟩
  | stale => exact .inr (.inl ⟨rfl,order_stale.mp order⟩)
  | replay => exact .inr (.inr (.inl ⟨rfl,order_replay.mp order⟩))
  | conflict => exact .inr (.inr (.inr (.inl ⟨rfl,order_conflict.mp order⟩)))
  | gap =>
    refine .inr (.inr (.inr (.inr ⟨rfl,?_⟩)))
    have later := order_gap order
    have far : incomingRevision ≠ acceptedRevision + 1 := fun successor => by
      rw [order_next.mpr ⟨successor,by simp⟩] at order
      cases order
    omega

end order
end DeviceControl
