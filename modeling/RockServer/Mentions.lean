import Mathlib.Data.List.Basic

-- Names of one or more words in a text, each standing for a code. A name that is
-- part of a longer one of another code does not mention its own.
namespace Mentions
variable {C W : Type}

structure Occurrence (C W : Type) where
  code : C
  name : List W
  start : Nat

def Occurs (names : List (C × List W)) (text : List W) (o : Occurrence C W) : Prop :=
  (o.code,o.name) ∈ names ∧ o.start ≤ text.length ∧ (text.drop o.start).take o.name.length = o.name

def Inside (o outer : Occurrence C W) : Prop :=
  o.code ≠ outer.code ∧ outer.start ≤ o.start ∧ o.start + o.name.length ≤ outer.start + outer.name.length ∧
    o.name.length < outer.name.length

def Named (names : List (C × List W)) (text : List W) (code : C) : Prop := ∃ o, Occurs names text o ∧ o.code = code

def Mentioned (names : List (C × List W)) (text : List W) (code : C) : Prop :=
  ∃ o, Occurs names text o ∧ o.code = code ∧ ∀ outer, Occurs names text outer → ¬Inside o outer

-- A name of one code within a longer name of another.
def Nested (names : List (C × List W)) (text : List W) : Prop :=
  ∃ o outer, Occurs names text o ∧ Occurs names text outer ∧ Inside o outer

def Several (P : C → Prop) : Prop := ∃ code other, code ≠ other ∧ P code ∧ P other

def Only (P : C → Prop) (code : C) : Prop := ∀ other, P other ↔ other = code

variable {names : List (C × List W)} {text : List W} {o : Occurrence C W} {code : C} {P : C → Prop}

theorem Mentioned.named (mentioned : Mentioned names text code) : Named names text code := by
  obtain ⟨o,occurs,same,_⟩ := mentioned
  exact ⟨o,occurs,same⟩

theorem Occurs.short (occurs : Occurs names text o) : o.name.length ≤ text.length := by
  have length := congrArg List.length occurs.2.2
  rw [List.length_take,List.length_drop] at length
  omega

-- Every name leads out to one that nothing longer holds.
theorem Occurs.mention (occurs : Occurs names text o) : ∃ code, Mentioned names text code := by
  generalize room : text.length - o.name.length = n
  induction n using Nat.strongRecOn generalizing o with
  | _ n ih =>
    by_cases held : ∃ outer, Occurs names text outer ∧ Inside o outer
    · obtain ⟨outer,around,inside⟩ := held
      have longer := inside.2.2.2
      have short := around.short
      exact ih (text.length - outer.name.length) (by omega) around rfl
    · exact ⟨o.code,o,occurs,rfl,fun outer around inside => held ⟨outer,around,inside⟩⟩

theorem Only.not_several (only : Only P code) : ¬Several P := by
  rintro ⟨first,second,apart,one,other⟩
  exact apart (((only first).mp one).trans ((only second).mp other).symm)

theorem only_of_not_several (some_ : P code) (few : ¬Several P) : Only P code := by
  intro other
  constructor
  · intro another
    by_contra apart
    exact few ⟨other,code,apart,another,some_⟩
  · rintro rfl
    exact some_

theorem several_named (several : Several (Mentioned names text)) : Several (Named names text) := by
  obtain ⟨code,other,apart,one,another⟩ := several
  exact ⟨code,other,apart,one.named,another.named⟩

-- To look for names anywhere finds the one code that is mentioned exactly where
-- no name is nested, or more than one is mentioned.
theorem only_named_iff : (∀ code, Only (Mentioned names text) code → Only (Named names text) code) ↔
    (Nested names text → Several (Mentioned names text)) := by
  constructor
  · rintro found ⟨o,outer,occurs,around,inside⟩
    by_contra few
    obtain ⟨code,mentioned⟩ := around.mention
    have only := found code (only_of_not_several mentioned few)
    have first := (only o.code).mp ⟨o,occurs,rfl⟩
    have second := (only outer.code).mp ⟨outer,around,rfl⟩
    exact inside.1 (first.trans second.symm)
  · intro apart code only other
    have flat : ¬Nested names text := fun nested => only.not_several (apart nested)
    refine Iff.trans ⟨?_,Mentioned.named⟩ (only other)
    rintro ⟨o,occurs,rfl⟩
    exact ⟨o,occurs,rfl,fun outer around inside => flat ⟨o,outer,occurs,around,inside⟩⟩

end Mentions
