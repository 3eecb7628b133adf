import Mathlib.Data.List.Induction
import Mathlib.Data.Int.Order.Basic

-- Rate limits by fixed windows: a counter for each bucket admits its first call
-- and further ones below the limit. What a window across buckets admits.
namespace FixedWindows
variable {Call Bucket : Type} [DecidableEq Bucket]

-- A counter starts at its first call, and grows below the limit.
def grant (stored : Option Int) (limit : Int) : Option Int := match stored with
  | none => some 1
  | some count => if count < limit then some (count + 1) else none

def stored (admitted : Nat) : Option Int := if admitted = 0 then none else some admitted

section counting
variable (bucket : Call → Bucket) (count : Call → Option Int)

def admitted (calls : List Call) (b : Bucket) : Nat := calls.countP fun call => (count call).isSome && bucket call = b

-- The answers to calls in the order in which they are served.
def Answered (limit : Call → Int) (calls : List Call) : Prop := ∀ earlier call later, calls = earlier ++ call :: later →
  count call = grant (stored (admitted bucket count earlier (bucket call))) (limit call)

end counting

variable {bucket : Call → Bucket} {count : Call → Option Int} {limit : Call → Int} {calls earlier later : List Call}
variable {call : Call} {b : Bucket} {bound : Int}

theorem grant_some {n : Nat} : (grant (stored n) bound).isSome = true ↔ n = 0 ∨ (n : Int) < bound := by
  unfold stored grant
  by_cases zero : n = 0
  · simp [zero]
  · by_cases below : (n : Int) < bound <;> simp [zero,below]

theorem grant_count {n : Nat} {granted : Int} (given : grant (stored n) bound = some granted) : granted = n + 1 := by
  unfold stored grant at given
  split at given
  · rename_i empty
    split at empty
    · rename_i zero
      subst zero
      exact (Option.some.inj given).symm
    · cases empty
  · rename_i counted
    split at counted
    · cases counted
    · cases counted
      split at given
      · exact (Option.some.inj given).symm
      · cases given

theorem answered_nil : Answered bucket count limit [] := by
  intro earlier call later split
  cases earlier <;> cases split

theorem answered_snoc (answered : Answered bucket count limit calls)
    (last : count call = grant (stored (admitted bucket count calls (bucket call))) (limit call)) :
    Answered bucket count limit (calls ++ [call]) := by
  intro earlier other later split
  rcases List.eq_nil_or_concat later with rfl | ⟨front,final,rfl⟩
  · obtain ⟨rfl,same⟩ := List.append_inj' split rfl
    cases same
    exact last
  · rw [List.concat_eq_append,← List.cons_append,← List.append_assoc] at split
    exact answered earlier other front (List.append_inj' split rfl).1

theorem admitted_snoc : admitted bucket count (calls ++ [call]) b =
    admitted bucket count calls b + if (count call).isSome = true ∧ bucket call = b then 1 else 0 := by
  unfold admitted
  rw [List.countP_append,List.countP_singleton]
  simp only [Bool.and_eq_true,decide_eq_true_iff]

theorem granted_iff (answered : Answered bucket count limit calls) (split : calls = earlier ++ call :: later) :
    (count call).isSome = true ↔ admitted bucket count earlier (bucket call) = 0 ∨
      (admitted bucket count earlier (bucket call) : Int) < limit call := by
  rw [answered earlier call later split]
  exact grant_some

-- A call is admitted, or an earlier one of its bucket was.
theorem opened (answered : Answered bucket count limit calls) (split : calls = earlier ++ call :: later) :
    (count call).isSome = true ∨ ∃ first ∈ earlier, bucket first = bucket call ∧ (count first).isSome = true := by
  by_cases empty : admitted bucket count earlier (bucket call) = 0
  · exact .inl ((granted_iff answered split).mpr (.inl empty))
  · obtain ⟨first,member,met⟩ := List.countP_pos_iff.mp (Nat.pos_of_ne_zero empty)
    rw [Bool.and_eq_true,decide_eq_true_iff] at met
    exact .inr ⟨first,member,met.2,met.1⟩

-- No call of its bucket comes before the one that is counted first.
theorem counted_first (answered : Answered bucket count limit calls) (split : calls = earlier ++ call :: later)
    (first : count call = some 1) : ∀ other ∈ earlier, bucket other ≠ bucket call := by
  intro other member same
  have started := grant_count ((answered earlier call later split).symm.trans first)
  have empty : admitted bucket count earlier (bucket call) = 0 := by omega
  unfold admitted at empty
  rw [List.countP_eq_zero] at empty
  obtain ⟨front,back,parts⟩ := List.append_of_mem member
  have whole : calls = front ++ other :: (back ++ call :: later) := by rw [split,parts]; simp
  rcases opened answered whole with given | ⟨before,there,alike,given⟩
  · exact empty other member (by rw [given,same]; simp)
  · exact empty before (parts ▸ List.mem_append_left _ there) (by rw [given,alike,same]; simp)

-- A bucket never admits more than its limit, nor more than one call where the
-- limit is below one.
theorem bucket_bounded (answered : Answered bucket count limit calls)
    (uniform : ∀ call ∈ calls, bucket call = b → limit call = bound) :
    (admitted bucket count calls b : Int) ≤ max 1 bound := by
  induction calls using List.reverseRecOn with
  | nil => exact le_trans (by simp [admitted]) (Int.le_max_left 1 bound)
  | append_singleton rest call ih =>
    have prior := ih (fun earlier other later split => answered earlier other (later ++ [call]) (by rw [split]; simp))
      fun other member => uniform other (List.mem_append_left _ member)
    rw [admitted_snoc]
    split
    · rename_i mine
      obtain ⟨given,here⟩ := mine
      have rule := (granted_iff answered rfl).mp given
      rw [uniform call (List.mem_append_right _ List.mem_cons_self) here,here] at rule
      omega
    · simpa using prior

-- Enough for a window of calls to stay within the limit, in any order of
-- service.
theorem within (window : Call → Bool) (answered : Answered bucket count limit calls)
    (uniform : ∀ call ∈ calls, window call = true → ∀ other ∈ calls, bucket other = bucket call → limit other = bound)
    (spread : (calls.countP window : Int) ≤ bound ∨
      1 ≤ bound ∧ ∀ call ∈ calls, ∀ other ∈ calls, window call = true → window other = true → bucket call = bucket other) :
    (calls.countP (fun call => (count call).isSome && window call) : Int) ≤ bound := by
  rcases spread with few | ⟨positive,single⟩
  · have fewer : calls.countP (fun call => (count call).isSome && window call) ≤ calls.countP window :=
      List.countP_mono_left fun call _ met => ((Bool.and_eq_true _ _).mp met).2
    omega
  · by_cases inside : ∃ call ∈ calls, window call = true
    · obtain ⟨call,member,met⟩ := inside
      have covered : calls.countP (fun call => (count call).isSome && window call) ≤ admitted bucket count calls (bucket call) := by
        refine List.countP_mono_left fun other there both => ?_
        rw [Bool.and_eq_true] at both ⊢
        exact ⟨both.1,decide_eq_true (single other there call member both.2 met)⟩
      have bounded : (admitted bucket count calls (bucket call) : Int) ≤ max 1 bound :=
        bucket_bounded answered (uniform call member met)
      rw [max_eq_right positive] at bounded
      omega
    · have none : calls.countP (fun call => (count call).isSome && window call) = 0 := by
        rw [List.countP_eq_zero]
        exact fun call member both => inside ⟨call,member,(Bool.and_eq_true _ _ ▸ both).2⟩
      rw [none]
      exact le_trans (by decide) positive

theorem refused_full (answered : Answered bucket count limit calls) (split : calls = earlier ++ call :: later)
    (refused : (count call).isSome = false) : limit call ≤ admitted bucket count earlier (bucket call) := by
  by_contra below
  have given := (granted_iff answered split).mpr (.inr (not_le.mp below))
  rw [given] at refused
  cases refused

-- Where the window holds with a call all earlier ones of its bucket, the
-- condition is exact.
theorem within_exact (window : Call → Bool) (answered : Answered bucket count limit calls)
    (uniform : ∀ call ∈ calls, window call = true → ∀ other ∈ calls, bucket other = bucket call → limit other = bound)
    (closed : ∀ earlier call later, calls = earlier ++ call :: later → window call = true →
      ∀ other ∈ earlier, bucket other = bucket call → window other = true) :
    (calls.countP (fun call => (count call).isSome && window call) : Int) ≤ bound ↔ (calls.countP window : Int) ≤ bound ∨
      1 ≤ bound ∧ ∀ call ∈ calls, ∀ other ∈ calls, window call = true → window other = true → bucket call = bucket other := by
  refine ⟨fun kept => ?_,within window answered uniform⟩
  by_contra crowded
  rw [not_or] at crowded
  obtain ⟨many,mixed⟩ := crowded
  -- Every bucket that the window meets has an admitted call in it.
  have opener : ∀ call ∈ calls, window call = true →
      ∃ first ∈ calls, bucket first = bucket call ∧ (count first).isSome = true ∧ window first = true := by
    intro call member met
    obtain ⟨earlier,later,split⟩ := List.append_of_mem member
    rcases opened answered split with given | ⟨first,before,same,given⟩
    · exact ⟨call,member,rfl,given,met⟩
    · exact ⟨first,split ▸ List.mem_append_left _ before,same,given,closed earlier call later split met first before same⟩
  have refusal : ∃ call ∈ calls, window call = true ∧ (count call).isSome = false := by
    by_contra none
    have all : calls.countP window ≤ calls.countP fun call => (count call).isSome && window call := by
      refine List.countP_mono_left fun call member met => ?_
      rw [Bool.and_eq_true]
      refine ⟨?_,met⟩
      by_contra refused
      exact none ⟨call,member,met,Bool.not_eq_true _ ▸ refused⟩
    omega
  obtain ⟨call,member,met,refused⟩ := refusal
  obtain ⟨earlier,later,split⟩ := List.append_of_mem member
  have full := refused_full answered split refused
  rw [uniform call member met call member rfl] at full
  have inside : admitted bucket count earlier (bucket call) ≤
      calls.countP fun other => ((count other).isSome && window other) && bucket other = bucket call := by
    rw [split,List.countP_append]
    refine Nat.le_trans ?_ (Nat.le_add_right _ _)
    refine List.countP_mono_left fun other before both => ?_
    rw [Bool.and_eq_true,decide_eq_true_iff] at both
    rw [Bool.and_eq_true,Bool.and_eq_true,decide_eq_true_iff]
    exact ⟨⟨both.1,closed earlier call later split met other before both.2⟩,both.2⟩
  have parts := List.countP_eq_countP_filter_add calls (fun other => (count other).isSome && window other)
    fun other => bucket other = bucket call
  rw [List.countP_filter,List.countP_filter] at parts
  have outside (other : Call) (there : other ∈ calls) (chosen : window other = true) : bucket other = bucket call := by
    by_contra apart
    obtain ⟨first,here,same,given,covered⟩ := opener other there chosen
    have positive : 0 < calls.countP fun other => ((count other).isSome && window other) && !decide (bucket other = bucket call) := by
      refine List.countP_pos_iff.mpr ⟨first,here,?_⟩
      rw [Bool.and_eq_true,Bool.and_eq_true,Bool.not_eq_true',decide_eq_false_iff_not,same]
      exact ⟨⟨given,covered⟩,apart⟩
    omega
  have nonempty : 1 ≤ bound := by
    obtain ⟨first,here,_,given,covered⟩ := opener call member met
    have positive : 0 < calls.countP fun other => (count other).isSome && window other :=
      List.countP_pos_iff.mpr ⟨first,here,by rw [given,covered]; rfl⟩
    omega
  exact mixed ⟨nonempty,fun one first two second left right => (outside one first left).trans (outside two second right).symm⟩

end FixedWindows
