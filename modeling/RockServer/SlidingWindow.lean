import Mathlib.Algebra.Order.Group.Defs
import Mathlib.Algebra.Order.Sub.Basic
import Mathlib.Data.List.Induction

-- Rate limits by a sliding window: the instants of admitted calls are kept while
-- they are younger than the window, and a call is admitted while fewer are kept
-- than may burst.
namespace SlidingWindow
variable {T : Type} [AddCommGroup T] [LinearOrder T]

section definitions
variable (window : T) (burst : Nat)

def prune (now : T) (times : List T) : List T := times.filter fun seen => now - seen < window

-- What is kept after a call, and whether it is admitted.
def admission (now : T) (times : List T) : List T × Bool :=
  if burst ≤ (prune window now times).length then (prune window now times,false)
  else (prune window now times ++ [now],true)

def step (served : List T × List (T × Bool)) (now : T) : List T × List (T × Bool) :=
  ((admission window burst now served.1).1,served.2 ++ [(now,(admission window burst now served.1).2)])

-- The instants kept after some calls, and the calls with their answers.
def serve (calls : List T) : List T × List (T × Bool) := calls.foldl (step window burst) ([],[])

end definitions

def admitted (log : List (T × Bool)) : List T := (log.filter (·.2)).map (·.1)

variable {window now start finish : T} {burst : Nat} {calls times : List T} {log earlier later : List (T × Bool)} {call : T × Bool}

theorem serve_snoc : serve window burst (calls ++ [now]) = step window burst (serve window burst calls) now := by
  rw [serve,List.foldl_append]
  rfl

omit [AddCommGroup T] [LinearOrder T] in
theorem admitted_snoc : admitted (log ++ [call]) = admitted log ++ if call.2 = true then [call.1] else [] := by
  obtain ⟨now,given⟩ := call
  cases given <;> simp [admitted]

-- A call is refused, or else admitted and kept.
theorem step_cases (window : T) (burst : Nat) (now : T) (served : List T × List (T × Bool)) :
    (burst ≤ (prune window now served.1).length ∧ step window burst served now = (prune window now served.1,served.2 ++ [(now,false)])) ∨
    ((prune window now served.1).length < burst ∧
      step window burst served now = (prune window now served.1 ++ [now],served.2 ++ [(now,true)])) := by
  unfold step admission
  by_cases full : burst ≤ (prune window now served.1).length
  · exact .inl ⟨full,by rw [if_pos full]⟩
  · exact .inr ⟨Nat.lt_of_not_le full,by rw [if_neg full]⟩

variable [IsOrderedAddMonoid T]

theorem prune_prune {earlier : T} (order : earlier ≤ now) : prune window now (prune window earlier times) = prune window now times := by
  unfold prune
  rw [List.filter_filter]
  refine List.filter_congr fun seen _ => ?_
  have longer : now - seen < window → earlier - seen < window := fun young => lt_of_le_of_lt (sub_le_sub_right order seen) young
  by_cases young : now - seen < window
  · simp [young,longer young]
  · simp [young]

-- The young instants that are kept are those of the admitted calls.
theorem prune_served (ordered : calls.Pairwise (· ≤ ·)) (last : ∀ seen ∈ calls, seen ≤ now) :
    prune window now (serve window burst calls).1 = prune window now (admitted (serve window burst calls).2) := by
  induction calls using List.reverseRecOn generalizing now with
  | nil => rfl
  | append_singleton calls middle ih =>
    rw [List.pairwise_append] at ordered
    have prior : ∀ seen ∈ calls, seen ≤ middle := fun seen member => ordered.2.2 seen member middle List.mem_cons_self
    have order : middle ≤ now := last middle (List.mem_append_right _ List.mem_cons_self)
    have kept := ih ordered.1 fun seen member => (prior seen member).trans order
    rw [serve_snoc]
    rcases step_cases window burst middle (serve window burst calls) with ⟨_,same⟩ | ⟨_,same⟩
    · rw [same,admitted_snoc]
      simpa [prune_prune order] using kept
    · rw [same,admitted_snoc]
      have both : ∀ first second : List T, prune window now (first ++ second) = prune window now first ++ prune window now second :=
        fun _ _ => List.filter_append ..
      simpa [both,prune_prune order] using kept

-- A stretch shorter than the window admits no more calls than may burst.
theorem stretch_bounded (ordered : calls.Pairwise (· ≤ ·)) (short : finish - start < window) :
    (admitted (serve window burst calls).2).countP (fun seen => start ≤ seen ∧ seen ≤ finish) ≤ burst := by
  induction calls using List.reverseRecOn with
  | nil => simp [serve,admitted]
  | append_singleton calls now ih =>
    rw [List.pairwise_append] at ordered
    have prior : ∀ seen ∈ calls, seen ≤ now := fun seen member => ordered.2.2 seen member now List.mem_cons_self
    have before := ih ordered.1
    rw [serve_snoc]
    rcases step_cases window burst now (serve window burst calls) with ⟨_,same⟩ | ⟨space,same⟩
    · rw [same,admitted_snoc]
      simpa using before
    · rw [same,admitted_snoc,if_pos rfl,List.countP_append,List.countP_singleton]
      split
      · rename_i inside
        rw [decide_eq_true_eq] at inside
        rw [prune_served ordered.1 prior] at space
        have young : (admitted (serve window burst calls).2).countP (fun seen => start ≤ seen ∧ seen ≤ finish) ≤
            (prune window now (admitted (serve window burst calls).2)).length := by
          unfold prune
          rw [← List.countP_eq_length_filter]
          refine List.countP_mono_left fun seen _ within => ?_
          rw [decide_eq_true_eq] at within ⊢
          exact lt_of_le_of_lt (sub_le_sub inside.2 within.1) short
        omega
      · exact before

-- A call is refused only where as many young ones were admitted before it.
theorem refused_full (ordered : calls.Pairwise (· ≤ ·)) (split : (serve window burst calls).2 = earlier ++ (now,false) :: later) :
    burst ≤ (prune window now (admitted earlier)).length := by
  induction calls using List.reverseRecOn generalizing later with
  | nil => cases earlier <;> cases split
  | append_singleton calls last ih =>
    rw [List.pairwise_append] at ordered
    have prior : ∀ seen ∈ calls, seen ≤ last := fun seen member => ordered.2.2 seen member last List.mem_cons_self
    rw [serve_snoc] at split
    rcases List.eq_nil_or_concat later with rfl | ⟨front,final,rfl⟩
    · rcases step_cases window burst last (serve window burst calls) with ⟨full,same⟩ | ⟨_,same⟩
      · rw [same] at split
        obtain ⟨rfl,same⟩ := List.append_inj' split rfl
        cases same
        rwa [prune_served ordered.1 prior] at full
      · rw [same] at split
        cases (List.append_inj' split rfl).2
    · rw [List.concat_eq_append,← List.cons_append,← List.append_assoc] at split
      refine @ih front ordered.1 ?_
      rcases step_cases window burst last (serve window burst calls) with ⟨_,same⟩ | ⟨_,same⟩
      · rw [same] at split
        exact (List.append_inj' split rfl).1
      · rw [same] at split
        exact (List.append_inj' split rfl).1

end SlidingWindow
