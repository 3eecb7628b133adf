import Mathlib.Data.List.Infix

-- The pattern language of LIKE: `%` stands for any text, `_` for one character and
-- `\` takes the character after it as it is. A pattern that ends in such a `\` is
-- an error of its own, and no match here.
namespace SqlLike

def starts (fits : Char → Bool) (next : List Char → Bool) : List Char → Bool
  | [] => false
  | c :: rest => fits c && next rest

-- What is left of a pattern, after a `\` or not.
def likeFrom : Bool → List Char → List Char → Bool
  | escaped,[],text => !escaped && text.isEmpty
  | escaped,c :: pattern,text =>
    if escaped then starts (· = c) (likeFrom false pattern) text
    else if c = '%' then text.tails.any (likeFrom false pattern)
    else if c = '_' then starts (fun _ => true) (likeFrom false pattern) text
    else if c = '\\' then likeFrom true pattern text
    else starts (· = c) (likeFrom false pattern) text

def like (text pattern : List Char) : Bool := likeFrom false pattern text

def Plain (needle : List Char) : Prop := ∀ c ∈ needle, c ≠ '%' ∧ c ≠ '_' ∧ c ≠ '\\'

-- The shortest text that such a needle stands for, before a further `%`.
def simplest : Bool → List Char → List Char
  | escaped,[] => if escaped then ['%'] else []
  | escaped,c :: needle =>
    if escaped then c :: simplest false needle
    else if c = '%' then simplest false needle
    else if c = '_' then 'x' :: simplest false needle
    else if c = '\\' then simplest true needle
    else c :: simplest false needle

attribute [grind =] likeFrom simplest

variable {needle text : List Char} {c : Char} {escaped : Bool}

theorem like_any : likeFrom false ['%'] text = true := by
  simp only [likeFrom,Bool.false_eq_true,if_false,if_true,List.any_eq_true]
  exact ⟨[],(List.mem_tails _ _).mpr List.nil_suffix,rfl⟩

theorem like_plain (plain : Plain needle) : likeFrom false (needle ++ ['%']) text = true ↔ needle <+: text := by
  induction needle generalizing text with
  | nil => exact iff_of_true like_any List.nil_prefix
  | cons c needle ih =>
    obtain ⟨any,one,escape⟩ := plain c List.mem_cons_self
    have rest : Plain needle := fun e member => plain e (List.mem_cons_of_mem _ member)
    rw [List.cons_append,likeFrom,if_neg (by decide),if_neg any,if_neg one,if_neg escape]
    cases text with
    | nil => simp [starts]
    | cons d text => rw [starts,Bool.and_eq_true,decide_eq_true_eq,ih rest,List.cons_prefix_cons,eq_comm]

-- A needle without special characters is found where it stands in the text.
theorem like_within (plain : Plain needle) : like text ('%' :: (needle ++ ['%'])) = true ↔ needle <:+: text := by
  rw [like,likeFrom,if_neg (by decide),if_pos rfl,List.any_eq_true,List.infix_iff_prefix_suffix]
  refine exists_congr fun part => ?_
  rw [List.mem_tails,like_plain plain,and_comm]

theorem like_simplest : likeFrom escaped (needle ++ ['%']) (simplest escaped needle) = true := by
  induction needle generalizing escaped with
  | nil => cases escaped <;> decide
  | cons c needle ih =>
    rw [List.cons_append,likeFrom,simplest]
    cases escaped with
    | true => simpa [starts] using ih
    | false =>
      by_cases any : c = '%'
      · simp only [any,Bool.false_eq_true,if_false,if_true,List.any_eq_true]
        exact ⟨_,(List.mem_tails _ _).mpr (List.suffix_refl _),ih⟩
      · by_cases one : c = '_'
        · simpa [one,starts] using ih
        · by_cases escape : c = '\\'
          · simpa [escape] using ih
          · simpa [any,one,escape,starts] using ih

-- A `\` before it lengthens the text by no more than its own place.
theorem simplest_short : (simplest escaped needle).length ≤ needle.length + escaped.toNat := by
  induction needle generalizing escaped with
  | nil => cases escaped <;> decide
  | cons c needle ih =>
    have plain := @ih false
    have after := @ih true
    simp only [Bool.toNat_false,Bool.toNat_true] at plain after
    rw [simplest]
    cases escaped with
    | true =>
      simp only [if_true,List.length_cons,Bool.toNat_true]
      omega
    | false =>
      simp only [Bool.false_eq_true,if_false,List.length_cons,Bool.toNat_false]
      split
      · omega
      · split
        · simp only [List.length_cons]
          omega
        · split
          · exact after
          · simp only [List.length_cons]
            omega

theorem simplest_plain (same : simplest false needle = needle) : Plain needle := by
  induction needle with
  | nil => simp [Plain]
  | cons c needle ih =>
    have short := @simplest_short needle false
    rw [simplest,if_neg (by decide)] at same
    by_cases any : c = '%'
    · rw [if_pos any] at same
      have lengths := congrArg List.length same
      simp only [List.length_cons,Bool.toNat_false] at lengths short
      omega
    · by_cases one : c = '_'
      · rw [if_neg any,if_pos one] at same
        have head := (List.cons.inj same).1
        rw [one] at head
        exact absurd head (by decide)
      · rw [if_neg any,if_neg one] at same
        by_cases escape : c = '\\'
        · rw [if_pos escape,escape] at same
          cases needle with
          | nil => exact absurd same (by decide)
          | cons d needle =>
            have fewer := @simplest_short needle false
            rw [simplest,if_pos rfl] at same
            have lengths := congrArg List.length same
            simp only [List.length_cons,Bool.toNat_false] at lengths fewer
            omega
        · rw [if_neg escape] at same
          exact List.forall_mem_cons.mpr ⟨⟨any,one,escape⟩,ih (List.cons.inj same).2⟩

theorem simplest_apart (special : ¬ Plain needle) : ¬ needle <:+: simplest false needle := by
  intro within
  have short := @simplest_short needle false
  have same := within.eq_of_length (by have := within.length_le; simp only [Bool.toNat_false] at short; omega)
  exact special (simplest_plain same.symm)

theorem simplest_letters (member : c ∈ simplest escaped needle) : c ∈ needle ∨ c = 'x' ∨ c = '%' := by
  induction needle generalizing escaped with
  | nil =>
    cases escaped with
    | true => exact .inr (.inr (List.mem_singleton.mp member))
    | false => cases member
  | cons d needle ih =>
    have kept : ∀ {later : Bool}, c ∈ simplest later needle → c ∈ d :: needle ∨ c = 'x' ∨ c = '%' := fun there =>
      (ih there).imp_left (List.mem_cons_of_mem _)
    have first : c ∈ d :: simplest false needle → c ∈ d :: needle ∨ c = 'x' ∨ c = '%' := by
      intro there
      rcases List.mem_cons.mp there with rfl | there
      · exact .inl List.mem_cons_self
      · exact kept there
    rw [simplest] at member
    split at member
    · exact first member
    · split at member
      · exact kept member
      · split at member
        · rcases List.mem_cons.mp member with rfl | there
          · exact .inr (.inl rfl)
          · exact kept there
        · split at member
          · exact kept member
          · exact first member

end SqlLike
