import Mathlib.Data.Nat.Bitwise

-- Blocks of numbers that agree on their leading bits, as address ranges are
-- written: a block is known by those bits and by how many bits it leaves free.
namespace AddressBlocks

structure Block where
  base : Nat
  free : Nat
deriving DecidableEq, Repr

def Block.Contains (block : Block) (n : Nat) : Prop := n / 2 ^ block.free = block.base

instance (block : Block) (n : Nat) : Decidable (block.Contains n) := inferInstanceAs (Decidable (_ = _))

def Within (blocks : List Block) (n : Nat) : Prop := ∃ block ∈ blocks, block.Contains n

instance (blocks : List Block) (n : Nat) : Decidable (Within blocks n) := inferInstanceAs (Decidable (∃ _ ∈ _, _))

variable {block : Block} {blocks others : List Block} {n width k x : Nat}

@[simp] theorem within_nil : ¬ Within [] n := by simp [Within]

@[simp] theorem within_cons : Within (block :: blocks) n ↔ block.Contains n ∨ Within blocks n := by simp [Within]

theorem within_append : Within (blocks ++ others) n ↔ Within blocks n ∨ Within others n := by
  simp only [Within,List.mem_append,or_and_right,exists_or]

-- A mask with `width` ones above `k` zeros keeps the bits that name a block.
theorem mask_eq : x &&& ((2 ^ width - 1) <<< k) = (x / 2 ^ k % 2 ^ width) <<< k := by
  refine Nat.eq_of_testBit_eq fun i => ?_
  rw [Nat.testBit_and,Nat.testBit_shiftLeft,Nat.testBit_shiftLeft,← Nat.shiftRight_eq_div_pow,Nat.testBit_mod_two_pow,
    Nat.testBit_shiftRight,Nat.testBit_two_pow_sub_one]
  by_cases above : k ≤ i
  · simp [above,Bool.and_comm]
  · simp [above]

theorem mask_block (base : Nat) (bounded : x < 2 ^ (width + k)) :
    x &&& ((2 ^ width - 1) <<< k) = base <<< k ↔ (Block.mk base k).Contains x := by
  have small : x / 2 ^ k < 2 ^ width := by
    rw [Nat.div_lt_iff_lt_mul (Nat.two_pow_pos k),← Nat.pow_add]
    exact bounded
  rw [mask_eq,Nat.mod_eq_of_lt small,Nat.shiftLeft_eq,Nat.shiftLeft_eq,Block.Contains]
  exact Nat.mul_left_inj (Nat.two_pow_pos k).ne'

end AddressBlocks
