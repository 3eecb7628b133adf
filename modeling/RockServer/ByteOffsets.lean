import Mathlib.Data.List.Basic

-- Texts that are read through the offsets of their UTF-8 bytes. A slice is none
-- where the offset is inside a letter, which is where a slice panics.
namespace ByteOffsets

-- `&text[i..]`, which panics where no letter begins.
def sliceFrom : List Char → Nat → Option (List Char)
  | letters,0 => some letters
  | [],_ + 1 => none
  | c :: rest,i + 1 => if c.utf8Size ≤ i + 1 then sliceFrom rest (i + 1 - c.utf8Size) else none

-- `&text[..i]`
def sliceTo : List Char → Nat → Option (List Char)
  | _,0 => some []
  | [],_ + 1 => none
  | c :: rest,i + 1 => if c.utf8Size ≤ i + 1 then (sliceTo rest (i + 1 - c.utf8Size)).map (c :: ·) else none

-- `&text[i..j]`
def slice (letters : List Char) (i j : Nat) : Option (List Char) :=
  if i ≤ j then (sliceFrom letters i).bind fun rest => sliceTo rest (j - i) else none

def asBytes (letters : List Char) : List UInt8 := letters.flatMap String.utf8EncodeChar

-- `while i < bytes.len() && stays(bytes[i]) { i += 1 }`
def scan (bytes : List UInt8) (stays : UInt8 → Bool) (i : Nat) : Nat := i + ((bytes.drop i).takeWhile stays).length

variable {done mid rest letters : List Char} {c : Char} {i : Nat} {stays : UInt8 → Bool} {stay : Char → Bool}

theorem asBytes_append : asBytes (done ++ rest) = asBytes done ++ asBytes rest := List.flatMap_append

theorem asBytes_cons : asBytes (c :: rest) = String.utf8EncodeChar c ++ asBytes rest := List.flatMap_cons

theorem size_ascii : c.utf8Size = 1 ↔ c.toNat < 128 := by
  rw [Char.utf8Size_eq_one_iff,UInt32.le_iff_toNat_le]
  exact Nat.lt_succ_iff.symm

theorem size_cases : c.utf8Size = 1 ∨ 1 < c.utf8Size := by
  have positive := c.utf8Size_pos
  omega

theorem bytes_cons : (asBytes (c :: rest)).length = c.utf8Size + (asBytes rest).length := by
  rw [asBytes_cons,List.length_append,String.length_utf8EncodeChar]

theorem letters_bytes (letters : List Char) : letters.length ≤ (asBytes letters).length := by
  induction letters with
  | nil => exact Nat.le_refl _
  | cons c rest ih =>
    have positive := c.utf8Size_pos
    rw [bytes_cons,List.length_cons]
    omega

-- A slice at the end of some letters takes what follows them.
theorem sliceFrom_letters : sliceFrom (done ++ rest) (asBytes done).length = some rest := by
  induction done with
  | nil =>
    cases rest <;> rfl
  | cons c done ih =>
    have positive := c.utf8Size_pos
    rw [bytes_cons,List.cons_append]
    obtain ⟨n,size⟩ : ∃ n, c.utf8Size + (asBytes done).length = n + 1 := ⟨_,(Nat.succ_pred_eq_of_pos (by omega)).symm⟩
    rw [size,sliceFrom,if_pos (by omega),← size,Nat.add_sub_cancel_left]
    exact ih

theorem sliceFrom_inside (large : 1 < c.utf8Size) : sliceFrom (done ++ c :: rest) ((asBytes done).length + 1) = none := by
  induction done with
  | nil =>
    rw [asBytes,List.flatMap_nil,List.length_nil,List.nil_append,sliceFrom,if_neg (by omega)]
  | cons d done ih =>
    rw [bytes_cons,List.cons_append,sliceFrom,if_pos (by omega),
      show d.utf8Size + (asBytes done).length + 1 - d.utf8Size = (asBytes done).length + 1 by omega]
    exact ih

theorem sliceTo_letters : sliceTo (done ++ rest) (asBytes done).length = some done := by
  induction done with
  | nil =>
    cases rest <;> rfl
  | cons c done ih =>
    have positive := c.utf8Size_pos
    rw [bytes_cons,List.cons_append]
    obtain ⟨n,size⟩ : ∃ n, c.utf8Size + (asBytes done).length = n + 1 := ⟨_,(Nat.succ_pred_eq_of_pos (by omega)).symm⟩
    rw [size,sliceTo,if_pos (by omega),← size,Nat.add_sub_cancel_left,ih]
    rfl

theorem slice_letters : slice (done ++ (mid ++ rest)) (asBytes done).length (asBytes (done ++ mid)).length = some mid := by
  rw [slice,asBytes_append,List.length_append,if_pos (Nat.le_add_right _ _),sliceFrom_letters,Option.bind_some,
    Nat.add_sub_cancel_left]
  exact sliceTo_letters

theorem inside_letters : (asBytes done).length < (asBytes (done ++ c :: rest)).length := by
  have positive := c.utf8Size_pos
  rw [asBytes_append,List.length_append,bytes_cons]
  omega

theorem byte_after : (asBytes (done ++ rest))[(asBytes done).length]? = (asBytes rest).head? := by
  rw [asBytes_append,List.getElem?_append_right (Nat.le_refl _),Nat.sub_self,List.head?_eq_getElem?]

theorem ascii_bytes (small : c.toNat < 128) : String.utf8EncodeChar c = [c.toUInt8] := by
  rw [String.utf8EncodeChar_eq_singleton (size_ascii.mpr small),Char.toUInt8_val]

theorem ascii_value (small : c.toNat < 128) : c.toUInt8.toNat = c.toNat := by
  rw [Char.toUInt8,UInt32.toNat_toUInt8]
  exact Nat.mod_eq_of_lt (show c.toNat < 256 by omega)

theorem byte_ascii (small : c.toNat < 128) (inside : (asBytes done).length < (asBytes (done ++ c :: rest)).length) :
    Char.ofNat ((asBytes (done ++ c :: rest))[(asBytes done).length].toNat) = c := by
  have byte : (asBytes (done ++ c :: rest))[(asBytes done).length]? = some c.toUInt8 := by
    rw [byte_after,asBytes_cons,ascii_bytes small]
    rfl
  rw [List.getElem?_eq_getElem inside] at byte
  rw [Option.some.inj byte,ascii_value small,Char.ofNat_toNat]

-- No byte of another letter is an ASCII one.
theorem foreign_bytes (large : 128 ≤ c.toNat) : ∀ byte ∈ String.utf8EncodeChar c, 128 ≤ byte.toNat := by
  have value : c.val.toNat = c.toNat := rfl
  have above : ¬c.val.toNat ≤ 127 := by omega
  intro byte member
  simp only [String.utf8EncodeChar,if_neg above] at member
  split at member
  · simp only [List.mem_cons,List.not_mem_nil,or_false] at member
    rcases member with rfl | rfl <;> simp only [UInt8.toNat_ofNat'] <;> omega
  split at member
  · simp only [List.mem_cons,List.not_mem_nil,or_false] at member
    rcases member with rfl | rfl | rfl <;> simp only [UInt8.toNat_ofNat'] <;> omega
  · simp only [List.mem_cons,List.not_mem_nil,or_false] at member
    rcases member with rfl | rfl | rfl | rfl <;> simp only [UInt8.toNat_ofNat'] <;> omega

-- A test of bytes that tells letters apart: all bytes of a letter pass it, or
-- its first one does not.
def Reads (stays : UInt8 → Bool) (stay : Char → Bool) : Prop := ∀ c,
  (stay c = true → ∀ byte ∈ String.utf8EncodeChar c, stays byte = true) ∧
  (stay c = false → ∀ byte ∈ (String.utf8EncodeChar c).head?, stays byte = false)

theorem reads_ascii {high : Bool} (small : ∀ c : Char, c.toNat < 128 → stays c.toUInt8 = stay c)
    (bytes : ∀ byte : UInt8, 128 ≤ byte.toNat → stays byte = high) (letters : ∀ c : Char, 128 ≤ c.toNat → stay c = high) :
    Reads stays stay := by
  intro c
  rcases Nat.lt_or_ge c.toNat 128 with ascii | foreign
  · rw [ascii_bytes ascii]
    constructor
    · intro holds byte member
      rw [List.mem_singleton.mp member,small c ascii,holds]
    · intro fails byte member
      cases Option.mem_some.mp member
      rw [small c ascii,fails]
  · constructor
    · intro holds byte member
      rw [bytes byte (foreign_bytes foreign byte member),← letters c foreign,holds]
    · intro fails byte member
      have inside : byte ∈ String.utf8EncodeChar c := List.mem_of_mem_head? member
      rw [bytes byte (foreign_bytes foreign byte inside),← letters c foreign,fails]

theorem reads_table {high : Bool} (small : ∀ n < 128, stays (Char.ofNat n).toUInt8 = stay (Char.ofNat n))
    (bytes : ∀ byte : UInt8, 128 ≤ byte.toNat → stays byte = high) (letters : ∀ c : Char, 128 ≤ c.toNat → stay c = high) :
    Reads stays stay := by
  refine reads_ascii (fun c ascii => ?_) bytes letters
  have here := small c.toNat ascii
  rwa [Char.ofNat_toNat] at here

theorem foreign_ne {byte other : UInt8} (large : 128 ≤ byte.toNat) (small : other.toNat < 128) : (byte == other) = false := by
  rw [beq_eq_false_iff_ne]
  rintro rfl
  omega

-- The first byte tells an ASCII letter.
theorem head_ascii {mark : Char} (small : mark.toNat < 128) :
    (asBytes letters).head? = some mark.toUInt8 ↔ letters.head? = some mark := by
  cases letters with
  | nil => simp [asBytes]
  | cons c rest =>
    obtain ⟨first,others,bytes⟩ := List.exists_cons_of_ne_nil (@String.utf8EncodeChar_ne_nil c)
    rw [asBytes_cons,bytes,List.cons_append,List.head?_cons,List.head?_cons,Option.some.injEq,Option.some.injEq]
    rcases Nat.lt_or_ge c.toNat 128 with ascii | foreign
    · rw [ascii_bytes ascii] at bytes
      cases bytes
      constructor
      · intro same
        have value := congrArg UInt8.toNat same
        rw [ascii_value ascii,ascii_value small] at value
        rw [← Char.ofNat_toNat c,value,Char.ofNat_toNat]
      · rintro rfl
        rfl
    · have large := foreign_bytes foreign first (by rw [bytes]; exact List.mem_cons_self)
      constructor
      · intro same
        rw [same,ascii_value small] at large
        omega
      · rintro rfl
        omega

-- The loop stops between letters.
theorem scan_letters (reads : Reads stays stay) :
    scan (asBytes (done ++ rest)) stays (asBytes done).length = (asBytes (done ++ rest.takeWhile stay)).length := by
  have stopped : ((asBytes rest).takeWhile stays) = asBytes (rest.takeWhile stay) := by
    induction rest with
    | nil => rfl
    | cons c rest ih =>
      rw [asBytes_cons]
      cases holds : stay c with
      | true =>
        rw [List.takeWhile_append_of_pos ((reads c).1 holds),ih,List.takeWhile_cons_of_pos holds,asBytes_cons]
      | false =>
        obtain ⟨first,others,bytes⟩ := List.exists_cons_of_ne_nil (@String.utf8EncodeChar_ne_nil c)
        have fails := (reads c).2 holds first (by rw [bytes]; rfl)
        rw [bytes,List.cons_append,List.takeWhile_cons_of_neg (by simp [fails]),List.takeWhile_cons_of_neg (by simp [holds])]
        rfl
  rw [scan,asBytes_append,List.drop_left,stopped,asBytes_append,List.length_append]

end ByteOffsets
