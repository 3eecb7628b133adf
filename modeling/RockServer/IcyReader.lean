import Mathlib.Data.List.Basic

-- A cursor over the chunks of a transport.
namespace Relay

-- What the transport still has to give, before it ends or fails.
structure Source (α : Type) where
  chunks : List (List α)
  fails : Bool

structure Reader (α : Type) where
  source : Source α
  chunk : List α
  offset : Nat

variable {α : Type}

abbrev Read (α : Type) : Type := Except Unit (Option (List α)) × Reader α

namespace Reader

def new (source : Source α) : Reader α := ⟨source,[],0⟩

def fromIcy (source : Source α) (firstBody : List α) : Reader α := ⟨source,firstBody,0⟩

def slice (reader : Reader α) (limit : Nat) : Read α :=
  let till := min (reader.offset + limit) reader.chunk.length
  (.ok (some ((reader.chunk.take till).drop reader.offset)),{reader with offset := till})

-- An empty chunk is the end of the body. One that is not ends the loop.
def take (reader : Reader α) (limit : Nat) : Read α :=
  if reader.offset = reader.chunk.length then
    match reader.source.chunks with
    | [] => if reader.source.fails then (.error (),reader) else (.ok none,⟨reader.source,[],0⟩)
    | [] :: chunks => (.ok none,⟨⟨chunks,reader.source.fails⟩,[],0⟩)
    | chunk :: chunks => slice ⟨⟨chunks,reader.source.fails⟩,chunk,0⟩ limit
  else reader.slice limit

-- The loop of `exact`, for so many turns.
def exactLoop : Nat → Reader α → Nat → List α → Option (Read α)
  | 0,_,_,_ => none
  | turns + 1,reader,len,result =>
    if result.length < len then
      match reader.take (len - result.length) with
      | (.ok (some bytes),reader) => exactLoop turns reader len (result ++ bytes)
      | (.ok none,reader) => some (.ok none,reader)
      | (.error (),reader) => some (.error (),reader)
    else some (.ok (some result),reader)

def exact (reader : Reader α) (len : Nat) : Option (Read α) := exactLoop (len + 1) reader len []

-- The bytes that a reader has not given yet.
def unread (reader : Reader α) : List α := reader.chunk.drop reader.offset ++ reader.source.chunks.flatten

-- The transport gives no empty chunk.
structure Sound (reader : Reader α) : Prop where
  inside : reader.offset ≤ reader.chunk.length
  full : ∀ chunk ∈ reader.source.chunks, chunk ≠ []

-- What a read past the last byte answers.
def atEnd (reader : Reader α) : Except Unit (Option (List α)) := if reader.source.fails then .error () else .ok none

-- A read has given these bytes and left a reader of what comes after them.
structure Gave (reader : Reader α) (bytes : List α) (next : Reader α) : Prop where
  sound : next.Sound
  unread : reader.unread = bytes ++ next.unread
  atEnd : next.atEnd = reader.atEnd

variable {reader next last : Reader α} {limit len : Nat} {bytes more : List α}

theorem atEnd_cases (reader : Reader α) : reader.atEnd = .error () ∨ reader.atEnd = .ok none := by
  unfold atEnd
  cases reader.source.fails with
  | true => exact .inl rfl
  | false => exact .inr rfl

theorem Gave.nothing (sound : reader.Sound) : Gave reader [] reader := ⟨sound,rfl,rfl⟩

theorem Gave.andThen (first : Gave reader bytes next) (second : Gave next more last) : Gave reader (bytes ++ more) last where
  sound := second.sound
  unread := by rw [first.unread,second.unread,List.append_assoc]
  atEnd := second.atEnd.trans first.atEnd

theorem slice_gave (sound : reader.Sound) (some_left : reader.offset < reader.chunk.length) (positive : 0 < limit) :
    ∃ bytes next, reader.slice limit = (.ok (some bytes),next) ∧ Gave reader bytes next ∧ bytes ≠ [] ∧ bytes.length ≤ limit := by
  have till : min (reader.offset + limit) reader.chunk.length = reader.offset + min limit (reader.chunk.length - reader.offset) := by omega
  have cut : (reader.chunk.take (min (reader.offset + limit) reader.chunk.length)).drop reader.offset =
      (reader.chunk.drop reader.offset).take (min limit (reader.chunk.length - reader.offset)) := by
    rw [till,List.drop_take,Nat.add_sub_cancel_left]
  refine ⟨_,_,rfl,⟨⟨Nat.min_le_right _ _,sound.full⟩,?_,rfl⟩,?_,?_⟩
  · rw [cut]
    change reader.chunk.drop reader.offset ++ _ = _ ++ (reader.chunk.drop (min (reader.offset + limit) reader.chunk.length) ++ _)
    rw [till,← List.drop_drop,← List.append_assoc,List.take_append_drop]
  · intro empty
    have length := congrArg List.length empty
    rw [cut,List.length_take,List.length_drop,List.length_nil] at length
    omega
  · rw [cut,List.length_take,List.length_drop]
    omega

-- A read gives some of the bytes that are left, or there are none.
theorem take_gave (sound : reader.Sound) (positive : 0 < limit) :
    (reader.unread = [] ∧ ∃ next, reader.take limit = (reader.atEnd,next)) ∨
      ∃ bytes next, reader.take limit = (.ok (some bytes),next) ∧ Gave reader bytes next ∧ bytes ≠ [] ∧ bytes.length ≤ limit := by
  unfold take
  by_cases spent : reader.offset = reader.chunk.length
  · rw [if_pos spent]
    have rest : reader.unread = reader.source.chunks.flatten := by
      rw [unread,spent,List.drop_length,List.nil_append]
    cases left : reader.source.chunks with
    | nil =>
      refine .inl ⟨by rw [rest,left]; rfl,?_⟩
      cases fails : reader.source.fails with
      | true => exact ⟨reader,by rw [atEnd,fails]; rfl⟩
      | false => exact ⟨_,by rw [atEnd,fails]; rfl⟩
    | cons chunk chunks =>
      have full : chunk ≠ [] := sound.full chunk (left ▸ List.mem_cons_self)
      obtain ⟨byte,others,rfl⟩ := List.exists_cons_of_ne_nil full
      have fresh : Sound ⟨⟨chunks,reader.source.fails⟩,byte :: others,0⟩ :=
        ⟨Nat.zero_le _,fun chunk listed => sound.full chunk (left ▸ List.mem_cons_of_mem _ listed)⟩
      obtain ⟨bytes,next,sliced,gave,some_bytes,few⟩ := slice_gave fresh (Nat.succ_pos _) positive
      refine .inr ⟨bytes,next,sliced,⟨gave.sound,?_,gave.atEnd⟩,some_bytes,few⟩
      rw [rest,left]
      exact gave.unread
  · rw [if_neg spent]
    exact .inr (slice_gave sound (Nat.lt_of_le_of_ne sound.inside spent) positive)

theorem exactLoop_gave {turns : Nat} {result : List α} (sound : reader.Sound) (some_turns : len - result.length < turns)
    (short : result.length ≤ len) : if len - result.length ≤ reader.unread.length then
      ∃ bytes next, exactLoop turns reader len result = some (.ok (some (result ++ bytes)),next) ∧ Gave reader bytes next ∧
        bytes.length = len - result.length
    else ∃ next, exactLoop turns reader len result = some (reader.atEnd,next) := by
  induction turns generalizing reader result with
  | zero => exact absurd some_turns (Nat.not_lt_zero _)
  | succ turns ih =>
    rw [exactLoop]
    by_cases missing : result.length < len
    · rw [if_pos missing]
      rcases take_gave sound (Nat.sub_pos_of_lt missing) with ⟨empty,next,taken⟩ | ⟨bytes,next,taken,gave,some_bytes,few⟩
      · rw [if_neg (by rw [empty,List.length_nil]; omega),taken]
        rcases atEnd_cases reader with failed | ended
        · exact ⟨next,by rw [failed]⟩
        · exact ⟨next,by rw [ended]⟩
      · rw [taken]
        have positive : 0 < bytes.length := List.length_pos_iff.mpr some_bytes
        have size : reader.unread.length = bytes.length + next.unread.length := by rw [gave.unread,List.length_append]
        have total : (result ++ bytes).length = result.length + bytes.length := List.length_append
        have rest := @ih next (result ++ bytes) gave.sound (by omega) (by omega)
        dsimp only
        by_cases enough : len - result.length ≤ reader.unread.length
        · rw [if_pos (by omega)] at rest
          obtain ⟨more,last,looped,gave',length⟩ := rest
          rw [if_pos enough]
          refine ⟨bytes ++ more,last,?_,gave.andThen gave',?_⟩
          · rw [looped,List.append_assoc]
          · rw [List.length_append]
            omega
        · rw [if_neg (by omega)] at rest
          rw [if_neg enough,← gave.atEnd]
          exact rest
    · have whole : len - result.length = 0 := by omega
      rw [if_neg missing,whole,if_pos (Nat.zero_le _)]
      exact ⟨[],reader,by rw [List.append_nil],Gave.nothing sound,rfl⟩

-- An exact read gives as many bytes as it is asked for, or there are fewer left.
theorem exact_gave (sound : reader.Sound) (len : Nat) : if len ≤ reader.unread.length then
    ∃ bytes next, reader.exact len = some (.ok (some bytes),next) ∧ Gave reader bytes next ∧ bytes.length = len
    else ∃ next, reader.exact len = some (reader.atEnd,next) := by
  have looped := @exactLoop_gave _ reader len (len + 1) [] sound (Nat.lt_succ_self len) (Nat.zero_le _)
  simpa only [exact,List.length_nil,Nat.sub_zero,List.nil_append] using looped

end Reader

end Relay
