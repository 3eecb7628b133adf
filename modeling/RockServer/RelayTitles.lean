import Mathlib.Data.List.AList
import Mathlib.Order.Lattice

-- The last title of each station, for as many stations as fit.
namespace Relay

structure TitleSnapshot (T : Type) where
  rawTitle : String
  observedAt : T
  updatedAt : String

abbrev Titles (T : Type) : Type := AList fun _ : String => TitleSnapshot T

def maxTitles : Nat := 1024

variable {T : Type} [LinearOrder T]

-- The map is in no order, so any of the oldest titles may go.
inductive Publishes (titles : Titles T) (stationId : String) (snapshot : TitleSnapshot T) : Titles T → Prop
  | inserted : titles.keys.length < maxTitles ∨ stationId ∈ titles → Publishes titles stationId snapshot (titles.insert stationId snapshot)
  | evicted {oldest item} : maxTitles ≤ titles.keys.length → stationId ∉ titles → titles.lookup oldest = some item →
      (∀ other item', titles.lookup other = some item' → item.observedAt ≤ item'.observedAt) →
      Publishes titles stationId snapshot ((titles.erase oldest).insert stationId snapshot)

-- Publications of any relays, one after the other.
inductive Published : Titles T → List (String × TitleSnapshot T) → Titles T → Prop
  | nil {titles} : Published titles [] titles
  | cons {titles next last stationId snapshot published} : Publishes titles stationId snapshot next → Published next published last →
      Published titles ((stationId,snapshot) :: published) last

variable {titles next : Titles T} {stationId : String} {snapshot : TitleSnapshot T} {published : List (String × TitleSnapshot T)}

omit [LinearOrder T] in
theorem insert_size : (titles.insert stationId snapshot).keys.length =
    if stationId ∈ titles then titles.keys.length else titles.keys.length + 1 := by
  rw [AList.keys_insert,List.length_cons,List.length_erase]
  by_cases listed : stationId ∈ titles
  · have positive : 0 < titles.keys.length := List.length_pos_of_mem (AList.mem_keys.mp listed)
    rw [if_pos listed,if_pos (AList.mem_keys.mp listed)]
    omega
  · rw [if_neg listed,if_neg (mt AList.mem_keys.mpr listed)]

-- One publication keeps the size; it makes room first where there is none.
theorem Publishes.size (publishes : Publishes titles stationId snapshot next) (small : titles.keys.length ≤ maxTitles) :
    next.keys.length ≤ maxTitles := by
  cases publishes with
  | inserted room =>
    rw [insert_size]
    split
    · exact small
    · rename_i absent
      exact room.resolve_right absent
  | @evicted oldest item full absent found _ =>
    have listed : oldest ∈ titles.keys := AList.mem_keys.mp (AList.lookup_isSome.mp (found ▸ rfl))
    have positive : 0 < titles.keys.length := List.length_pos_of_mem listed
    have smaller : (titles.erase oldest).keys.length = titles.keys.length - 1 := by
      rw [AList.keys_erase,List.length_erase_of_mem listed]
    rw [insert_size,smaller]
    split
    · omega
    · omega

theorem Published.size (run : Published titles published next) (small : titles.keys.length ≤ maxTitles) :
    next.keys.length ≤ maxTitles := by
  induction run with
  | nil => exact small
  | cons publishes _ ih => exact ih (publishes.size small)

end Relay
