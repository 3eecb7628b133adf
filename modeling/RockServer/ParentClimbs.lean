import Mathlib.Data.Finset.Card
import Mathlib.Logic.Relation

-- Climbs from parent to parent over a partial function that may run in circles:
-- one ends at a root, or at a parent it has been to.
namespace ParentClimbs

variable {α : Type} (next : α → Option α)

def reach : Nat → α → Option α
  | 0,a => some a
  | n + 1,a => (next a).bind (reach n)

def Ancestor (a b : α) : Prop := Relation.TransGen (fun below above => next below = some above) a b

-- After so many steps, and not after fewer.
def FirstAt (a b : α) (n : Nat) : Prop := reach next n a = some b ∧ ∀ m, 0 < m → m < n → reach next m a ≠ some b

section steps
variable {next : α → Option α} {a b : α}

theorem ancestor_reached : ∀ {n : Nat} {a : α}, reach next (n + 1) a = some b → Ancestor next a b
  | 0,a,reached => by
    obtain ⟨parent,found,same⟩ := Option.bind_eq_some_iff.mp reached
    cases same
    exact .single found
  | n + 1,a,reached => by
    obtain ⟨parent,found,later⟩ := Option.bind_eq_some_iff.mp reached
    exact .head found (ancestor_reached later)

end steps

variable [DecidableEq α]

inductive Climbs : Finset α → α → List α → Prop where
  | root {visited : Finset α} {a : α} : next a = none → Climbs visited a []
  | met {visited : Finset α} {a b : α} : next a = some b → b ∈ visited → Climbs visited a []
  | up {visited : Finset α} {a b : α} {rest : List α} : next a = some b → b ∉ visited → Climbs (insert b visited) b rest →
      Climbs visited a (b :: rest)

variable {next : α → Option α} {visited : Finset α} {a b : α} {climbed others : List α}

theorem climbs_unique (climbs : Climbs next visited a climbed) (again : Climbs next visited a others) : climbed = others := by
  induction climbs generalizing others with
  | root none =>
    cases again with
    | root => rfl
    | met found => cases none.symm.trans found
    | up found => cases none.symm.trans found
  | met found listed =>
    cases again with
    | root none => cases none.symm.trans found
    | met => rfl
    | up found' fresh =>
      cases found.symm.trans found'
      exact absurd listed fresh
  | up found fresh _ ih =>
    cases again with
    | root none => cases none.symm.trans found
    | met found' listed =>
      cases found.symm.trans found'
      exact absurd listed fresh
    | up found' _ rest =>
      cases found.symm.trans found'
      rw [ih rest]

theorem climbs_fresh (climbs : Climbs next visited a climbed) : ∀ b ∈ climbed, b ∉ visited := by
  induction climbs with
  | root | met => simp
  | up found fresh rest ih =>
    intro c listed
    rcases List.mem_cons.mp listed with rfl | listed
    · exact fresh
    · exact fun met => ih c listed (Finset.mem_insert_of_mem met)

theorem climbs_distinct (climbs : Climbs next visited a climbed) : climbed.Nodup := by
  induction climbs with
  | root | met => exact List.nodup_nil
  | up found fresh rest ih =>
    rw [List.nodup_cons]
    exact ⟨fun listed => climbs_fresh rest _ listed (Finset.mem_insert_self _ _),ih⟩

theorem climbs_steps (climbs : Climbs next visited a climbed) {i : Nat} (at_i : climbed[i]? = some b) :
    reach next (i + 1) a = some b := by
  induction climbs generalizing i with
  | root | met => simp at at_i
  | @up visited a parent rest found fresh climbs ih =>
    rw [reach,found,Option.bind_some]
    cases i with
    | zero => simpa [reach] using at_i
    | succ i => exact ih (by simpa using at_i)

theorem climbs_first (climbs : Climbs next visited a climbed) {i : Nat} (at_i : climbed[i]? = some b) : FirstAt next a b (i + 1) := by
  refine ⟨climbs_steps climbs at_i,fun m positive earlier again => ?_⟩
  obtain ⟨inside,_⟩ := List.getElem?_eq_some_iff.mp at_i
  obtain ⟨m,rfl⟩ : ∃ k, m = k + 1 := ⟨m - 1,by omega⟩
  have before : climbed[m]? = some climbed[m] := List.getElem?_eq_getElem (by omega)
  rw [climbs_steps climbs before] at again
  have same : m = i := (List.getElem?_inj (by omega) (climbs_distinct climbs)).mp (by rw [before,at_i,again])
  omega

-- What the climb has visited and what is still to come hold the parent of each of
-- their own.
theorem climbs_closed (climbs : Climbs next visited a climbed)
    (behind : ∀ b ∈ visited, b = a ∨ ∀ parent, next b = some parent → parent ∈ visited) :
    ∀ b, b = a ∨ b ∈ visited ∨ b ∈ climbed → ∀ parent, next b = some parent → parent ∈ visited ∨ parent ∈ climbed := by
  induction climbs with
  | @root visited a none =>
    intro b placed parent found
    rcases placed with rfl | listed | listed
    · cases none.symm.trans found
    · rcases behind b listed with rfl | closed
      · cases none.symm.trans found
      · exact .inl (closed parent found)
    · cases listed
  | @met visited a met found listed =>
    intro b placed parent onward
    rcases placed with rfl | there | there
    · cases found.symm.trans onward
      exact .inl listed
    · rcases behind b there with rfl | closed
      · cases found.symm.trans onward
        exact .inl listed
      · exact .inl (closed parent onward)
    · cases there
  | @up visited a above rest found fresh climbs ih =>
    have behind' : ∀ b ∈ insert above visited, b = above ∨ ∀ parent, next b = some parent → parent ∈ insert above visited := by
      intro b listed
      rcases Finset.mem_insert.mp listed with rfl | listed
      · exact .inl rfl
      · refine .inr fun parent onward => ?_
        rcases behind b listed with rfl | closed
        · cases found.symm.trans onward
          exact Finset.mem_insert_self _ _
        · exact Finset.mem_insert_of_mem (closed parent onward)
    intro b placed parent onward
    by_cases start : b = a
    · subst start
      cases found.symm.trans onward
      exact .inr List.mem_cons_self
    · have placed' : b = above ∨ b ∈ insert above visited ∨ b ∈ rest := by
        rcases placed with same | listed | listed
        · exact absurd same start
        · exact .inr (.inl (Finset.mem_insert_of_mem listed))
        · rcases List.mem_cons.mp listed with same | listed
          · exact .inl same
          · exact .inr (.inr listed)
      rcases ih behind' b placed' parent onward with listed | listed
      · rcases Finset.mem_insert.mp listed with rfl | listed
        · exact .inr List.mem_cons_self
        · exact .inl listed
      · exact .inr (List.mem_cons_of_mem _ listed)

theorem climbs_exact (climbs : Climbs next ∅ a climbed) : b ∈ climbed ↔ Ancestor next a b := by
  constructor
  · intro listed
    obtain ⟨i,inside,rfl⟩ := List.mem_iff_getElem.mp listed
    exact ancestor_reached (climbs_steps climbs (List.getElem?_eq_getElem inside))
  · intro above
    have closed := climbs_closed climbs (by simp)
    induction above with
    | single found => simpa using closed a (.inl rfl) _ found
    | tail _ found ih => simpa using closed _ (.inr (.inr ih)) _ found

end ParentClimbs
